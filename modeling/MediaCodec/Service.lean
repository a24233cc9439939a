/-
Services — the operations that callers use.

Each operation of the codec is offered twice, as a stream of chunks and as the joined bytes,
and there are compositions on top: audio with its sample rate, a voice message, and a preview
of a video.  A voice message may start from any audio; where the codec cannot decode it, the
input is taken for PCM already.  Only a failure that the codec itself reports counts as
"cannot decode": a refused input or a closed codec fails the whole operation.

An operation may also run in the background, on a thread of its own.  It is the same
operation; only a panic in it becomes an error of the caller.
-/

import MediaCodec.Dispatcher
import MediaCodec.Opening

namespace MediaCodec

/-- The part of the log that services speak as. -/
def serviceTarget : String := "core_service::service"

namespace Service

/-- The span around an operation. -/
def span (name : String) (input : Buffer) : Span :=
  { name
    target := serviceTarget
    level := .info
    fields := [("input_len", .unsigned input.length)] }

/-- Closes the codec; all copies of the service see it closed. -/
def close (s : Service) : Run ε Bool := s.handle.close

/-! ## The operations of the codec -/

def dispatch (s : Service) (op : Streaming) (input : Buffer) : Run ServiceError ChunkStream :=
  Run.within (span (op.operation.symbol ++ "_chunks") input)
    (Run.mapError .codec (s.dispatcher.dispatchChunks op.operation (.ofBuffer input)))

/-- Decodes any supported audio to PCM, in chunks. -/
def audioToPcmChunks (s : Service) (input : Buffer) : Run ServiceError ChunkStream :=
  s.dispatch .audioToPcm input

/-- Decodes SILK to PCM, in chunks. -/
def silkDecodeChunks (s : Service) (input : Buffer) : Run ServiceError ChunkStream :=
  s.dispatch .silkDecode input

/-- Encodes PCM to SILK, in chunks. -/
def silkEncodeChunks (s : Service) (input : Buffer) : Run ServiceError ChunkStream :=
  s.dispatch .silkEncode input

/-- Decodes any supported audio to PCM. -/
def audioToPcm (s : Service) (input : Buffer) : Run ServiceError Bytes := do
  let stream ← s.audioToPcmChunks input
  return stream.concat

def silkDecode (s : Service) (input : Buffer) : Run ServiceError Bytes := do
  let stream ← s.silkDecodeChunks input
  return stream.concat

def silkEncode (s : Service) (input : Buffer) : Run ServiceError Bytes := do
  let stream ← s.silkEncodeChunks input
  return stream.concat

/-- Extracts the first frame of a video as an encoded image. -/
def videoFirstFrame (s : Service) (input : Buffer) : Run ServiceError Bytes :=
  Run.within (span Operation.videoFirstFrame.symbol input)
    (Run.mapError .codec (s.dispatcher.firstFrame (.ofBuffer input)))

/-- Reads width, height and duration of a video. -/
def videoGetSize (s : Service) (input : Buffer) : Run ServiceError VideoMetadata :=
  Run.within (span Operation.videoGetSize.symbol input)
    (Run.mapError .codec (s.dispatcher.videoSize (.ofBuffer input)))

/-! ## Compositions -/

/-- Decodes any supported audio to PCM at the codec's own rate. -/
def audioToMonoPcm (s : Service) (input : Buffer) : Run ServiceError PcmAudio := do
  let data ← s.audioToPcm input
  return .native data

/-- Decodes SILK to PCM at the codec's own rate. -/
def silkDecodePcm (s : Service) (input : Buffer) : Run ServiceError PcmAudio := do
  let data ← s.silkDecode input
  return .native data

/-- The PCM behind an input: decoded if the codec can decode it, and else the input itself. -/
def pcmBehind (s : Service) (input : Buffer) : Run ServiceError PcmAudio := do
  match ← Run.attempt (s.audioToPcm input) with
  | .ok data => return .native data
  | .error (.codec (.backend _ code _)) =>
    Run.event
      (.say serviceTarget .warn "Audio decode failed, encoding input as raw PCM"
        [("code", .signed code.toInt)])
    return .native input.toBytes
  | .error e => Run.fail e
  | .panic => Run.panic

/-- Encodes a voice message to SILK. -/
def encodeVoice (s : Service) (input : Buffer) : Run ServiceError VoiceRecord :=
  Run.within (span "encode_voice" input) do
    let pcm ← s.pcmBehind input
    let silk ← s.silkEncode (.ofBytes pcm.data)
    Run.event
      (.say serviceTarget .debug "Voice encoded"
        [("silk_bytes", .unsigned silk.length), ("duration_ms", .unsigned pcm.duration.millis)])
    return ⟨silk, pcm.duration⟩

/-- Probes a video and extracts its first frame. -/
def videoPreview (s : Service) (input : Buffer) : Run ServiceError VideoPreview := do
  let metadata ← s.videoGetSize input
  let frame ← s.videoFirstFrame input
  return ⟨metadata, frame⟩

/-! ## In the background -/

/-- Runs an operation as a task of its own; a panic ends the task and nothing else. -/
def background (r : Run ServiceError α) : Run ServiceError α := do
  match ← Run.attempt (Run.onNewThread r) with
  | .ok a => return a
  | .error e => Run.fail e
  | .panic => Run.fail .task

end Service

end MediaCodec
