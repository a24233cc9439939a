/-
Background services — a service whose operations run on threads of their own.

A caller that must not be held up asks a background service.  Each of its methods takes over its
input, runs the method of the same name on a thread of its own, and answers with what becomes of
it.  The service behind it is shared with everyone who has it, and can be had back; closing goes
through that one.

Some operations of a service are not offered in the background.  Those that are have the names
that they have in the service.
-/

import MediaCodec.Service.Request

namespace MediaCodec

/-- A service for callers that must not be held up. -/
structure BackgroundService where
  inner : Service

namespace BackgroundService

/-- The service behind it, whose methods hold their callers up. -/
def blocking (b : BackgroundService) : Service := b.inner

/-- Runs an operation of the service behind as a task of its own. -/
def run (b : BackgroundService) (call : Service → Run ServiceError α) : Run ServiceError α :=
  Service.background (call b.inner)

def audioToPcm (b : BackgroundService) (input : Buffer) : Run ServiceError Bytes :=
  b.run fun s => s.audioToPcm input

def silkDecode (b : BackgroundService) (input : Buffer) : Run ServiceError Bytes :=
  b.run fun s => s.silkDecode input

def silkEncode (b : BackgroundService) (input : Buffer) : Run ServiceError Bytes :=
  b.run fun s => s.silkEncode input

def silkEncodeChunks (b : BackgroundService) (input : Buffer) : Run ServiceError ChunkStream :=
  b.run fun s => s.silkEncodeChunks input

def videoFirstFrame (b : BackgroundService) (input : Buffer) : Run ServiceError Bytes :=
  b.run fun s => s.videoFirstFrame input

def videoGetSize (b : BackgroundService) (input : Buffer) : Run ServiceError VideoMetadata :=
  b.run fun s => s.videoGetSize input

def audioToMonoPcm (b : BackgroundService) (input : Buffer) : Run ServiceError PcmAudio :=
  b.run fun s => s.audioToMonoPcm input

def encodeVoice (b : BackgroundService) (input : Buffer) : Run ServiceError VoiceRecord :=
  b.run fun s => s.encodeVoice input

def videoPreview (b : BackgroundService) (input : Buffer) : Run ServiceError VideoPreview :=
  b.run fun s => s.videoPreview input

end BackgroundService

/-- What a caller can ask of a background service, apart from its input. -/
inductive Task
  | audioToPcm
  | silkDecode
  | silkEncode
  | silkEncodeChunks
  | videoFirstFrame
  | videoGetSize
  | audioToMonoPcm
  | encodeVoice
  | videoPreview
  deriving DecidableEq, Repr

namespace Task

def all : List Task :=
  [audioToPcm, silkDecode, silkEncode, silkEncodeChunks, videoFirstFrame, videoGetSize,
   audioToMonoPcm, encodeVoice, videoPreview]

def name : Task → String
  | audioToPcm => "audio_to_pcm"
  | silkDecode => "silk_decode"
  | silkEncode => "silk_encode"
  | silkEncodeChunks => "silk_encode_chunks"
  | videoFirstFrame => "video_first_frame"
  | videoGetSize => "video_get_size"
  | audioToMonoPcm => "audio_to_mono_pcm"
  | encodeVoice => "encode_voice"
  | videoPreview => "video_preview"

/-- The task with a public name. -/
def ofName? (n : String) : Option Task := all.find? fun t => t.name == n

def perform (b : BackgroundService) (input : Buffer) : Task → Run ServiceError Product
  | audioToPcm => return .bytes (← b.audioToPcm input)
  | silkDecode => return .bytes (← b.silkDecode input)
  | silkEncode => return .bytes (← b.silkEncode input)
  | silkEncodeChunks => return .stream (← b.silkEncodeChunks input)
  | videoFirstFrame => return .bytes (← b.videoFirstFrame input)
  | videoGetSize => return .metadata (← b.videoGetSize input)
  | audioToMonoPcm => return .pcm (← b.audioToMonoPcm input)
  | encodeVoice => return .voice (← b.encodeVoice input)
  | videoPreview => return .preview (← b.videoPreview input)

end Task

end MediaCodec
