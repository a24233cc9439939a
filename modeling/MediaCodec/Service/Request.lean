/-
Requests — the operations of a service as values.

A caller that chooses its operations while it runs needs them as data: what is asked, and
what comes back.  Every operation has a public name, and no two have the same.
-/

import MediaCodec.Service

namespace MediaCodec

/-- What a caller can ask of a service, apart from its input. -/
inductive Request
  | audioToPcm
  | audioToPcmChunks
  | silkDecode
  | silkDecodeChunks
  | silkEncode
  | silkEncodeChunks
  | videoFirstFrame
  | videoGetSize
  | audioToMonoPcm
  | silkDecodePcm
  | encodeVoice
  | videoPreview
  deriving DecidableEq, Repr

/-- What a service hands back. -/
inductive Product
  | bytes (b : Bytes)
  | stream (s : ChunkStream)
  | metadata (m : VideoMetadata)
  | pcm (p : PcmAudio)
  | voice (v : VoiceRecord)
  | preview (p : VideoPreview)
  deriving DecidableEq, Repr

namespace Request

def all : List Request :=
  [audioToPcm, audioToPcmChunks, silkDecode, silkDecodeChunks, silkEncode, silkEncodeChunks,
   videoFirstFrame, videoGetSize, audioToMonoPcm, silkDecodePcm, encodeVoice, videoPreview]

def name : Request → String
  | audioToPcm => "audio_to_pcm"
  | audioToPcmChunks => "audio_to_pcm_chunks"
  | silkDecode => "silk_decode"
  | silkDecodeChunks => "silk_decode_chunks"
  | silkEncode => "silk_encode"
  | silkEncodeChunks => "silk_encode_chunks"
  | videoFirstFrame => "video_first_frame"
  | videoGetSize => "video_get_size"
  | audioToMonoPcm => "audio_to_mono_pcm"
  | silkDecodePcm => "silk_decode_pcm"
  | encodeVoice => "encode_voice"
  | videoPreview => "video_preview"

/-- The request with a public name. -/
def ofName? (n : String) : Option Request := all.find? fun r => r.name == n

theorem ofName?_name (r : Request) : ofName? r.name = some r := by
  cases r <;> decide

theorem eq_of_name_eq {r r' : Request} (h : r.name = r'.name) : r = r' := by
  have hfound := r.ofName?_name
  rw [h, r'.ofName?_name] at hfound
  exact (Option.some.inj hfound).symm

def perform (s : Service) (input : Buffer) : Request → Run ServiceError Product
  | audioToPcm => return .bytes (← s.audioToPcm input)
  | audioToPcmChunks => return .stream (← s.audioToPcmChunks input)
  | silkDecode => return .bytes (← s.silkDecode input)
  | silkDecodeChunks => return .stream (← s.silkDecodeChunks input)
  | silkEncode => return .bytes (← s.silkEncode input)
  | silkEncodeChunks => return .stream (← s.silkEncodeChunks input)
  | videoFirstFrame => return .bytes (← s.videoFirstFrame input)
  | videoGetSize => return .metadata (← s.videoGetSize input)
  | audioToMonoPcm => return .pcm (← s.audioToMonoPcm input)
  | silkDecodePcm => return .pcm (← s.silkDecodePcm input)
  | encodeVoice => return .voice (← s.encodeVoice input)
  | videoPreview => return .preview (← s.videoPreview input)

end Request

end MediaCodec
