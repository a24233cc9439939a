/-
Media — what the codec's operations produce.

Metadata of a video is a record of three words, in the order and widths in which a codec
writes them.  PCM is signed, of 16 bits, with one channel; its length in time is computed in
words of 64 bits, which is exact for every buffer that a C `int` can describe.
-/

import MediaCodec.Bytes
import MediaCodec.Json.Shape
import MediaCodec.Text.Numeral

namespace MediaCodec

/-! ## Spans of time -/

/-- A span of time, in nanoseconds. -/
structure Duration where
  nanos : Nat
  deriving DecidableEq, Repr

namespace Duration

def zero : Duration := ⟨0⟩

def ofMillis (n : Nat) : Duration := ⟨n * 1000000⟩

def ofMicros (n : Nat) : Duration := ⟨n * 1000⟩

def seconds (d : Duration) : Nat := d.nanos / 1000000000

/-- The nanoseconds beyond the whole seconds. -/
def subsecond (d : Duration) : Nat := d.nanos % 1000000000

def millis (d : Duration) : Nat := d.nanos / 1000000

end Duration

/-! ## Video -/

/-- Width and height in pixels and the duration in milliseconds. -/
structure VideoMetadata where
  width : UInt32 := 0
  height : UInt32 := 0
  duration : UInt64 := 0
  deriving DecidableEq, Repr

namespace VideoMetadata

/-- The duration as a span of time. -/
def length (m : VideoMetadata) : Duration := .ofMillis m.duration.toNat

/-- Whether no frame dimensions are known. -/
def isEmpty (m : VideoMetadata) : Bool := m.width == 0 || m.height == 0

/-- The fields of the JSON form, in the order of an array. -/
def fields : List String := ["width", "height", "duration"]

def ofJson? (v : Json) : Option VideoMetadata := do
  let row ← Json.row? fields v
  let width ← row.required 0 (Json.count? (Nat.pow 2 32 - 1))
  let height ← row.required 1 (Json.count? (Nat.pow 2 32 - 1))
  let duration ← row.required 2 (Json.count? Text.maxWord)
  pure ⟨.ofNat width, .ofNat height, .ofNat duration⟩

def toJson (m : VideoMetadata) : Json :=
  .obj
    [("width", .nat m.width.toNat), ("height", .nat m.height.toNat),
     ("duration", .nat m.duration.toNat)]

end VideoMetadata

/-- Metadata of a video with its first frame as an encoded image. -/
structure VideoPreview where
  metadata : VideoMetadata
  firstFrame : Bytes
  deriving DecidableEq, Repr

namespace VideoPreview

def length (p : VideoPreview) : Duration := p.metadata.length

/-- The JSON value; the frame is left out. -/
def toJson (p : VideoPreview) : Json := .obj [("metadata", p.metadata.toJson)]

end VideoPreview

/-! ## Audio -/

/-- Signed PCM of 16 bits with one channel, at a sample rate. -/
structure PcmAudio where
  data : Bytes
  sampleRate : UInt32
  deriving DecidableEq, Repr

namespace PcmAudio

/-- The sample rate that the codec works at. -/
def nativeRate : UInt32 := 24000

/-- PCM at the codec's own rate. -/
def native (data : Bytes) : PcmAudio := ⟨data, nativeRate⟩

/-- The number of whole samples. -/
def sampleCount (p : PcmAudio) : Nat := p.data.length / 2

/-- The length in microseconds of a number of samples at a rate that is not zero. -/
def micros (samples : Nat) (rate : UInt32) : UInt64 :=
  UInt64.ofNat samples * 1000000 / rate.toUInt64

/-- The length in time; an odd byte at the end does not count, and a zero rate has none. -/
def duration (p : PcmAudio) : Duration :=
  if p.sampleRate = 0 then .zero else .ofMicros (micros p.sampleCount p.sampleRate).toNat

end PcmAudio

/-- A voice message in SILK and its length in time. -/
structure VoiceRecord where
  silk : Bytes
  duration : Duration
  deriving DecidableEq, Repr

end MediaCodec
