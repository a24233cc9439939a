/-
Native libraries — codecs that were compiled elsewhere and are called through C.

A native export knows nothing of chunks.  A streaming one calls back as often as it likes,
each time with a pointer for its user, a pointer to data and a length; any of them may be
useless.  Only what carries the given user pointer, points to data and has a positive length
is a chunk, and all else is passed over.  The export for a frame leaves a pointer and a size
behind, which mean something only after a success.

The receiver of chunks is code of the host and may panic.  A panic must not cross the
library's frames, so it is caught at once; the rest of the stream is dropped, and a success
of the library then counts as a failure.
-/

import MediaCodec.Backend
import MediaCodec.Bytes
import MediaCodec.Run

namespace MediaCodec

/-- The part of the log that native libraries speak as. -/
def nativeTarget : String := "bridge_desktop::native::library"

/-! ## What exports do -/

/-- One call of the chunk callback by a native export. -/
structure CallbackInvocation where
  /-- Whether the user pointer is the one that the export was given. -/
  forUser : Bool
  /-- What the data pointer points to; nothing if it is null. -/
  data : Option Bytes
  length : Int32
  deriving DecidableEq, Repr

/-- The chunk that a call of the callback carries, if it carries one. -/
def CallbackInvocation.payload? (i : CallbackInvocation) : Option Bytes :=
  match i.data with
  | none => none
  | some b => if i.forUser && 0 < i.length then some (b.take i.length.toInt.toNat) else none

/-- What the frame export leaves behind. -/
structure FrameReply where
  /-- What the frame pointer points to; nothing if it is null. -/
  data : Option Bytes
  size : Int32
  status : Status
  deriving DecidableEq, Repr

/-- The frame of a reply, if it has one. -/
def FrameReply.payload? (r : FrameReply) : Option Bytes :=
  match r.data with
  | none => none
  | some b => if r.status = Status.ok ∧ 0 < r.size then some (b.take r.size.toInt.toNat) else none

/-- What the metadata export writes. -/
structure SizeReply where
  width : Option UInt32
  height : Option UInt32
  duration : Option UInt64
  status : Status
  deriving DecidableEq, Repr

/-- A streaming export; what it does may depend on the calls made before. -/
abbrev StreamExport := List Call → Bytes → List CallbackInvocation × Status

/-- An export that leaves a frame behind. -/
abbrev FrameExport := List Call → Bytes → FrameReply

/-- An export that writes metadata. -/
abbrev SizeExport := List Call → Bytes → SizeReply

/-- The entry points of a library, one per operation. -/
structure Exports where
  audioToPcm : StreamExport
  silkDecode : StreamExport
  silkEncode : StreamExport
  videoFirstFrame : FrameExport
  videoGetSize : SizeExport

/-- The entry point of a streaming operation. -/
def Exports.stream (e : Exports) : Streaming → StreamExport
  | .audioToPcm => e.audioToPcm
  | .silkDecode => e.silkDecode
  | .silkEncode => e.silkEncode

structure NativeLibrary where
  path : Path
  exports : Exports

/-! ## The receiver of chunks -/

/-- A receiver of chunks: whether its call of the given number, from one on, panics. -/
def Sink := Nat → Bytes → Bool

/-- A receiver that never panics. -/
def Sink.calm : Sink := fun _ _ => false

/-- What a receiver has got during one native call. -/
structure Receipt where
  kept : Array Bytes := #[]
  /-- How often the receiver was called. -/
  offered : Nat := 0
  panicked : Bool := false

namespace Receipt

/-- Offers a chunk; after a panic nothing more is offered. -/
def offer (sink : Sink) (r : Receipt) (chunk : Bytes) : Receipt :=
  if r.panicked then r
  else if sink (r.offered + 1) chunk then { r with offered := r.offered + 1, panicked := true }
  else { r with kept := r.kept.push chunk, offered := r.offered + 1 }

def ofChunks (sink : Sink) (chunks : List Bytes) : Receipt := chunks.foldl (offer sink) {}

end Receipt

namespace NativeLibrary

/-- What the library is, for people. -/
def description (l : NativeLibrary) : String := "lagrangecodec (" ++ l.path ++ ")"

def debug (l : NativeLibrary) : String :=
  Text.partialRecord "NativeCodecLibrary" [("path", Text.quoted l.path)]

/-! ## Calls -/

/-- What is said about a receiver that panicked. -/
def sinkPanic : Event :=
  .say nativeTarget .error "chunk sink panicked; dropping the rest of the stream" []

/-- What is said about a success without a frame. -/
def missingFrame : Event :=
  .say nativeTarget .debug "video_first_frame succeeded without a frame buffer" []

/-- The status of a streaming call: a receiver that panicked turns a success into a failure. -/
def streamStatus (panicked : Bool) (status : Status) : Status :=
  if panicked && status == Status.ok then Status.sinkPanicked else status

/-- Calls a streaming export; an input that does not fit a C `int` never reaches it. -/
def stream (l : NativeLibrary) (op : Streaming) (sink : Sink) (input : Buffer) :
    Run ε (Status × Receipt) := do
  if input.length > Status.maxLength then return (Status.inputTooLarge, {})
  else
    let p ← Run.get
    let bytes := input.toBytes
    Run.call (.invoke op.operation bytes)
    let (invocations, status) := l.exports.stream op p.past bytes
    let receipt := Receipt.ofChunks sink (invocations.filterMap CallbackInvocation.payload?)
    if receipt.panicked then Run.event sinkPanic
    return (streamStatus receipt.panicked status, receipt)

/-- Calls the frame export; the receiver of the frame is not guarded. -/
def firstFrame (l : NativeLibrary) (sink : Sink) (input : Buffer) : Run ε (Status × Receipt) := do
  if input.length > Status.maxLength then return (Status.inputTooLarge, {})
  else
    let p ← Run.get
    let bytes := input.toBytes
    Run.call (.invoke .videoFirstFrame bytes)
    let reply := l.exports.videoFirstFrame p.past bytes
    match reply.payload? with
    | some frame =>
      let receipt := Receipt.ofChunks sink [frame]
      if receipt.panicked then Run.panic
      else return (reply.status, receipt)
    | none =>
      if reply.status = Status.ok then Run.event missingFrame
      return (reply.status, {})

/-- Calls the metadata export on a fresh record. -/
def getSize (l : NativeLibrary) (input : Buffer) : Run ε (Status × VideoMetadata) := do
  if input.length > Status.maxLength then return (Status.inputTooLarge, {})
  else
    let p ← Run.get
    let bytes := input.toBytes
    Run.call (.invoke .videoGetSize bytes)
    let reply := l.exports.videoGetSize p.past bytes
    return (reply.status,
      ⟨reply.width.getD 0, reply.height.getD 0, reply.duration.getD 0⟩)

/-- What releasing the library says. -/
def release (l : NativeLibrary) : Release where
  events := [.say nativeTarget .debug ("Releasing lagrangecodec handle for " ++ l.path) []]

/-! ## The library as a backend -/

/-- What the library hands over to a receiver that never panics. -/
def emission (invocations : List CallbackInvocation) (status : Status) : Emission where
  chunks := invocations.filterMap CallbackInvocation.payload?
  ending := .status status

/-- A frame reply as an emission of at most one chunk. -/
def frameEmission (r : FrameReply) : Emission where
  chunks := r.payload?.toList
  events := if r.status = Status.ok ∧ r.payload? = none then [missingFrame] else []
  ending := .status r.status

def backend (l : NativeLibrary) : Backend where
  description := l.description
  stream op past input :=
    if input.length > Status.maxLength then { ending := .status Status.inputTooLarge }
    else
      let (invocations, status) := l.exports.stream op past input
      emission invocations status
  firstFrame past input :=
    if input.length > Status.maxLength then { ending := .status Status.inputTooLarge }
    else frameEmission (l.exports.videoFirstFrame past input)
  getSize past input :=
    if input.length > Status.maxLength then { ending := .status Status.inputTooLarge }
    else
      let reply := l.exports.videoGetSize past input
      { width := reply.width
        height := reply.height
        duration := reply.duration
        ending := .status reply.status }
  release := l.release

end NativeLibrary

end MediaCodec
