/-
The C boundary — the codec for callers that know numbers and pointers only.

The entry points have the shapes of a codec library's own exports.  Nothing but a status
comes back: an error becomes its status, and a panic becomes the status for an internal
failure, so neither crosses the boundary.  Output goes to memory or to a callback of the
caller, and only after the operation has succeeded as a whole.

The entry points share one service.  It is the one that was installed; without one it is the
shared service of the process, which the first call opens.  Once filled, the slot is never
refilled.
-/

import MediaCodec.Shared

namespace MediaCodec

/-- The part of the log that the boundary speaks as. -/
def boundaryTarget : String := "bridge_capi"

/-! ## What crosses the boundary -/

/-- An input: a pointer, which may be null, and a length. -/
structure ForeignInput where
  data : Option Buffer
  length : Int32

/-- The input as a buffer; a null pointer and a length that is not positive give an empty
one, which every operation refuses. -/
def ForeignInput.slice (i : ForeignInput) : Buffer :=
  match i.data with
  | none => .empty
  | some b => if i.length ≤ 0 then .empty else b.take i.length.toInt.toNat

/-- A length as a C `int`, or the largest one where it does not fit. -/
def clampLength (n : Nat) : Int32 := .ofNat (min n Status.maxLength)

/-- One call of a caller's callback. -/
structure Delivery where
  data : Bytes
  length : Int32
  deriving DecidableEq, Repr

/-- The call that hands over a chunk. -/
def Delivery.ofChunk (b : Bytes) : Delivery := ⟨b, clampLength b.length⟩

/-- What a variable for a frame holds. -/
inductive FramePointer
  /-- What the caller had put there. -/
  | callers
  | null
  | frame (b : Bytes)
  deriving DecidableEq, Repr

/-- A caller's variables for a frame and its size; either pointer may be null. -/
structure FrameSlots where
  frame : Option FramePointer
  size : Option Int32
  deriving DecidableEq, Repr

namespace Boundary

/-! ## The slot and the guard -/

/-- Puts a service into the slot, and says whether the slot was free. -/
def install (s : Service) : Run ε Bool := do
  let p ← Run.get
  match p.slot with
  | some _ => return false
  | none =>
    Run.modify fun p => { p with slot := some s }
    return true

/-- The service that the entry points use. -/
def service : Run ServiceError Service := do
  let p ← Run.get
  match p.slot with
  | some s => return s
  | none =>
    let s ← Service.global
    Run.modify fun p => { p with slot := some s }
    return s

/-- Runs a call, and turns an error or a panic into a status. -/
def guarded (operation : String) (call : Run ServiceError α) : Run ε (Status × Option α) := do
  match ← Run.attempt call with
  | .ok a => return (Status.ok, some a)
  | .error e =>
    Run.event
      (.say boundaryTarget .warn ("C API call failed: " ++ e.message)
        [("operation", .text operation)])
    return (e.status, none)
  | .panic =>
    Run.event
      (.say boundaryTarget .error "C API call panicked" [("operation", .text operation)])
    return (Status.internal, none)

/-! ## Opening and closing -/

/-- The settings of the environment, with a library directory in place of theirs. -/
def settings (p : State) (dir : Option Path) : Except SetupError Settings :=
  (Settings.ofEnvironment p.environment).map fun s => { s with libraryDir := dir.getD s.libraryDir }

/-- Opens the shared service and puts it into the slot, unless the slot is filled. -/
def openShared (dir : Option Path) : Run ServiceError Unit := do
  let p ← Run.get
  match p.slot with
  | some _ => return ()
  | none =>
    let s ← Run.ofExcept ((settings p dir).mapError .setup)
    let config : Builder := { settings := s }
    let c ← Run.ofExcept ((config.build p.machine.host p.machine.loader).mapError .setup)
    let service ← Service.initGlobal c
    let _ ← install service
    return ()

/-- Opens the codec ahead of the first call, under a library directory or under the one that
the environment names. -/
def start (dir : Option Bytes) : Run ε Status := do
  let name := "lgc_init"
  match dir with
  | none => return (← guarded name (openShared none)).1
  | some b =>
    match Text.ofUtf8? b with
    | none => return Status.invalidInput
    | some path => return (← guarded name (openShared (some path))).1

/-- Closes the codec in the slot, if there is one. -/
def close : Run ε Status := do
  let p ← Run.get
  match p.slot with
  | none => return Status.ok
  | some s =>
    let _ ← s.close
    return Status.ok

/-! ## The operations -/

/-- The entry point of a streaming operation. -/
def streamName (op : Streaming) : String := "lgc_" ++ op.operation.symbol

/-- Runs a streaming operation and hands its chunks to the callback, if there is one. -/
def stream (op : Streaming) (input : ForeignInput) (hasCallback : Bool) :
    Run ε (Status × List Delivery) := do
  if hasCallback then
    let (status, output) ← guarded (streamName op) do
      let s ← service
      s.dispatch op input.slice
    match output with
    | none => return (status, [])
    | some chunks => return (status, chunks.chunks.map Delivery.ofChunk)
  else return (Status.invalidInput, [])

/-- Extracts the first frame of a video; its length has to fit a C `int`. -/
def frame (input : ForeignInput) : Run ServiceError Bytes := do
  let s ← service
  let b ← s.videoFirstFrame input.slice
  if b.length ≤ Status.maxLength then return b
  else Run.fail (.codec (.malformedResult (.frameTooLarge b.length)))

/-- Extracts the first frame of a video into the caller's variables. -/
def firstFrame (input : ForeignInput) (slots : FrameSlots) : Run ε (Status × FrameSlots) := do
  match slots with
  | ⟨some _, some _⟩ =>
    let (status, output) ← guarded "lgc_video_first_frame" (frame input)
    match output with
    | none => return (status, ⟨some .null, some 0⟩)
    | some b => return (status, ⟨some (.frame b), some (clampLength b.length)⟩)
  | _ => return (Status.invalidInput, slots)

/-- Reads width, height and duration of a video into the caller's record. -/
def getSize (input : ForeignInput) (slot : Option VideoMetadata) :
    Run ε (Status × Option VideoMetadata) := do
  match slot with
  | none => return (Status.invalidInput, none)
  | some old =>
    let (status, output) ← guarded "lgc_video_get_size" do
      let s ← service
      s.videoGetSize input.slice
    return (status, some (output.getD old))

/-- Whether releasing a frame does anything: not for null, nor without a positive size. -/
def releasesFrame (pointer : FramePointer) (size : Int32) : Bool :=
  pointer != .null && 0 < size

end Boundary

end MediaCodec
