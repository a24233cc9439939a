/-
Dispatching — one call, from its input to its result.

A call is validated before anything else, then needs an open handle, and only then reaches
the backend.  Chunks are collected as they come.  A failure status ends the call in an error
that carries the chunks so far or drops them, as the options say; a success ends it with the
stream of all chunks, with the only frame, or with the metadata.

The invocation goes through its lifecycle as the call proceeds, and every state that it
enters is noted in the journal.
-/

import MediaCodec.Chunks
import MediaCodec.Run

namespace MediaCodec

/-- The part of the log that dispatching speaks as. -/
def dispatchTarget : String := "core_codec::dispatch"

namespace MediaBuffer

/-- The first reason to refuse an input. -/
def fault? (input : MediaBuffer) (limit : Option UInt64) : Option InputFault :=
  if input.isEmpty then some .empty
  else if input.declaredLength ≠ input.length then
    some (.lengthMismatch input.declaredLength input.length)
  else if input.length > Status.maxLength then some (.overNativeLimit input.length)
  else
    match limit with
    | none => none
    | some max =>
      if input.length > max.toNat then some (.overConfiguredLimit input.length max.toNat) else none

/-- Checks an input before any call of a backend. -/
def validate (input : MediaBuffer) (limit : Option UInt64) : Except CodecError Unit :=
  match input.fault? limit with
  | none => .ok ()
  | some f => .error (.invalidInput f)

end MediaBuffer

namespace Dispatcher

/-! ## The lifecycle of a call -/

/-- The span around a call. -/
def span (op : Operation) (input : MediaBuffer) : Span :=
  { name := "codec_invocation"
    target := dispatchTarget
    level := .debug
    fields := [("operation", .shown op.symbol), ("input_len", .unsigned input.length)] }

def start (op : Operation) : Run CodecError Invocation := do
  Run.enter .idle
  return .start op

/-- Moves a call on. -/
def advance (i : Invocation) (next : InvocationState) : Run CodecError Invocation :=
  match i.advance next with
  | .ok i => do
    Run.enter next
    return i
  | .error t => Run.fail (.malformedResult (.transition t))

/-- Ends a call in failure; an error is answered whether or not the call can move. -/
def failWith (i : Invocation) (e : CodecError) : Run CodecError α := do
  match i.advance .failed with
  | .ok _ => Run.enter .failed
  | .error t => Run.event (.say dispatchTarget .debug t.message [])
  Run.fail e

/-- Validates the input and makes sure of an open handle. -/
def begin (d : Dispatcher) (i : Invocation) (input : MediaBuffer) : Run CodecError Invocation := do
  let i ← advance i .validating
  match input.fault? d.options.maxInputBytes with
  | some f =>
    let e := CodecError.invalidInput f
    Run.event (.say dispatchTarget .debug ("Rejected input: " ++ e.message) [])
    failWith i e
  | none =>
    let p ← Run.get
    if p.hasClosed d.handle then failWith i .backendClosed
    else advance i .dispatched

/-- The end of a backend's call, as a status. -/
def finish (ending : Ending) : Run CodecError Status :=
  match ending with
  | .status code => return code
  | .panic => Run.panic

/-- Calls a backend and collects what it hands over. -/
def collect (op : Operation) (answer : List Call → Bytes → Emission) (input : MediaBuffer) :
    Run CodecError (Status × ChunkCollector) := do
  let p ← Run.get
  let bytes := input.data.toBytes
  Run.call (.invoke op bytes)
  let emission := answer p.past bytes
  Run.events emission.events
  let code ← finish emission.ending
  return (code, .ofList emission.chunks)

/-- Notes that chunks have come. -/
def collected (i : Invocation) (c : ChunkCollector) : Run CodecError Invocation :=
  if c.isEmpty then return i else advance i .collectingChunks

/-- Ends a call that the backend reported as failed. -/
def backendFailure (d : Dispatcher) (i : Invocation) (code : Status) (c : ChunkCollector) :
    Run CodecError α := do
  let kept := match d.options.partialResults with
    | .discard => []
    | .preserve => c.toList
  Run.event
    (.say dispatchTarget .warn "Backend returned an error status"
      [("code", .signed code.toInt), ("emitted_chunks", .unsigned c.length),
       ("kept_chunks", .unsigned kept.length)])
  failWith i (.backend i.operation code kept)

/-- The event of a call that succeeded. -/
def completed (fields : LogFields) : Event :=
  .say dispatchTarget .debug "Invocation completed" fields

/-- Ends a successful extraction, for which exactly one frame has to have come. -/
def soleFrame (i : Invocation) (frames : List Bytes) : Run CodecError Bytes :=
  match frames with
  | [frame] => do
    let _ ← advance i .completed
    Run.event (completed [("bytes", .unsigned frame.length)])
    return frame
  | _ => do
    let e := CodecError.malformedResult (.frameCount i.operation frames.length)
    Run.event (.say dispatchTarget .warn e.message [])
    failWith i e

/-! ## Calls -/

/-- A call: once its input is valid and its handle open, it goes on with its body. -/
def invoke (d : Dispatcher) (op : Operation) (input : MediaBuffer)
    (body : Invocation → Run CodecError α) : Run CodecError α :=
  Run.within (span op input) do
    let i ← start op
    let i ← begin d i input
    body i

/-- Runs a streaming operation and answers with its chunks in the order of arrival. -/
def dispatchChunks (d : Dispatcher) (op : Operation) (input : MediaBuffer) :
    Run CodecError ChunkStream :=
  d.invoke op input fun i =>
    match op.streaming? with
    | none => failWith i (.invalidInput (.notStreaming op))
    | some s => do
      let (code, c) ← collect op (d.handle.backend.stream s) input
      let i ← collected i c
      if code ≠ Status.ok then backendFailure d i code c
      else
        let _ ← advance i .completed
        Run.event (completed [("chunks", .unsigned c.length), ("bytes", .unsigned c.totalBytes)])
        return c.toStream

/-- Extracts the first frame of a video; the backend has to hand over exactly one. -/
def firstFrame (d : Dispatcher) (input : MediaBuffer) : Run CodecError Bytes :=
  let op := Operation.videoFirstFrame
  d.invoke op input fun i => do
    let (code, c) ← collect op d.handle.backend.firstFrame input
    let i ← collected i c
    if code ≠ Status.ok then backendFailure d i code c
    else soleFrame i c.toList

/-- Reads width, height and duration of a video. -/
def videoSize (d : Dispatcher) (input : MediaBuffer) : Run CodecError VideoMetadata :=
  let op := Operation.videoGetSize
  d.invoke op input fun i => do
    let p ← Run.get
    let bytes := input.data.toBytes
    Run.call (.invoke op bytes)
    let probe := d.handle.backend.getSize p.past bytes
    Run.events probe.events
    let code ← finish probe.ending
    if code ≠ Status.ok then backendFailure d i code {}
    else
      let m := probe.metadata
      let _ ← advance i .completed
      Run.event
        (completed [("width", .unsigned m.width.toNat), ("height", .unsigned m.height.toNat),
          ("duration_ms", .unsigned m.duration.toNat)])
      return m

end Dispatcher

end MediaCodec
