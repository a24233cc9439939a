/-
Dispatching — every call in closed form.

All three calls of a dispatcher have one frame: the input is validated, the handle has to be
open, and only then comes what the call is about.  `Dispatcher.invoke` is that frame, and the
calls are instances of it by definition.  A call that is refused in the frame ends there, with
the state as it was and without a call of the backend (`invoke_of_fault`, `invoke_of_closed`).

A call that gets through asks the backend once.  What comes of it is decided by how the
backend's call ended and by what it handed over, and by nothing else; the lemmas
`*_of_status` and `*_of_panic` give the whole run, journal and state included.
-/

import MediaCodec.Dispatcher
import MediaCodec.Proofs.Run

namespace MediaCodec

/-! ## Accepted inputs -/

/-- The input passes every check that is made before a backend is asked. -/
structure MediaBuffer.Accepted (input : MediaBuffer) (limit : Option UInt64) : Prop where
  nonempty : 0 < input.length
  declared : input.declaredLength = input.length
  native : input.length ≤ Status.maxLength
  configured : ∀ max, limit = some max → input.length ≤ max.toNat

namespace MediaBuffer

/-- A chain of checks passes if its first check does and the rest of it. -/
theorem ite_fault_eq_none {c : Prop} [Decidable c] {f : InputFault} {r : Option InputFault} :
    (if c then some f else r) = none ↔ ¬ c ∧ r = none := by
  by_cases hc : c <;> simp [hc]

/-- No fault is found exactly where every check passes. -/
theorem accepted_iff {input : MediaBuffer} {limit : Option UInt64} :
    input.Accepted limit ↔ input.fault? limit = none := by
  have hempty : ¬ input.isEmpty = true ↔ 0 < input.length := by
    simp [isEmpty, Buffer.isEmpty, length, Nat.pos_iff_ne_zero]
  unfold fault?
  rw [ite_fault_eq_none, ite_fault_eq_none, ite_fault_eq_none, hempty, Decidable.not_not,
    Nat.not_lt]
  constructor
  · rintro ⟨hpos, hdeclared, hnative, hconfigured⟩
    refine ⟨hpos, hdeclared, hnative, ?_⟩
    cases limit with
    | none => rfl
    | some max => exact if_neg (Nat.not_lt.mpr (hconfigured max rfl))
  · rintro ⟨hpos, hdeclared, hnative, hconfigured⟩
    refine ⟨hpos, hdeclared, hnative, ?_⟩
    rintro max rfl
    exact Nat.not_lt.mp (ite_fault_eq_none.mp hconfigured).1

theorem not_accepted_iff {input : MediaBuffer} {limit : Option UInt64} :
    ¬ input.Accepted limit ↔ ∃ f, input.fault? limit = some f := by
  rw [accepted_iff, ← Option.ne_none_iff_exists']

theorem Accepted.length_toBytes_le {input : MediaBuffer} {limit : Option UInt64}
    (h : input.Accepted limit) : input.data.toBytes.length ≤ Status.maxLength := by
  rw [Buffer.length_toBytes]
  exact h.native

instance (input : MediaBuffer) (limit : Option UInt64) : Decidable (input.Accepted limit) :=
  decidable_of_iff _ accepted_iff.symm

end MediaBuffer

namespace Dispatcher

/-! ## The frame of a call -/

theorem advance_of_canMove {i : Invocation} {next : InvocationState} {p : State}
    (h : i.state.canMoveTo next = true) :
    advance i next p = ⟨[.state next], .ok ⟨i.operation, next⟩, p⟩ := by
  simp [advance, Invocation.advance, h]

theorem failWith_of_canMove {i : Invocation} {e : CodecError} {p : State}
    (h : i.state.canMoveTo .failed = true) :
    (failWith i e : Run CodecError α) p = ⟨[.state .failed], .error e, p⟩ := by
  simp [failWith, Invocation.advance, h]

/-- What a refused input is told. -/
def rejected (f : InputFault) : Event :=
  .say dispatchTarget .debug ("Rejected input: " ++ (CodecError.invalidInput f).message) []

section Frame

variable {d : Dispatcher} {op : Operation} {input : MediaBuffer} {p : State}

theorem start_apply : start op p = ⟨[.state .idle], .ok (.start op), p⟩ := rfl

theorem begin_of_fault {f : InputFault} (h : input.fault? d.options.maxInputBytes = some f) :
    begin d (.start op) input p
      = ⟨[.state .validating, .event (rejected f), .state .failed],
          .error (.invalidInput f), p⟩ := by
  have hmove : advance (.start op) .validating p = ⟨_, .ok ⟨op, .validating⟩, p⟩ :=
    advance_of_canMove rfl
  rw [begin, Run.bind_of_eq_ok hmove]
  simp only [h, Run.event_bind_apply]
  rw [failWith_of_canMove rfl]
  rfl

theorem begin_of_closed (h : input.fault? d.options.maxInputBytes = none)
    (hclosed : p.hasClosed d.handle = true) :
    begin d (.start op) input p
      = ⟨[.state .validating, .state .failed], .error .backendClosed, p⟩ := by
  have hmove : advance (.start op) .validating p = ⟨_, .ok ⟨op, .validating⟩, p⟩ :=
    advance_of_canMove rfl
  rw [begin, Run.bind_of_eq_ok hmove]
  simp only [h, Run.get_bind_apply, hclosed, if_true]
  rw [failWith_of_canMove rfl]
  rfl

theorem begin_of_open (h : input.fault? d.options.maxInputBytes = none)
    (hopen : p.hasClosed d.handle = false) :
    begin d (.start op) input p
      = ⟨[.state .validating, .state .dispatched], .ok ⟨op, .dispatched⟩, p⟩ := by
  have hmove : advance (.start op) .validating p = ⟨_, .ok ⟨op, .validating⟩, p⟩ :=
    advance_of_canMove rfl
  rw [begin, Run.bind_of_eq_ok hmove]
  simp only [h, Run.get_bind_apply, hopen, Bool.false_eq_true, if_false]
  rw [advance_of_canMove rfl]
  rfl

variable {body : Invocation → Run CodecError α}

theorem invoke_of_fault {f : InputFault} (h : input.fault? d.options.maxInputBytes = some f) :
    d.invoke op input body p
      = ⟨Journal.within (span op input)
            [.state .idle, .state .validating, .event (rejected f), .state .failed],
          .error (.invalidInput f), p⟩ := by
  rw [invoke, Run.within_apply, Run.bind_of_eq_ok start_apply,
    Run.bind_of_error (by rw [begin_of_fault h]), begin_of_fault h]
  rfl

theorem invoke_of_closed (h : input.fault? d.options.maxInputBytes = none)
    (hclosed : p.hasClosed d.handle = true) :
    d.invoke op input body p
      = ⟨Journal.within (span op input) [.state .idle, .state .validating, .state .failed],
          .error .backendClosed, p⟩ := by
  rw [invoke, Run.within_apply, Run.bind_of_eq_ok start_apply,
    Run.bind_of_error (by rw [begin_of_closed h hclosed]), begin_of_closed h hclosed]
  rfl

theorem invoke_of_open (h : input.fault? d.options.maxInputBytes = none)
    (hopen : p.hasClosed d.handle = false) :
    d.invoke op input body p
      = ⟨Journal.within (span op input)
            ([.state .idle, .state .validating, .state .dispatched]
              ++ (body ⟨op, .dispatched⟩ p).journal),
          (body ⟨op, .dispatched⟩ p).result, (body ⟨op, .dispatched⟩ p).after⟩ := by
  rw [invoke, Run.within_apply, Run.bind_of_eq_ok start_apply,
    Run.bind_of_eq_ok (begin_of_open h hopen)]
  rfl

end Frame

/-! ## The backend's part -/

/-- The chunks that the error of a failed call carries. -/
def kept (o : DispatchOptions) (chunks : List Bytes) : List Bytes :=
  match o.partialResults with
  | .discard => []
  | .preserve => chunks

@[simp] theorem kept_nil (o : DispatchOptions) : kept o [] = [] := by
  unfold kept
  cases o.partialResults <;> rfl

/-- What is said about a call that the backend reported as failed. -/
def failure (o : DispatchOptions) (code : Status) (c : ChunkCollector) : Event :=
  .say dispatchTarget .warn "Backend returned an error status"
    [("code", .signed code.toInt), ("emitted_chunks", .unsigned c.length),
     ("kept_chunks", .unsigned (kept o c.toList).length)]

/-- The journal of a call from its start to the end of the backend's part. -/
def asked (op : Operation) (bytes : Bytes) (events : List Event) : Journal :=
  [.state .idle, .state .validating, .state .dispatched, .call (.invoke op bytes)]
    ++ events.map .event

/-- The state of a call whose backend has answered. -/
def gathering (c : ChunkCollector) : InvocationState :=
  if c.isEmpty then .dispatched else .collectingChunks

/-- The journal of the arrival of chunks. -/
def arrivals (c : ChunkCollector) : Journal :=
  if c.isEmpty then [] else [.state .collectingChunks]

@[simp] theorem calls_asked (op : Operation) (bytes : Bytes) (events : List Event) :
    Journal.calls (asked op bytes events) = [.invoke op bytes] := by
  simp [asked]

@[simp] theorem calls_arrivals (c : ChunkCollector) : Journal.calls (arrivals c) = [] := by
  unfold arrivals
  cases c.isEmpty <;> rfl

theorem gathering_canMove (c : ChunkCollector) :
    (gathering c).canMoveTo .completed = true ∧ (gathering c).canMoveTo .failed = true := by
  unfold gathering
  cases c.isEmpty <;> exact ⟨rfl, rfl⟩

section Backend

variable {d : Dispatcher} {op : Operation} {input : MediaBuffer} {p : State} {code : Status}

theorem collect_of_status {answer : List Call → Bytes → Emission}
    (h : (answer p.past input.data.toBytes).ending = .status code) :
    collect op answer input p
      = ⟨.call (.invoke op input.data.toBytes)
            :: (answer p.past input.data.toBytes).events.map .event,
          .ok (code, .ofList (answer p.past input.data.toBytes).chunks),
          p.called (.invoke op input.data.toBytes)⟩ := by
  simp [collect, h, finish]

theorem collect_of_panic {answer : List Call → Bytes → Emission}
    (h : (answer p.past input.data.toBytes).ending = .panic) :
    collect op answer input p
      = ⟨.call (.invoke op input.data.toBytes)
            :: (answer p.past input.data.toBytes).events.map .event,
          .panic, p.called (.invoke op input.data.toBytes)⟩ := by
  simp [collect, h, finish]

theorem collected_apply (c : ChunkCollector) :
    collected ⟨op, .dispatched⟩ c p = ⟨arrivals c, .ok ⟨op, gathering c⟩, p⟩ := by
  unfold collected arrivals gathering
  cases c.isEmpty with
  | true => rfl
  | false =>
      show advance ⟨op, .dispatched⟩ .collectingChunks p = _
      rw [advance_of_canMove rfl]
      rfl

theorem backendFailure_apply {i : Invocation} {c : ChunkCollector}
    (h : i.state.canMoveTo .failed = true) :
    (backendFailure d i code c : Run CodecError α) p
      = ⟨[.event (failure d.options code c), .state .failed],
          .error (.backend i.operation code (kept d.options c.toList)), p⟩ := by
  rw [backendFailure, Run.event_bind_apply, failWith_of_canMove h]
  rfl

/-- What becomes of the frames of a successful extraction. -/
def sole (frames : List Bytes) : Attempt CodecError Bytes :=
  match frames with
  | [frame] => .ok frame
  | _ => .error (.malformedResult (.frameCount .videoFirstFrame frames.length))

theorem sole_toList {frame? : Option Bytes} {b : Bytes} :
    sole frame?.toList = .ok b ↔ frame? = some b := by
  cases frame? with
  | none => simp [sole]
  | some frame => simp [sole]

/-- There is one frame, which is what becomes of them, or their number is at fault. -/
theorem sole_cases (frames : List Bytes) :
    (∃ b, frames = [b] ∧ sole frames = .ok b) ∨
      (frames.length ≠ 1 ∧
        sole frames = .error (.malformedResult (.frameCount .videoFirstFrame frames.length))) := by
  match frames with
  | [b] => exact .inl ⟨b, rfl, rfl⟩
  | [] | _ :: _ :: _ => exact .inr ⟨by simp, rfl⟩

/-- The journal of the end of a successful extraction. -/
def soleEnd (frames : List Bytes) : Journal :=
  match frames with
  | [frame] => [.state .completed, .event (completed [("bytes", .unsigned frame.length)])]
  | _ =>
    [.event (.say dispatchTarget .warn
      (CodecError.malformedResult (.frameCount .videoFirstFrame frames.length)).message []),
     .state .failed]

@[simp] theorem calls_soleEnd (frames : List Bytes) : Journal.calls (soleEnd frames) = [] := by
  match frames with
  | [_] | [] | _ :: _ :: _ => rfl

theorem soleFrame_apply {i : Invocation} {frames : List Bytes}
    (hop : i.operation = .videoFirstFrame) (hcompleted : i.state.canMoveTo .completed = true)
    (hfailed : i.state.canMoveTo .failed = true) :
    soleFrame i frames p = ⟨soleEnd frames, sole frames, p⟩ := by
  match frames with
  | [frame] =>
      rw [soleFrame, Run.bind_of_eq_ok (advance_of_canMove hcompleted)]
      rfl
  | [] | _ :: _ :: _ =>
      simp only [soleFrame, hop, Run.event_bind_apply]
      rw [failWith_of_canMove hfailed]
      rfl

end Backend

/-! ## The calls -/

section Calls

variable {d : Dispatcher} {op : Operation} {input : MediaBuffer} {p : State} {code : Status}

/-- A streaming call whose backend answered with a status. -/
theorem dispatchChunks_of_status {s : Streaming} {e : Emission}
    (hvalid : input.fault? d.options.maxInputBytes = none) (hopen : p.hasClosed d.handle = false)
    (hs : op.streaming? = some s) (he : d.handle.backend.stream s p.past input.data.toBytes = e)
    (hcode : e.ending = .status code) :
    d.dispatchChunks op input p
      = ⟨Journal.within (span op input)
            (asked op input.data.toBytes e.events ++ arrivals (.ofList e.chunks) ++
              if code = Status.ok then
                [.state .completed,
                 .event (completed [("chunks", .unsigned (ChunkCollector.ofList e.chunks).length),
                   ("bytes", .unsigned (ChunkCollector.ofList e.chunks).totalBytes)])]
              else [.event (failure d.options code (.ofList e.chunks)), .state .failed]),
          if code = Status.ok then .ok ⟨e.chunks⟩
          else .error (.backend op code (kept d.options e.chunks)),
          p.called (.invoke op input.data.toBytes)⟩ := by
  subst he
  obtain ⟨hcompleted, hfailed⟩ := gathering_canMove
    (.ofList (d.handle.backend.stream s p.past input.data.toBytes).chunks)
  rw [dispatchChunks, invoke_of_open hvalid hopen]
  simp only [hs]
  rw [Run.bind_of_eq_ok (collect_of_status hcode)]
  dsimp only
  rw [Run.bind_of_eq_ok (collected_apply _)]
  by_cases hok : code = Status.ok
  · simp only [hok, ne_eq, not_true_eq_false, if_false, if_true]
    rw [Run.bind_of_eq_ok (advance_of_canMove hcompleted)]
    simp [asked, ChunkCollector.toStream]
  · simp only [hok, ne_eq, not_false_eq_true, if_false, if_true]
    rw [backendFailure_apply hfailed]
    simp [asked]

/-- A streaming call whose backend panicked. -/
theorem dispatchChunks_of_panic {s : Streaming} {e : Emission}
    (hvalid : input.fault? d.options.maxInputBytes = none) (hopen : p.hasClosed d.handle = false)
    (hs : op.streaming? = some s) (he : d.handle.backend.stream s p.past input.data.toBytes = e)
    (hpanic : e.ending = .panic) :
    d.dispatchChunks op input p
      = ⟨Journal.within (span op input) (asked op input.data.toBytes e.events), .panic,
          p.called (.invoke op input.data.toBytes)⟩ := by
  subst he
  rw [dispatchChunks, invoke_of_open hvalid hopen]
  simp only [hs]
  rw [Run.bind_of_panic (by rw [collect_of_panic hpanic]), collect_of_panic hpanic]
  simp [asked]

/-- An operation that does not stream is refused after the handle was found open. -/
theorem dispatchChunks_of_not_streaming
    (hvalid : input.fault? d.options.maxInputBytes = none) (hopen : p.hasClosed d.handle = false)
    (hs : op.streaming? = none) :
    d.dispatchChunks op input p
      = ⟨Journal.within (span op input)
            [.state .idle, .state .validating, .state .dispatched, .state .failed],
          .error (.invalidInput (.notStreaming op)), p⟩ := by
  rw [dispatchChunks, invoke_of_open hvalid hopen]
  simp only [hs]
  rw [failWith_of_canMove rfl]
  rfl

/-- The extraction of a frame whose backend answered with a status. -/
theorem firstFrame_of_status {e : Emission}
    (hvalid : input.fault? d.options.maxInputBytes = none) (hopen : p.hasClosed d.handle = false)
    (he : d.handle.backend.firstFrame p.past input.data.toBytes = e)
    (hcode : e.ending = .status code) :
    d.firstFrame input p
      = ⟨Journal.within (span .videoFirstFrame input)
            (asked .videoFirstFrame input.data.toBytes e.events ++ arrivals (.ofList e.chunks) ++
              if code = Status.ok then soleEnd e.chunks
              else [.event (failure d.options code (.ofList e.chunks)), .state .failed]),
          if code = Status.ok then sole e.chunks
          else .error (.backend .videoFirstFrame code (kept d.options e.chunks)),
          p.called (.invoke .videoFirstFrame input.data.toBytes)⟩ := by
  subst he
  obtain ⟨hcompleted, hfailed⟩ := gathering_canMove
    (.ofList (d.handle.backend.firstFrame p.past input.data.toBytes).chunks)
  rw [firstFrame, invoke_of_open hvalid hopen,
    Run.bind_of_eq_ok (collect_of_status hcode)]
  dsimp only
  rw [Run.bind_of_eq_ok (collected_apply _)]
  by_cases hok : code = Status.ok
  · simp only [hok, ne_eq, not_true_eq_false, if_false, if_true, ChunkCollector.toList_ofList]
    rw [soleFrame_apply rfl hcompleted hfailed]
    simp [asked]
  · simp only [hok, ne_eq, not_false_eq_true, if_false, if_true]
    rw [backendFailure_apply hfailed]
    simp [asked]

/-- The extraction of a frame whose backend panicked. -/
theorem firstFrame_of_panic {e : Emission}
    (hvalid : input.fault? d.options.maxInputBytes = none) (hopen : p.hasClosed d.handle = false)
    (he : d.handle.backend.firstFrame p.past input.data.toBytes = e)
    (hpanic : e.ending = .panic) :
    d.firstFrame input p
      = ⟨Journal.within (span .videoFirstFrame input)
            (asked .videoFirstFrame input.data.toBytes e.events), .panic,
          p.called (.invoke .videoFirstFrame input.data.toBytes)⟩ := by
  subst he
  rw [firstFrame, invoke_of_open hvalid hopen,
    Run.bind_of_panic (by rw [collect_of_panic hpanic]), collect_of_panic hpanic]
  simp [asked]

/-- The probe of a video whose backend answered with a status. -/
theorem videoSize_of_status {e : Probe}
    (hvalid : input.fault? d.options.maxInputBytes = none) (hopen : p.hasClosed d.handle = false)
    (he : d.handle.backend.getSize p.past input.data.toBytes = e)
    (hcode : e.ending = .status code) :
    d.videoSize input p
      = ⟨Journal.within (span .videoGetSize input)
            (asked .videoGetSize input.data.toBytes e.events ++
              if code = Status.ok then
                [.state .completed,
                 .event (completed [("width", .unsigned e.metadata.width.toNat),
                   ("height", .unsigned e.metadata.height.toNat),
                   ("duration_ms", .unsigned e.metadata.duration.toNat)])]
              else [.event (failure d.options code {}), .state .failed]),
          if code = Status.ok then .ok e.metadata
          else .error (.backend .videoGetSize code []),
          p.called (.invoke .videoGetSize input.data.toBytes)⟩ := by
  subst he
  have hkept : kept d.options (ChunkCollector.toList {}) = [] := kept_nil d.options
  rw [videoSize, invoke_of_open hvalid hopen]
  simp only [Run.get_bind_apply, Run.call_bind_apply, Run.events_bind_apply, hcode, finish,
    Run.pure_bind_apply]
  by_cases hok : code = Status.ok
  · simp only [hok, ne_eq, not_true_eq_false, if_false, if_true]
    rw [Run.bind_of_eq_ok (advance_of_canMove rfl)]
    simp [asked]
  · simp only [hok, ne_eq, not_false_eq_true, if_false, if_true]
    rw [backendFailure_apply rfl, hkept]
    simp [asked]

/-- The probe of a video whose backend panicked. -/
theorem videoSize_of_panic {e : Probe}
    (hvalid : input.fault? d.options.maxInputBytes = none) (hopen : p.hasClosed d.handle = false)
    (he : d.handle.backend.getSize p.past input.data.toBytes = e)
    (hpanic : e.ending = .panic) :
    d.videoSize input p
      = ⟨Journal.within (span .videoGetSize input)
            (asked .videoGetSize input.data.toBytes e.events), .panic,
          p.called (.invoke .videoGetSize input.data.toBytes)⟩ := by
  subst he
  rw [videoSize, invoke_of_open hvalid hopen]
  simp [hpanic, finish, asked]

/-! Whatever the backend answers, it is asked once, and nothing else changes. -/

theorem dispatchChunks_asks_once {s : Streaming}
    (hvalid : input.fault? d.options.maxInputBytes = none) (hopen : p.hasClosed d.handle = false)
    (hs : op.streaming? = some s) :
    (d.dispatchChunks op input p).journal.calls = [.invoke op input.data.toBytes] ∧
      (d.dispatchChunks op input p).after = p.called (.invoke op input.data.toBytes) := by
  cases h : (d.handle.backend.stream s p.past input.data.toBytes).ending with
  | status code =>
      rw [dispatchChunks_of_status hvalid hopen hs rfl h]
      refine ⟨?_, rfl⟩
      by_cases hok : code = Status.ok <;> simp [hok]
  | panic =>
      rw [dispatchChunks_of_panic hvalid hopen hs rfl h]
      exact ⟨by simp, rfl⟩

theorem firstFrame_asks_once
    (hvalid : input.fault? d.options.maxInputBytes = none)
    (hopen : p.hasClosed d.handle = false) :
    (d.firstFrame input p).journal.calls = [.invoke .videoFirstFrame input.data.toBytes] ∧
      (d.firstFrame input p).after = p.called (.invoke .videoFirstFrame input.data.toBytes) := by
  cases h : (d.handle.backend.firstFrame p.past input.data.toBytes).ending with
  | status code =>
      rw [firstFrame_of_status hvalid hopen rfl h]
      refine ⟨?_, rfl⟩
      by_cases hok : code = Status.ok <;> simp [hok]
  | panic =>
      rw [firstFrame_of_panic hvalid hopen rfl h]
      exact ⟨by simp, rfl⟩

theorem videoSize_asks_once
    (hvalid : input.fault? d.options.maxInputBytes = none)
    (hopen : p.hasClosed d.handle = false) :
    (d.videoSize input p).journal.calls = [.invoke .videoGetSize input.data.toBytes] ∧
      (d.videoSize input p).after = p.called (.invoke .videoGetSize input.data.toBytes) := by
  cases h : (d.handle.backend.getSize p.past input.data.toBytes).ending with
  | status code =>
      rw [videoSize_of_status hvalid hopen rfl h]
      refine ⟨?_, rfl⟩
      by_cases hok : code = Status.ok <;> simp [hok]
  | panic =>
      rw [videoSize_of_panic hvalid hopen rfl h]
      exact ⟨by simp, rfl⟩

end Calls

end Dispatcher

end MediaCodec
