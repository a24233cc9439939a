/-
Single results — one frame, or one record.

A call of a dispatcher ends in one of five ways, and `Dispatch.Ends` has one constructor for each:
the input is rejected, the handle is closed, the operation is one that is not asked, the backend
panics, or it answers with a status.  The first two come before any call of the backend, in that
order.  From this each result that a call can have is traced to what it came from, for all three
calls at once (`ok_iff`, `failed_iff`, `malformed_iff` and so on).

The extraction of a frame and the probe of a video are the two calls without a stream.  Of an
extraction that the backend calls a success exactly one frame is taken, whatever is in it; the
number of frames is not looked at before the status.  A probe is answered with the fields that the
backend wrote, and with zero where it wrote nothing (`Dispatcher.extracts_probes`).
-/

import MediaCodec.Proofs.Lifecycle

namespace MediaCodec

/-- A call on this input gets through to the backend. -/
structure Dispatcher.Admits (d : Dispatcher) (input : MediaBuffer) (p : State) : Prop where
  accepted : input.Accepted d.options.maxInputBytes
  opened : p.hasClosed d.handle = false

/-! ## What is made of an answer -/

namespace Dispatcher

theorem sole_eq_ok_iff {frames : List Bytes} {b : Bytes} : sole frames = .ok b ↔ frames = [b] := by
  rcases sole_cases frames with ⟨frame, rfl, hone⟩ | ⟨hcount, hmany⟩
  · rw [hone, Attempt.ok.injEq, List.singleton_inj]
  · rw [hmany]
    refine iff_of_false (fun h => absurd h.symm Attempt.ok_ne_error) ?_
    rintro rfl
    exact hcount rfl

end Dispatcher

namespace Dispatch

section Concluded

variable {c : Dispatch} {o : DispatchOptions} {a : Answer} {code : Status}

theorem concluded_eq_ok_iff {v : c.Output} :
    c.concluded o a code = .ok v ↔ code = Status.ok ∧ c.made a = .ok v := by
  by_cases hok : code = Status.ok
  · rw [concluded, if_pos hok, and_iff_right hok]
  · rw [concluded, if_neg hok]
    exact iff_of_false (fun h => absurd h.symm Attempt.ok_ne_error) fun h => hok h.1

theorem concluded_eq_backend_iff {returned : Status} {op : Operation} {partials : List Bytes} :
    c.concluded o a code = .error (.backend op returned partials) ↔
      code ≠ Status.ok ∧ op = c.operation ∧ returned = code ∧
        partials = Dispatcher.kept o a.chunks := by
  by_cases hok : code = Status.ok
  · rw [concluded, if_pos hok]
    refine iff_of_false ?_ fun h => h.1 hok
    intro h
    rcases c.made_cases a with ⟨v, hv⟩ | ⟨-, -, hmany⟩
    · cases hv.symm.trans h
    · cases hmany.symm.trans h
  · rw [concluded, if_neg hok]
    constructor
    · rintro ⟨⟩
      exact ⟨hok, rfl, rfl, rfl⟩
    · rintro ⟨-, rfl, rfl, rfl⟩
      rfl

/-- An answer is no reason to refuse the input or the handle. -/
theorem concluded_ne_refusal (c : Dispatch) (o : DispatchOptions) (a : Answer) (code : Status) :
    (∀ f, c.concluded o a code ≠ .error (.invalidInput f)) ∧
      c.concluded o a code ≠ .error .backendClosed := by
  rcases c.concluded_cases o a code with ⟨v, hv⟩ | ⟨-, -, -, hmany⟩ | hfailed
  · rw [hv]
    exact ⟨fun f h => (nomatch h), fun h => nomatch h⟩
  · rw [hmany]
    exact ⟨fun f h => (nomatch h), fun h => nomatch h⟩
  · rw [hfailed]
    exact ⟨fun f h => (nomatch h), fun h => nomatch h⟩

end Concluded

/-- A streaming operation is asked for chunks. -/
theorem answer?_operation (op : Streaming) (b : Backend) (past : List Call) (bytes : Bytes) :
    (chunks op.operation).answer? b past bytes = some (b.stream op past bytes).answer :=
  congrArg (Option.map _) op.streaming?_operation

/-! ## The ends of a call -/

/-- How a call ends: its result, its calls, and the state after it. -/
inductive Ends (c : Dispatch) (d : Dispatcher) (input : MediaBuffer) (p : State) :
    Attempt CodecError c.Output → List Call → State → Prop
  | rejected {f : InputFault} (fault : input.fault? d.options.maxInputBytes = some f) :
      Ends c d input p (.error (.invalidInput f)) [] p
  | closed (accepted : input.Accepted d.options.maxInputBytes)
      (closed : p.hasClosed d.handle = true) : Ends c d input p (.error .backendClosed) [] p
  | unanswered (admits : d.Admits input p)
      (answer : c.answer? d.handle.backend p.past input.data.toBytes = none) :
      Ends c d input p (.error (.invalidInput (.notStreaming c.operation))) [] p
  | panicked {a : Answer} (admits : d.Admits input p)
      (answer : c.answer? d.handle.backend p.past input.data.toBytes = some a)
      (ending : a.ending = .panic) :
      Ends c d input p .panic [.invoke c.operation input.data.toBytes]
        (p.called (.invoke c.operation input.data.toBytes))
  | answered {a : Answer} {code : Status} {r : Attempt CodecError c.Output}
      (admits : d.Admits input p)
      (answer : c.answer? d.handle.backend p.past input.data.toBytes = some a)
      (ending : a.ending = .status code) (concluded : c.concluded d.options a code = r) :
      Ends c d input p r [.invoke c.operation input.data.toBytes]
        (p.called (.invoke c.operation input.data.toBytes))

variable {c : Dispatch} {d : Dispatcher} {input : MediaBuffer} {p : State}

/-- Every call ends in one of the five ways. -/
theorem ends_perform (c : Dispatch) (d : Dispatcher) (input : MediaBuffer) (p : State) :
    c.Ends d input p (c.perform d input p).result (c.perform d input p).journal.calls
      (c.perform d input p).after := by
  have of_comesTo {r : Attempt CodecError c.Output} {cs : List Call} {q : State}
      (h : (c.perform d input p).ComesTo r cs q) (hends : c.Ends d input p r cs q) :
      c.Ends d input p (c.perform d input p).result (c.perform d input p).journal.calls
        (c.perform d input p).after := by
    rw [h.result, h.calls, h.after]
    exact hends
  cases hfault : input.fault? d.options.maxInputBytes with
  | some f => exact of_comesTo (course_of_fault hfault).comesTo (.rejected hfault)
  | none =>
  have haccepted := MediaBuffer.accepted_iff.mpr hfault
  cases hclosed : p.hasClosed d.handle with
  | true => exact of_comesTo (course_of_closed hfault hclosed).comesTo (.closed haccepted hclosed)
  | false =>
  have hadmits : d.Admits input p := ⟨haccepted, hclosed⟩
  cases hanswer : c.answer? d.handle.backend p.past input.data.toBytes with
  | none =>
      exact of_comesTo (course_of_unanswered hfault hclosed hanswer).comesTo
        (.unanswered hadmits hanswer)
  | some a =>
  cases hending : a.ending with
  | panic =>
      exact of_comesTo (course_of_panic hfault hclosed hanswer hending).comesTo
        (.panicked hadmits hanswer hending)
  | status code =>
      exact of_comesTo (course_of_status hfault hclosed hanswer hending).comesTo
        (.answered hadmits hanswer hending rfl)

namespace Ends

variable {r : Attempt CodecError c.Output} {cs : List Call} {q : State}

theorem silent (h : c.Ends d input p r cs q) (hrefused : ¬ d.Admits input p) : cs = [] ∧ q = p := by
  cases h with
  | rejected | closed => exact ⟨rfl, rfl⟩
  | unanswered admits | panicked admits | answered admits => exact absurd admits hrefused

theorem asks (h : c.Ends d input p r cs q) {a : Answer}
    (ha : c.answer? d.handle.backend p.past input.data.toBytes = some a)
    (hadmits : d.Admits input p) :
    cs = [.invoke c.operation input.data.toBytes] ∧
      q = p.called (.invoke c.operation input.data.toBytes) := by
  obtain ⟨haccepted, hopened⟩ := hadmits
  cases h with
  | panicked | answered => exact ⟨rfl, rfl⟩
  | rejected fault => cases (MediaBuffer.accepted_iff.mp haccepted).symm.trans fault
  | closed _ closed => cases hopened.symm.trans closed
  | unanswered _ answer => cases ha.symm.trans answer

end Ends

/-- What a call that had this result can have been. -/
theorem exists_ends {r : Attempt CodecError c.Output} (h : (c.perform d input p).result = r) :
    ∃ cs q, c.Ends d input p r cs q :=
  h ▸ ⟨_, _, c.ends_perform d input p⟩

/-! ### What each result came from -/

theorem closed_iff : (c.perform d input p).result = .error .backendClosed ↔
    input.Accepted d.options.maxInputBytes ∧ p.hasClosed d.handle = true := by
  constructor
  · intro h
    obtain ⟨cs, q, hends⟩ := exists_ends h
    cases hends with
    | closed accepted closed => exact ⟨accepted, closed⟩
    | answered _ _ _ concluded => exact absurd concluded (c.concluded_ne_refusal _ _ _).2
  · rintro ⟨haccepted, hclosed⟩
    exact (course_of_closed (MediaBuffer.accepted_iff.mp haccepted) hclosed).result

section Answered

variable {a : Answer} (ha : c.answer? d.handle.backend p.past input.data.toBytes = some a)
include ha

/-- An operation that can be asked rejects an input for what is wrong with the input. -/
theorem rejected_iff {f : InputFault} : (c.perform d input p).result = .error (.invalidInput f) ↔
    input.fault? d.options.maxInputBytes = some f := by
  constructor
  · intro h
    obtain ⟨cs, q, hends⟩ := exists_ends h
    cases hends with
    | rejected fault => exact fault
    | unanswered _ answer => cases ha.symm.trans answer
    | answered _ _ _ concluded => exact absurd concluded ((c.concluded_ne_refusal _ _ _).1 f)
  · intro h
    exact (course_of_fault h).result

theorem result_of_status (h : d.Admits input p) {code : Status} (hcode : a.ending = .status code) :
    (c.perform d input p).result = c.concluded d.options a code :=
  (course_of_status (MediaBuffer.accepted_iff.mp h.accepted) h.opened ha hcode).result

theorem ok_iff {v : c.Output} : (c.perform d input p).result = .ok v ↔
    d.Admits input p ∧ a.ending = .status Status.ok ∧ c.made a = .ok v := by
  constructor
  · intro h
    obtain ⟨cs, q, hends⟩ := exists_ends h
    cases hends with
    | @answered b code _ admits answer ending concluded =>
        obtain rfl := Option.some.inj (ha.symm.trans answer)
        obtain ⟨rfl, hmade⟩ := concluded_eq_ok_iff.mp concluded
        exact ⟨admits, ending, hmade⟩
  · rintro ⟨hadmits, hok, hmade⟩
    rw [result_of_status ha hadmits hok]
    exact concluded_eq_ok_iff.mpr ⟨rfl, hmade⟩

theorem failed_iff {op : Operation} {code : Status} {partials : List Bytes} :
    (c.perform d input p).result = .error (.backend op code partials) ↔
      d.Admits input p ∧ a.ending = .status code ∧ code ≠ Status.ok ∧ op = c.operation ∧
        partials = Dispatcher.kept d.options a.chunks := by
  constructor
  · intro h
    obtain ⟨cs, q, hends⟩ := exists_ends h
    cases hends with
    | @answered b returned _ admits answer ending concluded =>
        obtain rfl := Option.some.inj (ha.symm.trans answer)
        obtain ⟨hfailed, rfl, rfl, hpartials⟩ := concluded_eq_backend_iff.mp concluded
        exact ⟨admits, ending, hfailed, rfl, hpartials⟩
  · rintro ⟨hadmits, hcode, hfailed, hop, hpartials⟩
    rw [result_of_status ha hadmits hcode]
    exact concluded_eq_backend_iff.mpr ⟨hfailed, hop, rfl, hpartials⟩

theorem malformed_iff {f : ResultFault} :
    (c.perform d input p).result = .error (.malformedResult f) ↔
      d.Admits input p ∧ a.ending = .status Status.ok ∧ c = .frame ∧ a.chunks.length ≠ 1 ∧
        f = .frameCount .videoFirstFrame a.chunks.length := by
  constructor
  · intro h
    obtain ⟨cs, q, hends⟩ := exists_ends h
    cases hends with
    | @answered b code _ admits answer ending concluded =>
        obtain rfl := Option.some.inj (ha.symm.trans answer)
        obtain ⟨rfl, rfl, hcount, rfl⟩ := malformed_of_concluded concluded
        exact ⟨admits, ending, rfl, hcount, rfl⟩
  · rintro ⟨hadmits, hok, rfl, hcount, rfl⟩
    rw [result_of_status ha hadmits hok, concluded, if_pos rfl]
    rcases Dispatcher.sole_cases a.chunks with ⟨b, hb, -⟩ | ⟨-, hmany⟩
    · rw [hb] at hcount
      exact absurd rfl hcount
    · exact hmany

theorem panicked_iff :
    (c.perform d input p).result = .panic ↔ d.Admits input p ∧ a.ending = .panic := by
  constructor
  · intro h
    obtain ⟨cs, q, hends⟩ := exists_ends h
    cases hends with
    | panicked admits answer ending =>
        obtain rfl := Option.some.inj (ha.symm.trans answer)
        exact ⟨admits, ending⟩
    | answered _ _ _ concluded => exact absurd concluded (c.concluded_ne_panic _ _ _)
  · rintro ⟨⟨haccepted, hopened⟩, hpanic⟩
    exact (course_of_panic (MediaBuffer.accepted_iff.mp haccepted) hopened ha hpanic).result

end Answered

/-- What a call does with its input and its handle before the backend is asked. -/
structure Guarded (c : Dispatch) (d : Dispatcher) (input : MediaBuffer) (p : State)
    (r : Ran CodecError c.Output) : Prop where
  /-- A bad input is rejected as such, also on a closed handle. -/
  rejected : (∃ f, r.result = .error (.invalidInput f)) ↔ ¬ input.Accepted d.options.maxInputBytes
  closed : r.result = .error .backendClosed ↔
    input.Accepted d.options.maxInputBytes ∧ p.hasClosed d.handle = true
  /-- A call that does not get through calls nothing and changes nothing. -/
  silent : ¬ d.Admits input p → r.journal.calls = [] ∧ r.after = p
  /-- A call that gets through asks the backend once, with the given data. -/
  asks : d.Admits input p → r.journal.calls = [.invoke c.operation input.data.toBytes] ∧
    r.after = p.called (.invoke c.operation input.data.toBytes)

theorem guarded_perform {a : Answer}
    (ha : c.answer? d.handle.backend p.past input.data.toBytes = some a) :
    c.Guarded d input p (c.perform d input p) := by
  have hends := c.ends_perform d input p
  refine ⟨?_, closed_iff, hends.silent, hends.asks ha⟩
  rw [MediaBuffer.not_accepted_iff]
  exact exists_congr fun f => rejected_iff ha

end Dispatch

/-! ## The two calls with a single result -/

/-- The record has the fields that a probe wrote, and zero in every other one. -/
structure Probe.Leaves (e : Probe) (m : VideoMetadata) : Prop where
  width : e.width = some m.width ∨ e.width = none ∧ m.width = 0
  height : e.height = some m.height ∨ e.height = none ∧ m.height = 0
  duration : e.duration = some m.duration ∨ e.duration = none ∧ m.duration = 0

theorem Probe.metadata_eq_iff {e : Probe} {m : VideoMetadata} : e.metadata = m ↔ e.Leaves m := by
  have of_getD {α : Type} {o : Option α} {zero v : α} :
      o.getD zero = v ↔ o = some v ∨ o = none ∧ v = zero := by
    rw [Option.getD_eq_iff, eq_comm (a := v)]
  obtain ⟨width, height, duration⟩ := m
  rw [metadata, VideoMetadata.mk.injEq, of_getD, of_getD, of_getD]
  exact ⟨fun h => ⟨h.1, h.2.1, h.2.2⟩, fun h => ⟨h.width, h.height, h.duration⟩⟩

namespace Dispatcher

/-- What the extraction of a frame comes to, where the backend does `e` if it is asked. -/
structure Extracts (d : Dispatcher) (input : MediaBuffer) (p : State) (e : Emission)
    (r : Ran CodecError Bytes) : Prop extends Dispatch.frame.Guarded d input p r where
  /-- The answer is the only frame, whatever it holds. -/
  ok : ∀ frame, r.result = .ok frame ↔
    d.Admits input p ∧ e.ending = .status Status.ok ∧ e.chunks = [frame]
  /-- Frames are counted after a success only. -/
  malformed : ∀ f, r.result = .error (.malformedResult f) ↔
    d.Admits input p ∧ e.ending = .status Status.ok ∧ e.chunks.length ≠ 1 ∧
      f = .frameCount .videoFirstFrame e.chunks.length
  failed : ∀ op code partials, r.result = .error (.backend op code partials) ↔
    d.Admits input p ∧ e.ending = .status code ∧ code ≠ Status.ok ∧ op = .videoFirstFrame ∧
      partials = match d.options.partialResults with | .discard => [] | .preserve => e.chunks
  panicked : r.result = .panic ↔ d.Admits input p ∧ e.ending = .panic

/-- What the probe of a video comes to, where the backend does `e` if it is asked. -/
structure Probes (d : Dispatcher) (input : MediaBuffer) (p : State) (e : Probe)
    (r : Ran CodecError VideoMetadata) : Prop extends Dispatch.size.Guarded d input p r where
  ok : ∀ m, r.result = .ok m ↔
    d.Admits input p ∧ e.ending = .status Status.ok ∧ e.Leaves m
  /-- A failure keeps nothing, under either policy. -/
  failed : ∀ op code partials, r.result = .error (.backend op code partials) ↔
    d.Admits input p ∧ e.ending = .status code ∧ code ≠ Status.ok ∧ op = .videoGetSize ∧
      partials = []
  panicked : r.result = .panic ↔ d.Admits input p ∧ e.ending = .panic

theorem extracts_firstFrame (d : Dispatcher) (input : MediaBuffer) (p : State) :
    d.Extracts input p (d.handle.backend.firstFrame p.past input.data.toBytes)
      (d.firstFrame input p) := by
  have ha : Dispatch.frame.answer? d.handle.backend p.past input.data.toBytes = some _ := rfl
  refine ⟨Dispatch.guarded_perform ha, ?_, ?_, ?_, Dispatch.panicked_iff ha⟩
  · intro frame
    refine (Dispatch.ok_iff ha).trans (and_congr_right fun _ => and_congr_right fun _ => ?_)
    exact sole_eq_ok_iff
  · intro f
    refine (Dispatch.malformed_iff ha).trans (and_congr_right fun _ => and_congr_right fun _ => ?_)
    exact and_iff_right rfl
  · intro op code partials
    exact Dispatch.failed_iff ha

theorem probes_videoSize (d : Dispatcher) (input : MediaBuffer) (p : State) :
    d.Probes input p (d.handle.backend.getSize p.past input.data.toBytes)
      (d.videoSize input p) := by
  have ha : Dispatch.size.answer? d.handle.backend p.past input.data.toBytes = some _ := rfl
  refine ⟨Dispatch.guarded_perform ha, ?_, ?_, Dispatch.panicked_iff ha⟩
  · intro m
    refine (Dispatch.ok_iff ha).trans (and_congr_right fun _ => and_congr_right fun _ => ?_)
    exact (Attempt.ok.injEq _ _).to_iff.trans Probe.metadata_eq_iff
  · intro op code partials
    rw [← kept_nil d.options]
    exact Dispatch.failed_iff ha

/-- The two calls with a single result. -/
theorem extracts_probes (d : Dispatcher) (input : MediaBuffer) (p : State) :
    d.Extracts input p (d.handle.backend.firstFrame p.past input.data.toBytes)
        (d.firstFrame input p) ∧
      d.Probes input p (d.handle.backend.getSize p.past input.data.toBytes)
        (d.videoSize input p) :=
  ⟨d.extracts_firstFrame input p, d.probes_videoSize input p⟩

end Dispatcher

end MediaCodec
