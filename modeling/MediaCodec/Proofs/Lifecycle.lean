/-
Lifecycles — the way of a call through its states.

A dispatcher makes three calls, and they go the same way.  `Dispatch` has them as values: what a
call is about, what the backend answers if it is asked, and what the dispatcher makes of an answer
that the backend calls a success.  A call then goes through one of five courses, and each is given
in full: its result, the states that it enters, and the calls that it makes with the state that it
is in when it makes them (`course_of_fault` to `course_of_status`).

That every call is legal is read off the courses.  It begins idle, it moves only as the lifecycle
allows, it asks the backend as a dispatched call, and it ends completed where it succeeds and
failed where it does not.  No move is ever refused, and so a result is malformed only where the
number of frames is wrong.
-/

import MediaCodec.Proofs.Dispatch

namespace MediaCodec

/-! ## Calls and the states that they are made in -/

namespace Journal

/-- The calls of a journal, each with the state that was entered last before it; `s` is the state
before the journal. -/
def placed (s : Option InvocationState) : Journal → List (Option InvocationState × Call)
  | [] => []
  | .state t :: rest => placed (some t) rest
  | .call c :: rest => (s, c) :: placed s rest
  | .event _ :: rest => placed s rest

section Placed

variable (s : Option InvocationState) (j : Journal)

@[simp] theorem placed_nil : placed s [] = [] := rfl

@[simp] theorem placed_state (t : InvocationState) :
    placed s (.state t :: j) = placed (some t) j := rfl

@[simp] theorem placed_call (c : Call) : placed s (.call c :: j) = (s, c) :: placed s j := rfl

@[simp] theorem placed_event (e : Event) : placed s (.event e :: j) = placed s j := rfl

@[simp] theorem placed_map_event_append (es : List Event) :
    placed s (es.map .event ++ j) = placed s j := by
  induction es with
  | nil => rfl
  | cons e rest ih => exact ih

@[simp] theorem placed_within (span : Span) : placed s (within span j) = placed s j := by
  induction j generalizing s with
  | nil => rfl
  | cons h rest ih =>
      cases h with
      | state t => exact ih (some t)
      | call c => exact congrArg ((s, c) :: ·) (ih s)
      | event e => exact ih s

theorem map_snd_placed : (placed s j).map Prod.snd = calls j := by
  induction j generalizing s with
  | nil => rfl
  | cons h rest ih =>
      cases h with
      | state t => exact ih (some t)
      | call c => exact congrArg (c :: ·) (ih s)
      | event e => exact ih s

theorem placed_of_calls_eq_nil (h : calls j = []) : placed s j = [] := by
  rw [← map_snd_placed s j] at h
  exact List.map_eq_nil_iff.mp h

end Placed

end Journal

/-! ## The three calls -/

/-- What a backend answers, whichever way it is called. -/
structure Answer where
  chunks : List Bytes
  metadata : VideoMetadata
  ending : Ending

def Emission.answer (e : Emission) : Answer := ⟨e.chunks, {}, e.ending⟩

def Probe.answer (e : Probe) : Answer := ⟨[], e.metadata, e.ending⟩

/-- A call of a dispatcher, apart from its input. -/
inductive Dispatch
  | chunks (op : Operation)
  | frame
  | size
  deriving DecidableEq, Repr

namespace Dispatch

def operation : Dispatch → Operation
  | chunks op => op
  | frame => .videoFirstFrame
  | size => .videoGetSize

/-- What a call answers with. -/
abbrev Output : Dispatch → Type
  | chunks _ => ChunkStream
  | frame => Bytes
  | size => VideoMetadata

def perform (d : Dispatcher) (input : MediaBuffer) : (c : Dispatch) → Run CodecError c.Output
  | chunks op => d.dispatchChunks op input
  | frame => d.firstFrame input
  | size => d.videoSize input

/-- What the backend answers if it is asked; an operation that does not stream is not asked for
chunks. -/
def answer? (b : Backend) (past : List Call) (bytes : Bytes) : Dispatch → Option Answer
  | chunks op => op.streaming?.map fun s => (b.stream s past bytes).answer
  | frame => some (b.firstFrame past bytes).answer
  | size => some (b.getSize past bytes).answer

/-- What is made of an answer that the backend calls a success. -/
def made (a : Answer) : (c : Dispatch) → Attempt CodecError c.Output
  | chunks _ => .ok ⟨a.chunks⟩
  | frame => Dispatcher.sole a.chunks
  | size => .ok a.metadata

/-- What is made of an answer with a status. -/
def concluded (o : DispatchOptions) (a : Answer) (code : Status) (c : Dispatch) :
    Attempt CodecError c.Output :=
  if code = Status.ok then c.made a
  else .error (.backend c.operation code (Dispatcher.kept o a.chunks))

theorem concluded_size (o : DispatchOptions) (e : Probe) (code : Status) :
    size.concluded o e.answer code =
      if code = Status.ok then .ok e.metadata else .error (.backend .videoGetSize code []) := by
  rw [concluded, Probe.answer, Dispatcher.kept_nil]
  rfl

end Dispatch

namespace InvocationState

/-- The lifecycle leads from a state through the others, move by move, to the last. -/
inductive Leads : InvocationState → List InvocationState → InvocationState → Prop
  | stay (s : InvocationState) : Leads s [] s
  | move {s t u : InvocationState} {ts : List InvocationState} (allowed : s.canMoveTo t = true)
      (rest : Leads t ts u) : Leads s (t :: ts) u

/-- The states that chunks lead through as they arrive. -/
def ofChunks : List Bytes → List InvocationState
  | [] => []
  | _ :: _ => [.collectingChunks]

/-- The last state of a call that ended so. -/
def ofResult : Attempt ε α → InvocationState
  | .ok _ => .completed
  | _ => .failed

end InvocationState

/-! ## Courses -/

/-- What a run answers, the states of its invocation, the calls that it makes, each in its state, and
the state of the process after it. -/
structure Ran.Course (r : Ran ε α) (result : Attempt ε α) (states : List InvocationState)
    (placed : List (Option InvocationState × Call)) (q : State) : Prop where
  result : r.result = result
  states : r.journal.states = states
  placed : r.journal.placed none = placed
  after : r.after = q

theorem Ran.Course.calls {r : Ran ε α} {result : Attempt ε α} {states : List InvocationState}
    {placed : List (Option InvocationState × Call)} {q : State}
    (h : r.Course result states placed q) : r.journal.calls = placed.map Prod.snd := by
  rw [← Journal.map_snd_placed none, h.placed]

theorem Ran.Course.comesTo {r : Ran ε α} {result : Attempt ε α} {states : List InvocationState}
    {placed : List (Option InvocationState × Call)} {q : State}
    (h : r.Course result states placed q) : r.ComesTo result (placed.map Prod.snd) q :=
  ⟨h.result, h.calls, h.after⟩

namespace Dispatcher

theorem states_arrivals (chunks : List Bytes) :
    Journal.states (arrivals (.ofList chunks)) = InvocationState.ofChunks chunks := by
  have hempty : (ChunkCollector.ofList chunks).isEmpty = chunks.isEmpty := by
    have htoList : (ChunkCollector.ofList chunks).chunks.toList = chunks :=
      ChunkCollector.toList_ofList chunks
    rw [ChunkCollector.isEmpty, ← Array.isEmpty_toList, htoList]
  unfold arrivals
  rw [hempty]
  cases chunks <;> rfl

theorem states_soleEnd (frames : List Bytes) :
    Journal.states (soleEnd frames) = [.ofResult (sole frames)] := by
  match frames with
  | [_] | [] | _ :: _ :: _ => rfl

/-- The course of a call whose backend was asked, and that calls nothing after that. -/
theorem course_asked {op : Operation} {input : MediaBuffer} {bytes : Bytes} {events : List Event}
    {j : Journal} {result : Attempt CodecError α} {q : State} (hcalls : j.calls = []) :
    (Ran.mk (Journal.within (span op input) (asked op bytes events ++ j)) result q).Course result
      ([.idle, .validating, .dispatched] ++ j.states) [(some .dispatched, .invoke op bytes)] q := by
  refine ⟨rfl, ?_, ?_, rfl⟩
  · simp [asked]
  · simp [asked, Journal.placed_of_calls_eq_nil _ _ hcalls]

end Dispatcher

namespace Dispatch

open Dispatcher (asked arrivals)

variable {c : Dispatch} {d : Dispatcher} {input : MediaBuffer} {p : State}

theorem course_of_fault {f : InputFault} (h : input.fault? d.options.maxInputBytes = some f) :
    (c.perform d input p).Course (.error (.invalidInput f)) [.idle, .validating, .failed] [] p := by
  have hran : c.perform d input p =
      ⟨Journal.within (Dispatcher.span c.operation input)
        [.state .idle, .state .validating, .event (Dispatcher.rejected f), .state .failed],
        .error (.invalidInput f), p⟩ := by
    cases c with
    | chunks op => exact Dispatcher.invoke_of_fault h
    | frame => exact Dispatcher.invoke_of_fault h
    | size => exact Dispatcher.invoke_of_fault h
  rw [hran]
  exact ⟨rfl, by simp, by simp, rfl⟩

theorem course_of_closed (h : input.fault? d.options.maxInputBytes = none)
    (hclosed : p.hasClosed d.handle = true) :
    (c.perform d input p).Course (.error .backendClosed) [.idle, .validating, .failed] [] p := by
  have hran : c.perform d input p =
      ⟨Journal.within (Dispatcher.span c.operation input)
        [.state .idle, .state .validating, .state .failed], .error .backendClosed, p⟩ := by
    cases c with
    | chunks op => exact Dispatcher.invoke_of_closed h hclosed
    | frame => exact Dispatcher.invoke_of_closed h hclosed
    | size => exact Dispatcher.invoke_of_closed h hclosed
  rw [hran]
  exact ⟨rfl, by simp, by simp, rfl⟩

section Open

variable (hvalid : input.fault? d.options.maxInputBytes = none)
  (hopen : p.hasClosed d.handle = false)
include hvalid hopen

theorem course_of_unanswered
    (h : c.answer? d.handle.backend p.past input.data.toBytes = none) :
    (c.perform d input p).Course (.error (.invalidInput (.notStreaming c.operation)))
      [.idle, .validating, .dispatched, .failed] [] p := by
  cases c with
  | chunks op =>
      have hs : op.streaming? = none := by simpa [answer?] using h
      have hran := Dispatcher.dispatchChunks_of_not_streaming hvalid hopen hs
      refine ⟨congrArg Ran.result hran, ?_, ?_, congrArg Ran.after hran⟩
      · rw [perform, hran]
        simp
      · rw [perform, hran]
        simp
  | frame => exact absurd h (Option.some_ne_none _)
  | size => exact absurd h (Option.some_ne_none _)

theorem course_of_panic {a : Answer}
    (h : c.answer? d.handle.backend p.past input.data.toBytes = some a)
    (hpanic : a.ending = .panic) :
    (c.perform d input p).Course .panic [.idle, .validating, .dispatched]
      [(some .dispatched, .invoke c.operation input.data.toBytes)]
      (p.called (.invoke c.operation input.data.toBytes)) := by
  obtain ⟨events, hran⟩ : ∃ events, c.perform d input p =
      ⟨Journal.within (Dispatcher.span c.operation input)
        (asked c.operation input.data.toBytes events ++ []), .panic,
        p.called (.invoke c.operation input.data.toBytes)⟩ := by
    simp only [List.append_nil]
    cases c with
    | chunks op =>
        obtain ⟨s, hs, rfl⟩ := Option.map_eq_some_iff.mp h
        exact ⟨_, Dispatcher.dispatchChunks_of_panic hvalid hopen hs rfl hpanic⟩
    | frame =>
        obtain rfl := Option.some.inj h
        exact ⟨_, Dispatcher.firstFrame_of_panic hvalid hopen rfl hpanic⟩
    | size =>
        obtain rfl := Option.some.inj h
        exact ⟨_, Dispatcher.videoSize_of_panic hvalid hopen rfl hpanic⟩
  rw [hran]
  exact Dispatcher.course_asked Journal.calls_nil

theorem course_of_status {a : Answer} {code : Status}
    (h : c.answer? d.handle.backend p.past input.data.toBytes = some a)
    (hcode : a.ending = .status code) :
    (c.perform d input p).Course (c.concluded d.options a code)
      ([.idle, .validating, .dispatched] ++
        (InvocationState.ofChunks a.chunks ++ [.ofResult (c.concluded d.options a code)]))
      [(some .dispatched, .invoke c.operation input.data.toBytes)]
      (p.called (.invoke c.operation input.data.toBytes)) := by
  -- After the answer come the arrival of its chunks, one move, and events; no call is made.
  obtain ⟨events, j, hcalls, hstates, hran⟩ : ∃ events j, Journal.calls j = [] ∧
      Journal.states j = InvocationState.ofChunks a.chunks ++
        [.ofResult (c.concluded d.options a code)] ∧
      c.perform d input p =
        ⟨Journal.within (Dispatcher.span c.operation input)
          (asked c.operation input.data.toBytes events ++ j), c.concluded d.options a code,
          p.called (.invoke c.operation input.data.toBytes)⟩ := by
    cases c with
    | chunks op =>
        obtain ⟨s, hs, rfl⟩ := Option.map_eq_some_iff.mp h
        have hran := Dispatcher.dispatchChunks_of_status hvalid hopen hs rfl hcode
        rw [List.append_assoc] at hran
        refine ⟨_, _, ?_, ?_, hran⟩
        · by_cases hok : code = Status.ok <;> simp [hok]
        · rw [Journal.states_append, Dispatcher.states_arrivals]
          by_cases hok : code = Status.ok <;>
            simp [hok, concluded, made, InvocationState.ofResult, Emission.answer]
    | frame =>
        obtain rfl := Option.some.inj h
        have hran := Dispatcher.firstFrame_of_status hvalid hopen rfl hcode
        rw [List.append_assoc] at hran
        refine ⟨_, _, ?_, ?_, hran⟩
        · by_cases hok : code = Status.ok <;> simp [hok]
        · rw [Journal.states_append, Dispatcher.states_arrivals]
          by_cases hok : code = Status.ok
          · simp [hok, concluded, made, Dispatcher.states_soleEnd, Emission.answer]
          · simp [hok, concluded, InvocationState.ofResult, Emission.answer]
    | size =>
        obtain rfl := Option.some.inj h
        have hran := Dispatcher.videoSize_of_status hvalid hopen rfl hcode
        rw [concluded_size]
        refine ⟨_, _, ?_, ?_, hran⟩
        · by_cases hok : code = Status.ok <;> simp [hok]
        · by_cases hok : code = Status.ok <;>
            simp [hok, InvocationState.ofResult, InvocationState.ofChunks, Probe.answer]
  rw [hran, ← hstates]
  exact Dispatcher.course_asked hcalls

end Open

/-! ## Legal calls -/

/-- Whether the backend was asked and handed something over. -/
def Emits (c : Dispatch) (d : Dispatcher) (input : MediaBuffer) (p : State)
    (r : Ran CodecError c.Output) : Prop :=
  .invoke c.operation input.data.toBytes ∈ r.journal.calls ∧
    ∃ a, c.answer? d.handle.backend p.past input.data.toBytes = some a ∧ a.chunks ≠ []

/-- A call goes through its lifecycle from the beginning to the end. -/
structure Legal (c : Dispatch) (d : Dispatcher) (input : MediaBuffer) (p : State)
    (r : Ran CodecError c.Output) : Prop where
  returns : r.result ≠ .panic
  /-- The call begins idle, moves as the lifecycle allows, and ends completed if it succeeds and
  failed if not. -/
  way : ∃ states, r.journal.states = .idle :: states ∧
    InvocationState.Leads .idle states (.ofResult r.result)
  /-- Whatever is called is the backend's entry point, by a dispatched call. -/
  asks : ∀ s call, (s, call) ∈ r.journal.placed none →
    s = some .dispatched ∧ call = .invoke c.operation input.data.toBytes
  collects : .collectingChunks ∈ r.journal.states ↔ c.Emits d input p r
  /-- A malformed result is a wrong number of frames, and no refused move. -/
  malformed : ∀ f, r.result = .error (.malformedResult f) →
    c = .frame ∧ ∃ a, c.answer? d.handle.backend p.past input.data.toBytes = some a ∧
      a.ending = .status Status.ok ∧ a.chunks.length ≠ 1 ∧
      f = .frameCount .videoFirstFrame a.chunks.length

theorem emits_of_not_asked {r : Ran CodecError c.Output} (h : r.journal.calls = []) :
    ¬ c.Emits d input p r := by
  rintro ⟨hcall, -⟩
  rw [h] at hcall
  exact List.not_mem_nil hcall

/-- A call that is refused before the backend is asked is legal. -/
theorem legal_of_refused {r : Ran CodecError c.Output} {e : CodecError}
    {states : List InvocationState} {q : State} (h : r.Course (.error e) (.idle :: states) [] q)
    (hway : InvocationState.Leads .idle states .failed)
    (hcollecting : .collectingChunks ∉ states) (he : ∀ f, e ≠ .malformedResult f) :
    c.Legal d input p r := by
  have hcalls : r.journal.calls = [] := h.calls
  obtain ⟨hresult, hstates, hplaced, -⟩ := h
  refine ⟨?_, ⟨states, hstates, ?_⟩, ?_, ?_, ?_⟩
  · rw [hresult]
    exact fun hpanic => nomatch hpanic
  · rw [hresult]
    exact hway
  · intro s call hmem
    rw [hplaced] at hmem
    exact absurd hmem List.not_mem_nil
  · rw [hstates]
    refine iff_of_false ?_ (emits_of_not_asked hcalls)
    intro hmem
    rcases List.mem_cons.mp hmem with hidle | hmem
    · cases hidle
    · exact hcollecting hmem
  · intro f hf
    rw [hresult] at hf
    exact absurd (Attempt.error.inj hf) (he f)

/-- The states of a call after the backend's answer. -/
theorem leads_concluded (chunks : List Bytes) (r : Attempt ε α) :
    InvocationState.Leads .dispatched (InvocationState.ofChunks chunks ++ [.ofResult r])
      (.ofResult r) := by
  cases chunks with
  | nil => cases r <;> exact .move rfl (.stay _)
  | cons chunk rest => cases r <;> exact .move rfl (.move rfl (.stay _))

theorem collectingChunks_mem_concluded (chunks : List Bytes) (r : Attempt ε α) :
    .collectingChunks ∈ [.idle, .validating, .dispatched] ++
        (InvocationState.ofChunks chunks ++ [.ofResult r]) ↔ chunks ≠ [] := by
  have hlast : InvocationState.collectingChunks ≠ .ofResult r := by
    cases r <;> exact fun h => nomatch h
  cases chunks with
  | nil => simp [InvocationState.ofChunks, hlast]
  | cons chunk rest => simp [InvocationState.ofChunks]

/-- What is made of a success is a result, unless the number of frames is wrong. -/
theorem made_cases (c : Dispatch) (a : Answer) :
    (∃ v, c.made a = .ok v) ∨ (c = .frame ∧ a.chunks.length ≠ 1 ∧
      c.made a = .error (.malformedResult (.frameCount .videoFirstFrame a.chunks.length))) := by
  cases c with
  | chunks op => exact .inl ⟨_, rfl⟩
  | size => exact .inl ⟨_, rfl⟩
  | frame =>
      rcases Dispatcher.sole_cases a.chunks with ⟨b, -, hone⟩ | ⟨hcount, hmany⟩
      · exact .inl ⟨b, hone⟩
      · exact .inr ⟨rfl, hcount, hmany⟩

/-- What is made of an answer is a result, a wrong number of frames, or the backend's failure. -/
theorem concluded_cases (c : Dispatch) (o : DispatchOptions) (a : Answer) (code : Status) :
    (∃ v, c.concluded o a code = .ok v) ∨
      (c = .frame ∧ code = Status.ok ∧ a.chunks.length ≠ 1 ∧ c.concluded o a code =
        .error (.malformedResult (.frameCount .videoFirstFrame a.chunks.length))) ∨
      c.concluded o a code = .error (.backend c.operation code (Dispatcher.kept o a.chunks)) := by
  by_cases hok : code = Status.ok
  · rw [concluded, if_pos hok]
    rcases c.made_cases a with hmade | ⟨hframe, hcount, hmany⟩
    · exact .inl hmade
    · exact .inr (.inl ⟨hframe, hok, hcount, hmany⟩)
  · exact .inr (.inr (if_neg hok))

theorem malformed_of_concluded {o : DispatchOptions} {a : Answer} {code : Status} {f : ResultFault}
    (h : c.concluded o a code = .error (.malformedResult f)) :
    c = .frame ∧ code = Status.ok ∧ a.chunks.length ≠ 1 ∧
      f = .frameCount .videoFirstFrame a.chunks.length := by
  rcases c.concluded_cases o a code with ⟨v, hv⟩ | ⟨hframe, hok, hcount, hmany⟩ | hfailed
  · cases hv.symm.trans h
  · cases hmany.symm.trans h
    exact ⟨hframe, hok, hcount, rfl⟩
  · cases hfailed.symm.trans h

theorem backend_of_concluded {o : DispatchOptions} {a : Answer} {code returned : Status}
    {op : Operation} {partials : List Bytes}
    (h : c.concluded o a code = .error (.backend op returned partials)) :
    op = c.operation ∧ returned = code := by
  rcases c.concluded_cases o a code with ⟨v, hv⟩ | ⟨-, -, -, hmany⟩ | hfailed
  · cases hv.symm.trans h
  · cases hmany.symm.trans h
  · cases hfailed.symm.trans h
    exact ⟨rfl, rfl⟩

theorem concluded_ne_panic (c : Dispatch) (o : DispatchOptions) (a : Answer) (code : Status) :
    c.concluded o a code ≠ .panic := by
  intro h
  rcases c.concluded_cases o a code with ⟨v, hv⟩ | ⟨-, -, -, hmany⟩ | hfailed
  · cases hv.symm.trans h
  · cases hmany.symm.trans h
  · cases hfailed.symm.trans h

/-- Every call of a dispatcher is legal, as long as the backend comes back from it. -/
theorem legal_perform (c : Dispatch) (d : Dispatcher) (input : MediaBuffer) (p : State)
    (hreturns : ∀ a, c.answer? d.handle.backend p.past input.data.toBytes = some a →
      a.ending ≠ .panic) :
    c.Legal d input p (c.perform d input p) := by
  -- One case for each course; the first three never come to an answer.
  cases hfault : input.fault? d.options.maxInputBytes with
  | some f =>
      exact legal_of_refused (course_of_fault hfault) (.move rfl (.move rfl (.stay _)))
        (by decide) (fun f h => nomatch h)
  | none =>
  cases hclosed : p.hasClosed d.handle with
  | true =>
      exact legal_of_refused (course_of_closed hfault hclosed) (.move rfl (.move rfl (.stay _)))
        (by decide) (fun f h => nomatch h)
  | false =>
  cases hanswer : c.answer? d.handle.backend p.past input.data.toBytes with
  | none =>
      exact legal_of_refused (course_of_unanswered hfault hclosed hanswer)
        (.move rfl (.move rfl (.move rfl (.stay _)))) (by decide) (fun f h => nomatch h)
  | some a =>
  cases hending : a.ending with
  | panic => exact absurd hending (hreturns a hanswer)
  | status code =>
      have hcourse := course_of_status hfault hclosed hanswer hending
      have hcalls : _ = [Call.invoke c.operation input.data.toBytes] := hcourse.calls
      obtain ⟨hresult, hstates, hplaced, -⟩ := hcourse
      refine ⟨?_, ⟨_, hstates, ?_⟩, ?_, ?_, ?_⟩
      · rw [hresult]
        exact c.concluded_ne_panic _ _ _
      · rw [hresult]
        exact .move rfl (.move rfl (leads_concluded _ _))
      · intro s call hmem
        rw [hplaced] at hmem
        exact Prod.mk.inj (List.mem_singleton.mp hmem)
      · rw [hstates, collectingChunks_mem_concluded, Emits, hcalls]
        constructor
        · intro hchunks
          exact ⟨List.mem_singleton_self _, a, hanswer, hchunks⟩
        · rintro ⟨-, b, hb, hchunks⟩
          obtain rfl := Option.some.inj (hanswer.symm.trans hb)
          exact hchunks
      · intro f hf
        rw [hresult] at hf
        obtain ⟨hc, rfl, hcount, hfault⟩ := malformed_of_concluded hf
        exact ⟨hc, a, hanswer, hending, hcount, hfault⟩

end Dispatch

/-- A codec that hands over two frames and calls that a success. -/
def Backend.doubling : Backend where
  stream _ _ _ := {}
  firstFrame _ bytes := { chunks := [bytes, bytes] }
  getSize _ _ := {}

theorem Dispatch.legal_perform_doubling :
    let d : Dispatcher := ⟨⟨0, none, .doubling⟩, {}⟩
    let p : State := .fresh ⟨"/", ⟨"linux", "x86_64"⟩, ⟨true, fun _ _ => ⟨[], .ok .doubling⟩⟩⟩ .empty
    let input : MediaBuffer := .ofBuffer (.ofBytes [1, 2])
    (∀ a, frame.answer? d.handle.backend p.past input.data.toBytes = some a →
      a.ending ≠ .panic) ∧ frame.Legal d input p (frame.perform d input p) := by
  intro d p input
  have hreturns : ∀ a, frame.answer? d.handle.backend p.past input.data.toBytes = some a →
      a.ending ≠ .panic := by
    intro a ha
    obtain rfl := Option.some.inj ha
    exact fun h => nomatch h
  exact ⟨hreturns, legal_perform frame d input p hreturns⟩

end MediaCodec
