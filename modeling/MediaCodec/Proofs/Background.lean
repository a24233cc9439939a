/-
The background — what changes for a caller that moves its operations there.

A task is the request of its name, on a thread of its own (`Task.perform_eq`).  Threads are counted,
and nothing that a codec or a handle is used for looks at the count: a run is *oblivious* if two
processes that differ in it alone stay so, with the same calls and the same answer.  So a task does
what its request does.  They part where the request panics, for a task is told of the panic
(`Attempt.caught`), and in the number of threads.

Two runs of uses, the one with requests where the other has tasks, can then be followed side by
side, and each step finds its process as the other does but for the threads
(`History.alongside_run`).
-/

import MediaCodec.Proofs.Closing
import MediaCodec.Proofs.Lifecycle
import MediaCodec.Service.Background

namespace MediaCodec

/-! ## Processes that differ in their threads -/

/-- Two processes are alike but for the number of their threads. -/
structure State.Alike (p q : State) : Prop where
  eq : q = { p with threads := q.threads }

namespace State.Alike

variable {p q : State}

theorem refl (p : State) : Alike p p := ⟨rfl⟩

theorem of_threads (h : p.Alike q) (n m : Nat) :
    Alike { p with threads := n } { q with threads := m } := by
  obtain ⟨h⟩ := h
  exact ⟨by rw [h]⟩

theorem past_eq (h : p.Alike q) : q.past = p.past := by rw [h.eq]

theorem hasClosed_eq (h : p.Alike q) (k : Handle) : q.hasClosed k = p.hasClosed k := by
  rw [h.eq]
  rfl

theorem called (h : p.Alike q) (c : Call) : (p.called c).Alike (q.called c) := by
  obtain ⟨h⟩ := h
  exact ⟨by rw [h]; rfl⟩

theorem closing (h : p.Alike q) (k : Handle) : (p.closing k).Alike (q.closing k) := by
  obtain ⟨h⟩ := h
  exact ⟨by rw [h]; rfl⟩

end State.Alike

/-- Two runs have the same answer and the same calls, and leave processes that are alike. -/
structure Ran.Alike (r r' : Ran ε α) : Prop where
  result : r'.result = r.result
  calls : r'.journal.calls = r.journal.calls
  after : r.after.Alike r'.after

/-- The computation does not look at the number of threads. -/
def Run.Oblivious (r : Run ε α) : Prop := ∀ p q, p.Alike q → (r p).Alike (r q)

namespace Run.Oblivious

theorem bind {r : Run ε α} {f : α → Run ε β} (hr : r.Oblivious) (hf : ∀ a, (f a).Oblivious) :
    (r >>= f).Oblivious := by
  intro p q hpq
  obtain ⟨hresult, hcalls, hafter⟩ := hr p q hpq
  cases h : (r p).result with
  | ok a =>
      obtain ⟨hresult', hcalls', hafter'⟩ := hf a _ _ hafter
      rw [bind_of_ok h, bind_of_ok (hresult.trans h)]
      refine ⟨hresult', ?_, hafter'⟩
      simp only [Ran.journal_prepend, Journal.calls_append, hcalls, hcalls']
  | error e =>
      rw [bind_of_error h, bind_of_error (hresult.trans h)]
      exact ⟨rfl, hcalls, hafter⟩
  | panic =>
      rw [bind_of_panic h, bind_of_panic (hresult.trans h)]
      exact ⟨rfl, hcalls, hafter⟩

theorem within {r : Run ε α} (s : Span) (hr : r.Oblivious) : (Run.within s r).Oblivious := by
  intro p q hpq
  obtain ⟨hresult, hcalls, hafter⟩ := hr p q hpq
  refine ⟨hresult, ?_, hafter⟩
  simp only [within_apply, Journal.calls_within, hcalls]

theorem mapError {r : Run ε α} (f : ε → δ) (hr : r.Oblivious) :
    (Run.mapError f r).Oblivious := by
  intro p q hpq
  obtain ⟨hresult, hcalls, hafter⟩ := hr p q hpq
  refine ⟨?_, hcalls, hafter⟩
  simp only [mapError_apply, hresult]

theorem attempt {r : Run ε α} (hr : r.Oblivious) : (Run.attempt r : Run δ _).Oblivious := by
  intro p q hpq
  obtain ⟨hresult, hcalls, hafter⟩ := hr p q hpq
  exact ⟨congrArg Attempt.ok hresult, hcalls, hafter⟩

theorem compositional : Compositional Oblivious where
  pure _ _ _ hpq := ⟨rfl, rfl, hpq⟩
  fail _ _ _ hpq := ⟨rfl, rfl, hpq⟩
  panic _ _ hpq := ⟨rfl, rfl, hpq⟩
  event _ _ _ hpq := ⟨rfl, rfl, hpq⟩
  bind := bind
  attempt := attempt
  mapError := mapError
  within := within

/-- On a thread of its own an oblivious computation does what it does here. -/
theorem alike_onNewThread {r : Run ε α} (hr : r.Oblivious) {p q : State} (hpq : p.Alike q) :
    (r p).Alike (Run.onNewThread r q) := by
  obtain ⟨hresult, hcalls, hafter⟩ := hr p { q with threads := q.threads + 1 } ⟨hpq.eq ▸ rfl⟩
  refine ⟨hresult, ?_, hafter⟩
  rw [onNewThread_apply, Journal.calls_onThread, hcalls]

theorem onNewThread {r : Run ε α} (hr : r.Oblivious) : (Run.onNewThread r).Oblivious := by
  intro p q hpq
  obtain ⟨hresult, hcalls, hafter⟩ := hr _ _ (hpq.of_threads (p.threads + 1) (q.threads + 1))
  refine ⟨hresult, ?_, hafter⟩
  rw [onNewThread_apply, onNewThread_apply, Journal.calls_onThread, Journal.calls_onThread, hcalls]

end Run.Oblivious

/-! ## What a codec is used for -/

theorem Ran.ComesTo.alike {r r' : Ran ε α} {result : Attempt ε α} {cs : List Call} {p q : State}
    (h : r.ComesTo result cs p) (h' : r'.ComesTo result cs q) (hpq : p.Alike q) : r.Alike r' := by
  refine ⟨h'.result.trans h.result.symm, h'.calls.trans h.calls.symm, ?_⟩
  rw [h.after, h'.after]
  exact hpq

/-- A dispatcher looks at whether its handle is closed, and its backend at the calls before. -/
theorem Dispatch.oblivious_perform (c : Dispatch) (d : Dispatcher) (input : MediaBuffer) :
    (c.perform d input).Oblivious := by
  intro p q hpq
  -- Whichever course the call takes in one process, it takes in the other.
  cases hfault : input.fault? d.options.maxInputBytes with
  | some f => exact (course_of_fault hfault).comesTo.alike (course_of_fault hfault).comesTo hpq
  | none =>
  have hflag := hpq.hasClosed_eq d.handle
  cases hclosed : p.hasClosed d.handle with
  | true =>
      rw [hclosed] at hflag
      exact (course_of_closed hfault hclosed).comesTo.alike
        (course_of_closed hfault hflag).comesTo hpq
  | false =>
  rw [hclosed] at hflag
  have hcalled := hpq.called (.invoke c.operation input.data.toBytes)
  have hsame : c.answer? d.handle.backend q.past input.data.toBytes =
      c.answer? d.handle.backend p.past input.data.toBytes := by rw [hpq.past_eq]
  cases hanswer : c.answer? d.handle.backend p.past input.data.toBytes with
  | none =>
      exact (course_of_unanswered hfault hclosed hanswer).comesTo.alike
        (course_of_unanswered hfault hflag (hsame.trans hanswer)).comesTo hpq
  | some a =>
  cases hending : a.ending with
  | panic =>
      exact (course_of_panic hfault hclosed hanswer hending).comesTo.alike
        (course_of_panic hfault hflag (hsame.trans hanswer) hending).comesTo hcalled
  | status code =>
      exact (course_of_status hfault hclosed hanswer hending).comesTo.alike
        (course_of_status hfault hflag (hsame.trans hanswer) hending).comesTo hcalled

theorem Service.founded_oblivious (s : Service) : s.Founded Run.Oblivious where
  dispatch op _ :=
    .within _ (.mapError _ (Dispatch.oblivious_perform (.chunks op.operation) _ _))
  videoFirstFrame _ := .within _ (.mapError _ (Dispatch.oblivious_perform .frame _ _))
  videoGetSize _ := .within _ (.mapError _ (Dispatch.oblivious_perform .size _ _))

theorem Request.oblivious_perform (s : Service) (input : Buffer) (r : Request) :
    (r.perform s input).Oblivious :=
  Run.Oblivious.compositional.perform s.founded_oblivious r input

theorem Handle.oblivious_close (h : Handle) : (h.close : Run ε Bool).Oblivious := by
  intro p q hpq
  have hflag := hpq.hasClosed_eq h
  cases hclosed : p.hasClosed h with
  | true =>
      rw [hclosed] at hflag
      rw [close_of_closed hclosed, close_of_closed hflag]
      exact ⟨rfl, rfl, hpq⟩
  | false =>
      rw [hclosed] at hflag
      exact (close_of_open hclosed).alike (close_of_open hflag) (hpq.closing h)

theorem Use.oblivious_perform (h : Handle) (u : Use) : (u.perform h).Oblivious := by
  have hP := Run.Oblivious.compositional
  cases u with
  | dispatchChunks o op input =>
      exact hP.map (.mapError _ (Dispatch.oblivious_perform (.chunks op) _ _)) _
  | firstFrame o input => exact hP.map (.mapError _ (Dispatch.oblivious_perform .frame _ _)) _
  | videoSize o input => exact hP.map (.mapError _ (Dispatch.oblivious_perform .size _ _)) _
  | request o r input => exact hP.map (Request.oblivious_perform _ _ _) _
  | background o r input =>
      exact hP.map (hP.background (Request.oblivious_perform _ _ _).onNewThread) _
  | closeHandle | closeService o => exact hP.map h.oblivious_close _

/-! ## Tasks -/

namespace Attempt

/-- What a caller in the background is told: of a panic, that the task failed. -/
def caught : Attempt ServiceError α → Attempt ServiceError α
  | ok a => ok a
  | error e => error e
  | panic => error .task

theorem caught_map (f : α → β) (r : Attempt ServiceError α) : (r.map f).caught = r.caught.map f := by
  cases r <;> rfl

theorem caught_ne_panic (r : Attempt ServiceError α) : r.caught ≠ .panic := by
  cases r <;> exact fun h => nomatch h

end Attempt

/-- The second run is the first, with a panic caught. -/
structure Ran.Caught (r r' : Ran ServiceError α) : Prop where
  result : r'.result = r.result.caught
  calls : r'.journal.calls = r.journal.calls
  after : r.after.Alike r'.after

theorem Run.Oblivious.caught_background {r : Run ServiceError α} (hr : r.Oblivious) {p q : State}
    (hpq : p.Alike q) : (r p).Caught (Service.background r q) := by
  obtain ⟨hresult, hcalls, hafter⟩ := hr.alike_onNewThread hpq
  rw [Service.background, Run.attempt_bind_apply, hresult]
  cases hran : (r p).result with
  | ok a | error e | panic =>
      refine ⟨?_, ?_, hafter⟩
      · rw [hran]
        rfl
      · rw [Ran.journal_prepend, Journal.calls_append, hcalls]
        exact List.append_nil _

/-- It makes no difference whether a product is made in the background or of its outcome. -/
theorem Service.background_map (r : Run ServiceError α) (f : α → β) :
    Service.background (r >>= fun a => pure (f a)) =
      Service.background r >>= fun a => pure (f a) := by
  funext p
  have hthread : Run.onNewThread (r >>= fun a => pure (f a)) p =
      ⟨(Run.onNewThread r p).journal, (Run.onNewThread r p).result.map f,
        (Run.onNewThread r p).after⟩ := by
    rw [Run.onNewThread_apply, Run.map_apply]
    rfl
  rw [Run.map_apply, background, background, Run.attempt_bind_apply, Run.attempt_bind_apply,
    hthread]
  cases (Run.onNewThread r p).result with
  | ok a | error e | panic => rfl

namespace Task

/-- The request of the same name. -/
def request : Task → Request
  | audioToPcm => .audioToPcm
  | silkDecode => .silkDecode
  | silkEncode => .silkEncode
  | silkEncodeChunks => .silkEncodeChunks
  | videoFirstFrame => .videoFirstFrame
  | videoGetSize => .videoGetSize
  | audioToMonoPcm => .audioToMonoPcm
  | encodeVoice => .encodeVoice
  | videoPreview => .videoPreview

theorem name_request (t : Task) : t.request.name = t.name := by
  cases t <;> rfl

/-- A task is the request of its name, run in the background. -/
theorem perform_eq (t : Task) (s : Service) (input : Buffer) :
    t.perform ⟨s⟩ input = Service.background (t.request.perform s input) := by
  cases t <;> exact (Service.background_map _ _).symm

/-- No other request has the name of a task. -/
theorem request_eq {t : Task} {r : Request} (h : t.name = r.name) : t.request = r :=
  Request.eq_of_name_eq (t.name_request.trans h)

end Task

/-! ## Two runs side by side -/

/-- One step of a caller: a use of a handle, or a task of a background service over it. -/
inductive Turn
  | use (u : Use)
  | task (o : DispatchOptions) (t : Task) (input : Buffer)

namespace Turn

def perform (h : Handle) : Turn → Run ServiceError Use.Answer
  | use u => u.perform h
  | task o t input => do
    return .product (← t.perform ⟨.ofHandle h o⟩ input)

/-- A step stays what it is, or is the task of the same name in place of a request. -/
inductive Becomes : Turn → Turn → Prop
  | same (t : Turn) : Becomes t t
  | moved (o : DispatchOptions) {r : Request} {t : Task} (input : Buffer) (name : t.name = r.name) :
      Becomes (use (.request o r input)) (task o t input)

/-- The second list has tasks in place of some of the requests of the first. -/
inductive Replaces : List Turn → List Turn → Prop
  | nil : Replaces [] []
  | cons {t t' : Turn} {ts ts' : List Turn} (head : Becomes t t') (tail : Replaces ts ts') :
      Replaces (t :: ts) (t' :: ts')

/-- What one step does in two runs; in the second it may be a task. -/
structure Beside (h : Handle) (e e' : Episode Turn ServiceError Use.Answer) : Prop where
  becomes : Becomes e.asked e'.asked
  calls : e'.calls = e.calls
  flag : ∀ k : Handle, e'.after.hasClosed k = e.after.hasClosed k
  same : e'.asked = e.asked → e'.ran.result = e.ran.result
  /-- A task is told of a panic. -/
  moved : e'.asked ≠ e.asked → e'.ran.result = e.ran.result.caught
  /-- A panic does no harm: the backend has been called, and the handle is still open. -/
  panics : e.ran.result = .panic → ∀ f ∈ [e, e'],
    State.Used h f.before f.calls f.after ∧ f.after.hasClosed h = false

end Turn

theorem Ran.Caught.map {r r' : Run ServiceError α} {p q : State} (hr : (r p).Caught (r' q))
    (f : α → β) :
    ((r >>= fun a => pure (f a)) p).Caught ((r' >>= fun a => pure (f a)) q) := by
  obtain ⟨hresult, hcalls, hafter⟩ := hr
  rw [Run.map_apply, Run.map_apply]
  refine ⟨?_, hcalls, hafter⟩
  show (r' q).result.map f = ((r p).result.map f).caught
  rw [hresult, Attempt.caught_map]

namespace Turn

variable {h : Handle} {p q : State}

theorem perform_task (o : DispatchOptions) (t : Task) (input : Buffer) :
    (task o t input).perform h = (Use.background o t.request input).perform h := by
  rw [perform, t.perform_eq]
  rfl

theorem oblivious_perform (h : Handle) (t : Turn) : (t.perform h).Oblivious := by
  cases t with
  | use u => exact u.oblivious_perform h
  | task o t input =>
      rw [perform_task]
      exact Use.oblivious_perform h _

/-- A task does what the request of its name does, a panic apart. -/
theorem caught_perform (o : DispatchOptions) {r : Request} {t : Task} (input : Buffer)
    (name : t.name = r.name) (hpq : p.Alike q) :
    ((use (.request o r input)).perform h p).Caught ((task o t input).perform h q) := by
  rw [perform_task, Task.request_eq name]
  exact ((Request.oblivious_perform _ input r).caught_background hpq).map Use.Answer.product

end Turn

namespace Use

theorem exists_input {u : Use} (hu : u.isClose = false) : ∃ o input, u.input? = some (o, input) := by
  cases u with
  | dispatchChunks o _ input | firstFrame o input | videoSize o input => exact ⟨o, input, rfl⟩
  | request o _ input | background o _ input => exact ⟨o, .ofBuffer input, rfl⟩
  | closeHandle | closeService o => exact absurd hu Bool.noConfusion

/-- Only an open handle is used so that the use panics, and closing it does not panic. -/
theorem open_of_panic {h : Handle} {u : Use} {p : State}
    (hpanic : (u.perform h p).result = .panic) : u.isClose = false ∧ p.hasClosed h = false := by
  have hlawful := u.lawful_perform h p
  cases hclose : u.isClose with
  | true =>
      have hresult : (u.perform h p).result = .ok _ := (hlawful.close hclose).1
      rw [hpanic] at hresult
      cases hresult
  | false =>
      refine ⟨rfl, ?_⟩
      cases hclosed : p.hasClosed h with
      | false => rfl
      | true =>
          obtain ⟨o, input, hinput⟩ := exists_input hclose
          have hresult := (refuses_perform hclosed hinput).1
          rw [hpanic] at hresult
          cases hresult

end Use

namespace Turn

variable {h : Handle} {p q : State}

/-- What panics has only called the backend, and leaves the handle open. -/
theorem open_after_panic {t : Turn} (hpanic : (t.perform h p).result = .panic) :
    State.Used h p (t.perform h p).journal.calls (t.perform h p).after ∧
      (t.perform h p).after.hasClosed h = false := by
  cases t with
  | use u =>
      obtain ⟨hclose, hopen⟩ := Use.open_of_panic hpanic
      have hused := Use.keeps_perform (h := h) hclose p
      exact ⟨hused, (hused.hasClosed_eq h).trans hopen⟩
  | task o t input =>
      have hcaught : ((task o t input).perform h p).result = _ :=
        (caught_perform o input t.name_request.symm (.refl p)).result
      exact absurd (hcaught.symm.trans hpanic) (Attempt.caught_ne_panic _)

theorem beside_same (t : Turn) (hpq : p.Alike q) :
    Beside h ⟨t, p, t.perform h p⟩ ⟨t, q, t.perform h q⟩ := by
  obtain ⟨hresult, hcalls, hafter⟩ := t.oblivious_perform h p q hpq
  refine ⟨.same t, hcalls, hafter.hasClosed_eq, fun _ => hresult, fun hne => absurd rfl hne, ?_⟩
  intro hpanic f hf
  rcases List.mem_cons.mp hf with rfl | hf
  · exact open_after_panic hpanic
  · obtain rfl := List.mem_singleton.mp hf
    exact open_after_panic (hresult.trans hpanic)

theorem beside_moved (o : DispatchOptions) {r : Request} {t : Task} (input : Buffer)
    (name : t.name = r.name) (hpq : p.Alike q) :
    Beside h ⟨use (.request o r input), p, (use (.request o r input)).perform h p⟩
      ⟨task o t input, q, (task o t input).perform h q⟩ := by
  obtain ⟨hresult, hcalls, hafter⟩ := caught_perform (h := h) o input name hpq
  refine ⟨.moved o input name, hcalls, hafter.hasClosed_eq, fun he => (nomatch he),
    fun _ => hresult, ?_⟩
  intro hpanic f hf
  obtain ⟨hused, hopen⟩ := open_after_panic hpanic
  rcases List.mem_cons.mp hf with rfl | hf
  · exact ⟨hused, hopen⟩
  · obtain rfl := List.mem_singleton.mp hf
    refine ⟨?_, (hafter.hasClosed_eq h).trans hopen⟩
    show State.Used h q ((task o t input).perform h q).journal.calls _
    rw [perform_task]
    exact Use.keeps_perform rfl q

/-- One step in both runs, from processes that are alike. -/
theorem beside_perform {t t' : Turn} (ht : Becomes t t') (hpq : p.Alike q) :
    Beside h ⟨t, p, t.perform h p⟩ ⟨t', q, t'.perform h q⟩ ∧
      (t.perform h p).after.Alike (t'.perform h q).after := by
  cases ht with
  | same t => exact ⟨beside_same t hpq, (t.oblivious_perform h p q hpq).after⟩
  | moved o input name =>
      exact ⟨beside_moved o input name hpq, (caught_perform o input name hpq).after⟩

end Turn

namespace History

/-- Two histories of the same length, step by step. -/
inductive Alongside (h : Handle) :
    History Turn ServiceError Use.Answer → History Turn ServiceError Use.Answer → Prop
  | nil : Alongside h [] []
  | cons {e e' : Episode Turn ServiceError Use.Answer}
      {es es' : History Turn ServiceError Use.Answer} (head : Turn.Beside h e e')
      (tail : Alongside h es es') : Alongside h (e :: es) (e' :: es')

theorem Alongside.calls_eq {h : Handle} {es es' : History Turn ServiceError Use.Answer}
    (hes : Alongside h es es') : calls es' = calls es := by
  induction hes with
  | nil => rfl
  | cons head _ ih => rw [calls_cons, calls_cons, head.calls, ih]

theorem alongside_of_alike {h : Handle} {turns turns' : List Turn}
    (hturns : Turn.Replaces turns turns') {p q : State} (hpq : p.Alike q) :
    Alongside h (run (Turn.perform h) turns p) (run (Turn.perform h) turns' q) := by
  -- After the first task the processes differ in their threads, so the induction is over any two
  -- that are alike.
  induction hturns generalizing p q with
  | nil => exact .nil
  | cons head _ ih =>
      obtain ⟨hbeside, hafter⟩ := Turn.beside_perform head hpq
      exact .cons hbeside (ih hafter)

/-- In every run of uses of a handle, any requests may be moved to the background.  The backend is
called as before, the handle is open and closed as before, and every step answers as before, but
for the panics that a task is told of. -/
theorem alongside_run (h : Handle) (p : State) {turns turns' : List Turn}
    (hturns : Turn.Replaces turns turns') :
    Alongside h (run (Turn.perform h) turns p) (run (Turn.perform h) turns' p) ∧
      calls (run (Turn.perform h) turns' p) = calls (run (Turn.perform h) turns p) := by
  have hes := alongside_of_alike (h := h) hturns (.refl p)
  exact ⟨hes, hes.calls_eq⟩

/-- A codec that panics when it is asked to encode, and is asked for more after that. -/
theorem alongside_run_faulty :
    let h : Handle := ⟨0, none, .faulty⟩
    let p : State := .fresh ⟨"/", ⟨"linux", "x86_64"⟩, ⟨true, fun _ _ => ⟨[], .ok .faulty⟩⟩⟩ .empty
    let turns : List Turn :=
      [.use (.request {} .encodeVoice (.ofBytes [1, 2])),
       .use (.request {} .videoGetSize (.ofBytes [5])), .use .closeHandle]
    let turns' : List Turn :=
      [.task {} .encodeVoice (.ofBytes [1, 2]), .use (.request {} .videoGetSize (.ofBytes [5])),
       .use .closeHandle]
    Turn.Replaces turns turns' ∧
      Alongside h (run (Turn.perform h) turns p) (run (Turn.perform h) turns' p) ∧
        calls (run (Turn.perform h) turns' p) = calls (run (Turn.perform h) turns p) := by
  intro h p turns turns'
  have hturns : Turn.Replaces turns turns' :=
    .cons (.moved {} _ rfl) (.cons (.same _) (.cons (.same _) .nil))
  exact ⟨hturns, alongside_run h p hturns⟩

end History

end MediaCodec
