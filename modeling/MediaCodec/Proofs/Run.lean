/-
Running — how a run is taken apart, what it leaves alone, and runs one after another.

A run is a chain of primitive steps, and each of them is known by what it does to a state: it
adds to the journal, it answers or it ends the chain, and it hands on a state.  The first part
says so, one lemma for each primitive; with these a concrete run is worked out from its front
to its end.

The second part is for what cannot be worked out, because it depends on a backend or on the
requests of others.  A *compositional* property passes from runs to what is built of them.  The
main case are trails: a *trail* is a relation of the state before, the calls made, and the state
after, that holds of doing nothing and of one thing after another.  Every run keeps a trail as
soon as its calls and its changes of the state do.

The third part strings runs together.  A history performs requests one after another, each in
the state that the one before it left; a request that fails or panics ends, and the next one
begins.
-/

import MediaCodec.Run

namespace MediaCodec

/-! ## Taking runs apart -/

namespace Ran

/-- The end of a run before which something had happened. -/
def prepend (j : Journal) (r : Ran ε α) : Ran ε α := { r with journal := j ++ r.journal }

@[simp] theorem prepend_nil (r : Ran ε α) : r.prepend [] = r := rfl

@[simp] theorem prepend_mk (j k : Journal) (a : Attempt ε α) (p : State) :
    (Ran.mk k a p).prepend j = ⟨j ++ k, a, p⟩ := rfl

@[simp] theorem prepend_prepend (j k : Journal) (r : Ran ε α) :
    (r.prepend k).prepend j = r.prepend (j ++ k) := by
  simp [prepend, List.append_assoc]

@[simp] theorem journal_prepend (j : Journal) (r : Ran ε α) :
    (r.prepend j).journal = j ++ r.journal := rfl

@[simp] theorem result_prepend (j : Journal) (r : Ran ε α) : (r.prepend j).result = r.result := rfl

@[simp] theorem after_prepend (j : Journal) (r : Ran ε α) : (r.prepend j).after = r.after := rfl

end Ran

/-- The state after one more call. -/
def State.called (p : State) (c : Call) : State := { p with past := p.past ++ [c] }

namespace Run

@[simp] theorem pure_apply (a : α) (p : State) : (Pure.pure a : Run ε α) p = ⟨[], .ok a, p⟩ := rfl

@[simp] theorem fail_apply (e : ε) (p : State) : (fail e : Run ε α) p = ⟨[], .error e, p⟩ := rfl

@[simp] theorem panic_apply (p : State) : (panic : Run ε α) p = ⟨[], .panic, p⟩ := rfl

@[simp] theorem ofAttempt_apply (r : Attempt ε α) (p : State) : ofAttempt r p = ⟨[], r, p⟩ := rfl

@[simp] theorem event_apply (e : Event) (p : State) :
    (event e : Run ε Unit) p = ⟨[.event e], .ok (), p⟩ := rfl

@[simp] theorem events_apply (es : List Event) (p : State) :
    (events es : Run ε Unit) p = ⟨es.map .event, .ok (), p⟩ := rfl

@[simp] theorem enter_apply (s : InvocationState) (p : State) :
    (enter s : Run ε Unit) p = ⟨[.state s], .ok (), p⟩ := rfl

@[simp] theorem call_apply (c : Call) (p : State) :
    (call c : Run ε Unit) p = ⟨[.call c], .ok (), p.called c⟩ := rfl

@[simp] theorem within_apply (s : Span) (r : Run ε α) (p : State) :
    within s r p = ⟨(r p).journal.within s, (r p).result, (r p).after⟩ := rfl

@[simp] theorem mapError_apply (f : ε → δ) (r : Run ε α) (p : State) :
    mapError f r p = ⟨(r p).journal, (r p).result.mapError f, (r p).after⟩ := rfl

@[simp] theorem attempt_apply (r : Run ε α) (p : State) :
    (attempt r : Run δ _) p = ⟨(r p).journal, .ok (r p).result, (r p).after⟩ := rfl

theorem onNewThread_apply (r : Run ε α) (p : State) :
    onNewThread r p =
      ⟨(r { p with threads := p.threads + 1 }).journal.onThread (p.threads + 1),
        (r { p with threads := p.threads + 1 }).result,
        (r { p with threads := p.threads + 1 }).after⟩ := rfl

/-! What follows a step is run in the state that the step left, and what the step noted stands
before it. -/

theorem bind_of_ok {r : Run ε α} {f : α → Run ε β} {p : State} {a : α}
    (h : (r p).result = .ok a) :
    (r >>= f) p = (f a (r p).after).prepend (r p).journal := by
  show Run.bind r f p = _
  simp only [Run.bind, h]
  rfl

/-- Behind a run of which all is known. -/
theorem bind_of_eq_ok {r : Run ε α} {f : α → Run ε β} {p q : State} {j : Journal} {a : α}
    (h : r p = ⟨j, .ok a, q⟩) : (r >>= f) p = (f a q).prepend j := by
  rw [bind_of_ok (by rw [h]), h]

theorem bind_of_error {r : Run ε α} {f : α → Run ε β} {p : State} {e : ε}
    (h : (r p).result = .error e) : (r >>= f) p = ⟨(r p).journal, .error e, (r p).after⟩ := by
  show Run.bind r f p = _
  simp only [Run.bind, h]

theorem bind_of_panic {r : Run ε α} {f : α → Run ε β} {p : State}
    (h : (r p).result = .panic) : (r >>= f) p = ⟨(r p).journal, .panic, (r p).after⟩ := by
  show Run.bind r f p = _
  simp only [Run.bind, h]

theorem bind_assoc (r : Run ε α) (f : α → Run ε β) (g : β → Run ε γ) :
    (r >>= f) >>= g = r >>= fun a => f a >>= g := by
  funext p
  show Run.bind (Run.bind r f) g p = Run.bind r (fun a => Run.bind (f a) g) p
  cases hr : (r p).result with
  | error e => simp only [Run.bind, hr]
  | panic => simp only [Run.bind, hr]
  | ok a =>
      cases hf : (f a (r p).after).result with
      | error e => simp only [Run.bind, hr, hf]
      | panic => simp only [Run.bind, hr, hf]
      | ok b => simp only [Run.bind, hr, hf, List.append_assoc]

/-- What follows a run and neither calls nor changes anything does not matter to the calls and to
the state. -/
theorem frame_bind {r : Run ε α} {f : α → Run ε β}
    (hf : ∀ a q, (f a q).journal.calls = [] ∧ (f a q).after = q) (p : State) :
    ((r >>= f) p).journal.calls = (r p).journal.calls ∧ ((r >>= f) p).after = (r p).after := by
  cases hr : (r p).result with
  | ok a =>
      obtain ⟨hcalls, hafter⟩ := hf a (r p).after
      rw [bind_of_ok hr]
      exact ⟨by simp [hcalls], hafter⟩
  | error e =>
      rw [bind_of_error hr]
      exact ⟨rfl, rfl⟩
  | panic =>
      rw [bind_of_panic hr]
      exact ⟨rfl, rfl⟩

/-- What an answer is made into is all that there is to making it into something. -/
theorem map_apply (r : Run ε α) (f : α → β) (p : State) :
    (r >>= fun a => Pure.pure (f a)) p = ⟨(r p).journal, (r p).result.map f, (r p).after⟩ := by
  cases hr : (r p).result with
  | ok a =>
      rw [bind_of_ok hr, pure_apply, Ran.prepend_mk, List.append_nil]
      rfl
  | error e =>
      rw [bind_of_error hr]
      rfl
  | panic =>
      rw [bind_of_panic hr]
      rfl

theorem frame_map (r : Run ε α) (f : α → β) (p : State) :
    ((r >>= fun a => Pure.pure (f a)) p).journal.calls = (r p).journal.calls ∧
      ((r >>= fun a => Pure.pure (f a)) p).after = (r p).after := by
  rw [map_apply]
  exact ⟨rfl, rfl⟩

theorem result_map (r : Run ε α) (f : α → β) (p : State) :
    ((r >>= fun a => Pure.pure (f a)) p).result = (r p).result.map f := by
  rw [map_apply]

section Bind

variable (f : α → Run ε β) (g : Unit → Run ε β) (p : State)

@[simp] theorem pure_bind_apply (a : α) : ((Pure.pure a : Run ε α) >>= f) p = f a p := rfl

@[simp] theorem get_bind_apply (f : State → Run ε β) : (get >>= f) p = f p p := rfl

@[simp] theorem modify_bind_apply (m : State → State) : (modify m >>= g) p = g () (m p) := rfl

@[simp] theorem event_bind_apply (e : Event) :
    (event e >>= g) p = (g () p).prepend [.event e] := rfl

@[simp] theorem events_bind_apply (es : List Event) :
    (events es >>= g) p = (g () p).prepend (es.map .event) := rfl

@[simp] theorem enter_bind_apply (s : InvocationState) :
    (enter s >>= g) p = (g () p).prepend [.state s] := rfl

@[simp] theorem call_bind_apply (c : Call) :
    (call c >>= g) p = (g () (p.called c)).prepend [.call c] := rfl

@[simp] theorem fail_bind_apply (e : ε) : (fail e >>= f) p = ⟨[], .error e, p⟩ := rfl

@[simp] theorem ofExcept_ok_bind_apply (a : α) :
    ((ofExcept (.ok a) : Run ε α) >>= f) p = f a p := rfl

@[simp] theorem ofExcept_error_bind_apply (e : ε) :
    ((ofExcept (.error e) : Run ε α) >>= f) p = ⟨[], .error e, p⟩ := rfl

@[simp] theorem panic_bind_apply : (panic >>= f) p = ⟨[], .panic, p⟩ := rfl

@[simp] theorem attempt_bind_apply (r : Run δ α) (f : Attempt δ α → Run ε β) :
    (attempt r >>= f) p = (f (r p).result (r p).after).prepend (r p).journal := rfl

end Bind

end Run

/-! ## What a run comes to -/

/-- What a run comes to: its answer, its calls and the state after it.  Of the journal only the
calls count. -/
structure Ran.ComesTo (r : Ran ε α) (result : Attempt ε α) (cs : List Call) (q : State) : Prop where
  result : r.result = result
  calls : r.journal.calls = cs
  after : r.after = q

namespace Ran.ComesTo

variable {p q : State} {cs : List Call}

/-- What is noted before a run makes no difference to it. -/
theorem prepend {r : Ran ε α} {result : Attempt ε α} {j : Journal} (h : r.ComesTo result cs q)
    (hj : j.calls = []) : (r.prepend j).ComesTo result cs q := by
  refine ⟨h.result, ?_, h.after⟩
  rw [Ran.journal_prepend, Journal.calls_append, hj, h.calls, List.nil_append]

theorem bind_ok {r : Run ε α} {f : α → Run ε β} {a : α} {result : Attempt ε β} {ds : List Call}
    {s : State} (h : (r p).ComesTo (.ok a) cs q) (hf : (f a q).ComesTo result ds s) :
    ((r >>= f) p).ComesTo result (cs ++ ds) s := by
  obtain ⟨hresult, rfl, rfl⟩ := h
  rw [Run.bind_of_ok hresult]
  refine ⟨hf.result, ?_, hf.after⟩
  rw [Ran.journal_prepend, Journal.calls_append, hf.calls]

/-- What follows a run calls nothing. -/
theorem bind_silent {r : Run ε α} {f : α → Run ε β} {a : α} {result : Attempt ε β} {s : State}
    (h : (r p).ComesTo (.ok a) cs q) (hf : (f a q).ComesTo result [] s) :
    ((r >>= f) p).ComesTo result cs s := by
  have hbind := h.bind_ok hf
  rw [List.append_nil] at hbind
  exact hbind

theorem bind_error {r : Run ε α} {e : ε} (h : (r p).ComesTo (.error e) cs q) (f : α → Run ε β) :
    ((r >>= f) p).ComesTo (.error e) cs q := by
  obtain ⟨hresult, rfl, rfl⟩ := h
  rw [Run.bind_of_error hresult]
  exact ⟨rfl, rfl, rfl⟩

theorem bind_panic {r : Run ε α} (h : (r p).ComesTo .panic cs q) (f : α → Run ε β) :
    ((r >>= f) p).ComesTo .panic cs q := by
  obtain ⟨hresult, rfl, rfl⟩ := h
  rw [Run.bind_of_panic hresult]
  exact ⟨rfl, rfl, rfl⟩

theorem within {r : Run ε α} {result : Attempt ε α} (h : (r p).ComesTo result cs q) (s : Span) :
    (Run.within s r p).ComesTo result cs q := by
  refine ⟨h.result, ?_, h.after⟩
  rw [Run.within_apply, Journal.calls_within, h.calls]

/-- What follows a run calls nothing and makes its answer into something else. -/
theorem bind_answer {r : Run ε α} {f : α → Run ε β} {g : α → β} {result : Attempt ε α}
    (h : (r p).ComesTo result cs q) (hf : ∀ a s, (f a s).ComesTo (.ok (g a)) [] s) :
    ((r >>= f) p).ComesTo (result.map g) cs q := by
  cases result with
  | error e => exact h.bind_error f
  | panic => exact h.bind_panic f
  | ok a => exact h.bind_silent (hf a q)

theorem map_ok {r : Run ε α} {a : α} (h : (r p).ComesTo (.ok a) cs q) (f : α → β) :
    ((r >>= fun a => pure (f a)) p).ComesTo (.ok (f a)) cs q :=
  h.bind_answer fun _ _ => ⟨rfl, rfl, rfl⟩

/-- A run whose answer is made into something else. -/
theorem map {r : Run ε α} {outcome : Except ε α} (h : (r p).ComesTo (.ofExcept outcome) cs q)
    (f : α → β) :
    ((r >>= fun a => pure (f a)) p).ComesTo (.ofExcept (outcome.map f)) cs q := by
  cases outcome with
  | error e => exact h.bind_error _
  | ok a => exact map_ok h f

end Ran.ComesTo

/-! ## Compositional properties -/

/-- A property that a run has if the runs have it that it is built of.  Of a primitive run nothing is
asked if it makes calls, or looks at the state, or changes it. -/
structure Run.Compositional (P : ∀ {ε α : Type}, Run ε α → Prop) : Prop where
  pure : ∀ {ε α : Type} (a : α), P (Pure.pure a : Run ε α)
  fail : ∀ {ε α : Type} (e : ε), P (Run.fail e : Run ε α)
  panic : ∀ {ε α : Type}, P (Run.panic : Run ε α)
  event : ∀ {ε : Type} (e : Event), P (Run.event e : Run ε Unit)
  bind : ∀ {ε α β : Type} {r : Run ε α} {f : α → Run ε β}, P r → (∀ a, P (f a)) → P (r >>= f)
  attempt : ∀ {ε δ α : Type} {r : Run ε α}, P r → P (Run.attempt r : Run δ (Attempt ε α))
  mapError : ∀ {ε δ α : Type} {r : Run ε α} (f : ε → δ), P r → P (Run.mapError f r)
  within : ∀ {ε α : Type} {r : Run ε α} (s : Span), P r → P (Run.within s r)

theorem Run.Compositional.map {P : ∀ {ε α : Type}, Run ε α → Prop} (hP : Run.Compositional P)
    {ε α β : Type} {r : Run ε α} (hr : P r) (f : α → β) : P (r >>= fun a => Pure.pure (f a)) :=
  hP.bind hr fun a => hP.pure (f a)

/-! ## Trails -/

/-- A relation of the state before, the calls made, and the state after, that holds of doing
nothing and of one thing after another. -/
structure Trail (R : State → List Call → State → Prop) : Prop where
  refl : ∀ p, R p [] p
  trans : ∀ {p q r a b}, R p a q → R q b r → R p (a ++ b) r

/-- Every run of the computation is related so. -/
def Run.Keeps (R : State → List Call → State → Prop) (r : Run ε α) : Prop :=
  ∀ p, R p (r p).journal.calls (r p).after

namespace Trail

variable {R : State → List Call → State → Prop} (ht : Trail R)
include ht

/-- A run that calls nothing and changes nothing keeps every trail. -/
theorem silent {r : Run ε α} (h : ∀ p, (r p).journal.calls = [] ∧ (r p).after = p) :
    r.Keeps R := by
  intro p
  obtain ⟨hcalls, hafter⟩ := h p
  rw [hcalls, hafter]
  exact ht.refl p

theorem pure (a : α) : (Pure.pure a : Run ε α).Keeps R := ht.silent fun _ => ⟨rfl, rfl⟩

theorem fail (e : ε) : (Run.fail e : Run ε α).Keeps R := ht.silent fun _ => ⟨rfl, rfl⟩

theorem panic : (Run.panic : Run ε α).Keeps R := ht.silent fun _ => ⟨rfl, rfl⟩

theorem event (e : Event) : (Run.event e : Run ε Unit).Keeps R := ht.silent fun _ => ⟨rfl, rfl⟩

theorem bind {r : Run ε α} {f : α → Run ε β} (hr : r.Keeps R) (hf : ∀ a, (f a).Keeps R) :
    (r >>= f).Keeps R := by
  intro p
  cases h : (r p).result with
  | ok a =>
      rw [Run.bind_of_ok h]
      simp only [Ran.journal_prepend, Ran.after_prepend, Journal.calls_append]
      exact ht.trans (hr p) (hf a _)
  | error e =>
      rw [Run.bind_of_error h]
      exact hr p
  | panic =>
      rw [Run.bind_of_panic h]
      exact hr p

end Trail

namespace Run.Keeps

variable {R : State → List Call → State → Prop}

theorem attempt {r : Run ε α} (h : r.Keeps R) : (Run.attempt r : Run δ _).Keeps R := h

theorem mapError {r : Run ε α} (f : ε → δ) (h : r.Keeps R) : (Run.mapError f r).Keeps R := h

theorem within {r : Run ε α} (s : Span) (h : r.Keeps R) : (Run.within s r).Keeps R := by
  intro p
  simpa using h p

end Run.Keeps

theorem Trail.compositional {R : State → List Call → State → Prop} (ht : Trail R) :
    Run.Compositional (Run.Keeps R) where
  pure := ht.pure
  fail := ht.fail
  panic := ht.panic
  event := ht.event
  bind := ht.bind
  attempt h := h.attempt
  mapError f h := h.mapError f
  within s h := h.within s

/-! ## Histories -/

/-- One request of a history: what was asked, in which state, and how it went. -/
structure Episode (κ ε α : Type) where
  asked : κ
  before : State
  ran : Ran ε α

namespace Episode

def calls (e : Episode κ ε α) : List Call := e.ran.journal.calls

def after (e : Episode κ ε α) : State := e.ran.after

end Episode

/-- What became of requests, the earliest first. -/
abbrev History (κ ε α : Type) := List (Episode κ ε α)

namespace History

/-- Requests performed one after another, each in the state that the one before it left. -/
def run (perform : κ → Run ε α) : List κ → State → History κ ε α
  | [], _ => []
  | k :: rest, p => ⟨k, p, perform k p⟩ :: run perform rest (perform k p).after

def calls (es : History κ ε α) : List Call := es.flatMap Episode.calls

@[simp] theorem calls_nil : calls ([] : History κ ε α) = [] := rfl

@[simp] theorem calls_cons (e : Episode κ ε α) (es : History κ ε α) :
    calls (e :: es) = e.calls ++ calls es := List.flatMap_cons

variable {perform : κ → Run ε α}

/-- Every episode is what its request does in the state before it. -/
theorem ran_of_mem {e : Episode κ ε α} {ks : List κ} {p : State} (h : e ∈ run perform ks p) :
    e.ran = perform e.asked e.before := by
  induction ks generalizing p with
  | nil => exact absurd h List.not_mem_nil
  | cons k rest ih =>
      rcases List.mem_cons.mp h with rfl | h
      · rfl
      · exact ih h

/-- What every request keeps of a state holds before and after every episode. -/
theorem invariant_run {I : State → Prop} (hkept : ∀ k p, I p → I (perform k p).after)
    {ks : List κ} {p : State} (hp : I p) : ∀ e ∈ run perform ks p, I e.before ∧ I e.after := by
  induction ks generalizing p with
  | nil => exact fun e he => absurd he List.not_mem_nil
  | cons k rest ih =>
      intro e he
      have hafter := hkept k p hp
      rcases List.mem_cons.mp he with rfl | he
      · exact ⟨hp, hafter⟩
      · exact ih hafter e he

end History

end MediaCodec
