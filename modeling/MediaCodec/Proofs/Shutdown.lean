/-
Shutdown — what is left of a codec after a C caller has closed it.

A C caller closes the codec in the slot.  The slot is never emptied or refilled, and a closed
handle is never opened again, so that every codec call from then on finds the same service with
the same closed handle, and is refused.  That is one invariant, `State.ShutDown`, which every step
of a process keeps; what holds of one codec call in such a state then holds of all of them, in
every run.

The codec in the slot is all that is closed.  A process may have one already that no C caller has
asked for yet; it is in the cell and not in the slot, and a close leaves it open.
-/

import MediaCodec.Proofs.Refinement
import MediaCodec.Proofs.WriteOnce

namespace MediaCodec

/-! ## A closed handle stays closed -/

/-- No handle that is closed is open afterwards. -/
def State.KeepsClosed (p q : State) : Prop := ∀ h, p.hasClosed h = true → q.hasClosed h = true

namespace State.KeepsClosed

variable {p q : State}

theorem of_closed_eq (h : q.closed = p.closed) : KeepsClosed p q := by
  intro k hk
  rw [hasClosed, h]
  exact hk

theorem closing (p : State) (h : Handle) : KeepsClosed p (p.closing h) := by
  intro k hk
  show List.contains (h.id :: p.closed) k.id = true
  rw [List.contains_cons, Bool.or_eq_true]
  exact .inr hk

end State.KeepsClosed

namespace Step

open State (KeepsClosed)

theorem Does.keepsClosed {k : Step} {p q : State} {cs : List Call} (h : Does k p cs q) :
    KeepsClosed p q := by
  cases h with
  | rests => exact .of_closed_eq rfl
  | sets name value => exact .of_closed_eq rfl
  | shares config asked => exact .of_closed_eq State.closed_sharing
  | fills config asked free => exact .of_closed_eq State.closed_sharing
  | installs s asked free => exact .of_closed_eq rfl
  | closes h known isOpen => exact .closing p h
  | uses used => exact .of_closed_eq used.closed_eq
  | serves config asked free used =>
      exact .of_closed_eq (used.closed_eq.trans State.closed_sharing)

/-- Whatever happens in a process, no closed handle is opened again. -/
theorem keepsClosed_perform (k : Step) (p : State) : KeepsClosed p (k.perform p).after :=
  (k.does_perform p).keepsClosed

end Step

/-! ## A slot that is shut down -/

/-- The slot holds a service whose handle is closed. -/
structure State.ShutDown (s : Service) (p : State) : Prop where
  slot : p.slot = some s
  closed : p.hasClosed s.handle = true

theorem Step.shutDown_perform {s : Service} (k : Step) (p : State) (h : p.ShutDown s) :
    (k.perform p).after.ShutDown s :=
  ⟨k.slot_perform p s h.slot, k.keepsClosed_perform p s.handle h.closed⟩

/-- A close shuts the slot down, if there is a service in it. -/
theorem Step.shutDown_close {p : State} {s : Service} (hslot : p.slot = some s) :
    (close.perform p).after.ShutDown s := by
  refine ⟨close.slot_perform p s hslot, ?_⟩
  cases hclosed : p.hasClosed s.handle with
  | true => exact close.keepsClosed_perform p s.handle hclosed
  | false =>
      have hran := (Boundary.close_of_open (ε := ServiceError) hslot hclosed).map_ok Reply.status
      have hafter : (close.perform p).after = p.closing s.handle := hran.after
      rw [hafter]
      exact p.hasClosed_closing s.handle

/-- With nothing in the slot, a close does nothing. -/
theorem Step.close_of_none {p : State} (hslot : p.slot = none) :
    close.perform p = ⟨[], .ok (.status Status.ok), p⟩ := by
  have hran : (Boundary.close : Run ServiceError Status) p = _ := Boundary.close_of_none hslot
  show ((Boundary.close : Run ServiceError Status) >>= _) p = _
  rw [Run.bind_of_eq_ok hran]
  rfl

namespace CodecCall

variable {c : CodecCall} {p : State} {s : Service}

theorem refuses_method (hclosed : p.hasClosed s.handle = true) :
    (c.method s).Refuses p (s.refusal c.input.slice) := by
  cases c with
  | stream op input hasCallback => exact Service.refuses_dispatch hclosed op
  | firstFrame input slots => exact (Service.refuses_videoFirstFrame hclosed).bind _
  | getSize input record => exact Service.refuses_videoGetSize hclosed

/-- In a slot that is shut down, a codec call calls nothing, and has the status of the refusal. -/
theorem perform_of_shutDown (h : p.ShutDown s) :
    ((c.perform : Run ε _) p).journal.calls = [] ∧
      (c.lacksPointer = false →
        ((c.perform : Run ε _) p).result = .ok ((s.refusal c.input.slice).status, c.spared)) := by
  cases hlacks : c.lacksPointer with
  | true =>
      rw [perform_of_lacksPointer hlacks]
      exact ⟨rfl, by simp⟩
  | false =>
      have hran : ((c.perform : Run ε _) p).ComesTo _ _ _ :=
        perform_of_served hlacks (State.served_of_some h.slot)
      obtain ⟨hresult, hcalls⟩ := refuses_method (c := c) h.closed
      rw [State.servingLoads_of_some h.slot, State.serving_of_some h.slot, hresult, hcalls] at hran
      exact ⟨hran.calls, fun _ => hran.result⟩

end CodecCall

/-! ## Runs after a close -/

namespace History

/-- Every codec call in a run is refused: none calls anything, and one with its pointers and an
input that would be accepted is told that the codec is closed. -/
structure Refuses (s : Service) (es : History Step ServiceError Reply) : Prop where
  silent : ∀ e ∈ es, ∀ c, e.asked = .codec c → e.calls = []
  closed : ∀ e ∈ es, ∀ c, e.asked = .codec c → c.lacksPointer = false →
    (MediaBuffer.ofBuffer (.ofBytes c.input.bytes)).Accepted s.dispatcher.options.maxInputBytes →
    e.ran.result = .ok (.codec Status.backendClosed c.spared)

theorem refuses_run {p : State} {s : Service} (h : p.ShutDown s) (steps : List Step) :
    Refuses s (run Step.perform steps p) := by
  have hshut : ∀ e ∈ run Step.perform steps p, e.before.ShutDown s ∧ e.after.ShutDown s :=
    invariant_run Step.shutDown_perform h
  refine ⟨?_, ?_⟩
  · intro e he c hasked
    obtain ⟨hcalls, -⟩ := CodecCall.perform_of_shutDown (c := c) (ε := ServiceError) (hshut e he).1
    rw [Episode.calls, ran_of_mem he, hasked, Step.perform_codec, (Run.frame_map _ _ e.before).1,
      hcalls]
  · intro e he c hasked hpointers haccepted
    obtain ⟨-, hresult⟩ := CodecCall.perform_of_shutDown (c := c) (ε := ServiceError) (hshut e he).1
    rw [ran_of_mem he, hasked, Step.perform_codec, Run.result_map, hresult hpointers,
      Service.refusal, c.input.slice_eq_ofBytes, DispatchOptions.refusal_of_accepted haccepted]
    rfl

/-- What a close of a C caller is good for.  With a service in the slot, every codec call of every
later run is refused; with none, the close changes nothing at all. -/
theorem close_run (p : State) (later : List Step) :
    (∀ s, p.slot = some s → Refuses s (run Step.perform later (Step.close.perform p).after)) ∧
      (p.slot = none → Step.close.perform p = ⟨[], .ok (.status Status.ok), p⟩) :=
  ⟨fun _ hslot => refuses_run (Step.shutDown_close hslot) later, Step.close_of_none⟩

/-- A codec that the process shares already is not closed with the slot empty: the next call of a C
caller reaches it. -/
theorem close_leaves_shared_open :
    let p := (Step.global.perform .echoing).after
    let q := (Step.close.perform p).after
    let call := Step.codec (.stream .silkEncode ⟨some (.ofBytes [7, 8]), 2⟩ true)
    p.cell.stored = some (.ok Service.echo.dispatcher) ∧
      (Step.close.perform p).result = .ok (.status Status.ok) ∧
      (call.perform q).journal.calls = [.invoke .silkEncode [7, 8]] ∧
      (call.perform q).result = .ok (.codec Status.ok (.deliveries [⟨[7, 8], 2⟩, ⟨[], 0⟩])) :=
  ⟨rfl, rfl, rfl, rfl⟩

end History

end MediaCodec
