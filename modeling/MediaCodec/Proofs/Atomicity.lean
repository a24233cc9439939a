/-
Atomicity — a codec call of a C caller happens as a whole, or not at all.

A call may fail before it has a service, at its input, in the backend, after the backend has
handed over chunks or written into a record, or in a panic.  The caller cannot tell these
apart by its memory: output is handed over after the guard, and only if there is an output.
Nor can the process be told apart by its handles and its slot, because looking for a service
and using it spare both.
-/

import MediaCodec.Proofs.Serving

namespace MediaCodec

namespace CodecCall

/-- What a codec call owes its caller and the process, in a state before it. -/
structure Atomic (c : CodecCall) (p : State) (r : Ran ε (Status × CallerMemory)) : Prop where
  /-- The call comes back, with a status. -/
  answers : ∃ status memory, r.result = .ok (status, memory)
  /-- If the status is not success, then the callback was not called, the variables for a frame
  are cleared if both are there and untouched if not, and the record is as it was. -/
  memory : ∀ status memory, r.result = .ok (status, memory) → status ≠ Status.ok →
    memory = c.spared
  /-- No handle is closed, and none is opened again. -/
  closed : ∀ h, r.after.hasClosed h = p.hasClosed h
  /-- A service in the slot stays there. -/
  slot : ∀ s, p.slot = some s → r.after.slot = some s
  /-- Where a pointer is missing the status says so, nothing is called, and the process is as it
  was, with its cell and its slot. -/
  pointers : c.lacksPointer = true →
    r.result = .ok (Status.invalidInput, c.spared) ∧ r.journal.calls = [] ∧ r.after = p

/-- Only the memory of an output differs from the memory of none, and an output has the status
of success. -/
theorem memory_of_ne_ok {c : CodecCall} {r : Attempt ServiceError c.Output}
    (h : Status.ofAttempt r ≠ Status.ok) : c.memory r = c.spared := by
  cases r with
  | ok o => exact absurd rfl h
  | error e => rfl
  | panic => rfl

/-- Every codec call is atomic, in every state of the process. -/
theorem atomic_perform (c : CodecCall) (p : State) : c.Atomic p ((c.perform : Run ε _) p) := by
  have hkeeps : State.Spares p _ ((c.perform : Run ε _) p).after := keeps_perform c p
  have hclosed (h : Handle) : ((c.perform : Run ε _) p).after.hasClosed h = p.hasClosed h := by
    rw [State.hasClosed, State.hasClosed, hkeeps.closed]
  cases hlacks : c.lacksPointer with
  | true =>
      have hran : (c.perform : Run ε _) p = _ := perform_of_lacksPointer hlacks p
      refine ⟨⟨_, _, by rw [hran]⟩, ?_, hclosed, hkeeps.slot, ?_⟩
      · intro status memory hresult _
        rw [hran] at hresult
        cases hresult
        rfl
      · intro _
        rw [hran]
        exact ⟨rfl, rfl, rfl⟩
  | false =>
      have hran : ((c.perform : Run ε _) p).ComesTo _ _ _ := perform_comesTo hlacks p
      refine ⟨⟨_, _, hran.result⟩, ?_, hclosed, hkeeps.slot, ?_⟩
      · intro status memory hresult hstatus
        rw [hran.result] at hresult
        cases hresult
        exact memory_of_ne_ok hstatus
      · intro h
        exact absurd (hlacks.symm.trans h) Bool.false_ne_true

/-- A chunk that was handed over before the decoder failed does not reach the callback. -/
example :
    let b : Backend :=
      { stream := fun _ _ _ => { chunks := [[1, 2]], ending := .status 7 }
        firstFrame := fun _ _ => {}
        getSize := fun _ _ => {} }
    let p : State :=
      { machine := ⟨"/", ⟨"linux", "x86_64"⟩, ⟨true, fun _ _ => ⟨[], .ok b⟩⟩⟩
        slot := some (.ofHandle ⟨0, none, b⟩ {}) }
    ((stream .audioToPcm ⟨some (.ofBytes [9]), 1⟩ true).perform p : Ran Empty _).result =
      .ok (7, .deliveries []) := by
  decide +kernel

end CodecCall

end MediaCodec
