/-
Attempts — what becomes of a computation that may fail or panic.

An error is an answer; a panic is not, and stops everything around it until someone catches
it.
-/

namespace MediaCodec

/-- The end of a computation. -/
inductive Attempt (ε α : Type) where
  | ok (a : α)
  | error (e : ε)
  | panic
  deriving DecidableEq, Repr

namespace Attempt

/-- Changes the value of a success. -/
def map (f : α → β) : Attempt ε α → Attempt ε β
  | ok a => ok (f a)
  | error e => error e
  | panic => panic

/-- Changes the error of a failure. -/
def mapError (f : ε → δ) : Attempt ε α → Attempt δ α
  | ok a => ok a
  | error e => error (f e)
  | panic => panic

/-- The answer, unless there was a panic. -/
def returned? : Attempt ε α → Option (Except ε α)
  | ok a => some (.ok a)
  | error e => some (.error e)
  | panic => none

def ok? : Attempt ε α → Option α
  | ok a => some a
  | _ => none

/-- An answer is an attempt that did not panic. -/
def ofExcept : Except ε α → Attempt ε α
  | .ok a => ok a
  | .error e => error e

theorem map_eq_ok_iff {r : Attempt ε α} {f : α → β} {b : β} :
    r.map f = ok b ↔ ∃ a, r = ok a ∧ f a = b := by
  cases r <;> simp [map]

theorem map_eq_error_iff {r : Attempt ε α} {f : α → β} {e : ε} :
    r.map f = error e ↔ r = error e := by
  cases r <;> simp [map]

theorem mapError_eq_ok_iff {r : Attempt ε α} {f : ε → δ} {a : α} :
    r.mapError f = ok a ↔ r = ok a := by
  cases r <;> simp [mapError]

theorem mapError_eq_error_iff {r : Attempt ε α} {f : ε → δ} {d : δ} :
    r.mapError f = error d ↔ ∃ e, r = error e ∧ f e = d := by
  cases r <;> simp [mapError]

theorem returned?_eq_some_iff {r : Attempt ε α} {x : Except ε α} :
    r.returned? = some x ↔ r = ofExcept x := by
  cases r <;> cases x <;> simp [returned?, ofExcept]

theorem returned?_eq_none_iff {r : Attempt ε α} : r.returned? = none ↔ r = panic := by
  cases r <;> simp [returned?]

theorem ok_ne_error {a : α} {e : ε} : (ok a : Attempt ε α) ≠ error e := by
  intro h
  cases h

theorem panic_ne_error {e : ε} : (panic : Attempt ε α) ≠ error e := by
  intro h
  cases h

theorem panic_ne_ok {a : α} : (panic : Attempt ε α) ≠ ok a := by
  intro h
  cases h

end Attempt

end MediaCodec
