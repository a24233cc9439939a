/-
Cells — slots that are filled once.

The first initializer that returns, with a value or an error, fixes the cell for good: every
later caller gets that outcome and its own initializer does not run.  An initializer that
panics leaves the cell as empty as it was.
-/

import MediaCodec.Attempt

namespace MediaCodec

/-- A slot for the outcome of an initialization. -/
structure Cell (ε α : Type) where
  /-- The outcome, once there is one. -/
  stored : Option (Except ε α) := none

namespace Cell

/-- A cell that no initialization has run for. -/
def empty : Cell ε α := {}

/-- The outcome, once there is one. -/
def get (c : Cell ε α) : Option (Except ε α) := c.stored

def isInitialized (c : Cell ε α) : Bool := c.stored.isSome

/-- The cell after an initialization that ended so. -/
def settle (c : Cell ε α) (r : Attempt ε α) : Cell ε α :=
  match c.stored with
  | some _ => c
  | none => ⟨r.returned?⟩

/-- The outcome of a filled cell; an empty one runs the initializer, on a state of its own,
and keeps what it returns. -/
def getOrInit (c : Cell ε α) (init : σ → Attempt ε α × σ) (s : σ) :
    Attempt ε α × Cell ε α × σ :=
  match c.stored with
  | some r => (.ofExcept r, c, s)
  | none =>
    let (r, s) := init s
    (r, c.settle r, s)

section

variable {c : Cell ε α} {r : Except ε α} (init : σ → Attempt ε α × σ) (s : σ)

theorem isInitialized_of_stored (h : c.stored = some r) : c.isInitialized = true :=
  Option.isSome_of_eq_some h

theorem isInitialized_of_empty (h : c.stored = none) : c.isInitialized = false := by
  rw [isInitialized, h, Option.isSome_none]

theorem getOrInit_of_stored (h : c.stored = some r) :
    c.getOrInit init s = (.ofExcept r, c, s) := by
  rw [getOrInit, h]

theorem getOrInit_of_empty (h : c.stored = none) :
    c.getOrInit init s = ((init s).1, ⟨(init s).1.returned?⟩, (init s).2) := by
  simp only [getOrInit, settle, h]

end

end Cell

end MediaCodec
