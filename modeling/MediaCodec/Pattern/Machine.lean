/-
Machines — patterns as numbered instructions.

An instruction takes a character, tests a condition, or leads on to other instructions, of
which an earlier one is preferred; the last kind accepts.  A pattern is laid out in front of
the instruction that is to follow it, so a sequence is laid out from its end.  A repetition
needs an instruction to come back to: its place is kept free until what is repeated is there.
Coming back is not the same as beginning where what is repeated may take nothing.
-/

import MediaCodec.Pattern.Basic

namespace MediaCodec.Pattern

/-- One instruction; others are named by their numbers. -/
inductive Instruction
  | take (s : CharSet) (next : Nat)
  | test (l : Look) (next : Nat)
  | fork (ways : List Nat)
  | accept

/-- Instructions by their numbers. -/
abbrev Layout := Array Instruction

namespace Layout

/-- Adds an instruction, and tells its number. -/
def add (code : Layout) (i : Instruction) : Nat × Layout := (code.size, code.push i)

/-- The choice between going into a repetition and going on. -/
def choice (greedy : Bool) (inside next : Nat) : Instruction :=
  .fork (if greedy then [inside, next] else [next, inside])

/-- Adds a word in front of an instruction. -/
def word (next : Nat) (code : Layout) : List Char → Nat × Layout
  | [] => (next, code)
  | c :: rest =>
    let (n, code) := word next code rest
    code.add (.take (.single c) n)

/-- Adds a repetition in front of an instruction, given how to add what is repeated; tells
where that begins, and where it comes back to. -/
def loop (greedy : Bool) (next : Nat) (once : Nat → Layout → Nat × Layout) (code : Layout) :
    Nat × Nat × Layout :=
  let (back, code) := code.add (.fork [])
  let (inside, code) := once back code
  (inside, back, code.setIfInBounds back (choice greedy inside next))

/-- Adds a pattern in front of an instruction, and tells where it begins. -/
def pattern (next : Nat) (code : Layout) : Pattern → Nat × Layout
  | empty => (next, code)
  | .word cs => word next code cs
  | set s _ => code.add (.take s next)
  | look l => code.add (.test l next)
  | captured _ p => pattern next code p
  | seq p q =>
    let (n, code) := pattern next code q
    pattern n code p
  | alt p q =>
    let (second, code) := pattern next code q
    let (first, code) := pattern next code p
    code.add (.fork [first, second])
  | repeated p times greedy =>
    match times with
    | .atMostOnce =>
      let (inside, code) := pattern next code p
      code.add (choice greedy inside next)
    | .atLeastOnce =>
      let (inside, _, code) := loop greedy next (fun n code => pattern n code p) code
      (inside, code)
    | .anyNumber =>
      let (inside, back, code) := loop greedy next (fun n code => pattern n code p) code
      if p.takesSome then (back, code) else code.add (choice greedy inside next)

end Layout

/-- A pattern laid out, with the number of its first instruction. -/
structure Machine where
  code : Layout
  start : Nat

def toMachine (p : Pattern) : Machine :=
  let (start, code) := Layout.pattern 0 #[.accept] p
  ⟨code, start⟩

end MediaCodec.Pattern
