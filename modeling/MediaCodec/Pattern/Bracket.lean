/-
Bracketed sets — sets of characters, written by their members.

Between the brackets stand characters, ranges, escapes, names of sets and further brackets;
all together are the members.  Two such lists with an operator between them are combined, and
several operators from left to right.  A caret at the beginning means the characters that are
not listed.  Hyphens at the beginning stand for themselves, and so does a closing bracket that
is the first member.
-/

import MediaCodec.Pattern.Escape

namespace MediaCodec.Pattern

/-- A set with the depth of its nesting. -/
structure Nested where
  set : CharSet
  depth : Nat := 0

/-- An operator between two lists of members. -/
inductive SetOperator
  | inter
  | diff
  | symmDiff

/-- What an operator makes of two sets. -/
def SetOperator.apply : SetOperator → CharSet → CharSet → CharSet
  | inter => CharSet.inter
  | diff => CharSet.diff
  | symmDiff => CharSet.symmDiff

/-- A bracket as far as it has been read. -/
structure Members where
  /-- The set before the last operator, if there has been one. -/
  pending : Option (Nested × SetOperator) := none
  /-- The members that have been listed since the last operator. -/
  sets : List CharSet := []
  /-- The depth of the deepest of them. -/
  depth : Nat := 0
  /-- Whether only hyphens have been read so far. -/
  atStart : Bool := false

namespace Members

/-- One member more. -/
def add (b : Members) (n : Nested) : Members :=
  { b with
    sets := n.set :: b.sets
    depth := max b.depth n.depth
    atStart := false }

/-- The set so far; a list of several members counts as one level of nesting. -/
def close (m : Modes) (b : Members) : Nested :=
  let last : Nested := ⟨.unions b.sets, if b.sets.length < 2 then b.depth else b.depth + 1⟩
  match b.pending with
  | none => last
  | some (first, op) =>
    ⟨op.apply (m.fold first.set) (m.fold last.set), max first.depth last.depth + 1⟩

/-- The bracket after an operator. -/
def operate (m : Modes) (b : Members) (op : SetOperator) : Members :=
  { pending := some (b.close m, op) }

/-- Reads the name of a set after its opening bracket, between colons. -/
def named? (cs : List Char) : Option (Bool × CharSet × List Char) :=
  match cs with
  | ':' :: rest =>
    let (negated, rest) :=
      match rest with
      | '^' :: rest => (true, rest)
      | _ => (false, rest)
    match rest.dropWhile (· != ':') with
    | ':' :: ']' :: after =>
      (CharSet.named? (String.ofList (rest.takeWhile (· != ':')))).map fun s => (negated, s, after)
    | _ => none
  | _ => none

/-- Reads a character or an escape. -/
def item (m : Modes) : List Char → Option (Escape × List Char)
  | [] => none
  | '\\' :: rest => Escape.read m rest
  | c :: rest => some (.char c false, rest)

/-- Reads a member that is no bracket; a hyphen after it makes a range, unless the bracket or
the list ends behind the hyphen. -/
def single (m : Modes) (cs : List Char) : Option (CharSet × List Char) := do
  let (first, rest) ← item m cs
  match m.skip rest with
  | '-' :: after =>
    if m.peek after == some ']' || m.peek after == some '-' then
      return (← first.toSet? m, '-' :: after)
    else
      let (last, rest) ← item m (m.skip after)
      let a ← first.toMember? m
      let b ← last.toMember? m
      if a ≤ b then return (.range a b, rest) else none
  | rest => return (← first.toSet? m, rest)

mutual

/-- Reads a bracket after its opening. -/
def bracket (m : Modes) : Nat → List Char → Option (Nested × List Char)
  | 0, _ => none
  | fuel + 1, cs => do
    let (negated, cs) :=
      match m.skip cs with
      | '^' :: rest => (true, rest)
      | cs => (false, cs)
    let (n, rest) ← list m fuel { atStart := true } cs
    let s ← m.negate? negated (m.fold n.set)
    return (⟨s, n.depth + 1⟩, rest)

/-- Reads on up to the closing bracket. -/
def list (m : Modes) : Nat → Members → List Char → Option (Nested × List Char)
  | 0, _, _ => none
  | fuel + 1, b, cs =>
    match m.skip cs with
    | [] => none
    | '[' :: rest =>
      match named? rest with
      | some (negated, s, rest) => do
        let s ← m.namedSet? negated s
        list m fuel (b.add ⟨s, 0⟩) rest
      | none => do
        let (n, rest) ← bracket m fuel rest
        list m fuel (b.add n) rest
    | ']' :: rest =>
      if b.atStart && b.sets.isEmpty then do
        let c ← m.member? ']'
        list m fuel (b.add ⟨.single c, 0⟩) rest
      else some (b.close m, rest)
    | '-' :: rest =>
      if b.atStart then do
        let c ← m.member? '-'
        list m fuel { b.add ⟨.single c, 0⟩ with atStart := true } rest
      else if rest.head? == some '-' then list m fuel (b.operate m .diff) rest.tail
      else do
        let (s, rest) ← single m ('-' :: rest)
        list m fuel (b.add ⟨s, 0⟩) rest
    | '&' :: '&' :: rest => list m fuel (b.operate m .inter) rest
    | '~' :: '~' :: rest => list m fuel (b.operate m .symmDiff) rest
    | cs => do
      let (s, rest) ← single m cs
      list m fuel (b.add ⟨s, 0⟩) rest

end

end Members

end MediaCodec.Pattern
