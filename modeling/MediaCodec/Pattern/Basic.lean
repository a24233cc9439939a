/-
Patterns — what a text may look like, with an order among the ways it can fit.

Where a pattern leaves a choice, one way is preferred to another: an earlier branch to a later
one, and more repetitions to fewer, or fewer to more where the pattern says so.

Patterns are put together by functions that give equal patterns one form: a sequence holds no
sequence, no empty part and no two words side by side, and a choice between single characters
is a set.  One of them decides more than the form.  A choice between sequences that begin
alike becomes one beginning with a choice after it, so that the beginning is preferred as a
whole before any branch is.
-/

import MediaCodec.Pattern.CharSet

namespace MediaCodec

/-- A condition on a place in a text that takes no character. -/
inductive Look
  | textStart
  | textEnd
  | lineStart
  | lineEnd
  /-- As `lineStart`, where a carriage return ends a line as well. -/
  | anyLineStart
  /-- As `lineEnd`, where a carriage return ends a line as well. -/
  | anyLineEnd
  /-- A word of ASCII begins or ends. -/
  | wordEdge
  | noWordEdge
  | wordStart
  | wordEnd
  deriving DecidableEq, Repr

/-- How often something may be repeated. -/
inductive Times
  | atMostOnce
  | atLeastOnce
  | anyNumber
  deriving DecidableEq, Repr

/-- What a text may look like. -/
inductive Pattern
  | empty
  | word (cs : List Char)
  /-- One character of a set; whether the set was written as one of bytes. -/
  | set (s : CharSet) (bytes : Bool)
  | look (l : Look)
  /-- More repetitions are preferred if it is greedy, and fewer if not. -/
  | repeated (p : Pattern) (times : Times) (greedy : Bool)
  /-- A group by its number; no two groups are alike. -/
  | captured (n : Nat) (p : Pattern)
  | seq (first rest : Pattern)
  | alt (first rest : Pattern)
  deriving DecidableEq, Repr

namespace Pattern

/-- The pattern that no text fits. -/
def never : Pattern := set .empty true

/-- One character of a set. -/
def ofSet (s : CharSet) (bytes : Bool) : Pattern :=
  if s.isEmpty then never
  else
    match s.only? with
    | some c => word [c]
    | none => set s bytes

/-! ## Sequences -/

def parts : Pattern → List Pattern
  | empty => []
  | seq first rest => first :: parts rest
  | p => [p]

/-- The sequence of some parts. -/
def ofParts : List Pattern → Pattern
  | [] => empty
  | [p] => p
  | p :: ps => seq p (ofParts ps)

/-- A part before others; words side by side become one. -/
def before (p : Pattern) (ps : List Pattern) : List Pattern :=
  match p, ps with
  | word a, word b :: rest => word (a ++ b) :: rest
  | p, ps => p :: ps

/-- Patterns one after the other. -/
def concat (ps : List Pattern) : Pattern := ofParts ((ps.flatMap parts).foldr before [])

/-! ## Choices -/

def branches : Pattern → List Pattern
  | alt first rest => first :: branches rest
  | p => [p]

/-- The choice between some branches. -/
def ofBranches : List Pattern → Pattern
  | [] => never
  | [p] => p
  | p :: ps => alt p (ofBranches ps)

/-- The set that stands for a pattern of one given character. -/
def charSet? : Pattern → Option CharSet
  | word [c] => some (.single c)
  | _ => none

/-- The set of a pattern that is one. -/
def set? : Pattern → Option CharSet
  | set s _ => some s
  | _ => none

/-- A choice between branches that do not all begin alike: a set, if all are single characters
or all are sets. -/
def choice (ps : List Pattern) : Pattern :=
  match ps with
  | [] => never
  | [p] => p
  | ps =>
    match ps.mapM charSet?, ps.mapM set? with
    | some sets, _ => ofSet (.unions sets) false
    | _, some sets => ofSet (.unions sets) false
    | _, _ => ofBranches ps

/-- The longest beginning that two lists have in common. -/
def commonStart : List Pattern → List Pattern → List Pattern
  | p :: ps, q :: qs => if p = q then p :: commonStart ps qs else []
  | _, _ => []

/-- The longest beginning that the sequences of a list have in common; nothing if one of them
is not a sequence. -/
def sharedStart : List Pattern → List Pattern
  | [] => []
  | [p] => if p.parts.length < 2 then [] else p.parts
  | p :: ps => if p.parts.length < 2 then [] else commonStart p.parts (sharedStart ps)

/-- A choice between patterns; what all of them begin with is taken out. -/
def alternation (ps : List Pattern) : Pattern :=
  let bs := ps.flatMap branches
  match sharedStart bs with
  | [] => choice bs
  | start =>
    let rests := bs.map fun b => ofParts (b.parts.drop start.length)
    concat (start ++ [choice (rests.flatMap branches)])

/-! ## Repetitions -/

/-- Whether no text but the empty one fits. -/
def isBlank : Pattern → Bool
  | empty => true
  | word _ => false
  | set _ _ => false
  | look _ => true
  | repeated p _ _ => isBlank p
  | captured _ p => isBlank p
  | seq p q => isBlank p && isBlank q
  | alt p q => isBlank p && isBlank q

/-- A repetition; what takes no character is repeated once at most. -/
def repetition (p : Pattern) (times : Times) (greedy : Bool) : Pattern :=
  if p.isBlank then
    match times with
    | .atLeastOnce => p
    | _ => repeated p .atMostOnce greedy
  else repeated p times greedy

/-- How many characters fit at least; none if a set without members stands in the pattern. -/
def leastLength? : Pattern → Option Nat
  | empty => some 0
  | word cs => some cs.length
  | set s _ => if s.isEmpty then none else some 1
  | look _ => some 0
  | repeated p .atLeastOnce _ => leastLength? p
  | repeated p _ _ => (leastLength? p).map fun _ => 0
  | captured _ p => leastLength? p
  | seq p q => do return (← leastLength? p) + (← leastLength? q)
  | alt p q => do return min (← leastLength? p) (← leastLength? q)

/-- Whether it is sure that a pattern takes a character. -/
def takesSome (p : Pattern) : Bool := p.leastLength?.any (0 < ·)

end Pattern

end MediaCodec
