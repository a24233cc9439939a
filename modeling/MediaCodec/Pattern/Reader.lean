/-
Reading patterns.

A pattern is written as branches with bars between them.  A branch is a row of parts: single
characters, the point, escapes, bracketed sets, the two ends of a text, groups in parentheses,
and mode changes, which take no character.  A part may be followed by signs of repetition,
each of which repeats all that it follows; a repetition is marked by a question mark right
after its sign.

A group may have a name, or no number at all, and may begin with a mode change of its own.
The modes of a group end with it, but not with a branch.

Patterns may be nested to a certain depth and no deeper.  A group, a repetition, a bracket and
an operator inside one count as a level each, and so does every row of several parts.
-/

import MediaCodec.Pattern.Bracket
import MediaCodec.Text.Letter

namespace MediaCodec.Pattern

/-- A part of a written pattern. -/
structure Part where
  pattern : Pattern
  /-- The depth of its nesting. -/
  depth : Nat := 0
  /-- Whether it can be repeated; a mode change cannot. -/
  repeatable : Bool := true

namespace Part

/-- The deepest nesting among some parts; a row of several counts as one level more. -/
def depthOf (ps : List Part) : Nat :=
  let deepest := ps.foldl (fun d p => max d p.depth) 0
  if ps.length < 2 then deepest else deepest + 1

/-- The branch of some parts, the last of which comes first. -/
def row (ps : List Part) : Part where
  pattern := concat (ps.reverse.map Part.pattern)
  depth := depthOf ps

/-- The choice between some branches, the last of which comes first. -/
def choice (ps : List Part) : Part :=
  match ps with
  | [p] => p
  | ps => { pattern := alternation (ps.reverse.map Part.pattern), depth := depthOf ps }

/-- A part repeated. -/
def repeats (p : Part) (times : Times) (greedy : Bool) : Part where
  pattern := p.pattern.repetition times greedy
  depth := p.depth + 1

/-- A group around a part, which may have a number. -/
def group (p : Part) (number : Option Nat) : Part where
  pattern := match number with
    | none => p.pattern
    | some n => captured n p.pattern
  depth := p.depth + 1

end Part

/-- What the beginning of a group says. -/
inductive Opening
  /-- It is no group: the modes are changed. -/
  | change (m : Modes)
  /-- It is a group without a number, in some modes. -/
  | plain (m : Modes)
  /-- It is a group with a number, and perhaps with a name. -/
  | numbered (name : Option (List Char))

namespace Opening

/-- Reads mode letters; those after a hyphen are switched off.  None may stand twice. -/
def modes (seen : List Char) (m : Modes) : List Char → Option (Opening × List Char)
  | [] => none
  | ':' :: rest => if seen.head? == some '-' then none else some (plain m, rest)
  | ')' :: rest =>
    if seen.isEmpty || seen.head? == some '-' then none else some (change m, rest)
  | c :: rest =>
    if seen.contains c then none
    else if c == '-' then modes (c :: seen) m rest
    else (m.switch? c !(seen.contains '-')).bind fun m => modes (c :: seen) m rest

/-- Whether a text can be the name of a group. -/
def isName : List Char → Bool
  | [] => false
  | c :: rest =>
    (c == '_' || Text.isAlphabetic c)
      && rest.all fun c => ['_', '.', '[', ']'].contains c || Text.isAlphanumeric c

/-- Reads the name of a group. -/
def name (cs : List Char) : Option (Opening × List Char) :=
  let n := cs.takeWhile (· != '>')
  match cs.dropWhile (· != '>') with
  | [] => none
  | _ :: rest => if isName n then some (numbered n, rest) else none

/-- Reads the beginning of a group after its parenthesis. -/
def read (m : Modes) (cs : List Char) : Option (Opening × List Char) :=
  match m.skip cs with
  | '?' :: 'P' :: '<' :: rest => name rest
  | '?' :: '<' :: rest => name rest
  | '?' :: rest => modes [] m rest
  | rest => some (numbered none, rest)

end Opening

/-- What is left of a written pattern, and what has been learned on the way. -/
structure Source where
  rest : List Char
  modes : Modes := {}
  /-- How many groups have got a number. -/
  groups : Nat := 0
  /-- The names of groups so far. -/
  names : List (List Char) := []

namespace Source

/-- Takes note of a group with a number; a name may stand only once. -/
def addGroup (s : Source) (name : Option (List Char)) : Option Source :=
  let s := { s with groups := s.groups + 1 }
  match name with
  | none => some s
  | some n => if s.names.contains n then none else some { s with names := n :: s.names }

/-- The source after a group, in the modes before it. -/
def leave (s : Source) (m : Modes) : Option Source :=
  match s.rest with
  | ')' :: rest => some { s with rest, modes := m }
  | _ => none

/-- The repetition that a sign stands for. -/
def times? : Char → Option Times
  | '?' => some .atMostOnce
  | '+' => some .atLeastOnce
  | '*' => some .anyNumber
  | _ => none

/-- Reads the signs of a repetition, and says whether it is greedy. -/
def repetition (m : Modes) (rest : List Char) : Bool × List Char :=
  match rest with
  | '?' :: rest => (m.swapGreed, rest)
  | _ => (!m.swapGreed, rest)

/-- Reads a part that is no group; a brace has no meaning outside of brackets. -/
def part (s : Source) (fuel : Nat) : Option (Part × Source) :=
  match s.rest with
  | [] => none
  | '\x7b' :: _ => none
  | '[' :: rest =>
    (Members.bracket s.modes fuel rest).map fun (n, rest) =>
      (⟨ofSet n.set !s.modes.characters, n.depth, true⟩, { s with rest })
  | '.' :: rest => s.modes.dot?.map fun p => ({ pattern := p }, { s with rest })
  | '^' :: rest => some ({ pattern := look s.modes.start }, { s with rest })
  | '$' :: rest => some ({ pattern := look s.modes.stop }, { s with rest })
  | '\\' :: rest => do
    let (e, rest) ← Escape.read s.modes rest
    let p ← e.toPattern? s.modes
    return ({ pattern := p }, { s with rest })
  | c :: rest => (s.modes.literal? c false).map fun p => ({ pattern := p }, { s with rest })

/-- Reads branches up to the end of a group or of the pattern, given the branches and the
parts of the last branch that were read already, the latest first. -/
def branches : Nat → List Part → List Part → Source → Option (Part × Source)
  | 0, _, _, _ => none
  | fuel + 1, done, parts, s =>
    let s := { s with rest := s.modes.skip s.rest }
    match s.rest with
    | [] => some (.choice (.row parts :: done), s)
    | ')' :: _ => some (.choice (.row parts :: done), s)
    | '|' :: rest => branches fuel (.row parts :: done) [] { s with rest }
    | '(' :: rest => do
      let (opening, rest) ← Opening.read s.modes rest
      match opening with
      | .change modes => branches fuel done (⟨empty, 0, false⟩ :: parts) { s with rest, modes }
      | .plain modes =>
        let (inner, after) ← branches fuel [] [] { s with rest, modes }
        branches fuel done (inner.group none :: parts) (← after.leave s.modes)
      | .numbered name =>
        let number := s.groups
        let s' ← s.addGroup name
        let (inner, after) ← branches fuel [] [] { s' with rest }
        branches fuel done (inner.group number :: parts) (← after.leave s.modes)
    | c :: rest =>
      match times? c with
      | some times =>
        match parts with
        | [] => none
        | p :: ps =>
          if p.repeatable then
            let (greedy, rest) := repetition s.modes rest
            branches fuel done (p.repeats times greedy :: ps) { s with rest }
          else none
      | none => do
        let (p, s) ← s.part fuel
        branches fuel done (p :: parts) s

end Source

/-- How deep patterns may be nested. -/
def deepest : Nat := 250

def ofText? (s : String) : Option Pattern :=
  let cs := s.toList
  match Source.branches (2 * cs.length + 2) [] [] { rest := cs } with
  | some (p, after) => if after.rest.isEmpty && p.depth ≤ deepest then some p.pattern else none
  | none => none

end MediaCodec.Pattern
