/-
Modes — how the signs of a written pattern are taken.

A mode is switched on or off inside a pattern, for the rest of the group that it is switched
in.  The usual mode is the one for characters.  In it any set of characters can be written,
but only by its members: the cases of letters, and which characters make up words, are not
known.  In the other mode, the one for bytes, both are known for ASCII; but a pattern there
must not be able to take a part of a longer character, so its sets are sets of ASCII.
-/

import MediaCodec.Pattern.Basic
import MediaCodec.Text.Basic

namespace MediaCodec.Pattern

/-- The modes at a place of a pattern. -/
structure Modes where
  ignoreCase : Bool := false
  /-- Lines begin and end within the text. -/
  lines : Bool := false
  /-- The point takes the end of a line too. -/
  dotAll : Bool := false
  /-- Repetitions are not greedy unless they are marked. -/
  swapGreed : Bool := false
  /-- Characters are meant, not bytes. -/
  characters : Bool := true
  /-- A carriage return ends a line too. -/
  anyLineEnd : Bool := false
  /-- Blanks and comments may stand between the signs. -/
  spaced : Bool := false
  deriving DecidableEq, Repr

namespace Modes

/-- Switches the mode with a letter. -/
def switch? (m : Modes) (letter : Char) (on : Bool) : Option Modes :=
  match letter with
  | 'i' => some { m with ignoreCase := on }
  | 'm' => some { m with lines := on }
  | 's' => some { m with dotAll := on }
  | 'U' => some { m with swapGreed := on }
  | 'u' => some { m with characters := on }
  | 'R' => some { m with anyLineEnd := on }
  | 'x' => some { m with spaced := on }
  | _ => none

/-! ## Blanks and comments -/

/-- Passes over blanks, and over comments from a number sign to the end of their line. -/
def skipBlanks (inComment : Bool) : List Char → List Char
  | [] => []
  | c :: rest =>
    if inComment then skipBlanks (c != '\n') rest
    else if Text.isBlank c then skipBlanks false rest
    else if c == '#' then skipBlanks true rest
    else c :: rest

/-- The pattern from its next sign on. -/
def skip (m : Modes) (cs : List Char) : List Char := if m.spaced then skipBlanks false cs else cs

/-- The sign that seems to come next: after a number sign only blanks are passed over. -/
def peek (m : Modes) (cs : List Char) : Option Char :=
  if m.spaced then
    match Text.trimStart cs with
    | '#' :: rest => (Text.trimStart rest).head?
    | rest => rest.head?
  else cs.head?

/-! ## What the signs stand for -/

/-- A character by itself; whether it was written as the number of a byte. -/
def literal? (m : Modes) (c : Char) (byte : Bool) : Option Pattern :=
  if m.characters then
    if m.ignoreCase then none else some (word [c])
  else if byte && decide (0x80 ≤ c.toNat) then none
  else if m.ignoreCase then some (ofSet (CharSet.single c).foldCase true)
  else some (word [c])

/-- The point. -/
def dot? (m : Modes) : Option Pattern :=
  if !m.characters then none
  else if m.dotAll then some (ofSet .all false)
  else
    let ends := if m.anyLineEnd then CharSet.union (.single '\r') (.single '\n') else .single '\n'
    some (ofSet ends.complement false)

/-- The beginning of a text, or of a line. -/
def start (m : Modes) : Look :=
  if !m.lines then .textStart else if m.anyLineEnd then .anyLineStart else .lineStart

/-- The end of a text, or of a line. -/
def stop (m : Modes) : Look :=
  if !m.lines then .textEnd else if m.anyLineEnd then .anyLineEnd else .lineEnd

/-- Whether a condition can be told: one about words cannot, for characters. -/
def tells (m : Modes) : Look → Bool
  | .wordEdge | .noWordEdge | .wordStart | .wordEnd => !m.characters
  | _ => true

/-! ## Sets -/

/-- A character as a member of a set. -/
def member? (m : Modes) (c : Char) : Option Char :=
  if m.characters then
    if m.ignoreCase then none else some c
  else if c.toNat < 0x80 then some c
  else none

/-- A set with both cases of its letters, if case is ignored. -/
def fold (m : Modes) (s : CharSet) : CharSet := if m.ignoreCase then s.foldCase else s

/-- A set, or what is not in it; for bytes that would be more than ASCII. -/
def negate? (m : Modes) (negated : Bool) (s : CharSet) : Option CharSet :=
  if !negated then some s else if m.characters then some s.complement else none

/-- A set that is known by its name, inside another. -/
def namedSet? (m : Modes) (negated : Bool) (s : CharSet) : Option CharSet :=
  if m.characters && m.ignoreCase then none else m.negate? negated (m.fold s)

/-- A set that is known by a letter. -/
def letterSet? (m : Modes) (negated : Bool) (s : CharSet) : Option CharSet :=
  if m.characters then none else m.negate? negated s

end Modes

end MediaCodec.Pattern
