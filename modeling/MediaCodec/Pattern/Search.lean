/-
Searching — the place where a text fits a pattern.

A search takes the first place from which a pattern fits at all, and from there the way that
the pattern prefers.  What is asked of it here is whether that way leads to the end of the
text: a longer way that was not preferred does not count, nor does a later place.

A text is read once, from its beginning.  All ways that are still open are kept in the order
of preference, each as the number of an instruction; of two that meet, only the preferred one
goes on.  A new way begins at every character, behind the others, until one has accepted.  A
way that accepts ends those behind it, but not those in front: if one of them accepts later,
its end counts instead.
-/

import MediaCodec.Pattern.Machine

namespace MediaCodec

namespace Look

/-- Whether a character is there and belongs to a word. -/
def inWord (c : Option Char) : Bool := c.any CharSet.wordChars.mem

/-- Whether a condition holds between two characters, or at an end of the text. -/
def holds (before after : Option Char) : Look → Bool
  | textStart => before.isNone
  | textEnd => after.isNone
  | lineStart => before.all (· == '\n')
  | lineEnd => after.all (· == '\n')
  | anyLineStart => before.all fun c => c == '\n' || (c == '\r' && after != some '\n')
  | anyLineEnd => after.all fun c => c == '\r' || (c == '\n' && before != some '\r')
  | wordEdge => inWord before != inWord after
  | noWordEdge => inWord before == inWord after
  | wordStart => !inWord before && inWord after
  | wordEnd => inWord before && !inWord after

end Look

namespace Pattern

namespace Machine

/-- Where an instruction leads between two characters without taking one. -/
def ways (m : Machine) (before after : Option Char) (n : Nat) : List Nat :=
  match m.code[n]? with
  | some (.fork ways) => ways
  | some (.test l next) => if l.holds before after then [next] else []
  | _ => []

/-- Where an instruction leads with a character. -/
def advance? (m : Machine) (c : Char) (n : Nat) : Option Nat :=
  match m.code[n]? with
  | some (.take s next) => if s.mem c then some next else none
  | _ => none

def accepts (m : Machine) (n : Nat) : Bool := m.code[n]? matches some .accept

/-- Follows ways between two characters, the preferred ones first, to all instructions that
have not been seen; the latest seen comes first. -/
def explore (m : Machine) (before after : Option Char) :
    Nat → List Nat → Array Bool → List Nat → List Nat
  | 0, _, _, seen => seen
  | _, [], _, seen => seen
  | fuel + 1, n :: rest, unseen, seen =>
    if unseen.getD n false then
      explore m before after fuel (m.ways before after n ++ rest)
        (unseen.setIfInBounds n false) (n :: seen)
    else explore m before after fuel rest unseen seen

/-- All instructions that ways lead to between two characters.  No instruction is seen twice,
and none leads to more than two others. -/
def reach (m : Machine) (before after : Option Char) (ways : List Nat) : List Nat :=
  let unseen := Array.replicate m.code.size true
  (m.explore before after (2 * m.code.size + ways.length + 1) ways unseen []).reverse

/-- Reads a text with some ways open, and begins new ones while nothing has been accepted. -/
def run (m : Machine) (searching : Bool) (before : Option Char) (ways : List Nat) :
    List Char → Bool
  | [] => (m.reach before none (if searching then ways ++ [m.start] else ways)).any m.accepts
  | c :: rest =>
    let reached := m.reach before (some c) (if searching then ways ++ [m.start] else ways)
    let ahead := reached.takeWhile fun n => !m.accepts n
    run m (searching && !reached.any m.accepts) (some c) (ahead.filterMap (m.advance? c)) rest

end Machine

/-- Whether the search for a pattern stops at the end of the text. -/
def closes (p : Pattern) (text : List Char) : Bool := p.toMachine.run true none [] text

end Pattern

end MediaCodec
