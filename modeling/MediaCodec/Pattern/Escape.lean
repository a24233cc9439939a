/-
Escapes — what a backslash and the signs after it stand for.

A sign that has a meaning of its own is taken by itself after a backslash, and so is any other
character of ASCII that is neither a letter nor a digit.  A letter gives a character by its
number or by its use, a condition on a place, or a set.
-/

import MediaCodec.Pattern.Modes
import MediaCodec.Text.Numeral

namespace MediaCodec.Pattern

/-- What an escape stands for. -/
inductive Escape
  /-- A character; whether it was written as the number of a byte. -/
  | char (c : Char) (byte : Bool)
  | look (l : Look)
  | set (negated : Bool) (s : CharSet)

namespace Escape

/-- Reads hexadecimal digits on from a number. -/
def hexNumber (m : Modes) (acc : Nat) : Nat → List Char → Option (Nat × List Char)
  | 0, cs => some (acc, cs)
  | n + 1, cs =>
    match m.skip cs with
    | [] => none
    | c :: rest => (Text.hexDigit? c).bind fun d => hexNumber m (acc * 16 + d) n rest

/-- Reads a character by its number, which has the given count of digits. -/
def numbered (m : Modes) (digits : Nat) (cs : List Char) : Option (Escape × List Char) :=
  (hexNumber m 0 digits cs).bind fun (n, rest) =>
    if n.isValidChar then some (char (.ofNat n) (digits == 2), rest) else none

/-- The escape of a letter or an angle bracket. -/
def ofLetter? : Char → Option Escape
  | 'a' => some (char '\x07' false)
  | 'f' => some (char '\x0c' false)
  | 't' => some (char '\t' false)
  | 'n' => some (char '\n' false)
  | 'r' => some (char '\r' false)
  | 'v' => some (char '\x0b' false)
  | 'A' => some (look .textStart)
  | 'z' => some (look .textEnd)
  | 'b' => some (look .wordEdge)
  | 'B' => some (look .noWordEdge)
  | '<' => some (look .wordStart)
  | '>' => some (look .wordEnd)
  | 'd' => some (set false .digits)
  | 'D' => some (set true .digits)
  | 's' => some (set false .spaces)
  | 'S' => some (set true .spaces)
  | 'w' => some (set false .wordChars)
  | 'W' => some (set true .wordChars)
  | _ => none

/-- Reads an escape after its backslash. -/
def read (m : Modes) : List Char → Option (Escape × List Char)
  | [] => none
  | 'x' :: rest => numbered m 2 rest
  | 'u' :: rest => numbered m 4 rest
  | 'U' :: rest => numbered m 8 rest
  | c :: rest =>
    match ofLetter? c with
    | some e => some (e, rest)
    | none => if c.toNat < 0x80 && !c.isAlphanum then some (char c false, rest) else none

/-- The pattern that an escape is by itself. -/
def toPattern? (m : Modes) : Escape → Option Pattern
  | char c byte => m.literal? c byte
  | look l => if m.tells l then some (.look l) else none
  | set negated s => (m.letterSet? negated s).map fun s => ofSet s true

/-- The set that an escape is inside of another. -/
def toSet? (m : Modes) : Escape → Option CharSet
  | char c _ => (m.member? c).map CharSet.single
  | look _ => none
  | set negated s => m.letterSet? negated s

/-- The character that an escape is at an end of a range. -/
def toMember? (m : Modes) : Escape → Option Char
  | char c _ => m.member? c
  | _ => none

end Escape

end MediaCodec.Pattern
