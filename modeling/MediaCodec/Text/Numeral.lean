/-
Numerals — numbers as decimal texts.

A count is one or more digits of ASCII with an optional plus sign before them; leading zeros
are allowed.  Three things can be wrong with it, and which one is told depends on what stands
first when the text is read from the left: a character that is no digit is found before an
overflow that the same character would cause.

A fraction may have a sign, digits before and after a point, of which one at least must be
there, and an exponent with at least one digit.  Infinity and the value that is no number are
written by name, in any case.  Fractions are told from other texts and not read.
-/

import MediaCodec.Text.Basic

namespace MediaCodec.Text

/-! ## Counts -/

/-- What is wrong with the text of a count. -/
inductive CountFault
  | empty
  | invalidDigit
  | tooLarge
  deriving DecidableEq, Repr

def CountFault.message : CountFault → String
  | .empty => "cannot parse integer from empty string"
  | .invalidDigit => "invalid digit found in string"
  | .tooLarge => "number too large to fit in target type"

/-- The value of a digit of ASCII. -/
def digit? (c : Char) : Option Nat :=
  if '0' ≤ c && c ≤ '9' then some (c.toNat - '0'.toNat) else none

/-- The value of a hexadecimal digit. -/
def hexDigit? (c : Char) : Option Nat :=
  if '0' ≤ c && c ≤ '9' then some (c.toNat - '0'.toNat)
  else if 'a' ≤ c && c ≤ 'f' then some (c.toNat - 'a'.toNat + 10)
  else if 'A' ≤ c && c ≤ 'F' then some (c.toNat - 'A'.toNat + 10)
  else none

/-- Reads on from the value `acc` of the digits so far; no value above `max` is kept. -/
def readDigits (max : Nat) (acc : Nat) : List Char → Except CountFault Nat
  | [] => .ok acc
  | c :: rest =>
    match digit? c with
    | none => .error .invalidDigit
    | some d =>
      if acc * 10 + d ≤ max then readDigits max (acc * 10 + d) rest else .error .tooLarge

/-- Reads a count of at most `max`. -/
def readCount (max : Nat) : List Char → Except CountFault Nat
  | [] => .error .empty
  | ['+'] => .error .invalidDigit
  | '+' :: rest => readDigits max 0 rest
  | cs => readDigits max 0 cs

/-- The largest value of a word of 64 bits. -/
def maxWord : Nat := Nat.pow 2 64 - 1

/-- Reads a word of 64 bits. -/
def readWord (cs : List Char) : Except CountFault UInt64 :=
  (readCount maxWord cs).map UInt64.ofNat

/-! ## Fractions -/

namespace Fraction

/-- The text after a sign, if there is one. -/
def unsigned : List Char → List Char
  | '+' :: rest => rest
  | '-' :: rest => rest
  | cs => cs

/-- The values that are written by name. -/
def names : List String := ["inf", "infinity", "nan"]

/-- Whether a text is an exponent, or empty. -/
def isExponent : List Char → Bool
  | [] => true
  | c :: rest =>
    (c == 'e' || c == 'E') && !(unsigned rest).isEmpty && (unsigned rest).all Char.isDigit

/-- Whether a text is digits with at most one point, and perhaps an exponent. -/
def isDecimal (cs : List Char) : Bool :=
  let whole := cs.takeWhile Char.isDigit
  match cs.dropWhile Char.isDigit with
  | '.' :: rest =>
    !(whole.isEmpty && (rest.takeWhile Char.isDigit).isEmpty)
      && isExponent (rest.dropWhile Char.isDigit)
  | rest => !whole.isEmpty && isExponent rest

end Fraction

/-- Whether a text is that of a fraction; a whole number counts as one. -/
def isFraction (cs : List Char) : Bool :=
  let cs := Fraction.unsigned cs
  Fraction.names.contains (String.ofList (lower cs)) || Fraction.isDecimal cs

end MediaCodec.Text
