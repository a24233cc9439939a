/-
JSON values.

Objects keep their members in the order of the document and keep repeated names: which of
them counts, or whether a repetition is a fault, is for the reader of a value to say.

A string literal may escape half of a surrogate pair.  Such a literal is within the grammar
but names no text, so a string and a member's name carry an optional text.  A number is an
integer when it is written as one, and otherwise a mantissa and a power of ten; minus zero is
not an integer.
-/

namespace MediaCodec

/-- A JSON value. -/
inductive Json where
  | null
  | bool (b : Bool)
  | integer (n : Int)
  | scientific (mantissa : Int) (exponent : Int)
  | string (text : Option String)
  | array (items : List Json)
  | object (members : List (Option String × Json))
  deriving Inhabited

namespace Json

/-- The value of a text. -/
def str (s : String) : Json := .string (some s)

/-- The value of a natural number. -/
def nat (n : Nat) : Json := .integer n

/-- The object with the given members in order. -/
def obj (members : List (String × Json)) : Json :=
  .object (members.map fun m => (some m.1, m.2))

/-- The first member of the given name. -/
def get? (name : String) : Json → Option Json
  | .object members => (members.find? fun m => m.1 == some name).map (·.2)
  | _ => none

/-- The text of a string. -/
def text? : Json → Option String
  | .string t => t
  | _ => none

/-- A number that is written as an integer and lies between zero and `max`. -/
def count? (max : Nat) : Json → Option Nat
  | .integer (.ofNat n) => if n ≤ max then some n else none
  | _ => none

/-- Reads null as nothing and any other value with `read`. -/
def nullable? (read : Json → Option α) : Json → Option (Option α)
  | .null => some none
  | v => (read v).map some

end Json

end MediaCodec
