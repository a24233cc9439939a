/-
Debug texts — values on one line, as they stand in diagnostics.

A text stands between quotes and shows every character it holds.  The quote and the backslash
are escaped by a backslash; a tab, a line feed, a carriage return and the null character have
short escapes; any other character that does not show by itself stands as its code point in
hexadecimal.

A record is its name and its fields in order, and an optional value is `None` or `Some(…)`.
The domain modules say which fields they show; how they are laid out is decided here and
nowhere else.
-/

import MediaCodec.Text.Hidden

namespace MediaCodec.Text

/-! ## Quoted texts -/

/-- The hexadecimal digits of a number, in lower case and without leading zeros. -/
def hexDigits (n : Nat) : List Char := Nat.toDigits 16 n

/-- One character inside quotes. -/
def quotedChar (c : Char) : List Char :=
  if c = '"' then ['\\', '"']
  else if c = '\\' then ['\\', '\\']
  else if c = '\t' then ['\\', 't']
  else if c = '\n' then ['\\', 'n']
  else if c = '\r' then ['\\', 'r']
  else if c.toNat = 0 then ['\\', '0']
  else if isHidden c then ['\\', 'u', '\x7b'] ++ hexDigits c.toNat ++ ['\x7d']
  else [c]

def quoted (s : String) : String :=
  String.ofList (['"'] ++ s.toList.flatMap quotedChar ++ ['"'])

/-! ## Records -/

/-- A record by its name and its fields in order. -/
def record (name : String) (fields : List (String × String)) : String :=
  name ++ " \x7b " ++ ", ".intercalate (fields.map fun f => f.1 ++ ": " ++ f.2) ++ " \x7d"

/-- A record that shows only some of its fields. -/
def partialRecord (name : String) (fields : List (String × String)) : String :=
  name ++ " \x7b " ++ ", ".intercalate ((fields.map fun f => f.1 ++ ": " ++ f.2) ++ [".."]) ++ " \x7d"

/-- An optional value. -/
def optional (v : Option String) : String :=
  match v with
  | none => "None"
  | some s => "Some(" ++ s ++ ")"

/-- A truth value. -/
def flag (b : Bool) : String := if b then "true" else "false"

end MediaCodec.Text
