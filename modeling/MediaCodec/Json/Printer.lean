/-
Writing JSON documents.

A value is written without blanks.  In a string the quote and the backslash are escaped, five
control characters have short escapes, the other control characters of ASCII stand as four
hexadecimal digits, and every other character stands for itself.
-/

import MediaCodec.Json.Basic
import MediaCodec.Text.Debug

namespace MediaCodec.Json

namespace Printer

/-- The escape of a control character as four hexadecimal digits. -/
def controlEscape (c : Char) : List Char :=
  let ds := Text.hexDigits c.toNat
  ['\\', 'u'] ++ List.replicate (4 - ds.length) '0' ++ ds

/-- One character of a string literal. -/
def escaped (c : Char) : List Char :=
  if c = '"' then ['\\', '"']
  else if c = '\\' then ['\\', '\\']
  else if c.toNat = 8 then ['\\', 'b']
  else if c.toNat = 12 then ['\\', 'f']
  else if c = '\n' then ['\\', 'n']
  else if c = '\r' then ['\\', 'r']
  else if c = '\t' then ['\\', 't']
  else if c.toNat < 0x20 then controlEscape c
  else [c]

def literal (s : String) : List Char := ['"'] ++ s.toList.flatMap escaped ++ ['"']

def integer (n : Int) : List Char :=
  if n < 0 then '-' :: Nat.toDigits 10 n.natAbs else Nat.toDigits 10 n.natAbs

mutual

def value : Json → List Char
  | .null => ['n', 'u', 'l', 'l']
  | .bool true => ['t', 'r', 'u', 'e']
  | .bool false => ['f', 'a', 'l', 's', 'e']
  | .integer n => integer n
  | .scientific m e => integer m ++ ['e'] ++ integer e
  | .string t => literal (t.getD "")
  | .array vs => ['['] ++ items vs ++ [']']
  | .object ms => ['\x7b'] ++ members ms ++ ['\x7d']

/-- The items of an array, with commas between them. -/
def items : List Json → List Char
  | [] => []
  | [v] => value v
  | v :: w :: vs => value v ++ [','] ++ items (w :: vs)

/-- The members of an object, with commas between them. -/
def members : List (Option String × Json) → List Char
  | [] => []
  | [(name, v)] => literal (name.getD "") ++ [':'] ++ value v
  | (name, v) :: m :: ms => literal (name.getD "") ++ [':'] ++ value v ++ [','] ++ members (m :: ms)

end

end Printer

/-- The document of a value. -/
def render (v : Json) : String := String.ofList (Printer.value v)

end MediaCodec.Json
