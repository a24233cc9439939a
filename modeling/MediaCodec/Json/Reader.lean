/-
Reading JSON documents.

The grammar is that of the standard: one value with blanks around it, where only the space,
the tab, the line feed and the carriage return are blanks, no leading zeros, no trailing
comma, and no control character inside a string.

Strings are read in two steps, because an escape may name half of a character.  `pieces`
takes a literal apart into characters and escaped code units; `assemble` joins the units in
pairs, and has no result where one is left alone.  The depth of nesting is not limited: the
reader recurses on a bound that the length of the document sets, and each of its calls takes
at least one character or is the first call inside a bracket.
-/

import MediaCodec.Json.Basic
import MediaCodec.Text.Numeral

namespace MediaCodec.Json.Reader

/-! ## Blanks and literals -/

/-- The blanks of the grammar. -/
def isBlank (c : Char) : Bool := c == ' ' || c == '\t' || c == '\n' || c == '\r'

/-- The document from its first character that is not blank. -/
def skip (cs : List Char) : List Char := cs.dropWhile isBlank

/-- What follows the given word. -/
def after? : List Char → List Char → Option (List Char)
  | [], cs => some cs
  | w :: ws, c :: cs => if w == c then after? ws cs else none
  | _ :: _, [] => none

/-! ## Strings -/

/-- A part of a string literal: a character, or an escaped code unit of 16 bits. -/
inductive Piece where
  | char (c : Char)
  | unit (n : Nat)

/-- The code unit that four hexadecimal digits name. -/
def codeUnit? (a b c d : Char) : Option Nat := do
  let a ← Text.hexDigit? a
  let b ← Text.hexDigit? b
  let c ← Text.hexDigit? c
  let d ← Text.hexDigit? d
  pure (((a * 16 + b) * 16 + c) * 16 + d)

/-- The character that a short escape stands for. -/
def shortEscape? (c : Char) : Option Char :=
  match c with
  | '"' => some '"'
  | '\\' => some '\\'
  | '/' => some '/'
  | 'b' => some (Char.ofNat 8)
  | 'f' => some (Char.ofNat 12)
  | 'n' => some '\n'
  | 'r' => some '\r'
  | 't' => some '\t'
  | _ => none

/-- The parts of a literal up to its closing quote, and what follows the quote. -/
def pieces : List Char → Option (List Piece × List Char)
  | [] => none
  | '"' :: rest => some ([], rest)
  | '\\' :: 'u' :: a :: b :: c :: d :: rest => do
    let n ← codeUnit? a b c d
    let (ps, rest) ← pieces rest
    pure (.unit n :: ps, rest)
  | '\\' :: e :: rest => do
    let c ← shortEscape? e
    let (ps, rest) ← pieces rest
    pure (.char c :: ps, rest)
  | c :: rest =>
    if c.toNat < 0x20 || c == '\\' then none
    else do
      let (ps, rest) ← pieces rest
      pure (.char c :: ps, rest)

/-- Whether a code unit is the first half of a pair. -/
def isHighHalf (n : Nat) : Bool := 0xd800 ≤ n && n < 0xdc00

/-- Whether a code unit is the second half of a pair. -/
def isLowHalf (n : Nat) : Bool := 0xdc00 ≤ n && n < 0xe000

/-- The character that a pair of halves stands for. -/
def joinHalves (high low : Nat) : Char :=
  Char.ofNat (0x10000 + (high - 0xd800) * 0x400 + (low - 0xdc00))

/-- The characters of a literal, unless it holds half of a pair. -/
def assemble : List Piece → Option (List Char)
  | [] => some []
  | .char c :: rest => (assemble rest).map (c :: ·)
  | .unit n :: .unit m :: rest =>
    if isHighHalf n && isLowHalf m then (assemble rest).map (joinHalves n m :: ·)
    else if isHighHalf n || isLowHalf n then none
    else (assemble (.unit m :: rest)).map (Char.ofNat n :: ·)
  | .unit n :: rest =>
    if isHighHalf n || isLowHalf n then none else (assemble rest).map (Char.ofNat n :: ·)

/-- Reads a literal after its opening quote. -/
def string (cs : List Char) : Option (Option String × List Char) :=
  (pieces cs).map fun (ps, rest) => ((assemble ps).map String.ofList, rest)

/-! ## Numbers -/

/-- The leading digits, and what follows them. -/
def digits (cs : List Char) : List Nat × List Char :=
  ((cs.takeWhile Char.isDigit).map fun c => c.toNat - '0'.toNat, cs.dropWhile Char.isDigit)

/-- The number that the digits write. -/
def ofDigits (ds : List Nat) : Nat := ds.foldl (fun n d => n * 10 + d) 0

/-- The whole part: a single zero, or digits that do not start with one. -/
def whole? (cs : List Char) : Option (Nat × List Char) :=
  match cs with
  | '0' :: rest => some (0, rest)
  | _ =>
    match digits cs with
    | ([], _) => none
    | (ds, rest) => some (ofDigits ds, rest)

/-- The digits after a point, if there is a point. -/
def fraction? (cs : List Char) : Option (Option (List Nat) × List Char) :=
  match cs with
  | '.' :: rest =>
    match digits rest with
    | ([], _) => none
    | (ds, rest) => some (some ds, rest)
  | _ => some (none, cs)

/-- The digits of an exponent, at least one, with its sign. -/
def signedExponent? (cs : List Char) : Option (Int × List Char) :=
  let (sign, cs) : Int × List Char :=
    match cs with
    | '+' :: rest => (1, rest)
    | '-' :: rest => (-1, rest)
    | _ => (1, cs)
  match digits cs with
  | ([], _) => none
  | (ds, rest) => some (sign * ofDigits ds, rest)

/-- The exponent, if there is one. -/
def exponent? (cs : List Char) : Option (Option Int × List Char) :=
  match cs with
  | 'e' :: rest => (signedExponent? rest).map fun (n, rest) => (some n, rest)
  | 'E' :: rest => (signedExponent? rest).map fun (n, rest) => (some n, rest)
  | _ => some (none, cs)

def number (cs : List Char) : Option (Json × List Char) := do
  let (negative, cs) :=
    match cs with
    | '-' :: rest => (true, rest)
    | _ => (false, cs)
  let (n, cs) ← whole? cs
  let (places, cs) ← fraction? cs
  let (power, cs) ← exponent? cs
  match places, power with
  | none, none =>
    if negative then
      if n == 0 then pure (.scientific 0 0, cs) else pure (.integer (-(n : Int)), cs)
    else pure (.integer n, cs)
  | _, _ =>
    let ds := places.getD []
    let m : Int := (n * Nat.pow 10 ds.length + ofDigits ds : Nat)
    pure (.scientific (if negative then -m else m) (power.getD 0 - ds.length), cs)

/-! ## Values -/

mutual

/-- Reads a value that starts at the first character. -/
def value : Nat → List Char → Option (Json × List Char)
  | 0, _ => none
  | fuel + 1, cs =>
    match cs with
    | '"' :: rest => (string rest).map fun (t, rest) => (.string t, rest)
    | '[' :: rest =>
      match skip rest with
      | ']' :: rest => some (.array [], rest)
      | rest => (items fuel rest).map fun (vs, rest) => (.array vs, rest)
    | '\x7b' :: rest =>
      match skip rest with
      | '\x7d' :: rest => some (.object [], rest)
      | rest => (members fuel rest).map fun (ms, rest) => (.object ms, rest)
    | 'n' :: rest => (after? ['u', 'l', 'l'] rest).map fun rest => (.null, rest)
    | 't' :: rest => (after? ['r', 'u', 'e'] rest).map fun rest => (.bool true, rest)
    | 'f' :: rest => (after? ['a', 'l', 's', 'e'] rest).map fun rest => (.bool false, rest)
    | _ => number cs

/-- Reads the items of an array from the first one up to the closing bracket. -/
def items : Nat → List Char → Option (List Json × List Char)
  | 0, _ => none
  | fuel + 1, cs => do
    let (v, rest) ← value fuel cs
    match skip rest with
    | ']' :: rest => pure ([v], rest)
    | ',' :: rest =>
      let (vs, rest) ← items fuel (skip rest)
      pure (v :: vs, rest)
    | _ => none

/-- Reads the members of an object from the first one up to the closing brace. -/
def members : Nat → List Char → Option (List (Option String × Json) × List Char)
  | 0, _ => none
  | fuel + 1, cs => do
    match cs with
    | '"' :: rest =>
      let (name, rest) ← string rest
      match skip rest with
      | ':' :: rest =>
        let (v, rest) ← value fuel (skip rest)
        match skip rest with
        | '\x7d' :: rest => pure ([(name, v)], rest)
        | ',' :: rest =>
          let (ms, rest) ← members fuel (skip rest)
          pure ((name, v) :: ms, rest)
        | _ => none
      | _ => none
    | _ => none

end

end Reader

/-- Reads a document that holds one value. -/
def parse? (document : String) : Option Json :=
  let cs := document.toList
  match Reader.value (2 * cs.length + 2) (Reader.skip cs) with
  | some (v, rest) => if (Reader.skip rest).isEmpty then some v else none
  | none => none

end MediaCodec.Json
