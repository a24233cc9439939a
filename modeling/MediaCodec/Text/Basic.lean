/-
Texts — what they are stored in, and where they are cut.

What a process gets from outside is bytes.  Most of it is text in UTF-8, and some of it is
not.  Apart from that a text is read as a list of characters.

Settings arrive from hands and shells, with blanks around them.  "Blank" is the property
White_Space of the Unicode standard: wider than the blanks of ASCII (a no-break space and an
ideographic space count), and narrower than "looks empty" (a zero-width space does not).

A line ends with a line feed, or with a carriage return right before one; a carriage return
anywhere else belongs to its line.  What stands behind the last end of a line is a line as
well, unless nothing stands there.

A text may also be cut at a distance in bytes from its beginning, unless a character lies
across it.
-/

import MediaCodec.Bytes

namespace MediaCodec.Text

/-! ## UTF-8 -/

/-- The text that the bytes encode, if they encode one. -/
def ofUtf8? (b : Bytes) : Option String := String.fromUTF8? ⟨b.toArray⟩

def toUtf8 (s : String) : Bytes := s.toUTF8.data.toList

/-! ## Blanks -/

/-- The code points with the property White_Space, as closed ranges. -/
def blankRanges : List (Nat × Nat) :=
  [(0x9, 0xd), (0x20, 0x20), (0x85, 0x85), (0xa0, 0xa0), (0x1680, 0x1680), (0x2000, 0x200a),
   (0x2028, 0x2029), (0x202f, 0x202f), (0x205f, 0x205f), (0x3000, 0x3000)]

/-- Whether one of the closed ranges holds the code point. -/
def inRanges (ranges : List (Nat × Nat)) (n : Nat) : Bool :=
  ranges.any fun r => r.1 ≤ n && n ≤ r.2

def isBlank (c : Char) : Bool := inRanges blankRanges c.toNat

/-- The text from its first character that is not blank. -/
def trimStart (cs : List Char) : List Char := cs.dropWhile isBlank

/-- The text up to its last character that is not blank. -/
def trimEnd (cs : List Char) : List Char := (cs.reverse.dropWhile isBlank).reverse

/-- The text between its first and its last character that are not blank. -/
def trim (cs : List Char) : List Char := trimEnd (trimStart cs)

/-! ## Words -/

/-- The lower-case form of the letters A to Z; every other character stays. -/
def lower (cs : List Char) : List Char := cs.map Char.toLower

/-- Whether the word stands somewhere in the text, without a gap. -/
def occurs (word : List Char) : List Char → Bool
  | [] => word.isEmpty
  | c :: rest => word.isPrefixOf (c :: rest) || occurs word rest

/-! ## Lines -/

/-- The lines of a text, without their ends. -/
def lines : List Char → List (List Char)
  | [] => []
  | '\n' :: rest => [] :: lines rest
  | '\r' :: '\n' :: rest => [] :: lines rest
  | c :: rest =>
    match lines rest with
    | [] => [[c]]
    | line :: more => (c :: line) :: more

/-! ## Cutting at a distance -/

/-- The length of a text in bytes. -/
def size : List Char → Nat
  | [] => 0
  | c :: rest => c.utf8Size + size rest

/-- The text from a distance on, unless a character lies across it. -/
def dropBytes? : Nat → List Char → Option (List Char)
  | 0, cs => some cs
  | _ + 1, [] => none
  | n + 1, c :: rest => if c.utf8Size ≤ n + 1 then dropBytes? (n + 1 - c.utf8Size) rest else none

/-- The text up to a distance, unless a character lies across it. -/
def takeBytes? : Nat → List Char → Option (List Char)
  | 0, _ => some []
  | _ + 1, [] => none
  | n + 1, c :: rest =>
    if c.utf8Size ≤ n + 1 then (takeBytes? (n + 1 - c.utf8Size) rest).map (c :: ·) else none

end MediaCodec.Text
