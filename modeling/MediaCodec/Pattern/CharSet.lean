/-
Character sets — sets of characters that are compared by their members.

All characters stand in one row, in the order of their code points and without the gap in
which no character lies.  A set is kept as the places in that row at which membership changes,
in increasing order: it begins at the first, ends before the second, begins again at the
third, and so on.  So an operation on sets is an operation on truth values, done once at each
change of one of them, and sets that come out with the same members are the same.
-/

namespace MediaCodec

/-- A set of characters, by the places at which membership changes. -/
structure CharSet where
  changes : List Nat
  deriving DecidableEq, Repr

namespace CharSet

/-! ## Places -/

/-- How many characters there are. -/
def places : Nat := 0x10f800

/-- The place of a character. -/
def place (c : Char) : Nat := if c.toNat < 0xd800 then c.toNat else c.toNat - 0x800

/-- The character at a place. -/
def charAt (n : Nat) : Char := .ofNat (if n < 0xd800 then n else n + 0x800)

/-- Whether a place lies in the set that changes at the given places. -/
def holds (n : Nat) : List Nat → Bool
  | [] => false
  | p :: ps => decide (p ≤ n) && !holds n ps

/-- Whether a character is a member. -/
def mem (s : CharSet) (c : Char) : Bool := holds (place c) s.changes

/-! ## Sets -/

def empty : CharSet := ⟨[]⟩

def all : CharSet := ⟨[0]⟩

/-- The characters from one to another. -/
def range (first last : Char) : CharSet :=
  ⟨place first :: if place last + 1 < places then [place last + 1] else []⟩

def single (c : Char) : CharSet := range c c

def isEmpty (s : CharSet) : Bool := s.changes.isEmpty

/-- The only member, if there is just one. -/
def only? (s : CharSet) : Option Char :=
  match s.changes with
  | [p] => if p + 1 = places then some (charAt p) else none
  | [p, q] => if p + 1 = q then some (charAt p) else none
  | _ => none

/-! ## Operations -/

/-- The places at which a test of the membership in two sets changes, given those at which the
sets still change, and whether the places before these belong to each of them. -/
def merge (test : Bool → Bool → Bool) (inA inB : Bool) (as bs : List Nat) : List Nat :=
  let onward (n : Nat) (inA' inB' : Bool) (rest : List Nat) : List Nat :=
    if test inA' inB' == test inA inB then rest else n :: rest
  match as, bs with
  | [], [] => []
  | a :: as, [] => onward a (!inA) inB (merge test (!inA) inB as [])
  | [], b :: bs => onward b inA (!inB) (merge test inA (!inB) [] bs)
  | a :: as, b :: bs =>
    if a < b then onward a (!inA) inB (merge test (!inA) inB as (b :: bs))
    else if b < a then onward b inA (!inB) (merge test inA (!inB) (a :: as) bs)
    else onward a (!inA) (!inB) (merge test (!inA) (!inB) as bs)
termination_by as.length + bs.length

/-- The characters whose membership in two sets passes a test, which a character of neither
set must not pass. -/
def combine (test : Bool → Bool → Bool) (a b : CharSet) : CharSet :=
  ⟨merge test false false a.changes b.changes⟩

def union (a b : CharSet) : CharSet := combine (· || ·) a b

def inter (a b : CharSet) : CharSet := combine (· && ·) a b

/-- The members of the first set that are not in the second. -/
def diff (a b : CharSet) : CharSet := combine (fun x y => x && !y) a b

/-- The members of just one of the sets. -/
def symmDiff (a b : CharSet) : CharSet := combine (· != ·) a b

/-- The characters that are no members. -/
def complement (s : CharSet) : CharSet := diff all s

/-- The members of some set of a list; each half of the list is joined first, so a set is gone
through only as often as the list can be halved. -/
def unions : List CharSet → CharSet
  | [] => empty
  | [s] => s
  | s :: t :: rest =>
    let half := (rest.length + 2) / 2
    union (unions ((s :: t :: rest).take half)) (unions ((s :: t :: rest).drop half))
termination_by sets => sets.length

/-- The small letters of ASCII. -/
def smallLetters : List Char := (List.range 26).map fun i => .ofNat ('a'.toNat + i)

/-- The set with both forms of each letter of ASCII that is in it in one form. -/
def foldCase (s : CharSet) : CharSet :=
  let both (c : Char) : CharSet :=
    if s.mem c || s.mem c.toUpper then union (single c) (single c.toUpper) else empty
  union s (unions (smallLetters.map both))

/-! ## Classes of ASCII -/

def digits : CharSet := range '0' '9'

def letters : CharSet := union (range 'a' 'z') (range 'A' 'Z')

/-- The characters of words: letters, digits and the underscore. -/
def wordChars : CharSet := unions [letters, digits, single '_']

/-- The characters that part words: the space, the tab, and the ends of lines and pages. -/
def spaces : CharSet := union (single ' ') (range '\t' '\r')

/-- The class with a name. -/
def named? : String → Option CharSet
  | "alnum" => some (union letters digits)
  | "alpha" => some letters
  | "ascii" => some (range '\x00' '\x7f')
  | "blank" => some (union (single ' ') (single '\t'))
  | "cntrl" => some (union (range '\x00' '\x1f') (single '\x7f'))
  | "digit" => some digits
  | "graph" => some (range '!' '~')
  | "lower" => some (range 'a' 'z')
  | "print" => some (range ' ' '~')
  | "punct" => some (diff (range '!' '~') (union letters digits))
  | "space" => some spaces
  | "upper" => some (range 'A' 'Z')
  | "word" => some wordChars
  | "xdigit" => some (unions [digits, range 'a' 'f', range 'A' 'F'])
  | _ => none

end CharSet

end MediaCodec
