/-
Log events — what the parts of the codec say about their work.

An event knows its target (the part that speaks), its level, its message and its fields, the
spans it happened in, the outermost first, and the thread it happened on.  Every event is
kept, whoever listens: what a listener gets to see is decided afterwards, by a filter on
events (see `Log.Filter`).  So logging can never change what an operation does.
-/

import MediaCodec.Log.Level
import MediaCodec.Text.Debug

namespace MediaCodec

/-- The value of a field. -/
inductive FieldValue
  | signed (n : Int)
  | unsigned (n : Nat)
  | flag (b : Bool)
  /-- A mantissa and a power of ten, at most one. -/
  | decimal (mantissa : Int) (places : Nat)
  | text (s : String)
  /-- A value by the text that stands for it in diagnostics. -/
  | shown (s : String)
  deriving DecidableEq, Repr

namespace FieldValue

/-- A fraction with the given number of places after the point. -/
def decimalText (m : Int) (places : Nat) : String :=
  let unit := Nat.pow 10 places
  let sign := if m < 0 then "-" else ""
  let fraction := toString (m.natAbs % unit)
  let zeros := String.ofList (List.replicate (places - fraction.length) '0')
  sign ++ toString (m.natAbs / unit) ++ "." ++ zeros ++ fraction

def toText : FieldValue → String
  | signed n => toString n
  | unsigned n => toString n
  | flag b => Text.flag b
  | decimal m places => decimalText m places
  | text s => s
  | shown s => s

/-- The JSON value of a value: numbers and truth values as such, all else as its text. -/
def toJson : FieldValue → Json
  | signed n => .integer n
  | unsigned n => .nat n
  | flag b => .bool b
  | decimal m places => .scientific m (-(places : Int))
  | text s => .str s
  | shown s => .str s

end FieldValue

/-- Named values, in order. -/
abbrev LogFields := List (String × FieldValue)

/-- A stretch of work that events happen in. -/
structure Span where
  name : String
  target : String
  level : LogLevel
  fields : LogFields
  deriving DecidableEq, Repr

/-- Something said about the work. -/
structure Event where
  level : LogLevel
  target : String
  /-- The name of the place in the code; it stands in for a missing message. -/
  name : String := "event"
  message : Option String
  fields : LogFields := []
  /-- The spans around the event, the outermost first. -/
  spans : List Span := []
  /-- The number of the thread; that of the process itself is the first. -/
  thread : Nat := 1
  deriving DecidableEq, Repr

namespace Event

/-- An event with a message and fields. -/
def say (target : String) (level : LogLevel) (message : String) (fields : LogFields) : Event :=
  { level, target, message := some message, fields }

/-- The event as it happened inside one more span, around the others. -/
def within (s : Span) (e : Event) : Event := { e with spans := s :: e.spans }

/-- The event as it happened on a thread. -/
def onThread (n : Nat) (e : Event) : Event := { e with thread := n }

end Event

end MediaCodec
