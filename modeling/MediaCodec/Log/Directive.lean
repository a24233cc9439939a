/-
Directives — the sentences of a log filter.

A filter is a text of directives with commas between them.  A directive is written

    target[span{field=value}]=level

where every part may be missing, but not all of them.  A word that stands alone is a level if
it names one, and otherwise a target of which everything passes.  A level that is left out,
also after an equals sign, lets everything pass.  A target begins with a letter, a digit, a
hyphen, a colon or an underscore, or else the directive begins with a bracket.

Blanks around a directive do not help.  The structure is found in the directive without them,
and its parts are then cut out of the directive with them, at the same distances from its
beginning: after a leading blank every part is off by it.

A value is compared by its kind: a truth value, a whole number, a fraction, or else a text
that the search for a pattern has to close.

A directive that does not have this form is refused.  One whose parts cannot be cut out,
because a cut would go through a character, tears.
-/

import MediaCodec.Log.Event
import MediaCodec.Log.Threshold
import MediaCodec.Pattern.Reader
import MediaCodec.Pattern.Search
import MediaCodec.Text.Numeral

namespace MediaCodec

/-! ## Values -/

/-- What the value of a field has to be. -/
inductive ValuePattern
  | flag (b : Bool)
  | unsigned (n : Nat)
  | signed (n : Int)
  /-- A fraction as it was written; no field of a span is one. -/
  | fraction (written : String)
  /-- A pattern as it was written, and as it was read. -/
  | text (written : String) (p : Pattern)
  deriving DecidableEq, Repr

namespace ValuePattern

/-- Reads a number with a minus sign, of 64 bits. -/
def negative? (cs : List Char) : Option Int :=
  match cs with
  | '-' :: '+' :: _ => none
  | '-' :: rest => (Text.readCount (Nat.pow 2 63) rest).toOption.map fun n => -(n : Int)
  | _ => none

/-- Reads a value; what is no number has to be a pattern. -/
def ofText? (s : String) : Option ValuePattern :=
  if s == "true" then some (flag true)
  else if s == "false" then some (flag false)
  else
    match Text.readWord s.toList with
    | .ok n => some (unsigned n.toNat)
    | .error _ =>
      match negative? s.toList with
      | some n => some (signed n)
      | none =>
        if Text.isFraction s.toList then some (fraction s)
        else (Pattern.ofText? s).map (text s)

/-- Whether a value fits. -/
def fits : ValuePattern → FieldValue → Bool
  | flag b, .flag c => b == c
  | unsigned n, .unsigned m => n == m
  | unsigned n, .signed m => (n : Int) == m
  | signed n, .signed m => n == m
  | text _ p, .text s => p.closes s.toList
  | text _ p, .shown s => p.closes s.toList
  | _, _ => false

end ValuePattern

/-- A field that has to be there, and what its value has to be. -/
structure FieldPattern where
  name : String
  value : Option ValuePattern
  deriving DecidableEq, Repr

/-- Reads a field; what follows a second equals sign is passed over. -/
def FieldPattern.ofText? (s : String) : Option FieldPattern :=
  match s.splitOn "=" with
  | [] => some ⟨"", none⟩
  | [name] => some ⟨name, none⟩
  | name :: value :: _ => (ValuePattern.ofText? value).map fun v => ⟨name, some v⟩

/-! ## Directives -/

/-- One sentence of a filter. -/
structure Directive where
  target : Option String := none
  span : Option String := none
  fields : List FieldPattern := []
  threshold : Threshold := .everything
  deriving DecidableEq, Repr

/-- What is wrong with a directive. -/
inductive DirectiveFault
  | malformed
  /-- A part of it would begin or end inside of a character. -/
  | torn
  deriving DecidableEq, Repr

namespace Directive

/-- The part of a directive that a reader is in, with the place where it began. -/
inductive Stage
  | start
  | head
  | span (since : Nat)
  | field (since : Nat)
  | fields
  | target
  | level (since : Nat)

/-- Whether a target may begin with a character. -/
def beginsTarget (c : Char) : Bool := c == '-' || c == ':' || c == '_' || Text.isAlphanumeric c

/-- The part of a text between two distances from its beginning, in bytes. -/
def cut (text : List Char) (since stop : Nat) : Except DirectiveFault String :=
  match (Text.dropBytes? since text).bind (Text.takeBytes? (stop - since)) with
  | some cs => .ok (String.ofList cs)
  | none => .error .torn

/-- The threshold with a name, after an equals sign; no name lets everything pass. -/
def readThreshold (name : String) : Except DirectiveFault Threshold :=
  if name.isEmpty then .ok .everything
  else
    match Threshold.ofText? name with
    | some t => .ok t
    | none => .error .malformed

/-- A field of a directive; it must not be empty. -/
def addField (d : Directive) (text : String) : Except DirectiveFault Directive :=
  match if text.isEmpty then none else FieldPattern.ofText? text with
  | some f => .ok { d with fields := d.fields ++ [f] }
  | none => .error .malformed

/-- Takes the character at a distance from the beginning. -/
def step (text : List Char) (d : Directive) (place : Nat) (c : Char) :
    Stage → Except DirectiveFault (Stage × Directive)
  | .start =>
    if c == '[' then .ok (.span (place + 1), d)
    else if beginsTarget c then .ok (.head, d)
    else .error .malformed
  | .head =>
    if c == '=' || c == '[' then do
      let d := { d with target := some (← cut text 0 place) }
      return (if c == '=' then .level (place + 1) else .span (place + 1), d)
    else .ok (.head, d)
  | .span since =>
    if c == ']' then do
      return (.target, { d with span := some (← cut text since place) })
    else if c == '\x7b' then do
      let s ← cut text since place
      return (.field (place + 1), { d with span := if s.isEmpty then none else some s })
    else .ok (.span since, d)
  | .field since =>
    if c == '\x7d' then do
      return (.fields, ← d.addField (← cut text since place))
    else .ok (.field since, d)
  | .fields => if c == ']' then .ok (.target, d) else .error .malformed
  | .target => if c == '=' then .ok (.level (place + 1), d) else .error .malformed
  | .level since => .ok (.level since, d)

/-- A word that stands alone. -/
def ofWord (word : String) : Directive :=
  match Threshold.ofText? word with
  | some t => { threshold := t }
  | none => { target := some word }

/-- The directive at the end of its text. -/
def finish (text : List Char) (d : Directive) : Stage → Except DirectiveFault Directive
  | .head => .ok (ofWord (String.ofList text))
  | .level since => do
    return { d with threshold := ← readThreshold (← cut text since (Text.size text)) }
  | .target => .ok d
  | _ => .error .malformed

/-- Reads on from a distance from the beginning. -/
def scan (text : List Char) (d : Directive) (place : Nat) (stage : Stage) :
    List Char → Except DirectiveFault Directive
  | [] => finish text d stage
  | c :: rest => do
    let (stage, d) ← step text d place c stage
    scan text d (place + c.utf8Size) stage rest

def ofText (s : String) : Except DirectiveFault Directive :=
  scan s.toList {} 0 .start (Text.trim s.toList)

/-- Reads the directives of a filter, of which empty ones are passed over; the first fault
ends it. -/
def listOfText (s : String) : Except DirectiveFault (List Directive) :=
  ((s.splitOn ",").filter fun p => !p.isEmpty).mapM ofText

end Directive

end MediaCodec
