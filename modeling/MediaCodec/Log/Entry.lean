/-
Log entries — events as a host gets to see them.

A record is flat: the values of its fields are texts, each name has one value, and of the
spans around the event it keeps the name of the innermost.  An entry is a record with the
moment it was made.  Entries are read from and written to JSON, where the fields may come in
any order but not be missing, and the span may be.
-/

import MediaCodec.Log.Event
import MediaCodec.Timestamp

namespace MediaCodec

/-- What a host is told about an event. -/
structure LogRecord where
  level : LogLevel
  target : String
  message : String
  /-- Names and values; no name stands twice. -/
  fields : List (String × String) := []
  /-- The name of the innermost span around the event. -/
  span : Option String := none
  deriving DecidableEq, Repr

namespace LogRecord

/-- Gives a name a value, in place of the one it had. -/
def setField (fields : List (String × String)) (name value : String) : List (String × String) :=
  if fields.any fun f => f.1 == name then
    fields.map fun f => if f.1 == name then (name, value) else f
  else fields ++ [(name, value)]

/-- A record with one more field. -/
def withField (r : LogRecord) (name value : String) : LogRecord :=
  { r with fields := setField r.fields name value }

/-- Fields in the order in which they were given. -/
def collect (fields : List (String × String)) : List (String × String) :=
  fields.foldl (fun fs f => setField fs f.1 f.2) []

/-- The record of an event; where there is no message, the name stands in for it. -/
def ofEvent (e : Event) : LogRecord where
  level := e.level
  target := e.target
  message := e.message.getD e.name
  fields := collect (e.fields.map fun f => (f.1, f.2.toText))
  span := e.spans.getLast?.map Span.name

end LogRecord

/-- A record and the moment it was made. -/
structure LogEntry where
  timestamp : Timestamp
  record : LogRecord
  deriving DecidableEq, Repr

namespace LogEntry

/-- The fields of the JSON form, in the order of an array. -/
def fields : List String := ["level", "timestamp", "target", "message", "fields", "span_id"]

/-- Reads a moment from a JSON value. -/
def timestampOfJson? (v : Json) : Option Timestamp := v.text?.bind Timestamp.ofText?

/-- A member whose name and value are texts. -/
def fieldOfMember? (m : Option String × Json) : Option (String × String) := do
  let name ← m.1
  let value ← m.2.text?
  pure (name, value)

/-- Reads names and texts from a JSON object; of a repeated name the last value counts. -/
def fieldsOfJson? : Json → Option (List (String × String))
  | .object members => (members.mapM fieldOfMember?).map LogRecord.collect
  | _ => none

def ofJson? (v : Json) : Option LogEntry := do
  let row ← Json.row? fields v
  let level ← row.required 0 LogLevel.ofJson?
  let timestamp ← row.required 1 timestampOfJson?
  let target ← row.required 2 Json.text?
  let message ← row.required 3 Json.text?
  let fields ← row.required 4 fieldsOfJson?
  let span ← row.omittable 5 Json.text?
  pure ⟨timestamp, { level, target, message, fields, span }⟩

def toJson (e : LogEntry) : Json :=
  .obj
    [("level", .str e.record.level.label),
     ("timestamp", .str e.timestamp.toText),
     ("target", .str e.record.target),
     ("message", .str e.record.message),
     ("fields", .obj (e.record.fields.map fun f => (f.1, .str f.2))),
     ("span_id", (e.record.span.map Json.str).getD .null)]

end LogEntry

end MediaCodec
