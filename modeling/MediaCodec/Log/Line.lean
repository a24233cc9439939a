/-
Log lines — what is written of the log, for machines and for people.

An event is written as a JSON document on one line.  Its message and its fields stand beside
its level; the target, the spans and the thread can each be left out.  A span is shown with
its own fields and its name; the list of the spans begins with the outermost, and the
innermost is shown once more by itself.  A thread is shown by its name and its number.

A console prints entries for people.  Those below the console's floor are passed over.  An
entry takes one line, and one more for its fields if it has any.
-/

import MediaCodec.Log.Entry
import MediaCodec.Text.Debug

namespace MediaCodec

/-! ## For machines -/

/-- What lines show. -/
structure LineOptions where
  spans : Bool := true
  target : Bool := true
  thread : Bool := false
  deriving DecidableEq, Repr

namespace LogLine

/-- Fields as members. -/
def members (fields : LogFields) : List (String × Json) := fields.map fun f => (f.1, f.2.toJson)

/-- A span as an object. -/
def span (s : Span) : Json := .obj (members s.fields ++ [("name", .str s.name)])

/-- The spans around an event, if there are any. -/
def spans (e : Event) : List (String × Json) :=
  match e.spans.getLast? with
  | none => []
  | some inner => [("span", span inner), ("spans", .array (e.spans.map span))]

/-- The name of a thread: that of the process itself is the main one, any other a worker. -/
def threadName (n : Nat) : String := if n == 1 then "main" else "tokio-rt-worker"

/-- The thread of an event. -/
def thread (e : Event) : List (String × Json) :=
  [("threadName", .str (threadName e.thread)),
   ("threadId", .str ("ThreadId(" ++ toString e.thread ++ ")"))]

/-- The line of an event, without the moment it was made. -/
def ofEvent (o : LineOptions) (e : Event) : Json :=
  .obj
    ([("level", .str e.level.upperName)]
      ++ (e.message.map fun m => ("message", Json.str m)).toList
      ++ members e.fields
      ++ (if o.target then [("target", .str e.target)] else [])
      ++ (if o.spans then spans e else [])
      ++ (if o.thread then thread e else []))

end LogLine

/-! ## For people -/

/-- A console that prints entries from a level on. -/
structure Console where
  floor : LogLevel := .info
  deriving DecidableEq, Repr

namespace Console

def line (e : LogEntry) : String :=
  "[" ++ e.timestamp.display ++ "] " ++ e.record.level.upperName ++ " " ++ e.record.target ++ ": "
    ++ e.record.message ++ "\n"

/-- The line of the fields. -/
def fieldsLine (fields : List (String × String)) : String :=
  let shown := fields.map fun f => Text.quoted f.1 ++ ": " ++ Text.quoted f.2
  "  Fields: \x7b" ++ ", ".intercalate shown ++ "\x7d\n"

/-- What the console prints for an entry. -/
def print (c : Console) (e : LogEntry) : String :=
  if e.record.level.atLeast c.floor then
    line e ++ (if e.record.fields.isEmpty then "" else fieldsLine e.record.fields)
  else ""

end Console

end MediaCodec
