/-
Logging — who gets to see which events.

A process installs its logging once.  The filter is read first, so a bad one is told even
where logging is there already; one with a directive that tears makes the process panic.

Whatever passes the filter is written as a line; the host's own sink, if there is one, gets
the part of it that reaches the sink's floor.  A sink that fails is told about and asked again
for the next event.
-/

import MediaCodec.Attempt
import MediaCodec.Errors
import MediaCodec.Log.Filter
import MediaCodec.Log.Line
import MediaCodec.Text.Basic

namespace MediaCodec

/-- The layout of log lines. -/
inductive LogFormat
  | pretty
  | json
  | compact
  deriving DecidableEq, Repr

namespace LogFormat

def all : List LogFormat := [pretty, json, compact]

def name : LogFormat → String
  | pretty => "pretty"
  | json => "json"
  | compact => "compact"

/-- The name in diagnostics. -/
def label : LogFormat → String
  | pretty => "Pretty"
  | json => "Json"
  | compact => "Compact"

end LogFormat

/-- A host's receiver of log records. -/
structure LogSink where
  /-- The level from which on the host wants records. -/
  floor : LogLevel := .info
  /-- What the receiver answers to every record, if it fails. -/
  failure : Option HostError := none
  deriving DecidableEq, Repr

/-- How a process logs. -/
structure LoggingConfig where
  format : LogFormat := .pretty
  level : LogLevel := .info
  /-- The text of a filter, in place of the one for `level`. -/
  filter : Option String := none
  sink : Option LogSink := none
  lines : LineOptions := {}
  deriving DecidableEq, Repr

/-- Logging that is installed. -/
structure Logging where
  config : LoggingConfig
  filter : LogFilter

/-- What the receiver of a host gets, and what is said about its failures. -/
structure SinkReport where
  records : List LogRecord := []
  complaints : List String := []
  deriving DecidableEq, Repr

namespace LogSink

/-- How a complaint begins. -/
def complaintStart : String := "LoggerSink error: "

/-- What a sink has to say about an event that passed the filter. -/
def receive (s : LogSink) (e : Event) : SinkReport :=
  if e.level.atLeast s.floor then
    { records := [.ofEvent e]
      complaints := (s.failure.map fun f => complaintStart ++ f.message).toList }
  else {}

/-- What a sink makes of events that passed the filter. -/
def report (s : LogSink) (es : List Event) : SinkReport where
  records := es.flatMap fun e => (s.receive e).records
  complaints := es.flatMap fun e => (s.receive e).complaints

end LogSink

/-- The lines of the complaints that can be told from other diagnostics: those that begin as a
complaint does.  Each complaint ends its last line. -/
def SinkReport.complaintLines (r : SinkReport) : List String :=
  let lines := r.complaints.flatMap fun c => Text.lines (c ++ "\n").toList
  (lines.filter LogSink.complaintStart.toList.isPrefixOf).map String.ofList

namespace LoggingConfig

/-- The filter of a configuration. -/
def readFilter (c : LoggingConfig) : Attempt SetupError LogFilter :=
  match c.filter.map LogFilter.ofText with
  | none => .ok (.standard c.level)
  | some (.ok f) => .ok f
  | some (.error .malformed) => .error .malformedFilter
  | some (.error .torn) => .panic

/-- Installs the logging of a process. -/
def install (c : LoggingConfig) (installed : Bool) : Attempt SetupError Logging :=
  match c.readFilter with
  | .ok filter => if installed then .error .loggingInstalled else .ok ⟨c, filter⟩
  | .error e => .error e
  | .panic => .panic

end LoggingConfig

namespace Logging

/-- What the host's sink makes of events, if there is one. -/
def report (l : Logging) (es : List Event) : SinkReport :=
  match l.config.sink with
  | none => {}
  | some s => s.report (l.filter.apply es)

/-- The lines that are written for events. -/
def lines (l : Logging) (es : List Event) : List Json :=
  (l.filter.apply es).map (LogLine.ofEvent l.config.lines)

end Logging

end MediaCodec
