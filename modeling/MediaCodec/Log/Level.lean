/-
Log levels, from the most talkative to the gravest.
-/

import MediaCodec.Json.Shape

namespace MediaCodec

/-- How grave a log entry is. -/
inductive LogLevel
  | trace
  | debug
  | info
  | warn
  | error
  deriving DecidableEq, Repr

namespace LogLevel

/-- Every level, the most talkative first. -/
def all : List LogLevel := [trace, debug, info, warn, error]

/-- The place of a level among all; graver levels come later. -/
def gravity : LogLevel → Nat
  | trace => 0
  | debug => 1
  | info => 2
  | warn => 3
  | error => 4

/-- The name in lower case. -/
def name : LogLevel → String
  | trace => "trace"
  | debug => "debug"
  | info => "info"
  | warn => "warn"
  | error => "error"

/-- The name in upper case, as log lines show it. -/
def upperName : LogLevel → String
  | trace => "TRACE"
  | debug => "DEBUG"
  | info => "INFO"
  | warn => "WARN"
  | error => "ERROR"

/-- The name with a capital letter, as the JSON form shows it. -/
def label : LogLevel → String
  | trace => "Trace"
  | debug => "Debug"
  | info => "Info"
  | warn => "Warn"
  | error => "Error"

/-- Whether a level is at least as grave as a floor. -/
def atLeast (level floor : LogLevel) : Bool := floor.gravity ≤ level.gravity

def ofJson? (v : Json) : Option LogLevel := Json.choice? all label v

end LogLevel

end MediaCodec
