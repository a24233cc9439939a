/-
Thresholds — how much of a log is let through.

A threshold is the most talkative level that still passes, or nothing at all.  In a text it
is the name of a level in any case of letters, `off`, or a number from zero (nothing) to five
(everything).
-/

import MediaCodec.Log.Level
import MediaCodec.Text.Basic
import MediaCodec.Text.Numeral

namespace MediaCodec

/-- The most talkative level that passes; without one, nothing passes. -/
structure Threshold where
  floor : Option LogLevel
  deriving DecidableEq, Repr

namespace Threshold

def off : Threshold := ⟨none⟩

/-- A level and everything graver passes. -/
def atLeast (floor : LogLevel) : Threshold := ⟨some floor⟩

def everything : Threshold := atLeast .trace

/-- How many of the five levels pass. -/
def breadth (t : Threshold) : Nat :=
  match t.floor with
  | none => 0
  | some l => 5 - l.gravity

def allows (t : Threshold) (level : LogLevel) : Bool :=
  match t.floor with
  | none => false
  | some floor => level.atLeast floor

def widen (a b : Threshold) : Threshold := if a.breadth < b.breadth then b else a

/-- The widest of some thresholds; without any, nothing passes. -/
def widest (ts : List Threshold) : Threshold := ts.foldl widen off

/-- The thresholds by their numbers. -/
def numbered : List Threshold :=
  [off, atLeast .error, atLeast .warn, atLeast .info, atLeast .debug, atLeast .trace]

/-- The name in lower case. -/
def name (t : Threshold) : String :=
  match t.floor with
  | none => "off"
  | some l => l.name

/-- Reads a threshold by its number or its name. -/
def ofText? (text : String) : Option Threshold :=
  let word := String.ofList (Text.lower text.toList)
  match Text.readWord text.toList with
  | .ok n => numbered[n.toNat]?
  | .error _ => numbered.find? fun t => t.name == word

end Threshold

end MediaCodec
