/-
Filters — which spans and events of a log exist.

The directives of a filter work in two ways.  One that names neither a span nor a value is a
rule about targets: among the rules that an event or a span meets, the most specific one
decides, and of two for the same target the later.  One that names a span or fields opens the
filter while such a span lasts: inside it, events and spans pass up to the directive's
threshold even if no rule lets them through.

A span that does not pass is as if it had not been entered: the events in it lie in the spans
around it.
-/

import MediaCodec.Log.Directive

namespace MediaCodec

/-- A directive about targets and, for events, the names of their fields. -/
structure TargetRule where
  target : Option String
  fields : List String
  threshold : Threshold
  deriving DecidableEq, Repr

/-- The directives of a filter by the way they work. -/
structure LogFilter where
  /-- The rules about targets. -/
  rules : List TargetRule
  /-- The directives that open the filter inside a span. -/
  openers : List Directive
  deriving Repr

/-- Whether a target lies under the one that a directive names. -/
def coversTarget (named : Option String) (target : String) : Bool :=
  match named with
  | none => true
  | some t => t.toList.isPrefixOf target.toList

namespace TargetRule

/-- The length of the target in bytes, from one on; a rule for every target has none. -/
def reach (r : TargetRule) : Nat :=
  match r.target with
  | none => 0
  | some t => t.utf8ByteSize + 1

/-- Whether the first list of names comes before the second, or is the same. -/
def namesOrdered : List String → List String → Bool
  | [], _ => true
  | _ :: _, [] => false
  | a :: as, b :: bs => if a == b then namesOrdered as bs else decide (a < b)

/-- Whether a rule has to give way to another that is met too and stands later. -/
def yieldsTo (r s : TargetRule) : Bool :=
  if r.reach ≠ s.reach then r.reach < s.reach
  else if r.fields.length ≠ s.fields.length then r.fields.length < s.fields.length
  else namesOrdered r.fields s.fields

/-- The most specific of some rules. -/
def mostSpecific (rules : List TargetRule) : Option TargetRule :=
  rules.foldl
    (fun best r =>
      match best with
      | none => some r
      | some b => if b.yieldsTo r then some r else some b)
    none

/-- The rule of a directive, if it is about targets. -/
def ofDirective? (d : Directive) : Option TargetRule :=
  if d.span.isNone && d.fields.all (fun f => f.value.isNone) then
    some ⟨d.target, d.fields.map FieldPattern.name, d.threshold⟩
  else none

/-- Whether an event meets a rule. -/
def metByEvent (r : TargetRule) (e : Event) : Bool :=
  let names := (if e.message.isSome then ["message"] else []) ++ e.fields.map (·.1)
  coversTarget r.target e.target && r.fields.all fun f => names.contains f

/-- Whether a span meets a rule. -/
def metBySpan (r : TargetRule) (s : Span) : Bool := coversTarget r.target s.target

end TargetRule

namespace Directive

/-- Whether a directive opens the filter inside a span. -/
def isOpener (d : Directive) : Bool := d.span.isSome || !d.fields.isEmpty

/-- Whether a directive is about a span, whatever the values of its fields. -/
def concerns (d : Directive) (s : Span) : Bool :=
  coversTarget d.target s.target && d.span.all (· == s.name)
    && d.fields.all fun f => s.fields.any fun g => g.1 == f.name

/-- Whether the fields of a span have the values that a directive asks for. -/
def isMetBy (d : Directive) (s : Span) : Bool :=
  d.fields.all fun f =>
    match f.value with
    | none => true
    | some p => s.fields.any fun g => g.1 == f.name && p.fits g.2

/-- Whether two directives are about the same spans; of two such, the later counts. -/
def sameScope (a b : Directive) : Bool :=
  a.target == b.target && a.span == b.span && a.fields == b.fields

/-- The directives without those that a later one replaces. -/
def withoutReplaced : List Directive → List Directive
  | [] => []
  | d :: rest =>
    if rest.any (sameScope d) then withoutReplaced rest else d :: withoutReplaced rest

end Directive

namespace LogFilter

/-- The filter of a list of directives; without any, nothing passes. -/
def ofDirectives (ds : List Directive) : LogFilter :=
  ⟨ds.filterMap TargetRule.ofDirective?, ds.filter Directive.isOpener⟩

def ofText (s : String) : Except DirectiveFault LogFilter :=
  (Directive.listOfText s).map ofDirectives

/-- The parts of the library, by the beginnings of their targets. -/
def parts : List String :=
  ["lagrange_codec", "core_runtime", "core_codec", "core_service", "bridge_desktop", "bridge_capi"]

/-- The filter that lets the library speak from a level on, and everything else warn. -/
def standard (level : LogLevel) : LogFilter where
  rules :=
    ⟨none, [], .atLeast .warn⟩ :: parts.map fun part => ⟨some part, [], .atLeast level⟩
  openers := []

/-! ## What passes -/

/-- The threshold of the rule that decides among those met. -/
def decision (met : List TargetRule) : Threshold :=
  match TargetRule.mostSpecific met with
  | none => .off
  | some r => r.threshold

/-- Whether some directive asks for a value; then every span has to be looked at. -/
def asksForValues (f : LogFilter) : Bool :=
  f.openers.any fun d => d.fields.any fun p => p.value.isSome

/-- What may pass at all. -/
def ceiling (f : LogFilter) : Threshold :=
  if f.asksForValues then .everything
  else .widest (f.rules.map TargetRule.threshold ++ f.openers.map Directive.threshold)

/-- What the filter is opened to inside a span, if it is one that directives are about. -/
def opening? (f : LogFilter) (s : Span) : Option Threshold :=
  match (Directive.withoutReplaced f.openers).filter fun d => d.concerns s with
  | [] => none
  | ds => some (.widest ((ds.filter fun d => d.isMetBy s).map Directive.threshold))

/-- Whether a level passes inside spans that open the filter so far. -/
def passesInside (opened : List Threshold) (level : LogLevel) : Bool :=
  opened.any fun t => t.allows level

/-- The spans that exist, with what they open the filter to, the outermost first. -/
def enter (f : LogFilter) (opened : List Threshold) : List Span → List Threshold × List Span
  | [] => (opened, [])
  | s :: rest =>
    match if f.ceiling.allows s.level then f.opening? s else none with
    | some t =>
      let (opened, inner) := f.enter (t :: opened) rest
      (opened, s :: inner)
    | none =>
      if passesInside opened s.level
          || (decision (f.rules.filter fun r => r.metBySpan s)).allows s.level then
        let (opened, inner) := f.enter opened rest
        (opened, s :: inner)
      else f.enter opened rest

/-- The event as it passes, with those of its spans that exist; nothing if it does not. -/
def pass? (f : LogFilter) (e : Event) : Option Event :=
  let (opened, spans) := f.enter [] e.spans
  if passesInside opened e.level
      || (decision (f.rules.filter fun r => r.metByEvent e)).allows e.level then
    some { e with spans }
  else none

def apply (f : LogFilter) (es : List Event) : List Event := es.filterMap f.pass?

end LogFilter

end MediaCodec
