/-
Journals — what happened, in order.

A run of the codec is judged by what crosses its borders: the calls it makes to codecs and
loaders, the events it logs, and the states its invocations go through.  All three stand in
one journal, so that their order is known too.
-/

import MediaCodec.Invocation
import MediaCodec.Bytes
import MediaCodec.Log.Event
import MediaCodec.Path

namespace MediaCodec

/-- A call that leaves the codec's own code.  The codec and the loader behind it may have no
code of the host's own for it; then the host is not `told`. -/
inductive Call
  | invoke (op : Operation) (input : Bytes)
  | release (handle : Nat) (told : Bool)
  | load (path : Path) (told : Bool)
  deriving DecidableEq, Repr

/-- One thing that happened. -/
inductive Happening
  /-- An invocation entered a state. -/
  | state (s : InvocationState)
  | call (c : Call)
  | event (e : Event)
  deriving DecidableEq, Repr

/-- What happened, the earliest first. -/
abbrev Journal := List Happening

namespace Happening

def call? : Happening → Option Call
  | call c => some c
  | _ => none

def event? : Happening → Option Event
  | event e => some e
  | _ => none

def state? : Happening → Option InvocationState
  | state s => some s
  | _ => none

/-- The same thing, with another event if it is one. -/
def mapEvent (f : Event → Event) : Happening → Happening
  | event e => event (f e)
  | h => h

end Happening

namespace Journal

def calls (j : Journal) : List Call := j.filterMap Happening.call?

def events (j : Journal) : List Event := j.filterMap Happening.event?

/-- The invocation states of a journal. -/
def states (j : Journal) : List InvocationState := j.filterMap Happening.state?

/-- The same journal, with other events. -/
def mapEvents (f : Event → Event) (j : Journal) : Journal := j.map (Happening.mapEvent f)

/-- A journal inside one more span. -/
def within (s : Span) (j : Journal) : Journal := j.mapEvents (Event.within s)

/-- A journal of what happened on a thread. -/
def onThread (n : Nat) (j : Journal) : Journal := j.mapEvents (Event.onThread n)

section Cons

variable (s : InvocationState) (c : Call) (e : Event) (j : Journal)

@[simp] theorem calls_nil : calls [] = [] := rfl

@[simp] theorem calls_state : calls (.state s :: j) = calls j := rfl

@[simp] theorem calls_call : calls (.call c :: j) = c :: calls j := rfl

@[simp] theorem calls_event : calls (.event e :: j) = calls j := rfl

@[simp] theorem events_nil : events [] = [] := rfl

@[simp] theorem events_state : events (.state s :: j) = events j := rfl

@[simp] theorem events_call : events (.call c :: j) = events j := rfl

@[simp] theorem events_event : events (.event e :: j) = e :: events j := rfl

@[simp] theorem states_nil : states [] = [] := rfl

@[simp] theorem states_state : states (.state s :: j) = s :: states j := rfl

@[simp] theorem states_call : states (.call c :: j) = states j := rfl

@[simp] theorem states_event : states (.event e :: j) = states j := rfl

end Cons

@[simp] theorem calls_map_event (es : List Event) : calls (es.map .event) = [] := by
  induction es with
  | nil => rfl
  | cons e rest ih => exact ih

@[simp] theorem states_map_event (es : List Event) : states (es.map .event) = [] := by
  induction es with
  | nil => rfl
  | cons e rest ih => exact ih

@[simp] theorem events_map_event (es : List Event) : events (es.map .event) = es := by
  induction es with
  | nil => rfl
  | cons e rest ih => exact congrArg (e :: ·) ih

@[simp] theorem calls_append (a b : Journal) : calls (a ++ b) = calls a ++ calls b := by
  simp [calls]

@[simp] theorem events_append (a b : Journal) : events (a ++ b) = events a ++ events b := by
  simp [events]

@[simp] theorem states_append (a b : Journal) : states (a ++ b) = states a ++ states b := by
  simp [states]

@[simp] theorem calls_mapEvents (f : Event → Event) (j : Journal) :
    calls (mapEvents f j) = calls j := by
  induction j with
  | nil => rfl
  | cons h rest ih =>
    cases h <;>
      simpa [calls, mapEvents, Happening.mapEvent, Happening.call?, List.filterMap_cons] using ih

@[simp] theorem states_mapEvents (f : Event → Event) (j : Journal) :
    states (mapEvents f j) = states j := by
  induction j with
  | nil => rfl
  | cons h rest ih =>
    cases h <;>
      simpa [states, mapEvents, Happening.mapEvent, Happening.state?, List.filterMap_cons] using ih

@[simp] theorem events_mapEvents (f : Event → Event) (j : Journal) :
    events (mapEvents f j) = (events j).map f := by
  induction j with
  | nil => rfl
  | cons h rest ih =>
    cases h <;>
      simpa [events, mapEvents, Happening.mapEvent, Happening.event?, List.filterMap_cons] using ih

@[simp] theorem calls_within (s : Span) (j : Journal) : calls (within s j) = calls j :=
  calls_mapEvents _ j

@[simp] theorem states_within (s : Span) (j : Journal) : states (within s j) = states j :=
  states_mapEvents _ j

@[simp] theorem events_within (s : Span) (j : Journal) :
    events (within s j) = (events j).map (Event.within s) :=
  events_mapEvents _ j

@[simp] theorem calls_onThread (n : Nat) (j : Journal) : calls (onThread n j) = calls j :=
  calls_mapEvents _ j

@[simp] theorem states_onThread (n : Nat) (j : Journal) : states (onThread n j) = states j :=
  states_mapEvents _ j

@[simp] theorem events_onThread (n : Nat) (j : Journal) :
    events (onThread n j) = (events j).map (Event.onThread n) :=
  events_mapEvents _ j

end Journal

end MediaCodec
