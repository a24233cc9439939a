/-
Shapes — reading records and names out of JSON values.

A record with named fields is an object, or an array that gives the fields in their order.
In an object unknown members are passed over, while a known one must not be repeated; an
array must not be longer than the record.  Either way the fields come out as slots in the
record's order, and the reader of a field says what an empty slot means.

A name out of a fixed list stands as a string, or as the only member of an object whose value
is null.
-/

import MediaCodec.Json.Basic

namespace MediaCodec.Json

/-- The fields of a record by their places; an empty slot was not given. -/
structure Row where
  /-- Whether the fields came as an array. -/
  positional : Bool
  /-- One slot per field, in the record's order. -/
  slots : List (Option Json)

/-- How often a name stands among the members. -/
def occurrences (name : String) (members : List (Option String × Json)) : Nat :=
  members.countP fun m => m.1 == some name

/-- Lays out a value as the record with the given fields. -/
def row? (fields : List String) : Json → Option Row
  | .array vs =>
    if vs.length ≤ fields.length then
      some ⟨true, (List.range fields.length).map fun i => vs[i]?⟩
    else none
  | .object members =>
    if members.all (fun m => m.1.isSome) && fields.all (fun f => occurrences f members ≤ 1) then
      some ⟨false, fields.map fun f => (Json.object members).get? f⟩
    else none
  | _ => none

namespace Row

/-- The slot at a place. -/
def slot (r : Row) (i : Nat) : Option Json := (r.slots[i]?).join

/-- A field that must be given. -/
def required (r : Row) (i : Nat) (read : Json → Option α) : Option α := (r.slot i).bind read

/-- A field with a value of its own where it is not given. -/
def withDefault (r : Row) (i : Nat) (read : Json → Option α) (default : α) : Option α :=
  match r.slot i with
  | none => some default
  | some v => read v

/-- A field that an object may leave out and an array may not; null means absent. -/
def omittable (r : Row) (i : Nat) (read : Json → Option α) : Option (Option α) :=
  match r.slot i with
  | none => if r.positional then none else some none
  | some v => nullable? read v

end Row

/-- The name that a value gives. -/
def name? : Json → Option String
  | .string t => t
  | .object [(some name, .null)] => some name
  | _ => none

/-- The entry of a list whose name a value gives. -/
def choice? (entries : List α) (nameOf : α → String) (v : Json) : Option α :=
  (name? v).bind fun n => entries.find? fun e => nameOf e == n

end MediaCodec.Json
