/-
Settings documents — settings as JSON.

A document is an object with a member for each field, or an array of the fields in order.  A
field that is left out has its default.  A document is read more strictly than a variable: a
policy is taken only in its exact spelling and a limit only as a JSON integer, and an empty
path is a fault.
-/

import MediaCodec.Json.Printer
import MediaCodec.Json.Reader
import MediaCodec.Json.Shape
import MediaCodec.Settings

namespace MediaCodec.Settings

/-! ## JSON values -/

/-- The fields of a document, in the order of an array. -/
def fields : List String := ["library_dir", "library_path", "partial_results", "max_input_bytes"]

/-- Reads the settings from a JSON value and does not check them. -/
def ofJson? (v : Json) : Option Settings := do
  let defaults : Settings := {}
  let row ← Json.row? fields v
  let dir ← row.withDefault 0 Json.text? defaults.libraryDir
  let path ← row.withDefault 1 (Json.nullable? Json.text?) defaults.libraryPath
  let policy ← row.withDefault 2 (Json.choice? PartialResults.all PartialResults.name)
    defaults.partialResults
  let limit ← row.withDefault 3 (Json.nullable? (Json.count? Text.maxWord)) none
  pure
    { libraryDir := dir
      libraryPath := path
      partialResults := policy
      maxInputBytes := limit.map UInt64.ofNat }

/-- The JSON value of the settings. -/
def toJson (s : Settings) : Json :=
  .obj
    [("library_dir", .str s.libraryDir),
     ("library_path", (s.libraryPath.map Json.str).getD .null),
     ("partial_results", .str s.partialResults.name),
     ("max_input_bytes", (s.maxInputBytes.map fun n => Json.nat n.toNat).getD .null)]

/-! ## Texts -/

/-- Reads the settings from a document. -/
def ofDocument (text : String) : Except SetupError Settings :=
  match (Json.parse? text).bind ofJson? with
  | none => .error .malformedSettings
  | some s => s.check

def toDocument (s : Settings) : String := s.toJson.render

end MediaCodec.Settings
