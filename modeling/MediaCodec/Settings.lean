/-
Settings — where the codec library lies and how calls are treated.

Settings come from a JSON document, from variables of the environment, or from code.  The
three agree on what is valid: both paths non-empty, and a positive input limit.  Each reader
ends with the same check, so settings that were read are valid settings.

A variable has any bytes for its value, so reading one can find no text even though the
variable is set.  A text may have blanks around what it says, and a policy may be in any case
of letters; an empty path counts as not set.  Documents have a grammar of their own, with none
of this leniency.
-/

import MediaCodec.Errors
import MediaCodec.Text.Basic
import MediaCodec.Text.Debug

namespace MediaCodec

/-! ## Policies -/

/-- What becomes of the chunks that a call handed over before it failed. -/
inductive PartialResults
  /-- They are dropped. -/
  | discard
  /-- They are attached to the error. -/
  | preserve
  deriving DecidableEq, Repr

namespace PartialResults

def all : List PartialResults := [discard, preserve]

def name : PartialResults → String
  | discard => "discard"
  | preserve => "preserve"

/-- The name in diagnostics. -/
def label : PartialResults → String
  | discard => "Discard"
  | preserve => "Preserve"

/-- Reads a policy by its name, with blanks around it and letters in any case. -/
def parse (text : String) : Except SetupError PartialResults :=
  let word := String.ofList (Text.lower (Text.trim text.toList))
  match all.find? fun p => p.name == word with
  | some p => .ok p
  | none => .error (.unknownPolicy word)

end PartialResults

/-! ## The environment -/

/-- The variables of a process: what each name is set to. -/
def Environment := String → Option Bytes

namespace Environment

def empty : Environment := fun _ => none

/-- Sets a variable, or removes it. -/
def set (env : Environment) (name : String) (value : Option Bytes) : Environment :=
  fun n => if n = name then value else env n

/-- The text a variable is set to; nothing where it is not set, or not to a text. -/
def text? (env : Environment) (name : String) : Option String := (env name).bind Text.ofUtf8?

end Environment

/-! ## The settings and when they are valid -/

/-- Plain settings of a codec. -/
structure Settings where
  /-- The directory that holds one directory per machine. -/
  libraryDir : Path := "./lib"
  /-- The exact path of the library, instead of its place under `libraryDir`. -/
  libraryPath : Option Path := none
  partialResults : PartialResults := .discard
  /-- The largest input in bytes; without it only the limit of a C `int` holds. -/
  maxInputBytes : Option UInt64 := none
  deriving DecidableEq, Repr

namespace Settings

/-- The first thing that is wrong with the settings. -/
def fault? (s : Settings) : Option SetupError :=
  if s.libraryDir.isEmpty then some .emptyLibraryDir
  else if s.libraryPath == some "" then some .emptyLibraryPath
  else if s.maxInputBytes == some 0 then some .zeroInputLimit
  else none

def isValid (s : Settings) : Bool := s.fault?.isNone

/-- The settings, if they are valid. -/
def check (s : Settings) : Except SetupError Settings :=
  match s.fault? with
  | none => .ok s
  | some e => .error e

def debug (s : Settings) : String :=
  Text.record "CodecSettings"
    [("library_dir", Text.quoted s.libraryDir),
     ("library_path", Text.optional (s.libraryPath.map Text.quoted)),
     ("partial_results", s.partialResults.label),
     ("max_input_bytes", Text.optional (s.maxInputBytes.map fun n => toString n.toNat))]

/-! ## Variables -/

/-- The variable for the library directory. -/
def libraryDirVariable : String := "LAGRANGE_CODEC_LIBRARY_DIR"

/-- The variable for the library path. -/
def libraryPathVariable : String := "LAGRANGE_CODEC_LIBRARY_PATH"

/-- The variable for the policy. -/
def partialResultsVariable : String := "LAGRANGE_CODEC_PARTIAL_RESULTS"

/-- The variable for the input limit. -/
def maxInputBytesVariable : String := "LAGRANGE_CODEC_MAX_INPUT_BYTES"

/-- A value that is not empty. -/
def nonEmpty (v : Option String) : Option String := v.filter fun s => !s.isEmpty

/-- Reads a limit with blanks around it. -/
def parseLimit (text : String) : Except SetupError UInt64 :=
  match Text.readWord (Text.trim text.toList) with
  | .ok n => .ok n
  | .error f => .error (.byteCount f)

/-- Reads the settings from variables; the policy is read before the limit. -/
def ofLookup (lookup : String → Option String) : Except SetupError Settings := do
  let defaults : Settings := {}
  let policy ← match lookup partialResultsVariable with
    | none => pure defaults.partialResults
    | some text => PartialResults.parse text
  let limit ← match lookup maxInputBytesVariable with
    | none => pure none
    | some text => (parseLimit text).map some
  check
    { libraryDir := (nonEmpty (lookup libraryDirVariable)).getD defaults.libraryDir
      libraryPath := nonEmpty (lookup libraryPathVariable)
      partialResults := policy
      maxInputBytes := limit }

/-- Reads the settings from the environment. -/
def ofEnvironment (env : Environment) : Except SetupError Settings := ofLookup env.text?

end Settings

end MediaCodec
