/-
Errors — what can go wrong, by its cause, and how each failure is told.

There are four families.  A `HostError` comes from a loader or another adapter to the host; a
`SetupError` from settings or from the logging set-up; a `CodecError` from resolving, loading
or calling a codec; a `ServiceError` from the services above, and wraps the others.

The causes are constructors and the wording is in one function per family.  A cause
`described` holds the words of host code that builds an error of its own.
-/

import MediaCodec.Bytes
import MediaCodec.Invocation
import MediaCodec.Path
import MediaCodec.Status
import MediaCodec.Text.Numeral

namespace MediaCodec

/-! ## Adapters to the host -/

/-- Why a library could not be loaded. -/
inductive LibraryFault
  /-- No regular file is at the path. -/
  | notFound (path : Path)
  /-- The dynamic linker refused the file. -/
  | refused (path : Path) (reason : String)
  | described (text : String)
  deriving DecidableEq, Repr

/-- The wording of a library fault. -/
def LibraryFault.message : LibraryFault → String
  | notFound path => "codec library not found at " ++ path
  | refused path reason => "dlopen " ++ path ++ ": " ++ reason
  | described text => text

/-- A failure of a loader or of another adapter to the host. -/
inductive HostError
  | libraryLoad (fault : LibraryFault)
  | missingSymbol (symbol : String) (library : Path)
  | io (text : String)
  deriving DecidableEq, Repr

/-- The wording of a host error. -/
def HostError.message : HostError → String
  | libraryLoad fault => "Library load error: " ++ fault.message
  | missingSymbol symbol library => "Missing symbol `" ++ symbol ++ "` in " ++ library
  | io text => "IO error: " ++ text

/-! ## Settings and set-up -/

/-- A failure of the settings or of the set-up. -/
inductive SetupError
  /-- The settings document is not one. -/
  | malformedSettings
  /-- No such policy for partial results; the text is trimmed and in lower case. -/
  | unknownPolicy (text : String)
  /-- The input limit in the environment is not a number of bytes. -/
  | byteCount (fault : Text.CountFault)
  | emptyLibraryDir
  | emptyLibraryPath
  | zeroInputLimit
  | malformedFilter
  | loggingInstalled
  | described (text : String)
  /-- Something that the host has to provide is not there.  Of configurations only one without a
  loader could fail with it.  The feature `desktop-shims` brings a loader and is on here, so
  `Builder.build` never returns this error. -/
  | capabilityMissing (capability : String) (detail : String)
  deriving DecidableEq, Repr

namespace SetupError

/-- The wording of a configuration fault, without the family's opening words. -/
def detail : SetupError → String
  | malformedSettings => "Invalid codec settings JSON"
  | unknownPolicy text =>
    "Unknown partial result policy '" ++ text ++ "': expected 'discard' or 'preserve'"
  | byteCount fault => "LAGRANGE_CODEC_MAX_INPUT_BYTES must be a byte count: " ++ fault.message
  | emptyLibraryDir => "Library directory cannot be empty"
  | emptyLibraryPath => "Library path cannot be empty"
  | zeroInputLimit => "max_input_bytes must be greater than 0"
  | malformedFilter => "Invalid log filter"
  | loggingInstalled => "Failed to initialize logging"
  | described text => text
  | capabilityMissing _ detail => detail

/-- The wording of a set-up error. -/
def message (e : SetupError) : String :=
  match e with
  | capabilityMissing capability detail => "Missing " ++ capability ++ ": " ++ detail
  | _ => "Configuration error: " ++ e.detail

end SetupError

/-! ## Resolving, loading and calling a codec -/

/-- Why no codec could be loaded. -/
inductive LoadFault
  | host (e : HostError)
  /-- The empty path has no absolute form. -/
  | emptyPath
  | configuration (e : SetupError)
  | described (text : String)
  deriving DecidableEq, Repr

/-- The wording of a load fault. -/
def LoadFault.message : LoadFault → String
  | host e => e.message
  | emptyPath => "cannot resolve artifact path : cannot make an empty path absolute"
  | configuration e => "invalid codec configuration: " ++ e.message
  | described text => text

/-- Why an input was refused. -/
inductive InputFault
  | empty
  | lengthMismatch (declared actual : Nat)
  | overNativeLimit (length : Nat)
  | overConfiguredLimit (length limit : Nat)
  | notStreaming (op : Operation)
  | described (text : String)
  deriving DecidableEq, Repr

/-- The wording of an input fault. -/
def InputFault.message : InputFault → String
  | empty => "input buffer is empty"
  | lengthMismatch declared actual =>
    "declared length " ++ toString declared ++ " does not match buffer length " ++ toString actual
  | overNativeLimit length =>
    "input of " ++ toString length ++ " bytes exceeds the native limit of "
      ++ toString Status.maxLength ++ " bytes"
  | overConfiguredLimit length limit =>
    "input of " ++ toString length ++ " bytes exceeds the configured limit of "
      ++ toString limit ++ " bytes"
  | notStreaming op => op.symbol ++ " does not produce a chunk stream"
  | described text => text

/-- Why a result is unusable. -/
inductive ResultFault
  | transition (t : InvalidTransition)
  | frameCount (op : Operation) (frames : Nat)
  | frameTooLarge (length : Nat)
  | described (text : String)
  deriving DecidableEq, Repr

/-- The wording of a result fault. -/
def ResultFault.message : ResultFault → String
  | transition t => t.message
  | frameCount op frames =>
    op.symbol ++ " delivered " ++ toString frames ++ " frames, expected exactly one"
  | frameTooLarge length => "frame of " ++ toString length ++ " bytes is too large"
  | described text => text

/-- A failure to resolve, load or call a codec. -/
inductive CodecError
  /-- No codec is built for the machine; its own words are kept. -/
  | unsupportedPlatform (os arch : String)
  | backendLoad (fault : LoadFault)
  | invalidInput (fault : InputFault)
  /-- The codec returned a failure status; `kept` holds the chunks that survive it. -/
  | backend (op : Operation) (code : Status) (kept : List Bytes)
  | malformedResult (fault : ResultFault)
  | backendClosed
  deriving DecidableEq, Repr

/-- How a call went, in four values. -/
inductive Outcome
  | success
  | backendError (code : Status)
  | unsupportedPlatform
  | invalidInput
  deriving DecidableEq, Repr

namespace CodecError

/-- The wording of a codec error. -/
def message : CodecError → String
  | unsupportedPlatform os arch => "Unsupported platform: os '" ++ os ++ "', arch '" ++ arch ++ "'"
  | backendLoad fault => "Failed to load codec backend: " ++ fault.message
  | invalidInput fault => "Invalid input: " ++ fault.message
  | backend op code _ => "Backend error in " ++ op.symbol ++ ": status " ++ toString code.toInt
  | malformedResult fault => "Malformed backend result: " ++ fault.message
  | backendClosed => "Codec backend is closed"

/-- The status for a C caller; a codec's own status passes through. -/
def status : CodecError → Status
  | unsupportedPlatform _ _ => Status.unsupportedPlatform
  | backendLoad _ => Status.backendLoad
  | invalidInput _ => Status.invalidInput
  | backend _ code _ => code
  | malformedResult _ => Status.malformedResult
  | backendClosed => Status.backendClosed

/-- The error in four values: a codec that cannot be loaded counts as an unsupported
platform, an unusable result and a closed codec as failures of the codec. -/
def outcome (e : CodecError) : Outcome :=
  match e with
  | unsupportedPlatform _ _ | backendLoad _ => .unsupportedPlatform
  | invalidInput _ => .invalidInput
  | backend _ code _ => .backendError code
  | malformedResult _ | backendClosed => .backendError e.status

/-- Whether the failure will not clear up within the process. -/
def isFatal : CodecError → Bool
  | unsupportedPlatform _ _ | backendLoad _ => true
  | _ => false

/-- Whether the caller can mend the request and try again. -/
def isRetryable : CodecError → Bool
  | invalidInput _ => true
  | _ => false

/-- The chunks that survived a failure of the codec. -/
def keptChunks : CodecError → List Bytes
  | backend _ _ kept => kept
  | _ => []

end CodecError

/-- The outcome of a finished call. -/
def Outcome.ofResult (r : Except CodecError α) : Outcome :=
  match r with
  | .ok _ => .success
  | .error e => e.outcome

/-! ## Services -/

/-- A failure of a service. -/
inductive ServiceError
  | codec (e : CodecError)
  | setup (e : SetupError)
  /-- A background task did not finish. -/
  | task
  deriving DecidableEq, Repr

namespace ServiceError

/-- The wording of a service error. -/
def message : ServiceError → String
  | codec e => "Codec error: " ++ e.message
  | setup e => "Runtime error: " ++ e.message
  | task => "Background task failed"

/-- The codec error behind a failure. -/
def codec? : ServiceError → Option CodecError
  | codec e => some e
  | _ => none

/-- The outcome, for a failure that has a codec error behind it. -/
def outcome? (e : ServiceError) : Option Outcome := e.codec?.map CodecError.outcome

/-- The status for a C caller. -/
def status (e : ServiceError) : Status :=
  match e.codec? with
  | some c => c.status
  | none => Status.internal

end ServiceError

end MediaCodec
