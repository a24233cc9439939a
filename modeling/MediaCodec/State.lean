/-
The state of a process — what is kept between calls.

A process has codecs it has opened, some of them closed again.  It has one cell for the codec
that everyone in it shares, a second slot for the service that C callers use, the variables
of its environment, the calls made so far, which its backends may answer by, and the threads
begun so far, which log lines may number.

A handle never changes; what changes is whether the process has closed it.  So handles,
dispatchers and services are plain values that may be copied, and all copies of a service
see the same codec.
-/

import MediaCodec.Backend
import MediaCodec.Cell
import MediaCodec.Config
import MediaCodec.Platform

namespace MediaCodec

/-- An opened codec, and the artifact it was loaded from; an injected one has none. -/
structure Handle where
  id : Nat
  artifact : Option Artifact
  backend : Backend

/-- How calls are dispatched. -/
structure DispatchOptions where
  partialResults : PartialResults := .discard
  maxInputBytes : Option UInt64 := none
  deriving DecidableEq, Repr

/-- The part of the settings that concerns dispatching. -/
def DispatchOptions.ofSettings (s : Settings) : DispatchOptions :=
  ⟨s.partialResults, s.maxInputBytes⟩

def DispatchOptions.debug (o : DispatchOptions) : String :=
  Text.record "DispatchOptions"
    [("partial_results", o.partialResults.label),
     ("max_input_bytes", Text.optional (o.maxInputBytes.map fun n => toString n.toNat))]

/-- Runs calls on one codec under fixed options. -/
structure Dispatcher where
  handle : Handle
  options : DispatchOptions

/-- The operations that callers use, over one dispatcher. -/
structure Service where
  dispatcher : Dispatcher

/-- What a process finds on the machine it runs on. -/
structure Machine where
  /-- The directory that relative paths are taken from.  It is taken to be readable, so making a
  path absolute fails for no other reason than that the path is empty. -/
  cwd : Path
  host : Host
  /-- The loader for configurations that set none. -/
  loader : Loader

/-- What a process keeps between calls. -/
structure State where
  machine : Machine
  environment : Environment := .empty
  /-- The calls made so far, the earliest first. -/
  past : List Call := []
  /-- How many handles there have been. -/
  opened : Nat := 0
  /-- The handles that have been closed. -/
  closed : List Nat := []
  /-- The codec that the whole process shares. -/
  cell : Cell CodecError Dispatcher := {}
  /-- The service that C callers use. -/
  slot : Option Service := none
  /-- How many threads there have been, with that of the process itself. -/
  threads : Nat := 1

namespace State

/-- Whether a handle has been closed. -/
def hasClosed (p : State) (h : Handle) : Bool := p.closed.contains h.id

/-- The state of a process in which nothing has happened. -/
def fresh (machine : Machine) (environment : Environment) : State := { machine, environment }

end State

namespace Handle

def debug (h : Handle) (closed : Bool) : String :=
  Text.record "BackendHandle"
    [("artifact", Text.optional (h.artifact.map Artifact.debug)),
     ("backend", Text.quoted h.backend.description),
     ("closed", Text.flag closed)]

end Handle

def Dispatcher.debug (d : Dispatcher) (closed : Bool) : String :=
  Text.record "Dispatcher" [("handle", d.handle.debug closed), ("options", d.options.debug)]

namespace Service

def handle (s : Service) : Handle := s.dispatcher.handle

def debug (s : Service) (closed : Bool) : String :=
  Text.record "CodecService" [("dispatcher", s.dispatcher.debug closed)]

def ofHandle (h : Handle) (o : DispatchOptions) : Service := ⟨⟨h, o⟩⟩

end Service

end MediaCodec
