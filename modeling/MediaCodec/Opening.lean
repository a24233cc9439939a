/-
Opening and closing — how a codec comes to be available, and how it goes.

Opening takes three steps: the machine resolves to a prebuilt codec, the settings say where
its library lies, and the loader loads it.  Each step can fail, and a later one is not begun
then.  An explicit library path replaces the conventional place, but does not make an
unserved machine a served one.

Closing takes effect once.  The first call releases the backend and answers true; every later
one does nothing and answers false.
-/

import MediaCodec.Run

namespace MediaCodec

/-- The part of the log that resolving speaks as. -/
def platformTarget : String := "core_codec::platform"

/-- The part of the log that opening and closing speak as. -/
def backendTarget : String := "core_codec::backend"

/-- Resolves a machine to the codec that is built for it. -/
def Host.resolve (h : Host) : Run CodecError BackendId :=
  match Platform.resolve? h.os h.arch with
  | none => Run.fail (.unsupportedPlatform h.os h.arch)
  | some id => do
    Run.event
      (.say platformTarget .debug "Resolved codec backend"
        [("os", .text h.os), ("arch", .text h.arch), ("backend", .shown id.name)])
    return id

/-- The artifact that the settings name for a codec. -/
def Settings.artifact (s : Settings) (cwd : Path) (id : BackendId) : Except LoadFault Artifact :=
  match s.libraryPath with
  | some path => Artifact.withPath cwd id path
  | none => Artifact.locate cwd id s.libraryDir

namespace Handle

def create (artifact : Option Artifact) (backend : Backend) : Run ε Handle := do
  let p ← Run.get
  Run.modify fun p => { p with opened := p.opened + 1 }
  return ⟨p.opened, artifact, backend⟩

/-- A handle for a backend that was not loaded. -/
def inject (backend : Backend) : Run ε Handle := create none backend

def load (a : Artifact) (loader : Loader) : Run CodecError Handle := do
  let p ← Run.get
  Run.call (.load a.path loader.told)
  let loading := loader.load p.past a.path
  Run.events loading.events
  match loading.result with
  | .error e =>
    Run.event
      (.say backendTarget .warn ("Codec backend load failed: " ++ e.message)
        [("backend", .shown a.id.name), ("file", .text (Path.fileName a.path))])
    Run.fail (.backendLoad (.host e))
  | .ok backend =>
    Run.event
      (.say backendTarget .info "Loaded codec backend"
        [("backend", .shown a.id.name), ("path", .shown a.path)])
    create (some a) backend

/-- Resolves the machine of a configuration and loads the artifact for it. -/
def ofConfig (c : Config) : Run CodecError Handle := do
  let id ← c.host.resolve
  let p ← Run.get
  match c.settings.artifact p.machine.cwd id with
  | .error f => Run.fail (.backendLoad f)
  | .ok a => load a c.loader

/-- Closes a codec, and says whether this was the first time. -/
def close (h : Handle) : Run ε Bool := do
  let p ← Run.get
  if p.hasClosed h then return false
  else
    Run.modify fun p => { p with closed := h.id :: p.closed }
    Run.call (.release h.id h.backend.release.told)
    Run.events h.backend.release.events
    Run.event
      (.say backendTarget .info "Codec backend closed"
        [("backend", .shown h.backend.description)])
    return true

end Handle

end MediaCodec
