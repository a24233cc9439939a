/-
The shared service — one codec for a whole process.

The first caller decides: its configuration, or the variables of the environment, are what
the codec is opened with, and the outcome is kept for good, a failure as well as a success.
The handle and the options of the first configuration belong together and are kept together.

A configuration that cannot be read counts as a codec that cannot be loaded, so that it too
is kept.
-/

import MediaCodec.Service

namespace MediaCodec

/-- Opens the codec that a process is going to share. -/
def Dispatcher.ofConfig (config : Except SetupError Config) : Run CodecError Dispatcher := do
  match config with
  | .error e => Run.fail (.backendLoad (.configuration e))
  | .ok c =>
    let h ← Handle.ofConfig c
    return ⟨h, .ofSettings c.settings⟩

namespace Service

/-- The configuration that the environment describes. -/
def environmentConfig (p : State) : Except SetupError Config := do
  let s ← Settings.ofEnvironment p.environment
  Builder.build { settings := s } p.machine.host p.machine.loader

/-- The shared service; the configuration is used if there is none yet. -/
def globalWith (config : State → Except SetupError Config) : Run ServiceError Service :=
  fun p =>
    let init := fun (before : Journal × State) =>
      let ran := Dispatcher.ofConfig (config before.2) before.2
      (ran.result, before.1 ++ ran.journal, ran.after)
    let (result, cell, journal, after) := p.cell.getOrInit init ([], p)
    ⟨journal, (result.mapError .codec).map Service.mk, { after with cell }⟩

/-- The shared service, configured from the environment. -/
def global : Run ServiceError Service := globalWith environmentConfig

/-- The shared service with an explicit configuration, which is passed over where a service
is there already. -/
def initGlobal (config : Config) : Run ServiceError Service := do
  let p ← Run.get
  if p.cell.isInitialized then
    Run.event
      (.say serviceTarget .warn "Codec backend already initialized; ignoring new configuration" [])
  globalWith fun _ => .ok config

end Service

end MediaCodec
