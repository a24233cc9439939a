/-
Configurations — settings together with a host and a loader.

A configuration is built step by step.  Each step sets one field, except that `settings`
replaces all four settings at once; later steps win.  Only the finished settings are checked,
so a step may pass through settings that are not valid.
-/

import MediaCodec.Backend
import MediaCodec.Settings

namespace MediaCodec

/-- All that is needed to open a codec. -/
structure Config where
  settings : Settings
  host : Host
  loader : Loader

/-- The text in diagnostics; of the host and the loader nothing is shown. -/
def Config.debug (c : Config) : String :=
  Text.record "CodecConfig"
    [("settings", c.settings.debug),
     ("host", Text.quoted "HostPlatform \x7b ... \x7d"),
     ("loader", Text.quoted "BackendLoader \x7b ... \x7d")]

/-- One step in building a configuration. -/
inductive Setter
  | settings (s : Settings)
  | libraryDir (dir : Path)
  | libraryPath (path : Path)
  | partialResults (policy : PartialResults)
  | maxInputBytes (limit : UInt64)
  | host (h : Host)
  | loader (l : Loader)

/-- A configuration in the making. -/
structure Builder where
  settings : Settings := {}
  host : Option Host := none
  loader : Option Loader := none

namespace Builder

def set (b : Builder) : Setter → Builder
  | .settings s => { b with settings := s }
  | .libraryDir dir => { b with settings := { b.settings with libraryDir := dir } }
  | .libraryPath path => { b with settings := { b.settings with libraryPath := some path } }
  | .partialResults policy => { b with settings := { b.settings with partialResults := policy } }
  | .maxInputBytes limit => { b with settings := { b.settings with maxInputBytes := some limit } }
  | .host h => { b with host := some h }
  | .loader l => { b with loader := some l }

/-- Takes steps in order, beginning with the defaults. -/
def ofSetters (steps : List Setter) : Builder := steps.foldl set {}

/-- The configuration, if its settings are valid.  The machine's own host and loader stand in
for those that were not set.

The feature `desktop-shims` is on here, and with it every machine has a loader of its own.  So a
loader is never missing; without the feature, a configuration in which none was set would be
refused with `SetupError.capabilityMissing`. -/
def build (b : Builder) (host : Host) (loader : Loader) : Except SetupError Config :=
  b.settings.check.map fun s => ⟨s, b.host.getD host, b.loader.getD loader⟩

end Builder

end MediaCodec
