/-
Placement — which library a configuration opens.

A configuration is built from valid settings, and valid settings name no empty path.  So once the
machine resolves to a codec, there is a path to load it from (`Settings.exists_artifact`): the
explicit one, made absolute, or the conventional one with its two parts behind the library
directory.  The one call that opening makes is then a load of that path, and its outcome is the
outcome of opening (`Handle.opens_ofConfig`).

The error for an empty path is therefore not met with.  It is no more than a guard for settings
that nobody has checked.

That a new handle is open takes a state in which the numbers of all closed handles have been given
out.  Every state that a process gets into is one (`History.numbered_run`).
-/

import MediaCodec.Proofs.Carrying
import MediaCodec.Proofs.Numbering
import MediaCodec.Proofs.Paths

namespace MediaCodec

open MediaCodec.Path (AbsoluteForm Shape isAbsolute isDoubled parts)

/-! ## Where the library lies -/

namespace Settings

/-- The path that settings name for a codec: the explicit one, or else the conventional one. -/
def named (s : Settings) (id : BackendId) : Path :=
  s.libraryPath.getD (Artifact.conventionalPath id s.libraryDir)

/-- The absolute path at which the settings have the library of a codec. -/
inductive Places (s : Settings) (cwd : Path) (id : BackendId) (path : Path) : Prop
  | explicit {given : Path} (set : s.libraryPath = some given)
      (absolute : Path.absolute cwd given = some path) (form : AbsoluteForm cwd given path)
  | conventional (absent : s.libraryPath = none)
      (absolute : Path.absolute cwd (Artifact.conventionalPath id s.libraryDir) = some path)
      (shape : Shape (isDoubled (if isAbsolute s.libraryDir.toList then s.libraryDir.toList
          else cwd.toList))
        ((if isAbsolute s.libraryDir.toList then [] else parts cwd.toList) ++
          parts s.libraryDir.toList ++ [id.name.toList, id.libraryFile.toList]) path.toList)

variable {s : Settings} {cwd path : Path} {id : BackendId}

theorem artifact_eq (s : Settings) (cwd : Path) (id : BackendId) :
    s.artifact cwd id = Artifact.withPath cwd id (s.named id) := by
  rw [artifact, named]
  cases s.libraryPath <;> rfl

theorem named_ne_empty (h : s.libraryPath ≠ some "") (id : BackendId) : s.named id ≠ "" := by
  rw [named]
  cases hset : s.libraryPath with
  | none => exact Artifact.conventionalPath_ne_empty id s.libraryDir
  | some given => exact fun hempty => h (hset.trans (congrArg some hempty))

/-- Settings whose explicit path is not empty have an artifact for every codec. -/
theorem exists_artifact (h : s.libraryPath ≠ some "") (cwd : Path) (id : BackendId) :
    ∃ path, Path.absolute cwd (s.named id) = some path ∧ s.artifact cwd id = .ok ⟨id, path⟩ := by
  obtain ⟨path, habsolute⟩ := Path.exists_absolute cwd (named_ne_empty h id)
  refine ⟨path, habsolute, ?_⟩
  simp only [artifact_eq, Artifact.withPath, habsolute]

theorem places_of_absolute (hcwd : isAbsolute cwd.toList = true)
    (h : Path.absolute cwd (s.named id) = some path) : s.Places cwd id path := by
  have hform := Path.absoluteForm hcwd h
  cases hset : s.libraryPath with
  | none =>
      rw [named, hset] at h hform
      exact .conventional hset h (Artifact.shape_conventionalPath hform)
  | some given =>
      rw [named, hset] at h hform
      exact .explicit hset h hform

end Settings

/-! ## Opening -/

namespace Config

variable {c : Config} {p : State} {a : Artifact}

theorem loads_of_placed (htarget : c.target p.machine.cwd = .ok a) :
    c.loads p = [.load a.path c.loader.told] := by
  rw [loads, htarget]

theorem outcome_of_failed {e : HostError} (htarget : c.target p.machine.cwd = .ok a)
    (hload : (c.loader.load p.past a.path).result = .error e) :
    c.outcome p = .error (.backendLoad (.host e)) := by
  simp only [outcome, htarget, hload]

theorem outcome_of_loaded {backend : Backend} (htarget : c.target p.machine.cwd = .ok a)
    (hload : (c.loader.load p.past a.path).result = .ok backend) :
    c.outcome p = .ok ⟨p.opened, some a, backend⟩ := by
  simp only [outcome, htarget, hload]

end Config

namespace Handle

variable {c : Config} {p : State} {a : Artifact}

/-- What loading an artifact comes to. -/
structure Loads (c : Config) (p : State) (a : Artifact) (ran : Ran CodecError Handle) : Prop where
  /-- The loader is called once, with the path of the artifact. -/
  calls : ran.journal.calls = [.load a.path c.loader.told]
  /-- An error of the loader is a failure to load, in the words of the loader. -/
  failed : ∀ e, (c.loader.load p.past a.path).result = .error e →
    ran.result = .error (.backendLoad (.host e)) ∧ (LoadFault.host e).message = e.message
  /-- A backend of the loader is held by an open handle that knows the artifact. -/
  opened : ∀ backend, (c.loader.load p.past a.path).result = .ok backend →
    ∃ h, ran.result = .ok h ∧ h.artifact = some a ∧ h.backend = backend ∧
      ran.after.hasClosed h = false

/-- What opening a configuration comes to. -/
structure Opens (c : Config) (p : State) (ran : Ran CodecError Handle) : Prop where
  /-- A machine that is not served is told so; nothing is loaded, whatever the settings are. -/
  unserved : Platform.resolve? c.host.os c.host.arch = none →
    ran.ComesTo (.error (.unsupportedPlatform c.host.os c.host.arch)) [] p
  /-- Otherwise the library is loaded from where the settings place it. -/
  served : ∀ id, Platform.resolve? c.host.os c.host.arch = some id →
    ∃ path, c.settings.Places p.machine.cwd id path ∧ Loads c p ⟨id, path⟩ ran
  /-- The error for an empty path is not met with. -/
  placed : ran.result ≠ .error (.backendLoad .emptyPath)

/-- Where a configuration leads to an artifact, opening it is loading the artifact. -/
theorem loads_ofConfig (hp : p.Numbered) (htarget : c.target p.machine.cwd = .ok a) :
    Loads c p a (ofConfig c p) := by
  have hran : (ofConfig c p).ComesTo _ _ _ := ofConfig_comesTo c p
  refine ⟨?_, fun e he => ⟨?_, rfl⟩, fun backend hbackend => ?_⟩
  · rw [hran.calls, Config.loads_of_placed htarget]
  · rw [hran.result, Config.outcome_of_failed htarget he]
    rfl
  · refine ⟨⟨p.opened, some a, backend⟩, ?_, rfl, rfl, ?_⟩
    · rw [hran.result, Config.outcome_of_loaded htarget hbackend]
      rfl
    · rw [hran.after]
      exact hp.open_new (some a) backend

/-- A configuration that was built opens the library that its settings place, on every machine that
is served. -/
theorem opens_ofConfig {b : Builder} {host : Host} {loader : Loader}
    (hbuild : b.build host loader = .ok c) (hcwd : isAbsolute p.machine.cwd.toList = true)
    (hp : p.Numbered) : Opens c p (ofConfig c p) := by
  have hserved : ∀ id, Platform.resolve? c.host.os c.host.arch = some id →
      ∃ path, c.settings.Places p.machine.cwd id path ∧ Loads c p ⟨id, path⟩ (ofConfig c p) := by
    intro id hid
    obtain ⟨-, hpath, -⟩ := Settings.isValid_iff.mp (b.isValid_of_build hbuild)
    obtain ⟨path, habsolute, hartifact⟩ := Settings.exists_artifact hpath p.machine.cwd id
    exact ⟨path, Settings.places_of_absolute hcwd habsolute,
      loads_ofConfig hp (Config.target_of_placed hid hartifact)⟩
  refine ⟨fun hid => ?_, hserved, fun hempty => ?_⟩
  · rw [ofConfig_of_unresolved hid]
    exact ⟨rfl, rfl, rfl⟩
  · cases hid : Platform.resolve? c.host.os c.host.arch with
    | none =>
        rw [ofConfig_of_unresolved hid] at hempty
        cases hempty
    | some id =>
        obtain ⟨path, -, hloads⟩ := hserved id hid
        cases hload : (c.loader.load p.past path).result with
        | error e =>
            rw [(hloads.failed e hload).1] at hempty
            cases hempty
        | ok backend =>
            obtain ⟨h, hresult, -⟩ := hloads.opened backend hload
            rw [hresult] at hempty
            cases hempty

theorem opens_ofConfig_echoing :
    let b : Builder := { settings := { libraryPath := some "codec/./lib.so" } }
    let c : Config := ⟨b.settings, ⟨"linux", "x86_64"⟩, State.echoing.machine.loader⟩
    b.build State.echoing.machine.host State.echoing.machine.loader = .ok c ∧
      isAbsolute State.echoing.machine.cwd.toList = true ∧ State.echoing.Numbered ∧
      Opens c .echoing (ofConfig c .echoing) := by
  intro b c
  have hbuild : b.build State.echoing.machine.host State.echoing.machine.loader = .ok c := rfl
  have hnumbered : State.echoing.Numbered := .fresh _ _
  exact ⟨hbuild, rfl, hnumbered, opens_ofConfig hbuild rfl hnumbered⟩

/-- Settings that nobody has checked can name the empty path, which is then told. -/
example : (ofConfig ⟨{ libraryPath := some "" }, ⟨"linux", "x86_64"⟩, State.echoing.machine.loader⟩
    .echoing).result = .error (.backendLoad .emptyPath) := rfl

end Handle

end MediaCodec
