/-
First starts — what opening ahead does in a process in which nothing has happened.

Three sources have a say in where the library is looked for: the variable of the library path, the
directory that the C caller names, and the variable of the library directory.  The path comes
first, whatever the caller names; behind it the caller's directory comes before the variable's
(`Boundary.Seeks`).

A configuration that cannot be read is a failure of the call and of nothing else.  The process is
left as it was, so that the next start is a first start again.  A configuration that can be read
leads to one load, and how that ends is kept for good, in the cell as well as in what later calls
answer (`Boundary.startsFirst_start`).
-/

import MediaCodec.Native.Loader
import MediaCodec.Proofs.Placement
import MediaCodec.Proofs.Starting

namespace MediaCodec

/-! ## A process in which nothing has happened -/

/-- Variables that are set to texts. -/
def Environment.ofTexts (lookup : String → Option String) : Environment :=
  fun name => (lookup name).map Text.toUtf8

theorem Environment.text?_ofTexts (lookup : String → Option String) :
    (ofTexts lookup).text? = lookup := by
  funext name
  rw [text?, ofTexts]
  cases lookup name with
  | none => rfl
  | some text => exact Text.ofUtf8?_toUtf8 text

/-- A new process on Linux, with the libraries that are in its files. -/
def State.onLinux (cwd : Path) (files : FileSystem) (lookup : String → Option String) : State :=
  .fresh ⟨cwd, ⟨"linux", "x86_64"⟩, NativeLibrary.loader files⟩ (.ofTexts lookup)

namespace Boundary

open Settings (PathSays libraryDirVariable libraryPathVariable)

variable {lookup : String → Option String} {dir : Option Path} {s : Settings} {cwd : Path}
  {files : FileSystem}

/-- The library directory: the caller's, or else the one that the variable says, or the default. -/
inductive Directed (lookup : String → Option String) : Option Path → Path → Prop
  | given (d : Path) : Directed lookup (some d) d
  | ofVariable {d : Path} (set : PathSays (lookup libraryDirVariable) (some d)) :
      Directed lookup none d
  | byDefault (absent : PathSays (lookup libraryDirVariable) none) : Directed lookup none "./lib"

/-- Where the library is looked for: at the path that the variable says, or else under the library
directory. -/
inductive Seeks (lookup : String → Option String) (dir : Option Path) : Path → Prop
  | path {path : Path} (set : PathSays (lookup libraryPathVariable) (some path)) :
      Seeks lookup dir path
  | underDirectory {d : Path} (absent : PathSays (lookup libraryPathVariable) none)
      (directed : Directed lookup dir d) :
      Seeks lookup dir (Path.join (Path.join d "linux-x64") "liblagrangecodec.so")

/-- What a first start comes to once it has looked for the library at a path. -/
structure Settles (o : DispatchOptions) (files : FileSystem) (path : Path) (ran : Ran ε Status) :
    Prop where
  /-- One load is attempted. -/
  calls : ran.journal.calls = [.load path false]
  /-- A failure is kept in the cell, and the slot stays empty. -/
  failed : ∀ e, (NativeLibrary.load files path).2 = .error e →
    ran.result = .ok Status.backendLoad ∧
      ran.after.cell.stored = some (.error (.backendLoad (.host e))) ∧ ran.after.slot = none
  /-- The cell and the slot share one open handle, and the options. -/
  opened : ∀ l, (NativeLibrary.load files path).2 = .ok l →
    ran.result = .ok Status.ok ∧ ∃ d : Dispatcher,
      ran.after.cell.stored = some (.ok d) ∧ ran.after.slot = some ⟨d⟩ ∧
      d.handle.artifact = some ⟨.linuxX64, path⟩ ∧ d.handle.backend = l.backend ∧
      ran.after.hasClosed d.handle = false ∧ d.options = o

/-- What no configuration can be built from: variables that make no settings, or the empty
directory. -/
inductive Misread (lookup : String → Option String) : Option Path → Prop
  | malformed {dir : Option Path} (unsaid : ∀ s : Settings, ¬ s.Follows lookup) :
      Misread lookup dir
  | emptyDirectory : Misread lookup (some "")

/-- What a first start comes to. -/
structure StartsFirst (cwd : Path) (files : FileSystem) (lookup : String → Option String)
    (dir : Option Path) (ran : Ran ε Status) : Prop where
  /-- Without a configuration nothing is loaded and nothing is kept. -/
  misread : Misread lookup dir → ran.ComesTo (.ok Status.internal) [] (.onLinux cwd files lookup)
  /-- As soon as the variables are others, the next start is then a first start again. -/
  mended : Misread lookup dir → ∀ other : String → Option String,
    { ran.after with environment := .ofTexts other } = State.onLinux cwd files other
  /-- Otherwise the library is loaded from where it is looked for, and the policy and the limit are
  those that the variables say. -/
  read : ∀ s : Settings, s.Follows lookup → dir ≠ some "" →
    ∃ sought path, Seeks lookup dir sought ∧ Path.absolute cwd sought = some path ∧
      (Path.isAbsolute cwd.toList = true → Path.AbsoluteForm cwd sought path) ∧
      Settles ⟨s.partialResults, s.maxInputBytes⟩ files path ran

/-! ## The configuration -/

/-- The settings under the directory of the caller, if there is one. -/
def directed (s : Settings) (dir : Option Path) : Settings :=
  { s with libraryDir := dir.getD s.libraryDir }

theorem settings_onLinux (cwd : Path) (files : FileSystem) (lookup : String → Option String)
    (dir : Option Path) :
    settings (.onLinux cwd files lookup) dir =
      (Settings.ofLookup lookup).map fun s => directed s dir := by
  rw [settings, Settings.ofEnvironment]
  show (Settings.ofLookup (Environment.ofTexts lookup).text?).map _ = _
  rw [Environment.text?_ofTexts]
  rfl

theorem configUnder_of_misread (cwd : Path) (files : FileSystem) (h : Misread lookup dir) :
    ∃ e, configUnder (.onLinux cwd files lookup) dir = .error e := by
  have hsettings := settings_onLinux cwd files lookup dir
  cases hread : Settings.ofLookup lookup with
  | error e =>
      rw [hread] at hsettings
      exact ⟨e, configUnder_of_error hsettings⟩
  | ok s =>
      rw [hread] at hsettings
      cases h with
      | malformed hunsaid => exact absurd (Settings.ofLookup_eq_ok_iff.mp hread) (hunsaid s)
      | emptyDirectory => exact ⟨.emptyLibraryDir, configUnder_of_ok hsettings⟩

theorem configUnder_of_follows (h : s.Follows lookup) (hdir : dir ≠ some "") :
    configUnder (.onLinux cwd files lookup) dir =
      .ok ⟨directed s dir, ⟨"linux", "x86_64"⟩, NativeLibrary.loader files⟩ := by
  have hread := Settings.ofLookup_eq_ok_iff.mpr h
  have hsettings := settings_onLinux cwd files lookup dir
  rw [hread] at hsettings
  obtain ⟨hs, hpath, hlimit⟩ := Settings.isValid_iff.mp (Settings.isValid_of_ofLookup hread)
  have hvalid : (directed s dir).isValid = true := by
    refine Settings.isValid_iff.mpr ⟨?_, hpath, hlimit⟩
    cases dir with
    | none => exact hs
    | some d => exact fun hempty => hdir (congrArg some hempty)
  rw [configUnder_of_ok hsettings, Builder.build, Settings.check_of_isValid hvalid]
  rfl

theorem directed_getD (h : s.Follows lookup) (dir : Option Path) :
    Directed lookup dir (dir.getD s.libraryDir) := by
  cases dir with
  | some d => exact .given d
  | none =>
      obtain ⟨said, hsaid, hlibraryDir⟩ := h.libraryDir
      rw [Option.getD_none, hlibraryDir]
      cases said with
      | some d => exact .ofVariable hsaid
      | none => exact .byDefault hsaid

/-- The settings of a first start name the path at which the library is looked for. -/
theorem seeks_named (h : s.Follows lookup) (dir : Option Path) :
    Seeks lookup dir ((directed s dir).named .linuxX64) := by
  have hpath := h.libraryPath
  rw [Settings.named, directed]
  cases hset : s.libraryPath with
  | some path =>
      rw [hset] at hpath
      exact .path hpath
  | none =>
      rw [hset] at hpath
      exact .underDirectory hpath (directed_getD h dir)

/-! ## The load -/

section

variable {c : Config} {p : State} {b : Option Bytes} {d : Option Path}

/-- Where the process has nothing yet, opening ahead leaves the outcome of its configuration in the
cell and, if it is a success, in the slot. -/
theorem start_of_outcome {r : Except CodecError Dispatcher} (hdir : directory b = some d)
    (hcell : p.cell.stored = none) (hslot : p.slot = none) (hconfig : configUnder p d = .ok c)
    (hr : Dispatcher.outcome (.ok c) p = r) :
    ((start b : Run ε Status) p).ComesTo (.ok (Status.ofShared r)) (c.loads p)
      { p.opening (c.loads p) (c.handles p) with
        cell := ⟨some r⟩
        slot := (Service.ofShared r).toOption } := by
  have hshared : p.shared (.ok c) = r := by rw [State.shared, hcell, ← hr]
  have hloads : p.sharingLoads (.ok c) = c.loads p := by
    rw [State.sharingLoads, hcell]
    rfl
  have hran : ((start b : Run ε Status) p).ComesTo _ _ _ := start_of_read hdir hslot hconfig
  rw [State.filling, hshared, hloads, State.sharing, hcell] at hran
  rw [← hr] at hran ⊢
  exact hran

/-- Where its configuration leads to a native library, the load of the library decides. -/
theorem settles_start {path : Path} (hdir : directory b = some d) (hcell : p.cell.stored = none)
    (hslot : p.slot = none) (hp : p.Numbered) (hconfig : configUnder p d = .ok c)
    (hloader : c.loader = NativeLibrary.loader files)
    (htarget : c.target p.machine.cwd = .ok ⟨.linuxX64, path⟩) :
    Settles (.ofSettings c.settings) files path ((start b : Run ε Status) p) := by
  have hresult : (c.loader.load p.past path).result =
      (NativeLibrary.load files path).2.map NativeLibrary.backend := by
    rw [hloader]
    rfl
  refine ⟨?_, fun e he => ?_, fun l hl => ?_⟩
  · have hran : ((start b : Run ε Status) p).ComesTo _ _ _ :=
      start_of_outcome hdir hcell hslot hconfig rfl
    rw [hran.calls, Config.loads_of_placed htarget, hloader]
    rfl
  · rw [he] at hresult
    have hr : Dispatcher.outcome (.ok c) p = .error (.backendLoad (.host e)) := by
      rw [Dispatcher.outcome, Config.outcome_of_failed htarget hresult]
      rfl
    have hran : ((start b : Run ε Status) p).ComesTo _ _ _ :=
      start_of_outcome hdir hcell hslot hconfig hr
    rw [hran.result, hran.after]
    exact ⟨rfl, rfl, rfl⟩
  · rw [hl] at hresult
    have hr : Dispatcher.outcome (.ok c) p =
        .ok ⟨⟨p.opened, some ⟨.linuxX64, path⟩, l.backend⟩, .ofSettings c.settings⟩ := by
      rw [Dispatcher.outcome, Config.outcome_of_loaded htarget hresult]
      rfl
    have hran : ((start b : Run ε Status) p).ComesTo _ _ _ :=
      start_of_outcome hdir hcell hslot hconfig hr
    rw [hran.result, hran.after]
    exact ⟨rfl, _, rfl, rfl, rfl, rfl, hp.open_new _ _, rfl⟩

end

theorem resolve?_linux : Platform.resolve? "linux" "x86_64" = some .linuxX64 := by
  rfl

theorem directory_toUtf8 (dir : Option Path) : directory (dir.map Text.toUtf8) = some dir := by
  cases dir with
  | none => rfl
  | some d =>
      show (Text.ofUtf8? (Text.toUtf8 d)).map some = _
      rw [Text.ofUtf8?_toUtf8]
      rfl

theorem start_of_unread (h : Misread lookup dir) :
    ((start (dir.map Text.toUtf8) : Run ε Status) (.onLinux cwd files lookup)).ComesTo
      (.ok Status.internal) [] (.onLinux cwd files lookup) := by
  obtain ⟨e, hconfig⟩ := configUnder_of_misread cwd files h
  exact start_of_misread (directory_toUtf8 dir) rfl hconfig

/-- Opening ahead in a process in which nothing has happened. -/
theorem startsFirst_start (cwd : Path) (files : FileSystem) (lookup : String → Option String)
    (dir : Option Path) :
    StartsFirst cwd files lookup dir
      ((start (dir.map Text.toUtf8) : Run ε Status) (.onLinux cwd files lookup)) where
  misread := start_of_unread
  mended h other := by
    rw [(start_of_unread h).after]
    rfl
  read s h hdir := by
    have hread := Settings.ofLookup_eq_ok_iff.mpr h
    obtain ⟨-, hpath, -⟩ := Settings.isValid_iff.mp (Settings.isValid_of_ofLookup hread)
    obtain ⟨path, habsolute, hartifact⟩ :=
      Settings.exists_artifact (s := directed s dir) hpath cwd .linuxX64
    have hform := fun hcwd => Path.absoluteForm hcwd habsolute
    refine ⟨_, path, seeks_named h dir, habsolute, hform, ?_⟩
    exact settles_start (directory_toUtf8 dir) rfl rfl (.fresh _ _) (configUnder_of_follows h hdir)
      rfl (Config.target_of_placed resolve?_linux hartifact)

/-- The path that a variable says comes before the directory of the caller. -/
example : ((start (some (Text.toUtf8 "/opt")) : Run ServiceError Status)
    (.onLinux "/home" (fun _ => .absent) fun name =>
      if name = libraryPathVariable then some "./codec.so" else none)).journal.calls =
    [.load "/home/codec.so" false] := rfl

end Boundary

end MediaCodec
