/-
Disclosure — what a host learns of the place where a library was looked for.

Hosts may send their logs elsewhere, and the directory of the codec is not meant to go with them.  So
the record of a failed load names the file by its last part alone, and no field of it has a directory
in it (`Handle.bare_of_mem_fields`).  But a record has a message, too, and there the loader's own
error is quoted; two loads that fail in silence are told alike exactly if their errors are worded
alike (`Handle.told_eq_iff`).

The loader of native libraries words a missing file with its whole path.  Two artifacts that differ
in their directories only are therefore told apart wherever a warning is heard at all, and by the
message alone (`Handle.discloses_missing`).
-/

import MediaCodec.Native.Loader
import MediaCodec.Opening
import MediaCodec.Proofs.FileNames
import MediaCodec.Proofs.Listening
import MediaCodec.Proofs.Loading

namespace MediaCodec

/-- A record apart from its message. -/
def LogRecord.withoutMessage (r : LogRecord) : LogRecord := { r with message := "" }

namespace Handle

/-- What is noted about a load that failed. -/
def failedEvent (a : Artifact) (e : HostError) : Event :=
  .say backendTarget .warn ("Codec backend load failed: " ++ e.message)
    [("backend", .shown a.id.name), ("file", .text (Path.fileName a.path))]

/-- What a host is told about it. -/
def failedRecord (a : Artifact) (e : HostError) : LogRecord where
  level := .warn
  target := backendTarget
  message := "Codec backend load failed: " ++ e.message
  fields := [("backend", a.id.name), ("file", Path.fileName a.path)]

/-- All that a host is told of a load: levels, targets, messages and fields. -/
def told (l : Logging) (a : Artifact) (loader : Loader) (p : State) : List LogRecord :=
  (l.report (load a loader p).journal.events).records.map LogRecord.withoutSpan

section

variable {c : LoggingConfig} {level : LogLevel} {s : LogSink} {loader loader' : Loader}
  {a a' : Artifact} {p p' : State} {es : List Event} {e e' : HostError}

theorem events_load_of_error (h : loader.load p.past a.path = ⟨es, .error e⟩) :
    (load a loader p).journal.events = es ++ [failedEvent a e] := by
  simp [load, h, failedEvent]

/-- A warning of the library itself is heard where both the level and the floor admit warnings. -/
theorem hears_failedEvent (a : Artifact) (e : HostError) :
    Logging.hears level s.floor (failedEvent a e) = LogLevel.warn.atLeast (level.max s.floor) := by
  have haudible : LogFilter.audible level (failedEvent a e).target = level :=
    if_pos isOwn_backendTarget
  rw [Logging.hears, haudible, LogLevel.atLeast_max]
  rfl

theorem told_of_error (h : loader.load p.past a.path = ⟨es, .error e⟩) :
    told (Logging.ofLevel c level s) a loader p =
      ((Logging.ofLevel c level s).report es).records.map LogRecord.withoutSpan ++
        if LogLevel.warn.atLeast (level.max s.floor) then [failedRecord a e] else [] := by
  rw [told, events_load_of_error h, Logging.withoutSpan_report, Logging.withoutSpan_report,
    List.filter_append, List.map_append, List.filter_cons, List.filter_nil, hears_failedEvent]
  split
  · rfl
  · rfl

/-- A loader that fails in silence leaves the host with one record, or with none. -/
theorem told_of_silent (h : loader.load p.past a.path = ⟨[], .error e⟩) :
    told (Logging.ofLevel c level s) a loader p =
      if LogLevel.warn.atLeast (level.max s.floor) then [failedRecord a e] else [] := by
  rw [told_of_error h, Logging.withoutSpan_report]
  rfl

theorem withoutMessage_failedRecord (hid : a.id = a'.id)
    (hname : Path.fileName a.path = Path.fileName a'.path) :
    (failedRecord a e).withoutMessage = (failedRecord a' e').withoutMessage := by
  rw [failedRecord, failedRecord, hid, hname]
  rfl

/-- But for the message, a failed load is told of alike wherever the file was looked for. -/
theorem withoutMessage_failedRecord_moved {sep sep' : Char} (hsep : Path.Separates sep)
    (hsep' : Path.Separates sep') (id : BackendId) (dir dir' file : Path) (e e' : HostError) :
    (failedRecord ⟨id, dir ++ String.singleton sep ++ file⟩ e).withoutMessage =
      (failedRecord ⟨id, dir' ++ String.singleton sep' ++ file⟩ e').withoutMessage := by
  refine withoutMessage_failedRecord rfl ?_
  rw [Path.fileName_append hsep, Path.fileName_append hsep']

theorem bare_of_mem_fields {f : String × String} (h : f ∈ (failedRecord a e).fields) :
    Path.Bare f.2 := by
  have hname : Path.fileName a.id.name = a.id.name := by
    cases a.id <;> decide
  rcases List.mem_cons.mp h with rfl | h
  · rw [← hname]
    exact Path.bare_fileName _
  · obtain rfl := List.mem_singleton.mp h
    exact Path.bare_fileName _

theorem failedRecord_eq_iff (hid : a.id = a'.id)
    (hname : Path.fileName a.path = Path.fileName a'.path) :
    failedRecord a e = failedRecord a' e' ↔ e.message = e'.message := by
  rw [failedRecord, failedRecord, hid, hname]
  constructor
  · intro h
    exact (String.append_right_inj _).mp (LogRecord.mk.inj h).2.2.1
  · intro h
    rw [h]

/-- Two loads that fail, under loaders that say the same about it, are told alike exactly if nobody
hears a warning or the errors are worded alike. -/
theorem told_eq_iff (hid : a.id = a'.id) (hname : Path.fileName a.path = Path.fileName a'.path)
    (h : loader.load p.past a.path = ⟨es, .error e⟩)
    (h' : loader'.load p'.past a'.path = ⟨es, .error e'⟩) :
    told (Logging.ofLevel c level s) a loader p = told (Logging.ofLevel c level s) a' loader' p' ↔
      LogLevel.warn.atLeast (level.max s.floor) = false ∨ e.message = e'.message := by
  rw [told_of_error h, told_of_error h', List.append_right_inj,
    ← failedRecord_eq_iff hid hname]
  cases LogLevel.warn.atLeast (level.max s.floor) with
  | false => exact ⟨fun _ => .inl rfl, fun _ => rfl⟩
  | true =>
      rw [if_pos rfl, if_pos rfl, List.singleton_inj]
      exact ⟨.inr, fun h => h.resolve_left Bool.noConfusion⟩

end

/-! ## Files that are not there -/

/-- What is told of a file that is not there. -/
def missingMessage (path : Path) : String :=
  "Codec backend load failed: Library load error: codec library not found at " ++ path

/-- What a host can make of two loads, of the same codec and under the same file name, if it hears
of them. -/
structure Discloses (heard : Bool) (a a' : Artifact) (rs rs' : List LogRecord) : Prop where
  /-- It is told of the load once, with the whole path. -/
  messages : rs.map LogRecord.message = if heard then [missingMessage a.path] else []
  /-- But for the messages the two are the same. -/
  alike : rs.map LogRecord.withoutMessage = rs'.map LogRecord.withoutMessage
  /-- It can tell two paths apart. -/
  eq_iff : rs = rs' ↔ heard = false ∨ a.path = a'.path

section

variable {files files' : FileSystem} {a a' : Artifact}

theorem load_of_missing {path : Path} (h : ∀ image, files path ≠ .file image) (past : List Call) :
    (NativeLibrary.loader files).load past path =
      ⟨[], .error (.libraryLoad (.notFound path))⟩ :=
  NativeLibrary.load_eq_iff.mpr (.notFound h)

theorem message_notFound_eq_iff (path path' : Path) :
    (HostError.libraryLoad (.notFound path)).message =
      (HostError.libraryLoad (.notFound path')).message ↔ path = path' := by
  show "Library load error: " ++ ("codec library not found at " ++ path) =
    "Library load error: " ++ ("codec library not found at " ++ path') ↔ _
  rw [String.append_right_inj, String.append_right_inj]

/-- Two artifacts of one codec under one file name, neither of which is there: what the host is told
differs in the message alone, and there it differs just where the directories do. -/
theorem discloses_missing (hid : a.id = a'.id) (hname : Path.fileName a.path = Path.fileName a'.path)
    (hmissing : ∀ image, files a.path ≠ .file image)
    (hmissing' : ∀ image, files' a'.path ≠ .file image) (c : LoggingConfig) (level : LogLevel)
    (s : LogSink) (p p' : State) :
    Discloses (LogLevel.warn.atLeast (level.max s.floor)) a a'
      (told (Logging.ofLevel c level s) a (NativeLibrary.loader files) p)
      (told (Logging.ofLevel c level s) a' (NativeLibrary.loader files') p') := by
  have hload := load_of_missing hmissing p.past
  have hload' := load_of_missing hmissing' p'.past
  refine ⟨?_, ?_, ?_⟩
  · rw [told_of_silent hload]
    split
    · rfl
    · rfl
  · rw [told_of_silent hload, told_of_silent hload']
    split
    · exact congrArg (fun r => [r]) (withoutMessage_failedRecord hid hname)
    · rfl
  · rw [told_eq_iff hid hname hload hload', message_notFound_eq_iff]

end

/-- Two directories without the library, and a host that hears warnings. -/
theorem discloses_missing_absent :
    let a : Artifact := ⟨.linuxX64, "/srv/codec.so"⟩
    let a' : Artifact := ⟨.linuxX64, "/home/codec.so"⟩
    let files : FileSystem := fun _ => .absent
    let l := Logging.ofLevel {} .info {}
    let p : State := .fresh ⟨"/", ⟨"linux", "x86_64"⟩, NativeLibrary.loader files⟩ .empty
    a.id = a'.id ∧ Path.fileName a.path = Path.fileName a'.path ∧
      (∀ image, files a.path ≠ .file image) ∧ (∀ image, files a'.path ≠ .file image) ∧
      Discloses true a a' (told l a (NativeLibrary.loader files) p)
        (told l a' (NativeLibrary.loader files) p) := by
  intro a a' files l p
  have hid : a.id = a'.id := rfl
  have hname : Path.fileName a.path = Path.fileName a'.path := by decide
  have hmissing : ∀ image, files a.path ≠ .file image := nofun
  have hmissing' : ∀ image, files a'.path ≠ .file image := nofun
  exact ⟨hid, hname, hmissing, hmissing',
    discloses_missing hid hname hmissing hmissing' {} .info {} p p⟩

/-- The path of a library that is not there reaches the host: two directories, one file name, and two
messages. -/
theorem told_missing_elsewhere :
    let a : Artifact := ⟨.linuxX64, "/srv/codec.so"⟩
    let a' : Artifact := ⟨.linuxX64, "/home/codec.so"⟩
    let files : FileSystem := fun _ => .absent
    let l := Logging.ofLevel {} .info {}
    let p : State := .fresh ⟨"/", ⟨"linux", "x86_64"⟩, NativeLibrary.loader files⟩ .empty
    a.id = a'.id ∧ Path.fileName a.path = Path.fileName a'.path ∧
      (∀ image, files a.path ≠ .file image) ∧ (∀ image, files a'.path ≠ .file image) ∧
      told l a (NativeLibrary.loader files) p ≠ told l a' (NativeLibrary.loader files) p := by
  refine ⟨rfl, by decide, nofun, nofun, ?_⟩
  decide

end Handle

end MediaCodec
