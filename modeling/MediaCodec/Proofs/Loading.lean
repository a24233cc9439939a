/-
Loading — what the loader of native libraries makes of a path.

There are four ways to go, and `NativeLibrary.Loads` has one constructor for each: nothing at the
path is a regular file; the dynamic linker refuses the file; some symbol is not exported; or all
five are, and each entry point is the export of its own operation.  The loader goes exactly one of
these ways (`NativeLibrary.load_eq_iff`), whatever was called before.

Resolving looks the symbols up one after another and stops at the first that is absent, so it is
gone through link by link (`SymbolTable.absent_link`), beside a search through the operations in
their fixed order.  The three streaming exports have one shape, and the look-ups of two of them
could be exchanged without anybody noticing; `SymbolTable.Linked` says of every entry point under
which symbol it was found, and `Backend.Answers` of every method whose answer it gives.
-/

import MediaCodec.Native.Loader
import MediaCodec.Proofs.Marshalling
import MediaCodec.Proofs.Opening

namespace MediaCodec

/-! ## Symbols -/

namespace SymbolTable

/-- Whether the symbol of an operation is exported, in the shape that the operation is called in. -/
def has (t : SymbolTable) (op : Operation) : Bool :=
  match op with
  | .audioToPcm | .silkDecode | .silkEncode => (t.stream op.symbol).isSome
  | .videoFirstFrame => (t.frame op.symbol).isSome
  | .videoGetSize => (t.size op.symbol).isSome

/-- The operation is the earliest, in the fixed order, whose symbol is absent. -/
structure FirstAbsent (t : SymbolTable) (op : Operation) : Prop where
  absent : t.has op = false
  earliest : ∃ before after, Operation.all = before ++ op :: after ∧
    ∀ earlier ∈ before, t.has earlier = true

/-- Each entry point is what is exported under the symbol of its own operation. -/
structure Linked (t : SymbolTable) (e : Exports) : Prop where
  stream : ∀ s : Streaming, t.stream s.operation.symbol = some (e.stream s)
  frame : t.frame Operation.videoFirstFrame.symbol = some e.videoFirstFrame
  size : t.size Operation.videoGetSize.symbol = some e.videoGetSize

section

variable {t : SymbolTable} {e : Exports} {op absent : Operation}

theorem find_bind_eq_ok_iff {look : String → Option α} {f : α → Except Operation β} {b : β} :
    (find look op >>= f) = .ok b ↔ ∃ a, look op.symbol = some a ∧ f a = .ok b := by
  rw [find]
  cases look op.symbol with
  | none => exact iff_of_false nofun nofun
  | some a =>
      constructor
      · intro h
        exact ⟨a, rfl, h⟩
      · rintro ⟨_, ⟨⟩, h⟩
        exact h

/-- One link of resolving: it ends here if the symbol is absent, and else goes on as the search
through the later operations does. -/
theorem absent_link {look : String → Option α} {f : α → Except Operation β}
    {later : List Operation} (hlook : t.has op = (look op.symbol).isSome)
    (hlater : ∀ a, f a = .error absent ↔ later.find? (!t.has ·) = some absent) :
    (find look op >>= f) = .error absent ↔ (op :: later).find? (!t.has ·) = some absent := by
  rw [find, List.find?_cons, hlook]
  cases look op.symbol with
  | none =>
      change Except.error op = Except.error absent ↔ some op = some absent
      rw [Except.error.injEq, Option.some.injEq]
  | some a => exact hlater a

theorem resolve_eq_ok_iff : t.resolve = .ok e ↔ t.Linked e := by
  simp only [resolve, find_bind_eq_ok_iff]
  constructor
  · rintro ⟨audioToPcm, haudio, silkDecode, hdecode, silkEncode, hencode, frame, hframe, size,
      hsize, hexports⟩
    cases hexports
    refine ⟨fun s => ?_, hframe, hsize⟩
    cases s with
    | audioToPcm => exact haudio
    | silkDecode => exact hdecode
    | silkEncode => exact hencode
  · rintro ⟨hstream, hframe, hsize⟩
    exact ⟨_, hstream .audioToPcm, _, hstream .silkDecode, _, hstream .silkEncode, _, hframe, _,
      hsize, rfl⟩

theorem resolve_eq_error_iff :
    t.resolve = .error absent ↔ Operation.all.find? (!t.has ·) = some absent := by
  -- One link for each operation; that the links and the search have the same order is checked here.
  refine absent_link rfl fun _ => ?_
  refine absent_link rfl fun _ => ?_
  refine absent_link rfl fun _ => ?_
  refine absent_link rfl fun _ => ?_
  refine absent_link rfl fun _ => ?_
  exact iff_of_false nofun nofun

theorem firstAbsent_iff : t.FirstAbsent op ↔ Operation.all.find? (!t.has ·) = some op := by
  rw [List.find?_eq_some_iff_append]
  simp only [Bool.not_eq_true', Bool.not_not]
  exact ⟨fun h => ⟨h.absent, h.earliest⟩, fun h => ⟨h.1, h.2⟩⟩

theorem exists_linked_iff : (∃ e, t.Linked e) ↔ ∀ op, t.has op = true := by
  constructor
  · rintro ⟨e, hlinked⟩ op
    cases op with
    | audioToPcm => exact Option.isSome_of_eq_some (hlinked.stream .audioToPcm)
    | silkDecode => exact Option.isSome_of_eq_some (hlinked.stream .silkDecode)
    | silkEncode => exact Option.isSome_of_eq_some (hlinked.stream .silkEncode)
    | videoFirstFrame => exact Option.isSome_of_eq_some hlinked.frame
    | videoGetSize => exact Option.isSome_of_eq_some hlinked.size
  · intro hall
    cases hresolve : t.resolve with
    | ok e => exact ⟨e, resolve_eq_ok_iff.mp hresolve⟩
    | error op =>
        have habsent := (firstAbsent_iff.mpr (resolve_eq_error_iff.mp hresolve)).absent
        rw [hall op] at habsent
        cases habsent

end

end SymbolTable

/-! ## Loading -/

/-- A backend whose methods each give the answer of the export under their own symbol, for every
input that fits a C `int`. -/
structure Backend.Answers (b : Backend) (t : SymbolTable) : Prop where
  stream : ∀ s : Streaming, ∃ exported, t.stream s.operation.symbol = some exported ∧
    ∀ past input, input.length ≤ Status.maxLength → ∀ is code, exported past input = (is, code) →
      b.stream s past input = { chunks := CallbackInvocation.chunks is, ending := .status code }
  frame : ∃ exported, t.frame Operation.videoFirstFrame.symbol = some exported ∧
    ∀ past input, input.length ≤ Status.maxLength →
      b.firstFrame past input = NativeLibrary.frameEmission (exported past input)
  size : ∃ exported, t.size Operation.videoGetSize.symbol = some exported ∧
    ∀ past input, input.length ≤ Status.maxLength → ∀ r, exported past input = r →
      b.getSize past input =
        { width := r.width, height := r.height, duration := r.duration, ending := .status r.status }

namespace NativeLibrary

/-- The ways that loading the library at a path can go. -/
inductive Loads (files : FileSystem) (path : Path) : Loading → Prop
  /-- What is there is no regular file; a directory is none. -/
  | notFound (absent : ∀ image, files path ≠ .file image) :
      Loads files path ⟨[], .error (.libraryLoad (.notFound path))⟩
  /-- The linker does not open the file. -/
  | refused {reason : String} (found : files path = .file (.refused reason)) :
      Loads files path ⟨[], .error (.libraryLoad (.refused path reason))⟩
  /-- A symbol is absent; the earliest one is told. -/
  | lacking {t : SymbolTable} {reason : String} {op : Operation}
      (found : files path = .file (.library t reason)) (first : t.FirstAbsent op) :
      Loads files path ⟨[missingSymbol op reason], .error (.missingSymbol op.symbol path)⟩
  /-- Every symbol is there. -/
  | linked {t : SymbolTable} {reason : String} {e : Exports}
      (found : files path = .file (.library t reason)) (linked : t.Linked e) :
      Loads files path ⟨[loaded path], .ok (backend ⟨path, e⟩)⟩

section

variable {files : FileSystem} {path : Path} {t : SymbolTable} {reason : String}

/-- The loader makes a backend of what it loads. -/
theorem load_loader (files : FileSystem) (past : List Call) (path : Path) :
    (loader files).load past path =
      ⟨(load files path).1, (load files path).2.map backend⟩ := rfl

theorem load_of_missing (h : ∀ image, files path ≠ .file image) :
    load files path = ([], .error (.libraryLoad (.notFound path))) := by
  rw [load]
  split
  · next image himage => exact absurd himage (h image)
  · rfl

theorem load_of_found {image : Image} (h : files path = .file image) :
    load files path = link path image := by
  rw [load, h]

theorem link_of_absent {op : Operation} (h : t.FirstAbsent op) :
    link path (.library t reason) =
      ([missingSymbol op reason], .error (.missingSymbol op.symbol path)) := by
  have hresolve := SymbolTable.resolve_eq_error_iff.mpr (SymbolTable.firstAbsent_iff.mp h)
  simp only [link, hresolve]

theorem link_of_linked {e : Exports} (h : t.Linked e) :
    link path (.library t reason) = ([loaded path], .ok ⟨path, e⟩) := by
  simp only [link, SymbolTable.resolve_eq_ok_iff.mpr h]

/-- The loader goes one of the ways, and it is the only one there is. -/
theorem load_eq_iff {past : List Call} {x : Loading} :
    (loader files).load past path = x ↔ Loads files path x := by
  constructor
  · rintro rfl
    rw [load_loader]
    cases hfound : files path with
    | absent =>
        have habsent : ∀ image, files path ≠ .file image := by rw [hfound]; nofun
        rw [load_of_missing habsent]
        exact .notFound habsent
    | directory =>
        have habsent : ∀ image, files path ≠ .file image := by rw [hfound]; nofun
        rw [load_of_missing habsent]
        exact .notFound habsent
    | file image =>
        rw [load_of_found hfound]
        cases image with
        | refused reason => exact .refused hfound
        | library t reason =>
            cases hresolve : t.resolve with
            | error op =>
                have hfirst := SymbolTable.firstAbsent_iff.mpr
                  (SymbolTable.resolve_eq_error_iff.mp hresolve)
                rw [link_of_absent hfirst]
                exact .lacking hfound hfirst
            | ok e =>
                have hlinked := SymbolTable.resolve_eq_ok_iff.mp hresolve
                rw [link_of_linked hlinked]
                exact .linked hfound hlinked
  · intro h
    rw [load_loader]
    cases h with
    | notFound absent =>
        rw [load_of_missing absent]
        rfl
    | refused found =>
        rw [load_of_found found]
        rfl
    | lacking found first =>
        rw [load_of_found found, link_of_absent first]
        rfl
    | linked found linked =>
        rw [load_of_found found, link_of_linked linked]
        rfl

theorem answers_of_linked {e : Exports} (h : t.Linked e) (path : Path) :
    (backend ⟨path, e⟩).Answers t where
  stream s := by
    refine ⟨e.stream s, h.stream s, fun past input hfits is code hexport => ?_⟩
    rw [backend_stream, if_neg (Nat.not_lt.mpr hfits), hexport, emission,
      CallbackInvocation.filterMap_payload?]
  frame := by
    refine ⟨e.videoFirstFrame, h.frame, fun past input hfits => ?_⟩
    rw [backend_firstFrame, if_neg (Nat.not_lt.mpr hfits)]
  size := by
    refine ⟨e.videoGetSize, h.size, fun past input hfits r hexport => ?_⟩
    rw [backend_getSize, if_neg (Nat.not_lt.mpr hfits), hexport]

end

/-- What the loader makes of a path, and what becomes of a handle for it. -/
structure Decides (files : FileSystem) (path : Path) : Prop where
  /-- Loading goes as `Loads` says, and in no other way. -/
  loads_iff : ∀ past x, (loader files).load past path = x ↔ Loads files path x
  /-- It succeeds just on a regular file that the linker accepts and that has all five symbols. -/
  succeeds_iff : ∀ past, (∃ b, ((loader files).load past path).result = .ok b) ↔
    ∃ t reason, files path = .file (.library t reason) ∧ ∀ op, t.has op = true
  /-- Each method of the backend gives the answer of its own export. -/
  answers : ∀ past b t reason, ((loader files).load past path).result = .ok b →
    files path = .file (.library t reason) → b.Answers t
  /-- A failure names the path, and an absent symbol by its name. -/
  worded : ∀ reason op,
    (HostError.libraryLoad (.notFound path)).message =
      "Library load error: " ++ ("codec library not found at " ++ path) ∧
    (HostError.libraryLoad (.refused path reason)).message =
      "Library load error: " ++ ("dlopen " ++ path ++ ": " ++ reason) ∧
    (HostError.missingSymbol (Operation.symbol op) path).message =
      "Missing symbol `" ++ Operation.symbol op ++ "` in " ++ path
  /-- Under a handle every failure is a failure to load, and there is no new handle. -/
  unopened : ∀ id p e, ((loader files).load p.past path).result = .error e →
    (Handle.load ⟨id, path⟩ (loader files) p).ComesTo (.error (.backendLoad (.host e)))
      [.load path false] (p.opening [.load path false] 0)

theorem decides_load (files : FileSystem) (path : Path) : Decides files path where
  loads_iff _ _ := load_eq_iff
  succeeds_iff past := by
    constructor
    · rintro ⟨b, hb⟩
      generalize hx : (loader files).load past path = x at hb
      cases load_eq_iff.mp hx with
      | notFound | refused | lacking => cases hb
      | @linked t reason e found linked =>
          exact ⟨t, reason, found, SymbolTable.exists_linked_iff.mp ⟨e, linked⟩⟩
    · rintro ⟨t, reason, hfound, hall⟩
      obtain ⟨e, hlinked⟩ := SymbolTable.exists_linked_iff.mpr hall
      refine ⟨backend ⟨path, e⟩, ?_⟩
      rw [load_eq_iff.mpr (Loads.linked hfound hlinked)]
  answers past b t reason hb hfound := by
    generalize hx : (loader files).load past path = x at hb
    cases load_eq_iff.mp hx with
    | notFound | refused | lacking => cases hb
    | linked found linked =>
        cases found.symm.trans hfound
        cases hb
        exact answers_of_linked linked path
  worded _ _ := ⟨rfl, rfl, rfl⟩
  unopened id _ _ h := Handle.load_of_error (a := ⟨id, path⟩) h

/-- A directory is no library, even under the name of one. -/
example : (load (fun _ => .directory) "/srv/liblagrangecodec.so").2 =
    .error (.libraryLoad (.notFound "/srv/liblagrangecodec.so")) := rfl

end NativeLibrary

end MediaCodec
