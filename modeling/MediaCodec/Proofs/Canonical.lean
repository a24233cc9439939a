/-
Canonical paths — an absolute form is its own absolute form.

A path can be written in many ways: with the part `.`, with repeated slashes, or relative to a
directory.  Its absolute form has none of that, if the directory has none of it (`Path.Tidy`): each
piece between its slashes is one that the path or the directory had, and the pieces `.` were left
out on the way.  The part `..` is not touched.

To make an absolute form absolute once more is to put the same parts under the same slashes again.
For a relative path these are the parts of the directory and then its own, and the parts of a tidy
directory make up the directory (`Path.Tidy.foldl_parts`); so the second form is put together as the
first was.

A name that is put under a directory before or after the directory is made absolute ends up in the
same place (`Path.absoluteChars_joinChars`).  The slash at the end of a directory is all that stands
in the way, since making it absolute may write one where there was another.
-/

import MediaCodec.Proofs.Paths

namespace MediaCodec

namespace Path

/-! ## Tidy directories -/

/-- An absolute path in normal form: the root, or a path in which every piece behind the first slash
names something.  Then no slash is repeated or stands at the end, and no piece is `.`. -/
inductive Tidy : List Char → Prop
  | root : Tidy ['/']
  | below {rest : List Char} (named : ∀ piece ∈ pieces rest, Named piece) : Tidy ('/' :: rest)

/-- A text is its pieces, each behind a slash but for the first. -/
theorem flatMap_pieces (cs : List Char) : (pieces cs).flatMap ('/' :: ·) = '/' :: cs := by
  induction cs using pieces.induct with
  | case1 => rfl
  | case2 rest ih =>
      rw [pieces, List.flatMap_cons, ih]
      rfl
  | case3 c rest hc hrest ih => exact absurd hrest (pieces_ne_nil rest)
  | case4 c rest hc p ps hrest ih =>
      rw [hrest, List.flatMap_cons, List.cons_append, List.cons.injEq] at ih
      rw [pieces_cons hc hrest, List.flatMap_cons, ← ih.2]
      rfl

section

variable {name dir path piece : List Char} {names : List (List Char)}

theorem Named.getLast?_ne (h : Named name) : name.getLast? ≠ some '/' := by
  intro hslash
  obtain ⟨front, rfl⟩ := List.getLast?_eq_some_iff.mp hslash
  exact h.whole (by simp)

theorem Named.getLast?_joinChars (h : Named name) (dir : List Char) :
    (joinChars dir name).getLast? = name.getLast? := by
  rw [joinChars_of_relative dir h.isAbsolute]
  obtain ⟨front, c, rfl⟩ := (List.eq_nil_or_concat name).resolve_left h.nonempty
  split <;> simp [List.getLast?_cons]

/-- Names behind a text that does not end with a slash get a slash each. -/
theorem foldl_joinChars_of_named (hnames : ∀ name ∈ names, Named name) (hdir : dir ≠ [])
    (hclosed : dir.getLast? ≠ some '/') :
    names.foldl joinChars dir = dir ++ names.flatMap ('/' :: ·) := by
  induction names generalizing dir with
  | nil => simp
  | cons name names ih =>
      have hname := hnames name List.mem_cons_self
      have hrest : ∀ other ∈ names, Named other := fun other hother =>
        hnames other (List.mem_cons_of_mem name hother)
      have hlast : (joinChars dir name).getLast? ≠ some '/' := by
        rw [hname.getLast?_joinChars]
        exact hname.getLast?_ne
      have hjoin : joinChars dir name = dir ++ '/' :: name := by
        rw [joinChars_of_relative dir hname.isAbsolute, if_neg]
        simp [hdir, hclosed]
      rw [List.foldl_cons, ih hrest (by simp [hjoin]) hlast, hjoin, List.append_assoc]
      rfl

/-- A tidy directory is what its parts make up under the root. -/
theorem Tidy.foldl_parts (h : Tidy dir) : (parts dir).foldl joinChars ['/'] = dir := by
  cases h with
  | root => rfl
  | @below rest named =>
      have hparts : parts ('/' :: rest) = pieces rest := by
        refine (parts_append_slash [] rest).trans (List.filter_eq_self.mpr ?_)
        intro piece hpiece
        obtain ⟨hnonempty, helsewhere, -⟩ := named piece hpiece
        simp [hnonempty, helsewhere]
      have hwritten := flatMap_pieces rest
      rw [hparts]
      cases hpieces : pieces rest with
      | nil => exact absurd hpieces (pieces_ne_nil rest)
      | cons name names =>
          rw [hpieces] at named hwritten
          have hname := named name List.mem_cons_self
          have hfirst : joinChars ['/'] name = '/' :: name := by
            rw [joinChars_of_relative _ hname.isAbsolute]
            rfl
          have hlast : ('/' :: name).getLast? ≠ some '/' := by
            rw [← hfirst, hname.getLast?_joinChars]
            exact hname.getLast?_ne
          rw [List.foldl_cons, hfirst, foldl_joinChars_of_named
            (fun other hother => named other (List.mem_cons_of_mem name hother))
            (List.cons_ne_nil _ _) hlast]
          exact hwritten

theorem Tidy.isAbsolute (h : Tidy dir) : isAbsolute dir = true := by
  cases h <;> rfl

theorem Tidy.isDoubled (h : Tidy dir) : isDoubled dir = false := by
  cases h with
  | root => rfl
  | @below rest named =>
      cases rest with
      | nil => rfl
      | cons c rest =>
          by_cases hc : c = '/'
          · subst hc
            exact absurd rfl (named [] List.mem_cons_self).nonempty
          · simp [Path.isDoubled, hc]

/-- No piece of a tidy directory is the part `.`. -/
theorem Tidy.dot_not_mem (h : Tidy dir) : ['.'] ∉ pieces dir := by
  cases h with
  | root => decide
  | @below rest named =>
      intro hdot
      rcases List.mem_cons.mp hdot with hempty | hdot
      · cases hempty
      · exact (named _ hdot).elsewhere rfl

end

/-! ## Absolute forms, once more -/

theorem root_eq (cwd cs : List Char) :
    root cwd cs =
      if isDoubled cs then ['/', '/'] else if isAbsolute cs then ['/'] else cwd := by
  fun_cases root cwd cs with
  | case1 => rfl
  | case2 rest hrest => simp [isDoubled, isAbsolute_eq_false hrest]
  | case3 rest _ hrest => simp [isDoubled, isAbsolute_eq_false hrest]
  | case4 cs _ _ hrelative => simp [isDoubled, isAbsolute_eq_false hrelative]

/-- A slash at the end is not written twice. -/
theorem joinChars_nil_of_slash {dir : List Char} (h : dir.getLast? = some '/') :
    joinChars dir [] = dir := by
  rw [joinChars_of_relative dir rfl, h]
  simp

section

variable {cwd cs piece : List Char}

/-- The same parts are put under the same slashes. -/
theorem stem_absoluteChars (hcwd : Tidy cwd) (cs : List Char) :
    stem cwd (absoluteChars cwd cs) = stem cwd cs := by
  have hshape := shape_absoluteChars hcwd.isAbsolute cs
  rw [stem, hshape.parts, root_eq, hshape.isDoubled, hshape.rooted, if_pos rfl, stem, root_eq]
  cases habsolute : isAbsolute cs with
  | true => rfl
  | false =>
      have hsingle : isDoubled cs = false := by simp [isDoubled, habsolute]
      rw [hsingle, List.foldl_append]
      simp [hcwd.isDoubled, hcwd.foldl_parts]

theorem absoluteChars_absoluteChars (hcwd : Tidy cwd) (cs : List Char) :
    absoluteChars cwd (absoluteChars cwd cs) = absoluteChars cwd cs := by
  rw [absoluteChars_eq cwd (absoluteChars cwd cs), stem_absoluteChars hcwd, absoluteChars_eq]
  by_cases hslash : cs.getLast? = some '/'
  · have hend := getLast?_joinChars_nil (stem_ne_nil hcwd.isAbsolute cs)
    rw [if_pos hslash, if_pos hend]
  · rw [if_neg hslash]
    -- The last of the names has no slash in it, but without a name the root ends with one.
    split
    · next hend => exact joinChars_nil_of_slash hend
    · rfl

/-- The pieces of an absolute form come from the directory or from the path, or are empty. -/
theorem mem_pieces_stem (h : piece ∈ pieces (stem cwd cs)) :
    piece ∈ pieces (root cwd cs) ∨ piece ∈ parts cs := by
  have hnamed : ∀ name ∈ parts cs, Named name := fun _ hname => named_of_mem_parts hname
  rw [stem] at h
  generalize root cwd cs = dir at h
  generalize parts cs = names at h hnamed
  induction names generalizing dir with
  | nil => exact .inl h
  | cons name names ih =>
      have hname := hnamed name List.mem_cons_self
      have hrest : ∀ other ∈ names, Named other := fun other hother =>
        hnamed other (List.mem_cons_of_mem name hother)
      rcases ih _ h hrest with hjoin | hlater
      · rcases mem_pieces_joinChars hname.isAbsolute hjoin with hdir | hpiece
        · exact .inl hdir
        · rw [pieces_of_slash_not_mem hname.whole, List.mem_singleton] at hpiece
          rw [hpiece]
          exact .inr List.mem_cons_self
      · exact .inr (List.mem_cons_of_mem name hlater)

theorem dot_not_mem_root (hcwd : Tidy cwd) (cs : List Char) : ['.'] ∉ pieces (root cwd cs) := by
  rw [root_eq]
  split
  · decide
  · split
    · decide
    · exact hcwd.dot_not_mem

theorem dot_not_mem_absoluteChars (hcwd : Tidy cwd) (cs : List Char) :
    ['.'] ∉ pieces (absoluteChars cwd cs) := by
  have hstem : ['.'] ∉ pieces (stem cwd cs) := by
    intro hdot
    rcases mem_pieces_stem hdot with hroot | hpart
    · exact dot_not_mem_root hcwd cs hroot
    · exact (named_of_mem_parts hpart).elsewhere rfl
  rw [absoluteChars_eq]
  split
  · intro hdot
    rcases mem_pieces_joinChars rfl hdot with hdot | hempty
    · exact hstem hdot
    · cases List.mem_singleton.mp hempty
  · exact hstem

/-- The part `..` is a part like any other, so it is left where it is. -/
theorem count_up_parts (cs : List Char) :
    (parts cs).count ['.', '.'] = (pieces cs).count ['.', '.'] :=
  List.count_filter rfl

end

/-- A slash between a directory and a name is written once, also if one is written before. -/
theorem joinChars_joinChars_nil {dir name : List Char} (hdir : dir ≠ []) (hname : Named name) :
    joinChars (joinChars dir []) name = joinChars dir name := by
  by_cases hslash : dir.getLast? = some '/'
  · rw [joinChars_nil_of_slash hslash]
  · have hnil : joinChars dir [] = dir ++ ['/'] := by
      rw [joinChars_of_relative dir rfl, if_neg]
      simp [hdir, hslash]
    rw [hnil, joinChars_of_relative _ hname.isAbsolute, joinChars_of_relative _ hname.isAbsolute]
    simp [hdir, hslash]

/-- A name under a directory is made absolute by making the directory absolute. -/
theorem absoluteChars_joinChars {cwd name : List Char} (hcwd : isAbsolute cwd = true)
    (hname : Named name) (dir : List Char) :
    absoluteChars cwd (joinChars dir name) = joinChars (absoluteChars cwd dir) name := by
  have hroot : root cwd (joinChars dir name) = root cwd dir := by
    rw [root_eq, root_eq, isDoubled_joinChars dir hname.isAbsolute,
      isAbsolute_joinChars dir hname.isAbsolute]
  have hstem : stem cwd (joinChars dir name) = joinChars (stem cwd dir) name := by
    rw [stem, hroot, parts_joinChars dir hname.isAbsolute, hname.parts_eq, List.foldl_append]
    rfl
  rw [absoluteChars_eq, absoluteChars_eq, hname.getLast?_joinChars, if_neg hname.getLast?_ne, hstem]
  split
  · rw [joinChars_joinChars_nil (stem_ne_nil hcwd dir) hname]
  · rfl

/-- A path and its absolute form, where relative paths are taken from a tidy directory. -/
structure Canonical (cwd path q : Path) : Prop where
  rooted : isAbsolute q.toList = true
  /-- No piece between two slashes is `.`. -/
  noDot : ['.'] ∉ pieces q.toList
  /-- All other parts are kept, in their order, behind those of the directory if the path is
  relative. -/
  parts : parts q.toList =
    (if isAbsolute path.toList then [] else parts cwd.toList) ++ parts path.toList
  /-- In particular each `..` is kept. -/
  ups : (pieces q.toList).count ['.', '.'] =
    (if isAbsolute path.toList then 0 else (pieces cwd.toList).count ['.', '.']) +
      (pieces path.toList).count ['.', '.']
  /-- It is its own absolute form. -/
  settled : absolute cwd q = some q

section

variable {cwd path q : Path}

theorem absolute_eq_some_iff :
    absolute cwd path = some q ↔ path ≠ "" ∧ q.toList = absoluteChars cwd.toList path.toList := by
  rw [absolute]
  by_cases hempty : path = ""
  · simp [hempty]
  · rw [if_neg (by simpa using hempty), Option.some.injEq, and_iff_right hempty]
    constructor
    · rintro rfl
      exact String.toList_ofList
    · intro h
      rw [← h, String.ofList_toList]

theorem canonical_of_absolute (hcwd : Tidy cwd.toList) (h : absolute cwd path = some q) :
    Canonical cwd path q := by
  obtain ⟨-, hq⟩ := absolute_eq_some_iff.mp h
  have hshape := shape_absoluteChars hcwd.isAbsolute path.toList
  rw [← hq] at hshape
  have hcount := congrArg (List.count ['.', '.']) hshape.parts
  rw [List.count_append, count_up_parts, count_up_parts] at hcount
  refine ⟨hshape.rooted, ?_, hshape.parts, ?_, ?_⟩
  · rw [hq]
    exact dot_not_mem_absoluteChars hcwd path.toList
  · rw [hcount]
    split
    · rfl
    · rw [count_up_parts]
  · refine absolute_eq_some_iff.mpr ⟨?_, ?_⟩
    · rintro rfl
      exact Bool.false_ne_true hshape.rooted
    · rw [hq, absoluteChars_absoluteChars hcwd]

end

end Path

/-! ## Artifacts -/

/-- Every codec is found again by its name. -/
theorem BackendId.find?_name (id : BackendId) : all.find? (·.name == id.name) = some id := by
  cases id <;> decide

theorem BackendId.name_injective : Function.Injective name := by
  intro a b h
  have hfound := a.find?_name
  rw [h, b.find?_name] at hfound
  exact (Option.some.inj hfound).symm

namespace Artifact

open MediaCodec.Path (Tidy absoluteChars absoluteChars_joinChars)

variable {cwd : Path} {id : BackendId} {path : Path} {a : Artifact}

theorem withPath_eq_ok_iff :
    withPath cwd id path = .ok a ↔ a.id = id ∧ Path.absolute cwd path = some a.path := by
  obtain ⟨aid, apath⟩ := a
  rw [withPath]
  cases Path.absolute cwd path with
  | none => exact iff_of_false nofun nofun
  | some q =>
      simp only [Except.ok.injEq, Artifact.mk.injEq, Option.some.injEq]
      exact and_congr_left' eq_comm

theorem withPath_eq_error_iff {fault : LoadFault} :
    withPath cwd id path = .error fault ↔ path = "" ∧ fault = .emptyPath := by
  rw [withPath]
  by_cases hempty : path = ""
  · have hnone : Path.absolute cwd path = none := by
      rw [hempty]
      rfl
    rw [hnone, and_iff_right hempty]
    constructor
    · intro h
      exact (Except.error.inj h).symm
    · rintro rfl
      rfl
  · obtain ⟨q, hq⟩ := Path.exists_absolute cwd hempty
    rw [hq]
    exact iff_of_false nofun fun h => hempty h.1

/-- What is located under a directory is located under the absolute form of the directory. -/
theorem locate_eq_of_withPath {dir : Path} (hcwd : Path.isAbsolute cwd.toList = true)
    (h : withPath cwd id dir = .ok a) :
    locate cwd id dir = .ok ⟨id, Path.join (Path.join a.path id.name) id.libraryFile⟩ := by
  obtain ⟨-, hdir⟩ := withPath_eq_ok_iff.mp h
  obtain ⟨-, hpath⟩ := Path.absolute_eq_some_iff.mp hdir
  refine withPath_eq_ok_iff.mpr ⟨rfl, Path.absolute_eq_some_iff.mpr ⟨?_, ?_⟩⟩
  · exact conventionalPath_ne_empty id dir
  · rw [toList_conventionalPath, absoluteChars_joinChars hcwd (named_libraryFile id),
      absoluteChars_joinChars hcwd (named_name id), ← hpath]
    exact toList_conventionalPath id a.path

/-- The parts of a located path tell which codec it is for. -/
theorem id_eq_of_locate {id' : BackendId} {dir : Path} {a' : Artifact}
    (hcwd : Path.isAbsolute cwd.toList = true) (h : locate cwd id dir = .ok a)
    (h' : locate cwd id' dir = .ok a')
    (hparts : Path.parts a.path.toList = Path.parts a'.path.toList) : id = id' := by
  obtain ⟨-, hpath⟩ := withPath_eq_ok_iff.mp h
  obtain ⟨-, hpath'⟩ := withPath_eq_ok_iff.mp h'
  have hshape := shape_conventionalPath (Path.absoluteForm hcwd hpath)
  have hshape' := shape_conventionalPath (Path.absoluteForm hcwd hpath')
  rw [hshape.parts, hshape'.parts, List.append_right_inj, List.cons.injEq, String.toList_inj]
    at hparts
  exact BackendId.name_injective hparts.1

/-- What artifacts are like on a machine whose relative paths are taken from `cwd`. -/
structure Regular (cwd : Path) : Prop where
  /-- The empty path names no artifact, and every other path names one. -/
  fails_iff : ∀ id path fault, withPath cwd id path = .error fault ↔ path = "" ∧ fault = .emptyPath
  canonical : ∀ id path a, withPath cwd id path = .ok a →
    a.id = id ∧ Path.Canonical cwd path a.path ∧ withPath cwd id a.path = .ok a
  /-- Locating under a directory is making the directory absolute and going on from there. -/
  located : ∀ id (dir : Path), dir ≠ "" → ∃ a, withPath cwd id dir = .ok a ∧
    locate cwd id dir = .ok ⟨id, Path.join (Path.join a.path id.name) id.libraryFile⟩
  /-- Two codecs never share a path. -/
  distinct : ∀ id id' dir a a', locate cwd id dir = .ok a → locate cwd id' dir = .ok a' →
    a.path = a'.path → id = id'
  /-- Nor do their paths differ in the slashes only. -/
  apart : ∀ id id' dir a a', locate cwd id dir = .ok a → locate cwd id' dir = .ok a' →
    Path.parts a.path.toList = Path.parts a'.path.toList → id = id'

theorem regular_of_tidy (hcwd : Tidy cwd.toList) : Regular cwd where
  fails_iff _ _ _ := withPath_eq_error_iff
  canonical id path a h := by
    obtain ⟨hid, hpath⟩ := withPath_eq_ok_iff.mp h
    have hcanonical := Path.canonical_of_absolute hcwd hpath
    exact ⟨hid, hcanonical, withPath_eq_ok_iff.mpr ⟨hid, hcanonical.settled⟩⟩
  located id dir hdir := by
    obtain ⟨q, hq⟩ := Path.exists_absolute cwd hdir
    have hwith : withPath cwd id dir = .ok ⟨id, q⟩ := withPath_eq_ok_iff.mpr ⟨rfl, hq⟩
    exact ⟨⟨id, q⟩, hwith, locate_eq_of_withPath hcwd.isAbsolute hwith⟩
  distinct _ _ _ _ _ h h' hpath := id_eq_of_locate hcwd.isAbsolute h h' (by rw [hpath])
  apart _ _ _ _ _ h h' hparts := id_eq_of_locate hcwd.isAbsolute h h' hparts

theorem regular_of_tidy_below :
    let cwd : Path := "/srv/media"
    Tidy cwd.toList ∧ Regular cwd := by
  intro cwd
  have hrest : cwd.toList = '/' :: "srv/media".toList := by decide
  have htidy : Tidy cwd.toList := by
    rw [hrest]
    refine .below fun piece hpiece => ?_
    have hpart : piece ∈ Path.parts "srv/media".toList := hpiece
    exact Path.named_of_mem_parts hpart
  exact ⟨htidy, regular_of_tidy htidy⟩

/-- A double slash at the front is kept, a triple one is not, and neither is the part `.`. -/
example : Path.absolute "/srv/media" "///opt/./lib//" = some "/opt/lib/" := by decide

end Artifact

end MediaCodec
