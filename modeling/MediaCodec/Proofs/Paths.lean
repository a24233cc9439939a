/-
Paths — what the absolute form of a path is.

The absolute form is made by putting parts under a directory one by one.  What comes of it is said
here without that: it starts at the root, its parts are those of the path, behind those of the
directory if the path is relative, and it ends with a slash if the path does (`Path.absoluteForm`).

Everything turns on the slash between a directory and what is put under it.  Cutting a text at one
of its slashes cuts its pieces (`Path.pieces_append_slash`), and hence its parts; whether `joinChars`
writes that slash or finds it there already makes no difference to the parts.
-/

import MediaCodec.Platform

namespace MediaCodec

namespace Path

/-! ## Where a path starts -/

@[simp] theorem isAbsolute_nil : isAbsolute [] = false := rfl

theorem isAbsolute_eq_false {cs : List Char} (h : ∀ rest, cs = '/' :: rest → False) :
    isAbsolute cs = false := by
  rw [isAbsolute.eq_def]
  split
  · next rest => exact absurd rfl (h rest)
  · rfl

@[simp] theorem isAbsolute_cons (c : Char) (rest : List Char) :
    isAbsolute (c :: rest) = (c == '/') := by
  by_cases hc : c = '/'
  · rw [hc]
    rfl
  · rw [beq_eq_false_iff_ne.mpr hc]
    exact isAbsolute_eq_false fun _ heq => hc (List.cons.inj heq).1

theorem isAbsolute_iff {cs : List Char} : isAbsolute cs = true ↔ ∃ rest, cs = '/' :: rest := by
  cases cs with
  | nil => exact iff_of_false Bool.false_ne_true nofun
  | cons c rest => simp

/-! ## Pieces and parts -/

theorem pieces_ne_nil (cs : List Char) : pieces cs ≠ [] := by
  fun_cases pieces cs <;> simp

/-- A character that is no slash goes to the first piece behind it. -/
theorem pieces_cons {c : Char} {rest p : List Char} {ps : List (List Char)} (hc : c = '/' → False)
    (h : pieces rest = p :: ps) : pieces (c :: rest) = (c :: p) :: ps := by
  rw [pieces, h]
  exact hc

theorem pieces_append_slash (cs ds : List Char) :
    pieces (cs ++ '/' :: ds) = pieces cs ++ pieces ds := by
  induction cs using pieces.induct with
  | case1 => rfl
  | case2 rest ih => exact congrArg ([] :: ·) ih
  | case3 c rest hc hrest ih => exact absurd hrest (pieces_ne_nil rest)
  | case4 c rest hc p ps hrest ih =>
      rw [hrest] at ih
      rw [List.cons_append, pieces_cons hc ih, pieces_cons hc hrest]
      rfl

/-- No piece has a slash in it. -/
theorem slash_not_mem {piece cs : List Char} (h : piece ∈ pieces cs) : '/' ∉ piece := by
  induction cs using pieces.induct generalizing piece with
  | case1 =>
      rw [List.mem_singleton.mp h]
      exact List.not_mem_nil
  | case2 rest ih =>
      rcases List.mem_cons.mp h with rfl | h
      · exact List.not_mem_nil
      · exact ih h
  | case3 c rest hc hrest ih => exact absurd hrest (pieces_ne_nil rest)
  | case4 c rest hc p ps hrest ih =>
      rw [hrest] at ih
      rw [pieces_cons hc hrest] at h
      rcases List.mem_cons.mp h with rfl | h
      · intro hslash
        rcases List.mem_cons.mp hslash with rfl | hslash
        · exact hc rfl
        · exact ih List.mem_cons_self hslash
      · exact ih (List.mem_cons_of_mem p h)

theorem pieces_of_slash_not_mem {cs : List Char} (h : '/' ∉ cs) : pieces cs = [cs] := by
  induction cs using pieces.induct with
  | case1 => rfl
  | case2 rest ih => exact absurd List.mem_cons_self h
  | case3 c rest hc hrest ih => exact absurd hrest (pieces_ne_nil rest)
  | case4 c rest hc p ps hrest ih =>
      have hone := ih fun hslash => h (List.mem_cons_of_mem c hslash)
      rw [hrest, List.cons.injEq] at hone
      obtain ⟨rfl, rfl⟩ := hone
      exact pieces_cons hc hrest

theorem parts_append_slash (cs ds : List Char) :
    parts (cs ++ '/' :: ds) = parts cs ++ parts ds := by
  rw [parts, pieces_append_slash, List.filter_append]
  rfl

/-- A part names something: it is not empty, nor the place itself, and has no slash in it. -/
structure Named (part : List Char) : Prop where
  nonempty : part ≠ []
  elsewhere : part ≠ ['.']
  whole : '/' ∉ part

theorem named_of_mem_parts {part cs : List Char} (h : part ∈ parts cs) : Named part := by
  obtain ⟨hmem, hkept⟩ := List.mem_filter.mp h
  simp only [Bool.not_eq_true', Bool.or_eq_false_iff, List.isEmpty_eq_false_iff,
    beq_eq_false_iff_ne] at hkept
  exact ⟨hkept.1, hkept.2, slash_not_mem hmem⟩

namespace Named

variable {part : List Char}

theorem parts_eq (h : Named part) : parts part = [part] := by
  rw [parts, pieces_of_slash_not_mem h.whole]
  exact List.filter_cons_of_pos (by simp [h.nonempty, h.elsewhere])

theorem isAbsolute (h : Named part) : isAbsolute part = false := by
  refine isAbsolute_eq_false ?_
  rintro rest rfl
  exact h.whole List.mem_cons_self

end Named

/-! ## Under a directory -/

section

variable {dir path : List Char}

theorem joinChars_of_relative (dir : List Char) (h : isAbsolute path = false) :
    joinChars dir path =
      if dir.isEmpty || dir.getLast? == some '/' then dir ++ path else dir ++ '/' :: path :=
  if_neg (Bool.eq_false_iff.mp h)

/-- The slash between a directory and a relative path is written, or is there already. -/
theorem joinChars_cases (dir : List Char) (h : isAbsolute path = false) :
    (dir = [] ∧ joinChars dir path = path) ∨
      ∃ front, (dir = front ∨ dir = front ++ ['/']) ∧ joinChars dir path = front ++ '/' :: path := by
  rw [joinChars_of_relative dir h]
  split
  · next hend =>
    rcases Bool.or_eq_true_iff.mp hend with hempty | hslash
    · obtain rfl := List.isEmpty_iff.mp hempty
      exact .inl ⟨rfl, rfl⟩
    · obtain ⟨front, rfl⟩ := List.getLast?_eq_some_iff.mp (beq_iff_eq.mp hslash)
      exact .inr ⟨front, .inr rfl, List.append_assoc front ['/'] path⟩
  · exact .inr ⟨dir, .inl rfl, rfl⟩

theorem parts_joinChars (dir : List Char) (h : isAbsolute path = false) :
    parts (joinChars dir path) = parts dir ++ parts path := by
  rcases joinChars_cases dir h with ⟨rfl, hjoin⟩ | ⟨front, hdir, hjoin⟩
  · rw [hjoin]
    rfl
  · have hfront : parts dir = parts front := by
      rcases hdir with rfl | rfl
      · rfl
      · exact (parts_append_slash front []).trans (List.append_nil _)
    rw [hjoin, hfront, parts_append_slash]

/-- What is put under a directory brings its own pieces, and no others. -/
theorem mem_pieces_joinChars {piece : List Char} (h : isAbsolute path = false)
    (hmem : piece ∈ pieces (joinChars dir path)) : piece ∈ pieces dir ∨ piece ∈ pieces path := by
  rcases joinChars_cases dir h with ⟨rfl, hjoin⟩ | ⟨front, hdir, hjoin⟩
  · rw [hjoin] at hmem
    exact .inr hmem
  · rw [hjoin, pieces_append_slash, List.mem_append] at hmem
    refine hmem.imp_left fun hfront => ?_
    rcases hdir with rfl | rfl
    · exact hfront
    · rw [pieces_append_slash]
      exact List.mem_append_left _ hfront

/-- Putting nothing under a directory ends it with a slash. -/
theorem getLast?_joinChars_nil (h : dir ≠ []) : (joinChars dir []).getLast? = some '/' := by
  rw [joinChars_of_relative dir rfl]
  split
  · next hend =>
    rw [List.append_nil]
    rcases Bool.or_eq_true_iff.mp hend with hempty | hslash
    · exact absurd (List.isEmpty_iff.mp hempty) h
    · exact beq_iff_eq.mp hslash
  · exact List.getLast?_concat

/-- Whether a path begins with two slashes and no more; where such a path leads is left open. -/
def isDoubled (cs : List Char) : Bool :=
  isAbsolute cs && isAbsolute cs.tail && !isAbsolute cs.tail.tail

/-- What is put under a directory does not change how it begins. -/
theorem isAbsolute_joinChars (dir : List Char) (h : isAbsolute path = false) :
    isAbsolute (joinChars dir path) = isAbsolute dir := by
  rw [joinChars_of_relative dir h]
  cases dir with
  | nil => exact h
  | cons c rest => split <;> simp

theorem isDoubled_joinChars (dir : List Char) (h : isAbsolute path = false) :
    isDoubled (joinChars dir path) = isDoubled dir := by
  rw [joinChars_of_relative dir h]
  match dir with
  | [] => simp [isDoubled, h]
  | [c] =>
      -- The slash behind the one character is there just if it is a slash, and is not written twice.
      by_cases hc : c = '/'
      · simp [hc, isDoubled, h]
      · simp [hc, isDoubled]
  | [c, d] =>
      by_cases hd : d = '/'
      · simp [hd, isDoubled, h]
      · simp [hd, isDoubled]
  | c :: d :: e :: rest => split <;> simp [isDoubled]

end

/-! ## Absolute forms -/

/-- A path that starts at the root, with two slashes or not, and has the given parts. -/
structure Shape (doubled : Bool) (names : List (List Char)) (q : List Char) : Prop where
  rooted : isAbsolute q = true
  parts : parts q = names
  isDoubled : isDoubled q = doubled

namespace Shape

variable {doubled : Bool} {names : List (List Char)} {q : List Char}

theorem join (h : Shape doubled names q) (path : List Char) (hpath : Path.isAbsolute path = false) :
    Shape doubled (names ++ Path.parts path) (joinChars q path) where
  rooted := by rw [isAbsolute_joinChars q hpath, h.rooted]
  parts := by rw [parts_joinChars q hpath, h.parts]
  isDoubled := by rw [isDoubled_joinChars q hpath, h.isDoubled]

/-- Names are put under a path one by one. -/
theorem foldl (h : Shape doubled names q) {more : List (List Char)}
    (hmore : ∀ name ∈ more, Named name) :
    Shape doubled (names ++ more) (more.foldl joinChars q) := by
  induction more generalizing names q with
  | nil => rwa [List.append_nil]
  | cons name more ih =>
      have hname := hmore name List.mem_cons_self
      have hjoin := h.join name hname.isAbsolute
      rw [hname.parts_eq] at hjoin
      have hrest := ih hjoin fun other hother => hmore other (List.mem_cons_of_mem name hother)
      rwa [List.append_assoc] at hrest

/-- What the parts of an absolute form are put under. -/
theorem root {cwd : List Char} (hcwd : Path.isAbsolute cwd = true) (cs : List Char) :
    Shape (Path.isDoubled (if Path.isAbsolute cs then cs else cwd))
      (if Path.isAbsolute cs then [] else Path.parts cwd) (Path.root cwd cs) := by
  fun_cases Path.root cwd cs with
  | case1 => exact ⟨rfl, rfl, rfl⟩
  | case2 rest hrest =>
      exact ⟨rfl, rfl, by simp [Path.isDoubled, isAbsolute_eq_false hrest]⟩
  | case3 rest _ hrest =>
      exact ⟨rfl, rfl, by simp [Path.isDoubled, isAbsolute_eq_false hrest]⟩
  | case4 cs _ _ hrelative =>
      rw [isAbsolute_eq_false hrelative]
      exact ⟨hcwd, rfl, rfl⟩

end Shape

/-- The absolute form of a path, but for a slash at its end. -/
def stem (cwd cs : List Char) : List Char := (parts cs).foldl joinChars (root cwd cs)

theorem absoluteChars_eq (cwd cs : List Char) :
    absoluteChars cwd cs =
      if cs.getLast? = some '/' then joinChars (stem cwd cs) [] else stem cwd cs := by
  simp [absoluteChars, stem]

section

variable {cwd : List Char} (hcwd : isAbsolute cwd = true) (cs : List Char)
include hcwd

theorem shape_stem :
    Shape (isDoubled (if isAbsolute cs then cs else cwd))
      ((if isAbsolute cs then [] else parts cwd) ++ parts cs) (stem cwd cs) :=
  (Shape.root hcwd cs).foldl fun _ hname => named_of_mem_parts hname

theorem stem_ne_nil : stem cwd cs ≠ [] := by
  obtain ⟨rest, hrest⟩ := isAbsolute_iff.mp (shape_stem hcwd cs).rooted
  rw [hrest]
  exact List.cons_ne_nil _ _

theorem shape_absoluteChars :
    Shape (isDoubled (if isAbsolute cs then cs else cwd))
      ((if isAbsolute cs then [] else parts cwd) ++ parts cs) (absoluteChars cwd cs) := by
  have hstem := shape_stem hcwd cs
  rw [absoluteChars_eq]
  by_cases hslash : cs.getLast? = some '/'
  · have hform := hstem.join [] rfl
    have hnone : parts [] = [] := rfl
    rw [hnone, List.append_nil] at hform
    rwa [if_pos hslash]
  · rwa [if_neg hslash]

end

/-- A path and its absolute form, for relative paths that are taken from a directory. -/
structure AbsoluteForm (cwd path q : Path) : Prop where
  /-- The form starts at the root, and with two slashes just if the path does, or the directory of
  a relative one.  Its parts are those of the path, behind those of the directory if the path is
  relative. -/
  shape : Shape (isDoubled (if isAbsolute path.toList then path.toList else cwd.toList))
    ((if isAbsolute path.toList then [] else parts cwd.toList) ++ parts path.toList) q.toList
  /-- A slash at the end is kept. -/
  openEnded : path.toList.getLast? = some '/' → q.toList.getLast? = some '/'

section

variable {cwd path q : Path}

/-- Every path that is not empty has an absolute form. -/
theorem exists_absolute (cwd : Path) (h : path ≠ "") : ∃ q, absolute cwd path = some q := by
  rw [absolute, if_neg (by simpa using h)]
  exact ⟨_, rfl⟩

theorem absoluteForm (hcwd : isAbsolute cwd.toList = true) (h : absolute cwd path = some q) :
    AbsoluteForm cwd path q := by
  rw [absolute] at h
  split at h
  · cases h
  · obtain rfl := Option.some.inj h
    refine ⟨?_, fun hslash => ?_⟩
    · rw [String.toList_ofList]
      exact shape_absoluteChars hcwd path.toList
    · rw [String.toList_ofList, absoluteChars_eq, if_pos hslash]
      exact getLast?_joinChars_nil (stem_ne_nil hcwd path.toList)

end

end Path

/-! ## Conventional paths -/

namespace Artifact

open MediaCodec.Path

theorem named_name (id : BackendId) : Named id.name.toList := by
  cases id <;> exact ⟨by decide, by decide, by decide⟩

theorem named_libraryFile (id : BackendId) : Named id.libraryFile.toList := by
  cases id <;> exact ⟨by decide, by decide, by decide⟩

theorem toList_conventionalPath (id : BackendId) (dir : Path) :
    (conventionalPath id dir).toList =
      joinChars (joinChars dir.toList id.name.toList) id.libraryFile.toList := by
  rw [conventionalPath, join, join, String.toList_ofList, String.toList_ofList]

theorem conventionalPath_ne_empty (id : BackendId) (dir : Path) : conventionalPath id dir ≠ "" := by
  intro hempty
  have hfile := named_libraryFile id
  have hparts := parts_joinChars (joinChars dir.toList id.name.toList) hfile.isAbsolute
  rw [← toList_conventionalPath, hempty, hfile.parts_eq] at hparts
  exact List.append_ne_nil_of_right_ne_nil _ (List.cons_ne_nil _ []) hparts.symm

/-- The absolute form of a conventional path has two parts behind those of the library directory:
the directory of the machine and the file of the library. -/
theorem shape_conventionalPath {id : BackendId} {cwd dir q : Path}
    (h : AbsoluteForm cwd (conventionalPath id dir) q) :
    Shape (isDoubled (if isAbsolute dir.toList then dir.toList else cwd.toList))
      ((if isAbsolute dir.toList then [] else parts cwd.toList) ++ parts dir.toList ++
        [id.name.toList, id.libraryFile.toList]) q.toList := by
  have hname := named_name id
  have hfile := named_libraryFile id
  have hshape := h.shape
  rw [toList_conventionalPath, isAbsolute_joinChars _ hfile.isAbsolute,
    isAbsolute_joinChars _ hname.isAbsolute, parts_joinChars _ hfile.isAbsolute,
    parts_joinChars _ hname.isAbsolute, hname.parts_eq, hfile.parts_eq, apply_ite isDoubled,
    isDoubled_joinChars _ hfile.isAbsolute, isDoubled_joinChars _ hname.isAbsolute,
    ← apply_ite isDoubled, List.append_assoc (parts dir.toList)] at hshape
  rw [List.append_assoc]
  exact hshape

end Artifact

end MediaCodec
