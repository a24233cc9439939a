/-
File names — what is left of a path without its directories.

A path may come from a machine of either kind, so both kinds of slashes end a directory, and they
may stand in one path together.  The file name is the longest end of the path that has neither in it
(`Path.IsFileName`).  It is empty where the path ends with a separator, and where the path is empty.

All of this turns on single separators.  What stands before one does not reach the file name
(`Path.fileName_append`).  And a path that is more than its file name has one right before it
(`Path.exists_separator`), so that no longer end of the path can do without.
-/

import MediaCodec.Path
import Mathlib.Data.List.DropRight

namespace MediaCodec

namespace Path

/-- The characters that end a directory, on one kind of machine or the other. -/
def Separates (c : Char) : Prop := c = '/' ∨ c = '\\'

instance (c : Char) : Decidable (Separates c) := inferInstanceAs (Decidable (_ ∨ _))

/-- A path that names no directory. -/
def Bare (path : Path) : Prop := ∀ c ∈ path.toList, ¬ Separates c

/-- The longest end of a path that names no directory. -/
structure IsFileName (path : Path) (name : String) : Prop where
  ends : ∃ front, path = front ++ name
  bare : Bare name
  longest : ∀ front rest, path = front ++ rest → Bare rest → rest.length ≤ name.length

/-- Whether a character may stand in a file name. -/
def isPlain (c : Char) : Bool := !(c == '/' || c == '\\')

theorem isPlain_iff {c : Char} : isPlain c = true ↔ ¬ Separates c := by
  simp [isPlain, Separates]

theorem toList_fileName (path : Path) : (fileName path).toList = path.toList.rtakeWhile isPlain :=
  String.toList_ofList

/-! ## Single separators -/

theorem bare_fileName (path : Path) : Bare (fileName path) := by
  intro c hc
  rw [toList_fileName] at hc
  exact isPlain_iff.mp (List.mem_rtakeWhile_imp hc)

theorem fileName_of_bare {path : Path} (h : Bare path) : fileName path = path := by
  rw [← String.toList_inj, toList_fileName, List.rtakeWhile_eq_self_iff]
  exact fun c hc => isPlain_iff.mpr (h c hc)

theorem rtakeWhile_append_separator {c : Char} (hc : Separates c) (front rest : List Char) :
    (front ++ c :: rest).rtakeWhile isPlain = rest.rtakeWhile isPlain := by
  have hstop : ¬ isPlain c = true := fun h => isPlain_iff.mp h hc
  -- The end of a path is at hand on its right, so the induction takes characters off there.
  induction rest using List.reverseRecOn with
  | nil => exact List.rtakeWhile_concat_neg _ _ _ hstop
  | append_singleton rest d ih =>
      rw [← List.cons_append, ← List.append_assoc, List.rtakeWhile_concat, List.rtakeWhile_concat,
        ih]

/-- What stands before a separator does not reach the file name. -/
theorem fileName_append {c : Char} (hc : Separates c) (front rest : Path) :
    fileName (front ++ String.singleton c ++ rest) = fileName rest := by
  rw [← String.toList_inj, toList_fileName, toList_fileName, String.toList_append,
    String.toList_append, String.toList_singleton, List.append_assoc, List.singleton_append]
  exact rtakeWhile_append_separator hc _ _

/-- What a path has before its file name ends with a separator. -/
theorem exists_separator (path : Path) :
    path = fileName path ∨ ∃ front c, Separates c ∧
      path = front ++ String.singleton c ++ fileName path := by
  have hsplit := List.rdropWhile_append_rtakeWhile (p := isPlain) (l := path.toList)
  rw [← toList_fileName] at hsplit
  rcases List.eq_nil_or_concat (path.toList.rdropWhile isPlain) with hnil | ⟨front, c, hlast⟩
  · refine .inl (String.toList_inj.mp ?_)
    rw [hnil, List.nil_append] at hsplit
    exact hsplit.symm
  · have hne : path.toList.rdropWhile isPlain ≠ [] := by simp [hlast]
    have hc : ¬ isPlain c = true := by
      have hstop := List.rdropWhile_last_not isPlain path.toList hne
      simpa [hlast] using hstop
    refine .inr ⟨String.ofList front, c, ?_, String.toList_inj.mp ?_⟩
    · exact Decidable.of_not_not fun h => hc (isPlain_iff.mpr h)
    · rw [hlast] at hsplit
      simp [← hsplit]

/-! ## The longest end -/

theorem suffix_iff {path name : Path} :
    (∃ front, path = front ++ name) ↔ name.toList <:+ path.toList := by
  constructor
  · rintro ⟨front, rfl⟩
    rw [String.toList_append]
    exact List.suffix_append _ _
  · rintro ⟨front, hfront⟩
    refine ⟨String.ofList front, String.toList_inj.mp ?_⟩
    rw [String.toList_append, String.toList_ofList, hfront]

theorem isFileName_fileName (path : Path) : IsFileName path (fileName path) := by
  refine ⟨?_, bare_fileName path, ?_⟩
  · rw [suffix_iff, toList_fileName]
    exact List.rtakeWhile_suffix _ _
  · intro front rest hpath hrest
    rcases exists_separator path with hself | ⟨dir, c, hc, hdir⟩
    · rw [← hself, hpath, String.length_append]
      exact Nat.le_add_left _ _
    · by_contra hlong
      -- A longer end takes in the separator right before the file name.
      have hend : rest.toList <:+ path.toList := suffix_iff.mp ⟨front, hpath⟩
      have hsep : (c :: (fileName path).toList) <:+ path.toList := by
        refine ⟨dir.toList, ?_⟩
        conv_rhs => rw [hdir]
        simp
      have hmem : (c :: (fileName path).toList) <:+ rest.toList := by
        refine List.suffix_of_suffix_length_le hsep hend ?_
        rw [List.length_cons, String.length_toList, String.length_toList]
        exact Nat.lt_of_not_le hlong
      exact hrest c (hmem.subset List.mem_cons_self) hc

/-- A path has one file name. -/
theorem IsFileName.eq {path : Path} {name name' : String} (h : IsFileName path name)
    (h' : IsFileName path name') : name = name' := by
  obtain ⟨front, hfront⟩ := h.ends
  obtain ⟨front', hfront'⟩ := h'.ends
  have hle : name.length ≤ name'.length := h'.longest front name hfront h.bare
  have hge : name'.length ≤ name.length := h.longest front' name' hfront' h'.bare
  have hsuffix : name.toList <:+ name'.toList :=
    List.suffix_of_suffix_length_le (suffix_iff.mp h.ends) (suffix_iff.mp h'.ends) hle
  exact String.toList_inj.mp (hsuffix.eq_of_length (Nat.le_antisymm hle hge))

theorem fileName_eq_iff {path : Path} {name : String} :
    fileName path = name ↔ IsFileName path name :=
  ⟨fun h => h ▸ isFileName_fileName path, fun h => (isFileName_fileName path).eq h⟩

/-- A function takes a path to its file name, and so to what stands behind its last separator. -/
structure Names (f : Path → String) : Prop where
  eq_iff : ∀ path name, f path = name ↔ IsFileName path name
  idempotent : ∀ path, f (f path) = f path
  behind : ∀ front c rest, Separates c → f (front ++ String.singleton c ++ rest) = f rest
  /-- Two paths that agree behind a separator, be it their last one, are named alike. -/
  alike : ∀ front front' c c' rest, Separates c → Separates c' →
    f (front ++ String.singleton c ++ rest) = f (front' ++ String.singleton c' ++ rest)

theorem names_fileName : Names fileName where
  eq_iff _ _ := fileName_eq_iff
  idempotent path := fileName_of_bare (bare_fileName path)
  behind front _ rest hc := fileName_append hc front rest
  alike front front' _ _ rest hc hc' := by rw [fileName_append hc, fileName_append hc']

/-- Both kinds of separators in one path, the second of them right before the end. -/
example : fileName "C:\\app/lib\\codec.dll" = "codec.dll" ∧ fileName "/var\\log/" = "" := by
  decide

end Path

end MediaCodec
