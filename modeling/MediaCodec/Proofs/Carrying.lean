/-
Carrying — settings that are handed on.

Settings travel in two ways, as a document and as variables, and each has a reader of its own.  What
is written for settings, either way, is read as the same settings where these are valid
(`Settings.carries`): whatever is in the paths, and up to the largest limit.  So the two readers agree
on all settings that anybody may have.

Settings that are not valid have a document as well.  It is read up to the check at the end, which
refuses it with the very fault of the settings: what a document comes to is the check of what was
written (`Settings.ofDocument_toDocument`).  And since every reader, and every building of a
configuration, ends with this check, no settings come out of one of them that are not valid.
-/

import MediaCodec.Config
import MediaCodec.Proofs.Documents
import MediaCodec.Proofs.Lookup
import MediaCodec.Settings.Document

namespace MediaCodec

namespace Settings

/-! ## As a document -/

section

variable (s : Settings)

theorem isLegible_toJson : s.toJson.isLegible = true := by
  rw [toJson]
  cases s.libraryPath <;> cases s.maxInputBytes <;> rfl

/-- Every setting is found in the value that is made of the settings, and read as it was. -/
theorem ofJson?_toJson : ofJson? s.toJson = some s := by
  obtain ⟨dir, path, π, limit⟩ := s
  have hrow : Json.row? fields (toJson ⟨dir, path, π, limit⟩) =
      some ⟨false, [some (.str dir), some ((path.map Json.str).getD .null), some (.str π.name),
        some ((limit.map fun n => Json.nat n.toNat).getD .null)]⟩ := rfl
  have hpath : Json.nullable? Json.text? ((path.map Json.str).getD .null) = some path := by
    cases path <;> rfl
  have hpolicy : Json.choice? PartialResults.all PartialResults.name (.str π.name) = some π := by
    cases π <;> rfl
  have hlimit : Json.nullable? (Json.count? Text.maxWord)
      ((limit.map fun n => Json.nat n.toNat).getD .null) = some (limit.map UInt64.toNat) := by
    cases limit with
    | none => rfl
    | some w =>
        show (if w.toNat ≤ Text.maxWord then some w.toNat else none).map some = _
        rw [if_pos (Text.toNat_le_maxWord w)]
        rfl
  have hword : (limit.map UInt64.toNat).map UInt64.ofNat = limit := by
    cases limit with
    | none => rfl
    | some w => exact congrArg some UInt64.ofNat_toNat
  have htext : Json.text? (.str dir) = some dir := rfl
  rw [ofJson?, hrow]
  simp [Json.Row.withDefault, Json.Row.slot, htext, hpath, hpolicy, hlimit, hword]

/-- The document of settings comes to the check of the settings. -/
theorem ofDocument_toDocument : ofDocument s.toDocument = s.check := by
  rw [ofDocument, toDocument, Json.parse?_render s.isLegible_toJson, Option.bind_some, ofJson?_toJson]

end

/-! ## As variables -/

/-- The variables that say what the settings are; of what is absent there is no variable. -/
def toVariables (s : Settings) (name : String) : Option String :=
  if name = libraryDirVariable then some s.libraryDir
  else if name = libraryPathVariable then s.libraryPath
  else if name = partialResultsVariable then some s.partialResults.name
  else if name = maxInputBytesVariable then s.maxInputBytes.map fun n => toString n.toNat
  else none

section

variable {s : Settings}

theorem isValid_iff_fault? : s.isValid = true ↔ s.fault? = none := Option.isNone_iff_eq_none

/-- In valid settings no path is empty, and no limit is zero. -/
theorem isValid_iff :
    s.isValid = true ↔ s.libraryDir ≠ "" ∧ s.libraryPath ≠ some "" ∧ s.maxInputBytes ≠ some 0 := by
  rw [isValid_iff_fault?, fault?]
  by_cases hdir : s.libraryDir = ""
  · simp [hdir]
  · by_cases hpath : s.libraryPath = some ""
    · simp [hdir, hpath]
    · simp [hdir, hpath]

theorem check_of_isValid (h : s.isValid = true) : s.check = .ok s :=
  check_eq_ok_iff.mpr ⟨isValid_iff_fault?.mp h, rfl⟩

theorem isValid_of_check {t : Settings} (h : s.check = .ok t) : t.isValid = true := by
  obtain ⟨hfault, rfl⟩ := check_eq_ok_iff.mp h
  exact isValid_iff_fault?.mpr hfault

theorem policySays_name (π : PartialResults) : PolicySays (some π.name) π := by
  rw [policySays_iff]
  exact π.parse_name

/-- A limit that is not zero is said by its digits. -/
theorem limitSays_toString {w : UInt64} (h : w ≠ 0) :
    LimitSays (some (toString w.toNat)) (some w) := by
  have hnumeral := Text.numeral_toDigits w.toNat
  have hblank : ∀ c ∈ Nat.toDigits 10 w.toNat, Text.isBlank c = false :=
    fun c hc => Text.isBlank_of_isDigit (hnumeral.digits c hc)
  have hframed : Text.Framed (toString w.toNat).toList (Nat.toDigits 10 w.toNat) := by
    rw [Nat.toString_eq_repr, Nat.toList_repr]
    exact .self hblank
  have hleast : 1 ≤ w.toNat := by
    refine Nat.one_le_iff_ne_zero.mpr fun hw => h ?_
    exact UInt64.toNat_inj.mp hw
  have hsays := LimitSays.word hframed (.bare hnumeral) hleast (Text.toNat_le_maxWord w)
  rwa [UInt64.ofNat_toNat] at hsays

/-- Valid settings follow the variables that are made of them. -/
theorem follows_toVariables (h : s.isValid = true) : s.Follows s.toVariables := by
  obtain ⟨hdir, hpath, hlimit⟩ := isValid_iff.mp h
  obtain ⟨dir, path, π, limit⟩ := s
  refine ⟨⟨some dir, .path hdir, rfl⟩, ?_, policySays_name π, ?_⟩
  · show PathSays path path
    cases path with
    | none => exact .unset
    | some path => exact .path fun hempty => hpath (congrArg some hempty)
  · show LimitSays (limit.map fun n => toString n.toNat) limit
    cases limit with
    | none => exact .unset
    | some w => exact limitSays_toString fun hzero => hlimit (congrArg some hzero)

theorem isValid_of_ofLookup {lookup : String → Option String} (h : ofLookup lookup = .ok s) :
    s.isValid = true := by
  have hreading : Reading lookup (.ok s) := h ▸ reading_ofLookup lookup
  cases hreading with
  | valid hpolicy hlimit =>
      rw [ofLookup_of_read hpolicy hlimit] at h
      exact isValid_of_check h

theorem isValid_of_ofDocument {text : String} (h : ofDocument text = .ok s) : s.isValid = true := by
  rw [ofDocument] at h
  split at h
  · cases h
  · exact isValid_of_check h

end

end Settings

theorem Builder.isValid_of_build {b : Builder} {host : Host} {loader : Loader} {c : Config}
    (h : b.build host loader = .ok c) : c.settings.isValid = true := by
  rw [build] at h
  cases hcheck : b.settings.check with
  | error e =>
      rw [hcheck] at h
      cases h
  | ok s =>
      rw [hcheck] at h
      obtain rfl := Except.ok.inj h
      exact Settings.isValid_of_check hcheck

namespace Settings

/-- What becomes of settings that are handed on, and what settings can come from a reader. -/
structure Carries (s : Settings) : Prop where
  /-- Valid settings are read again from their document. -/
  asDocument : s.isValid = true → ofDocument s.toDocument = .ok s
  /-- They are read again from their variables. -/
  asVariables : s.isValid = true → ofLookup s.toVariables = .ok s
  /-- The document of other settings is refused, by their own fault. -/
  refused : s.isValid = false → ∃ e, s.fault? = some e ∧ ofDocument s.toDocument = .error e ∧
    e.OfConfiguration
  /-- Settings that come from a document are valid. -/
  fromDocument : ∀ text, ofDocument text = .ok s → s.isValid = true
  /-- Settings that come from variables are valid. -/
  fromLookup : ∀ lookup, ofLookup lookup = .ok s → s.isValid = true
  /-- Settings that come with a configuration are valid. -/
  fromBuilder : ∀ (b : Builder) (host : Host) (loader : Loader) (c : Config),
    b.build host loader = .ok c → c.settings = s → s.isValid = true

/-- Valid settings are handed on unchanged, as a document and as variables; nobody is handed
others. -/
theorem carries (s : Settings) : Carries s where
  asDocument h := (ofDocument_toDocument s).trans (check_of_isValid h)
  asVariables h := ofLookup_eq_ok_iff.mpr (follows_toVariables h)
  refused h := by
    obtain ⟨e, he⟩ : ∃ e, s.fault? = some e :=
      Option.ne_none_iff_exists'.mp fun hnone =>
        Bool.false_ne_true (h.symm.trans (isValid_iff_fault?.mpr hnone))
    refine ⟨e, he, ?_, ofConfiguration_of_fault? he⟩
    rw [ofDocument_toDocument, check, he]
  fromDocument _ := isValid_of_ofDocument
  fromLookup _ := isValid_of_ofLookup
  fromBuilder := by
    rintro b host loader c h rfl
    exact b.isValid_of_build h

end Settings

end MediaCodec
