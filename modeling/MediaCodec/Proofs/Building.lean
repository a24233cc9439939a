/-
Building — the last step that sets a field decides it.

The steps of a builder write into one record.  What a step writes is a partial record
(`Setter.gives`): one field, or the four settings at once, and where it is silent the field stays
(`Builder.get_draft_set`).  So after any number of steps a field has what the last of the steps that
are not silent on it gave, or the default if all of them are (`Builder.get_draft_foldl`).

A configuration is its six fields, and the check at the end sees no more than the finished settings.
So two lists of steps build the same if, for every field, they have the same last word on it
(`Builder.build_congr`).  Steps with no field in common can be swapped, and a step whose fields are
all set again later can be left out, whatever it sets.
-/

import MediaCodec.Proofs.Carrying

namespace MediaCodec

/-! ## Fields -/

/-- A field of a configuration. -/
inductive Config.Field
  | libraryDir
  | libraryPath
  | partialResults
  | maxInputBytes
  | host
  | loader
  deriving DecidableEq, Repr

namespace Config

def Field.Value : Field → Type
  | .libraryDir => Path
  | .libraryPath => Option Path
  | .partialResults => PartialResults
  | .maxInputBytes => Option UInt64
  | .host => Host
  | .loader => Loader

/-- The field is one of the settings. -/
def Field.OfSettings (f : Field) : Prop := f ≠ .host ∧ f ≠ .loader

instance (f : Field) : Decidable f.OfSettings := inferInstanceAs (Decidable (_ ∧ _))

def get (c : Config) : (f : Field) → f.Value
  | .libraryDir => c.settings.libraryDir
  | .libraryPath => c.settings.libraryPath
  | .partialResults => c.settings.partialResults
  | .maxInputBytes => c.settings.maxInputBytes
  | .host => c.host
  | .loader => c.loader

theorem settings_eq_of_get_eq {c d : Config} (h : ∀ f : Field, f.OfSettings → c.get f = d.get f) :
    c.settings = d.settings := by
  obtain ⟨⟨_, _, _, _⟩, _, _⟩ := c
  obtain ⟨⟨_, _, _, _⟩, _, _⟩ := d
  cases h .libraryDir (by decide)
  cases h .libraryPath (by decide)
  cases h .partialResults (by decide)
  cases h .maxInputBytes (by decide)
  rfl

theorem eq_of_get_eq {c d : Config} (h : ∀ f, c.get f = d.get f) : c = d := by
  have hsettings := settings_eq_of_get_eq fun f _ => h f
  have hhost : c.host = d.host := h .host
  have hloader : c.loader = d.loader := h .loader
  cases c
  cases d
  cases hsettings
  cases hhost
  cases hloader
  rfl

end Config

/-! ## Steps -/

namespace Setter

/-- What a step gives for a field.  The settings give all four of theirs, also those that are
absent, and neither a host nor a loader. -/
def gives : (f : Config.Field) → Setter → Option f.Value
  | .libraryDir, .settings s => some s.libraryDir
  | .libraryDir, .libraryDir dir => some dir
  | .libraryPath, .settings s => some s.libraryPath
  | .libraryPath, .libraryPath path => some (some path)
  | .partialResults, .settings s => some s.partialResults
  | .partialResults, .partialResults policy => some policy
  | .maxInputBytes, .settings s => some s.maxInputBytes
  | .maxInputBytes, .maxInputBytes limit => some (some limit)
  | .host, .host h => some h
  | .loader, .loader l => some l
  | _, _ => none

/-- No field is given by both steps. -/
def Disjoint (j k : Setter) : Prop := ∀ f, j.gives f = none ∨ k.gives f = none

/-- The last word of a list of steps on a field. -/
def lastGiven (f : Config.Field) (steps : List Setter) : Option f.Value :=
  steps.reverse.findSome? (gives f)

section LastGiven

variable {f : Config.Field} {before after steps : List Setter} {j k : Setter}

theorem lastGiven_append :
    lastGiven f (before ++ after) = (lastGiven f after).or (lastGiven f before) := by
  rw [lastGiven, List.reverse_append, List.findSome?_append]
  rfl

theorem lastGiven_cons : lastGiven f (k :: after) = (lastGiven f after).or (k.gives f) := by
  rw [lastGiven, List.reverse_cons, List.findSome?_append, List.findSome?_singleton]
  rfl

theorem lastGiven_eq_none_iff : lastGiven f steps = none ↔ ∀ k ∈ steps, k.gives f = none := by
  simp [lastGiven]

theorem lastGiven_of_last {v : f.Value} (hgiven : k.gives f = some v)
    (hafter : ∀ j ∈ after, j.gives f = none) :
    lastGiven f (before ++ k :: after) = some v := by
  rw [lastGiven_append, lastGiven_cons, lastGiven_eq_none_iff.mpr hafter, hgiven]
  rfl

/-- A step that is silent on a field is not missed there. -/
theorem lastGiven_of_silent (hk : k.gives f = none) :
    lastGiven f (before ++ k :: after) = lastGiven f (before ++ after) := by
  rw [lastGiven_append, lastGiven_cons, hk, Option.or_none, ← lastGiven_append]

/-- Nor is one that a later step overrules. -/
theorem lastGiven_of_overruled (hj : j ∈ after) (hgiven : j.gives f ≠ none) :
    lastGiven f (before ++ k :: after) = lastGiven f (before ++ after) := by
  have hafter : lastGiven f after ≠ none := fun hnone =>
    hgiven (lastGiven_eq_none_iff.mp hnone j hj)
  obtain ⟨v, hv⟩ := Option.ne_none_iff_exists'.mp hafter
  rw [lastGiven_append, lastGiven_cons, lastGiven_append, hv]
  rfl

theorem lastGiven_swap (h : j.Disjoint k) :
    lastGiven f (before ++ j :: k :: after) = lastGiven f (before ++ k :: j :: after) := by
  simp only [lastGiven_append, lastGiven_cons, Option.or_assoc]
  rcases h f with hsilent | hsilent <;> rw [hsilent, Option.none_or, Option.none_or]

end LastGiven

end Setter

/-! ## Builders -/

namespace Builder

/-- The configuration that a builder comes to if its settings are valid. -/
def draft (b : Builder) (host : Host) (loader : Loader) : Config :=
  ⟨b.settings, b.host.getD host, b.loader.getD loader⟩

section Runs

variable {b : Builder} {host : Host} {loader : Loader} {f : Config.Field}

/-- A step writes the fields that it gives, and no others. -/
theorem get_draft_set (k : Setter) :
    ((b.set k).draft host loader).get f = (k.gives f).getD ((b.draft host loader).get f) := by
  cases k <;> cases f <;> rfl

theorem get_draft_foldl (steps : List Setter) :
    ((steps.foldl set b).draft host loader).get f =
      (Setter.lastGiven f steps).getD ((b.draft host loader).get f) := by
  induction steps generalizing b with
  | nil => rfl
  | cons k steps ih =>
      rw [List.foldl_cons, ih, get_draft_set, Setter.lastGiven_cons]
      cases Setter.lastGiven f steps <;> rfl

theorem get_draft_ofSetters (steps : List Setter) :
    ((ofSetters steps).draft host loader).get f =
      (Setter.lastGiven f steps).getD ((draft {} host loader).get f) :=
  get_draft_foldl steps

theorem draft_congr {steps steps' : List Setter}
    (h : ∀ f, Setter.lastGiven f steps = Setter.lastGiven f steps') :
    (ofSetters steps).draft host loader = (ofSetters steps').draft host loader := by
  refine Config.eq_of_get_eq fun f => ?_
  rw [get_draft_ofSetters, get_draft_ofSetters, h]

/-! ## The check at the end -/

theorem build_eq : b.build host loader =
    match b.settings.fault? with
    | none => .ok (b.draft host loader)
    | some e => .error e := by
  rw [build, Settings.check]
  cases b.settings.fault? <;> rfl

theorem build_eq_of_draft_eq {b' : Builder} (h : b.draft host loader = b'.draft host loader) :
    b.build host loader = b'.build host loader := by
  have hsettings : b.settings = b'.settings := congrArg Config.settings h
  rw [build_eq, build_eq, h, hsettings]

theorem build_congr {steps steps' : List Setter}
    (h : ∀ f, Setter.lastGiven f steps = Setter.lastGiven f steps') :
    (ofSetters steps).build host loader = (ofSetters steps').build host loader :=
  build_eq_of_draft_eq (draft_congr h)

theorem build_eq_ok_iff {c : Config} : b.build host loader = .ok c ↔
    (b.draft host loader).settings.isValid = true ∧ b.draft host loader = c := by
  rw [Settings.isValid_iff_fault?, build_eq]
  show _ ↔ b.settings.fault? = none ∧ _
  cases b.settings.fault? <;> simp

theorem build_eq_error_iff {e : SetupError} :
    b.build host loader = .error e ↔ (b.draft host loader).settings.fault? = some e := by
  rw [build_eq]
  show _ ↔ b.settings.fault? = some e
  cases b.settings.fault? <;> simp

end Runs

/-- How the steps of a builder make a configuration, with what stands in for a host and a loader. -/
structure LastWins (host : Host) (loader : Loader) (steps : List Setter) : Prop where
  last : ∀ before k after f v, steps = before ++ k :: after → k.gives f = some v →
    (∀ j ∈ after, j.gives f = none) → ((ofSetters steps).draft host loader).get f = v
  default : ∀ f, (∀ k ∈ steps, k.gives f = none) →
    ((ofSetters steps).draft host loader).get f = (Config.mk {} host loader).get f
  /-- Settings replace all that was set before, also with what is absent. -/
  replaced : ∀ before s after, steps = before ++ .settings s :: after →
    (∀ k ∈ after, ∀ f : Config.Field, f.OfSettings → k.gives f = none) →
      ((ofSetters steps).draft host loader).settings = s
  /-- They leave the host and the loader alone. -/
  apart : ∀ before s after, steps = before ++ .settings s :: after →
    ((ofSetters steps).draft host loader).host =
        ((ofSetters (before ++ after)).draft host loader).host ∧
      ((ofSetters steps).draft host loader).loader =
        ((ofSetters (before ++ after)).draft host loader).loader
  swapped : ∀ before j k after, steps = before ++ j :: k :: after → j.Disjoint k →
    (ofSetters steps).build host loader =
      (ofSetters (before ++ k :: j :: after)).build host loader
  built : ∀ c, (ofSetters steps).build host loader = .ok c ↔
    ((ofSetters steps).draft host loader).settings.isValid = true ∧
      (ofSetters steps).draft host loader = c
  refused : ∀ e, (ofSetters steps).build host loader = .error e ↔
    ((ofSetters steps).draft host loader).settings.fault? = some e
  /-- What is overruled later may be anything. -/
  overruled : ∀ before k after, steps = before ++ k :: after →
    (∀ f, k.gives f ≠ none → ∃ j ∈ after, j.gives f ≠ none) →
      (ofSetters steps).build host loader = (ofSetters (before ++ after)).build host loader

section LastWins

variable {host : Host} {loader : Loader} {before after : List Setter} {f : Config.Field}

theorem get_draft_of_last {k : Setter} {v : f.Value} (hgiven : k.gives f = some v)
    (hafter : ∀ j ∈ after, j.gives f = none) :
    ((ofSetters (before ++ k :: after)).draft host loader).get f = v := by
  rw [get_draft_ofSetters, Setter.lastGiven_of_last hgiven hafter, Option.getD_some]

theorem get_draft_of_silent {k : Setter} (hk : k.gives f = none) :
    ((ofSetters (before ++ k :: after)).draft host loader).get f =
      ((ofSetters (before ++ after)).draft host loader).get f := by
  rw [get_draft_ofSetters, get_draft_ofSetters, Setter.lastGiven_of_silent hk]

theorem settings_draft_of_replaced {s : Settings}
    (hafter : ∀ k ∈ after, ∀ f : Config.Field, f.OfSettings → k.gives f = none) :
    ((ofSetters (before ++ .settings s :: after)).draft host loader).settings = s := by
  have hget : ∀ f : Config.Field, f.OfSettings →
      ((ofSetters (before ++ .settings s :: after)).draft host loader).get f =
        (Config.mk s host loader).get f := by
    intro f hf
    refine get_draft_of_last ?_ fun j hj => hafter j hj f hf
    cases f with
    | host => exact absurd rfl hf.1
    | loader => exact absurd rfl hf.2
    | _ => rfl
  exact Config.settings_eq_of_get_eq hget

theorem build_of_overruled {k : Setter}
    (h : ∀ f, k.gives f ≠ none → ∃ j ∈ after, j.gives f ≠ none) :
    (ofSetters (before ++ k :: after)).build host loader =
      (ofSetters (before ++ after)).build host loader := by
  refine build_congr fun f => ?_
  by_cases hk : k.gives f = none
  · exact Setter.lastGiven_of_silent hk
  · obtain ⟨j, hj, hgiven⟩ := h f hk
    exact Setter.lastGiven_of_overruled hj hgiven

theorem lastWins_ofSetters (host : Host) (loader : Loader) (steps : List Setter) :
    LastWins host loader steps where
  last := by
    rintro before k after f v rfl hgiven hafter
    exact get_draft_of_last hgiven hafter
  default f hsilent := by
    rw [get_draft_ofSetters, Setter.lastGiven_eq_none_iff.mpr hsilent]
    rfl
  replaced := by
    rintro before s after rfl hafter
    exact settings_draft_of_replaced hafter
  apart := by
    rintro before s after rfl
    have hhost : (Setter.settings s).gives .host = none := rfl
    have hloader : (Setter.settings s).gives .loader = none := rfl
    exact ⟨get_draft_of_silent hhost, get_draft_of_silent hloader⟩
  swapped := by
    rintro before j k after rfl hdisjoint
    exact build_congr fun f => Setter.lastGiven_swap hdisjoint
  built _ := build_eq_ok_iff
  refused _ := build_eq_error_iff
  overruled := by
    rintro before k after rfl h
    exact build_of_overruled h

/-- Nothing is said of an empty directory and a limit of zero that are replaced before the end. -/
example (host : Host) (loader : Loader) :
    (ofSetters [.libraryDir "", .maxInputBytes 0, .settings { libraryDir := "/srv" }]).build host
      loader = .ok ⟨{ libraryDir := "/srv" }, host, loader⟩ := rfl

end LastWins

end Builder

end MediaCodec
