/-
Variables — what becomes of a variable that is set.

The settings come from four variables, and a variable is set to bytes.  Where these are a text, the
settings heed it: a path is taken as it is, a policy and a limit as they parse, and a text that does
not parse is a failure (`Settings.heeds_legible`).

Bytes that are no text are another matter.  Nobody is told of them; the settings are those of an
environment in which the variable is not set.  So settings that were read heed the environment
exactly where all four variables are texts, and this is the one way in which something that is set
can be lost (`Settings.reads_ofEnvironment`).
-/

import MediaCodec.Proofs.Policy

namespace MediaCodec

/-! ## Variables that are texts -/

theorem Text.toUtf8_of_ofUtf8? {b : Bytes} {text : String} (h : ofUtf8? b = some text) :
    toUtf8 text = b := by
  rw [ofUtf8?, String.fromUTF8?] at h
  split at h
  · cases h
    simp [toUtf8, String.fromUTF8]
  · cases h

namespace Environment

/-- A variable is a text, if it is set. -/
def Legible (env : Environment) (name : String) : Prop :=
  ∀ b, env name = some b → ∃ text, Text.ofUtf8? b = some text

/-- The variables without those that are no texts. -/
def legible (env : Environment) : Environment := fun name =>
  (env name).filter fun b => (Text.ofUtf8? b).isSome

section

variable {env : Environment} {name : String} {b : Bytes}

theorem legible_eq_some_iff :
    env.legible name = some b ↔ env name = some b ∧ ∃ text, Text.ofUtf8? b = some text := by
  rw [legible, Option.filter_eq_some_iff, Option.isSome_iff_exists]

theorem legible_of_legible (h : env.Legible name) : env.legible name = env name := by
  cases hb : env name with
  | none => rw [legible, hb, Option.filter_none]
  | some b => exact legible_eq_some_iff.mpr ⟨hb, h b hb⟩

/-- Reading a variable as a text is all that its reader does with it. -/
theorem text?_legible (env : Environment) (name : String) :
    env.legible.text? name = env.text? name := by
  rw [text?, text?, legible]
  cases env name with
  | none => rfl
  | some b =>
      cases htext : Text.ofUtf8? b with
      | none => rw [Option.filter_some_neg (by simp [htext]), Option.bind_none, Option.bind_some, htext]
      | some text => rw [Option.filter_some_pos (by simp [htext])]

theorem text?_of_eq_some (h : env name = some b) : env.text? name = Text.ofUtf8? b := by
  rw [text?, h, Option.bind_some]

theorem text?_eq_some_iff {text : String} :
    env.text? name = some text ↔ ∃ b, env.legible name = some b ∧ Text.ofUtf8? b = some text := by
  constructor
  · intro h
    obtain ⟨b, hb, htext⟩ := Option.bind_eq_some_iff.mp h
    exact ⟨b, legible_eq_some_iff.mpr ⟨hb, text, htext⟩, htext⟩
  · rintro ⟨b, hb, htext⟩
    rw [text?_of_eq_some (legible_eq_some_iff.mp hb).1, htext]

end

end Environment

/-! ## Settings that heed an environment -/

/-- A fault of the configuration, and not a want of some capability. -/
def SetupError.OfConfiguration (e : SetupError) : Prop :=
  ∀ capability detail, e ≠ .capabilityMissing capability detail

namespace Settings

/-- The variables that settings are read from. -/
def variableNames : List String :=
  [libraryDirVariable, libraryPathVariable, partialResultsVariable, maxInputBytesVariable]

/-- Every variable that is set decides about its setting.  A path is its bytes, though an empty one
does not count; a policy and a limit are what the text says. -/
structure Heeds (s : Settings) (env : Environment) : Prop where
  libraryDir : ∀ b, env libraryDirVariable = some b → b ≠ [] → Text.toUtf8 s.libraryDir = b
  libraryPath : ∀ b, env libraryPathVariable = some b → b ≠ [] →
    s.libraryPath.map Text.toUtf8 = some b
  partialResults : ∀ b, env partialResultsVariable = some b →
    ∃ text, Text.ofUtf8? b = some text ∧ PartialResults.parse text = .ok s.partialResults
  maxInputBytes : ∀ b, env maxInputBytesVariable = some b →
    ∃ text n, Text.ofUtf8? b = some text ∧ parseLimit text = .ok n ∧ s.maxInputBytes = some n

section

variable {env : Environment} {s : Settings}

/-- What settings heed is a text. -/
theorem Heeds.legible (h : s.Heeds env) : ∀ name ∈ variableNames, env.Legible name := by
  have hpath : ∀ path b, (b ≠ [] → Text.toUtf8 path = b) → ∃ text, Text.ofUtf8? b = some text := by
    intro path b hb
    by_cases hempty : b = []
    · exact ⟨"", by rw [hempty]; rfl⟩
    · exact ⟨path, by rw [← hb hempty, Text.ofUtf8?_toUtf8]⟩
  intro name hname b hb
  simp only [variableNames, List.mem_cons, List.not_mem_nil, or_false] at hname
  rcases hname with rfl | rfl | rfl | rfl
  · exact hpath s.libraryDir b (h.libraryDir b hb)
  · refine hpath (s.libraryPath.getD "") b fun hempty => ?_
    obtain ⟨path, hpath, rfl⟩ := Option.map_eq_some_iff.mp (h.libraryPath b hb hempty)
    rw [hpath, Option.getD_some]
  · obtain ⟨text, htext, -⟩ := h.partialResults b hb
    exact ⟨text, htext⟩
  · obtain ⟨text, n, htext, -⟩ := h.maxInputBytes b hb
    exact ⟨text, htext⟩

/-- Only the four variables matter. -/
theorem Heeds.congr {env' : Environment} (h : s.Heeds env)
    (hsame : ∀ name ∈ variableNames, env' name = env name) : s.Heeds env' where
  libraryDir := by
    rw [hsame _ (by decide)]
    exact h.libraryDir
  libraryPath := by
    rw [hsame _ (by decide)]
    exact h.libraryPath
  partialResults := by
    rw [hsame _ (by decide)]
    exact h.partialResults
  maxInputBytes := by
    rw [hsame _ (by decide)]
    exact h.maxInputBytes

/-- A policy that is a text is the one that it says. -/
theorem Heeds.parse_text {text : String} (h : s.Heeds env.legible)
    (hset : env.text? partialResultsVariable = some text) :
    PartialResults.parse text = .ok s.partialResults := by
  obtain ⟨b, hb, htext⟩ := Environment.text?_eq_some_iff.mp hset
  obtain ⟨text', htext', hparse⟩ := h.partialResults b hb
  obtain rfl := Option.some.inj (htext.symm.trans htext')
  exact hparse

/-- A limit that is a text is the number that it says. -/
theorem Heeds.parseLimit_text {text : String} (h : s.Heeds env.legible)
    (hset : env.text? maxInputBytesVariable = some text) :
    ∃ n, parseLimit text = .ok n ∧ s.maxInputBytes = some n := by
  obtain ⟨b, hb, htext⟩ := Environment.text?_eq_some_iff.mp hset
  obtain ⟨text', n, htext', hparse, hlimit⟩ := h.maxInputBytes b hb
  obtain rfl := Option.some.inj (htext.symm.trans htext')
  exact ⟨n, hparse, hlimit⟩

/-! ## Reading the environment -/

theorem ofEnvironment_legible (env : Environment) :
    ofEnvironment env.legible = ofEnvironment env :=
  congrArg ofLookup (funext env.text?_legible)

/-- How reading variables can go. -/
inductive Reading (lookup : String → Option String) : Except SetupError Settings → Prop
  | badPolicy {text : String} {e : SetupError} (set : lookup partialResultsVariable = some text)
      (refused : PartialResults.parse text = .error e) : Reading lookup (.error e)
  | badLimit {text : String} {e : SetupError} (set : lookup maxInputBytesVariable = some text)
      (refused : parseLimit text = .error e) : Reading lookup (.error e)
  | faulty {π : PartialResults} {limit : Option UInt64} {e : SetupError}
      (fault : (gathered lookup π limit).fault? = some e) : Reading lookup (.error e)
  | valid {π : PartialResults} {limit : Option UInt64}
      (policy : policyOf (lookup partialResultsVariable) = .ok π)
      (limited : limitOf (lookup maxInputBytesVariable) = .ok limit) :
      Reading lookup (.ok (gathered lookup π limit))

theorem exists_of_policyOf {value : Option String} {e : SetupError} (h : policyOf value = .error e) :
    ∃ text, value = some text ∧ PartialResults.parse text = .error e := by
  cases value with
  | none => cases h
  | some text => exact ⟨text, rfl, h⟩

theorem exists_of_limitOf {value : Option String} {e : SetupError} (h : limitOf value = .error e) :
    ∃ text, value = some text ∧ parseLimit text = .error e := by
  cases value with
  | none => cases h
  | some text =>
      refine ⟨text, rfl, ?_⟩
      rw [limitOf] at h
      cases hparse : parseLimit text with
      | ok n =>
          rw [hparse] at h
          cases h
      | error f =>
          rw [hparse] at h
          exact congrArg Except.error (Except.error.inj h)

theorem limitOf_some_eq_ok {text : String} {limit : Option UInt64}
    (h : limitOf (some text) = .ok limit) : ∃ n, parseLimit text = .ok n ∧ limit = some n := by
  rw [limitOf] at h
  cases hparse : parseLimit text with
  | error e =>
      rw [hparse] at h
      cases h
  | ok n =>
      rw [hparse] at h
      exact ⟨n, rfl, (Except.ok.inj h).symm⟩

theorem reading_ofLookup (lookup : String → Option String) : Reading lookup (ofLookup lookup) := by
  rw [ofLookup_eq]
  cases hpolicy : policyOf (lookup partialResultsVariable) with
  | error e =>
      obtain ⟨text, hset, hparse⟩ := exists_of_policyOf hpolicy
      exact .badPolicy hset hparse
  | ok π =>
      cases hlimit : limitOf (lookup maxInputBytesVariable) with
      | error e =>
          obtain ⟨text, hset, hparse⟩ := exists_of_limitOf hlimit
          exact .badLimit hset hparse
      | ok limit =>
          show Reading lookup (gathered lookup π limit).check
          rw [check]
          split
          · exact .valid hpolicy hlimit
          · next e hfault => exact .faulty hfault

/-- A path that counts is the text of its variable. -/
theorem nonEmpty_text? {name : String} {b : Bytes} (h : env.legible name = some b) (hb : b ≠ []) :
    ∃ path, nonEmpty (env.text? name) = some path ∧ Text.toUtf8 path = b := by
  obtain ⟨hset, path, hpath⟩ := Environment.legible_eq_some_iff.mp h
  have hbytes := Text.toUtf8_of_ofUtf8? hpath
  refine ⟨path, ?_, hbytes⟩
  rw [Environment.text?_of_eq_some hset, hpath, nonEmpty]
  refine Option.filter_some_pos ?_
  cases hempty : path.isEmpty with
  | false => rfl
  | true =>
      rw [String.isEmpty_iff.mp hempty] at hbytes
      exact absurd hbytes.symm hb

/-- Settings that were read heed every variable that is a text. -/
theorem heeds_legible (h : ofEnvironment env = .ok s) : s.Heeds env.legible := by
  have hreading : Reading env.text? (.ok s) := h ▸ reading_ofLookup env.text?
  cases hreading with
  | valid hpolicy hlimit =>
      refine ⟨?_, ?_, ?_, ?_⟩
      · intro b hset hb
        obtain ⟨path, hpath, hbytes⟩ := nonEmpty_text? hset hb
        rw [gathered, hpath, Option.getD_some, hbytes]
      · intro b hset hb
        obtain ⟨path, hpath, hbytes⟩ := nonEmpty_text? hset hb
        rw [gathered, hpath, Option.map_some, hbytes]
      · intro b hset
        obtain ⟨hset, text, htext⟩ := Environment.legible_eq_some_iff.mp hset
        rw [Environment.text?_of_eq_some hset, htext] at hpolicy
        exact ⟨text, htext, hpolicy⟩
      · intro b hset
        obtain ⟨hset, text, htext⟩ := Environment.legible_eq_some_iff.mp hset
        rw [Environment.text?_of_eq_some hset, htext] at hlimit
        obtain ⟨n, hparse, hn⟩ := limitOf_some_eq_ok hlimit
        exact ⟨text, n, htext, hparse, hn⟩

/-! ### Failures -/

theorem ofConfiguration_of_parse {text : String} {e : SetupError}
    (h : PartialResults.parse text = .error e) : e.OfConfiguration := by
  rintro capability detail rfl
  rw [PartialResults.parse] at h
  split at h
  · cases h
  · cases h

theorem ofConfiguration_of_parseLimit {text : String} {e : SetupError}
    (h : parseLimit text = .error e) : e.OfConfiguration := by
  rintro capability detail rfl
  rw [parseLimit] at h
  split at h
  · cases h
  · cases h

theorem ofConfiguration_of_fault? {e : SetupError} (h : s.fault? = some e) : e.OfConfiguration := by
  rintro capability detail rfl
  rw [fault?] at h
  split at h
  · cases h
  · split at h
    · cases h
    · split at h
      · cases h
      · cases h

theorem ofConfiguration_of_ofLookup {lookup : String → Option String} {e : SetupError}
    (h : ofLookup lookup = .error e) : e.OfConfiguration := by
  have hreading : Reading lookup (.error e) := h ▸ reading_ofLookup lookup
  cases hreading with
  | badPolicy _ refused => exact ofConfiguration_of_parse refused
  | badLimit _ refused => exact ofConfiguration_of_parseLimit refused
  | faulty fault => exact ofConfiguration_of_fault? fault

end

/-- What reading the environment comes to. -/
structure Reads (env : Environment) (r : Except SetupError Settings) : Prop where
  /-- Every failure is one of the configuration. -/
  failure : ∀ e, r = .error e → e.OfConfiguration
  /-- Variables that are texts are heeded. -/
  heeds : ∀ s, r = .ok s → s.Heeds env.legible
  /-- All variables are heeded just if all of them are texts. -/
  heeds_iff : ∀ s, r = .ok s → (s.Heeds env ↔ ∀ name ∈ variableNames, env.Legible name)
  /-- A policy or a limit that is a text, but not the text of one, is a failure. -/
  malformed : ∀ text, (env.text? partialResultsVariable = some text ∧
      (∀ π, PartialResults.parse text ≠ .ok π)) ∨
      (env.text? maxInputBytesVariable = some text ∧ (∀ n, parseLimit text ≠ .ok n)) →
    ∃ e, r = .error e
  /-- Variables that are no texts might as well not be set. -/
  unheeded : r = ofEnvironment env.legible

/-- Reading the environment fails, or every variable that is a text decides about its setting; one
that is none is passed over in silence. -/
theorem reads_ofEnvironment (env : Environment) : Reads env (ofEnvironment env) where
  failure _ h := ofConfiguration_of_ofLookup h
  heeds _ h := heeds_legible h
  heeds_iff s h := by
    constructor
    · exact Heeds.legible
    · intro hlegible
      exact (heeds_legible h).congr fun name hname =>
        (Environment.legible_of_legible (hlegible name hname)).symm
  malformed text h := by
    cases hread : ofEnvironment env with
    | error e => exact ⟨e, rfl⟩
    | ok s =>
        have hheeds := heeds_legible hread
        rcases h with ⟨hset, hno⟩ | ⟨hset, hno⟩
        · exact absurd (hheeds.parse_text hset) (hno _)
        · obtain ⟨n, hparse, -⟩ := hheeds.parseLimit_text hset
          exact absurd hparse (hno n)
  unheeded := (ofEnvironment_legible env).symm

/-- An input limit whose bytes are no text is lost: there is no failure, and no limit either. -/
theorem unheeded_limit :
    let env := Environment.empty.set maxInputBytesVariable (some [255])
    ofEnvironment env = .ok {} ∧ ¬ ({} : Settings).Heeds env := by
  intro env
  refine ⟨rfl, fun h => ?_⟩
  obtain ⟨text, n, htext, -⟩ := h.maxInputBytes [255] rfl
  have hnone : Text.ofUtf8? [255] = none := rfl
  rw [hnone] at htext
  cases htext

end Settings

end MediaCodec
