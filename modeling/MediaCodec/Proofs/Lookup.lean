/-
Lookup — which variables make settings.

A variable holds a text that somebody typed.  What a policy and a limit may look like is said here
by itself, and not by way of their readers: a word is what is left of a text without the blanks
around it (`Text.Framed`), a policy is a word that is its name in letters of either case, and a limit
is a word that is a count, from one to the largest word of 64 bits.

Two things that the readers do are no part of this.  They cut blanks off one end after the other; that
leaves the one word there is (`Text.trim_eq_iff`).  And zero passes for a limit until all variables
are read, and only the check of the finished settings refuses it; a limit says what is left of both
steps (`Settings.limitSays_iff`).  Paths cannot fail, since an empty one does not count, so that the
variables make settings exactly where policy and limit say something, and the settings are then the
ones that follow the variables (`Settings.accepts_ofLookup`).
-/

import MediaCodec.Proofs.Numerals
import MediaCodec.Proofs.Variables
import Mathlib.Data.List.TakeWhile

namespace MediaCodec

/-! ## Words -/

namespace Text

/-- A text is blanks, a word that neither begins nor ends with one, and blanks. -/
inductive Framed (cs word : List Char) : Prop
  | intro {before after : List Char} (whole : cs = before ++ word ++ after)
      (blankBefore : ∀ c ∈ before, isBlank c = true) (blankAfter : ∀ c ∈ after, isBlank c = true)
      (first : ∀ c ∈ word.head?, isBlank c = false) (last : ∀ c ∈ word.getLast?, isBlank c = false)

section

variable {cs word : List Char} {p : Char → Bool}

theorem dropWhile_of_head? (h : ∀ c ∈ cs.head?, p c = false) : cs.dropWhile p = cs := by
  cases cs with
  | nil => rfl
  | cons c rest => exact List.dropWhile_cons_of_neg (Bool.eq_false_iff.mp (h c rfl))

theorem head?_dropWhile_eq_false (cs : List Char) : ∀ c ∈ (cs.dropWhile p).head?, p c = false := by
  intro c hc
  have hnot := List.head?_dropWhile_not p cs
  rw [Option.mem_def.mp hc] at hnot
  exact hnot

theorem trim_of_framed (h : Framed cs word) : trim cs = word := by
  obtain ⟨rfl, blankBefore, blankAfter, first, last⟩ := h
  rename_i before after
  have hstart : trimStart (before ++ word ++ after) = if word = [] then [] else word ++ after := by
    rw [trimStart, List.append_assoc, List.dropWhile_append_of_pos blankBefore]
    cases word with
    | nil => exact List.dropWhile_eq_nil_iff.mpr blankAfter
    | cons c rest => exact dropWhile_of_head? first
  rw [trim, hstart, trimEnd]
  by_cases hword : word = []
  · rw [if_pos hword, hword]
    rfl
  · rw [if_neg hword, List.reverse_append,
      List.dropWhile_append_of_pos fun c hc => blankAfter c (List.mem_reverse.mp hc),
      dropWhile_of_head? (by rw [List.head?_reverse]; exact last), List.reverse_reverse]

/-- What is cut at the front only ends in the blanks that are cut at the end. -/
theorem trimStart_eq_append (cs : List Char) :
    trimStart cs = trim cs ++ ((trimStart cs).reverse.takeWhile isBlank).reverse := by
  rw [trim, trimEnd, ← List.reverse_append, List.takeWhile_append_dropWhile, List.reverse_reverse]

/-- Cutting blanks off takes away blanks only, and leaves none at either end. -/
theorem framed_trim (cs : List Char) : Framed cs (trim cs) := by
  have hwhole : cs = cs.takeWhile isBlank ++ trim cs ++
      ((trimStart cs).reverse.takeWhile isBlank).reverse := by
    rw [List.append_assoc, ← trimStart_eq_append]
    exact List.takeWhile_append_dropWhile.symm
  refine .intro hwhole (fun c hc => List.mem_takeWhile_imp hc)
    (fun c hc => List.mem_takeWhile_imp (List.mem_reverse.mp hc)) ?_ ?_
  · intro c hc
    -- A word that is not empty begins as the text does without the blanks before it.
    refine head?_dropWhile_eq_false cs c ?_
    show c ∈ (trimStart cs).head?
    rw [trimStart_eq_append, List.head?_append, Option.mem_def.mp hc]
    rfl
  · rw [trim, trimEnd, List.getLast?_reverse]
    exact head?_dropWhile_eq_false _

/-- A text holds one word. -/
theorem trim_eq_iff : trim cs = word ↔ Framed cs word := by
  constructor
  · rintro rfl
    exact framed_trim cs
  · exact trim_of_framed

/-- What has no blank in it is a word by itself. -/
theorem Framed.self (h : ∀ c ∈ word, isBlank c = false) : Framed word word := by
  have hwhole : word = [] ++ word ++ [] := (List.append_nil word).symm
  exact .intro hwhole nofun nofun (fun c hc => h c (List.mem_of_mem_head? hc))
    fun c hc => h c (List.mem_of_mem_getLast? hc)

theorem isBlank_of_isDigit {c : Char} (h : c.isDigit = true) : isBlank c = false := by
  have hrange : 48 ≤ c.toNat ∧ c.toNat ≤ 57 := by
    simpa [Char.isDigit, UInt32.le_iff_toNat_le] using h
  simp only [isBlank, inRanges, blankRanges, List.any_cons, List.any_nil, Bool.or_false,
    Bool.or_eq_false_iff, Bool.and_eq_false_imp, decide_eq_true_eq, decide_eq_false_iff_not, not_le]
  omega

end

end Text

/-! ## Policies and limits -/

namespace PartialResults

theorem mem_all (π : PartialResults) : π ∈ all := by
  cases π <;> decide

theorem name_injective : Function.Injective name := by
  intro π ρ h
  have hparse : parse π.name = .ok ρ := by rw [h, parse_name]
  exact Except.ok.inj (π.parse_name.symm.trans hparse)

theorem parse_eq_ok_iff {text : String} {π : PartialResults} :
    parse text = .ok π ↔ Text.lower (Text.trim text.toList) = π.name.toList := by
  rw [parse]
  generalize Text.lower (Text.trim text.toList) = word
  have hname (ρ : PartialResults) :
      (ρ.name == String.ofList word) = true ↔ word = ρ.name.toList := by
    rw [beq_iff_eq, ← String.toList_inj, String.toList_ofList]
    exact eq_comm
  cases hfind : all.find? fun ρ => ρ.name == String.ofList word with
  | none =>
      constructor
      · rintro ⟨⟩
      · intro hword
        exact absurd ((hname π).mpr hword) (List.find?_eq_none.mp hfind π (mem_all π))
  | some ρ =>
      have hfound : (ρ.name == String.ofList word) = true := by simpa using List.find?_some hfind
      have hρ := (hname ρ).mp hfound
      constructor
      · rintro ⟨⟩
        exact hρ
      · intro hπ
        rw [name_injective (String.toList_inj.mp (hρ.symm.trans hπ))]

theorem parse_eq_error_iff {text : String} {e : SetupError} :
    parse text = .error e ↔ (∀ π, parse text ≠ .ok π) ∧
      e = .unknownPolicy (String.ofList (Text.lower (Text.trim text.toList))) := by
  rw [parse]
  split
  · next π hfind =>
    constructor
    · rintro ⟨⟩
    · rintro ⟨hno, -⟩
      exact absurd rfl (hno π)
  · constructor
    · rintro ⟨⟩
      refine ⟨?_, rfl⟩
      rintro π ⟨⟩
    · rintro ⟨-, rfl⟩
      rfl

end PartialResults

namespace Settings

/-- What the variable of a path says: nothing, also if it is empty, or the path. -/
inductive PathSays : Option String → Option Path → Prop
  | unset : PathSays none none
  | empty : PathSays (some "") none
  | path {path : Path} (nonempty : path ≠ "") : PathSays (some path) (some path)

/-- What the variable of the policy says: without it partial results are dropped; else its word is
the name of a policy, in letters of either case. -/
inductive PolicySays : Option String → PartialResults → Prop
  | unset : PolicySays none .discard
  | word {text : String} {word : List Char} {π : PartialResults}
      (framed : Text.Framed text.toList word) (name : Text.lower word = π.name.toList) :
      PolicySays (some text) π

/-- What the variable of the limit says: nothing, or the number that its word counts. -/
inductive LimitSays : Option String → Option UInt64 → Prop
  | unset : LimitSays none none
  | word {text : String} {word : List Char} {n : Nat} (framed : Text.Framed text.toList word)
      (count : Text.Count word n) (least : 1 ≤ n) (most : n ≤ Text.maxWord) :
      LimitSays (some text) (some (UInt64.ofNat n))

section

variable {value : Option String} {path : Option Path} {π : PartialResults} {limit : Option UInt64}

theorem pathSays_iff : PathSays value path ↔ nonEmpty value = path := by
  constructor
  · rintro (_ | _ | hpath)
    · rfl
    · rfl
    · exact Option.filter_some_pos (by simpa using hpath)
  · rintro rfl
    cases value with
    | none => exact .unset
    | some path =>
        by_cases hpath : path = ""
        · rw [hpath]
          exact .empty
        · rw [nonEmpty, Option.filter_some_pos (by simpa using hpath)]
          exact .path hpath

theorem policySays_iff : PolicySays value π ↔ policyOf value = .ok π := by
  cases value with
  | none =>
      constructor
      · rintro ⟨⟩
        rfl
      · rintro ⟨⟩
        exact .unset
  | some text =>
      rw [policyOf, PartialResults.parse_eq_ok_iff]
      constructor
      · rintro (_ | ⟨framed, name⟩)
        rw [Text.trim_eq_iff.mpr framed, name]
      · exact .word (Text.framed_trim _)

theorem parseLimit_eq_ok_iff {text : String} {w : UInt64} :
    parseLimit text = .ok w ↔ Text.readWord (Text.trim text.toList) = .ok w := by
  rw [parseLimit]
  cases Text.readWord (Text.trim text.toList) with
  | ok n => simp
  | error f => exact iff_of_false (by rintro ⟨⟩) (by rintro ⟨⟩)

/-- A limit that is read says something unless it is zero. -/
theorem limitSays_iff : LimitSays value limit ↔ limitOf value = .ok limit ∧ limit ≠ some 0 := by
  cases value with
  | none =>
      constructor
      · rintro ⟨⟩
        exact ⟨rfl, nofun⟩
      · rintro ⟨⟨⟩, -⟩
        exact .unset
  | some text =>
      constructor
      · rintro (_ | ⟨framed, count, least, most⟩)
        rename_i word n
        have hvalue : (UInt64.ofNat n).toNat = n := Text.toNat_ofNat_of_le_maxWord most
        have hread : parseLimit text = .ok (UInt64.ofNat n) := by
          rw [parseLimit_eq_ok_iff, Text.trim_eq_iff.mpr framed, Text.readWord_eq_ok_iff, hvalue]
          exact count
        refine ⟨?_, fun hzero => ?_⟩
        · rw [limitOf, hread]
          rfl
        · rw [Option.some.inj hzero] at hvalue
          exact absurd hvalue (Nat.ne_of_lt least)
      · rintro ⟨hlimit, hzero⟩
        obtain ⟨w, hread, rfl⟩ := limitOf_some_eq_ok hlimit
        have hcount := Text.readWord_eq_ok_iff.mp (parseLimit_eq_ok_iff.mp hread)
        have hleast : 1 ≤ w.toNat := by
          refine Nat.one_le_iff_ne_zero.mpr fun hw => hzero ?_
          have hnone : w = 0 := UInt64.toNat_inj.mp hw
          rw [hnone]
        have hsays := LimitSays.word (Text.framed_trim _) hcount hleast (Text.toNat_le_maxWord w)
        rwa [UInt64.ofNat_toNat] at hsays

end

/-! ## Settings that follow variables -/

/-- The settings are what the variables say. -/
structure Follows (s : Settings) (lookup : String → Option String) : Prop where
  libraryDir : ∃ dir, PathSays (lookup libraryDirVariable) dir ∧ s.libraryDir = dir.getD "./lib"
  libraryPath : PathSays (lookup libraryPathVariable) s.libraryPath
  policy : PolicySays (lookup partialResultsVariable) s.partialResults
  limit : LimitSays (lookup maxInputBytesVariable) s.maxInputBytes

section

variable {lookup : String → Option String} {s : Settings} {π : PartialResults}
  {limit : Option UInt64}

theorem check_eq_ok_iff {t : Settings} : s.check = .ok t ↔ s.fault? = none ∧ s = t := by
  rw [check]
  cases s.fault? with
  | none => simp
  | some e => simp

theorem nonEmpty_ne_empty (value : Option String) : nonEmpty value ≠ some "" := by
  intro h
  have hsays := pathSays_iff.mpr h
  cases hsays with
  | path nonempty => exact nonempty rfl

/-- Of what was gathered only a limit of zero can be wrong. -/
theorem fault?_gathered (lookup : String → Option String) (π : PartialResults)
    (limit : Option UInt64) :
    (gathered lookup π limit).fault? = if limit = some 0 then some .zeroInputLimit else none := by
  have hdir : (gathered lookup π limit).libraryDir.isEmpty = false := by
    have hne := nonEmpty_ne_empty (lookup libraryDirVariable)
    rw [gathered]
    cases hdir : nonEmpty (lookup libraryDirVariable) with
    | none => rfl
    | some dir =>
        rw [hdir] at hne
        simpa using fun h => hne (congrArg some h)
  have hpath : ((gathered lookup π limit).libraryPath == some "") = false :=
    beq_eq_false_iff_ne.mpr (nonEmpty_ne_empty _)
  rw [fault?, hdir, hpath]
  simp [gathered]

theorem ofLookup_of_read (hpolicy : policyOf (lookup partialResultsVariable) = .ok π)
    (hlimit : limitOf (lookup maxInputBytesVariable) = .ok limit) :
    ofLookup lookup = (gathered lookup π limit).check := by
  rw [ofLookup_eq, hpolicy]
  show (limitOf (lookup maxInputBytesVariable) >>= _) = _
  rw [hlimit]
  rfl

/-- The settings that follow the variables are gathered from them. -/
theorem Follows.gathered_eq (h : s.Follows lookup) :
    gathered lookup s.partialResults s.maxInputBytes = s := by
  obtain ⟨⟨dir, hdir, hlibraryDir⟩, hpath, -, -⟩ := h
  obtain ⟨libraryDir, libraryPath, π, limit⟩ := s
  obtain rfl : libraryDir = dir.getD "./lib" := hlibraryDir
  rw [gathered, pathSays_iff.mp hdir, pathSays_iff.mp hpath]

theorem follows_gathered (hpolicy : PolicySays (lookup partialResultsVariable) π)
    (hlimit : LimitSays (lookup maxInputBytesVariable) limit) :
    (gathered lookup π limit).Follows lookup where
  libraryDir := ⟨_, pathSays_iff.mpr rfl, rfl⟩
  libraryPath := pathSays_iff.mpr rfl
  policy := hpolicy
  limit := hlimit

/-- Reading succeeds with the settings that follow the variables, and with no others. -/
theorem ofLookup_eq_ok_iff : ofLookup lookup = .ok s ↔ s.Follows lookup := by
  constructor
  · intro h
    have hreading : Reading lookup (.ok s) := h ▸ reading_ofLookup lookup
    cases hreading with
    | @valid π limit hpolicy hlimit =>
        rw [ofLookup_of_read hpolicy hlimit, check_eq_ok_iff, fault?_gathered] at h
        have hzero : limit ≠ some 0 := by
          rintro rfl
          rw [if_pos rfl] at h
          exact absurd h.1 nofun
        exact follows_gathered (policySays_iff.mpr hpolicy) (limitSays_iff.mpr ⟨hlimit, hzero⟩)
  · intro h
    obtain ⟨hlimit, hzero⟩ := limitSays_iff.mp h.limit
    rw [ofLookup_of_read (policySays_iff.mp h.policy) hlimit, check_eq_ok_iff, fault?_gathered,
      if_neg hzero]
    exact ⟨rfl, h.gathered_eq⟩

/-- A policy that says nothing is told, whatever the limit is. -/
theorem ofLookup_of_badPolicy (h : ∀ π, ¬ PolicySays (lookup partialResultsVariable) π) :
    ∃ text word, lookup partialResultsVariable = some text ∧ Text.Framed text.toList word ∧
      ofLookup lookup = .error (.unknownPolicy (String.ofList (Text.lower word))) := by
  cases hset : lookup partialResultsVariable with
  | none =>
      rw [hset] at h
      exact absurd .unset (h .discard)
  | some text =>
      rw [hset] at h
      have hrefused : PartialResults.parse text = .error _ :=
        PartialResults.parse_eq_error_iff.mpr ⟨fun π hπ => h π (policySays_iff.mpr hπ), rfl⟩
      refine ⟨text, _, rfl, Text.framed_trim _, ?_⟩
      rw [ofLookup_eq, hset, policyOf, hrefused]
      rfl

/-- Behind a policy that says something, a limit that says nothing is told: as zero if it counts
zero, and else as no count. -/
theorem ofLookup_of_badLimit (hpolicy : PolicySays (lookup partialResultsVariable) π)
    (h : ∀ limit, ¬ LimitSays (lookup maxInputBytesVariable) limit) :
    ∃ text word, lookup maxInputBytesVariable = some text ∧ Text.Framed text.toList word ∧
      (Text.Count word 0 → ofLookup lookup = .error .zeroInputLimit) ∧
      (¬ Text.Count word 0 → ∃ f, ofLookup lookup = .error (.byteCount f)) := by
  cases hset : lookup maxInputBytesVariable with
  | none =>
      rw [hset] at h
      exact absurd .unset (h none)
  | some text =>
      rw [hset] at h
      refine ⟨text, _, rfl, Text.framed_trim _, fun hzero => ?_, fun hcount => ?_⟩
      · have hread : limitOf (some text) = .ok (some 0) := by
          have hparse : parseLimit text = .ok 0 :=
            parseLimit_eq_ok_iff.mpr (Text.readWord_eq_ok_iff.mpr hzero)
          rw [limitOf, hparse]
          rfl
        rw [ofLookup_of_read (policySays_iff.mp hpolicy) (hset ▸ hread), check, fault?_gathered,
          if_pos rfl]
      · cases hread : Text.readWord (Text.trim text.toList) with
        | ok w =>
            have hlimit : limitOf (some text) = .ok (some w) := by
              rw [limitOf, parseLimit_eq_ok_iff.mpr hread]
              rfl
            refine absurd (limitSays_iff.mpr ⟨hlimit, ?_⟩) (h (some w))
            rintro ⟨⟩
            exact hcount (Text.readWord_eq_ok_iff.mp hread)
        | error f =>
            refine ⟨f, ?_⟩
            rw [ofLookup_eq, policySays_iff.mp hpolicy, hset, limitOf, parseLimit, hread]
            rfl

end

/-- What the variables of a lookup come to. -/
structure Accepts (lookup : String → Option String) (r : Except SetupError Settings) : Prop where
  /-- The settings that are read are the ones that follow the variables. -/
  ok_iff : ∀ s, r = .ok s ↔ s.Follows lookup
  /-- There are such settings just if policy and limit say something. -/
  succeeds_iff : (∃ s, r = .ok s) ↔ (∃ π, PolicySays (lookup partialResultsVariable) π) ∧
    ∃ limit, LimitSays (lookup maxInputBytesVariable) limit
  /-- Every failure is one of the configuration. -/
  failure : ∀ e, r = .error e → e.OfConfiguration
  /-- A policy that says nothing is told, whatever the limit is. -/
  badPolicy : (∀ π, ¬ PolicySays (lookup partialResultsVariable) π) →
    ∃ text word, lookup partialResultsVariable = some text ∧ Text.Framed text.toList word ∧
      r = .error (.unknownPolicy (String.ofList (Text.lower word)))
  /-- Otherwise a limit that says nothing is told: as zero if it counts zero, and else as no
  count. -/
  badLimit : (∃ π, PolicySays (lookup partialResultsVariable) π) →
    (∀ limit, ¬ LimitSays (lookup maxInputBytesVariable) limit) →
    ∃ text word, lookup maxInputBytesVariable = some text ∧ Text.Framed text.toList word ∧
      (Text.Count word 0 → r = .error .zeroInputLimit) ∧
      (¬ Text.Count word 0 → ∃ f, r = .error (.byteCount f))

/-- Reading variables accepts what says something, and tells the first thing that does not. -/
theorem accepts_ofLookup (lookup : String → Option String) : Accepts lookup (ofLookup lookup) where
  ok_iff _ := ofLookup_eq_ok_iff
  succeeds_iff := by
    constructor
    · rintro ⟨s, hs⟩
      have hfollows := ofLookup_eq_ok_iff.mp hs
      exact ⟨⟨_, hfollows.policy⟩, ⟨_, hfollows.limit⟩⟩
    · rintro ⟨⟨π, hpolicy⟩, ⟨limit, hlimit⟩⟩
      exact ⟨_, ofLookup_eq_ok_iff.mpr (follows_gathered hpolicy hlimit)⟩
  failure _ h := ofConfiguration_of_ofLookup h
  badPolicy := ofLookup_of_badPolicy
  badLimit := by
    rintro ⟨π, hpolicy⟩
    exact ofLookup_of_badLimit hpolicy

/-- A sign, leading zeros and blanks of any kind around them do not matter to a limit. -/
example : (ofLookup fun name => if name = maxInputBytesVariable then some "\u00a0+007 " else none) =
    .ok { maxInputBytes := some 7 } := rfl

end Settings

end MediaCodec
