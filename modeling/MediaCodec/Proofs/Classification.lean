/-
Classification — which codec the words in a machine's names lead to.

A machine's names are free words, and one name may hold several of the words that are looked for:
`Darwin` holds `win`, and `arm64`, `amd64` and `x86_64` all hold `64`.  So the order in which the
words are looked for belongs to the rule.  `OsClass.Says` and `ArchClass.Says` have one constructor
per class, with the words that must not be there beside the one that must; a word is there if it
stands somewhere in the name, read in small letters (`mentions_iff`).

From the two classes on there is a table.  It has one row for each pair that is served and none for
the others, so `BackendId.Serves` can leave the table out and say which classes each codec is for
(`Platform.find?_eq_some_iff`).

Names that differ only in the case of the letters A to Z are the same in small letters, hence in
every word they hold.  A machine that is not served is nevertheless told its own names, as it wrote
them.
-/

import MediaCodec.Proofs.Opening
import Mathlib.Data.List.Forall2

namespace MediaCodec

/-! ## Small letters -/

namespace Text

theorem toNat_toLower (c : Char) :
    c.toLower.toNat = if 65 ≤ c.toNat ∧ c.toNat ≤ 90 then c.toNat + 32 else c.toNat := by
  by_cases h : c.val ≥ 'A'.val ∧ c.val ≤ 'Z'.val
  · have hcapital : 65 ≤ c.toNat ∧ c.toNat ≤ 90 := h
    have hbound : c.val.toNat ≤ 90 := hcapital.2
    have hlower : c.toLower = _ := dif_pos h
    have hshift : ('a'.val - 'A'.val).toNat = 32 := rfl
    rw [if_pos hcapital, hlower]
    show (c.val + ('a'.val - 'A'.val)).toNat = c.val.toNat + 32
    rw [UInt32.toNat_add, hshift]
    omega
  · have hother : ¬ (65 ≤ c.toNat ∧ c.toNat ≤ 90) := h
    have hlower : c.toLower = c := dif_neg h
    rw [hlower, if_neg hother]

theorem toNat_toUpper (c : Char) :
    c.toUpper.toNat = if 97 ≤ c.toNat ∧ c.toNat ≤ 122 then c.toNat - 32 else c.toNat := by
  by_cases h : 'a'.val ≤ c.val ∧ c.val ≤ 'z'.val
  · have hsmall : 97 ≤ c.toNat ∧ c.toNat ≤ 122 := h
    have hbounds : 97 ≤ c.val.toNat ∧ c.val.toNat ≤ 122 := hsmall
    have hupper : c.toUpper = _ := dif_pos h
    -- The shift is downwards, and so it is one around the end of the 32-bit words.
    have hshift : ('A'.val - 'a'.val).toNat = 2 ^ 32 - 32 := rfl
    rw [if_pos hsmall, hupper]
    show (c.val + ('A'.val - 'a'.val)).toNat = c.val.toNat - 32
    rw [UInt32.toNat_add, hshift]
    omega
  · have hother : ¬ (97 ≤ c.toNat ∧ c.toNat ≤ 122) := h
    have hupper : c.toUpper = c := dif_neg h
    rw [hupper, if_neg hother]

theorem toLower_toLower (c : Char) : c.toLower.toLower = c.toLower := by
  apply Char.toNat_inj.mp
  rw [toNat_toLower, toNat_toLower]
  grind

theorem toLower_toUpper (c : Char) : c.toUpper.toLower = c.toLower := by
  apply Char.toNat_inj.mp
  rw [toNat_toLower, toNat_toLower, toNat_toUpper]
  grind

/-- The same character, or the same letter A to Z in the other case. -/
inductive Recased : Char → Char → Prop
  | same (c : Char) : Recased c c
  | lowered (c : Char) : Recased c c.toLower
  | raised (c : Char) : Recased c c.toUpper

theorem Recased.toLower_eq {c d : Char} (h : Recased c d) : d.toLower = c.toLower := by
  cases h with
  | same => rfl
  | lowered => exact toLower_toLower c
  | raised => exact toLower_toUpper c

/-- The same text, but for the case of the letters A to Z. -/
def SameButCase (a b : String) : Prop := List.Forall₂ Recased a.toList b.toList

theorem SameButCase.lower_eq {a b : String} (h : SameButCase a b) :
    lower b.toList = lower a.toList := by
  unfold SameButCase at h
  generalize a.toList = cs, b.toList = ds at h
  induction h with
  | nil => rfl
  | cons hfirst _ ih =>
      rw [lower, List.map_cons, hfirst.toLower_eq]
      exact congrArg _ ih

/-- A word occurs in a text if it stands there in one piece. -/
theorem occurs_iff {word cs : List Char} : occurs word cs = true ↔ word <:+: cs := by
  induction cs with
  | nil => rw [occurs, List.isEmpty_iff, List.infix_nil]
  | cons c rest ih =>
      rw [occurs, Bool.or_eq_true, List.isPrefixOf_iff_prefix, ih, List.infix_cons_iff]

end Text

/-! ## Classes -/

/-- A name holds a word, if its letters A to Z are read as small ones. -/
def Holds (name word : String) : Prop := word.toList <:+: name.toList.map Char.toLower

theorem mentions_iff {name word : String} : mentions name word = true ↔ Holds name word :=
  Text.occurs_iff

instance (name word : String) : Decidable (Holds name word) := decidable_of_iff _ mentions_iff

theorem mentions_of_sameButCase {a b : String} (h : Text.SameButCase a b) (word : String) :
    mentions b word = mentions a word := by
  rw [mentions, mentions, h.lower_eq]

/-- The class that the words in an operating system's name make it, if they make it one. -/
inductive OsClass.Says (name : String) : Option OsClass → Prop
  | windows (win : Holds name "win") : Says name (some .windows)
  | macos (noWin : ¬ Holds name "win") (mac : Holds name "mac") : Says name (some .macos)
  | linux (noWin : ¬ Holds name "win") (noMac : ¬ Holds name "mac")
      (nux : Holds name "nux" ∨ Holds name "nix") : Says name (some .linux)
  | unknown (noWin : ¬ Holds name "win") (noMac : ¬ Holds name "mac")
      (noNux : ¬ (Holds name "nux" ∨ Holds name "nix")) : Says name none

/-- The class that the words in an architecture's name make it. -/
inductive ArchClass.Says (name : String) : ArchClass → Prop
  | arm64 (arm : Holds name "arm64" ∨ Holds name "aarch64") : Says name .arm64
  | x64 (noArm : ¬ (Holds name "arm64" ∨ Holds name "aarch64"))
      (x64 : Holds name "x86_64" ∨ Holds name "amd64") : Says name .x64
  | generic64 (noArm : ¬ (Holds name "arm64" ∨ Holds name "aarch64"))
      (noX64 : ¬ (Holds name "x86_64" ∨ Holds name "amd64")) (wide : Holds name "64") :
      Says name .generic64
  | generic32 (noArm : ¬ (Holds name "arm64" ∨ Holds name "aarch64"))
      (noX64 : ¬ (Holds name "x86_64" ∨ Holds name "amd64")) (narrow : ¬ Holds name "64") :
      Says name .generic32

theorem OsClass.says_classify (name : String) : Says name (classify name) := by
  rw [classify]
  simp only [Bool.or_eq_true, mentions_iff]
  split
  · next win => exact .windows win
  · next noWin =>
    split
    · next mac => exact .macos noWin mac
    · next noMac =>
      split
      · next nux => exact .linux noWin noMac nux
      · next noNux => exact .unknown noWin noMac noNux

theorem ArchClass.says_classify (name : String) : Says name (classify name) := by
  rw [classify]
  simp only [Bool.or_eq_true, mentions_iff]
  split
  · next arm => exact .arm64 arm
  · next noArm =>
    split
    · next x64 => exact .x64 noArm x64
    · next noX64 =>
      split
      · next wide => exact .generic64 noArm noX64 wide
      · next narrow => exact .generic32 noArm noX64 narrow

theorem OsClass.classify_of_sameButCase {a b : String} (h : Text.SameButCase a b) :
    classify b = classify a := by
  simp only [classify, mentions_of_sameButCase h]

theorem ArchClass.classify_of_sameButCase {a b : String} (h : Text.SameButCase a b) :
    classify b = classify a := by
  simp only [classify, mentions_of_sameButCase h]

/-! ## Codecs -/

/-- The classes that a codec is built for. -/
inductive BackendId.Serves : Option OsClass → ArchClass → BackendId → Prop
  | windowsX86 : Serves (some .windows) .generic32 .windowsX86
  | windowsX64 {arch : ArchClass} (wide : arch ≠ .generic32) :
      Serves (some .windows) arch .windowsX64
  | macosArm64 : Serves (some .macos) .arm64 .macosArm64
  | macosX64 {arch : ArchClass} (other : arch ≠ .arm64) : Serves (some .macos) arch .macosX64
  | linuxArm64 : Serves (some .linux) .arm64 .linuxArm64
  | linuxX64 : Serves (some .linux) .x64 .linuxX64

/-- A machine of these classes is served by some codec. -/
def Platform.Served (os : Option OsClass) (arch : ArchClass) : Prop :=
  os = some .windows ∨ os = some .macos ∨ (os = some .linux ∧ (arch = .arm64 ∨ arch = .x64))

namespace BackendId

variable {os : Option OsClass} {arch : ArchClass} {id : BackendId}

theorem Serves.osClass_eq (h : Serves os arch id) : os = some id.osClass := by
  cases h <;> rfl

theorem exists_serves_iff : (∃ id, Serves os arch id) ↔ Platform.Served os arch := by
  constructor
  · rintro ⟨id, h⟩
    cases h with
    | windowsX86 => exact .inl rfl
    | windowsX64 => exact .inl rfl
    | macosArm64 => exact .inr (.inl rfl)
    | macosX64 => exact .inr (.inl rfl)
    | linuxArm64 => exact .inr (.inr ⟨rfl, .inl rfl⟩)
    | linuxX64 => exact .inr (.inr ⟨rfl, .inr rfl⟩)
  · rintro (rfl | rfl | ⟨rfl, rfl | rfl⟩)
    · by_cases h : arch = .generic32
      · exact ⟨.windowsX86, h ▸ .windowsX86⟩
      · exact ⟨.windowsX64, .windowsX64 h⟩
    · by_cases h : arch = .arm64
      · exact ⟨.macosArm64, h ▸ .macosArm64⟩
      · exact ⟨.macosX64, .macosX64 h⟩
    · exact ⟨.linuxArm64, .linuxArm64⟩
    · exact ⟨.linuxX64, .linuxX64⟩

end BackendId

namespace Platform

/-- The table has a row for each pair that is served, and no second one. -/
theorem find?_eq_some_iff {os : OsClass} {arch : ArchClass} {id : BackendId} :
    find? os arch = some id ↔ BackendId.Serves (some os) arch id := by
  constructor
  · intro h
    cases os <;> cases arch <;> cases h <;> constructor <;> decide
  · intro h
    cases h with
    | windowsX64 wide =>
        cases arch with
        | generic32 => exact absurd rfl wide
        | arm64 | x64 | generic64 => rfl
    | macosX64 other =>
        cases arch with
        | arm64 => exact absurd rfl other
        | x64 | generic64 | generic32 => rfl
    | windowsX86 | macosArm64 | linuxArm64 | linuxX64 => rfl

theorem resolve?_eq_some_iff {os arch : String} {id : BackendId} :
    resolve? os arch = some id ↔
      BackendId.Serves (OsClass.classify os) (ArchClass.classify arch) id := by
  rw [resolve?]
  cases OsClass.classify os with
  | none => exact iff_of_false nofun nofun
  | some c => exact find?_eq_some_iff

theorem resolve?_of_sameButCase {os os' arch arch' : String} (hos : Text.SameButCase os os')
    (harch : Text.SameButCase arch arch') : resolve? os' arch' = resolve? os arch := by
  rw [resolve?, resolve?, OsClass.classify_of_sameButCase hos,
    ArchClass.classify_of_sameButCase harch]

end Platform

/-! ## Machines -/

namespace Host

/-- What a machine of these classes is answered. -/
structure Resolves (h : Host) (os : Option OsClass) (arch : ArchClass) (p : State) : Prop where
  /-- The classes are those of the words in its names. -/
  osSays : OsClass.Says h.os os
  archSays : ArchClass.Says h.arch arch
  served_iff : (∃ id, (h.resolve p).result = .ok id) ↔ Platform.Served os arch
  ok_iff : ∀ id, (h.resolve p).result = .ok id ↔ BackendId.Serves os arch id
  osClass : ∀ id, (h.resolve p).result = .ok id → os = some id.osClass
  /-- A machine that is not served is told its own names. -/
  unserved : ¬ Platform.Served os arch →
    (h.resolve p).result = .error (.unsupportedPlatform h.os h.arch)
  /-- The case of the letters in the names makes no difference but to the names that are told. -/
  recased : ∀ (h' : Host) (p' : State), Text.SameButCase h.os h'.os →
    Text.SameButCase h.arch h'.arch →
    (h'.resolve p').result =
      (h.resolve p).result.mapError fun _ => .unsupportedPlatform h'.os h'.arch
  /-- Nothing is called for it, and nothing changes. -/
  quiet : (h.resolve p).journal.calls = [] ∧ (h.resolve p).after = p

theorem result_resolve_eq_ok_iff {h : Host} {p : State} {id : BackendId} :
    (h.resolve p).result = .ok id ↔ Platform.resolve? h.os h.arch = some id := by
  cases hid : Platform.resolve? h.os h.arch with
  | none =>
      rw [resolve_of_none hid]
      exact iff_of_false nofun nofun
  | some served => rw [resolve_of_some hid, Attempt.ok.injEq, Option.some.injEq]

/-- Every machine is answered by the words in its names. -/
theorem resolves_classified (h : Host) (p : State) : ∃ os arch, h.Resolves os arch p := by
  have hok : ∀ id, (h.resolve p).result = .ok id ↔
      BackendId.Serves (OsClass.classify h.os) (ArchClass.classify h.arch) id := fun id =>
    result_resolve_eq_ok_iff.trans Platform.resolve?_eq_some_iff
  refine ⟨OsClass.classify h.os, ArchClass.classify h.arch, OsClass.says_classify h.os,
    ArchClass.says_classify h.arch, ?_, hok, ?_, ?_, ?_, ?_⟩
  · rw [← BackendId.exists_serves_iff]
    exact exists_congr hok
  · intro id hid
    exact ((hok id).mp hid).osClass_eq
  · intro hunserved
    cases hid : Platform.resolve? h.os h.arch with
    | none => rw [resolve_of_none hid]
    | some id =>
        have hserves := Platform.resolve?_eq_some_iff.mp hid
        exact absurd (BackendId.exists_serves_iff.mp ⟨id, hserves⟩) hunserved
  · intro h' p' hos harch
    have hsame := Platform.resolve?_of_sameButCase hos harch
    cases hid : Platform.resolve? h.os h.arch with
    | none =>
        rw [resolve_of_none hid, resolve_of_none (hsame.trans hid)]
        rfl
    | some id =>
        rw [resolve_of_some hid, resolve_of_some (hsame.trans hid)]
        rfl
  · cases hid : Platform.resolve? h.os h.arch with
    | none =>
        rw [resolve_of_none hid]
        exact ⟨rfl, rfl⟩
    | some id =>
        rw [resolve_of_some hid]
        exact ⟨rfl, rfl⟩

/-- The order counts: `Darwin` has the word `win` in it. -/
example : Platform.resolve? "Darwin" "ARM64" = some .windowsX64 := by decide

end Host

end MediaCodec
