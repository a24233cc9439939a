/-
Numerals — numbers as their digits.

A numeral is one decimal digit or more, and its value is what the digits come to from the left;
leading zeros are no matter.  A count may have a plus sign before its numeral, and nothing else.

The reader of counts goes from digit to digit and gives up as soon as the value is above its bound.
No later digit makes a value smaller (`le_ofDigitChars`), so that it gives up just where the whole
numeral is above the bound: it reads the counts up to the bound and nothing else
(`readCount_eq_ok_iff`).
-/

import MediaCodec.Text.Numeral

namespace MediaCodec.Text

/-- One decimal digit or more, and what they come to. -/
structure Numeral (cs : List Char) (n : Nat) : Prop where
  nonempty : cs ≠ []
  digits : ∀ c ∈ cs, c.isDigit = true
  value : Nat.ofDigitChars 10 cs 0 = n

/-- A numeral, which may have a plus sign before it. -/
inductive Count : List Char → Nat → Prop
  | bare {cs : List Char} {n : Nat} (numeral : Numeral cs n) : Count cs n
  | signed {cs : List Char} {n : Nat} (numeral : Numeral cs n) : Count ('+' :: cs) n

/-- A number is written as a numeral. -/
theorem numeral_toDigits (n : Nat) : Numeral (Nat.toDigits 10 n) n where
  nonempty := Nat.toDigits_ne_nil
  digits _ h := Nat.isDigit_of_mem_toDigits (by decide) (by decide) h
  value := Nat.ofDigitChars_ten_toDigits

/-! ## Digits -/

theorem digit?_of_isDigit {c : Char} (h : c.isDigit = true) :
    digit? c = some (c.toNat - '0'.toNat) := if_pos h

theorem digit?_of_not_isDigit {c : Char} (h : c.isDigit = false) : digit? c = none :=
  if_neg (Bool.eq_false_iff.mp h)

/-- Further digits do not make a value smaller. -/
theorem le_ofDigitChars (cs : List Char) (acc : Nat) : acc ≤ Nat.ofDigitChars 10 cs acc := by
  rw [Nat.ofDigitChars_eq_ofDigitChars_zero]
  exact Nat.le_add_right_of_le (Nat.le_mul_of_pos_left acc (Nat.pow_pos (by decide)))

/-! ## Reading -/

section

variable {max acc n : Nat} {cs : List Char}

/-- Reading on from a value that is within the bound. -/
theorem readDigits_eq_ok_iff (hacc : acc ≤ max) :
    readDigits max acc cs = .ok n ↔
      (∀ c ∈ cs, c.isDigit = true) ∧ Nat.ofDigitChars 10 cs acc = n ∧ n ≤ max := by
  induction cs generalizing acc with
  | nil =>
      rw [readDigits, Nat.ofDigitChars_nil]
      constructor
      · rintro ⟨⟩
        exact ⟨fun c hc => absurd hc List.not_mem_nil, rfl, hacc⟩
      · rintro ⟨-, rfl, -⟩
        rfl
  | cons c rest ih =>
      rw [readDigits, Nat.ofDigitChars_cons, List.forall_mem_cons, Nat.mul_comm 10 acc]
      cases hc : c.isDigit with
      | false =>
          rw [digit?_of_not_isDigit hc]
          exact iff_of_false nofun fun h => Bool.false_ne_true h.1.1
      | true =>
          simp only [digit?_of_isDigit hc, true_and]
          by_cases hbound : acc * 10 + (c.toNat - '0'.toNat) ≤ max
          · rw [if_pos hbound, ih hbound]
          · rw [if_neg hbound]
            refine iff_of_false nofun ?_
            rintro ⟨-, rfl, hmost⟩
            exact hbound (Nat.le_trans (le_ofDigitChars rest _) hmost)

theorem readDigits_zero_eq_ok_iff (hcs : cs ≠ []) :
    readDigits max 0 cs = .ok n ↔ Numeral cs n ∧ n ≤ max := by
  rw [readDigits_eq_ok_iff (Nat.zero_le max), ← and_assoc]
  refine and_congr_left fun _ => ⟨?_, ?_⟩
  · rintro ⟨hdigits, hvalue⟩
    exact ⟨hcs, hdigits, hvalue⟩
  · intro h
    exact ⟨h.digits, h.value⟩

theorem count_cons_iff {c : Char} (hc : c ≠ '+') : Count (c :: cs) n ↔ Numeral (c :: cs) n := by
  constructor
  · intro h
    cases h with
    | bare numeral => exact numeral
    | signed => exact absurd rfl hc
  · exact .bare

/-- No numeral begins with a sign. -/
theorem count_plus_iff : Count ('+' :: cs) n ↔ Numeral cs n := by
  constructor
  · intro h
    cases h with
    | bare numeral => exact absurd (numeral.digits '+' List.mem_cons_self) (by decide)
    | signed numeral => exact numeral
  · exact .signed

theorem not_numeral_nil : ¬ Numeral [] n := fun h => h.nonempty rfl

/-- What is read as a count is a count within the bound, and each of these is read. -/
theorem readCount_eq_ok_iff : readCount max cs = .ok n ↔ Count cs n ∧ n ≤ max := by
  rw [readCount.eq_def]
  split
  · refine iff_of_false nofun ?_
    rintro ⟨h, -⟩
    cases h with
    | bare numeral => exact not_numeral_nil numeral
  · refine iff_of_false nofun fun h => ?_
    exact not_numeral_nil (count_plus_iff.mp h.1)
  · next rest hrest =>
    rw [count_plus_iff]
    exact readDigits_zero_eq_ok_iff hrest
  · next hnil _ hplus =>
    rw [readDigits_zero_eq_ok_iff hnil]
    refine and_congr_left fun _ => ?_
    cases cs with
    | nil => exact absurd rfl hnil
    | cons c rest => exact (count_cons_iff fun hc => hplus rest (hc ▸ rfl)).symm

theorem toNat_ofNat_of_le_maxWord (h : n ≤ maxWord) : (UInt64.ofNat n).toNat = n :=
  UInt64.toNat_ofNat_of_lt' (Nat.lt_of_le_of_lt h (by decide))

theorem toNat_le_maxWord (w : UInt64) : w.toNat ≤ maxWord := Nat.le_of_lt_succ w.toNat_lt

/-- What is read as a word is a count that a word holds. -/
theorem readWord_eq_ok_iff {w : UInt64} : readWord cs = .ok w ↔ Count cs w.toNat := by
  rw [readWord]
  constructor
  · intro h
    cases hread : readCount maxWord cs with
    | error f =>
        rw [hread] at h
        cases h
    | ok n =>
        rw [hread] at h
        obtain rfl := Except.ok.inj h
        obtain ⟨hcount, hmost⟩ := readCount_eq_ok_iff.mp hread
        rwa [toNat_ofNat_of_le_maxWord hmost]
  · intro hcount
    rw [readCount_eq_ok_iff.mpr ⟨hcount, toNat_le_maxWord w⟩]
    exact congrArg Except.ok UInt64.ofNat_toNat

end

end MediaCodec.Text
