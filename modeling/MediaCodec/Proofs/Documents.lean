/-
Documents — what is written reads back.

A value of which every string is a text has a document, and reading that document gives the value
again (`Json.parse?_render`).  A half of a surrogate pair has no document of its own; such strings
are what `Json.isLegible` leaves out.

The reader never looks back, so the statement that carries the induction is about a value with
anything behind it: the value is read and what is behind it is left.  Only a number could run on into
that, and a comma, a bracket, a brace and the end of the document all end a number (`Ends`).  The
reader's bound is not in the way: each of its calls takes a character of the document, and a value's
own length is enough for the value.
-/

import MediaCodec.Json.Printer
import MediaCodec.Json.Reader
import MediaCodec.Proofs.Numerals

namespace MediaCodec.Json

/-! ## Numbers -/

/-- A number ends before this: no digit follows, no point and no exponent. -/
def Ends (rest : List Char) : Prop :=
  ∀ c ∈ rest.head?, c.isDigit = false ∧ c ≠ '.' ∧ c ≠ 'e' ∧ c ≠ 'E'

namespace Reader

section

variable {rest : List Char}

theorem digits_append {ds : List Char} (h : ∀ c ∈ ds, c.isDigit = true)
    (hrest : ∀ c ∈ rest.head?, c.isDigit = false) :
    digits (ds ++ rest) = (ds.map fun c => c.toNat - '0'.toNat, rest) := by
  have htake : rest.takeWhile Char.isDigit = [] := by
    cases rest with
    | nil => rfl
    | cons c cs => exact List.takeWhile_cons_of_neg (Bool.eq_false_iff.mp (hrest c rfl))
  have hdrop : rest.dropWhile Char.isDigit = rest := by
    cases rest with
    | nil => rfl
    | cons c cs => exact List.dropWhile_cons_of_neg (Bool.eq_false_iff.mp (hrest c rfl))
  rw [digits, List.takeWhile_append_of_pos h, List.dropWhile_append_of_pos h, htake, hdrop,
    List.append_nil]

theorem ofDigits_map (ds : List Char) :
    ofDigits (ds.map fun c => c.toNat - '0'.toNat) = Nat.ofDigitChars 10 ds 0 := by
  simp only [ofDigits, Nat.ofDigitChars, List.foldl_map, Nat.mul_comm]

/-- A numeral is read as its value. -/
theorem digits_numeral {ds : List Char} {n : Nat} (h : Text.Numeral ds n)
    (hrest : ∀ c ∈ rest.head?, c.isDigit = false) :
    ∃ d vs, digits (ds ++ rest) = (d :: vs, rest) ∧ ofDigits (d :: vs) = n := by
  have hvalue : ofDigits _ = n := (ofDigits_map ds).trans h.value
  have hdigits := digits_append h.digits hrest
  obtain ⟨c, cs, rfl⟩ := List.exists_cons_of_ne_nil h.nonempty
  exact ⟨_, _, hdigits, hvalue⟩

/-- A number is written without leading zeros. -/
theorem head?_toDigits_ne_zero {n : Nat} (h : n ≠ 0) : (Nat.toDigits 10 n).head? ≠ some '0' := by
  induction n using Nat.strongRecOn with
  | ind n ih =>
      by_cases hn : n < 10
      · rw [Nat.toDigits_of_lt_base hn]
        simpa using h
      · have hlt : n / 10 < n := by omega
        have hne : n / 10 ≠ 0 := by omega
        obtain ⟨c, cs, hcs⟩ :=
          List.exists_cons_of_ne_nil (Nat.toDigits_ne_nil (n := n / 10) (b := 10))
        have hrest := ih (n / 10) hlt hne
        rw [hcs] at hrest
        rw [Nat.toDigits_of_base_le (by decide) (by omega), hcs]
        exact hrest

/-- The first digit of a number, which is a zero only if there is no other. -/
theorem exists_toDigits_eq_cons (n : Nat) :
    ∃ c cs, Nat.toDigits 10 n = c :: cs ∧ c.isDigit = true ∧ (n ≠ 0 → c ≠ '0') := by
  obtain ⟨c, cs, hcs⟩ := List.exists_cons_of_ne_nil (Nat.toDigits_ne_nil (n := n) (b := 10))
  refine ⟨c, cs, hcs, ?_, ?_⟩
  · exact (Text.numeral_toDigits n).digits c (by rw [hcs]; exact List.mem_cons_self)
  · rintro hn rfl
    exact head?_toDigits_ne_zero hn (by rw [hcs]; rfl)

theorem whole?_toDigits (n : Nat) (hrest : ∀ c ∈ rest.head?, c.isDigit = false) :
    whole? (Nat.toDigits 10 n ++ rest) = some (n, rest) := by
  by_cases hn : n = 0
  · rw [hn, Nat.toDigits_zero]
    rfl
  · obtain ⟨d, vs, hdigits, hvalue⟩ := digits_numeral (Text.numeral_toDigits n) hrest
    obtain ⟨c, cs, hcs, -, hzero⟩ := exists_toDigits_eq_cons n
    rw [hcs] at hdigits ⊢
    rw [whole?.eq_def]
    split
    · next heq =>
      exact absurd (List.cons.inj heq).1 (hzero hn)
    · simp only [hdigits, hvalue]

theorem fraction?_of_ends (h : ∀ c ∈ rest.head?, c ≠ '.') : fraction? rest = some (none, rest) := by
  rw [fraction?.eq_def]
  split
  · exact absurd rfl (h '.' rfl)
  · rfl

theorem exponent?_of_ends (h : Ends rest) : exponent? rest = some (none, rest) := by
  rw [exponent?.eq_def]
  split
  · exact absurd rfl (h 'e' rfl).2.2.1
  · exact absurd rfl (h 'E' rfl).2.2.2
  · rfl

/-- A number is not written with anything but a digit in front. -/
theorem toDigits_append_ne {d : Char} (hd : d.isDigit = false) (n : Nat) (rest rest' : List Char) :
    Nat.toDigits 10 n ++ rest ≠ d :: rest' := by
  obtain ⟨c, cs, hcs, hc, -⟩ := exists_toDigits_eq_cons n
  rw [hcs]
  rintro ⟨⟩
  exact Bool.false_ne_true (hd.symm.trans hc)

/-- An integer is a minus sign and its numeral, or its numeral. -/
theorem integer_cases (n : Int) :
    (∃ m : Nat, m ≠ 0 ∧ n = -m ∧ Printer.integer n = '-' :: Nat.toDigits 10 m) ∨
      ∃ m : Nat, n = m ∧ Printer.integer n = Nat.toDigits 10 m := by
  by_cases hn : n < 0
  · exact .inl ⟨n.natAbs, by omega, by omega, if_pos hn⟩
  · exact .inr ⟨n.natAbs, by omega, if_neg hn⟩

theorem signedExponent?_integer (e : Int) (hrest : ∀ c ∈ rest.head?, c.isDigit = false) :
    signedExponent? (Printer.integer e ++ rest) = some (e, rest) := by
  rcases integer_cases e with ⟨m, -, rfl, hwritten⟩ | ⟨m, rfl, hwritten⟩
  · obtain ⟨d, vs, hdigits, hvalue⟩ := digits_numeral (Text.numeral_toDigits m) hrest
    rw [hwritten, List.cons_append, signedExponent?]
    simp only [hdigits, hvalue, Int.neg_mul, Int.one_mul]
  · obtain ⟨d, vs, hdigits, hvalue⟩ := digits_numeral (Text.numeral_toDigits m) hrest
    rw [hwritten, signedExponent?]
    · simp only [hdigits, hvalue, Int.one_mul]
    · exact toDigits_append_ne rfl m rest
    · exact toDigits_append_ne rfl m rest

/-- An integer is read as one. -/
theorem number_integer (n : Int) (hrest : Ends rest) :
    number (Printer.integer n ++ rest) = some (.integer n, rest) := by
  have hwhole := fun m => whole?_toDigits m fun c hc => (hrest c hc).1
  have hfraction := fraction?_of_ends fun c hc => (hrest c hc).2.1
  have hexponent := exponent?_of_ends hrest
  rcases integer_cases n with ⟨m, hm, rfl, hwritten⟩ | ⟨m, rfl, hwritten⟩
  · rw [hwritten, List.cons_append, number]
    simp [hwhole, hfraction, hexponent, hm]
  · rw [hwritten, number]
    · simp [hwhole, hfraction, hexponent]
    · exact toDigits_append_ne rfl m rest

/-- A mantissa with an exponent is read as that. -/
theorem number_scientific (m e : Int) (hrest : Ends rest) :
    number (Printer.integer m ++ 'e' :: (Printer.integer e ++ rest)) =
      some (.scientific m e, rest) := by
  have hwhole : ∀ k, whole? (Nat.toDigits 10 k ++ 'e' :: (Printer.integer e ++ rest)) = some (k, _) :=
    fun k => whole?_toDigits k (by simp)
  have hfraction : fraction? ('e' :: (Printer.integer e ++ rest)) = some (none, _) :=
    fraction?_of_ends (by simp)
  have hexponent : exponent? ('e' :: (Printer.integer e ++ rest)) = some (some e, rest) := by
    rw [exponent?, signedExponent?_integer e fun c hc => (hrest c hc).1]
    rfl
  rcases integer_cases m with ⟨k, -, rfl, hwritten⟩ | ⟨k, rfl, hwritten⟩
  · rw [hwritten, List.cons_append, number]
    simp [hwhole, hfraction, hexponent, ofDigits]
  · rw [hwritten, number]
    · simp [hwhole, hfraction, hexponent, ofDigits]
    · exact toDigits_append_ne rfl k _

end

/-! ## Strings -/

section

theorem hexDigit?_digitChar : ∀ n < 16, Text.hexDigit? (Nat.digitChar n) = some n := by
  decide

/-- A control character is written as the four digits of its code point. -/
theorem controlEscape_eq {c : Char} (h : c.toNat < 32) :
    Printer.controlEscape c =
      ['\\', 'u', '0', '0', Nat.digitChar (c.toNat / 16), Nat.digitChar (c.toNat % 16)] := by
  rw [Printer.controlEscape, Text.hexDigits]
  by_cases hsmall : c.toNat < 16
  · rw [Nat.toDigits_of_lt_base hsmall, Nat.div_eq_of_lt hsmall, Nat.mod_eq_of_lt hsmall]
    rfl
  · have hfirst : c.toNat / 16 < 16 := by omega
    rw [Nat.toDigits_of_base_le (by decide) (Nat.le_of_not_lt hsmall),
      Nat.toDigits_of_lt_base hfirst]
    rfl

/-- The three ways in which a character is written: by a short escape, by its code point, and as
itself. -/
theorem escaped_cases (c : Char) :
    (∃ e, e ≠ 'u' ∧ shortEscape? e = some c ∧ Printer.escaped c = ['\\', e]) ∨
      (c.toNat < 32 ∧ Printer.escaped c = Printer.controlEscape c) ∨
        (c ≠ '"' ∧ c ≠ '\\' ∧ ¬ c.toNat < 32 ∧ Printer.escaped c = [c]) := by
  have hnat : ∀ n, c.toNat = n → Char.ofNat n = c := by
    rintro n rfl
    exact Char.ofNat_toNat c
  rw [Printer.escaped]
  split
  · next h => exact .inl ⟨'"', by decide, by rw [h]; rfl, rfl⟩
  split
  · next h => exact .inl ⟨'\\', by decide, by rw [h]; rfl, rfl⟩
  split
  · next h => exact .inl ⟨'b', by decide, congrArg some (hnat 8 h), rfl⟩
  split
  · next h => exact .inl ⟨'f', by decide, congrArg some (hnat 12 h), rfl⟩
  split
  · next h => exact .inl ⟨'n', by decide, by rw [h]; rfl, rfl⟩
  split
  · next h => exact .inl ⟨'r', by decide, by rw [h]; rfl, rfl⟩
  split
  · next h => exact .inl ⟨'t', by decide, by rw [h]; rfl, rfl⟩
  split
  · next h => exact .inr (.inl ⟨h, rfl⟩)
  · next hquote hslash _ _ _ _ _ hcontrol => exact .inr (.inr ⟨hquote, hslash, hcontrol, rfl⟩)

theorem codeUnit?_of_lt {n : Nat} (h : n < 32) :
    codeUnit? '0' '0' (Nat.digitChar (n / 16)) (Nat.digitChar (n % 16)) = some n := by
  have hzero : Text.hexDigit? '0' = some 0 := rfl
  have hhigh := hexDigit?_digitChar (n / 16) (by omega)
  have hlow := hexDigit?_digitChar (n % 16) (by omega)
  have hvalue : n / 16 * 16 + n % 16 = n := by omega
  simp [codeUnit?, hzero, hhigh, hlow, hvalue]

/-- A code point below those of the halves stands for its character, whatever follows. -/
theorem assemble_unit {n : Nat} (h : n < 32) (ps : List Piece) :
    assemble (.unit n :: ps) = (assemble ps).map (Char.ofNat n :: ·) := by
  have hhigh : isHighHalf n = false := by simp [isHighHalf]; omega
  have hlow : isLowHalf n = false := by simp [isLowHalf]; omega
  rw [assemble.eq_def]
  split
  · next heq => cases heq
  · next heq => cases heq
  · next heq =>
    cases heq
    simp [hhigh, hlow]
  · next heq =>
    cases heq
    simp [hhigh, hlow]

/-- What is written for one character is read as one piece, which stands for the character again. -/
theorem exists_piece (c : Char) :
    ∃ p, (∀ cs, pieces (Printer.escaped c ++ cs) = (pieces cs).map fun r => (p :: r.1, r.2)) ∧
      ∀ ps, assemble (p :: ps) = (assemble ps).map (c :: ·) := by
  rcases escaped_cases c with ⟨e, he, hshort, hwritten⟩ | ⟨hcontrol, hwritten⟩ |
    ⟨hquote, hslash, hcontrol, hwritten⟩
  · refine ⟨.char c, fun cs => ?_, fun ps => rfl⟩
    rw [hwritten]
    show pieces ('\\' :: e :: cs) = _
    rw [pieces, hshort]
    · cases pieces cs <;> rfl
    · intro _ _ _ _ _ hu _
      exact he hu
  · refine ⟨.unit c.toNat, fun cs => ?_, fun ps => ?_⟩
    · rw [hwritten, controlEscape_eq hcontrol]
      show pieces ('\\' :: 'u' :: '0' :: '0' :: _ :: _ :: cs) = _
      rw [pieces, codeUnit?_of_lt hcontrol]
      cases pieces cs <;> rfl
    · rw [assemble_unit hcontrol, Char.ofNat_toNat]
  · refine ⟨.char c, fun cs => ?_, fun ps => rfl⟩
    rw [hwritten]
    show pieces (c :: cs) = _
    rw [pieces.eq_def]
    split
    · next heq => cases heq
    · next heq => exact absurd (List.cons.inj heq).1 hquote
    · next heq => exact absurd (List.cons.inj heq).1 hslash
    · next heq => exact absurd (List.cons.inj heq).1 hslash
    · next heq =>
      cases heq
      rw [if_neg (by simp [hcontrol, hslash])]
      cases pieces cs <;> rfl

/-- A literal is read as its text. -/
theorem string_literal (s : String) (rest : List Char) :
    string (s.toList.flatMap Printer.escaped ++ '"' :: rest) = some (some s, rest) := by
  have hread : ∀ cs : List Char, ∃ ps,
      pieces (cs.flatMap Printer.escaped ++ '"' :: rest) = some (ps, rest) ∧
        assemble ps = some cs := by
    intro cs
    induction cs with
    | nil => exact ⟨[], rfl, rfl⟩
    | cons c cs ih =>
        obtain ⟨ps, hps, hcs⟩ := ih
        obtain ⟨p, hp, hc⟩ := exists_piece c
        refine ⟨p :: ps, ?_, ?_⟩
        · rw [List.flatMap_cons, List.append_assoc, hp, hps]
          rfl
        · rw [hc, hcs]
          rfl
  obtain ⟨ps, hps, hs⟩ := hread s.toList
  rw [string, hps]
  simp only [Option.map_some, hs, String.ofList_toList]

end

end Reader

/-! ## Values -/

mutual

/-- Whether every string and every name in a value is a text. -/
def isLegible : Json → Bool
  | .string t => t.isSome
  | .array vs => areLegible vs
  | .object ms => haveLegible ms
  | _ => true

def areLegible : List Json → Bool
  | [] => true
  | v :: vs => isLegible v && areLegible vs

def haveLegible : List (Option String × Json) → Bool
  | [] => true
  | (name, v) :: ms => name.isSome && isLegible v && haveLegible ms

end

/-- An integer starts with its sign or a digit. -/
theorem exists_integer_eq_cons (n : Int) :
    ∃ c cs, Printer.integer n = c :: cs ∧ (c = '-' ∨ c.isDigit = true) := by
  rcases Reader.integer_cases n with ⟨m, -, -, hwritten⟩ | ⟨m, -, hwritten⟩
  · exact ⟨_, _, hwritten, .inl rfl⟩
  · obtain ⟨c, cs, hcs, hc, -⟩ := Reader.exists_toDigits_eq_cons m
    exact ⟨c, cs, hwritten.trans hcs, .inr hc⟩

/-- A value starts with a character that is no blank and closes nothing. -/
theorem exists_value_eq_cons (v : Json) :
    ∃ c cs, Printer.value v = c :: cs ∧ Reader.isBlank c = false ∧ c ≠ ']' := by
  have hnumber : ∀ c : Char, c = '-' ∨ c.isDigit = true → Reader.isBlank c = false ∧ c ≠ ']' := by
    rintro c (rfl | hc)
    · decide
    · refine ⟨?_, ?_⟩
      · refine Bool.eq_false_iff.mpr fun hblank => ?_
        simp only [Reader.isBlank, Bool.or_eq_true, beq_iff_eq] at hblank
        rcases hblank with ((rfl | rfl) | rfl) | rfl <;> cases hc
      · rintro rfl
        cases hc
  cases v with
  | integer n =>
      obtain ⟨c, cs, hcs, hc⟩ := exists_integer_eq_cons n
      exact ⟨c, cs, hcs, hnumber c hc⟩
  | scientific m e =>
      obtain ⟨c, cs, hcs, hc⟩ := exists_integer_eq_cons m
      refine ⟨c, cs ++ ['e'] ++ Printer.integer e, ?_, hnumber c hc⟩
      rw [Printer.value, hcs]
      rfl
  | bool b => cases b <;> exact ⟨_, _, rfl, by decide⟩
  | null | string t | array vs | object ms => exact ⟨_, _, rfl, by decide⟩

theorem value_length_pos (v : Json) : 0 < (Printer.value v).length := by
  obtain ⟨c, cs, hcs, -⟩ := exists_value_eq_cons v
  rw [hcs]
  exact Nat.succ_pos _

namespace Printer

theorem literal_append (s : String) (rest : List Char) :
    literal s ++ rest = '"' :: (s.toList.flatMap escaped ++ '"' :: rest) := by
  simp [literal]

theorem items_cons_append (v w : Json) (vs : List Json) (rest : List Char) :
    items (v :: w :: vs) ++ rest = value v ++ ',' :: (items (w :: vs) ++ rest) := by
  simp [items]

theorem member_append (name : Option String) (v : Json) (rest : List Char) :
    members [(name, v)] ++ rest = literal (name.getD "") ++ ':' :: (value v ++ rest) := by
  simp [members]

theorem members_cons_append (name : Option String) (v : Json) (m : Option String × Json)
    (ms : List (Option String × Json)) (rest : List Char) :
    members ((name, v) :: m :: ms) ++ rest =
      literal (name.getD "") ++ ':' :: (value v ++ ',' :: (members (m :: ms) ++ rest)) := by
  simp [members]

/-- Items start as the first of them does. -/
theorem exists_items_eq_cons (v : Json) (vs : List Json) :
    ∃ c cs, items (v :: vs) = c :: cs ∧ Reader.isBlank c = false ∧ c ≠ ']' := by
  obtain ⟨c, cs, hcs, hc⟩ := exists_value_eq_cons v
  cases vs with
  | nil => exact ⟨c, cs, by rw [items, hcs], hc⟩
  | cons w vs => exact ⟨c, cs ++ [','] ++ items (w :: vs), by rw [items, hcs]; rfl, hc⟩

/-- Members start with a quote. -/
theorem exists_members_eq_cons (m : Option String × Json) (ms : List (Option String × Json)) :
    ∃ cs, members (m :: ms) = '"' :: cs := by
  obtain ⟨name, v⟩ := m
  cases ms with
  | nil => exact ⟨_, by rw [members]; rfl⟩
  | cons n ms => exact ⟨_, by rw [members]; rfl⟩

end Printer

namespace Reader

section

variable {fuel : Nat} {rest : List Char}

theorem skip_of_not_blank {c : Char} (h : isBlank c = false) (cs : List Char) :
    skip (c :: cs) = c :: cs := List.dropWhile_cons_of_neg (Bool.eq_false_iff.mp h)

theorem skip_value (v : Json) (rest : List Char) :
    skip (Printer.value v ++ rest) = Printer.value v ++ rest := by
  obtain ⟨c, cs, hcs, hblank, -⟩ := exists_value_eq_cons v
  rw [hcs]
  exact skip_of_not_blank hblank _

theorem skip_items (v : Json) (vs : List Json) (rest : List Char) :
    skip (Printer.items (v :: vs) ++ rest) = Printer.items (v :: vs) ++ rest := by
  obtain ⟨c, cs, hcs, hblank, -⟩ := Printer.exists_items_eq_cons v vs
  rw [hcs]
  exact skip_of_not_blank hblank _

theorem skip_members (m : Option String × Json) (ms : List (Option String × Json))
    (rest : List Char) :
    skip (Printer.members (m :: ms) ++ rest) = Printer.members (m :: ms) ++ rest := by
  obtain ⟨cs, hcs⟩ := Printer.exists_members_eq_cons m ms
  rw [hcs]
  exact skip_of_not_blank rfl _

/-- What starts with a sign or a digit is read as a number. -/
theorem value_of_number {c : Char} (h : c = '-' ∨ c.isDigit = true) (cs : List Char) :
    value (fuel + 1) (c :: cs) = number (c :: cs) := by
  rw [value.eq_def]
  rcases h with rfl | h
  · rfl
  · dsimp only
    split
    case h_7 => rfl
    all_goals
      next heq =>
        cases heq
        cases h

theorem value_literal (t : String) :
    value (fuel + 1) (Printer.literal t ++ rest) = some (.string t, rest) := by
  rw [Printer.literal_append]
  show (string (t.toList.flatMap Printer.escaped ++ '"' :: rest)).map _ = _
  rw [string_literal]
  rfl

/-- An opening bracket with items behind it. -/
theorem value_of_items {v : Json} {vs : List Json}
    (h : items fuel (Printer.items (v :: vs) ++ ']' :: rest) = some (v :: vs, rest)) :
    value (fuel + 1) ('[' :: (Printer.items (v :: vs) ++ ']' :: rest)) =
      some (.array (v :: vs), rest) := by
  obtain ⟨c, cs, hcs, hblank, hc⟩ := Printer.exists_items_eq_cons v vs
  rw [value]
  rw [hcs, List.cons_append] at h ⊢
  rw [skip_of_not_blank hblank]
  split
  · next heq => exact absurd (List.cons.inj heq).1 hc
  · rw [h]
    rfl

/-- An opening brace with members behind it. -/
theorem value_of_members {m : Option String × Json} {ms : List (Option String × Json)}
    (h : members fuel (Printer.members (m :: ms) ++ '\x7d' :: rest) = some (m :: ms, rest)) :
    value (fuel + 1) ('\x7b' :: (Printer.members (m :: ms) ++ '\x7d' :: rest)) =
      some (.object (m :: ms), rest) := by
  obtain ⟨cs, hcs⟩ := Printer.exists_members_eq_cons m ms
  rw [value]
  rw [hcs, List.cons_append] at h ⊢
  rw [skip_of_not_blank rfl]
  split
  · next heq => exact absurd (List.cons.inj heq).1 (by decide)
  · rw [h]
    rfl

end

mutual

/-- A value is read, and what is behind it is left. -/
theorem value_append : ∀ (v : Json) (fuel : Nat) (rest : List Char), v.isLegible = true →
    (Printer.value v).length ≤ fuel → Ends rest →
    value fuel (Printer.value v ++ rest) = some (v, rest)
  | .null, fuel + 1, rest, _, _, _ => rfl
  | .bool true, fuel + 1, rest, _, _, _ => rfl
  | .bool false, fuel + 1, rest, _, _, _ => rfl
  | .integer n, fuel + 1, rest, _, _, hrest => by
      obtain ⟨c, cs, hcs, hc⟩ := exists_integer_eq_cons n
      have hread := number_integer n hrest
      rw [hcs, List.cons_append] at hread
      rw [Printer.value, hcs, List.cons_append, value_of_number hc, hread]
  | .scientific m e, fuel + 1, rest, _, _, hrest => by
      obtain ⟨c, cs, hcs, hc⟩ := exists_integer_eq_cons m
      have hread := number_scientific m e hrest
      rw [hcs, List.cons_append] at hread
      rw [Printer.value, hcs, List.append_assoc, List.append_assoc, List.cons_append,
        value_of_number hc]
      exact hread
  | .string (some t), fuel + 1, rest, _, _, _ => value_literal t
  | .array [], fuel + 1, rest, _, _, _ => rfl
  | .array (v :: vs), fuel + 1, rest, h, hfuel, _ => by
      rw [Printer.value] at hfuel ⊢
      have hread := items_append v vs fuel rest h (by simp at hfuel; omega)
      simpa using value_of_items hread
  | .object [], fuel + 1, rest, _, _, _ => rfl
  | .object (m :: ms), fuel + 1, rest, h, hfuel, _ => by
      rw [Printer.value] at hfuel ⊢
      have hread := members_append m ms fuel rest h (by simp at hfuel; omega)
      simpa using value_of_members hread
  | v, 0, rest, _, hfuel, _ => absurd hfuel (Nat.not_le_of_lt (value_length_pos v))

/-- The items of an array are read up to its closing bracket. -/
theorem items_append : ∀ (v : Json) (vs : List Json) (fuel : Nat) (rest : List Char),
    areLegible (v :: vs) = true → (Printer.items (v :: vs)).length < fuel →
    items fuel (Printer.items (v :: vs) ++ ']' :: rest) = some (v :: vs, rest)
  | v, [], fuel + 1, rest, h, hfuel => by
      rw [areLegible, Bool.and_eq_true] at h
      rw [Printer.items] at hfuel ⊢
      have hread := value_append v fuel (']' :: rest) h.1 (Nat.le_of_lt_succ hfuel) (by simp [Ends])
      rw [items, hread]
      rfl
  | v, w :: vs, fuel + 1, rest, h, hfuel => by
      rw [areLegible, Bool.and_eq_true] at h
      have hlength : (Printer.value v).length + (Printer.items (w :: vs)).length < fuel := by
        simp [Printer.items] at hfuel ⊢
        omega
      have hread := value_append v fuel (',' :: (Printer.items (w :: vs) ++ ']' :: rest)) h.1
        (by omega) (by simp [Ends])
      have hrest := items_append w vs fuel rest h.2 (by omega)
      rw [Printer.items_cons_append, items, hread]
      show (items fuel (skip (Printer.items (w :: vs) ++ ']' :: rest)) >>= _) = _
      rw [skip_items, hrest]
      rfl

/-- The members of an object are read up to its closing brace. -/
theorem members_append : ∀ (m : Option String × Json) (ms : List (Option String × Json))
    (fuel : Nat) (rest : List Char), haveLegible (m :: ms) = true →
    (Printer.members (m :: ms)).length < fuel →
    members fuel (Printer.members (m :: ms) ++ '\x7d' :: rest) = some (m :: ms, rest)
  | (some name, v), [], fuel + 1, rest, h, hfuel => by
      rw [haveLegible, Bool.and_eq_true, Bool.and_eq_true] at h
      have hlength : (Printer.value v).length ≤ fuel := by
        simp [Printer.members] at hfuel
        omega
      have hread := value_append v fuel ('\x7d' :: rest) h.1.2 hlength (by simp [Ends])
      rw [Printer.member_append, Printer.literal_append, members]
      show (string (name.toList.flatMap Printer.escaped ++ '"' :: _) >>= _) = _
      rw [string_literal]
      show (value fuel (skip (Printer.value v ++ '\x7d' :: rest)) >>= _) = _
      rw [skip_value, hread]
      rfl
  | (some name, v), m :: ms, fuel + 1, rest, h, hfuel => by
      rw [haveLegible, Bool.and_eq_true, Bool.and_eq_true] at h
      have hlength : (Printer.value v).length + (Printer.members (m :: ms)).length < fuel := by
        simp [Printer.members] at hfuel ⊢
        omega
      have hread := value_append v fuel (',' :: (Printer.members (m :: ms) ++ '\x7d' :: rest)) h.1.2
        (by omega) (by simp [Ends])
      have hrest := members_append m ms fuel rest h.2 (by omega)
      rw [Printer.members_cons_append, Printer.literal_append, members]
      show (string (name.toList.flatMap Printer.escaped ++ '"' :: _) >>= _) = _
      rw [string_literal]
      show (value fuel (skip (Printer.value v ++ ',' :: _)) >>= _) = _
      rw [skip_value, hread]
      show (members fuel (skip (Printer.members (m :: ms) ++ '\x7d' :: rest)) >>= _) = _
      rw [skip_members, hrest]
      rfl

end

end Reader

/-- A value of which every string is a text is what its document is read as. -/
theorem parse?_render {v : Json} (h : v.isLegible = true) : parse? v.render = some v := by
  have hread := Reader.value_append v (2 * (Printer.value v).length + 2) [] h (by omega)
    (by simp [Ends])
  have hskip := Reader.skip_value v []
  rw [List.append_nil] at hread hskip
  rw [parse?, render, String.toList_ofList, hskip, hread]
  rfl

end MediaCodec.Json
