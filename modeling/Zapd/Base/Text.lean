import Mathlib.Data.List.Basic

/-! Characters, parts of texts and decimal digits, as parsers of texts meet them. -/

namespace Text

/-- The lowercase letters by their numbers. -/
theorem isLower_iff {c : Char} : c.isLower = true ↔ 97 ≤ c.toNat ∧ c.toNat ≤ 122 := by
  show (decide (c.val ≥ 'a'.val) && decide (c.val ≤ 'z'.val)) = true ↔ _
  simp only [Bool.and_eq_true, decide_eq_true_eq, ge_iff_le, UInt32.le_iff_toNat_le]
  rfl

/-- The digits by their numbers. -/
theorem isDigit_iff {c : Char} : c.isDigit = true ↔ 48 ≤ c.toNat ∧ c.toNat ≤ 57 := by
  show (decide (c.val ≥ '0'.val) && decide (c.val ≤ '9'.val)) = true ↔ _
  simp only [Bool.and_eq_true, decide_eq_true_eq, ge_iff_le, UInt32.le_iff_toNat_le]
  rfl

/-- No part of a split list holds the separator. -/
theorem not_mem_of_mem_splitOn {α : Type} [BEq α] [LawfulBEq α] {separator : α}
    {items part : List α} (among : part ∈ items.splitOn separator) : separator ∉ part := by
  induction items generalizing part with
  | nil =>
    obtain rfl := List.mem_singleton.mp among
    exact List.not_mem_nil
  | cons item items ih =>
    rw [List.splitOn_cons_eq_if_modifyHead] at among
    split at among
    · -- A separator starts a new part, which is empty so far.
      rcases List.mem_cons.mp among with rfl | later
      · exact List.not_mem_nil
      · exact ih later
    · -- Anything else is put in front of the first part.
      rename_i other
      cases parts : items.splitOn separator with
      | nil => exact absurd parts (List.splitOn_ne_nil _ _)
      | cons head tail =>
        rw [parts] at among ih
        rcases List.mem_cons.mp among with rfl | later
        · intro member
          rcases List.mem_cons.mp member with rfl | within
          · exact other BEq.rfl
          · exact ih List.mem_cons_self within
        · exact ih (List.mem_cons_of_mem _ later)

/-- Nothing is dropped from a text that starts with something else. -/
theorem dropWhile_of_none {text : List Char} {drops : Char → Bool}
    (none : ∀ c ∈ text, drops c = false) : text.dropWhile drops = text := by
  cases text with
  | nil => rfl
  | cons c rest => simp [List.dropWhile, none c List.mem_cons_self]

/-- A digit is what its value is written as. -/
theorem toDigits_digit {c : Char} (digit : c.isDigit) :
    c.toNat - 48 < 10 ∧ Nat.toDigits 10 (c.toNat - 48) = [c] := by
  obtain ⟨low, high⟩ := isDigit_iff.mp digit
  have small : c.toNat - 48 < 10 := by omega
  have values : ∀ value < 10, (Nat.digitChar value).toNat = 48 + value := by decide
  -- The digit of the value has the character's own number.
  have same : Nat.digitChar (c.toNat - 48) = c := by
    rw [← Char.toNat_inj, values _ small]
    omega
  exact ⟨small, by rw [Nat.toDigits_of_lt_base small, same]⟩

/-- Digits behind those of a positive number make the digits of the number they continue it to. -/
theorem toDigits_append {digits : List Char} (all : ∀ c ∈ digits, c.isDigit) {before : Nat}
    (positive : 0 < before) :
    Nat.toDigits 10 before ++ digits = Nat.toDigits 10 (Nat.ofDigitChars 10 digits before) := by
  induction digits generalizing before with
  | nil => rw [List.append_nil, Nat.ofDigitChars_nil]
  | cons c rest ih =>
    obtain ⟨digit, later⟩ := List.forall_mem_cons.mp all
    obtain ⟨small, written⟩ := toDigits_digit digit
    -- One more digit goes behind those of the number so far.
    have next : Nat.toDigits 10 before ++ [c] = Nat.toDigits 10 (10 * before + (c.toNat - 48)) := by
      rw [← written]
      exact Nat.toDigits_append_toDigits (by decide) positive small
    have split : Nat.toDigits 10 before ++ c :: rest = Nat.toDigits 10 before ++ [c] ++ rest := by
      rw [List.append_assoc]
      rfl
    rw [split, next, ih later (by omega), Nat.ofDigitChars_cons]
    rfl

/-- Digits are those of their number behind some zeros. -/
theorem digits_canonical {digits : List Char} (some : digits ≠ [])
    (all : ∀ c ∈ digits, c.isDigit) :
    ∃ zeros, digits =
      List.replicate zeros '0' ++ Nat.toDigits 10 (Nat.ofDigitChars 10 digits 0) := by
  induction digits with
  | nil => exact absurd rfl some
  | cons c rest ih =>
    obtain ⟨digit, later⟩ := List.forall_mem_cons.mp all
    obtain ⟨small, written⟩ := toDigits_digit digit
    -- The first digit is all there is before the others.
    have value : Nat.ofDigitChars 10 (c :: rest) 0 = Nat.ofDigitChars 10 rest (c.toNat - 48) := by
      rw [Nat.ofDigitChars_cons, Nat.mul_zero, Nat.zero_add]
      rfl
    rw [value]
    by_cases zero : c.toNat - 48 = 0
    · -- A zero in front counts nothing, unless it is the number's only digit.
      rw [zero] at written ⊢
      cases rest with
      | nil => exact ⟨0, written.symm⟩
      | cons d rest =>
        obtain ⟨zeros, same⟩ := ih (List.cons_ne_nil _ _) later
        refine ⟨zeros + 1, ?_⟩
        have first : c = '0' := List.singleton_inj.mp (written.symm.trans (Nat.toDigits_zero 10))
        rw [List.replicate_succ, List.cons_append, ← same, first]
    · -- From the first other digit on, every digit counts.
      refine ⟨0, ?_⟩
      rw [← toDigits_append later (by omega), written]
      rfl

/-- Digits behind zeros are those of the same number. -/
theorem ofDigitChars_padded (zeros value : Nat) :
    Nat.ofDigitChars 10 (List.replicate zeros '0' ++ Nat.toDigits 10 value) 0 = value := by
  rw [Nat.ofDigitChars_append, Nat.ofDigitChars_replicate_zero, Nat.mul_zero,
    Nat.ofDigitChars_ten_toDigits]

/-- Zeros and the digits of a number are digits. -/
theorem isDigit_padded {zeros value : Nat} {c : Char}
    (member : c ∈ List.replicate zeros '0' ++ Nat.toDigits 10 value) : c.isDigit := by
  rcases List.mem_append.mp member with zero | digit
  · -- The padding is the digit zero.
    rw [List.eq_of_mem_replicate zero]
    rfl
  · exact Nat.isDigit_of_mem_toDigits (by decide) (by decide) digit

end Text
