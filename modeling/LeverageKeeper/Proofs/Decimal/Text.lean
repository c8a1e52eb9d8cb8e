import LeverageKeeper.Proofs.Decimal.Spelling

/-!
# Reading back what was written

A row of digits is read as the number that it spells, and the text of a decimal as the decimal, with
its scale.  Only the sign of a zero is lost on the way: the text of a decimal is plain and spells
it, since its digits fit at all of their places.
-/

namespace LeverageKeeper

/-! ### Rows of digits -/

lemma isDigit_of_mem_toDigits {n : ℕ} {c : Char} (h : c ∈ Nat.toDigits 10 n) : c.isDigit :=
  Nat.isDigit_of_mem_toDigits (by decide) (by decide) h

/-- **The digits of a number are read as the number.** -/
theorem readDigits?_toDigits (n : ℕ) : readDigits? (Nat.toDigits 10 n) = some n :=
  readDigits?_eq_some.2
    ⟨fun _ hc => isDigit_of_mem_toDigits hc, Nat.toDigits_ne_nil, Nat.ofDigitChars_ten_toDigits⟩

namespace Decimal

/-! ### The written digits -/

section Padded

variable {n k : ℕ}

lemma isDigit_of_mem_padded {c : Char} (h : c ∈ padded n k) : c.isDigit := by
  rcases List.mem_append.1 h with h | h
  · rw [List.eq_of_mem_replicate h]
    rfl
  · exact isDigit_of_mem_toDigits h

lemma ofDigitChars_padded : Nat.ofDigitChars 10 (padded n k) 0 = n := by
  unfold padded
  rw [Nat.ofDigitChars_append, Nat.ofDigitChars_replicate_zero, Nat.mul_zero,
    Nat.ofDigitChars_ten_toDigits]

lemma le_length_padded : k ≤ (padded n k).length := by
  unfold padded
  rw [List.length_append, List.length_replicate]
  omega

end Padded

/-- The digits before the point, and those behind it. -/
lemma exists_digits (a : Decimal) : ∃ whole fraction : List Char,
    a.chars = (if a.negative then ['-'] else []) ++ whole ++
      (if a.scale = 0 then [] else '.' :: fraction) ∧
    whole ≠ [] ∧ fraction.length = a.scale ∧ (∀ c ∈ whole ++ fraction, c.isDigit) ∧
    Nat.ofDigitChars 10 fraction (Nat.ofDigitChars 10 whole 0) = a.digits := by
  have hlen : a.scale + 1 ≤ (padded a.digits (a.scale + 1)).length := le_length_padded
  refine ⟨_, _, rfl, ?_, ?_, ?_, ?_⟩
  · intro hw
    have hw' := congrArg List.length hw
    rw [List.length_take, List.length_nil] at hw'
    omega
  · rw [List.length_drop]
    omega
  · rw [List.take_append_drop]
    exact fun c hc => isDigit_of_mem_padded hc
  · rw [← Nat.ofDigitChars_append, List.take_append_drop, ofDigitChars_padded]

/-! ### The text of a decimal -/

/-- The digits of a decimal are digits, and the rest is a sign and a point. -/
lemma isPlain_text (a : Decimal) : IsPlain a.text := by
  obtain ⟨whole, fraction, hchars, -, -, hd, -⟩ := a.exists_digits
  have hplain : ∀ c ∈ a.chars, c = '-' ∨ c = '.' ∨ c.isDigit := by
    rw [hchars]
    intro c hc
    rcases List.mem_append.1 hc with hc | hc
    · rcases List.mem_append.1 hc with hc | hc
      · split at hc
        · exact .inl (List.mem_singleton.1 hc)
        · exact absurd hc List.not_mem_nil
      · exact .inr (.inr (hd c (List.mem_append_left _ hc)))
    · split at hc
      · exact absurd hc List.not_mem_nil
      · exact .inr ((List.mem_cons.1 hc).imp_right fun hc => hd c (List.mem_append_right _ hc))
  intro c hc
  rw [text, String.toList_ofList] at hc
  rcases hplain c hc with rfl | rfl | hdigit
  · decide
  · decide
  · refine ⟨?_, ?_, ?_⟩ <;> rintro rfl <;> exact absurd hdigit (by decide)

/-- The text of a decimal spells it, but for the sign of a zero. -/
lemma spells_text (a : Decimal) : Spells a.text.toList a.unsignedZero := by
  obtain ⟨whole, fraction, hchars, hw, hf, hd, hn⟩ := a.exists_digits
  have hbody : Numeral (whole ++ if a.scale = 0 then [] else '.' :: fraction) whole fraction := by
    refine ⟨?_, hd, List.append_ne_nil_of_left_ne_nil hw _⟩
    split
    next h0 => exact .inl ⟨List.append_nil _, List.length_eq_zero_iff.1 (hf.trans h0)⟩
    next => exact .inr rfl
  have hfit : Fitted (Nat.ofDigitChars 10 (whole ++ fraction) 0) fraction.length a.digits
      a.scale := by
    rw [Nat.ofDigitChars_append, hn, hf]
    exact ⟨Nat.le_refl _, a.scale_le, by simp, a.digits_lt,
      fun k hlt hle => absurd hlt (Nat.not_lt.2 hle)⟩
  have hunsigned : a.unsignedZero.digits = a.digits ∧ a.unsignedZero.scale = a.scale ∧
      a.unsignedZero.negative = (a.negative && decide (a.digits ≠ 0)) := by
    unfold unsignedZero isZero abs
    by_cases h0 : a.digits = 0 <;> simp [h0]
  obtain ⟨hdigits, hscale, hnegative⟩ := hunsigned
  refine ⟨a.negative, _, whole, fraction, ?_, hbody, ?_, ?_⟩
  · rw [text, String.toList_ofList, hchars, List.append_assoc]
    cases a.negative with
    | true => exact .inl ⟨rfl, rfl⟩
    | false => exact .inr ⟨.inr rfl, rfl⟩
  · rwa [hdigits, hscale]
  · rw [hnegative, hdigits]

/-- **A decimal is read back from its text**, but for the sign of a zero. -/
theorem ofText?_text (a : Decimal) : ofText? a.text = some a.unsignedZero :=
  (readsPlain_ofText? _ a.isPlain_text _).2 a.spells_text

/-- The text shows the sign. -/
lemma head?_chars (a : Decimal) : a.chars.head? = some '-' ↔ a.negative = true := by
  obtain ⟨whole, fraction, hchars, hw, -, hd, -⟩ := a.exists_digits
  obtain ⟨c, cs, rfl⟩ := List.exists_cons_of_ne_nil hw
  rw [hchars]
  cases a.negative with
  | true => simp
  | false =>
    have hc : c.isDigit := hd c (by simp)
    have hminus : c ≠ '-' := by rintro rfl; exact absurd hc (by decide)
    simp [hminus]

lemma unsignedZero_eq_of_text_eq {a : Decimal} (h : a.unsignedZero.text = a.text) :
    a.unsignedZero = a := by
  have hchars : a.unsignedZero.chars = a.chars := by
    have hlist := congrArg String.toList h
    rwa [text, text, String.toList_ofList, String.toList_ofList] at hlist
  have hsign : a.unsignedZero.negative = true ↔ a.negative = true := by
    rw [← head?_chars, ← head?_chars, hchars]
  cases hn : a.negative with
  | false => exact unsignedZero_of_not_negative hn
  | true =>
    unfold unsignedZero at hsign ⊢
    split
    next hz =>
      rw [if_pos hz] at hsign
      exact absurd (hsign.2 hn) Bool.false_ne_true
    next => rfl

@[simp] lemma unsignedZero_unsignedZero (a : Decimal) :
    a.unsignedZero.unsignedZero = a.unsignedZero := by
  unfold unsignedZero
  by_cases h : a.isZero
  · simp only [h, ↓reduceIte]
    split <;> rfl
  · simp only [h, Bool.false_eq_true, ↓reduceIte]

end Decimal

end LeverageKeeper
