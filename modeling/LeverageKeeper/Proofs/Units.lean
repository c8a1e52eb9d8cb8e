import LeverageKeeper.Proofs.Decimal.Quotients
import LeverageKeeper.Units
import Mathlib.Algebra.Order.Floor.Semifield
import Mathlib.Data.Rat.Floor

/-!
# Native units and whole tokens

The passage from native units to whole tokens is exact, and the passage back cuts off what lies
below one unit and nothing else, as far as the numbers are in range.
-/

namespace LeverageKeeper.Decimal

/-! ### Powers of ten -/

@[simp] lemma toRat_pow10 (d : ℕ) : (pow10 d).toRat = 10 ^ Nat.min d maxScale := by
  rw [toRat_eq]
  simp [pow10, coeff, tenPow_cast]

/-- What is in range is at most half a unit beyond the last whole number of it. -/
lemma IsRounding.le_limit {x : ℚ} {q s : ℕ} (h : IsRounding x q s) (hx : 0 ≤ x) :
    x ≤ limit - 1 / 2 := by
  have h1 := (abs_le.1 h.near).2
  have h2 := cast_le_of_lt_bound h.digits_lt
  have h3 : x ≤ x * 10 ^ s := le_mul_of_one_le_right hx (one_le_pow₀ (by norm_num))
  linarith

/-- A decimal times a power of ten is a decimal again, or a whole number beyond the range. -/
lemma scaled_cases (a : Decimal) (k : ℕ) :
    (∃ y : Decimal, y.toRat = a.toRat * 10 ^ k) ∨ limit ≤ |a.toRat * 10 ^ k| := by
  rcases Nat.lt_or_ge k a.scale with hk | hk
  · left
    obtain ⟨i, hi⟩ := Nat.exists_eq_add_of_le hk.le
    refine ⟨⟨a.negative, a.digits, a.scale - k, a.digits_lt,
      (Nat.sub_le _ _).trans a.scale_le⟩, ?_⟩
    rw [toRat_of_sign, toRat_of_sign]
    simp only
    have h : (a.digits / 10 ^ (a.scale - k) : ℚ) = a.digits / 10 ^ a.scale * 10 ^ k := by
      rw [hi, Nat.add_sub_cancel_left, pow_add]
      field_simp
    rw [h]
    split <;> ring
  · obtain ⟨i, rfl⟩ := Nat.exists_eq_add_of_le hk
    have h : (a.digits / 10 ^ a.scale : ℚ) * 10 ^ (a.scale + i) = (a.digits * tenPow i : ℕ) := by
      push_cast
      rw [tenPow_cast, pow_add]
      field_simp
    by_cases hb : a.digits * tenPow i < bound
    · left
      refine ⟨⟨a.negative, a.digits * tenPow i, 0, hb, Nat.zero_le _⟩, ?_⟩
      rw [toRat_of_sign, toRat_of_sign]
      simp only
      rw [pow_zero, div_one, ← h]
      split <;> ring
    · right
      rw [abs_mul, abs_toRat, abs_of_pos (by positivity : (0 : ℚ) < 10 ^ (a.scale + i)), h]
      exact limit_le_of_bound_le (Nat.le_of_not_lt hb)

/-- Scaling by a power of ten is exact. -/
theorem toRat_of_mul?_pow10 {a c : Decimal} {d : ℕ} (h : a.mul? (pow10 d) = some c) :
    c.toRat = a.toRat * 10 ^ Nat.min d maxScale := by
  have hr := rounds_mul? h
  rw [toRat_pow10] at hr
  rcases scaled_cases a (Nat.min d maxScale) with ⟨y, hy⟩ | hb
  · exact hr.eq hy.symm
  · obtain ⟨q, s, hr, -⟩ := hr
    have := hr.le_limit (abs_nonneg _)
    linarith

theorem limit_le_of_mul?_pow10_eq_none {a : Decimal} {d : ℕ} (h : a.mul? (pow10 d) = none) :
    limit ≤ |a.toRat * 10 ^ Nat.min d maxScale| := by
  have hr := mul?_eq_none h
  rw [toRat_pow10] at hr
  rcases scaled_cases a (Nat.min d maxScale) with ⟨y, hy⟩ | hb
  · have := abs_toRat_le y
    rw [hy] at this
    linarith
  · exact hb

lemma digits_trunc (a : Decimal) : a.trunc.digits = ⌊|a.toRat|⌋₊ := by
  rw [abs_toRat, ← tenPow_cast, Nat.floor_div_eq_div]
  rfl

/-- The product with a power of ten exists just if its whole part is in range. -/
lemma mul?_pow10_cases (a : Decimal) (d : ℕ) :
    (⌊|a.toRat| * 10 ^ Nat.min d maxScale⌋₊ < bound ∧
        ∃ c, a.mul? (pow10 d) = some c ∧ c.toRat = a.toRat * 10 ^ Nat.min d maxScale ∧
          c.trunc.digits = ⌊|a.toRat| * 10 ^ Nat.min d maxScale⌋₊) ∨
      (¬ ⌊|a.toRat| * 10 ^ Nat.min d maxScale⌋₊ < bound ∧ a.mul? (pow10 d) = none) := by
  have habs : |a.toRat * 10 ^ Nat.min d maxScale| = |a.toRat| * 10 ^ Nat.min d maxScale := by
    rw [abs_mul, abs_of_pos (by positivity : (0 : ℚ) < 10 ^ Nat.min d maxScale)]
  cases hm : a.mul? (pow10 d) with
  | some c =>
    have hv := toRat_of_mul?_pow10 hm
    have hdigits := c.digits_trunc
    rw [hv, habs] at hdigits
    exact .inl ⟨hdigits ▸ c.trunc.digits_lt, c, rfl, hv, hdigits⟩
  | none =>
    have hb := limit_le_of_mul?_pow10_eq_none hm
    rw [habs] at hb
    exact .inr ⟨Nat.not_lt.2 (Nat.le_floor hb), rfl⟩

/-! ### The two passages -/

/-- **Native units in range make an exact amount of whole tokens.** -/
theorem ofUnits_of_lt {units : ℕ} (h : units < bound) (d : ℕ) :
    ∃ x, ofUnits units d = .ok x ∧ x.toRat = units / 10 ^ Nat.min d maxScale := by
  have hw : ofScaled? units 0 = some ⟨false, units, 0, h, Nat.zero_le _⟩ := by
    unfold ofScaled? ofParts?
    rw [dif_pos ⟨by simpa using h, Nat.zero_le _⟩]
    simp
  have hwr : (⟨false, units, 0, h, Nat.zero_le _⟩ : Decimal).toRat = units := by
    simp [toRat_of_sign]
  have hp : (1 : ℚ) ≤ 10 ^ Nat.min d maxScale := one_le_pow₀ (by norm_num)
  have hx : (units / 10 ^ Nat.min d maxScale : ℚ) ≤ units := div_le_self (Nat.cast_nonneg _) hp
  unfold ofUnits
  rw [hw]
  cases hd : (⟨false, units, 0, h, Nat.zero_le _⟩ : Decimal).div? (pow10 d) with
  | none =>
    exfalso
    rcases div?_eq_none hd with h0 | hb
    · rw [toRat_pow10] at h0
      linarith
    · rw [hwr, toRat_pow10, abs_of_nonneg (by positivity)] at hb
      have := cast_le_of_lt_bound h
      linarith
  | some x =>
    refine ⟨x, by simp [orRefuse, dividedBy, hd, orCrash, bind, Except.bind, liftM, monadLift], ?_⟩
    have hr := rounds_div? hd
    rw [hwr, toRat_pow10] at hr
    refine hr.eq (y := ⟨false, units, Nat.min d maxScale, h, Nat.min_le_right _ _⟩) ?_
    simp [toRat_of_sign]

/-- Native units beyond the range are refused. -/
theorem ofUnits_of_ge {units : ℕ} (h : bound ≤ units) (d : ℕ) :
    ofUnits units d = .error (.refused (.numeric (.unitsTooLarge units))) := by
  have hw : ofScaled? units 0 = none := by
    unfold ofScaled? ofParts?
    rw [dif_neg]
    simp only [Int.natAbs_natCast]
    omega
  unfold ofUnits
  rw [hw]
  rfl

/-- **Whole tokens become native units by cutting off what lies below one unit.** -/
theorem toUnits_of_nonneg {a : Decimal} (ha : 0 ≤ a.toRat) (d : ℕ) :
    a.toUnits d =
      if ⌊a.toRat * 10 ^ Nat.min d maxScale⌋₊ < bound
      then .ok ⌊a.toRat * 10 ^ Nat.min d maxScale⌋₊
      else .error (.numeric (.amountTooLarge a d)) := by
  have hc : ¬ a.coeff < 0 := fun h => absurd (coeff_neg_iff.1 h) (by linarith)
  unfold toUnits
  rw [if_neg hc]
  rcases mul?_pow10_cases a d with ⟨hlt, c, hm, -, hdigits⟩ | ⟨hlt, hm⟩
  · rw [abs_of_nonneg ha] at hlt hdigits
    rw [hm, if_pos hlt, ← hdigits]
  · rw [abs_of_nonneg ha] at hlt
    rw [hm, if_neg hlt]

/-- A negative amount has no native units. -/
theorem toUnits_of_neg {a : Decimal} (ha : a.toRat < 0) (d : ℕ) :
    a.toUnits d = .error (.numeric (.negativeAmount a)) := by
  unfold toUnits
  rw [if_pos (coeff_neg_iff.2 ha)]

theorem toUnits_eq_ok {a : Decimal} {d n : ℕ} :
    a.toUnits d = .ok n ↔
      0 ≤ a.toRat ∧ n = ⌊a.toRat * 10 ^ Nat.min d maxScale⌋₊ ∧ n < bound := by
  rcases lt_or_ge a.toRat 0 with ha | ha
  · rw [toUnits_of_neg ha]
    simp [ha]
  · rw [toUnits_of_nonneg ha]
    split
    next h =>
      simp only [Except.ok.injEq, ha, true_and]
      exact ⟨fun he => ⟨he.symm, he ▸ h⟩, fun he => he.1.symm⟩
    next h =>
      simp only [reduceCtorEq, ha, true_and, false_iff, not_and]
      rintro rfl
      exact h

/-- Cutting off what lies below one keeps the sign. -/
lemma coeff_trunc (a : Decimal) :
    a.trunc.coeff = if a.toRat < 0 then -(⌊|a.toRat|⌋₊ : ℤ) else ⌊|a.toRat|⌋₊ := by
  have hcoeff : a.trunc.coeff = if a.negative then -(⌊|a.toRat|⌋₊ : ℤ) else ⌊|a.toRat|⌋₊ := by
    rw [← digits_trunc]
    rfl
  rw [hcoeff, toRat_of_sign]
  have hpart : (0 : ℚ) ≤ a.digits / 10 ^ a.scale := by positivity
  cases a.negative with
  | false => simp only [Bool.false_eq_true, ↓reduceIte, hpart.not_gt]
  | true =>
    simp only [↓reduceIte, neg_lt_zero, abs_neg]
    rcases hpart.eq_or_lt with hzero | hpos
    · -- a zero may have a sign
      simp [← hzero]
    · rw [if_pos hpos]

/-- **A price is published as the whole number of units in it**, the rest cut off, as long as that
is in range. -/
theorem toAnswer?_eq (a : Decimal) (d : ℕ) :
    a.toAnswer? d =
      if ⌊|a.toRat| * 10 ^ Nat.min d maxScale⌋₊ < bound
      then some (if a.toRat < 0 then -(⌊|a.toRat| * 10 ^ Nat.min d maxScale⌋₊ : ℤ)
        else ⌊|a.toRat| * 10 ^ Nat.min d maxScale⌋₊)
      else none := by
  unfold toAnswer?
  rcases mul?_pow10_cases a d with ⟨hlt, c, hm, hv, hdigits⟩ | ⟨hlt, hm⟩
  · have hsign : c.toRat < 0 ↔ a.toRat < 0 := by
      have hp : (0 : ℚ) < 10 ^ Nat.min d maxScale := by positivity
      rw [hv, mul_neg_iff]
      simp only [hp, hp.not_gt, and_false, and_true, false_or]
    rw [hm, if_pos hlt, Option.map_some, coeff_trunc, ← digits_trunc, hdigits]
    simp only [hsign]
  · rw [hm, if_neg hlt]
    rfl

/-- A positive price is published as the whole number of units in it. -/
theorem toAnswer?_eq_some {a : Decimal} {d : ℕ} {n : ℤ} (h : a.toAnswer? d = some n)
    (ha : 0 < a.toRat) :
    n = ⌊a.toRat * 10 ^ Nat.min d maxScale⌋₊ ∧ n.natAbs < bound := by
  simp only [toAnswer?_eq, abs_of_pos ha, ha.not_gt, ↓reduceIte] at h
  split at h
  next hlt =>
    cases h
    exact ⟨rfl, hlt⟩
  next => cases h

end LeverageKeeper.Decimal

namespace LeverageKeeper

open Decimal (bound maxScale)

/-! ### There and back -/

/-- Amounts in whole tokens are the amounts held, exactly. -/
lemma ofUnits_eq_ok {n d : ℕ} {x : Decimal} (h : Decimal.ofUnits n d = .ok x) :
    n < Decimal.bound ∧ x.toRat = n / 10 ^ Nat.min d maxScale := by
  rcases Nat.lt_or_ge n Decimal.bound with hn | hn
  · obtain ⟨y, hy, hv⟩ := Decimal.ofUnits_of_lt hn d
    obtain rfl : y = x := by simpa [hy] using h
    exact ⟨hn, hv⟩
  · rw [Decimal.ofUnits_of_ge hn] at h
    cases h

/-- An amount held goes to whole tokens and back unchanged. -/
theorem toUnits_of_ofUnits {n d : ℕ} {x : Decimal} (h : Decimal.ofUnits n d = .ok x) :
    x.toUnits d = .ok n := by
  obtain ⟨hn, hx⟩ := ofUnits_eq_ok h
  have hp : (0 : ℚ) < 10 ^ Nat.min d maxScale := by positivity
  refine Decimal.toUnits_eq_ok.2 ⟨?_, ?_, hn⟩
  · rw [hx]
    positivity
  · rw [hx, div_mul_cancel₀ _ hp.ne', Nat.floor_natCast]

/-- **Native units and whole tokens pass into each other without loss**, as far as decimals reach,
and of an amount of whole tokens only what lies below one native unit is cut off. -/
theorem Decimal.units_lossless {d : ℕ} (hd : d ≤ maxScale) :
    (∀ units < bound, ∃ x, ofUnits units d = .ok x ∧ x.toRat = units / 10 ^ d ∧
        x.toUnits d = .ok units) ∧
      (∀ units ≥ bound,
        ofUnits units d = .error (.refused (.numeric (.unitsTooLarge units)))) ∧
      (∀ a : Decimal, 0 ≤ a.toRat → a.toUnits d =
        if ⌊a.toRat * 10 ^ d⌋₊ < bound then .ok ⌊a.toRat * 10 ^ d⌋₊
        else .error (.numeric (.amountTooLarge a d))) ∧
      (∀ a : Decimal, a.toRat < 0 → a.toUnits d = .error (.numeric (.negativeAmount a))) ∧
      ∀ a n, toUnits a d = .ok n → ∃ x, ofUnits n d = .ok x ∧ x.toRat ≤ a.toRat ∧
        a.toRat < x.toRat + 1 / 10 ^ d := by
  have hmin : Nat.min d maxScale = d := Nat.min_eq_left hd
  have hp : (0 : ℚ) < 10 ^ d := by positivity
  refine ⟨?_, fun units h => ofUnits_of_ge h d, ?_, fun a ha => toUnits_of_neg ha d, ?_⟩
  · intro units hunits
    obtain ⟨x, hx, hvalue⟩ := ofUnits_of_lt hunits d
    exact ⟨x, hx, by rw [hvalue, hmin], toUnits_of_ofUnits hx⟩
  · intro a ha
    have h := toUnits_of_nonneg ha d
    rwa [hmin] at h
  · intro a n h
    obtain ⟨ha, hn, hlt⟩ := toUnits_eq_ok.1 h
    rw [hmin] at hn
    obtain ⟨x, hx, hvalue⟩ := ofUnits_of_lt hlt d
    rw [hmin, hn] at hvalue
    refine ⟨x, hx, ?_, ?_⟩
    · rw [hvalue, div_le_iff₀ hp]
      exact Nat.floor_le (by positivity)
    · rw [hvalue, ← add_div, lt_div_iff₀ hp]
      exact Nat.lt_floor_add_one _

/-- So do 2500.25 tokens of six decimals. -/
theorem Decimal.units_lossless_six :
    6 ≤ maxScale ∧ ∃ x, ofUnits 2500250000 6 = .ok x ∧ x.toRat = 2500 + 1 / 4 ∧
      x.toUnits 6 = .ok 2500250000 := by
  have hd : 6 ≤ maxScale := by decide
  obtain ⟨hback, -⟩ := units_lossless hd
  obtain ⟨x, hx, hvalue, hunits⟩ := hback 2500250000 (by decide)
  norm_num at hvalue
  refine ⟨hd, x, hx, ?_, hunits⟩
  rw [hvalue]
  norm_num

end LeverageKeeper
