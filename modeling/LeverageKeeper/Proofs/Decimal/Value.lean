import LeverageKeeper.Decimal.Arith
import Mathlib.Algebra.Order.Field.Rat
import Mathlib.Data.Rat.Cast.Order
import Mathlib.Tactic.FieldSimp
import Mathlib.Tactic.Linarith
import Mathlib.Tactic.NormNum
import Mathlib.Tactic.Positivity
import Mathlib.Tactic.Ring

/-!
# The value of a decimal

A decimal stands for a rational number, its value.  The order of decimals is the order of their
values, and the sign operations are those of the rationals, so that comparisons of decimals can be
settled over `ℚ`.
-/

namespace LeverageKeeper

lemma tenPow_cast (k : ℕ) : ((tenPow k : ℕ) : ℚ) = 10 ^ k := by
  unfold tenPow
  rw [Nat.pow_eq, Nat.cast_pow, Nat.cast_ofNat]

namespace Decimal

theorem toRat_eq (a : Decimal) : a.toRat = (a.coeff : ℚ) / 10 ^ a.scale := by
  unfold toRat
  rw [Rat.mkRat_eq_div, tenPow_cast]

/-! ### Order -/

theorem le_iff_toRat {a b : Decimal} : a ≤ b ↔ a.toRat ≤ b.toRat := by
  have ha : (0 : ℚ) < 10 ^ a.scale := by positivity
  have hb : (0 : ℚ) < 10 ^ b.scale := by positivity
  rw [le_def, toRat_eq, toRat_eq, div_le_div_iff₀ ha hb, ← tenPow_cast, ← tenPow_cast]
  exact_mod_cast Iff.rfl

theorem lt_iff_toRat {a b : Decimal} : a < b ↔ a.toRat < b.toRat := by
  have ha : (0 : ℚ) < 10 ^ a.scale := by positivity
  have hb : (0 : ℚ) < 10 ^ b.scale := by positivity
  rw [lt_def, toRat_eq, toRat_eq, div_lt_div_iff₀ ha hb, ← tenPow_cast, ← tenPow_cast]
  exact_mod_cast Iff.rfl

theorem toRat_min (a b : Decimal) : (min a b).toRat = Min.min a.toRat b.toRat := by
  unfold min
  split
  next h => rw [min_eq_right (le_iff_toRat.1 (le_of_lt h))]
  next h => rw [min_eq_left (le_iff_toRat.1 (not_lt.1 h))]

theorem toRat_max (a b : Decimal) : (max a b).toRat = Max.max a.toRat b.toRat := by
  unfold max
  split
  next h => rw [max_eq_right (le_iff_toRat.1 (le_of_lt h))]
  next h => rw [max_eq_left (le_iff_toRat.1 (not_lt.1 h))]

/-! ### Sign -/

@[simp] lemma toRat_zero : zero.toRat = 0 := by simp [toRat_eq, zero, coeff]

@[simp] lemma toRat_one : one.toRat = 1 := by simp [toRat_eq, one, coeff]

theorem toRat_neg (a : Decimal) : a.neg.toRat = -a.toRat := by
  rw [toRat_eq, toRat_eq, coeff_neg, Int.cast_neg, neg_div]
  rfl

theorem abs_toRat (a : Decimal) : |a.toRat| = a.digits / 10 ^ a.scale := by
  have hs : (0 : ℚ) < 10 ^ a.scale := by positivity
  rw [toRat_eq, abs_div, abs_of_pos hs, ← Int.cast_abs, Int.abs_eq_natAbs, natAbs_coeff,
    Int.cast_natCast]

theorem toRat_abs (a : Decimal) : a.abs.toRat = |a.toRat| := by
  rw [abs_toRat, toRat_eq, coeff_abs, Int.cast_natCast]
  rfl

lemma toRat_unsignedZero (a : Decimal) : a.unsignedZero.toRat = a.toRat := by
  rw [toRat_eq, toRat_eq, coeff_unsignedZero]
  unfold unsignedZero
  split <;> rfl

lemma toRat_eq_zero {a : Decimal} : a.toRat = 0 ↔ a.digits = 0 := by
  rw [← abs_eq_zero, abs_toRat, div_eq_zero_iff]
  simp

theorem isZero_iff {a : Decimal} : a.isZero = true ↔ a.toRat = 0 := by
  rw [toRat_eq_zero]
  simp [isZero]

/-- A decimal is its magnitude with its sign. -/
lemma toRat_of_sign {a : Decimal} :
    a.toRat = if a.negative then -(a.digits / 10 ^ a.scale : ℚ) else a.digits / 10 ^ a.scale := by
  rw [toRat_eq]
  unfold coeff
  split <;> push_cast <;> ring

lemma coeff_neg_iff {a : Decimal} : a.coeff < 0 ↔ a.toRat < 0 := by
  rw [toRat_eq, div_lt_iff₀ (by positivity), zero_mul]
  exact_mod_cast Iff.rfl

lemma coeff_pos_iff {a : Decimal} : 0 < a.coeff ↔ 0 < a.toRat := by
  rw [toRat_eq, lt_div_iff₀ (by positivity), zero_mul]
  exact_mod_cast Iff.rfl

/-! ### Range -/

/-- The bound of the digits, as a rational number. -/
def limit : ℚ := (bound : ℕ)

lemma limit_eq : limit = 79228162514264337593543950336 := by norm_num [limit]

lemma cast_le_of_lt_bound {k : ℕ} (h : k < bound) : (k : ℚ) ≤ limit - 1 := by
  have h' : ((k + 1 : ℕ) : ℚ) ≤ limit := Nat.cast_le.2 h
  rw [Nat.cast_succ] at h'
  linarith

lemma limit_le_of_bound_le {k : ℕ} (h : bound ≤ k) : limit ≤ k := Nat.cast_le.2 h

lemma abs_toRat_le (a : Decimal) : |a.toRat| ≤ limit - 1 := by
  rw [abs_toRat]
  refine (div_le_self (by positivity) ?_).trans (cast_le_of_lt_bound a.digits_lt)
  exact one_le_pow₀ (by norm_num)

/-! ### Units of the last place -/

/-- Every decimal is a whole number of units of the last place there is. -/
lemma exists_units (a : Decimal) : ∃ k : ℤ, a.toRat * 10 ^ maxScale = k := by
  refine ⟨a.coeff * 10 ^ (maxScale - a.scale), ?_⟩
  obtain ⟨i, hi⟩ := Nat.exists_eq_add_of_le a.scale_le
  rw [toRat_eq, show maxScale = a.scale + i from hi, Nat.add_sub_cancel_left, pow_add]
  push_cast
  field_simp

/-- A whole number of such units is a decimal, up to seven at least. -/
lemma exists_of_units {q : ℚ} {k : ℤ} (hq : q * 10 ^ maxScale = k) (h : |q| ≤ 7) :
    ∃ z : Decimal, z.toRat = q := by
  have hp : (0 : ℚ) < 10 ^ maxScale := by positivity
  have habs : (k.natAbs : ℚ) = |q| * 10 ^ maxScale := by
    rw [← abs_of_pos hp, ← abs_mul, hq, ← Int.cast_abs, Int.abs_eq_natAbs, Int.cast_natCast]
  have hlt : (k.natAbs : ℚ) < limit := by
    calc (k.natAbs : ℚ) = |q| * 10 ^ maxScale := habs
      _ ≤ 7 * 10 ^ maxScale := mul_le_mul_of_nonneg_right h hp.le
      _ < limit := by norm_num [limit_eq]
  refine ⟨⟨decide (k < 0), k.natAbs, maxScale, Nat.cast_lt.1 hlt, Nat.le_refl _⟩, ?_⟩
  have hcoeff : (⟨decide (k < 0), k.natAbs, maxScale, Nat.cast_lt.1 hlt, Nat.le_refl _⟩ :
      Decimal).coeff = k := by
    unfold coeff
    by_cases hk : k < 0
    · simp only [hk, decide_true, ↓reduceIte]
      omega
    · simp only [hk, decide_false, Bool.false_eq_true, ↓reduceIte]
      omega
  rw [toRat_eq, hcoeff, ← hq, mul_div_cancel_right₀ _ hp.ne']

/-- The difference of two decimals is one, up to seven at least. -/
lemma exists_sub {a b : Decimal} (h : |a.toRat - b.toRat| ≤ 7) :
    ∃ z : Decimal, z.toRat = a.toRat - b.toRat := by
  obtain ⟨m, hm⟩ := exists_units a
  obtain ⟨n, hn⟩ := exists_units b
  refine exists_of_units (k := m - n) ?_ h
  rw [sub_mul, hm, hn]
  push_cast
  rfl

end Decimal

end LeverageKeeper
