import LeverageKeeper.Proofs.Decimal.Value
import Mathlib.Data.Sign.Basic

/-!
# Rounding into range

Every operation on decimals forms an exact result and brings it into range.  What that means is
said once, by `Rounds`: the digits kept are the nearest ones, the even one of two, and no digit is
given up as long as it fits.  From this follows all that sizing a trade relies on: rounding never
passes a decimal, so a bound that is itself a decimal survives it (`Rounds.le`, `Rounds.ge`), a
result that is a decimal is not touched (`Rounds.eq`), and larger results are not rounded below
smaller ones (`Rounds.mono`).
-/

namespace LeverageKeeper.Decimal

/-- `q / 10 ^ s` is the magnitude `x` brought into range: the nearest multiple of its last digit,
the even one of two, and a further digit is not needed, not allowed, or does not fit. -/
structure IsRounding (x : ℚ) (q s : ℕ) : Prop where
  scale_le : s ≤ maxScale
  digits_lt : q < bound
  near : |x * 10 ^ s - q| ≤ 1 / 2
  even : |x * 10 ^ s - q| = 1 / 2 → q % 2 = 0
  needed : x * 10 ^ s = q ∨ s = maxScale ∨ limit - 1 / 2 ≤ x * 10 ^ (s + 1)

/-- **The exact result `x` is reported as `c`.** -/
def Rounds (x : ℚ) (c : Decimal) : Prop :=
  ∃ q s, IsRounding |x| q s ∧ c.toRat = if x < 0 then -(q / 10 ^ s : ℚ) else q / 10 ^ s

/-! ### Magnitudes -/

section Magnitude

variable {x : ℚ} {q s k j : ℕ}

lemma shift_eq (hj : j ≤ s) : (k / 10 ^ j : ℚ) * 10 ^ s = (k * 10 ^ (s - j) : ℕ) := by
  obtain ⟨i, rfl⟩ := Nat.exists_eq_add_of_le hj
  rw [Nat.add_sub_cancel_left, pow_add]
  push_cast
  field_simp

lemma shift_le (hk : k < bound) (hj : s < j) :
    (k / 10 ^ j : ℚ) * 10 ^ (s + 1) ≤ limit - 1 := by
  obtain ⟨i, rfl⟩ := Nat.exists_eq_add_of_le (Nat.succ_le_of_lt hj)
  calc (k / 10 ^ (s + 1 + i) : ℚ) * 10 ^ (s + 1) = k / 10 ^ i := by rw [pow_add]; field_simp
    _ ≤ k := div_le_self (by positivity) (one_le_pow₀ (by norm_num))
    _ ≤ limit - 1 := cast_le_of_lt_bound hk

/-- An exact magnitude stays as it is. -/
lemma IsRounding.exact (hs : s ≤ maxScale) (hq : q < bound) : IsRounding (q / 10 ^ s) q s := by
  have h : (q / 10 ^ s : ℚ) * 10 ^ s = q := by field_simp
  exact ⟨hs, hq, by rw [h]; norm_num, by rw [h]; norm_num, .inl h⟩

variable (h : IsRounding x q s)

include h

lemma IsRounding.le_of_le (hk : k < bound) (hj : j ≤ maxScale) (hx : x ≤ k / 10 ^ j) :
    (q / 10 ^ s : ℚ) ≤ k / 10 ^ j := by
  have hs : (0 : ℚ) < 10 ^ s := by positivity
  rw [div_le_iff₀ hs]
  rcases Nat.lt_or_ge s j with hjs | hjs
  · -- a finer bound leaves room for no further digit only where the result is exact
    rcases h.needed with he | hm | hb
    · rw [← he]
      exact mul_le_mul_of_nonneg_right hx hs.le
    · omega
    · have h1 := mul_le_mul_of_nonneg_right hx (by positivity : (0 : ℚ) ≤ 10 ^ (s + 1))
      have h2 := shift_le hk hjs
      linarith
  · rw [shift_eq hjs]
    have h1 := mul_le_mul_of_nonneg_right hx hs.le
    rw [shift_eq hjs] at h1
    have h2 := (abs_le.1 h.near).1
    have h3 : (q : ℚ) < (k * 10 ^ (s - j) : ℕ) + 1 := by linarith
    exact_mod_cast Nat.le_of_lt_succ (by exact_mod_cast h3)

lemma IsRounding.ge_of_ge (hk : k < bound) (hj : j ≤ maxScale) (hx : (k / 10 ^ j : ℚ) ≤ x) :
    (k / 10 ^ j : ℚ) ≤ q / 10 ^ s := by
  have hs : (0 : ℚ) < 10 ^ s := by positivity
  rw [le_div_iff₀ hs]
  rcases Nat.lt_or_ge s j with hjs | hjs
  · rcases h.needed with he | hm | hb
    · rw [← he]
      exact mul_le_mul_of_nonneg_right hx hs.le
    · omega
    · -- the digits are so many that they fill the range up to the next multiple of ten
      have h1 := (abs_le.1 h.near).2
      have h2 := shift_le hk hjs
      have h3 : 2 * limit ≤ ((20 * q + 11 : ℕ) : ℚ) := by
        rw [pow_succ] at hb
        push_cast
        linarith
      have h4 : limit ≤ 10 * q := by
        rw [limit_eq] at h3 ⊢
        have h5 : 2 * 79228162514264337593543950336 ≤ 20 * q + 11 := by exact_mod_cast h3
        have h6 : 79228162514264337593543950336 ≤ 10 * q := by omega
        exact_mod_cast h6
      rw [pow_succ] at h2
      linarith
  · rw [shift_eq hjs]
    have h1 := mul_le_mul_of_nonneg_right hx hs.le
    rw [shift_eq hjs] at h1
    have h2 := (abs_le.1 h.near).2
    have h3 : (((k * 10 ^ (s - j) : ℕ)) : ℚ) < q + 1 := by linarith
    exact_mod_cast Nat.le_of_lt_succ (by exact_mod_cast h3)

/-- A result is off by a unit of the last place at most, or by as small a part of itself. -/
lemma IsRounding.abs_sub_le (hx : 0 ≤ x) : |(q / 10 ^ s : ℚ) - x| ≤ (x + 1) / 10 ^ maxScale := by
  have hs : (0 : ℚ) < 10 ^ s := by positivity
  have hoff : |(q / 10 ^ s : ℚ) - x| * 10 ^ s ≤ 1 / 2 := by
    have hscaled : (q / 10 ^ s - x : ℚ) * 10 ^ s = -(x * 10 ^ s - q) := by
      field_simp
      ring
    calc |(q / 10 ^ s : ℚ) - x| * 10 ^ s = |(q / 10 ^ s - x : ℚ) * 10 ^ s| := by
          rw [abs_mul, abs_of_pos hs]
      _ = |x * 10 ^ s - q| := by rw [hscaled, abs_neg]
      _ ≤ 1 / 2 := h.near
  rcases h.needed with he | rfl | hb
  · have hexact : (q / 10 ^ s : ℚ) = x := ((eq_div_iff hs.ne').2 he).symm
    rw [hexact, sub_self, abs_zero]
    positivity
  · rw [le_div_iff₀ (by positivity)]
    linarith
  · -- the digits fill the range, so a unit of the last one is a small part of the whole
    have hrange : (10 : ℚ) ^ maxScale * (1 / 2) ≤ x * 10 ^ s := by
      rw [limit_eq, pow_succ] at hb
      norm_num at hb ⊢
      linarith
    rw [le_div_iff₀ (by positivity)]
    refine le_of_mul_le_mul_right ?_ hs
    calc |(q / 10 ^ s : ℚ) - x| * 10 ^ maxScale * 10 ^ s
        = |(q / 10 ^ s : ℚ) - x| * 10 ^ s * 10 ^ maxScale := by ring
      _ ≤ 1 / 2 * 10 ^ maxScale := mul_le_mul_of_nonneg_right hoff (by positivity)
      _ ≤ x * 10 ^ s := by linarith
      _ ≤ (x + 1) * 10 ^ s := mul_le_mul_of_nonneg_right (by linarith) hs.le

end Magnitude

/-! ### Two magnitudes -/

section Magnitudes

variable {x y : ℚ} {q q' s s' : ℕ}

/-- The last digits of the range round upward out of it, for they are odd. -/
lemma IsRounding.lt_limit (h : IsRounding x q s) : x * 10 ^ s < limit - 1 / 2 := by
  by_contra hge
  have hge := le_of_not_gt hge
  have h1 := (abs_le.1 h.near).2
  have h2 := cast_le_of_lt_bound h.digits_lt
  have hq : (q : ℚ) = limit - 1 := by linarith
  have htie : |x * 10 ^ s - q| = 1 / 2 := by
    rw [abs_of_nonneg (by linarith)]
    linarith
  have heven := h.even htie
  have hq' : q + 1 = bound := by
    have : ((q + 1 : ℕ) : ℚ) = (bound : ℕ) := by
      rw [Nat.cast_succ, hq]
      unfold limit
      ring
    exact_mod_cast this
  have hb : bound = 79228162514264337593543950336 := rfl
  omega

lemma mul_pow_le {j k : ℕ} (hx : 0 ≤ x) (hjk : j ≤ k) : x * 10 ^ j ≤ x * 10 ^ k :=
  mul_le_mul_of_nonneg_left (pow_le_pow_right₀ (by norm_num) hjk) hx

/-- Of two magnitudes the larger one is not rounded below the smaller one. -/
lemma IsRounding.mono (h : IsRounding x q s) (h' : IsRounding y q' s') (hx : 0 ≤ x)
    (hxy : x ≤ y) : (q / 10 ^ s : ℚ) ≤ q' / 10 ^ s' := by
  by_contra hlt
  have hlt := lt_of_not_ge hlt
  have hpow : (0 : ℚ) < 10 ^ s := by positivity
  have hpow' : (0 : ℚ) < 10 ^ s' := by positivity
  -- both magnitudes lie between the two results, where there is room for no other decimal
  have hlow : (q' / 10 ^ s' : ℚ) < x := by
    by_contra hle
    exact absurd (h.le_of_le h'.digits_lt h'.scale_le (le_of_not_gt hle)) hlt.not_ge
  have hup : y < (q / 10 ^ s : ℚ) := by
    by_contra hle
    exact absurd (h'.ge_of_ge h.digits_lt h.scale_le (le_of_not_gt hle)) hlt.not_ge
  have hy : 0 ≤ y := hx.trans hxy
  rcases Nat.lt_trichotomy s s' with hs | rfl | hs
  · rcases h.needed with he | hm | hb
    · have : x = q / 10 ^ s := (eq_div_iff hpow.ne').2 he
      linarith
    · have := h'.scale_le
      omega
    · have h1 := mul_pow_le (j := s + 1) hx hs
      have h2 := mul_le_mul_of_nonneg_right hxy hpow'.le
      have h3 := h'.lt_limit
      linarith
  · have hX := (abs_le.1 h.near).1
    have hY := (abs_le.1 h'.near).2
    have hXY := mul_le_mul_of_nonneg_right hxy hpow.le
    have hq : (q' : ℚ) < q := (div_lt_div_iff_of_pos_right hpow).1 hlt
    have hq : q' + 1 ≤ q := Nat.succ_le_of_lt (by exact_mod_cast hq)
    have hq1 : (q' : ℚ) + 1 ≤ q := by exact_mod_cast hq
    -- so both lie in the middle of two neighbours, and only one of these is even
    have heven : q % 2 = 0 := h.even (by rw [abs_of_nonpos (by linarith)]; linarith)
    have heven' : q' % 2 = 0 := h'.even (by rw [abs_of_nonneg (by linarith)]; linarith)
    have hq2 : (q : ℚ) ≤ q' + 1 := by linarith
    have hq2 : q ≤ q' + 1 := by exact_mod_cast hq2
    omega
  · rcases h'.needed with he | hm | hb
    · have : y = q' / 10 ^ s' := (eq_div_iff hpow'.ne').2 he
      linarith
    · have := h.scale_le
      omega
    · have h1 := mul_le_mul_of_nonneg_right hup.le (by positivity : (0 : ℚ) ≤ 10 ^ (s' + 1))
      have h2 := shift_le h.digits_lt hs
      linarith

end Magnitudes

/-! ### Signed results -/

section Signed

variable {x : ℚ} {c y : Decimal}

lemma Rounds.neg (h : Rounds x c) : Rounds (-x) c.neg := by
  obtain ⟨q, s, h, hc⟩ := h
  refine ⟨q, s, by rwa [abs_neg], ?_⟩
  rw [toRat_neg, hc]
  rcases lt_trichotomy x 0 with hx | rfl | hx
  · rw [if_pos hx, if_neg (by linarith), neg_neg]
  · -- a zero is rounded to zero, whatever its sign
    have hq : q = 0 := by
      have h1 := h.near
      rw [abs_zero, zero_mul, zero_sub, abs_neg, abs_of_nonneg (Nat.cast_nonneg q)] at h1
      have h2 : (q : ℚ) < 1 := by linarith
      have h3 : q < 1 := by exact_mod_cast h2
      omega
    simp [hq]
  · rw [if_neg (by linarith), if_pos (by linarith)]

/-- **Rounding does not pass a decimal from below.** -/
theorem Rounds.le (h : Rounds x c) (hx : x ≤ y.toRat) : c.toRat ≤ y.toRat := by
  obtain ⟨q, s, h, hc⟩ := h
  have hq : (0 : ℚ) ≤ q / 10 ^ s := by positivity
  rw [hc]
  rcases lt_or_ge x 0 with hn | hn
  · rw [if_pos hn]
    rcases lt_or_ge y.toRat 0 with hy | hy
    · rw [abs_of_neg hn] at h
      have hk := h.ge_of_ge (k := y.digits) (j := y.scale) y.digits_lt y.scale_le (by
        rw [← abs_toRat, abs_of_neg hy]; linarith)
      rw [← abs_toRat, abs_of_neg hy] at hk
      linarith
    · linarith
  · rw [if_neg (by linarith)]
    rw [abs_of_nonneg hn] at h
    have hy : |y.toRat| = y.toRat := abs_of_nonneg (hn.trans hx)
    have hk := h.le_of_le (k := y.digits) (j := y.scale) y.digits_lt y.scale_le (by
      rw [← abs_toRat, hy]; exact hx)
    rwa [← abs_toRat, hy] at hk

/-- **Rounding does not pass a decimal from above.** -/
theorem Rounds.ge (h : Rounds x c) (hx : y.toRat ≤ x) : y.toRat ≤ c.toRat := by
  have h1 := h.neg.le (y := y.neg) (by rw [toRat_neg]; linarith)
  rw [toRat_neg, toRat_neg] at h1
  linarith

/-- **A result that is a decimal is exact.** -/
theorem Rounds.eq (h : Rounds x c) (hx : x = y.toRat) : c.toRat = x :=
  hx ▸ le_antisymm (h.le hx.le) (h.ge hx.ge)

/-- **Rounding keeps the order.** -/
theorem Rounds.mono {y : ℚ} {d : Decimal} (h : Rounds x c) (h' : Rounds y d) (hxy : x ≤ y) :
    c.toRat ≤ d.toRat := by
  obtain ⟨q, s, h, hc⟩ := h
  obtain ⟨q', s', h', hd⟩ := h'
  have hq : (0 : ℚ) ≤ q / 10 ^ s := by positivity
  have hq' : (0 : ℚ) ≤ q' / 10 ^ s' := by positivity
  rw [hc, hd]
  rcases lt_or_ge x 0 with hx | hx
  · rw [if_pos hx]
    rcases lt_or_ge y 0 with hy | hy
    · rw [if_pos hy]
      have hle : |y| ≤ |x| := by
        rw [abs_of_neg hx, abs_of_neg hy]
        linarith
      have := h'.mono h (abs_nonneg y) hle
      linarith
    · rw [if_neg hy.not_gt]
      linarith
  · have hy : 0 ≤ y := hx.trans hxy
    rw [if_neg hx.not_gt, if_neg hy.not_gt]
    rw [abs_of_nonneg hx] at h
    rw [abs_of_nonneg hy] at h'
    exact h.mono h' hx hxy

/-- What is rounded into range is no more than half a unit beyond its last whole number. -/
lemma Rounds.abs_lt (h : Rounds x c) : |x| < limit - 1 / 2 := by
  obtain ⟨q, s, h, -⟩ := h
  have hone : |x| * 10 ^ 0 ≤ |x| * 10 ^ s := mul_pow_le (abs_nonneg x) (Nat.zero_le s)
  have hlt := h.lt_limit
  linarith

/-- **Rounding moves a result of a given size by a unit of the last place at most**, or by as small
a part of its size. -/
theorem Rounds.within {b : ℚ} (h : Rounds x c) (hx : 0 ≤ x) (hb : x ≤ b) :
    x - (b + 1) / 10 ^ maxScale ≤ c.toRat ∧ c.toRat ≤ x + (b + 1) / 10 ^ maxScale := by
  obtain ⟨q, s, h, hc⟩ := h
  rw [abs_of_nonneg hx] at h
  rw [if_neg hx.not_gt] at hc
  have hoff := abs_le.1 (h.abs_sub_le hx)
  have hsize : (x + 1) / 10 ^ maxScale ≤ (b + 1) / 10 ^ maxScale :=
    div_le_div_of_nonneg_right (by linarith) (by positivity)
  rw [hc]
  constructor
  · linarith
  · linarith

lemma Rounds.nonneg (h : Rounds x c) (hx : 0 ≤ x) : 0 ≤ c.toRat := by
  simpa using h.ge (y := zero) (by simpa using hx)

lemma Rounds.nonpos (h : Rounds x c) (hx : x ≤ 0) : c.toRat ≤ 0 := by
  simpa using h.le (y := zero) (by simpa using hx)

/-- A decimal is the result it stands for. -/
lemma rounds_self (c : Decimal) : Rounds c.toRat c := by
  refine ⟨c.digits, c.scale, ?_, ?_⟩
  · rw [abs_toRat]
    exact .exact c.scale_le c.digits_lt
  · rw [← abs_toRat]
    split
    next h => rw [abs_of_neg h, neg_neg]
    next h => rw [abs_of_nonneg (le_of_not_gt h)]

end Signed

end LeverageKeeper.Decimal
