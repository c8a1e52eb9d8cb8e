import LeverageKeeper.Proofs.Decimal.Rounding

/-!
# Sums, differences and products round correctly

`fit?` reports an exact result whenever it can, and then with the nearest digits; so do the
operations built on it.  Each of them fails only when the exact result lies beyond the range.
-/

namespace LeverageKeeper

/-! ### Rounded quotients of natural numbers -/

lemma two_mul_roundDiv_mul_le (m : ℕ) {d : ℕ} (hd : 0 < d) :
    2 * (roundDiv m d * d) ≤ 2 * m + d ∧ 2 * m ≤ 2 * (roundDiv m d * d) + d := by
  have hm := Nat.div_add_mod' m d
  have hr := Nat.mod_lt m hd
  unfold roundDiv
  split
  next h =>
    rw [Nat.add_mul, Nat.one_mul]
    rcases h with h | h <;> omega
  next h =>
    have h' : ¬ d < 2 * (m % d) := fun h' => h (.inl h')
    omega

theorem roundDiv_near (m : ℕ) {d : ℕ} (hd : 0 < d) : |(m / d : ℚ) - roundDiv m d| ≤ 1 / 2 := by
  obtain ⟨h1, h2⟩ := two_mul_roundDiv_mul_le m hd
  have hd' : (0 : ℚ) < d := by exact_mod_cast hd
  have h1' : (2 * (roundDiv m d * d) : ℚ) ≤ 2 * m + d := by exact_mod_cast h1
  have h2' : (2 * m : ℚ) ≤ 2 * (roundDiv m d * d) + d := by exact_mod_cast h2
  have he : (m / d : ℚ) * d = m := by field_simp
  rw [abs_le]
  constructor
  · refine le_of_mul_le_mul_right ?_ hd'
    rw [sub_mul, he]
    linarith
  · refine le_of_mul_le_mul_right ?_ hd'
    rw [sub_mul, he]
    linarith

/-- Of two nearest numbers the even one is taken. -/
theorem roundDiv_even (m : ℕ) {d : ℕ} (hd : 0 < d)
    (h : |(m / d : ℚ) - roundDiv m d| = 1 / 2) : roundDiv m d % 2 = 0 := by
  have hd' : (0 : ℚ) < d := by exact_mod_cast hd
  have he : (m / d : ℚ) * d = m := by field_simp
  have htie : 2 * m = 2 * (roundDiv m d * d) + d ∨ 2 * m + d = 2 * (roundDiv m d * d) := by
    rcases eq_or_eq_neg_of_abs_eq h with h | h
    · left
      have h2 : (2 * m : ℚ) = 2 * (roundDiv m d * d) + d := by
        rw [← he, eq_add_of_sub_eq h]
        ring
      exact_mod_cast h2
    · right
      have h2 : (2 * m + d : ℚ) = 2 * (roundDiv m d * d) := by
        rw [← he, eq_add_of_sub_eq h]
        ring
      exact_mod_cast h2
  have hm := Nat.div_add_mod' m d
  have hr := Nat.mod_lt m hd
  unfold roundDiv at htie ⊢
  split at htie
  next hup =>
    rw [if_pos hup]
    rw [Nat.add_mul, Nat.one_mul] at htie
    omega
  next hup =>
    rw [if_neg hup]
    omega

namespace Decimal

/-! ### Fitting -/

/-- What is found is the largest scale that fits. -/
lemma fitAt_eq_some {m s t q u : ℕ} (h : fitAt m s t = some (q, u)) :
    u ≤ t ∧ q = roundDiv m (tenPow (s - u)) ∧ q < bound ∧
      (u = t ∨ bound ≤ roundDiv m (tenPow (s - (u + 1)))) := by
  induction t with
  | zero =>
    unfold fitAt at h
    split at h
    next hq =>
      obtain ⟨rfl, rfl⟩ := Prod.mk.inj (Option.some.inj h)
      exact ⟨le_rfl, rfl, hq, .inl rfl⟩
    next => cases h
  | succ t ih =>
    unfold fitAt at h
    split at h
    next hq =>
      obtain ⟨rfl, rfl⟩ := Prod.mk.inj (Option.some.inj h)
      exact ⟨le_rfl, rfl, hq, .inl rfl⟩
    next hq =>
      obtain ⟨hu, hq', hlt, hn⟩ := ih h
      refine ⟨by omega, hq', hlt, .inr ?_⟩
      rcases hn with rfl | hn
      · exact Nat.le_of_not_lt hq
      · exact hn

lemma fitAt_eq_none {m s t : ℕ} (h : fitAt m s t = none) : bound ≤ roundDiv m (tenPow s) := by
  induction t with
  | zero =>
    unfold fitAt at h
    split at h
    next => cases h
    next hq => exact Nat.le_of_not_lt hq
  | succ t ih =>
    unfold fitAt at h
    split at h
    next => cases h
    next => exact ih h

lemma div_tenPow_mul (m : ℕ) {s u : ℕ} (hu : u ≤ s) :
    (m / 10 ^ s : ℚ) * 10 ^ u = m / (tenPow (s - u) : ℕ) := by
  rw [tenPow_cast]
  obtain ⟨i, rfl⟩ := Nat.exists_eq_add_of_le hu
  rw [Nat.add_sub_cancel_left, pow_add]
  field_simp

lemma roundDiv_tenPow_near (m : ℕ) {s u : ℕ} (hu : u ≤ s) :
    |(m / 10 ^ s : ℚ) * 10 ^ u - roundDiv m (tenPow (s - u))| ≤ 1 / 2 := by
  rw [div_tenPow_mul m hu]
  exact roundDiv_near m (tenPow_pos (s - u))

lemma ofParts?_eq_some {n : Bool} {q s : ℕ} {c : Decimal} (h : ofParts? n q s = some c) :
    c.negative = n ∧ c.digits = q ∧ c.scale = s := by
  unfold ofParts? at h
  split at h
  · cases h
    exact ⟨rfl, rfl, rfl⟩
  · cases h

/-- A fitted result has the given sign and the rounded magnitude. -/
theorem fit?_eq_some {n : Bool} {m s : ℕ} {c : Decimal} (h : fit? n m s = some c) :
    c.negative = n ∧ IsRounding (m / 10 ^ s) c.digits c.scale := by
  obtain ⟨⟨q, u⟩, hf, hc⟩ := Option.bind_eq_some_iff.1 h
  obtain ⟨hn, hq, hu⟩ := ofParts?_eq_some hc
  obtain ⟨hle, he, hlt, hneed⟩ := fitAt_eq_some hf
  have hus : u ≤ s := hle.trans (Nat.min_le_left _ _)
  rw [hq, hu]
  refine ⟨hn, hle.trans (Nat.min_le_right _ _), hlt, he ▸ roundDiv_tenPow_near m hus, ?_, ?_⟩
  · intro htie
    rw [div_tenPow_mul m hus, he] at htie
    rw [he]
    exact roundDiv_even m (tenPow_pos (s - u)) htie
  rcases hneed with hmin | hb
  · rcases Nat.le_total s maxScale with hs | hs
    · -- nothing was dropped
      have hs' : u = s := hmin.trans (Nat.min_eq_left hs)
      subst hs'
      rw [Nat.sub_self, tenPow_zero, roundDiv_one] at he
      exact .inl (by rw [he]; field_simp)
    · exact .inr (.inl (hmin.trans (Nat.min_eq_right hs)))
  · right
    rcases Nat.lt_or_ge u s with hlt' | hge
    · right
      have h1 := (abs_le.1 (roundDiv_tenPow_near m (u := u + 1) hlt')).1
      have h2 := limit_le_of_bound_le hb
      linarith
    · have hs' : u = s := le_antisymm hus hge
      subst hs'
      rw [Nat.sub_eq_zero_of_le (Nat.le_succ u), tenPow_zero, roundDiv_one] at hb
      rw [Nat.sub_self, tenPow_zero, roundDiv_one] at he
      omega

theorem fit?_eq_none {n : Bool} {m s : ℕ} (h : fit? n m s = none) :
    limit - 1 / 2 ≤ (m / 10 ^ s : ℚ) := by
  rw [fit?, Option.bind_eq_none_iff] at h
  cases hf : fitAt m s (Nat.min s maxScale) with
  | none =>
    have h1 := (abs_le.1 (roundDiv_tenPow_near m (Nat.zero_le s))).1
    have h2 := limit_le_of_bound_le (fitAt_eq_none hf)
    rw [Nat.sub_zero] at h1
    rw [pow_zero, mul_one] at h1
    linarith
  | some w =>
    obtain ⟨q, u⟩ := w
    obtain ⟨hle, -, hlt, -⟩ := fitAt_eq_some hf
    have hn : ofParts? n q u = none := h (q, u) hf
    rw [ofParts?, dif_pos ⟨hlt, hle.trans (Nat.min_le_right _ _)⟩] at hn
    cases hn

/-- A fitted result rounds the number of its sign and magnitude. -/
lemma rounds_of_fit? {m : ℤ} {s : ℕ} {c : Decimal} (h : fit? (m < 0) m.natAbs s = some c) :
    Rounds (m / 10 ^ s) c := by
  obtain ⟨hn, hr⟩ := fit?_eq_some h
  have hs : (0 : ℚ) < 10 ^ s := by positivity
  refine ⟨c.digits, c.scale, ?_, ?_⟩
  · rw [abs_div, abs_of_pos hs, ← Int.cast_abs, Int.abs_eq_natAbs, Int.cast_natCast]
    exact hr
  · rw [toRat_of_sign, hn]
    have hiff : (m / 10 ^ s : ℚ) < 0 ↔ m < 0 := by
      rw [div_lt_iff₀ hs, zero_mul]
      exact_mod_cast Iff.rfl
    by_cases hm : m < 0
    · rw [if_pos (by simpa using hm), if_pos (hiff.2 hm)]
    · rw [if_neg (by simpa using hm), if_neg (fun h => hm (hiff.1 h))]

lemma le_abs_of_fit?_eq_none {n : Bool} {m : ℤ} {s : ℕ} (h : fit? n m.natAbs s = none) :
    limit - 1 / 2 ≤ |(m / 10 ^ s : ℚ)| := by
  have hs : (0 : ℚ) < 10 ^ s := by positivity
  rw [abs_div, abs_of_pos hs, ← Int.cast_abs, Int.abs_eq_natAbs, Int.cast_natCast]
  exact fit?_eq_none h

/-! ### Sums and differences -/

/-- The sum as a fraction over the larger of the two scales. -/
lemma sum_eq (a b : Decimal) :
    ((a.coeff * tenPow (Nat.max a.scale b.scale - a.scale)
        + b.coeff * tenPow (Nat.max a.scale b.scale - b.scale) : ℤ) : ℚ)
      / 10 ^ Nat.max a.scale b.scale = a.toRat + b.toRat := by
  have hl : a.scale ≤ Nat.max a.scale b.scale := Nat.le_max_left _ _
  have hr : b.scale ≤ Nat.max a.scale b.scale := Nat.le_max_right _ _
  generalize Nat.max a.scale b.scale = s at *
  rw [toRat_eq, toRat_eq]
  push_cast
  rw [tenPow_cast, tenPow_cast, add_div]
  congr 1
  · obtain ⟨i, rfl⟩ := Nat.exists_eq_add_of_le hl
    rw [Nat.add_sub_cancel_left, pow_add]
    field_simp
  · obtain ⟨i, rfl⟩ := Nat.exists_eq_add_of_le hr
    rw [Nat.add_sub_cancel_left, pow_add]
    field_simp

theorem rounds_add? {a b c : Decimal} (h : a.add? b = some c) : Rounds (a.toRat + b.toRat) c := by
  unfold add? at h
  split at h
  next ha =>
    cases h
    rw [toRat_eq_zero.2 ha, zero_add]
    exact rounds_self _
  next =>
    split at h
    next hb =>
      cases h
      rw [toRat_eq_zero.2 hb, add_zero]
      exact rounds_self _
    next => exact sum_eq a b ▸ rounds_of_fit? h

theorem add?_eq_none {a b : Decimal} (h : a.add? b = none) :
    limit - 1 / 2 ≤ |a.toRat + b.toRat| := by
  unfold add? at h
  split at h
  · cases h
  · split at h
    · cases h
    · exact sum_eq a b ▸ le_abs_of_fit?_eq_none h

theorem rounds_sub? {a b c : Decimal} (h : a.sub? b = some c) : Rounds (a.toRat - b.toRat) c := by
  unfold sub? at h
  split at h
  next h0 =>
    cases h
    rw [toRat_eq_zero.2 h0.1, toRat_eq_zero.2 h0.2, sub_zero, ← toRat_eq_zero.2 h0.2]
    exact rounds_self _
  next =>
    have := rounds_add? h
    rwa [toRat_neg, ← sub_eq_add_neg] at this

theorem sub?_eq_none {a b : Decimal} (h : a.sub? b = none) :
    limit - 1 / 2 ≤ |a.toRat - b.toRat| := by
  unfold sub? at h
  split at h
  · cases h
  · have := add?_eq_none h
    rwa [toRat_neg, ← sub_eq_add_neg] at this

/-! ### Products -/

/-- The magnitude of a product is the product of the digits over both scales. -/
lemma abs_mul_eq (a b : Decimal) :
    |a.toRat * b.toRat| = ((a.digits * b.digits : ℕ) : ℚ) / 10 ^ (a.scale + b.scale) := by
  rw [abs_mul, abs_toRat, abs_toRat, pow_add]
  push_cast
  field_simp

/-- A product is negative exactly when one factor is. -/
lemma mul_lt_zero_iff {a b : Decimal} (ha : a.digits ≠ 0) (hb : b.digits ≠ 0) :
    a.toRat * b.toRat < 0 ↔ (a.negative != b.negative) = true := by
  have ha' : (0 : ℚ) < a.digits / 10 ^ a.scale := by
    have : (0 : ℚ) < a.digits := by exact_mod_cast Nat.pos_of_ne_zero ha
    positivity
  have hb' : (0 : ℚ) < b.digits / 10 ^ b.scale := by
    have : (0 : ℚ) < b.digits := by exact_mod_cast Nat.pos_of_ne_zero hb
    positivity
  rw [toRat_of_sign (a := a), toRat_of_sign (a := b)]
  generalize (a.digits / 10 ^ a.scale : ℚ) = x at *
  generalize (b.digits / 10 ^ b.scale : ℚ) = y at *
  have hxy : 0 < x * y := mul_pos ha' hb'
  cases a.negative <;> cases b.negative <;> simp [hxy, hxy.le]

lemma rounds_of_magnitude {x : ℚ} {n : Bool} {c : Decimal} (hx : x < 0 ↔ n = true)
    (h : c.negative = n ∧ IsRounding |x| c.digits c.scale) : Rounds x c := by
  refine ⟨c.digits, c.scale, h.2, ?_⟩
  rw [toRat_of_sign, h.1]
  by_cases hn : n = true
  · rw [if_pos hn, if_pos (hx.2 hn)]
  · rw [if_neg hn, if_neg (fun h => hn (hx.1 h))]

lemma Rounds.congr {x : ℚ} {c c' : Decimal} (h : Rounds x c) (he : c'.toRat = c.toRat) :
    Rounds x c' := by
  obtain ⟨q, s, h, hc⟩ := h
  exact ⟨q, s, h, he.trans hc⟩

/-- Nothing is left of a product that is smaller than half of the last digit. -/
lemma rounds_zero {x : ℚ} (hx : |x| * 10 ^ maxScale ≤ 1 / 2) : Rounds x zero := by
  refine ⟨0, maxScale, ⟨le_rfl, by decide, ?_, fun _ => rfl, .inr (.inl rfl)⟩, by simp⟩
  rw [Nat.cast_zero, sub_zero, abs_of_nonneg (by positivity)]
  exact hx

/-- Two short factors whose scales add to more than 47 leave nothing. -/
lemma short_mul_le {a b : Decimal} (ha : a.isShort) (hb : b.isShort)
    (hs : 47 < a.scale + b.scale) : |a.toRat * b.toRat| * 10 ^ maxScale ≤ 1 / 2 := by
  have ha' : a.digits < shortBound := by simpa [isShort] using ha
  have hb' : b.digits < shortBound := by simpa [isShort] using hb
  obtain ⟨i, hi⟩ := Nat.exists_eq_add_of_le (Nat.succ_le_of_lt hs)
  have hlt : a.digits * b.digits ≤ shortBound * shortBound := Nat.mul_le_mul ha'.le hb'.le
  have hlt' : ((a.digits * b.digits : ℕ) : ℚ) ≤ (shortBound * shortBound : ℕ) := Nat.cast_le.2 hlt
  rw [abs_mul_eq, hi, pow_add, div_mul_eq_mul_div, div_le_iff₀ (by positivity)]
  have hi' : (1 : ℚ) ≤ 10 ^ i := one_le_pow₀ (by norm_num)
  calc ((a.digits * b.digits : ℕ) : ℚ) * 10 ^ maxScale
      ≤ (shortBound * shortBound : ℕ) * 10 ^ maxScale := by
        exact mul_le_mul_of_nonneg_right hlt' (by positivity)
    _ ≤ 1 / 2 * (10 ^ 48 * 1) := by norm_num
    _ ≤ 1 / 2 * (10 ^ 48 * 10 ^ i) := by gcongr

theorem rounds_mul? {a b c : Decimal} (h : a.mul? b = some c) : Rounds (a.toRat * b.toRat) c := by
  unfold mul? at h
  split at h
  next h0 =>
    cases h
    have hz : a.toRat * b.toRat = 0 := by
      rcases h0 with h0 | h0 <;> simp [toRat_eq_zero.2 h0]
    exact rounds_zero (by rw [hz]; norm_num)
  next h0 =>
    rw [not_or] at h0
    have hsign := mul_lt_zero_iff h0.1 h0.2
    have hfit : ∀ {c'}, fit? (a.negative != b.negative) (a.digits * b.digits) (a.scale + b.scale)
        = some c' → Rounds (a.toRat * b.toRat) c' := fun h' =>
      rounds_of_magnitude hsign (abs_mul_eq a b ▸ fit?_eq_some h')
    simp only at h
    split at h
    next hshort =>
      obtain ⟨ha, hb⟩ := Bool.and_eq_true_iff.1 hshort
      split at h
      next hs =>
        cases h
        exact rounds_zero (short_mul_le ha hb hs)
      next =>
        obtain ⟨c', hc', rfl⟩ := Option.map_eq_some_iff.1 h
        exact (hfit hc').congr (toRat_unsignedZero c')
    next => exact hfit h

theorem mul?_eq_none {a b : Decimal} (h : a.mul? b = none) :
    limit - 1 / 2 ≤ |a.toRat * b.toRat| := by
  unfold mul? at h
  split at h
  · cases h
  · rw [abs_mul_eq]
    simp only at h
    split at h
    · split at h
      · cases h
      · exact fit?_eq_none (Option.map_eq_none_iff.1 h)
    · exact fit?_eq_none h

end Decimal

end LeverageKeeper
