import LeverageKeeper.Decimal.Division
import LeverageKeeper.Proofs.Decimal.Sums

/-!
# Quotients round correctly

A long division keeps track of its exact quotient from step to step.  It stops at that quotient, at
the last scale, or where no further digit fits, and rounds to the nearest digit there; it fails only
when the exact quotient lies beyond the range, and never for want of rounds.
-/

namespace LeverageKeeper.Decimal

/-- A division by `d` on its way to the quotient `x`. -/
structure LongDivision.Tracks (w : LongDivision) (d : ℕ) (x : ℚ) : Prop where
  value : x * 10 ^ w.s = w.q + w.r / d
  rest_lt : w.r < d
  digits_lt : w.q < bound
  scale_le : w.s ≤ maxScale

/-! ### Adding digits -/

lemma growth_le (q p : ℕ) : growth q p ≤ p := by
  induction p with
  | zero => exact le_rfl
  | succ p ih =>
    unfold growth
    split
    · exact le_rfl
    · exact ih.trans (Nat.le_succ p)

lemma growth_fits {q p : ℕ} (h : growth q p ≠ 0) : q * tenPow (growth q p) < bound := by
  induction p with
  | zero => exact absurd rfl h
  | succ p ih =>
    unfold growth at h ⊢
    split
    next hlt => exact hlt
    next hlt =>
      rw [if_neg hlt] at h
      exact ih h

/-- One digit more than the growth does not fit. -/
lemma growth_full {q p : ℕ} (h : growth q p < p) : bound ≤ q * tenPow (growth q p + 1) := by
  induction p with
  | zero => exact absurd h (Nat.not_lt_zero _)
  | succ p ih =>
    unfold growth at h ⊢
    split
    next hlt =>
      rw [if_pos hlt] at h
      exact absurd h (Nat.lt_irrefl _)
    next hlt =>
      rw [if_neg hlt] at h
      rcases Nat.lt_or_ge (growth q p) p with hp | hp
      · exact ih hp
      · rw [le_antisymm (growth_le q p) hp]
        exact Nat.le_of_not_lt hlt

section Step

variable {w : LongDivision} {d p : ℕ} {x : ℚ}

lemma LongDivision.Tracks.grow_value (h : w.Tracks d x) (p : ℕ) :
    x * 10 ^ (w.grow d p).s = (w.grow d p).q + (w.grow d p).r / d := by
  have hd : 0 < d := Nat.zero_lt_of_lt h.rest_lt
  have hd' : (d : ℚ) ≠ 0 := by exact_mod_cast hd.ne'
  have hr : ((w.r * tenPow p / d : ℕ) : ℚ) + (w.r * tenPow p % d : ℕ) / d = w.r * 10 ^ p / d := by
    have := Nat.div_add_mod' (w.r * tenPow p) d
    have hc : ((w.r * tenPow p / d : ℕ) : ℚ) * d + (w.r * tenPow p % d : ℕ) = w.r * 10 ^ p := by
      rw [← tenPow_cast]
      exact_mod_cast this
    field_simp
    exact hc
  unfold LongDivision.grow
  rw [zpow_add₀ (by norm_num), ← mul_assoc, h.value, zpow_natCast]
  push_cast
  rw [tenPow_cast, add_assoc, hr]
  ring

lemma LongDivision.grow_rest_lt (w : LongDivision) (hd : 0 < d) (p : ℕ) : (w.grow d p).r < d :=
  Nat.mod_lt _ hd

/-- The new digits are fewer than they could be. -/
lemma LongDivision.Tracks.grow_lt (h : w.Tracks d x) (p : ℕ) :
    (w.grow d p).q < w.q * tenPow p + tenPow p := by
  have hd : 0 < d := Nat.zero_lt_of_lt h.rest_lt
  have : w.r * tenPow p / d < tenPow p := by
    rw [Nat.div_lt_iff_lt_mul hd, Nat.mul_comm]
    exact Nat.mul_lt_mul_of_pos_left h.rest_lt (tenPow_pos p)
  exact Nat.add_lt_add_left this _

/-- A quotient with digits left of the point is at least what they stand for. -/
lemma LongDivision.Tracks.le_of_scale (h : w.Tracks d x) (hs : w.s + p ≤ 0) :
    ((w.q * tenPow p : ℕ) : ℚ) ≤ x := by
  have h0 : (0 : ℚ) ≤ w.r / d := by positivity
  have hx : x = (w.q + w.r / d) * 10 ^ (-w.s) := by
    rw [← h.value, mul_assoc, ← zpow_add₀ (by norm_num)]
    simp
  have hp : (10 : ℚ) ^ p ≤ 10 ^ (-w.s) := by
    rw [← zpow_natCast]
    exact zpow_le_zpow_right₀ (by norm_num) (by omega)
  rw [hx]
  push_cast
  rw [tenPow_cast]
  exact mul_le_mul (by linarith) hp (by positivity) (by positivity)

end Step

/-! ### Rounding the last digit -/

section Last

variable {x : ℚ} {w : LongDivision} {d n q : ℕ} {s s' : ℤ} {sticky : Bool}

lemma zpow_toNat (hs : 0 ≤ s) : (10 : ℚ) ^ s.toNat = 10 ^ s := by
  rw [← zpow_natCast, Int.toNat_of_nonneg hs]

lemma zpow_toNat_succ (hs : 0 ≤ s - 1) : (10 : ℚ) ^ ((s - 1).toNat + 1) = 10 ^ s := by
  rw [pow_succ, zpow_toNat hs, ← zpow_add_one₀ (by norm_num), sub_add_cancel]

lemma shrink?_eq_some (h : shrink? n sticky s = some (q, s')) :
    s' = s - 1 ∧ 0 ≤ s - 1 ∧
      q = if 5 < n % 10 ∨ (n % 10 = 5 ∧ (sticky ∨ n / 10 % 2 = 1)) then n / 10 + 1 else n / 10 := by
  unfold shrink? at h
  split at h
  next => cases h
  next hs =>
    obtain ⟨rfl, rfl⟩ := Prod.mk.inj (Option.some.inj h)
    exact ⟨rfl, by omega, rfl⟩

lemma shrink?_eq_none (h : shrink? n sticky s = none) : s ≤ 0 := by
  unfold shrink? at h
  split at h
  next hs => omega
  next => cases h

/-- Giving up one digit of `n` and the fraction `f` behind it leaves the nearest tenth. -/
lemma shrink_near {f : ℚ} (hf : 0 ≤ f) (hf' : f < 1) (hst : sticky = true ↔ f ≠ 0)
    (hq : q = if 5 < n % 10 ∨ (n % 10 = 5 ∧ (sticky ∨ n / 10 % 2 = 1)) then n / 10 + 1
      else n / 10) :
    |(n + f) / 10 - q| ≤ 1 / 2 := by
  have hn : (n : ℚ) = 10 * (n / 10 : ℕ) + (n % 10 : ℕ) := by
    exact_mod_cast (Nat.div_add_mod n 10).symm
  have hr : ((n % 10 : ℕ) : ℚ) ≤ 9 := by exact_mod_cast Nat.le_of_lt_succ (Nat.mod_lt n (by decide))
  rw [abs_le, hn, hq]
  split
  next hup =>
    have h5 : ((5 : ℕ) : ℚ) ≤ (n % 10 : ℕ) := Nat.cast_le.2 (by omega)
    push_cast at h5 ⊢
    constructor <;> linarith
  next hup =>
    rw [not_or, not_and_or, not_or] at hup
    obtain ⟨h6, h5⟩ := hup
    constructor
    · have : (0 : ℚ) ≤ (n % 10 : ℕ) := by positivity
      linarith
    · rcases h5 with h5 | ⟨h5, -⟩
      · have h4 : ((n % 10 : ℕ) : ℚ) ≤ (4 : ℕ) := Nat.cast_le.2 (by omega)
        push_cast at h4 ⊢
        linarith
      · -- an exact half stays below
        have h0 : f = 0 := by
          by_contra hne
          exact h5 (hst.2 hne)
        have h5' : ((n % 10 : ℕ) : ℚ) ≤ (5 : ℕ) := Nat.cast_le.2 (by omega)
        push_cast at h5' ⊢
        linarith

/-- Of two nearest tenths the even one is left. -/
lemma shrink_even {f : ℚ} (hf : 0 ≤ f) (hf' : f < 1) (hst : sticky = true ↔ f ≠ 0)
    (hq : q = if 5 < n % 10 ∨ (n % 10 = 5 ∧ (sticky ∨ n / 10 % 2 = 1)) then n / 10 + 1
      else n / 10) (htie : |(n + f) / 10 - q| = 1 / 2) : q % 2 = 0 := by
  have hn : (n : ℚ) = 10 * (n / 10 : ℕ) + (n % 10 : ℕ) := by
    exact_mod_cast (Nat.div_add_mod n 10).symm
  have hr : ((n % 10 : ℕ) : ℚ) ≤ 9 := by exact_mod_cast Nat.le_of_lt_succ (Nat.mod_lt n (by decide))
  have hr0 : (0 : ℚ) ≤ (n % 10 : ℕ) := Nat.cast_nonneg _
  -- a tie means that the last digit is a five and nothing comes behind it
  have hfive : ((n % 10 : ℕ) : ℚ) + f = 5 → n % 10 = 5 ∧ f = 0 := by
    intro h
    have h4 : ((4 : ℕ) : ℚ) < (n % 10 : ℕ) := by
      push_cast
      linarith
    have h5 : ((n % 10 : ℕ) : ℚ) ≤ (5 : ℕ) := by
      push_cast
      linarith
    have h4 : 4 < n % 10 := by exact_mod_cast h4
    have h5 : n % 10 ≤ 5 := by exact_mod_cast h5
    have he : n % 10 = 5 := by omega
    rw [he] at h
    push_cast at h
    exact ⟨he, by linarith⟩
  rw [hn, hq] at htie
  rw [hq]
  split
  next hup =>
    rw [if_pos hup] at htie
    push_cast at htie
    obtain ⟨h5, h0⟩ := hfive (by rcases eq_or_eq_neg_of_abs_eq htie with h | h <;> linarith)
    have hst' : ¬ sticky = true := fun h => hst.1 h h0
    simp only [h5, lt_self_iff_false, hst', Bool.false_eq_true, false_or, true_and] at hup
    omega
  next hup =>
    rw [if_neg hup] at htie
    obtain ⟨h5, h0⟩ := hfive (by rcases eq_or_eq_neg_of_abs_eq htie with h | h <;> linarith)
    have hodd : ¬ n / 10 % 2 = 1 := fun h => hup (.inr ⟨h5, .inr h⟩)
    omega

/-- A quotient that left the range is rounded at one scale less. -/
lemma LongDivision.isRounding_of_shrink? (hv : x * 10 ^ w.s = w.q + w.r / d) (hr : w.r < d)
    (hs : w.s ≤ maxScale) (hb : bound ≤ w.q) (hq : w.q < bound + tenPow 9)
    (h : shrink? w.q (w.r ≠ 0) w.s = some (q, s')) : 0 ≤ s' ∧ IsRounding x q s'.toNat := by
  obtain ⟨rfl, hs0, he⟩ := shrink?_eq_some h
  have hd : (0 : ℚ) < d := by exact_mod_cast Nat.zero_lt_of_lt hr
  have hf : (w.r / d : ℚ) < 1 := (div_lt_one hd).2 (by exact_mod_cast hr)
  have hst : decide (w.r ≠ 0) = true ↔ (w.r / d : ℚ) ≠ 0 := by simp [hd.ne']
  have hx : x * 10 ^ ((w.s - 1).toNat) = (w.q + w.r / d) / 10 := by
    rw [zpow_toNat hs0, zpow_sub_one₀ (by norm_num), ← mul_assoc, hv]
    rfl
  have h9 : tenPow 9 = 1000000000 := rfl
  refine ⟨hs0, by omega, ?_, ?_, ?_, ?_⟩
  · rw [h9] at hq
    show q < 79228162514264337593543950336
    have hq' : w.q < 79228162514264337593543950336 + 1000000000 := hq
    rw [he]
    split <;> omega
  · rw [hx]
    exact shrink_near (by positivity) hf hst he
  · rw [hx]
    exact shrink_even (by positivity) hf hst he
  · refine .inr (.inr ?_)
    rw [zpow_toNat_succ hs0, hv]
    have h1 := limit_le_of_bound_le hb
    have h2 : (0 : ℚ) ≤ w.r / d := by positivity
    linarith

/-- The nearest whole number to `q` and a fraction of `d`. -/
lemma round_near (w : LongDivision) (hr : w.r < d) :
    |(w.q + w.r / d : ℚ)
      - (if d < 2 * w.r ∨ (2 * w.r = d ∧ w.q % 2 = 1) then w.q + 1 else w.q : ℕ)| ≤ 1 / 2 := by
  have hd : (0 : ℚ) < d := by exact_mod_cast Nat.zero_lt_of_lt hr
  have hf : (w.r / d : ℚ) ≤ 1 := (div_le_one hd).2 (by exact_mod_cast hr.le)
  have hf0 : (0 : ℚ) ≤ w.r / d := by positivity
  rw [abs_le]
  split
  next hup =>
    have h2 : (d : ℚ) ≤ 2 * w.r := by exact_mod_cast (by omega : d ≤ 2 * w.r)
    have h3 : 1 / 2 ≤ (w.r / d : ℚ) := by
      rw [le_div_iff₀ hd]
      linarith
    push_cast
    constructor <;> linarith
  next hup =>
    have h2 : (2 * w.r : ℚ) ≤ d := by
      have : 2 * w.r ≤ d := by
        rw [not_or] at hup
        omega
      exact_mod_cast this
    have h3 : (w.r / d : ℚ) ≤ 1 / 2 := by
      rw [div_le_iff₀ hd]
      linarith
    constructor <;> linarith

/-- Of two nearest whole numbers the even one is taken. -/
lemma round_even (w : LongDivision) (hr : w.r < d) (htie : |(w.q + w.r / d : ℚ)
      - (if d < 2 * w.r ∨ (2 * w.r = d ∧ w.q % 2 = 1) then w.q + 1 else w.q : ℕ)| = 1 / 2) :
    (if d < 2 * w.r ∨ (2 * w.r = d ∧ w.q % 2 = 1) then w.q + 1 else w.q) % 2 = 0 := by
  have hd : (0 : ℚ) < d := by exact_mod_cast Nat.zero_lt_of_lt hr
  have hf : (w.r / d : ℚ) < 1 := (div_lt_one hd).2 (by exact_mod_cast hr)
  have hf0 : (0 : ℚ) ≤ w.r / d := by positivity
  have hhalf : (w.r / d : ℚ) = 1 / 2 → 2 * w.r = d := by
    intro h
    rw [div_eq_iff hd.ne'] at h
    have h2 : (2 * w.r : ℚ) = d := by linarith
    exact_mod_cast h2
  split
  next hup =>
    rw [if_pos hup] at htie
    push_cast at htie
    have h2 := hhalf (by rcases eq_or_eq_neg_of_abs_eq htie with h | h <;> linarith)
    omega
  next hup =>
    rw [if_neg hup] at htie
    have h2 := hhalf (by rcases eq_or_eq_neg_of_abs_eq htie with h | h <;> linarith)
    omega

/-- The last digit is rounded where no further one is wanted or fits. -/
lemma LongDivision.Tracks.isRounding_of_round? (h : w.Tracks d x) (hs : 0 ≤ w.s)
    (hfull : w.s = maxScale ∨ bound ≤ w.q * tenPow 1) (hr : w.round? d = some (q, s')) :
    0 ≤ s' ∧ IsRounding x q s'.toNat := by
  have hnear := round_near w h.rest_lt
  have heven := round_even w h.rest_lt
  rw [← h.value] at hnear heven
  unfold LongDivision.round? at hr
  simp only at hr
  generalize hq : (if d < 2 * w.r ∨ (2 * w.r = d ∧ w.q % 2 = 1) then w.q + 1 else w.q) = q₀ at *
  split at hr
  next hlt =>
    obtain ⟨rfl, rfl⟩ := Prod.mk.inj (Option.some.inj hr)
    refine ⟨hs, by have := h.scale_le; omega, hlt, by rwa [zpow_toNat hs],
      by rwa [zpow_toNat hs], ?_⟩
    rcases hfull with hmax | hb
    · exact .inr (.inl (by omega))
    · refine .inr (.inr ?_)
      have h1 := limit_le_of_bound_le hb
      have h2 : (0 : ℚ) ≤ w.r / d := by positivity
      rw [pow_succ, zpow_toNat hs, ← mul_assoc, h.value]
      rw [Nat.cast_mul, tenPow_cast, pow_one] at h1
      linarith
  next hge =>
    -- the digits were all nines, and rounding up takes one more digit
    have hq₀ : q₀ = bound := by
      have h1 := h.digits_lt
      have h2 : q₀ ≤ w.q + 1 := by
        rw [← hq]
        split <;> omega
      omega
    subst hq₀
    obtain ⟨rfl, hs0, he⟩ := shrink?_eq_some hr
    have hq' : q = 7922816251426433759354395034 := he.trans (by decide)
    have hup : x * 10 ^ w.s < limit := by
      have hf : (w.r / d : ℚ) < 1 := by
        have hd : (0 : ℚ) < d := by exact_mod_cast Nat.zero_lt_of_lt h.rest_lt
        exact (div_lt_one hd).2 (by exact_mod_cast h.rest_lt)
      have := cast_le_of_lt_bound h.digits_lt
      rw [h.value]
      linarith
    have hlow : limit - 1 / 2 ≤ x * 10 ^ w.s := by
      have h1 := (abs_le.1 hnear).1
      unfold limit
      linarith
    refine ⟨hs0, by have := h.scale_le; omega, by rw [hq']; decide, ?_, fun _ => by rw [hq'], ?_⟩
    · rw [zpow_toNat hs0, zpow_sub_one₀ (by norm_num), ← mul_assoc, hq']
      rw [limit_eq] at hup hlow
      rw [abs_le]
      push_cast
      constructor <;> linarith
    · refine .inr (.inr ?_)
      rw [zpow_toNat_succ hs0]
      exact hlow

/-- Rounding the last digit fails only beyond the range. -/
lemma LongDivision.Tracks.le_of_round?_eq_none (h : w.Tracks d x) (hs : 0 ≤ w.s)
    (hr : w.round? d = none) : limit - 1 / 2 ≤ x := by
  have hnear := round_near w h.rest_lt
  rw [← h.value] at hnear
  unfold LongDivision.round? at hr
  simp only at hr
  generalize (if d < 2 * w.r ∨ (2 * w.r = d ∧ w.q % 2 = 1) then w.q + 1 else w.q) = q₀ at *
  split at hr
  next => cases hr
  next hge =>
    have hs0 : w.s = 0 := le_antisymm (shrink?_eq_none hr) hs
    rw [hs0, zpow_zero, mul_one] at hnear
    have h1 := (abs_le.1 hnear).1
    have h2 := limit_le_of_bound_le (Nat.le_of_not_lt hge)
    linarith

end Last

/-! ### The whole division -/

section Run

variable {x : ℚ} {d q fuel : ℕ} {s : ℤ} {e extended : Bool} {w : LongDivision}

lemma LongDivision.Tracks.grow {p : ℕ} (h : w.Tracks d x) (hlt : (w.grow d p).q < bound)
    (hs : w.s + p ≤ maxScale) : (w.grow d p).Tracks d x :=
  ⟨h.grow_value p, w.grow_rest_lt (Nat.zero_lt_of_lt h.rest_lt) p, hlt, hs⟩

/-- Without a rest the new digits are zeros. -/
lemma LongDivision.grow_of_rest_eq_zero (hr : w.r = 0) (p : ℕ) :
    (w.grow d p).q = w.q * tenPow p := by
  simp [LongDivision.grow, hr]

/-- How many digits the next step adds. -/
lemma step_le (hs : w.s ≤ maxScale) :
    ((if w.s = maxScale then 0
      else growth w.q (Nat.min 9 (maxScale - w.s).toNat) : ℕ) : ℤ) + w.s ≤ maxScale ∧
    (if w.s = maxScale then 0 else growth w.q (Nat.min 9 (maxScale - w.s).toNat)) ≤ 9 := by
  split
  next h => exact ⟨by omega, by omega⟩
  next h =>
    have h1 := growth_le w.q (Nat.min 9 (maxScale - w.s).toNat)
    have h2 : Nat.min 9 (maxScale - w.s).toNat ≤ 9 := Nat.min_le_left _ _
    have h3 : Nat.min 9 (maxScale - w.s).toNat ≤ (maxScale - w.s).toNat := Nat.min_le_right _ _
    omega

/-- The digits of a step that adds some still fit, and one digit more does not. -/
lemma step_fits (hp : (if w.s = maxScale then 0
    else growth w.q (Nat.min 9 (maxScale - w.s).toNat)) ≠ 0) :
    w.q * tenPow (if w.s = maxScale then 0
      else growth w.q (Nat.min 9 (maxScale - w.s).toNat)) < bound := by
  split at hp
  next => exact absurd rfl hp
  next h =>
    rw [if_neg h]
    exact growth_fits hp

/-- **One round of a division** ends it with the rounded quotient, goes on from more digits, or
finds the quotient beyond the range. -/
theorem LongDivision.Tracks.round_cases (h : w.Tracks d x) (fuel : ℕ) (extended : Bool) :
    (∃ q s e, run? d (fuel + 1) extended w = some (q, s, e) ∧ 0 ≤ s ∧ IsRounding x q s.toNat) ∨
    (∃ p e, 0 < p ∧ (w.grow d p).Tracks d x ∧
      run? d (fuel + 1) extended w = run? d fuel e (w.grow d p)) ∨
    (run? d (fuel + 1) extended w = none ∧ limit - 1 / 2 ≤ x) := by
  have h28 : ((maxScale : ℕ) : ℤ) = 28 := rfl
  have hs28 := h.scale_le
  generalize hR : run? d (fuel + 1) extended w = R
  unfold LongDivision.run? at hR
  simp only at hR
  split at hR
  next hr0 =>
    split at hR
    next hs =>
      -- no rest is left, so the quotient is exact
      have hv := h.value
      rw [hr0, Nat.cast_zero, zero_div, add_zero, ← zpow_toNat hs] at hv
      exact .inl ⟨_, _, _, hR.symm, hs, by omega, h.digits_lt, by rw [hv]; norm_num,
        by rw [hv]; norm_num, .inl hv⟩
    next hs =>
      have hp : Nat.min 9 (-w.s).toNat ≤ (-w.s).toNat := Nat.min_le_right _ _
      have hp1 : 1 ≤ Nat.min 9 (-w.s).toNat := Nat.le_min.2 ⟨by decide, by omega⟩
      split at hR
      next hlt =>
        refine .inr (.inl ⟨_, _, hp1, h.grow ?_ (by omega), hR.symm⟩)
        rwa [LongDivision.grow_of_rest_eq_zero hr0]
      next hge =>
        have h1 := h.le_of_scale (p := Nat.min 9 (-w.s).toNat) (by omega)
        have h2 := limit_le_of_bound_le (Nat.le_of_not_lt hge)
        exact .inr (.inr ⟨hR.symm, by linarith⟩)
  next hr0 =>
    obtain ⟨hp, hp9⟩ := step_le h.scale_le
    have hfits := step_fits (w := w)
    generalize hpe : (if w.s = maxScale then 0
      else growth w.q (Nat.min 9 (maxScale - w.s).toNat)) = p at *
    split at hR
    next hps =>
      -- left of the point the next digit no longer fits
      have h9 : Nat.min 9 (maxScale - w.s).toNat = 9 := Nat.min_eq_left (by omega)
      rw [if_neg (by omega), h9] at hpe
      have hfull := growth_full (q := w.q) (p := 9) (by omega)
      rw [hpe] at hfull
      have h1 := h.le_of_scale (p := p + 1) (by omega)
      have h2 := limit_le_of_bound_le hfull
      exact .inr (.inr ⟨hR.symm, by linarith⟩)
    next hps =>
      split at hR
      next hp0 =>
        have hs : 0 ≤ w.s := by omega
        cases hround : w.round? d with
        | some v =>
          rw [hround] at hR
          have hfull : w.s = maxScale ∨ bound ≤ w.q * tenPow 1 := by
            refine or_iff_not_imp_left.2 fun hmax => ?_
            rw [if_neg hmax, hp0] at hpe
            have hfull := growth_full (q := w.q) (p := Nat.min 9 (maxScale - w.s).toNat) (by
              rw [hpe]
              exact Nat.lt_min.2 ⟨by decide, by omega⟩)
            rwa [hpe] at hfull
          obtain ⟨hv, hq⟩ := h.isRounding_of_round? hs hfull hround
          exact .inl ⟨_, _, _, hR.symm, hv, hq⟩
        | none =>
          rw [hround] at hR
          exact .inr (.inr ⟨hR.symm, h.le_of_round?_eq_none hs hround⟩)
      next hp0 =>
        split at hR
        next hlt => exact .inr (.inl ⟨_, _, by omega, h.grow hlt (by omega), hR.symm⟩)
        next hge =>
          have hv := h.grow_value p
          have hrest := w.grow_rest_lt (Nat.zero_lt_of_lt h.rest_lt) p
          cases hshrink : shrink? (w.grow d p).q ((w.grow d p).r ≠ 0) (w.grow d p).s with
          | some v =>
            rw [hshrink] at hR
            have h9 := tenPow_le_tenPow hp9
            have hgrow := h.grow_lt p
            have hq := hfits hp0
            obtain ⟨hs, hq⟩ := LongDivision.isRounding_of_shrink? hv hrest
              (show w.s + p ≤ maxScale by omega) (Nat.le_of_not_lt hge) (by omega) hshrink
            exact .inl ⟨_, _, _, hR.symm, hs, hq⟩
          | none =>
            rw [hshrink] at hR
            have hs : w.s + p ≤ 0 := shrink?_eq_none hshrink
            have h0 : (0 : ℚ) ≤ (w.grow d p).r / d := by positivity
            have h2 := limit_le_of_bound_le (Nat.le_of_not_lt hge)
            have hx : 0 ≤ x := (Nat.cast_nonneg _).trans (h.le_of_scale hs)
            have hpow : (10 : ℚ) ^ (w.grow d p).s ≤ 1 := zpow_le_one_of_nonpos₀ (by norm_num) hs
            have hle : x * 10 ^ (w.grow d p).s ≤ x := mul_le_of_le_one_right hx hpow
            exact .inr (.inr ⟨hR.symm, by linarith⟩)

/-- A division that ends has the rounded quotient. -/
theorem LongDivision.Tracks.isRounding_of_run? (h : w.Tracks d x)
    (hr : run? d fuel extended w = some (q, s, e)) : 0 ≤ s ∧ IsRounding x q s.toNat := by
  induction fuel generalizing w extended with
  | zero => cases hr
  | succ fuel ih =>
    rcases h.round_cases fuel extended with ⟨q', s', e', h', hq⟩ | ⟨p, e', -, hp, h'⟩ | ⟨h', -⟩
    · rw [h'] at hr
      cases hr
      exact hq
    · exact ih hp (h' ▸ hr)
    · rw [h'] at hr
      cases hr

/-- A division fails only beyond the range: every round adds a digit, so it does not run out of
rounds. -/
theorem LongDivision.Tracks.le_of_run?_eq_none (h : w.Tracks d x) (hfuel : maxScale - w.s < fuel)
    (hr : run? d fuel extended w = none) : limit - 1 / 2 ≤ x := by
  induction fuel generalizing w extended with
  | zero =>
    have := h.scale_le
    omega
  | succ fuel ih =>
    rcases h.round_cases fuel extended with ⟨q', s', e', h', -⟩ | ⟨p, e', hpos, hp, h'⟩ | ⟨-, hx⟩
    · rw [h'] at hr
      cases hr
    · refine ih hp ?_ (h' ▸ hr)
      show maxScale - (w.s + p) < fuel
      omega
    · exact hx

end Run

/-! ### Trailing zeros -/

lemma strip_eq {q s k : ℕ} (hk : k ≤ s) (hq : q % tenPow k = 0) :
    ((q / tenPow k : ℕ) : ℚ) / 10 ^ (s - k) = q / 10 ^ s := by
  obtain ⟨i, rfl⟩ := Nat.exists_eq_add_of_le hk
  obtain ⟨n, rfl⟩ := Nat.dvd_of_mod_eq_zero hq
  rw [Nat.mul_div_cancel_left _ (tenPow_pos k), Nat.add_sub_cancel_left, pow_add]
  push_cast
  rw [tenPow_cast]
  field_simp

lemma stripGroups_spec (fuel q s : ℕ) :
    (((stripGroups fuel q s).1 : ℕ) : ℚ) / 10 ^ (stripGroups fuel q s).2 = q / 10 ^ s := by
  induction fuel generalizing q s with
  | zero => rfl
  | succ fuel ih =>
    unfold stripGroups
    split
    next h => rw [ih, strip_eq h.2.1 h.2.2]
    next => rfl

lemma stripOnce_spec (k : ℕ) (w : ℕ × ℕ) :
    (((stripOnce k w).1 : ℕ) : ℚ) / 10 ^ (stripOnce k w).2 = w.1 / 10 ^ w.2 := by
  unfold stripOnce
  split
  next h => exact strip_eq h.1 h.2
  next => rfl

/-- Zeros that go do not change the number. -/
lemma stripZeros_spec (q s : ℕ) :
    (((stripZeros q s).1 : ℕ) : ℚ) / 10 ^ (stripZeros q s).2 = q / 10 ^ s := by
  unfold stripZeros
  rw [stripOnce_spec, stripOnce_spec, stripOnce_spec, stripGroups_spec]

lemma stripOnce_le (k : ℕ) (w : ℕ × ℕ) : (stripOnce k w).1 ≤ w.1 ∧ (stripOnce k w).2 ≤ w.2 := by
  unfold stripOnce
  split
  · exact ⟨Nat.div_le_self _ _, Nat.sub_le _ _⟩
  · exact ⟨le_rfl, le_rfl⟩

lemma stripGroups_le (fuel q s : ℕ) :
    (stripGroups fuel q s).1 ≤ q ∧ (stripGroups fuel q s).2 ≤ s := by
  induction fuel generalizing q s with
  | zero => exact ⟨le_rfl, le_rfl⟩
  | succ fuel ih =>
    unfold stripGroups
    split
    · obtain ⟨h1, h2⟩ := ih (q / tenPow 8) (s - 8)
      exact ⟨h1.trans (Nat.div_le_self _ _), h2.trans (Nat.sub_le _ _)⟩
    · exact ⟨le_rfl, le_rfl⟩

lemma stripZeros_le (q s : ℕ) : (stripZeros q s).1 ≤ q ∧ (stripZeros q s).2 ≤ s := by
  unfold stripZeros
  have h1 := stripOnce_le 1 (stripOnce 2 (stripOnce 4 (stripGroups 4 q s)))
  have h2 := stripOnce_le 2 (stripOnce 4 (stripGroups 4 q s))
  have h3 := stripOnce_le 4 (stripGroups 4 q s)
  have h4 := stripGroups_le 4 q s
  omega

/-! ### The quotient of two decimals -/

section Quotient

variable {a b c : Decimal}

/-- The division of the digits sets out toward the quotient of the magnitudes. -/
lemma tracks_start (ha : a.digits ≠ 0) (hb : b.digits ≠ 0) :
    LongDivision.Tracks ⟨a.digits / b.digits, a.digits % b.digits, (a.scale : ℤ) - b.scale⟩
      b.digits |a.toRat / b.toRat| := by
  have hb' : (b.digits : ℚ) ≠ 0 := by exact_mod_cast hb
  have ha28 := a.scale_le
  refine ⟨?_, Nat.mod_lt _ (Nat.pos_of_ne_zero hb),
    (Nat.div_le_self _ _).trans_lt a.digits_lt, by show (a.scale : ℤ) - b.scale ≤ 28; omega⟩
  have hdm : ((a.digits / b.digits : ℕ) : ℚ) * b.digits + (a.digits % b.digits : ℕ) = a.digits := by
    exact_mod_cast Nat.div_add_mod' a.digits b.digits
  have hq : ((a.digits / b.digits : ℕ) : ℚ) + (a.digits % b.digits : ℕ) / b.digits
      = a.digits / b.digits := by
    field_simp
    exact hdm
  rw [hq, abs_div, abs_toRat, abs_toRat, zpow_sub₀ (by norm_num), zpow_natCast, zpow_natCast]
  field_simp

lemma div_lt_zero_iff (ha : a.digits ≠ 0) (hb : b.digits ≠ 0) :
    a.toRat / b.toRat < 0 ↔ (a.negative != b.negative) = true := by
  rw [← mul_lt_zero_iff ha hb, div_neg_iff, mul_neg_iff]

/-- What is done with the digits of a quotient keeps its value and its range. -/
lemma tidy_spec (extended : Bool) (q s : ℕ) :
    (((if extended then stripZeros q s else (q, s)).1 : ℕ) : ℚ)
        / 10 ^ (if extended then stripZeros q s else (q, s)).2 = q / 10 ^ s ∧
      (if extended then stripZeros q s else (q, s)).1 ≤ q ∧
      (if extended then stripZeros q s else (q, s)).2 ≤ s := by
  cases extended
  · exact ⟨rfl, le_rfl, le_rfl⟩
  · exact ⟨stripZeros_spec q s, stripZeros_le q s⟩

theorem rounds_div? (h : a.div? b = some c) : Rounds (a.toRat / b.toRat) c := by
  unfold div? at h
  split at h
  next => cases h
  next hb =>
    split at h
    next ha =>
      cases h
      rw [toRat_eq_zero.2 ha, zero_div]
      exact rounds_zero (by norm_num)
    next ha =>
      obtain ⟨⟨q, s, extended⟩, hrun, hc⟩ := Option.bind_eq_some_iff.1 h
      obtain ⟨hs, hr⟩ := (tracks_start ha hb).isRounding_of_run? hrun
      obtain ⟨hv, -, -⟩ := tidy_spec extended q s.toNat
      simp only at hc
      generalize (if extended then stripZeros q s.toNat else (q, s.toNat)) = v at hc hv
      obtain ⟨c', hc', rfl⟩ := Option.map_eq_some_iff.1 hc
      obtain ⟨hn, hq', hs'⟩ := ofParts?_eq_some hc'
      refine ⟨q, s.toNat, hr, ?_⟩
      rw [toRat_unsignedZero, toRat_of_sign, hn, hq', hs', hv]
      by_cases hneg : (a.negative != b.negative) = true
      · rw [if_pos hneg, if_pos ((div_lt_zero_iff ha hb).2 hneg)]
      · rw [if_neg hneg, if_neg (fun h => hneg ((div_lt_zero_iff ha hb).1 h))]

/-- A quotient is missing for a zero divisor or beyond the range. -/
theorem div?_eq_none (h : a.div? b = none) :
    b.toRat = 0 ∨ limit - 1 / 2 ≤ |a.toRat / b.toRat| := by
  unfold div? at h
  split at h
  next hb => exact .inl (toRat_eq_zero.2 hb)
  next hb =>
    right
    split at h
    next => cases h
    next ha =>
      have htr := tracks_start ha hb
      rw [Option.bind_eq_none_iff] at h
      cases hrun : LongDivision.run? b.digits 57 false
          ⟨a.digits / b.digits, a.digits % b.digits, (a.scale : ℤ) - b.scale⟩ with
      | none =>
        refine htr.le_of_run?_eq_none ?_ hrun
        have := b.scale_le
        show (28 : ℤ) - ((a.scale : ℤ) - b.scale) < (57 : ℕ)
        omega
      | some w =>
        obtain ⟨q, s, extended⟩ := w
        obtain ⟨-, hr⟩ := htr.isRounding_of_run? hrun
        obtain ⟨-, hq, hs⟩ := tidy_spec extended q s.toNat
        have hn := Option.map_eq_none_iff.1 (h _ hrun)
        unfold ofParts? at hn
        rw [dif_pos ⟨hq.trans_lt hr.digits_lt, hs.trans hr.scale_le⟩] at hn
        cases hn

end Quotient

end LeverageKeeper.Decimal
