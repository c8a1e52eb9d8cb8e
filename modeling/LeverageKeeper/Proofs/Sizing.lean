import LeverageKeeper.Proofs.Fund.Decisions
import LeverageKeeper.Proofs.Units

/-!
Bounds for the sizes of trades.  They hold for the rounded results that are computed, since rounding
never carries a result across a decimal.
-/

namespace LeverageKeeper

open Decimal (Rounds maxScale)

namespace Decimal

lemma clamp_eq_ok {a lo hi x : Decimal} (h : a.clamp lo hi = .ok x) : lo ≤ x ∧ x ≤ hi := by
  unfold clamp at h
  split at h
  · cases h
  next hband =>
    cases h
    have hband := not_lt.1 hband
    split
    · exact ⟨le_refl lo, hband⟩
    next hlo =>
      split
      · exact ⟨hband, le_refl hi⟩
      next hhi => exact ⟨not_lt.1 hlo, not_lt.1 hhi⟩

lemma rounds_minus {a b c : Decimal} (h : a.minus b = .ok c) : Rounds (a.toRat - b.toRat) c :=
  rounds_sub? (orCrash_eq_ok.1 h)

lemma rounds_plus {a b c : Decimal} (h : a.plus b = .ok c) : Rounds (a.toRat + b.toRat) c :=
  rounds_add? (orCrash_eq_ok.1 h)

/-- What is not negative can be taken from what is not negative. -/
lemma minus_ok {a b : Decimal} (ha : 0 ≤ a.toRat) (hb : 0 ≤ b.toRat) : ∃ g, a.minus b = .ok g := by
  cases h : a.sub? b with
  | some g => exact ⟨g, orCrash_eq_ok.2 h⟩
  | none =>
    have hnone := sub?_eq_none h
    have hla := abs_le.1 a.abs_toRat_le
    have hlb := abs_le.1 b.abs_toRat_le
    have hsmall : |a.toRat - b.toRat| ≤ limit - 1 := abs_le.2 ⟨by linarith, by linarith⟩
    linarith

/-- Two decimals that differ do so by at least one unit of the last place there is. -/
lemma unit_le_sub {a b : Decimal} (h : a.toRat < b.toRat) :
    1 / 10 ^ maxScale ≤ b.toRat - a.toRat := by
  obtain ⟨m, hm⟩ := exists_units a
  obtain ⟨n, hn⟩ := exists_units b
  have hp : (0 : ℚ) < 10 ^ maxScale := by positivity
  have hlt : (m : ℚ) < n := by
    rw [← hm, ← hn]
    exact mul_lt_mul_of_pos_right h hp
  have hle : (m : ℚ) + 1 ≤ n := by exact_mod_cast hlt
  rw [div_le_iff₀ hp, sub_mul, hm, hn]
  linarith

/-- Taking a smaller amount from a larger one leaves something. -/
lemma sub?_pos {a b : Decimal} (ha : 0 ≤ a.toRat) (h : a.toRat < b.toRat) :
    ∃ c, b.sub? a = some c ∧ 0 < c.toRat := by
  cases hc : b.sub? a with
  | none =>
    have h1 := sub?_eq_none hc
    have h2 := abs_toRat_le b
    rw [abs_of_pos (by linarith)] at h1 h2
    linarith
  | some c =>
    have hu : (⟨false, 1, 28, by decide, by decide⟩ : Decimal).toRat = 1 / 10 ^ maxScale := by
      rw [toRat_eq]
      simp [coeff]
    refine ⟨c, rfl, lt_of_lt_of_le ?_ ((rounds_sub? hc).ge (hu.le.trans (unit_le_sub h)))⟩
    rw [hu]
    positivity

end Decimal

namespace Sizing

variable {target current : Decimal}

/-! ### Targets and directions -/

lemma recentered_eq_ok {m : Methodology} {x : Decimal} (h : recentered current m = .ok x) :
    m.least ≤ x ∧ x ≤ m.most := by
  unfold recentered at h
  simp only [bind_eq_ok] at h
  obtain ⟨_, -, _, -, _, -, _, -, h⟩ := h
  exact Decimal.clamp_eq_ok h

lemma direction?_delever (h : direction? target current = .ok (some .delever)) :
    target.toRat ≤ current.toRat := by
  unfold direction? at h
  simp only [bind_eq_ok, pure_eq_ok] at h
  obtain ⟨gap, hg, h⟩ := h
  split at h
  · cases h
  next hne =>
    split at h
    · cases h
    next hpos =>
      by_contra hlt
      -- the gap would be positive before rounding, so zero at least, and a zero is within tolerance
      have h0 := (Decimal.rounds_minus hg).nonneg (by linarith)
      have h1 : ¬ 0 < gap.toRat := fun h => hpos (Decimal.coeff_pos_iff.2 h)
      have hz : gap.toRat = 0 := by linarith
      refine hne (Decimal.le_iff_toRat.2 ?_)
      rw [Decimal.toRat_abs, hz, abs_zero, Decimal.toRat_eq]
      simp [tolerance, Decimal.coeff]

lemma reached_delever (h : reached target current .delever = .ok false) :
    target.toRat ≤ current.toRat := by
  unfold reached at h
  simp only [bind_eq_ok, pure_eq_ok, decide_eq_false_iff_not, Decimal.not_le] at h
  obtain ⟨edge, he, hlt⟩ := h
  have ht : (0 : ℚ) ≤ tolerance.toRat := by
    rw [Decimal.toRat_eq]
    simp [tolerance, Decimal.coeff]
  have hle := (Decimal.rounds_plus he).ge (y := target) (by linarith)
  exact hle.trans (Decimal.lt_iff_toRat.1 hlt).le

/-! ### Notionals -/

lemma totalNotional_eq_ok {units x : Decimal} (h : totalNotional target current units = .ok x) :
    1 ≤ current.toRat ∧ ∃ gap part, target.minus current = .ok gap ∧
      gap.abs.div? current = some part ∧ part.mul? units = some x := by
  unfold totalNotional at h
  split at h
  · cases h
  next hge =>
    obtain ⟨gap, hg, h⟩ := bind_eq_ok.1 h
    rw [lift_eq_ok, orRefuse_eq_ok, Option.bind_eq_some_iff] at h
    obtain ⟨part, hp, hx⟩ := h
    refine ⟨?_, gap, part, hg, hp, hx⟩
    simpa using Decimal.le_iff_toRat.1 (Decimal.not_lt.1 hge)

/-- **Downward, a trade never needs more than the collateral that is held.** -/
theorem totalNotional_le {units x : Decimal} (h : totalNotional target current units = .ok x)
    (h0 : 0 ≤ target.toRat) (ht : target.toRat ≤ current.toRat) (hu : 0 ≤ units.toRat) :
    x.toRat ≤ units.toRat := by
  obtain ⟨h1, gap, part, hg, hp, hx⟩ := totalNotional_eq_ok h
  have hgap := Decimal.rounds_minus hg
  have hneg : gap.toRat ≤ 0 := hgap.nonpos (by linarith)
  have hlow : current.neg.toRat ≤ gap.toRat := hgap.ge (by rw [Decimal.toRat_neg]; linarith)
  rw [Decimal.toRat_neg] at hlow
  have hpart : part.toRat ≤ 1 := by
    have hq : gap.abs.toRat / current.toRat ≤ Decimal.one.toRat := by
      rw [Decimal.toRat_one, Decimal.toRat_abs, abs_of_nonpos hneg, div_le_one (by linarith)]
      linarith
    simpa using (Decimal.rounds_div? hp).le hq
  refine (Decimal.rounds_mul? hx).le ?_
  calc part.toRat * units.toRat ≤ 1 * units.toRat := mul_le_mul_of_nonneg_right hpart hu
    _ = units.toRat := one_mul _

/-! ### Chunks -/

section Chunk

variable {total cap room : Decimal} {c : Chunk}

lemma chunk_bounds (h : chunk total cap room = .ok c) :
    0 < c.notional.toRat ∧ c.notional.toRat ≤ total.toRat ∧ c.notional.toRat ≤ cap.toRat ∧
      c.notional.toRat ≤ room.toRat := by
  obtain ⟨hpos, rfl⟩ := chunk_eq_ok h
  have hpos := Decimal.lt_iff_toRat.1 hpos
  rw [Decimal.toRat_zero] at hpos
  refine ⟨hpos, ?_⟩
  rw [Decimal.toRat_min, Decimal.toRat_min]
  exact ⟨(min_le_left _ _).trans (min_le_left _ _), (min_le_left _ _).trans (min_le_right _ _),
    min_le_right _ _⟩

/-- A chunk that others are to follow leaves something to trade. -/
theorem chunk_remaining (h : chunk total cap room = .ok c) (hc : c.chunked = true) :
    Decimal.zero < c.remaining := by
  obtain ⟨hpos, rfl⟩ := chunk_eq_ok h
  have hpos := Decimal.lt_iff_toRat.1 hpos
  rw [Decimal.toRat_zero] at hpos
  obtain ⟨d, hd, hd0⟩ := Decimal.sub?_pos hpos.le (Decimal.lt_iff_toRat.1 (of_decide_eq_true hc))
  unfold Chunk.remaining
  rw [hd, Option.getD_some, Decimal.lt_iff_toRat, Decimal.toRat_zero]
  exact hd0

end Chunk

end Sizing

end LeverageKeeper
