import LeverageKeeper.Position
import LeverageKeeper.Proofs.Outcome
import LeverageKeeper.Proofs.Units

/-!
What a derived position is made of.
-/

namespace LeverageKeeper

lemma leverageRatio_eq_ok {c d x : Decimal} (h : leverageRatio c d = .ok x) :
    d < c ∧ ∃ equity, c.minus d = .ok equity ∧ c.div? equity = some x := by
  unfold leverageRatio at h
  by_cases hz : c.isZero = true ∧ d.isZero = true
  · rw [if_pos hz] at h
    cases h
  · rw [if_neg hz] at h
    split at h
    · cases h
    next hlt =>
      simp only [bind_eq_ok, lift_eq_ok, orRefuse_eq_ok] at h
      exact ⟨Decimal.not_le.1 hlt, h⟩

/-- A position without debt has the ratio one, exactly. -/
lemma leverageRatio_of_no_debt {c d x : Decimal} (h : leverageRatio c d = .ok x)
    (hd : d.toRat = 0) : x.toRat = 1 := by
  obtain ⟨hlt, equity, he, hx⟩ := leverageRatio_eq_ok h
  have hlt := Decimal.lt_iff_toRat.1 hlt
  rw [hd] at hlt
  have heq : equity.toRat = c.toRat := by
    have hr := Decimal.rounds_sub? (orCrash_eq_ok.1 he)
    rw [hd, sub_zero] at hr
    exact hr.eq rfl
  have hq : c.toRat / equity.toRat = Decimal.one.toRat := by
    rw [heq, Decimal.toRat_one, div_self hlt.ne']
  rw [(Decimal.rounds_div? hx).eq hq, hq, Decimal.toRat_one]

/-- The parts of a position, and how they come about. -/
structure Balances.Derives (b : Balances) (p : Prices) (a : Assets) (x : Position) : Prop where
  collateralUnits : Decimal.ofUnits b.collateral a.collateralDecimals = .ok x.collateralUnits
  debtUnits : Decimal.ofUnits b.debt a.borrowDecimals = .ok x.debtUnits
  prices : x.prices = p
  collateralValue : x.collateralUnits.mul? p.collateral = some x.collateralValue
  debtValue : x.debtUnits.mul? p.borrow = some x.debtValue
  leverage : leverageRatio x.collateralValue x.debtValue = .ok x.leverage

theorem Balances.position_eq_ok {b : Balances} {p : Prices} {a : Assets} {x : Position}
    (h : b.position p a = .ok x) : b.Derives p a x := by
  unfold position Holding.position at h
  simp only [bind_eq_ok, lift_eq_ok, orRefuse_eq_ok, pure_eq_ok] at h
  obtain ⟨cu, hcu, du, hdu, cv, hcv, dv, hdv, lev, hlev, rfl⟩ := h
  exact ⟨hcu, hdu, rfl, hcv, hdv, hlev⟩

theorem Balances.Derives.leverage_of_not_engaged {b : Balances} {p : Prices} {a : Assets}
    {x : Position} (h : b.Derives p a x) (he : x.isEngaged = false) : x.leverage.toRat = 1 := by
  refine leverageRatio_of_no_debt h.leverage ?_
  have hz : x.debtUnits.toRat = 0 := Decimal.isZero_iff.1 (by simpa [Position.isEngaged] using he)
  have hr := Decimal.rounds_mul? h.debtValue
  rw [hz, zero_mul] at hr
  exact hr.eq Decimal.toRat_zero.symm

lemma worth_nonneg {n d : ℕ} {units price value : Decimal} (hu : Decimal.ofUnits n d = .ok units)
    (hp : 0 ≤ price.toRat) (hv : units.mul? price = some value) : 0 ≤ value.toRat := by
  obtain ⟨-, hvalue⟩ := ofUnits_eq_ok hu
  have hunits : 0 ≤ units.toRat := by
    rw [hvalue]
    positivity
  exact (Decimal.rounds_mul? hv).nonneg (by positivity)

lemma Balances.Derives.values_nonneg {b : Balances} {p : Prices} {a : Assets} {x : Position}
    (h : b.Derives p a x) (hc : 0 < p.collateral.toRat) (hb : 0 < p.borrow.toRat) :
    0 ≤ x.collateralValue.toRat ∧ 0 ≤ x.debtValue.toRat :=
  ⟨worth_nonneg h.collateralUnits hc.le h.collateralValue,
    worth_nonneg h.debtUnits hb.le h.debtValue⟩

end LeverageKeeper
