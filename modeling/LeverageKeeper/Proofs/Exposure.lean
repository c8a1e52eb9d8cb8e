import LeverageKeeper.Proofs.Position

/-!
The leverage ratio without rounding, and what a sale of collateral does to it.  The sale of a part
of the collateral lowers the ratio, or leaves it alone, just if what it brings in is at least the
same part of the debt.  Where the values on both sides are decimals, the computed ratio follows the
exact one.
-/

namespace LeverageKeeper

open Decimal (Rounds maxScale limit)

/-- An operation whose exact result is a decimal gives it. -/
lemma Decimal.eq_some_of_exact {r : Option Decimal} {q : ℚ} (hq : ∃ z : Decimal, z.toRat = q)
    (hnone : r = none → limit - 1 / 2 ≤ |q|) (hsome : ∀ w, r = some w → Rounds q w) :
    ∃ w, r = some w ∧ w.toRat = q := by
  obtain ⟨z, rfl⟩ := hq
  cases hr : r with
  | none =>
    have hbig := hnone hr
    have hsmall := z.abs_toRat_le
    linarith
  | some w => exact ⟨w, rfl, (hsome w hr).eq rfl⟩

lemma Decimal.mul?_of_exact {x y : Decimal} {q : ℚ} (h : x.toRat * y.toRat = q)
    (hq : ∃ z : Decimal, z.toRat = q) : ∃ w, x.mul? y = some w ∧ w.toRat = q := by
  subst h
  exact eq_some_of_exact hq mul?_eq_none fun _ => rounds_mul?

lemma Decimal.minus_of_exact {x y : Decimal} {q : ℚ} (h : x.toRat - y.toRat = q)
    (hq : ∃ z : Decimal, z.toRat = q) : ∃ w, x.minus y = .ok w ∧ w.toRat = q := by
  subst h
  obtain ⟨w, hw, hvalue⟩ := eq_some_of_exact hq sub?_eq_none fun _ => rounds_sub?
  exact ⟨w, orCrash_eq_ok.2 hw, hvalue⟩

lemma Decimal.plus_of_exact {x y : Decimal} {q : ℚ} (h : x.toRat + y.toRat = q)
    (hq : ∃ z : Decimal, z.toRat = q) : ∃ w, x.plus y = .ok w ∧ w.toRat = q := by
  subst h
  obtain ⟨w, hw, hvalue⟩ := eq_some_of_exact hq add?_eq_none fun _ => rounds_add?
  exact ⟨w, orCrash_eq_ok.2 hw, hvalue⟩

lemma Decimal.div?_of_exact {x y : Decimal} {q : ℚ} (hy : y.toRat ≠ 0)
    (h : x.toRat / y.toRat = q) (hq : ∃ z : Decimal, z.toRat = q) :
    ∃ w, x.div? y = some w ∧ w.toRat = q := by
  subst h
  exact eq_some_of_exact hq (fun hnone => (div?_eq_none hnone).resolve_left hy)
    fun _ => rounds_div?

/-- A ratio in range is computed. -/
lemma leverageRatio_of_lt {c d e : Decimal} (hlt : d.toRat < c.toRat) (hd : 0 ≤ d.toRat)
    (he : c.minus d = .ok e) (hpos : 0 < e.toRat) (hlimit : |c.toRat / e.toRat| < limit - 1 / 2) :
    ∃ x, leverageRatio c d = .ok x := by
  have hzero : ¬ (c.isZero = true ∧ d.isZero = true) := by
    rintro ⟨hz, -⟩
    have hz := Decimal.isZero_iff.1 hz
    linarith
  have hle : ¬ c ≤ d := by
    intro h
    have hge := Decimal.le_iff_toRat.1 h
    linarith
  unfold leverageRatio
  rw [if_neg hzero, if_neg hle, he]
  cases hx : c.div? e with
  | some x =>
    refine ⟨x, ?_⟩
    rw [ok_bind, hx]
    rfl
  | none =>
    rcases Decimal.div?_eq_none hx with h0 | hbig
    · linarith
    · linarith

/-- A ratio that is not rounded is computed as it is. -/
lemma leverageRatio_of_exact {c d : Decimal} {e q : ℚ} (hequity : c.toRat - d.toRat = e)
    (hquotient : c.toRat / e = q) (hpos : 0 < e) (hd : 0 ≤ d.toRat)
    (he : ∃ z : Decimal, z.toRat = e) (hq : ∃ z : Decimal, z.toRat = q) :
    ∃ x, leverageRatio c d = .ok x ∧ x.toRat = q := by
  obtain ⟨equity, hminus, hvalue⟩ := Decimal.minus_of_exact hequity he
  obtain ⟨z, hz⟩ := hq
  have hdiv : c.toRat / equity.toRat = z.toRat := by rw [hvalue, hquotient, hz]
  have hrange := z.abs_toRat_le
  obtain ⟨x, hx⟩ := leverageRatio_of_lt (c := c) (d := d) (e := equity) (by linarith) hd hminus
    (by rwa [hvalue]) (by rw [hdiv]; linarith)
  obtain ⟨-, equity', hminus', hquot⟩ := leverageRatio_eq_ok hx
  obtain rfl : equity = equity' := Except.ok.inj (hminus.symm.trans hminus')
  exact ⟨x, hx, by rw [(Decimal.rounds_div? hquot).eq hdiv, hdiv, hz]⟩

/-! ### The exact ratio -/

/-- What a native unit of the collateral is worth. -/
def Prices.perCollateral (p : Prices) (a : Assets) : ℚ :=
  p.collateral.toRat / 10 ^ Nat.min a.collateralDecimals maxScale

/-- What a native unit of the borrowed token is worth. -/
def Prices.perBorrow (p : Prices) (a : Assets) : ℚ :=
  p.borrow.toRat / 10 ^ Nat.min a.borrowDecimals maxScale

namespace Balances

/-- What the collateral is worth. -/
def held (b : Balances) (p : Prices) (a : Assets) : ℚ := b.collateral * p.perCollateral a

/-- What the debt is worth. -/
def owed (b : Balances) (p : Prices) (a : Assets) : ℚ := b.debt * p.perBorrow a

/-- The leverage ratio without any rounding; there is none unless more is held than owed. -/
def ratio? (b : Balances) (p : Prices) (a : Assets) : Option ℚ :=
  if b.owed p a < b.held p a then some (b.held p a / (b.held p a - b.owed p a)) else none

/-- The balances after some collateral is sold and what comes in repays debt as far as it goes. -/
def afterSale (b : Balances) (sold received : ℕ) : Balances :=
  ⟨b.collateral - sold, b.debt - min received b.debt⟩

/-- What comes in is at least the same part of the debt as what is sold is of the collateral. -/
def Covers (b : Balances) (sold received : ℕ) : Prop := b.debt * sold ≤ received * b.collateral

instance (b : Balances) (sold received : ℕ) : Decidable (b.Covers sold received) :=
  inferInstanceAs (Decidable (b.debt * sold ≤ received * b.collateral))

section Ratio

variable {b b' : Balances} {p : Prices} {a : Assets} {q : ℚ} {sold received : ℕ}

lemma ratio?_eq_some :
    b.ratio? p a = some q ↔
      b.owed p a < b.held p a ∧ q = b.held p a / (b.held p a - b.owed p a) := by
  unfold ratio?
  split
  next h => simp only [Option.some.injEq, h, true_and, eq_comm]
  next h => simp only [reduceCtorEq, h, false_and]

/-- Ratios compare like the parts of the collateral that are owed. -/
lemma ratio_le_iff (h : b.owed p a < b.held p a) (h' : b'.owed p a < b'.held p a) :
    b'.held p a / (b'.held p a - b'.owed p a) ≤ b.held p a / (b.held p a - b.owed p a) ↔
      b'.owed p a * b.held p a ≤ b.owed p a * b'.held p a := by
  rw [div_le_div_iff₀ (by linarith) (by linarith)]
  constructor
  · intro hle
    linarith
  · intro hle
    linarith

/-- The part repaid is at least the part sold, whether or not what comes in exceeds the debt. -/
lemma covers_iff (h : sold ≤ b.collateral) :
    b.Covers sold received ↔
      (b.afterSale sold received).debt * b.collateral
        ≤ b.debt * (b.afterSale sold received).collateral := by
  have hall : b.debt * sold ≤ b.debt * b.collateral := Nat.mul_le_mul_left b.debt h
  have hrepaid : min received b.debt * b.collateral ≤ b.debt * b.collateral :=
    Nat.mul_le_mul_right b.collateral (Nat.min_le_right received b.debt)
  have hmin : min received b.debt * b.collateral
      = min (received * b.collateral) (b.debt * b.collateral) :=
    (Nat.mul_min_mul_right received b.debt b.collateral).symm
  unfold Covers afterSale
  rw [Nat.sub_mul, Nat.mul_sub]
  -- the three products are atoms now, and the differences never cut off at zero
  omega

lemma Covers.mono {received' : ℕ} (h : b.Covers sold received) (hle : received ≤ received') :
    b.Covers sold received' := h.trans (Nat.mul_le_mul_right b.collateral hle)

lemma owed_mul_held (b b' : Balances) (p : Prices) (a : Assets) :
    b.owed p a * b'.held p a
      = ((b.debt * b'.collateral : ℕ) : ℚ) * (p.perCollateral a * p.perBorrow a) := by
  unfold owed held
  push_cast
  ring

lemma owed_mul_held_le_iff (hc : 0 < p.perCollateral a) (hd : 0 < p.perBorrow a) :
    b'.owed p a * b.held p a ≤ b.owed p a * b'.held p a ↔
      b'.debt * b.collateral ≤ b.debt * b'.collateral := by
  have hpos : 0 < p.perCollateral a * p.perBorrow a := mul_pos hc hd
  rw [owed_mul_held, owed_mul_held, mul_le_mul_iff_left₀ hpos, Nat.cast_le]

/-- A sale covers its part of the debt if its worth keeps, at the ratio before, what it loses: the
tolerated part and the dust. -/
theorem covers_of_tolerance {slippage dust : ℚ} (hc : 0 < p.perCollateral a)
    (hd : 0 < p.perBorrow a) (hq : b.ratio? p a = some q)
    (hratio : (slippage * (sold * p.perCollateral a) + dust) * q ≤ sold * p.perCollateral a)
    (hworth : sold * p.perCollateral a * (1 - slippage) ≤ received * p.perBorrow a + dust) :
    b.Covers sold received := by
  obtain ⟨hlt, rfl⟩ := ratio?_eq_some.1 hq
  have hheld : 0 ≤ b.held p a := mul_nonneg (Nat.cast_nonneg _) hc.le
  have hpos : 0 < p.perCollateral a * p.perBorrow a := mul_pos hc hd
  have hlost : (slippage * (sold * p.perCollateral a) + dust) * b.held p a
      ≤ sold * p.perCollateral a * (b.held p a - b.owed p a) := by
    rwa [← mul_div_assoc, div_le_iff₀ (sub_pos.2 hlt)] at hratio
  have key : ((b.debt * sold : ℕ) : ℚ) * (p.perCollateral a * p.perBorrow a)
      ≤ ((received * b.collateral : ℕ) : ℚ) * (p.perCollateral a * p.perBorrow a) := by
    push_cast
    calc (b.debt * sold : ℚ) * (p.perCollateral a * p.perBorrow a)
        = sold * p.perCollateral a * b.held p a
          - sold * p.perCollateral a * (b.held p a - b.owed p a) := by unfold owed; ring
      _ ≤ sold * p.perCollateral a * b.held p a
          - (slippage * (sold * p.perCollateral a) + dust) * b.held p a :=
        sub_le_sub_left hlost _
      _ = b.held p a * (sold * p.perCollateral a * (1 - slippage) - dust) := by ring
      _ ≤ b.held p a * (received * p.perBorrow a) :=
        mul_le_mul_of_nonneg_left (sub_le_iff_le_add.2 hworth) hheld
      _ = (received * b.collateral : ℚ) * (p.perCollateral a * p.perBorrow a) := by
        unfold held; ring
  exact Nat.cast_le.1 (le_of_mul_le_mul_right key hpos)

/-- **What a sale of collateral does to the ratio.**  It does not rise just if some collateral is
left and what comes in covers its part of the debt. -/
theorem ratio?_afterSale (hc : 0 < p.perCollateral a) (hd : 0 < p.perBorrow a)
    (hsold : sold ≤ b.collateral) (hq : b.ratio? p a = some q) :
    (∃ q', (b.afterSale sold received).ratio? p a = some q' ∧ q' ≤ q) ↔
      sold < b.collateral ∧ b.Covers sold received := by
  obtain ⟨hlt, rfl⟩ := ratio?_eq_some.1 hq
  have howed : ∀ x : Balances, 0 ≤ x.owed p a := fun x => mul_nonneg (Nat.cast_nonneg _) hd.le
  have hparts : (b.afterSale sold received).owed p a * b.held p a
        ≤ b.owed p a * (b.afterSale sold received).held p a ↔
      b.Covers sold received :=
    (owed_mul_held_le_iff hc hd).trans (covers_iff hsold).symm
  constructor
  · rintro ⟨q', hq', hle⟩
    obtain ⟨hlt', rfl⟩ := ratio?_eq_some.1 hq'
    refine ⟨?_, hparts.1 ((ratio_le_iff hlt hlt').1 hle)⟩
    have hheld : 0 < (b.afterSale sold received).held p a := (howed _).trans_lt hlt'
    have hleft : (0 : ℚ) < (b.collateral - sold : ℕ) := (mul_pos_iff_of_pos_right hc).1 hheld
    exact Nat.sub_pos_iff_lt.1 (Nat.cast_pos.1 hleft)
  · rintro ⟨hleft, hrepaid⟩
    have hheld : 0 < (b.afterSale sold received).held p a :=
      mul_pos (Nat.cast_pos.2 (Nat.sub_pos_of_lt hleft)) hc
    have hpart := hparts.2 hrepaid
    -- a part of the debt no smaller than that of the collateral: more is still held than owed
    have hlt' : (b.afterSale sold received).owed p a < (b.afterSale sold received).held p a := by
      have hstep : b.owed p a * (b.afterSale sold received).held p a
          < b.held p a * (b.afterSale sold received).held p a := mul_lt_mul_of_pos_right hlt hheld
      refine lt_of_mul_lt_mul_right ?_ ((howed b).trans hlt.le)
      calc (b.afterSale sold received).owed p a * b.held p a
          ≤ b.owed p a * (b.afterSale sold received).held p a := hpart
        _ < b.held p a * (b.afterSale sold received).held p a := hstep
        _ = (b.afterSale sold received).held p a * b.held p a := mul_comm _ _
    exact ⟨_, ratio?_eq_some.2 ⟨hlt', rfl⟩, (ratio_le_iff hlt hlt').2 hpart⟩

end Ratio

/-! ### The computed ratio -/

/-- The values of both sides and what is left between them are decimals: none of them is rounded. -/
structure Exact (b : Balances) (p : Prices) (a : Assets) : Prop where
  held : ∃ y : Decimal, y.toRat = b.held p a
  owed : ∃ y : Decimal, y.toRat = b.owed p a
  equity : ∃ y : Decimal, y.toRat = b.held p a - b.owed p a

section Computed

variable {b b' : Balances} {p : Prices} {a : Assets} {x : Position} {q q' : ℚ}

lemma held_of_units (b : Balances) (p : Prices) (a : Assets) :
    b.collateral / 10 ^ Nat.min a.collateralDecimals maxScale * p.collateral.toRat
      = b.held p a := by
  unfold held Prices.perCollateral
  ring

lemma owed_of_units (b : Balances) (p : Prices) (a : Assets) :
    b.debt / 10 ^ Nat.min a.borrowDecimals maxScale * p.borrow.toRat = b.owed p a := by
  unfold owed Prices.perBorrow
  ring

lemma Derives.held_eq (h : b.Derives p a x) :
    b.collateral < Decimal.bound ∧ x.collateralUnits.toRat * p.collateral.toRat = b.held p a := by
  obtain ⟨hlt, hunits⟩ := ofUnits_eq_ok h.collateralUnits
  refine ⟨hlt, ?_⟩
  rw [hunits, held_of_units]

lemma Derives.owed_eq (h : b.Derives p a x) :
    b.debt < Decimal.bound ∧ x.debtUnits.toRat * p.borrow.toRat = b.owed p a := by
  obtain ⟨hlt, hunits⟩ := ofUnits_eq_ok h.debtUnits
  refine ⟨hlt, ?_⟩
  rw [hunits, owed_of_units]

lemma Derives.rounds_held (h : b.Derives p a x) : Rounds (b.held p a) x.collateralValue :=
  h.held_eq.2 ▸ Decimal.rounds_mul? h.collateralValue

lemma Derives.rounds_owed (h : b.Derives p a x) : Rounds (b.owed p a) x.debtValue :=
  h.owed_eq.2 ▸ Decimal.rounds_mul? h.debtValue

/-- Whatever has a computed ratio has an exact one. -/
theorem Derives.exists_ratio (h : b.Derives p a x) : ∃ q, b.ratio? p a = some q := by
  refine ⟨_, ratio?_eq_some.2 ⟨?_, rfl⟩⟩
  have hlt := Decimal.lt_iff_toRat.1 (leverageRatio_eq_ok h.leverage).1
  by_contra hge
  have hle := h.rounds_held.mono h.rounds_owed (le_of_not_gt hge)
  linarith

/-- Without rounding on the way, the computed ratio is the exact one, rounded once. -/
theorem Derives.rounds_ratio (h : b.Derives p a x) (he : b.Exact p a) (hq : b.ratio? p a = some q) :
    Rounds q x.leverage := by
  obtain ⟨-, rfl⟩ := ratio?_eq_some.1 hq
  obtain ⟨-, equity, hequity, hratio⟩ := leverageRatio_eq_ok h.leverage
  obtain ⟨y, hy⟩ := he.held
  obtain ⟨z, hz⟩ := he.owed
  have hheld : x.collateralValue.toRat = b.held p a := h.rounds_held.eq hy.symm
  have howed : x.debtValue.toRat = b.owed p a := h.rounds_owed.eq hz.symm
  obtain ⟨e, he', hvalue⟩ := Decimal.minus_of_exact (x := x.collateralValue) (y := x.debtValue)
    (by rw [hheld, howed]) he.equity
  obtain rfl : equity = e := Except.ok.inj (hequity.symm.trans he')
  have hr := Decimal.rounds_div? hratio
  rw [hheld, hvalue] at hr
  exact hr

/-- Balances of exact values whose ratio is in range have a computed ratio. -/
theorem position_of_exact (hc : b.collateral < Decimal.bound) (hd : b.debt < Decimal.bound)
    (h0 : 0 ≤ b.owed p a) (he : b.Exact p a) (hq : b.ratio? p a = some q)
    (hlimit : |q| < limit - 1 / 2) : ∃ x, b.position p a = .ok x := by
  obtain ⟨hlt, rfl⟩ := ratio?_eq_some.1 hq
  obtain ⟨cu, hcu, hcu'⟩ := Decimal.ofUnits_of_lt hc a.collateralDecimals
  obtain ⟨du, hdu, hdu'⟩ := Decimal.ofUnits_of_lt hd a.borrowDecimals
  have hcv : cu.toRat * p.collateral.toRat = b.held p a := by rw [hcu', held_of_units]
  have hdv : du.toRat * p.borrow.toRat = b.owed p a := by rw [hdu', owed_of_units]
  obtain ⟨cv, hcv, hheld⟩ := Decimal.mul?_of_exact hcv he.held
  obtain ⟨dv, hdv, howed⟩ := Decimal.mul?_of_exact hdv he.owed
  obtain ⟨equity, hequity, hvalue⟩ := Decimal.minus_of_exact (x := cv) (y := dv)
    (by rw [hheld, howed]) he.equity
  obtain ⟨ratio, hratio⟩ : ∃ ratio, leverageRatio cv dv = .ok ratio := by
    apply leverageRatio_of_lt
    · rwa [hheld, howed]
    · rwa [howed]
    · exact hequity
    · rw [hvalue]
      linarith
    · rwa [hheld, hvalue]
  refine ⟨⟨cu, du, p.collateral, p.borrow, cv, dv, ratio⟩, ?_⟩
  unfold position Holding.position
  simp only [bind_eq_ok, lift_eq_ok, orRefuse_eq_ok, pure_eq_ok]
  exact ⟨cu, hcu, du, hdu, cv, hcv, dv, hdv, ratio, hratio, rfl⟩

/-- Of two computed ratios that are not rounded on the way, the one of the lower exact ratio is not
the higher one. -/
theorem Derives.leverage_le {x' : Position} (h : b.Derives p a x) (he : b.Exact p a)
    (hq : b.ratio? p a = some q) (h' : b'.Derives p a x') (he' : b'.Exact p a)
    (hq' : b'.ratio? p a = some q') (hle : q' ≤ q) : x'.leverage ≤ x.leverage :=
  Decimal.le_iff_toRat.2 ((h'.rounds_ratio he' hq').mono (h.rounds_ratio he hq) hle)

/-- A sale that covers its part of the debt, and is not of all the collateral, does not raise the
computed ratio either, if nothing is rounded on the way. -/
theorem Derives.leverage_afterSale {sold received : ℕ} (h : b.Derives p a x)
    (hc : 0 < p.perCollateral a) (hd : 0 < p.perBorrow a) (he : b.Exact p a)
    (he' : (b.afterSale sold received).Exact p a) (hsold : sold < b.collateral)
    (hcovers : b.Covers sold received) :
    ∃ y, (b.afterSale sold received).position p a = .ok y ∧ y.leverage ≤ x.leverage := by
  obtain ⟨q, hq⟩ := h.exists_ratio
  obtain ⟨q', hq', hle⟩ := (ratio?_afterSale hc hd hsold.le hq).2 ⟨hsold, hcovers⟩
  obtain ⟨hlt', hvalue'⟩ := ratio?_eq_some.1 hq'
  have howed' : 0 ≤ (b.afterSale sold received).owed p a := mul_nonneg (Nat.cast_nonneg _) hd.le
  have hnonneg : 0 ≤ q' := by
    rw [hvalue']
    exact div_nonneg (howed'.trans hlt'.le) (by linarith)
  -- the new ratio is in range, since the old one, which is no lower, has been computed
  have hlimit : |q'| < limit - 1 / 2 := by
    rw [abs_of_nonneg hnonneg]
    exact (hle.trans (le_abs_self q)).trans_lt (h.rounds_ratio he hq).abs_lt
  obtain ⟨y, hy⟩ := position_of_exact ((Nat.sub_le _ _).trans_lt h.held_eq.1)
    ((Nat.sub_le _ _).trans_lt h.owed_eq.1) howed' he' hq' hlimit
  exact ⟨y, hy, h.leverage_le he hq (position_eq_ok hy) he' hq' hle⟩

end Computed

end Balances

/-! ### Prices -/

section Prices

variable {a : Assets} {p : Prices} {feeds : Feeds} {now : UInt64}

/-- A feed publishes positive prices only. -/
lemma Decimal.ofAnswer?_pos {answer : ℤ} {d : ℕ} {x : Decimal}
    (h : Decimal.ofAnswer? answer d = some x) : 0 < x.toRat := by
  unfold Decimal.ofAnswer? at h
  split at h
  · cases h
  next hpos =>
    unfold Decimal.ofScaled? Decimal.ofParts? at h
    split at h
    · cases h
      have hsign : ¬ answer < 0 := by omega
      have hdigits : (0 : ℚ) < answer.natAbs := Nat.cast_pos.2 (by omega)
      rw [Decimal.toRat_of_sign, if_neg (by simpa using hsign)]
      positivity
    · cases h

lemma Reading.price_pos {r : Reading} {feed : Address} {now maxStaleness : UInt64} {x : Decimal}
    (h : r.price feed now maxStaleness = .ok x) : 0 < x.toRat := by
  unfold Reading.price at h
  dsimp only at h
  split at h
  · cases h
  · exact Decimal.ofAnswer?_pos (orRefuse_eq_ok.1 h)

lemma Feeds.prices_pos (h : feeds.prices a now = .ok p) :
    0 < p.collateral.toRat ∧ 0 < p.borrow.toRat := by
  unfold Feeds.prices at h
  simp only [bind_eq_ok, pure_eq_ok] at h
  obtain ⟨r, -, collateral, hc, r', -, borrow, hb, rfl⟩ := h
  exact ⟨Reading.price_pos hc, Reading.price_pos hb⟩

lemma Feeds.perUnit_pos (h : feeds.prices a now = .ok p) :
    0 < p.perCollateral a ∧ 0 < p.perBorrow a := by
  obtain ⟨hc, hb⟩ := Feeds.prices_pos h
  unfold Prices.perCollateral Prices.perBorrow
  exact ⟨by positivity, by positivity⟩

end Prices

end LeverageKeeper
