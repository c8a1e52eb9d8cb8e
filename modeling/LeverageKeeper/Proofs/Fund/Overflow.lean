import LeverageKeeper.Proofs.Decimal.Range
import LeverageKeeper.Proofs.Fund.Engagement
import LeverageKeeper.Proofs.Fund.Halting
import LeverageKeeper.Proofs.Headroom

/-!
Room that cannot be computed.  Upward the room for a trade is always computed.  Downward it takes a
product of the collateral with what the debt leaves of its limit, and a quotient, and neither is
checked: where one of them is out of range the computation crashes, and the call that needs the room
halts the fund.
-/

namespace LeverageKeeper

open Decimal (InRange Rounds limit maxScale)

/-! ### The computation -/

namespace Decimal

variable {v : Decimal}

/-- Amounts whose product with what they are worth is in range are at most half the range. -/
lemma le_half_of_inRange {q : ℚ} {price : Decimal} (hp : 0 < price.toRat) (hq : 0 ≤ q)
    (hv : Rounds (q * price.toRat) v) (hin : InRange (q * v.toRat)) : q ≤ limit / 2 := by
  by_contra hge
  have hlt := lt_of_not_ge hge
  -- no price is below a unit of the last place, so so many of them are worth three at least
  have hunit := unit_le_sub (a := zero) (b := price) (by rwa [toRat_zero])
  rw [toRat_zero, sub_zero] at hunit
  have hthree : (⟨false, 3, 0, by decide, by decide⟩ : Decimal).toRat = 3 := by
    rw [toRat_eq]
    simp [coeff]
  have hworth : 3 ≤ q * price.toRat := by
    calc (3 : ℚ) ≤ limit / 2 * (1 / 10 ^ maxScale) := by norm_num [limit_eq]
      _ ≤ q * price.toRat := mul_le_mul hlt.le hunit (by positivity) hq
  have hvalue : 3 ≤ v.toRat := hthree ▸ hv.ge (hthree.le.trans hworth)
  have hbig : limit ≤ q * v.toRat := by
    have h0 : (0 : ℚ) ≤ limit := by norm_num [limit_eq]
    calc limit ≤ limit / 2 * 3 := by linarith
      _ ≤ q * v.toRat := mul_le_mul hlt.le hvalue (by norm_num) hq
  have hin := (le_abs_self _).trans_lt hin
  linarith

/-- An amount times a part of `c`, divided by `c`, is hardly more than the amount. -/
lemma abs_part_le {u part c product : Decimal} (hu : 0 ≤ u.toRat) (hc : 0 < c.toRat)
    (hpart : |part.toRat| ≤ c.toRat) (hcap : InRange (u.toRat * c.toRat))
    (hproduct : Rounds (u.toRat * part.toRat) product) :
    |product.toRat / c.toRat| ≤ u.toRat + u.toRat / 10 ^ maxScale + 1 := by
  obtain ⟨hlow, hup⟩ := abs_le.1 hpart
  obtain ⟨most, -, hmost⟩ := (times_computes u c).ok hcap
  have hcap0 : 0 ≤ u.toRat * c.toRat := mul_nonneg hu hc.le
  have hproduct1 : product.toRat ≤ most.toRat :=
    hproduct.mono hmost (mul_le_mul_of_nonneg_left hup hu)
  have hproduct0 : most.neg.toRat ≤ product.toRat :=
    hmost.neg.mono hproduct (by rw [← mul_neg]; exact mul_le_mul_of_nonneg_left hlow hu)
  rw [toRat_neg] at hproduct0
  have hmost1 := (hmost.within hcap0 le_rfl).2
  have hunit := unit_le_sub (a := zero) (b := c) (by rwa [toRat_zero])
  rw [toRat_zero, sub_zero] at hunit
  have hbound : most.toRat ≤ (u.toRat + u.toRat / 10 ^ maxScale + 1) * c.toRat := by
    calc most.toRat ≤ u.toRat * c.toRat + (u.toRat * c.toRat + 1) / 10 ^ maxScale := hmost1
      _ = (u.toRat + u.toRat / 10 ^ maxScale) * c.toRat + 1 / 10 ^ maxScale := by ring
      _ ≤ _ := by rw [add_mul _ 1, one_mul]; linarith
  rw [abs_div, abs_of_pos hc, div_le_iff₀ hc]
  exact (abs_le.2 ⟨hproduct0, hproduct1⟩).trans hbound

end Decimal

namespace Sizing

section Crash

variable {p : Position} {limits : LendingLimits} {e : Execution} {d : Direction}
  {c free product : Decimal}

/-- The ceiling is a part of the collateral's value. -/
lemma ceiling_ok (hv : 0 ≤ p.collateralValue.toRat) (h0 : 0 ≤ (limits.share d).toRat)
    (h1 : (limits.share d).toRat ≤ 1) (he : e.unutilized.IsFraction) :
    ∃ c, ceiling p limits e d = .ok c ∧ 0 ≤ c.toRat ∧ c.toRat ≤ p.collateralValue.toRat := by
  obtain ⟨he0, he1⟩ := he.bounds
  obtain ⟨use, huse⟩ := Decimal.minus_ok (a := Decimal.one) (b := e.unutilized)
    (by rw [Decimal.toRat_one]; exact zero_le_one) he0
  obtain ⟨huse0, huse1⟩ := Decimal.one_minus_bounds he0 he1.le huse
  obtain ⟨loan, hloan, -, hloan0, hloan1⟩ := Decimal.times_part h0 h1 hv
  obtain ⟨c, hc, -, hc0, hc1⟩ := Decimal.times_part huse0 huse1 hloan0
  refine ⟨c, ?_, hc0, hc1.trans hloan1⟩
  unfold ceiling
  rw [huse, ok_bind, hloan, ok_bind, hc]

lemma roomUnder_lever_ok (hc : 0 ≤ c.toRat) (hd : 0 ≤ p.debtValue.toRat) :
    ∃ room, roomUnder p c .lever = .ok room := by
  obtain ⟨free, hfree⟩ := Decimal.minus_ok hc hd
  unfold roomUnder
  rw [hfree]
  exact ⟨_, rfl⟩

/-- Under a ceiling of zero there is no room. -/
lemma roomUnder_of_zero (hc : c.toRat = 0) : roomUnder p c .delever = .ok Decimal.zero := by
  unfold roomUnder
  dsimp only
  rw [if_pos (Decimal.isZero_iff.2 hc)]
  rfl

lemma roomUnder_of_ne_zero (hc : c.toRat ≠ 0) (hfree : c.minus p.debtValue = .ok free) :
    roomUnder p c .delever = (do
      let product ← p.collateralUnits.times free
      return (← product.dividedBy c).max Decimal.zero) := by
  unfold roomUnder
  dsimp only
  rw [if_neg fun hz => hc (Decimal.isZero_iff.1 hz), hfree]
  rfl

/-- The quotient is computed, or crashes because it is out of range. -/
lemma roomUnder_of_product (hc : c.toRat ≠ 0) (hfree : c.minus p.debtValue = .ok free)
    (hproduct : p.collateralUnits.times free = .ok product) :
    (InRange (product.toRat / c.toRat) → ∃ room, roomUnder p c .delever = .ok room) ∧
      (¬ InRange (product.toRat / c.toRat) →
        roomUnder p c .delever = .error (.crashed .division)) := by
  have hquotient := Decimal.dividedBy_computes product hc
  rw [roomUnder_of_ne_zero hc hfree, hproduct, ok_bind]
  constructor
  · intro hin
    obtain ⟨w, hw, -⟩ := hquotient.ok hin
    rw [hw]
    exact ⟨_, rfl⟩
  · intro hout
    rw [hquotient.crash hout]
    rfl

/-- **Room is computed for a debt of at most twice its limit**, as long as the collateral's value is
not too large to be multiplied once more. -/
lemma roomUnder_ok {price : Decimal} (hprice : 0 < price.toRat)
    (hunits : 0 ≤ p.collateralUnits.toRat)
    (hvalue : Rounds (p.collateralUnits.toRat * price.toRat) p.collateralValue)
    (hc0 : 0 ≤ c.toRat) (hc1 : c.toRat ≤ p.collateralValue.toRat) (hd : 0 ≤ p.debtValue.toRat)
    (hdebt : p.debtValue.toRat ≤ 2 * c.toRat)
    (hin : InRange (p.collateralUnits.toRat * p.collateralValue.toRat)) :
    ∃ room, roomUnder p c .delever = .ok room := by
  by_cases hzero : c.toRat = 0
  · exact ⟨_, roomUnder_of_zero hzero⟩
  have hpos : 0 < c.toRat := lt_of_le_of_ne hc0 (Ne.symm hzero)
  obtain ⟨free, hfree⟩ := Decimal.minus_ok hc0 hd
  have hrounds := Decimal.rounds_minus hfree
  have hfree1 : free.toRat ≤ c.toRat := hrounds.le (by linarith)
  have hfree0 : c.neg.toRat ≤ free.toRat := hrounds.ge (by rw [Decimal.toRat_neg]; linarith)
  rw [Decimal.toRat_neg] at hfree0
  have hfree' : |free.toRat| ≤ c.toRat := abs_le.2 ⟨hfree0, hfree1⟩
  -- the product is at most what the ceiling would make of it, and that is in range
  have hcap : InRange (p.collateralUnits.toRat * c.toRat) := by
    apply hin.of_abs_le
    rw [abs_mul, abs_mul, abs_of_pos hpos, abs_of_nonneg (hc0.trans hc1)]
    exact mul_le_mul_of_nonneg_left hc1 (abs_nonneg _)
  have hall : InRange (p.collateralUnits.toRat * free.toRat) := by
    apply hcap.of_abs_le
    rw [abs_mul, abs_mul, abs_of_pos hpos]
    exact mul_le_mul_of_nonneg_left hfree' (abs_nonneg _)
  obtain ⟨product, hproduct, hpr⟩ := (Decimal.times_computes p.collateralUnits free).ok hall
  refine (roomUnder_of_product hzero hfree hproduct).1 ?_
  -- and so the quotient is hardly more than the collateral, and that is half the range at most
  have hquotient := Decimal.abs_part_le hunits hpos hfree' hcap hpr
  have hhalf := Decimal.le_half_of_inRange hprice hunits hvalue hin
  have hsmall : p.collateralUnits.toRat / 10 ^ maxScale ≤ limit / 2 / 10 ^ maxScale :=
    div_le_div_of_nonneg_right hhalf (by positivity)
  have hroom : limit / 2 + limit / 2 / 10 ^ maxScale + 1 < limit - 1 / 2 := by
    norm_num [Decimal.limit_eq]
  unfold InRange
  linarith

end Crash

/-- **Upward the room is always computed; downward it is not.**  With a position at hand and limits
below one, the ceiling exists, and so does what it leaves of the debt.  Under a ceiling of zero
there is no room to sell.  Else the room is computed just if the amount times this rest is in range
and, once rounded, its quotient by the ceiling is; the computation crashes on the first of the two
that is not.  With a debt of at most twice the ceiling, and a product of the collateral and its
value in range, neither is out of range. -/
theorem headroom_of_position {b : Balances} {p : Prices} {a : Assets} {x : Position}
    {limits : LendingLimits} {e : Execution} (hx : b.position p a = .ok x)
    (hc : 0 < p.collateral.toRat) (hb : 0 < p.borrow.toRat) (h0 : Decimal.zero < limits.maxLtv)
    (hle : limits.maxLtv ≤ limits.liquidationThreshold)
    (h1 : limits.liquidationThreshold < Decimal.one) (he : e.unutilized.IsFraction) :
    (∃ room, headroom x limits e .lever = .ok room) ∧
      ∃ c free, ceiling x limits e .delever = .ok c ∧ c.minus x.debtValue = .ok free ∧
        (c.toRat = 0 → headroom x limits e .delever = .ok Decimal.zero) ∧
        (c.toRat ≠ 0 → ¬ InRange (x.collateralUnits.toRat * free.toRat) →
          headroom x limits e .delever = .error (.crashed .multiplication)) ∧
        (c.toRat ≠ 0 → InRange (x.collateralUnits.toRat * free.toRat) →
          ∃ product, x.collateralUnits.times free = .ok product ∧
            (InRange (product.toRat / c.toRat) →
              ∃ room, headroom x limits e .delever = .ok room) ∧
            (¬ InRange (product.toRat / c.toRat) →
              headroom x limits e .delever = .error (.crashed .division))) ∧
        (x.debtValue.toRat ≤ 2 * c.toRat →
          InRange (x.collateralUnits.toRat * x.collateralValue.toRat) →
          ∃ room, headroom x limits e .delever = .ok room) := by
  have hderives := Balances.position_eq_ok hx
  obtain ⟨hvalue, hdebt⟩ := hderives.values_nonneg hc hb
  have hltv := Decimal.lt_iff_toRat.1 h0
  have horder := Decimal.le_iff_toRat.1 hle
  have hone := Decimal.lt_iff_toRat.1 h1
  rw [Decimal.toRat_zero] at hltv
  rw [Decimal.toRat_one] at hone
  have hunits : 0 ≤ x.collateralUnits.toRat := by
    rw [(ofUnits_eq_ok hderives.collateralUnits).2]
    positivity
  have share0 : ∀ d, 0 ≤ (limits.share d).toRat := by
    intro d
    cases d with
    | lever => exact hltv.le
    | delever => exact hltv.le.trans horder
  have share1 : ∀ d, (limits.share d).toRat ≤ 1 := by
    intro d
    cases d with
    | lever => exact horder.trans hone.le
    | delever => exact hone.le
  constructor
  · obtain ⟨c, hceiling, hc0, -⟩ := ceiling_ok hvalue (share0 .lever) (share1 .lever) he
    rw [headroom_eq, hceiling, ok_bind]
    exact roomUnder_lever_ok hc0 hdebt
  · obtain ⟨c, hceiling, hc0, hc1⟩ := ceiling_ok hvalue (share0 .delever) (share1 .delever) he
    obtain ⟨free, hfree⟩ := Decimal.minus_ok hc0 hdebt
    have hproduct := Decimal.times_computes x.collateralUnits free
    rw [headroom_eq, hceiling, ok_bind]
    refine ⟨c, free, rfl, hfree, roomUnder_of_zero, ?_, ?_, ?_⟩
    · intro hne hout
      rw [roomUnder_of_ne_zero hne hfree, hproduct.crash hout]
      rfl
    · intro hne hin
      obtain ⟨product, hprod, -⟩ := hproduct.ok hin
      exact ⟨product, hprod, roomUnder_of_product hne hfree hprod⟩
    · intro hsmall hin
      exact roomUnder_ok hc hunits (Decimal.rounds_mul? hderives.collateralValue) hc0 hc1 hdebt
        hsmall hin

namespace Trial

open Fund.Trial (number assets)

/-- Ten million billion units of collateral against a small debt, both at a price of one. -/
def laden : Balances := ⟨1000000000000000000, 30000⟩

def prices : Prices := ⟨number 1 0, number 1 0⟩

def limits : LendingLimits := ⟨number 8 1, number 9 1⟩

def execution : Execution := ⟨number 0 0, 600, number 2 2⟩

/-- The units, and what the ceiling is and leaves of the debt. -/
lemma laden_parts :
    ((laden.position prices assets).toOption.map fun x => (x.collateralUnits.toRat,
      ((ceiling x limits execution .delever).toOption.map fun c =>
        (c.toRat, ((c.minus x.debtValue).toOption.map Decimal.toRat)))))
      = some (10 ^ 16, some (9 * 10 ^ 15, some (9 * 10 ^ 15 - 300))) := by
  decide +kernel

end Trial

open Trial Fund.Trial

/-- The product of so many units with what their value leaves is out of range. -/
theorem headroom_of_position_laden :
    ∃ x, laden.position prices assets = .ok x ∧
      (∃ room, headroom x limits execution .lever = .ok room) ∧
      headroom x limits execution .delever = .error (.crashed .multiplication) := by
  obtain ⟨x, hx, hparts⟩ := Option.map_eq_some_iff.1 laden_parts
  have hx := toOption_eq_some.1 hx
  obtain ⟨hunits, hparts⟩ := Prod.mk.inj hparts
  obtain ⟨hlever, c, free, hceiling, hfree, -, hcrash, -⟩ :=
    @headroom_of_position laden prices assets x limits execution hx (by decide +kernel)
      (by decide +kernel) (by decide +kernel) (by decide +kernel) (by decide +kernel)
      (by decide +kernel)
  rw [hceiling] at hparts
  obtain ⟨hc, hrest⟩ := Prod.mk.inj (Option.some.inj hparts)
  rw [hfree] at hrest
  have hvalue : free.toRat = 9 * 10 ^ 15 - 300 := Option.some.inj hrest
  refine ⟨x, hx, hlever, hcrash ?_ ?_⟩
  · rw [hc]
    norm_num
  · rw [hunits, hvalue]
    norm_num [InRange, Decimal.limit_eq]

end Sizing

/-! ### The call that needs the room -/

/-- Downward the size of a trade is always computed, for it is a part of the collateral. -/
lemma Sizing.totalNotional_ok {target current units : Decimal} (h0 : 0 ≤ target.toRat)
    (h1 : 1 ≤ current.toRat) (hle : target.toRat ≤ current.toRat) :
    ∃ total, totalNotional target current units = .ok total := by
  obtain ⟨gap, hgap⟩ := Decimal.minus_ok h0 (by linarith : 0 ≤ current.toRat)
  have hrounds := Decimal.rounds_minus hgap
  have hdown : gap.toRat ≤ 0 := hrounds.nonpos (by linarith)
  have hup : current.neg.toRat ≤ gap.toRat := hrounds.ge (by rw [Decimal.toRat_neg]; linarith)
  rw [Decimal.toRat_neg] at hup
  have habs : gap.abs.toRat = -gap.toRat := by rw [Decimal.toRat_abs, abs_of_nonpos hdown]
  have hquotient0 : 0 ≤ gap.abs.toRat / current.toRat :=
    div_nonneg (by linarith) (by linarith)
  have hquotient1 : gap.abs.toRat / current.toRat ≤ Decimal.one.toRat := by
    rw [Decimal.toRat_one, habs, div_le_one (by linarith)]
    linarith
  obtain ⟨part, hpart, hpartr⟩ := (Decimal.dividedBy_computes gap.abs (b := current)
    (by linarith)).ok ((Decimal.inRange_toRat Decimal.one).of_abs_le (by
      rw [abs_of_nonneg hquotient0, Decimal.toRat_one, abs_one]
      rwa [Decimal.toRat_one] at hquotient1))
  have hpart1 := hpartr.le hquotient1
  rw [Decimal.toRat_one] at hpart1
  obtain ⟨total, htotal, -⟩ := (Decimal.times_computes part units).ok
    ((Decimal.inRange_toRat units).of_abs_le (by
      rw [abs_mul, abs_of_nonneg (hpartr.nonneg hquotient0)]
      exact mul_le_of_le_one_left (abs_nonneg _) hpart1))
  have hlow : ¬ current < Decimal.one := by
    rw [Decimal.not_lt, Decimal.le_iff_toRat, Decimal.toRat_one]
    exact h1
  refine ⟨total, ?_⟩
  unfold totalNotional
  rw [if_neg hlow, hgap, ok_bind, lift_eq_ok, orRefuse_eq_ok, orCrash_eq_ok.1 hpart,
    Option.bind_some]
  exact orCrash_eq_ok.1 htotal

namespace Fund

/-- **An unwinding whose room cannot be computed halts the fund.** -/
theorem disengage_of_crash {f : Fund} {venue : String} {l : Listing} {x : Position}
    {limits : LendingLimits} {e : Crash} (hlive : f.halted = false)
    (hlisted : f.strategy.venues.find? venue = some l) (hx : f.position = .ok x)
    (hengaged : x.isEngaged = true) (hlimits : f.ledger.lendingLimits = .ok limits)
    (hroom : Sizing.headroom x limits f.strategy.settings.execution .delever
      = .error (.crashed e)) :
    f.call (.disengage f.guard.operator venue) = (f.halt, .error (.crashed e)) := by
  have hone := one_le_leverage hx
  have hsize : ∃ total,
      Sizing.totalNotional Decimal.one x.leverage x.collateralUnits = .ok total := by
    apply Sizing.totalNotional_ok
    · rw [Decimal.toRat_one]
      exact zero_le_one
    · exact hone
    · rwa [Decimal.toRat_one]
  obtain ⟨total, htotal⟩ := hsize
  have hchunk : f.nextChunk x Decimal.one .delever l.terms.cap = .error (.crashed e) := by
    unfold nextChunk
    rw [htotal, ok_bind, hlimits, lift_ok, ok_bind, hroom]
    rfl
  have hoperator : f.guard.requireOperator f.guard.operator "disengage" = .ok () :=
    Guard.requireOperator_eq_ok.2 rfl
  have hallowed : f.requireLive = .ok () := requireLive_eq_ok.2 hlive
  have howing : x.requireEngaged = .ok () := Position.requireEngaged_eq_ok.2 hengaged
  have hdecide : f.decideDisengage f.guard.operator venue = .error (.crashed e) := by
    unfold decideDisengage
    rw [hoperator, lift_ok, ok_bind, hallowed, lift_ok, ok_bind, Registry.get_eq_ok.2 hlisted,
      lift_ok, ok_bind, hx, ok_bind, howing, lift_ok, ok_bind]
    dsimp only
    rw [hchunk]
    rfl
  change answering .report (f.disengage f.guard.operator venue) = _
  unfold disengage
  rw [hdecide]
  rfl

namespace Trial

/-- The levered fund after ten million billion units of collateral have come in. -/
def laden : Fund := levered.after [.event (.deposit 1000000000000000000)]

theorem laden_reachable : laden.Reachable := levered_reachable.after _

open Sizing.Trial (limits)

lemma laden_limits : laden.ledger.lendingLimits = .ok limits := by rfl

/-- The position, and what it takes to sell from it. -/
lemma laden_position :
    ∃ x, laden.position = .ok x ∧ x.isEngaged = true ∧
      Sizing.headroom x limits laden.strategy.settings.execution .delever
        = .error (.crashed .multiplication) := by
  have h : (laden.position.toOption.map fun x => (x.isEngaged,
      crash? (Sizing.headroom x limits laden.strategy.settings.execution .delever)))
      = some (true, some .multiplication) := by decide +kernel
  obtain ⟨x, hx, h⟩ := Option.map_eq_some_iff.1 h
  obtain ⟨hengaged, hcrash⟩ := Prod.mk.inj h
  exact ⟨x, toOption_eq_some.1 hx, hengaged, crash?_eq_some.1 hcrash⟩

end Trial

open Trial
open Sizing.Trial (limits)

/-- **A fund of valid settings, with limits below one, can hold a position whose room to sell is not
computed.**  To unwind it halts the fund. -/
theorem laden_halts :
    laden.Reachable ∧ laden.halted = false ∧ laden.strategy.settings.Valid ∧
      laden.ledger.lendingLimits = .ok limits ∧ Decimal.zero < limits.maxLtv ∧
      limits.maxLtv ≤ limits.liquidationThreshold ∧
      limits.liquidationThreshold < Decimal.one ∧
      ∃ x, laden.position = .ok x ∧
        Sizing.headroom x limits laden.strategy.settings.execution .delever
          = .error (.crashed .multiplication) ∧
        laden.call (.disengage operator "dex") = (laden.halt, .error (.crashed .multiplication)) ∧
        (laden.halt.step (.ask .settings)).2 = .error (.refused .halted) := by
  obtain ⟨x, hx, hengaged, hroom⟩ := laden_position
  have hvenue : (laden.strategy.venues.find? "dex").isSome = true := by decide +kernel
  obtain ⟨l, hl⟩ := Option.isSome_iff_exists.1 hvenue
  refine ⟨laden_reachable, by rfl, laden_reachable.sound.settings, laden_limits,
    by decide +kernel, by decide +kernel, by decide +kernel, x, hx, hroom, ?_, by rfl⟩
  exact disengage_of_crash (by rfl) hl hx hengaged laden_limits hroom

end Fund

end LeverageKeeper
