import LeverageKeeper.Proofs.Decimal.Range
import LeverageKeeper.Proofs.Exposure
import LeverageKeeper.Proofs.Fund.Settling
import LeverageKeeper.Proofs.Settings
import LeverageKeeper.Proofs.Sizing

/-!
What an order may cost by its plan.  A plan without rounding asks for the untolerated part of what
its chunk is worth.  Both amounts of its order are cut to native units: what goes in falls, and the
minimum falls by less than one unit.  So the minimum and one unit more are worth the untolerated
part of what goes in; with rounding they are, but for a little dust.
-/

namespace LeverageKeeper

open Decimal (maxScale)

/-! ### The prices of a trade -/

namespace Prices

/-- The price of the token that goes into a trade. -/
def inward (p : Prices) : Direction → Decimal
  | .lever => p.borrow
  | .delever => p.collateral

/-- The price of the token that comes out of it. -/
def outward (p : Prices) : Direction → Decimal
  | .lever => p.collateral
  | .delever => p.borrow

/-- What a native unit of the token that goes in is worth. -/
def perIn (p : Prices) (a : Assets) (d : Direction) : ℚ :=
  (p.inward d).toRat / 10 ^ Nat.min (a.decimalsIn d) maxScale

/-- What a native unit of the token that comes out is worth. -/
def perOut (p : Prices) (a : Assets) (d : Direction) : ℚ :=
  (p.outward d).toRat / 10 ^ Nat.min (a.decimalsOut d) maxScale

lemma perIn_delever (p : Prices) (a : Assets) : p.perIn a .delever = p.perCollateral a := rfl

lemma perOut_delever (p : Prices) (a : Assets) : p.perOut a .delever = p.perBorrow a := rfl

/-- Both prices of a trade are positive if the two prices are. -/
lemma pos_of_pos {p : Prices} (hc : 0 < p.collateral.toRat) (hb : 0 < p.borrow.toRat)
    (d : Direction) : 0 < (p.inward d).toRat ∧ 0 < (p.outward d).toRat := by
  cases d with
  | lever => exact ⟨hb, hc⟩
  | delever => exact ⟨hc, hb⟩

end Prices

/-! ### Native units -/

section Units

variable {amount price : Decimal} {d n : ℕ}

lemma Decimal.worth_of_units_le (h : amount.toUnits d = .ok n) (hp : 0 ≤ price.toRat) :
    n * (price.toRat / 10 ^ Nat.min d maxScale) ≤ amount.toRat * price.toRat := by
  obtain ⟨h0, rfl, -⟩ := toUnits_eq_ok.1 h
  have hpow : (0 : ℚ) < 10 ^ Nat.min d maxScale := by positivity
  have hfloor : (⌊amount.toRat * 10 ^ Nat.min d maxScale⌋₊ : ℚ)
      ≤ amount.toRat * 10 ^ Nat.min d maxScale := Nat.floor_le (by positivity)
  rw [mul_div_assoc', div_le_iff₀ hpow]
  calc (⌊amount.toRat * 10 ^ Nat.min d maxScale⌋₊ : ℚ) * price.toRat
      ≤ amount.toRat * 10 ^ Nat.min d maxScale * price.toRat :=
        mul_le_mul_of_nonneg_right hfloor hp
    _ = amount.toRat * price.toRat * 10 ^ Nat.min d maxScale := by ring

/-- Cutting to native units takes less than one of them. -/
lemma Decimal.le_worth_of_units (h : amount.toUnits d = .ok n) (hp : 0 ≤ price.toRat) :
    amount.toRat * price.toRat
      ≤ n * (price.toRat / 10 ^ Nat.min d maxScale) + price.toRat / 10 ^ Nat.min d maxScale := by
  obtain ⟨h0, rfl, -⟩ := toUnits_eq_ok.1 h
  have hpow : (0 : ℚ) < 10 ^ Nat.min d maxScale := by positivity
  have hfloor : amount.toRat * 10 ^ Nat.min d maxScale
      ≤ ⌊amount.toRat * 10 ^ Nat.min d maxScale⌋₊ + 1 := (Nat.lt_floor_add_one _).le
  rw [mul_div_assoc', ← add_div, le_div_iff₀ hpow]
  calc amount.toRat * price.toRat * 10 ^ Nat.min d maxScale
      = amount.toRat * 10 ^ Nat.min d maxScale * price.toRat := by ring
    _ ≤ (⌊amount.toRat * 10 ^ Nat.min d maxScale⌋₊ + 1) * price.toRat :=
        mul_le_mul_of_nonneg_right hfloor hp
    _ = _ := by ring

end Units

/-! ### Amounts that are not rounded -/

/-- The worth of an amount at one price is a decimal, and so is what that comes to at the other:
exchanging it takes a product and a quotient, and neither is rounded. -/
structure ExactWorth (amount : ℚ) (priceIn priceOut : Decimal) : Prop where
  value : ∃ z : Decimal, z.toRat = amount * priceIn.toRat
  worth : ∃ z : Decimal, z.toRat = amount * priceIn.toRat / priceOut.toRat

lemma ExactWorth.eq {x y z w : Decimal} (h : ExactWorth x.toRat y z)
    (hw : (x.mul? y).bind (fun v => v.div? z) = some w) :
    w.toRat = x.toRat * y.toRat / z.toRat := by
  obtain ⟨v, hv, hw⟩ := Option.bind_eq_some_iff.1 hw
  obtain ⟨u, hu⟩ := h.value
  obtain ⟨u', hu'⟩ := h.worth
  have hvalue : v.toRat = x.toRat * y.toRat := (Decimal.rounds_mul? hv).eq hu.symm
  have hworth := Decimal.rounds_div? hw
  rw [hvalue] at hworth
  exact hworth.eq hu'.symm

namespace Decimal

variable {a b x : Decimal}

lemma times_exact (h : a.times b = .ok x) (hx : ∃ z : Decimal, z.toRat = a.toRat * b.toRat) :
    x.toRat = a.toRat * b.toRat := by
  obtain ⟨z, hz⟩ := hx
  exact (rounds_mul? (orCrash_eq_ok.1 h)).eq hz.symm

lemma IsFraction.bounds (h : a.IsFraction) : 0 ≤ a.toRat ∧ a.toRat < 1 := isFraction_iff.1 h

/-- What a fraction leaves of one is never rounded. -/
lemma IsFraction.one_minus (h : a.IsFraction) (hx : one.minus a = .ok x) :
    x.toRat = 1 - a.toRat := by
  obtain ⟨h0, h1⟩ := h.bounds
  obtain ⟨y, hy, hvalue⟩ := one_minus_exact h0 h1.le
  obtain rfl : y = x := Except.ok.inj (hy.symm.trans hx)
  exact hvalue

/-- One and a fraction is never rounded either. -/
lemma IsFraction.one_plus (h : a.IsFraction) (hx : one.plus a = .ok x) :
    x.toRat = 1 + a.toRat := by
  obtain ⟨h0, h1⟩ := h.bounds
  have hsmall : |one.toRat - a.neg.toRat| ≤ 7 := by
    rw [toRat_one, toRat_neg, abs_of_pos (by linarith)]
    linarith
  obtain ⟨z, hz⟩ := exists_sub hsmall
  rw [toRat_neg, sub_neg_eq_add] at hz
  rw [(rounds_plus hx).eq hz.symm, toRat_one]

end Decimal

namespace Sizing

variable {amount slippage x : Decimal}

lemma minOut_exact (h : minOut amount slippage = .ok x) (hs : slippage.IsFraction)
    (hx : ∃ z : Decimal, z.toRat = amount.toRat * (1 - slippage.toRat)) :
    x.toRat = amount.toRat * (1 - slippage.toRat) := by
  unfold minOut at h
  obtain ⟨rest, hrest, h⟩ := bind_eq_ok.1 h
  rw [← hs.one_minus hrest] at hx ⊢
  exact Decimal.times_exact h hx

lemma maxIn_exact (h : maxIn amount slippage = .ok x) (hs : slippage.IsFraction)
    (hx : ∃ z : Decimal, z.toRat = amount.toRat * (1 + slippage.toRat)) :
    x.toRat = amount.toRat * (1 + slippage.toRat) := by
  unfold maxIn at h
  obtain ⟨whole, hwhole, h⟩ := bind_eq_ok.1 h
  rw [← hs.one_plus hwhole] at hx ⊢
  exact Decimal.times_exact h hx

end Sizing

/-! ### What rounding may take -/

/-- More than all the rounding on the way of an order adds up to, if the chunk is worth `worth`. -/
def Prices.dust (p : Prices) (worth : ℚ) : ℚ :=
  128 * (worth + p.collateral.toRat + p.borrow.toRat + 1) / 10 ^ maxScale

section Rounding

variable {x y z w : Decimal} {b : ℚ}

/-- So small a part of a size is no larger than the size. -/
lemma part_bounds {q : ℚ} (hq : 0 ≤ q) : 0 ≤ q / 10 ^ maxScale ∧ q / 10 ^ maxScale ≤ q :=
  ⟨div_nonneg hq (by positivity), div_le_self hq (one_le_pow₀ (by norm_num))⟩

/-- What rounding moves of both amounts of a plan and of an offer for its order is no more. -/
lemma Prices.rounding_le_dust {p : Prices} {worth : ℚ} (hworth : 0 ≤ worth)
    (hc : 0 < p.collateral.toRat) (hb : 0 < p.borrow.toRat) (d : Direction) :
    let e := (3 * worth + p.borrow.toRat + 2) / 10 ^ maxScale
    2 * e + (worth + e + (p.outward d).toRat) / 10 ^ maxScale
      + (7 * (worth + e) + 3 * (p.outward d).toRat + 4) / 10 ^ maxScale ≤ p.dust worth := by
  intro e
  have hesmall : e ≤ 3 * worth + p.borrow.toRat + 2 := (part_bounds (by linarith)).2
  have hout : (p.outward d).toRat ≤ p.collateral.toRat + p.borrow.toRat := by
    cases d with
    | lever => exact le_add_of_nonneg_right hb.le
    | delever => exact le_add_of_nonneg_left hc.le
  calc 2 * e + (worth + e + (p.outward d).toRat) / 10 ^ maxScale
        + (7 * (worth + e) + 3 * (p.outward d).toRat + 4) / 10 ^ maxScale
      = (2 * (3 * worth + p.borrow.toRat + 2) + 8 * (worth + e)
          + 4 * (p.outward d).toRat + 4) / 10 ^ maxScale := by ring
    _ ≤ p.dust worth := div_le_div_of_nonneg_right (by linarith) (by positivity)

/-- An amount that is exchanged at two prices keeps its worth, but for rounding. -/
lemma exchange_near (h : (x.mul? y).bind (fun v => v.div? z) = some w) (hx : 0 ≤ x.toRat)
    (hy : 0 ≤ y.toRat) (hz : 0 < z.toRat) (hb : x.toRat * y.toRat ≤ b) :
    0 ≤ w.toRat ∧
      x.toRat * y.toRat - (3 * b + z.toRat + 2) / 10 ^ maxScale ≤ w.toRat * z.toRat ∧
      w.toRat * z.toRat ≤ x.toRat * y.toRat + (3 * b + z.toRat + 2) / 10 ^ maxScale := by
  obtain ⟨v, hv, hw⟩ := Option.bind_eq_some_iff.1 h
  have hxy : 0 ≤ x.toRat * y.toRat := mul_nonneg hx hy
  have hrv := Decimal.rounds_mul? hv
  have hv0 : 0 ≤ v.toRat := hrv.nonneg hxy
  obtain ⟨hvlo, hvhi⟩ := hrv.within hxy hb
  have hvb : v.toRat ≤ 2 * b + 1 := by
    have hsmall := (part_bounds (q := b + 1) (by linarith)).2
    linarith
  have hrw := Decimal.rounds_div? hw
  have hq0 : 0 ≤ v.toRat / z.toRat := div_nonneg hv0 hz.le
  have hqb : v.toRat / z.toRat ≤ (2 * b + 1) / z.toRat := div_le_div_of_nonneg_right hvb hz.le
  obtain ⟨hwlo, hwhi⟩ := hrw.within hq0 hqb
  have hcancel : v.toRat / z.toRat * z.toRat = v.toRat := div_mul_cancel₀ _ hz.ne'
  have herror : ((2 * b + 1) / z.toRat + 1) / 10 ^ maxScale * z.toRat
      = (2 * b + 1 + z.toRat) / 10 ^ maxScale := by
    field_simp
  refine ⟨hrw.nonneg hq0, ?_, ?_⟩
  · have hlo := mul_le_mul_of_nonneg_right hwlo hz.le
    rw [sub_mul, hcancel, herror] at hlo
    have hsum : (3 * b + z.toRat + 2) / 10 ^ maxScale
        = (b + 1) / 10 ^ maxScale + (2 * b + 1 + z.toRat) / 10 ^ maxScale := by ring
    linarith
  · have hhi := mul_le_mul_of_nonneg_right hwhi hz.le
    rw [add_mul, hcancel, herror] at hhi
    have hsum : (3 * b + z.toRat + 2) / 10 ^ maxScale
        = (b + 1) / 10 ^ maxScale + (2 * b + 1 + z.toRat) / 10 ^ maxScale := by ring
    linarith

/-- A part of an amount keeps its worth, but for rounding. -/
lemma times_near {r : Decimal} (h : x.times r = .ok w) (hx : 0 ≤ x.toRat) (hz : 0 ≤ z.toRat)
    (hr : 0 ≤ r.toRat) (hb : r.toRat ≤ b) :
    0 ≤ w.toRat ∧
      r.toRat * (x.toRat * z.toRat) - (b * (x.toRat * z.toRat) + z.toRat) / 10 ^ maxScale
        ≤ w.toRat * z.toRat ∧
      w.toRat * z.toRat
        ≤ r.toRat * (x.toRat * z.toRat) + (b * (x.toRat * z.toRat) + z.toRat) / 10 ^ maxScale := by
  have hround := Decimal.rounds_mul? (orCrash_eq_ok.1 h)
  have hxr : 0 ≤ x.toRat * r.toRat := mul_nonneg hx hr
  have hsize : x.toRat * r.toRat ≤ b * x.toRat := by
    rw [mul_comm]
    exact mul_le_mul_of_nonneg_right hb hx
  obtain ⟨hlo, hhi⟩ := hround.within hxr hsize
  have herror : (b * x.toRat + 1) / 10 ^ maxScale * z.toRat
      = (b * (x.toRat * z.toRat) + z.toRat) / 10 ^ maxScale := by ring
  have hworth : x.toRat * r.toRat * z.toRat = r.toRat * (x.toRat * z.toRat) := by ring
  refine ⟨hround.nonneg hxr, ?_, ?_⟩
  · have hlo := mul_le_mul_of_nonneg_right hlo hz
    rwa [sub_mul, herror, hworth] at hlo
  · have hhi := mul_le_mul_of_nonneg_right hhi hz
    rwa [add_mul, herror, hworth] at hhi

end Rounding

/-! ### What a plan asks for -/

/-- What is to come out for a whole notional: the amount of which the minimum is taken. -/
def Plan.aim (d : Direction) (notional : Decimal) (p : Prices) : Checked Decimal :=
  match d with
  | .lever => .ok notional
  | .delever => Sizing.toBorrow notional p

/-- No product and no quotient is rounded on the way from a notional to the amounts of its plan. -/
structure Plan.Unrounded (d : Direction) (notional : Decimal) (p : Prices) (slippage : Decimal) :
    Prop where
  worth : ExactWorth notional.toRat p.collateral p.borrow
  least : ∃ z : Decimal, z.toRat = (match d with
    | .lever => notional.toRat
    | .delever => notional.toRat * p.collateral.toRat / p.borrow.toRat) * (1 - slippage.toRat)

section Cost

variable {a : Assets} {p : Prices} {plan : Plan} {terms : Terms} {o : Order} {d : Direction}
  {notional slippage : Decimal}

lemma Plan.ofChunk_eq_ok (h : Plan.ofChunk d notional p slippage = .ok plan) :
    plan.direction = d ∧
      (∃ aim, Plan.aim d notional p = .ok aim ∧ Sizing.minOut aim slippage = .ok plan.minOut) ∧
      match d with
      | .lever => Sizing.toBorrow notional p = .ok plan.amountIn
      | .delever => plan.amountIn = notional := by
  refine ⟨Plan.ofChunk_direction h, ?_⟩
  have hplan := h
  unfold Plan.ofChunk at h
  simp only [bind_eq_ok, lift_eq_ok] at h
  obtain ⟨worth, hworth, h⟩ := h
  cases d with
  | lever =>
    simp only [bind_eq_ok, pure_eq_ok] at h
    obtain ⟨least, hleast, rfl⟩ := h
    exact ⟨⟨notional, rfl, hleast⟩, hworth⟩
  | delever =>
    simp only [bind_eq_ok, pure_eq_ok] at h
    obtain ⟨least, hleast, rfl⟩ := h
    exact ⟨⟨worth, hworth, hleast⟩, rfl⟩

/-- Both amounts of a plan are worth what its chunk is, but for rounding. -/
lemma Plan.worth_near (h : Plan.ofChunk d notional p slippage = .ok plan) {aim : Decimal}
    (haim : Plan.aim d notional p = .ok aim) (hn : 0 ≤ notional.toRat)
    (hc : 0 < p.collateral.toRat) (hb : 0 < p.borrow.toRat) :
    let worth := notional.toRat * p.collateral.toRat
    let e := (3 * worth + p.borrow.toRat + 2) / 10 ^ maxScale
    0 ≤ plan.amountIn.toRat ∧ 0 ≤ aim.toRat ∧
      worth - e ≤ plan.amountIn.toRat * (p.inward d).toRat ∧
      plan.amountIn.toRat * (p.inward d).toRat ≤ worth + e ∧
      worth - e ≤ aim.toRat * (p.outward d).toRat ∧
      aim.toRat * (p.outward d).toRat ≤ worth + e := by
  intro worth e
  have hworth : 0 ≤ worth := mul_nonneg hn hc.le
  have he : 0 ≤ e := div_nonneg (by linarith) (by positivity)
  have hexchanged : ∀ {w : Decimal}, Sizing.toBorrow notional p = .ok w →
      0 ≤ w.toRat ∧ worth - e ≤ w.toRat * p.borrow.toRat ∧ w.toRat * p.borrow.toRat ≤ worth + e :=
    fun hw => exchange_near (orRefuse_eq_ok.1 hw) hn hc.le hb le_rfl
  obtain ⟨-, -, hin⟩ := Plan.ofChunk_eq_ok h
  cases d with
  | lever =>
    obtain rfl : notional = aim := Except.ok.inj haim
    obtain ⟨h0, hlo, hhi⟩ := hexchanged hin
    exact ⟨h0, hn, hlo, hhi, sub_le_self _ he, le_add_of_nonneg_right he⟩
  | delever =>
    obtain ⟨h0, hlo, hhi⟩ := hexchanged haim
    have hin : plan.amountIn = notional := hin
    rw [hin]
    exact ⟨hn, h0, sub_le_self _ he, le_add_of_nonneg_right he, hlo, hhi⟩

/-- The minimum keeps the worth of the aim less the tolerance, but for rounding. -/
lemma Sizing.minOut_near {aim least price : Decimal} (h : minOut aim slippage = .ok least)
    (hs : slippage.IsFraction) (ha : 0 ≤ aim.toRat) (hp : 0 ≤ price.toRat) :
    (1 - slippage.toRat) * (aim.toRat * price.toRat)
        - (aim.toRat * price.toRat + price.toRat) / 10 ^ maxScale ≤ least.toRat * price.toRat ∧
      least.toRat * price.toRat
        ≤ (1 - slippage.toRat) * (aim.toRat * price.toRat)
          + (aim.toRat * price.toRat + price.toRat) / 10 ^ maxScale := by
  unfold minOut at h
  obtain ⟨rest, hrest, h⟩ := bind_eq_ok.1 h
  have hrest := hs.one_minus hrest
  obtain ⟨h0, h1⟩ := hs.bounds
  obtain ⟨-, hlo, hhi⟩ := times_near (b := 1) h ha hp (by linarith) (by linarith)
  rw [one_mul, hrest] at hlo hhi
  exact ⟨hlo, hhi⟩

/-- Without rounding, what goes in is worth what the chunk is, and the minimum is worth the part of
it that must not be lost. -/
lemma Plan.worth_of_unrounded (h : Plan.ofChunk d notional p slippage = .ok plan)
    (hs : slippage.IsFraction) (hb : 0 < p.borrow.toRat)
    (hu : Plan.Unrounded d notional p slippage) :
    plan.amountIn.toRat * (p.inward d).toRat = notional.toRat * p.collateral.toRat ∧
      plan.minOut.toRat * (p.outward d).toRat
        = (1 - slippage.toRat) * (notional.toRat * p.collateral.toRat) := by
  obtain ⟨-, ⟨aim, haim, hleast⟩, hin⟩ := Plan.ofChunk_eq_ok h
  have exchanged : ∀ {w : Decimal}, Sizing.toBorrow notional p = .ok w →
      w.toRat = notional.toRat * p.collateral.toRat / p.borrow.toRat :=
    fun hw => hu.worth.eq (orRefuse_eq_ok.1 hw)
  cases d with
  | lever =>
    obtain rfl : notional = aim := Except.ok.inj haim
    have hl := Sizing.minOut_exact hleast hs hu.least
    simp only [Prices.inward, Prices.outward]
    rw [exchanged hin, hl]
    refine ⟨div_mul_cancel₀ _ hb.ne', ?_⟩
    ring
  | delever =>
    have hw := exchanged haim
    have hl := Sizing.minOut_exact hleast hs (by rw [hw]; exact hu.least)
    have hin : plan.amountIn = notional := hin
    simp only [Prices.inward, Prices.outward]
    rw [hin, hl, hw]
    refine ⟨rfl, ?_⟩
    field_simp

/-- A plan without rounding costs the tolerated part of what its chunk is worth. -/
lemma Plan.cost_of_unrounded (h : Plan.ofChunk d notional p slippage = .ok plan)
    (hs : slippage.IsFraction) (hb : 0 < p.borrow.toRat)
    (hu : Plan.Unrounded d notional p slippage) :
    plan.amountIn.toRat * (p.inward d).toRat - plan.minOut.toRat * (p.outward d).toRat
      = slippage.toRat * notional.toRat * p.collateral.toRat := by
  obtain ⟨hin, hout⟩ := Plan.worth_of_unrounded h hs hb hu
  rw [hin, hout]
  ring

/-! ### What an order asks for -/

/-- A fill at the minimum costs what the plan does and less than a native unit of what comes out. -/
lemma Plan.order_cost (ho : plan.order a terms = .ok o) (hc : 0 < p.collateral.toRat)
    (hb : 0 < p.borrow.toRat) :
    o.amountIn * p.perIn a plan.direction - o.minOut * p.perOut a plan.direction
      ≤ plan.amountIn.toRat * (p.inward plan.direction).toRat
        - plan.minOut.toRat * (p.outward plan.direction).toRat + p.perOut a plan.direction := by
  obtain ⟨-, -, hin, hout⟩ := Plan.order_eq_ok ho
  obtain ⟨hpin, hpout⟩ := Prices.pos_of_pos hc hb plan.direction
  have h1 := Decimal.worth_of_units_le hin hpin.le
  have h2 := Decimal.le_worth_of_units hout hpout.le
  unfold Prices.perIn Prices.perOut
  linarith

/-- What goes into an order is worth no more than what its plan puts in, so the minimum of a plan
without rounding is worth the part of it that must not be lost. -/
lemma Plan.order_kept_le (h : Plan.ofChunk d notional p slippage = .ok plan)
    (ho : plan.order a terms = .ok o) (hs : slippage.IsFraction) (hc : 0 < p.collateral.toRat)
    (hb : 0 < p.borrow.toRat) (hu : Plan.Unrounded d notional p slippage) :
    o.amountIn * p.perIn a d * (1 - slippage.toRat)
      ≤ plan.minOut.toRat * (p.outward d).toRat := by
  obtain ⟨hworth, hleast⟩ := Plan.worth_of_unrounded h hs hb hu
  obtain ⟨-, -, hin, -⟩ := Plan.order_eq_ok ho
  rw [Plan.ofChunk_direction h] at hin
  have hcut : o.amountIn * p.perIn a d ≤ plan.amountIn.toRat * (p.inward d).toRat :=
    Decimal.worth_of_units_le hin (Prices.pos_of_pos hc hb d).1.le
  have hrest : 0 ≤ 1 - slippage.toRat := sub_nonneg.2 hs.bounds.2.le
  calc o.amountIn * p.perIn a d * (1 - slippage.toRat)
      ≤ plan.amountIn.toRat * (p.inward d).toRat * (1 - slippage.toRat) :=
        mul_le_mul_of_nonneg_right hcut hrest
    _ = plan.minOut.toRat * (p.outward d).toRat := by
      rw [hworth, hleast]
      ring

/-- **The minimum of an order and one native unit more are worth what must not be lost.** -/
theorem Plan.order_kept_le_succ (h : Plan.ofChunk d notional p slippage = .ok plan)
    (ho : plan.order a terms = .ok o) (hs : slippage.IsFraction) (hc : 0 < p.collateral.toRat)
    (hb : 0 < p.borrow.toRat) (hu : Plan.Unrounded d notional p slippage) :
    o.amountIn * p.perIn a d * (1 - slippage.toRat) ≤ (o.minOut + 1 : ℕ) * p.perOut a d := by
  obtain ⟨-, -, -, hout⟩ := Plan.order_eq_ok ho
  rw [Plan.ofChunk_direction h] at hout
  calc o.amountIn * p.perIn a d * (1 - slippage.toRat)
      ≤ plan.minOut.toRat * (p.outward d).toRat := Plan.order_kept_le h ho hs hc hb hu
    _ ≤ o.minOut * p.perOut a d + p.perOut a d :=
        Decimal.le_worth_of_units hout (Prices.pos_of_pos hc hb d).2.le
    _ = (o.minOut + 1 : ℕ) * p.perOut a d := by
      push_cast
      ring

/-- The same for every plan, but for dust. -/
theorem Plan.order_kept_near (h : Plan.ofChunk d notional p slippage = .ok plan)
    (ho : plan.order a terms = .ok o) (hs : slippage.IsFraction) (hc : 0 < p.collateral.toRat)
    (hb : 0 < p.borrow.toRat) (hn : 0 ≤ notional.toRat) :
    o.amountIn * p.perIn a d * (1 - slippage.toRat)
      ≤ (o.minOut + 1 : ℕ) * p.perOut a d + p.dust (notional.toRat * p.collateral.toRat) := by
  obtain ⟨hdirection, ⟨aim, haim, hleast⟩, -⟩ := Plan.ofChunk_eq_ok h
  obtain ⟨-, haim0, -, hinhi, haimlo, haimhi⟩ := Plan.worth_near h haim hn hc hb
  obtain ⟨-, -, hin, hout⟩ := Plan.order_eq_ok ho
  rw [hdirection] at hin hout
  obtain ⟨hpin, hpout⟩ := Prices.pos_of_pos hc hb d
  obtain ⟨hs0, hs1⟩ := hs.bounds
  have hworth0 : 0 ≤ notional.toRat * p.collateral.toRat := mul_nonneg hn hc.le
  have hdust := Prices.rounding_le_dust hworth0 hc hb d
  dsimp only at hdust
  set worth := notional.toRat * p.collateral.toRat
  set e := (3 * worth + p.borrow.toRat + 2) / 10 ^ maxScale
  have he0 : 0 ≤ e := (part_bounds (by linarith)).1
  have hcut : o.amountIn * p.perIn a d ≤ plan.amountIn.toRat * (p.inward d).toRat :=
    Decimal.worth_of_units_le hin hpin.le
  have hunit : plan.minOut.toRat * (p.outward d).toRat
      ≤ (o.minOut + 1 : ℕ) * p.perOut a d := by
    push_cast
    rw [add_one_mul]
    exact Decimal.le_worth_of_units hout hpout.le
  obtain ⟨hminlo, -⟩ := Sizing.minOut_near hleast hs haim0 hpout.le
  have hrounded : (aim.toRat * (p.outward d).toRat + (p.outward d).toRat) / (10 : ℚ) ^ maxScale
      ≤ (worth + e + (p.outward d).toRat) / 10 ^ maxScale :=
    div_le_div_of_nonneg_right (by linarith) (by positivity)
  have hoffered : 0 ≤ (7 * (worth + e) + 3 * (p.outward d).toRat + 4) / (10 : ℚ) ^ maxScale :=
    (part_bounds (by linarith)).1
  have hspared : 0 ≤ slippage.toRat * e := mul_nonneg hs0 he0
  have hkept : (1 - slippage.toRat) * (worth - e)
      ≤ (1 - slippage.toRat) * (aim.toRat * (p.outward d).toRat) :=
    mul_le_mul_of_nonneg_left haimlo (by linarith)
  calc o.amountIn * p.perIn a d * (1 - slippage.toRat)
      ≤ (worth + e) * (1 - slippage.toRat) :=
        mul_le_mul_of_nonneg_right (hcut.trans hinhi) (by linarith)
    _ ≤ (1 - slippage.toRat) * (worth - e) + 2 * e := by linarith
    _ ≤ plan.minOut.toRat * (p.outward d).toRat + p.dust worth := by linarith
    _ ≤ (o.minOut + 1 : ℕ) * p.perOut a d + p.dust worth := by linarith

end Cost

end LeverageKeeper
