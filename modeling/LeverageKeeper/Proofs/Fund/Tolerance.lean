import LeverageKeeper.Proofs.Fund.Loss

/-!
The tolerance of an order against the fee of a venue that trades on paper.  The minimum of an order
is taken of the amount that is to come out for the whole notional, but the venue is paid what is
left of the amount that goes in once it is cut to native units.  So a fee as high as the tolerance
is too high for an order that is cut: what the venue offers may fall short of the minimum, by no
more than a native unit of what goes in is worth, and a little dust from rounding.  The venue
refuses an order just if its offer falls short.
-/

namespace LeverageKeeper

open Decimal (maxScale)

/-! ### What is cut and exchanged -/

section Rounding

variable {x y z w : Decimal}

/-- An amount that is cut to native units loses less than one of them. -/
lemma cut_near {amount cut price : Decimal} {d n : ℕ} (h : amount.toUnits d = .ok n)
    (hcut : Decimal.ofUnits n d = .ok cut) (hp : 0 ≤ price.toRat) :
    0 ≤ cut.toRat ∧
      amount.toRat * price.toRat - price.toRat / 10 ^ Nat.min d maxScale
        ≤ cut.toRat * price.toRat ∧
      cut.toRat * price.toRat ≤ amount.toRat * price.toRat := by
  have hvalue := (ofUnits_eq_ok hcut).2
  have hworth : cut.toRat * price.toRat = n * (price.toRat / 10 ^ Nat.min d maxScale) := by
    rw [hvalue]
    ring
  have hlo := Decimal.le_worth_of_units h hp
  have hhi := Decimal.worth_of_units_le h hp
  rw [hworth]
  refine ⟨?_, by linarith, hhi⟩
  rw [hvalue]
  positivity

/-- Of two amounts the larger one is not exchanged for less. -/
lemma exchange_mono {x' w' : Decimal} (h : (x.mul? y).bind (fun v => v.div? z) = some w)
    (h' : (x'.mul? y).bind (fun v => v.div? z) = some w') (hy : 0 ≤ y.toRat) (hz : 0 ≤ z.toRat)
    (hx : x.toRat ≤ x'.toRat) : w.toRat ≤ w'.toRat := by
  obtain ⟨v, hv, hw⟩ := Option.bind_eq_some_iff.1 h
  obtain ⟨v', hv', hw'⟩ := Option.bind_eq_some_iff.1 h'
  have hvv : v.toRat ≤ v'.toRat :=
    (Decimal.rounds_mul? hv).mono (Decimal.rounds_mul? hv') (mul_le_mul_of_nonneg_right hx hy)
  exact (Decimal.rounds_div? hw).mono (Decimal.rounds_div? hw')
    (div_le_div_of_nonneg_right hvv hz)

end Rounding

/-! ### Offers -/

lemma Refusal.IsSizing.not_slippage {r : Refusal} (h : r.IsSizing) (name : String)
    (least got : Decimal) : r ≠ .slippageExceeded name least got := by
  rintro rfl
  exact h

namespace Venue

/-- What an amount buys at two prices, before any fee. -/
def gross? (amountIn priceIn priceOut : Decimal) : Option Decimal :=
  (amountIn.mul? priceIn).bind fun value => value.div? priceOut

/-- What a venue that trades on paper would pay for an order, in whole tokens and in native units,
whatever the minimum. -/
def offer (name : String) (fee : Decimal) (a : Assets) (priceIn priceOut : Decimal) (o : Order) :
    Outcome (Decimal × ℕ) := do
  let amountIn ← Decimal.ofUnits o.amountIn (a.decimalsIn o.direction)
  let out ← quote name fee amountIn priceIn priceOut
  let units ← out.toUnits (a.decimalsOut o.direction)
  return (out, units)

section Offer

variable {name : String} {fee priceIn priceOut out : Decimal} {a : Assets} {o : Order}
  {units : ℕ}

lemma offer_eq_ok :
    offer name fee a priceIn priceOut o = .ok (out, units) ↔
      ∃ amountIn, Decimal.ofUnits o.amountIn (a.decimalsIn o.direction) = .ok amountIn ∧
        quote name fee amountIn priceIn priceOut = .ok out ∧
        out.toUnits (a.decimalsOut o.direction) = .ok units := by
  unfold offer
  simp only [bind_eq_ok, lift_eq_ok, pure_eq_ok, Prod.mk.injEq]
  constructor
  · rintro ⟨amountIn, hin, out', hout, units', hunits, rfl, rfl⟩
    exact ⟨amountIn, hin, hout, hunits⟩
  · rintro ⟨amountIn, hin, hout, hunits⟩
    exact ⟨amountIn, hin, out, hout, units, hunits, rfl, rfl⟩

/-- A venue on paper makes its offer and compares it with the minimum. -/
lemma fill_eq :
    fill name fee a priceIn priceOut o = (do
      let (out, units) ← offer name fee a priceIn priceOut o
      if units < o.minOut then
        let minimum ← Decimal.ofUnits o.minOut (a.decimalsOut o.direction)
        throw (.refused (.slippageExceeded name minimum out))
      return units) := by
  unfold fill offer
  simp only [bind_assoc, pure_bind]

/-- An offer may fail, but not for slippage. -/
lemma offer_refuses :
    RefusesOnly (fun r => ∀ n least got, r ≠ .slippageExceeded n least got)
      (offer name fee a priceIn priceOut o) := by
  refine refusesOnly_bind ((Decimal.ofUnits_refuses _ _).mono fun _ h => h.not_slippage)
    fun _ _ => refusesOnly_bind ?_ fun out _ => refusesOnly_bind ?_ fun _ _ => refusesOnly_ok _
  · refine refusesOnly_bind (refusesOnly_orRefuse _ nofun) fun _ _ => ?_
    exact refusesOnly_bind (refusesOnly_orCrash _ _) fun _ _ => refusesOnly_orCrash _ _
  · exact refusesOnly_lift fun _ h => (Decimal.toUnits_refuses _ _ h).not_slippage

/-- **The venue refuses an order for slippage just if its offer falls short of the minimum**, and
then it names the offer. -/
theorem fill_slips_iff {n : String} {minimum : Decimal} :
    fill name fee a priceIn priceOut o = .error (.refused (.slippageExceeded n minimum out)) ↔
      n = name ∧ ∃ units, offer name fee a priceIn priceOut o = .ok (out, units) ∧
        units < o.minOut ∧
        Decimal.ofUnits o.minOut (a.decimalsOut o.direction) = .ok minimum := by
  rw [fill_eq]
  constructor
  · intro h
    rcases bind_eq_error.1 h with h | ⟨⟨out', units⟩, hoffer, h⟩
    · exact absurd rfl (offer_refuses _ h n minimum out)
    · dsimp only at h
      split at h
      next hlt =>
        rcases bind_eq_error.1 h with h | ⟨minimum', hmin, h⟩
        · exact absurd rfl ((Decimal.ofUnits_refuses _ _ _ h).not_slippage n minimum out)
        · cases h
          exact ⟨rfl, units, hoffer, hlt, hmin⟩
      next => cases h
  · rintro ⟨rfl, units, hoffer, hlt, hmin⟩
    rw [hoffer, ok_bind]
    dsimp only
    rw [if_pos hlt, hmin]
    rfl

/-- The venue pays what it offers, unless that falls short of the minimum. -/
lemma fill_eq_ok :
    fill name fee a priceIn priceOut o = .ok units ↔
      ∃ out, offer name fee a priceIn priceOut o = .ok (out, units) ∧ o.minOut ≤ units := by
  rw [fill_eq]
  constructor
  · intro h
    obtain ⟨⟨out, units'⟩, hoffer, h⟩ := bind_eq_ok.1 h
    dsimp only at h
    split at h
    · obtain ⟨_, -, h⟩ := bind_eq_ok.1 h
      cases h
    next hle =>
      cases h
      exact ⟨out, hoffer, Nat.not_lt.1 hle⟩
  · rintro ⟨out, hoffer, hle⟩
    rw [hoffer, ok_bind]
    dsimp only
    rw [if_neg (Nat.not_lt.2 hle)]
    rfl

/-- A quote keeps the worth of what goes in less the fee, but for rounding. -/
lemma quote_near {amountIn : Decimal} {b : ℚ}
    (h : quote name fee amountIn priceIn priceOut = .ok out) (hfee : fee.IsFraction)
    (hin : 0 ≤ amountIn.toRat) (hp : 0 ≤ priceIn.toRat) (hp' : 0 < priceOut.toRat)
    (hb : amountIn.toRat * priceIn.toRat ≤ b) :
    (1 - fee.toRat) * (amountIn.toRat * priceIn.toRat)
        - (7 * b + 3 * priceOut.toRat + 4) / 10 ^ maxScale ≤ out.toRat * priceOut.toRat ∧
      out.toRat * priceOut.toRat
        ≤ (1 - fee.toRat) * (amountIn.toRat * priceIn.toRat)
          + (7 * b + 3 * priceOut.toRat + 4) / 10 ^ maxScale := by
  unfold quote at h
  simp only [bind_eq_ok, lift_eq_ok, orRefuse_eq_ok] at h
  obtain ⟨gross, hgross, rest, hrest, hout⟩ := h
  obtain ⟨hfee0, hfee1⟩ := hfee.bounds
  have hrest := hfee.one_minus hrest
  obtain ⟨hg0, hglo, hghi⟩ := exchange_near hgross hin hp hp' hb
  have hworth : 0 ≤ amountIn.toRat * priceIn.toRat := mul_nonneg hin hp
  obtain ⟨hmoved0, hmoved⟩ := part_bounds (q := 3 * b + priceOut.toRat + 2) (by linarith)
  obtain ⟨-, holo, hohi⟩ := times_near (b := 1) hout hg0 hp'.le (by linarith) (by linarith)
  rw [hrest] at holo hohi
  have hlo : (1 - fee.toRat) * (amountIn.toRat * priceIn.toRat
        - (3 * b + priceOut.toRat + 2) / 10 ^ maxScale)
      ≤ (1 - fee.toRat) * (gross.toRat * priceOut.toRat) :=
    mul_le_mul_of_nonneg_left hglo (by linarith)
  have hhi : (1 - fee.toRat) * (gross.toRat * priceOut.toRat)
      ≤ (1 - fee.toRat) * (amountIn.toRat * priceIn.toRat
        + (3 * b + priceOut.toRat + 2) / 10 ^ maxScale) :=
    mul_le_mul_of_nonneg_left hghi (by linarith)
  -- the fee takes from what rounding moves as well
  have hpart : 0 ≤ fee.toRat * ((3 * b + priceOut.toRat + 2) / 10 ^ maxScale) :=
    mul_nonneg hfee0 hmoved0
  have hrounded : (1 * (gross.toRat * priceOut.toRat) + priceOut.toRat) / (10 : ℚ) ^ maxScale
      ≤ (4 * b + 2 * priceOut.toRat + 2) / 10 ^ maxScale :=
    div_le_div_of_nonneg_right (by linarith) (by positivity)
  have hsum : (7 * b + 3 * priceOut.toRat + 4) / (10 : ℚ) ^ maxScale
      = (3 * b + priceOut.toRat + 2) / 10 ^ maxScale
        + (4 * b + 2 * priceOut.toRat + 2) / 10 ^ maxScale := by ring
  constructor
  · linarith
  · linarith

/-- An offer is worth what is to go in, less the fee and at most a native unit of it, but for
rounding. -/
lemma offer_near {p : Prices} {d : Direction} {amount : Decimal} {b : ℚ}
    (h : offer name fee a (p.inward d) (p.outward d) o = .ok (out, units)) (hd : o.direction = d)
    (hcut : amount.toUnits (a.decimalsIn d) = .ok o.amountIn) (hfee : fee.IsFraction)
    (hpin : 0 ≤ (p.inward d).toRat) (hpout : 0 < (p.outward d).toRat)
    (hb : amount.toRat * (p.inward d).toRat ≤ b) :
    (1 - fee.toRat) * (amount.toRat * (p.inward d).toRat) - p.perIn a d
        - (7 * b + 3 * (p.outward d).toRat + 4) / 10 ^ maxScale
        ≤ out.toRat * (p.outward d).toRat ∧
      out.toRat * (p.outward d).toRat
        ≤ (1 - fee.toRat) * (amount.toRat * (p.inward d).toRat)
          + (7 * b + 3 * (p.outward d).toRat + 4) / 10 ^ maxScale := by
  obtain ⟨amountIn, hamount, hquote, -⟩ := offer_eq_ok.1 h
  rw [hd] at hamount
  obtain ⟨hamount0, hcutlo, hcuthi⟩ := cut_near hcut hamount hpin
  change _ - p.perIn a d ≤ _ at hcutlo
  obtain ⟨hlo, hhi⟩ := quote_near hquote hfee hamount0 hpin hpout (hcuthi.trans hb)
  obtain ⟨hfee0, hfee1⟩ := hfee.bounds
  have hkept : (1 - fee.toRat) * (amount.toRat * (p.inward d).toRat - p.perIn a d)
      ≤ (1 - fee.toRat) * (amountIn.toRat * (p.inward d).toRat) :=
    mul_le_mul_of_nonneg_left hcutlo (by linarith)
  have hgiven : (1 - fee.toRat) * (amountIn.toRat * (p.inward d).toRat)
      ≤ (1 - fee.toRat) * (amount.toRat * (p.inward d).toRat) :=
    mul_le_mul_of_nonneg_left hcuthi (by linarith)
  have hspared : 0 ≤ fee.toRat * p.perIn a d :=
    mul_nonneg hfee0 (div_nonneg hpin (by positivity))
  constructor
  · linarith
  · linarith

end Offer

end Venue

/-! ### Orders -/

namespace Venue

section Order

variable {a : Assets} {p : Prices} {plan : Plan} {terms : Terms} {o : Order} {d : Direction}
  {notional slippage fee out : Decimal} {name : String} {units : ℕ}

/-- **How far an offer may fall short.**  Against the minimum of the plan it loses what the fee is
above the tolerance, the native unit to which the amount that goes in is cut, and some dust. -/
theorem short_of_minimum_le (hc : 0 < p.collateral.toRat) (hb : 0 < p.borrow.toRat)
    (hn : 0 ≤ notional.toRat) (hs : slippage.IsFraction) (hfee : fee.IsFraction)
    (hplan : Plan.ofChunk d notional p slippage = .ok plan)
    (ho : plan.order a terms = .ok o)
    (hoffer : offer name fee a (p.inward d) (p.outward d) o = .ok (out, units)) :
    (plan.minOut.toRat - out.toRat) * (p.outward d).toRat
      ≤ p.perIn a d + p.dust (notional.toRat * p.collateral.toRat)
        - (slippage.toRat - fee.toRat) * (notional.toRat * p.collateral.toRat) := by
  obtain ⟨hdirection, ⟨aim, haim, hleast⟩, -⟩ := Plan.ofChunk_eq_ok hplan
  obtain ⟨-, haim0, hinlo, hinhi, -, haimhi⟩ := Plan.worth_near hplan haim hn hc hb
  obtain ⟨hodirection, -, hcut, -⟩ := Plan.order_eq_ok ho
  rw [hdirection] at hcut hodirection
  obtain ⟨hpin, hpout⟩ := Prices.pos_of_pos hc hb d
  have hworth0 : 0 ≤ notional.toRat * p.collateral.toRat := mul_nonneg hn hc.le
  -- all that rounding takes, of both amounts and of the offer
  have hdust := Prices.rounding_le_dust hworth0 hc hb d
  dsimp only at hdust
  set worth := notional.toRat * p.collateral.toRat
  set e := (3 * worth + p.borrow.toRat + 2) / 10 ^ maxScale
  have he0 : 0 ≤ e := (part_bounds (by linarith)).1
  obtain ⟨hofferlo, -⟩ := offer_near hoffer hodirection hcut hfee hpin.le hpout hinhi
  obtain ⟨-, hminhi⟩ := Sizing.minOut_near hleast hs haim0 hpout.le
  obtain ⟨hfee0, hfee1⟩ := hfee.bounds
  obtain ⟨hs0, hs1⟩ := hs.bounds
  have hpaid : (1 - fee.toRat) * (worth - e)
      ≤ (1 - fee.toRat) * (plan.amountIn.toRat * (p.inward d).toRat) :=
    mul_le_mul_of_nonneg_left hinlo (by linarith)
  have hdemanded : (1 - slippage.toRat) * (aim.toRat * (p.outward d).toRat)
      ≤ (1 - slippage.toRat) * (worth + e) :=
    mul_le_mul_of_nonneg_left haimhi (by linarith)
  have hsparedfee : 0 ≤ fee.toRat * e := mul_nonneg hfee0 he0
  have hspared : 0 ≤ slippage.toRat * e := mul_nonneg hs0 he0
  have hminround : (aim.toRat * (p.outward d).toRat + (p.outward d).toRat) / (10 : ℚ) ^ maxScale
      ≤ (worth + e + (p.outward d).toRat) / 10 ^ maxScale :=
    div_le_div_of_nonneg_right (by linarith) (by positivity)
  calc (plan.minOut.toRat - out.toRat) * (p.outward d).toRat
      = plan.minOut.toRat * (p.outward d).toRat - out.toRat * (p.outward d).toRat := by ring
    _ ≤ p.perIn a d + p.dust worth - (slippage.toRat - fee.toRat) * worth := by linarith

/-- An offer that is no less than the minimum of the plan is no less in native units either. -/
lemma minOut_le_of_le (hdirection : plan.direction = d) (ho : plan.order a terms = .ok o)
    (hunits : out.toUnits (a.decimalsOut d) = .ok units) (hle : plan.minOut.toRat ≤ out.toRat) :
    o.minOut ≤ units := by
  obtain ⟨-, -, -, hmin⟩ := Plan.order_eq_ok ho
  rw [hdirection] at hmin
  obtain ⟨-, hmin, -⟩ := Decimal.toUnits_eq_ok.1 hmin
  obtain ⟨-, hunits, -⟩ := Decimal.toUnits_eq_ok.1 hunits
  rw [hmin, hunits]
  exact Nat.floor_le_floor (mul_le_mul_of_nonneg_right hle (by positivity))

/-- What goes in buys the aim of the plan before the fee, so a fee within the tolerance leaves the
minimum. -/
lemma minOut_le_of_gross {aim amountIn gross priceIn priceOut : Decimal}
    (hs : slippage.IsFraction) (hfee : fee.IsFraction) (hle : fee.toRat ≤ slippage.toRat)
    {least : Decimal} (hleast : Sizing.minOut aim slippage = .ok least) (haim : 0 ≤ aim.toRat)
    (hgross : gross? amountIn priceIn priceOut = some gross)
    (hquote : quote name fee amountIn priceIn priceOut = .ok out)
    (hcovers : aim.toRat ≤ gross.toRat) : least.toRat ≤ out.toRat := by
  unfold quote at hquote
  simp only [bind_eq_ok, lift_eq_ok, orRefuse_eq_ok] at hquote
  obtain ⟨gross', hgross', rest, hrest, hout⟩ := hquote
  obtain rfl : gross = gross' := Option.some.inj (hgross.symm.trans hgross')
  unfold Sizing.minOut at hleast
  obtain ⟨part, hpart, hleast⟩ := bind_eq_ok.1 hleast
  refine (Decimal.rounds_mul? (orCrash_eq_ok.1 hleast)).mono
    (Decimal.rounds_mul? (orCrash_eq_ok.1 hout)) ?_
  rw [hs.one_minus hpart, hfee.one_minus hrest]
  obtain ⟨-, hfee1⟩ := hfee.bounds
  calc aim.toRat * (1 - slippage.toRat)
      ≤ aim.toRat * (1 - fee.toRat) := mul_le_mul_of_nonneg_left (by linarith) haim
    _ ≤ gross.toRat * (1 - fee.toRat) := mul_le_mul_of_nonneg_right hcovers (by linarith)

/-- The venue refuses the order for slippage. -/
def Slips (v : Venue) (feeds : Feeds) (o : Order) : Prop :=
  ∃ name minimum out, v.answer feeds o = .error (.refused (.slippageExceeded name minimum out))

/-- **An order is refused for slippage just if the offer for it falls short of its minimum.** -/
theorem paper_slips_iff {feeds : Feeds} {bps : UInt32}
    (hcollateral : spot name feeds a.collateralFeed = .ok p.collateral)
    (hborrow : spot name feeds a.borrowFeed = .ok p.borrow)
    (hdirection : plan.direction = d) (ho : plan.order a terms = .ok o) :
    (paper name a bps).Slips feeds o ↔
      ∃ out units,
        offer name (Decimal.ofBasisPoints bps) a (p.inward d) (p.outward d) o = .ok (out, units) ∧
          units < o.minOut := by
  obtain ⟨hodirection, -, -, hmin⟩ := Plan.order_eq_ok ho
  rw [hdirection] at hodirection hmin
  unfold Slips
  rw [paper_answer_of_spot hcollateral hborrow, hodirection]
  constructor
  · rintro ⟨_, _, out, h⟩
    obtain ⟨-, units, hoffer, hlt, -⟩ := fill_slips_iff.1 h
    exact ⟨out, units, hoffer, hlt⟩
  · rintro ⟨out, units, hoffer, hlt⟩
    obtain ⟨minimum, hminimum, -⟩ :=
      Decimal.ofUnits_of_lt (Decimal.toUnits_eq_ok.1 hmin).2.2 (a.decimalsOut d)
    rw [← hodirection] at hminimum
    exact ⟨name, minimum, out, fill_slips_iff.2 ⟨rfl, units, hoffer, hlt, hminimum⟩⟩

lemma fee_isFraction {bps : UInt32} (hs : slippage.IsFraction)
    (hle : Decimal.ofBasisPoints bps ≤ slippage) : (Decimal.ofBasisPoints bps).IsFraction := by
  have h0 := ofBasisPoints_nonneg bps
  refine ⟨Decimal.le_iff_toRat.2 ?_, Decimal.lt_iff_toRat.2 ?_⟩
  · rwa [Decimal.toRat_zero]
  · exact (Decimal.le_iff_toRat.1 hle).trans_lt (Decimal.lt_iff_toRat.1 hs.2)

end Order

/-! ### Orders within the tolerance -/

section Tolerated

variable {a : Assets} {p : Prices} {plan : Plan} {terms : Terms} {o : Order} {d : Direction}
  {notional slippage : Decimal} {name : String} {feeds : Feeds} {bps : UInt32}
  (hcollateral : spot name feeds a.collateralFeed = .ok p.collateral)
  (hborrow : spot name feeds a.borrowFeed = .ok p.borrow)
  (hc : 0 < p.collateral.toRat) (hb : 0 < p.borrow.toRat) (hn : 0 < notional.toRat)
  (hs : slippage.IsFraction) (hplan : Plan.ofChunk d notional p slippage = .ok plan)
  (ho : plan.order a terms = .ok o) (hle : Decimal.ofBasisPoints bps ≤ slippage)

include hcollateral hborrow hc hb hn hs hplan ho hle

/-- An order is not refused if what is left of the amount that goes in still buys the aim. -/
lemma not_slips_of_gross {aim cut gross : Decimal} (haim : Plan.aim d notional p = .ok aim)
    (hcut : Decimal.ofUnits o.amountIn (a.decimalsIn d) = .ok cut)
    (hgross : gross? cut (p.inward d) (p.outward d) = some gross) (hcovers : aim ≤ gross) :
    ¬ (paper name a bps).Slips feeds o := by
  obtain ⟨hdirection, ⟨aim', haim', hleast⟩, -⟩ := Plan.ofChunk_eq_ok hplan
  obtain rfl : aim = aim' := Except.ok.inj (haim.symm.trans haim')
  obtain ⟨hodirection, -⟩ := Plan.order_eq_ok ho
  rw [hdirection] at hodirection
  obtain ⟨-, haim0, -⟩ := Plan.worth_near hplan haim hn.le hc hb
  intro hslip
  obtain ⟨out, units, hoffer, hlt⟩ :=
    (paper_slips_iff hcollateral hborrow hdirection ho).1 hslip
  obtain ⟨amountIn, hamount, hquote, hunits⟩ := offer_eq_ok.1 hoffer
  rw [hodirection] at hamount hunits
  obtain rfl : cut = amountIn := Except.ok.inj (hcut.symm.trans hamount)
  have hleast : plan.minOut.toRat ≤ out.toRat :=
    minOut_le_of_gross hs (fee_isFraction hs hle) (Decimal.le_iff_toRat.1 hle) hleast haim0 hgross
      hquote (Decimal.le_iff_toRat.1 hcovers)
  exact Nat.not_le.2 hlt (minOut_le_of_le hdirection ho hunits hleast)

/-- A sale of a whole number of native units is not cut, so it buys what it is worth. -/
lemma not_slips_of_whole (hd : d = .delever)
    (hwhole : ∃ n : ℕ, notional.toRat = n / 10 ^ Nat.min a.collateralDecimals maxScale) :
    ¬ (paper name a bps).Slips feeds o := by
  subst hd
  obtain ⟨n, hwhole⟩ := hwhole
  obtain ⟨hdirection, ⟨aim, haim, -⟩, hin⟩ := Plan.ofChunk_eq_ok hplan
  change plan.amountIn = notional at hin
  obtain ⟨hodirection, -, hcut, -⟩ := Plan.order_eq_ok ho
  rw [hdirection] at hcut hodirection
  intro hslip
  obtain ⟨out, units, hoffer, -⟩ :=
    (paper_slips_iff hcollateral hborrow hdirection ho).1 hslip
  obtain ⟨cut, hamount, hquote, -⟩ := offer_eq_ok.1 hoffer
  rw [hodirection] at hamount
  have hkept : notional.toRat = cut.toRat := by
    obtain ⟨-, hunits, -⟩ := Decimal.toUnits_eq_ok.1 hcut
    rw [hin, hwhole, Assets.decimalsIn, div_mul_cancel₀ _ (by positivity), Nat.floor_natCast]
      at hunits
    rw [(ofUnits_eq_ok hamount).2, hunits, hwhole]
    rfl
  unfold quote at hquote
  simp only [bind_eq_ok, lift_eq_ok, orRefuse_eq_ok] at hquote
  obtain ⟨gross, hgross, -⟩ := hquote
  have hcovers : aim ≤ gross :=
    Decimal.le_iff_toRat.2 (exchange_mono (orRefuse_eq_ok.1 haim) hgross hc.le hb.le hkept.le)
  exact not_slips_of_gross hcollateral hborrow hc hb hn hs hplan ho hle haim hamount hgross
    hcovers hslip

/-- An order is not refused if the fee is a native unit and some dust below the tolerance. -/
lemma not_slips_of_margin
    (hmargin : p.perIn a d + p.dust (notional.toRat * p.collateral.toRat)
      ≤ (slippage.toRat - (Decimal.ofBasisPoints bps).toRat)
        * (notional.toRat * p.collateral.toRat)) :
    ¬ (paper name a bps).Slips feeds o := by
  have hdirection := Plan.ofChunk_direction hplan
  obtain ⟨hodirection, -⟩ := Plan.order_eq_ok ho
  rw [hdirection] at hodirection
  intro hslip
  obtain ⟨out, units, hoffer, hlt⟩ :=
    (paper_slips_iff hcollateral hborrow hdirection ho).1 hslip
  obtain ⟨_, -, -, hunits⟩ := offer_eq_ok.1 hoffer
  rw [hodirection] at hunits
  have hfar := short_of_minimum_le hc hb hn.le hs (fee_isFraction hs hle) hplan ho hoffer
  have hnone : (plan.minOut.toRat - out.toRat) * (p.outward d).toRat ≤ 0 := by linarith
  have hleast : plan.minOut.toRat ≤ out.toRat :=
    sub_nonpos.1 (nonpos_of_mul_nonpos_left hnone (Prices.pos_of_pos hc hb d).2)
  exact Nat.not_le.2 hlt (minOut_le_of_le hdirection ho hunits hleast)

end Tolerated

/-- **Which orders a venue on paper refuses for slippage.**  Take the order of a chunk, and a venue
at the same positive prices.  The order is refused for slippage just if the venue's offer for what
is left of the amount that goes in, both cut to native units, falls short of the minimum.  A fee
within the tolerance never brings this about where the cut does not matter: where what is left still
buys, before the fee, the amount of which the minimum is taken, as in every sale of a whole number
of native units.  Otherwise the offer may fall short of the minimum, but by no more than one native
unit of what goes in is worth, and some dust; so it does not if the fee is that much below the
tolerance. -/
theorem order_tolerated {a : Assets} {p : Prices} {plan : Plan} {terms : Terms} {o : Order}
    {d : Direction} {notional slippage : Decimal} {name : String} {feeds : Feeds} (bps : UInt32)
    (hcollateral : spot name feeds a.collateralFeed = .ok p.collateral)
    (hborrow : spot name feeds a.borrowFeed = .ok p.borrow)
    (hc : 0 < p.collateral.toRat) (hb : 0 < p.borrow.toRat) (hn : 0 < notional.toRat)
    (hs : slippage.IsFraction) (hplan : Plan.ofChunk d notional p slippage = .ok plan)
    (ho : plan.order a terms = .ok o) :
    let fee := Decimal.ofBasisPoints bps
    let venue := paper name a bps
    let offered := offer name fee a (p.inward d) (p.outward d) o
    let worth := notional.toRat * p.collateral.toRat
    (venue.Slips feeds o ↔ ∃ out units, offered = .ok (out, units) ∧ units < o.minOut) ∧
      (fee ≤ slippage →
        (∀ aim cut gross, Plan.aim d notional p = .ok aim →
          Decimal.ofUnits o.amountIn (a.decimalsIn d) = .ok cut →
          gross? cut (p.inward d) (p.outward d) = some gross → aim ≤ gross →
          ¬ venue.Slips feeds o) ∧
        (d = .delever →
          (∃ n : ℕ, notional.toRat = n / 10 ^ Nat.min a.collateralDecimals maxScale) →
          ¬ venue.Slips feeds o) ∧
        (∀ out units, offered = .ok (out, units) →
          (plan.minOut.toRat - out.toRat) * (p.outward d).toRat
            ≤ p.perIn a d + p.dust worth - (slippage.toRat - fee.toRat) * worth) ∧
        (p.perIn a d + p.dust worth ≤ (slippage.toRat - fee.toRat) * worth →
          ¬ venue.Slips feeds o)) := by
  intro fee venue offered worth
  refine ⟨paper_slips_iff hcollateral hborrow (Plan.ofChunk_direction hplan) ho, ?_⟩
  intro hle
  refine ⟨?_, ?_, ?_, ?_⟩
  · intro aim cut gross haim hcut hgross hcovers
    exact not_slips_of_gross hcollateral hborrow hc hb hn hs hplan ho hle haim hcut hgross hcovers
  · exact not_slips_of_whole hcollateral hborrow hc hb hn hs hplan ho hle
  · intro out units hoffer
    exact short_of_minimum_le hc hb hn.le hs (fee_isFraction hs hle) hplan ho hoffer
  · exact not_slips_of_margin hcollateral hborrow hc hb hn hs hplan ho hle

end Venue

namespace Fund.Trial

/-- The borrowed token at a price of seven, the collateral at one. -/
def dear : Feeds := ⟨[(⟨3⟩, ⟨100, 2, 1000⟩), (⟨4⟩, ⟨700, 2, 1000⟩)]⟩

def dearPrices : Prices := ⟨number 100 2, number 700 2⟩

/-- The purchase of three hundred units of collateral at these prices, within two in a hundred. -/
def purchase : Plan :=
  ⟨.lever, ⟨false, 42857142857142857142857142857, 27, by decide, by decide⟩,
    ⟨false, 29400, 2, by decide, by decide⟩⟩

/-- Their sale. -/
def sale : Plan :=
  ⟨.delever, number 300 0, ⟨false, 42000000000000000000000000000, 27, by decide, by decide⟩⟩

lemma purchase_planned :
    Plan.ofChunk .lever (number 300 0) dearPrices (number 2 2) = .ok purchase := rfl

lemma sale_planned : Plan.ofChunk .delever (number 300 0) dearPrices (number 2 2) = .ok sale := rfl

end Fund.Trial

open Fund

/-- **A fee as high as the tolerance can be too high.**  Three hundred units of collateral cost
42.857… of a token at a price of seven.  Cut to 42.85, that buys 299.95 units before the fee, and
after it less than 98 of every hundred. -/
theorem Venue.cut_order_slips :
    ∃ o, Plan.ofChunk .lever (Trial.number 300 0) Trial.dearPrices (Trial.number 2 2)
        = .ok Trial.purchase ∧
      Trial.purchase.order Trial.assets Trial.terms = .ok o ∧
      Trial.dear.prices Trial.assets 1000 = .ok Trial.dearPrices ∧
      (Trial.number 2 2).IsFraction ∧ Decimal.ofBasisPoints 200 ≤ Trial.number 2 2 ∧
      (Venue.paper "paper" Trial.assets 200).Slips Trial.dear o :=
  ⟨⟨.lever, 4285, 29400, []⟩, Trial.purchase_planned, rfl, rfl, by decide, by decide, "paper",
    Trial.number 294 0, ⟨false, 2939510, 4, by decide, by decide⟩, rfl⟩

/-- A fee of one in a hundred leaves room for the cut, and a sale of 300 whole units has none. -/
theorem Venue.order_tolerated_trial :
    ¬ (Venue.paper "paper" Trial.assets 100).Slips Trial.dear ⟨.lever, 4285, 29400, []⟩ ∧
      ¬ (Venue.paper "paper" Trial.assets 200).Slips Trial.dear ⟨.delever, 30000, 4200, []⟩ := by
  have hcollateral : Venue.spot "paper" Trial.dear Trial.assets.collateralFeed
      = .ok Trial.dearPrices.collateral := rfl
  have hborrow : Venue.spot "paper" Trial.dear Trial.assets.borrowFeed
      = .ok Trial.dearPrices.borrow := rfl
  have hc : 0 < Trial.dearPrices.collateral.toRat := by decide +kernel
  have hb : 0 < Trial.dearPrices.borrow.toRat := by decide +kernel
  have hn : 0 < (Trial.number 300 0).toRat := by decide +kernel
  have hs : (Trial.number 2 2).IsFraction := by decide
  constructor
  · have ho : Trial.purchase.order Trial.assets Trial.terms
        = .ok ⟨.lever, 4285, 29400, []⟩ := rfl
    obtain ⟨-, htolerated⟩ :=
      Venue.order_tolerated 100 hcollateral hborrow hc hb hn hs Trial.purchase_planned ho
    exact (htolerated (by decide)).2.2.2 (by decide +kernel)
  · have ho : Trial.sale.order Trial.assets Trial.terms
        = .ok ⟨.delever, 30000, 4200, []⟩ := rfl
    obtain ⟨-, htolerated⟩ :=
      Venue.order_tolerated 200 hcollateral hborrow hc hb hn hs Trial.sale_planned ho
    exact (htolerated (by decide)).2.1 rfl ⟨30000, by decide +kernel⟩

end LeverageKeeper
