import LeverageKeeper.Proofs.Fund.Tolerance

/-!
The last sale of an unwinding against the fee of a venue that trades on paper.  It sells what the
debt is worth, and the tolerance on top; what has to come out is the debt itself, to the native
unit.  So the venue takes its fee from one plus the tolerance, and a fee as high as the tolerance
takes more than what was added.  The debt is repaid just if what is left covers it.
-/

namespace LeverageKeeper

open Decimal (Rounds maxScale bound)

/-! ### Results in range -/

namespace Decimal

/-- An operation whose exact result is in range gives one. -/
lemma exists_of_lt {r : Option Decimal} {q : ℚ} (hq : |q| < limit - 1 / 2)
    (hnone : r = none → limit - 1 / 2 ≤ |q|) (hsome : ∀ w, r = some w → Rounds q w) :
    ∃ w, r = some w ∧ Rounds q w := by
  cases hr : r with
  | none => exact absurd (hnone hr) hq.not_ge
  | some w => exact ⟨w, rfl, hsome w hr⟩

lemma abs_lt_of_le {q : ℚ} {z : Decimal} (h0 : 0 ≤ q) (hq : q ≤ z.toRat) :
    |q| < limit - 1 / 2 := by
  have hz := (abs_le.1 z.abs_toRat_le).2
  rw [abs_of_nonneg h0]
  linarith

/-- Of what an amount is cut to, a number of native units is covered just if the amount is worth as
much. -/
lemma le_toUnits_iff {amount price : Decimal} {d n k : ℕ} (h : amount.toUnits d = .ok n)
    (hp : 0 < price.toRat) :
    k ≤ n ↔ k * (price.toRat / 10 ^ Nat.min d maxScale) ≤ amount.toRat * price.toRat := by
  obtain ⟨h0, rfl, -⟩ := toUnits_eq_ok.1 h
  have hpow : (0 : ℚ) < 10 ^ Nat.min d maxScale := by positivity
  rw [Nat.le_floor_iff (mul_nonneg h0 hpow.le), mul_div_assoc', div_le_iff₀ hpow, mul_right_comm,
    mul_le_mul_iff_left₀ hp]

/-- What is no larger than an amount in native units comes to no more of them. -/
lemma toUnits_of_le {a b : Decimal} {d n : ℕ} (ha : 0 ≤ a.toRat) (hb : b.toUnits d = .ok n)
    (hle : a.toRat ≤ b.toRat) : ∃ k ≤ n, a.toUnits d = .ok k := by
  obtain ⟨-, rfl, hlt⟩ := toUnits_eq_ok.1 hb
  have hfloor := Nat.floor_le_floor
    (mul_le_mul_of_nonneg_right hle (by positivity : (0 : ℚ) ≤ 10 ^ Nat.min d maxScale))
  exact ⟨_, hfloor, toUnits_eq_ok.2 ⟨ha, rfl, hfloor.trans_lt hlt⟩⟩

end Decimal

namespace Venue

section Offer

variable {name : String} {fee : Decimal} {a : Assets} {o : Order} {out : Decimal} {units : ℕ}

lemma units_lt_bound {priceIn priceOut : Decimal}
    (h : offer name fee a priceIn priceOut o = .ok (out, units)) : units < bound := by
  obtain ⟨_, -, -, hunits⟩ := offer_eq_ok.1 h
  exact (Decimal.toUnits_eq_ok.1 hunits).2.2

/-- An offer for a sale covers a debt just if it is worth as much. -/
lemma le_units_iff {p : Prices} {debt : ℕ}
    (h : offer name fee a p.collateral p.borrow o = .ok (out, units)) (hd : o.direction = .delever)
    (hb : 0 < p.borrow.toRat) :
    debt ≤ units ↔ debt * p.perBorrow a ≤ out.toRat * p.borrow.toRat := by
  obtain ⟨_, -, -, hunits⟩ := offer_eq_ok.1 h
  rw [hd] at hunits
  exact Decimal.le_toUnits_iff hunits hb

/-- A quote can be made if the worth of what goes in is in range, and some amount is worth as much
in the other token. -/
lemma quote_of_worth {amountIn value most priceIn priceOut : Decimal}
    (hfee : fee.IsFraction) (hin : 0 ≤ amountIn.toRat) (hp : 0 ≤ priceIn.toRat)
    (hp' : 0 < priceOut.toRat) (hvalue : amountIn.mul? priceIn = some value)
    (hmost : value.toRat ≤ most.toRat * priceOut.toRat) :
    ∃ out, quote name fee amountIn priceIn priceOut = .ok out ∧ 0 ≤ out.toRat ∧
      out.toRat ≤ most.toRat := by
  have hvalue0 : 0 ≤ value.toRat := (Decimal.rounds_mul? hvalue).nonneg (mul_nonneg hin hp)
  have hq0 : 0 ≤ value.toRat / priceOut.toRat := div_nonneg hvalue0 hp'.le
  have hq : value.toRat / priceOut.toRat ≤ most.toRat := (div_le_iff₀ hp').2 hmost
  obtain ⟨gross, hgross, hround⟩ := Decimal.exists_of_lt (Decimal.abs_lt_of_le hq0 hq)
    (fun hnone => (Decimal.div?_eq_none hnone).resolve_left hp'.ne') fun _ => Decimal.rounds_div?
  have hgross0 : 0 ≤ gross.toRat := hround.nonneg hq0
  obtain ⟨hfee0, hfee1⟩ := hfee.bounds
  obtain ⟨rest, hrest⟩ := Decimal.minus_ok (a := Decimal.one) (by simp) hfee0
  have hrestvalue := hfee.one_minus hrest
  have hkept0 : 0 ≤ gross.toRat * rest.toRat := mul_nonneg hgross0 (by linarith)
  have hkept : gross.toRat * rest.toRat ≤ gross.toRat :=
    mul_le_of_le_one_right hgross0 (by linarith)
  obtain ⟨out, hout, hround'⟩ := Decimal.exists_of_lt (Decimal.abs_lt_of_le hkept0 hkept)
    Decimal.mul?_eq_none fun _ => Decimal.rounds_mul?
  refine ⟨out, ?_, hround'.nonneg hkept0, (hround'.le hkept).trans (hround.le hq)⟩
  unfold quote
  simp only [bind_eq_ok, lift_eq_ok, orRefuse_eq_ok]
  refine ⟨gross, ?_, rest, hrest, orCrash_eq_ok.2 hout⟩
  rw [hvalue]
  exact hgross

end Offer

end Venue

namespace Fund

/-! ### The sale and its offer -/

section Unwinds

variable {f : Fund} {t : Trade} {p : Prices}

/-- The last sale sells no more than is held. -/
lemma Unwinds.amountIn_le (h : f.Unwinds t) :
    t.plan.amountIn.toRat ≤ t.position.collateralUnits.toRat := by
  obtain ⟨limits, room, -, -, hle⟩ := h.within
  have hle := Decimal.le_iff_toRat.1 hle
  rw [Decimal.toRat_min, Decimal.toRat_min] at hle
  exact hle.trans ((min_le_left _ _).trans (min_le_left _ _))

/-- The last sale is worth the debt and the tolerance on top, but for rounding. -/
lemma Unwinds.worth_near (h : f.Unwinds t) (hs : f.Sound)
    (hposition : f.ledger.book.balances.Derives p f.assets t.position)
    (hc : 0 < p.collateral.toRat) (hb : 0 < p.borrow.toRat) :
    let s := f.strategy.settings.execution.slippage.toRat
    let worth := f.ledger.book.balances.owed p f.assets
    let e := (14 * worth + 5 * p.collateral.toRat + 8) / 10 ^ maxScale
    0 ≤ t.plan.amountIn.toRat ∧
      (1 + s) * worth - e ≤ t.plan.amountIn.toRat * p.collateral.toRat ∧
      t.plan.amountIn.toRat * p.collateral.toRat ≤ (1 + s) * worth + e := by
  intro s worth e
  obtain ⟨owed, howed, hsale⟩ := h.sale
  rw [hposition.prices] at howed
  have hworth : t.position.debtUnits.toRat * p.borrow.toRat = worth := hposition.owed_eq.2
  have hdebt : 0 ≤ t.position.debtUnits.toRat := by
    rw [(ofUnits_eq_ok hposition.debtUnits).2]
    positivity
  obtain ⟨h0, hlo, hhi⟩ := exchange_near (orRefuse_eq_ok.1 howed) hdebt hb.le hc hworth.le
  rw [hworth] at hlo hhi
  have hworth0 : 0 ≤ worth := hworth ▸ mul_nonneg hdebt hb.le
  obtain ⟨hs0, hs1⟩ := hs.slippage_isFraction.bounds
  unfold Sizing.maxIn at hsale
  obtain ⟨whole, hwhole, hsale⟩ := bind_eq_ok.1 hsale
  have hwhole : whole.toRat = 1 + s := hs.slippage_isFraction.one_plus hwhole
  obtain ⟨hsale0, hsalelo, hsalehi⟩ :=
    times_near (b := 2) hsale h0 hc.le (by linarith) (by linarith)
  rw [hwhole] at hsalelo hsalehi
  set x := (3 * worth + p.collateral.toRat + 2) / 10 ^ maxScale with hx
  obtain ⟨hx0, hxsmall⟩ : 0 ≤ x ∧ x ≤ 3 * worth + p.collateral.toRat + 2 :=
    part_bounds (by linarith)
  have hlo : (1 + s) * (worth - x) ≤ (1 + s) * (owed.toRat * p.collateral.toRat) :=
    mul_le_mul_of_nonneg_left hlo (by linarith)
  have hhi : (1 + s) * (owed.toRat * p.collateral.toRat) ≤ (1 + s) * (worth + x) :=
    mul_le_mul_of_nonneg_left hhi (by linarith)
  have hpart : s * x ≤ x := mul_le_of_le_one_left hx0 hs1.le
  have hrounded : (2 * (owed.toRat * p.collateral.toRat) + p.collateral.toRat) / 10 ^ maxScale
      ≤ (8 * worth + 3 * p.collateral.toRat + 4) / 10 ^ maxScale :=
    div_le_div_of_nonneg_right (by linarith) (by positivity)
  have hsum : e = 2 * x + (8 * worth + 3 * p.collateral.toRat + 4) / 10 ^ maxScale := by
    rw [hx]
    ring
  exact ⟨hsale0, by linarith, by linarith⟩

end Unwinds

/-- The trade is the last sale at the prices of its position, and the order is made out for it: some
of the collateral that is held, for the debt. -/
structure SellsOut (f : Fund) (t : Trade) (p : Prices) (o : Order) : Prop where
  sound : f.Sound
  unwinds : f.Unwinds t
  position : f.ledger.book.balances.Derives p f.assets t.position
  collateralPrice : 0 < p.collateral.toRat
  borrowPrice : 0 < p.borrow.toRat
  order : t.plan.order f.assets t.listing.terms = .ok o
  direction : o.direction = .delever
  minOut : o.minOut = f.ledger.book.debt
  held : o.amountIn ≤ f.ledger.book.collateral

section Sale

variable {f : Fund} {t : Trade} {p : Prices} {o : Order} {name : String} {fee out : Decimal}
  {units : ℕ}

/-- The order of the last sale can always be made out. -/
lemma Unwinds.exists_sellsOut (h : f.Unwinds t) (hs : f.Sound)
    (hposition : f.ledger.book.balances.Derives p f.assets t.position)
    (hc : 0 < p.collateral.toRat) (hb : 0 < p.borrow.toRat) : ∃ o, f.SellsOut t p o := by
  obtain ⟨hsale, -⟩ := h.worth_near hs hposition hc hb
  obtain ⟨n, hle, hin⟩ :=
    Decimal.toUnits_of_le hsale (toUnits_of_ofUnits hposition.collateralUnits) h.amountIn_le
  have hout := toUnits_of_ofUnits hposition.debtUnits
  refine ⟨⟨.delever, n, f.ledger.book.debt, t.listing.terms.route .delever⟩,
    ⟨hs, h, hposition, hc, hb, ?_, rfl, rfl, hle⟩⟩
  unfold Plan.order
  rw [h.plan]
  simp only [bind_eq_ok, pure_eq_ok]
  exact ⟨n, hin, f.ledger.book.debt, hout, rfl⟩

lemma SellsOut.toUnits (h : f.SellsOut t p o) :
    t.plan.amountIn.toUnits (f.assets.decimalsIn .delever) = .ok o.amountIn := by
  obtain ⟨-, -, hcut, -⟩ := Plan.order_eq_ok h.order
  have hd : t.plan.direction = .delever := by rw [h.unwinds.plan]
  rwa [hd] at hcut

/-- The last sale is worth no more than twice the debt, but for rounding. -/
lemma SellsOut.worth_le (h : f.SellsOut t p o) :
    let worth := f.ledger.book.balances.owed p f.assets
    0 ≤ worth ∧ t.plan.amountIn.toRat * p.collateral.toRat
      ≤ 2 * worth + (14 * worth + 5 * p.collateral.toRat + 8) / 10 ^ maxScale := by
  intro worth
  have hworth0 : 0 ≤ worth :=
    mul_nonneg (Nat.cast_nonneg _) (div_nonneg h.borrowPrice.le (by positivity))
  obtain ⟨-, -, hhi⟩ :=
    h.unwinds.worth_near h.sound h.position h.collateralPrice h.borrowPrice
  obtain ⟨hs0, hs1⟩ := h.sound.slippage_isFraction.bounds
  exact ⟨hworth0, hhi.trans
    (add_le_add_left (mul_le_mul_of_nonneg_right (by linarith) hworth0) _)⟩

/-- What a venue on paper offers for the last sale: the worth of the debt and the tolerance on top,
less the fee and at most a native unit of the collateral, but for rounding. -/
lemma SellsOut.offer_near (h : f.SellsOut t p o) (hfee : fee.IsFraction)
    (hoffer : Venue.offer name fee f.assets p.collateral p.borrow o = .ok (out, units)) :
    let s := f.strategy.settings.execution.slippage.toRat
    let worth := f.ledger.book.balances.owed p f.assets
    (1 + s) * (1 - fee.toRat) * worth - p.perCollateral f.assets - p.dust worth
        ≤ out.toRat * p.borrow.toRat ∧
      out.toRat * p.borrow.toRat ≤ (1 + s) * (1 - fee.toRat) * worth + p.dust worth := by
  intro s worth
  have hc := h.collateralPrice
  have hb := h.borrowPrice
  obtain ⟨-, hsalelo, hsalehi⟩ := h.unwinds.worth_near h.sound h.position hc hb
  obtain ⟨hworth0, hsize⟩ := h.worth_le
  change 0 ≤ worth at hworth0
  set e := (14 * worth + 5 * p.collateral.toRat + 8) / 10 ^ maxScale with he
  obtain ⟨he0, hesmall⟩ : 0 ≤ e ∧ e ≤ 14 * worth + 5 * p.collateral.toRat + 8 :=
    part_bounds (by linarith)
  obtain ⟨hlo, hhi⟩ :=
    Venue.offer_near (d := .delever) hoffer h.direction h.toUnits hfee hc.le hb hsize
  change (1 - fee.toRat) * (t.plan.amountIn.toRat * p.collateral.toRat) - p.perCollateral f.assets
      - (7 * (2 * worth + e) + 3 * p.borrow.toRat + 4) / 10 ^ maxScale
    ≤ out.toRat * p.borrow.toRat at hlo
  change out.toRat * p.borrow.toRat
    ≤ (1 - fee.toRat) * (t.plan.amountIn.toRat * p.collateral.toRat)
      + (7 * (2 * worth + e) + 3 * p.borrow.toRat + 4) / 10 ^ maxScale at hhi
  obtain ⟨hfee0, hfee1⟩ := hfee.bounds
  have hsoldlo : (1 - fee.toRat) * ((1 + s) * worth - e)
      ≤ (1 - fee.toRat) * (t.plan.amountIn.toRat * p.collateral.toRat) :=
    mul_le_mul_of_nonneg_left hsalelo (by linarith)
  have hsoldhi : (1 - fee.toRat) * (t.plan.amountIn.toRat * p.collateral.toRat)
      ≤ (1 - fee.toRat) * ((1 + s) * worth + e) :=
    mul_le_mul_of_nonneg_left hsalehi (by linarith)
  have hspared : 0 ≤ fee.toRat * e := mul_nonneg hfee0 he0
  -- all that rounding moves, of the sale and of the offer
  have hdust : e + (7 * (2 * worth + e) + 3 * p.borrow.toRat + 4) / 10 ^ maxScale
      ≤ p.dust worth := by
    calc e + (7 * (2 * worth + e) + 3 * p.borrow.toRat + 4) / 10 ^ maxScale
        = (14 * worth + 5 * p.collateral.toRat + 8
            + (7 * (2 * worth + e) + 3 * p.borrow.toRat + 4)) / 10 ^ maxScale := by
          rw [he]
          ring
      _ ≤ p.dust worth := div_le_div_of_nonneg_right (by linarith) (by positivity)
  constructor
  · linarith
  · linarith

/-- The worth of the last sale is in range: it is no larger than that of all that is held. -/
lemma SellsOut.exists_value (h : f.SellsOut t p o) {cut : Decimal} (h0 : 0 ≤ cut.toRat)
    (hcut : cut.toRat * p.collateral.toRat ≤ t.plan.amountIn.toRat * p.collateral.toRat) :
    ∃ value, cut.mul? p.collateral = some value ∧
      Rounds (cut.toRat * p.collateral.toRat) value := by
  have hcut0 : 0 ≤ cut.toRat * p.collateral.toRat := mul_nonneg h0 h.collateralPrice.le
  have hheld : cut.toRat * p.collateral.toRat
      ≤ t.position.collateralUnits.toRat * p.collateral.toRat :=
    hcut.trans (mul_le_mul_of_nonneg_right h.unwinds.amountIn_le h.collateralPrice.le)
  refine Decimal.exists_of_lt ?_ Decimal.mul?_eq_none fun _ => Decimal.rounds_mul?
  rw [abs_of_nonneg hcut0]
  exact (hheld.trans (le_abs_self _)).trans_lt
    (Decimal.rounds_mul? h.position.collateralValue).abs_lt

/-- The venue makes an offer if the debt is far enough from the end of the range. -/
lemma SellsOut.exists_offer (h : f.SellsOut t p o) (hfee : fee.IsFraction)
    (hdust : p.dust (f.ledger.book.balances.owed p f.assets)
      ≤ f.ledger.book.balances.owed p f.assets)
    (hrange : 3 * f.ledger.book.debt < bound) :
    ∃ out units, Venue.offer name fee f.assets p.collateral p.borrow o = .ok (out, units) := by
  have hc := h.collateralPrice
  have hb := h.borrowPrice
  obtain ⟨hworth0, hsize⟩ := h.worth_le
  set worth := f.ledger.book.balances.owed p f.assets with hworth
  set e := (14 * worth + 5 * p.collateral.toRat + 8) / 10 ^ maxScale with he
  obtain ⟨-, hesmall⟩ : 0 ≤ e ∧ e ≤ 14 * worth + 5 * p.collateral.toRat + 8 :=
    part_bounds (by linarith)
  obtain ⟨cut, hamount, -⟩ :=
    Decimal.ofUnits_of_lt (Decimal.toUnits_eq_ok.1 h.toUnits).2.2 (f.assets.decimalsIn .delever)
  obtain ⟨hcut0, -, hcuthi⟩ := cut_near h.toUnits hamount hc.le
  obtain ⟨value, hvalue, hround⟩ := h.exists_value hcut0 hcuthi
  obtain ⟨-, hvaluehi⟩ := hround.within (mul_nonneg hcut0 hc.le) (hcuthi.trans hsize)
  -- three times the debt is a decimal, and worth more than what is sold
  obtain ⟨most, hmost, hthree⟩ := Decimal.ofUnits_of_lt hrange f.assets.borrowDecimals
  have hmostworth : most.toRat * p.borrow.toRat = 3 * worth := by
    rw [hthree, hworth]
    unfold Balances.owed Book.balances Prices.perBorrow
    push_cast
    ring
  have hsmall : e + (2 * worth + e + 1) / 10 ^ maxScale ≤ p.dust worth := by
    calc e + (2 * worth + e + 1) / 10 ^ maxScale
        = (14 * worth + 5 * p.collateral.toRat + 8 + (2 * worth + e + 1)) / 10 ^ maxScale := by
          rw [he]
          ring
      _ ≤ p.dust worth := div_le_div_of_nonneg_right (by linarith) (by positivity)
  have hvaluemost : value.toRat ≤ most.toRat * p.borrow.toRat := by linarith
  obtain ⟨out, hquote, hout0, houthi⟩ :=
    Venue.quote_of_worth hfee hcut0 hc.le hb hvalue hvaluemost
  obtain ⟨units, -, hunits⟩ := Decimal.toUnits_of_le hout0 (toUnits_of_ofUnits hmost) houthi
  refine ⟨out, units, Venue.offer_eq_ok.2 ⟨cut, ?_, hquote, ?_⟩⟩
  · rw [h.direction]
    exact hamount
  · rw [h.direction]
    exact hunits

end Sale

/-! ### The call -/

/-- The call reports a chunk, and no debt is left. -/
def Repays (f : Fund) (c : Call) : Prop :=
  (∃ r, (f.call c).2 = .ok (.report r)) ∧ (f.call c).1.ledger.book.debt = 0

section Call

variable {f : Fund} {t : Trade} {c : Call} {o : Order} {caller : Address} {venue : String}

/-- A call fails as its venue does. -/
lemma call_of_unfilled {e : Failure} (ht : f.tradeOf? c = some t)
    (ho : t.plan.order f.assets t.listing.terms = .ok o)
    (h : t.listing.venue.answer f.feeds o = .error e) : f.call c = f.fail e := by
  have hfill : t.fill f.assets f.feeds = .error e := by
    unfold Trade.fill
    rw [ho, lift_ok, ok_bind, h]
    rfl
  rw [call_eq_conclude ht, hfill]
  rfl

/-- A call that has decided on a chunk after which nothing is to follow has decided on the last
sale. -/
lemma unwinds_of_chunk {v : Venue}
    (ht : (f.tradeOf? (.disengage caller venue)).map (·.chunk.chunked) = some false)
    (hv : (f.strategy.venues.find? venue).map (·.venue) = some v) :
    ∃ t, f.tradeOf? (.disengage caller venue) = some t ∧ f.Unwinds t ∧ t.listing.venue = v := by
  obtain ⟨t, ht, hlast⟩ := Option.map_eq_some_iff.1 ht
  have hd : f.DisengageGrounds caller venue t := decides_of_tradeOf? ht
  rw [hd.listed] at hv
  exact ⟨t, ht, hd.unwinds hlast, Option.some.inj hv⟩

end Call

section Paper

variable {f : Fund} {t : Trade} {p : Prices} {o : Order} {caller : Address} {venue name : String}
  {fee : Decimal} (h : f.SellsOut t p o) (ht : f.tradeOf? (.disengage caller venue) = some t)
  (hanswer : t.listing.venue.answer f.feeds o
    = Venue.fill name fee f.assets p.collateral p.borrow o)

include h ht

/-- The debt is repaid just if the venue pays no less and the ledger takes it. -/
lemma SellsOut.repays_iff_takes :
    f.Repays (.disengage caller venue) ↔
      ∃ units < bound, f.Takes o (t.listing.venue.answer f.feeds o) units := by
  constructor
  · rintro ⟨⟨r, hr⟩, -⟩
    obtain ⟨t', ⟨o', units⟩, l, hx⟩ := executes_of_report hr rfl
    obtain rfl : t = t' := Option.some.inj (ht.symm.trans hx.decided)
    obtain rfl : o = o' := Except.ok.inj (h.order.symm.trans (Trade.fill_eq_ok hx.enters.fill).1)
    exact ⟨units, hx.small, (enters_iff h.order).1 ⟨l, hx.enters⟩⟩
  · rintro ⟨units, hlt, htakes⟩
    obtain ⟨l, hx⟩ := (enters_iff h.order).2 htakes
    obtain ⟨collateral, borrow, -, hsettle⟩ := settle_of_lt hx hlt
    refine ⟨⟨(f.settled t l).report t collateral borrow, ?_⟩, ?_⟩
    · rw [call_of_tradeOf? ht, hsettle]
      rfl
    · exact ((call_amounts_of_enters ht hx).repays h.direction (h.minOut ▸ htakes.2.1)).1

include hanswer

/-- On paper, the debt is repaid just if the offer covers it and the ledger takes it. -/
lemma SellsOut.repays_iff :
    f.Repays (.disengage caller venue) ↔
      ∃ out units, Venue.offer name fee f.assets p.collateral p.borrow o = .ok (out, units) ∧
        f.ledger.book.debt ≤ units ∧ ∃ l, f.ledger.commit .delever o.amountIn units = .ok l := by
  rw [h.repays_iff_takes ht, hanswer]
  unfold Takes
  rw [h.minOut, h.direction]
  constructor
  · rintro ⟨units, -, hpaid, hcovers, hl⟩
    obtain ⟨out, hoffer, -⟩ := Venue.fill_eq_ok.1 hpaid
    exact ⟨out, units, hoffer, hcovers, hl⟩
  · rintro ⟨out, units, hoffer, hcovers, hl⟩
    exact ⟨units, Venue.units_lt_bound hoffer,
      Venue.fill_eq_ok.2 ⟨out, hoffer, h.minOut.trans_le hcovers⟩, hcovers, hl⟩

/-- An offer that falls short of the debt is refused for slippage. -/
lemma SellsOut.call_of_short {out : Decimal} {units : ℕ}
    (hoffer : Venue.offer name fee f.assets p.collateral p.borrow o = .ok (out, units))
    (hshort : units < f.ledger.book.debt) :
    f.call (.disengage caller venue)
      = (f, .error (.refused (.slippageExceeded name t.position.debtUnits out))) := by
  refine call_of_unfilled ht h.order (hanswer.trans (Venue.fill_slips_iff.2 ?_))
  refine ⟨rfl, units, hoffer, h.minOut.symm ▸ hshort, ?_⟩
  rw [h.minOut, h.direction]
  exact h.position.debtUnits

/-- Where the venue can make no offer, the call fails as the offer does. -/
lemma SellsOut.call_of_no_offer {e : Failure}
    (hoffer : Venue.offer name fee f.assets p.collateral p.borrow o = .error e) :
    f.call (.disengage caller venue) = f.fail e := by
  refine call_of_unfilled ht h.order (hanswer.trans ?_)
  rw [Venue.fill_eq, hoffer]
  rfl

/-- What the fee leaves of the sale falls short of the debt, so nothing is repaid. -/
lemma SellsOut.not_repays (hfee : fee.IsFraction)
    (hshort : (1 + f.strategy.settings.execution.slippage.toRat) * (1 - fee.toRat)
        * f.ledger.book.balances.owed p f.assets + p.dust (f.ledger.book.balances.owed p f.assets)
      < f.ledger.book.balances.owed p f.assets) :
    ¬ f.Repays (.disengage caller venue) := by
  intro hrepays
  obtain ⟨out, units, hoffer, hcovers, -⟩ := (h.repays_iff ht hanswer).1 hrepays
  obtain ⟨-, hhi⟩ := h.offer_near hfee hoffer
  have hpaid := (Venue.le_units_iff hoffer h.direction h.borrowPrice).1 hcovers
  exact absurd hpaid (not_le.2 (hhi.trans_lt hshort))

/-- What the fee leaves of the sale covers the debt and a native unit of the collateral, so the debt
is repaid. -/
lemma SellsOut.repays (hfee : fee.IsFraction)
    (hmargin : f.ledger.book.balances.owed p f.assets + p.perCollateral f.assets
        + p.dust (f.ledger.book.balances.owed p f.assets)
      ≤ (1 + f.strategy.settings.execution.slippage.toRat) * (1 - fee.toRat)
        * f.ledger.book.balances.owed p f.assets)
    (hrange : 3 * f.ledger.book.debt < bound) (hcommit : f.ledger.outage.commit = none)
    (hidle : f.ledger.book.idle + bound ≤ Book.capacity) :
    f.Repays (.disengage caller venue) := by
  obtain ⟨hworth0, -⟩ := h.worth_le
  obtain ⟨hs0, hs1⟩ := h.sound.slippage_isFraction.bounds
  obtain ⟨hfee0, hfee1⟩ := hfee.bounds
  have hper : 0 ≤ p.perCollateral f.assets := div_nonneg h.collateralPrice.le (by positivity)
  have htwice : (1 + f.strategy.settings.execution.slippage.toRat) * (1 - fee.toRat) ≤ 2 :=
    (mul_le_of_le_one_right (by linarith) (by linarith)).trans (by linarith)
  have hleft := mul_le_mul_of_nonneg_right htwice hworth0
  obtain ⟨out, units, hoffer⟩ := h.exists_offer hfee (by linarith) hrange
  obtain ⟨hlo, -⟩ := h.offer_near hfee hoffer
  have hpaid : f.ledger.book.balances.owed p f.assets ≤ out.toRat * p.borrow.toRat := by linarith
  have hcovers := (Venue.le_units_iff hoffer h.direction h.borrowPrice).2 hpaid
  refine (h.repays_iff ht hanswer).2 ⟨out, units, hoffer, hcovers, ?_⟩
  refine Ledger.commit_of_held hcommit h.held ?_
  exact (Nat.add_lt_add_left (Venue.units_lt_bound hoffer) _).trans_le hidle

end Paper

/-- **When the last sale of an unwinding goes through on paper.**  Take a sale that is to repay the
whole debt, and a venue at the same prices whose fee is within the tolerance.  The call succeeds and
leaves no debt just if the venue's offer for what is sold covers the debt, to the native unit, and
the ledger takes it; an offer that falls short is refused for slippage, and nothing has happened.
What is sold is worth one plus the tolerance times the debt, and the fee leaves some part of it.
Where that is less than the debt, as it is at a fee as high as the tolerance, the offer falls short;
where it exceeds the debt by a native unit of the collateral, the offer covers the debt.  Both hold
up to some dust. -/
theorem last_sale_repays_iff {f : Fund} (hf : f.Reachable) {caller : Address}
    {venue name : String} {bps : UInt32} {t : Trade}
    (ht : f.tradeOf? (.disengage caller venue) = some t) (hu : f.Unwinds t)
    (hpaper : t.listing.venue.answer = (Venue.paper name f.assets bps).answer)
    (hle : Decimal.ofBasisPoints bps ≤ f.strategy.settings.execution.slippage) :
    let c := Call.disengage caller venue
    let debt := f.ledger.book.debt
    let fee := Decimal.ofBasisPoints bps
    ∃ p o, f.feeds.prices f.assets f.now = .ok p ∧ f.Sends c venue t o ∧
      o.direction = .delever ∧ o.minOut = debt ∧
      let worth := debt * p.perBorrow f.assets
      let left := (1 + f.strategy.settings.execution.slippage.toRat) * (1 - fee.toRat) * worth
      let offered := Venue.offer name fee f.assets p.collateral p.borrow o
      (f.Repays c ↔ ∃ out units, offered = .ok (out, units) ∧ debt ≤ units ∧
        ∃ l, f.ledger.commit .delever o.amountIn units = .ok l) ∧
      (∀ out units, offered = .ok (out, units) → units < debt →
        f.call c = (f, .error (.refused (.slippageExceeded name t.position.debtUnits out)))) ∧
      (∀ e, offered = .error e → f.call c = f.fail e) ∧
      (left + p.dust worth < worth → ¬ f.Repays c) ∧
      (worth + p.perCollateral f.assets + p.dust worth ≤ left → 3 * debt < bound →
        f.ledger.outage.commit = none → f.ledger.book.idle + bound ≤ Book.capacity →
        f.Repays c) := by
  intro c debt fee
  have hs := hf.sound
  have ht' : f.tradeOf? (TradeKind.disengage.call caller venue) = some t := ht
  obtain ⟨p, hprices, hposition⟩ := derives_of_position (grounds_of_call ht').position
  obtain ⟨hc, hb⟩ := Feeds.prices_pos hprices
  obtain ⟨o, h⟩ := hu.exists_sellsOut hs hposition hc hb
  have hfee : fee.IsFraction := Venue.fee_isFraction hs.slippage_isFraction hle
  have hanswer : t.listing.venue.answer f.feeds o
      = Venue.fill name fee f.assets p.collateral p.borrow o := by
    rw [hpaper, Venue.paper_answer_eq hprices, h.direction]
    rfl
  refine ⟨p, o, hprices, sends_of_order ht' h.order, h.direction, h.minOut, ?_⟩
  refine ⟨h.repays_iff ht hanswer, ?_, ?_, ?_, ?_⟩
  · intro out units hoffer hshort
    exact h.call_of_short ht hanswer hoffer hshort
  · intro e hoffer
    exact h.call_of_no_offer ht hanswer hoffer
  · exact h.not_repays ht hanswer hfee
  · exact h.repays ht hanswer hfee

namespace Trial

/-- The levered fund after the first chunk of its unwinding, with a venue on paper for the rest. -/
def leaving (bps : UInt32) : Fund :=
  unwinding.after [.call (.addVenue operator "paper" (Venue.paper "paper" assets bps) terms)]

theorem leaving_reachable (bps : UInt32) : (leaving bps).Reachable :=
  (levered_reachable.step (.call _)).after _

end Trial

/-- **The last sale may be refused at a fee within the tolerance.**  The fund owes 6.01 and sells
6.1302 tokens at the same price, cut to 6.13; less two in a hundred, that is 6.0074. -/
theorem last_sale_slips :
    let f := Trial.leaving 200
    let c := Call.disengage Trial.operator "paper"
    f.Reachable ∧
      (∃ t, f.tradeOf? c = some t ∧ f.Unwinds t ∧
        t.listing.venue = Venue.paper "paper" f.assets 200) ∧
      Decimal.ofBasisPoints 200 ≤ f.strategy.settings.execution.slippage ∧
      (f.call c).2 = .error (.refused (.slippageExceeded "paper" (Trial.number 601 2)
        ⟨false, 60074, 4, by decide, by decide⟩)) ∧
      (f.call c).1.ledger.book.debt = 601 := by
  refine ⟨Trial.leaving_reachable 200, unwinds_of_chunk ?_ rfl, ?_, ?_, ?_⟩
  · decide +kernel
  · decide +kernel
  · rfl
  · decide +kernel

/-- A fee of one in a hundred is low enough. -/
theorem last_sale_repays_iff_leaving :
    (Trial.leaving 100).Repays (.disengage Trial.operator "paper") := by
  have hf := Trial.leaving_reachable 100
  have hlast : ((Trial.leaving 100).tradeOf? (.disengage Trial.operator "paper")).map
      (·.chunk.chunked) = some false := by decide +kernel
  have hle : Decimal.ofBasisPoints 100
      ≤ (Trial.leaving 100).strategy.settings.execution.slippage := by decide +kernel
  have hprices : ((Trial.leaving 100).feeds.prices (Trial.leaving 100).assets
      (Trial.leaving 100).now).toOption = some ⟨Trial.decimal 100 2, Trial.decimal 100 2⟩ := by
    decide +kernel
  obtain ⟨t, ht, hu, hvenue⟩ := unwinds_of_chunk hlast rfl
  obtain ⟨p, o, hp, -, -, -, -, -, -, -, hrepays⟩ :=
    last_sale_repays_iff hf ht hu (congrArg Venue.answer hvenue) hle
  obtain rfl : p = ⟨Trial.decimal 100 2, Trial.decimal 100 2⟩ :=
    Except.ok.inj (hp.symm.trans (toOption_eq_some.1 hprices))
  refine hrepays ?_ ?_ ?_ ?_
  all_goals decide +kernel

end Fund

end LeverageKeeper
