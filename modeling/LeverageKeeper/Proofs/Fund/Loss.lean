import LeverageKeeper.Proofs.Fund.Rescue

/-!
What a chunk may cost.  The worth of the book changes by what comes in less what goes out, so a fill
at the minimum is the worst that can happen.  Where no product and no quotient is rounded on the way
to its order, a chunk costs no more than the tolerance allows and the one native unit that the
minimum may lose.
-/

namespace LeverageKeeper

open Decimal (maxScale)

/-! ### The worth of a book -/

/-- What a book is worth at the given prices: what is held and what lies idle, less the debt. -/
def Book.worth (k : Book) (p : Prices) (a : Assets) : ℚ :=
  k.collateral * p.perCollateral a + k.idle * p.perBorrow a - k.debt * p.perBorrow a

section Worth

variable {k k' : Book} {p : Prices} {a : Assets} {o : Order} {out : ℕ}

/-- **A fill changes the worth of the book by what comes in less what goes out.** -/
theorem Book.Books.worth_eq (h : k.Books o out k') :
    k'.worth p a
      = k.worth p a + (out * p.perOut a o.direction - o.amountIn * p.perIn a o.direction) := by
  unfold Book.Books at h
  unfold Book.worth Prices.perOut Prices.perIn Prices.perCollateral Prices.perBorrow
  cases hd : o.direction with
  | lever =>
    rw [hd] at h
    obtain ⟨hdebt, hcollateral, hidle⟩ := h
    rw [hdebt, hcollateral, hidle]
    simp only [Prices.inward, Prices.outward, Assets.decimalsIn, Assets.decimalsOut]
    push_cast
    ring
  | delever =>
    rw [hd] at h
    obtain ⟨hheld, hcollateral, hdebt, hidle⟩ := h
    rw [hcollateral, hdebt, hidle]
    simp only [Prices.inward, Prices.outward, Assets.decimalsIn, Assets.decimalsOut]
    rw [Nat.cast_sub hheld, Nat.cast_sub (Nat.min_le_right out k.debt), Nat.cast_add,
      Nat.cast_sub (Nat.min_le_left out k.debt)]
    ring

end Worth

/-! ### The sale that repays a debt -/

/-- No product and no quotient is rounded on the way from a debt to the sale that repays it. -/
structure Plan.UnroundedUnwind (debt : Decimal) (p : Prices) (slippage : Decimal) : Prop where
  owed : ExactWorth debt.toRat p.borrow p.collateral
  sale : ∃ z : Decimal,
    z.toRat = debt.toRat * p.borrow.toRat / p.collateral.toRat * (1 + slippage.toRat)

/-! ### Venues that trade on paper -/

namespace Venue

variable {name : String} {a : Assets} {feeds : Feeds} {p : Prices} {now : UInt64}

/-- On paper the prices are those of the feeds, as long as these are fresh. -/
lemma spot_of_prices (name : String) (h : feeds.prices a now = .ok p) :
    spot name feeds a.collateralFeed = .ok p.collateral ∧
      spot name feeds a.borrowFeed = .ok p.borrow := by
  have fresh : ∀ {feed : Address} {r : Reading} {x : Decimal}, feeds.latest feed = .ok r →
      r.price feed now a.maxStaleness = .ok x → spot name feeds feed = .ok x := by
    intro feed r x hr hx
    unfold Reading.price at hx
    dsimp only at hx
    split at hx
    · cases hx
    · unfold spot
      rw [hr, ok_bind, orRefuse_eq_ok]
      exact orRefuse_eq_ok.1 hx
  unfold Feeds.prices at h
  simp only [bind_eq_ok, pure_eq_ok] at h
  obtain ⟨r, hr, collateral, hc, r', hr', borrow, hb, rfl⟩ := h
  exact ⟨fresh hr hc, fresh hr' hb⟩

lemma ofBasisPoints_nonneg (bps : UInt32) : 0 ≤ (Decimal.ofBasisPoints bps).toRat := by
  unfold Decimal.ofBasisPoints
  cases h : (Decimal.ofScaled? bps.toNat 0).bind fun n => n.div? (Decimal.pow10 4) with
  | none =>
    rw [Option.getD_none, Decimal.toRat_zero]
  | some fee =>
    obtain ⟨n, hn, hfee⟩ := Option.bind_eq_some_iff.1 h
    have hn0 : 0 ≤ n.toRat := by
      obtain ⟨hneg, -, -⟩ := Decimal.ofParts?_eq_some hn
      rw [Decimal.toRat_of_sign, hneg]
      simp only [decide_eq_true_eq, Int.natCast_nonneg, not_lt.2, if_false]
      positivity
    refine (Decimal.rounds_div? hfee).nonneg ?_
    rw [Decimal.toRat_pow10]
    positivity

/-- A quote is no more than the worth of what goes in. -/
lemma quote_le {fee amountIn priceIn priceOut out : Decimal} (hfee : 0 ≤ fee.toRat)
    (hin : 0 ≤ amountIn.toRat) (hp : 0 ≤ priceIn.toRat) (hp' : 0 < priceOut.toRat)
    (he : ExactWorth amountIn.toRat priceIn priceOut)
    (h : quote name fee amountIn priceIn priceOut = .ok out) :
    out.toRat * priceOut.toRat ≤ amountIn.toRat * priceIn.toRat := by
  unfold quote at h
  simp only [bind_eq_ok, lift_eq_ok, orRefuse_eq_ok] at h
  obtain ⟨gross, hgross, rest, hrest, hout⟩ := h
  have hvalue := he.eq hgross
  have hnonneg : 0 ≤ gross.toRat := by
    rw [hvalue]
    positivity
  have hle : rest.toRat ≤ Decimal.one.toRat :=
    (Decimal.rounds_minus hrest).le (by linarith)
  rw [Decimal.toRat_one] at hle
  have hout : out.toRat ≤ gross.toRat :=
    (Decimal.rounds_mul? (orCrash_eq_ok.1 hout)).le (mul_le_of_le_one_right hnonneg hle)
  rw [hvalue, le_div_iff₀ hp'] at hout
  exact hout

/-- On paper an order is filled at the price of what goes in over that of what comes out. -/
lemma paper_answer_of_spot {bps : UInt32} {o : Order}
    (hcollateral : spot name feeds a.collateralFeed = .ok p.collateral)
    (hborrow : spot name feeds a.borrowFeed = .ok p.borrow) :
    (paper name a bps).answer feeds o
      = fill name (Decimal.ofBasisPoints bps) a (p.inward o.direction) (p.outward o.direction)
          o := by
  unfold paper
  dsimp only
  cases o.direction with
  | lever =>
    rw [hborrow, hcollateral]
    rfl
  | delever =>
    rw [hborrow, hcollateral]
    rfl

lemma paper_answer_eq {bps : UInt32} {o : Order} (h : feeds.prices a now = .ok p) :
    (paper name a bps).answer feeds o
      = fill name (Decimal.ofBasisPoints bps) a (p.inward o.direction) (p.outward o.direction)
          o :=
  paper_answer_of_spot (spot_of_prices name h).1 (spot_of_prices name h).2

/-- **A fill on paper is worth no more than what goes in.** -/
theorem paper_worth_le {bps : UInt32} {o : Order} {out : ℕ} (h : feeds.prices a now = .ok p)
    (hout : (paper name a bps).answer feeds o = .ok out)
    (he : ExactWorth (o.amountIn / 10 ^ Nat.min (a.decimalsIn o.direction) maxScale)
      (p.inward o.direction) (p.outward o.direction)) :
    out * p.perOut a o.direction ≤ o.amountIn * p.perIn a o.direction := by
  obtain ⟨hc, hb⟩ := Feeds.prices_pos h
  obtain ⟨hpin, hpout⟩ := Prices.pos_of_pos hc hb o.direction
  rw [paper_answer_eq h] at hout
  unfold fill at hout
  simp only [bind_eq_ok, lift_eq_ok] at hout
  obtain ⟨amountIn, hin, quoted, hquote, units, hunits, hout⟩ := hout
  obtain rfl : units = out := by
    split at hout
    · obtain ⟨_, -, hout⟩ := bind_eq_ok.1 hout
      cases hout
    · exact Except.ok.inj hout
  obtain ⟨-, hamount⟩ := ofUnits_eq_ok hin
  rw [← hamount] at he
  have hnonneg : 0 ≤ amountIn.toRat := by
    rw [hamount]
    positivity
  calc units * p.perOut a o.direction
      ≤ quoted.toRat * (p.outward o.direction).toRat :=
        Decimal.worth_of_units_le hunits hpout.le
    _ ≤ amountIn.toRat * (p.inward o.direction).toRat :=
        quote_le (ofBasisPoints_nonneg bps) hnonneg hpin.le hpout he hquote
    _ = o.amountIn * p.perIn a o.direction := by
      unfold Prices.perIn
      rw [hamount]
      ring

end Venue

/-! ### Calls -/

namespace Fund

section

variable {f : Fund} {t : Trade} {c : Call} {p : Prices} {o : Order}

/-- The sale that repays a debt costs the tolerated part of the debt: its minimum is the debt
itself, from which nothing is cut. -/
lemma Unwinds.order_cost (h : f.Unwinds t) (hs : f.Sound) (hp : f.position = .ok t.position)
    (hprices : f.feeds.prices f.assets f.now = .ok p)
    (ho : t.plan.order f.assets t.listing.terms = .ok o)
    (hu : Plan.UnroundedUnwind t.position.debtUnits p f.strategy.settings.execution.slippage) :
    o.amountIn * p.perIn f.assets o.direction - o.minOut * p.perOut f.assets o.direction
      ≤ f.strategy.settings.execution.slippage.toRat * t.position.debtUnits.toRat
        * p.borrow.toRat := by
  obtain ⟨hc, hb⟩ := Feeds.prices_pos hprices
  obtain ⟨p', hprices', hposition⟩ := derives_of_position hp
  obtain rfl : p = p' := Except.ok.inj (hprices.symm.trans hprices')
  obtain ⟨hdirection, hmin⟩ := h.order hp ho
  obtain ⟨-, -, hin, -⟩ := Plan.order_eq_ok ho
  obtain ⟨owed, howed, hsale⟩ := h.sale
  have hd : t.plan.direction = .delever := by rw [h.plan]
  have hdebt : f.ledger.book.debt * p.perOut f.assets .delever
      = t.position.debtUnits.toRat * p.borrow.toRat := hposition.owed_eq.2.symm
  rw [hposition.prices] at howed
  have hvalue := hu.owed.eq (orRefuse_eq_ok.1 howed)
  have hamount := Sizing.maxIn_exact hsale hs.slippage_isFraction (by rw [hvalue]; exact hu.sale)
  rw [hd] at hin
  have hle : o.amountIn * p.perIn f.assets .delever
      ≤ t.plan.amountIn.toRat * p.collateral.toRat := Decimal.worth_of_units_le hin hc.le
  rw [hdirection, hmin, hdebt]
  calc o.amountIn * p.perIn f.assets .delever - t.position.debtUnits.toRat * p.borrow.toRat
      ≤ t.plan.amountIn.toRat * p.collateral.toRat
        - t.position.debtUnits.toRat * p.borrow.toRat := sub_le_sub_right hle _
    _ = _ := by
      rw [hamount, hvalue]
      field_simp
      ring

/-- The order of a chunk costs the tolerated part of what the chunk is worth, and less than a native
unit of what comes out. -/
lemma PlansChunk.order_cost (h : f.PlansChunk c t) (hs : f.Sound) (hp : t.position.prices = p)
    (hprices : f.feeds.prices f.assets f.now = .ok p)
    (ho : t.plan.order f.assets t.listing.terms = .ok o)
    (hu : Plan.Unrounded t.plan.direction t.chunk.notional p (f.slippageFor c)) :
    o.amountIn * p.perIn f.assets o.direction - o.minOut * p.perOut f.assets o.direction
      ≤ (f.slippageFor c).toRat * t.chunk.notional.toRat * p.collateral.toRat
        + p.perOut f.assets o.direction := by
  obtain ⟨hc, hb⟩ := Feeds.prices_pos hprices
  obtain ⟨hdirection, -⟩ := Plan.order_eq_ok ho
  have hplan := h.plan
  rw [hp] at hplan
  have hcost := Plan.cost_of_unrounded hplan (hs.slippageFor_isFraction c) hb hu
  rw [hdirection, ← hcost]
  exact Plan.order_cost ho hc hb

end

/-- **What a chunk may cost.**  Take the worth of the book at the prices of the call, before and
after a chunk that a call reports.  Where nothing is rounded on the way to its order, a chunk toward
a target lowers it by no more than the tolerated part of what the chunk is worth and one native unit
of what comes out; the sale that repays a whole debt, by no more than the tolerated part of the
debt.  On paper, at the same prices, it never increases. -/
theorem worth_lost_le {f : Fund} (hf : f.Reachable) {c : Call} {a : Answer} {r : Report}
    (h : (f.call c).2 = .ok a) (hr : reportOf? a = some r) :
    ∃ t x l p, f.Executes c t x l r ∧ f.feeds.prices f.assets f.now = .ok p ∧
      let before := f.ledger.book.worth p f.assets
      let after := (f.call c).1.ledger.book.worth p f.assets
      let s := f.slippageFor c
      let e := f.strategy.settings.execution.slippage
      (f.PlansChunk c t ∨ t.kind = .disengage ∧ f.Unwinds t) ∧
      (f.PlansChunk c t → Plan.Unrounded r.direction t.chunk.notional p s →
        before - after ≤ s.toRat * t.chunk.notional.toRat * p.collateral.toRat
          + p.perOut f.assets r.direction) ∧
      (f.Unwinds t → Plan.UnroundedUnwind t.position.debtUnits p e →
        before - after ≤ e.toRat * t.position.debtUnits.toRat * p.borrow.toRat) ∧
      ∀ name bps, t.listing.venue.answer = (Venue.paper name f.assets bps).answer →
        ExactWorth (x.order.amountIn / 10 ^ Nat.min (f.assets.decimalsIn r.direction) maxScale)
          (p.inward r.direction) (p.outward r.direction) → after ≤ before := by
  obtain ⟨t, x, l, hx⟩ := executes_of_report h hr
  have hs := hf.sound
  have hd := decides_of_tradeOf? hx.decided
  obtain ⟨_, _, hg⟩ := grounds_of_decides hd
  obtain ⟨p, hprices, hposition⟩ := derives_of_position hg.position
  obtain ⟨hc, hb⟩ := Feeds.prices_pos hprices
  obtain ⟨ho, hanswer, hmin⟩ := Trade.fill_eq_ok hx.enters.fill
  have hdirection : r.direction = x.order.direction := by
    obtain ⟨_, _, -, hreport⟩ := hx.report_eq
    rw [hreport]
    exact (Plan.order_eq_ok ho).1.symm
  refine ⟨t, x, l, p, hx, hprices, ?_⟩
  intro before after s e
  have hworth : after = before + (x.received * p.perOut f.assets x.order.direction
      - x.order.amountIn * p.perIn f.assets x.order.direction) :=
    (call_amounts_of_enters hx.decided hx.enters).worth_eq
  -- whatever the venue pays beyond the minimum only adds to the worth
  have hlost : before - after ≤ x.order.amountIn * p.perIn f.assets x.order.direction
      - x.order.minOut * p.perOut f.assets x.order.direction := by
    have hper : 0 ≤ p.perOut f.assets x.order.direction :=
      div_nonneg (Prices.pos_of_pos hc hb x.order.direction).2.le (by positivity)
    have hpaid := mul_le_mul_of_nonneg_right (Nat.cast_le (α := ℚ).2 hmin) hper
    linarith
  refine ⟨plans_of_decides hd, ?_, ?_, ?_⟩
  · intro hchunk hu
    rw [hdirection] at hu ⊢
    rw [(Plan.order_eq_ok ho).1] at hu
    exact hlost.trans (hchunk.order_cost hs hposition.prices hprices ho hu)
  · intro hunwinds hu
    exact hlost.trans (hunwinds.order_cost hs hg.position hprices ho hu)
  · intro name bps hpaper he
    rw [hpaper] at hanswer
    rw [hdirection] at he
    have hle := Venue.paper_worth_le hprices hanswer he
    linarith

namespace Trial

/-- The levered fund after the first of two chunks of its unwinding. -/
def unwinding : Fund := (levered.call (.disengage operator "dex")).1

/-- An unlevered fund that trades on paper, for a fee of thirty basis points. -/
def papered : Fund := fund (Venue.paper "dex" assets 30)

end Trial

/-- A ripcord sells 100 tokens at 0.30 and may lose 1.50 and a unit of the borrowed token; the last
chunk of an unwinding repays 6.01 and may lose 0.1202; and a first chunk on paper loses its fee. -/
theorem worth_lost_le_trial :
    let p : Prices := ⟨Trial.decimal 30 2, Trial.decimal 100 2⟩
    let q : Prices := ⟨Trial.decimal 100 2, Trial.decimal 100 2⟩
    Trial.parting.ledger.book.worth p Trial.assets
        - (Trial.parting.call (.ripcord Trial.operator "exit")).1.ledger.book.worth p Trial.assets
        ≤ 151 / 100 ∧
      Trial.unwinding.ledger.book.worth q Trial.assets
        - (Trial.unwinding.call (.disengage Trial.operator "dex")).1.ledger.book.worth q
          Trial.assets ≤ 1202 / 10000 ∧
      (Trial.papered.call (.engage Trial.operator "dex")).1.ledger.book.worth q Trial.assets
        ≤ Trial.papered.ledger.book.worth q Trial.assets := by
  intro p q
  refine ⟨?_, ?_, ?_⟩
  · have hf : Trial.parting.Reachable := Trial.parting_reachable
    have hreport : ((Trial.parting.call (.ripcord Trial.operator "exit")).2.toOption.bind
        reportOf?).any (·.direction = .delever) = true := by decide +kernel
    have hprices : (Trial.parting.feeds.prices Trial.assets Trial.parting.now).toOption
        = some p := by decide +kernel
    have hchunk : (Trial.parting.tradeOf? (.ripcord Trial.operator "exit")).map
        (·.chunk.notional) = some (Trial.number 100 0) := by decide +kernel
    have hslippage : Trial.parting.slippageFor (.ripcord Trial.operator "exit")
        = Trial.number 5 2 := by decide +kernel
    obtain ⟨a, r, ha, hr, hdirection⟩ := reported_of_any hreport
    obtain ⟨t, x, l, p', hx, hp', -, hlost, -⟩ := worth_lost_le hf ha hr
    obtain rfl : p = p' := Except.ok.inj ((toOption_eq_some.1 hprices).symm.trans hp')
    have hd : Trial.parting.RipcordGrounds "exit" t := decides_of_tradeOf? hx.decided
    rw [hx.decided] at hchunk
    have hnotional : t.chunk.notional = Trial.number 100 0 := Option.some.inj hchunk
    have hassets : Trial.parting.assets = Trial.assets := rfl
    rw [of_decide_eq_true hdirection, hnotional, hslippage, hassets] at hlost
    refine (hlost (Prepared.plansChunk hd.prepared) Trial.parting_unrounded).trans ?_
    norm_num [p, Decimal.toRat_eq, Decimal.coeff, Prices.perOut, Prices.outward,
      Assets.decimalsOut, Trial.number, Trial.decimal, Trial.assets]
  · have hf : Trial.unwinding.Reachable := Trial.levered_reachable.step (.call _)
    have hreport : ((Trial.unwinding.call (.disengage Trial.operator "dex")).2.toOption.bind
        reportOf?).any (·.kind = .disengage) = true := by decide +kernel
    have hprices : (Trial.unwinding.feeds.prices Trial.assets Trial.unwinding.now).toOption
        = some q := by decide +kernel
    have hchunk : (Trial.unwinding.tradeOf? (.disengage Trial.operator "dex")).map
        (fun t => (t.chunk.chunked, t.position.debtUnits)) = some (false, Trial.number 601 2) := by
      decide +kernel
    have hslippage : Trial.unwinding.strategy.settings.execution.slippage = Trial.number 2 2 := by
      decide +kernel
    obtain ⟨a, r, ha, hr, -⟩ := reported_of_any hreport
    obtain ⟨t, x, l, p', hx, hp', -, -, hlost, -⟩ := worth_lost_le hf ha hr
    obtain rfl : q = p' := Except.ok.inj ((toOption_eq_some.1 hprices).symm.trans hp')
    have hd : Trial.unwinding.DisengageGrounds Trial.operator "dex" t :=
      decides_of_tradeOf? hx.decided
    rw [hx.decided] at hchunk
    obtain ⟨hlast, hdebt⟩ := Prod.mk.inj (Option.some.inj hchunk)
    have hassets : Trial.unwinding.assets = Trial.assets := rfl
    rw [hdebt, hslippage, hassets] at hlost
    refine (hlost (hd.unwinds hlast) ⟨⟨⟨Trial.number 601 2, ?_⟩, ⟨Trial.number 601 2, ?_⟩⟩,
      ⟨⟨false, 61302, 4, by decide, by decide⟩, ?_⟩⟩).trans ?_
    all_goals norm_num [q, Decimal.toRat_eq, Decimal.coeff, Trial.number, Trial.decimal]
  · have hf : Trial.papered.Reachable := Trial.reachable _
    have hreport : ((Trial.papered.call (.engage Trial.operator "dex")).2.toOption.bind
        reportOf?).any (·.direction = .lever) = true := by decide +kernel
    have hprices : (Trial.papered.feeds.prices Trial.assets Trial.papered.now).toOption
        = some q := by decide +kernel
    have horder : ((Trial.papered.tradeOf? (.engage Trial.operator "dex")).bind
        fun t => (t.plan.order Trial.assets t.listing.terms).toOption).map (·.amountIn)
        = some 30000 := by decide +kernel
    have hvenue : (Trial.papered.strategy.venues.find? "dex").map (·.venue)
        = some (Venue.paper "dex" Trial.assets 30) := rfl
    obtain ⟨a, r, ha, hr, hdirection⟩ := reported_of_any hreport
    obtain ⟨t, x, l, p', hx, hp', -, -, -, hpaper⟩ := worth_lost_le hf ha hr
    obtain rfl : q = p' := Except.ok.inj ((toOption_eq_some.1 hprices).symm.trans hp')
    have hd : Trial.papered.EngageGrounds Trial.operator "dex" t := decides_of_tradeOf? hx.decided
    have hassets : Trial.papered.assets = Trial.assets := rfl
    have ho := (Trade.fill_eq_ok hx.enters.fill).1
    rw [hassets] at ho
    rw [hx.decided, Option.bind_some, ho] at horder
    have hin : x.order.amountIn = 30000 := Option.some.inj horder
    rw [hd.listed] at hvenue
    have hanswer := congrArg Venue.answer (Option.some.inj hvenue)
    rw [of_decide_eq_true hdirection, hin, hassets] at hpaper
    refine hpaper "dex" 30 hanswer ⟨⟨Trial.number 300 0, ?_⟩, ⟨Trial.number 300 0, ?_⟩⟩
    all_goals
      norm_num [q, Decimal.toRat_eq, Decimal.coeff, Prices.inward, Prices.outward,
        Assets.decimalsIn, Trial.number, Trial.decimal, Trial.assets]

end Fund

end LeverageKeeper
