import LeverageKeeper.Proofs.Fund.OrderCost
import LeverageKeeper.Proofs.Fund.Plans

/-!
What a ripcord does to the leverage ratio.  It sells collateral for whatever its venue pays, above
a minimum that only the tolerance for emergencies bounds.  So the ratio may rise: the exact one
falls or stays just if some collateral is left and the fill covers its part of the debt.  As long as
the ratio is no higher than one over the tolerance, a native unit more than the minimum covers it,
and so does the minimum if it is not cut to native units.  The computed ratio follows the exact one
where no value is rounded.
-/

namespace LeverageKeeper

open Decimal (maxScale)

lemma Book.SameAmounts.balances_eq {k k' : Book} (h : k.SameAmounts k') :
    k'.balances = k.balances := by
  unfold Book.balances
  rw [h.1, h.2.1]

namespace Fund

/-- The call sells collateral on the venue at the given prices, by the order of its trade, and the
book follows the fill. -/
structure Sells (f : Fund) (c : Call) (venue : String) (p : Prices) (t : Trade) (o : Order)
    (received : ℕ) : Prop where
  prices : f.feeds.prices f.assets f.now = .ok p
  sends : f.Sends c venue t o
  answer : t.listing.venue.answer f.feeds o = .ok received
  direction : o.direction = .delever
  accepted : o.minOut ≤ received
  held : o.amountIn ≤ f.ledger.book.collateral
  after : (f.call c).1.ledger.book.balances
    = f.ledger.book.balances.afterSale o.amountIn received

section

variable {f : Fund} {caller : Address} {venue : String} {t : Trade} {x : Fill} {l : Ledger}
  {r : Report} {p : Prices}

/-- What a ripcord that goes through sells, and the position that it starts from. -/
lemma Executes.sells (h : f.Executes (.ripcord caller venue) t x l r) :
    ∃ p, f.Sells (.ripcord caller venue) venue p t x.order x.received ∧
      f.ledger.book.balances.Derives p f.assets t.position := by
  have ht : f.tradeOf? (TradeKind.ripcord.call caller venue) = some t := h.decided
  have hd : f.RipcordGrounds venue t := decides_of_tradeOf? h.decided
  obtain ⟨p, hp, hposition⟩ := derives_of_position hd.position
  obtain ⟨ho, hanswer, hmin⟩ := Trade.fill_eq_ok h.enters.fill
  have hsends : f.Sends (.ripcord caller venue) venue t x.order := sends_of_order ht ho
  have hdirection : x.order.direction = .delever :=
    hsends.direction.trans hd.prepared.direction_eq
  have hbooks := call_amounts_of_enters h.decided h.enters
  unfold Book.Books at hbooks
  rw [hdirection] at hbooks
  obtain ⟨hheld, hcollateral, hdebt, -⟩ := hbooks
  refine ⟨p, ⟨hp, hsends, hanswer, hdirection, hmin, hheld, ?_⟩, hposition⟩
  unfold Book.balances
  rw [hcollateral, hdebt]
  rfl

lemma leverageAt_eq_some {ratio : Decimal} (h : f.leverageAt p = some ratio) :
    ∃ y, f.ledger.book.balances.position p f.assets = .ok y ∧ y.leverage = ratio := by
  unfold leverageAt at h
  obtain ⟨y, hy, rfl⟩ := Option.map_eq_some_iff.1 h
  obtain ⟨b, hb, hy⟩ := bind_eq_ok.1 (toOption_eq_some.1 hy)
  rw [Ledger.balances_eq_ok (lift_eq_ok.1 hb)] at hy
  exact ⟨y, hy, rfl⟩

/-- What the order of a planned sale covers by its minimum.  Where nothing is rounded on the way to
the plan, the minimum and one native unit more do as long as the ratio is no higher than one over
the tolerance, and the minimum alone if the order asks for all that the plan does.  Otherwise the
minimum and one unit do if the ratio leaves room for some dust as well. -/
lemma PlansChunk.covers {c : Call} {o : Order} {before : ℚ} (h : f.PlansChunk c t) (hs : f.Sound)
    (hprices : f.feeds.prices f.assets f.now = .ok p) (hp : t.position.prices = p)
    (ho : t.plan.order f.assets t.listing.terms = .ok o) (hd : o.direction = .delever)
    (hbefore : f.ledger.book.balances.ratio? p f.assets = some before) :
    let b := f.ledger.book.balances
    let s := (f.slippageFor c).toRat
    let sold := o.amountIn * p.perCollateral f.assets
    (Plan.Unrounded .delever t.chunk.notional p (f.slippageFor c) → s * before ≤ 1 →
        b.Covers o.amountIn (o.minOut + 1) ∧
        (t.plan.minOut.toRat = o.minOut / 10 ^ Nat.min f.assets.borrowDecimals maxScale →
          b.Covers o.amountIn o.minOut)) ∧
      ((s * sold + p.dust (t.chunk.notional.toRat * p.collateral.toRat)) * before ≤ sold →
        b.Covers o.amountIn (o.minOut + 1)) := by
  intro b s sold
  obtain ⟨hc, hb⟩ := Feeds.prices_pos hprices
  obtain ⟨hper, hper'⟩ := Feeds.perUnit_pos hprices
  have hslippage := hs.slippageFor_isFraction c
  have hplan := h.plan
  rw [hp, ← (Plan.order_eq_ok ho).1, hd] at hplan
  have hsold : 0 ≤ sold := mul_nonneg (Nat.cast_nonneg _) hper.le
  constructor
  · intro hu hratio
    have hlost : (s * sold + 0) * before ≤ sold := by
      have hpart := mul_le_mul_of_nonneg_right hratio hsold
      linarith
    constructor
    · have hkept := Plan.order_kept_le_succ hplan ho hslippage hc hb hu
      rw [Prices.perIn_delever, Prices.perOut_delever] at hkept
      exact Balances.covers_of_tolerance hper hper' hbefore hlost (by rwa [add_zero])
    · intro hwhole
      have hkept := Plan.order_kept_le hplan ho hslippage hc hb hu
      have hworth : t.plan.minOut.toRat * p.borrow.toRat = o.minOut * p.perBorrow f.assets := by
        rw [hwhole]
        unfold Prices.perBorrow
        ring
      rw [Prices.perIn_delever, Prices.outward, hworth] at hkept
      exact Balances.covers_of_tolerance hper hper' hbefore hlost (by rwa [add_zero])
  · intro hratio
    obtain ⟨-, -, hin⟩ := Plan.ofChunk_eq_ok hplan
    have hin : t.plan.amountIn = t.chunk.notional := hin
    obtain ⟨-, -, hunits, -⟩ := Plan.order_eq_ok ho
    have hn : 0 ≤ t.chunk.notional.toRat := hin ▸ (Decimal.toUnits_eq_ok.1 hunits).1
    have hkept := Plan.order_kept_near hplan ho hslippage hc hb hn
    rw [Prices.perIn_delever, Prices.perOut_delever] at hkept
    exact Balances.covers_of_tolerance hper hper' hbefore hratio hkept

/-- The ratio reported for the time after the trade is that of the book after the call. -/
lemma Executes.leverageAfter_eq {c : Call} (h : f.Executes c t x l r) {ratio : Decimal}
    (hr : r.leverageAfter = some ratio) :
    ∃ y, (f.call c).1.ledger.book.balances.position t.position.prices f.assets = .ok y ∧
      y.leverage = ratio := by
  obtain ⟨_, _, -, rfl⟩ := h.report_eq
  have hsame : (f.call c).1.ledger.book.balances = (f.settled t l).ledger.book.balances := by
    rw [h.call_eq]
    exact (finish_amounts _).balances_eq
  rw [hsame]
  exact leverageAt_eq_some hr

/-- A ripcord that reports a trade is a rescue. -/
lemma rescue_of_reported (h : (f.call (.ripcord caller venue)).2.toOption.bind reportOf? = some r) :
    ∃ x, (f.call (.ripcord caller venue)).2 = .ok (.rescue x) ∧ x.report = r := by
  obtain ⟨_, _, _, hx⟩ := executes_of_reported h
  exact ⟨_, congrArg Prod.snd hx.call_eq, rfl⟩

end

/-- **When a ripcord lowers the leverage ratio.**  At the prices at which it is decided, the exact
ratio after the ripcord is no higher than before just if some collateral is left and the fill covers
its part of the debt.  The settings see to that, up to a native unit: as long as the ratio is no
higher than one over the tolerance and nothing is rounded on the way to the plan, every fill covers
it that is a native unit above the minimum; and every fill that is accepted does if the minimum is
not cut to native units.  Where values are rounded there has to be room for the dust as well.  The
ratio reported for the time after is computed from the book; where no value is rounded, it is no
higher than the one before if the exact one is not. -/
theorem ripcord_ratio_le_iff {f : Fund} {caller : Address} {venue : String} {x : Rescue}
    (h : (f.call (.ripcord caller venue)).2 = .ok (.rescue x)) :
    let b := f.ledger.book.balances
    let b' := (f.call (.ripcord caller venue)).1.ledger.book.balances
    let slippage := f.strategy.settings.incentive.slippage
    ∃ p t o received before, f.Sells (.ripcord caller venue) venue p t o received ∧
      f.PlansChunk (.ripcord caller venue) t ∧
      b.ratio? p f.assets = some before ∧
      ((∃ after, b'.ratio? p f.assets = some after ∧ after ≤ before) ↔
        o.amountIn < b.collateral ∧ b.Covers o.amountIn received) ∧
      (∀ n ≤ received, b.Covers o.amountIn n → b.Covers o.amountIn received) ∧
      (f.Reachable →
        (Plan.Unrounded .delever t.chunk.notional p slippage → slippage.toRat * before ≤ 1 →
          b.Covers o.amountIn (o.minOut + 1) ∧
          (t.plan.minOut.toRat = o.minOut / 10 ^ Nat.min f.assets.borrowDecimals maxScale →
            b.Covers o.amountIn o.minOut)) ∧
        let sold := o.amountIn * p.perCollateral f.assets
        let worth := t.chunk.notional.toRat * p.collateral.toRat
        (slippage.toRat * sold + p.dust worth) * before ≤ sold →
          b.Covers o.amountIn (o.minOut + 1)) ∧
      (∀ ratio, x.report.leverageAfter = some ratio →
        ∃ y, b'.position p f.assets = .ok y ∧ y.leverage = ratio) ∧
      (b.Exact p f.assets → b'.Exact p f.assets → o.amountIn < b.collateral →
        b.Covers o.amountIn received →
          ∃ y, b'.position p f.assets = .ok y ∧ y.leverage ≤ x.report.leverageBefore) := by
  intro b b' slippage
  obtain ⟨t, fill, l, hx⟩ := executes_of_report h rfl
  obtain ⟨p, hsells, hposition⟩ := hx.sells
  have hd : f.RipcordGrounds venue t := decides_of_tradeOf? hx.decided
  have hplans : f.PlansChunk (.ripcord caller venue) t := Prepared.plansChunk hd.prepared
  obtain ⟨hc, hb⟩ := Feeds.perUnit_pos hsells.prices
  obtain ⟨before, hbefore⟩ := hposition.exists_ratio
  have hafter : b' = b.afterSale fill.order.amountIn fill.received := hsells.after
  refine ⟨p, t, fill.order, fill.received, before, hsells, hplans, hbefore, ?_, ?_, ?_, ?_, ?_⟩
  · rw [hafter]
    exact Balances.ratio?_afterSale hc hb hsells.held hbefore
  · intro n hn hcovers
    exact hcovers.mono hn
  · intro hf
    exact hplans.covers hf.sound hsells.prices hposition.prices hsells.sends.order
      hsells.direction hbefore
  · intro ratio hr
    rw [← hposition.prices]
    exact hx.leverageAfter_eq hr
  · intro he he' hsold hcovers
    have hreport : x.report.leverageBefore = t.position.leverage := by
      obtain ⟨_, _, -, hreport⟩ := hx.report_eq
      rw [hreport]
      rfl
    rw [hafter] at he' ⊢
    rw [hreport]
    exact hposition.leverage_afterSale hc hb he he' hsold hcovers

namespace Trial

/-- The levered fund in an emergency holds 388.2 and owes 300. -/
lemma exact_before :
    Balances.Exact ⟨129400, 30000⟩ ⟨decimal 30 2, decimal 100 2⟩ assets := by
  refine ⟨⟨⟨false, 3882, 1, by decide, by decide⟩, ?_⟩, ⟨decimal 300 0, ?_⟩,
    ⟨decimal 882 1, ?_⟩⟩
  all_goals
    norm_num [Decimal.toRat_eq, Decimal.coeff, Balances.held, Balances.owed,
      Prices.perCollateral, Prices.perBorrow, decimal, assets]

/-- Its ratio is 388.2 over 88.2. -/
lemma ratio_before {before : ℚ}
    (h : Balances.ratio? ⟨129400, 30000⟩ ⟨decimal 30 2, decimal 100 2⟩ assets = some before) :
    before = 3882 / 882 := by
  rw [(Balances.ratio?_eq_some.1 h).2]
  norm_num [Balances.held, Balances.owed, Prices.perCollateral, Prices.perBorrow,
    Decimal.toRat_eq, Decimal.coeff, decimal, assets]

/-- After its ripcord it holds 333.336 and owes 247.88. -/
lemma exact_after :
    Balances.Exact ⟨111112, 24788⟩ ⟨decimal 30 2, decimal 100 2⟩ assets := by
  refine ⟨⟨⟨false, 333336, 3, by decide, by decide⟩, ?_⟩,
    ⟨⟨false, 24788, 2, by decide, by decide⟩, ?_⟩, ⟨⟨false, 85456, 3, by decide, by decide⟩, ?_⟩⟩
  all_goals
    norm_num [Decimal.toRat_eq, Decimal.coeff, Balances.held, Balances.owed,
      Prices.perCollateral, Prices.perBorrow, decimal, assets]

/-- A fund in an emergency, with the given tolerances, that may be left by a venue of the given cap.
The collateral's price is the given answer of its feed. -/
def endangered (ordinary emergency : Decimal) (exit : Venue) (cap : Decimal) (answer : ℤ)
    (decimals : ℕ) : Fund :=
  (fund (Venue.exact "dex")).after
    [.call (.setExecution operator { settings.execution with slippage := ordinary }),
      .call (.setIncentive operator { settings.incentive with slippage := emergency }),
      .call (.engage operator "dex"),
      .call (.addVenue operator "exit" exit { terms with cap := cap, incentivizedCap := cap }),
      .event (.setTime 1800),
      .event (.setReading assets.collateralFeed ⟨answer, decimals, 1800⟩),
      .event (.setReading assets.borrowFeed ⟨100, 2, 1800⟩)]

theorem endangered_reachable (ordinary emergency : Decimal) (exit : Venue) (cap : Decimal)
    (answer : ℤ) (decimals : ℕ) :
    (endangered ordinary emergency exit cap answer decimals).Reachable := (reachable _).after _

/-- A fund in an emergency with a venue that takes a hundred tokens at a time. -/
def parting : Fund :=
  endangered (number 2 2) (number 5 2) (Venue.exact "exit") (number 100 0) 30 2

theorem parting_reachable : parting.Reachable := endangered_reachable _ _ _ _ _ _

/-- It is planned without rounding that 100 tokens at 0.30 are sold within five in a hundred. -/
lemma parting_unrounded :
    Plan.Unrounded .delever (number 100 0) ⟨decimal 30 2, decimal 100 2⟩ (number 5 2) := by
  refine ⟨⟨⟨number 30 0, ?_⟩, ⟨number 30 0, ?_⟩⟩, ⟨number 285 1, ?_⟩⟩
  all_goals norm_num [Decimal.toRat_eq, Decimal.coeff, number, decimal]

end Trial

/-- Two ripcords.  The balances of the first are not rounded, before or after: it sells 182.88
tokens at 0.30 for 52.12, and the ratio falls.  Its plan is rounded, but at a ratio of 4.4 there is
room enough for the minimum and a cent more to cover the sale.  The second sells 100 tokens for at
least 28.50; this is planned without rounding, and covers them to the cent. -/
theorem ripcord_ratio_le_iff_inDanger :
    (∃ t o x y, ((Trial.inDanger 1800).call (.ripcord Trial.operator "dex")).2 = .ok (.rescue x) ∧
      (Trial.inDanger 1800).Sends (.ripcord Trial.operator "dex") "dex" t o ∧
      Balances.Covers ⟨129400, 30000⟩ o.amountIn (o.minOut + 1) ∧
      Balances.position ⟨111112, 24788⟩ ⟨Trial.decimal 30 2, Trial.decimal 100 2⟩ Trial.assets
        = .ok y ∧
      y.leverage ≤ x.report.leverageBefore) ∧
    ∃ t o x, (Trial.parting.call (.ripcord Trial.operator "exit")).2 = .ok (.rescue x) ∧
      Trial.parting.Sends (.ripcord Trial.operator "exit") "exit" t o ∧
      Balances.Covers ⟨129400, 30000⟩ o.amountIn o.minOut := by
  constructor
  · have hreport : (((Trial.inDanger 1800).call (.ripcord Trial.operator "dex")).2.toOption.bind
        reportOf?).isSome = true := by decide +kernel
    have hprices : ((Trial.inDanger 1800).feeds.prices (Trial.inDanger 1800).assets
        (Trial.inDanger 1800).now).toOption
          = some ⟨Trial.decimal 30 2, Trial.decimal 100 2⟩ := by decide +kernel
    have hbefore : (Trial.inDanger 1800).ledger.book.balances = ⟨129400, 30000⟩ := by
      decide +kernel
    have hafter :
        ((Trial.inDanger 1800).call (.ripcord Trial.operator "dex")).1.ledger.book.balances
          = ⟨111112, 24788⟩ := by decide +kernel
    have hchunk : ((Trial.inDanger 1800).tradeOf? (.ripcord Trial.operator "dex")).map
        (·.chunk.notional)
          = some ⟨false, 18288888888888888888888888889, 26, by decide, by decide⟩ := by
      decide +kernel
    have hslippage : (Trial.inDanger 1800).strategy.settings.incentive.slippage
        = Trial.decimal 5 2 := by decide +kernel
    obtain ⟨r, hr⟩ := Option.isSome_iff_exists.1 hreport
    obtain ⟨x, hanswer, -⟩ := rescue_of_reported hr
    obtain ⟨p, t, o, received, before, hsells, -, hq, -, -, hkept, -, hfalls⟩ :=
      ripcord_ratio_le_iff hanswer
    obtain ⟨-, hkept⟩ := hkept (Trial.inDanger_reachable 1800)
    obtain rfl : p = ⟨Trial.decimal 30 2, Trial.decimal 100 2⟩ :=
      Except.ok.inj (hsells.prices.symm.trans (toOption_eq_some.1 hprices))
    have hassets : (Trial.inDanger 1800).assets = Trial.assets := rfl
    rw [hbefore, hassets] at hq hkept
    rw [hbefore, hafter, hassets] at hfalls
    have hsale := hsells.after
    rw [hbefore, hafter] at hsale
    obtain ⟨hsold, hrepaid⟩ := Balances.mk.inj hsale
    dsimp only at hsold hrepaid
    have hin : o.amountIn = 18288 := by omega
    have hout : received = 5212 := by omega
    rw [hsells.sends.decided] at hchunk
    have hnotional : t.chunk.notional = _ := Option.some.inj hchunk
    rw [hin, hout] at hfalls
    obtain ⟨y, hy, hle⟩ := hfalls Trial.exact_before Trial.exact_after (by decide) (by decide)
    refine ⟨t, o, x, y, hanswer, hsells.sends, hkept ?_, hy, hle⟩
    rw [hin, hnotional, Trial.ratio_before hq, hslippage]
    norm_num [Prices.dust, Prices.perCollateral, Decimal.toRat_eq, Decimal.coeff, Trial.decimal,
      Trial.assets]
  · have hreport : ((Trial.parting.call (.ripcord Trial.operator "exit")).2.toOption.bind
        reportOf?).isSome = true := by decide +kernel
    have hprices : (Trial.parting.feeds.prices Trial.parting.assets Trial.parting.now).toOption
        = some ⟨Trial.decimal 30 2, Trial.decimal 100 2⟩ := by decide +kernel
    have hbefore : Trial.parting.ledger.book.balances = ⟨129400, 30000⟩ := by decide +kernel
    have hchunk : (Trial.parting.tradeOf? (.ripcord Trial.operator "exit")).map
        (fun t => (t.chunk.notional, t.plan.minOut.toRat,
          (t.plan.order Trial.assets t.listing.terms).toOption.map (·.minOut)))
          = some (Trial.number 100 0, 57 / 2, some 2850) := by decide +kernel
    have hslippage : Trial.parting.strategy.settings.incentive.slippage = Trial.number 5 2 := by
      decide +kernel
    obtain ⟨r, hr⟩ := Option.isSome_iff_exists.1 hreport
    obtain ⟨x, hanswer, -⟩ := rescue_of_reported hr
    obtain ⟨p, t, o, received, before, hsells, -, hq, -, -, hkept, -⟩ :=
      ripcord_ratio_le_iff hanswer
    obtain ⟨hkept, -⟩ := hkept Trial.parting_reachable
    obtain rfl : p = ⟨Trial.decimal 30 2, Trial.decimal 100 2⟩ :=
      Except.ok.inj (hsells.prices.symm.trans (toOption_eq_some.1 hprices))
    have hassets : Trial.parting.assets = Trial.assets := rfl
    have ho := hsells.sends.order
    rw [hassets] at ho
    rw [hsells.sends.decided, Option.map_some, ho] at hchunk
    obtain ⟨hnotional, hrest⟩ := Prod.mk.inj (Option.some.inj hchunk)
    obtain ⟨hminimum, hunits⟩ := Prod.mk.inj hrest
    have hunits : o.minOut = 2850 := Option.some.inj hunits
    rw [hbefore, hassets] at hq hkept
    rw [Trial.ratio_before hq, hslippage, hnotional] at hkept
    refine ⟨t, o, x, hanswer, hsells.sends, (hkept Trial.parting_unrounded ?_).2 ?_⟩
    · norm_num [Decimal.toRat_eq, Decimal.coeff, Trial.number, Trial.decimal]
    · rw [hminimum, hunits]
      norm_num [Trial.assets]

/-! ### Ripcords that raise the ratio -/

/-- A ripcord on the fund goes through, and the ratio that it reports for the time after is higher
than the one before. -/
def Worsens (f : Fund) (caller : Address) (venue : String) : Prop :=
  ∃ x after, (f.call (.ripcord caller venue)).2 = .ok (.rescue x) ∧
    x.report.leverageAfter = some after ∧ x.report.leverageBefore < after

lemma worsens_of_report {f : Fund} {caller : Address} {venue : String}
    (h : ((f.call (.ripcord caller venue)).2.toOption.bind reportOf?).any
      (fun r => r.leverageAfter.any (r.leverageBefore < ·)) = true) : f.Worsens caller venue := by
  obtain ⟨r, hr, hafter⟩ := (Option.any_eq_true _ _).1 h
  obtain ⟨after, hafter, hlt⟩ := (Option.any_eq_true _ _).1 hafter
  obtain ⟨x, hx, rfl⟩ := rescue_of_reported hr
  exact ⟨x, after, hx, hafter, of_decide_eq_true hlt⟩

namespace Trial

/-- In an emergency half of the worth may be lost. -/
def tolerant : Fund :=
  endangered (number 2 2) (number 5 1) (Venue.exact "exit") (number 300 0) 30 2

/-- Nothing may be lost, but a chunk is one native unit of collateral, worth less than one of the
borrowed token. -/
def grained : Fund :=
  endangered Decimal.zero Decimal.zero (Venue.exact "exit") (number 1 2) 30 2

/-- A chunk is a twentieth of the collateral and is paid a twentieth of the debt, so that the exact
ratio stays as it is; but the price is so fine that values are rounded. -/
def rounded : Fund :=
  endangered (number 2 2) (number 23 2) (Venue.fixed "exit" 1500) (number 647 1)
    30000000000000000000000001 26

end Trial

/-- A ripcord may raise the leverage ratio: by what the tolerance lets it lose, by what is cut off
from a minimum in native units, and by rounding where the fill covers its part of the debt. -/
theorem ripcord_raises_leverage :
    (∀ f ∈ [Trial.tolerant, Trial.grained, Trial.rounded],
      f.Reachable ∧ f.Worsens Trial.operator "exit") ∧
    let b := Trial.rounded.ledger.book.balances
    (Trial.rounded.call (.ripcord Trial.operator "exit")).1.ledger.book.balances
      = b.afterSale 6470 1500 ∧ b.Covers 6470 1500 := by
  constructor
  · intro f hf
    simp only [List.mem_cons, List.not_mem_nil, or_false] at hf
    rcases hf with rfl | rfl | rfl
    · exact ⟨Trial.endangered_reachable _ _ _ _ _ _, worsens_of_report (by decide +kernel)⟩
    · exact ⟨Trial.endangered_reachable _ _ _ _ _ _, worsens_of_report (by decide +kernel)⟩
    · exact ⟨Trial.endangered_reachable _ _ _ _ _ _, worsens_of_report (by decide +kernel)⟩
  · have hbefore : Trial.rounded.ledger.book.balances = ⟨129400, 30000⟩ := by decide +kernel
    have hafter : (Trial.rounded.call (.ripcord Trial.operator "exit")).1.ledger.book.balances
        = ⟨122930, 28500⟩ := by decide +kernel
    rw [hbefore, hafter]
    exact ⟨rfl, by decide⟩

end Fund

end LeverageKeeper
