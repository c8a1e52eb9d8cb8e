import LeverageKeeper.Proofs.Fund.Dialogue
import LeverageKeeper.Proofs.Fund.Limits

/-!
What calls plan to trade.  The order of a trade is made either from the next chunk toward its
target, or, at the end of an unwinding, from the debt.  Only the second kind is reported as a last
chunk by a call that unwinds; its minimum is the debt itself, to the native unit, so no venue can
leave anything of the debt.
-/

namespace LeverageKeeper

/-- A sale that brings in no less than the debt repays all of it, and what is left lies idle. -/
lemma Book.Books.repays {k k' : Book} {o : Order} {out : ℕ} (h : k.Books o out k')
    (hd : o.direction = .delever) (hout : k.debt ≤ out) :
    k'.debt = 0 ∧ k'.idle = k.idle + (out - k.debt) := by
  unfold Book.Books at h
  rw [hd] at h
  obtain ⟨-, -, hdebt, hidle⟩ := h
  rw [Nat.min_eq_right hout] at hdebt hidle
  exact ⟨by omega, hidle⟩

namespace Fund

/-- The part of its worth that a trade of a call may lose. -/
def slippageFor (f : Fund) : Call → Decimal
  | .ripcord .. => f.strategy.settings.incentive.slippage
  | _ => f.strategy.settings.execution.slippage

lemma Sound.slippage_isFraction {f : Fund} (h : f.Sound) :
    f.strategy.settings.execution.slippage.IsFraction := by
  obtain ⟨-, he, -⟩ := Settings.valid_iff.1 h.settings
  exact (Execution.violations_eq_nil.1 he).2

lemma Sound.slippageFor_isFraction {f : Fund} (h : f.Sound) (c : Call) :
    (f.slippageFor c).IsFraction := by
  obtain ⟨-, -, hi⟩ := Settings.valid_iff.1 h.settings
  cases c with
  | ripcord caller venue => exact (Incentive.violations_eq_nil.1 hi).2.2.1
  | _ => exact h.slippage_isFraction

/-- The trade is that of the next chunk toward its target, within the limits of the call. -/
structure PlansChunk (f : Fund) (c : Call) (t : Trade) : Prop where
  chunk : ∃ k, f.nextChunk t.position t.target t.plan.direction (capFor t.listing.terms c) = .ok k ∧
    t.chunk.notional = k.notional ∧ t.chunk.total = k.total
  plan : Plan.ofChunk t.plan.direction t.chunk.notional t.position.prices (f.slippageFor c)
    = .ok t.plan

section

variable {f : Fund} {t : Trade} {c : Call} {x : Fill} {l : Ledger} {r : Report}
  {caller : Address} {venue : String}

lemma Prepared.plansChunk {d : Direction}
    (h : f.Prepared t d (capFor t.listing.terms c) (f.slippageFor c)) : f.PlansChunk c t := by
  obtain rfl := h.direction_eq
  exact ⟨⟨t.chunk, h.chunk, rfl, rfl⟩, h.plan⟩

/-- **What a call has decided to trade** is the next chunk, or else the whole debt is repaid. -/
theorem plans_of_decides (h : f.Decides t c) :
    f.PlansChunk c t ∨ t.kind = .disengage ∧ f.Unwinds t := by
  cases c with
  | engage caller venue => exact .inl (Prepared.plansChunk h.prepared)
  | rebalance caller venue => exact .inl (Prepared.plansChunk h.prepared)
  | iterate caller venue => exact .inl (Prepared.plansChunk h.prepared)
  | ripcord caller venue => exact .inl (Prepared.plansChunk h.prepared)
  | disengage caller venue =>
    rcases h.sale with hu | ⟨k, hk, hnext, hplan⟩
    · exact .inr ⟨h.kind_eq, hu⟩
    · left
      have hd : t.plan.direction = .delever := Plan.ofChunk_direction hplan
      have hn : t.chunk.notional = k.notional := by rw [hk]
      refine ⟨⟨k, ?_, hn, by rw [hk]⟩, ?_⟩
      · rw [hd, h.target_eq]
        exact hnext
      · rw [hd, hn]
        exact hplan
  | _ => exact h.elim

/-- A call that unwinds says that it is done only if it repays the whole debt. -/
lemma DisengageGrounds.unwinds (h : f.DisengageGrounds caller venue t)
    (hlast : t.chunk.chunked = false) : f.Unwinds t := by
  rcases h.sale with hu | ⟨k, hk, -⟩
  · exact hu
  · rw [hk] at hlast
    cases hlast

/-- The order of the last chunk sells collateral for at least the debt, to the native unit. -/
lemma Unwinds.order (h : f.Unwinds t) (hp : f.position = .ok t.position) {o : Order}
    (ho : t.plan.order f.assets t.listing.terms = .ok o) :
    o.direction = .delever ∧ o.minOut = f.ledger.book.debt := by
  obtain ⟨hdirection, -, -, hout⟩ := Plan.order_eq_ok ho
  obtain ⟨_, -, hposition⟩ := derives_of_position hp
  have hd : t.plan.direction = .delever := by rw [h.plan]
  have hmin : t.plan.minOut = t.position.debtUnits := by rw [h.plan]
  rw [hd, hmin] at hout
  refine ⟨hdirection.trans hd, Except.ok.inj (hout.symm.trans ?_)⟩
  exact toUnits_of_ofUnits hposition.debtUnits

end

/-- **Unwinding is complete when it says so.**  A call that unwinds leaves no trade under way.  If
it reports its chunk as the last one, it has sold collateral for no less than the debt was, to the
native unit: no debt is left, whatever the venue paid, and what it paid beyond stays idle.  So as
long as debt remains, the report says that more chunks are to follow. -/
theorem disengage_completes {f : Fund} {caller : Address} {venue : String} {r : Report}
    (h : (f.call (.disengage caller venue)).2 = .ok (.report r)) :
    let g := (f.call (.disengage caller venue)).1
    g.strategy.twap = .idle ∧
      (r.chunked = false → g.ledger.book.debt = 0 ∧
        ∃ t o received, f.Sends (.disengage caller venue) venue t o ∧ o.direction = .delever ∧
          o.minOut = f.ledger.book.debt ∧ t.listing.venue.answer f.feeds o = .ok received ∧
          g.ledger.book.idle = f.ledger.book.idle + (received - f.ledger.book.debt)) ∧
      (g.ledger.book.debt ≠ 0 → r.chunked = true) := by
  intro g
  obtain ⟨t, x, l, hx⟩ := executes_of_report h rfl
  have ht : f.tradeOf? (TradeKind.disengage.call caller venue) = some t := hx.decided
  have hd : f.DisengageGrounds caller venue t := decides_of_tradeOf? hx.decided
  obtain ⟨ho, hanswer, hmin⟩ := Trade.fill_eq_ok hx.enters.fill
  have hreport : r.chunked = t.chunk.chunked := by
    obtain ⟨_, _, -, hr⟩ := hx.report_eq
    rw [hr]
    rfl
  have hidle : g.strategy.twap = .idle := congrArg (·.1.strategy.twap) hx.call_eq
  have hlast : r.chunked = false → g.ledger.book.debt = 0 ∧
      x.order.direction = .delever ∧ x.order.minOut = f.ledger.book.debt ∧
      g.ledger.book.idle = f.ledger.book.idle + (x.received - f.ledger.book.debt) := by
    intro hr
    obtain ⟨hdirection, hdebt⟩ := (hd.unwinds (hreport.symm.trans hr)).order hd.position ho
    obtain ⟨hzero, hrest⟩ :=
      (call_amounts_of_enters hx.decided hx.enters).repays hdirection (hdebt ▸ hmin)
    exact ⟨hzero, hdirection, hdebt, hrest⟩
  refine ⟨hidle, ?_, ?_⟩
  · intro hr
    obtain ⟨hzero, hdirection, hdebt, hrest⟩ := hlast hr
    exact ⟨hzero, t, x.order, x.received, sends_of_order ht ho, hdirection, hdebt, hanswer, hrest⟩
  · intro hne
    cases hr : r.chunked with
    | true => rfl
    | false => exact absurd (hlast hr).1 hne

/-- The levered fund unwinds in two chunks: the cap leaves no room for slippage in the first, which
leaves some debt, and the second repays the rest. -/
theorem disengage_completes_levered :
    let g := (Trial.levered.call (.disengage Trial.operator "dex")).1
    (∃ r, (Trial.levered.call (.disengage Trial.operator "dex")).2 = .ok (.report r) ∧
      g.ledger.book.debt = 601 ∧ r.chunked = true) ∧
    ∃ r, (g.call (.disengage Trial.operator "dex")).2 = .ok (.report r) ∧ r.chunked = false ∧
      (g.call (.disengage Trial.operator "dex")).1.ledger.book.debt = 0 := by
  intro g
  have hfirst : ((Trial.levered.call (.disengage Trial.operator "dex")).2.toOption.bind
      reportOf?).isSome = true := by decide +kernel
  have hsecond : ((g.call (.disengage Trial.operator "dex")).2.toOption.bind
      reportOf?).map (·.chunked) = some false := by decide +kernel
  have hdebt : g.ledger.book.debt = 601 := by decide +kernel
  obtain ⟨r, hr⟩ := Option.isSome_iff_exists.1 hfirst
  obtain ⟨r', hr', hlast⟩ := Option.map_eq_some_iff.1 hsecond
  obtain ⟨_, _, _, hx⟩ := executes_of_reported hr
  obtain ⟨_, _, _, hx'⟩ := executes_of_reported hr'
  have h := congrArg Prod.snd hx.call_eq
  have h' := congrArg Prod.snd hx'.call_eq
  refine ⟨⟨r, h, hdebt, (disengage_completes h).2.2 ?_⟩, r', h', hlast,
    ((disengage_completes h').2.1 hlast).1⟩
  change g.ledger.book.debt ≠ 0
  rw [hdebt]
  decide

end Fund

end LeverageKeeper
