import LeverageKeeper.Proofs.Exposure
import LeverageKeeper.Proofs.Feeds
import LeverageKeeper.Proofs.Fund.Agreement
import LeverageKeeper.Proofs.Fund.Dialogue
import LeverageKeeper.Proofs.Fund.Engagement
import LeverageKeeper.Proofs.Fund.LifeCycle
import LeverageKeeper.Proofs.Fund.Limits

/-!
Which prices move a fund.  Every chunk, and every trade under way that is cleared, rests on a
position at prices that fresh readings of the two feeds say, exactly.  Without such readings, or
with a debt that is worth as much as the collateral, there is no position: every call that trades
is refused without asking its venue, whoever makes it, and so are the questions that need one.
-/

namespace LeverageKeeper

/-! ### Without a position -/

/-- The debt is worth no less than the collateral, exactly or as it is computed. -/
def Balances.Overdrawn (b : Balances) (p : Prices) (a : Assets) : Prop :=
  b.held p a ≤ b.owed p a ∨
    ∃ collateral debt held owed,
      Decimal.ofUnits b.collateral a.collateralDecimals = .ok collateral ∧
      Decimal.ofUnits b.debt a.borrowDecimals = .ok debt ∧
      collateral.mul? p.collateral = some held ∧ debt.mul? p.borrow = some owed ∧ held ≤ owed

lemma Balances.Derives.not_overdrawn {b : Balances} {p : Prices} {a : Assets} {x : Position}
    (h : b.Derives p a x) : ¬ b.Overdrawn p a := by
  rintro (hle | ⟨collateral, debt, held, owed, hc, hd, hheld, howed, hle⟩)
  · obtain ⟨q, hq⟩ := h.exists_ratio
    exact absurd (ratio?_eq_some.1 hq).1 (not_lt.2 hle)
  · obtain rfl : x.collateralUnits = collateral := Except.ok.inj (h.collateralUnits.symm.trans hc)
    obtain rfl : x.debtUnits = debt := Except.ok.inj (h.debtUnits.symm.trans hd)
    obtain rfl : x.collateralValue = held := Option.some.inj (h.collateralValue.symm.trans hheld)
    obtain rfl : x.debtValue = owed := Option.some.inj (h.debtValue.symm.trans howed)
    exact Decimal.not_lt.2 hle (leverageRatio_eq_ok h.leverage).1

namespace Fund

/-- A feed of the fund holds no valid reading, or the debt is worth no less than the collateral. -/
def Blocked (f : Fund) : Prop :=
  ¬ f.feeds.Fresh f.assets.collateralFeed f.now f.assets.maxStaleness ∨
    ¬ f.feeds.Fresh f.assets.borrowFeed f.now f.assets.maxStaleness ∨
    ∃ p, f.feeds.prices f.assets f.now = .ok p ∧ f.ledger.book.balances.Overdrawn p f.assets

/-- The fund is at the given position, at prices that valid readings of its feeds say. -/
structure FreshAt (f : Fund) (p : Position) : Prop where
  position : f.position = .ok p
  collateral : f.feeds.Quotes f.assets.collateralFeed f.now f.assets.maxStaleness p.collateralPrice
  borrow : f.feeds.Quotes f.assets.borrowFeed f.now f.assets.maxStaleness p.borrowPrice

section

variable {f : Fund} {p : Position} {kind : TradeKind} {c : Call} {caller : Address}
  {venue : String} {target current : Decimal}

theorem freshAt_of_position (h : f.position = .ok p) : f.FreshAt p := by
  obtain ⟨prices, hprices, hb⟩ := derives_of_position h
  obtain ⟨hcollateral, hborrow⟩ := Feeds.prices_eq_ok hprices
  rw [← hb.prices] at hcollateral hborrow
  exact ⟨h, hcollateral, hborrow⟩

/-- **A blocked fund has no position.** -/
theorem position_of_blocked (h : f.Blocked) (p : Position) : f.position ≠ .ok p := by
  intro hp
  obtain ⟨prices, hprices, hb⟩ := derives_of_position hp
  obtain ⟨hcollateral, hborrow⟩ := Feeds.exists_prices_iff.1 ⟨prices, hprices⟩
  rcases h with h | h | ⟨prices', hprices', hover⟩
  · exact h hcollateral
  · exact h hborrow
  · obtain rfl : prices = prices' := Except.ok.inj (hprices.symm.trans hprices')
    exact hb.not_overdrawn hover

variable (hno : ∀ p, f.position ≠ .ok p)

include hno

lemma no_trade_of_no_position (kind : TradeKind) (caller : Address) (venue : String) :
    f.tradeOf? (kind.call caller venue) = none := by
  cases ht : f.tradeOf? (kind.call caller venue) with
  | none => rfl
  | some t => exact absurd (grounds_of_call ht).position (hno t.position)

/-- **Without a position every call that trades is refused, and changes nothing.** -/
theorem call_of_no_position (kind : TradeKind) (caller : Address) (venue : String) :
    ∃ r, f.call (kind.call caller venue) = (f, .error (.refused r)) := by
  have hp : Refused f.position := f.position_steady.refused hno
  cases kind with
  | engage =>
    refine refused_attempt ?_
    unfold decideEngage
    exact refused_bind fun _ _ => refused_bind fun _ _ => refused_bind fun _ _ =>
      refused_bind fun _ _ => refused_bind fun _ _ => hp.bind
  | rebalance =>
    refine refused_attempt ?_
    unfold decideRebalance
    exact refused_bind fun _ _ => refused_bind fun _ _ => refused_bind fun _ _ => hp.bind
  | iterate =>
    refine refused_attempt ?_
    unfold decideIterate
    exact refused_bind fun _ _ => refused_bind fun _ _ => refused_bind fun _ _ =>
      refused_bind fun _ _ => hp.bind
  | ripcord =>
    refine refused_attempt ?_
    unfold decideRipcord
    exact refused_bind fun _ _ => refused_bind fun _ _ => hp.bind
  | disengage =>
    refine refused_attempt ?_
    unfold decideDisengage
    exact refused_bind fun _ _ => refused_bind fun _ _ => refused_bind fun _ _ => hp.bind

/-- Nor does it ask anybody. -/
lemma questions_of_no_position (kind : TradeKind) (caller : Address) (venue : String)
    (ans : String → Order → Outcome ℕ) :
    (f.dialogue (kind.call caller venue)).questions ans = [] := by
  obtain ⟨y, hy⟩ := dialogue_of_no_order fun t o h _ => by
    rw [no_trade_of_no_position hno kind caller venue] at h
    cases h
  rw [hy, Dialogue.questions]

omit hno in
lemma look_of_refused {α : Type} {decision : Outcome α} (h : Refused decision) :
    ∃ r, f.look decision = (f, .error (.refused r)) := by
  obtain ⟨r, rfl⟩ := h
  exact ⟨r, rfl⟩

/-- **Without a position the questions that need one are refused.** -/
theorem ask_of_no_position :
    (∃ r, f.ask .actions = (f, .error (.refused r))) ∧
      ∀ venue, ∃ r, f.ask (.preview venue) = (f, .error (.refused r)) := by
  have hp : Refused f.position := f.position_steady.refused hno
  constructor
  · refine look_of_refused (Refused.map ?_ _)
    unfold actions
    exact refused_bind fun _ _ => hp.bind
  · intro venue
    refine look_of_refused (Refused.map ?_ _)
    unfold preview
    exact refused_bind fun _ _ => refused_bind fun _ _ => hp.bind

end

/-! ### With a position -/

section

variable {f : Fund} {c : Call} {s : Step} {target current : Decimal} {r : Report}

/-- Only going on with a trade can clear it. -/
lemma decideIterate_of_cleared
    (h : (f.call c).2 = .ok (.iteration (.cleared target current))) :
    ∃ caller venue, c = .iterate caller venue ∧
      f.decideIterate caller venue = .ok (.clear target current) := by
  cases c with
  | iterate caller venue =>
    refine ⟨caller, venue, rfl, ?_⟩
    obtain ⟨i, hi, he⟩ := map_eq_ok.1 h
    cases he
    change (f.iterate caller venue).2 = _ at hi
    unfold iterate at hi
    cases hd : f.decideIterate caller venue with
    | error e =>
      rw [hd] at hi
      cases hi
    | ok n =>
      rw [hd, attempt_ok] at hi
      cases n with
      | clear target' current' =>
        cases hi
        rfl
      | trade t =>
        unfold settleThen at hi
        dsimp only at hi
        split at hi <;> cases hi
  | _ =>
    obtain ⟨_, -, he⟩ := map_eq_ok.1 h
    cases he

theorem freshAt_of_cleared (h : f.replyTo? s = some (.iteration (.cleared target current))) :
    ∃ p, f.FreshAt p ∧ current = p.leverage := by
  obtain ⟨c, -, hr⟩ := Option.bind_eq_some_iff.1 h
  obtain ⟨caller, venue, -, hd⟩ := decideIterate_of_cleared (toOption_eq_some.1 hr)
  obtain ⟨p, hp, -, hcurrent⟩ := decideIterate_position hd
  exact ⟨p, freshAt_of_position hp, hcurrent target current rfl⟩

theorem freshAt_of_chunk (h : f.chunk? s = some r) :
    ∃ c t x l, f.callOf? s = some c ∧ f.Executes c t x l r ∧ f.Decides t c ∧
      f.FreshAt t.position := by
  obtain ⟨c, t, x, l, hc, hx⟩ := chunk?_eq_some.1 h
  have hd := decides_of_tradeOf? hx.decided
  obtain ⟨_, _, hg⟩ := grounds_of_decides hd
  exact ⟨c, t, x, l, hc, hx, hd, freshAt_of_position hg.position⟩

/-- What is stored in the feeds is a history of the fund. -/
lemma after_stored (f : Fund) (readings : List (Address × Reading)) :
    f.after (readings.map fun e => .event (.setReading e.1 e.2))
      = { f with feeds := f.feeds.stored readings } := by
  induction readings generalizing f with
  | nil => rfl
  | cons e es ih => exact ih { f with feeds := f.feeds.set e.1 e.2 }

end

/-- **Only valid prices move a fund.**  Whatever has happened before, a chunk is decided at a
position whose prices are what valid readings of both feeds say, exactly, and so is clearing a trade
under way.  While a feed holds no valid reading, or the debt is worth no less than the collateral,
every call that trades is refused, changes nothing and asks no venue, whoever makes it, and the
questions what to call and what the next chunk is are refused as well.  A poll of the feeds is a
history like any other. -/
theorem moves_on_valid_prices (f : Fund) (ss : List Step) :
    let g := f.after ss
    (∀ s r, g.chunk? s = some r →
        ∃ c t x l, g.callOf? s = some c ∧ g.Executes c t x l r ∧ g.Decides t c ∧
          g.FreshAt t.position) ∧
      (∀ s target current, g.replyTo? s = some (.iteration (.cleared target current)) →
        ∃ p, g.FreshAt p ∧ current = p.leverage) ∧
      (g.Blocked →
        (∀ (kind : TradeKind) caller venue,
          (∃ r, g.call (kind.call caller venue) = (g, .error (.refused r))) ∧
            ∀ ans, (g.dialogue (kind.call caller venue)).questions ans = []) ∧
        (∃ r, g.ask .actions = (g, .error (.refused r))) ∧
        ∀ venue, ∃ r, g.ask (.preview venue) = (g, .error (.refused r))) ∧
      ∀ (poller : Poller) replies, ∃ readings : List (Address × Reading),
        g.after (readings.map fun e => .event (.setReading e.1 e.2))
          = { g with feeds := (poller.poll ⟨g.feeds, replies⟩).1.readings } := by
  intro g
  refine ⟨fun s r => freshAt_of_chunk, fun s target current => freshAt_of_cleared, ?_, ?_⟩
  · intro hblocked
    have hno := position_of_blocked hblocked
    refine ⟨fun kind caller venue => ?_, ask_of_no_position hno⟩
    exact ⟨call_of_no_position hno kind caller venue,
      questions_of_no_position hno kind caller venue⟩
  · intro poller replies
    obtain ⟨readings, h⟩ := poller.poll_stored ⟨g.feeds, replies⟩
    refine ⟨readings, ?_⟩
    rw [h]
    exact after_stored g readings

/-- The levered fund goes on with its trade at prices of one; a second after its readings have
become too old, its operator is refused even to unwind it. -/
theorem moves_on_valid_prices_levered :
    (∃ (r : Report) (p : Position),
        Trial.levered.chunk? (.call (.iterate Trial.operator "dex")) = some r ∧
        r.leverageBefore = p.leverage ∧ Trial.levered.FreshAt p ∧ p.collateralPrice.toRat = 1) ∧
      ∃ r, (Trial.levered.after [.event (.setTime 4601)]).call
        (TradeKind.disengage.call Trial.operator "dex")
          = (Trial.levered.after [.event (.setTime 4601)], .error (.refused r)) := by
  constructor
  · have hchunk : (Trial.levered.chunk? (.call (.iterate Trial.operator "dex"))).isSome = true := by
      decide +kernel
    obtain ⟨r, hr⟩ := Option.isSome_iff_exists.1 hchunk
    obtain ⟨c, t, x, l, -, hx, -, hfresh⟩ := (moves_on_valid_prices Trial.levered []).1 _ r hr
    refine ⟨r, t.position, hr, hx.report_fields.2.2.2.1, hfresh, ?_⟩
    obtain ⟨reading, hreading, -, hprice⟩ := hfresh.collateral
    obtain rfl : (⟨100, 2, 1000⟩ : Reading) = reading :=
      Option.some.inj ((by decide +kernel : _ = _).trans hreading)
    rw [hprice]
    norm_num
  · have hold : (Trial.levered.after [.event (.setTime 4601)]).Blocked := by
      left
      rintro ⟨reading, hreading, hvalid⟩
      obtain rfl : (⟨100, 2, 1000⟩ : Reading) = reading :=
        Option.some.inj ((by decide +kernel : _ = _).trans hreading)
      exact absurd hvalid.fresh (by decide)
    obtain ⟨-, -, hfails, -⟩ := moves_on_valid_prices Trial.levered [.event (.setTime 4601)]
    exact ((hfails hold).1 .disengage Trial.operator "dex").1

end Fund

end LeverageKeeper
