import LeverageKeeper.Proofs.Fund.Decisions
import LeverageKeeper.Proofs.Units

/-!
What a call can do to a fund.  A decided trade is settled in one of three ways: the venue or the
ledger turns it down and nothing has happened, it is executed and reported, or the ledger has taken
it but the venue's amount is too large to be reported.  A call that trades nothing either fails or
makes one of a few changes.
-/

namespace LeverageKeeper

open Decimal (bound)

/-! ### Orders and fills -/

section Fill

variable {a : Assets} {t : Trade} {x : Fill}

lemma Plan.order_eq_ok {p : Plan} {terms : Terms} {o : Order} (h : p.order a terms = .ok o) :
    o.direction = p.direction ∧ o.route = terms.route p.direction ∧
      p.amountIn.toUnits (a.decimalsIn p.direction) = .ok o.amountIn ∧
      p.minOut.toUnits (a.decimalsOut p.direction) = .ok o.minOut := by
  unfold Plan.order at h
  simp only [bind_eq_ok, pure_eq_ok] at h
  obtain ⟨amountIn, hin, minOut, hout, rfl⟩ := h
  exact ⟨rfl, rfl, hin, hout⟩

lemma Trade.fill_eq_ok {feeds : Feeds} (h : t.fill a feeds = .ok x) :
    t.plan.order a t.listing.terms = .ok x.order ∧
      t.listing.venue.answer feeds x.order = .ok x.received ∧ x.order.minOut ≤ x.received := by
  unfold Trade.fill at h
  simp only [bind_eq_ok, lift_eq_ok] at h
  obtain ⟨o, ho, n, hn, h⟩ := h
  split at h
  · obtain ⟨_, -, h⟩ := bind_eq_ok.1 h
    cases h
  next hle =>
    cases h
    exact ⟨ho, hn, Nat.le_of_not_lt hle⟩

/-- What goes into an order is never too large to be reported. -/
lemma Trade.amountIn_lt {feeds : Feeds} (h : t.fill a feeds = .ok x) : x.order.amountIn < bound :=
  (Decimal.toUnits_eq_ok.1 (Plan.order_eq_ok (fill_eq_ok h).1).2.2.1).2.2

lemma Fill.amounts_of_lt (h : x.order.amountIn < bound) (hr : x.received < bound) :
    ∃ collateral borrow, x.amounts a = .ok (collateral, borrow) := by
  unfold Fill.amounts
  cases x.order.direction with
  | lever =>
    obtain ⟨c, hc, -⟩ := Decimal.ofUnits_of_lt hr a.collateralDecimals
    obtain ⟨b, hb, -⟩ := Decimal.ofUnits_of_lt h a.borrowDecimals
    exact ⟨c, b, by rw [hc, hb]; rfl⟩
  | delever =>
    obtain ⟨c, hc, -⟩ := Decimal.ofUnits_of_lt h a.collateralDecimals
    obtain ⟨b, hb, -⟩ := Decimal.ofUnits_of_lt hr a.borrowDecimals
    exact ⟨c, b, by rw [hc, hb]; rfl⟩

lemma Fill.amounts_of_ge (h : x.order.amountIn < bound) (hr : bound ≤ x.received) :
    x.amounts a = .error (.refused (.numeric (.unitsTooLarge x.received))) := by
  unfold Fill.amounts
  cases x.order.direction with
  | lever =>
    rw [Decimal.ofUnits_of_ge hr]
    rfl
  | delever =>
    obtain ⟨c, hc, -⟩ := Decimal.ofUnits_of_lt h a.collateralDecimals
    dsimp only
    rw [hc, ok_bind, Decimal.ofUnits_of_ge hr]
    rfl

end Fill

/-! ### Settling -/

namespace Fund

/-- The ledger takes what the venue has filled of a trade. -/
structure Enters (f : Fund) (t : Trade) (x : Fill) (l : Ledger) : Prop where
  fill : t.fill f.assets f.feeds = .ok x
  commit : f.ledger.commit x.order.direction x.order.amountIn x.received = .ok l

/-- The fund once a trade is in the ledger and everything has taken note of it. -/
def settled (f : Fund) (t : Trade) (l : Ledger) : Fund :=
  ({ f with ledger := l } : Fund).stamp t.venue

section Settle

variable {f : Fund} {t : Trade} {x : Fill} {l : Ledger}

/-- What settling a trade that the ledger takes comes down to. -/
lemma settle_of_enters (h : f.Enters t x l) :
    f.settle t = ({ f with ledger := l } : Fund).attempt (x.amounts f.assets)
      fun (collateral, borrow) =>
        (f.settled t l, .ok ((f.settled t l).report t collateral borrow)) := by
  unfold settle
  rw [h.fill, attempt_ok, h.commit]
  rfl

lemma settle_of_lt (h : f.Enters t x l) (hr : x.received < bound) :
    ∃ collateral borrow, x.amounts f.assets = .ok (collateral, borrow) ∧
      f.settle t = (f.settled t l, .ok ((f.settled t l).report t collateral borrow)) := by
  obtain ⟨c, b, hc⟩ := Fill.amounts_of_lt (a := f.assets) (Trade.amountIn_lt h.fill) hr
  exact ⟨c, b, hc, by rw [settle_of_enters h, hc, attempt_ok]⟩

/-- An amount that cannot be reported is noticed when the ledger has it already. -/
lemma settle_of_ge (h : f.Enters t x l) (hr : bound ≤ x.received) :
    f.settle t
      = ({ f with ledger := l }, .error (.refused (.numeric (.unitsTooLarge x.received)))) := by
  rw [settle_of_enters h, Fill.amounts_of_ge (Trade.amountIn_lt h.fill) hr, attempt_error]
  rfl

lemma settle_of_not_enters (h : ¬ ∃ x l, f.Enters t x l) : ∃ e, f.settle t = f.fail e := by
  unfold settle
  cases hx : t.fill f.assets f.feeds with
  | error e => exact ⟨e, rfl⟩
  | ok x =>
    cases hl : f.ledger.commit x.order.direction x.order.amountIn x.received with
    | error r =>
      refine ⟨.refused r, ?_⟩
      rw [attempt_ok, hl]
      rfl
    | ok l => exact absurd ⟨x, l, hx, hl⟩ h

end Settle

/-! ### Calls that trade -/

/-- The trade that a call has decided on, if it has. -/
def tradeOf? (f : Fund) : Call → Option Trade
  | .engage caller venue => (f.decideEngage caller venue).toOption
  | .rebalance caller venue => (f.decideRebalance caller venue).toOption
  | .iterate caller venue =>
    match f.decideIterate caller venue with
    | .ok (.trade t) => some t
    | _ => none
  | .ripcord _ venue => (f.decideRipcord venue).toOption
  | .disengage caller venue => (f.decideDisengage caller venue).toOption
  | _ => none

/-- What a call does after its trade is settled, and its answer. -/
def finish (f : Fund) (t : Trade) (r : Report) : Call → Fund × Outcome Answer
  | .iterate .. => (f.withTwap t.twapAfter, .ok (.iteration (.executed r)))
  | .ripcord caller _ =>
    let (f, paid) := (f.withTwap .idle).payBounty caller
    (f, .ok (.rescue ⟨r, caller, paid⟩))
  | .disengage .. => (f.withTwap .idle, .ok (.report r))
  | _ => (f.withTwap t.twapAfter, .ok (.report r))

/-- What a call that trades has decided, with all its conditions. -/
def Decides (f : Fund) (t : Trade) : Call → Prop
  | .engage caller venue => f.EngageGrounds caller venue t
  | .rebalance caller venue => f.RebalanceGrounds caller venue t
  | .iterate caller venue => f.IterateGrounds caller venue t
  | .ripcord _ venue => f.RipcordGrounds venue t
  | .disengage caller venue => f.DisengageGrounds caller venue t
  | _ => False

section Calls

variable {f : Fund} {c : Call} {t : Trade} {x : Fill} {l : Ledger}

lemma decideIterate_of_tradeOf? {caller : Address} {venue : String}
    (h : f.tradeOf? (.iterate caller venue) = some t) :
    f.decideIterate caller venue = .ok (.trade t) := by
  unfold tradeOf? at h
  dsimp only at h
  split at h
  next t' ht =>
    cases h
    exact ht
  next => cases h

lemma not_ok_of_no_trade {x : Outcome Trade} (h : x.toOption = none) : x ≠ .ok t := by
  rintro rfl
  cases h

lemma not_trade_of_no_trade {caller : Address} {venue : String}
    (h : f.tradeOf? (.iterate caller venue) = none) :
    f.decideIterate caller venue ≠ .ok (.trade t) := by
  intro hn
  rw [tradeOf?, hn] at h
  cases h

theorem decides_of_tradeOf? (h : f.tradeOf? c = some t) : f.Decides t c := by
  cases c with
  | engage caller venue => exact decideEngage_eq_ok (toOption_eq_some.1 h)
  | rebalance caller venue => exact decideRebalance_eq_ok (toOption_eq_some.1 h)
  | iterate caller venue =>
    rcases decideIterate_eq_ok (decideIterate_of_tradeOf? h) with ⟨t', ht, hg⟩ | ⟨_, _, ht, -⟩
    · cases ht
      exact hg
    · cases ht
  | ripcord caller venue => exact decideRipcord_eq_ok (toOption_eq_some.1 h)
  | disengage caller venue => exact decideDisengage_eq_ok (toOption_eq_some.1 h)
  | _ => cases h

theorem grounds_of_decides (h : f.Decides t c) : ∃ kind venue, f.Grounds kind venue t := by
  cases c with
  | engage caller venue => exact ⟨_, _, h.toGrounds⟩
  | rebalance caller venue => exact ⟨_, _, h.toGrounds⟩
  | iterate caller venue => exact ⟨_, _, h.toGrounds⟩
  | ripcord caller venue => exact ⟨_, _, h.toGrounds⟩
  | disengage caller venue => exact ⟨_, _, h.toGrounds⟩
  | _ => exact h.elim

lemma answering_settleThen {α : Type} {into : α → Answer} {act : Fund → Report → Fund × Outcome α}
    (h : ∀ g r, answering into (act g r) = g.finish t r c) :
    answering into (f.settleThen t act) = match f.settle t with
      | (g, .ok r) => g.finish t r c
      | (g, .error e) => (g, .error e) := by
  unfold settleThen
  cases f.settle t with
  | mk g y =>
    cases y with
    | ok r => exact h g r
    | error e => rfl

/-- A call that has decided on a trade settles it and goes on only if that succeeds. -/
theorem call_of_tradeOf? (h : f.tradeOf? c = some t) :
    f.call c = match f.settle t with
      | (g, .ok r) => g.finish t r c
      | (g, .error e) => (g, .error e) := by
  cases c with
  | engage caller venue =>
    rw [call, engage, toOption_eq_some.1 h, attempt_ok]
    exact answering_settleThen fun _ _ => rfl
  | rebalance caller venue =>
    rw [call, rebalance, toOption_eq_some.1 h, attempt_ok]
    exact answering_settleThen fun _ _ => rfl
  | iterate caller venue =>
    rw [call, iterate, decideIterate_of_tradeOf? h, attempt_ok]
    exact answering_settleThen fun _ _ => rfl
  | ripcord caller venue =>
    rw [call, ripcord, toOption_eq_some.1 h, attempt_ok]
    exact answering_settleThen fun _ _ => rfl
  | disengage caller venue =>
    rw [call, disengage, toOption_eq_some.1 h, attempt_ok]
    exact answering_settleThen fun _ _ => rfl
  | _ => cases h

/-- The call executes the trade, and reports it. -/
structure Executes (f : Fund) (c : Call) (t : Trade) (x : Fill) (l : Ledger) (r : Report) :
    Prop where
  decided : f.tradeOf? c = some t
  enters : f.Enters t x l
  small : x.received < bound
  report_eq : ∃ collateral borrow, x.amounts f.assets = .ok (collateral, borrow) ∧
    r = (f.settled t l).report t collateral borrow
  call_eq : f.call c = (f.settled t l).finish t r c

/-- The call gets its trade into the ledger for an amount that cannot be reported. -/
structure Overfills (f : Fund) (c : Call) (t : Trade) (x : Fill) (l : Ledger) : Prop where
  decided : f.tradeOf? c = some t
  enters : f.Enters t x l
  large : bound ≤ x.received

lemma Overfills.call_eq (h : f.Overfills c t x l) :
    f.call c = ({ f with ledger := l },
      .error (.refused (.numeric (.unitsTooLarge x.received)))) := by
  rw [call_of_tradeOf? h.decided, settle_of_ge h.enters h.large]

end Calls

/-! ### Calls that do not trade -/

/-- What a call may make of a fund without trading, and its answer. -/
inductive Changes (f : Fund) : Fund → Answer → Prop
  | cleared (target current : Decimal) (active : f.strategy.twap.isActive = true) :
    Changes f (f.withTwap .idle) (.iteration (.cleared target current))
  | settings (s : Settings) (inactive : f.strategy.twap.isActive = false) (valid : s.Valid) :
    Changes f { f with strategy := { f.strategy with settings := s } } .done
  | added (name : String) (venue : Venue) (terms : Terms) (r : Registry)
    (ok : f.strategy.venues.add name venue terms = .ok r) :
    Changes f { f with strategy := { f.strategy with venues := r } } .done
  | updated (name : String) (terms : Terms) (r : Registry)
    (ok : f.strategy.venues.update name terms = .ok r) :
    Changes f { f with strategy := { f.strategy with venues := r } } .done
  | removed (name : String) (l : Listing) (r : Registry)
    (ok : f.strategy.venues.remove name = .ok (r, l)) :
    Changes f { f with strategy := { f.strategy with venues := r } } .done
  | guard (g : Guard) : Changes f { f with guard := g } .done
  | deposited (amount reserve : Decimal) (positive : Decimal.zero < amount)
    (sum : f.strategy.reserve.plus amount = .ok reserve) :
    Changes f (f.withReserve reserve) (.decimal reserve)
  | kept (reserve : Decimal) : Changes f f (.decimal reserve)
  | withdrawn (l : Ledger) (caller : Address)
    (paid : f.ledger.payReward caller f.strategy.reserve = .ok l) :
    Changes f (({ f with ledger := l } : Fund).withReserve Decimal.zero)
      (.decimal f.strategy.reserve)

section Changes

variable {f : Fund} {c : Call}

/-- The call fails as a whole, or makes one of the changes. -/
def FailsOrChanges (f : Fund) (y : Fund × Outcome Answer) : Prop :=
  (∃ e, y = f.fail e) ∨ ∃ g a, f.Changes g a ∧ y = (g, .ok a)

lemma failsOrChanges_attempt {α β : Type} {decision : Outcome α} {act : α → Fund × Outcome β}
    {into : β → Answer}
    (h : ∀ d, decision = .ok d → ∃ g b, f.Changes g (into b) ∧ act d = (g, .ok b)) :
    f.FailsOrChanges (answering into (f.attempt decision act)) := by
  cases decision with
  | error e => exact .inl ⟨e, rfl⟩
  | ok d =>
    obtain ⟨g, b, hg, hact⟩ := h d rfl
    exact .inr ⟨g, into b, hg, by rw [attempt_ok, hact]; rfl⟩

lemma decideSettings_eq_ok {caller : Address} {action : String} {next : Settings} {s : Strategy}
    (h : f.decideSettings caller action next = .ok s) :
    f.strategy.twap.isActive = false ∧ next.Valid ∧ s = { f.strategy with settings := next } := by
  unfold decideSettings at h
  simp only [bind_eq_ok, lift_eq_ok, demand_eq_ok, pure_eq_ok] at h
  obtain ⟨_, -, _, -, _, hi, _, hv, rfl⟩ := h
  exact ⟨hi, hv, rfl⟩

lemma failsOrChanges_settings {caller : Address} {action : String} {next : Settings} :
    f.FailsOrChanges (answering (fun _ => .done)
      (f.change (f.decideSettings caller action next))) := by
  refine failsOrChanges_attempt fun s hs => ?_
  obtain ⟨hi, hv, rfl⟩ := decideSettings_eq_ok hs
  exact ⟨_, (), .settings next hi hv, rfl⟩

lemma decideVenues_eq_ok {caller : Address} {action : String} {next : Checked Registry}
    {s : Strategy} (h : f.decideVenues caller action next = .ok s) :
    ∃ r, next = .ok r ∧ s = { f.strategy with venues := r } := by
  unfold decideVenues at h
  simp only [bind_eq_ok, lift_eq_ok, pure_eq_ok] at h
  obtain ⟨_, -, _, -, r, hr, rfl⟩ := h
  exact ⟨r, hr, rfl⟩

lemma failsOrChanges_withdrawal {caller : Address} :
    f.FailsOrChanges (answering .decimal (f.withdrawReward caller)) := by
  refine failsOrChanges_attempt fun l hl => ?_
  unfold decideWithdrawal at hl
  simp only [bind_eq_ok, lift_eq_ok] at hl
  obtain ⟨_, -, _, -, hl⟩ := hl
  by_cases hz : Decimal.zero < f.strategy.reserve
  · rw [if_pos hz] at hl
    refine ⟨_, f.strategy.reserve, .withdrawn l caller (lift_eq_ok.1 hl), ?_⟩
    rw [if_pos hz]
  · exact ⟨_, f.strategy.reserve, .kept _, by rw [if_neg hz]⟩

/-- **What a call does that has not decided on a trade.** -/
theorem call_of_no_trade (h : f.tradeOf? c = none) : f.FailsOrChanges (f.call c) := by
  cases c with
  | engage caller venue =>
    exact failsOrChanges_attempt fun t ht => absurd ht (not_ok_of_no_trade h)
  | rebalance caller venue =>
    exact failsOrChanges_attempt fun t ht => absurd ht (not_ok_of_no_trade h)
  | iterate caller venue =>
    refine failsOrChanges_attempt fun n hn => ?_
    rcases decideIterate_eq_ok hn with ⟨t, rfl, -⟩ | ⟨target, current, rfl, ha⟩
    · exact absurd hn (not_trade_of_no_trade h)
    · exact ⟨_, _, .cleared target current ha, rfl⟩
  | ripcord caller venue =>
    exact failsOrChanges_attempt fun t ht => absurd ht (not_ok_of_no_trade h)
  | disengage caller venue =>
    exact failsOrChanges_attempt fun t ht => absurd ht (not_ok_of_no_trade h)
  | setMethodology caller m => exact failsOrChanges_settings
  | setExecution caller e => exact failsOrChanges_settings
  | setIncentive caller i => exact failsOrChanges_settings
  | addVenue caller name venue terms =>
    refine failsOrChanges_attempt fun s hs => ?_
    obtain ⟨r, hr, rfl⟩ := decideVenues_eq_ok hs
    exact ⟨_, (), .added name venue terms r hr, rfl⟩
  | updateVenue caller name terms =>
    refine failsOrChanges_attempt fun s hs => ?_
    obtain ⟨r, hr, rfl⟩ := decideVenues_eq_ok hs
    exact ⟨_, (), .updated name terms r hr, rfl⟩
  | removeVenue caller name =>
    refine failsOrChanges_attempt fun s hs => ?_
    obtain ⟨r, hr, rfl⟩ := decideVenues_eq_ok hs
    obtain ⟨⟨r', l⟩, hl, rfl⟩ := map_eq_ok.1 hr
    exact ⟨_, (), .removed name l r' hl, rfl⟩
  | setCallerStatus caller account allowed =>
    exact failsOrChanges_attempt fun g _ => ⟨_, (), .guard g, rfl⟩
  | setAnyoneCallable caller isOpen =>
    exact failsOrChanges_attempt fun g _ => ⟨_, (), .guard g, rfl⟩
  | depositReward amount =>
    refine failsOrChanges_attempt fun reserve hs => ?_
    unfold decideDeposit at hs
    simp only [bind_eq_ok, lift_eq_ok, demand_eq_ok] at hs
    obtain ⟨_, hp, _, -, hs⟩ := hs
    exact ⟨_, reserve, .deposited amount reserve hp hs, rfl⟩
  | withdrawReward caller => exact failsOrChanges_withdrawal

/-- **What a call can do**: fail, overfill the ledger, execute a trade, or make a change. -/
theorem call_cases (f : Fund) (c : Call) :
    (∃ e, f.call c = f.fail e) ∨ (∃ t x l, f.Overfills c t x l) ∨
      (∃ t x l r, f.Executes c t x l r) ∨ ∃ g a, f.Changes g a ∧ f.call c = (g, .ok a) := by
  cases h : f.tradeOf? c with
  | none =>
    rcases call_of_no_trade h with hf | hc
    · exact .inl hf
    · exact .inr (.inr (.inr hc))
  | some t =>
    by_cases hx : ∃ x l, f.Enters t x l
    · obtain ⟨x, l, hx⟩ := hx
      rcases Nat.lt_or_ge x.received bound with hr | hr
      · obtain ⟨a, b, ha, hs⟩ := settle_of_lt hx hr
        exact .inr (.inr (.inl ⟨t, x, l, _, h, hx, hr, ⟨a, b, ha, rfl⟩,
          by rw [call_of_tradeOf? h, hs]⟩))
      · exact .inr (.inl ⟨t, x, l, h, hx, hr⟩)
    · obtain ⟨e, he⟩ := settle_of_not_enters hx
      exact .inl ⟨e, by rw [call_of_tradeOf? h, he]; rfl⟩

/-- The report of an answer that tells of a chunk. -/
def reportOf? : Answer → Option Report
  | .report r => some r
  | .iteration (.executed r) => some r
  | .rescue x => some x.report
  | _ => none

lemma reportOf?_of_changes {g : Fund} {a : Answer} (h : f.Changes g a) : reportOf? a = none := by
  cases h <;> rfl

lemma Executes.report_of_call {t : Trade} {x : Fill} {l : Ledger} {r : Report}
    (h : f.Executes c t x l r) : ∃ a, (f.call c).2 = .ok a ∧ reportOf? a = some r := by
  rw [h.call_eq]
  cases c <;> exact ⟨_, rfl, rfl⟩

/-- A call that reports a chunk has executed a trade. -/
theorem executes_of_report {a : Answer} {r : Report} (ha : (f.call c).2 = .ok a)
    (hr : reportOf? a = some r) : ∃ t x l, f.Executes c t x l r := by
  rcases call_cases f c with ⟨e, he⟩ | ⟨t, x, l, ho⟩ | ⟨t, x, l, r', hx⟩ | ⟨g, a', hg, he⟩
  · rw [he] at ha
    cases ha
  · rw [ho.call_eq] at ha
    cases ha
  · obtain ⟨a', ha', hr'⟩ := hx.report_of_call
    obtain rfl : a' = a := by
      rw [ha'] at ha
      exact Except.ok.inj ha
    obtain rfl : r' = r := Option.some.inj (hr'.symm.trans hr)
    exact ⟨t, x, l, hx⟩
  · obtain rfl : a' = a := by
      rw [he] at ha
      exact Except.ok.inj ha
    rw [reportOf?_of_changes hg] at hr
    cases hr

lemma reported_of_any {y : Outcome Answer} {q : Report → Bool}
    (h : (y.toOption.bind reportOf?).any q = true) :
    ∃ a r, y = .ok a ∧ reportOf? a = some r ∧ q r = true := by
  obtain ⟨r, hr, hq⟩ := (Option.any_eq_true _ _).1 h
  obtain ⟨a, ha, hr⟩ := Option.bind_eq_some_iff.1 hr
  exact ⟨a, r, toOption_eq_some.1 ha, hr, hq⟩

lemma executes_of_reported {r : Report} (h : (f.call c).2.toOption.bind reportOf? = some r) :
    ∃ t x l, f.Executes c t x l r := by
  obtain ⟨a, ha, hr⟩ := Option.bind_eq_some_iff.1 h
  exact executes_of_report (toOption_eq_some.1 ha) hr

end Changes

end Fund

end LeverageKeeper
