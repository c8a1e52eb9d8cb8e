import LeverageKeeper.Fund.Step
import LeverageKeeper.Proofs.Outcome
import LeverageKeeper.Proofs.Registry

/-!
What the five calls that trade decide.  Each of them checks its own conditions, and a trade comes of
it only if they all hold; the conditions are listed here call by call, in terms of the trade itself,
so that nothing else has to open a decision.
-/

namespace LeverageKeeper

/-! ### Conditions -/

section Conditions

variable {f : Fund} {u : Unit}

lemma Guard.requireOperator_eq_ok {g : Guard} {caller : Address} {action : String} :
    g.requireOperator caller action = .ok u ↔ caller = g.operator := demand_eq_ok

lemma Guard.requireAllowed_eq_ok {g : Guard} {caller : Address} {action : String} :
    g.requireAllowed caller action = .ok u ↔ g.list.isAllowed caller = true := demand_eq_ok

lemma Position.requireEngaged_eq_ok {p : Position} :
    p.requireEngaged = .ok u ↔ p.isEngaged = true := demand_eq_ok

lemma Cooldown.require_eq_ok {venue : String} {last cooldown now : UInt64} :
    Cooldown.require venue last cooldown now = .ok u ↔ isOver last cooldown now = true :=
  demand_eq_ok

lemma Fund.requireLive_eq_ok : f.requireLive = .ok u ↔ f.halted = false := demand_eq_ok

lemma Fund.requireBelowIncentivized_eq_ok {current : Decimal} :
    f.requireBelowIncentivized current = .ok u
      ↔ current < f.strategy.settings.incentive.ratio := demand_eq_ok

lemma Fund.requireDue_eq_ok {venue : String} {current : Decimal} :
    f.requireDue venue current = .ok u ↔ f.circumstances.phase current = .rebalanceDue := by
  unfold requireDue
  split
  next h => simp [h]
  next h => simp [h]
  next h => rw [h]; split <;> simp
  next h => simp [h]

lemma Fund.underWay_eq_ok {x : Decimal × Direction} :
    f.underWay = .ok x ↔ ∃ remaining, f.strategy.twap = .under x.1 x.2 remaining := by
  unfold underWay
  split
  next target direction remaining h =>
    simp only [h, Except.ok.injEq, Twap.under.injEq]
    constructor
    · rintro rfl
      exact ⟨remaining, rfl, rfl, rfl⟩
    · rintro ⟨_, rfl, rfl, -⟩
      rfl
  next h => simp [h]

lemma Fund.directionTo_eq_ok {target current : Decimal} {d : Direction} :
    Fund.directionTo target current = .ok d
      ↔ Sizing.direction? target current = .ok (some d) := by
  unfold directionTo
  rw [bind_eq_ok]
  simp only [lift_eq_ok, orRefuse_eq_ok, exists_eq_right]

end Conditions

/-! ### Chunks and plans -/

/-- What a chunk comes from: the whole way to the target, and the room that the lending venue
leaves. -/
structure Fund.Sized (f : Fund) (p : Position) (target : Decimal) (d : Direction) (cap : Decimal)
    (c : Chunk) (total room : Decimal) : Prop where
  total_eq : Sizing.totalNotional target p.leverage p.collateralUnits = .ok total
  room_eq : ∃ limits, f.ledger.lendingLimits = .ok limits ∧
    Sizing.headroom p limits f.strategy.settings.execution d = .ok room
  chunk_eq : Sizing.chunk total cap room = .ok c

lemma Fund.nextChunk_eq_ok {f : Fund} {p : Position} {target cap : Decimal} {d : Direction}
    {c : Chunk} (h : f.nextChunk p target d cap = .ok c) :
    ∃ total room, f.Sized p target d cap c total room := by
  unfold nextChunk at h
  simp only [bind_eq_ok, lift_eq_ok] at h
  obtain ⟨total, ht, limits, hl, room, hr, hc⟩ := h
  exact ⟨total, room, ht, ⟨limits, hl, hr⟩, hc⟩

lemma Sizing.chunk_eq_ok {total cap room : Decimal} {c : Chunk} (h : chunk total cap room = .ok c) :
    Decimal.zero < (total.min cap).min room ∧
      c = ⟨(total.min cap).min room, total, decide ((total.min cap).min room < total)⟩ := by
  unfold chunk at h
  dsimp only at h
  split at h
  · cases h
  next hn =>
    cases h
    exact ⟨Decimal.not_le.1 hn, rfl⟩

lemma Plan.ofChunk_direction {d : Direction} {notional slippage : Decimal} {p : Prices}
    {plan : Plan} (h : Plan.ofChunk d notional p slippage = .ok plan) : plan.direction = d := by
  unfold Plan.ofChunk at h
  simp only [bind_eq_ok, lift_eq_ok] at h
  obtain ⟨worth, -, h⟩ := h
  cases d <;> simp only [bind_eq_ok, pure_eq_ok] at h <;> obtain ⟨_, -, rfl⟩ := h <;> rfl

lemma Plan.amountIn_of_lever {notional slippage : Decimal} {p : Prices} {plan : Plan}
    (h : Plan.ofChunk .lever notional p slippage = .ok plan) :
    Sizing.toBorrow notional p = .ok plan.amountIn := by
  unfold Plan.ofChunk at h
  simp only [bind_eq_ok, lift_eq_ok, pure_eq_ok] at h
  obtain ⟨worth, hw, _, -, rfl⟩ := h
  exact hw

lemma Plan.amountIn_of_delever {notional slippage : Decimal} {p : Prices} {plan : Plan}
    (h : Plan.ofChunk .delever notional p slippage = .ok plan) : plan.amountIn = notional := by
  unfold Plan.ofChunk at h
  simp only [bind_eq_ok, lift_eq_ok, pure_eq_ok] at h
  obtain ⟨_, -, _, -, rfl⟩ := h
  rfl

/-! ### Trades -/

/-- What the trade of any call rests on. -/
structure Fund.Grounds (f : Fund) (kind : TradeKind) (venue : String) (t : Trade) : Prop where
  live : f.halted = false
  kind_eq : t.kind = kind
  venue_eq : t.venue = venue
  listed : f.strategy.venues.find? venue = some t.listing
  position : f.position = .ok t.position

/-- The chunk of the trade and its plan, where nothing stands in their place. -/
structure Fund.Prepared (f : Fund) (t : Trade) (d : Direction) (cap slippage : Decimal) : Prop where
  chunk : f.nextChunk t.position t.target d cap = .ok t.chunk
  plan : Plan.ofChunk d t.chunk.notional t.position.prices slippage = .ok t.plan

lemma Fund.Prepared.direction_eq {f : Fund} {t : Trade} {d : Direction} {cap slippage : Decimal}
    (h : f.Prepared t d cap slippage) : t.plan.direction = d := Plan.ofChunk_direction h.plan

lemma Fund.prepare_eq_ok {f : Fund} {kind : TradeKind} {venue : String} {listing : Listing}
    {p : Position} {target cap slippage : Decimal} {d : Direction} {t : Trade}
    (h : f.prepare kind venue listing p target d cap slippage = .ok t) :
    t.kind = kind ∧ t.venue = venue ∧ t.listing = listing ∧ t.position = p ∧ t.target = target ∧
      f.Prepared t d cap slippage := by
  unfold prepare at h
  simp only [bind_eq_ok, pure_eq_ok] at h
  obtain ⟨chunk, hc, plan, hp, rfl⟩ := h
  exact ⟨rfl, rfl, rfl, rfl, rfl, hc, hp⟩

namespace Fund

structure EngageGrounds (f : Fund) (caller : Address) (venue : String) (t : Trade) : Prop
    extends f.Grounds .engage venue t where
  operator : caller = f.guard.operator
  unlevered : ∃ b, f.ledger.balances = .ok b ∧ b.debt = 0
  target_eq : t.target = f.strategy.settings.methodology.target
  prepared : f.Prepared t .lever t.listing.terms.cap f.strategy.settings.execution.slippage

structure RebalanceGrounds (f : Fund) (caller : Address) (venue : String) (t : Trade) : Prop
    extends f.Grounds .rebalance venue t where
  allowed : f.guard.list.isAllowed caller = true
  engaged : t.position.isEngaged = true
  below : t.position.leverage < f.strategy.settings.incentive.ratio
  rested : Cooldown.isOver t.listing.terms.lastTrade f.strategy.settings.execution.cooldown f.now
    = true
  due : f.circumstances.phase t.position.leverage = .rebalanceDue
  target_eq : Sizing.recentered t.position.leverage f.strategy.settings.methodology = .ok t.target
  direction : Sizing.direction? t.target t.position.leverage = .ok (some t.plan.direction)
  prepared : f.Prepared t t.plan.direction t.listing.terms.cap
    f.strategy.settings.execution.slippage

structure IterateGrounds (f : Fund) (caller : Address) (venue : String) (t : Trade) : Prop
    extends f.Grounds .iterate venue t where
  allowed : f.guard.list.isAllowed caller = true
  engaged : t.position.isEngaged = true
  below : t.position.leverage < f.strategy.settings.incentive.ratio
  rested : Cooldown.isOver t.listing.terms.lastTrade f.strategy.settings.execution.cooldown f.now
    = true
  underWay : ∃ remaining, f.strategy.twap = .under t.target t.plan.direction remaining
  unreached : Sizing.reached t.target t.position.leverage t.plan.direction = .ok false
  prepared : f.Prepared t t.plan.direction t.listing.terms.cap
    f.strategy.settings.execution.slippage

structure RipcordGrounds (f : Fund) (venue : String) (t : Trade) : Prop
    extends f.Grounds .ripcord venue t where
  danger : f.strategy.settings.incentive.ratio ≤ t.position.leverage
  rested : Cooldown.isOver t.listing.terms.lastTrade f.strategy.settings.incentive.cooldown f.now
    = true
  target_eq : t.target = f.strategy.settings.methodology.most
  prepared : f.Prepared t .delever t.listing.terms.incentivizedCap
    f.strategy.settings.incentive.slippage

/-- The sale that repays the whole debt, within all the limits of a chunk: the last chunk, of what
the debt is worth with room for slippage. -/
structure Unwinds (f : Fund) (t : Trade) : Prop where
  plan : t.plan = ⟨.delever, t.plan.amountIn, t.position.debtUnits⟩
  last : t.chunk.chunked = false
  sale : ∃ owed, Sizing.toCollateral t.position.debtUnits t.position.prices = .ok owed ∧
    Sizing.maxIn owed f.strategy.settings.execution.slippage = .ok t.plan.amountIn
  within : ∃ limits room, f.ledger.lendingLimits = .ok limits ∧
    Sizing.headroom t.position limits f.strategy.settings.execution .delever = .ok room ∧
    t.plan.amountIn ≤ (t.position.collateralUnits.min t.listing.terms.cap).min room

structure DisengageGrounds (f : Fund) (caller : Address) (venue : String) (t : Trade) : Prop
    extends f.Grounds .disengage venue t where
  operator : caller = f.guard.operator
  engaged : t.position.isEngaged = true
  target_eq : t.target = Decimal.one
  sale : f.Unwinds t ∨ ∃ c, t.chunk = { c with chunked := true } ∧
    f.nextChunk t.position Decimal.one .delever t.listing.terms.cap = .ok c ∧
    Plan.ofChunk .delever c.notional t.position.prices f.strategy.settings.execution.slippage
      = .ok t.plan

section Decide

variable {f : Fund} {caller : Address} {venue : String} {t : Trade}

theorem decideEngage_eq_ok (h : f.decideEngage caller venue = .ok t) :
    f.EngageGrounds caller venue t := by
  unfold decideEngage at h
  simp only [bind_eq_ok, lift_eq_ok, Guard.requireOperator_eq_ok, requireLive_eq_ok,
    Registry.get_eq_ok, demand_eq_ok] at h
  obtain ⟨_, hop, _, hlive, l, hl, b, hb, _, hd, p, hp, h⟩ := h
  obtain ⟨hk, hv, rfl, rfl, ht, hprep⟩ := prepare_eq_ok h
  exact ⟨⟨hlive, hk, hv, hl, hp⟩, hop, ⟨b, hb, hd⟩, ht, hprep⟩

theorem decideRebalance_eq_ok (h : f.decideRebalance caller venue = .ok t) :
    f.RebalanceGrounds caller venue t := by
  unfold decideRebalance at h
  simp only [bind_eq_ok, lift_eq_ok, Guard.requireAllowed_eq_ok, requireLive_eq_ok,
    Registry.get_eq_ok, Position.requireEngaged_eq_ok, requireBelowIncentivized_eq_ok,
    Cooldown.require_eq_ok, requireDue_eq_ok, directionTo_eq_ok] at h
  obtain ⟨_, hc, _, hlive, l, hl, p, hp, _, he, _, hb, _, hr, _, hdue, target, ht, d, hd, h⟩ := h
  obtain ⟨hk, hv, rfl, rfl, rfl, hprep⟩ := prepare_eq_ok h
  obtain rfl := hprep.direction_eq
  exact ⟨⟨hlive, hk, hv, hl, hp⟩, hc, he, hb, hr, hdue, ht, hd, hprep⟩

theorem decideRipcord_eq_ok (h : f.decideRipcord venue = .ok t) : f.RipcordGrounds venue t := by
  unfold decideRipcord at h
  simp only [bind_eq_ok, lift_eq_ok, requireLive_eq_ok, Registry.get_eq_ok, demand_eq_ok,
    Cooldown.require_eq_ok] at h
  obtain ⟨_, hlive, l, hl, p, hp, _, hd, _, hr, h⟩ := h
  obtain ⟨hk, hv, rfl, rfl, ht, hprep⟩ := prepare_eq_ok h
  exact ⟨⟨hlive, hk, hv, hl, hp⟩, hd, hr, ht, hprep⟩

/-- Going on with a trade either trades or finds its target reached. -/
theorem decideIterate_eq_ok {n : NextStep} (h : f.decideIterate caller venue = .ok n) :
    (∃ t, n = .trade t ∧ f.IterateGrounds caller venue t) ∨
      ∃ target current, n = .clear target current ∧ f.strategy.twap.isActive = true := by
  unfold decideIterate at h
  simp only [bind_eq_ok, lift_eq_ok, Guard.requireAllowed_eq_ok, requireLive_eq_ok,
    Registry.get_eq_ok, Position.requireEngaged_eq_ok, requireBelowIncentivized_eq_ok,
    Cooldown.require_eq_ok, underWay_eq_ok] at h
  obtain ⟨_, hc, _, hlive, l, hl, ⟨target, d⟩, ⟨rest, hw⟩, p, hp, _, he, _, hb, _, hr, done, hdone,
    h⟩ := h
  cases done with
  | true =>
    simp only [↓reduceIte, pure_eq_ok] at h
    exact .inr ⟨_, _, h.symm, by rw [hw]; rfl⟩
  | false =>
    simp only [Bool.false_eq_true, ↓reduceIte, bind_eq_ok, pure_eq_ok] at h
    obtain ⟨t, h, rfl⟩ := h
    obtain ⟨hk, hv, rfl, rfl, rfl, hprep⟩ := prepare_eq_ok h
    obtain rfl := hprep.direction_eq
    exact .inl ⟨t, rfl, ⟨hlive, hk, hv, hl, hp⟩, hc, he, hb, hr, ⟨rest, hw⟩, hdone, hprep⟩

/-- Going on with a trade rests on the position of an engaged fund; a trade that it clears is at the
ratio of that position. -/
theorem decideIterate_position {n : NextStep} (h : f.decideIterate caller venue = .ok n) :
    ∃ p, f.position = .ok p ∧ p.isEngaged = true ∧
      ∀ target current, n = .clear target current → current = p.leverage := by
  unfold decideIterate at h
  simp only [bind_eq_ok, lift_eq_ok, Position.requireEngaged_eq_ok] at h
  obtain ⟨_, -, _, -, _, -, _, -, p, hp, _, he, _, -, _, -, done, -, h⟩ := h
  refine ⟨p, hp, he, ?_⟩
  rintro target current rfl
  cases done with
  | true =>
    simp only [↓reduceIte, pure_eq_ok] at h
    cases h
    rfl
  | false =>
    simp only [Bool.false_eq_true, ↓reduceIte, bind_eq_ok, pure_eq_ok] at h
    obtain ⟨_, -, h⟩ := h
    cases h

lemma fullUnwind?_eq_some {p : Position} {cap sale : Decimal}
    (h : f.fullUnwind? p cap = .ok (some sale)) :
    (∃ owed, Sizing.toCollateral p.debtUnits p.prices = .ok owed ∧
      Sizing.maxIn owed f.strategy.settings.execution.slippage = .ok sale) ∧
    ∃ limits room, f.ledger.lendingLimits = .ok limits ∧
      Sizing.headroom p limits f.strategy.settings.execution .delever = .ok room ∧
      sale ≤ (p.collateralUnits.min cap).min room := by
  unfold fullUnwind? at h
  simp only [bind_eq_ok, lift_eq_ok, pure_eq_ok] at h
  obtain ⟨owed, ho, limits, hl, room, hr, s, hs, h⟩ := h
  split at h
  next hle =>
    cases h
    exact ⟨⟨owed, ho, hs⟩, limits, room, hl, hr, hle⟩
  next => cases h

theorem decideDisengage_eq_ok (h : f.decideDisengage caller venue = .ok t) :
    f.DisengageGrounds caller venue t := by
  unfold decideDisengage at h
  simp only [bind_eq_ok, lift_eq_ok, Guard.requireOperator_eq_ok, requireLive_eq_ok,
    Registry.get_eq_ok, Position.requireEngaged_eq_ok] at h
  obtain ⟨_, hop, _, hlive, l, hl, p, hp, _, he, chunk, hc, h⟩ := h
  split at h
  · simp only [pure_bind, bind_eq_ok, pure_eq_ok] at h
    obtain ⟨plan, hplan, rfl⟩ := h
    exact ⟨⟨hlive, rfl, rfl, hl, hp⟩, hop, he, rfl, .inr ⟨chunk, rfl, hc, hplan⟩⟩
  next hlast =>
    obtain ⟨unwind, hu, h⟩ := bind_eq_ok.1 h
    cases unwind with
    | some sale =>
      simp only [pure_eq_ok] at h
      subst h
      obtain ⟨hsale, limits, room, hlim, hroom, hle⟩ := fullUnwind?_eq_some hu
      exact ⟨⟨hlive, rfl, rfl, hl, hp⟩, hop, he, rfl,
        .inl ⟨rfl, Bool.eq_false_iff.2 hlast, hsale, limits, room, hlim, hroom, hle⟩⟩
    | none =>
      simp only [bind_eq_ok, pure_eq_ok] at h
      obtain ⟨plan, hplan, rfl⟩ := h
      exact ⟨⟨hlive, rfl, rfl, hl, hp⟩, hop, he, rfl, .inr ⟨chunk, rfl, hc, hplan⟩⟩

end Decide

end Fund

end LeverageKeeper
