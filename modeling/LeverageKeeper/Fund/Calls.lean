import LeverageKeeper.Fund.Trade

/-!
# The five calls that trade

Each call has its own conditions and its own target; what it decides is a trade.  `engage` takes an
unlevered position to its target, `rebalance` brings one back that left the band, `iterate` goes on
with a trade under way, `ripcord` takes a position out of danger, and `disengage` unwinds it.
-/

namespace LeverageKeeper.Fund

/-- Refuses a position that only a ripcord may touch. -/
def requireBelowIncentivized (f : Fund) (current : Decimal) : Checked Unit :=
  demand (current < f.strategy.settings.incentive.ratio)
    (.noRebalanceNeeded (.aboveIncentivized current))

/-! ### Engage -/

def decideEngage (f : Fund) (caller : Address) (venue : String) : Outcome Trade := do
  f.guard.requireOperator caller "engage"
  f.requireLive
  let listing ← f.strategy.venues.get venue
  let balances ← f.ledger.balances
  demand (balances.debt = 0) (.alreadyEngaged balances.debt)
  let p ← f.position
  let s := f.strategy.settings
  f.prepare .engage venue listing p s.methodology.target .lever listing.terms.cap
    s.execution.slippage

/-- Levers an unlevered position up to its target, for the operator. -/
def engage (f : Fund) (caller : Address) (venue : String) : Fund × Outcome Report :=
  f.attempt (f.decideEngage caller venue) fun t =>
    f.settleThen t fun f r => (f.withTwap t.twapAfter, .ok r)

/-! ### Rebalance -/

/-- Refuses a position that is not due. -/
def requireDue (f : Fund) (venue : String) (current : Decimal) : Checked Unit :=
  match f.circumstances.phase current with
  | .rebalanceDue => .ok ()
  | .twapInProgress => .error (.noRebalanceNeeded .inProgress)
  | .idle =>
    if f.strategy.settings.methodology.isOutside current then
      .error (.cooldownActive venue f.circumstances.intervalRemaining)
    else .error (.noRebalanceNeeded (.withinBounds current))
  | .ripcordEligible => .error (.noRebalanceNeeded (.withinBounds current))

/-- The direction to a target, which must not be reached yet. -/
def directionTo (target current : Decimal) : Outcome Direction := do
  orRefuse (.noRebalanceNeeded (.atTarget current)) (← Sizing.direction? target current)

def decideRebalance (f : Fund) (caller : Address) (venue : String) : Outcome Trade := do
  f.guard.requireAllowed caller "rebalance"
  f.requireLive
  let listing ← f.strategy.venues.get venue
  let p ← f.position
  p.requireEngaged
  f.requireBelowIncentivized p.leverage
  let s := f.strategy.settings
  Cooldown.require venue listing.terms.lastTrade s.execution.cooldown f.now
  f.requireDue venue p.leverage
  let target ← Sizing.recentered p.leverage s.methodology
  let direction ← directionTo target p.leverage
  f.prepare .rebalance venue listing p target direction listing.terms.cap s.execution.slippage

/-- Brings a position back that left its band, once the interval has passed, for callers on the
list. -/
def rebalance (f : Fund) (caller : Address) (venue : String) : Fund × Outcome Report :=
  f.attempt (f.decideRebalance caller venue) fun t =>
    f.settleThen t fun f r => (f.withTwap t.twapAfter, .ok r)

/-! ### Iterate -/

/-- What going on with a trade under way amounts to. -/
inductive NextStep where
  | trade (t : Trade)
  | clear (target current : Decimal)

/-- The target and direction of the trade under way. -/
def underWay (f : Fund) : Checked (Decimal × Direction) :=
  match f.strategy.twap with
  | .under target direction _ => .ok (target, direction)
  | .idle => .error (.noRebalanceNeeded .noneInProgress)

def decideIterate (f : Fund) (caller : Address) (venue : String) : Outcome NextStep := do
  f.guard.requireAllowed caller "iterate"
  f.requireLive
  let listing ← f.strategy.venues.get venue
  let (target, direction) ← f.underWay
  let p ← f.position
  p.requireEngaged
  f.requireBelowIncentivized p.leverage
  let s := f.strategy.settings
  Cooldown.require venue listing.terms.lastTrade s.execution.cooldown f.now
  if ← Sizing.reached target p.leverage direction then
    return .clear target p.leverage
  return .trade (← f.prepare .iterate venue listing p target direction listing.terms.cap
    s.execution.slippage)

/-- Goes on with the trade under way toward its own target, for callers on the list.  A target that
fresh prices have reached ends it without a trade. -/
def iterate (f : Fund) (caller : Address) (venue : String) : Fund × Outcome Iteration :=
  f.attempt (f.decideIterate caller venue) fun
    | .clear target current => (f.withTwap .idle, .ok (.cleared target current))
    | .trade t => f.settleThen t fun f r => (f.withTwap t.twapAfter, .ok (.executed r))

/-! ### Ripcord -/

def decideRipcord (f : Fund) (venue : String) : Outcome Trade := do
  f.requireLive
  let listing ← f.strategy.venues.get venue
  let p ← f.position
  let s := f.strategy.settings
  demand (s.incentive.ratio ≤ p.leverage)
    (.noRebalanceNeeded (.belowIncentivized p.leverage s.incentive.ratio))
  Cooldown.require venue listing.terms.lastTrade s.incentive.cooldown f.now
  f.prepare .ripcord venue listing p s.methodology.most .delever listing.terms.incentivizedCap
    s.incentive.slippage

/-- What the next bounty amounts to: the promised reward, as far as the reserve goes. -/
def bounty (f : Fund) : Decimal := f.strategy.settings.incentive.reward.min f.strategy.reserve

/-- Pays the bounty and takes it from the reserve.  A payment that fails costs nothing. -/
def payBounty (f : Fund) (payee : Address) : Fund × Decimal :=
  if f.bounty ≤ Decimal.zero then (f, Decimal.zero)
  else match f.ledger.payReward payee f.bounty with
    | .ok ledger =>
      let reserve := (f.strategy.reserve.sub? f.bounty).getD Decimal.zero
      ({ f with ledger, strategy := { f.strategy with reserve } }, f.bounty)
    | .error _ => (f, Decimal.zero)

/-- Delevers a position in danger to the top of its band, for anyone, and pays the caller. -/
def ripcord (f : Fund) (caller : Address) (venue : String) : Fund × Outcome Rescue :=
  f.attempt (f.decideRipcord venue) fun t =>
    f.settleThen t fun f r =>
      let (f, rewardPaid) := (f.withTwap .idle).payBounty caller
      (f, .ok ⟨r, caller, rewardPaid⟩)

/-! ### Disengage -/

/-- The sale that repays the whole debt with room for slippage, if one trade may be that large. -/
def fullUnwind? (f : Fund) (p : Position) (cap : Decimal) : Outcome (Option Decimal) := do
  let owed ← Sizing.toCollateral p.debtUnits p.prices
  let limits ← f.ledger.lendingLimits
  let headroom ← Sizing.headroom p limits f.strategy.settings.execution .delever
  let sale ← Sizing.maxIn owed f.strategy.settings.execution.slippage
  return if sale ≤ (p.collateralUnits.min cap).min headroom then some sale else none

def decideDisengage (f : Fund) (caller : Address) (venue : String) : Outcome Trade := do
  f.guard.requireOperator caller "disengage"
  f.requireLive
  let listing ← f.strategy.venues.get venue
  let p ← f.position
  p.requireEngaged
  let cap := listing.terms.cap
  let slippage := f.strategy.settings.execution.slippage
  let chunk ← f.nextChunk p Decimal.one .delever cap
  let unwind ← if chunk.chunked then pure none else f.fullUnwind? p cap
  match unwind with
  | some sale =>
    return ⟨.disengage, venue, listing, Decimal.one, p, chunk, ⟨.delever, sale, p.debtUnits⟩⟩
  | none =>
    let plan ← Plan.ofChunk .delever chunk.notional p.prices slippage
    return ⟨.disengage, venue, listing, Decimal.one, p, { chunk with chunked := true }, plan⟩

/-- Unwinds a position, for the operator: one chunk at a time, and the last one repays the whole
debt. -/
def disengage (f : Fund) (caller : Address) (venue : String) : Fund × Outcome Report :=
  f.attempt (f.decideDisengage caller venue) fun t =>
    f.settleThen t fun f r => (f.withTwap .idle, .ok r)

end LeverageKeeper.Fund
