import LeverageKeeper.Fund.Trade

/-!
# Questions about the fund

Each question is answered from fresh prices and balances.  Most of them need the strategy, so they
are refused once it is halted, and halt it themselves if the answer crashes.
-/

namespace LeverageKeeper.Fund

/-- The leverage ratio now. -/
def leverage (f : Fund) : Outcome Decimal := f.position.map (·.leverage)

/-- How the position stands; one that owes nothing is left alone. -/
def phaseOf (f : Fund) (p : Position) : Phase :=
  if p.isEngaged then f.circumstances.phase p.leverage else .idle

/-- What to call on each venue, in the order of the names. -/
def actions (f : Fund) : Outcome (List (String × Action)) := do
  f.requireLive
  let p ← f.position
  return f.strategy.venues.entries.map fun (name, l) =>
    (name, f.circumstances.action l.terms (f.phaseOf p))

/-- The target and the cap of the chunk that comes next on a venue. -/
def nextTarget (f : Fund) (t : Terms) (current : Decimal) : Outcome (Decimal × Decimal) := do
  let s := f.strategy.settings
  match f.circumstances.phase current with
  | .ripcordEligible => return (s.methodology.most, t.incentivizedCap)
  | .twapInProgress => return (f.strategy.twap.target?.getD s.methodology.target, t.cap)
  | .rebalanceDue | .idle => return (← Sizing.recentered current s.methodology, t.cap)

/-- The chunk that the next call on a venue would trade, and which way. -/
def preview (f : Fund) (venue : String) : Outcome (Chunk × Direction) := do
  f.requireLive
  let listing ← f.strategy.venues.get venue
  let p ← f.position
  let (target, cap) ← f.nextTarget listing.terms p.leverage
  let direction ← (← Sizing.direction? target p.leverage)
    |> orRefuse (.noRebalanceNeeded (.atTarget p.leverage))
  return (← f.nextChunk p target direction cap, direction)

/-- Something that the strategy keeps. -/
def kept (f : Fund) (part : Strategy → Checked α) : Outcome α := do
  f.requireLive
  part f.strategy

end LeverageKeeper.Fund
