import LeverageKeeper.Sizing

/-!
# What to do next

The position is judged afresh every time, from its leverage ratio, the trade that may be under way
and the times of the last trades.  An emergency comes before everything else, and a trade under way
keeps its target until it is done.
-/

namespace LeverageKeeper

/-- A trade that takes several chunks. -/
inductive Twap where
  | idle
  /-- The ratio to reach, the way there, and the units of collateral still to trade. -/
  | under (target : Decimal) (direction : Direction) (remaining : Decimal)
deriving DecidableEq

namespace Twap

def isActive : Twap → Bool
  | idle => false
  | under .. => true

def target? : Twap → Option Decimal
  | idle => none
  | under target .. => some target

/-- The trade that is under way after a chunk toward `target`. -/
def after (target : Decimal) (direction : Direction) (c : Chunk) : Twap :=
  if c.chunked then under target direction c.remaining else idle

end Twap

/-- How a position stands. -/
inductive Phase where
  | idle
  | rebalanceDue
  | twapInProgress
  | ripcordEligible
deriving DecidableEq

/-- What a keeper should call. -/
inductive Action where
  | none
  | rebalance
  | iterate
  | ripcord
deriving DecidableEq

/-- What a decision depends on besides the leverage ratio and the venue. -/
structure Circumstances where
  settings : Settings
  twap : Twap
  lastRebalance : UInt64
  now : UInt64

namespace Methodology

def isOutside (m : Methodology) (current : Decimal) : Bool :=
  current < m.least ∨ m.most < current

end Methodology

namespace Circumstances

/-- Seconds until the next unforced rebalance. -/
def intervalRemaining (c : Circumstances) : UInt64 :=
  Cooldown.remaining c.lastRebalance c.settings.methodology.interval c.now

/-- How a position with the given ratio stands. -/
def phase (c : Circumstances) (current : Decimal) : Phase :=
  if c.settings.incentive.ratio ≤ current then .ripcordEligible
  else if c.twap.isActive then .twapInProgress
  else if c.settings.methodology.isOutside current ∧ c.intervalRemaining = 0 then .rebalanceDue
  else .idle

/-- What to call on a venue, whose own cooldown is respected. -/
def action (c : Circumstances) (t : Terms) : Phase → Action
  | .ripcordEligible =>
    if Cooldown.isOver t.lastTrade c.settings.incentive.cooldown c.now then .ripcord else .none
  | .rebalanceDue =>
    if Cooldown.isOver t.lastTrade c.settings.execution.cooldown c.now then .rebalance else .none
  | .twapInProgress =>
    if Cooldown.isOver t.lastTrade c.settings.execution.cooldown c.now then .iterate else .none
  | .idle => .none

end Circumstances

end LeverageKeeper
