import LeverageKeeper.Position

/-!
# Sizing a trade

How much collateral has to change hands to move the leverage ratio to a target, and how much of it
may in one chunk.  Exchanging `x` of the collateral's `C` units against debt of the same value
leaves the equity alone, so moving from ratio `L` to `L'` takes `x = |L' - L| / L * C`.
-/

namespace LeverageKeeper

/-- Which way a trade moves the leverage ratio: borrow and buy collateral, or sell collateral and
repay. -/
inductive Direction where
  | lever
  | delever
deriving DecidableEq

def Direction.name : Direction → String
  | lever => "lever"
  | delever => "delever"

/-- One chunk of a trade, in units of collateral. -/
structure Chunk where
  notional : Decimal
  /-- What reaching the target would take at once. -/
  total : Decimal
  /-- More chunks are to follow. -/
  chunked : Bool
deriving DecidableEq

/-- What is left to trade after the chunk.  A chunk is never larger than the whole, so the
difference exists. -/
def Chunk.remaining (c : Chunk) : Decimal := (c.total.sub? c.notional).getD Decimal.zero

namespace Sizing

/-- Ratios closer than this are the same. -/
def tolerance : Decimal := ⟨false, 1, 9, Decimal.one.digits_lt, by decide⟩

/-- The ratio to aim at from `current`: part of the way to the target, brought into the band. -/
def recentered (current : Decimal) (m : Methodology) : Outcome Decimal := do
  let pull ← m.target.times m.speed
  let stay ← current.times (← Decimal.one.minus m.speed)
  (← pull.plus stay).clamp m.least m.most

/-- The direction that leads from `current` to `target`, if they differ. -/
def direction? (target current : Decimal) : Outcome (Option Direction) := do
  let gap ← target.minus current
  return if gap.abs ≤ tolerance then none
    else if 0 < gap.coeff then some .lever
    else some .delever

/-- Whether a trade in the given direction has nothing left to do. -/
def reached (target current : Decimal) : Direction → Outcome Bool
  | .lever => do return (← target.minus tolerance) ≤ current
  | .delever => do return current ≤ (← target.plus tolerance)

/-- Units of collateral to exchange on the way from `current` to `target`. -/
def totalNotional (target current collateralUnits : Decimal) : Outcome Decimal := do
  if current < Decimal.one then
    throw (.refused (.numeric (.ratioBelowOne current)))
  let gap ← target.minus current
  orRefuse (.numeric .notional)
    ((gap.abs.div? current).bind fun part => part.mul? collateralUnits)

/-- Units of collateral that one trade may move: upward what the largest loan still buys, downward
what can be taken out before the debt reaches the liquidation threshold.  Both limits keep the
unutilized part in hand. -/
def headroom (p : Position) (limits : LendingLimits) (e : Execution) : Direction → Outcome Decimal
  | .lever => do
    let utilization ← Decimal.one.minus e.unutilized
    let borrowable ← (← p.collateralValue.times limits.maxLtv).times utilization
    let free ← borrowable.minus p.debtValue
    return ((free.div? p.collateralPrice).getD Decimal.zero).max Decimal.zero
  | .delever => do
    let utilization ← Decimal.one.minus e.unutilized
    let limit ← (← p.collateralValue.times limits.liquidationThreshold).times utilization
    if limit.isZero then
      return Decimal.zero
    let free ← p.collateralUnits.times (← limit.minus p.debtValue)
    return (← free.dividedBy limit).max Decimal.zero

/-- The next chunk of a trade: the whole of it, cut to the cap and to the headroom. -/
def chunk (total cap headroom : Decimal) : Checked Chunk :=
  let notional := (total.min cap).min headroom
  if notional ≤ Decimal.zero then
    .error (.noRebalanceNeeded (.emptyChunk total cap headroom))
  else .ok ⟨notional, total, decide (notional < total)⟩

/-- What units of collateral are worth in the borrowed token. -/
def toBorrow (units : Decimal) (p : Prices) : Checked Decimal :=
  orRefuse (.numeric .toBorrow)
    ((units.mul? p.collateral).bind fun value => value.div? p.borrow)

/-- What an amount of the borrowed token is worth in units of collateral. -/
def toCollateral (amount : Decimal) (p : Prices) : Checked Decimal :=
  orRefuse (.numeric .toCollateral)
    ((amount.mul? p.borrow).bind fun value => value.div? p.collateral)

/-- The least that may come out of a trade worth `amount`. -/
def minOut (amount slippage : Decimal) : Outcome Decimal := do
  amount.times (← Decimal.one.minus slippage)

/-- The most that may go into a trade worth `amount`. -/
def maxIn (amount slippage : Decimal) : Outcome Decimal := do
  amount.times (← Decimal.one.plus slippage)

end Sizing

end LeverageKeeper
