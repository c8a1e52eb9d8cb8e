import LeverageKeeper.Sizing

/-!
# Orders and venues

A chunk is planned in whole tokens and sent to a venue as an order in native units.  A venue is
whatever answers orders: it returns the amount of the other token that it pays out, or fails.  It
sees the price feeds and the order and nothing else, and need not keep to the minimum.
-/

namespace LeverageKeeper

/-- An order in whole tokens: what goes in and the least that has to come out. -/
structure Plan where
  direction : Direction
  amountIn : Decimal
  minOut : Decimal
deriving DecidableEq

/-- An order in native units, with what the venue needs to find its way. -/
structure Order where
  direction : Direction
  amountIn : Nat
  minOut : Nat
  route : List UInt8
deriving DecidableEq

/-- The decimals of the token that goes in. -/
def Assets.decimalsIn (a : Assets) : Direction → Nat
  | .lever => a.borrowDecimals
  | .delever => a.collateralDecimals

/-- The decimals of the token that comes out. -/
def Assets.decimalsOut (a : Assets) : Direction → Nat
  | .lever => a.collateralDecimals
  | .delever => a.borrowDecimals

def Terms.route (t : Terms) : Direction → List UInt8
  | .lever => t.leverRoute
  | .delever => t.deleverRoute

/-- The plan of a chunk of `notional` units of collateral. -/
def Plan.ofChunk (direction : Direction) (notional : Decimal) (p : Prices) (slippage : Decimal) :
    Outcome Plan := do
  let worth ← Sizing.toBorrow notional p
  match direction with
  | .lever => return ⟨.lever, worth, ← Sizing.minOut notional slippage⟩
  | .delever => return ⟨.delever, notional, ← Sizing.minOut worth slippage⟩

/-- The order that a plan amounts to, both amounts cut to native units. -/
def Plan.order (p : Plan) (a : Assets) (t : Terms) : Checked Order := do
  let amountIn ← p.amountIn.toUnits (a.decimalsIn p.direction)
  let minOut ← p.minOut.toUnits (a.decimalsOut p.direction)
  return ⟨p.direction, amountIn, minOut, t.route p.direction⟩

structure Venue where
  name : String
  answer : Feeds → Order → Outcome Nat

/-- The refusal of a venue. -/
def Venue.fault (name : String) (fault : VenueFault) : Refusal := .venueFailure name fault

end LeverageKeeper
