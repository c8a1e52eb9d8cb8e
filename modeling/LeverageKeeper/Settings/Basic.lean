import LeverageKeeper.Address
import LeverageKeeper.Decimal.Text

/-!
# What the operator decides

The tokens and feeds of a position are fixed for good.  The leverage band, the way trades are
executed and the terms of an emergency can be changed together with the terms of each venue.
-/

namespace LeverageKeeper

/-- Which tokens the position holds and owes, which feeds price them, and in what precision. -/
structure Assets where
  collateral : Address
  borrow : Address
  collateralFeed : Address
  borrowFeed : Address
  collateralDecimals : Nat
  borrowDecimals : Nat
  oracleDecimals : Nat
  /-- The greatest age, in seconds, at which a reading still counts. -/
  maxStaleness : UInt64
deriving DecidableEq

/-- The band in which the leverage ratio may drift, and how it is brought back. -/
structure Methodology where
  target : Decimal
  least : Decimal
  most : Decimal
  /-- The part of the way to the target that one rebalance goes. -/
  speed : Decimal
  /-- The least number of seconds between two unforced rebalances. -/
  interval : UInt64
deriving DecidableEq

/-- How ordinary chunks are traded. -/
structure Execution where
  /-- The part of the borrowing power that is left alone. -/
  unutilized : Decimal
  cooldown : UInt64
  slippage : Decimal
deriving DecidableEq

/-- How an emergency is traded, and what its caller earns. -/
structure Incentive where
  /-- The leverage ratio from which anyone may pull the ripcord. -/
  ratio : Decimal
  cooldown : UInt64
  slippage : Decimal
  reward : Decimal
deriving DecidableEq

/-- The three blocks that are checked together. -/
structure Settings where
  methodology : Methodology
  execution : Execution
  incentive : Incentive
deriving DecidableEq

/-- What is agreed for one venue: the largest chunks, the time of the last one, and what goes with
an order in each direction. -/
structure Terms where
  cap : Decimal
  incentivizedCap : Decimal
  lastTrade : UInt64
  leverRoute : List UInt8
  deleverRoute : List UInt8
deriving DecidableEq

end LeverageKeeper
