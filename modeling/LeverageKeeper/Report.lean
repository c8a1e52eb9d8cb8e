import LeverageKeeper.Decision

/-!
# What a call reports
-/

namespace LeverageKeeper

/-- The call that made a chunk. -/
inductive TradeKind where
  | engage
  | rebalance
  | iterate
  | ripcord
  | disengage
deriving DecidableEq

/-- One executed chunk, amounts in whole tokens. -/
structure Report where
  kind : TradeKind
  venue : String
  direction : Direction
  target : Decimal
  leverageBefore : Decimal
  /-- None when the balances after the trade could not be read or priced. -/
  leverageAfter : Option Decimal
  collateralAmount : Decimal
  borrowAmount : Decimal
  chunked : Bool
  time : UInt64
deriving DecidableEq

/-- How a call to go on with a trade under way ended. -/
inductive Iteration where
  | executed (report : Report)
  /-- The target was reached or crossed already, so nothing was traded. -/
  | cleared (target current : Decimal)
deriving DecidableEq

/-- A pulled ripcord: the chunk, its caller, and the bounty actually paid. -/
structure Rescue where
  report : Report
  recipient : Address
  rewardPaid : Decimal
deriving DecidableEq

end LeverageKeeper
