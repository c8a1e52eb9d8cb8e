import LeverageKeeper.Fund.Basic

/-!
# Calls that set things up

The operator changes settings, venues and the list of callers, and takes out what is set aside for
bounties.  Anyone may add to it.  Settings stay as they are while a trade is under way.
-/

namespace LeverageKeeper.Fund

/-- A change of the strategy that is decided as a whole. -/
def change (f : Fund) (decision : Outcome Strategy) : Fund × Outcome Unit :=
  f.attempt decision fun strategy => ({ f with strategy }, .ok ())

/-! ### Settings -/

def decideSettings (f : Fund) (caller : Address) (action : String) (next : Settings) :
    Outcome Strategy := do
  f.guard.requireOperator caller action
  f.requireLive
  demand (f.strategy.twap.isActive = false) (.invalidSettings .frozen)
  demand (next.violations = []) (.invalidSettings (.violated next.violations))
  return { f.strategy with settings := next }

def setMethodology (f : Fund) (caller : Address) (methodology : Methodology) : Fund × Outcome Unit :=
  f.change (f.decideSettings caller "set methodology" { f.strategy.settings with methodology })

def setExecution (f : Fund) (caller : Address) (execution : Execution) : Fund × Outcome Unit :=
  f.change (f.decideSettings caller "set execution" { f.strategy.settings with execution })

def setIncentive (f : Fund) (caller : Address) (incentive : Incentive) : Fund × Outcome Unit :=
  f.change (f.decideSettings caller "set incentive" { f.strategy.settings with incentive })

/-! ### Venues -/

/-- A change of the registry by the operator. -/
def decideVenues (f : Fund) (caller : Address) (action : String) (next : Checked Registry) :
    Outcome Strategy := do
  f.guard.requireOperator caller action
  f.requireLive
  let venues ← next
  return { f.strategy with venues }

def addVenue (f : Fund) (caller : Address) (name : String) (venue : Venue) (terms : Terms) :
    Fund × Outcome Unit :=
  f.change (f.decideVenues caller "add venue" (f.strategy.venues.add name venue terms))

def updateVenue (f : Fund) (caller : Address) (name : String) (terms : Terms) :
    Fund × Outcome Unit :=
  f.change (f.decideVenues caller "update venue" (f.strategy.venues.update name terms))

def removeVenue (f : Fund) (caller : Address) (name : String) : Fund × Outcome Unit :=
  f.change (f.decideVenues caller "remove venue" ((f.strategy.venues.remove name).map (·.1)))

/-! ### Callers -/

/-- A change of the guard.  It does not need the strategy. -/
def changeGuard (f : Fund) (decision : Checked Guard) : Fund × Outcome Unit :=
  f.attempt (decision : Outcome Guard) fun guard => ({ f with guard }, .ok ())

def setCallerStatus (f : Fund) (caller account : Address) (allowed : Bool) : Fund × Outcome Unit :=
  f.changeGuard (f.guard.setStatus caller account allowed)

def setAnyoneCallable (f : Fund) (caller : Address) (isOpen : Bool) : Fund × Outcome Unit :=
  f.changeGuard (f.guard.setOpen caller isOpen)

/-! ### The reserve -/

def withReserve (f : Fund) (reserve : Decimal) : Fund :=
  { f with strategy := { f.strategy with reserve } }

def decideDeposit (f : Fund) (amount : Decimal) : Outcome Decimal := do
  demand (Decimal.zero < amount) (.invalidSettings (.notPositive amount))
  f.requireLive
  f.strategy.reserve.plus amount

/-- Adds to the reserve, for anyone; the outcome is the new reserve. -/
def depositReward (f : Fund) (amount : Decimal) : Fund × Outcome Decimal :=
  f.attempt (f.decideDeposit amount) fun reserve => (f.withReserve reserve, .ok reserve)

def decideWithdrawal (f : Fund) (caller : Address) : Outcome Ledger := do
  f.guard.requireOperator caller "withdraw reward"
  f.requireLive
  if Decimal.zero < f.strategy.reserve then
    f.ledger.payReward caller f.strategy.reserve
  else return f.ledger

/-- Pays the whole reserve to the operator; the outcome is what was paid. -/
def withdrawReward (f : Fund) (caller : Address) : Fund × Outcome Decimal :=
  f.attempt (f.decideWithdrawal caller) fun ledger =>
    if Decimal.zero < f.strategy.reserve then
      (({ f with ledger } : Fund).withReserve Decimal.zero, .ok f.strategy.reserve)
    else (f, .ok f.strategy.reserve)

end LeverageKeeper.Fund
