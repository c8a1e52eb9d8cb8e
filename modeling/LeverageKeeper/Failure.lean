import LeverageKeeper.Settings.Rules

/-!
# How a call can fail

A call is refused for a reason that it reports, and then it has decided not to act; or it crashes
in the middle of a computation, which halts the strategy for good.
-/

namespace LeverageKeeper

/-! ### Reasons -/

/-- Why a number could not be formed. -/
inductive NumericFault where
  | unitsTooLarge (units : Nat)
  | negativeAmount (amount : Decimal)
  | amountTooLarge (amount : Decimal) (decimals : Nat)
  | collateralValue
  | debtValue
  | leverageRatio
  | ratioBelowOne (ratio : Decimal)
  | notional
  | toBorrow
  | toCollateral
deriving DecidableEq

def NumericFault.message : NumericFault → String
  | unitsTooLarge units => "raw amount " ++ toString units ++ " exceeds decimal range"
  | negativeAmount amount => "negative token amount " ++ amount.text
  | amountTooLarge amount decimals =>
    "amount " ++ amount.text ++ " overflows at " ++ toString decimals ++ " decimals"
  | collateralValue => "collateral value overflow"
  | debtValue => "debt value overflow"
  | leverageRatio => "leverage ratio overflow"
  | ratioBelowOne ratio => "leverage ratio " ++ ratio.text ++ " below 1"
  | notional => "rebalance notional overflow"
  | toBorrow => "collateral/borrow conversion overflow"
  | toCollateral => "borrow/collateral conversion overflow"

/-- Why a feed gives no price. -/
inductive PriceFault where
  | noReading
  | notPositive (answer : Int) (decimals : Nat)
  | notRepresentable (price : Decimal) (decimals : Nat)
deriving DecidableEq

def PriceFault.message : PriceFault → String
  | noReading => "no reading received yet"
  | notPositive answer decimals =>
    "answer " ++ toString answer ++ " at " ++ toString decimals ++ " decimals is not a positive price"
  | notRepresentable price decimals =>
    "price " ++ price.text ++ " not representable at " ++ toString decimals ++ " decimals"

/-- Why there is nothing to trade. -/
inductive IdleReason where
  | aboveIncentivized (current : Decimal)
  | inProgress
  | withinBounds (current : Decimal)
  | atTarget (current : Decimal)
  | noneInProgress
  | belowIncentivized (current ratio : Decimal)
  | emptyChunk (total cap headroom : Decimal)
deriving DecidableEq

def IdleReason.message : IdleReason → String
  | aboveIncentivized current =>
    "leverage " ++ current.text ++ " is above the incentivized ratio; call ripcord"
  | inProgress => "rebalance in progress; call iterate_rebalance"
  | withinBounds current => "leverage " ++ current.text ++ " within bounds"
  | atTarget current => "leverage " ++ current.text ++ " at target"
  | noneInProgress => "no rebalance in progress"
  | belowIncentivized current ratio =>
    "leverage " ++ current.text ++ " below incentivized ratio " ++ ratio.text
  | emptyChunk total cap headroom =>
    "chunk size is zero (total " ++ total.text ++ ", venue cap " ++ cap.text ++ ", headroom "
      ++ headroom.text ++ ")"

/-- Why a venue did not fill an order. -/
inductive VenueFault where
  | shortFill (received minimum : Decimal)
  | noPrice (feed : Address)
  | fillTooLarge
  | other (reason : String)
deriving DecidableEq

def VenueFault.message : VenueFault → String
  | shortFill received minimum => "filled " ++ received.text ++ " below minimum " ++ minimum.text
  | noPrice feed => "no usable price for " ++ feed.text
  | fillTooLarge => "fill amount overflow"
  | other reason => reason

/-- Why the ledger refused an entry. -/
inductive LedgerFault where
  | collateralTooLarge
  | debtTooLarge
  | idleTooLarge
  | notHeld (sold held : Nat)
  | outage (reason : String)
deriving DecidableEq

def LedgerFault.message : LedgerFault → String
  | collateralTooLarge => "collateral overflow"
  | debtTooLarge => "debt overflow"
  | idleTooLarge => "idle balance overflow"
  | notHeld sold held => "cannot withdraw " ++ toString sold ++ ", only " ++ toString held ++ " held"
  | outage reason => reason

/-- Why settings or a deposit were turned down. -/
inductive SettingsFault where
  | violated (rules : List Violation)
  | duplicate (venue : String)
  | frozen
  | notPositive (amount : Decimal)
deriving DecidableEq

def SettingsFault.message : SettingsFault → String
  | violated rules => String.intercalate "; " (rules.map Violation.message)
  | duplicate venue => "venue " ++ venue ++ " already registered"
  | frozen => "settings are frozen while a rebalance is in progress"
  | notPositive amount => "reward deposit must be positive, got " ++ amount.text

/-! ### Refusals -/

/-- Why a call was refused. -/
inductive Refusal where
  | oracleStale (feed : Address) (age most : UInt64)
  | invalidPrice (feed : Address) (fault : PriceFault)
  | undercollateralized (collateral debt : Decimal)
  | emptyPosition
  | notEngaged
  | alreadyEngaged (debt : Nat)
  | cooldownActive (venue : String) (remaining : UInt64)
  | noRebalanceNeeded (reason : IdleReason)
  | slippageExceeded (venue : String) (minimum received : Decimal)
  | venueFailure (venue : String) (fault : VenueFault)
  | unknownVenue (venue : String)
  | ledger (fault : LedgerFault)
  | unauthorized (caller : Address) (action : String)
  | invalidSettings (fault : SettingsFault)
  | numeric (fault : NumericFault)
  | halted
deriving DecidableEq

/-- How a refusal is reported. -/
def Refusal.message : Refusal → String
  | oracleStale feed age most =>
    "oracle stale: feed " ++ feed.text ++ " is " ++ toString age.toNat ++ "s old (max "
      ++ toString most.toNat ++ "s)"
  | invalidPrice feed fault => "invalid price from feed " ++ feed.text ++ ": " ++ fault.message
  | undercollateralized collateral debt =>
    "position undercollateralized: debt value " ++ debt.text ++ " >= collateral value "
      ++ collateral.text
  | emptyPosition => "position has no collateral"
  | notEngaged => "position is not engaged"
  | alreadyEngaged debt => "position already engaged: outstanding debt " ++ toString debt
  | cooldownActive venue remaining =>
    "cooldown active on " ++ venue ++ ": " ++ toString remaining.toNat ++ "s remaining"
  | noRebalanceNeeded reason => "no rebalance needed: " ++ reason.message
  | slippageExceeded venue minimum received =>
    "slippage exceeded on " ++ venue ++ ": received " ++ received.text ++ ", minimum "
      ++ minimum.text
  | venueFailure venue fault => "venue " ++ venue ++ " failed: " ++ fault.message
  | unknownVenue venue => "unknown venue: " ++ venue
  | ledger fault => "ledger error: " ++ fault.message
  | unauthorized caller action =>
    "caller " ++ caller.text ++ " is not authorized to " ++ action
  | invalidSettings fault => "invalid settings: " ++ fault.message
  | numeric fault => "numeric error: " ++ fault.message
  | halted => "internal lock poisoned: strategy state"

/-- Whether waiting is enough to clear the reason. -/
def Refusal.isTransient : Refusal → Bool
  | cooldownActive .. | oracleStale .. | noRebalanceNeeded .. => true
  | _ => false

/-! ### Crashes -/

/-- What a computation broke on. -/
inductive Crash where
  | addition
  | subtraction
  | multiplication
  | division
  | invertedBand
  | venue (message : String)
deriving DecidableEq

def Crash.message : Crash → String
  | addition => "Addition overflowed"
  | subtraction => "Subtraction overflowed"
  | multiplication => "Multiplication overflowed"
  | division => "Division overflowed"
  | invertedBand => "assertion failed: min <= max"
  | venue message => message

inductive Failure where
  | refused (r : Refusal)
  | crashed (c : Crash)
deriving DecidableEq

/-- The result of a computation that can be refused but not crash. -/
abbrev Checked := Except Refusal

/-- The result of a computation that can be refused or crash. -/
abbrev Outcome := Except Failure

instance : MonadLift Checked Outcome := ⟨fun x => x.mapError .refused⟩

@[simp] theorem monadLift_ok (a : α) :
    (MonadLift.monadLift (Except.ok a : Checked α) : Outcome α) = .ok a := rfl

@[simp] theorem monadLift_error (r : Refusal) :
    (MonadLift.monadLift (Except.error r : Checked α) : Outcome α) = .error (.refused r) := rfl

/-- The value, or a refusal when there is none. -/
def orRefuse (r : Refusal) : Option α → Checked α
  | some a => .ok a
  | none => .error r

/-- The value, or a crash when there is none. -/
def orCrash (c : Crash) : Option α → Outcome α
  | some a => .ok a
  | none => .error (.crashed c)

/-- A refusal unless the condition holds. -/
def demand (p : Prop) [Decidable p] (r : Refusal) : Checked Unit :=
  if p then .ok () else .error r

theorem orRefuse_eq_ok {r : Refusal} {x : Option α} {a : α} :
    orRefuse r x = .ok a ↔ x = some a := by
  cases x <;> simp [orRefuse]

theorem orCrash_eq_ok {c : Crash} {x : Option α} {a : α} :
    orCrash c x = .ok a ↔ x = some a := by
  cases x <;> simp [orCrash]

theorem demand_eq_ok {p : Prop} [Decidable p] {r : Refusal} {u : Unit} :
    demand p r = .ok u ↔ p := by
  unfold demand
  split <;> simp_all

end LeverageKeeper
