import LeverageKeeper.Position
import LeverageKeeper.Settings.Basic

/-!
# The configuration of a keeper

What is written in the configuration files.  Addresses are kept as they are written, so that all
that are malformed can be reported together; they are resolved once the configuration is checked.
-/

namespace LeverageKeeper

structure Logging where
  dir : String
  filePrefix : String
  filter : Option String
deriving DecidableEq

/-- Tokens and feeds by the text of their addresses. -/
structure WrittenAssets where
  collateral : String
  borrow : String
  collateralFeed : String
  borrowFeed : String
  collateralDecimals : Nat
  borrowDecimals : Nat
  oracleDecimals : Nat
  maxStaleness : UInt64
deriving DecidableEq

/-- A venue to be registered, and the fee of its stand-in on paper. -/
structure VenueEntry where
  name : String
  terms : Terms
  feeBps : UInt32
deriving DecidableEq

/-- What a position on paper starts from. -/
structure PaperSeed where
  /-- Whole tokens. -/
  initialCollateral : Decimal
  limits : LendingLimits
  prices : Prices
  rewardDeposit : Decimal
deriving DecidableEq

/-- How the keeper runs.  Intervals are in seconds. -/
structure KeeperOptions where
  keeper : String
  operator : String
  allowed : List String
  anyoneCallable : Bool
  pollInterval : UInt64
  feedPollInterval : UInt64
  /-- Where feeds are read from; without it their prices are made up on paper. -/
  rpcUrl : Option String
  engageOnStart : Bool
  paper : PaperSeed
deriving DecidableEq

structure Config where
  logging : Logging
  assets : WrittenAssets
  settings : Settings
  venues : List VenueEntry
  options : KeeperOptions
deriving DecidableEq

/-! ### Resolving addresses -/

/-- An address that cannot be resolved, and where it stands. -/
structure UnresolvedAddress where
  field : String
  raw : String
deriving DecidableEq

def UnresolvedAddress.message (u : UnresolvedAddress) : String :=
  u.field ++ ": invalid address '" ++ u.raw ++ "'"

/-- What resolving an address comes to. -/
abbrev Resolved := Except UnresolvedAddress

def resolve (field raw : String) : Resolved Address :=
  match Address.ofText? raw with
  | some a => .ok a
  | none => .error ⟨field, raw⟩

def WrittenAssets.resolve (w : WrittenAssets) : Resolved Assets := do
  return {
    collateral := ← LeverageKeeper.resolve "collateral_asset" w.collateral
    borrow := ← LeverageKeeper.resolve "borrow_asset" w.borrow
    collateralFeed := ← LeverageKeeper.resolve "collateral_price_oracle" w.collateralFeed
    borrowFeed := ← LeverageKeeper.resolve "borrow_price_oracle" w.borrowFeed
    collateralDecimals := w.collateralDecimals
    borrowDecimals := w.borrowDecimals
    oracleDecimals := w.oracleDecimals
    maxStaleness := w.maxStaleness }

namespace KeeperOptions

def keeperAddress (k : KeeperOptions) : Resolved Address := resolve "keeper_address" k.keeper

def operatorAddress (k : KeeperOptions) : Resolved Address := resolve "operator_address" k.operator

def allowedAddresses (k : KeeperOptions) : Resolved (List Address) :=
  k.allowed.mapM (resolve "allowed_callers")

end KeeperOptions

end LeverageKeeper
