import LeverageKeeper.Config.Basic
import LeverageKeeper.Settings.Rules

/-!
# Which configurations are allowed

All that is wrong is reported together: the tokens and feeds first, then the settings, the venues,
and how the keeper runs.  Tokens and feeds are compared only if all their addresses are well formed.
-/

namespace LeverageKeeper

/-- What is wrong with the text of an address. -/
inductive AddressFault where
  | empty
  | unmarked (raw : String)
  | wrongLength (raw : String)
  | notHex (raw : String)
deriving DecidableEq

/-- Bytes in the text of an address. -/
abbrev addressLength : Nat := 42

def AddressFault.message : AddressFault → String
  | empty => "address is empty"
  | unmarked raw => "address '" ++ raw ++ "' must start with 0x"
  | wrongLength raw =>
    "address '" ++ raw ++ "' has length " ++ toString raw.utf8ByteSize ++ " (expected "
      ++ toString addressLength ++ ")"
  | notHex raw => "address '" ++ raw ++ "' contains non-hex characters"

/-- The first fault of a text that should be an address. -/
def addressFault? (raw : String) : Option AddressFault :=
  if raw = "" then some .empty
  else if ¬ (['0', 'x'] <+: raw.toList ∨ ['0', 'X'] <+: raw.toList) then some (.unmarked raw)
  else if raw.utf8ByteSize ≠ addressLength then some (.wrongLength raw)
  else if (raw.toList.drop 2).any fun c => (Hex.value? c).isNone then some (.notHex raw)
  else none

/-- Something that is wrong with a configuration. -/
inductive Problem where
  | address (field : String) (fault : AddressFault)
  | rule (v : Violation)
  | noVenue
  | duplicateVenue (name : String)
  | largeFee (name : String) (bps : UInt32)
  | zeroPoll
  | zeroFeedPoll
  | slowFeedPoll (interval staleness : UInt64)
  | badUrl (url : String)
  | negativeCollateral
  | badLtv (part : Decimal)
  | badThreshold (part : Decimal)
  | badPrices
  | negativeDeposit
deriving DecidableEq

def Problem.message : Problem → String
  | address field fault => field ++ ": " ++ fault.message
  | rule v => v.message
  | noVenue => "exchanges: at least one venue is required"
  | duplicateVenue name => "exchanges: duplicate venue name '" ++ name ++ "'"
  | largeFee name bps =>
    "exchanges." ++ name ++ ": paper_fee_bps (" ++ toString bps.toNat ++ ") must be < 10000"
  | zeroPoll => "keeper: poll_interval_seconds must be > 0"
  | zeroFeedPoll => "keeper: feed_poll_interval_seconds must be > 0"
  | slowFeedPoll interval staleness =>
    "keeper: feed_poll_interval_seconds (" ++ toString interval.toNat
      ++ ") must be < strategy.oracle_max_staleness_seconds (" ++ toString staleness.toNat ++ ")"
  | badUrl url => "keeper.rpc_url: '" ++ url ++ "' must be an http(s) URL"
  | negativeCollateral => "keeper.paper: initial_collateral must be >= 0"
  | badLtv part => "keeper.paper: max_ltv (" ++ part.text ++ ") must be in (0, 1)"
  | badThreshold part =>
    "keeper.paper: liquidation_threshold (" ++ part.text ++ ") must be in [max_ltv, 1)"
  | badPrices => "keeper.paper: prices must be > 0"
  | negativeDeposit => "keeper.paper: reward_deposit must be >= 0"

/-- The problem with an address, if there is one. -/
def addressProblems (field raw : String) : List Problem :=
  ((addressFault? raw).map (Problem.address field)).toList

def WrittenAssets.problems (w : WrittenAssets) : List Problem :=
  let malformed :=
    addressProblems "strategy.collateral_asset" w.collateral
      ++ addressProblems "strategy.borrow_asset" w.borrow
      ++ addressProblems "strategy.collateral_price_oracle" w.collateralFeed
      ++ addressProblems "strategy.borrow_price_oracle" w.borrowFeed
  if malformed = [] then
    match w.resolve with
    | .ok a => a.violations.map Problem.rule
    | .error _ => []
  else malformed

/-- The problems of the venues that follow those of the names in `seen`. -/
def venueProblems (seen : List String) : List VenueEntry → List Problem
  | [] => []
  | e :: es =>
    brokenIf (e.name ∈ seen) (.duplicateVenue e.name)
      ++ (e.terms.violations e.name).map Problem.rule
      ++ brokenIf (10000 ≤ e.feeBps) (.largeFee e.name e.feeBps)
      ++ venueProblems (e.name :: seen) es

def PaperSeed.problems (p : PaperSeed) : List Problem :=
  brokenIf (p.initialCollateral < Decimal.zero) .negativeCollateral
    ++ brokenIf (p.limits.maxLtv ≤ Decimal.zero ∨ Decimal.one ≤ p.limits.maxLtv)
      (.badLtv p.limits.maxLtv)
    ++ brokenIf (p.limits.liquidationThreshold < p.limits.maxLtv
        ∨ Decimal.one ≤ p.limits.liquidationThreshold)
      (.badThreshold p.limits.liquidationThreshold)
    ++ brokenIf (p.prices.collateral ≤ Decimal.zero ∨ p.prices.borrow ≤ Decimal.zero) .badPrices
    ++ brokenIf (p.rewardDeposit < Decimal.zero) .negativeDeposit

/-- Whether a text names a place on the web. -/
def isWebUrl (url : String) : Bool :=
  "http://".toList <+: url.toList ∨ "https://".toList <+: url.toList

/-- Feeds that are read less often than their readings grow stale would always be stale. -/
def KeeperOptions.problems (k : KeeperOptions) (maxStaleness : UInt64) : List Problem :=
  addressProblems "keeper.keeper_address" k.keeper
    ++ addressProblems "keeper.operator_address" k.operator
    ++ k.allowed.flatMap (addressProblems "keeper.allowed_callers")
    ++ brokenIf (k.pollInterval = 0) .zeroPoll
    ++ brokenIf (k.feedPollInterval = 0) .zeroFeedPoll
    ++ brokenIf (k.rpcUrl.isSome ∧ maxStaleness ≤ k.feedPollInterval)
      (.slowFeedPoll k.feedPollInterval maxStaleness)
    ++ (k.rpcUrl.toList.filter fun url => !isWebUrl url).map Problem.badUrl
    ++ k.paper.problems

def Config.problems (c : Config) : List Problem :=
  c.assets.problems
    ++ c.settings.violations.map Problem.rule
    ++ brokenIf (c.venues = []) .noVenue
    ++ venueProblems [] c.venues
    ++ c.options.problems c.assets.maxStaleness

end LeverageKeeper
