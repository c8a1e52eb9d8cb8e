import LeverageKeeper.Config.Load
import LeverageKeeper.Fund.Calls
import LeverageKeeper.Fund.Operator
import LeverageKeeper.Venue.Paper

/-!
# Starting from a configuration

The start resolves all addresses, seeds the feeds with the prices on paper, opens a fund with the
collateral on paper, registers a paper venue for every entry, and funds the reserve.  If the
configuration says so, the operator then engages the position on the first venue; a refusal of this
call does not matter.
-/

namespace LeverageKeeper

/-- Why a start did not succeed. -/
inductive BootFault where
  | address (u : UnresolvedAddress)
  | failure (e : Failure)
deriving DecidableEq

/-- A started fund and the account that keeps it. -/
structure Running where
  fund : Fund
  keeper : Address

namespace Config

/-- The prices on paper, as readings of the feeds. -/
def seedFeeds (p : PaperSeed) (a : Assets) (now : UInt64) : Checked Feeds := do
  let feeds ← Feeds.empty.setPrice a.collateralFeed p.prices.collateral a.oracleDecimals now
  feeds.setPrice a.borrowFeed p.prices.borrow a.oracleDecimals now

/-- The fund after a call, which must succeed. -/
def expect : Fund × Outcome α → Outcome Fund
  | (f, .ok _) => .ok f
  | (_, .error e) => .error e

/-- The fund with a paper venue for every entry. -/
def listVenues (operator : Address) : List VenueEntry → Fund → Outcome Fund
  | [], f => .ok f
  | e :: es, f => do
    let f ← expect (f.addVenue operator e.name (Venue.paper e.name f.assets e.feeBps) e.terms)
    listVenues operator es f

/-- The fund with what the seed sets aside for bounties. -/
def fundReserve (p : PaperSeed) (f : Fund) : Outcome Fund :=
  if Decimal.zero < p.rewardDeposit then expect (f.depositReward p.rewardDeposit) else .ok f

/-- The fund before its first trade. -/
def openFund (c : Config) (a : Assets) (operator : Address) (allowed : List Address)
    (collateral : Nat) (feeds : Feeds) (now : UInt64) : Outcome Fund := do
  let ledger : Ledger := ⟨Book.opening collateral, c.options.paper.limits, {}, false⟩
  let f ← Fund.create a c.settings ledger feeds now ⟨operator, AccessList.ofList allowed⟩
  let f ← expect (f.setAnyoneCallable operator c.options.anyoneCallable)
  let f ← listVenues operator c.venues f
  fundReserve c.options.paper f

/-- The fund after its first trade, if there is to be one. -/
def engageFirst (c : Config) (operator : Address) (f : Fund) : Outcome Fund :=
  match c.options.engageOnStart, c.venues with
  | true, e :: _ =>
    match f.engage operator e.name with
    | (_, .error (.crashed crash)) => .error (.crashed crash)
    | (f, _) => .ok f
  | _, _ => .ok f

def failing : Outcome α → Except BootFault α := Except.mapError .failure

def resolving : Resolved α → Except BootFault α := Except.mapError .address

/-- The fund that a configuration describes, before its first trade. -/
def openAt (c : Config) (now : UInt64) : Except BootFault (Fund × Address × Address) := do
  let assets ← resolving c.assets.resolve
  let keeper ← resolving c.options.keeperAddress
  let operator ← resolving c.options.operatorAddress
  let feeds ← failing (seedFeeds c.options.paper assets now)
  let collateral ← failing (c.options.paper.initialCollateral.toUnits assets.collateralDecimals)
  let allowed ← resolving c.options.allowedAddresses
  let fund ← failing (c.openFund assets operator allowed collateral feeds now)
  return (fund, keeper, operator)

/-- Starts a fund when the clock reads `now`. -/
def boot (c : Config) (now : UInt64) : Except BootFault Running := do
  let (fund, keeper, operator) ← c.openAt now
  return ⟨← failing (c.engageFirst operator fund), keeper⟩

end Config

end LeverageKeeper
