import LeverageKeeper.Fund.Basic

/-!
# Settling a trade

Every call that trades first prepares a trade: the chunk, and the plan of the order for it.  The
trade is then settled in the same way whatever the call: the venue is asked once, an answer below
the minimum is refused, an accepted one is entered in the ledger, and the venue and the strategy
are stamped with the time.
-/

namespace LeverageKeeper

/-- A trade that is ready to be settled. -/
structure Trade where
  kind : TradeKind
  venue : String
  listing : Listing
  target : Decimal
  position : Position
  chunk : Chunk
  plan : Plan

/-- An order and what came of it. -/
structure Fill where
  order : Order
  received : Nat

/-- The collateral and the borrowed token that changed hands, in whole tokens. -/
def Fill.amounts (x : Fill) (a : Assets) : Outcome (Decimal × Decimal) := do
  match x.order.direction with
  | .lever =>
    let collateral ← Decimal.ofUnits x.received a.collateralDecimals
    let borrow ← Decimal.ofUnits x.order.amountIn a.borrowDecimals
    return (collateral, borrow)
  | .delever =>
    let collateral ← Decimal.ofUnits x.order.amountIn a.collateralDecimals
    let borrow ← Decimal.ofUnits x.received a.borrowDecimals
    return (collateral, borrow)

namespace Trade

/-- Sends the order to the venue and refuses an answer below the minimum. -/
def fill (t : Trade) (a : Assets) (feeds : Feeds) : Outcome Fill := do
  let order ← t.plan.order a t.listing.terms
  let received ← t.listing.venue.answer feeds order
  if received < order.minOut then
    let got ← Decimal.ofUnits received (a.decimalsOut order.direction)
    throw (.refused (Venue.fault t.listing.venue.name (.shortFill got t.plan.minOut)))
  return ⟨order, received⟩

/-- The trade that stays under way once this one is settled. -/
def twapAfter (t : Trade) : Twap := Twap.after t.target t.plan.direction t.chunk

end Trade

namespace Fund

/-- The next chunk toward `target`. -/
def nextChunk (f : Fund) (p : Position) (target : Decimal) (direction : Direction)
    (cap : Decimal) : Outcome Chunk := do
  let total ← Sizing.totalNotional target p.leverage p.collateralUnits
  let limits ← f.ledger.lendingLimits
  let headroom ← Sizing.headroom p limits f.strategy.settings.execution direction
  Sizing.chunk total cap headroom

/-- The trade of the next chunk toward `target`. -/
def prepare (f : Fund) (kind : TradeKind) (venue : String) (listing : Listing) (p : Position)
    (target : Decimal) (direction : Direction) (cap slippage : Decimal) : Outcome Trade := do
  let chunk ← f.nextChunk p target direction cap
  let plan ← Plan.ofChunk direction chunk.notional p.prices slippage
  return ⟨kind, venue, listing, target, p, chunk, plan⟩

/-- The leverage ratio at earlier prices, if the balances can be read and priced. -/
def leverageAt (f : Fund) (p : Prices) : Option Decimal :=
  (do (← f.ledger.balances).position p f.assets : Outcome Position).toOption.map (·.leverage)

/-- The venue and the strategy take note of a chunk. -/
def stamp (f : Fund) (venue : String) : Fund :=
  { f with strategy :=
    { f.strategy with
      venues := f.strategy.venues.stamp venue f.now
      lastRebalance := f.now } }

def withTwap (f : Fund) (twap : Twap) : Fund := { f with strategy := { f.strategy with twap } }

/-- The report of a settled trade. -/
def report (f : Fund) (t : Trade) (collateral borrow : Decimal) : Report where
  kind := t.kind
  venue := t.venue
  direction := t.plan.direction
  target := t.target
  leverageBefore := t.position.leverage
  leverageAfter := f.leverageAt t.position.prices
  collateralAmount := collateral
  borrowAmount := borrow
  chunked := t.chunk.chunked
  time := f.now

/-- Settles a trade.  Once the ledger has the entry, only the venue's amount can still be too large
to be reported. -/
def settle (f : Fund) (t : Trade) : Fund × Outcome Report :=
  f.attempt (t.fill f.assets f.feeds) fun x =>
    f.attempt (f.ledger.commit x.order.direction x.order.amountIn x.received : Checked Ledger)
      fun ledger =>
        let f := { f with ledger }
        f.attempt (x.amounts f.assets) fun (collateral, borrow) =>
          let f := f.stamp t.venue
          (f, .ok (f.report t collateral borrow))

/-- Settles a trade and goes on from there if that succeeds. -/
def settleThen (f : Fund) (t : Trade) (finish : Fund → Report → Fund × Outcome α) :
    Fund × Outcome α :=
  match f.settle t with
  | (f, .ok r) => finish f r
  | (f, .error e) => (f, .error e)

end Fund

end LeverageKeeper
