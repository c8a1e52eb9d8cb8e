import LeverageKeeper.Feeds

/-!
# The position

What the lending venue reports in native units, together with two prices, gives the values of both
sides and the leverage ratio: the collateral's value over what is left of it after the debt.
-/

namespace LeverageKeeper

/-- Collateral held and debt owed, in native units. -/
structure Balances where
  collateral : Nat
  debt : Nat
deriving DecidableEq

/-- What is held and what is owed, in whole tokens. -/
structure Holding where
  collateral : Decimal
  debt : Decimal
deriving DecidableEq

/-- How far the lending venue lets the position go. -/
structure LendingLimits where
  /-- The largest loan, as a part of the collateral's value. -/
  maxLtv : Decimal
  /-- The debt, as a part of the collateral's value, at which the position can be liquidated. -/
  liquidationThreshold : Decimal
deriving DecidableEq

/-- A position at given prices. -/
structure Position where
  collateralUnits : Decimal
  debtUnits : Decimal
  collateralPrice : Decimal
  borrowPrice : Decimal
  collateralValue : Decimal
  debtValue : Decimal
  leverage : Decimal
deriving DecidableEq

/-- The leverage ratio; there is none for an empty position or one that owes what it holds. -/
def leverageRatio (collateralValue debtValue : Decimal) : Outcome Decimal := do
  if collateralValue.isZero ∧ debtValue.isZero then
    throw (.refused .emptyPosition)
  if collateralValue ≤ debtValue then
    throw (.refused (.undercollateralized collateralValue debtValue))
  let equity ← collateralValue.minus debtValue
  orRefuse (.numeric .leverageRatio) (collateralValue.div? equity)

/-- The position that a holding amounts to at the given prices. -/
def Holding.position (h : Holding) (p : Prices) : Outcome Position := do
  let collateralValue ← orRefuse (.numeric .collateralValue) (h.collateral.mul? p.collateral)
  let debtValue ← orRefuse (.numeric .debtValue) (h.debt.mul? p.borrow)
  let leverage ← leverageRatio collateralValue debtValue
  return ⟨h.collateral, h.debt, p.collateral, p.borrow, collateralValue, debtValue, leverage⟩

/-- The position that balances amount to at the given prices. -/
def Balances.position (b : Balances) (p : Prices) (a : Assets) : Outcome Position := do
  let collateral ← Decimal.ofUnits b.collateral a.collateralDecimals
  let debt ← Decimal.ofUnits b.debt a.borrowDecimals
  (Holding.mk collateral debt).position p

namespace Position

/-- A position is engaged while it owes something. -/
def isEngaged (p : Position) : Bool := !p.debtUnits.isZero

def requireEngaged (p : Position) : Checked Unit := demand p.isEngaged .notEngaged

/-- What is left of the collateral's value after the debt. -/
def equity (p : Position) : Outcome Decimal := p.collateralValue.minus p.debtValue

/-- The prices at which the position was derived. -/
def prices (p : Position) : Prices := ⟨p.collateralPrice, p.borrowPrice⟩

end Position

end LeverageKeeper
