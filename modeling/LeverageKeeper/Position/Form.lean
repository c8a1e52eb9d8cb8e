import LeverageKeeper.Json.Form
import LeverageKeeper.Position

/-!
# Positions and lending limits as JSON
-/

namespace LeverageKeeper

namespace LendingLimits

def fields : List String := ["max_ltv", "liquidation_threshold"]

def json (l : LendingLimits) : Json :=
  .row fields [Form.json l.maxLtv, Form.json l.liquidationThreshold]

def ofRow? : List (Option Json) → Option LendingLimits
  | [maxLtv, liquidationThreshold] => do
    return ⟨← Form.need? maxLtv, ← Form.need? liquidationThreshold⟩
  | _ => none

instance : Form LendingLimits := ⟨json, fun v => (v.row? fields).bind ofRow?⟩

end LendingLimits

namespace Position

def fields : List String :=
  ["collateral_units", "debt_units", "collateral_price", "borrow_price", "collateral_value",
    "debt_value", "current_leverage_ratio"]

def json (p : Position) : Json :=
  .row fields [Form.json p.collateralUnits, Form.json p.debtUnits, Form.json p.collateralPrice,
    Form.json p.borrowPrice, Form.json p.collateralValue, Form.json p.debtValue,
    Form.json p.leverage]

def ofRow? : List (Option Json) → Option Position
  | [collateralUnits, debtUnits, collateralPrice, borrowPrice, collateralValue, debtValue,
      leverage] => do
    return ⟨← Form.need? collateralUnits, ← Form.need? debtUnits, ← Form.need? collateralPrice,
      ← Form.need? borrowPrice, ← Form.need? collateralValue, ← Form.need? debtValue,
      ← Form.need? leverage⟩
  | _ => none

instance : Form Position := ⟨json, fun v => (v.row? fields).bind ofRow?⟩

end Position

end LeverageKeeper
