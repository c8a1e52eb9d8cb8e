import LeverageKeeper.Decision.Form
import LeverageKeeper.Report

/-!
# Reports as JSON

The leverage ratio after a trade may be null, missing or an empty text.
-/

namespace LeverageKeeper

namespace TradeKind

def all : List TradeKind := [engage, rebalance, iterate, ripcord, disengage]

def name : TradeKind → String
  | engage => "engage"
  | rebalance => "rebalance"
  | iterate => "iterate"
  | ripcord => "ripcord"
  | disengage => "disengage"

instance : Form TradeKind where
  json k := .text k.name
  ofJson? v := v.name?.bind (Json.named? all name)

end TradeKind

namespace Report

def fields : List String :=
  ["kind", "venue", "direction", "target_leverage_ratio", "leverage_before", "leverage_after",
    "collateral_amount", "borrow_amount", "is_chunked", "timestamp"]

def json (r : Report) : Json :=
  .row fields [Form.json r.kind, Form.json r.venue, Form.json r.direction, Form.json r.target,
    Form.json r.leverageBefore, Form.json r.leverageAfter, Form.json r.collateralAmount,
    Form.json r.borrowAmount, Form.json r.chunked, Form.json r.time]

/-- A ratio, or none for null and for an empty text. -/
def ratio? (v : Json) : Option (Option Decimal) :=
  if v.text? = some "" then some Option.none else Form.ofJson? v

def ofRow? : List (Option Json) → Option Report
  | [kind, venue, direction, target, leverageBefore, leverageAfter, collateralAmount, borrowAmount,
      chunked, time] => do
    return {
      kind := ← Form.need? kind
      venue := ← Form.need? venue
      direction := ← Form.need? direction
      target := ← Form.need? target
      leverageBefore := ← Form.need? leverageBefore
      leverageAfter := ← Json.orElse? ratio? Option.none leverageAfter
      collateralAmount := ← Form.need? collateralAmount
      borrowAmount := ← Form.need? borrowAmount
      chunked := ← Form.need? chunked
      time := ← Form.need? time }
  | _ => none

instance : Form Report := ⟨json, fun v => (v.row? fields).bind ofRow?⟩

end Report

end LeverageKeeper
