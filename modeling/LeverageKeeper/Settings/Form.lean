import LeverageKeeper.Json.Form
import LeverageKeeper.Settings.Basic

/-!
# Settings as JSON

Routes are written as hexadecimal text.  What is agreed for a venue may leave out the time of the
last trade and the routes.
-/

namespace LeverageKeeper

/-- A route, as hexadecimal text. -/
def routeJson (route : List UInt8) : Json := .text (Hex.marked route)

def routeOfJson? (v : Json) : Option (List UInt8) := v.text?.bind Hex.ofText?

namespace Methodology

def fields : List String :=
  ["target_leverage_ratio", "min_leverage_ratio", "max_leverage_ratio", "recentering_speed",
    "rebalance_interval"]

def json (m : Methodology) : Json :=
  .row fields [Form.json m.target, Form.json m.least, Form.json m.most, Form.json m.speed,
    Form.json m.interval]

def ofRow? : List (Option Json) → Option Methodology
  | [target, least, most, speed, interval] => do
    return ⟨← Form.need? target, ← Form.need? least, ← Form.need? most, ← Form.need? speed,
      ← Form.need? interval⟩
  | _ => none

instance : Form Methodology := ⟨json, fun v => (v.row? fields).bind ofRow?⟩

end Methodology

namespace Execution

def fields : List String :=
  ["unutilized_leverage_percentage", "twap_cooldown_period", "slippage_tolerance"]

def json (e : Execution) : Json :=
  .row fields [Form.json e.unutilized, Form.json e.cooldown, Form.json e.slippage]

def ofRow? : List (Option Json) → Option Execution
  | [unutilized, cooldown, slippage] => do
    return ⟨← Form.need? unutilized, ← Form.need? cooldown, ← Form.need? slippage⟩
  | _ => none

instance : Form Execution := ⟨json, fun v => (v.row? fields).bind ofRow?⟩

end Execution

namespace Incentive

def fields : List String :=
  ["incentivized_leverage_ratio", "incentivized_twap_cooldown_period",
    "incentivized_slippage_tolerance", "ether_reward"]

def json (i : Incentive) : Json :=
  .row fields [Form.json i.ratio, Form.json i.cooldown, Form.json i.slippage, Form.json i.reward]

def ofRow? : List (Option Json) → Option Incentive
  | [ratio, cooldown, slippage, reward] => do
    return ⟨← Form.need? ratio, ← Form.need? cooldown, ← Form.need? slippage, ← Form.need? reward⟩
  | _ => none

instance : Form Incentive := ⟨json, fun v => (v.row? fields).bind ofRow?⟩

end Incentive

namespace Settings

def fields : List String := ["methodology", "execution", "incentive"]

def json (s : Settings) : Json :=
  .row fields [Form.json s.methodology, Form.json s.execution, Form.json s.incentive]

def ofRow? : List (Option Json) → Option Settings
  | [methodology, execution, incentive] => do
    return ⟨← Form.need? methodology, ← Form.need? execution, ← Form.need? incentive⟩
  | _ => none

instance : Form Settings := ⟨json, fun v => (v.row? fields).bind ofRow?⟩

end Settings

namespace Terms

def fields : List String :=
  ["twap_max_trade_size", "incentivized_twap_max_trade_size", "last_trade_timestamp",
    "lever_route", "delever_route"]

def json (t : Terms) : Json :=
  .row fields [Form.json t.cap, Form.json t.incentivizedCap, Form.json t.lastTrade,
    routeJson t.leverRoute, routeJson t.deleverRoute]

def ofRow? : List (Option Json) → Option Terms
  | [cap, incentivizedCap, lastTrade, leverRoute, deleverRoute] => do
    return ⟨← Form.need? cap, ← Form.need? incentivizedCap, ← Form.orElse? 0 lastTrade,
      ← Json.orElse? routeOfJson? [] leverRoute, ← Json.orElse? routeOfJson? [] deleverRoute⟩
  | _ => none

instance : Form Terms := ⟨json, fun v => (v.row? fields).bind ofRow?⟩

end Terms

end LeverageKeeper
