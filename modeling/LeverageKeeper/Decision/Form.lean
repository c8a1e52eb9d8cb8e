import LeverageKeeper.Decision
import LeverageKeeper.Json.Form

/-!
# Directions, phases, actions and trades under way as JSON

The first three are written by name.  A trade under way is an object whose member `state` says
whether there is one.  Since this member may stand anywhere, the rest is set aside until it is
found.  It is read also from an array that begins with the state.
-/

namespace LeverageKeeper

namespace Direction

def all : List Direction := [lever, delever]

instance : Form Direction where
  json d := .text d.name
  ofJson? v := v.name?.bind (Json.named? all name)

end Direction

namespace Phase

def all : List Phase := [idle, rebalanceDue, twapInProgress, ripcordEligible]

def name : Phase → String
  | idle => "idle"
  | rebalanceDue => "rebalance_due"
  | twapInProgress => "twap_in_progress"
  | ripcordEligible => "ripcord_eligible"

instance : Form Phase where
  json p := .text p.name
  ofJson? v := v.name?.bind (Json.named? all name)

end Phase

namespace Action

def all : List Action := [none, rebalance, iterate, ripcord]

def name : Action → String
  | none => "none"
  | rebalance => "rebalance"
  | iterate => "iterate"
  | ripcord => "ripcord"

instance : Form Action where
  json a := .text a.name
  ofJson? v := v.name?.bind (Json.named? all name)

end Action

namespace Twap

def fields : List String := ["leverage_ratio", "direction", "remaining_notional"]

def json : Twap → Json
  | idle => .row ["state"] [.text "idle"]
  | under target direction remaining =>
    .row ("state" :: fields)
      [.text "rebalance_target", Form.json target, Form.json direction, Form.json remaining]

/-- A direction that was set aside with the rest. -/
def keptDirection? (v : Json) : Option Direction :=
  v.keptName?.bind (Json.named? Direction.all Direction.name)

def ofRow? : List (Option Json) → Option Twap
  | [target, direction, remaining] => do
    return under (← Form.need? target) (← Json.need? keptDirection? direction)
      (← Form.need? remaining)
  | _ => none

/-- The state, and what stands beside it. -/
def split? : Json → Option (String × Json)
  | .obj ms => do
    let state ← (← Json.field? "state" ms)
    return (← state.text?, .obj (ms.filter fun m => m.1 ≠ some "state"))
  | .arr (state :: vs) => do return (← state.text?, .arr vs)
  | _ => none

/-- No trade is under way whatever members stand beside the state, but items of an array would be
left over. -/
def ofState? (state : String) (rest : Json) : Option Twap :=
  if state = "rebalance_target" then (rest.row? fields).bind ofRow?
  else if state = "idle" then
    match rest with
    | .arr (_ :: _) => none
    | _ => some idle
  else none

instance : Form Twap where
  json := json
  ofJson? v := if v.keepable then (split? v).bind fun (state, rest) => ofState? state rest else none

end Twap

end LeverageKeeper
