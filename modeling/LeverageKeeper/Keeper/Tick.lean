import LeverageKeeper.Fund.Calls
import LeverageKeeper.Fund.Views

/-!
# One look of the keeper

The keeper asks the fund what to do on each venue and does the most urgent thing: a ripcord before
going on with a trade, and that before a new rebalance.  Among equals the first venue is taken.  A
call that is refused for now is put off, which is no failure.
-/

namespace LeverageKeeper.Keeper

/-- How urgent an action is. -/
def urgency : Action → Nat
  | .ripcord => 3
  | .iterate => 2
  | .rebalance => 1
  | .none => 0

/-- The first of the most urgent actions, if there is anything to do. -/
def pick? (actions : List (String × Action)) : Option (String × Action) :=
  (actions.filter fun a => a.2 ≠ .none).foldl
    (fun best a => match best with
      | some b => if urgency a.2 ≤ urgency b.2 then some b else some a
      | none => some a)
    none

inductive Tick where
  | idle
  | executed (venue : String) (action : Action) (leverageAfter : Option Decimal)
  | deferred (venue : String) (action : Action) (reason : Refusal)
deriving DecidableEq

/-- Calls what an action names; the outcome is the leverage ratio afterwards, if it is known. -/
def perform (f : Fund) (keeper : Address) (venue : String) :
    Action → Fund × Outcome (Option Decimal)
  | .ripcord =>
    let (f, r) := f.ripcord keeper venue
    (f, r.map (·.report.leverageAfter))
  | .iterate =>
    let (f, r) := f.iterate keeper venue
    (f, r.map fun
      | .executed report => report.leverageAfter
      | .cleared .. => none)
  | .rebalance =>
    let (f, r) := f.rebalance keeper venue
    (f, r.map (·.leverageAfter))
  | .none => (f, .ok none)

/-- How a tick ends that called `action` on `venue`. -/
def conclude (venue : String) (action : Action) : Outcome (Option Decimal) → Outcome Tick
  | .ok leverageAfter => .ok (.executed venue action leverageAfter)
  | .error (.refused r) =>
    if r.isTransient then .ok (.deferred venue action r) else .error (.refused r)
  | .error (.crashed c) => .error (.crashed c)

/-- One look: ask, pick, and call. -/
def tick (f : Fund) (keeper : Address) : Fund × Outcome Tick :=
  f.attempt f.actions fun actions =>
    match pick? actions with
    | none => (f, .ok .idle)
    | some (venue, action) =>
      let (f, r) := perform f keeper venue action
      (f, conclude venue action r)

end LeverageKeeper.Keeper
