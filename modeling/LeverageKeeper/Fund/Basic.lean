import LeverageKeeper.Access
import LeverageKeeper.Ledger
import LeverageKeeper.Report
import LeverageKeeper.Venue.Registry

/-!
# The fund

A fund is a strategy together with what it works on: the ledger of its lending position, the price
feeds, and the clock.  A call takes the fund to its next state and has an outcome.  A refusal leaves
the strategy as it is; a crash halts it, and from then on every call that needs the strategy is
refused.
-/

namespace LeverageKeeper

/-- What the strategy keeps between calls. -/
structure Strategy where
  settings : Settings
  venues : Registry
  twap : Twap
  /-- The time of the last chunk on any venue. -/
  lastRebalance : UInt64
  /-- What is set aside for bounties. -/
  reserve : Decimal

structure Fund where
  assets : Assets
  guard : Guard
  strategy : Strategy
  ledger : Ledger
  feeds : Feeds
  now : UInt64
  /-- A call crashed while it held the strategy. -/
  halted : Bool

namespace Fund

/-- A fund with no venues, no trade under way and nothing set aside.  Assets and settings have to
be valid together. -/
def create (assets : Assets) (settings : Settings) (ledger : Ledger) (feeds : Feeds)
    (now : UInt64) (guard : Guard) : Checked Fund := do
  let broken := assets.violations ++ settings.violations
  demand (broken = []) (.invalidSettings (.violated broken))
  return {
    assets, guard, ledger, feeds, now
    strategy := ⟨settings, Registry.empty, .idle, 0, Decimal.zero⟩
    halted := false }

/-- Refuses once the strategy is halted. -/
def requireLive (f : Fund) : Checked Unit := demand (f.halted = false) .halted

/-- The position at the fund's balances and fresh prices. -/
def position (f : Fund) : Outcome Position := do
  let prices ← f.feeds.prices f.assets f.now
  let balances ← f.ledger.balances
  balances.position prices f.assets

def circumstances (f : Fund) : Circumstances :=
  ⟨f.strategy.settings, f.strategy.twap, f.strategy.lastRebalance, f.now⟩

/-! ### Calls -/

/-- The fund after a failure. -/
def afterFailure (f : Fund) : Failure → Fund
  | .refused _ => f
  | .crashed _ => { f with halted := true }

def fail (f : Fund) (e : Failure) : Fund × Outcome α := (f.afterFailure e, .error e)

/-- Decides first and acts only on a decision. -/
def attempt (f : Fund) (decision : Outcome α) (act : α → Fund × Outcome β) : Fund × Outcome β :=
  match decision with
  | .ok a => act a
  | .error e => f.fail e

/-- A call that only looks. -/
def look (f : Fund) (decision : Outcome α) : Fund × Outcome α := f.attempt decision fun a => (f, .ok a)

@[simp] theorem attempt_ok (f : Fund) (a : α) (act : α → Fund × Outcome β) :
    f.attempt (.ok a) act = act a := rfl

@[simp] theorem attempt_error (f : Fund) (e : Failure) (act : α → Fund × Outcome β) :
    f.attempt (.error e) act = (f.afterFailure e, .error e) := rfl

end Fund

end LeverageKeeper
