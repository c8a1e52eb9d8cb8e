import LeverageKeeper.Fund.Operator
import LeverageKeeper.Keeper.Tick

/-!
# Histories of a fund

Everything that can happen to a fund is a step: a call, a look of the keeper, a question, or an
event in its surroundings.  A history is a list of steps, and a fund runs through it one step at a
time.
-/

namespace LeverageKeeper

inductive Call where
  | engage (caller : Address) (venue : String)
  | rebalance (caller : Address) (venue : String)
  | iterate (caller : Address) (venue : String)
  | ripcord (caller : Address) (venue : String)
  | disengage (caller : Address) (venue : String)
  | setMethodology (caller : Address) (m : Methodology)
  | setExecution (caller : Address) (e : Execution)
  | setIncentive (caller : Address) (i : Incentive)
  | addVenue (caller : Address) (name : String) (venue : Venue) (terms : Terms)
  | updateVenue (caller : Address) (name : String) (terms : Terms)
  | removeVenue (caller : Address) (name : String)
  | setCallerStatus (caller account : Address) (allowed : Bool)
  | setAnyoneCallable (caller : Address) (isOpen : Bool)
  | depositReward (amount : Decimal)
  | withdrawReward (caller : Address)

inductive Question where
  | leverage
  | position
  | actions
  | preview (venue : String)
  | settings
  | terms (venue : String)
  | accessList
  | operator
  | assets

/-- What happens around a fund: time passes, feeds speak, collateral comes in, the lending venue
has its troubles, a venue changes the way it answers. -/
inductive Event where
  | advance (seconds : UInt64)
  | setTime (now : UInt64)
  | setPrice (feed : Address) (price : Decimal) (time : Option UInt64)
  | setReading (feed : Address) (reading : Reading)
  | touch (feed : Address) (time : UInt64)
  | deposit (amount : Nat)
  | outage (o : Outage)
  | turn (venue : String) (answer : Feeds → Order → Outcome Nat)

inductive Step where
  | call (c : Call)
  | tick (keeper : Address)
  | ask (q : Question)
  | event (e : Event)

/-- What comes of a step that is not refused. -/
inductive Answer where
  | done
  | report (r : Report)
  | iteration (i : Iteration)
  | rescue (r : Rescue)
  | tick (t : Keeper.Tick)
  | decimal (a : Decimal)
  | position (p : Position)
  | actions (xs : List (String × Action))
  | preview (c : Chunk) (d : Direction)
  | settings (s : Settings)
  | terms (t : Terms)
  | accessList (l : AccessList)
  | address (a : Address)
  | assets (a : Assets)
  | time (t : UInt64)
  | flag (b : Bool)

namespace Fund

/-- The same step with its outcome as an answer. -/
def answering (f : α → Answer) : Fund × Outcome α → Fund × Outcome Answer
  | (fund, r) => (fund, r.map f)

def call (f : Fund) : Call → Fund × Outcome Answer
  | .engage caller venue => answering .report (f.engage caller venue)
  | .rebalance caller venue => answering .report (f.rebalance caller venue)
  | .iterate caller venue => answering .iteration (f.iterate caller venue)
  | .ripcord caller venue => answering .rescue (f.ripcord caller venue)
  | .disengage caller venue => answering .report (f.disengage caller venue)
  | .setMethodology caller m => answering (fun _ => .done) (f.setMethodology caller m)
  | .setExecution caller e => answering (fun _ => .done) (f.setExecution caller e)
  | .setIncentive caller i => answering (fun _ => .done) (f.setIncentive caller i)
  | .addVenue caller name venue terms =>
    answering (fun _ => .done) (f.addVenue caller name venue terms)
  | .updateVenue caller name terms => answering (fun _ => .done) (f.updateVenue caller name terms)
  | .removeVenue caller name => answering (fun _ => .done) (f.removeVenue caller name)
  | .setCallerStatus caller account allowed =>
    answering (fun _ => .done) (f.setCallerStatus caller account allowed)
  | .setAnyoneCallable caller isOpen =>
    answering (fun _ => .done) (f.setAnyoneCallable caller isOpen)
  | .depositReward amount => answering .decimal (f.depositReward amount)
  | .withdrawReward caller => answering .decimal (f.withdrawReward caller)

/-- The ratio, the position, the list and the operator are known even to a halted fund. -/
def ask (f : Fund) : Question → Fund × Outcome Answer
  | .leverage => (f, f.leverage.map .decimal)
  | .position => (f, f.position.map .position)
  | .actions => f.look (f.actions.map .actions)
  | .preview venue => f.look ((f.preview venue).map fun (c, d) => .preview c d)
  | .settings => f.look ((f.kept fun s => .ok s.settings).map .settings)
  | .terms venue => f.look ((f.kept fun s => (s.venues.get venue).map (·.terms)).map .terms)
  | .accessList => (f, .ok (.accessList f.guard.list))
  | .operator => (f, .ok (.address f.guard.operator))
  | .assets => (f, .ok (.assets f.assets))

/-- A change of the surroundings that may be refused, but not by the strategy. -/
def around (f : Fund) (change : Checked Fund) : Fund × Outcome Answer :=
  match change with
  | .ok f => (f, .ok .done)
  | .error r => (f, .error (.refused r))

def event (f : Fund) : Event → Fund × Outcome Answer
  | .advance seconds => ({ f with now := f.now + seconds }, .ok (.time (f.now + seconds)))
  | .setTime now => ({ f with now }, .ok .done)
  | .setPrice feed price time =>
    f.around ((f.feeds.setPrice feed price f.assets.oracleDecimals (time.getD f.now)).map
      fun feeds => { f with feeds })
  | .setReading feed reading => ({ f with feeds := f.feeds.set feed reading }, .ok .done)
  | .touch feed time =>
    let (feeds, known) := f.feeds.touch feed time
    ({ f with feeds }, .ok (.flag known))
  | .deposit amount => f.around ((f.ledger.deposit amount).map fun ledger => { f with ledger })
  | .outage o => ({ f with ledger := f.ledger.withOutage o }, .ok .done)
  | .turn venue answer =>
    ({ f with strategy := { f.strategy with venues := f.strategy.venues.turn venue answer } },
      .ok .done)

def step (f : Fund) : Step → Fund × Outcome Answer
  | .call c => f.call c
  | .tick keeper => answering .tick (Keeper.tick f keeper)
  | .ask q => f.ask q
  | .event e => f.event e

/-- The fund after a history, and what came of each step. -/
def run (f : Fund) : List Step → Fund × List (Outcome Answer)
  | [] => (f, [])
  | s :: ss =>
    let (g, r) := f.step s
    let (h, rs) := g.run ss
    (h, r :: rs)

/-- The fund after a history. -/
def after (f : Fund) (ss : List Step) : Fund := ss.foldl (fun g s => (g.step s).1) f

theorem run_fst (f : Fund) (ss : List Step) : (f.run ss).1 = f.after ss := by
  induction ss generalizing f with
  | nil => rfl
  | cons s ss ih => simp only [run, after, List.foldl_cons]; exact ih _

end Fund

end LeverageKeeper
