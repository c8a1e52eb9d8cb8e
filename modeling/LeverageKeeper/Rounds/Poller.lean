import LeverageKeeper.Rounds.Reply

/-!
# Polling the feeds

The poller asks every feed for its latest round and stores what it learns.  A feed that cannot be
read keeps its old reading, and the other feeds are not affected.
-/

namespace LeverageKeeper

/-- Which feeds are asked, and in what precision they answer. -/
structure Poller where
  feeds : List Address
  decimals : Nat

namespace Poller

/-- The poller of both feeds of a position. -/
def ofAssets (a : Assets) : Poller := ⟨[a.collateralFeed, a.borrowFeed], a.oracleDecimals⟩

/-- The readings so far, and the replies still to come. -/
structure State where
  readings : Feeds
  replies : List Reply

/-- The next reply.  Where none is left, the question fails. -/
def State.next (s : State) : Reply × State :=
  match s.replies with
  | [] => (.failure, s)
  | r :: rs => (r, { s with replies := rs })

/-! ### Checking the precision -/

/-- Refuses a feed that does not report the given number of decimals. -/
def checkReply (feed : Address) (decimals : Nat) (r : Reply) : Except FeedFault Unit :=
  match r.decimals? with
  | none => .error (.unreachable feed)
  | some reported =>
    if reported = decimals then .ok () else .error (.otherDecimals feed reported decimals)

/-- Asks the feeds one after the other, up to the first that is at fault. -/
def verifyAll (decimals : Nat) : List Address → State → State × Except FeedFault Unit
  | [], s => (s, .ok ())
  | feed :: feeds, s =>
    let (r, s) := s.next
    match checkReply feed decimals r with
    | .ok () => verifyAll decimals feeds s
    | .error e => (s, .error e)

def verify (p : Poller) (s : State) : State × Except FeedFault Unit :=
  verifyAll p.decimals p.feeds s

/-! ### Reading -/

/-- The reading that a reply amounts to, if it does. -/
def reading? (decimals : Nat) (r : Reply) : Option Reading :=
  (Round.ofReply? r).bind fun round => (round.reading decimals).toOption

/-- Asks one feed; tells whether it was read. -/
def read (decimals : Nat) (s : State) (feed : Address) : State × Bool :=
  let (r, s) := s.next
  match reading? decimals r with
  | some reading => ({ s with readings := s.readings.set feed reading }, true)
  | none => (s, false)

/-- Asks the feeds in their order, and counts the ones that were read. -/
def pollAll (decimals : Nat) : List Address → State → State × Nat
  | [], s => (s, 0)
  | feed :: feeds, s =>
    let (s, done) := read decimals s feed
    let (s, n) := pollAll decimals feeds s
    (s, if done then n + 1 else n)

def poll (p : Poller) (s : State) : State × Nat := pollAll p.decimals p.feeds s

/-! ### Polling at intervals -/

/-- How many of the polls at `0`, `interval`, `2 * interval` and so on come before `time`; an
interval of none counts as one. -/
def pollsBefore (interval time : Nat) : Nat :=
  if time = 0 then 0 else (time - 1) / Nat.max 1 interval + 1

/-- The state after `n` polls. -/
def polled (p : Poller) (s : State) (n : Nat) : State := n.repeat (fun s => (p.poll s).1) s

/-- The states at ascending times, `done` polls having been made already. -/
def watch (p : Poller) (interval : Nat) : List Nat → Nat → State → List State
  | [], _, _ => []
  | time :: times, done, s =>
    let due := pollsBefore interval time
    let s := p.polled s (due - done)
    s :: p.watch interval times due s

end Poller

end LeverageKeeper
