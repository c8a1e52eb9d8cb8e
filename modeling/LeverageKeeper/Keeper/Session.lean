import LeverageKeeper.Fund.Step

/-!
# The keeper at work

The keeper waits, looks at the fund, and waits again.  After five failed looks in a row it waits
four times as long, until a look succeeds.  Beside it a heartbeat may renew the readings of both
feeds, and other things happen at times of their own.  When a look and a heartbeat fall on the same
time, the one that has been waited for longer comes first.  Time is counted in milliseconds from the
start of the session; it is not the fund's clock, which moves only as the fund's steps move it.

A crash ends the looks, but not the session.
-/

namespace LeverageKeeper.Keeper

/-! ### Waiting -/

/-- How many failed looks in a row it takes to slow down.  They are counted in 32 bits. -/
abbrev patience : UInt32 := 5

/-- How much longer the keeper then waits. -/
abbrev slowdown : Nat := 4

/-- The wait before the next look. -/
def wait (interval : Nat) (failures : UInt32) : Nat :=
  if patience ≤ failures then interval * slowdown else interval

/-! ### A session -/

structure Setup where
  keeper : Address
  /-- Milliseconds between two looks; a wait of none counts as one. -/
  interval : Nat
  /-- Milliseconds between two renewals of the feeds, if there are any. -/
  heartbeat : Option Nat := none

structure Session where
  fund : Fund
  failures : UInt32 := 0
  nextLook : Nat
  nextBeat : Option Nat
  /-- The wait for the next look began before the wait for the next heartbeat. -/
  lookFirst : Bool := false
  /-- The times of the looks that reached the fund's clock, the last one first. -/
  looks : List Nat := []
  crash : Option Crash := none

namespace Setup

def pause (s : Setup) : Nat := Nat.max 1 s.interval

def start (s : Setup) (f : Fund) : Session where
  fund := f
  nextLook := wait s.pause 0
  nextBeat := s.heartbeat.map (Nat.max 1)

end Setup

namespace Session

/-- Both feeds' readings are as fresh as the fund's clock. -/
def renew (f : Fund) : Fund :=
  let feeds := (f.feeds.touch f.assets.collateralFeed f.now).1
  { f with feeds := (feeds.touch f.assets.borrowFeed f.now).1 }

def beat (w : Session) (s : Setup) : Session :=
  { w with
    fund := renew w.fund
    lookFirst := true
    nextBeat := w.nextBeat.map fun t => t + Nat.max 1 (s.heartbeat.getD 1) }

/-- One look and the time of the next. -/
def look (w : Session) (s : Setup) : Session :=
  let (fund, r) := tick w.fund s.keeper
  let looks := if w.fund.halted then w.looks else w.nextLook :: w.looks
  match r with
  | .ok _ =>
    { w with fund, looks, failures := 0, lookFirst := false
             nextLook := w.nextLook + wait s.pause 0 }
  | .error (.refused _) =>
    let failures := w.failures + 1
    { w with fund, looks, failures, lookFirst := false
             nextLook := w.nextLook + wait s.pause failures }
  | .error (.crashed c) => { w with fund, looks, crash := some c }

/-- Whether the keeper looks before `time`. -/
def lookIsDue (w : Session) (time : Nat) : Bool := w.crash.isNone ∧ w.nextLook < time

/-- Whether the feeds are renewed before `time` and before the next look. -/
def beatIsDue (w : Session) (time : Nat) : Bool :=
  match w.nextBeat with
  | some t =>
    t < time ∧ (w.lookIsDue time = false ∨ t < w.nextLook ∨ (t = w.nextLook ∧ !w.lookFirst))
  | none => false

/-- Looks and heartbeats before `time`, in their order. -/
def catchUp (s : Setup) (time : Nat) : Nat → Session → Session
  | 0, w => w
  | fuel + 1, w =>
    if w.beatIsDue time then catchUp s time fuel (w.beat s)
    else if w.lookIsDue time then catchUp s time fuel (w.look s)
    else w

/-- The session when `time` comes.  Each look and each heartbeat puts its next one off by at least
a millisecond, so there are at most that many of either. -/
def upTo (w : Session) (s : Setup) (time : Nat) : Session := catchUp s time (2 * time + 2) w

end Session

/-- What happens at a time of its own. -/
structure Appointment (α : Type) where
  time : Nat
  action : Fund → Fund × α

/-- Appointments are kept in the order given; the fund is noted with what came of each. -/
def Session.keep (w : Session) (s : Setup) :
    List (Appointment α) → Session × List (α × Fund)
  | [] => (w, [])
  | a :: as =>
    let w := w.upTo s a.time
    let (fund, r) := a.action w.fund
    let (w, rs) := ({ w with fund } : Session).keep s as
    (w, (r, fund) :: rs)

/-- A whole session up to the time `stop`. -/
def Setup.session (s : Setup) (f : Fund) (appointments : List (Appointment α)) (stop : Nat) :
    Session × List (α × Fund) :=
  let (w, rs) := (s.start f).keep s appointments
  (w.upTo s stop, rs)

end LeverageKeeper.Keeper
