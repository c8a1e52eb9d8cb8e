import LeverageKeeper.Boot
import LeverageKeeper.Config.FeedSource
import LeverageKeeper.Keeper.Session
import LeverageKeeper.Rounds.Poller
import Std.Time.DateTime.Timestamp

/-!
# The keeper as a program

The program reads the configuration from the directory that `FLI_CONFIG_DIR` names, or from
`config`, starts the fund on paper, and keeps it until the fund crashes.  It has no connection of
its own, so feeds that should be read from the web cannot be reached.
-/

namespace LeverageKeeper.Program

/-- The seconds that the wall clock reads. -/
def clock : IO UInt64 := do
  let t ← Std.Time.Timestamp.now
  return UInt64.ofNat t.toSecondsSinceUnixEpoch.val.toNat

/-- The text of a file, if it can be read. -/
def readFile? (path : String) : IO (Option String) := do
  try return some (← IO.FS.readFile path)
  catch _ => return none

def readVariables : IO Variables := do
  return {
    rpcUrl := ← IO.getEnv "FLI_RPC_URL"
    keeperAddress := ← IO.getEnv "FLI_KEEPER_ADDRESS"
    pollInterval := ← IO.getEnv "FLI_POLL_INTERVAL_SECONDS"
    engageOnStart := ← IO.getEnv "FLI_ENGAGE_ON_START"
    target := ← IO.getEnv "FLI_TARGET_LEVERAGE_RATIO" }

def readConfig (dir : String) : IO (Except LoadFault Config) := do
  let files ← Config.fileNames.mapM fun name => do
    return (name, ← readFile? (dir ++ "/" ++ name))
  return Config.load (fun name => (files.lookup name).join) (← readVariables)

/-- How a failed start is reported. -/
def report : BootFault → String
  | .address u => u.message
  | .failure (.refused r) => r.message
  | .failure (.crashed c) => c.message

/-- One line about a position. -/
def summary (f : Fund) : String :=
  match f.leverage with
  | .ok ratio => "leverage " ++ ratio.text
  | .error (.refused r) => r.message
  | .error (.crashed c) => c.message

/-- Waits for the next look or heartbeat, lets it happen, and goes on. -/
partial def keep (s : Keeper.Setup) (w : Keeper.Session) (elapsed : Nat) : IO Crash := do
  let time := Nat.min w.nextLook (w.nextBeat.getD w.nextLook)
  IO.sleep (UInt32.ofNat (Nat.min (time - elapsed) (UInt32.size - 1)))
  let w := { w with fund := { w.fund with now := ← clock } }
  let w := w.upTo s (time + 1)
  IO.println (summary w.fund)
  match w.crash with
  | some c => return c
  | none => keep s w time

def run (c : Config) : IO (Except String Crash) := do
  match c.boot (← clock) with
  | .error e => return .error (report e)
  | .ok r =>
    match c.feedSource with
    | .error e => return .error e.message
    | .ok (.web _) =>
      match ((Poller.ofAssets r.fund.assets).verify ⟨r.fund.feeds, []⟩).2 with
      | .error e => return .error e.message
      | .ok () => return .error "no feed to read"
    | .ok (.paper interval) =>
      let s : Keeper.Setup :=
        ⟨r.keeper, c.options.pollInterval.toNat * 1000, some (interval.toNat * 1000)⟩
      return .ok (← keep s (s.start r.fund) 0)

end LeverageKeeper.Program

open LeverageKeeper in
/-- Runs the keeper; it ends only when it cannot start or the fund crashes. -/
def main : IO UInt32 := do
  let dir := (← IO.getEnv "FLI_CONFIG_DIR").getD "config"
  let outcome ← match ← Program.readConfig dir with
    | .error e => pure (.error (e.message dir))
    | .ok c => Program.run c
  match outcome with
  | .error message => IO.eprintln ("Error: " ++ message); return 1
  | .ok c => IO.eprintln ("Error: " ++ c.message); return 1
