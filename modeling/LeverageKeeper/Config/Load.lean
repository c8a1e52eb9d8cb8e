import LeverageKeeper.Config.Form
import LeverageKeeper.Config.Rules
import LeverageKeeper.Config.Variables

/-!
# Loading a configuration

Seven files are read one after the other, each as soon as the one before it was understood.  Then
the variables are put in, and the whole is checked.
-/

namespace LeverageKeeper

/-- Why a configuration was not loaded. -/
inductive LoadFault where
  | missing (name : String)
  | unreadable (name : String)
  | invalid (problems : List Problem)
deriving DecidableEq

/-- The report of all that is wrong. -/
def Problem.report (problems : List Problem) : String :=
  "Configuration validation failed (" ++ toString problems.length ++ " error"
    ++ (if problems.length = 1 then "" else "s") ++ "):\n  - "
    ++ String.intercalate "\n  - " (problems.map Problem.message)

/-- How a failure to load from the directory `dir` is reported. -/
def LoadFault.message (dir : String) : LoadFault → String
  | missing name => "failed to read config file: " ++ dir ++ "/" ++ name
  | unreadable name => "parsing " ++ name
  | invalid problems => Problem.report problems

namespace Config

/-- The names of the files, in the order in which they are read. -/
def fileNames : List String :=
  ["app.json", "strategy.json", "methodology.json", "execution.json", "incentive.json",
    "exchanges.json", "keeper.json"]

/-- One file, understood by `read?`. -/
def part (file : String → Option String) (name : String) (read? : Json → Option α) :
    Except LoadFault α :=
  match file name with
  | none => .error (.missing name)
  | some text =>
    match (Json.parse? text).bind read? with
    | none => .error (.unreadable name)
    | some a => .ok a

/-- What the files say. -/
def ofFiles (file : String → Option String) : Except LoadFault Config := do
  let logging ← part file "app.json" Logging.ofFile?
  let assets ← part file "strategy.json" WrittenAssets.ofJson?
  let methodology ← part file "methodology.json" Form.ofJson?
  let execution ← part file "execution.json" Form.ofJson?
  let incentive ← part file "incentive.json" Form.ofJson?
  let venues ← part file "exchanges.json" VenueEntry.ofFile?
  let options ← part file "keeper.json" KeeperOptions.ofJson?
  return ⟨logging, assets, ⟨methodology, execution, incentive⟩, venues, options⟩

/-- Refuses a configuration with problems. -/
def check (c : Config) : Except LoadFault Config :=
  if c.problems = [] then .ok c else .error (.invalid c.problems)

/-- The configuration in the given files, with the variables put in, their decimal as `decimal?`
reads it. -/
def loadBy (decimal? : String → Option Decimal) (file : String → Option String) (v : Variables) :
    Except LoadFault Config := do
  ((← ofFiles file).overrideBy decimal? v).check

/-- The configuration in the given files, with the variables put in; their decimal may be written
with an exponent, as those in the files may. -/
def load (file : String → Option String) (v : Variables) : Except LoadFault Config :=
  loadBy Decimal.ofText? file v

end Config

end LeverageKeeper
