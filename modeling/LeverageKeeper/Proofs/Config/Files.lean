import LeverageKeeper.Proofs.Config
import LeverageKeeper.Proofs.Fund.Reachable
import LeverageKeeper.Proofs.Json.Form

/-!
The files that say what a configuration is.  They are read back part by part, so a configuration
without a problem is loaded from its files as soon as each of its parts is; that leaves out a
logging part with a name of its own, decimals that do not fit a byte, and zeros with a sign.
-/

namespace LeverageKeeper

namespace Config

/-! ### Writing -/

def loggingJson (l : Logging) : Json := .row ["logging"] [.row ["log_dir"] [.text l.dir]]

def assetsJson (w : WrittenAssets) : Json :=
  .row WrittenAssets.fields
    [.text w.collateral, .text w.borrow, .text w.collateralFeed, .text w.borrowFeed,
      .nat w.collateralDecimals, .nat w.borrowDecimals, .nat w.oracleDecimals,
      Form.json w.maxStaleness]

/-- A venue with the fields of its terms among its own. -/
def venueJson (e : VenueEntry) : Json :=
  .row ("name" :: "paper_fee_bps" :: Terms.fields)
    [.text e.name, .nat e.feeBps.toNat, Form.json e.terms.cap, Form.json e.terms.incentivizedCap,
      Form.json e.terms.lastTrade, routeJson e.terms.leverRoute, routeJson e.terms.deleverRoute]

def seedJson (p : PaperSeed) : Json :=
  .row PaperSeed.fields
    [Form.json p.initialCollateral, Form.json p.limits.maxLtv,
      Form.json p.limits.liquidationThreshold, Form.json p.prices.collateral,
      Form.json p.prices.borrow, Form.json p.rewardDeposit]

def optionsJson (k : KeeperOptions) : Json :=
  .row KeeperOptions.fields
    [.text k.keeper, .text k.operator, .arr (k.allowed.map .text), .bool k.anyoneCallable,
      Form.json k.pollInterval, Form.json k.feedPollInterval, .option .text k.rpcUrl,
      .bool k.engageOnStart, seedJson k.paper]

/-- The files of a configuration by their names. -/
def files (c : Config) : List (String × Json) :=
  [("app.json", loggingJson c.logging), ("strategy.json", assetsJson c.assets),
    ("methodology.json", Form.json c.settings.methodology),
    ("execution.json", Form.json c.settings.execution),
    ("incentive.json", Form.json c.settings.incentive),
    ("exchanges.json", .arr (c.venues.map venueJson)), ("keeper.json", optionsJson c.options)]

/-- The directory with these files. -/
def file (c : Config) (name : String) : Option String := (c.files.lookup name).map Json.render

lemma written_files (c : Config) : ∀ f ∈ c.files, f.2.Written := by
  have hfields : ∀ {names : List String} {vs : List Json}, (∀ v ∈ vs, v.Written) →
      (Json.row names vs).Written := Json.written_row
  have hlogging : (loggingJson c.logging).Written :=
    hfields (by simp [hfields, Json.Written.text])
  have hassets : (assetsJson c.assets).Written :=
    hfields (by simp [LawfulForm.written, Json.Written.text, Json.Written.nat])
  have hvenues : (Json.arr (c.venues.map venueJson)).Written := by
    refine .arr _ fun v hv => ?_
    obtain ⟨e, -, rfl⟩ := List.mem_map.1 hv
    exact hfields (by
      simp [LawfulForm.written, routeJson, Json.Written.text, Json.Written.nat])
  have hallowed : (Json.arr (c.options.allowed.map .text)).Written :=
    .arr _ (by simp [Json.Written.text])
  have hurl : (Json.option .text c.options.rpcUrl).Written := by
    cases c.options.rpcUrl with
    | none => exact .null
    | some url => exact .text url
  have hseed : (seedJson c.options.paper).Written := hfields (by simp [LawfulForm.written])
  have hoptions : (optionsJson c.options).Written :=
    hfields (by
      simp [hallowed, hurl, hseed, LawfulForm.written, Json.Written.text, Json.Written.bool])
  simp [files, hlogging, hassets, hvenues, hoptions, LawfulForm.written]

/-! ### Reading -/

/-- A file that was written says what its value reads as. -/
lemma part_file {α : Type} {c : Config} {name : String} {v : Json} {read? : Json → Option α} {a : α}
    (hname : c.files.lookup name = some v) (ha : read? v = some a) :
    part c.file name read? = .ok a := by
  have hmem : (name, v) ∈ c.files := by
    obtain ⟨before, after, he, -⟩ := List.lookup_eq_some_iff.1 hname
    rw [he]
    exact List.mem_append_right _ List.mem_cons_self
  have hfile : c.file name = some v.render := by
    unfold file
    rw [hname, Option.map_some]
  have hread : (Json.parse? v.render).bind read? = some a := by
    rw [Json.parse?_render (c.written_files _ hmem), Option.bind_some, ha]
  unfold part
  rw [hfile]
  dsimp only
  rw [hread]

/-- The parts of a configuration are what is written for them. -/
structure Legible (c : Config) : Prop where
  logging : Logging.ofFile? (loggingJson c.logging) = some c.logging
  assets : WrittenAssets.ofJson? (assetsJson c.assets) = some c.assets
  methodology : Form.ofJson? (Form.json c.settings.methodology) = some c.settings.methodology
  execution : Form.ofJson? (Form.json c.settings.execution) = some c.settings.execution
  incentive : Form.ofJson? (Form.json c.settings.incentive) = some c.settings.incentive
  venues : VenueEntry.ofFile? (.arr (c.venues.map venueJson)) = some c.venues
  options : KeeperOptions.ofJson? (optionsJson c.options) = some c.options

/-- **The files of a legible configuration say what it is.** -/
theorem ofFiles_file {c : Config} (h : c.Legible) : ofFiles c.file = .ok c := by
  unfold ofFiles
  rw [part_file rfl h.logging, part_file rfl h.assets, part_file rfl h.methodology,
    part_file rfl h.execution, part_file rfl h.incentive, part_file rfl h.venues,
    part_file rfl h.options]
  rfl

/-- Without a problem it is loaded from them. -/
theorem load_file {c : Config} (h : c.Legible) (hp : c.problems = []) :
    load c.file {} = .ok c := by
  unfold load loadBy
  rw [ofFiles_file h]
  exact if_pos hp

/-! ### A configuration at hand -/

namespace Trial

open Fund.Trial (number)

/-- The text of an address: one digit, forty times. -/
def address (digit : Char) : String := String.ofList ('0' :: 'x' :: List.replicate 40 digit)

def logging : Logging := ⟨"logs", "fli-keeper.log", none⟩

def entry : VenueEntry := ⟨"dex", Fund.Trial.terms, 30⟩

/-- Two tokens of two decimals, five hundred units of collateral, and one venue.  The feeds are
stamped every `interval` seconds, and stamps count for an hour. -/
def quoting (interval : UInt64) (oracleDecimals : ℕ) (borrowFeed : Char) (prices : Prices) :
    Config where
  logging := logging
  assets := ⟨address '1', address '2', address '3', address borrowFeed, 2, 2, oracleDecimals, 3600⟩
  settings := Fund.Trial.settings
  venues := [entry]
  options :=
    { keeper := address '8'
      operator := address '9'
      allowed := [address '8']
      anyoneCallable := false
      pollInterval := 15
      feedPollInterval := interval
      rpcUrl := none
      engageOnStart := false
      paper :=
        { initialCollateral := number 500 0
          limits := ⟨number 8 1, number 9 1⟩
          prices := prices
          rewardDeposit := Decimal.one } }

/-- Both tokens at a price of one. -/
def config (interval : UInt64) : Config := quoting interval 2 '4' ⟨Decimal.one, Decimal.one⟩

/-- The parts that do not depend on how the tokens are quoted are read once and for all. -/
lemma legible_quoting {interval : UInt64} {d : ℕ} {feed : Char} {p : Prices}
    (ha : WrittenAssets.ofJson? (assetsJson (quoting interval d feed p).assets)
      = some (quoting interval d feed p).assets)
    (ho : KeeperOptions.ofJson? (optionsJson (quoting interval d feed p).options)
      = some (quoting interval d feed p).options) : (quoting interval d feed p).Legible := by
  have hlogging : Logging.ofFile? (loggingJson logging) = some logging := by decide +kernel
  have hmethodology : Form.ofJson? (Form.json Fund.Trial.settings.methodology)
      = some Fund.Trial.settings.methodology := by decide +kernel
  have hexecution : Form.ofJson? (Form.json Fund.Trial.settings.execution)
      = some Fund.Trial.settings.execution := by decide +kernel
  have hincentive : Form.ofJson? (Form.json Fund.Trial.settings.incentive)
      = some Fund.Trial.settings.incentive := by decide +kernel
  have hvenues : VenueEntry.ofFile? (.arr ([entry].map venueJson)) = some [entry] := by
    decide +kernel
  exact ⟨hlogging, ha, hmethodology, hexecution, hincentive, hvenues, ho⟩

lemma load_quoting {interval : UInt64} {d : ℕ} {feed : Char} {p : Prices}
    (ha : WrittenAssets.ofJson? (assetsJson (quoting interval d feed p).assets)
      = some (quoting interval d feed p).assets)
    (ho : KeeperOptions.ofJson? (optionsJson (quoting interval d feed p).options)
      = some (quoting interval d feed p).options)
    (hp : (quoting interval d feed p).problems = []) :
    load (quoting interval d feed p).file {} = .ok (quoting interval d feed p) :=
  load_file (legible_quoting ha ho) hp

lemma legible_config : (config 10).Legible :=
  legible_quoting (by decide +kernel) (by decide +kernel)

lemma load_config : load (config 10).file {} = .ok (config 10) :=
  load_file legible_config (by decide +kernel)

end Trial

end Config

end LeverageKeeper
