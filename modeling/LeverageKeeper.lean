import LeverageKeeper.Main
import LeverageKeeper.Report.Form
import LeverageKeeper.Proofs.Config.Loading
import LeverageKeeper.Proofs.Convergence
import LeverageKeeper.Proofs.Exposure
import LeverageKeeper.Proofs.Fund.Agreement
import LeverageKeeper.Proofs.Fund.Atomicity
import LeverageKeeper.Proofs.Fund.Authority
import LeverageKeeper.Proofs.Fund.Bookkeeping
import LeverageKeeper.Proofs.Fund.Deposits
import LeverageKeeper.Proofs.Fund.Dialogue
import LeverageKeeper.Proofs.Fund.Dust
import LeverageKeeper.Proofs.Fund.Freshness
import LeverageKeeper.Proofs.Fund.Halting
import LeverageKeeper.Proofs.Fund.Indifference
import LeverageKeeper.Proofs.Fund.LastSale
import LeverageKeeper.Proofs.Fund.LifeCycle
import LeverageKeeper.Proofs.Fund.Limits
import LeverageKeeper.Proofs.Fund.Loss
import LeverageKeeper.Proofs.Fund.Overflow
import LeverageKeeper.Proofs.Fund.Plans
import LeverageKeeper.Proofs.Fund.Preview
import LeverageKeeper.Proofs.Fund.Rescue
import LeverageKeeper.Proofs.Fund.Tolerance
import LeverageKeeper.Proofs.Registry.History
import LeverageKeeper.Proofs.Json.Form
import LeverageKeeper.Proofs.Heartbeat
import LeverageKeeper.Proofs.Keeper.Pace
import LeverageKeeper.Proofs.Keeper.Urgency
import LeverageKeeper.Proofs.Feeds.Encoding
import LeverageKeeper.Proofs.Leverage
import LeverageKeeper.Proofs.Rounds.Polling
import LeverageKeeper.Proofs.Sizing.Recentering
