import LeverageKeeper.Config.Basic
import LeverageKeeper.Url.Basic

/-!
# Where prices come from

A configuration that names a place on the web has its feeds read from there.  Any other keeps the
prices of its paper seed, which a heartbeat keeps fresh.
-/

namespace LeverageKeeper

inductive FeedSource where
  /-- Seconds between two heartbeats. -/
  | paper (interval : UInt64)
  | web (url : String)
deriving DecidableEq

/-- A text that is no address on the web. -/
structure BadUrl where
  url : String
deriving DecidableEq

def BadUrl.message (_ : BadUrl) : String := "failed to parse RPC URL"

/-- The source of prices. -/
def Config.feedSource (c : Config) : Except BadUrl FeedSource :=
  match c.options.rpcUrl with
  | none => .ok (.paper c.options.feedPollInterval)
  | some url => if Url.isValid url then .ok (.web url) else .error ⟨url⟩

end LeverageKeeper
