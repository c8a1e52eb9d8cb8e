import LeverageKeeper.Config.Basic

/-!
# Variables that override the configuration

Five values can be replaced from the environment.  A variable that is empty counts as one that is
not there, and so does one that cannot be read as what it stands for.

Readers of decimals differ in what they take beside a sign, digits and a point, so the reader of
the one decimal among the variables is a parameter.
-/

namespace LeverageKeeper

structure Variables where
  rpcUrl : Option String := none
  keeperAddress : Option String := none
  pollInterval : Option String := none
  engageOnStart : Option String := none
  target : Option String := none
deriving DecidableEq

namespace Variables

/-- The text of a variable that is not empty. -/
def text? (v : Option String) : Option String := v.filter (· ≠ "")

/-- Whole seconds, an optional plus before them. -/
def seconds? (s : String) : Option UInt64 :=
  ((readUnsigned? s.toList).filter (· < UInt64.size)).map UInt64.ofNat

/-- Three words mean yes, in letters of any case; everything else means no. -/
def isYes (s : String) : Bool := ["true", "1", "yes"].contains (s.map Char.toLower)

end Variables

/-- The configuration with the variables put in, the decimal among them as `decimal?` reads it. -/
def Config.overrideBy (decimal? : String → Option Decimal) (c : Config) (v : Variables) : Config :=
  { c with
    options :=
      { c.options with
        rpcUrl := (Variables.text? v.rpcUrl) <|> c.options.rpcUrl
        keeper := (Variables.text? v.keeperAddress).getD c.options.keeper
        pollInterval :=
          ((Variables.text? v.pollInterval).bind Variables.seconds?).getD c.options.pollInterval
        engageOnStart :=
          ((Variables.text? v.engageOnStart).map Variables.isYes).getD c.options.engageOnStart }
    settings :=
      { c.settings with
        methodology :=
          { c.settings.methodology with
            target := ((Variables.text? v.target).bind decimal?).getD
              c.settings.methodology.target } } }

end LeverageKeeper
