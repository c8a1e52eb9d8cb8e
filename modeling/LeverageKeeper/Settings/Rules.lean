import LeverageKeeper.Settings.Basic
import LeverageKeeper.Text.Blank

/-!
# Which decisions are allowed

Every rule that is broken is reported, in a fixed order.  Settings are valid when nothing is.
-/

namespace LeverageKeeper

/-- One broken rule. -/
inductive Violation where
  | sameAsset
  | zeroAsset
  | zeroFeed
  | manyDecimals (field : String) (decimals : Nat)
  | zeroStaleness
  | leastTooLow (least : Decimal)
  | leastAboveTarget (least target : Decimal)
  | targetAboveMost (target most : Decimal)
  | badSpeed (speed : Decimal)
  | zeroInterval
  | badUnutilized (part : Decimal)
  | badSlippage (part : Decimal)
  | ratioInsideBand (ratio most : Decimal)
  | slowEmergency (emergency ordinary : UInt64)
  | badEmergencySlippage (part : Decimal)
  | tightEmergencySlippage (emergency ordinary : Decimal)
  | negativeReward
  | blankName
  | zeroCap (venue : String)
  | capAboveEmergency (venue : String) (emergency cap : Decimal)
deriving DecidableEq

/-- How a broken rule is reported. -/
def Violation.message : Violation → String
  | sameAsset => "strategy: collateral and borrow asset must differ"
  | zeroAsset => "strategy: asset addresses must be non-zero"
  | zeroFeed => "strategy: oracle addresses must be non-zero"
  | manyDecimals field decimals => "strategy: " ++ field ++ " (" ++ toString decimals ++ ") exceeds 28"
  | zeroStaleness => "strategy: oracle_max_staleness_seconds must be > 0"
  | leastTooLow least =>
    "methodology: min_leverage_ratio (" ++ least.text ++ ") must be > 1"
  | leastAboveTarget least target =>
    "methodology: min_leverage_ratio (" ++ least.text ++ ") must be <= target_leverage_ratio ("
      ++ target.text ++ ")"
  | targetAboveMost target most =>
    "methodology: target_leverage_ratio (" ++ target.text ++ ") must be <= max_leverage_ratio ("
      ++ most.text ++ ")"
  | badSpeed speed => "methodology: recentering_speed (" ++ speed.text ++ ") must be in (0, 1]"
  | zeroInterval => "methodology: rebalance_interval must be > 0"
  | badUnutilized part =>
    "execution: unutilized_leverage_percentage (" ++ part.text ++ ") must be in [0, 1)"
  | badSlippage part => "execution: slippage_tolerance (" ++ part.text ++ ") must be in [0, 1)"
  | ratioInsideBand ratio most =>
    "incentive: incentivized_leverage_ratio (" ++ ratio.text ++ ") must be > max_leverage_ratio ("
      ++ most.text ++ ")"
  | slowEmergency emergency ordinary =>
    "incentive: incentivized_twap_cooldown_period (" ++ toString emergency.toNat
      ++ ") must be <= twap_cooldown_period (" ++ toString ordinary.toNat ++ ")"
  | badEmergencySlippage part =>
    "incentive: incentivized_slippage_tolerance (" ++ part.text ++ ") must be in [0, 1)"
  | tightEmergencySlippage emergency ordinary =>
    "incentive: incentivized_slippage_tolerance (" ++ emergency.text
      ++ ") must be >= slippage_tolerance (" ++ ordinary.text ++ ")"
  | negativeReward => "incentive: ether_reward must be >= 0"
  | blankName => "exchange: venue name is empty"
  | zeroCap venue => "exchange." ++ venue ++ ": twap_max_trade_size must be > 0"
  | capAboveEmergency venue emergency cap =>
    "exchange." ++ venue ++ ": incentivized_twap_max_trade_size (" ++ emergency.text
      ++ ") must be >= twap_max_trade_size (" ++ cap.text ++ ")"

/-- A rule as a list: empty when it is kept. -/
def brokenIf (p : Prop) [Decidable p] (v : α) : List α := if p then [v] else []

theorem brokenIf_eq_nil {p : Prop} [Decidable p] {v : α} : brokenIf p v = [] ↔ ¬ p := by
  unfold brokenIf; split <;> simp_all

/-- A part of a whole, the whole itself excluded. -/
def Decimal.IsFraction (a : Decimal) : Prop := Decimal.zero ≤ a ∧ a < Decimal.one

instance (a : Decimal) : Decidable a.IsFraction := by unfold Decimal.IsFraction; infer_instance

def Assets.violations (a : Assets) : List Violation :=
  brokenIf (a.collateral = a.borrow) .sameAsset
    ++ brokenIf (a.collateral.isZero ∨ a.borrow.isZero) .zeroAsset
    ++ brokenIf (a.collateralFeed.isZero ∨ a.borrowFeed.isZero) .zeroFeed
    ++ brokenIf (28 < a.collateralDecimals) (.manyDecimals "collateral_decimals" a.collateralDecimals)
    ++ brokenIf (28 < a.borrowDecimals) (.manyDecimals "borrow_decimals" a.borrowDecimals)
    ++ brokenIf (28 < a.oracleDecimals) (.manyDecimals "oracle_decimals" a.oracleDecimals)
    ++ brokenIf (a.maxStaleness = 0) .zeroStaleness

def Methodology.violations (m : Methodology) : List Violation :=
  brokenIf (m.least ≤ Decimal.one) (.leastTooLow m.least)
    ++ brokenIf (m.target < m.least) (.leastAboveTarget m.least m.target)
    ++ brokenIf (m.most < m.target) (.targetAboveMost m.target m.most)
    ++ brokenIf (m.speed ≤ Decimal.zero ∨ Decimal.one < m.speed) (.badSpeed m.speed)
    ++ brokenIf (m.interval = 0) .zeroInterval

def Execution.violations (e : Execution) : List Violation :=
  brokenIf (¬ e.unutilized.IsFraction) (.badUnutilized e.unutilized)
    ++ brokenIf (¬ e.slippage.IsFraction) (.badSlippage e.slippage)

/-- An emergency lies beyond the band, may trade sooner and at a worse price than an ordinary
rebalance, and does not cost its caller anything. -/
def Incentive.violations (i : Incentive) (m : Methodology) (e : Execution) : List Violation :=
  brokenIf (i.ratio ≤ m.most) (.ratioInsideBand i.ratio m.most)
    ++ brokenIf (e.cooldown < i.cooldown) (.slowEmergency i.cooldown e.cooldown)
    ++ (if ¬ i.slippage.IsFraction then [.badEmergencySlippage i.slippage]
        else brokenIf (i.slippage < e.slippage) (.tightEmergencySlippage i.slippage e.slippage))
    ++ brokenIf (i.reward < Decimal.zero) .negativeReward

def Settings.violations (s : Settings) : List Violation :=
  s.methodology.violations ++ s.execution.violations
    ++ s.incentive.violations s.methodology s.execution

def Terms.violations (name : String) (t : Terms) : List Violation :=
  brokenIf (Text.isBlankText name) .blankName
    ++ brokenIf (t.cap ≤ Decimal.zero) (.zeroCap name)
    ++ brokenIf (t.incentivizedCap < t.cap) (.capAboveEmergency name t.incentivizedCap t.cap)

/-- No rule is broken. -/
def Settings.Valid (s : Settings) : Prop := s.violations = []

instance (s : Settings) : Decidable s.Valid := by unfold Settings.Valid; infer_instance

end LeverageKeeper
