import LeverageKeeper.Proofs.Decimal.Value
import LeverageKeeper.Settings.Rules

/-!
What it means that no rule is broken, as facts that proofs can use.
-/

namespace LeverageKeeper

lemma Decimal.isFraction_iff {a : Decimal} : a.IsFraction ↔ 0 ≤ a.toRat ∧ a.toRat < 1 := by
  unfold IsFraction
  rw [le_iff_toRat, lt_iff_toRat, toRat_zero, toRat_one]

theorem Assets.violations_eq_nil {a : Assets} :
    a.violations = [] ↔
      a.collateral ≠ a.borrow ∧ ¬ (a.collateral.isZero ∨ a.borrow.isZero) ∧
        ¬ (a.collateralFeed.isZero ∨ a.borrowFeed.isZero) ∧ a.collateralDecimals ≤ 28 ∧
        a.borrowDecimals ≤ 28 ∧ a.oracleDecimals ≤ 28 ∧ a.maxStaleness ≠ 0 := by
  unfold violations
  simp only [List.append_eq_nil_iff, brokenIf_eq_nil, Nat.not_lt, and_assoc, ne_eq]

/-- The band lies above one, around the target, and every rebalance moves toward it. -/
theorem Methodology.violations_eq_nil {m : Methodology} :
    m.violations = [] ↔
      Decimal.one < m.least ∧ m.least ≤ m.target ∧ m.target ≤ m.most ∧
        Decimal.zero < m.speed ∧ m.speed ≤ Decimal.one ∧ m.interval ≠ 0 := by
  unfold violations
  simp only [List.append_eq_nil_iff, brokenIf_eq_nil, Decimal.not_lt, Decimal.not_le, not_or,
    and_assoc, ne_eq]

theorem Execution.violations_eq_nil {e : Execution} :
    e.violations = [] ↔ e.unutilized.IsFraction ∧ e.slippage.IsFraction := by
  unfold violations
  simp only [List.append_eq_nil_iff, brokenIf_eq_nil, not_not]

theorem Incentive.violations_eq_nil {i : Incentive} {m : Methodology} {e : Execution} :
    i.violations m e = [] ↔
      m.most < i.ratio ∧ i.cooldown ≤ e.cooldown ∧ i.slippage.IsFraction ∧
        e.slippage ≤ i.slippage ∧ Decimal.zero ≤ i.reward := by
  unfold violations
  by_cases hs : i.slippage.IsFraction
  · simp only [hs, not_true_eq_false, ↓reduceIte, List.append_eq_nil_iff, brokenIf_eq_nil,
      Decimal.not_lt, Decimal.not_le, UInt64.not_lt, and_assoc, true_and]
  · simp [hs]

theorem Settings.valid_iff {s : Settings} :
    s.Valid ↔ s.methodology.violations = [] ∧ s.execution.violations = [] ∧
      s.incentive.violations s.methodology s.execution = [] := by
  unfold Valid violations
  simp only [List.append_eq_nil_iff, and_assoc]

theorem Terms.violations_eq_nil {name : String} {t : Terms} :
    t.violations name = [] ↔
      Text.isBlankText name = false ∧ Decimal.zero < t.cap ∧ t.cap ≤ t.incentivizedCap := by
  unfold violations
  simp only [List.append_eq_nil_iff, brokenIf_eq_nil, Decimal.not_lt, Decimal.not_le,
    Bool.not_eq_true, and_assoc]

end LeverageKeeper
