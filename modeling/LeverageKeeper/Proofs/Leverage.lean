import LeverageKeeper.Proofs.Exposure
import LeverageKeeper.Proofs.Fund.Limits

/-!
# The computed leverage ratio

A ratio is two operations, and each of them rounds: the debt is taken from the collateral's value,
and the value is divided by what is left.  Neither can fail where the debt is the smaller one
(`Decimal.exists_leaves`): the difference of two decimals is no smaller a part of the larger one
than the range of decimals allows for (`Decimal.le_sub_mul_limit`).  As rounding passes no decimal
and keeps the order, the ratio is never below one and grows with the debt.
-/

namespace LeverageKeeper

open Decimal (Rounds bound limit maxScale)

/-! ### Differences -/

namespace Decimal

variable {c d e : Decimal}

/-- A number is at most as many times its distance to a smaller one as decimals have digits for. -/
lemma le_sub_mul_bound {m n : ℕ} (hlt : n < m) (hn : n < bound) (hm : m ≠ bound) :
    m ≤ (m - n) * (bound - 1) := by
  obtain ⟨k, rfl⟩ := Nat.exists_eq_add_of_lt hlt
  rw [show n + k + 1 - n = k + 1 by omega]
  unfold bound at *
  omega

/-- A magnitude over a larger power of ten. -/
lemma abs_toRat_over (a : Decimal) {s : ℕ} (hs : a.scale ≤ s) :
    |a.toRat| = (a.digits * 10 ^ (s - a.scale) : ℕ) / 10 ^ s := by
  rw [eq_div_iff (by positivity), abs_toRat, shift_eq hs]

/-- Two values over one power of ten.  Digits are added to one of them only, and a number that gains
some ends in a zero, which the bound does not. -/
lemma exists_common (hd : 0 ≤ d.toRat) (hlt : d.toRat < c.toRat) :
    ∃ m n s : ℕ, c.toRat = m / 10 ^ s ∧ d.toRat = n / 10 ^ s ∧ n < m ∧ n < bound ∧ m ≠ bound := by
  have hless : ∀ {m n s : ℕ}, c.toRat = m / 10 ^ s → d.toRat = n / 10 ^ s → n < m := by
    intro m n s hm hn
    rw [hm, hn, div_lt_div_iff_of_pos_right (by positivity)] at hlt
    exact_mod_cast hlt
  have hc : |c.toRat| = c.toRat := abs_of_pos (by linarith)
  have hd : |d.toRat| = d.toRat := abs_of_nonneg hd
  rcases Nat.le_total c.scale d.scale with hs | hs
  · have hm := c.abs_toRat_over hs
    have hn := d.abs_toRat
    rw [hc] at hm
    rw [hd] at hn
    refine ⟨_, _, _, hm, hn, hless hm hn, d.digits_lt, ?_⟩
    cases d.scale - c.scale with
    | zero =>
      rw [pow_zero, mul_one]
      exact c.digits_lt.ne
    | succ i =>
      have hten := Nat.mul_mod_left (c.digits * 10 ^ i) 10
      rw [pow_succ, ← mul_assoc]
      unfold bound
      omega
  · have hm := c.abs_toRat
    have hn := d.abs_toRat_over hs
    rw [hc] at hm
    rw [hd] at hn
    have hnm := hless hm hn
    exact ⟨_, _, _, hm, hn, hnm, hnm.trans c.digits_lt, c.digits_lt.ne⟩

/-- **A value is at most as many times its difference to a smaller one as decimals reach.** -/
theorem le_sub_mul_limit (hd : 0 ≤ d.toRat) (hlt : d.toRat < c.toRat) :
    c.toRat ≤ (c.toRat - d.toRat) * (limit - 1) := by
  obtain ⟨m, n, s, hm, hn, hnm, hnb, hmb⟩ := exists_common hd hlt
  have hs : (0 : ℚ) < 10 ^ s := by positivity
  have hnat : (m : ℚ) ≤ (m - n) * (limit - 1) := by
    have h := le_sub_mul_bound hnm hnb hmb
    have h' : (m : ℚ) ≤ ((m - n) * (bound - 1) : ℕ) := Nat.cast_le.2 h
    rw [Nat.cast_mul, Nat.cast_sub hnm.le, Nat.cast_sub (by decide)] at h'
    exact h'
  rw [hm, hn, ← sub_div, div_mul_eq_mul_div]
  exact div_le_div_of_nonneg_right hnat hs.le

/-! ### What a debt leaves -/

/-- What is left of the value `c` after the debt `d`, as it is computed: as good as the difference,
and a part of the value that is not too small to divide by. -/
structure Leaves (c d e : Decimal) : Prop where
  computed : c.minus d = .ok e
  rounds : Rounds (c.toRat - d.toRat) e
  pos : 0 < e.toRat
  le : e.toRat ≤ c.toRat
  near : e.toRat ≤ (c.toRat - d.toRat) * (1 + 2 / 10 ^ maxScale)
  fits : c.toRat / e.toRat ≤ limit - 1

/-- **A smaller debt leaves something to divide by.** -/
theorem exists_leaves (hd : 0 ≤ d.toRat) (hlt : d.toRat < c.toRat) : ∃ e, Leaves c d e := by
  obtain ⟨e, hsub, hpos⟩ := sub?_pos hd hlt
  have he : c.minus d = .ok e := orCrash_eq_ok.2 hsub
  have hr := rounds_minus he
  rcases le_or_gt (c.toRat - d.toRat) 7 with hsmall | hlarge
  · -- the difference is not rounded
    obtain ⟨z, hz⟩ := exists_sub (a := c) (b := d) (abs_le.2 ⟨by linarith, hsmall⟩)
    have hexact := hr.eq hz.symm
    refine ⟨e, he, hr, hpos, by linarith, ?_, ?_⟩
    · rw [hexact]
      exact le_mul_of_one_le_right (by linarith) (le_add_of_nonneg_right (by positivity))
    · rw [hexact, div_le_iff₀ (by linarith), mul_comm]
      exact le_sub_mul_limit hd hlt
  · have hnear := (hr.within (by linarith) le_rfl).2
    have hone := hr.ge (y := one) (by rw [toRat_one]; linarith)
    rw [toRat_one] at hone
    refine ⟨e, he, hr, hpos, hr.le (by linarith), hnear.trans ?_, ?_⟩
    · rw [mul_add, mul_one, mul_div_assoc']
      exact add_le_add_right (div_le_div_of_nonneg_right (by linarith) (by positivity)) _
    · exact (div_le_self (hd.trans hlt.le) hone).trans (abs_le.1 c.abs_toRat_le).2

end Decimal

/-! ### The ratio -/

section Ratio

variable {c d d' r r' : Decimal}

/-- **There is a ratio of a value to what a smaller debt leaves of it.** -/
theorem leverageRatio_rounds (hd : 0 ≤ d.toRat) (hlt : d.toRat < c.toRat) :
    ∃ e r, Decimal.Leaves c d e ∧ leverageRatio c d = .ok r ∧ Rounds (c.toRat / e.toRat) r := by
  obtain ⟨e, h⟩ := Decimal.exists_leaves hd hlt
  have hquot : 0 ≤ c.toRat / e.toRat := div_nonneg (hd.trans hlt.le) h.pos.le
  obtain ⟨r, hr⟩ := leverageRatio_of_lt hlt hd h.computed h.pos (by
    rw [abs_of_nonneg hquot]
    linarith [h.fits])
  obtain ⟨-, e', he', hdiv⟩ := leverageRatio_eq_ok hr
  obtain rfl : e = e' := Except.ok.inj (h.computed.symm.trans he')
  exact ⟨e, r, h, hr, Decimal.rounds_div? hdiv⟩

/-- What a ratio is computed from. -/
lemma leverageRatio_leaves (hd : 0 ≤ d.toRat) (h : leverageRatio c d = .ok r) :
    ∃ e, Decimal.Leaves c d e ∧ Rounds (c.toRat / e.toRat) r := by
  obtain ⟨e, r', he, hr, hrounds⟩ :=
    leverageRatio_rounds hd (Decimal.lt_iff_toRat.1 (leverageRatio_eq_ok h).1)
  obtain rfl : r = r' := Except.ok.inj (h.symm.trans hr)
  exact ⟨e, he, hrounds⟩

/-- More is held than owed, so the ratio is one at least. -/
lemma one_le_leverageRatio (hd : 0 ≤ d.toRat) (h : leverageRatio c d = .ok r) : 1 ≤ r.toRat := by
  obtain ⟨e, he, hr⟩ := leverageRatio_leaves hd h
  have hquot := (one_le_div he.pos).2 he.le
  rw [← Decimal.toRat_one] at hquot ⊢
  exact hr.ge hquot

/-- A debt that is not too small a part of the value is seen in the ratio. -/
lemma one_lt_leverageRatio (h : leverageRatio c d = .ok r) (hc : 0 < c.toRat)
    (hpart : c.toRat / 10 ^ 26 ≤ d.toRat) : 1 < r.toRat := by
  have hd : 0 ≤ d.toRat := le_trans (by positivity) hpart
  obtain ⟨e, he, hr⟩ := leverageRatio_leaves hd h
  -- the first decimal after one
  let next : Decimal := ⟨false, 10 ^ 28 + 1, 28, by decide, by decide⟩
  have hnext : next.toRat = 1 + 1 / 10 ^ 28 := by
    rw [Decimal.toRat_eq]
    norm_num [next, Decimal.coeff]
  have hle : next.toRat ≤ c.toRat / e.toRat := by
    have hnear : e.toRat ≤ (c.toRat - d.toRat) * (1 + 2 / 10 ^ 28) := he.near
    rw [hnext, le_div_iff₀ he.pos]
    linarith [he.le]
  have hge := hr.ge hle
  rw [hnext] at hge
  linarith

/-- More debt on the same value does not lower the ratio. -/
lemma leverageRatio_mono (hd : 0 ≤ d.toRat) (hle : d.toRat ≤ d'.toRat)
    (h : leverageRatio c d = .ok r) (h' : leverageRatio c d' = .ok r') : r.toRat ≤ r'.toRat := by
  obtain ⟨e, he, hr⟩ := leverageRatio_leaves hd h
  obtain ⟨e', he', hr'⟩ := leverageRatio_leaves (hd.trans hle) h'
  have hleft : e'.toRat ≤ e.toRat := he'.rounds.mono he.rounds (by linarith)
  exact hr.mono hr' (div_le_div_of_nonneg_left (he.pos.le.trans he.le) he'.pos hleft)

/-! ### What comes out -/

/-- There is no ratio of an empty position, none of one that owes what it holds, and one of every
other position. -/
lemma leverageRatio_cases (hd : 0 ≤ d.toRat) :
    (c.toRat = 0 ∧ d.toRat = 0) ∧ leverageRatio c d = .error (.refused .emptyPosition) ∨
      (c.toRat ≤ d.toRat ∧ ¬ (c.toRat = 0 ∧ d.toRat = 0)) ∧
        leverageRatio c d = .error (.refused (.undercollateralized c d)) ∨
      d.toRat < c.toRat ∧ ∃ r, leverageRatio c d = .ok r := by
  rcases lt_or_ge d.toRat c.toRat with hlt | hle
  · obtain ⟨e, r, -, h, -⟩ := leverageRatio_rounds hd hlt
    exact .inr (.inr ⟨hlt, r, h⟩)
  · have hle' : c ≤ d := Decimal.le_iff_toRat.2 hle
    by_cases hempty : c.toRat = 0 ∧ d.toRat = 0
    · refine .inl ⟨hempty, ?_⟩
      simp only [leverageRatio, Decimal.isZero_iff, hempty, and_self, ↓reduceIte]
      rfl
    · refine .inr (.inl ⟨⟨hle, hempty⟩, ?_⟩)
      simp only [leverageRatio, Decimal.isZero_iff, hempty, hle', ↓reduceIte]
      rfl

lemma leverageRatio_eq_empty (hd : 0 ≤ d.toRat) :
    leverageRatio c d = .error (.refused .emptyPosition) ↔ c.toRat = 0 ∧ d.toRat = 0 := by
  rcases leverageRatio_cases (c := c) hd with ⟨hempty, h⟩ | ⟨⟨-, hempty⟩, h⟩ | ⟨hlt, r, h⟩
  · simp only [h, hempty, and_self]
  · simp only [h, hempty, Except.error.injEq, Failure.refused.injEq, reduceCtorEq]
  · rw [h]
    refine ⟨nofun, ?_⟩
    rintro ⟨hc0, hd0⟩
    linarith

lemma leverageRatio_eq_undercollateralized (hd : 0 ≤ d.toRat) :
    leverageRatio c d = .error (.refused (.undercollateralized c d)) ↔
      c.toRat ≤ d.toRat ∧ ¬ (c.toRat = 0 ∧ d.toRat = 0) := by
  rcases leverageRatio_cases (c := c) hd with ⟨hempty, h⟩ | ⟨hunder, h⟩ | ⟨hlt, r, h⟩
  · simp only [h, hempty, and_self, not_true_eq_false, and_false, Except.error.injEq,
      Failure.refused.injEq, reduceCtorEq]
  · exact ⟨fun _ => hunder, fun _ => h⟩
  · rw [h]
    refine ⟨nofun, ?_⟩
    rintro ⟨hle, -⟩
    linarith

end Ratio

/-- A ratio of one or more is not refused for being lower. -/
lemma Sizing.totalNotional_refusesOnly {current : Decimal} (h : 1 ≤ current.toRat)
    (target units : Decimal) :
    RefusesOnly (· = .numeric .notional) (totalNotional target current units) := by
  have hlow : ¬ current < Decimal.one := by
    rw [Decimal.not_lt, Decimal.le_iff_toRat, Decimal.toRat_one]
    exact h
  unfold totalNotional
  rw [if_neg hlow]
  exact refusesOnly_bind (refusesOnly_orCrash _ _) fun _ _ => refusesOnly_orRefuse _ rfl

/-- No position has a ratio below one. -/
lemma Balances.Derives.one_le_leverage {b : Balances} {p : Prices} {a : Assets} {x : Position}
    (h : b.Derives p a x) (hb : 0 ≤ p.borrow.toRat) : 1 ≤ x.leverage.toRat :=
  one_le_leverageRatio (worth_nonneg h.debtUnits hb h.debtValue) h.leverage

lemma Fund.one_le_leverage {f : Fund} {x : Position} (h : f.position = .ok x) :
    1 ≤ x.leverage.toRat := by
  obtain ⟨p, hprices, hx⟩ := derives_of_position h
  exact hx.one_le_leverage (Feeds.prices_pos hprices).2.le

/-- **The leverage ratio is one at least and grows with the debt.**  There is one for every value
above the debt, whatever the size of the two: the quotient always fits a decimal.  So the size of a
trade is never refused because the ratio of a position is below one. -/
theorem leverageRatio_settled {c d : Decimal} (hd : 0 ≤ d.toRat) :
    (leverageRatio c d = .error (.refused .emptyPosition) ↔ c.toRat = 0 ∧ d.toRat = 0) ∧
      (leverageRatio c d = .error (.refused (.undercollateralized c d)) ↔
        c.toRat ≤ d.toRat ∧ ¬ (c.toRat = 0 ∧ d.toRat = 0)) ∧
      (d.toRat < c.toRat → ∃ r, leverageRatio c d = .ok r ∧ 1 ≤ r.toRat ∧
        (d.toRat = 0 → r.toRat = 1) ∧
        (c.toRat / 10 ^ 26 ≤ d.toRat → 1 < r.toRat) ∧
        ∀ d' r', d.toRat ≤ d'.toRat → leverageRatio c d' = .ok r' → r.toRat ≤ r'.toRat) ∧
      (∀ b p a x target units low, Balances.position b p a = .ok x → 0 ≤ p.borrow.toRat →
        Sizing.totalNotional target x.leverage units
          ≠ .error (.refused (.numeric (.ratioBelowOne low)))) ∧
      ∀ f x target units low, Fund.position f = .ok x →
        Sizing.totalNotional target x.leverage units
          ≠ .error (.refused (.numeric (.ratioBelowOne low))) := by
  refine ⟨leverageRatio_eq_empty hd, leverageRatio_eq_undercollateralized hd, ?_, ?_, ?_⟩
  · intro hlt
    obtain ⟨-, r, -, h, -⟩ := leverageRatio_rounds hd hlt
    exact ⟨r, h, one_le_leverageRatio hd h, leverageRatio_of_no_debt h,
      one_lt_leverageRatio h (hd.trans_lt hlt), fun d' r' hle h' => leverageRatio_mono hd hle h h'⟩
  · intro b p a x target units low hx hb hlow
    have hone := (Balances.position_eq_ok hx).one_le_leverage hb
    cases Sizing.totalNotional_refusesOnly hone target units _ hlow
  · intro f x target units low hx hlow
    cases Sizing.totalNotional_refusesOnly (Fund.one_le_leverage hx) target units _ hlow

/-- The smallest debt that the theorem promises to see in the ratio of a value of one. -/
def Decimal.dust : Decimal := ⟨false, 1, 26, one.digits_lt, by decide⟩

theorem leverageRatio_settled_dust :
    0 ≤ Decimal.dust.toRat ∧ ∃ r, leverageRatio .one .dust = .ok r ∧ 1 < r.toRat ∧
      ∀ d' r', Decimal.dust.toRat ≤ d'.toRat → leverageRatio .one d' = .ok r' →
        r.toRat ≤ r'.toRat := by
  have hvalue : Decimal.dust.toRat = 1 / 10 ^ 26 := by
    norm_num [Decimal.toRat_eq, Decimal.dust, Decimal.coeff]
  have h0 : 0 ≤ Decimal.dust.toRat := by
    rw [hvalue]
    positivity
  obtain ⟨-, -, hratio, -⟩ := leverageRatio_settled (c := .one) h0
  obtain ⟨r, hr, -, -, hlt, hmono⟩ := hratio (by norm_num [hvalue])
  exact ⟨h0, r, hr, hlt (by norm_num [hvalue]), hmono⟩

end LeverageKeeper
