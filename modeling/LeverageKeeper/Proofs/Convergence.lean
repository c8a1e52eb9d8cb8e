import LeverageKeeper.Proofs.Fund.Bounties
import LeverageKeeper.Proofs.Fund.Loss

/-!
Trading toward a target in chunks.  A trade exchanges collateral and debt of the same worth, so the
equity stays what it was and the ratio moves by the worth of the trade over the equity.  What is
left to trade then falls by just what was traded.  Where nothing is rounded on the way, it makes no
difference into how many chunks a trade is cut: they add up to what was to be traded at first, and
the ratio comes to the target.
-/

namespace LeverageKeeper

/-! ### Trades at constant prices -/

namespace Holding

/-- `n` units of collateral are bought with debt of the same worth, or sold to repay as much. -/
def exchange (h : Holding) (p : Prices) (d : Direction) (n : Decimal) : Outcome Holding := do
  let worth ← Sizing.toBorrow n p
  match d with
  | .lever => return ⟨← h.collateral.plus n, ← h.debt.plus worth⟩
  | .delever => return ⟨← h.collateral.minus n, ← h.debt.minus worth⟩

/-- One trade after the other. -/
def exchangeAll (h : Holding) (p : Prices) (d : Direction) : List Decimal → Outcome Holding
  | [] => .ok h
  | n :: ns => do (← h.exchange p d n).exchangeAll p d ns

end Holding

/-! ### Directions -/

namespace Direction

/-- A trade adds to both sides, or takes from both. -/
def sign : Direction → ℚ
  | lever => 1
  | delever => -1

/-- On the way in the given direction, `x` comes before `y`. -/
def Before : Direction → ℚ → ℚ → Prop
  | lever, x, y => x < y
  | delever, x, y => y < x

lemma sign_mul_sign (d : Direction) : d.sign * d.sign = 1 := by
  cases d <;> norm_num [sign]

lemma before_iff {d : Direction} {x y : ℚ} : d.Before x y ↔ 0 < d.sign * (y - x) := by
  cases d with
  | lever =>
    change x < y ↔ 0 < 1 * (y - x)
    rw [one_mul, sub_pos]
  | delever =>
    change y < x ↔ 0 < -1 * (y - x)
    rw [neg_one_mul, neg_sub, sub_pos]

lemma abs_of_sign {d : Direction} {z : ℚ} (h : 0 ≤ d.sign * z) : |z| = d.sign * z := by
  rw [← abs_of_nonneg h, abs_mul]
  cases d <;> norm_num [sign]

end Direction

namespace Holding

/-! ### Exact amounts -/

/-- What the collateral is worth. -/
def held (h : Holding) (p : Prices) : ℚ := h.collateral.toRat * p.collateral.toRat

/-- What the debt is worth. -/
def owed (h : Holding) (p : Prices) : ℚ := h.debt.toRat * p.borrow.toRat

def equity (h : Holding) (p : Prices) : ℚ := h.held p - h.owed p

/-- The leverage ratio, without rounding. -/
def ratio (h : Holding) (p : Prices) : ℚ := h.held p / h.equity p

/-- What there is to trade in the given direction until the ratio is at the target, in units of
collateral; it is negative beyond the target. -/
def ahead (h : Holding) (p : Prices) (target : ℚ) (d : Direction) : ℚ :=
  d.sign * (target - h.ratio p) * (h.equity p / p.collateral.toRat)

/-- More is held than owed, at positive prices. -/
structure Solvent (h : Holding) (p : Prices) : Prop where
  collateralPrice : 0 < p.collateral.toRat
  borrowPrice : 0 < p.borrow.toRat
  collateral : 0 < h.collateral.toRat
  debt : 0 ≤ h.debt.toRat
  owed_lt_held : h.owed p < h.held p

/-- Neither the position nor what it takes to reach the target is rounded on the way: every
operation has a decimal for its result. -/
structure Unrounded (h : Holding) (p : Prices) (target : Decimal) : Prop where
  held : ∃ z : Decimal, z.toRat = h.held p
  owed : ∃ z : Decimal, z.toRat = h.owed p
  equity : ∃ z : Decimal, z.toRat = h.equity p
  ratio : ∃ z : Decimal, z.toRat = h.ratio p
  gap : ∃ z : Decimal, z.toRat = target.toRat - h.ratio p
  part : ∃ z : Decimal, z.toRat = |target.toRat - h.ratio p| / h.ratio p
  notional : ∃ z : Decimal,
    z.toRat = |target.toRat - h.ratio p| / h.ratio p * h.collateral.toRat

/-- Nothing is rounded when `n` units are exchanged. -/
structure UnroundedExchange (h : Holding) (p : Prices) (d : Direction) (n : Decimal) : Prop where
  worth : ExactWorth n.toRat p.collateral p.borrow
  collateral : ∃ z : Decimal, z.toRat = h.collateral.toRat + d.sign * n.toRat
  debt : ∃ z : Decimal,
    z.toRat = h.debt.toRat + d.sign * (n.toRat * p.collateral.toRat / p.borrow.toRat)

/-- Nothing is rounded in the trades, nor at the start or after one of them. -/
def UnroundedAlong (p : Prices) (target : Decimal) (d : Direction) : Holding → List Decimal → Prop
  | h, [] => h.Unrounded p target
  | h, n :: ns => h.Unrounded p target ∧ h.UnroundedExchange p d n ∧
      ∀ h', h.exchange p d n = .ok h' → UnroundedAlong p target d h' ns

section Exact

variable {h h' : Holding} {p : Prices} {d : Direction} {target : Decimal} {t n : ℚ}

lemma Solvent.equity_pos (hs : h.Solvent p) : 0 < h.equity p := sub_pos.2 hs.owed_lt_held

lemma Solvent.ratio_mul_equity (hs : h.Solvent p) : h.ratio p * h.equity p = h.held p :=
  div_mul_cancel₀ _ hs.equity_pos.ne'

lemma Solvent.one_le_ratio (hs : h.Solvent p) : 1 ≤ h.ratio p := by
  have howed : 0 ≤ h.owed p := mul_nonneg hs.debt hs.borrowPrice.le
  unfold ratio
  rw [le_div_iff₀ hs.equity_pos]
  unfold equity
  linarith

/-- Where there is equity, a ratio of one at least means that something is held, and that nothing
negative is owed. -/
lemma solvent_of_ratio (hc : 0 < p.collateral.toRat) (hb : 0 < p.borrow.toRat)
    (he : 0 < h.equity p) (hr : 1 ≤ h.ratio p) : h.Solvent p := by
  have hheld : h.held p = h.ratio p * h.equity p := (div_mul_cancel₀ _ he.ne').symm
  have howed : h.owed p = (h.ratio p - 1) * h.equity p := by
    rw [sub_mul, one_mul, ← hheld]
    unfold equity
    ring
  refine ⟨hc, hb, ?_, ?_, sub_pos.1 he⟩
  · have hpos : 0 < h.held p := by
      rw [hheld]
      exact mul_pos (by linarith) he
    exact pos_of_mul_pos_left hpos hc.le
  · have hnonneg : 0 ≤ h.owed p := by
      rw [howed]
      exact mul_nonneg (by linarith) he.le
    exact nonneg_of_mul_nonneg_left hnonneg hb

section Ahead

variable (he : 0 < h.equity p) (hc : 0 < p.collateral.toRat)

include he hc

lemma ahead_nonneg_iff : 0 ≤ h.ahead p t d ↔ 0 ≤ d.sign * (t - h.ratio p) :=
  mul_nonneg_iff_of_pos_right (div_pos he hc)

/-- Something is left to trade as long as the ratio is before the target. -/
lemma ahead_pos_iff : 0 < h.ahead p t d ↔ d.Before (h.ratio p) t := by
  rw [Direction.before_iff]
  exact mul_pos_iff_of_pos_right (div_pos he hc)

/-- Nothing is left just if the ratio is the target. -/
lemma ahead_eq_zero_iff : h.ahead p t d = 0 ↔ h.ratio p = t := by
  have hk : h.equity p / p.collateral.toRat ≠ 0 := (div_pos he hc).ne'
  have hsign : d.sign ≠ 0 := by cases d <;> norm_num [Direction.sign]
  unfold ahead
  rw [mul_eq_zero, or_iff_left hk, mul_eq_zero, or_iff_right hsign, sub_eq_zero, eq_comm]

end Ahead

/-- **What the trade comes to, as it is computed**: the part of the ratio that is missing, of the
collateral. -/
lemma Solvent.ahead_eq (hs : h.Solvent p) (ha : 0 ≤ h.ahead p t d) :
    |t - h.ratio p| / h.ratio p * h.collateral.toRat = h.ahead p t d := by
  have hr : h.ratio p ≠ 0 := (zero_lt_one.trans_le hs.one_le_ratio).ne'
  have hc := hs.collateralPrice.ne'
  have hsign := (ahead_nonneg_iff hs.equity_pos hs.collateralPrice).1 ha
  have hunits : h.collateral.toRat = h.ratio p * (h.equity p / p.collateral.toRat) := by
    rw [mul_div_assoc', hs.ratio_mul_equity, held, mul_div_cancel_right₀ _ hc]
  unfold ahead
  rw [Direction.abs_of_sign hsign, hunits, ← mul_assoc, div_mul_cancel₀ _ hr]

/-! ### What a trade does -/

/-- The holding after `n` units have been exchanged. -/
structure Exchanged (h : Holding) (p : Prices) (d : Direction) (n : ℚ) (h' : Holding) : Prop where
  collateral : h'.collateral.toRat = h.collateral.toRat + d.sign * n
  debt : h'.debt.toRat = h.debt.toRat + d.sign * (n * p.collateral.toRat / p.borrow.toRat)

variable (hs : h.Solvent p) (hx : h.Exchanged p d n h')

include hs hx

/-- Both sides change by the worth of what is exchanged. -/
lemma Exchanged.values_eq :
    h'.held p = h.held p + d.sign * n * p.collateral.toRat ∧
      h'.owed p = h.owed p + d.sign * n * p.collateral.toRat := by
  have hb := hs.borrowPrice.ne'
  unfold held owed
  rw [hx.collateral, hx.debt]
  constructor
  · ring
  · field_simp

/-- **A trade leaves the equity alone.** -/
lemma Exchanged.equity_eq : h'.equity p = h.equity p := by
  obtain ⟨hheld, howed⟩ := hx.values_eq hs
  unfold equity
  rw [hheld, howed]
  ring

/-- **The ratio moves by the worth of the trade over the equity.** -/
lemma Exchanged.ratio_eq :
    h'.ratio p = h.ratio p + d.sign * n * p.collateral.toRat / h.equity p := by
  unfold ratio
  rw [hx.equity_eq hs, (hx.values_eq hs).1, add_div]

/-- **What is left to trade falls by what was traded.** -/
lemma Exchanged.ahead_eq : h'.ahead p t d = h.ahead p t d - n := by
  have he := hs.equity_pos.ne'
  have hc := hs.collateralPrice.ne'
  have hmoved : d.sign * (d.sign * n * p.collateral.toRat / h.equity p)
      * (h.equity p / p.collateral.toRat) = n := by
    calc d.sign * (d.sign * n * p.collateral.toRat / h.equity p)
          * (h.equity p / p.collateral.toRat)
        = d.sign * d.sign * n := by field_simp
      _ = n := by rw [d.sign_mul_sign, one_mul]
  unfold ahead
  rw [hx.ratio_eq hs, hx.equity_eq hs]
  calc d.sign * (t - (h.ratio p + d.sign * n * p.collateral.toRat / h.equity p))
        * (h.equity p / p.collateral.toRat)
      = d.sign * (t - h.ratio p) * (h.equity p / p.collateral.toRat)
          - d.sign * (d.sign * n * p.collateral.toRat / h.equity p)
            * (h.equity p / p.collateral.toRat) := by ring
    _ = d.sign * (t - h.ratio p) * (h.equity p / p.collateral.toRat) - n := by rw [hmoved]

/-- A trade that stops at the target, or short of it, leaves a ratio of one at least. -/
lemma Exchanged.one_le_ratio (ht : 1 ≤ t) (hn : 0 ≤ n) (hle : n ≤ h.ahead p t d) :
    1 ≤ h'.ratio p := by
  have hc := hs.collateralPrice
  cases d with
  | lever =>
    have hup : 0 ≤ n * p.collateral.toRat / h.equity p :=
      div_nonneg (mul_nonneg hn hc.le) hs.equity_pos.le
    have hone := hs.one_le_ratio
    rw [hx.ratio_eq hs]
    simp only [Direction.sign, one_mul]
    linarith
  | delever =>
    have he : 0 < h'.equity p := hx.equity_eq hs ▸ hs.equity_pos
    have hleft : 0 ≤ h'.ahead p t .delever := by
      rw [hx.ahead_eq hs]
      linarith
    have hshort := (ahead_nonneg_iff he hc).1 hleft
    simp only [Direction.sign] at hshort
    linarith

/-- Such a trade does not use up either side. -/
lemma Exchanged.solvent (ht : 1 ≤ t) (hn : 0 ≤ n) (hle : n ≤ h.ahead p t d) : h'.Solvent p :=
  solvent_of_ratio hs.collateralPrice hs.borrowPrice (hx.equity_eq hs ▸ hs.equity_pos)
    (hx.one_le_ratio hs ht hn hle)

end Exact

/-! ### Computed amounts -/

section Computed

variable {h h' : Holding} {p : Prices} {d : Direction} {target n : Decimal}

/-- The computed ratio is the exact one. -/
lemma Solvent.position_of_unrounded (hs : h.Solvent p) (hu : h.Unrounded p target) :
    ∃ x, h.position p = .ok x ∧ x.leverage.toRat = h.ratio p := by
  obtain ⟨cv, hcv, hheld⟩ := Decimal.mul?_of_exact rfl hu.held
  obtain ⟨dv, hdv, howed⟩ := Decimal.mul?_of_exact rfl hu.owed
  have hequity : cv.toRat - dv.toRat = h.equity p := by
    rw [hheld, howed]
    rfl
  have hquotient : cv.toRat / h.equity p = h.ratio p := by
    rw [hheld]
    rfl
  have hd : 0 ≤ dv.toRat := howed ▸ mul_nonneg hs.debt hs.borrowPrice.le
  obtain ⟨r, hr, hvalue⟩ := leverageRatio_of_exact hequity hquotient hs.equity_pos hd hu.equity
    hu.ratio
  refine ⟨⟨h.collateral, h.debt, p.collateral, p.borrow, cv, dv, r⟩, ?_, hvalue⟩
  unfold position
  simp only [bind_eq_ok, lift_eq_ok, orRefuse_eq_ok, pure_eq_ok]
  exact ⟨cv, hcv, dv, hdv, r, hr, rfl⟩

/-- The computed size of the trade is the exact one. -/
lemma Solvent.totalNotional_of_unrounded (hs : h.Solvent p) (hu : h.Unrounded p target)
    {r : Decimal} (hr : r.toRat = h.ratio p) :
    ∃ total, Sizing.totalNotional target r h.collateral = .ok total ∧
      total.toRat = |target.toRat - h.ratio p| / h.ratio p * h.collateral.toRat := by
  have hone := hs.one_le_ratio
  have hge : ¬ r < Decimal.one := by
    rw [Decimal.not_lt, Decimal.le_iff_toRat, Decimal.toRat_one, hr]
    exact hone
  obtain ⟨gap, hgap, hdiff⟩ := Decimal.minus_of_exact (x := target) (y := r)
    (by rw [hr]) hu.gap
  have habs : gap.abs.toRat = |target.toRat - h.ratio p| := by rw [Decimal.toRat_abs, hdiff]
  obtain ⟨part, hpart, hquot⟩ := Decimal.div?_of_exact (x := gap.abs) (y := r)
    (by rw [hr]; linarith) (by rw [habs, hr]) hu.part
  obtain ⟨total, htotal, hvalue⟩ := Decimal.mul?_of_exact (x := part) (y := h.collateral)
    (by rw [hquot]) hu.notional
  refine ⟨total, ?_, hvalue⟩
  unfold Sizing.totalNotional
  rw [if_neg hge, hgap, ok_bind, lift_eq_ok, orRefuse_eq_ok, hpart, Option.bind_some]
  exact htotal

/-- The trade goes through, for the exact amounts. -/
lemma Solvent.exchange_of_unrounded (hs : h.Solvent p) (hu : h.UnroundedExchange p d n) :
    ∃ h', h.exchange p d n = .ok h' ∧ h.Exchanged p d n.toRat h' := by
  obtain ⟨value, hvalue, hworth⟩ := Decimal.mul?_of_exact rfl hu.worth.value
  obtain ⟨worth, hdiv, hamount⟩ := Decimal.div?_of_exact (x := value) (y := p.borrow)
    hs.borrowPrice.ne' (by rw [hworth]) hu.worth.worth
  have hborrow : Sizing.toBorrow n p = .ok worth := by
    unfold Sizing.toBorrow
    rw [orRefuse_eq_ok, hvalue, Option.bind_some, hdiv]
  unfold exchange
  rw [hborrow, lift_ok, ok_bind]
  cases d with
  | lever =>
    obtain ⟨c, hc, hcvalue⟩ := Decimal.plus_of_exact (x := h.collateral) (y := n)
      (by rw [Direction.sign, one_mul]) hu.collateral
    obtain ⟨b, hb, hbvalue⟩ := Decimal.plus_of_exact (x := h.debt) (y := worth)
      (by rw [hamount, Direction.sign, one_mul]) hu.debt
    refine ⟨⟨c, b⟩, ?_, hcvalue, hbvalue⟩
    dsimp only
    rw [hc, ok_bind, hb]
    rfl
  | delever =>
    obtain ⟨c, hc, hcvalue⟩ := Decimal.minus_of_exact (x := h.collateral) (y := n)
      (by rw [Direction.sign, neg_one_mul, sub_eq_add_neg]) hu.collateral
    obtain ⟨b, hb, hbvalue⟩ := Decimal.minus_of_exact (x := h.debt) (y := worth)
      (by rw [hamount, Direction.sign, neg_one_mul, sub_eq_add_neg]) hu.debt
    refine ⟨⟨c, b⟩, ?_, hcvalue, hbvalue⟩
    dsimp only
    rw [hc, ok_bind, hb]
    rfl

end Computed

/-! ### Chunks -/

section Chunks

variable {h h' : Holding} {p : Prices} {d : Direction} {target : Decimal} {t : ℚ}
  {ns : List Decimal}

/-- What trades of the given amount in all come to. -/
structure Advanced (h : Holding) (p : Prices) (t : ℚ) (d : Direction) (amount : ℚ) (h' : Holding) :
    Prop where
  solvent : h'.Solvent p
  equity : h'.equity p = h.equity p
  ahead : h'.ahead p t d = h.ahead p t d - amount

/-- **Trades that stop at the target, or short of it, go through**, and what is left to trade falls
by all of them. -/
lemma exchangeAll_of_unrounded (ht : 1 ≤ target.toRat) (hs : h.Solvent p)
    (hpos : ∀ n ∈ ns, 0 < n.toRat) (hle : Decimal.total ns ≤ h.ahead p target.toRat d)
    (hu : h.UnroundedAlong p target d ns) :
    ∃ h', h.exchangeAll p d ns = .ok h' ∧ h'.Unrounded p target ∧
      h.Advanced p target.toRat d (Decimal.total ns) h' := by
  induction ns generalizing h with
  | nil => exact ⟨h, rfl, hu, hs, rfl, (sub_zero _).symm⟩
  | cons n ns ih =>
    obtain ⟨-, hexchange, hrest⟩ := hu
    have hn := hpos n List.mem_cons_self
    have hpos' : ∀ m ∈ ns, 0 < m.toRat := fun m hm => hpos m (List.mem_cons_of_mem n hm)
    have hnonneg := Decimal.total_nonneg hpos'
    rw [Decimal.total_cons] at hle ⊢
    obtain ⟨h₁, hx, hmoved⟩ := hs.exchange_of_unrounded hexchange
    have hahead := hmoved.ahead_eq hs (t := target.toRat)
    have hs₁ := hmoved.solvent hs ht hn.le (by linarith)
    obtain ⟨h', hall, hu', hs', hequity, hleft⟩ :=
      ih hs₁ hpos' (by rw [hahead]; linarith) (hrest h₁ hx)
    refine ⟨h', ?_, hu', hs', hequity.trans (hmoved.equity_eq hs), ?_⟩
    · unfold exchangeAll
      rw [hx]
      exact hall
    · rw [hleft, hahead]
      ring

/-- At the same equity, what is no longer ahead is what the ratio has moved by. -/
lemma ahead_sub (heq : h'.equity p = h.equity p) :
    h.ahead p t d - h'.ahead p t d = h.ahead p (h'.ratio p) d := by
  unfold ahead
  rw [heq]
  ring

end Chunks

end Holding

/-- A chunk is of the whole unless others are to follow. -/
lemma Sizing.chunk_whole {total cap room : Decimal} {c : Chunk}
    (h : chunk total cap room = .ok c) (hc : c.chunked = false) :
    c.notional.toRat = total.toRat := by
  obtain ⟨-, hle, -, -⟩ := chunk_bounds h
  obtain ⟨-, rfl⟩ := chunk_eq_ok h
  have hge := Decimal.le_iff_toRat.1 (Decimal.not_lt.1 (of_decide_eq_false hc))
  exact le_antisymm hle hge

/-- **Chunks do not change where a trade leads.**  Where nothing is rounded, what it takes to reach
a target is the exact amount.  Chunks of no more than this in all, one after the other in the
direction of the target, leave just the rest to trade, with the ratio strictly on its way; and once
they add up to all of it, the ratio is the target.  The next chunk is within the rest, whatever caps
it, and is all of the rest unless others are to follow. -/
theorem Holding.chunks_reach_target {h : Holding} {p : Prices} {target : Decimal}
    (hs : h.Solvent p) (ht : 1 ≤ target.toRat) (hu : h.Unrounded p target) :
    ∃ x total, h.position p = .ok x ∧ x.leverage.toRat = h.ratio p ∧
      Sizing.totalNotional target x.leverage h.collateral = .ok total ∧
      total.toRat = |target.toRat - h.ratio p| / h.ratio p * h.collateral.toRat ∧
      ∀ (d : Direction) (ns : List Decimal), d.Before x.leverage.toRat target.toRat →
        (∀ n ∈ ns, 0 < n.toRat) → Decimal.total ns ≤ total.toRat →
        h.UnroundedAlong p target d ns →
        ∃ h' x' rest, h.exchangeAll p d ns = .ok h' ∧ h'.position p = .ok x' ∧
          Sizing.totalNotional target x'.leverage h'.collateral = .ok rest ∧
          rest.toRat = total.toRat - Decimal.total ns ∧
          (Decimal.total ns = total.toRat → x'.leverage.toRat = target.toRat) ∧
          (ns ≠ [] → Decimal.total ns < total.toRat →
            d.Before x.leverage.toRat x'.leverage.toRat ∧
              d.Before x'.leverage.toRat target.toRat) ∧
          ∀ cap room c, Sizing.chunk rest cap room = .ok c →
            0 < c.notional.toRat ∧ Decimal.total ns + c.notional.toRat ≤ total.toRat ∧
              (c.chunked = false → Decimal.total ns + c.notional.toRat = total.toRat) := by
  obtain ⟨x, hx, hratio⟩ := hs.position_of_unrounded hu
  obtain ⟨total, htotal, hvalue⟩ := hs.totalNotional_of_unrounded hu hratio
  refine ⟨x, total, hx, hratio, htotal, hvalue, fun d ns hbefore hpos hle halong => ?_⟩
  have hc := hs.collateralPrice
  rw [hratio] at hbefore ⊢
  have hahead := (Holding.ahead_pos_iff hs.equity_pos hc).2 hbefore
  rw [hs.ahead_eq hahead.le] at hvalue
  rw [hvalue] at hle ⊢
  obtain ⟨h', hall, hu', hs', hequity, hleft⟩ :=
    Holding.exchangeAll_of_unrounded ht hs hpos hle halong
  obtain ⟨x', hx', hratio'⟩ := hs'.position_of_unrounded hu'
  obtain ⟨rest, hrest, hvalue'⟩ := hs'.totalNotional_of_unrounded hu' hratio'
  rw [hs'.ahead_eq (d := d) (by linarith), hleft] at hvalue'
  refine ⟨h', x', rest, hall, hx', hrest, hvalue', ?_, ?_, ?_⟩
  · intro heq
    rw [hratio']
    refine (Holding.ahead_eq_zero_iff hs'.equity_pos hc (d := d)).1 ?_
    rw [hleft, heq, sub_self]
  · intro hne hlt
    have hmoved := Holding.ahead_sub (t := target.toRat) (d := d) hequity
    have hsum := Decimal.total_pos hne hpos
    rw [hratio']
    constructor
    · rw [← Holding.ahead_pos_iff hs.equity_pos hc, ← hmoved]
      linarith
    · rw [← Holding.ahead_pos_iff hs'.equity_pos hc]
      linarith
  · intro cap room c hchunk
    obtain ⟨hcpos, hcle, -, -⟩ := Sizing.chunk_bounds hchunk
    refine ⟨hcpos, by linarith, fun hwhole => ?_⟩
    rw [Sizing.chunk_whole hchunk hwhole, hvalue']
    ring

namespace Holding.Trial

open Fund.Trial (number)

/-- Collateral at two and debt at five. -/
def uneven : Prices := ⟨number 2 0, number 5 0⟩

/-- At these prices the ratio is two. -/
def holding : Holding := ⟨number 100 0, number 20 0⟩

/-- A chunk of 25 takes it to two and a half. -/
def onTheWay : Holding := ⟨number 125 0, number 30 0⟩

/-- One of 75 more takes it to four. -/
def arrived : Holding := ⟨number 200 0, number 60 0⟩

lemma holding_solvent : holding.Solvent uneven := by
  constructor <;> decide +kernel

lemma holding_unrounded : holding.Unrounded uneven (number 4 0) :=
  ⟨⟨number 200 0, by decide +kernel⟩, ⟨number 100 0, by decide +kernel⟩,
    ⟨number 100 0, by decide +kernel⟩, ⟨number 2 0, by decide +kernel⟩,
    ⟨number 2 0, by decide +kernel⟩, ⟨number 1 0, by decide +kernel⟩,
    ⟨number 100 0, by decide +kernel⟩⟩

lemma onTheWay_unrounded : onTheWay.Unrounded uneven (number 4 0) :=
  ⟨⟨number 250 0, by decide +kernel⟩, ⟨number 150 0, by decide +kernel⟩,
    ⟨number 100 0, by decide +kernel⟩, ⟨number 25 1, by decide +kernel⟩,
    ⟨number 15 1, by decide +kernel⟩, ⟨number 6 1, by decide +kernel⟩,
    ⟨number 75 0, by decide +kernel⟩⟩

lemma arrived_unrounded : arrived.Unrounded uneven (number 4 0) :=
  ⟨⟨number 400 0, by decide +kernel⟩, ⟨number 300 0, by decide +kernel⟩,
    ⟨number 100 0, by decide +kernel⟩, ⟨number 4 0, by decide +kernel⟩,
    ⟨number 0 0, by decide +kernel⟩, ⟨number 0 0, by decide +kernel⟩,
    ⟨number 0 0, by decide +kernel⟩⟩

lemma holding_exchange : holding.exchange uneven .lever (number 25 0) = .ok onTheWay := by rfl

lemma onTheWay_exchange : onTheWay.exchange uneven .lever (number 75 0) = .ok arrived := by rfl

lemma holding_trade : holding.UnroundedExchange uneven .lever (number 25 0) :=
  ⟨⟨⟨number 50 0, by decide +kernel⟩, ⟨number 10 0, by decide +kernel⟩⟩,
    ⟨number 125 0, by decide +kernel⟩, ⟨number 30 0, by decide +kernel⟩⟩

lemma onTheWay_trade : onTheWay.UnroundedExchange uneven .lever (number 75 0) :=
  ⟨⟨⟨number 150 0, by decide +kernel⟩, ⟨number 30 0, by decide +kernel⟩⟩,
    ⟨number 200 0, by decide +kernel⟩, ⟨number 60 0, by decide +kernel⟩⟩

end Holding.Trial

open Holding.Trial Fund.Trial

/-- Two chunks take a ratio of two to four; after the first it is on its way. -/
theorem Holding.chunks_reach_target_four :
    holding.Solvent uneven ∧ 1 ≤ (number 4 0).toRat ∧ holding.Unrounded uneven (number 4 0) ∧
      ∃ x x₁ x₂ total rest, holding.position uneven = .ok x ∧
        Sizing.totalNotional (number 4 0) x.leverage holding.collateral = .ok total ∧
        onTheWay.position uneven = .ok x₁ ∧
        Sizing.totalNotional (number 4 0) x₁.leverage onTheWay.collateral = .ok rest ∧
        rest.toRat = total.toRat - 25 ∧
        Direction.lever.Before x.leverage.toRat x₁.leverage.toRat ∧
        Direction.lever.Before x₁.leverage.toRat 4 ∧
        arrived.position uneven = .ok x₂ ∧ x₂.leverage.toRat = 4 := by
  have hone : 1 ≤ (number 4 0).toRat := by decide +kernel
  have hfour : (number 4 0).toRat = 4 := by decide +kernel
  have halong : holding.UnroundedAlong uneven (number 4 0) .lever [number 25 0] := by
    refine ⟨holding_unrounded, holding_trade, fun h' hh => ?_⟩
    cases holding_exchange.symm.trans hh
    exact onTheWay_unrounded
  have halong' : holding.UnroundedAlong uneven (number 4 0) .lever [number 25 0, number 75 0] := by
    refine ⟨holding_unrounded, holding_trade, fun h' hh => ?_⟩
    cases holding_exchange.symm.trans hh
    refine ⟨onTheWay_unrounded, onTheWay_trade, fun h' hh => ?_⟩
    cases onTheWay_exchange.symm.trans hh
    exact arrived_unrounded
  have hratio : holding.ratio uneven = 2 := by decide +kernel
  have hsize : |(number 4 0).toRat - holding.ratio uneven| / holding.ratio uneven
      * holding.collateral.toRat = 100 := by decide +kernel
  have hquarter : Decimal.total [number 25 0] = 25 := by decide +kernel
  have hall : Decimal.total [number 25 0, number 75 0] = 100 := by decide +kernel
  obtain ⟨x, total, hx, hlev, htotal, hvalue, hchunks⟩ :=
    Holding.chunks_reach_target holding_solvent hone holding_unrounded
  rw [hsize] at hvalue
  have hup : Direction.lever.Before x.leverage.toRat (number 4 0).toRat := by
    rw [hlev, hratio, hfour]
    change (2 : ℚ) < 4
    norm_num
  obtain ⟨h₁, x₁, rest, hh₁, hx₁, hrest, hleft, -, hbetween, -⟩ :=
    hchunks .lever [number 25 0] hup (by decide +kernel) (by rw [hquarter, hvalue]; norm_num) halong
  obtain ⟨h₂, x₂, -, hh₂, hx₂, -, -, hreached, -, -⟩ :=
    hchunks .lever [number 25 0, number 75 0] hup (by decide +kernel)
      (by rw [hall, hvalue]) halong'
  obtain rfl : onTheWay = h₁ := Except.ok.inj (by rw [← hh₁]; rfl)
  obtain rfl : arrived = h₂ := Except.ok.inj (by rw [← hh₂]; rfl)
  obtain ⟨hmoved, hshort⟩ := hbetween (List.cons_ne_nil _ _) (by rw [hquarter, hvalue]; norm_num)
  rw [hquarter] at hleft
  rw [hfour] at hshort hreached
  exact ⟨holding_solvent, hone, holding_unrounded, x, x₁, x₂, total, rest, hx, htotal, hx₁, hrest,
    hleft, hmoved, hshort, hx₂, hreached (by rw [hall, hvalue])⟩

end LeverageKeeper
