import LeverageKeeper.Proofs.Exposure
import LeverageKeeper.Proofs.Sizing
import LeverageKeeper.Proofs.Fund.Reachable

/-!
What the room for a trade stands for.  The lending venue holds the debt against a part of the
collateral's value, and the strategy keeps some of that part unutilized.  The room for a trade is
how far it may go until the debt is at this limit: bought collateral is not counted before the loan
for it is taken, and sold collateral is gone before the debt is repaid.  Where nothing is rounded,
the room is exactly that.
-/

namespace LeverageKeeper

/-! ### Limits -/

/-- The part of the collateral's value that the debt is held against. -/
def LendingLimits.share (l : LendingLimits) : Direction → Decimal
  | .lever => l.maxLtv
  | .delever => l.liquidationThreshold

namespace Position

/-- The debt that a trade may lead to: the share of the collateral's value, less what of it is to
stay unutilized. -/
def debtLimit (p : Position) (limits : LendingLimits) (e : Execution) (d : Direction) : ℚ :=
  p.collateralValue.toRat * (limits.share d).toRat * (1 - e.unutilized.toRat)

/-- In the middle of a trade of `n` units, when the loan is taken and nothing bought yet, or the
collateral sold and nothing repaid yet, the debt is within its limit. -/
def Keeps (p : Position) (limits : LendingLimits) (e : Execution) (n : ℚ) : Direction → Prop
  | .lever =>
    p.debtValue.toRat + n * p.collateralPrice.toRat
      ≤ p.collateralValue.toRat * limits.maxLtv.toRat * (1 - e.unutilized.toRat)
  | .delever =>
    p.debtValue.toRat
      ≤ (p.collateralUnits.toRat - n) * p.collateralPrice.toRat
          * limits.liquidationThreshold.toRat * (1 - e.unutilized.toRat)

/-- The room without rounding; it is negative if the debt is beyond its limit. -/
def room (p : Position) (limits : LendingLimits) (e : Execution) : Direction → ℚ
  | .lever => (p.debtLimit limits e .lever - p.debtValue.toRat) / p.collateralPrice.toRat
  | .delever =>
    p.collateralUnits.toRat * (p.debtLimit limits e .delever - p.debtValue.toRat)
      / p.debtLimit limits e .delever

/-- A position with collateral of exactly the value that is stated, and limits for it. -/
structure Limited (p : Position) (limits : LendingLimits) (e : Execution) : Prop where
  price : 0 < p.collateralPrice.toRat
  value : 0 < p.collateralValue.toRat
  value_eq : p.collateralValue.toRat = p.collateralUnits.toRat * p.collateralPrice.toRat
  maxLtv : 0 < limits.maxLtv.toRat
  liquidationThreshold : 0 < limits.liquidationThreshold.toRat
  utilization : 0 < 1 - e.unutilized.toRat

/-- Nothing is rounded on the way to the room: every operation has a decimal for its result. -/
structure UnroundedRoom (p : Position) (limits : LendingLimits) (e : Execution) (d : Direction) :
    Prop where
  utilization : ∃ z : Decimal, z.toRat = 1 - e.unutilized.toRat
  share : ∃ z : Decimal, z.toRat = p.collateralValue.toRat * (limits.share d).toRat
  limit : ∃ z : Decimal, z.toRat = p.debtLimit limits e d
  free : ∃ z : Decimal, z.toRat = p.debtLimit limits e d - p.debtValue.toRat
  product : d = .delever → ∃ z : Decimal,
    z.toRat = p.collateralUnits.toRat * (p.debtLimit limits e d - p.debtValue.toRat)
  room : ∃ z : Decimal, z.toRat = p.room limits e d

section Exact

variable {p : Position} {limits : LendingLimits} {e : Execution} {d : Direction} {n : ℚ}
  (h : p.Limited limits e)

include h

lemma Limited.debtLimit_pos : 0 < p.debtLimit limits e d := by
  have hshare : 0 < (limits.share d).toRat := by
    cases d with
    | lever => exact h.maxLtv
    | delever => exact h.liquidationThreshold
  exact mul_pos (mul_pos h.value hshare) h.utilization

lemma Limited.units_pos : 0 < p.collateralUnits.toRat := by
  have hvalue := h.value
  rw [h.value_eq] at hvalue
  exact pos_of_mul_pos_left hvalue h.price.le

/-- **A trade keeps the debt within its limit just if it is no larger than the room.** -/
theorem Limited.keeps_iff : p.Keeps limits e n d ↔ n ≤ p.room limits e d := by
  cases d with
  | lever =>
    unfold Keeps room
    rw [le_div_iff₀ h.price, le_sub_iff_add_le']
    rfl
  | delever =>
    have hlimit : 0 < p.debtLimit limits e .delever := h.debtLimit_pos
    have hunits := h.units_pos
    have hleft : (p.collateralUnits.toRat - n) * p.collateralPrice.toRat
        * limits.liquidationThreshold.toRat * (1 - e.unutilized.toRat) * p.collateralUnits.toRat
        = (p.collateralUnits.toRat - n) * p.debtLimit limits e .delever := by
      unfold debtLimit LendingLimits.share
      rw [h.value_eq]
      ring
    unfold Keeps room
    dsimp only
    rw [le_div_iff₀ hlimit, ← mul_le_mul_iff_left₀ hunits, hleft]
    constructor
    · intro hle
      linarith
    · intro hle
      linarith

/-- There is room just if the debt is below its limit. -/
lemma Limited.room_pos_iff :
    0 < p.room limits e d ↔ p.debtValue.toRat < p.debtLimit limits e d := by
  cases d with
  | lever =>
    unfold room
    rw [lt_div_iff₀ h.price, zero_mul, sub_pos]
  | delever =>
    have hlimit : 0 < p.debtLimit limits e .delever := h.debtLimit_pos
    unfold room
    rw [lt_div_iff₀ hlimit, zero_mul, mul_pos_iff_of_pos_left h.units_pos, sub_pos]

end Exact

end Position

/-! ### The computation -/

namespace Sizing

/-- The debt that a trade may lead to, as it is computed. -/
def ceiling (p : Position) (limits : LendingLimits) (e : Execution) (d : Direction) :
    Outcome Decimal := do
  let utilization ← Decimal.one.minus e.unutilized
  (← p.collateralValue.times (limits.share d)).times utilization

/-- The room that the ceiling leaves. -/
def roomUnder (p : Position) (ceiling : Decimal) : Direction → Outcome Decimal
  | .lever => do
    let free ← ceiling.minus p.debtValue
    return ((free.div? p.collateralPrice).getD Decimal.zero).max Decimal.zero
  | .delever => do
    if ceiling.isZero then
      return Decimal.zero
    let free ← p.collateralUnits.times (← ceiling.minus p.debtValue)
    return (← free.dividedBy ceiling).max Decimal.zero

/-- The room is computed in two steps. -/
theorem headroom_eq (p : Position) (limits : LendingLimits) (e : Execution) (d : Direction) :
    headroom p limits e d = ceiling p limits e d >>= fun c => roomUnder p c d := by
  cases d with
  | lever =>
    unfold headroom ceiling roomUnder
    simp only [bind_assoc]
    rfl
  | delever =>
    unfold headroom ceiling roomUnder
    simp only [bind_assoc]
    rfl

section Unrounded

variable {p : Position} {limits : LendingLimits} {e : Execution} {d : Direction}

lemma ceiling_of_unrounded (hu : p.UnroundedRoom limits e d) :
    ∃ c, ceiling p limits e d = .ok c ∧ c.toRat = p.debtLimit limits e d := by
  obtain ⟨u, huse, hutilization⟩ := Decimal.minus_of_exact (x := Decimal.one) (y := e.unutilized)
    (by rw [Decimal.toRat_one]) hu.utilization
  obtain ⟨s, hs, hshare⟩ := Decimal.mul?_of_exact rfl hu.share
  obtain ⟨c, hc, hlimit⟩ := Decimal.mul?_of_exact (x := s) (y := u)
    (by rw [hshare, hutilization]; rfl) hu.limit
  refine ⟨c, ?_, hlimit⟩
  unfold ceiling
  rw [huse, ok_bind, Decimal.times, hs]
  exact orCrash_eq_ok.2 hc

/-- **The computed room is the exact one**, or zero where that is negative. -/
lemma headroom_of_unrounded (h : p.Limited limits e) (hu : p.UnroundedRoom limits e d) :
    ∃ room, headroom p limits e d = .ok room ∧ room.toRat = max (p.room limits e d) 0 := by
  obtain ⟨c, hc, hlimit⟩ := ceiling_of_unrounded hu
  obtain ⟨free, hfree, hleft⟩ := Decimal.minus_of_exact (x := c) (y := p.debtValue)
    (by rw [hlimit]) hu.free
  rw [headroom_eq, hc, ok_bind]
  cases d with
  | lever =>
    obtain ⟨w, hw, hroom⟩ := Decimal.div?_of_exact (x := free) (y := p.collateralPrice)
      h.price.ne' (by rw [hleft]; rfl) hu.room
    refine ⟨w.max Decimal.zero, ?_, by rw [Decimal.toRat_max, hroom, Decimal.toRat_zero]⟩
    unfold roomUnder
    rw [hfree, ok_bind, hw]
    rfl
  | delever =>
    have hpos : 0 < c.toRat := hlimit ▸ h.debtLimit_pos
    have hzero : ¬ c.isZero = true := fun hz => hpos.ne' (Decimal.isZero_iff.1 hz)
    obtain ⟨product, hproduct, hvalue⟩ := Decimal.mul?_of_exact (x := p.collateralUnits) (y := free)
      (by rw [hleft]) (hu.product rfl)
    obtain ⟨w, hw, hroom⟩ := Decimal.div?_of_exact (x := product) (y := c)
      hpos.ne' (by rw [hvalue, hlimit]; rfl) hu.room
    refine ⟨w.max Decimal.zero, ?_, by rw [Decimal.toRat_max, hroom, Decimal.toRat_zero]⟩
    unfold roomUnder
    dsimp only
    rw [if_neg hzero, hfree, ok_bind, Decimal.times, hproduct]
    unfold Decimal.dividedBy
    rw [orCrash, ok_bind, hw]
    rfl

end Unrounded

end Sizing

/-- **Where nothing is rounded, the room is exactly the lending limit.**  It is zero just if the
debt is at its limit or beyond; else a trade keeps the debt within the limit just if it is no larger
than the room.  So every chunk keeps the debt within its limit. -/
theorem Position.headroom_is_limit {p : Position} {limits : LendingLimits} {e : Execution}
    {d : Direction} (h : p.Limited limits e) (hu : p.UnroundedRoom limits e d) :
    ∃ room, Sizing.headroom p limits e d = .ok room ∧
      (room.toRat = 0 ↔ p.debtLimit limits e d ≤ p.debtValue.toRat) ∧
      (0 < room.toRat → ∀ n : ℚ, p.Keeps limits e n d ↔ n ≤ room.toRat) ∧
      ∀ total cap c, Sizing.chunk total cap room = .ok c → p.Keeps limits e c.notional.toRat d := by
  obtain ⟨room, hroom, hvalue⟩ := Sizing.headroom_of_unrounded h hu
  have hpos : 0 < room.toRat → room.toRat = p.room limits e d := by
    intro hpos
    rw [hvalue] at hpos ⊢
    exact max_eq_left (lt_max_iff.1 hpos |>.resolve_right (lt_irrefl 0)).le
  have hkeeps : 0 < room.toRat → ∀ n : ℚ, p.Keeps limits e n d ↔ n ≤ room.toRat := by
    intro h0 n
    rw [hpos h0]
    exact h.keeps_iff
  refine ⟨room, hroom, ?_, hkeeps, fun total cap c hc => ?_⟩
  · rw [hvalue, max_eq_right_iff, ← not_lt, h.room_pos_iff, not_lt]
  · obtain ⟨h0, -, -, hle⟩ := Sizing.chunk_bounds hc
    exact (hkeeps (h0.trans_le hle) _).2 hle

namespace Position.Trial

open Fund.Trial (number)

/-- A hundred units at a price of two, against a debt worth half of them. -/
def indebted : Position :=
  ⟨number 100 0, number 100 0, number 2 0, number 1 0, number 200 0, number 100 0, number 2 0⟩

def limits : LendingLimits := ⟨number 75 2, number 8 1⟩

def execution : Execution := ⟨number 0 0, 600, number 2 2⟩

lemma indebted_limited : indebted.Limited limits execution := by
  constructor <;> decide +kernel

lemma indebted_unrounded (d : Direction) : indebted.UnroundedRoom limits execution d := by
  cases d with
  | lever =>
    exact ⟨⟨number 1 0, by decide +kernel⟩, ⟨number 150 0, by decide +kernel⟩,
      ⟨number 150 0, by decide +kernel⟩, ⟨number 50 0, by decide +kernel⟩, nofun,
      ⟨number 25 0, by decide +kernel⟩⟩
  | delever =>
    exact ⟨⟨number 1 0, by decide +kernel⟩, ⟨number 160 0, by decide +kernel⟩,
      ⟨number 160 0, by decide +kernel⟩, ⟨number 60 0, by decide +kernel⟩,
      fun _ => ⟨⟨false, 6000, 0, by decide, by decide⟩, by decide +kernel⟩,
      ⟨number 375 1, by decide +kernel⟩⟩

end Position.Trial

open Position.Trial

/-- Of a hundred units, 25 can be bought and 37.5 sold within the limits. -/
theorem Position.headroom_is_limit_indebted :
    indebted.Limited limits execution ∧ (∀ d, indebted.UnroundedRoom limits execution d) ∧
      (∃ room, Sizing.headroom indebted limits execution .lever = .ok room ∧ room.toRat = 25 ∧
        ∀ n : ℚ, indebted.Keeps limits execution n .lever ↔ n ≤ 25) ∧
      ∃ room, Sizing.headroom indebted limits execution .delever = .ok room ∧
        room.toRat = 75 / 2 ∧ ∀ n : ℚ, indebted.Keeps limits execution n .delever ↔ n ≤ 75 / 2 := by
  refine ⟨indebted_limited, indebted_unrounded, ?_, ?_⟩
  · obtain ⟨room, hroom, -, hkeeps, -⟩ :=
      Position.headroom_is_limit indebted_limited (indebted_unrounded .lever)
    have hvalue : (Sizing.headroom indebted limits execution .lever).toOption.map Decimal.toRat
        = some 25 := by decide +kernel
    rw [hroom] at hvalue
    have hvalue : room.toRat = 25 := Option.some.inj hvalue
    rw [hvalue] at hkeeps
    exact ⟨room, hroom, hvalue, hkeeps (by norm_num)⟩
  · obtain ⟨room, hroom, -, hkeeps, -⟩ :=
      Position.headroom_is_limit indebted_limited (indebted_unrounded .delever)
    have hvalue : (Sizing.headroom indebted limits execution .delever).toOption.map Decimal.toRat
        = some (75 / 2) := by decide +kernel
    rw [hroom] at hvalue
    have hvalue : room.toRat = 75 / 2 := Option.some.inj hvalue
    rw [hvalue] at hkeeps
    exact ⟨room, hroom, hvalue, hkeeps (by norm_num)⟩

end LeverageKeeper
