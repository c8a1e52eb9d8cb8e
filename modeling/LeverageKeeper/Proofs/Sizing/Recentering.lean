import LeverageKeeper.Proofs.Decimal.Range
import LeverageKeeper.Proofs.Fund.Reachable
import LeverageKeeper.Proofs.Sizing.Direction

/-!
# Recentering

A rebalance aims at a ratio part of the way from the current one to the target, brought into the
band.  Without rounding this blend lies between the two, and the distance to the target shrinks by
the part that is gone (`blend_sub_target`).  What is computed is off by less than `10 ^ -18`
(`blended_near`), and a band moves no ratio away from a point of its own (`abs_band_sub_le`), the
target among them.
-/

namespace LeverageKeeper

open Decimal (InRange)

/-! ### The band -/

namespace Methodology

variable {m : Methodology} {lo hi x y : ℚ}

/-- A ratio brought into the band. -/
def band (m : Methodology) (x : ℚ) : ℚ := max m.least.toRat (min m.most.toRat x)

lemma clamp_band (h : m.least ≤ m.most) (a : Decimal) :
    ∃ r, a.clamp m.least m.most = .ok r ∧ r.toRat = m.band a.toRat := by
  have hband := Decimal.le_iff_toRat.1 h
  unfold Decimal.clamp band
  rw [if_neg (Decimal.not_lt.2 h)]
  refine ⟨_, rfl, ?_⟩
  by_cases hlow : a < m.least
  · have hlow' := (Decimal.lt_iff_toRat.1 hlow).le
    rw [if_pos hlow, max_eq_left ((min_le_right _ _).trans hlow')]
  · have hlow' := Decimal.le_iff_toRat.1 (Decimal.not_lt.1 hlow)
    rw [if_neg hlow]
    by_cases hhigh : m.most < a
    · rw [if_pos hhigh, min_eq_left (Decimal.lt_iff_toRat.1 hhigh).le, max_eq_right hband]
    · have hhigh' := Decimal.le_iff_toRat.1 (Decimal.not_lt.1 hhigh)
      rw [if_neg hhigh, min_eq_right hhigh', max_eq_right hlow']

lemma band_of_mem (h : m.least.toRat ≤ x) (h' : x ≤ m.most.toRat) : m.band x = x := by
  unfold band
  rw [min_eq_right h', max_eq_right h]

/-- **The band takes no ratio away from a point of its own.** -/
theorem abs_band_sub_le (hlo : m.least.toRat ≤ y) (hhi : y ≤ m.most.toRat) :
    |m.band x - y| ≤ |x - y| := by
  unfold band
  rcases le_total x y with hxy | hxy
  · -- from below a ratio can only be raised, and no further than to the point
    rw [min_eq_right (hxy.trans hhi), abs_of_nonpos (sub_nonpos.2 hxy),
      abs_of_nonpos (sub_nonpos.2 (max_le hlo hxy))]
    have := le_max_right m.least.toRat x
    linarith
  · have hge : y ≤ min m.most.toRat x := le_min hhi hxy
    rw [max_eq_right (hlo.trans hge), abs_of_nonneg (sub_nonneg.2 hxy),
      abs_of_nonneg (sub_nonneg.2 hge)]
    have := min_le_right m.most.toRat x
    linarith

end Methodology

/-! ### The blend -/

namespace Methodology

variable {m : Methodology} {current : Decimal}

/-- The ratio that lies the given part of the way from `current` to the target. -/
def blend (m : Methodology) (current : Decimal) : ℚ :=
  m.target.toRat * m.speed.toRat + current.toRat * (1 - m.speed.toRat)

/-- The blend as it is computed. -/
def blended (m : Methodology) (current : Decimal) : Outcome Decimal := do
  let pull ← m.target.times m.speed
  let stay ← current.times (← Decimal.one.minus m.speed)
  pull.plus stay

/-- To recenter is to blend and to bring the outcome into the band. -/
lemma recentered_eq (m : Methodology) (current : Decimal) :
    Sizing.recentered current m = m.blended current >>= fun x => x.clamp m.least m.most := by
  unfold Sizing.recentered blended
  simp only [bind_assoc]

lemma blend_sub_target (m : Methodology) (current : Decimal) :
    m.blend current - m.target.toRat
      = (1 - m.speed.toRat) * (current.toRat - m.target.toRat) := by
  unfold blend
  ring

lemma blend_sub_current (m : Methodology) (current : Decimal) :
    m.blend current - current.toRat = m.speed.toRat * (m.target.toRat - current.toRat) := by
  unfold blend
  ring

/-- What a valid methodology and a ratio have to do with each other, for ratios from one to `b`. -/
structure Bounds (m : Methodology) (current : Decimal) (b : ℚ) : Prop where
  one_lt_least : 1 < m.least.toRat
  least_le : m.least.toRat ≤ m.target.toRat
  le_most : m.target.toRat ≤ m.most.toRat
  most_le : m.most.toRat ≤ b
  speed_pos : 0 < m.speed.toRat
  speed_le : m.speed.toRat ≤ 1
  one_le : 1 ≤ current.toRat
  le_bound : current.toRat ≤ b

lemma bounds_of_valid {b : ℚ} (hm : m.violations = []) (hmost : m.most.toRat ≤ b)
    (hlow : 1 ≤ current.toRat) (hhigh : current.toRat ≤ b) : m.Bounds current b := by
  obtain ⟨h1, h2, h3, h4, h5, -⟩ := violations_eq_nil.1 hm
  rw [Decimal.lt_iff_toRat] at h1 h4
  rw [Decimal.le_iff_toRat] at h2 h3 h5
  rw [Decimal.toRat_one] at h1 h5
  rw [Decimal.toRat_zero] at h4
  exact ⟨h1, h2, h3, hmost, h4, h5, hlow, hhigh⟩

section Bounds

variable {b : ℚ} (h : m.Bounds current b)

include h

/-- The blend lies between the ratio and the target. -/
lemma Bounds.blend_mem :
    min current.toRat m.target.toRat ≤ m.blend current ∧
      m.blend current ≤ max current.toRat m.target.toRat := by
  have htarget := m.blend_sub_target current
  have hcurrent := m.blend_sub_current current
  have hs := h.speed_pos.le
  have hs' : 0 ≤ 1 - m.speed.toRat := sub_nonneg.2 h.speed_le
  rcases le_total current.toRat m.target.toRat with hle | hle
  · rw [min_eq_left hle, max_eq_right hle]
    have h1 : 0 ≤ m.speed.toRat * (m.target.toRat - current.toRat) :=
      mul_nonneg hs (sub_nonneg.2 hle)
    have h2 : (1 - m.speed.toRat) * (current.toRat - m.target.toRat) ≤ 0 :=
      mul_nonpos_of_nonneg_of_nonpos hs' (sub_nonpos.2 hle)
    constructor
    · linarith
    · linarith
  · rw [min_eq_right hle, max_eq_left hle]
    have h1 : m.speed.toRat * (m.target.toRat - current.toRat) ≤ 0 :=
      mul_nonpos_of_nonneg_of_nonpos hs (sub_nonpos.2 hle)
    have h2 : 0 ≤ (1 - m.speed.toRat) * (current.toRat - m.target.toRat) :=
      mul_nonneg hs' (sub_nonneg.2 hle)
    constructor
    · linarith
    · linarith

end Bounds

/-- **The blend is computed up to `10 ^ -18`**, for ratios up to `10 ^ 9`. -/
theorem blended_near (h : m.Bounds current (10 ^ 9)) :
    ∃ x, m.blended current = .ok x ∧ |x.toRat - m.blend current| ≤ 1 / 10 ^ 18 := by
  have htarget0 : 0 ≤ m.target.toRat := by linarith [h.one_lt_least, h.least_le]
  have htarget9 : m.target.toRat ≤ 10 ^ 9 := h.le_most.trans h.most_le
  have hcurrent0 : 0 ≤ current.toRat := by linarith [h.one_le]
  -- what is left of one is exact, so there are three roundings: two products and their sum
  obtain ⟨rest, hrest, hvalue⟩ := Decimal.one_minus_exact h.speed_pos.le h.speed_le
  have hrest0 : 0 ≤ rest.toRat := by linarith [h.speed_le]
  have hrest1 : rest.toRat ≤ 1 := by linarith [h.speed_pos]
  obtain ⟨pull, hpull, hpullr, hpull0, hpull1⟩ :=
    Decimal.times_part h.speed_pos.le h.speed_le htarget0
  obtain ⟨stay, hstay, hstayr, hstay0, hstay1⟩ := Decimal.times_part hrest0 hrest1 hcurrent0
  have hsum0 : 0 ≤ pull.toRat + stay.toRat := add_nonneg hpull0 hstay0
  have hsum : pull.toRat + stay.toRat ≤ 10 ^ 9 + 10 ^ 9 :=
    add_le_add (hpull1.trans htarget9) (hstay1.trans h.le_bound)
  have hin : InRange (pull.toRat + stay.toRat) := by
    unfold InRange
    rw [abs_of_nonneg hsum0, Decimal.limit_eq]
    linarith
  obtain ⟨x, hx, hxr⟩ := (Decimal.plus_computes pull stay).ok hin
  refine ⟨x, ?_, ?_⟩
  · unfold blended
    rw [hpull, ok_bind, hrest, ok_bind, hstay, ok_bind]
    exact hx
  · have hpullnear := hpullr.within (mul_nonneg htarget0 h.speed_pos.le)
      ((mul_le_of_le_one_right htarget0 h.speed_le).trans htarget9)
    have hstaynear := hstayr.within (mul_nonneg hcurrent0 hrest0)
      ((mul_le_of_le_one_right hcurrent0 hrest1).trans h.le_bound)
    have hxnear := hxr.within hsum0 hsum
    rw [hvalue] at hstaynear
    unfold blend
    norm_num at hpullnear hstaynear hxnear ⊢
    exact abs_le.2 ⟨by linarith, by linarith⟩

end Methodology

/-! ### The new target -/

namespace Methodology

section Nears

variable {m : Methodology} {current : Decimal} {b x ε : ℚ} (h : m.Bounds current b)
  (hx : |x - m.blend current| ≤ ε)

include h hx

lemma Bounds.band_mem :
    min current.toRat m.target.toRat - ε ≤ m.band x ∧
      m.band x ≤ max current.toRat m.target.toRat + ε := by
  obtain ⟨hlow, hhigh⟩ := h.blend_mem
  obtain ⟨hx0, hx1⟩ := abs_le.1 hx
  have hε : 0 ≤ ε := (abs_nonneg _).trans hx
  have hmin := min_le_right current.toRat m.target.toRat
  have hmax := le_max_right current.toRat m.target.toRat
  have htop := h.le_most
  have hbottom := h.least_le
  unfold band
  constructor
  · apply le_max_of_le_right
    apply le_min
    · linarith
    · linarith
  · apply max_le
    · linarith
    · apply min_le_of_right_le
      linarith

lemma Bounds.band_nears_target :
    |m.band x - m.target.toRat|
      ≤ (1 - m.speed.toRat) * |current.toRat - m.target.toRat| + ε := by
  have hrest : 0 ≤ 1 - m.speed.toRat := sub_nonneg.2 h.speed_le
  calc |m.band x - m.target.toRat|
      ≤ |x - m.target.toRat| := abs_band_sub_le h.least_le h.le_most
    _ ≤ |x - m.blend current| + |m.blend current - m.target.toRat| := abs_sub_le _ _ _
    _ ≤ ε + (1 - m.speed.toRat) * |current.toRat - m.target.toRat| := by
        rw [blend_sub_target, abs_mul, abs_of_nonneg hrest]
        exact add_le_add hx le_rfl
    _ = _ := add_comm _ _

/-- Where the band does not hold the blend back, only the given part of the way is gone. -/
lemma Bounds.band_leaves_current
    (hband : (m.least.toRat ≤ x ∧ x ≤ m.most.toRat) ∨
      (m.least.toRat ≤ m.blend current ∧ m.blend current ≤ m.most.toRat)) :
    |m.band x - current.toRat| ≤ m.speed.toRat * |m.target.toRat - current.toRat| + ε := by
  have hnear : |m.band x - m.blend current| ≤ ε := by
    rcases hband with ⟨hlow, hhigh⟩ | ⟨hlow, hhigh⟩
    · rw [band_of_mem hlow hhigh]
      exact hx
    · exact (abs_band_sub_le hlow hhigh).trans hx
  calc |m.band x - current.toRat|
      ≤ |m.band x - m.blend current| + |m.blend current - current.toRat| := abs_sub_le _ _ _
    _ ≤ ε + m.speed.toRat * |m.target.toRat - current.toRat| := by
        rw [blend_sub_current, abs_mul, abs_of_nonneg h.speed_pos.le]
        exact add_le_add hnear le_rfl
    _ = _ := add_comm _ _

end Nears

end Methodology

namespace Sizing

variable {m : Methodology} {current : Decimal}

/-- **Recentering goes the given part of the way to the target.**  For a valid methodology and
ratios up to `10 ^ 9` the new target is always computed, lies in the band and, up to `10 ^ -9`,
between the current ratio and the target; what is left of the way is no more than the speed leaves.
Unless the band holds it back, be it before or after rounding, it is no further from the current
ratio than the speed allows.  From beyond the band no trade leads further out. -/
theorem recentered_nears_target (hm : m.violations = []) (hmost : m.most.toRat ≤ 10 ^ 9)
    (hlow : 1 ≤ current.toRat) (hhigh : current.toRat ≤ 10 ^ 9) :
    ∃ x r, m.blended current = .ok x ∧ recentered current m = .ok r ∧
      (m.least ≤ r ∧ r ≤ m.most) ∧
      (min current.toRat m.target.toRat - 1 / 10 ^ 9 ≤ r.toRat ∧
        r.toRat ≤ max current.toRat m.target.toRat + 1 / 10 ^ 9) ∧
      |r.toRat - m.target.toRat|
        ≤ (1 - m.speed.toRat) * |current.toRat - m.target.toRat| + 1 / 10 ^ 9 ∧
      ((m.least.toRat ≤ x.toRat ∧ x.toRat ≤ m.most.toRat) ∨
          (m.least.toRat ≤ m.blend current ∧ m.blend current ≤ m.most.toRat) →
        |r.toRat - current.toRat|
          ≤ m.speed.toRat * |m.target.toRat - current.toRat| + 1 / 10 ^ 9) ∧
      (m.most < current →
        direction? r current = .ok (some .delever) ∨ direction? r current = .ok none) ∧
      (current < m.least →
        direction? r current = .ok (some .lever) ∨ direction? r current = .ok none) := by
  have h := Methodology.bounds_of_valid hm hmost hlow hhigh
  obtain ⟨x, hx, hnear⟩ := Methodology.blended_near h
  obtain ⟨r, hr, hvalue⟩ :=
    Methodology.clamp_band (Decimal.le_iff_toRat.2 (h.least_le.trans h.le_most)) x
  have hnear : |x.toRat - m.blend current| ≤ 1 / 10 ^ 9 := hnear.trans (by norm_num)
  have hrecentered : recentered current m = .ok r := by
    rw [Methodology.recentered_eq, hx, ok_bind, hr]
  obtain ⟨hleast, hmost'⟩ := recentered_eq_ok hrecentered
  have hone : 0 ≤ r.toRat := by
    have := Decimal.le_iff_toRat.1 hleast
    linarith [h.one_lt_least]
  refine ⟨x, r, hx, hrecentered, ⟨hleast, hmost'⟩, ?_, ?_, ?_, ?_, ?_⟩
  · rw [hvalue]
    exact h.band_mem hnear
  · rw [hvalue]
    exact h.band_nears_target hnear
  · intro hband
    rw [hvalue]
    exact h.band_leaves_current hnear hband
  · intro hbeyond
    apply direction?_of_ge hone
    exact (Decimal.le_iff_toRat.1 hmost').trans (Decimal.lt_iff_toRat.1 hbeyond).le
  · intro hbeyond
    apply direction?_of_le (by linarith)
    exact (Decimal.lt_iff_toRat.1 hbeyond).le.trans (Decimal.le_iff_toRat.1 hleast)

/-- From 2.6 half of the way to 2 is gone, which is just as far as the band from 1.7 to 2.3. -/
theorem recentered_nears_target_halfway :
    Fund.Trial.settings.methodology.violations = [] ∧
      ∃ r, recentered (Fund.Trial.decimal 26 1) Fund.Trial.settings.methodology = .ok r ∧
        |r.toRat - 2| ≤ 3 / 10 + 1 / 10 ^ 9 ∧ |r.toRat - 26 / 10| ≤ 3 / 10 + 1 / 10 ^ 9 ∧
        (direction? r (Fund.Trial.decimal 26 1) = .ok (some .delever) ∨
          direction? r (Fund.Trial.decimal 26 1) = .ok none) := by
  have hm : Fund.Trial.settings.methodology.violations = [] := by decide +kernel
  have hcurrent : (Fund.Trial.decimal 26 1).toRat = 26 / 10 := by decide +kernel
  have hlow : 1 ≤ (Fund.Trial.decimal 26 1).toRat := by decide +kernel
  have htarget : Fund.Trial.settings.methodology.target.toRat = 2 := by decide +kernel
  have hspeed : Fund.Trial.settings.methodology.speed.toRat = 1 / 2 := by decide +kernel
  obtain ⟨x, r, -, hr, -, -, htoward, haway, hdown, -⟩ :=
    recentered_nears_target hm (by decide +kernel) hlow (by decide +kernel)
  have haway := haway (.inr (by decide +kernel))
  rw [hcurrent, htarget, hspeed] at htoward haway
  norm_num at htoward haway
  refine ⟨hm, r, hr, ?_, ?_, hdown (by decide +kernel)⟩
  · norm_num
    exact htoward
  · norm_num
    exact haway

end Sizing

end LeverageKeeper
