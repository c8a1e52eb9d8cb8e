import LeverageKeeper.Proofs.Sizing

/-!
The direction from one ratio to another.  Ratios within the tolerance of each other count as the
same, and rounding their difference never carries it across the tolerance: the direction that is
computed is the one in which the exact ratio falls short of the target.
-/

namespace LeverageKeeper

open Decimal (Rounds)

/-- The ratio falls short of the target by more than the tolerance, seen in the given direction. -/
def Direction.Short (target ratio : Decimal) : Direction → Prop
  | .lever => ratio.toRat + Sizing.tolerance.toRat < target.toRat
  | .delever => target.toRat + Sizing.tolerance.toRat < ratio.toRat

namespace Decimal

variable {a b c g : Decimal}

/-- A difference that exceeds a small decimal still does once it is rounded: there is no rounding
where the difference is small itself. -/
lemma lt_of_rounds_sub (h : Rounds (a.toRat - b.toRat) g) (h0 : 0 ≤ c.toRat) (h7 : c.toRat < 7)
    (hlt : c.toRat < a.toRat - b.toRat) : c.toRat < g.toRat := by
  by_cases hsmall : a.toRat - b.toRat ≤ 7
  · obtain ⟨z, hz⟩ := exists_sub (a := a) (b := b) (by rw [abs_of_pos (by linarith)]; exact hsmall)
    rw [h.eq hz.symm]
    exact hlt
  · have hseven : (⟨false, 7, 0, by decide, by decide⟩ : Decimal).toRat = 7 := by
      rw [toRat_eq]
      simp [coeff]
    have hge := h.ge (y := ⟨false, 7, 0, by decide, by decide⟩) (by rw [hseven]; linarith)
    linarith

end Decimal

namespace Sizing

variable {target current : Decimal} {d : Direction}

lemma tolerance_toRat : tolerance.toRat = 1 / 10 ^ 9 := by
  rw [Decimal.toRat_eq]
  simp [tolerance, Decimal.coeff]

/-- Of a difference, rounding leaves untouched on which side of the tolerance it lies. -/
lemma lt_gap_iff {g : Decimal} (h : Rounds (target.toRat - current.toRat) g) :
    (tolerance.toRat < g.toRat ↔ Direction.lever.Short target current) ∧
      (tolerance.toRat < -g.toRat ↔ Direction.delever.Short target current) := by
  have h0 : (0 : ℚ) ≤ tolerance.toRat := by rw [tolerance_toRat]; norm_num
  have h7 : tolerance.toRat < 7 := by rw [tolerance_toRat]; norm_num
  have side : ∀ {a b g : Decimal}, Rounds (a.toRat - b.toRat) g →
      (tolerance.toRat < g.toRat ↔ b.toRat + tolerance.toRat < a.toRat) := by
    intro a b g h
    constructor
    · intro hlt
      by_contra hle
      have := h.le (y := tolerance) (by linarith)
      linarith
    · intro hlt
      exact Decimal.lt_of_rounds_sub h h0 h7 (by linarith)
  have hneg := h.neg
  rw [neg_sub] at hneg
  have hdown := side hneg
  rw [Decimal.toRat_neg] at hdown
  exact ⟨side h, hdown⟩

lemma direction?_of_short (ht : 0 ≤ target.toRat) (hc : 0 ≤ current.toRat)
    (h : d.Short target current) : direction? target current = .ok (some d) := by
  obtain ⟨g, hg⟩ := Decimal.minus_ok ht hc
  obtain ⟨hup, hdown⟩ := lt_gap_iff (Decimal.rounds_minus hg)
  have h0 : (0 : ℚ) ≤ tolerance.toRat := by rw [tolerance_toRat]; norm_num
  have hfar : ¬ g.abs ≤ tolerance := by
    rw [Decimal.le_iff_toRat, Decimal.toRat_abs, not_le, lt_abs, hup, hdown]
    cases d with
    | lever => exact .inl h
    | delever => exact .inr h
  unfold direction?
  rw [hg, ok_bind, if_neg hfar]
  cases d with
  | lever =>
    have hlt := hup.2 h
    rw [if_pos (Decimal.coeff_pos_iff.2 (by linarith))]
    rfl
  | delever =>
    have hlt := hdown.2 h
    rw [if_neg fun hpos => absurd (Decimal.coeff_pos_iff.1 hpos) (by linarith)]
    rfl

lemma direction?_of_near (ht : 0 ≤ target.toRat) (hc : 0 ≤ current.toRat)
    (h : ∀ d : Direction, ¬ d.Short target current) : direction? target current = .ok none := by
  obtain ⟨g, hg⟩ := Decimal.minus_ok ht hc
  obtain ⟨hup, hdown⟩ := lt_gap_iff (Decimal.rounds_minus hg)
  have h1 := not_lt.1 (mt hup.1 (h .lever))
  have h2 := not_lt.1 (mt hdown.1 (h .delever))
  unfold direction?
  rw [hg, ok_bind, if_pos]
  · rfl
  · rw [Decimal.le_iff_toRat, Decimal.toRat_abs]
    exact abs_le.2 ⟨by linarith, h1⟩

/-- **The direction to a target** is the one in which the ratio falls short of it. -/
theorem direction?_eq_some_iff (ht : 0 ≤ target.toRat) (hc : 0 ≤ current.toRat) :
    direction? target current = .ok (some d) ↔ d.Short target current := by
  refine ⟨fun h => ?_, direction?_of_short ht hc⟩
  by_cases hany : ∃ e : Direction, e.Short target current
  · obtain ⟨e, he⟩ := hany
    have heq := h.symm.trans (direction?_of_short ht hc he)
    cases heq
    exact he
  · have heq := h.symm.trans (direction?_of_near ht hc fun e he => hany ⟨e, he⟩)
    cases heq

/-- From a ratio that is not below the target the direction is never upward. -/
lemma direction?_of_ge (ht : 0 ≤ target.toRat) (h : target.toRat ≤ current.toRat) :
    direction? target current = .ok (some .delever) ∨ direction? target current = .ok none := by
  by_cases hshort : Direction.delever.Short target current
  · exact .inl (direction?_of_short ht (ht.trans h) hshort)
  · refine .inr (direction?_of_near ht (ht.trans h) fun e he => ?_)
    cases e with
    | lever =>
      change current.toRat + tolerance.toRat < target.toRat at he
      rw [tolerance_toRat] at he
      norm_num at he
      linarith
    | delever => exact hshort he

/-- From a ratio that is not above the target the direction is never downward. -/
lemma direction?_of_le (hc : 0 ≤ current.toRat) (h : current.toRat ≤ target.toRat) :
    direction? target current = .ok (some .lever) ∨ direction? target current = .ok none := by
  by_cases hshort : Direction.lever.Short target current
  · exact .inl (direction?_of_short (hc.trans h) hc hshort)
  · refine .inr (direction?_of_near (hc.trans h) hc fun e he => ?_)
    cases e with
    | lever => exact hshort he
    | delever =>
      change target.toRat + tolerance.toRat < current.toRat at he
      rw [tolerance_toRat] at he
      norm_num at he
      linarith

/-- Whether a target is reached can always be told. -/
lemma reached_ok (ht : 0 ≤ target.toRat) : ∃ b, reached target current d = .ok b := by
  have h0 : (0 : ℚ) ≤ tolerance.toRat := by rw [tolerance_toRat]; norm_num
  cases d with
  | lever =>
    obtain ⟨edge, he⟩ := Decimal.minus_ok ht h0
    exact ⟨_, by unfold reached; rw [he]; rfl⟩
  | delever =>
    cases he : target.add? tolerance with
    | some edge => exact ⟨_, by unfold reached Decimal.plus; rw [he]; rfl⟩
    | none =>
      have hnone := Decimal.add?_eq_none he
      have hle := (abs_le.1 target.abs_toRat_le).2
      rw [abs_of_nonneg (by linarith), tolerance_toRat] at hnone
      norm_num at hnone
      linarith

/-- A target that is not reached after rounding is not reached by the exact amounts either. -/
lemma short_of_unreached (h : reached target current d = .ok false) :
    d.Short target current := by
  cases d with
  | lever =>
    unfold reached at h
    simp only [bind_eq_ok, pure_eq_ok, decide_eq_false_iff_not, Decimal.not_le] at h
    obtain ⟨edge, hedge, hlt⟩ := h
    have hlt := Decimal.lt_iff_toRat.1 hlt
    change current.toRat + tolerance.toRat < target.toRat
    by_contra hge
    have hle := (Decimal.rounds_minus hedge).le (y := current) (by linarith)
    linarith
  | delever =>
    unfold reached at h
    simp only [bind_eq_ok, pure_eq_ok, decide_eq_false_iff_not, Decimal.not_le] at h
    obtain ⟨edge, hedge, hlt⟩ := h
    have hlt := Decimal.lt_iff_toRat.1 hlt
    change target.toRat + tolerance.toRat < current.toRat
    by_contra hge
    have hle := (Decimal.rounds_plus hedge).ge (y := current) (by linarith)
    linarith

end Sizing

end LeverageKeeper
