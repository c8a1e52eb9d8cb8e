import LeverageKeeper.Proofs.Outcome
import LeverageKeeper.Proofs.Units

/-!
# Out of range

Where the exact result of an operation is at least half a unit beyond the largest decimal, there is
no decimal for it, and an operation that does not check for this crashes.  It crashes for no other
reason.
-/

namespace LeverageKeeper.Decimal

/-- The exact result `q` is rounded to a decimal. -/
def InRange (q : ℚ) : Prop := |q| < limit - 1 / 2

section InRange

variable {q r : ℚ}

lemma InRange.of_abs_le (h : InRange q) (hle : |r| ≤ |q|) : InRange r := lt_of_le_of_lt hle h

lemma inRange_toRat (a : Decimal) : InRange a.toRat := (rounds_self a).abs_lt

lemma Rounds.inRange {c : Decimal} (h : Rounds q c) : InRange q := h.abs_lt

end InRange

/-- The computation rounds its exact result `q`, or crashes on `e` because `q` is out of range. -/
structure Computes (x : Outcome Decimal) (q : ℚ) (e : Crash) : Prop where
  ok : InRange q → ∃ c, x = .ok c ∧ Rounds q c
  crash : ¬ InRange q → x = .error (.crashed e)

lemma computes_orCrash {r : Option Decimal} {q : ℚ} (e : Crash)
    (hnone : r = none → limit - 1 / 2 ≤ |q|) (hsome : ∀ c, r = some c → Rounds q c) :
    Computes (orCrash e r) q e := by
  cases r with
  | none => exact ⟨fun hin => absurd hin (hnone rfl).not_gt, fun _ => rfl⟩
  | some c => exact ⟨fun _ => ⟨c, rfl, hsome c rfl⟩, fun hout => absurd (hsome c rfl).inRange hout⟩

section Operations

variable (a b : Decimal)

theorem plus_computes : Computes (a.plus b) (a.toRat + b.toRat) .addition :=
  computes_orCrash .addition add?_eq_none fun _ => rounds_add?

theorem minus_computes : Computes (a.minus b) (a.toRat - b.toRat) .subtraction :=
  computes_orCrash .subtraction sub?_eq_none fun _ => rounds_sub?

theorem times_computes : Computes (a.times b) (a.toRat * b.toRat) .multiplication :=
  computes_orCrash .multiplication mul?_eq_none fun _ => rounds_mul?

theorem dividedBy_computes {b : Decimal} (hb : b.toRat ≠ 0) :
    Computes (a.dividedBy b) (a.toRat / b.toRat) .division :=
  computes_orCrash .division (fun h => (div?_eq_none h).resolve_left hb) fun _ => rounds_div?

end Operations

/-! ### Parts of one -/

section Part

variable {a v : Decimal} (h0 : 0 ≤ a.toRat) (h1 : a.toRat ≤ 1)

include h0 h1

/-- What a part leaves of one is never rounded. -/
lemma one_minus_exact : ∃ x, one.minus a = .ok x ∧ x.toRat = 1 - a.toRat := by
  have hle : |1 - a.toRat| ≤ 1 := abs_le.2 ⟨by linarith, by linarith⟩
  have hin : InRange (one.toRat - a.toRat) := by
    unfold InRange
    rw [toRat_one, limit_eq]
    linarith
  obtain ⟨x, hx, hr⟩ := (minus_computes one a).ok hin
  obtain ⟨z, hz⟩ := exists_sub (a := one) (b := a) (by rw [toRat_one]; linarith)
  refine ⟨x, hx, ?_⟩
  rw [hr.eq hz.symm, toRat_one]

/-- A part of a value is computed, and is no larger than the value. -/
lemma times_part (hv : 0 ≤ v.toRat) :
    ∃ w, v.times a = .ok w ∧ Rounds (v.toRat * a.toRat) w ∧ 0 ≤ w.toRat ∧ w.toRat ≤ v.toRat := by
  have hle : v.toRat * a.toRat ≤ v.toRat := mul_le_of_le_one_right hv h1
  have hnonneg : 0 ≤ v.toRat * a.toRat := mul_nonneg hv h0
  have hin : InRange (v.toRat * a.toRat) :=
    (inRange_toRat v).of_abs_le (by rwa [abs_of_nonneg hnonneg, abs_of_nonneg hv])
  obtain ⟨w, hw, hr⟩ := (times_computes v a).ok hin
  exact ⟨w, hw, hr, hr.nonneg hnonneg, hr.le hle⟩

end Part

end LeverageKeeper.Decimal
