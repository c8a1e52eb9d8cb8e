/-!
# Powers of ten

The powers of ten by which decimals are scaled, with the few laws that their arithmetic needs.
-/

namespace LeverageKeeper

/-- Ten to the power `k`. -/
def tenPow (k : Nat) : Nat := Nat.pow 10 k

@[simp] theorem tenPow_zero : tenPow 0 = 1 := rfl

theorem tenPow_pos (k : Nat) : 0 < tenPow k := Nat.pow_pos (by decide)

theorem tenPow_le_tenPow {j k : Nat} (h : j ≤ k) : tenPow j ≤ tenPow k :=
  Nat.pow_le_pow_right (by decide) h

end LeverageKeeper
