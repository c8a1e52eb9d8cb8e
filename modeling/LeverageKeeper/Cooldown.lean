import LeverageKeeper.Failure

/-!
# Cooldowns

Times are seconds in 64 bits.  A moment that would lie beyond the last one is the last one, and a
moment in the past is no seconds away.
-/

namespace LeverageKeeper.Cooldown

/-- The last moment of the clock. -/
abbrev lastMoment : Nat := 0xffffffffffffffff

/-- Seconds from `earlier` to `later`, none if the order is the other way round. -/
def since (earlier later : UInt64) : UInt64 := UInt64.ofNat (later.toNat - earlier.toNat)

/-- Seconds until `cooldown` seconds have passed since `last`. -/
def remaining (last cooldown now : UInt64) : UInt64 :=
  UInt64.ofNat (Nat.min (last.toNat + cooldown.toNat) lastMoment - now.toNat)

def isOver (last cooldown now : UInt64) : Bool := remaining last cooldown now = 0

/-- Refuses while the venue has to wait. -/
def require (venue : String) (last cooldown now : UInt64) : Checked Unit :=
  demand (isOver last cooldown now) (.cooldownActive venue (remaining last cooldown now))

theorem toNat_remaining (last cooldown now : UInt64) :
    (remaining last cooldown now).toNat
      = Nat.min (last.toNat + cooldown.toNat) lastMoment - now.toNat := by
  have h : Nat.min (last.toNat + cooldown.toNat) lastMoment ≤ 0xffffffffffffffff :=
    Nat.min_le_right _ _
  unfold remaining
  rw [UInt64.toNat_ofNat', Nat.mod_eq_of_lt (by omega)]

theorem isOver_iff {last cooldown now : UInt64} :
    isOver last cooldown now = true
      ↔ Nat.min (last.toNat + cooldown.toNat) lastMoment ≤ now.toNat := by
  unfold isOver
  rw [decide_eq_true_iff, ← UInt64.toNat_inj, toNat_remaining]
  simp [Nat.sub_eq_zero_iff_le]

end LeverageKeeper.Cooldown
