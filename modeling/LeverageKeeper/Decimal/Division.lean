import LeverageKeeper.Decimal.Arith

/-!
# Quotients

Long division in steps of up to nine digits.  The quotient of the coefficients starts at the
difference of the scales and gains digits until the remainder is gone or no further digit fits; a
remainder that stays is rounded away, a half to the even neighbour.  A quotient that needed
fractional digits then loses trailing zeros, at most seven of them beyond whole groups of eight.
-/

namespace LeverageKeeper.Decimal

/-- A division under way: what is found so far is `(q + r / d) / 10 ^ s` for the divisor `d`. -/
structure LongDivision where
  q : Nat
  r : Nat
  s : Int

/-- How many digits, at most `p`, a quotient can gain and stay in range. -/
def growth (q : Nat) : Nat → Nat
  | 0 => 0
  | p + 1 => if q * tenPow (p + 1) < bound then p + 1 else growth q p

/-- A quotient that just left the range gives up its last digit again. -/
def shrink? (q : Nat) (sticky : Bool) (s : Int) : Option (Nat × Int) :=
  if s - 1 < 0 then none
  else
    let up := 5 < q % 10 ∨ (q % 10 = 5 ∧ (sticky ∨ q / 10 % 2 = 1))
    some (if up then q / 10 + 1 else q / 10, s - 1)

/-- The last digit of a quotient whose remainder cannot be followed further. -/
def LongDivision.round? (w : LongDivision) (d : Nat) : Option (Nat × Int) :=
  let up := d < 2 * w.r ∨ (2 * w.r = d ∧ w.q % 2 = 1)
  let q := if up then w.q + 1 else w.q
  if q < bound then some (q, w.s) else shrink? q false w.s

/-- The division with `p` more digits. -/
def LongDivision.grow (w : LongDivision) (d p : Nat) : LongDivision :=
  ⟨w.q * tenPow p + w.r * tenPow p / d, w.r * tenPow p % d, w.s + p⟩

/-- Digits are added until the division is over: the coefficient, the scale, and whether the
remainder was ever positive. -/
def LongDivision.run? (d : Nat) : Nat → Bool → LongDivision → Option (Nat × Int × Bool)
  | 0, _, _ => none
  | fuel + 1, extended, w =>
    if w.r = 0 then
      if 0 ≤ w.s then some (w.q, w.s, extended)
      else
        let p := Nat.min 9 (-w.s).toNat
        if w.q * tenPow p < bound then run? d fuel extended (w.grow d p) else none
    else
      let p := if w.s = maxScale then 0 else growth w.q (Nat.min 9 (maxScale - w.s).toNat)
      if p < 9 ∧ p + w.s < 0 then none
      else if p = 0 then (w.round? d).map fun (q, s) => (q, s, true)
      else
        let w' := w.grow d p
        if w'.q < bound then run? d fuel true w'
        else (shrink? w'.q (w'.r ≠ 0) w'.s).map fun (q, s) => (q, s, true)

/-- Whole groups of eight zeros go while the coefficient is a multiple of `2 ^ 32`. -/
def stripGroups : Nat → Nat → Nat → Nat × Nat
  | 0, q, s => (q, s)
  | fuel + 1, q, s =>
    if q % shortBound = 0 ∧ 8 ≤ s ∧ q % tenPow 8 = 0 then stripGroups fuel (q / tenPow 8) (s - 8)
    else (q, s)

/-- `k` zeros go at once if the scale and the coefficient allow it. -/
def stripOnce (k : Nat) (w : Nat × Nat) : Nat × Nat :=
  if k ≤ w.2 ∧ w.1 % tenPow k = 0 then (w.1 / tenPow k, w.2 - k) else w

/-- Trailing zeros of a quotient: groups of eight, then four, two and one. -/
def stripZeros (q s : Nat) : Nat × Nat :=
  stripOnce 1 (stripOnce 2 (stripOnce 4 (stripGroups 4 q s)))

/-- The quotient of two decimals; none for a zero divisor or a result out of range.  Every round
of the division adds a digit between scale `-28` and scale `28`, so 57 rounds are enough. -/
def div? (a b : Decimal) : Option Decimal :=
  if b.digits = 0 then none
  else if a.digits = 0 then some zero
  else
    (LongDivision.run? b.digits 57 false
        ⟨a.digits / b.digits, a.digits % b.digits, (a.scale : Int) - b.scale⟩).bind
      fun (q, s, extended) =>
        let (q, s) := if extended then stripZeros q s.toNat else (q, s.toNat)
        (ofParts? (a.negative != b.negative) q s).map unsignedZero

end LeverageKeeper.Decimal
