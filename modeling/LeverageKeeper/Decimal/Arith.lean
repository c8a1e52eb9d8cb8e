import LeverageKeeper.Decimal.Basic

/-!
# Sums, differences and products

Each operation forms the exact result and then brings it into range: the fewest fractional digits
that need to go are dropped, and the last kept digit is rounded, a half going to the even
neighbour.  When even the whole part is too large there is no result.
-/

namespace LeverageKeeper

/-- The quotient `m / d` rounded to the nearest natural number, a half to the even one. -/
def roundDiv (m d : Nat) : Nat :=
  if d < 2 * (m % d) ∨ (2 * (m % d) = d ∧ m / d % 2 = 1) then m / d + 1 else m / d

theorem roundDiv_one (m : Nat) : roundDiv m 1 = m := by
  simp [roundDiv, Nat.mod_one]

namespace Decimal

/-- The largest scale, at most `t`, at which `m / 10 ^ s` rounds into range, with the rounded
coefficient. -/
def fitAt (m s : Nat) : Nat → Option (Nat × Nat)
  | 0 => if roundDiv m (tenPow s) < bound then some (roundDiv m (tenPow s), 0) else none
  | t + 1 =>
    if roundDiv m (tenPow (s - (t + 1))) < bound then some (roundDiv m (tenPow (s - (t + 1))), t + 1)
    else fitAt m s t

/-- The decimal for the exact value `m / 10 ^ s` with the given sign, which a value that rounds to
zero keeps. -/
def fit? (negative : Bool) (m s : Nat) : Option Decimal :=
  (fitAt m s (Nat.min s maxScale)).bind fun (q, t) => ofParts? negative q t

/-- A zero operand leaves the other one as it is; otherwise the sum has the larger of the two
scales before it is fitted, and a sum of zero has no sign. -/
def add? (a b : Decimal) : Option Decimal :=
  if a.digits = 0 then some b
  else if b.digits = 0 then some a
  else
    let s := Nat.max a.scale b.scale
    let n := a.coeff * tenPow (s - a.scale) + b.coeff * tenPow (s - b.scale)
    fit? (n < 0) n.natAbs s

/-- A zero from which a zero is taken leaves that one as it is. -/
def sub? (a b : Decimal) : Option Decimal :=
  if a.digits = 0 ∧ b.digits = 0 then some b else add? a b.neg

/-- Two to the power 32. -/
abbrev shortBound : Nat := 0x100000000

/-- Whether the digits of a decimal fit into 32 bits. -/
def isShort (a : Decimal) : Bool := a.digits < shortBound

/-- A product with zero is plain zero, and so is the product of two short decimals whose scales add
to more than 47; otherwise the scales add before the product is fitted.  When that leaves nothing
of it, the zero keeps the sign unless both operands are short. -/
def mul? (a b : Decimal) : Option Decimal :=
  if a.digits = 0 ∨ b.digits = 0 then some zero
  else
    let product := fit? (a.negative != b.negative) (a.digits * b.digits) (a.scale + b.scale)
    if a.isShort && b.isShort then
      if 47 < a.scale + b.scale then some zero else product.map unsignedZero
    else product

end Decimal

end LeverageKeeper
