import LeverageKeeper.Decimal.Division
import LeverageKeeper.Failure

/-!
# Decimals in computations, and native units

Arithmetic that crashes when a result is out of range, and the passage between amounts in a token's
native units, which are natural numbers, and amounts in whole tokens, which are decimals.  Prices
pass to and from the whole numbers that feeds publish in the same way.
-/

namespace LeverageKeeper

/-- Native amounts are words of 256 bits and stay below this bound. -/
abbrev wordBound : Nat := 0x10000000000000000000000000000000000000000000000000000000000000000

namespace Decimal

/-! ### Arithmetic that crashes -/

def plus (a b : Decimal) : Outcome Decimal := orCrash .addition (a.add? b)

def minus (a b : Decimal) : Outcome Decimal := orCrash .subtraction (a.sub? b)

def times (a b : Decimal) : Outcome Decimal := orCrash .multiplication (a.mul? b)

def dividedBy (a b : Decimal) : Outcome Decimal := orCrash .division (a.div? b)

/-- `a` brought between `lo` and `hi`, which must not be inverted. -/
def clamp (a lo hi : Decimal) : Outcome Decimal :=
  if hi < lo then .error (.crashed .invertedBand)
  else .ok (if a < lo then lo else if hi < a then hi else a)

/-! ### Native units -/

theorem tenPow_lt {d : Nat} (h : d ≤ maxScale) : tenPow d < bound :=
  Nat.lt_of_le_of_lt (tenPow_le_tenPow h) (by decide)

/-- Ten to the power `d`, or to the power 28 if `d` is larger. -/
def pow10 (d : Nat) : Decimal :=
  ⟨false, tenPow (Nat.min d maxScale), 0, tenPow_lt (Nat.min_le_right _ _), one.scale_le⟩

/-- An amount of native units as whole tokens of `d` decimals. -/
def ofUnits (units d : Nat) : Outcome Decimal := do
  let whole ← orRefuse (.numeric (.unitsTooLarge units)) (ofScaled? units 0)
  whole.dividedBy (pow10 d)

/-- An amount of whole tokens in native units, what lies below one unit cut off. -/
def toUnits (amount : Decimal) (d : Nat) : Checked Nat :=
  if amount.coeff < 0 then .error (.numeric (.negativeAmount amount))
  else match amount.mul? (pow10 d) with
    | some scaled => .ok scaled.trunc.digits
    | none => .error (.numeric (.amountTooLarge amount d))

/-- The price that a feed publishes as `answer`; a feed publishes positive prices only. -/
def ofAnswer? (answer : Int) (d : Nat) : Option Decimal :=
  if answer ≤ 0 then none else ofScaled? answer d

/-- The whole number by which a feed of `d` decimals publishes a price, the rest cut off. -/
def toAnswer? (price : Decimal) (d : Nat) : Option Int :=
  (price.mul? (pow10 d)).map fun scaled => scaled.trunc.coeff

/-- A number of basis points as a part of one.  The quotient always exists. -/
def ofBasisPoints (bps : UInt32) : Decimal :=
  ((ofScaled? bps.toNat 0).bind fun n => n.div? (pow10 4)).getD zero

end Decimal

end LeverageKeeper
