import LeverageKeeper.Decimal.TenPow

/-!
# Decimal numbers of 96 bits

A decimal is a sign, a whole number below `2 ^ 96` and a power of ten of at most 28 under it.  The
power, called the scale, belongs to the value: `2.0` and `2` are different decimals that compare as
equal.  So does the sign of a zero: a product that rounds away can leave `-0.00`, which compares as
equal to zero.

Comparison is by value and exact.  The four operations live in `Decimal.Arith` and
`Decimal.Division`, reading and writing in `Decimal.Text`.
-/

namespace LeverageKeeper

/-- The number `digits / 10 ^ scale`, with a minus before it if `negative`. -/
structure Decimal where
  negative : Bool
  digits : Nat
  scale : Nat
  digits_lt : digits < 0x1000000000000000000000000 := by decide
  scale_le : scale ≤ 28 := by decide
deriving DecidableEq

namespace Decimal

/-- Digits stay below this bound, two to the power 96. -/
abbrev bound : Nat := 0x1000000000000000000000000

/-- The largest scale. -/
abbrev maxScale : Nat := 28

/-- The decimal with the given parts, when there is one. -/
def ofParts? (negative : Bool) (digits scale : Nat) : Option Decimal :=
  if h : digits < bound ∧ scale ≤ maxScale then some ⟨negative, digits, scale, h.1, h.2⟩ else none

/-- The number `n / 10 ^ scale`, when it is in range.  Its zero has no sign. -/
def ofScaled? (n : Int) (scale : Nat) : Option Decimal := ofParts? (n < 0) n.natAbs scale

def zero : Decimal := ⟨false, 0, 0, by decide, by decide⟩
def one : Decimal := ⟨false, 1, 0, by decide, by decide⟩

instance : Inhabited Decimal := ⟨zero⟩

/-- The digits with their sign: the decimal at scale 0. -/
def coeff (a : Decimal) : Int := if a.negative then -(a.digits : Int) else a.digits

theorem natAbs_coeff (a : Decimal) : a.coeff.natAbs = a.digits := by
  unfold coeff
  split <;> omega

/-- The exact value of a decimal. -/
def toRat (a : Decimal) : Rat := mkRat a.coeff (tenPow a.scale)

/-! ### Comparison by value -/

instance : LE Decimal := ⟨fun a b => a.coeff * tenPow b.scale ≤ b.coeff * tenPow a.scale⟩
instance : LT Decimal := ⟨fun a b => a.coeff * tenPow b.scale < b.coeff * tenPow a.scale⟩

instance (a b : Decimal) : Decidable (a ≤ b) :=
  inferInstanceAs (Decidable (a.coeff * tenPow b.scale ≤ b.coeff * tenPow a.scale))
instance (a b : Decimal) : Decidable (a < b) :=
  inferInstanceAs (Decidable (a.coeff * tenPow b.scale < b.coeff * tenPow a.scale))

theorem le_def {a b : Decimal} :
    a ≤ b ↔ a.coeff * tenPow b.scale ≤ b.coeff * tenPow a.scale := Iff.rfl

theorem lt_def {a b : Decimal} :
    a < b ↔ a.coeff * tenPow b.scale < b.coeff * tenPow a.scale := Iff.rfl

theorem not_lt {a b : Decimal} : ¬ a < b ↔ b ≤ a := Int.not_lt

theorem not_le {a b : Decimal} : ¬ a ≤ b ↔ b < a := Int.not_le

theorem le_refl (a : Decimal) : a ≤ a := Int.le_refl _

theorem le_of_lt {a b : Decimal} (h : a < b) : a ≤ b := Int.le_of_lt h

/-- The smaller of two; the first when they are equal. -/
def min (a b : Decimal) : Decimal := if b < a then b else a

/-- The larger of two; the first when they are equal. -/
def max (a b : Decimal) : Decimal := if a < b then b else a

theorem min_le_right (a b : Decimal) : min a b ≤ b := by
  unfold min; split
  · exact le_refl b
  · exact not_lt.1 ‹_›

theorem min_eq_or (a b : Decimal) : min a b = a ∨ min a b = b := by
  unfold min; split
  · exact .inr rfl
  · exact .inl rfl

/-! ### Sign and fraction -/

def isZero (a : Decimal) : Bool := a.digits = 0

/-- The decimal with the other sign, a zero included. -/
def neg (a : Decimal) : Decimal := { a with negative := !a.negative }

def abs (a : Decimal) : Decimal := { a with negative := false }

/-- A zero loses its sign. -/
def unsignedZero (a : Decimal) : Decimal := if a.isZero then a.abs else a

theorem coeff_neg (a : Decimal) : a.neg.coeff = -a.coeff := by
  unfold coeff neg
  cases a.negative <;> simp

theorem coeff_abs (a : Decimal) : a.abs.coeff = a.digits := by simp [coeff, abs]

theorem coeff_unsignedZero (a : Decimal) : a.unsignedZero.coeff = a.coeff := by
  unfold unsignedZero
  split
  next h =>
    have h : a.digits = 0 := by simpa [isZero] using h
    rw [coeff_abs]
    unfold coeff
    split <;> omega
  next => rfl

/-- The whole part, rounded toward zero, at scale 0. -/
def trunc (a : Decimal) : Decimal :=
  ⟨a.negative, a.digits / tenPow a.scale, 0,
    Nat.lt_of_le_of_lt (Nat.div_le_self _ _) a.digits_lt, one.scale_le⟩

end Decimal

end LeverageKeeper
