import LeverageKeeper.Decimal.Arith
import LeverageKeeper.Decimal.Text

/-!
# Numbers that floating point can hold

A JSON number that has to be kept is held as a floating-point number of 64 bits.  Its leading
digits, as many as fit into a word of 64 bits, are rounded to 53 bits and multiplied by a power of
ten that is itself rounded to 53 bits; the number is refused if that product is too large.  Two
roundings make the limit differ a little from the largest floating-point number.
-/

namespace LeverageKeeper.Json

/-- The parts of a number literal; its sign does not matter here. -/
structure Literal where
  whole : List Nat
  fraction : List Nat
  exponent : Int

namespace Literal

/-- The natural number that a row of digits spells. -/
def number (ds : List Nat) : Nat := ds.foldl (fun n d => n * 10 + d) 0

def ofChars (cs : List Char) : Literal :=
  let mantissa := cs.takeWhile fun c => c ≠ 'e' ∧ c ≠ 'E'
  let exponent := cs.drop (mantissa.length + 1)
  let size : Int := number (exponent.filterMap digit?)
  { whole := (mantissa.takeWhile (· ≠ '.')).filterMap digit?
    fraction := (mantissa.dropWhile (· ≠ '.')).filterMap digit?
    exponent := if exponent.head? = some '-' then -size else size }

/-- Two to the power 64. -/
abbrev wordBound : Nat := 0x10000000000000000

/-- The digits that still fit into a word behind `m`, and how many do not. -/
def keep (m : Nat) : List Nat → Nat × Nat
  | [] => (m, 0)
  | d :: ds => if m * 10 + d < wordBound then keep (m * 10 + d) ds else (m, ds.length + 1)

/-- The leading digits, and the power of ten that they are multiplied with. -/
def scaled (l : Literal) : Nat × Int :=
  let (m, above) := keep 0 l.whole
  let (m, below) := keep m l.fraction
  (m, above - (l.fraction.length - below : Int) + l.exponent)

/-- `n` rounded to its 53 leading binary digits, a half to the even neighbour. -/
def round53 (n : Nat) : Nat :=
  let unit := 1 <<< (n.log2 - 52)
  roundDiv n unit * unit

/-- Products from here on, halfway between the largest floating-point number and `2 ^ 1024`, are
too large. -/
def tooLarge : Nat := 1 <<< 1024 - 1 <<< 970

def isFinite (l : Literal) : Bool :=
  let (m, e) := l.scaled
  if m = 0 ∨ e ≤ 0 then true
  else if 308 < e then false
  else round53 m * round53 (tenPow e.toNat) < tooLarge

end Literal

end LeverageKeeper.Json
