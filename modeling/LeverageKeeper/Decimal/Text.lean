import LeverageKeeper.Decimal.Basic

/-!
# Decimals as text

A decimal is written with all the fractional digits of its scale.  It is read from an optional
sign, digits with at most one point, and underscores after the first digit.  Digits that no longer
fit behind the point are dropped, and the first of them rounds the kept ones, five and above
upward; an underscore between the kept and the dropped digits of a small number keeps it from doing
so.

Reading with an exponent accepts `e` or `E` and a power of ten of at most 28.  Digits that a
negative power pushes out of range are dropped in the same way.
-/

namespace LeverageKeeper

/-- The value of a decimal digit. -/
def digit? (c : Char) : Option Nat :=
  if '0' ≤ c ∧ c ≤ '9' then some (c.toNat - '0'.toNat) else none

/-- The natural number a non-empty row of digits spells. -/
def readDigits? : List Char → Option Nat
  | [] => none
  | cs => cs.foldlM (fun n c => (digit? c).map (n * 10 + ·)) 0

/-- Digits, an optional plus before them. -/
def readUnsigned? : List Char → Option Nat
  | '+' :: cs => readDigits? cs
  | cs => readDigits? cs

namespace Decimal

/-! ### Writing -/

/-- The digits of `n`, at least `k` of them. -/
def padded (n k : Nat) : List Char :=
  let ds := Nat.toDigits 10 n
  List.replicate (k - ds.length) '0' ++ ds

def chars (a : Decimal) : List Char :=
  let ds := padded a.digits (a.scale + 1)
  let whole := ds.take (ds.length - a.scale)
  let fraction := ds.drop (ds.length - a.scale)
  (if a.negative then ['-'] else []) ++ whole ++ (if a.scale = 0 then [] else '.' :: fraction)

def text (a : Decimal) : String := String.ofList a.chars

/-! ### Reading -/

/-- What the characters so far amount to. -/
structure Reading where
  digits : Nat := 0
  scale : Nat := 0
  point : Bool := false
  started : Bool := false
  /-- Whatever follows is dropped. -/
  full : Bool := false

/-- No further digit fits behind the point. -/
def Reading.atLimit (w : Reading) : Bool := w.point ∧ w.scale = maxScale

/-- Digits that were this large before the last one joined them are held in a wide word. -/
abbrev wideBound : Nat := 1844674407370954906

def Reading.isWide (w : Reading) : Bool := wideBound ≤ w.digits / 10

/-- The first dropped digit rounds; digits that leave the range that way give up the last of them,
unless there is no fractional digit to give up. -/
def Reading.close? (w : Reading) (d : Nat) : Option Reading :=
  if d < 5 then some { w with full := true }
  else if w.digits + 1 < bound then some { w with digits := w.digits + 1, full := true }
  else if w.scale = 0 then none
  else some { w with digits := (w.digits + 5) / 10, scale := w.scale - 1, full := true }

/-- One more digit: it joins the others, or closes them when there is no room. -/
def Reading.digit? (w : Reading) (d : Nat) : Option Reading :=
  if w.atLimit then w.close? d
  else if w.digits * 10 + d < bound then
    some { w with
      digits := w.digits * 10 + d
      scale := if w.point then w.scale + 1 else w.scale
      started := true }
  else if w.point then w.close? d
  else none

/-- An underscore counts for nothing, but at the limit of digits that are not wide it ends the
reading, and what follows does not round them. -/
def Reading.underscore? (w : Reading) : Option Reading :=
  if !w.started then none
  else if w.atLimit ∧ !w.isWide then some { w with full := true }
  else some w

def Reading.step? (w : Reading) (c : Char) : Option Reading :=
  match LeverageKeeper.digit? c with
  | some d => if w.full then some w else w.digit? d
  | none =>
    if c = '_' then (if w.full then some w else w.underscore?)
    else if c = '.' then
      (if w.point ∨ w.full then none else some { w with point := true })
    else none

/-- The unsigned decimal that `cs` spells: its digits and its scale. -/
def readMagnitude? (cs : List Char) : Option (Nat × Nat) := do
  let w ← cs.foldlM Reading.step? {}
  if w.started then some (w.digits, w.scale) else none

/-- Decimal text without an exponent.  A minus before zero is dropped. -/
def ofChars? : List Char → Option Decimal
  | '-' :: cs => (readMagnitude? cs).bind fun (m, s) => (ofParts? true m s).map unsignedZero
  | '+' :: cs => (readMagnitude? cs).bind fun (m, s) => ofParts? false m s
  | cs => (readMagnitude? cs).bind fun (m, s) => ofParts? false m s

/-- `a` times ten to the power `k`: the point moves, and zeros are appended only when it has moved
past the last digit. -/
def shiftUp? (a : Decimal) (k : Nat) : Option Decimal :=
  if k ≤ a.scale then ofParts? a.negative a.digits (a.scale - k)
  else (ofParts? a.negative (a.digits * tenPow (k - a.scale)) 0).map unsignedZero

/-- `m` without its last `k` digits, the first of them rounding the rest, five and above upward. -/
def dropDigits (m : Nat) : Nat → Nat
  | 0 => m
  | k + 1 => (m / tenPow k + 5) / 10

/-- `a` divided by ten to the power `k`, with as many of the fractional digits as fit. -/
def shiftDown? (a : Decimal) (k : Nat) : Option Decimal :=
  ofParts? a.negative (dropDigits a.digits (a.scale + k - maxScale)) (Nat.min (a.scale + k) maxScale)

/-- Text with an exponent of at most 28 in size. -/
def ofScientificChars? (cs : List Char) : Option Decimal := do
  let base := cs.takeWhile fun c => c ≠ 'e' ∧ c ≠ 'E'
  match cs.dropWhile fun c => c ≠ 'e' ∧ c ≠ 'E' with
  | [] => none
  | _ :: '-' :: ex =>
    let a ← ofChars? base
    let k ← readUnsigned? ex
    if k ≤ maxScale then a.shiftDown? k else none
  | _ :: ex =>
    let a ← ofChars? base
    let k ← readUnsigned? ex
    if k ≤ maxScale then a.shiftUp? k else none

/-- Decimal text with or without an exponent, the plain form tried first. -/
def ofText? (s : String) : Option Decimal :=
  match ofChars? s.toList with
  | some a => some a
  | none => ofScientificChars? s.toList

end Decimal

end LeverageKeeper
