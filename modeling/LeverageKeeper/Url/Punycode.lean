/-!
# Punycode

A label with characters outside ASCII has a spelling in ASCII: its ASCII characters, a hyphen, and
then numbers that say which further characters to insert where.  A number is a row of digits to the
base 36, the least first.  How large a digit has to be for another one to follow depends on its
place and on a bias, which adapts to the numbers read before.
-/

namespace LeverageKeeper.Url.Punycode

def digit? (c : Char) : Option Nat :=
  if 'a' ≤ c ∧ c ≤ 'z' then some (c.toNat - 'a'.toNat)
  else if 'A' ≤ c ∧ c ≤ 'Z' then some (c.toNat - 'A'.toNat)
  else if '0' ≤ c ∧ c ≤ '9' then some (c.toNat - '0'.toNat + 26)
  else none

/-- A digit below the threshold is the last one of its number. -/
def threshold (place bias : Nat) : Nat := Nat.min 26 (Nat.max 1 (place - bias))

/-- What a difference amounts to once it is small, with the places that this took. -/
def settle (delta places : Nat) : Nat × Nat :=
  if 455 < delta then settle (delta / 35) (places + 36) else (delta, places)
termination_by delta
decreasing_by omega

/-- The bias after a difference that made a text of `length` characters. -/
def adapt (delta length : Nat) (first : Bool) : Nat :=
  let delta := if first then delta / 700 else delta / 2
  let (delta, places) := settle (delta + delta / length) 0
  places + 36 * delta / (delta + 38)

/-- The character of a code point, unless that is a surrogate or too large. -/
def char? (n : Nat) : Option Char :=
  if n < 0xd800 ∨ (0xdfff < n ∧ n < 0x110000) then some (Char.ofNat n) else none

/-- A text under construction. -/
structure Decoder where
  text : List Char
  code : Nat := 128
  bias : Nat := 72
  /-- Where the search for the next insertion began, and how far it has come. -/
  start : Nat := 0
  reach : Nat := 0
  weight : Nat := 1
  place : Nat := 36

/-- The character of a finished number is inserted. -/
def Decoder.insert? (d : Decoder) : Option Decoder := do
  let length := d.text.length + 1
  let code := d.code + d.reach / length
  let i := d.reach % length
  let c ← char? code
  some {
    text := d.text.take i ++ c :: d.text.drop i
    code
    bias := adapt (d.reach - d.start) length (d.start = 0)
    start := i + 1
    reach := i + 1 }

def Decoder.step? (d : Decoder) (c : Char) : Option Decoder := do
  let n ← digit? c
  let d' := { d with reach := d.reach + n * d.weight }
  let t := threshold d.place d.bias
  if n < t then d'.insert?
  else some { d' with weight := d.weight * (36 - t), place := d.place + 36 }

/-- The text that a spelling stands for. -/
def decode? (cs : List Char) : Option (List Char) := do
  let numbers := (cs.reverse.takeWhile (· ≠ '-')).reverse
  let ascii := cs.take (cs.length - numbers.length - 1)
  let d ← (if ascii = [] then cs else numbers).foldlM Decoder.step? { text := ascii }
  if d.place = 36 then some d.text else none

end LeverageKeeper.Url.Punycode
