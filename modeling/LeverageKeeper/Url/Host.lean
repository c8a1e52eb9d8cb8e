import LeverageKeeper.Letters.Direction
import LeverageKeeper.Letters.Folding
import LeverageKeeper.Letters.Joining
import LeverageKeeper.Url.Numeric
import LeverageKeeper.Url.Punycode

/-!
# Hosts

A host is a name, a number of 32 bits or, between brackets, one of 128 bits.  A name may have bytes
written as `%` and two hexadecimal digits.  It is folded and composed, and then every label of it,
which is what stands between dots, has to be in order.
-/

namespace LeverageKeeper.Url

open Letters

/-! ### Bytes -/

/-- The byte that two hexadecimal digits stand for. -/
def byte? (a b : UInt8) : Option UInt8 := do
  let h ← Hex.value? (Char.ofNat a.toNat)
  let l ← Hex.value? (Char.ofNat b.toNat)
  some (UInt8.ofNat (h * 16 + l))

/-- A percent sign with two hexadecimal digits behind it stands for a byte. -/
def unescape : List UInt8 → List UInt8
  | 0x25 :: a :: b :: rest =>
    match byte? a b with
    | some byte => byte :: unescape rest
    | none => 0x25 :: unescape (a :: b :: rest)
  | byte :: rest => byte :: unescape rest
  | [] => []
termination_by bytes => bytes.length

/-! ### Labels -/

/-- Whether a character of a folded text may stand in a name. -/
def isFit (c : Char) : Bool :=
  if c.toNat < 0x80 then 0x20 < c.toNat && c ≠ '\x7f' && !("%#/:<>?@[\\]^|".toList.contains c)
  else !isRefused c

def isAscii (c : Char) : Bool := c.toNat < 0x80

/-- The most characters of a label that has some outside ASCII. -/
abbrev longestLabel : Nat := 1000

/-- The most characters of a spelling in ASCII. -/
abbrev longestSpelling : Nat := 2000

/-- The label that a spelling in ASCII stands for.  A label has only one spelling, so what it stands
for has to be in the form that folding and composing would give it. -/
def spelled? (cs : List Char) : Option (List Char) := do
  if !cs.all isAscii ∨ cs.getLast?.all (· = '-') ∨ longestSpelling < cs.length then none
  let label ← Punycode.decode? cs
  if label.all (fun c => isAscii c || isPlain c) ∧ composed label = label then some label else none

/-- A label as it reads: what begins with `xn--` is a spelling. -/
def reading? : List Char → Option (List Char)
  | 'x' :: 'n' :: '-' :: '-' :: cs => spelled? cs
  | cs => some cs

/-- Whether a label as it reads is in order, whatever the other labels are. -/
def isLabel (cs : List Char) : Bool :=
  cs.all isFit && !cs.head?.any isMark && joinersFit [] cs &&
    (cs.all isAscii || cs.length ≤ longestLabel)

/-- The folded name that the text of a host spells. -/
def name? (cs : List Char) : Option (List Char) := do
  let text ← String.fromUTF8? ⟨(unescape (String.ofList cs).toUTF8.toList).toArray⟩
  if text.toList.any isRefused then none
  let name := composed (fold text.toList)
  let labels ← (name.splitOn '.').mapM reading?
  if name ≠ [] ∧ labels.all isLabel ∧ (!(labels.any (·.any isLeftward)) ∨ labels.all hasCourse) then
    some name
  else none

/-! ### Hosts -/

/-- Whether a text is a host. -/
def isHost : List Char → Bool
  | '[' :: cs => cs.getLast? = some ']' && isLongAddress cs.dropLast
  | cs =>
    match name? cs with
    | none => false
    | some name =>
      let labels := name.splitOn '.'
      !endsInNumber labels || (shortAddress? labels).isSome

end LeverageKeeper.Url
