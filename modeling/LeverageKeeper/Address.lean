import LeverageKeeper.Text.Hex
import LeverageKeeper.Text.Keccak

/-!
# Account addresses

An address is 20 bytes.  It is written as `0x` and 40 hexadecimal digits, where a letter is upper
case exactly if the digit at its place in the digest of the lower-case text is 8 or more.  Any case
is read.
-/

namespace LeverageKeeper

structure Address where
  bits : BitVec 160
deriving DecidableEq

namespace Address

instance : Inhabited Address := ⟨⟨0⟩⟩

def zero : Address := ⟨0⟩

def isZero (a : Address) : Bool := a.bits = 0

/-- The 40 hexadecimal digits, the highest first. -/
def digits (a : Address) : List Nat :=
  (List.range 40).map fun i => (a.bits.toNat >>> (4 * (39 - i))) % 16

/-- The digits of a byte string, two a byte. -/
def nibbles (bs : List UInt8) : List Nat := bs.flatMap fun b => [b.toNat / 16, b.toNat % 16]

/-- The written digits with their case. -/
def checksummed (a : Address) : List Char :=
  let plain := a.digits.map Hex.digit
  let marks := nibbles (Keccak.digest (plain.map fun c => UInt8.ofNat c.toNat))
  (plain.zip marks).map fun (c, m) => if 8 ≤ m then c.toUpper else c

def text (a : Address) : String := String.ofList ('0' :: 'x' :: a.checksummed)

/-- The address that 40 digits spell. -/
def ofDigits? (cs : List Char) : Option Address :=
  if cs.length = 40 then
    (cs.foldlM (fun n c => (Hex.value? c).map (n * 16 + ·)) 0).map fun n => ⟨BitVec.ofNat 160 n⟩
  else none

/-- An address with or without a leading `0x` or `0X`. -/
def ofText? (s : String) : Option Address :=
  match s.toList with
  | '0' :: 'x' :: cs => ofDigits? cs
  | '0' :: 'X' :: cs => ofDigits? cs
  | cs => ofDigits? cs

end Address

end LeverageKeeper
