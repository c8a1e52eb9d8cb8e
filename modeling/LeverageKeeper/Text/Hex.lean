/-!
# Bytes as hexadecimal digits

Two digits a byte.  Digits of either case are read, lower-case ones are written.
-/

namespace LeverageKeeper.Hex

/-- The value of a hexadecimal digit. -/
def value? (c : Char) : Option Nat :=
  if '0' ≤ c ∧ c ≤ '9' then some (c.toNat - '0'.toNat)
  else if 'a' ≤ c ∧ c ≤ 'f' then some (c.toNat - 'a'.toNat + 10)
  else if 'A' ≤ c ∧ c ≤ 'F' then some (c.toNat - 'A'.toNat + 10)
  else none

/-- The lower-case digit of a number below 16. -/
def digit (n : Nat) : Char := Nat.digitChar n

def encode : List UInt8 → List Char
  | [] => []
  | b :: bs => digit (b.toNat / 16) :: digit (b.toNat % 16) :: encode bs

/-- Bytes from an even number of digits. -/
def decode? : List Char → Option (List UInt8)
  | [] => some []
  | [_] => none
  | a :: b :: cs => do
    let h ← value? a
    let l ← value? b
    let bs ← decode? cs
    some (UInt8.ofNat (h * 16 + l) :: bs)

/-- The rest of the text after a leading `0x`. -/
def dropMark : List Char → List Char
  | '0' :: 'x' :: cs => cs
  | cs => cs

/-- Bytes written with a leading `0x`. -/
def marked (bs : List UInt8) : String := String.ofList ('0' :: 'x' :: encode bs)

/-- Bytes read with or without a leading `0x`. -/
def ofText? (s : String) : Option (List UInt8) := decode? (dropMark s.toList)

theorem value?_digit {n : Nat} (h : n < 16) : value? (digit n) = some n := by
  have : ∀ m : Fin 16, value? (digit m) = some m.val := by decide
  exact this ⟨n, h⟩

theorem decode?_encode (bs : List UInt8) : decode? (encode bs) = some bs := by
  induction bs with
  | nil => rfl
  | cons b bs ih =>
    have hb : b.toNat < 256 := b.toNat_lt
    have hh : b.toNat / 16 < 16 := by omega
    have hl : b.toNat % 16 < 16 := by omega
    have hs : b.toNat / 16 * 16 + b.toNat % 16 = b.toNat := by omega
    rw [encode, decode?, value?_digit hh, value?_digit hl, ih]
    show some (UInt8.ofNat (b.toNat / 16 * 16 + b.toNat % 16) :: bs) = _
    rw [hs, UInt8.ofNat_toNat]

theorem ofText?_marked (bs : List UInt8) : ofText? (marked bs) = some bs := by
  simp [ofText?, marked, dropMark, decode?_encode]

end LeverageKeeper.Hex
