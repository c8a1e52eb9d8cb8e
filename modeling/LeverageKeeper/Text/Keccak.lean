/-!
# The Keccak-256 digest

The sponge over 25 words of 64 bits with a rate of 136 bytes, padded by a `1` bit, zeros and a
final `1` bit.  The word at column `x` and row `y` has index `x + 5 * y`.
-/

namespace LeverageKeeper.Keccak

abbrev State := Vector UInt64 25

/-- The word at column `x` and row `y`, both counted around. -/
def State.lane (a : State) (x y : Nat) : UInt64 :=
  a.get ⟨x % 5 + 5 * (y % 5), by omega⟩

def build (f : Nat → Nat → UInt64) : State :=
  Vector.ofFn fun i => f (i.val % 5) (i.val / 5)

def rotate (w : UInt64) (n : Nat) : UInt64 :=
  if n % 64 = 0 then w else w <<< UInt64.ofNat (n % 64) ||| w >>> UInt64.ofNat (64 - n % 64)

/-- How far the word at column `x` and row `y` turns. -/
def turns : List (List Nat) :=
  [[0, 1, 62, 28, 27], [36, 44, 6, 55, 20], [3, 10, 43, 25, 39], [41, 45, 15, 21, 8],
    [18, 2, 61, 56, 14]]

def turn (x y : Nat) : Nat := ((turns.getD y []).getD x 0)

def roundConstants : List UInt64 :=
  [0x0000000000000001, 0x0000000000008082, 0x800000000000808a, 0x8000000080008000,
    0x000000000000808b, 0x0000000080000001, 0x8000000080008081, 0x8000000000008009,
    0x000000000000008a, 0x0000000000000088, 0x0000000080008009, 0x000000008000000a,
    0x000000008000808b, 0x800000000000008b, 0x8000000000008089, 0x8000000000008003,
    0x8000000000008002, 0x8000000000000080, 0x000000000000800a, 0x800000008000000a,
    0x8000000080008081, 0x8000000000008080, 0x0000000080000001, 0x8000000080008008]

/-- Each word takes up the parity of the columns beside its own. -/
def diffuse (a : State) : State :=
  let c : Vector UInt64 5 := Vector.ofFn fun x =>
    a.lane x 0 ^^^ a.lane x 1 ^^^ a.lane x 2 ^^^ a.lane x 3 ^^^ a.lane x 4
  let column (x : Nat) : UInt64 := c.get ⟨x % 5, Nat.mod_lt _ (by decide)⟩
  build fun x y => a.lane x y ^^^ column (x + 4) ^^^ rotate (column (x + 1)) 1

/-- The words turn and change places. -/
def shuffle (a : State) : State :=
  build fun x y => rotate (a.lane (x + 3 * y) x) (turn ((x + 3 * y) % 5) x)

/-- Each word takes up the two to its right. -/
def combine (a : State) : State :=
  build fun x y => a.lane x y ^^^ (~~~(a.lane (x + 1) y) &&& a.lane (x + 2) y)

def round (a : State) (constant : UInt64) : State :=
  let b := combine (shuffle (diffuse a))
  b.set 0 (b.lane 0 0 ^^^ constant)

def permute (a : State) : State := roundConstants.foldl round a

/-- Bytes a block holds. -/
abbrev rate : Nat := 136

/-- The word whose bytes stand in `bs`, the lowest first. -/
def word (bs : List UInt8) : UInt64 :=
  bs.foldr (fun b w => (w <<< 8) ||| b.toUInt64) 0

def absorb (a : State) (block : List UInt8) : State :=
  permute (build fun x y =>
    if x + 5 * y < rate / 8 then a.lane x y ^^^ word ((block.drop (8 * (x + 5 * y))).take 8)
    else a.lane x y)

/-- The message with its padding, a whole number of blocks. -/
def pad (message : List UInt8) : List UInt8 :=
  let gap := rate - message.length % rate
  if gap = 1 then message ++ [0x81] else message ++ [0x01] ++ List.replicate (gap - 2) 0 ++ [0x80]

def absorbAll : Nat → State → List UInt8 → State
  | 0, a, _ => a
  | blocks + 1, a, bs => absorbAll blocks (absorb a (bs.take rate)) (bs.drop rate)

def bytes (w : UInt64) : List UInt8 :=
  (List.range 8).map fun i => (w >>> UInt64.ofNat (8 * i)).toUInt8

/-- The digest of a message, 32 bytes. -/
def digest (message : List UInt8) : List UInt8 :=
  let padded := pad message
  let a := absorbAll (padded.length / rate) (Vector.replicate 25 0) padded
  (List.range 4).flatMap fun x => bytes (a.lane x 0)

end LeverageKeeper.Keccak
