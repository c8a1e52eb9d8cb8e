import LeverageKeeper.Text.Hex

/-!
# Numeric hosts

A host can be given as a number of 32 bits in up to four parts, or as eight pieces of 16 bits
between brackets, where a double colon stands for a run of zeros.
-/

namespace LeverageKeeper.Url

/-- The number that digits to the given base spell; no digits spell zero. -/
def readBase? (base : Nat) (cs : List Char) : Option Nat :=
  cs.foldlM (fun n c => ((Hex.value? c).filter (· < base)).map (n * base + ·)) 0

/-- A part of a host of 32 bits: decimal, octal behind a zero, or hexadecimal behind `0x`. -/
def partValue? : List Char → Option Nat
  | [] => none
  | '0' :: 'x' :: cs => readBase? 16 cs
  | '0' :: 'X' :: cs => readBase? 16 cs
  | '0' :: c :: cs => readBase? 8 (c :: cs)
  | cs => readBase? 10 cs

def isDecimalDigit (c : Char) : Bool := '0' ≤ c ∧ c ≤ '9'

/-- The labels of a name, without the empty one behind a dot at the end. -/
def trimmedLabels (labels : List (List Char)) : List (List Char) :=
  if 1 < labels.length ∧ labels.getLast? = some [] then labels.dropLast else labels

/-- Whether the last label makes the host a number: all of it is digits, or a part. -/
def endsInNumber (labels : List (List Char)) : Bool :=
  match (trimmedLabels labels).getLast? with
  | none => false
  | some last => last ≠ [] ∧ (last.all isDecimalDigit ∨ (partValue? last).isSome)

/-- The number of 32 bits that the labels spell: every part but the last has 8 bits, and the last
one has what is left. -/
def shortAddress? (labels : List (List Char)) : Option Nat := do
  let parts ← (trimmedLabels labels).mapM partValue?
  let last ← parts.getLast?
  let first := parts.dropLast
  if 3 < first.length ∨ first.any (255 < ·) then none
  else
    let room := 1 <<< (8 * (4 - first.length))
    if last < room then some (first.foldl (fun n part => n * 256 + part) 0 * room + last) else none

/-- Four decimal parts with dots between them, none above 255 and none with a zero in front. -/
def isDotted (cs : List Char) : Bool :=
  let parts := cs.splitOn '.'
  parts.length = 4 && parts.all fun part =>
    part ≠ [] && part.all isDecimalDigit && (part.length = 1 || part.head? ≠ some '0') &&
      (readBase? 10 part).any (· ≤ 255)

/-- Whether `cs` spells the remaining `left` pieces of a host of eight; `shortened` after a double
colon.  The last two pieces may be dotted. -/
def arePieces : Nat → Bool → List Char → Bool
  | 0, _, cs => cs = []
  | _ + 1, shortened, [] => shortened
  | left + 1, shortened, ':' :: cs => !shortened && arePieces left true cs
  | left + 1, shortened, cs =>
    let piece := (cs.take 4).takeWhile fun c => (Hex.value? c).isSome
    match cs.drop piece.length with
    | [] => arePieces left shortened []
    | ':' :: rest => piece ≠ [] && rest ≠ [] && arePieces left shortened rest
    | '.' :: _ => piece ≠ [] && 1 ≤ left && isDotted cs && (shortened || left = 1)
    | _ => false

/-- Whether `cs` spells eight pieces. -/
def isLongAddress : List Char → Bool
  | ':' :: ':' :: cs => arePieces 7 true cs
  | ':' :: _ => false
  | cs => arePieces 8 false cs

end LeverageKeeper.Url
