import LeverageKeeper.Text.Hex

/-!
# Tables of characters

A table lists code points in hexadecimal, a range of them as `a-b` with both ends included, with
blanks or line ends in between.
-/

namespace LeverageKeeper.Letters

/-- The number that hexadecimal digits spell. -/
def numberOf (digits : List Char) : Nat :=
  digits.foldl (fun n c => n * 16 + (Hex.value? c).getD 0) 0

def rangeOf (word : List Char) : Nat × Nat :=
  let first := word.takeWhile (· ≠ '-')
  match word.drop first.length with
  | [] => (numberOf first, numberOf first)
  | _ :: last => (numberOf first, numberOf last)

def wordsOf (table : String) : List (List Char) :=
  ((table.toList.map fun c => if c = '\n' then ' ' else c).splitOn ' ').filter (· ≠ [])

def rangesOf (table : String) : Array (Nat × Nat) := ((wordsOf table).map rangeOf).toArray

def inRanges (ranges : Array (Nat × Nat)) (c : Char) : Bool :=
  ranges.any fun (first, last) => first ≤ c.toNat && c.toNat ≤ last

end LeverageKeeper.Letters
