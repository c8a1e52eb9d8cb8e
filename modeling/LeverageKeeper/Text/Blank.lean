/-!
# White space

The characters that Unicode calls white space, and texts made of nothing else.
-/

namespace LeverageKeeper.Text

/-- The first and last character of each range of white space. -/
def blankRanges : List (Nat × Nat) :=
  [(0x0009, 0x000d), (0x0020, 0x0020), (0x0085, 0x0085), (0x00a0, 0x00a0), (0x1680, 0x1680),
    (0x2000, 0x200a), (0x2028, 0x2029), (0x202f, 0x202f), (0x205f, 0x205f), (0x3000, 0x3000)]

def isBlank (c : Char) : Bool :=
  blankRanges.any fun (first, last) => first ≤ c.toNat ∧ c.toNat ≤ last

/-- Nothing is left of a blank text once white space is cut off at both ends. -/
def isBlankText (s : String) : Bool := s.toList.all isBlank

end LeverageKeeper.Text
