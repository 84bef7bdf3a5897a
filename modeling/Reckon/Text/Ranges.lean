/-
This file defines the sets of characters that are given by ranges of code points.
-/

namespace Reckon.Text

/-- This is the set of code points from `first` to `last`, both included. -/
structure Range where
  first : Nat
  last : Nat

def Range.contains (range : Range) (code : Nat) : Bool :=
  range.first ≤ code && code ≤ range.last

/-- A character belongs to a list of ranges when its code point lies in one of them. -/
def inRanges (ranges : List Range) (character : Char) : Bool :=
  ranges.any fun range => range.contains character.toNat

end Reckon.Text
