/-
This file defines the blanks: the characters with the white space property.
-/

import Reckon.Text.Ranges

namespace Reckon.Text

/-- These are all white space characters. -/
def blankRanges : List Range :=
  [⟨0x0009, 0x000D⟩, ⟨0x0020, 0x0020⟩, ⟨0x0085, 0x0085⟩, ⟨0x00A0, 0x00A0⟩, ⟨0x1680, 0x1680⟩,
   ⟨0x2000, 0x200A⟩, ⟨0x2028, 0x2029⟩, ⟨0x202F, 0x202F⟩, ⟨0x205F, 0x205F⟩, ⟨0x3000, 0x3000⟩]

/-- A blank separates tokens and has no other meaning. -/
def isBlank (character : Char) : Bool :=
  inRanges blankRanges character

end Reckon.Text
