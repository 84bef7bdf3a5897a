/-
This file defines the control characters: the characters of the general category C, whether they
are assigned or not.
-/

import Reckon.Text.Printable

namespace Reckon.Text

/-- These are the separators: the characters of the general category Z. -/
def separatorRanges : List Range :=
  [⟨0x0020, 0x0020⟩, ⟨0x00A0, 0x00A0⟩, ⟨0x1680, 0x1680⟩, ⟨0x2000, 0x200A⟩, ⟨0x2028, 0x2029⟩,
   ⟨0x202F, 0x202F⟩, ⟨0x205F, 0x205F⟩, ⟨0x3000, 0x3000⟩]

/-- A control character is neither printable nor a separator. -/
def isControl (character : Char) : Bool :=
  !isPrintable character && !inRanges separatorRanges character

end Reckon.Text
