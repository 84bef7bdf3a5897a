/-
This file defines cursors: positions in a source text that move forward glyph by glyph.
-/

import Reckon.Location

namespace Reckon

open Text

/-- A cursor holds the glyphs that are still ahead and the location before them. -/
structure Cursor where
  rest : List Glyph
  location : Location
  deriving Repr, Inhabited

namespace Cursor

/-- This is the cursor before the first glyph of a text. -/
def ofBytes (text : Bytes) : Cursor := ⟨text.glyphs, .start⟩

def atEnd (cursor : Cursor) : Bool := cursor.rest.isEmpty

/-- This is the next character. The cursor stays where it is. -/
def peek? (cursor : Cursor) : Option Char := cursor.rest.head?.map Glyph.character

/-- This is the cursor after `count` more glyphs. -/
def skip (cursor : Cursor) (count : Nat) : Cursor :=
  ⟨cursor.rest.drop count, cursor.location.pastAll (cursor.rest.take count)⟩

/-- This moves the cursor past the next character. -/
def advance? (cursor : Cursor) : Option (Char × Cursor) :=
  match cursor.rest with
  | [] => none
  | glyph :: rest => some (glyph.character, ⟨rest, cursor.location.past glyph⟩)

/-- This moves the cursor past the next character if that is in the given class. -/
def advanceIf? (cursor : Cursor) (inClass : Char → Bool) : Option (Char × Cursor) :=
  match cursor.peek? with
  | some character => if inClass character then cursor.advance? else none
  | none => none

/-- This is the number of glyphs up to the first one outside of the given class. -/
def run (cursor : Cursor) (inClass : Char → Bool) : Nat :=
  (cursor.rest.takeWhile fun glyph => inClass glyph.character).length

/-- This moves the cursor to the first character outside of the given class. -/
def skipWhile (cursor : Cursor) (inClass : Char → Bool) : Cursor :=
  cursor.skip (cursor.run inClass)

/-- This is the span between an earlier location and the cursor. -/
def spanFrom (cursor : Cursor) (start : Location) : Span := ⟨start, cursor.location⟩

end Cursor

end Reckon
