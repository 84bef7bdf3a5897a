/-
This file cuts the standard input and the history file into lines.
-/

import Reckon.Text.Blank
import Reckon.Text.Glyph

namespace Reckon

open Text

/-- A piece is a line, or a part of one that is too long for the input buffer. -/
structure Piece where
  text : Bytes
  isWhole : Bool
  deriving DecidableEq, Repr

namespace Piece

/-- The input buffer holds this many bytes. -/
def limit : Nat := 4096

/-- This is the text of a piece that is given in reverse. -/
def ofReversed (reversed : List UInt8) (isWhole : Bool) : Piece :=
  ⟨reversed.reverse.toArray, isWhole⟩

/-- A carriage return before a newline is not part of the line. -/
def ofLine (reversed : List UInt8) : Piece :=
  match reversed with
  | 0x0D :: rest => ofReversed rest true
  | _ => ofReversed reversed true

/-- This cuts the rest of an input after `read` pieces and the start of another one, which is given
in reverse with its length. A carriage return at the end of a full buffer is kept for the next
piece, because a newline may follow it. -/
def cut (read : List Piece) (reversed : List UInt8) (length : Nat) : List UInt8 → List Piece
  | [] => (if length = 0 then read else ofReversed reversed true :: read).reverse
  | byte :: rest =>
      if byte = 0x0A then cut (ofLine reversed :: read) [] 0 rest
      else if length + 1 < limit then cut read (byte :: reversed) (length + 1) rest
      else if byte = 0x0D then cut (ofReversed reversed false :: read) [byte] 1 rest
      else cut (ofReversed (byte :: reversed) false :: read) [] 0 rest

/-- These are the pieces of an input. -/
def all (input : Bytes) : List Piece := cut [] [] 0 input.toList

end Piece

/-- This drops the blanks around a text. -/
def Text.Bytes.trimmed (text : Bytes) : Bytes :=
  let isBlankGlyph (glyph : Glyph) : Bool := isBlank glyph.character
  let started := text.glyphs.dropWhile isBlankGlyph
  glyphBytes (started.reverse.dropWhile isBlankGlyph).reverse

/-- This drops one newline at the end of a text. -/
def Text.Bytes.withoutFinalNewline (text : Bytes) : Bytes :=
  if text.back? == some 0x0A then text.pop else text

end Reckon
