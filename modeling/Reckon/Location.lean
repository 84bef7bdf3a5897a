/-
This file defines points of a source text and the spans between them.
-/

import Reckon.Text.Glyph

namespace Reckon

open Text

/-- The offset counts bytes from zero. The line and the column count from one, and the column
counts glyphs. -/
structure Location where
  offset : Int
  line : Int
  column : Int
  deriving DecidableEq, Repr, Inhabited

/-- This is the location before the first glyph. -/
def Location.start : Location := ⟨0, 1, 1⟩

/-- This is the location after one more glyph. -/
def Location.past (location : Location) (glyph : Glyph) : Location :=
  if glyph.is '\n' then ⟨location.offset + glyph.width, location.line + 1, 1⟩
  else ⟨location.offset + glyph.width, location.line, location.column + 1⟩

/-- This is the location after all the given glyphs. -/
def Location.pastAll (location : Location) (glyphs : List Glyph) : Location :=
  glyphs.foldl Location.past location

/-- A location is written as its line and its column. -/
def Location.text (location : Location) : String :=
  toString location.line ++ ":" ++ toString location.column

/-- A span delimits the source text of a token or a tree. -/
structure Span where
  start : Location
  stop : Location
  deriving DecidableEq, Repr, Inhabited

def Span.text (span : Span) : String := span.start.text ++ "-" ++ span.stop.text

/-- The length of a span counts bytes, and wraps around at sixty-four bits. -/
def Span.length (span : Span) : Int :=
  (Int64.ofInt (span.stop.offset - span.start.offset)).toInt

/-- This is the smallest span that covers both of the given ones. -/
def Span.around (first second : Span) : Span where
  start := if second.start.offset < first.start.offset then second.start else first.start
  stop := if second.stop.offset > first.stop.offset then second.stop else first.stop

end Reckon
