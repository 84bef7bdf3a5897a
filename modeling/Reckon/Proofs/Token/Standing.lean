/-
This file follows a reader through its text. Its cursor never leaves the text, so nothing is cut out
beyond the end, whatever was read before.
-/

import Mathlib.Logic.Function.Iterate
import Reckon.Proofs.Token.Lossless

namespace Reckon

open Text Lexeme

namespace Cursor

/-- A cursor stands in a text when the glyphs ahead are those of the text from its own offset on. -/
def StandsIn (cursor : Cursor) (source : Bytes) : Prop :=
  ∃ before, source.glyphs = before ++ cursor.rest ∧ cursor.location.offset = byteCount before

/-- This is the span of all that is ahead of a cursor. -/
def ahead (cursor : Cursor) (source : Bytes) : Span :=
  ⟨cursor.location, Location.start.pastAll source.glyphs⟩

variable {cursor : Cursor} {source : Bytes}

theorem standsIn_ofBytes (source : Bytes) : (ofBytes source).StandsIn source := ⟨[], rfl, rfl⟩

/-- A cursor that moves on stands in the same text. -/
theorem StandsIn.skip (stands : cursor.StandsIn source) (count : Nat) :
    (cursor.skip count).StandsIn source := by
  obtain ⟨before, whole, here⟩ := stands
  refine ⟨before ++ cursor.rest.take count, ?_, ?_⟩
  · rw [Cursor.skip, List.append_assoc, List.take_append_drop, whole]
  · rw [Cursor.skip, Location.offset_pastAll, here, byteCount_append]
    push_cast
    rfl

/-- What is ahead of a cursor can be cut out of its text, and shows the glyphs ahead. -/
theorem StandsIn.slice_ahead (stands : cursor.StandsIn source) :
    ∃ text, (cursor.ahead source).slice source = .ok text ∧ text.glyphs = cursor.rest := by
  obtain ⟨before, whole, here⟩ := stands
  have stop : (Location.start.pastAll source.glyphs).offset = byteCount (before ++ cursor.rest) := by
    rw [Location.offset_pastAll, whole]
    exact Int.zero_add _
  have whole' : source.glyphs = before ++ cursor.rest ++ [] := by rw [List.append_nil, whole]
  have sliced : (cursor.ahead source).slice source = .ok (glyphBytes cursor.rest) :=
    slice_between whole' here stop
  have glyphs := isText_glyphs source
  rw [whole] at glyphs
  exact ⟨_, sliced, glyphs_glyphBytes cursor.rest (IsText.of_append _ _ glyphs).2⟩

end Cursor

namespace Reader

variable {reader : Reader} {source : Bytes}

/-- A reader that stands in a text cuts the next token out of it without a fault, and it still stands in
the text after that. -/
theorem read_stands (stands : reader.cursor.StandsIn source) :
    reader.read source = .ok reader.next ∧ reader.next.2.cursor.StandsIn source := by
  obtain ⟨⟨glyphs, place⟩, finished, misreadings⟩ := reader
  cases finished with
  | true => exact ⟨rfl, stands⟩
  | false =>
      have behind : Cursor.StandsIn ⟨[], place.pastAll glyphs⟩ source := by
        simpa [Cursor.skip] using stands.skip glyphs.length
      obtain ⟨before, whole, here⟩ := stands
      rcases blanks_cases glyphs with blank | ⟨gap, first, rest, blank, solid, split⟩
      · rw [read_finished _ blank, next_finished _ _ _ blank]
        exact ⟨rfl, behind⟩
      · subst split
        cases found : (scan first rest).token? with
        | none =>
            rw [read_opened _ blank solid found, next_opened _ _ _ _ _ blank solid found]
            exact ⟨rfl, behind⟩
        | some token =>
            obtain ⟨kind, length⟩ := token
            rw [read_segment _ blank solid found whole here, next_segment _ _ _ _ _ _ _ blank solid found]
            exact ⟨rfl, _, glyphs_split length whole, Segment.after_offset _ place before here⟩

/-- This is the reader after a number of tokens. -/
def after (reader : Reader) (count : Nat) : Reader := (fun reader => reader.next.2)^[count] reader

/-- A reader stands in its text, however many tokens it has read. -/
theorem stands_after (source : Bytes) (count : Nat) :
    ((ofBytes source).after count).cursor.StandsIn source := by
  induction count with
  | zero => exact Cursor.standsIn_ofBytes source
  | succ count ih =>
      rw [after, Function.iterate_succ_apply']
      exact (read_stands ih).2

end Reader

end Reckon
