/-
This file shows how a text is cut into tokens: what is read token by token is a list of segments, each
of them a gap of blanks and a lexeme, with what is left of the text at the end.
-/

import Mathlib.Data.List.TakeWhile
import Reckon.Proofs.Text.Decoding
import Reckon.Proofs.Token.Scan

namespace Reckon

open Text Lexeme

/-- This is the number of bytes of the glyphs. -/
def byteCount (glyphs : List Glyph) : Nat := (glyphs.flatMap Glyph.bytes).length

theorem byteCount_append (first second : List Glyph) :
    byteCount (first ++ second) = byteCount first + byteCount second := by
  simp [byteCount]

theorem byteCount_cons (glyph : Glyph) (glyphs : List Glyph) :
    byteCount (glyph :: glyphs) = glyph.width + byteCount glyphs := by
  simp [byteCount, Glyph.width]

/-- The offset counts the bytes that a location is past. -/
theorem Location.offset_pastAll (place : Location) (glyphs : List Glyph) :
    (place.pastAll glyphs).offset = place.offset + byteCount glyphs := by
  induction glyphs generalizing place with
  | nil => simp [pastAll, byteCount]
  | cons glyph glyphs ih =>
      have step : (place.past glyph).offset = place.offset + glyph.width := by
        unfold past
        split <;> rfl
      change ((place.past glyph).pastAll glyphs).offset = _
      rw [ih, step, byteCount_cons]
      push_cast
      omega

/-- The bytes between two glyphs of a text are those of the glyphs between them. -/
theorem extract_glyphs (source : Bytes) (before middle after : List Glyph)
    (whole : source.glyphs = before ++ middle ++ after) :
    source.extract (byteCount before) (byteCount (before ++ middle)) = glyphBytes middle := by
  have bytes : source = glyphBytes (before ++ middle ++ after) := by
    rw [← whole, glyphBytes_glyphs]
  rw [bytes]
  apply Array.ext'
  simp [glyphBytes, byteCount]

/-- A span between two glyphs of a text cuts out what is between them. -/
theorem slice_between {source : Bytes} {before middle after : List Glyph} {span : Span}
    (whole : source.glyphs = before ++ middle ++ after) (start : span.start.offset = byteCount before)
    (stop : span.stop.offset = byteCount (before ++ middle)) :
    span.slice source = .ok (glyphBytes middle) := by
  have size : source.size = byteCount (before ++ middle ++ after) := by
    conv_lhs => rw [← glyphBytes_glyphs source, whole]
    simp [glyphBytes, byteCount]
  have order : byteCount before ≤ byteCount (before ++ middle) := by
    rw [byteCount_append]
    omega
  have inside : byteCount (before ++ middle) ≤ source.size := by
    rw [size, byteCount_append _ after]
    omega
  rw [Span.slice, if_pos (by omega), start, stop, Int.toNat_natCast, Int.toNat_natCast,
    extract_glyphs source before middle after whole]

/-- A segment is a token of a text with the blanks before it. -/
structure Segment where
  gap : List Glyph
  kind : Kind
  lexeme : List Glyph

/-- This is the location after a segment. -/
def Segment.after (segment : Segment) (place : Location) : Location :=
  (place.pastAll segment.gap).pastAll segment.lexeme

/-- This is the token of a segment that starts at the given place. -/
def Segment.token (segment : Segment) (place : Location) : Token :=
  ⟨segment.kind, glyphBytes segment.lexeme, ⟨place.pastAll segment.gap, segment.after place⟩⟩

/-- These are the tokens of segments from a place on, and the end of input after the tail. -/
def tokensFrom (place : Location) (tail : List Glyph) : List Segment → List Token
  | [] => [Reader.endToken ⟨[], place.pastAll tail⟩]
  | segment :: segments => segment.token place :: tokensFrom (segment.after place) tail segments

def AllBlank (glyphs : List Glyph) : Prop := ∀ glyph ∈ glyphs, isBlank glyph.character = true

/-- The glyphs from a place on are cut into the segments and the tail. The tail is blank, unless the
text ends inside of a token. -/
inductive Cut : Location → List Glyph → List Segment → List Glyph → List Misreading → Prop
  | finished {place : Location} {tail : List Glyph} (blank : AllBlank tail) :
      Cut place tail [] tail []
  | opened {place : Location} {gap : List Glyph} {first : Glyph} {rest : List Glyph}
      (blank : AllBlank gap) (solid : isBlank first.character = false)
      (found : (scan first rest).token? = none) :
      Cut place (gap ++ first :: rest) [] (gap ++ first :: rest)
        ((scan first rest).misreadings (place.pastAll gap) first rest)
  | segment {place : Location} {gap : List Glyph} {first : Glyph} {rest : List Glyph} {kind : Kind}
      {length : Nat} {segments : List Segment} {tail : List Glyph} {misreadings : List Misreading}
      (blank : AllBlank gap) (solid : isBlank first.character = false)
      (found : (scan first rest).token? = some (kind, length))
      (later : Cut (Segment.after ⟨gap, kind, (first :: rest).take length⟩ place)
        ((first :: rest).drop length) segments tail misreadings) :
      Cut place (gap ++ first :: rest) (⟨gap, kind, (first :: rest).take length⟩ :: segments) tail
        ((scan first rest).misreadings (place.pastAll gap) first rest ++ misreadings)

theorem Location.pastAll_append (place : Location) (first second : List Glyph) :
    place.pastAll (first ++ second) = (place.pastAll first).pastAll second :=
  List.foldl_append

/-- Every text starts with blanks up to a glyph that is none. -/
theorem blanks_cases (glyphs : List Glyph) :
    AllBlank glyphs ∨ ∃ gap first rest, AllBlank gap ∧ isBlank first.character = false ∧
      glyphs = gap ++ first :: rest := by
  induction glyphs with
  | nil =>
      left
      intro _ member
      cases member
  | cons glyph glyphs ih =>
      by_cases blank : isBlank glyph.character = true
      · rcases ih with all | ⟨gap, first, rest, allGap, solid, split⟩
        · left
          simpa [AllBlank, blank] using all
        · right
          refine ⟨glyph :: gap, first, rest, ?_, solid, by simp [split]⟩
          simpa [AllBlank, blank] using allGap
      · right
        exact ⟨[], glyph, glyphs, by simp [AllBlank], by simpa using blank, rfl⟩

/-- Every text can be cut. -/
theorem exists_cut (place : Location) (glyphs : List Glyph) :
    ∃ segments tail misreadings, Cut place glyphs segments tail misreadings := by
  induction size : glyphs.length using Nat.strongRecOn generalizing place glyphs with
  | _ count ih =>
      rcases blanks_cases glyphs with blank | ⟨gap, first, rest, blank, solid, split⟩
      · exact ⟨[], glyphs, [], .finished blank⟩
      · subst split
        cases found : (scan first rest).token? with
        | none => exact ⟨[], _, _, .opened blank solid found⟩
        | some token =>
            obtain ⟨kind, length⟩ := token
            obtain ⟨positive, _, _⟩ := scan_fits first rest kind length found
            obtain ⟨segments, tail, misreadings, later⟩ :=
              ih ((first :: rest).drop length).length (by
                simp only [List.length_append, List.length_cons, List.length_drop] at size ⊢
                omega)
                (Segment.after ⟨gap, kind, (first :: rest).take length⟩ place) _ rfl
            exact ⟨_, tail, _, .segment blank solid found later⟩

namespace Reader

/-- A gap is skipped up to the first glyph that is not blank. -/
theorem skipWhile_gap (place : Location) (gap : List Glyph) (first : Glyph) (rest : List Glyph)
    (blank : AllBlank gap) (solid : isBlank first.character = false) :
    (Cursor.mk (gap ++ first :: rest) place).skipWhile isBlank =
      ⟨first :: rest, place.pastAll gap⟩ := by
  have length : (Cursor.mk (gap ++ first :: rest) place).run isBlank = gap.length := by
    rw [Cursor.run, List.takeWhile_append_of_pos blank]
    simp [solid]
  simp [Cursor.skipWhile, Cursor.skip, length]

/-- Blanks are skipped up to the end. -/
theorem skipWhile_blank (place : Location) (tail : List Glyph) (blank : AllBlank tail) :
    (Cursor.mk tail place).skipWhile isBlank = ⟨[], place.pastAll tail⟩ := by
  have length : (Cursor.mk tail place).run isBlank = tail.length := by
    rw [Cursor.run, List.takeWhile_eq_self_iff.2 blank]
  simp [Cursor.skipWhile, Cursor.skip, length]

/-- A reader before a token reads it and stands behind it. -/
theorem next_segment (place : Location) (misreadings : Array Misreading) (gap : List Glyph)
    (first : Glyph) (rest : List Glyph) (kind : Kind) (length : Nat) (blank : AllBlank gap)
    (solid : isBlank first.character = false)
    (found : (scan first rest).token? = some (kind, length)) :
    let segment : Segment := ⟨gap, kind, (first :: rest).take length⟩
    (Reader.mk ⟨gap ++ first :: rest, place⟩ false misreadings).next =
      (segment.token place, ⟨⟨(first :: rest).drop length, segment.after place⟩, false,
        misreadings ++ ((scan first rest).misreadings (place.pastAll gap) first rest).toArray⟩) := by
  simp only [next, Bool.false_eq_true, ↓reduceIte, skipWhile_gap place gap first rest blank solid,
    nextAt]
  cases result : scan first rest <;> rw [result] at found <;> cases found <;>
    simp [tokenOf, Cursor.skip, Cursor.spanFrom, Segment.token, Segment.after, Scan.misreadings]

/-- A reader whose text ends inside of a token reads the end of input. -/
theorem next_opened (place : Location) (misreadings : Array Misreading) (gap : List Glyph)
    (first : Glyph) (rest : List Glyph) (blank : AllBlank gap)
    (solid : isBlank first.character = false) (found : (scan first rest).token? = none) :
    let cursor : Cursor := ⟨[], place.pastAll (gap ++ first :: rest)⟩
    (Reader.mk ⟨gap ++ first :: rest, place⟩ false misreadings).next =
      (endToken cursor, ⟨cursor, true,
        misreadings ++ ((scan first rest).misreadings (place.pastAll gap) first rest).toArray⟩) := by
  simp only [next, Bool.false_eq_true, ↓reduceIte, skipWhile_gap place gap first rest blank solid,
    nextAt]
  cases result : scan first rest <;> rw [result] at found <;> cases found <;>
    simp [finish, Cursor.skip, Scan.misreadings, Location.pastAll_append]

/-- A reader before blanks only reads the end of input. -/
theorem next_finished (place : Location) (misreadings : Array Misreading) (tail : List Glyph)
    (blank : AllBlank tail) :
    let cursor : Cursor := ⟨[], place.pastAll tail⟩
    (Reader.mk ⟨tail, place⟩ false misreadings).next =
      (endToken cursor, ⟨cursor, true, misreadings⟩) := by
  simp [next, skipWhile_blank place tail blank]

end Reader

/-- There are no more segments than glyphs. -/
theorem Cut.length_le {place : Location} {glyphs : List Glyph} {segments : List Segment}
    {tail : List Glyph} {misreadings : List Misreading}
    (cut : Cut place glyphs segments tail misreadings) : segments.length ≤ glyphs.length := by
  induction cut with
  | finished => exact Nat.zero_le _
  | opened => exact Nat.zero_le _
  | segment blank solid found later ih =>
      obtain ⟨positive, _, _⟩ := scan_fits _ _ _ _ found
      simp only [List.length_append, List.length_cons, List.length_drop] at ih ⊢
      omega

/-- A segment ends behind its gap and its lexeme. -/
theorem Segment.after_offset (segment : Segment) (place : Location) (before : List Glyph)
    (here : place.offset = byteCount before) :
    (segment.after place).offset = byteCount (before ++ segment.gap ++ segment.lexeme) := by
  rw [Segment.after, Location.offset_pastAll, Location.offset_pastAll, here, byteCount_append,
    byteCount_append]
  push_cast
  rfl

/-- A text goes on behind its first token. -/
theorem glyphs_split {source : Bytes} {before gap : List Glyph} {first : Glyph}
    {rest : List Glyph} (length : Nat) (whole : source.glyphs = before ++ (gap ++ first :: rest)) :
    source.glyphs =
      before ++ gap ++ (first :: rest).take length ++ (first :: rest).drop length := by
  rw [whole, List.append_assoc, List.append_assoc, List.take_append_drop]

/-- The entry of a token leaves its text out. -/
def Token.entry (token : Token) : Entry := ⟨token.kind, token.span⟩

namespace Reader

variable {source : Bytes} {place : Location} {before gap tail : List Glyph} {first : Glyph}
  {rest : List Glyph}

/-- What a reader reads next is cut out of its source text without a fault. -/
theorem read_segment (misreadings : Array Misreading) {kind : Kind} {length : Nat}
    (blank : AllBlank gap) (solid : isBlank first.character = false)
    (found : (scan first rest).token? = some (kind, length))
    (whole : source.glyphs = before ++ (gap ++ first :: rest))
    (here : place.offset = byteCount before) :
    let segment : Segment := ⟨gap, kind, (first :: rest).take length⟩
    (Reader.mk ⟨gap ++ first :: rest, place⟩ false misreadings).read source =
      .ok (segment.token place, ⟨⟨(first :: rest).drop length, segment.after place⟩, false,
        misreadings ++
          ((scan first rest).misreadings (place.pastAll gap) first rest).toArray⟩) := by
  intro segment
  have proper : (segment.token place).kind ≠ .endOfInput := (scan_fits _ _ _ _ found).2.2
  have start : (place.pastAll gap).offset = byteCount (before ++ gap) := by
    rw [Location.offset_pastAll, here, byteCount_append]
    push_cast
    rfl
  have sliced : (segment.token place).span.slice source = .ok (segment.token place).lexeme :=
    slice_between (glyphs_split length whole) start (segment.after_offset place before here)
  rw [read, next_segment _ _ _ _ _ _ _ blank solid found]
  dsimp only
  rw [if_neg proper, sliced]
  rfl

/-- The end of input is read without a cut, also where a token does not end. -/
theorem read_opened (misreadings : Array Misreading) (blank : AllBlank gap)
    (solid : isBlank first.character = false) (found : (scan first rest).token? = none) :
    let cursor : Cursor := ⟨[], place.pastAll (gap ++ first :: rest)⟩
    (Reader.mk ⟨gap ++ first :: rest, place⟩ false misreadings).read source =
      .ok (endToken cursor, ⟨cursor, true, misreadings ++
        ((scan first rest).misreadings (place.pastAll gap) first rest).toArray⟩) := by
  rw [read, next_opened _ _ _ _ _ blank solid found]
  rfl

/-- A text of blanks is read without a cut. -/
theorem read_finished (misreadings : Array Misreading) (blank : AllBlank tail) :
    let cursor : Cursor := ⟨[], place.pastAll tail⟩
    (Reader.mk ⟨tail, place⟩ false misreadings).read source =
      .ok (endToken cursor, ⟨cursor, true, misreadings⟩) := by
  rw [read, next_finished _ _ _ blank]
  rfl

end Reader

/-- Reading up to the end of input gives the kinds and the spans of the tokens of the cut. -/
theorem Cut.readAll {source : Bytes} {place : Location} {glyphs : List Glyph}
    {segments : List Segment} {tail : List Glyph} {found : List Misreading}
    (cut : Cut place glyphs segments tail found) {before : List Glyph}
    (whole : source.glyphs = before ++ glyphs) (here : place.offset = byteCount before)
    (kinds : Array Kind) (spans : Array Span) (misreadings : Array Misreading) (bound : Nat)
    (enough : segments.length < bound) :
    Reader.readAll source kinds spans bound ⟨⟨glyphs, place⟩, false, misreadings⟩ =
      .ok (kinds ++ ((tokensFrom place tail segments).map Token.kind).toArray,
        spans ++ ((tokensFrom place tail segments).map Token.span).toArray,
        misreadings ++ found.toArray) := by
  induction cut generalizing before kinds spans misreadings bound with
  | finished blank =>
      obtain ⟨bound, rfl⟩ : ∃ rest, bound = rest + 1 := ⟨bound - 1, by omega⟩
      rw [Reader.readAll, Reader.read_finished _ blank]
      simp [Reader.endToken, tokensFrom]
  | opened blank solid found =>
      obtain ⟨bound, rfl⟩ : ∃ rest, bound = rest + 1 := ⟨bound - 1, by omega⟩
      rw [Reader.readAll, Reader.read_opened _ blank solid found]
      simp [Reader.endToken, tokensFrom]
  | @segment place gap first rest kind length segments tail misread blank solid found later ih =>
      simp only [List.length_cons] at enough
      obtain ⟨bound, rfl⟩ : ∃ rest, bound = rest + 1 := ⟨bound - 1, by omega⟩
      obtain ⟨_, _, proper⟩ := scan_fits _ _ _ _ found
      have there := Segment.after_offset ⟨gap, kind, (first :: rest).take length⟩ place before here
      rw [Reader.readAll, Reader.read_segment _ blank solid found whole here]
      simp only [Segment.token, proper, if_false]
      rw [ih (glyphs_split length whole) there _ _ _ bound (by omega)]
      simp [tokensFrom, Segment.token]

/-- A text is read without a fault, and its reading is given by its cut. -/
theorem Cut.read {source : Bytes} {segments : List Segment} {tail : List Glyph}
    {misreadings : List Misreading}
    (cut : Cut .start source.glyphs segments tail misreadings) :
    Reading.read source =
      .ok ⟨⟨source, ((tokensFrom .start tail segments).map Token.entry).toArray⟩, misreadings⟩ := by
  have enough : segments.length < (Reader.ofBytes source).cursor.rest.length + 1 :=
    Nat.lt_succ_of_le cut.length_le
  have whole : source.glyphs = [] ++ source.glyphs := rfl
  have read := cut.readAll whole rfl #[] #[] #[] _ enough
  change Reader.readAll source #[] #[] _ (Reader.ofBytes source) = _ at read
  have columns : Buffer.ofColumns source ((tokensFrom .start tail segments).map Token.kind)
      ((tokensFrom .start tail segments).map Token.span) =
        .ok ⟨source, ((tokensFrom .start tail segments).map Token.entry).toArray⟩ := by
    rw [Buffer.ofColumns, if_pos (by simp)]
    simp [List.zipWith_map, Token.entry]
  rw [Reading.read]
  simp only [read, bind, Except.bind, pure, Except.pure]
  simp [columns]

/-- The buffer of a text holds the entries of its tokens. -/
theorem Cut.reading {source : Bytes} {segments : List Segment} {tail : List Glyph}
    {misreadings : List Misreading}
    (cut : Cut .start source.glyphs segments tail misreadings) :
    Reading.ofBytes source =
      ⟨⟨source, ((tokensFrom .start tail segments).map Token.entry).toArray⟩, misreadings⟩ := by
  rw [Reading.ofBytes, cut.read]

/-- No text is read with a fault. -/
theorem Reading.read_eq (source : Bytes) : Reading.read source = .ok (Reading.ofBytes source) := by
  obtain ⟨segments, tail, misreadings, cut⟩ := exists_cut .start source.glyphs
  rw [cut.read, cut.reading]

end Reckon
