/-
This file shows where the tokens and the misreadings of a text stand. Lines and columns are counted
while the text is read, but a location is determined by its offset alone.
-/

import Mathlib.Data.List.DropRight
import Reckon.Proofs.Token.Lines

namespace Reckon

open Text Lexeme

/-- This is the location of an offset, counted from the start of the text. The column counts the glyphs
of the bytes since the last newline. -/
def Text.Bytes.locationAt (source : Bytes) (offset : Nat) : Location :=
  let before := source.toList.take offset
  ⟨offset, 1 + (before.count 0x0A : Nat),
    1 + (Utf8.read (before.rtakeWhile (· != 0x0A))).length⟩

/-- An offset is a boundary of a text when a glyph ends or starts there. -/
def Text.Bytes.IsBoundary (source : Bytes) (offset : Nat) : Prop :=
  ∃ before after, source.glyphs = before ++ after ∧ offset = byteCount before

/-- A location is counted in a text when it is that of a boundary. -/
def Location.CountedIn (location : Location) (source : Bytes) : Prop :=
  ∃ offset, source.IsBoundary offset ∧ location = source.locationAt offset

/-- This is where a text was misread. -/
def Misreading.location : Misreading → Location
  | unexpectedCharacter location _ | malformedLiteral location _ | unterminatedString location
  | unterminatedComment location => location

theorem rtakeWhile_append_of_pos {A : Type} {p : A → Bool} (first : List A) {second : List A}
    (all : ∀ a ∈ second, p a = true) :
    (first ++ second).rtakeWhile p = first.rtakeWhile p ++ second := by
  rw [List.rtakeWhile, List.rtakeWhile, List.reverse_append,
    List.takeWhile_append_of_pos (by simpa using all), List.reverse_append, List.reverse_reverse]

/-- A newline is a glyph of a single byte, and other glyphs have no such byte. -/
theorem newline_bytes {source : Bytes} {glyph : Glyph} (member : glyph ∈ source.glyphs) :
    (glyph.is '\n' = true → glyph.bytes = [0x0A]) ∧ (glyph.is '\n' = false → 0x0A ∉ glyph.bytes) := by
  change glyph ∈ Utf8.read source.toList at member
  generalize source.toList = bytes at member
  induction bytes using Utf8.read_induction with
  | nil => cases member
  | cons lead rest ih =>
      rw [Utf8.read_cons] at member
      rcases List.mem_cons.1 member with rfl | later
      · have count := Utf8.glyph_count_newline lead rest
        refine ⟨fun newline => ?_, fun other => ?_⟩
        · by_cases ascii : lead.toNat < 0x80
          · rw [Utf8.glyph_one lead rest ascii] at newline ⊢
            have code : lead.toNat = 10 := Utf8.ofNat_newline (beq_iff_eq.1 newline)
            rw [UInt8.toNat_inj.1 (code.trans (by rfl : 10 = (0x0A : UInt8).toNat))]
          · have other := (Utf8.glyph_beyond lead rest (Nat.le_of_not_lt ascii)).1
            exact absurd (beq_iff_eq.1 newline) other
        · rw [other] at count
          exact List.count_eq_zero.1 count
      · exact ih later

section Column

variable {source : Bytes} {before after : List Glyph}

/-- The column counts the glyphs since the last newline. -/
theorem Location.column_pastAll (glyphs : List Glyph) : (Location.start.pastAll glyphs).column =
    1 + ((glyphs.rtakeWhile fun glyph => !glyph.is '\n').length : Nat) := by
  induction glyphs using List.reverseRecOn with
  | nil => rfl
  | append_singleton glyphs glyph ih =>
      rw [pastAll_append]
      change ((Location.start.pastAll glyphs).past glyph).column = _
      rw [List.rtakeWhile_concat, past]
      split
      · rename_i newline
        rw [newline]
        rfl
      · rename_i other
        rw [Bool.not_eq_true] at other
        rw [other, ih]
        simp only [Bool.not_false, if_true, List.length_append, List.length_singleton]
        push_cast
        omega

/-- The bytes since the last newline are those of the glyphs since then. -/
theorem rtakeWhile_bytes (inside : before ⊆ source.glyphs) :
    (before.flatMap Glyph.bytes).rtakeWhile (· != 0x0A) =
      (before.rtakeWhile fun glyph => !glyph.is '\n').flatMap Glyph.bytes := by
  induction before using List.reverseRecOn with
  | nil => rfl
  | append_singleton glyphs glyph ih =>
      have earlier := ih fun other member => inside (List.mem_append_left _ member)
      have last := inside (List.mem_append_right _ (List.mem_singleton_self glyph))
      obtain ⟨newline, other⟩ := newline_bytes last
      rw [List.flatMap_append, List.flatMap_singleton, List.rtakeWhile_concat]
      cases is : glyph.is '\n' with
      | true =>
          rw [newline is]
          exact List.rtakeWhile_concat_neg _ _ _ (by decide)
      | false =>
          rw [rtakeWhile_append_of_pos, earlier]
          · simp
          · intro byte member
            exact bne_iff_ne.2 fun same => other is (same ▸ member)

end Column

/-- A location that was reached glyph by glyph from the start of a text is counted in it. -/
theorem Location.pastAll_start {source : Bytes} {before after : List Glyph}
    (whole : source.glyphs = before ++ after) :
    Location.start.pastAll before = source.locationAt (byteCount before) := by
  have text := isText_glyphs source
  rw [whole] at text
  have front := (IsText.of_append _ _ text).1
  have bytes : source.toList.take (byteCount before) = before.flatMap Glyph.bytes := by
    rw [← Utf8.read_bytes source.toList]
    change ((Bytes.glyphs source).flatMap Glyph.bytes).take _ = _
    rw [whole, List.flatMap_append, byteCount, List.take_left]
  have lines : before.countP (fun glyph => glyph.is '\n') = (before.flatMap Glyph.bytes).count 0x0A := by
    rw [← Utf8.count_newline, front]
  have line : Utf8.read ((before.rtakeWhile fun glyph => !glyph.is '\n').flatMap Glyph.bytes) =
      before.rtakeWhile fun glyph => !glyph.is '\n' := by
    obtain ⟨earlier, split⟩ := List.rtakeWhile_suffix (fun glyph : Glyph => !glyph.is '\n') before
    rw [← split] at front
    exact (IsText.of_append _ _ front).2
  have inside : before ⊆ source.glyphs := whole ▸ List.subset_append_left _ _
  rw [Bytes.locationAt, bytes, rtakeWhile_bytes inside, line, ← lines, ← Location.column_pastAll]
  have offset := Location.start.offset_pastAll before
  have lines := Location.start.line_pastAll before
  generalize Location.start.pastAll before = place at offset lines
  obtain ⟨_, _, _⟩ := place
  simp only [Location.start, Int.zero_add] at offset lines
  rw [offset, lines]

/-- The location behind a part of the glyphs counts the bytes, lines and columns of that part. -/
theorem Location.countedIn_pastAll {source : Bytes} {before after : List Glyph}
    (whole : source.glyphs = before ++ after) : (Location.start.pastAll before).CountedIn source :=
  ⟨byteCount before, ⟨before, after, whole, rfl⟩, Location.pastAll_start whole⟩

/-- A token of a cut is scanned where it stands, or it is the end of input behind all glyphs. -/
theorem Cut.token_cases {place : Location} {glyphs : List Glyph} {segments : List Segment}
    {tail : List Glyph} {misreadings : List Misreading}
    (cut : Cut place glyphs segments tail misreadings) {token : Token}
    (member : token ∈ tokensFrom place tail segments) :
    token = Reader.endToken ⟨[], place.pastAll glyphs⟩ ∨
    ∃ before first rest kind length, glyphs = before ++ first :: rest ∧
      isBlank first.character = false ∧ (scan first rest).token? = some (kind, length) ∧
      token = ⟨kind, glyphBytes ((first :: rest).take length),
        ⟨place.pastAll before, place.pastAll (before ++ (first :: rest).take length)⟩⟩ := by
  induction cut with
  | finished blank => exact .inl (List.mem_singleton.1 member)
  | opened blank solid found => exact .inl (List.mem_singleton.1 member)
  | @segment place gap first rest kind length segments tail misreadings blank solid found later ih =>
      have behind (glyphs : List Glyph) :
          (Segment.after ⟨gap, kind, (first :: rest).take length⟩ place).pastAll glyphs =
            place.pastAll (gap ++ (first :: rest).take length ++ glyphs) := by
        rw [Location.pastAll_append, Location.pastAll_append, Segment.after]
      have split : gap ++ first :: rest =
          gap ++ (first :: rest).take length ++ (first :: rest).drop length := by
        rw [List.append_assoc, List.take_append_drop]
      rcases List.mem_cons.1 member with rfl | member
      · refine .inr ⟨gap, first, rest, kind, length, rfl, solid, found, ?_⟩
        rw [Segment.token, Segment.after, Location.pastAll_append]
      · rcases ih member with rfl | ⟨before, first', rest', kind', length', whole, solid', found', rfl⟩
        · left
          rw [behind, ← split]
        · refine .inr ⟨gap ++ (first :: rest).take length ++ before, first', rest', kind', length', ?_,
            solid', found', ?_⟩
          · rw [split, whole, ← List.append_assoc]
          · rw [behind, behind, List.append_assoc (gap ++ _)]

/-- A misreading of a cut stands where a scan starts. -/
theorem Cut.misreading_location {place : Location} {glyphs : List Glyph} {segments : List Segment}
    {tail : List Glyph} {misreadings : List Misreading}
    (cut : Cut place glyphs segments tail misreadings) {misreading : Misreading}
    (member : misreading ∈ misreadings) :
    ∃ before after, glyphs = before ++ after ∧ misreading.location = place.pastAll before := by
  have scanned {place : Location} {first : Glyph} {rest : List Glyph} {scan : Scan}
      (member : misreading ∈ scan.misreadings place first rest) : misreading.location = place := by
    cases scan with
    | lexeme => cases member
    | malformed | unexpected | unterminatedString | unterminatedComment =>
        obtain rfl := List.mem_singleton.1 member
        rfl
  induction cut with
  | finished blank => cases member
  | opened blank solid found => exact ⟨_, _, rfl, scanned member⟩
  | @segment place gap first rest kind length segments tail misreadings blank solid found later ih =>
      rcases List.mem_append.1 member with here | member
      · exact ⟨_, _, rfl, scanned here⟩
      · obtain ⟨before, after, whole, there⟩ := ih member
        refine ⟨gap ++ (first :: rest).take length ++ before, after, ?_, ?_⟩
        · rw [List.append_assoc, List.append_assoc, ← whole, List.take_append_drop]
        · rw [there, Segment.after, Location.pastAll_append, Location.pastAll_append]

/-- The location of every token and of every misreading is that of its offset, and it lies between two
glyphs of the text. -/
theorem locations_counted (source : Bytes) :
    ∃ tokens, (Reading.ofBytes source).buffer.tokens = .ok tokens ∧
      (∀ token ∈ tokens, token.span.start.CountedIn source ∧ token.span.stop.CountedIn source) ∧
      ∀ leaf ∈ (Reading.ofBytes source).leaves, ∃ misreading,
        leaf = (.misread misreading, none) ∧ misreading.location.CountedIn source := by
  obtain ⟨segments, tail, misreadings, cut⟩ := exists_cut .start source.glyphs
  refine ⟨_, cut.tokens, fun token member => ?_, fun leaf member => ?_⟩
  · rcases cut.token_cases member with rfl | ⟨before, first, rest, kind, length, whole, _, _, rfl⟩
    · have counted := Location.countedIn_pastAll (List.append_nil source.glyphs).symm
      exact ⟨counted, counted⟩
    · refine ⟨Location.countedIn_pastAll whole, ?_⟩
      rw [← List.take_append_drop length (first :: rest), ← List.append_assoc] at whole
      exact Location.countedIn_pastAll whole
  · rw [Reading.leaves_eq, cut.reading] at member
    obtain ⟨misreading, found, rfl⟩ := List.mem_map.1 member
    obtain ⟨before, after, whole, there⟩ := cut.misreading_location found
    refine ⟨misreading, rfl, ?_⟩
    rw [there]
    exact Location.countedIn_pastAll whole

/-- A newline in a comment and a stray byte count for the name and the open string behind them. -/
theorem commentedName_counted :
    let source : Bytes := #[0x2D, 0x7B, 0xC3, 0xA9, 0x0A, 0xE2, 0x7D, 0x2D, 0x20, 0x78, 0x20, 0x22]
    let name : Token := ⟨.identifier, #[0x78], ⟨⟨9, 2, 5⟩, ⟨10, 2, 6⟩⟩⟩
    let misreading : Misreading := .unterminatedString ⟨11, 2, 7⟩
    (∃ tokens, (Reading.ofBytes source).buffer.tokens = .ok tokens ∧ name ∈ tokens) ∧
      name.span.start.CountedIn source ∧ name.span.stop.CountedIn source ∧
      (.misread misreading, none) ∈ (Reading.ofBytes source).leaves ∧
      misreading.location.CountedIn source := by
  intro source name misreading
  obtain ⟨tokens, found, tokensCounted, leavesCounted⟩ := locations_counted source
  have read : (Reading.ofBytes source).buffer.tokens = .ok [⟨.comment, source.extract 0 8,
      ⟨.start, ⟨8, 2, 4⟩⟩⟩, name, ⟨.endOfInput, #[], ⟨⟨12, 2, 8⟩, ⟨12, 2, 8⟩⟩⟩] := by decide +kernel
  obtain rfl := Except.ok.inj (found.symm.trans read)
  have member : (.misread misreading, none) ∈ (Reading.ofBytes source).leaves := by decide +kernel
  obtain ⟨_, same, counted⟩ := leavesCounted _ member
  cases same
  obtain ⟨start, stop⟩ := tokensCounted name (by simp)
  exact ⟨⟨_, found, by simp⟩, start, stop, member, counted⟩

end Reckon
