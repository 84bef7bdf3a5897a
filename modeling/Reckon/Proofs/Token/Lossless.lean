/-
This file shows that no byte of a text is lost when it is read: tokens and the blanks between them
make up the text, up to a string or comment that does not end.
-/

import Reckon.Proofs.Token.Cut

namespace Reckon

open Text Lexeme

/-- Glyphs of a text that are not empty have a byte. -/
theorem byteCount_pos (source : Bytes) (glyphs : List Glyph) (inside : glyphs ⊆ source.glyphs)
    (some : glyphs ≠ []) : 0 < byteCount glyphs := by
  cases glyphs with
  | nil => exact absurd rfl some
  | cons glyph glyphs =>
      have positive := Utf8.width_pos_of_mem_read source.toList glyph (inside (by simp))
      rw [byteCount_cons]
      omega

/-- A text that is read from the middle on shows the same glyphs. -/
theorem glyphs_extract (source : Bytes) (before after : List Glyph)
    (whole : source.glyphs = before ++ after) :
    Bytes.glyphs (source.extract (byteCount before) source.size) = after := by
  have size : source.size = byteCount (before ++ after) := by
    conv_lhs => rw [← glyphBytes_glyphs source, whole]
    simp [glyphBytes, byteCount]
  have text := isText_glyphs source
  rw [whole] at text
  rw [size, extract_glyphs source before after [] (by simp [whole])]
  exact glyphs_glyphBytes after (IsText.of_append _ _ text).2

/-- These are the tokens, each with the offset where the one before it ends. -/
def placesFrom (stop : Int) : List Token → List (Int × Token)
  | [] => []
  | token :: tokens => (stop, token) :: placesFrom token.span.stop.offset tokens

/-- A token is placed in a text when a gap and its lexeme follow the end of the token before it. -/
structure Placed (source : Bytes) (place : Int × Token) (before gap lexeme after : List Glyph) :
    Prop where
  whole : source.glyphs = before ++ gap ++ lexeme ++ after
  previous : place.1 = byteCount before
  start : place.2.span.start.offset = byteCount (before ++ gap)
  stop : place.2.span.stop.offset = byteCount (before ++ gap ++ lexeme)
  text : place.2.lexeme = glyphBytes lexeme

/-- The end of input is placed at the end of the text, with the tail before it. -/
theorem placed_endToken (source : Bytes) (place : Location) (before tail : List Glyph)
    (whole : source.glyphs = before ++ tail) (here : place.offset = byteCount before) :
    Placed source (place.offset, Reader.endToken ⟨[], place.pastAll tail⟩) before tail [] [] where
  whole := by simpa using whole
  previous := here
  start := by
    simp only [Reader.endToken, Cursor.spanFrom, Location.offset_pastAll, byteCount_append, here]
    push_cast
    rfl
  stop := by
    simp only [Reader.endToken, Cursor.spanFrom, Location.offset_pastAll, byteCount_append,
      List.append_nil, here]
    push_cast
    rfl
  text := rfl

/-- A token of a cut is placed after a gap of blanks, or it is the end of input. -/
theorem Cut.placed {source : Bytes} {place : Location} {glyphs : List Glyph}
    {segments : List Segment} {tail : List Glyph} {misreadings : List Misreading}
    (cut : Cut place glyphs segments tail misreadings) (before : List Glyph)
    (whole : source.glyphs = before ++ glyphs) (here : place.offset = byteCount before)
    (found : Int × Token) (member : found ∈ placesFrom place.offset (tokensFrom place tail segments)) :
    (∃ before gap lexeme after, Placed source found before gap lexeme after ∧ AllBlank gap ∧
      lexeme ≠ [] ∧ found.2.kind ≠ .endOfInput) ∨
    (∃ before, Placed source found before tail [] [] ∧ found.2.kind = .endOfInput) := by
  induction cut generalizing before with
  | finished =>
      simp only [tokensFrom, placesFrom, List.mem_singleton] at member
      subst member
      exact .inr ⟨before, placed_endToken source _ before _ whole here, rfl⟩
  | opened =>
      simp only [tokensFrom, placesFrom, List.mem_singleton] at member
      subst member
      exact .inr ⟨before, placed_endToken source _ before _ whole here, rfl⟩
  | @segment place gap first rest kind length segments tail misreadings blank solid token later ih =>
      obtain ⟨positive, _, proper⟩ := scan_fits _ _ _ _ token
      have split := glyphs_split length whole
      have start : (place.pastAll gap).offset = byteCount (before ++ gap) := by
        rw [Location.offset_pastAll, byteCount_append, here]
        push_cast
        rfl
      have stop := Segment.after_offset ⟨gap, kind, (first :: rest).take length⟩ place before here
      simp only [tokensFrom, placesFrom, List.mem_cons] at member
      rcases member with first' | later'
      · subst first'
        refine .inl ⟨before, gap, (first :: rest).take length, (first :: rest).drop length,
          ⟨split, here, start, stop, rfl⟩, blank, ?_, proper⟩
        intro empty
        rw [List.take_eq_nil_iff] at empty
        rcases empty with zero | none
        · omega
        · cases none
      · exact ih _ split stop later'

/-- A misreading opens a string or a comment that does not end. -/
def Misreading.Opens (misreading : Misreading) (place : Location) (construct : List Glyph) : Prop :=
  (misreading = .unterminatedString place ∧ ∃ rest, construct.map Glyph.character = '"' :: rest) ∨
  (misreading = .unterminatedComment place ∧
    ∃ rest, construct.map Glyph.character = '-' :: '\x7b' :: rest)

/-- A misreading of what does not end is fatal. -/
theorem Misreading.Opens.isFatal {misreading : Misreading} {place : Location}
    {construct : List Glyph} (opens : misreading.Opens place construct) :
    misreading.isFatal = true := by
  rcases opens with ⟨string, _⟩ | ⟨comment, _⟩
  · rw [string]
    rfl
  · rw [comment]
    rfl

/-- What is no token is opened and does not end. -/
theorem scan_opens (place : Location) (first : Glyph) (rest : List Glyph)
    (found : (scan first rest).token? = none) :
    ∃ misreading, (scan first rest).misreadings place first rest = [misreading] ∧
      misreading.Opens place (first :: rest) := by
  rcases scan_open first rest found with ⟨result, quote⟩ | ⟨result, dash, second, body, more, brace⟩
  · refine ⟨.unterminatedString place, by rw [result]; rfl, .inl ⟨rfl, rest.map Glyph.character, ?_⟩⟩
    simp only [Glyph.is, beq_iff_eq] at quote
    rw [List.map_cons, quote]
  · refine ⟨.unterminatedComment place, by rw [result]; rfl, .inr ⟨rfl, body.map Glyph.character, ?_⟩⟩
    simp only [Glyph.is, beq_iff_eq] at dash brace
    rw [more, List.map_cons, List.map_cons, dash, brace]

/-- A scan with a token does not end the reading. -/
theorem scan_misreadings_not_fatal (place : Location) (first : Glyph) (rest : List Glyph)
    (token : Kind × Nat) (found : (scan first rest).token? = some token) :
    ((scan first rest).misreadings place first rest).any Misreading.isFatal = false := by
  cases result : scan first rest <;> rw [result] at found <;> cases found <;> rfl

/-- The tail of a cut is blank, or the last misreading, and no other, is fatal and opens in it. -/
theorem Cut.tail {place : Location} {glyphs : List Glyph} {segments : List Segment}
    {tail : List Glyph} {misreadings : List Misreading}
    (cut : Cut place glyphs segments tail misreadings) :
    (misreadings.any Misreading.isFatal = false ∧ AllBlank tail) ∨
    (∃ earlier misreading, misreadings = earlier ++ [misreading] ∧
      earlier.any Misreading.isFatal = false ∧ ∃ gap construct start,
      tail = gap ++ construct ∧ AllBlank gap ∧ misreading.Opens start construct ∧
        start.offset + byteCount construct = place.offset + byteCount glyphs) := by
  induction cut with
  | finished blank => exact .inl ⟨rfl, blank⟩
  | @opened place gap first rest blank solid found =>
      obtain ⟨misreading, reported, opens⟩ := scan_opens (place.pastAll gap) first rest found
      refine .inr ⟨[], misreading, reported, rfl, gap, first :: rest, place.pastAll gap, rfl, blank,
        opens, ?_⟩
      rw [Location.offset_pastAll, byteCount_append]
      push_cast
      omega
  | @segment place gap first rest kind length segments tail misreadings blank solid found later ih =>
      have mild := scan_misreadings_not_fatal (place.pastAll gap) first rest _ found
      have reached : (Segment.after ⟨gap, kind, (first :: rest).take length⟩ place).offset +
            byteCount ((first :: rest).drop length) =
          place.offset + byteCount (gap ++ first :: rest) := by
        conv_rhs => rw [← List.take_append_drop length (first :: rest)]
        rw [Segment.after, Location.offset_pastAll, Location.offset_pastAll, byteCount_append,
          byteCount_append]
        push_cast
        omega
      rcases ih with ⟨calm, allBlank⟩ | ⟨earlier, misreading, reported, calm, before, construct,
        start, split, allBlank, opens, there⟩
      · rw [List.any_append, mild, calm]
        exact .inl ⟨rfl, allBlank⟩
      · refine .inr ⟨(scan first rest).misreadings (place.pastAll gap) first rest ++ earlier,
          misreading, ?_, ?_, before, construct, start, split, allBlank, opens, ?_⟩
        · rw [reported, List.append_assoc]
        · rw [List.any_append, mild, calm]
          rfl
        · rw [there, reached]

/-- A finished reader reads the same end of input again and again. -/
theorem take_finished (reader : Reader) (done : reader.finished = true) (count : Nat) :
    reader.take count = List.replicate count (Reader.endToken reader.cursor, reader) := by
  induction count with
  | zero => rfl
  | succ count ih =>
      have step : reader.next = (Reader.endToken reader.cursor, reader) := by
        rw [Reader.next, if_pos done]
      rw [Reader.take, step, ih, List.replicate_succ]

/-- Reading token by token gives the tokens of the cut, and then only the end of input. -/
theorem Cut.take {place : Location} {glyphs : List Glyph} {segments : List Segment}
    {tail : List Glyph} {found : List Misreading} (cut : Cut place glyphs segments tail found)
    (misreadings : Array Misreading) :
    ∃ steps final reader, tokensFrom place tail segments = steps.map Prod.fst ++ [final] ∧
      reader.misreadings = misreadings ++ found.toArray ∧
      ∀ more, (Reader.mk ⟨glyphs, place⟩ false misreadings).take (steps.length + 1 + more) =
        steps ++ List.replicate (more + 1) (final, reader) := by
  induction cut generalizing misreadings with
  | @finished place tail blank =>
      refine ⟨[], _, ⟨⟨[], place.pastAll tail⟩, true, misreadings⟩, rfl, by simp, fun more => ?_⟩
      rw [List.length_nil, Nat.zero_add, Nat.add_comm, Reader.take,
        Reader.next_finished _ _ _ blank, take_finished _ rfl, List.replicate_succ]
      rfl
  | @opened place gap first rest blank solid found =>
      refine ⟨[], _, ⟨⟨[], place.pastAll (gap ++ first :: rest)⟩, true, _⟩, rfl, rfl,
        fun more => ?_⟩
      rw [List.length_nil, Nat.zero_add, Nat.add_comm, Reader.take,
        Reader.next_opened _ _ _ _ _ blank solid found, take_finished _ rfl, List.replicate_succ]
      rfl
  | @segment place gap first rest kind length segments tail later blank solid found _ ih =>
      have step := Reader.next_segment place misreadings gap first rest kind length blank solid found
      obtain ⟨steps, final, reader, tokens, reported, taken⟩ := ih (misreadings ++
        ((scan first rest).misreadings (place.pastAll gap) first rest).toArray)
      refine ⟨Reader.next ⟨⟨gap ++ first :: rest, place⟩, false, misreadings⟩ :: steps, final, reader,
        ?_, ?_, fun more => ?_⟩
      · rw [tokensFrom, tokens, step]
        rfl
      · rw [reported]
        simp
      · rw [List.length_cons, Nat.add_right_comm _ 1 more, Reader.take, step, Nat.add_right_comm _ 1 more,
          Nat.add_right_comm, taken]
        rfl

/-- An entry with its text is the token that was read. -/
theorem Placed.materialize {source : Bytes} {place : Int × Token} {before gap lexeme after : List Glyph}
    (placed : Placed source place before gap lexeme after) (entries : Array Entry) :
    Buffer.materialize ⟨source, entries⟩ place.2.entry = .ok place.2 := by
  obtain ⟨whole, previous, start, stop, text⟩ := placed
  have sliced := slice_between whole start stop
  rw [← text] at sliced
  rw [Buffer.materialize]
  change (Span.slice place.2.span source).map _ = _
  rw [sliced]
  rfl

/-- The bytes between two locations are those of the glyphs between them. -/
theorem extract_gap (source : Bytes) (place : Location) (before gap after : List Glyph)
    (whole : source.glyphs = before ++ gap ++ after) (here : place.offset = byteCount before) :
    source.extract place.offset.toNat (place.pastAll gap).offset.toNat = glyphBytes gap := by
  rw [Location.offset_pastAll, here, ← Int.natCast_add, ← byteCount_append, Int.toNat_natCast,
    Int.toNat_natCast, extract_glyphs source before gap after whole]

/-- The gaps and the tokens of a cut make up its glyphs. -/
theorem Cut.concatenation {source : Bytes} {place : Location} {glyphs : List Glyph}
    {segments : List Segment} {tail : List Glyph} {misreadings : List Misreading}
    (cut : Cut place glyphs segments tail misreadings) (before : List Glyph)
    (whole : source.glyphs = before ++ glyphs) (here : place.offset = byteCount before) :
    ((placesFrom place.offset (tokensFrom place tail segments)).flatMap fun found =>
      (source.extract found.1.toNat found.2.span.start.offset.toNat ++ found.2.lexeme).toList) =
      glyphs.flatMap Glyph.bytes := by
  induction cut generalizing before with
  | @finished place tail blank =>
      have gap := extract_gap source place before tail [] (by simpa using whole) here
      rw [tokensFrom, placesFrom, placesFrom, List.flatMap_singleton]
      change (source.extract _ (place.pastAll tail).offset.toNat ++ #[]).toList = _
      rw [gap, Array.append_empty, glyphBytes]
  | @opened place gap first rest blank solid found =>
      have tail := extract_gap source place before (gap ++ first :: rest) [] (by simpa using whole) here
      rw [tokensFrom, placesFrom, placesFrom, List.flatMap_singleton]
      change (source.extract _ (place.pastAll (gap ++ first :: rest)).offset.toNat ++ #[]).toList = _
      rw [tail, Array.append_empty, glyphBytes]
  | @segment place gap first rest kind length segments tail misreadings blank solid token later ih =>
      have stop := Segment.after_offset ⟨gap, kind, (first :: rest).take length⟩ place before here
      have start := extract_gap source place before gap (first :: rest) (by simpa using whole) here
      have tokenBytes : (glyphBytes gap ++ glyphBytes ((first :: rest).take length)).toList ++
          ((first :: rest).drop length).flatMap Glyph.bytes =
          (gap ++ first :: rest).flatMap Glyph.bytes := by
        rw [Array.toList_append, glyphBytes, glyphBytes, List.append_assoc, ← List.flatMap_append,
          List.take_append_drop, ← List.flatMap_append]
      rw [tokensFrom, placesFrom, List.flatMap_cons, ← tokenBytes]
      simp only [Segment.token, start]
      rw [ih _ (glyphs_split length whole) stop]

/-- From one offset of a text to another there are only blanks. -/
def BlankBetween (source : Bytes) (stop start : Int) : Prop :=
  ∃ blanks rest, Bytes.glyphs (source.extract stop.toNat source.size) = blanks ++ rest ∧
    AllBlank blanks ∧ source.extract stop.toNat start.toNat = glyphBytes blanks

/-- From an offset of a text to its end there are blanks, and then a string or a comment that does
not end, opened where the misreading says. -/
def OpenAfter (source : Bytes) (stop : Int) (misreading : Misreading) : Prop :=
  ∃ blanks construct start,
    Bytes.glyphs (source.extract stop.toNat source.size) = blanks ++ construct ∧ AllBlank blanks ∧
      misreading.Opens start construct ∧ start.offset = stop + byteCount blanks

/-- The tokens of a lossless reading cover the text up to blanks between them. -/
structure Lossless (source : Bytes) (reading : Reading) (tokens : List Token) : Prop where
  /-- The only end of input is the last token, and it is empty and at the end of the text. -/
  ends : ∃ earlier place, tokens = earlier ++ [⟨.endOfInput, #[], ⟨place, place⟩⟩] ∧
    place.offset = (source.size : Int) ∧ ∀ token ∈ earlier, token.kind ≠ .endOfInput
  /-- No other token is empty. -/
  proper : ∀ token ∈ tokens, token.kind ≠ .endOfInput →
    token.span.start.offset < token.span.stop.offset
  /-- No token starts before the one before it ends. -/
  ordered : ∀ place ∈ placesFrom 0 tokens, place.1 ≤ place.2.span.start.offset
  /-- Only blanks stand between tokens. -/
  blank : ∀ place ∈ placesFrom 0 tokens, place.2.kind ≠ .endOfInput ∨ reading.isFatal = false →
    BlankBetween source place.1 place.2.span.start.offset
  /-- A fatal reading ends inside of a string or a comment, and its last misreading says so. -/
  fatal : reading.isFatal = true → ∃ earlier misreading,
    reading.misreadings = earlier ++ [misreading] ∧ earlier.any Misreading.isFatal = false ∧
      ∀ place ∈ placesFrom 0 tokens, place.2.kind = .endOfInput →
        OpenAfter source place.1 misreading
  /-- The texts between and in the tokens make up the whole text. -/
  whole : ((placesFrom 0 tokens).flatMap fun place =>
    (source.extract place.1.toNat place.2.span.start.offset.toNat ++ place.2.lexeme).toList) =
    source.toList

/-- The last token is the only end of input. -/
theorem tokensFrom_ends (place : Location) (tail : List Glyph) (segments : List Segment)
    (proper : ∀ segment ∈ segments, segment.kind ≠ .endOfInput) :
    ∃ earlier last, tokensFrom place tail segments =
      earlier ++ [⟨.endOfInput, #[], ⟨last, last⟩⟩] ∧ ∀ token ∈ earlier, token.kind ≠ .endOfInput := by
  induction segments generalizing place with
  | nil => exact ⟨[], place.pastAll tail, rfl, by simp⟩
  | cons segment segments ih =>
      obtain ⟨earlier, last, tokens, others⟩ :=
        ih (segment.after place) fun other member => proper other (List.mem_cons_of_mem _ member)
      refine ⟨segment.token place :: earlier, last, by rw [tokensFrom, tokens]; rfl, ?_⟩
      intro token member
      rcases List.mem_cons.1 member with first | later
      · rw [first]
        exact proper segment List.mem_cons_self
      · exact others token later

/-- Every token has a place behind the one before it. -/
theorem mem_placesFrom (stop : Int) (tokens : List Token) (token : Token) (member : token ∈ tokens) :
    ∃ previous, (previous, token) ∈ placesFrom stop tokens := by
  induction tokens generalizing stop with
  | nil => cases member
  | cons first tokens ih =>
      rcases List.mem_cons.1 member with same | later
      · exact ⟨stop, by simp [placesFrom, same]⟩
      · obtain ⟨previous, found⟩ := ih first.span.stop.offset later
        exact ⟨previous, by simp [placesFrom, found]⟩

/-- No segment is the end of input. -/
theorem Cut.proper {place : Location} {glyphs : List Glyph} {segments : List Segment}
    {tail : List Glyph} {misreadings : List Misreading}
    (cut : Cut place glyphs segments tail misreadings) (segment : Segment)
    (member : segment ∈ segments) : segment.kind ≠ .endOfInput := by
  induction cut with
  | finished => cases member
  | opened => cases member
  | segment blank solid found later ih =>
      obtain ⟨_, _, proper⟩ := scan_fits _ _ _ _ found
      rcases List.mem_cons.1 member with first | later
      · rw [first]
        exact proper
      · exact ih later

theorem size_eq_byteCount (source : Bytes) : source.size = byteCount source.glyphs := by
  conv_lhs => rw [← glyphBytes_glyphs source]
  simp [glyphBytes, byteCount]

/-- There are only blanks before a placed token. -/
theorem Placed.blankBetween {source : Bytes} {place : Int × Token} {before gap lexeme after : List Glyph}
    (placed : Placed source place before gap lexeme after) (blank : AllBlank gap) :
    BlankBetween source place.1 place.2.span.start.offset := by
  refine ⟨gap, lexeme ++ after, ?_, blank, ?_⟩
  · rw [placed.previous, Int.toNat_natCast]
    exact glyphs_extract source before _ (by simp [placed.whole])
  · rw [placed.previous, placed.start, Int.toNat_natCast, Int.toNat_natCast]
    exact extract_glyphs source before gap (lexeme ++ after) (by simp [placed.whole])

/-- What does not end is open after the last token, behind the blanks before it. -/
theorem Placed.openAfter {source : Bytes} {place : Int × Token} {before gap construct : List Glyph}
    {misreading : Misreading} {start : Location}
    (placed : Placed source place before (gap ++ construct) [] []) (blank : AllBlank gap)
    (opens : misreading.Opens start construct)
    (reached : start.offset + byteCount construct = byteCount source.glyphs) :
    OpenAfter source place.1 misreading := by
  refine ⟨gap, construct, start, ?_, blank, opens, ?_⟩
  · rw [placed.previous, Int.toNat_natCast]
    exact glyphs_extract source before _ (by simp [placed.whole])
  · have whole := congrArg byteCount placed.whole
    rw [List.append_nil, List.append_nil, byteCount_append, byteCount_append] at whole
    rw [placed.previous]
    omega

/-- What is placed last ends with the text. -/
theorem Placed.stop_size {source : Bytes} {place : Int × Token} {before tail : List Glyph}
    (placed : Placed source place before tail [] []) : place.2.span.stop.offset = (source.size : Int) := by
  have whole := placed.whole
  rw [List.append_nil] at whole
  rw [placed.stop, ← whole, ← size_eq_byteCount]

/-- A text is read without a loss as its cut says. -/
theorem Cut.lossless {source : Bytes} {segments : List Segment} {tail : List Glyph}
    {misreadings : List Misreading} (cut : Cut .start source.glyphs segments tail misreadings) :
    Lossless source (Reading.ofBytes source) (tokensFrom .start tail segments) := by
  have placed := cut.placed [] rfl rfl
  have reported : (Reading.ofBytes source).misreadings = misreadings := by rw [cut.reading]
  have isFatal : (Reading.ofBytes source).isFatal = misreadings.any Misreading.isFatal := by
    rw [Reading.isFatal, reported]
  constructor
  case ends =>
    obtain ⟨earlier, last, tokens, others⟩ := tokensFrom_ends .start tail segments cut.proper
    refine ⟨earlier, last, tokens, ?_, others⟩
    obtain ⟨previous, member⟩ := mem_placesFrom 0 (tokensFrom .start tail segments)
      ⟨.endOfInput, #[], ⟨last, last⟩⟩ (by simp [tokens])
    rcases placed _ member with ⟨_, _, _, _, _, _, _, impossible⟩ | ⟨before, found, _⟩
    · exact absurd rfl impossible
    · exact found.stop_size
  case proper =>
    intro token member kind
    obtain ⟨previous, found⟩ := mem_placesFrom 0 _ token member
    rcases placed _ found with ⟨before, gap, lexeme, after, found, _, some, _⟩ | ⟨_, _, impossible⟩
    · have inside : lexeme ⊆ source.glyphs := by
        intro glyph member
        rw [found.whole]
        simp [member]
      have positive := byteCount_pos source lexeme inside some
      rw [found.start, found.stop, byteCount_append (before ++ gap)]
      omega
    · exact absurd impossible kind
  case ordered =>
    intro place member
    rcases placed _ member with ⟨before, gap, lexeme, after, found, _⟩ | ⟨before, found, _⟩
    all_goals
      rw [found.previous, found.start, byteCount_append]
      omega
  case blank =>
    intro place member which
    rcases placed _ member with ⟨before, gap, lexeme, after, found, blank, _⟩ | ⟨before, found, kind⟩
    · exact found.blankBetween blank
    · rcases which with impossible | calm
      · exact absurd kind impossible
      -- What is left at the end is blank unless a fatal misreading opened it, and there is none here.
      · rw [isFatal] at calm
        rcases cut.tail with ⟨_, blank⟩ | ⟨_, _, last, _, _, _, _, _, _, opens, _⟩
        · exact found.blankBetween blank
        · rw [last, List.any_append, List.any_cons, opens.isFatal, Bool.true_or, Bool.or_true] at calm
          cases calm
  case fatal =>
    intro fatal
    rw [isFatal] at fatal
    rcases cut.tail with ⟨calm, _⟩ | ⟨earlier, misreading, last, mild, gap, construct, start, split,
      blank, opens, reached⟩
    · rw [fatal] at calm
      cases calm
    · refine ⟨earlier, misreading, by rw [reported, last], mild, fun place member kind => ?_⟩
      rcases placed _ member with ⟨_, _, _, _, _, _, _, impossible⟩ | ⟨before, found, _⟩
      · exact absurd kind impossible
      · change start.offset + _ = 0 + _ at reached
        rw [Int.zero_add] at reached
        rw [split] at found
        exact found.openAfter blank opens reached
  case whole =>
    have concatenation := cut.concatenation [] rfl rfl
    exact concatenation.trans (Utf8.read_bytes source.toList)

/-- Tokens in order do not overlap. -/
theorem pairwise_ordered {stop : Int} {tokens : List Token}
    (ordered : ∀ place ∈ placesFrom stop tokens, place.1 ≤ place.2.span.start.offset)
    (forward : ∀ token ∈ tokens, token.span.start.offset ≤ token.span.stop.offset) :
    (∀ token ∈ tokens, stop ≤ token.span.start.offset) ∧
      tokens.Pairwise fun first second => first.span.stop.offset ≤ second.span.start.offset := by
  induction tokens generalizing stop with
  | nil => exact ⟨by simp, .nil⟩
  | cons token tokens ih =>
      obtain ⟨first, later⟩ := List.forall_mem_cons.1 ordered
      obtain ⟨here, there⟩ := List.forall_mem_cons.1 forward
      obtain ⟨behind, pairs⟩ := ih later there
      exact ⟨List.forall_mem_cons.2 ⟨first, fun other member =>
        Int.le_trans first (Int.le_trans here (behind other member))⟩, .cons behind pairs⟩

/-- Each token of a text starts behind the tokens before it. -/
theorem Lossless.pairwise {source : Bytes} {reading : Reading} {tokens : List Token}
    (lossless : Lossless source reading tokens) :
    tokens.Pairwise fun first second => first.span.stop.offset ≤ second.span.start.offset := by
  obtain ⟨earlier, place, rfl, _, others⟩ := lossless.ends
  refine (pairwise_ordered lossless.ordered fun token member => ?_).2
  rcases List.mem_append.1 member with inside | final
  · exact Int.le_of_lt (lossless.proper token member (others token inside))
  · obtain rfl := List.mem_singleton.1 final
    exact Int.le_refl _

/-- No two tokens of a text share a span. -/
theorem Lossless.spans_nodup {source : Bytes} {reading : Reading} {tokens : List Token}
    (lossless : Lossless source reading tokens) : (tokens.map Token.span).Nodup := by
  have pairs := lossless.pairwise
  obtain ⟨earlier, place, rfl, _, others⟩ := lossless.ends
  have differ {first second : Token} (inside : first ∈ earlier)
      (before : first.span.stop.offset ≤ second.span.start.offset) : first.span ≠ second.span := by
    intro same
    have positive := lossless.proper first (List.mem_append_left _ inside) (others first inside)
    rw [← same] at before
    omega
  obtain ⟨among, _, across⟩ := List.pairwise_append.1 pairs
  refine List.pairwise_map.2 (List.pairwise_append.2
    ⟨among.imp_of_mem fun inside _ before => differ inside before, List.pairwise_singleton _ _,
      fun first inside second final => differ inside (across first inside second final)⟩)

/-- When each of the items has its result, all of them are found. -/
theorem mapM_found {A B : Type} {f : A → Except Fault B} (part : A → B) (items : List A)
    (found : ∀ item ∈ items, f item = .ok (part item)) : items.mapM f = .ok (items.map part) := by
  induction items with
  | nil => rfl
  | cons item items ih =>
      have later := ih fun other member => found other (List.mem_cons_of_mem _ member)
      rw [List.mapM_cons, found item List.mem_cons_self, later]
      rfl

/-- The buffer of a reading holds the tokens of the cut. -/
theorem Cut.tokens {source : Bytes} {segments : List Segment} {tail : List Glyph}
    {misreadings : List Misreading} (cut : Cut .start source.glyphs segments tail misreadings) :
    (Reading.ofBytes source).buffer.tokens = .ok (tokensFrom .start tail segments) := by
  rw [cut.reading, Buffer.tokens, List.mapM_map]
  refine (mapM_found id _ ?_).trans (congrArg _ (List.map_id _))
  intro token member
  obtain ⟨previous, found⟩ := mem_placesFrom 0 _ token member
  rcases cut.placed [] rfl rfl _ found with ⟨_, _, _, _, placed, _⟩ | ⟨_, placed, _⟩
  all_goals exact placed.materialize _

/-- Reading a text loses no byte of it. The tokens are those that are read one after the other, and
then there is only the end of input. -/
theorem reading_lossless (source : Bytes) :
    ∃ tokens, (Reading.ofBytes source).buffer.tokens = .ok tokens ∧
      Lossless source (Reading.ofBytes source) tokens ∧
      ∃ steps final reader, tokens = steps.map Prod.fst ++ [final] ∧
        reader.misreadings.toList = (Reading.ofBytes source).misreadings ∧
        ∀ more, (Reader.ofBytes source).take (steps.length + 1 + more) =
          steps ++ List.replicate (more + 1) (final, reader) := by
  obtain ⟨segments, tail, misreadings, cut⟩ := exists_cut .start source.glyphs
  obtain ⟨steps, final, reader, tokens, reported, taken⟩ := cut.take #[]
  refine ⟨tokensFrom .start tail segments, cut.tokens, cut.lossless, steps, final, reader, tokens, ?_,
    taken⟩
  rw [reported, cut.reading]
  simp

end Reckon
