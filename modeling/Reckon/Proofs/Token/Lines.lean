/-
This file shows that a text can be read line by line: what stands before a newline and what stands after
it are read as they would be alone, unless the newline is inside of a string or a block comment.
-/

import Reckon.Proofs.Token.Lossless
import Reckon.Report

namespace Reckon

open Text Lexeme

namespace Lexeme

/-- A string that ends does not go on behind its end. -/
theorem stringEnd?_append {passed length : Nat} {glyphs : List Glyph} (more : List Glyph)
    (found : stringEnd? passed glyphs = some length) :
    stringEnd? passed (glyphs ++ more) = some length := by
  fun_induction stringEnd? passed glyphs with
  | case1 => cases found
  | case2 passed first rest quote =>
      rw [List.cons_append, stringEnd?.eq_def]
      simp only [quote, if_true, found]
  | case3 passed first notQuote slash second rest quote ih =>
      rw [List.cons_append, List.cons_append, stringEnd?.eq_def]
      simp only [notQuote, slash, quote, Bool.false_eq_true, if_true, if_false, ih found]
  | case4 passed first notQuote slash second rest notQuote' ih =>
      rw [List.cons_append, List.cons_append, stringEnd?.eq_def]
      rw [List.cons_append] at ih
      simp only [notQuote, slash, notQuote', Bool.false_eq_true, if_true, if_false, ih found]
  | case5 => cases found
  | case6 passed first rest notQuote notSlash ih =>
      rw [List.cons_append, stringEnd?.eq_def]
      simp only [notQuote, notSlash, Bool.false_eq_true, if_false, ih found]

/-- A block comment that ends does not go on behind its end. -/
theorem commentEnd?_append {passed depth length : Nat} {glyphs : List Glyph} (more : List Glyph)
    (found : commentEnd? passed depth glyphs = some length) :
    commentEnd? passed depth (glyphs ++ more) = some length := by
  fun_induction commentEnd? passed depth glyphs with
  | case1 => cases found
  | case2 => cases found
  | case3 passed depth first second rest opens ih =>
      rw [List.cons_append, List.cons_append, commentEnd?.eq_def]
      simp only [opens, if_true, ih found]
  | case4 passed first second rest notOpens closes =>
      rw [List.cons_append, List.cons_append, commentEnd?.eq_def]
      simp only [notOpens, closes, Bool.false_eq_true, if_true, if_false, found]
  | case5 passed first second rest notOpens closes depth ih =>
      rw [List.cons_append, List.cons_append, commentEnd?.eq_def]
      simp only [notOpens, closes, Bool.false_eq_true, if_true, if_false, ih found]
  | case6 passed depth first second rest notOpens notCloses ih =>
      rw [List.cons_append, List.cons_append, commentEnd?.eq_def]
      rw [List.cons_append] at ih
      simp only [notOpens, notCloses, Bool.false_eq_true, if_false, ih found]

/-- A run ends before a newline when its class has none. -/
theorem run_newline {inClass : Char → Bool} (outside : inClass '\n' = false) (glyphs more : List Glyph) :
    run inClass (glyphs ++ glyphOf '\n' :: more) = run inClass glyphs := by
  induction glyphs with
  | nil => simp [run, outside]
  | cons glyph glyphs ih =>
      simp only [run, List.cons_append, List.takeWhile_cons] at ih ⊢
      split
      · rw [List.length_cons, List.length_cons, ih]
      · rfl

/-- A number ends before a newline, also directly after an exponent mark. -/
theorem numberEnd_newline (passed : Nat) (glyphs more : List Glyph) :
    numberEnd passed (glyphs ++ glyphOf '\n' :: more) = numberEnd passed glyphs := by
  have digit : (isDecimalDigit (glyphOf '\n').character || (glyphOf '\n').is '.') = false := by decide
  have mark : isExponentMark (glyphOf '\n').character = false := by decide
  have sign : isSign (glyphOf '\n').character = false := by decide
  have stops (passed : Nat) : numberEnd passed (glyphOf '\n' :: more) = passed := by
    rw [numberEnd.eq_def]
    simp only [digit, mark, Bool.false_eq_true, if_false]
  fun_induction numberEnd passed glyphs with
  | case1 passed => exact stops passed
  | case2 passed first rest isDigit ih =>
      rw [List.cons_append, numberEnd.eq_def]
      simp only [isDigit, if_true, ih]
  | case3 passed first notDigit isMark second rest isSign ih =>
      rw [List.cons_append, List.cons_append, numberEnd.eq_def]
      simp only [notDigit, isMark, isSign, Bool.false_eq_true, if_true, if_false, ih]
  | case4 passed first notDigit isMark second rest notSign ih =>
      rw [List.cons_append, List.cons_append, numberEnd.eq_def]
      rw [List.cons_append] at ih
      simp only [notDigit, isMark, notSign, Bool.false_eq_true, if_true, if_false, ih]
  | case5 passed first notDigit isMark =>
      rw [List.cons_append, List.nil_append, numberEnd.eq_def]
      simp only [notDigit, isMark, sign, Bool.false_eq_true, if_true, if_false, stops]
  | case6 passed first rest notDigit notMark =>
      rw [List.cons_append, numberEnd.eq_def]
      simp only [notDigit, notMark, Bool.false_eq_true, if_false]

/-- What a dash starts before a newline does not depend on what comes after it. -/
theorem scanDash_newline {rest : List Glyph} (more : List Glyph)
    (found : (scanDash rest).token? ≠ none) :
    scanDash (rest ++ glyphOf '\n' :: more) = scanDash rest := by
  cases rest with
  | nil => rfl
  | cons second body =>
      rw [List.cons_append, scanDash, scanDash]
      by_cases line : second.is '-' = true
      · rw [if_pos line, if_pos line, ← List.cons_append, run_newline (by decide)]
      · rw [if_neg line, if_neg line]
        by_cases block : second.is '\x7b' = true
        · rw [scanDash, if_neg line, if_pos block] at found
          rw [if_pos block, if_pos block]
          cases ends : commentEnd? 2 0 body with
          | none =>
              rw [ends] at found
              exact absurd rfl found
          | some length => rw [commentEnd?_append _ ends]
        · rw [if_neg block, if_neg block]

/-- A string that closes before a newline does not depend on what comes after it. -/
theorem scanString_newline {rest : List Glyph} (more : List Glyph)
    (found : (scanString rest).token? ≠ none) :
    scanString (rest ++ glyphOf '\n' :: more) = scanString rest := by
  rw [scanString, scanString]
  rw [scanString] at found
  cases ends : stringEnd? 1 rest with
  | none =>
      rw [ends] at found
      exact absurd rfl found
  | some length => rw [stringEnd?_append _ ends]

/-- A word ends before a newline. -/
theorem scanWord_newline (first : Glyph) (rest more : List Glyph) :
    scanWord first (rest ++ glyphOf '\n' :: more) = scanWord first rest := by
  have inside := run_le continuesName rest
  simp only [scanWord, run_newline (show continuesName '\n' = false by decide +kernel),
    List.take_append_of_le_length inside]

/-- A numeral with a radix mark ends before a newline. -/
theorem scanRadix_newline {isRadixDigit : Char → Bool} (outside : isRadixDigit '\n' = false)
    (digits more : List Glyph) :
    scanRadix isRadixDigit (digits ++ glyphOf '\n' :: more) = scanRadix isRadixDigit digits := by
  rw [scanRadix, scanRadix, run_newline outside]

/-- A decimal numeral ends before a newline. -/
theorem scanDecimal_newline (rest more : List Glyph) :
    scanDecimal (rest ++ glyphOf '\n' :: more) = scanDecimal rest := by
  have inside := (numberEnd_bounds 1 rest).2
  simp only [scanDecimal, numberEnd_newline]
  rw [List.take_append_of_le_length (by omega)]

/-- A numeral ends before a newline. -/
theorem scanNumber_newline (first : Glyph) (rest more : List Glyph) :
    scanNumber first (rest ++ glyphOf '\n' :: more) = scanNumber first rest := by
  cases rest with
  | nil =>
      have binary : (glyphOf '\n').is 'b' = false := by decide
      have hexadecimal : (glyphOf '\n').is 'x' = false := by decide
      rw [List.nil_append, scanNumber, scanNumber, binary, hexadecimal, Bool.and_false,
        ← List.nil_append (_ :: _), scanDecimal_newline]
      rfl
  | cons second digits =>
      rw [List.cons_append, scanNumber, scanNumber, scanRadix_newline (by decide),
        scanRadix_newline (by decide), ← List.cons_append, scanDecimal_newline]

/-- Only a string and a block comment go on behind a newline. -/
theorem scan_newline {first : Glyph} {rest : List Glyph} (more : List Glyph)
    (found : (scan first rest).token? ≠ none) :
    scan first (rest ++ glyphOf '\n' :: more) = scan first rest := by
  rw [scan] at found
  rw [scan, scan, scanWord_newline, scanNumber_newline]
  by_cases dash : first.is '-' = true
  · rw [if_pos dash] at found
    rw [if_pos dash, if_pos dash, scanDash_newline more found]
  · rw [if_neg dash] at found
    rw [if_neg dash, if_neg dash]
    by_cases quote : first.is '"' = true
    · rw [if_pos quote] at found
      rw [if_pos quote, if_pos quote, scanString_newline more found]
    · rw [if_neg quote, if_neg quote]

/-- A token before a newline does not change with what stands behind the newline. -/
theorem scan_token_newline {first : Glyph} {rest : List Glyph} {kind : Kind} {length : Nat}
    (more : List Glyph) (found : (scan first rest).token? = some (kind, length)) :
    scan first (rest ++ glyphOf '\n' :: more) = scan first rest ∧
      (first :: (rest ++ glyphOf '\n' :: more)).take length = (first :: rest).take length ∧
      (first :: (rest ++ glyphOf '\n' :: more)).drop length =
        (first :: rest).drop length ++ glyphOf '\n' :: more := by
  obtain ⟨_, inside, _⟩ := scan_fits first rest kind length found
  refine ⟨scan_newline more (by rw [found]; exact Option.some_ne_none _), ?_, ?_⟩
  · rw [← List.cons_append, List.take_append_of_le_length inside]
  · rw [← List.cons_append, List.drop_append_of_le_length inside]

/-- A misreading shows no more than the token of the scan. -/
theorem misreadings_append (place : Location) (first : Glyph) (rest more : List Glyph) :
    (scan first rest).misreadings place first (rest ++ more) =
      (scan first rest).misreadings place first rest := by
  have fits := scan_fits first rest
  cases found : scan first rest with
  | malformed length =>
      rw [found] at fits
      obtain ⟨_, inside, _⟩ := fits _ _ rfl
      rw [Scan.misreadings, Scan.misreadings, ← List.cons_append, List.take_append_of_le_length inside]
  | lexeme | unexpected | unterminatedString | unterminatedComment => rfl

end Lexeme
/-- This is the same place in a text with more bytes and more lines before it. -/
def Location.shifted (bytes lines : Int) (place : Location) : Location :=
  ⟨place.offset + bytes, place.line + lines, place.column⟩

def Span.shifted (bytes lines : Int) (span : Span) : Span :=
  ⟨span.start.shifted bytes lines, span.stop.shifted bytes lines⟩

def Token.shifted (bytes lines : Int) (token : Token) : Token :=
  { token with span := token.span.shifted bytes lines }

def Misreading.shifted (bytes lines : Int) : Misreading → Misreading
  | unexpectedCharacter place character => unexpectedCharacter (place.shifted bytes lines) character
  | malformedLiteral place lexeme => malformedLiteral (place.shifted bytes lines) lexeme
  | unterminatedString place => unterminatedString (place.shifted bytes lines)
  | unterminatedComment place => unterminatedComment (place.shifted bytes lines)

/-- A misreading is the only cause of a reading that has a place. -/
def Cause.shifted (bytes lines : Int) : Cause → Cause
  | misread misreading => misread (misreading.shifted bytes lines)
  | cause => cause

section Shift

variable {bytes lines : Int} {place : Location}

/-- A glyph moves a shifted location as it moves the location. -/
theorem Location.shifted_past (glyph : Glyph) :
    (place.shifted bytes lines).past glyph = (place.past glyph).shifted bytes lines := by
  unfold past shifted
  split
  · simp only [mk.injEq, and_true]
    omega
  · simp only [mk.injEq, and_true]
    omega

/-- Glyphs move a shifted location as they move the location. -/
theorem Location.shifted_pastAll (glyphs : List Glyph) :
    (place.shifted bytes lines).pastAll glyphs = (place.pastAll glyphs).shifted bytes lines := by
  induction glyphs generalizing place with
  | nil => rfl
  | cons glyph glyphs ih =>
      change ((place.shifted bytes lines).past glyph).pastAll glyphs = _
      rw [shifted_past, ih]
      rfl

theorem Segment.after_shifted (segment : Segment) :
    segment.after (place.shifted bytes lines) = (segment.after place).shifted bytes lines := by
  rw [after, Location.shifted_pastAll, Location.shifted_pastAll, after]

/-- The tokens of shifted segments are shifted. -/
theorem tokensFrom_shifted (tail : List Glyph) (segments : List Segment) :
    tokensFrom (place.shifted bytes lines) tail segments =
      (tokensFrom place tail segments).map (Token.shifted bytes lines) := by
  induction segments generalizing place with
  | nil =>
      rw [tokensFrom, Location.shifted_pastAll]
      rfl
  | cons segment segments ih =>
      rw [tokensFrom, Segment.after_shifted, ih, tokensFrom, List.map_cons, Segment.token,
        Location.shifted_pastAll, Segment.after_shifted]
      rfl

/-- The misreadings at a shifted location are shifted. -/
theorem scan_misreadings_shifted (scan : Scan) (first : Glyph) (rest : List Glyph) :
    scan.misreadings (place.shifted bytes lines) first rest =
      (scan.misreadings place first rest).map (Misreading.shifted bytes lines) := by
  cases scan <;> rfl

/-- A text that stands further down is cut in the same way. -/
theorem Cut.shifted {glyphs : List Glyph} {segments : List Segment} {tail : List Glyph}
    {misreadings : List Misreading} (cut : Cut place glyphs segments tail misreadings) :
    Cut (place.shifted bytes lines) glyphs segments tail
      (misreadings.map (Misreading.shifted bytes lines)) := by
  induction cut with
  | finished blank => exact .finished blank
  | opened blank solid found =>
      rw [← scan_misreadings_shifted, ← Location.shifted_pastAll]
      exact .opened blank solid found
  | segment blank solid found later ih =>
      rw [List.map_append, ← scan_misreadings_shifted, ← Location.shifted_pastAll]
      rw [← Segment.after_shifted] at ih
      exact .segment blank solid found ih

end Shift

/-- Blanks before a text do not matter to its cut. -/
theorem Cut.indented {place : Location} {gap glyphs : List Glyph} {segments : List Segment}
    {tail : List Glyph} {misreadings : List Misreading} (blank : AllBlank gap)
    (cut : Cut (place.pastAll gap) glyphs segments tail misreadings) :
    ∃ segments' tail', Cut place (gap ++ glyphs) segments' tail' misreadings ∧
      tokensFrom place tail' segments' = tokensFrom (place.pastAll gap) tail segments := by
  generalize here : place.pastAll gap = start at cut
  cases cut with
  | finished blank' =>
      refine ⟨[], gap ++ glyphs, .finished ?_, ?_⟩
      · exact List.forall_mem_append.2 ⟨blank, blank'⟩
      · rw [tokensFrom, tokensFrom, Location.pastAll_append, here]
  | @opened _ gap' first rest blank' solid found =>
      refine ⟨[], gap ++ (gap' ++ first :: rest), ?_, ?_⟩
      · rw [← List.append_assoc, ← here, ← Location.pastAll_append]
        exact .opened (List.forall_mem_append.2 ⟨blank, blank'⟩) solid found
      · rw [tokensFrom, tokensFrom, Location.pastAll_append, here]
  | @segment _ gap' first rest kind length segments _ misreadings blank' solid found later =>
      have same : Segment.after ⟨gap ++ gap', kind, (first :: rest).take length⟩ place =
          Segment.after ⟨gap', kind, (first :: rest).take length⟩ start := by
        rw [Segment.after, Location.pastAll_append, here, Segment.after]
      refine ⟨⟨gap ++ gap', kind, (first :: rest).take length⟩ :: segments, tail, ?_, ?_⟩
      · rw [← List.append_assoc, ← here, ← Location.pastAll_append]
        exact .segment (List.forall_mem_append.2 ⟨blank, blank'⟩) solid found (same ▸ later)
      · rw [tokensFrom, tokensFrom, same, Segment.token, same, Location.pastAll_append, here]
        rfl

/-- A text that ends outside of a token goes on with another one after a newline. -/
theorem Cut.newline {place : Location} {glyphs : List Glyph} {segments : List Segment}
    {tail : List Glyph} {misreadings : List Misreading}
    (cut : Cut place glyphs segments tail misreadings)
    (complete : misreadings.any Misreading.isFatal = false) {glyphs' : List Glyph}
    {segments' : List Segment} {tail' : List Glyph} {misreadings' : List Misreading}
    (later : Cut ((place.pastAll glyphs).past (glyphOf '\n')) glyphs' segments' tail' misreadings') :
    ∃ segments'' tail'' body final,
      Cut place (glyphs ++ glyphOf '\n' :: glyphs') segments'' tail'' (misreadings ++ misreadings') ∧
        tokensFrom place tail segments = body ++ [final] ∧ final.kind = .endOfInput ∧
        tokensFrom place tail'' segments'' =
          body ++ tokensFrom ((place.pastAll glyphs).past (glyphOf '\n')) tail' segments' := by
  induction cut with
  | @finished place tail blank =>
      have line : AllBlank (tail ++ [glyphOf '\n']) := by
        refine List.forall_mem_append.2 ⟨blank, ?_⟩
        simp only [List.forall_mem_singleton]
        decide
      have start : (place.pastAll tail).past (glyphOf '\n') = place.pastAll (tail ++ [glyphOf '\n']) := by
        rw [Location.pastAll_append]
        rfl
      rw [start] at later ⊢
      obtain ⟨segments'', tail'', whole, tokens⟩ := later.indented line
      rw [List.append_assoc] at whole
      exact ⟨segments'', tail'', [], _, whole, rfl, rfl, tokens⟩
  -- A construct that stays open is a fatal misreading, which the text does not have.
  | @opened place gap first rest blank solid found =>
      obtain ⟨misreading, same, opens⟩ := scan_opens (place.pastAll gap) first rest found
      rw [same, List.any_cons, opens.isFatal] at complete
      cases complete
  | @segment place gap first rest kind length segments tail misreadings blank solid found rested ih =>
      rw [List.any_append, Bool.or_eq_false_iff] at complete
      -- A token never looks past the newline, so it is scanned alike in the longer text.
      obtain ⟨scanned, front, back⟩ := scan_token_newline glyphs' found
      have reached : (Segment.after ⟨gap, kind, (first :: rest).take length⟩ place).pastAll
          ((first :: rest).drop length) = place.pastAll (gap ++ first :: rest) := by
        rw [Segment.after, ← Location.pastAll_append, List.take_append_drop, Location.pastAll_append]
      rw [reached] at ih
      obtain ⟨segments'', tail'', body, final, whole, tokens, ends, joined⟩ := ih complete.2 later
      refine ⟨⟨gap, kind, (first :: rest).take length⟩ :: segments'', tail'',
        Segment.token ⟨gap, kind, (first :: rest).take length⟩ place :: body, final, ?_, ?_, ends, ?_⟩
      · have reported := misreadings_append (place.pastAll gap) first rest (glyphOf '\n' :: glyphs')
        rw [← scanned] at reported found
        rw [← front, ← back] at whole
        rw [List.append_assoc, List.append_assoc, List.cons_append, ← scanned, ← reported, ← front]
        exact .segment blank solid found whole
      · rw [tokensFrom, tokens, List.cons_append]
      · rw [tokensFrom, joined, List.cons_append]

/-- These are the causes of what is reported about a reading. -/
def Reading.leaves (reading : Reading) : List (Cause × Option Span) :=
  reading.report?.elim [] Report.leaves

/-- Every misreading is a leaf of its report. -/
theorem Report.allLeavesIn_misread (misreadings : List Misreading) :
    allLeavesIn none (misreadings.map fun misreading => single (.misread misreading)) =
      misreadings.map fun misreading => (.misread misreading, none) := by
  induction misreadings with
  | nil => rfl
  | cons misreading misreadings ih =>
      rw [List.map_cons, allLeavesIn, ih]
      rfl

/-- A reading reports its misreadings in order. -/
theorem Reading.leaves_eq (reading : Reading) :
    reading.leaves = reading.misreadings.map fun misreading => (.misread misreading, none) := by
  rw [leaves, report?]
  cases reading.misreadings with
  | nil => rfl
  | cons misreading misreadings => exact Report.allLeavesIn_misread (misreading :: misreadings)

/-- The line counts the newlines that a location is past. -/
theorem Location.line_pastAll (place : Location) (glyphs : List Glyph) :
    (place.pastAll glyphs).line = place.line + (glyphs.countP fun glyph => glyph.is '\n' : Nat) := by
  induction glyphs generalizing place with
  | nil => simp [pastAll]
  | cons glyph glyphs ih =>
      change ((place.past glyph).pastAll glyphs).line = _
      rw [ih, List.countP_cons]
      unfold past
      split
      · push_cast
        omega
      · simp

/-- After a text and a newline, the next text starts further down. -/
theorem Location.start_newline (source : Bytes) :
    (Location.start.pastAll source.glyphs).past (glyphOf '\n') =
      Location.start.shifted (source.size + 1) (source.toList.count 0x0A + 1) := by
  have offset := Location.start.offset_pastAll source.glyphs
  have line := Location.start.line_pastAll source.glyphs
  rw [← size_eq_byteCount] at offset
  rw [show source.glyphs = Utf8.read source.toList from rfl, Utf8.count_newline] at line
  rw [past, if_pos (by decide), shifted]
  simp only [mk.injEq]
  refine ⟨?_, ?_, rfl⟩
  · rw [offset, Int.add_assoc]
    rfl
  · rw [show source.glyphs = Utf8.read source.toList from rfl, line, Int.add_assoc]

/-- A text that ends outside of a token is read by itself before a newline. What follows the newline is
read as it would be alone, at places further down. -/
theorem reading_joined (first second : Bytes) (complete : (Reading.ofBytes first).isFatal = false) :
    ∃ body final tokens,
      (Reading.ofBytes first).buffer.tokens = .ok (body ++ [final]) ∧ final.kind = .endOfInput ∧
      (Reading.ofBytes second).buffer.tokens = .ok tokens ∧
      let joined := Reading.ofBytes (first ++ #[0x0A] ++ second)
      let bytes : Int := first.size + 1
      let lines : Int := first.toList.count 0x0A + 1
      joined.buffer.tokens = .ok (body ++ tokens.map (Token.shifted bytes lines)) ∧
        joined.leaves = (Reading.ofBytes first).leaves ++ (Reading.ofBytes second).leaves.map fun leaf =>
          (leaf.1.shifted bytes lines, leaf.2.map (Span.shifted bytes lines)) := by
  obtain ⟨segments, tail, misreadings, cut⟩ := exists_cut .start first.glyphs
  obtain ⟨segments', tail', misreadings', cut'⟩ := exists_cut .start second.glyphs
  have reported : (Reading.ofBytes first).misreadings = misreadings := by rw [cut.reading]
  have reported' : (Reading.ofBytes second).misreadings = misreadings' := by rw [cut'.reading]
  rw [Reading.isFatal, reported] at complete
  have later := @Cut.shifted (first.size + 1) (first.toList.count 0x0A + 1) _ _ _ _ _ cut'
  rw [← Location.start_newline] at later
  obtain ⟨segments'', tail'', body, final, whole, tokens, ends, joined⟩ := cut.newline complete later
  have glyphs : (first ++ #[0x0A] ++ second).glyphs =
      first.glyphs ++ glyphOf '\n' :: second.glyphs := by
    have bytes : (first ++ #[0x0A] ++ second).toList = first.toList ++ 0x0A :: second.toList := by simp
    exact (congrArg Utf8.read bytes).trans (Utf8.read_newline _ _)
  rw [← glyphs] at whole
  refine ⟨body, final, tokensFrom .start tail' segments', ?_, ends, cut'.tokens, ?_, ?_⟩
  · rw [← tokens]
    exact cut.tokens
  · rw [whole.tokens, joined, Location.start_newline, tokensFrom_shifted]
  · rw [Reading.leaves_eq, Reading.leaves_eq, Reading.leaves_eq, whole.reading, reported, reported']
    simp only [List.map_append, List.map_map]
    rfl

/-- A radix mark without digits and the start of a longer character end at a newline. A string that stays
open after it is reported in its line. -/
theorem strayByte_joined : (Reading.ofBytes #[0x30, 0x78, 0xE2]).isFatal = false ∧
    (Reading.ofBytes #[0x30, 0x78, 0xE2, 0x0A, 0x22]).leaves =
      (Reading.ofBytes #[0x30, 0x78, 0xE2]).leaves ++
        [(.misread (.unterminatedString ⟨4, 2, 1⟩), none)] := by
  have complete : (Reading.ofBytes #[0x30, 0x78, 0xE2]).isFatal = false := by decide +kernel
  obtain ⟨_, _, _, _, _, _, _, leaves⟩ := reading_joined #[0x30, 0x78, 0xE2] #[0x22] complete
  exact ⟨complete, leaves⟩

end Reckon
