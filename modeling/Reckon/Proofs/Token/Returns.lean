/-
This file shows that carriage returns at the ends of lines, and the newline at the end of a text, matter to
no token but comments, as long as no string goes over the end of a line.
-/

import Reckon.Proofs.Token.Lines
import Reckon.Proofs.Token.Spelling

namespace Reckon

open Text Lexeme

/-- Glyphs are in a line when no newline is among them. -/
def InLine (glyphs : List Glyph) : Prop := ∀ glyph ∈ glyphs, glyph.is '\n' = false

/-- A glyph of a class that leaves the newline out is in a line. -/
theorem is_newline_of_class (inClass : Char → Bool) {glyph : Glyph} (outside : inClass '\n' = false)
    (inside : inClass glyph.character = true) : glyph.is '\n' = false := by
  rw [Glyph.is, beq_eq_false_iff_ne]
  intro same
  rw [same, outside] at inside
  cases inside

/-- A variant of a text may have carriage returns before newlines, and it may lack the last newline, or
have a carriage return in its place. -/
inductive LineVariant : List Glyph → List Glyph → Prop where
  | nil : LineVariant [] []
  | same (glyph : Glyph) {plain text : List Glyph} (later : LineVariant plain text) :
      LineVariant (glyph :: plain) (glyph :: text)
  | returned {plain text : List Glyph} (later : LineVariant plain text) :
      LineVariant (glyphOf '\n' :: plain) (glyphOf '\r' :: glyphOf '\n' :: text)
  | missing : LineVariant [glyphOf '\n'] []
  | bare : LineVariant [glyphOf '\n'] [glyphOf '\r']

namespace LineVariant

variable {first : Glyph} {gap front plain text : List Glyph}

/-- A variant changes no glyph but a newline. -/
theorem cons (inLine : first.is '\n' = false) (variant : LineVariant (first :: plain) text) :
    ∃ text', text = first :: text' ∧ LineVariant plain text' := by
  have newline : (glyphOf '\n').is '\n' = true := by decide
  cases variant with
  | same _ later => exact ⟨_, rfl, later⟩
  | returned | missing | bare =>
      rw [newline] at inLine
      cases inLine

/-- Two characters of a mark stay side by side. -/
theorem mark {one other : Char} {second : Glyph} (notNewline : ('\n' == one) = false)
    (notNewline' : ('\n' == other) = false) (marked : (first.is one && second.is other) = true)
    (variant : LineVariant (first :: second :: plain) text) :
    ∃ text', text = first :: second :: text' ∧ LineVariant plain text' := by
  obtain ⟨isOne, isOther⟩ := Bool.and_eq_true_iff.1 marked
  obtain ⟨text', rfl, variant'⟩ := variant.cons (is_newline_of_class (· == one) notNewline isOne)
  obtain ⟨text'', rfl, variant''⟩ := variant'.cons (is_newline_of_class (· == other) notNewline' isOther)
  exact ⟨text'', rfl, variant''⟩

/-- Nothing changes before the first newline. -/
theorem append (inLine : InLine front) (variant : LineVariant (front ++ plain) text) :
    ∃ text', text = front ++ text' ∧ LineVariant plain text' := by
  induction front generalizing text with
  | nil => exact ⟨text, rfl, variant⟩
  | cons glyph front ih =>
      obtain ⟨here, later⟩ := List.forall_mem_cons.1 inLine
      obtain ⟨text', rfl, variant'⟩ := variant.cons here
      obtain ⟨text'', rfl, variant''⟩ := ih later variant'
      exact ⟨text'', rfl, variant''⟩

/-- The same glyphs in front keep a variant. -/
theorem append_left (front : List Glyph) (variant : LineVariant plain text) :
    LineVariant (front ++ plain) (front ++ text) := by
  induction front with
  | nil => exact variant
  | cons glyph front ih => exact .same glyph ih

/-- Within a line a variant has the same glyphs, and it goes on as a variant behind them. -/
theorem take_drop {count : Nat} (inside : count ≤ plain.length) (inLine : InLine (plain.take count))
    (variant : LineVariant plain text) :
    text.take count = plain.take count ∧ LineVariant (plain.drop count) (text.drop count) := by
  rw [← List.take_append_drop count plain] at variant
  obtain ⟨text', rfl, variant'⟩ := variant.append inLine
  have length : (plain.take count).length = count := by
    rw [List.length_take]
    omega
  rw [List.take_left' length, List.drop_left' length]
  exact ⟨rfl, variant'⟩

/-- A variant of blanks is blank. -/
theorem blank (blank : AllBlank plain) (variant : LineVariant plain text) : AllBlank text := by
  have newline : isBlank (glyphOf '\n').character = true := by decide
  have return_ : isBlank (glyphOf '\r').character = true := by decide
  induction variant with
  | nil => exact blank
  | same glyph later ih =>
      obtain ⟨here, there⟩ := List.forall_mem_cons.1 blank
      exact List.forall_mem_cons.2 ⟨here, ih there⟩
  | returned later ih =>
      obtain ⟨_, there⟩ := List.forall_mem_cons.1 blank
      exact List.forall_mem_cons.2 ⟨return_, List.forall_mem_cons.2 ⟨newline, ih there⟩⟩
  | missing => exact List.forall_mem_nil _
  | bare => exact List.forall_mem_singleton.2 return_

/-- Blanks before a glyph stay blanks. -/
theorem split_blank (blank : AllBlank gap) (variant : LineVariant (gap ++ first :: plain) text) :
    ∃ gap' text', text = gap' ++ text' ∧ AllBlank gap' ∧ LineVariant (first :: plain) text' := by
  have newline : isBlank (glyphOf '\n').character = true := by decide
  have return_ : isBlank (glyphOf '\r').character = true := by decide
  induction gap generalizing text with
  | nil => exact ⟨[], text, rfl, blank, variant⟩
  | cons glyph gap ih =>
      obtain ⟨here, there⟩ := List.forall_mem_cons.1 blank
      rw [List.cons_append] at variant
      generalize whole : gap ++ first :: plain = rest at variant ih
      cases variant with
      | same _ later =>
          obtain ⟨gap', text', rfl, blank', later'⟩ := ih there later
          exact ⟨glyph :: gap', text', rfl, List.forall_mem_cons.2 ⟨here, blank'⟩, later'⟩
      | returned later =>
          obtain ⟨gap', text', rfl, blank', later'⟩ := ih there later
          refine ⟨glyphOf '\r' :: glyphOf '\n' :: gap', text', rfl, ?_, later'⟩
          exact List.forall_mem_cons.2 ⟨return_, List.forall_mem_cons.2 ⟨newline, blank'⟩⟩
      | missing | bare =>
          have some := congrArg List.length whole
          rw [List.length_append, List.length_cons, List.length_nil] at some
          omega

end LineVariant

namespace Lexeme

variable {plain text : List Glyph}

/-- A run that stops at the end of a line is as long in a variant. -/
theorem run_variant {inClass : Char → Bool} (newline : inClass '\n' = false)
    (return_ : inClass '\r' = false) (variant : LineVariant plain text) :
    run inClass text = run inClass plain := by
  induction variant with
  | nil => rfl
  | same glyph later ih =>
      simp only [run, List.takeWhile_cons] at ih ⊢
      split
      · rw [List.length_cons, List.length_cons, ih]
      · rfl
  | returned | missing | bare => simp [run, newline, return_]

/-- A line goes on up to the newline, and a carriage return before it belongs to it. -/
theorem drop_run_variant (variant : LineVariant plain text) :
    LineVariant (plain.drop (run (fun character => character != '\n') plain))
      (text.drop (run (fun character => character != '\n') text)) := by
  have newline : ((glyphOf '\n').character != '\n') = false := by decide
  have return_ : ((glyphOf '\r').character != '\n') = true := by decide
  induction variant with
  | nil => exact .nil
  | same glyph later ih =>
      simp only [run, List.takeWhile_cons] at ih ⊢
      split
      · exact ih
      · exact .same glyph later
  | returned later =>
      simp only [run, List.takeWhile_cons, newline, return_]
      exact .same _ later
  | missing | bare =>
      simp only [run, List.takeWhile_cons, List.takeWhile_nil, newline, return_]
      exact .missing

/-- An exponent mark without a sign is passed like a digit. -/
theorem numberEnd_mark {first : Glyph} {rest : List Glyph} (passed : Nat)
    (notDigit : (isDecimalDigit first.character || first.is '.') = false)
    (isMark : isExponentMark first.character = true)
    (unsigned : ∀ second ∈ rest.head?, isSign second.character = false) :
    numberEnd passed (first :: rest) = numberEnd (passed + 1) rest := by
  rw [numberEnd.eq_def]
  simp only [notDigit, isMark, Bool.false_eq_true, if_true, if_false]
  cases rest with
  | nil => rw [numberEnd]
  | cons second rest =>
      have sign := unsigned second rfl
      simp only [sign, Bool.false_eq_true, if_false]

/-- A number is as long in a variant. -/
theorem numberEnd_variant (passed : Nat) (variant : LineVariant plain text) :
    numberEnd passed text = numberEnd passed plain := by
  have inDigit : (isDecimalDigit '\n' || '\n' == '.') = false := by decide
  have inMark : isExponentMark '\n' = false := by decide
  have inSign : isSign '\n' = false := by decide
  have returnSign : isSign '\r' = false := by decide
  fun_induction numberEnd passed plain generalizing text with
  | case1 passed =>
      cases variant
      rw [numberEnd]
  | case2 passed first rest isDigit ih =>
      obtain ⟨text', rfl, variant'⟩ := variant.cons
        (is_newline_of_class (fun character => isDecimalDigit character || character == '.')
          inDigit isDigit)
      rw [numberEnd.eq_def]
      simp only [isDigit, if_true, ih variant']
  | case3 passed first notDigit isMark second rest isSigned ih =>
      obtain ⟨text', rfl, variant'⟩ := variant.cons (is_newline_of_class isExponentMark inMark isMark)
      obtain ⟨text'', rfl, variant''⟩ := variant'.cons (is_newline_of_class isSign inSign isSigned)
      rw [numberEnd.eq_def]
      simp only [notDigit, isMark, isSigned, Bool.false_eq_true, if_true, if_false, ih variant'']
  | case4 passed first notDigit isMark second rest unsigned ih =>
      obtain ⟨text', rfl, variant'⟩ := variant.cons (is_newline_of_class isExponentMark inMark isMark)
      rw [numberEnd_mark passed ((Bool.not_eq_true _).mp notDigit) isMark, ih variant']
      cases variant' with
      | same _ later => simpa using unsigned
      | returned later => simp [returnSign]
      | missing => simp
      | bare => simp [returnSign]
  | case5 passed first notDigit isMark =>
      obtain ⟨text', rfl, variant'⟩ := variant.cons (is_newline_of_class isExponentMark inMark isMark)
      cases variant'
      rw [numberEnd_mark passed ((Bool.not_eq_true _).mp notDigit) isMark (by simp), numberEnd]
  | case6 passed first rest notDigit notMark =>
      have return_ : (isDecimalDigit (glyphOf '\r').character || (glyphOf '\r').is '.') = false ∧
          isExponentMark (glyphOf '\r').character = false := by decide
      cases variant with
      | same _ later =>
          rw [numberEnd.eq_def]
          simp only [notDigit, notMark, Bool.false_eq_true, if_false]
      | returned later =>
          rw [numberEnd.eq_def]
          simp only [return_, Bool.false_eq_true, if_false]
      | missing => rw [numberEnd]
      | bare =>
          rw [numberEnd.eq_def]
          simp only [return_, Bool.false_eq_true, if_false]

/-- A string that ends is found without the glyphs behind it. -/
theorem stringEnd?_take {passed length : Nat} {glyphs : List Glyph}
    (found : stringEnd? passed glyphs = some length) :
    stringEnd? passed (glyphs.take (length - passed)) = some length := by
  fun_induction stringEnd? passed glyphs with
  | case1 => cases found
  | case2 passed first rest quote =>
      cases found
      rw [Nat.add_sub_cancel_left, List.take_succ_cons, stringEnd?.eq_def]
      simp only [quote, if_true]
  | case3 passed first notQuote slash second rest quote ih =>
      obtain ⟨further, _⟩ := stringEnd?_bounds _ _ _ found
      obtain ⟨count, rfl⟩ : ∃ count, length = passed + 2 + count := ⟨length - (passed + 2), by omega⟩
      have here := ih found
      rw [Nat.add_sub_cancel_left] at here
      rw [Nat.add_assoc, Nat.add_sub_cancel_left, Nat.add_comm 2, List.take_succ_cons,
        List.take_succ_cons, stringEnd?.eq_def]
      simp only [notQuote, slash, quote, Bool.false_eq_true, if_true, if_false, here]
      rw [Nat.add_assoc, Nat.add_comm 2]
  | case4 passed first notQuote slash second rest notQuote' ih =>
      obtain ⟨further, _⟩ := stringEnd?_bounds _ _ _ found
      obtain ⟨count, rfl⟩ : ∃ count, length = passed + 1 + (count + 1) :=
        ⟨length - (passed + 2), by omega⟩
      have here := ih found
      rw [Nat.add_sub_cancel_left, List.take_succ_cons] at here
      rw [Nat.add_assoc, Nat.add_sub_cancel_left, Nat.add_comm 1, List.take_succ_cons,
        List.take_succ_cons, stringEnd?.eq_def]
      simp only [notQuote, slash, notQuote', Bool.false_eq_true, if_true, if_false, here]
      rw [Nat.add_assoc, Nat.add_comm 1]
  | case5 => cases found
  | case6 passed first rest notQuote notSlash ih =>
      obtain ⟨further, _⟩ := stringEnd?_bounds _ _ _ found
      obtain ⟨count, rfl⟩ : ∃ count, length = passed + 1 + count := ⟨length - (passed + 1), by omega⟩
      have here := ih found
      rw [Nat.add_sub_cancel_left] at here
      rw [Nat.add_assoc, Nat.add_sub_cancel_left, Nat.add_comm 1, List.take_succ_cons,
        stringEnd?.eq_def]
      simp only [notQuote, notSlash, Bool.false_eq_true, if_false, here]
      rw [Nat.add_assoc, Nat.add_comm 1]

/-- A glyph that starts no delimiter of a comment is passed. -/
theorem commentEnd?_skip {first : Glyph} (passed depth : Nat) (rest : List Glyph)
    (notDash : first.is '-' = false) (notBrace : first.is '\x7d' = false) :
    commentEnd? passed depth (first :: rest) = commentEnd? (passed + 1) depth rest := by
  cases rest with
  | nil => rfl
  | cons second rest =>
      rw [commentEnd?.eq_def]
      simp only [notDash, notBrace, Bool.false_and, Bool.false_eq_true, if_false]

/-- Leaving out a glyph that was passed is one step of the way to the end. -/
theorem drop_sub (glyph : Glyph) (glyphs : List Glyph) {passed length : Nat}
    (further : passed + 1 ≤ length) :
    (glyph :: glyphs).drop (length - passed) = glyphs.drop (length - (passed + 1)) := by
  obtain ⟨count, rfl⟩ := Nat.exists_eq_add_of_le further
  rw [Nat.add_sub_cancel_left, Nat.add_assoc, Nat.add_sub_cancel_left, Nat.add_comm,
    List.drop_succ_cons]

/-- Leaving out two glyphs that were passed is two steps of the way to the end. -/
theorem drop_sub_two (first second : Glyph) (glyphs : List Glyph) {passed length : Nat}
    (further : passed + 2 ≤ length) :
    (first :: second :: glyphs).drop (length - passed) = glyphs.drop (length - (passed + 2)) := by
  rw [drop_sub _ _ (by omega), drop_sub _ _ further]

/-- A block comment of a variant ends where it ended before. -/
theorem commentEnd?_variant {passed depth length : Nat} (passed' : Nat)
    (variant : LineVariant plain text) (found : commentEnd? passed depth plain = some length) :
    ∃ length', commentEnd? passed' depth text = some length' ∧
      LineVariant (plain.drop (length - passed)) (text.drop (length' - passed')) := by
  have returnBrace : (glyphOf '\r').is '\x7b' = false := by decide
  have returnDash : (glyphOf '\r').is '-' = false := by decide
  fun_induction commentEnd? passed depth plain generalizing passed' text with
  | case1 => cases found
  | case2 => cases found
  | case3 passed depth first second rest opens ih =>
      obtain ⟨text', rfl, variant'⟩ := variant.mark (by decide) (by decide) opens
      obtain ⟨length', found', later⟩ := ih (passed' + 2) variant' found
      have bounds := commentEnd?_bounds _ _ _ _ found
      have bounds' := commentEnd?_bounds _ _ _ _ found'
      refine ⟨length', ?_, ?_⟩
      · rw [commentEnd?.eq_def]
        simp only [opens, if_true, found']
      · rw [drop_sub_two _ _ rest (by omega), drop_sub_two _ _ text' (by omega)]
        exact later
  | case4 passed first second rest notOpens closes =>
      cases found
      obtain ⟨text', rfl, variant'⟩ := variant.mark (by decide) (by decide) closes
      refine ⟨passed' + 2, ?_, ?_⟩
      · rw [commentEnd?.eq_def]
        simp only [notOpens, closes, Bool.false_eq_true, if_true, if_false]
      · rw [Nat.add_sub_cancel_left, Nat.add_sub_cancel_left]
        exact variant'
  | case5 passed first second rest notOpens closes depth ih =>
      obtain ⟨text', rfl, variant'⟩ := variant.mark (by decide) (by decide) closes
      obtain ⟨length', found', later⟩ := ih (passed' + 2) variant' found
      have bounds := commentEnd?_bounds _ _ _ _ found
      have bounds' := commentEnd?_bounds _ _ _ _ found'
      refine ⟨length', ?_, ?_⟩
      · rw [commentEnd?.eq_def]
        simp only [notOpens, closes, Bool.false_eq_true, if_true, if_false, found']
      · rw [drop_sub_two _ _ rest (by omega), drop_sub_two _ _ text' (by omega)]
        exact later
  | case6 passed depth first second rest notOpens notCloses ih =>
      have bounds := commentEnd?_bounds _ _ _ _ found
      rw [drop_sub _ _ (by omega)]
      cases variant with
      | @same _ _ text' later =>
          obtain ⟨length', found', variant'⟩ := ih (passed' + 1) later found
          have bounds' := commentEnd?_bounds _ _ _ _ found'
          refine ⟨length', ?_, by rw [drop_sub first text' (by omega)]; exact variant'⟩
          rw [← found']
          -- A mark of two glyphs never starts with a carriage return, so only the next glyph matters.
          cases later with
          | same =>
              rw [commentEnd?.eq_def]
              simp only [notOpens, notCloses, Bool.false_eq_true, if_false]
          | returned =>
              rw [commentEnd?.eq_def]
              simp only [returnBrace, returnDash, Bool.and_false, Bool.false_eq_true, if_false]
          | missing | bare => cases found'
      | @returned _ text' later =>
          obtain ⟨length', found', variant'⟩ := ih (passed' + 2) later found
          have bounds' := commentEnd?_bounds _ _ _ _ found'
          refine ⟨length', ?_, ?_⟩
          · rw [commentEnd?_skip _ _ _ (by decide) (by decide),
              commentEnd?_skip _ _ _ (by decide) (by decide)]
            exact found'
          · rw [drop_sub_two _ _ text' (by omega)]
            exact variant'

/-- A dash that opens no comment is scanned alike in a variant. -/
theorem scanDash_variant {length : Nat} {kind : Kind} (variant : LineVariant plain text)
    (found : scanDash plain = .lexeme kind length) (proper : kind ≠ .comment) :
    scanDash text = .lexeme kind length := by
  cases plain with
  | nil =>
      cases variant
      exact found
  | cons second body =>
      rw [scanDash] at found
      by_cases line : second.is '-' = true
      · rw [if_pos line] at found
        cases found
        exact absurd rfl proper
      · by_cases block : second.is '\x7b' = true
        · rw [if_neg line, if_pos block] at found
          split at found
          · cases found
            exact absurd rfl proper
          · cases found
        · rw [if_neg line, if_neg block] at found
          cases variant with
          | same _ later => rw [scanDash, if_neg line, if_neg block, found]
          | returned | missing | bare => exact found

/-- A string within a line is scanned alike in a variant. -/
theorem scanString_variant {length : Nat} {kind : Kind} (variant : LineVariant plain text)
    (found : scanString plain = .lexeme kind length) (inLine : InLine (plain.take (length - 1))) :
    scanString text = .lexeme kind length := by
  rw [scanString] at found
  split at found
  · rename_i length' ends
    cases found
    have bounds := stringEnd?_bounds _ _ _ ends
    obtain ⟨taken, _⟩ := variant.take_drop (by omega) inLine
    have again := stringEnd?_append (text.drop (length - 1)) (stringEnd?_take ends)
    rw [← taken, List.take_append_drop] at again
    rw [scanString, again]
  · cases found

/-- A word is scanned alike in a variant. -/
theorem scanWord_variant (first : Glyph) (variant : LineVariant plain text) :
    scanWord first text = scanWord first plain := by
  have newline : continuesName '\n' = false := by decide +kernel
  have return_ : continuesName '\r' = false := by decide +kernel
  have inLine : InLine (plain.take (run continuesName plain)) := fun glyph member =>
    is_newline_of_class continuesName newline (take_run continuesName plain glyph member)
  obtain ⟨taken, _⟩ := variant.take_drop (run_le continuesName plain) inLine
  simp only [scanWord, run_variant newline return_ variant, taken]

/-- A numeral with a radix mark is scanned alike in a variant. -/
theorem scanRadix_variant {isRadixDigit : Char → Bool} (newline : isRadixDigit '\n' = false)
    (return_ : isRadixDigit '\r' = false) (variant : LineVariant plain text) :
    scanRadix isRadixDigit text = scanRadix isRadixDigit plain := by
  rw [scanRadix, scanRadix, run_variant newline return_ variant]

/-- A decimal numeral is scanned alike in a variant. -/
theorem scanDecimal_variant {length : Nat} {kind : Kind} (variant : LineVariant plain text)
    (found : scanDecimal plain = .lexeme kind length) (inLine : InLine (plain.take (length - 1))) :
    scanDecimal text = .lexeme kind length := by
  rw [scanDecimal] at found
  have same : numberEnd 1 plain = length := by
    split at found <;> exact (Scan.lexeme.inj found).2
  have bounds := numberEnd_bounds 1 plain
  obtain ⟨taken, _⟩ := variant.take_drop (by omega) inLine
  rw [same] at found
  rw [scanDecimal, numberEnd_variant 1 variant, same, taken]
  exact found

/-- A number without a radix mark is read as a decimal one. -/
theorem scanNumber_decimal (first : Glyph) {rest : List Glyph}
    (plainly : ∀ second ∈ rest.head?, second.is 'b' = false ∧ second.is 'x' = false) :
    scanNumber first rest = scanDecimal rest := by
  cases rest with
  | nil => rfl
  | cons second digits =>
      obtain ⟨binary, hexadecimal⟩ := plainly second rfl
      rw [scanNumber, binary, hexadecimal, Bool.and_false]
      rfl

/-- A numeral is scanned alike in a variant. -/
theorem scanNumber_variant (first : Glyph) {length : Nat} {kind : Kind}
    (variant : LineVariant plain text) (found : scanNumber first plain = .lexeme kind length)
    (inLine : InLine (plain.take (length - 1))) : scanNumber first text = .lexeme kind length := by
  have newline : (glyphOf '\n').is 'b' = false ∧ (glyphOf '\n').is 'x' = false := by decide
  have return_ : (glyphOf '\r').is 'b' = false ∧ (glyphOf '\r').is 'x' = false := by decide
  have whole := variant
  cases variant with
  | nil => exact found
  | same second later =>
      rw [scanNumber] at found ⊢
      split at found
      · rw [if_pos ‹_›, scanRadix_variant (by decide) (by decide) later, found]
      · split at found
        · rw [if_neg ‹_›, if_pos ‹_›, scanRadix_variant (by decide) (by decide) later, found]
        · rw [if_neg ‹_›, if_neg ‹_›]
          exact scanDecimal_variant whole found inLine
  | returned | bare =>
      rw [scanNumber_decimal first (by rintro _ ⟨⟩; exact newline)] at found
      rw [scanNumber_decimal first (by rintro _ ⟨⟩; exact return_)]
      exact scanDecimal_variant whole found inLine
  | missing =>
      rw [scanNumber_decimal first (by rintro _ ⟨⟩; exact newline)] at found
      exact scanDecimal_variant whole found inLine

/-- A lexeme in a line that is no comment is found in a variant. -/
theorem scan_variant {first : Glyph} {length : Nat} {kind : Kind} (variant : LineVariant plain text)
    (found : scan first plain = .lexeme kind length) (proper : kind ≠ .comment)
    (inLine : InLine ((first :: plain).take length)) : scan first text = .lexeme kind length := by
  have inLine' : InLine (plain.take (length - 1)) := by
    cases length with
    | zero => exact List.forall_mem_nil _
    | succ count => exact (List.forall_mem_cons.1 inLine).2
  rw [scan] at found ⊢
  by_cases dash : first.is '-' = true
  · rw [if_pos dash] at found ⊢
    exact scanDash_variant variant found proper
  rw [if_neg dash] at found ⊢
  by_cases quote : first.is '"' = true
  · rw [if_pos quote] at found ⊢
    exact scanString_variant variant found inLine'
  rw [if_neg quote] at found ⊢
  by_cases word : startsName first.character = true
  · rw [if_pos word] at found ⊢
    rw [scanWord_variant first variant, found]
  rw [if_neg word] at found ⊢
  by_cases number : isDecimalDigit first.character = true
  · rw [if_pos number] at found ⊢
    exact scanNumber_variant first variant found inLine'
  · rw [if_neg number] at found ⊢
    exact found

/-- Only a dash starts a comment. -/
theorem scan_comment {first : Glyph} {rest : List Glyph} {length : Nat}
    (found : scan first rest = .lexeme .comment length) :
    first.is '-' = true ∧ scanDash rest = .lexeme .comment length := by
  have token : (scan first rest).token? = some (.comment, length) := by rw [found, Scan.token?]
  cases scan_source token with
  | comment isDash same => exact ⟨isDash, same.symm.trans found⟩
  | word _ _ named => exact absurd (by decide) named
  | number _ _ _ numeric => exact absurd numeric (by decide)
  | symbol known => exact absurd (by decide) known

/-- A comment ends where it ended before. -/
theorem scan_comment_variant {first : Glyph} {length : Nat} (variant : LineVariant plain text)
    (found : scan first plain = .lexeme .comment length) :
    ∃ length', scan first text = .lexeme .comment length' ∧
      LineVariant ((first :: plain).drop length) ((first :: text).drop length') := by
  obtain ⟨dash, found⟩ := scan_comment found
  have start (length : Nat) (same : scanDash text = .lexeme .comment length) :
      scan first text = .lexeme .comment length := by rw [scan, if_pos dash, same]
  cases plain with
  | nil => cases found
  | cons second body =>
      rw [scanDash] at found
      by_cases line : second.is '-' = true
      · rw [if_pos line] at found
        obtain ⟨text', rfl, variant'⟩ := variant.cons
          (is_newline_of_class (· == '-') (by decide) line)
        cases found
        refine ⟨1 + run (fun character => character != '\n') (second :: text'), start _ ?_, ?_⟩
        · rw [scanDash, if_pos line]
        · rw [Nat.add_comm 1, Nat.add_comm 1]
          exact drop_run_variant variant
      · rw [if_neg line] at found
        by_cases block : second.is '\x7b' = true
        · rw [if_pos block] at found
          obtain ⟨text', rfl, variant'⟩ := variant.cons
            (is_newline_of_class (· == '\x7b') (by decide) block)
          split at found
          · rename_i length' ends
            cases found
            obtain ⟨length', ends', later⟩ := commentEnd?_variant 2 variant' ends
            have bounds := commentEnd?_bounds _ _ _ _ ends
            have bounds' := commentEnd?_bounds _ _ _ _ ends'
            refine ⟨length', start _ ?_, ?_⟩
            · rw [scanDash, if_neg line, if_pos block, ends']
            · have whole : (first :: second :: body).drop (length - 0) = body.drop (length - 2) :=
                drop_sub_two first second body (by omega)
              have whole' : (first :: second :: text').drop (length' - 0) = text'.drop (length' - 2) :=
                drop_sub_two first second text' (by omega)
              rw [Nat.sub_zero] at whole whole'
              rw [whole, whole']
              exact later
          · cases found
        · rw [if_neg block] at found
          cases found

end Lexeme

end Reckon
