/-
This file shows how the names and the literals of an expression are written, and that they are read
back.
-/

import Reckon.Proofs.Decimal.Written
import Reckon.Proofs.Expression.Parsable
import Reckon.Proofs.Token.Wording

namespace Reckon

open Text Lexeme Decimal

/-- Only one segment gives a single token before the end of input. -/
theorem tokensFrom_single {place : Location} {tail : List Glyph} {segments : List Segment}
    {token final : Token} (same : tokensFrom place tail segments = [token, final]) :
    ∃ segment, segments = [segment] ∧ token = segment.token place := by
  cases segments with
  | nil => cases same
  | cons segment segments =>
      obtain ⟨first, later⟩ := List.cons.inj same
      cases segments with
      | nil => exact ⟨segment, rfl, first.symm⟩
      | cons second segments =>
          have length := congrArg List.length later
          cases segments <;> simp [tokensFrom] at length

/-- The names are those that are spelled like a name. -/
theorem isName_iff (name : String) : IsName name ↔ NameSpelling name.toList := by
  constructor
  · rintro ⟨token, final, tokens, kind, lexeme⟩
    obtain ⟨segments, tail, misreadings, cut⟩ := exists_cut .start (encode name).glyphs
    have scanned := cut.scanned (isText_glyphs _)
    rw [cut.tokens] at tokens
    obtain ⟨segment, rfl, rfl⟩ := tokensFrom_single (Except.ok.inj tokens)
    have here := scanned segment (List.mem_singleton_self _)
    have spelling := here.name kind
    have glyphs := here.glyphs
    change glyphBytes segment.lexeme = encode name at lexeme
    rw [lexeme, glyphs_encode] at glyphs
    rw [← glyphs, List.map_map] at spelling
    have same : name.toList.map (Glyph.character ∘ glyphOf) = name.toList := List.map_id _
    rwa [same] at spelling
  · intro spelling
    obtain ⟨segments, tail, cut, words⟩ := spelling.spells.worded.cut .start
    rw [← glyphs_encode] at cut
    obtain ⟨segment, rfl, word⟩ := List.map_eq_singleton_iff.1 words
    refine ⟨segment.token .start, _, cut.tokens, congrArg Word.kind word, ?_⟩
    have lexeme := congrArg Word.lexeme word
    rwa [Word.written, String.ofList_toList] at lexeme

/-- A name is read as a single word. -/
theorem IsName.spells {name : String} (isName : IsName name) :
    Spells name.toList [.written .identifier name.toList] :=
  ((isName_iff name).1 isName).spells

theorem digits_not_fractional {digits : List Char} (all : AllDigits digits) :
    digits.any isFractional = false := by
  rw [List.any_eq_false]
  intro digit member fractional
  rw [isFractional_digit (all digit member)] at fractional
  cases fractional

/-- Loose characters are no mark of a radix. -/
theorem Loose.not_radix {more rest : List Char} (loose : Loose rest)
    (here : ∀ second ∈ more, second ≠ 'b' ∧ second ≠ 'x') (second : Char)
    (found : (more ++ rest).head? = some second) : second ≠ 'b' ∧ second ≠ 'x' := by
  cases more with
  | nil =>
      have member := loose second found
      constructor
      · rintro rfl
        revert member
        decide
      · rintro rfl
        revert member
        decide
  | cons first more =>
      cases found
      exact here second List.mem_cons_self

theorem digit_not_radix {digit : Char} (isDigit : isDecimalDigit digit = true) :
    digit ≠ 'b' ∧ digit ≠ 'x' :=
  ⟨decimalDigit_ne isDigit (by decide), decimalDigit_ne isDigit (by decide)⟩

/-- Digits are read as one integer. -/
theorem digits_spell {digits : List Char} (solid : digits ≠ []) (all : AllDigits digits) :
    Spells digits [.written .integer digits] := by
  intro rest others loose worded
  obtain ⟨first, more, rfl⟩ := List.exists_cons_of_ne_nil solid
  obtain ⟨here, later⟩ := List.forall_mem_cons.1 all
  have ends : numberEnd 1 ((more ++ rest).map glyphOf) = 1 + more.length := by
    rw [numberEnd_passes later, numberEnd_loose loose]
  have notRadix := loose.not_radix fun second member => digit_not_radix (later second member)
  have whole := worded.number here notRadix ends
  rwa [digits_not_fractional later] at whole

namespace Decimal.DecimalForm

/-- A number passes over its fraction. -/
theorem numberEnd_fraction (form : DecimalForm) (passed : Nat) (rest : List Char) :
    numberEnd passed ((form.fractionText ++ rest).map glyphOf) =
      numberEnd (passed + form.fractionText.length) (rest.map glyphOf) := by
  unfold fractionText
  split
  · rfl
  · rename_i digit digits same
    have all := form.fraction_digits
    rw [same] at all
    have point : (isDecimalDigit (glyphOf '.').character || (glyphOf '.').is '.') = true := by decide
    rw [List.cons_append, List.map_cons, numberEnd.eq_def]
    simp only [point, if_true]
    rw [numberEnd_passes all]
    congr 1
    simp only [List.length_cons]
    omega

/-- A number passes over its exponent and the sign of it. -/
theorem numberEnd_exponent (form : DecimalForm) (passed : Nat) (rest : List Char) :
    numberEnd passed ((form.exponentText ++ rest).map glyphOf) =
      numberEnd (passed + form.exponentText.length) (rest.map glyphOf) := by
  unfold exponentText
  split
  · rfl
  · rename_i negative digits same
    have all := form.exponent_digits negative digits same
    have notDigit : (isDecimalDigit (glyphOf 'e').character || (glyphOf 'e').is '.') = false := by
      decide
    have mark : isExponentMark (glyphOf 'e').character = true := by decide
    have sign : isSign (glyphOf (if negative then '-' else '+')).character = true := by
      cases negative <;> decide
    rw [List.cons_append, List.cons_append, List.map_cons, List.map_cons, numberEnd.eq_def]
    simp only [notDigit, mark, sign, Bool.false_eq_true, if_false, if_true]
    rw [numberEnd_passes all]
    congr 1
    simp only [List.length_cons]
    omega

/-- A form with a point or an exponent is read as one float. -/
theorem spells {form : DecimalForm} (fractional : form.IsFractional) :
    Spells form.text [.written .float form.text] := by
  intro rest others loose worded
  obtain ⟨first, digits, same⟩ := List.exists_cons_of_ne_nil form.whole_ne
  have all := form.whole_digits
  rw [same] at all
  obtain ⟨here, later⟩ := List.forall_mem_cons.1 all
  have text : form.text = first :: (digits ++ (form.fractionText ++ form.exponentText)) := by
    rw [DecimalForm.text, same, List.cons_append]
  have some := fractional.any
  have inside (character : Char)
      (member : character ∈ digits ++ (form.fractionText ++ form.exponentText)) :
      character ≠ 'b' ∧ character ≠ 'x' := by
    rcases form.mem_text (text ▸ List.mem_cons_of_mem _ member) with digit | mark
    · exact digit_not_radix digit
    · constructor
      · rintro rfl
        revert mark
        decide
      · rintro rfl
        revert mark
        decide
  rw [text, List.any_cons, isFractional_digit here, Bool.false_or] at some
  rw [text]
  have ends : numberEnd 1 ((digits ++ (form.fractionText ++ form.exponentText) ++ rest).map glyphOf) =
      1 + (digits ++ (form.fractionText ++ form.exponentText)).length := by
    rw [List.append_assoc, numberEnd_passes later, List.append_assoc, form.numberEnd_fraction,
      form.numberEnd_exponent, numberEnd_loose loose, List.length_append, List.length_append]
    omega
  have whole := worded.number here (loose.not_radix inside) ends
  rwa [some] at whole

end Decimal.DecimalForm

/-- Decimal digits spell the number that is read from them. -/
theorem IntegerReading.positional_decimal {digits : List Char} (all : AllDigits digits) :
    positional 10 digits = digitsValue digits := by
  induction digits with
  | nil => rfl
  | cons digit digits ih =>
      obtain ⟨here, later⟩ := List.forall_mem_cons.1 all
      rw [positional, radixDigit?_decimal (le_refl 10) here, Option.getD_some, ih later, digitsValue,
        digitsValue, Nat.ofDigitChars_cons, Nat.mul_zero, Nat.zero_add,
        @Nat.ofDigitChars_eq_ofDigitChars_zero digits (digit.toNat - '0'.toNat), Nat.mul_comm]

/-- An integer that is not negative is read back from its digits. -/
theorem integerLiteral_reads {value : Int64} (positive : 0 ≤ value.toInt) :
    ∃ digits, (toString value.toInt).toList = digits ∧ digits ≠ [] ∧ AllDigits digits ∧
      integerValue (encode (toString value.toInt)) = .ok (.ok value) := by
  obtain ⟨number, same⟩ := Int.eq_ofNat_of_zero_le positive
  have text : (toString value.toInt).toList = Nat.toDigits 10 number := by
    rw [same]
    exact Nat.toList_repr
  have all := toDigits_digits number
  have small : number < twoTo 63 := by
    have below := value.toInt_lt
    rw [same] at below
    exact_mod_cast below
  have characters : (encode (toString value.toInt)).glyphs.map Glyph.character =
      Nat.toDigits 10 number := by
    rw [glyphs_encode, List.map_map, text]
    exact List.map_id _
  have spelling : IntegerSpelling (Nat.toDigits 10 number) := .decimal Nat.toDigits_ne_nil all
  have spelled : IntegerReading.spelledValue (Nat.toDigits 10 number) = number := by
    rw [IntegerReading.spelledValue_decimal all, IntegerReading.positional_decimal all,
      digitsValue_toDigits]
  refine ⟨_, text, Nat.toDigits_ne_nil, all, ?_⟩
  rw [integerValue_spelled (characters ▸ spelling), characters, spelled, if_pos small, ← same,
    Int64.ofInt_toInt]

end Reckon
