/-
This file shows how the decimal form of a number is read: its digits, perhaps with a point and perhaps with an
exponent.
-/

import Reckon.Proofs.Decimal.Reading
import Reckon.Proofs.Token.Spelling

namespace Reckon.Decimal

open Lexeme

/-- This is the number that digits stand for. -/
def digitsValue (digits : List Char) : Nat := Nat.ofDigitChars 10 digits 0

/-- A decimal form has digits before the point. There is no point without digits behind it, and an
exponent has a sign. -/
structure DecimalForm where
  whole : List Char
  fraction : List Char
  exponent : Option (Bool × List Char)
  whole_ne : whole ≠ []
  whole_digits : AllDigits whole
  fraction_digits : AllDigits fraction
  exponent_ne : ∀ sign digits, exponent = some (sign, digits) → digits ≠ []
  exponent_digits : ∀ sign digits, exponent = some (sign, digits) → AllDigits digits

namespace DecimalForm

/-- The fraction is written behind a point. -/
def fractionText (form : DecimalForm) : List Char :=
  match form.fraction with
  | [] => []
  | digit :: digits => '.' :: digit :: digits

/-- The exponent is written behind a mark and its sign. -/
def exponentText (form : DecimalForm) : List Char :=
  match form.exponent with
  | none => []
  | some (negative, digits) => 'e' :: (if negative then '-' else '+') :: digits

def text (form : DecimalForm) : List Char := form.whole ++ (form.fractionText ++ form.exponentText)

/-- This is the exponent that is written. -/
def writtenExponent (form : DecimalForm) : Int :=
  match form.exponent with
  | none => 0
  | some (negative, digits) => if negative then -(digitsValue digits : Int) else digitsValue digits

/-- This is the decimal that a form stands for. -/
def number (form : DecimalForm) : Number :=
  ⟨digitsValue (form.whole ++ form.fraction), form.writtenExponent - form.fraction.length⟩

end DecimalForm

/-- A digit is no character outside of the digits. -/
theorem decimalDigit_ne {digit : Char} (isDigit : isDecimalDigit digit = true) {other : Char}
    (outside : isDecimalDigit other = false) : digit ≠ other := by
  rintro rfl
  rw [isDigit] at outside
  cases outside

/-- Digits are read into the coefficient, and counted behind a point. -/
theorem Significand.read_digits {digits : List Char} (all : AllDigits digits) (read : Significand)
    (rest : List Char) :
    Significand.read 10 read (digits ++ rest) =
      Significand.read 10
        { read with
          coefficient := Nat.ofDigitChars 10 digits read.coefficient
          fractionDigits := read.fractionDigits + if read.hasPoint then digits.length else 0
          hasDigit := read.hasDigit || !digits.isEmpty } rest := by
  induction digits generalizing read with
  | nil => simp
  | cons digit digits ih =>
      obtain ⟨here, later⟩ := List.forall_mem_cons.1 all
      have notUnderscore : (digit == '_') = false :=
        beq_eq_false_iff_ne.2 (decimalDigit_ne here (by decide))
      have notPoint : (digit == '.') = false :=
        beq_eq_false_iff_ne.2 (decimalDigit_ne here (by decide))
      rw [List.cons_append, Significand.read]
      simp only [notUnderscore, notPoint, Bool.false_eq_true, if_false,
        IntegerReading.radixDigit?_decimal (le_refl 10) here]
      rw [ih later, Nat.ofDigitChars_cons, Nat.mul_comm]
      congr 2
      · cases read.hasPoint <;> simp
        omega
      · simp

/-- An exponent that is not too great is read as it is written. -/
theorem readExponent_digits {digits : List Char} (all : AllDigits digits) (read : Nat)
    (small : Nat.ofDigitChars 10 digits read < 100000) :
    readExponent read digits = (Nat.ofDigitChars 10 digits read, []) := by
  induction digits generalizing read with
  | nil => simp [readExponent]
  | cons digit digits ih =>
      obtain ⟨here, later⟩ := List.forall_mem_cons.1 all
      have notUnderscore : (digit == '_') = false :=
        beq_eq_false_iff_ne.2 (decimalDigit_ne here (by decide))
      have value : decimalDigit? digit = some (digit.toNat - '0'.toNat) := by
        simp only [isDecimalDigit, Bool.and_eq_true, decide_eq_true_eq] at here
        rw [decimalDigit?, if_pos here]
      rw [Nat.ofDigitChars_cons] at small ⊢
      have below : read < 10000 := by
        rw [Nat.ofDigitChars_eq_ofDigitChars_zero] at small
        have positive : 0 < 10 ^ digits.length := Nat.pow_pos (by decide)
        have step : 10 * read + (digit.toNat - '0'.toNat) ≤
            10 ^ digits.length * (10 * read + (digit.toNat - '0'.toNat)) :=
          Nat.le_mul_of_pos_left _ positive
        omega
      rw [readExponent]
      simp only [notUnderscore, Bool.false_eq_true, if_false, value, if_pos below]
      rw [Nat.mul_comm, ih later _ small]

/-- Text without underscores has none in a wrong place. -/
theorem underscoresFit_plain (isDigit : Char → Bool) {characters : List Char} (afterDigit : Bool)
    (plain : ∀ character ∈ characters, character ≠ '_') :
    underscoresFit isDigit afterDigit false characters = true := by
  induction characters generalizing afterDigit with
  | nil => rfl
  | cons character characters ih =>
      obtain ⟨here, later⟩ := List.forall_mem_cons.1 plain
      rw [underscoresFit]
      split
      · exact ih true later
      · rw [if_neg (by simpa using here), ih false later]
        rfl

/-- A digit is its own lower case. -/
theorem toLower_digit {digit : Char} (isDigit : isDecimalDigit digit = true) :
    digit.toLower = digit := by
  simp only [isDecimalDigit, Bool.and_eq_true, decide_eq_true_eq] at isDigit
  have high : digit.val ≤ 57 := isDigit.2
  refine dif_neg ?_
  rintro ⟨capital, _⟩
  have order : (65 : UInt32) ≤ 57 := UInt32.le_trans capital high
  revert order
  decide

/-- A text that starts with a digit is read as a numeral without a sign. -/
theorem ofText_digit {digit : Char} {rest : List Char} (isDigit : isDecimalDigit digit = true) :
    FloatReading.ofText (String.ofList (digit :: rest)) =
      match digit :: rest with
      | '0' :: mark :: first :: others =>
          if mark.toLower == 'x' then readHexadecimal false (first :: others)
          else readDecimal false (digit :: rest)
      | _ => readDecimal false (digit :: rest) := by
  have unsigned : splitSign (digit :: rest) = (false, digit :: rest) :=
    IntegerReading.splitSign_digit (decimalDigit_ne isDigit (by decide))
      (decimalDigit_ne isDigit (by decide))
  have notWord (word : String) (first : Char) (letters : List Char)
      (spelled : word.toList = first :: letters) (letter : isDecimalDigit first = false) :
      ((digit :: rest).map Char.toLower == word.toList) = false := by
    rw [spelled, List.map_cons, toLower_digit isDigit, beq_eq_false_iff_ne]
    exact fun same => decimalDigit_ne isDigit letter (List.cons.inj same).1
  have notNumber : ((String.ofList (digit :: rest)).toLower == "nan") = false := by
    rw [beq_eq_false_iff_ne, ← String.toList_inj.ne]
    change (String.map Char.toLower (String.ofList (digit :: rest))).toList ≠ _
    rw [String.toList_map, String.toList_ofList]
    exact beq_eq_false_iff_ne.1 (notWord "nan" 'n' _ rfl (by decide))
  rw [FloatReading.ofText, String.toList_ofList, unsigned]
  dsimp only
  rewrite [notWord "inf" 'i' _ rfl (by decide), notWord "infinity" 'i' _ rfl (by decide), notNumber]
  rfl

/-- A text that starts with a digit is read without a sign. -/
theorem ofText_unsigned {digit : Char} {rest : List Char} (isDigit : isDecimalDigit digit = true) :
    (FloatReading.ofText (String.ofList (digit :: rest))).IsUnsigned := by
  rw [ofText_digit isDigit]
  split
  · split
    · exact readHexadecimal_unsigned _
    · exact readDecimal_unsigned _
  · exact readDecimal_unsigned _

namespace DecimalForm

/-- Only digits, a point, an exponent mark and a sign are written. -/
theorem mem_text {form : DecimalForm} {character : Char} (member : character ∈ form.text) :
    isDecimalDigit character = true ∨ character ∈ ['.', 'e', '-', '+'] := by
  simp only [text, List.mem_append] at member
  rcases member with whole | fraction | exponent
  · exact .inl (form.whole_digits character whole)
  · unfold fractionText at fraction
    split at fraction
    · cases fraction
    · rename_i digit digits same
      rcases List.mem_cons.1 fraction with rfl | inside
      · simp
      · exact .inl (form.fraction_digits character (same ▸ inside))
  · unfold exponentText at exponent
    split at exponent
    · cases exponent
    · rename_i negative digits same
      rcases List.mem_cons.1 exponent with rfl | inside
      · simp
      · rcases List.mem_cons.1 inside with rfl | inside
        · right
          split <;> simp
        · exact .inl (form.exponent_digits negative digits same character inside)

/-- The part before the exponent is the significand. -/
theorem read_significand (form : DecimalForm) :
    ∃ hasPoint, Significand.read 10 ⟨0, 0, false, false⟩ form.text =
      (⟨digitsValue (form.whole ++ form.fraction), form.fraction.length, hasPoint, true⟩,
        form.exponentText) := by
  have stop (read : Significand) : Significand.read 10 read form.exponentText =
      (read, form.exponentText) := by
    unfold exponentText
    split
    · rfl
    · rw [Significand.read]
      simp [show radixDigit? 10 'e' = none by decide]
  have solid : form.whole.isEmpty = false := by simpa using form.whole_ne
  rw [text, Significand.read_digits form.whole_digits]
  unfold fractionText
  cases same : form.fraction with
  | nil =>
      refine ⟨false, ?_⟩
      dsimp only
      rw [List.nil_append, stop, List.append_nil]
      simp [solid, digitsValue]
  | cons digit digits =>
      refine ⟨true, ?_⟩
      dsimp only
      rw [← same, List.cons_append, Significand.read]
      simp only [show ('.' == '_') = false by decide, Bool.false_eq_true, if_false, beq_self_eq_true,
        if_true]
      rw [Significand.read_digits form.fraction_digits, stop]
      simp [solid, digitsValue, Nat.ofDigitChars_append]

/-- An exponent that is not too long is read as it was written. -/
theorem read_exponent (form : DecimalForm)
    (small : ∀ negative digits, form.exponent = some (negative, digits) →
      digitsValue digits < 100000) :
    ∃ exponent, readExponentPart? 'e' form.exponentText = some (exponent, []) ∧
      exponent.getD 0 = form.writtenExponent := by
  unfold exponentText writtenExponent
  cases same : form.exponent with
  | none => exact ⟨none, rfl, rfl⟩
  | some exponent =>
      obtain ⟨negative, digits⟩ := exponent
      have all := form.exponent_digits negative digits same
      have value := readExponent_digits all 0 (small negative digits same)
      cases digits with
      | nil => exact absurd rfl (form.exponent_ne negative [] same)
      | cons digit digits =>
          have isDigit : digit.isDigit = true := all digit List.mem_cons_self
          have lower : (Char.toLower 'e' == 'e') = true := by decide
          cases negative
          · refine ⟨some (digitsValue (digit :: digits)), ?_, rfl⟩
            simp only [readExponentPart?, lower, if_true, Bool.false_eq_true, if_false, splitSign,
              isDigit, value]
            rfl
          · refine ⟨some (-(digitsValue (digit :: digits) : Int)), ?_, rfl⟩
            simp only [readExponentPart?, lower, if_true, splitSign, isDigit, value]
            rfl

/-- A form is read as the decimal that it stands for. -/
theorem readDecimal_text (form : DecimalForm) (negative : Bool)
    (small : ∀ sign digits, form.exponent = some (sign, digits) → digitsValue digits < 100000) :
    readDecimal negative form.text = .ofBinary64
      (ofDecimal negative form.number.coefficient form.number.exponent) := by
  obtain ⟨hasPoint, significand⟩ := form.read_significand
  obtain ⟨exponent, part, same⟩ := form.read_exponent small
  have plain : underscoresFit Char.isDigit false false form.text = true := by
    refine underscoresFit_plain _ _ fun character member => ?_
    rcases mem_text member with digit | mark
    · exact decimalDigit_ne digit (by decide)
    · rintro rfl
      revert mark
      decide
  rw [readDecimal, significand]
  simp only [part, plain, Bool.and_self, if_true, same, number]

/-- A form starts with a digit. -/
theorem text_cons (form : DecimalForm) :
    ∃ digit rest, form.text = digit :: rest ∧ isDecimalDigit digit = true := by
  obtain ⟨digit, digits, same⟩ := List.exists_cons_of_ne_nil form.whole_ne
  refine ⟨digit, digits ++ (form.fractionText ++ form.exponentText), ?_, ?_⟩
  · rw [text, same, List.cons_append]
  · exact form.whole_digits digit (same ▸ List.mem_cons_self)

/-- The text of a form is read as nothing but a decimal. -/
theorem ofText_text (form : DecimalForm)
    (small : ∀ sign digits, form.exponent = some (sign, digits) → digitsValue digits < 100000) :
    FloatReading.ofText (String.ofList form.text) = .ofBinary64
      (ofDecimal false form.number.coefficient form.number.exponent) := by
  obtain ⟨digit, rest, same, isDigit⟩ := form.text_cons
  rw [← form.readDecimal_text false small, same, ofText_digit isDigit]
  split
  · rename_i mark first others split
    have notMark : (mark.toLower == 'x') = false := by
      have member : mark ∈ form.text := by
        rw [same, split]
        simp
      rcases mem_text member with digit | other
      · rw [toLower_digit digit]
        exact beq_eq_false_iff_ne.2 (decimalDigit_ne digit (by decide))
      · simp only [List.mem_cons, List.not_mem_nil, or_false] at other
        rcases other with rfl | rfl | rfl | rfl <;> decide
    rw [notMark]
    rfl
  · rfl

end DecimalForm

end Reckon.Decimal
