/-
This file shows that the text of a float literal is read back as the same float.
-/

import Reckon.Expression.Source
import Reckon.Proofs.Decimal.Bits
import Reckon.Proofs.Decimal.Form
import Reckon.Proofs.Token.Wording

namespace Reckon.Decimal

open Lexeme Text

theorem toDigits_digits (number : Nat) : AllDigits (Nat.toDigits 10 number) :=
  fun _ member => Nat.isDigit_of_mem_toDigits (by decide) (by decide) member

/-- Zeros are digits. -/
theorem zeros_digits (count : Nat) : AllDigits (List.replicate count '0') := by
  intro character member
  rw [List.eq_of_mem_replicate member]
  decide

theorem digitsValue_toDigits (number : Nat) : digitsValue (Nat.toDigits 10 number) = number :=
  Nat.ofDigitChars_ten_toDigits

/-- Zeros before a number do not change it. -/
theorem digitsValue_zeros (count : Nat) (digits : List Char) :
    digitsValue (List.replicate count '0' ++ digits) = digitsValue digits := by
  rw [digitsValue, Nat.ofDigitChars_append, Nat.ofDigitChars_replicate_zero, Nat.mul_zero, digitsValue]

/-- Zeros behind a number multiply it. -/
theorem digitsValue_append_zeros (digits : List Char) (count : Nat) :
    digitsValue (digits ++ List.replicate count '0') = 10 ^ count * digitsValue digits := by
  rw [digitsValue, Nat.ofDigitChars_append, Nat.ofDigitChars_replicate_zero, digitsValue]

/-- A form without an exponent has its digits around the point. -/
def plainForm (whole fraction : List Char) (whole_ne : whole ≠ []) (left : AllDigits whole)
    (right : AllDigits fraction) : DecimalForm where
  whole := whole
  fraction := fraction
  exponent := none
  whole_ne := whole_ne
  whole_digits := left
  fraction_digits := right
  exponent_ne := fun _ _ => nofun
  exponent_digits := fun _ _ => nofun

/-- A plain form is written as its whole part, a point and its fraction. -/
theorem plainForm_text {whole fraction : List Char} (whole_ne : whole ≠ [])
    (left : AllDigits whole) (right : AllDigits fraction) (solid : fraction ≠ []) :
    (plainForm whole fraction whole_ne left right).text = whole ++ '.' :: fraction := by
  obtain ⟨digit, digits, rfl⟩ := List.exists_cons_of_ne_nil solid
  simp [DecimalForm.text, DecimalForm.fractionText, DecimalForm.exponentText, plainForm]

theorem plainForm_number {whole fraction : List Char} (whole_ne : whole ≠ [])
    (left : AllDigits whole) (right : AllDigits fraction) :
    (plainForm whole fraction whole_ne left right).number =
      ⟨digitsValue (whole ++ fraction), 0 - fraction.length⟩ := rfl

/-- A decimal with places behind the point is written with a fraction. -/
theorem Number.positional_fraction (decimal : Number) (negative : decimal.exponent < 0) :
    ∃ form : DecimalForm, decimal.positional.toList = form.text ∧ form.exponent = none ∧
      form.number = decimal := by
  have solid : 0 < (Nat.toDigits 10 decimal.coefficient).length := Nat.length_toDigits_pos
  have value := digitsValue_toDigits decimal.coefficient
  have all := toDigits_digits decimal.coefficient
  have place : decimal.pointPlace = (Nat.toDigits 10 decimal.coefficient).length + decimal.exponent :=
    rfl
  rw [positional, String.toList_ofList, if_pos negative]
  generalize Nat.toDigits 10 decimal.coefficient = digits at *
  have fraction : AllDigits (List.replicate (-decimal.pointPlace).toNat '0' ++
      digits.drop decimal.pointPlace.toNat) :=
    (zeros_digits _).append fun _ member => all _ (List.mem_of_mem_drop member)
  have length : (List.replicate (-decimal.pointPlace).toNat '0' ++
      digits.drop decimal.pointPlace.toNat).length = (-decimal.exponent).toNat := by
    simp only [List.length_append, List.length_replicate, List.length_drop]
    omega
  have fraction_ne : List.replicate (-decimal.pointPlace).toNat '0' ++
      digits.drop decimal.pointPlace.toNat ≠ [] := by
    rw [← List.length_pos_iff, length]
    omega
  have places : (0 : Int) - ((-decimal.exponent).toNat : Int) = decimal.exponent := by omega
  by_cases before : decimal.pointPlace ≤ 0
  · rw [if_pos before]
    refine ⟨plainForm ['0'] _ (by simp) (zeros_digits 1) fraction,
      (plainForm_text _ _ _ fraction_ne).symm, rfl, ?_⟩
    have whole : digitsValue (['0'] ++ (List.replicate (-decimal.pointPlace).toNat '0' ++
        digits.drop decimal.pointPlace.toNat)) = decimal.coefficient := by
      rw [show decimal.pointPlace.toNat = 0 by omega, List.drop_zero, ← value]
      exact (digitsValue_zeros 1 _).trans (digitsValue_zeros _ _)
    rw [plainForm_number, length, places, whole]
  · have inside : decimal.pointPlace.toNat - digits.length = 0 := by omega
    rw [if_neg before, inside, List.replicate_zero, List.append_nil]
    have whole_ne : digits.take decimal.pointPlace.toNat ≠ [] := by
      rw [← List.length_pos_iff, List.length_take]
      omega
    have left : AllDigits (digits.take decimal.pointPlace.toNat) :=
      fun _ member => all _ (List.mem_of_mem_take member)
    refine ⟨plainForm _ _ whole_ne left fraction, (plainForm_text _ _ _ fraction_ne).symm, rfl, ?_⟩
    have whole : digitsValue (digits.take decimal.pointPlace.toNat ++
        (List.replicate (-decimal.pointPlace).toNat '0' ++ digits.drop decimal.pointPlace.toNat)) =
          decimal.coefficient := by
      rw [show (-decimal.pointPlace).toNat = 0 by omega, List.replicate_zero, List.nil_append,
        List.take_append_drop, value]
    rw [plainForm_number, length, places, whole]

/-- A decimal without places behind the point is written without one. -/
theorem Number.positional_whole (decimal : Number) (whole : 0 ≤ decimal.exponent) :
    ∃ digits, decimal.positional.toList = digits ∧ digits ≠ [] ∧ AllDigits digits ∧
      digitsValue digits = 10 ^ decimal.exponent.toNat * decimal.coefficient := by
  have solid : 0 < (Nat.toDigits 10 decimal.coefficient).length := Nat.length_toDigits_pos
  have value := digitsValue_toDigits decimal.coefficient
  have all := toDigits_digits decimal.coefficient
  have place : decimal.pointPlace = (Nat.toDigits 10 decimal.coefficient).length + decimal.exponent :=
    rfl
  rw [positional, String.toList_ofList, if_neg (by omega)]
  generalize Nat.toDigits 10 decimal.coefficient = digits at *
  rw [if_neg (by omega), List.take_of_length_le (by omega),
    show decimal.pointPlace.toNat - digits.length = decimal.exponent.toNat by omega]
  refine ⟨_, rfl, ?_, all.append (zeros_digits _), ?_⟩
  · rw [← List.length_pos_iff, List.length_append]
    omega
  · rw [digitsValue_append_zeros, value]

/-- The digits of a written exponent are at least two. -/
theorem writtenExponent_eq (exponent : Int) :
    ∃ digits, (writtenExponent exponent).toList = (if exponent < 0 then '-' else '+') :: digits ∧
      digits ≠ [] ∧ AllDigits digits ∧ digitsValue digits = exponent.natAbs := by
  have sign : ((if exponent < 0 then "-" else "+") : String).toList =
      [if exponent < 0 then '-' else '+'] := by split <;> rfl
  have written : (toString exponent.natAbs).toList = Nat.toDigits 10 exponent.natAbs :=
    Nat.toList_repr
  have all := toDigits_digits exponent.natAbs
  have value := digitsValue_toDigits exponent.natAbs
  rw [writtenExponent, String.toList_append, String.toList_append, sign, written]
  by_cases short : (toString exponent.natAbs).length < 2
  · rw [if_pos short]
    exact ⟨'0' :: Nat.toDigits 10 exponent.natAbs, by simp, by simp, (zeros_digits 1).append all,
      (digitsValue_zeros 1 _).trans value⟩
  · rw [if_neg short]
    exact ⟨Nat.toDigits 10 exponent.natAbs, by simp, Nat.toDigits_ne_nil, all, value⟩

/-- A scientific form has one digit before the point. -/
def scientificForm (digit : Char) (digits : List Char) (negative : Bool) (exponent : List Char)
    (all : AllDigits (digit :: digits)) (exponent_ne : exponent ≠ [])
    (exponent_digits : AllDigits exponent) : DecimalForm where
  whole := [digit]
  fraction := digits
  exponent := some (negative, exponent)
  whole_ne := List.cons_ne_nil _ _
  whole_digits := List.forall_mem_singleton.2 (all digit List.mem_cons_self)
  fraction_digits := fun _ member => all _ (List.mem_cons_of_mem _ member)
  exponent_ne := by
    rintro _ _ same
    cases same
    exact exponent_ne
  exponent_digits := by
    rintro _ _ same
    cases same
    exact exponent_digits

/-- The scientific text of a decimal is a form of this decimal. -/
theorem Number.scientific_form (decimal : Number) (small : (decimal.pointPlace - 1).natAbs < 100000) :
    ∃ form : DecimalForm, decimal.scientific.toList = form.text ∧ form.exponent ≠ none ∧
      (∀ sign digits, form.exponent = some (sign, digits) → digitsValue digits < 100000) ∧
        form.number = decimal := by
  obtain ⟨exponent, written, exponent_ne, exponent_digits, exponent_value⟩ :=
    writtenExponent_eq (decimal.pointPlace - 1)
  have value := digitsValue_toDigits decimal.coefficient
  have all := toDigits_digits decimal.coefficient
  have place : decimal.pointPlace = (Nat.toDigits 10 decimal.coefficient).length + decimal.exponent :=
    rfl
  obtain ⟨digit, digits, same⟩ :=
    List.exists_cons_of_ne_nil (Nat.toDigits_ne_nil : Nat.toDigits 10 decimal.coefficient ≠ [])
  rw [same] at all value place
  rw [List.length_cons] at place
  refine ⟨scientificForm digit digits (decide (decimal.pointPlace - 1 < 0)) exponent all exponent_ne
    exponent_digits, ?_, Option.some_ne_none _, ?_, ?_⟩
  · have sign : (if decide (decimal.pointPlace - 1 < 0) = true then '-' else '+') =
        if decimal.pointPlace - 1 < 0 then '-' else '+' := by simp only [decide_eq_true_eq]
    rw [scientific, same, DecimalForm.text, DecimalForm.fractionText, DecimalForm.exponentText]
    simp only [scientificForm, sign]
    cases digits with
    | nil => simp [written]
    | cons second digits => simp [written]
  · rintro _ _ found
    cases found
    omega
  · have power : (scientificForm digit digits (decide (decimal.pointPlace - 1 < 0)) exponent all
        exponent_ne exponent_digits).writtenExponent = decimal.pointPlace - 1 := by
      rw [DecimalForm.writtenExponent]
      simp only [scientificForm, decide_eq_true_eq, exponent_value]
      split <;> omega
    have places : decimal.pointPlace - 1 - (digits.length : Int) = decimal.exponent := by omega
    rw [DecimalForm.number, power]
    simp only [scientificForm, places, List.singleton_append, value]

/-- A form is that of a float when it has a point or an exponent. -/
def DecimalForm.IsFractional (form : DecimalForm) : Prop :=
  form.fraction ≠ [] ∨ form.exponent ≠ none

/-- A float literal without one of these characters would read back as an integer. -/
def isMark (character : Char) : Bool :=
  character == '.' || character == 'e' || character == 'E' || character == 'n' || character == 'N'

/-- No digit is a mark. -/
theorem isMark_digit {digit : Char} (isDigit : isDecimalDigit digit = true) : isMark digit = false := by
  have differs (other : Char) (outside : isDecimalDigit other = false) : (digit == other) = false :=
    beq_eq_false_iff_ne.2 (decimalDigit_ne isDigit outside)
  rw [isMark, differs '.' (by decide), differs 'e' (by decide), differs 'E' (by decide),
    differs 'n' (by decide), differs 'N' (by decide)]
  decide

/-- What makes a number fractional is a mark. -/
theorem isMark_of_isFractional {character : Char} (fractional : isFractional character = true) :
    isMark character = true := by
  simp only [isFractional, isExponentMark, Bool.or_eq_true] at fractional
  simp only [isMark, Bool.or_eq_true]
  tauto

/-- No digit makes a number fractional. -/
theorem isFractional_digit {digit : Char} (isDigit : isDecimalDigit digit = true) :
    isFractional digit = false := by
  rw [← Bool.not_eq_true]
  intro fractional
  have mark := isMark_of_isFractional fractional
  rw [isMark_digit isDigit] at mark
  cases mark

/-- A fractional form has a fractional character. -/
theorem DecimalForm.IsFractional.any {form : DecimalForm} (fractional : form.IsFractional) :
    form.text.any isFractional = true := by
  rw [DecimalForm.text, List.any_append, List.any_append]
  rcases fractional with fraction | exponent
  · obtain ⟨digit, digits, same⟩ := List.exists_cons_of_ne_nil fraction
    have point : form.fractionText.any isFractional = true := by
      rw [DecimalForm.fractionText, same]
      rfl
    rw [point, Bool.true_or, Bool.or_true]
  · obtain ⟨written, same⟩ := Option.ne_none_iff_exists'.1 exponent
    have mark : form.exponentText.any isFractional = true := by
      rw [DecimalForm.exponentText, same]
      rfl
    rw [mark, Bool.or_true, Bool.or_true]

/-- A float without a sign is written by its shortest decimal. -/
theorem compactText_eq {value : Float} {mantissa : Nat} {exponent : Int}
    (found : Binary64.ofFloat value = .finite false mantissa exponent) :
    compactText value =
      let decimal := shortest mantissa exponent Binary64.leastExponent
      if decimal.pointPlace - 1 < -4 || decimal.pointPlace - 1 ≥ 6 then decimal.scientific
      else decimal.positional := by
  rw [compactText, written, found]
  rfl

theorem lt_twoTo {number bits : Nat} (solid : number ≠ 0) (short : number.log2 < bits) :
    number < twoTo bits := (Nat.log2_lt solid).1 short

theorem digitCount_le {number places : Nat} (positive : 0 < places) (below : number < tenTo places) :
    digitCount number ≤ places := (Nat.length_toDigits_le_iff (by decide) positive).2 below

/-- A decimal in the range of floats is written with few digits in its exponent. -/
theorem Number.pointPlace_bounds (decimal : Number) (least : -1100 ≤ decimal.exponent)
    (solid : decimal.coefficient ≠ 0) (below : decimal.value < 2 ^ (1024 : Int)) :
    (decimal.pointPlace - 1).natAbs < 100000 := by
  have short : digitCount decimal.coefficient ≤ 2000 := by
    have log := lt_twoTo solid (decimal.log_lt least solid below)
    exact digitCount_le (by decide) (log.trans_le (twoTo_le_tenTo (by decide)))
  have low : decimal.exponent < 320 := by
    by_contra high
    have one : (1 : ℚ) ≤ decimal.coefficient := by exact_mod_cast Nat.one_le_iff_ne_zero.2 solid
    have above : (2 : ℚ) ^ (1024 : Int) ≤ decimal.value := by
      calc (2 : ℚ) ^ (1024 : Int) ≤ 10 ^ (320 : Int) := by
            exact_mod_cast @two_zpow_le 1024 320 (by decide)
        _ ≤ 10 ^ decimal.exponent := zpow_le_zpow_right₀ (by norm_num) (by omega)
        _ ≤ decimal.value := le_mul_of_one_le_left (by positivity) one
    exact absurd below (not_lt.2 above)
  rw [Number.pointPlace]
  omega

/-- A fraction of zero does not change a whole decimal. -/
theorem Number.value_of_whole {decimal : Number} {digits : List Char} (whole : 0 ≤ decimal.exponent)
    (digits_ne : digits ≠ []) (all : AllDigits digits)
    (value : digitsValue digits = 10 ^ decimal.exponent.toNat * decimal.coefficient) :
    (plainForm digits ['0'] digits_ne all (zeros_digits 1)).number.value = decimal.value := by
  have tens := digitsValue_append_zeros digits 1
  rw [List.replicate_one] at tens
  have power : (10 : ℚ) ^ decimal.exponent = 10 ^ decimal.exponent.toNat := by
    rw [← zpow_natCast, Int.toNat_of_nonneg whole]
  rw [plainForm_number, Number.value, Number.value, tens, value, power]
  push_cast
  rw [List.length_singleton, Nat.cast_one, zero_sub, zpow_neg_one]
  ring

/-- A float literal is written as a form of its shortest decimal. -/
theorem floatLiteral_form {value : Float} {mantissa : Nat} {exponent : Int}
    (found : Binary64.ofFloat value = .finite false mantissa exponent)
    (least : -1100 ≤ (shortest mantissa exponent Binary64.leastExponent).exponent)
    (small : ((shortest mantissa exponent Binary64.leastExponent).pointPlace - 1).natAbs < 100000) :
    ∃ form : DecimalForm, (floatLiteralText value).toList = form.text ∧ form.IsFractional ∧
      (∀ sign digits, form.exponent = some (sign, digits) → digitsValue digits < 100000) ∧
        form.number.value = (shortest mantissa exponent Binary64.leastExponent).value ∧
          -1100 ≤ form.number.exponent := by
  have compact := compactText_eq found
  dsimp only at compact
  generalize shortest mantissa exponent Binary64.leastExponent = decimal at *
  have marked {form : DecimalForm} (fractional : form.IsFractional)
      (text : (compactText value).toList = form.text) :
      (floatLiteralText value).toList = form.text := by
    have mark : (compactText value).toList.any isMark = true := by
      obtain ⟨character, member, here⟩ := List.any_eq_true.1 fractional.any
      rw [text]
      exact List.any_eq_true.2 ⟨character, member, isMark_of_isFractional here⟩
    rw [floatLiteralText]
    exact (congrArg String.toList (if_pos mark)).trans text
  split at compact
  · obtain ⟨form, text, exponent_ne, bounded, number⟩ := decimal.scientific_form small
    refine ⟨form, marked (.inr exponent_ne) (by rw [compact, text]), .inr exponent_ne, bounded, ?_, ?_⟩
    · rw [number]
    · rwa [number]
  -- Without an exponent a point is written inside the digits, or behind all of them.
  · rcases lt_or_ge decimal.exponent 0 with negative | whole
    · obtain ⟨form, text, none, number⟩ := decimal.positional_fraction negative
      have fraction : form.fraction ≠ [] := by
        intro empty
        have places := congrArg Number.exponent number
        rw [DecimalForm.number, DecimalForm.writtenExponent, none, empty] at places
        dsimp only at places
        rw [List.length_nil] at places
        omega
      refine ⟨form, marked (.inl fraction) (by rw [compact, text]), .inl fraction, ?_, ?_, ?_⟩
      · intro _ _ some
        rw [none] at some
        cases some
      · rw [number]
      · rwa [number]
    · obtain ⟨digits, text, digits_ne, all, number⟩ := decimal.positional_whole whole
      -- A whole number has no mark in its compact text, so the literal appends a fraction of zero.
      have plain : ¬(compactText value).toList.any isMark = true := by
        rw [compact, text, List.any_eq_true]
        rintro ⟨digit, member, mark⟩
        rw [isMark_digit (all digit member)] at mark
        cases mark
      have literal : (floatLiteralText value).toList = digits ++ ".0".toList := by
        rw [floatLiteralText]
        refine (congrArg String.toList (if_neg plain)).trans ?_
        rw [String.toList_append, compact, text]
      refine ⟨plainForm digits ['0'] digits_ne all (zeros_digits 1), ?_,
        .inl (List.cons_ne_nil _ _), fun _ _ none => (Option.some_ne_none _ none.symm).elim,
        Number.value_of_whole whole digits_ne all number, ?_⟩
      · rw [literal, plainForm_text _ _ _ (List.cons_ne_nil _ _)]
        rfl
      · rw [plainForm_number, List.length_singleton]
        exact show (-1100 : Int) ≤ 0 - 1 by decide

/-- A float without a sign is read back from its literal. -/
theorem floatLiteral_reads {value : Float} {mantissa : Nat} {exponent : Int}
    (found : Binary64.ofFloat value = .finite false mantissa exponent) :
    ∃ form : DecimalForm, (floatLiteralText value).toList = form.text ∧ form.IsFractional ∧
      floatValue (encode (floatLiteralText value)) = .ok value := by
  have canonical : Binary64.IsCanonical mantissa exponent := Binary64.ofBits_canonical found
  have back : (Binary64.finite false mantissa exponent).toFloat = value :=
    Binary64.toFloat_ofFloat found
  have read {form : DecimalForm} (text : (floatLiteralText value).toList = form.text)
      (small : ∀ sign digits, form.exponent = some (sign, digits) → digitsValue digits < 100000)
      (result : ofDecimal false form.number.coefficient form.number.exponent =
        .finite false mantissa exponent) :
      floatValue (encode (floatLiteralText value)) = .ok value := by
    have reading := form.ofText_text small
    rw [result, ← text, String.ofList_toList] at reading
    rw [floatValue, decode_encode, reading]
    exact congrArg Except.ok back
  by_cases zero : mantissa = 0
  · subst zero
    have number : shortest 0 exponent Binary64.leastExponent = ⟨0, 0⟩ := rfl
    obtain ⟨form, text, fractional, small, same, _⟩ :=
      floatLiteral_form found (by rw [number]; decide) (by rw [number]; decide)
    refine ⟨form, text, fractional, read text small ?_⟩
    have coefficient : form.number.coefficient = 0 := by
      rw [number, Number.value, Number.value, Nat.cast_zero, zero_mul, mul_eq_zero] at same
      rcases same with zero | power
      · exact_mod_cast zero
      · exact absurd power (by positivity)
    rw [coefficient, canonical.2.2.2 (twoTo_pos _)]
    rfl
  · obtain ⟨holds, least⟩ := shortest_holds zero canonical
    have solid : (shortest mantissa exponent Binary64.leastExponent).coefficient ≠ 0 := by
      intro none
      have positive := holds.positive zero
      rw [Number.value, none, Nat.cast_zero, zero_mul] at positive
      exact lt_irrefl _ positive
    have small := Number.pointPlace_bounds _ least solid (holds.bounds zero canonical).2
    obtain ⟨form, text, fractional, small, same, least⟩ := floatLiteral_form found least small
    rw [← same] at holds
    exact ⟨form, text, fractional, read text small (ofDecimal_eq false _ zero canonical holds least)⟩

end Reckon.Decimal
