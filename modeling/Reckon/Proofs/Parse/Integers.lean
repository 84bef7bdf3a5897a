/-
This file gives integer tokens their positional values. A value of more than sixty-three bits is reported,
and every other one is read.
-/

import Mathlib.Data.Nat.Digits.Defs
import Reckon.Proofs.Parse.Numerals

namespace Reckon

open Text Lexeme Decimal Grammar Reckon.Parser

/-- The value of a digit is its place in the order of digits. Capitals count like small letters. -/
def digitValue (digit : Char) : Nat := "0123456789abcdef".toList.idxOf digit.toLower

/-- This is the number that digits denote in a radix, the most significant one first. -/
def placeValue (radix : Nat) (digits : List Char) : Nat :=
  Nat.ofDigits radix (digits.reverse.map digitValue)

/-- These characters are digits of a radix, after a mark unless they are decimal. -/
inductive InRadix : List Char → Nat → List Char → Prop
  | decimal {digits : List Char} (some : digits ≠ [])
      (all : ∀ digit ∈ digits, digit ∈ "0123456789".toList) : InRadix digits 10 digits
  | hexadecimal {digits : List Char} (some : digits ≠ [])
      (all : ∀ digit ∈ digits, digit ∈ "0123456789abcdefABCDEF".toList) :
      InRadix ('0' :: 'x' :: digits) 16 digits
  | binary {digits : List Char} (some : digits ≠ [])
      (all : ∀ digit ∈ digits, digit ∈ "01".toList) : InRadix ('0' :: 'b' :: digits) 2 digits

/-- An integer token is read as its number, or it is reported with its lexeme when the number is beyond
sixty-three bits. The first reading is decimal, and it stands unless the radix is another one. -/
structure Token.ReadsAs (token : Token) (radix number : Nat) : Prop where
  inside : number ≤ 2 ^ 63 - 1 → ∃ value : Int64, value.toInt = number ∧
    integerValue token.lexeme = .ok (.ok value) ∧
    ∀ rest, Grammar.number.Yields (token :: rest) (.literal token.span (.int value)) [] rest
  beyond : 2 ^ 63 - 1 < number → integerValue token.lexeme = .ok (.error .integerOverflow) ∧
    ∀ rest, Grammar.number.Yields (token :: rest) (.literal token.span (.int 0))
      [.atSpan token.span (.invalidNumeral token.lexeme .integerOverflow)] rest
  retried : IntegerReading.ofDigits 10 (token.lexeme.glyphs.map Glyph.character) = .malformed ↔
    radix ≠ 10
  overflows : IntegerReading.ofDigits 10 (token.lexeme.glyphs.map Glyph.character) = .outOfRange ↔
    radix = 10 ∧ 2 ^ 63 - 1 < number

namespace IntegerReading

/-- A digit within a range is among the listed ones. -/
theorem mem_of_range {digit : Char} {digits : List Char} {low high : Nat}
    (listed : ∀ code, low ≤ code → code ≤ high → Char.ofNat code ∈ digits)
    (above : low ≤ digit.toNat) (below : digit.toNat ≤ high) : digit ∈ digits := by
  rw [← Char.ofNat_toNat digit]
  exact listed _ above below

/-- The decimal digits are the listed ones. -/
theorem mem_decimalDigits {digit : Char} (isDigit : isDecimalDigit digit = true) :
    digit ∈ "0123456789".toList := by
  simp only [isDecimalDigit, Bool.and_eq_true, decide_eq_true_eq] at isDigit
  exact @mem_of_range digit _ 48 57 (by decide) isDigit.1 isDigit.2

/-- The hexadecimal digits are the listed ones. -/
theorem mem_hexDigits {digit : Char} (isDigit : isHexDigit digit = true) :
    digit ∈ "0123456789abcdefABCDEF".toList := by
  simp only [isHexDigit, Bool.or_eq_true, Bool.and_eq_true, decide_eq_true_eq] at isDigit
  rcases isDigit with (decimal | ⟨low, high⟩) | ⟨low, high⟩
  · exact List.mem_append_left "abcdefABCDEF".toList (mem_decimalDigits decimal)
  · exact @mem_of_range digit _ 97 102 (by decide) low high
  · exact @mem_of_range digit _ 65 70 (by decide) low high

theorem mem_binaryDigits {digit : Char} (isDigit : isBinaryDigit digit = true) :
    digit ∈ "01".toList := by
  simpa [isBinaryDigit] using isDigit

/-- Each digit of a radix is read as its value. -/
theorem radixDigit?_digitValue :
    (∀ digit ∈ "0123456789".toList, radixDigit? 10 digit = some (digitValue digit)) ∧
    (∀ digit ∈ "0123456789abcdefABCDEF".toList, radixDigit? 16 digit = some (digitValue digit)) ∧
    ∀ digit ∈ "01".toList, radixDigit? 2 digit = some (digitValue digit) := by
  simp only [← beq_iff_eq (b := some (digitValue _)), ← List.all_eq_true]
  decide

/-- The value of all digits is the sum over the places. -/
theorem positional_placeValue {radix : Nat} {digits : List Char}
    (all : ∀ digit ∈ digits, radixDigit? radix digit = some (digitValue digit)) :
    positional radix digits = placeValue radix digits := by
  induction digits with
  | nil => rfl
  | cons digit digits ih =>
      obtain ⟨here, later⟩ := List.forall_mem_cons.1 all
      rw [positional, here, Option.getD_some, ih later, placeValue, placeValue, List.reverse_cons,
        List.map_append, Nat.ofDigits_append, List.map_singleton, Nat.ofDigits_singleton,
        List.length_map, List.length_reverse, Nat.mul_comm, Nat.add_comm]

/-- An integer is spelled in a radix, and it spells the number that its digits denote there. -/
theorem exists_inRadix {characters : List Char} (spelling : IntegerSpelling characters) :
    ∃ radix digits, InRadix characters radix digits ∧
      spelledValue characters = placeValue radix digits := by
  obtain ⟨decimal, hexadecimal, binary⟩ := radixDigit?_digitValue
  cases spelling with
  | decimal some all =>
      have listed := fun digit member => mem_decimalDigits (all digit member)
      refine ⟨10, characters, .decimal some listed, ?_⟩
      rw [spelledValue_decimal all]
      exact positional_placeValue fun digit member => decimal digit (listed digit member)
  | @hexadecimal digits some all =>
      have listed := fun digit member => mem_hexDigits (all digit member)
      refine ⟨16, digits, .hexadecimal some listed, ?_⟩
      exact positional_placeValue fun digit member => hexadecimal digit (listed digit member)
  | @binary digits some all =>
      have listed := fun digit member => mem_binaryDigits (all digit member)
      refine ⟨2, digits, .binary some listed, ?_⟩
      exact positional_placeValue fun digit member => binary digit (listed digit member)

/-- The decimal reading fails on a mark and on nothing else, whatever follows. -/
theorem ofDigits_decimal {characters digits : List Char} {radix : Nat}
    (spelled : InRadix characters radix digits) :
    ofDigits 10 characters = if radix = 10 then
      if placeValue radix digits < 2 ^ 63 then value (Int64.ofInt (placeValue radix digits))
      else outOfRange
    else malformed := by
  cases spelled with
  | decimal some all =>
      have read := fun digit member => radixDigit?_digitValue.1 digit (all digit member)
      have known := @ofDigits_positional 10 (by decide) _ some fun digit member => by
        rw [read digit member]
        exact Option.some_ne_none _
      rw [known, positional_placeValue read]
      rfl
  | hexadecimal => exact ofDigits_marked (by decide)
  | binary => exact ofDigits_marked (by decide)

end IntegerReading

/-- An integer of a text denotes the positional value of its digits, whether these are decimal or stand
after the mark of a radix. It has this value exactly up to `2 ^ 63 - 1`. Beyond it the token is reported,
and it is not tried in another radix. -/
theorem integers_denoted (source : Bytes) :
    ∃ tokens, (Reading.ofBytes source).buffer.tokens = .ok tokens ∧
      ∀ token ∈ tokens, token.kind = .integer → ∃ radix digits,
        InRadix (token.lexeme.glyphs.map Glyph.character) radix digits ∧
          token.ReadsAs radix (placeValue radix digits) := by
  obtain ⟨segments, tail, misreadings, cut⟩ := exists_cut .start source.glyphs
  refine ⟨_, cut.tokens, fun token member kind => ?_⟩
  have spelling := cut.integer_spelling member kind
  obtain ⟨radix, digits, spelled, same⟩ := IntegerReading.exists_inRadix spelling
  have value := integerValue_spelled spelling
  have bits : Decimal.twoTo 63 = 2 ^ 63 := rfl
  have first := IntegerReading.ofDigits_decimal spelled
  rw [same, bits] at value
  refine ⟨radix, digits, spelled, fun inside => ?_, fun beyond => ?_, ?_, ?_⟩
  · have small : placeValue radix digits < 2 ^ 63 := by omega
    rw [if_pos small] at value
    refine ⟨_, Int64.toInt_ofInt_of_le (by omega) (by omega), value, fun rest => ?_⟩
    have yields := yields_number rest (.inl kind)
    simpa only [numeralLiteral, numeralReports, kind, value, numeralOr, problemReports,
      List.flatMap_singleton] using yields
  · rw [if_neg (by omega)] at value
    refine ⟨value, fun rest => ?_⟩
    have yields := yields_number rest (.inl kind)
    simpa only [numeralLiteral, numeralReports, kind, value, numeralOr, problemReports,
      List.flatMap_singleton] using yields
  · rw [first]
    split_ifs <;> simp_all
  · rw [first]
    split_ifs <;> simp_all <;> omega

/-- The greatest value is read from its hexadecimal digits. The number after it is decimal, and it is
reported in spite of its zeros. -/
theorem greatest_denoted :
    let source := encode "0x7fffFFFFffffFFFF 009223372036854775808"
    let greatest : Token := ⟨.integer, source.extract 0 18, ⟨.start, ⟨18, 1, 19⟩⟩⟩
    let beyond : Token := ⟨.integer, source.extract 19 40, ⟨⟨19, 1, 20⟩, ⟨40, 1, 41⟩⟩⟩
    (∃ tokens, (Reading.ofBytes source).buffer.tokens = .ok tokens ∧ greatest ∈ tokens ∧
      beyond ∈ tokens) ∧
    (∃ value : Int64, value.toInt = 2 ^ 63 - 1 ∧ integerValue greatest.lexeme = .ok (.ok value)) ∧
    integerValue beyond.lexeme = .ok (.error .integerOverflow) := by
  intro source greatest beyond
  obtain ⟨tokens, found, denoted⟩ := integers_denoted source
  have read : (Reading.ofBytes source).buffer.tokens =
      .ok [greatest, beyond, ⟨.endOfInput, #[], ⟨⟨40, 1, 41⟩, ⟨40, 1, 41⟩⟩⟩] := by decide +kernel
  obtain rfl := Except.ok.inj (found.symm.trans read)
  refine ⟨⟨_, found, by simp, by simp⟩, ?_, ?_⟩
  · obtain ⟨radix, digits, spelled, reads⟩ := denoted greatest (by simp) rfl
    have shown : greatest.lexeme.glyphs.map Glyph.character = "0x7fffFFFFffffFFFF".toList := by
      decide +kernel
    rw [shown] at spelled
    cases spelled with
    | decimal _ all => exact absurd (all 'x' (by decide)) (by decide)
    | hexadecimal =>
        have number : placeValue 16 "7fffFFFFffffFFFF".toList = 2 ^ 63 - 1 := by decide +kernel
        obtain ⟨value, same, known, _⟩ := reads.inside (Nat.le_of_eq number)
        exact ⟨value, by rw [same]; exact congrArg Int.ofNat number, known⟩
  · obtain ⟨radix, digits, spelled, reads⟩ := denoted beyond (by simp) rfl
    have shown : beyond.lexeme.glyphs.map Glyph.character = "009223372036854775808".toList := by
      decide +kernel
    rw [shown] at spelled
    cases spelled with
    | decimal => exact (reads.beyond (by decide +kernel)).1

end Reckon
