/-
This file shows how the lexemes of names and numbers are spelled, and that an integer token stands for
the positional value of its digits.
-/

import Mathlib.Algebra.Group.Nat.Defs
import Reckon.Numeral
import Reckon.Proofs.Token.Lossless

namespace Reckon

open Text Lexeme Decimal

namespace Lexeme

/-- The glyphs of a run are in its class. -/
theorem take_run (inClass : Char → Bool) (glyphs : List Glyph) (glyph : Glyph)
    (member : glyph ∈ glyphs.take (run inClass glyphs)) : inClass glyph.character = true := by
  rw [run, ← List.prefix_iff_eq_take.1 (List.takeWhile_prefix _)] at member
  have found := List.mem_takeWhile_imp member
  exact found

/-- These are nothing but decimal digits. -/
def AllDigits (characters : List Char) : Prop :=
  ∀ character ∈ characters, isDecimalDigit character = true

theorem AllDigits.append {first second : List Char} (left : AllDigits first)
    (right : AllDigits second) : AllDigits (first ++ second) :=
  List.forall_mem_append.2 ⟨left, right⟩

/-- An integer is spelled with decimal digits, or with those of a radix after its mark. -/
inductive IntegerSpelling : List Char → Prop where
  | decimal {digits : List Char} (some : digits ≠ [])
      (all : ∀ digit ∈ digits, isDecimalDigit digit = true) : IntegerSpelling digits
  | hexadecimal {digits : List Char} (some : digits ≠ [])
      (all : ∀ digit ∈ digits, isHexDigit digit = true) : IntegerSpelling ('0' :: 'x' :: digits)
  | binary {digits : List Char} (some : digits ≠ [])
      (all : ∀ digit ∈ digits, isBinaryDigit digit = true) : IntegerSpelling ('0' :: 'b' :: digits)

/-- An integer with a radix mark has at least one digit, and all are digits of the radix. -/
theorem scanRadix_digits {isRadixDigit : Char → Bool} {digits : List Glyph} {length : Nat}
    (found : (scanRadix isRadixDigit digits).token? = some (.integer, length)) :
    ∃ count, length = 2 + count ∧ digits.take count ≠ [] ∧
      ∀ digit ∈ (digits.take count).map Glyph.character, isRadixDigit digit = true := by
  revert found
  unfold scanRadix
  split
  · intro found
    cases found
  · rename_i some
    intro found
    cases found
    refine ⟨run isRadixDigit digits, rfl, ?_, ?_⟩
    · intro empty
      have inside := run_le isRadixDigit digits
      have none := congrArg List.length empty
      rw [List.length_take, List.length_nil, Nat.min_eq_left inside] at none
      exact some none
    · intro digit member
      obtain ⟨glyph, inside, rfl⟩ := List.mem_map.1 member
      exact take_run isRadixDigit digits glyph inside

/-- A number without a point and without an exponent has only digits. -/
theorem numberEnd_digits (passed : Nat) (glyphs : List Glyph)
    (plain : ∀ glyph ∈ glyphs.take (numberEnd passed glyphs - passed),
      (glyph.is '.' || isExponentMark glyph.character) = false) :
    ∀ glyph ∈ glyphs.take (numberEnd passed glyphs - passed),
      isDecimalDigit glyph.character = true := by
  fun_induction numberEnd passed glyphs with
  | case1 => simp
  | case2 passed first rest digit ih =>
      have bounds := numberEnd_bounds (passed + 1) rest
      have step : numberEnd (passed + 1) rest - passed =
          numberEnd (passed + 1) rest - (passed + 1) + 1 := by omega
      rw [step, List.take_succ_cons] at plain ⊢
      have here := plain first List.mem_cons_self
      have later := ih fun glyph member => plain glyph (List.mem_cons_of_mem _ member)
      refine List.forall_mem_cons.2 ⟨?_, later⟩
      rw [Bool.or_eq_false_iff] at here
      simpa [here.1] using digit
  | case3 passed first _ mark second rest _ ih =>
      have bounds := numberEnd_bounds (passed + 2) rest
      obtain ⟨count, more⟩ : ∃ count, numberEnd (passed + 2) rest - passed = count + 1 :=
        ⟨numberEnd (passed + 2) rest - passed - 1, by omega⟩
      rw [more, List.take_succ_cons] at plain
      have here := plain first List.mem_cons_self
      rw [mark, Bool.or_true] at here
      cases here
  | case4 passed first _ mark second rest _ ih =>
      have bounds := numberEnd_bounds (passed + 1) (second :: rest)
      obtain ⟨count, more⟩ : ∃ count, numberEnd (passed + 1) (second :: rest) - passed = count + 1 :=
        ⟨numberEnd (passed + 1) (second :: rest) - passed - 1, by omega⟩
      rw [more, List.take_succ_cons] at plain
      have here := plain first List.mem_cons_self
      rw [mark, Bool.or_true] at here
      cases here
  | case5 passed first _ mark =>
      have here := plain first (by simp)
      rw [mark, Bool.or_true] at here
      cases here
  | case6 passed first rest => simp

/-- A decimal integer is spelled with digits alone. -/
theorem scanDecimal_spelling {first : Glyph} {rest : List Glyph} {length : Nat}
    (digit : isDecimalDigit first.character = true)
    (found : (scanDecimal rest).token? = some (.integer, length)) :
    IntegerSpelling (((first :: rest).take length).map Glyph.character) := by
  revert found
  unfold scanDecimal
  dsimp only
  split
  · intro found
    cases found
  · rename_i plain
    intro found
    cases found
    have bounds := numberEnd_bounds 1 rest
    have digits := numberEnd_digits 1 rest (by simpa using plain)
    obtain ⟨count, more⟩ : ∃ count, numberEnd 1 rest = count + 1 := ⟨numberEnd 1 rest - 1, by omega⟩
    rw [more, Nat.add_sub_cancel] at digits
    rw [more, List.take_succ_cons, List.map_cons]
    refine .decimal (by simp) (List.forall_mem_cons.2 ⟨digit, ?_⟩)
    intro character member
    obtain ⟨glyph, inside, rfl⟩ := List.mem_map.1 member
    exact digits glyph inside

/-- An integer is spelled with digits, with or without a radix mark. -/
theorem scanNumber_spelling {first : Glyph} {rest : List Glyph} {length : Nat}
    (digit : isDecimalDigit first.character = true)
    (found : (scanNumber first rest).token? = some (.integer, length)) :
    IntegerSpelling (((first :: rest).take length).map Glyph.character) := by
  revert found
  have radix {isRadixDigit : Char → Bool} (second : Glyph) {digits : List Glyph}
      (found : (scanRadix isRadixDigit digits).token? = some (.integer, length)) :
      ∃ characters, ((first :: second :: digits).take length).map Glyph.character =
        first.character :: second.character :: characters ∧ characters ≠ [] ∧
          ∀ digit ∈ characters, isRadixDigit digit = true := by
    obtain ⟨count, rfl, some, all⟩ := scanRadix_digits found
    refine ⟨(digits.take count).map Glyph.character, ?_, by simpa using some, all⟩
    rw [Nat.add_comm, List.take_succ_cons, List.take_succ_cons, List.map_cons, List.map_cons]
  fun_cases scanNumber first rest with
  | case1 second digits marks =>
      intro found
      obtain ⟨characters, split, some, all⟩ := radix second found
      simp only [Glyph.is, Bool.and_eq_true, beq_iff_eq] at marks
      rw [split, marks.1, marks.2]
      exact .binary some all
  | case2 second digits _ marks =>
      intro found
      obtain ⟨characters, split, some, all⟩ := radix second found
      simp only [Glyph.is, Bool.and_eq_true, beq_iff_eq] at marks
      rw [split, marks.1, marks.2]
      exact .hexadecimal some all
  | case3 => exact scanDecimal_spelling digit
  | case4 => exact scanDecimal_spelling digit

/-- A name is spelled with a letter first, and it is no keyword. -/
def NameSpelling (characters : List Char) : Prop :=
  ∃ first more, characters = first :: more ∧ startsName first = true ∧
    (∀ character ∈ more, continuesName character = true) ∧
      Kind.ofWord (String.ofList characters) = .identifier

/-- A dash is a token of its own or opens a comment. -/
theorem scanDash_kind {rest : List Glyph} {kind : Kind} {length : Nat}
    (found : (scanDash rest).token? = some (kind, length)) : kind = .comment ∨ kind = .dash := by
  revert found
  fun_cases scanDash rest with
  | case1 | case2 =>
      intro found
      cases found
      exact .inl rfl
  | case3 =>
      intro found
      cases found
  | case4 | case5 =>
      intro found
      cases found
      exact .inr rfl

/-- A quote opens nothing but a string. -/
theorem scanString_kind {rest : List Glyph} {kind : Kind} {length : Nat}
    (found : (scanString rest).token? = some (kind, length)) : kind = .string := by
  revert found
  fun_cases scanString rest with
  | case1 =>
      intro found
      cases found
      rfl
  | case2 =>
      intro found
      cases found

/-- A radix mark opens an integer, or is not recognized. -/
theorem scanRadix_kind {isRadixDigit : Char → Bool} {digits : List Glyph} {kind : Kind} {length : Nat}
    (found : (scanRadix isRadixDigit digits).token? = some (kind, length)) :
    kind = .integer ∨ kind = .unrecognized := by
  revert found
  unfold scanRadix
  split
  all_goals
    intro found
    cases found
    decide

/-- A digit opens a numeral, or a radix mark that is not recognized. -/
theorem scanNumber_kind {first : Glyph} {rest : List Glyph} {kind : Kind} {length : Nat}
    (found : (scanNumber first rest).token? = some (kind, length)) :
    kind = .integer ∨ kind = .float ∨ kind = .unrecognized := by
  have decimal {rest : List Glyph} (found : (scanDecimal rest).token? = some (kind, length)) :
      kind = .integer ∨ kind = .float := by
    revert found
    unfold scanDecimal
    dsimp only
    split
    all_goals
      intro found
      cases found
      decide
  revert found
  fun_cases scanNumber first rest with
  | case1 =>
      intro found
      exact (scanRadix_kind found).imp_right .inr
  | case2 =>
      intro found
      exact (scanRadix_kind found).imp_right .inr
  | case3 =>
      intro found
      exact (decimal found).imp_right .inl
  | case4 =>
      intro found
      exact (decimal found).imp_right .inl

/-- A token comes from the scanner that its first character selects. -/
inductive Source (first : Glyph) (rest : List Glyph) : Kind → Nat → Prop where
  | dash {length : Nat} : Source first rest .dash length
  | comment {length : Nat} (isDash : first.is '-' = true) (same : scan first rest = scanDash rest) :
      Source first rest .comment length
  | string {length : Nat} : Source first rest .string length
  | word {kind : Kind} {length : Nat} (starts : startsName first.character = true)
      (found : (scanWord first rest).token? = some (kind, length))
      (named : kind ∉ .unrecognized :: wordlessKinds) : Source first rest kind length
  | number {kind : Kind} {length : Nat} (digit : isDecimalDigit first.character = true)
      (same : scan first rest = scanNumber first rest)
      (found : (scanNumber first rest).token? = some (kind, length))
      (numeric : kind ∈ [.integer, .float, .unrecognized]) : Source first rest kind length
  | symbol {kind : Kind} (known : kind ∉ .unrecognized :: .identifier :: wordlessKinds) :
      Source first rest kind 1
  | unexpected (same : scan first rest = .unexpected) : Source first rest .unrecognized 1

/-- Every token comes from the first glyph that opens it. -/
theorem scan_source {first : Glyph} {rest : List Glyph} {kind : Kind} {length : Nat}
    (found : (scan first rest).token? = some (kind, length)) : Source first rest kind length := by
  revert found
  fun_cases scan first rest with
  | case1 dash =>
      intro found
      rcases scanDash_kind found with rfl | rfl
      · exact .comment dash (by rw [scan, if_pos dash])
      · exact .dash
  | case2 =>
      intro found
      cases scanString_kind found
      exact .string
  | case3 _ _ starts =>
      intro found
      refine .word starts found fun wordless => ?_
      simp only [scanWord, Scan.token?, Option.some.injEq, Prod.mk.injEq] at found
      exact ofWord_ne _ wordless found.1
  | case4 notDash notQuote notName digit =>
      intro found
      have same : scan first rest = scanNumber first rest := by
        rw [scan, if_neg notDash, if_neg notQuote, if_neg notName, if_pos digit]
      refine .number digit same found ?_
      rcases scanNumber_kind found with rfl | rfl | rfl <;> decide
  | case5 _ _ _ _ kind known =>
      intro found
      cases found
      exact .symbol fun wordless => ofSymbol?_ne known wordless rfl
  | case6 notDash notQuote notName notDigit unknown =>
      intro found
      cases found
      refine .unexpected ?_
      rw [scan, if_neg notDash, if_neg notQuote, if_neg notName, if_neg notDigit, unknown]

/-- Every identifier token is spelled as a name. -/
theorem scan_identifier {first : Glyph} {rest : List Glyph} {length : Nat}
    (found : (scan first rest).token? = some (.identifier, length)) :
    NameSpelling (((first :: rest).take length).map Glyph.character) := by
  cases scan_source found with
  | word starts found =>
      simp only [scanWord, Scan.token?, Option.some.injEq, Prod.mk.injEq] at found
      obtain ⟨isWord, rfl⟩ := found
      rw [Nat.add_comm, List.take_succ_cons, List.map_cons]
      refine ⟨_, _, rfl, starts, fun character member => ?_, isWord⟩
      obtain ⟨glyph, inside, rfl⟩ := List.mem_map.1 member
      exact take_run continuesName rest glyph inside
  | number _ _ _ numeric => exact absurd numeric (by decide)
  | symbol known => exact absurd (by decide) known

/-- Every float token starts with a digit. -/
theorem scan_float {first : Glyph} {rest : List Glyph} {length : Nat}
    (found : (scan first rest).token? = some (.float, length)) :
    isDecimalDigit first.character = true := by
  cases scan_source found with
  | word _ _ named => exact absurd (by decide) named
  | number digit => exact digit
  | symbol known => exact absurd (by decide) known

/-- Every integer token is spelled as an integer. -/
theorem scan_integer {first : Glyph} {rest : List Glyph} {length : Nat}
    (found : (scan first rest).token? = some (.integer, length)) :
    IntegerSpelling (((first :: rest).take length).map Glyph.character) := by
  cases scan_source found with
  | word _ _ named => exact absurd (by decide) named
  | number digit _ found => exact scanNumber_spelling digit found
  | symbol known => exact absurd (by decide) known

end Lexeme

namespace IntegerReading

/-- A decimal digit has its value in every radix from ten on. -/
theorem radixDigit?_decimal {radix : Nat} {digit : Char} (large : 10 ≤ radix)
    (isDigit : isDecimalDigit digit = true) :
    radixDigit? radix digit = some (digit.toNat - '0'.toNat) := by
  simp only [isDecimalDigit, Bool.and_eq_true, decide_eq_true_eq] at isDigit
  have below : digit.toNat ≤ '9'.toNat := isDigit.2
  have zero : '9'.toNat = '0'.toNat + 9 := rfl
  have small : digit.toNat - '0'.toNat < radix := by omega
  simp only [radixDigit?, isDigit, and_self, if_true, Option.filter_some, decide_eq_true small]

/-- A binary digit has a value. -/
theorem radixDigit?_binary {digit : Char} (isDigit : isBinaryDigit digit = true) :
    radixDigit? 2 digit ≠ none := by
  simp only [isBinaryDigit, Bool.or_eq_true, beq_iff_eq] at isDigit
  rcases isDigit with rfl | rfl <;> decide

/-- A hexadecimal digit has a value. -/
theorem radixDigit?_hexadecimal {digit : Char} (isDigit : isHexDigit digit = true) :
    radixDigit? 16 digit ≠ none := by
  by_cases decimal : isDecimalDigit digit = true
  · rw [radixDigit?_decimal (by decide) decimal]
    exact Option.some_ne_none _
  · simp only [isHexDigit, decimal, Bool.false_or, Bool.or_eq_true, Bool.and_eq_true,
      decide_eq_true_eq] at isDigit
    have notDecimal : ¬('0' ≤ digit ∧ digit ≤ '9') := by
      simpa only [isDecimalDigit, Bool.and_eq_true, decide_eq_true_eq] using decimal
    rw [radixDigit?, if_neg notDecimal]
    rcases isDigit with ⟨low, high⟩ | ⟨low, high⟩
    · have above : 'a'.toNat ≤ digit.toNat := low
      have below : digit.toNat ≤ 'f'.toNat := high
      have span : 'f'.toNat = 'a'.toNat + 5 := rfl
      have small : digit.toNat - 'a'.toNat + 10 < 16 := by omega
      have letter : 'a' ≤ digit ∧ digit ≤ 'z' := ⟨low, Nat.le_trans below (by decide)⟩
      simp only [letter, and_self, if_true, Option.filter_some, decide_eq_true small]
      exact Option.some_ne_none _
    · have above : 'A'.toNat ≤ digit.toNat := low
      have below : digit.toNat ≤ 'F'.toNat := high
      have span : 'F'.toNat = 'A'.toNat + 5 := rfl
      have small : digit.toNat - 'A'.toNat + 10 < 16 := by omega
      have capital : 'A' ≤ digit ∧ digit ≤ 'Z' := ⟨low, Nat.le_trans below (by decide)⟩
      have notLetter : ¬('a' ≤ digit ∧ digit ≤ 'z') := by
        intro letter
        have above : 'a'.toNat ≤ digit.toNat := letter.1
        have far : 'a'.toNat = 'F'.toNat + 27 := rfl
        omega
      simp only [notLetter, capital, and_self, if_true, if_false, Option.filter_some,
        decide_eq_true small]
      exact Option.some_ne_none _

/-- A text that starts with no sign is not negative. -/
theorem splitSign_digit {digit : Char} {digits : List Char} (notDash : digit ≠ '-')
    (notPlus : digit ≠ '+') : splitSign (digit :: digits) = (false, digit :: digits) := by
  unfold splitSign
  split
  · rename_i same
    exact absurd (List.cons.inj same).1 notDash
  · rename_i same
    exact absurd (List.cons.inj same).1 notPlus
  · rfl

/-- Digits without a sign are read as a number that is not negative. -/
theorem ofDigits_unsigned {radix : Nat} {digit : Char} {digits : List Char} (notDash : digit ≠ '-')
    (notPlus : digit ≠ '+') : ofDigits radix (digit :: digits) =
      match magnitude radix 0 (digit :: digits) with
      | none => malformed
      | some none => outOfRange
      | some (some magnitude) => signed false magnitude := by
  rewrite [ofDigits, splitSign_digit notDash notPlus]
  rfl

/-- A number with a radix mark is no decimal number. -/
theorem ofDigits_marked {mark : Char} {digits : List Char} (letter : radixDigit? 10 mark = none) :
    ofDigits 10 ('0' :: mark :: digits) = malformed := by
  rw [ofDigits_unsigned (by decide) (by decide)]
  have zero : radixDigit? 10 '0' = some 0 := by decide
  have small : 0 < twoTo 64 := by decide
  simp only [magnitude, zero, letter, Nat.zero_mul, Nat.add_zero, small, if_true]

/-- Each digit counts for as many as its place tells. -/
def positional (radix : Nat) : List Char → Nat
  | [] => 0
  | digit :: digits =>
      (radixDigit? radix digit).getD 0 * radix ^ digits.length + positional radix digits

/-- This is the number that an integer spells. -/
def spelledValue : List Char → Nat
  | '0' :: 'x' :: digits => positional 16 digits
  | '0' :: 'b' :: digits => positional 2 digits
  | digits => positional 10 digits

/-- Reading stops early exactly at numbers of more than sixty-four bits. -/
theorem magnitude_positional {radix : Nat} (large : 0 < radix) {digits : List Char}
    (all : ∀ digit ∈ digits, radixDigit? radix digit ≠ none) (read : Nat) (small : read < twoTo 64) :
    magnitude radix read digits =
      if read * radix ^ digits.length + positional radix digits < twoTo 64 then
        some (some (read * radix ^ digits.length + positional radix digits))
      else some none := by
  induction digits generalizing read with
  | nil =>
      have whole : read * radix ^ 0 + 0 = read := by
        rw [Nat.pow_zero, Nat.mul_one, Nat.add_zero]
      rw [magnitude, positional, List.length_nil, whole, if_pos small]
  | cons digit digits ih =>
      obtain ⟨here, later⟩ := List.forall_mem_cons.1 all
      obtain ⟨value, known⟩ := Option.ne_none_iff_exists'.1 here
      have whole : read * radix ^ (digit :: digits).length + positional radix (digit :: digits) =
          (read * radix + value) * radix ^ digits.length + positional radix digits := by
        rw [positional, known, Option.getD_some, List.length_cons, Nat.pow_succ, Nat.add_mul,
          Nat.mul_assoc read radix, Nat.mul_comm radix, Nat.add_assoc]
      simp only [magnitude, known]
      rw [whole]
      split
      · rename_i below
        exact ih later _ below
      · rename_i beyond
        have places : 0 < radix ^ digits.length := Nat.pow_pos large
        have least := Nat.le_mul_of_pos_right (read * radix + value) places
        rw [if_neg (by omega)]

/-- Digits are read as their number if it is a number of sixty-four bits with a sign. -/
theorem ofDigits_positional {radix : Nat} (large : 0 < radix) {digits : List Char}
    (solid : digits ≠ []) (all : ∀ digit ∈ digits, radixDigit? radix digit ≠ none) :
    ofDigits radix digits = if positional radix digits < twoTo 63 then
      value (Int64.ofInt (positional radix digits)) else outOfRange := by
  have powers : twoTo 63 < twoTo 64 := by decide
  have read := magnitude_positional large all 0 (by decide)
  rw [Nat.zero_mul, Nat.zero_add] at read
  cases digits with
  | nil => exact absurd rfl solid
  | cons digit digits =>
      have here := all digit List.mem_cons_self
      have notDash : digit ≠ '-' := by
        rintro rfl
        exact here rfl
      have notPlus : digit ≠ '+' := by
        rintro rfl
        exact here rfl
      rw [ofDigits_unsigned notDash notPlus, read]
      split
      · rename_i same
        split at same <;> cases same
      · rename_i same
        split at same
        · cases same
        · rw [if_neg (by omega)]
      · rename_i same
        split at same
        · cases same
          rw [signed, if_neg Bool.false_ne_true]
        · cases same

/-- Digits without a radix mark are read in radix ten. -/
theorem spelledValue_decimal {digits : List Char} (all : AllDigits digits) :
    spelledValue digits = positional 10 digits := by
  unfold spelledValue
  split
  · have mark := all 'x' (by simp)
    cases mark
  · have mark := all 'b' (by simp)
    cases mark
  · rfl

/-- An integer is read as the number that it spells. -/
theorem ofText_spelledValue {characters : List Char} (spelling : IntegerSpelling characters) :
    ofText characters = if spelledValue characters < twoTo 63 then
      value (Int64.ofInt (spelledValue characters)) else outOfRange := by
  unfold ofText
  cases spelling with
  | decimal solid all =>
      have read := @ofDigits_positional 10 (by decide) _ solid fun digit member => by
        rw [radixDigit?_decimal (by decide) (all digit member)]
        exact Option.some_ne_none _
      rw [read, spelledValue_decimal all]
      split_ifs <;> rfl
  | hexadecimal solid all =>
      rw [ofDigits_marked (by decide)]
      exact ofDigits_positional (by decide) solid
        fun digit member => radixDigit?_hexadecimal (all digit member)
  | binary solid all =>
      rw [ofDigits_marked (by decide)]
      exact ofDigits_positional (by decide) solid
        fun digit member => radixDigit?_binary (all digit member)

end IntegerReading

/-- An integer token has the value that it spells, or it is too great for one. -/
theorem integerValue_spelled {lexeme : Bytes}
    (spelling : IntegerSpelling (lexeme.glyphs.map Glyph.character)) :
    integerValue lexeme =
      .ok (if IntegerReading.spelledValue (lexeme.glyphs.map Glyph.character) < twoTo 63 then
        .ok (Int64.ofInt (IntegerReading.spelledValue (lexeme.glyphs.map Glyph.character)))
      else .error .integerOverflow) := by
  rw [integerValue, IntegerReading.ofText_spelledValue spelling]
  split_ifs <;> rfl

/-- The lexeme of a segment is what a scan finds at its start. -/
def Segment.Scanned (segment : Segment) : Prop :=
  ∃ first rest length, (scan first rest).token? = some (segment.kind, length) ∧
    segment.lexeme = (first :: rest).take length ∧ IsText segment.lexeme

/-- Every segment of a text was scanned from glyphs of the text. -/
theorem Cut.scanned {place : Location} {glyphs : List Glyph} {segments : List Segment}
    {tail : List Glyph} {misreadings : List Misreading}
    (cut : Cut place glyphs segments tail misreadings) (text : IsText glyphs) (segment : Segment)
    (member : segment ∈ segments) : segment.Scanned := by
  induction cut with
  | finished => cases member
  | opened => cases member
  | @segment place gap first rest kind length segments tail misreadings blank solid found later ih =>
      have behind := (IsText.of_append _ _ text).2
      rw [← List.take_append_drop length (first :: rest)] at behind
      have split := IsText.of_append _ _ behind
      rcases List.mem_cons.1 member with here | later
      · rw [here]
        exact ⟨first, rest, length, found, rfl, split.1⟩
      · exact ih split.2 later

/-- Every token comes from a segment, up to the end of input. -/
theorem mem_tokensFrom {place : Location} {tail : List Glyph} {segments : List Segment}
    {token : Token} (member : token ∈ tokensFrom place tail segments) :
    token.kind = .endOfInput ∨ ∃ segment ∈ segments, token.kind = segment.kind ∧
      token.lexeme = glyphBytes segment.lexeme := by
  induction segments generalizing place with
  | nil =>
      rw [tokensFrom, List.mem_singleton] at member
      rw [member]
      exact .inl rfl
  | cons segment segments ih =>
      rcases List.mem_cons.1 member with first | later
      · rw [first]
        exact .inr ⟨segment, List.mem_cons_self, rfl, rfl⟩
      · rcases ih later with ends | ⟨other, member, same⟩
        · exact .inl ends
        · exact .inr ⟨other, List.mem_cons_of_mem _ member, same⟩

/-- The characters of a token are those of its segment. -/
theorem Segment.Scanned.glyphs {segment : Segment} (scanned : segment.Scanned) :
    (glyphBytes segment.lexeme).glyphs = segment.lexeme := by
  obtain ⟨_, _, _, _, _, text⟩ := scanned
  exact glyphs_glyphBytes _ text

/-- An integer that was scanned is spelled like one. -/
theorem Segment.Scanned.integer {segment : Segment} (scanned : segment.Scanned)
    (kind : segment.kind = .integer) :
    IntegerSpelling ((glyphBytes segment.lexeme).glyphs.map Glyph.character) := by
  have glyphs := scanned.glyphs
  obtain ⟨first, rest, length, found, same, _⟩ := scanned
  rw [kind] at found
  rw [glyphs, same]
  exact scan_integer found

/-- An identifier has the spelling of a name. -/
theorem Segment.Scanned.name {segment : Segment} (scanned : segment.Scanned)
    (kind : segment.kind = .identifier) :
    NameSpelling (segment.lexeme.map Glyph.character) := by
  obtain ⟨first, rest, length, found, same, _⟩ := scanned
  rw [kind] at found
  rw [same]
  exact scan_identifier found

/-- A float starts with a digit. -/
theorem Segment.Scanned.float {segment : Segment} (scanned : segment.Scanned)
    (kind : segment.kind = .float) : ∃ digit rest, isDecimalDigit digit = true ∧
      segment.lexeme.map Glyph.character = digit :: rest := by
  obtain ⟨first, rest, length, found, same, _⟩ := scanned
  obtain ⟨positive, _, _⟩ := scan_fits first rest _ _ found
  obtain ⟨less, rfl⟩ : ∃ less, length = less + 1 := ⟨length - 1, by omega⟩
  rw [kind] at found
  exact ⟨first.character, _, scan_float found, by rw [same, List.take_succ_cons, List.map_cons]⟩

end Reckon
