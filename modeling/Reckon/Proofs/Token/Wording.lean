/-
This file shows which words a written text is read as. Words that are written one after another are read
one by one, as long as none of them goes on in the next one.
-/

import Reckon.Proofs.Token.Spelling

namespace Reckon

open Text Lexeme

/-- A word is a token without its place. -/
structure Word where
  kind : Kind
  lexeme : Bytes
  deriving DecidableEq, Repr

def Token.word (token : Token) : Word := ⟨token.kind, token.lexeme⟩

def Segment.word (segment : Segment) : Word := ⟨segment.kind, glyphBytes segment.lexeme⟩

/-- This is the word that is written with the given characters. -/
def Word.written (kind : Kind) (characters : List Char) : Word :=
  ⟨kind, encode (String.ofList characters)⟩

/-- Characters are worded when they are cut into the words without a misreading. No word is a
comment. -/
structure Worded (characters : List Char) (words : List Word) : Prop where
  plain : ∀ word ∈ words, word.kind ≠ .comment
  cut : ∀ place, ∃ segments tail, Cut place (characters.map glyphOf) segments tail [] ∧
    segments.map Segment.word = words

/-- Characters are written as their encoded bytes. -/
theorem glyphBytes_written (characters : List Char) :
    glyphBytes (characters.map glyphOf) = encode (String.ofList characters) := by
  have glyphs := glyphs_encode (String.ofList characters)
  rw [String.toList_ofList] at glyphs
  rw [← glyphs, glyphBytes_glyphs]

theorem worded_nil : Worded [] [] := by
  refine ⟨by simp, fun place => ?_⟩
  exact ⟨[], [], .finished (by simp [AllBlank]), rfl⟩

/-- A blank before a word does not matter. -/
theorem Worded.blank {characters : List Char} {words : List Word} (worded : Worded characters words)
    (some : words ≠ []) : Worded (' ' :: characters) words := by
  refine ⟨worded.plain, fun place => ?_⟩
  obtain ⟨segments, tail, cut, same⟩ := worded.cut (place.past (glyphOf ' '))
  cases segments with
  | nil => exact absurd same.symm some
  | cons segment segments =>
      generalize whole : characters.map glyphOf = glyphs at cut
      generalize none : ([] : List Misreading) = misreadings at cut
      cases cut with
      | @segment _ gap first rest kind length _ _ misreadings blank solid found later =>
          have blanks : AllBlank (glyphOf ' ' :: gap) :=
            List.forall_mem_cons.2 ⟨by decide, blank⟩
          refine ⟨⟨glyphOf ' ' :: gap, kind, (first :: rest).take length⟩ :: segments, tail, ?_, same⟩
          rw [List.map_cons, whole]
          exact .segment blanks solid found later

/-- A word is read when a scan finds it at the start of the characters. -/
theorem Worded.scanned {first : Char} {more rest : List Char} {kind : Kind} {words : List Word}
    (worded : Worded rest words) (solid : isBlank first = false) (plain : kind ≠ .comment)
    (found : scan (glyphOf first) ((more ++ rest).map glyphOf) = .lexeme kind (1 + more.length)) :
    Worded (first :: (more ++ rest)) (.written kind (first :: more) :: words) := by
  refine ⟨List.forall_mem_cons.2 ⟨plain, worded.plain⟩, fun place => ?_⟩
  have front : ((first :: (more ++ rest)).map glyphOf).take (1 + more.length) =
      (first :: more).map glyphOf := by
    rw [← List.map_take, Nat.add_comm, List.take_succ_cons, List.take_left]
  have back : ((first :: (more ++ rest)).map glyphOf).drop (1 + more.length) = rest.map glyphOf := by
    rw [← List.map_drop, Nat.add_comm, List.drop_succ_cons, List.drop_left]
  obtain ⟨segments, tail, cut, same⟩ :=
    worded.cut (Segment.after ⟨[], kind, (first :: more).map glyphOf⟩ place)
  refine ⟨⟨[], kind, (first :: more).map glyphOf⟩ :: segments, tail, ?_, ?_⟩
  · have whole := @Cut.segment place [] (glyphOf first) ((more ++ rest).map glyphOf) kind
      (1 + more.length) segments tail [] (by simp [AllBlank]) solid (by rw [found]; rfl)
    rw [← List.map_cons, front, back, found] at whole
    exact whole cut
  · rw [List.map_cons, same, Segment.word, glyphBytes_written]
    rfl

/-- A symbol is a word by itself. -/
theorem Worded.symbol {symbol : Char} {kind : Kind} {rest : List Char} {words : List Word}
    (worded : Worded rest words) (known : Kind.ofSymbol? symbol = some kind)
    (solid : isBlank symbol = false) (plain : symbol ≠ '-' ∧ symbol ≠ '"' ∧
      startsName symbol = false ∧ isDecimalDigit symbol = false) :
    Worded (symbol :: rest) (.written kind [symbol] :: words) := by
  obtain ⟨notDash, notQuote, notName, notDigit⟩ := plain
  have dash : (glyphOf symbol).is '-' = false := beq_eq_false_iff_ne.2 notDash
  have quote : (glyphOf symbol).is '"' = false := beq_eq_false_iff_ne.2 notQuote
  have found : scan (glyphOf symbol) (([] ++ rest).map glyphOf) = .lexeme kind (1 + 0) := by
    rw [scan, dash, quote]
    simp [notName, notDigit, known]
  exact worded.scanned solid (ofSymbol?_ne known (by decide)) found

/-- A dash stands alone unless it opens a comment. -/
theorem Worded.dash {rest : List Char} {words : List Word} (worded : Worded rest words)
    (alone : ∀ next, rest.head? = some next → next ≠ '-' ∧ next ≠ '\x7b') :
    Worded ('-' :: rest) (.written .dash ['-'] :: words) := by
  have found : scan (glyphOf '-') (([] ++ rest).map glyphOf) = .lexeme .dash (1 + 0) := by
    rw [scan, if_pos (by decide), List.nil_append]
    cases rest with
    | nil => rfl
    | cons next rest =>
        obtain ⟨notDash, notBrace⟩ := alone next rfl
        have dash : (glyphOf next).is '-' = false := beq_eq_false_iff_ne.2 notDash
        have brace : (glyphOf next).is '\x7b' = false := beq_eq_false_iff_ne.2 notBrace
        simp only [List.map_cons, scanDash, dash, brace, Bool.false_eq_true, if_false]
  exact worded.scanned (by decide) Kind.noConfusion found

/-- Loose characters go on with no name and with no number. -/
def Loose (characters : List Char) : Prop :=
  ∀ next, characters.head? = some next → next ∈ [' ', ')', ']', ',', ':']

theorem loose_nil : Loose [] := by
  intro next found
  cases found

/-- A blank, a closing bracket, a comma or a colon is loose. -/
theorem loose_cons {next : Char} (member : next ∈ [' ', ')', ']', ',', ':']) (rest : List Char) :
    Loose (next :: rest) := by
  intro found same
  cases same
  exact member

/-- A property of all loose characters is decided character by character. -/
theorem forall_loose {P : Char → Prop} :
    (∀ character ∈ [' ', ')', ']', ',', ':'], P character) ↔ P ' ' ∧ P ')' ∧ P ']' ∧ P ',' ∧ P ':' := by
  simp only [List.forall_mem_cons, List.not_mem_nil, false_implies, implies_true, and_true]

/-- A run ends before loose characters. -/
theorem run_loose {inClass : Char → Bool} {more rest : List Char}
    (all : ∀ character ∈ more, inClass character = true) (loose : Loose rest)
    (outside : ∀ character ∈ [' ', ')', ']', ',', ':'], inClass character = false) :
    run inClass ((more ++ rest).map glyphOf) = more.length := by
  have rest_empty : (rest.map glyphOf).takeWhile (fun glyph => inClass glyph.character) = [] := by
    cases rest with
    | nil => rfl
    | cons next rest =>
        have stops := outside next (loose next rfl)
        simp [stops]
  rw [run, List.map_append, List.takeWhile_append_of_pos, rest_empty, List.append_nil,
    List.length_map]
  intro glyph member
  obtain ⟨character, inside, rfl⟩ := List.mem_map.1 member
  exact all character inside

/-- A text spells words when it is read as them before any loose characters. -/
def Spells (text : List Char) (words : List Word) : Prop :=
  ∀ rest others, Loose rest → Worded rest others → Worded (text ++ rest) (words ++ others)

/-- A text that spells words before anything loose is worded by them. -/
theorem Spells.worded {text : List Char} {words : List Word} (spells : Spells text words) :
    Worded text words := by
  have whole := spells [] [] loose_nil worded_nil
  rwa [List.append_nil, List.append_nil] at whole

/-- A character in some ranges has a code in one of them. -/
theorem inRanges_mem {ranges : List Range} {character : Char}
    (inside : inRanges ranges character = true) :
    character.toNat ∈ ranges.flatMap fun range => List.range' range.first (range.last + 1 - range.first) := by
  obtain ⟨range, member, contained⟩ := List.any_eq_true.1 inside
  simp only [Range.contains, Bool.and_eq_true, decide_eq_true_eq] at contained
  rw [List.mem_flatMap]
  refine ⟨range, member, List.mem_range'_1.2 ?_⟩
  omega

/-- No name starts with a blank. -/
theorem startsName_blank {character : Char} (blank : isBlank character = true) :
    startsName character = false := by
  have all : ∀ code ∈ blankRanges.flatMap fun range =>
      List.range' range.first (range.last + 1 - range.first), startsName (Char.ofNat code) = false := by
    decide +kernel
  have code := all _ (inRanges_mem blank)
  rwa [Char.ofNat_toNat] at code

/-- What starts a name is neither blank nor a dash nor a quote. -/
theorem startsName_solid {character : Char} (starts : startsName character = true) :
    isBlank character = false ∧ character ≠ '-' ∧ character ≠ '"' := by
  refine ⟨?_, ?_, ?_⟩
  · cases blank : isBlank character with
    | false => rfl
    | true =>
        rw [startsName_blank blank] at starts
        cases starts
  · rintro rfl
    revert starts
    decide
  · rintro rfl
    revert starts
    decide

/-- A name spells a single word. -/
theorem Lexeme.NameSpelling.spells {characters : List Char} (spelling : NameSpelling characters) :
    Spells characters [.written .identifier characters] := by
  obtain ⟨first, more, rfl, starts, continues, isWord⟩ := spelling
  obtain ⟨solid, notDash, notQuote⟩ := startsName_solid starts
  intro rest others loose worded
  have dash : (glyphOf first).is '-' = false := beq_eq_false_iff_ne.2 notDash
  have quote : (glyphOf first).is '"' = false := beq_eq_false_iff_ne.2 notQuote
  have length := run_loose continues loose (forall_loose.2 (by decide +kernel))
  have found : scan (glyphOf first) ((more ++ rest).map glyphOf) =
      .lexeme .identifier (1 + more.length) := by
    rw [scan, dash, quote]
    simp only [Bool.false_eq_true, if_false, glyphOf_character, starts, if_true, scanWord, length]
    rw [← List.map_take, List.take_left, ← List.map_cons, List.map_map]
    have same : (first :: more).map (Glyph.character ∘ glyphOf) = first :: more := List.map_id _
    rw [same, isWord]
  exact worded.scanned solid Kind.noConfusion found

/-- A digit is neither a blank nor does it start a name. -/
theorem decimalDigit_solid {digit : Char} (isDigit : isDecimalDigit digit = true) :
    isBlank digit = false ∧ startsName digit = false := by
  simp only [isDecimalDigit, Bool.and_eq_true, decide_eq_true_eq] at isDigit
  have low : 48 ≤ digit.toNat := isDigit.1
  have high : digit.toNat ≤ 57 := isDigit.2
  have all : ∀ code ∈ List.range' 48 10, isBlank (Char.ofNat code) = false ∧
      startsName (Char.ofNat code) = false := by decide +kernel
  have code := all digit.toNat (List.mem_range'_1.2 ⟨low, by omega⟩)
  rwa [Char.ofNat_toNat] at code

/-- A number passes over its digits. -/
theorem numberEnd_passes {digits : List Char} (all : AllDigits digits) (passed : Nat)
    (rest : List Char) : numberEnd passed ((digits ++ rest).map glyphOf) =
      numberEnd (passed + digits.length) (rest.map glyphOf) := by
  induction digits generalizing passed with
  | nil => rfl
  | cons digit digits ih =>
      obtain ⟨here, later⟩ := List.forall_mem_cons.1 all
      have step : isDecimalDigit (glyphOf digit).character = true := here
      have length : passed + 1 + digits.length = passed + (digit :: digits).length := by
        rw [List.length_cons]
        omega
      rw [List.cons_append, List.map_cons, numberEnd.eq_def]
      simp only [step, Bool.true_or, if_true, ih later, length]

/-- A number ends before loose characters. -/
theorem numberEnd_loose {rest : List Char} (loose : Loose rest) (passed : Nat) :
    numberEnd passed (rest.map glyphOf) = passed := by
  cases rest with
  | nil => rfl
  | cons next rest =>
      have member := loose next rfl
      have digits : ∀ character ∈ [' ', ')', ']', ',', ':'],
          (isDecimalDigit character || character == '.') = false :=
        forall_loose.2 (by decide +kernel)
      have marks : ∀ character ∈ [' ', ')', ']', ',', ':'], isExponentMark character = false :=
        forall_loose.2 (by decide +kernel)
      have notDigit : (isDecimalDigit next || (glyphOf next).is '.') = false :=
        digits next member
      rw [List.map_cons, numberEnd.eq_def]
      simp only [glyphOf_character, notDigit, marks next member, Bool.false_eq_true, if_false]

/-- These characters tell a float from an integer. -/
def isFractional (character : Char) : Bool := character == '.' || isExponentMark character

/-- A number is read up to its end. -/
theorem Worded.number {first : Char} {more rest : List Char} {words : List Word}
    (worded : Worded rest words) (isDigit : isDecimalDigit first = true)
    (notRadix : ∀ second, (more ++ rest).head? = some second → second ≠ 'b' ∧ second ≠ 'x')
    (ends : numberEnd 1 ((more ++ rest).map glyphOf) = 1 + more.length) :
    Worded (first :: (more ++ rest))
      (.written (if more.any isFractional then .float else .integer) (first :: more) :: words) := by
  obtain ⟨solid, notName⟩ := decimalDigit_solid isDigit
  have dash : (glyphOf first).is '-' = false := by
    refine beq_eq_false_iff_ne.2 ?_
    rintro rfl
    revert isDigit
    decide
  have quote : (glyphOf first).is '"' = false := by
    refine beq_eq_false_iff_ne.2 ?_
    rintro rfl
    revert isDigit
    decide
  have decimal : scanNumber (glyphOf first) ((more ++ rest).map glyphOf) =
      scanDecimal ((more ++ rest).map glyphOf) := by
    generalize more ++ rest = characters at notRadix ⊢
    cases characters with
    | nil => rfl
    | cons second characters =>
        obtain ⟨notBinary, notHexadecimal⟩ := notRadix second rfl
        have binary : (glyphOf second).is 'b' = false := beq_eq_false_iff_ne.2 notBinary
        have hexadecimal : (glyphOf second).is 'x' = false := beq_eq_false_iff_ne.2 notHexadecimal
        simp [scanNumber, binary, hexadecimal]
  have front : ((more ++ rest).map glyphOf).take (1 + more.length - 1) = more.map glyphOf := by
    rw [Nat.add_sub_cancel_left, ← List.map_take, List.take_left]
  have found : scan (glyphOf first) ((more ++ rest).map glyphOf) =
      .lexeme (if more.any isFractional then .float else .integer) (1 + more.length) := by
    rw [scan, dash, quote]
    simp only [Bool.false_eq_true, if_false, glyphOf_character, notName, isDigit, if_true, decimal,
      scanDecimal, ends, front, List.any_map]
    have same : (fun glyph : Glyph => glyph.is '.' || isExponentMark glyph.character) ∘ glyphOf =
        isFractional := rfl
    rw [same]
    split <;> rfl
  have plain : (if more.any isFractional then Kind.float else Kind.integer) ≠ .comment := by
    split <;> exact Kind.noConfusion
  exact worded.scanned solid plain found

end Reckon
