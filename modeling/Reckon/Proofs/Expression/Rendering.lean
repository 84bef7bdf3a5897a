/-
This file shows that each construct is written as words that are parsed as this construct.
-/

import Reckon.Proofs.Expression.Literals
import Reckon.Proofs.Expression.Phrase

namespace Reckon

open Text Lexeme Decimal Grammar Reckon.Parser

/-- A fragment renders an expression when its text spells words that are parsed as the expression. -/
structure Renders (fragment : Fragment) (words : List Word) (meant : Expression) : Prop where
  spells : Spells fragment.text.toList words
  phrase : Phrase fragment.level words meant
  level_le : fragment.level ≤ Fragment.atomLevel
  starts : ∃ first rest, fragment.text.toList = first :: rest ∧ first ≠ '\x7b'
  sign : ∀ word others, words = word :: others →
    isSign word.kind = Fragment.startsWithSign fragment.text
  unsigned : fragment.level = Fragment.atomLevel → Fragment.startsWithSign fragment.text = false

/-- A text starts with a sign when its first character is one. -/
theorem startsWithSign_cons {text : String} {first : Char} {rest : List Char}
    (same : text.toList = first :: rest) :
    Fragment.startsWithSign text = (first == '-' || first == '+') := by
  rw [Fragment.startsWithSign, same]

theorem exists_single {tokens : List Token} {word : Word} (same : tokens.map Token.word = [word]) :
    ∃ token, tokens = [token] ∧ token.word = word := List.map_eq_singleton_iff.1 same

/-- A phrase that starts with no name is no function. -/
theorem opening_of_head {word : Word} {others : List Word}
    (starts : startsExpression word.kind = true) (notName : word.kind ≠ .identifier) :
    Phrase.Opening (word :: others) where
  starts := ⟨word, others, rfl, starts⟩
  notFunction := by
    intro depth tokens rest same _
    obtain ⟨token, tokens, rfl, here, _⟩ := List.map_eq_cons_iff.1 same
    refine refuses_function fun name => notName ?_
    rw [← here]
    exact Option.some.inj name

section Literals

variable {span : Span}

/-- A number is a term. -/
theorem phrase_number {kind : Kind} {lexeme : Bytes} {literal : Literal}
    (numeral : kind = .integer ∨ kind = .float)
    (value : ∀ token : Token, token.word = ⟨kind, lexeme⟩ →
      numeralLiteral token = literal ∧ numeralReports [token] = []) :
    Phrase Fragment.atomLevel [⟨kind, lexeme⟩] (.literal span literal) := by
  have term (depth : Nat) : ReadsAs (Grammar.term (expressionWithin depth)) (depth + 1) (fun _ => True)
      [⟨kind, lexeme⟩] (.literal span literal) := by
    intro tokens rest same _ _
    obtain ⟨token, rfl, word⟩ := exists_single same
    obtain ⟨meant, quiet⟩ := value token word
    have isNumber : token.kind = .integer ∨ token.kind = .float := by
      rw [show token.kind = kind from congrArg Word.kind word]
      exact numeral
    have yields := @term_number (expressionWithin depth) token isNumber rest
    rw [meant, quiet] at yields
    exact ⟨.literal token.span literal, rfl, yields⟩
  have opening : Phrase.Opening [(⟨kind, lexeme⟩ : Word)] := by
    apply opening_of_head
    · rcases numeral with rfl | rfl <;> rfl
    · rcases numeral with rfl | rfl <;> exact Kind.noConfusion
  refine Phrase.ofTerm opening (Phrase.factor_of_term term ?_ ?_ (List.cons_ne_nil _ _)) term
  · intro word others same
    cases same
    rcases numeral with rfl | rfl <;> rfl
  · intro depth tokens rest same _
    obtain ⟨token, rfl, word⟩ := exists_single same
    have here : token.kind = kind := congrArg Word.kind word
    apply refuses_callee
    · rcases numeral with rfl | rfl <;> simp [headKind, here]
    · rcases numeral with rfl | rfl <;> simp [headKind, here]

/-- A text that is read as one number renders it. -/
theorem renders_number {text : String} {kind : Kind} {literal : Literal} {digit : Char}
    {more : List Char} (starts : text.toList = digit :: more) (isDigit : isDecimalDigit digit = true)
    (numeral : kind = .integer ∨ kind = .float)
    (spells : Spells text.toList [.written kind text.toList])
    (value : ∀ token : Token, token.kind = kind → token.lexeme = encode text →
      numeralLiteral token = literal ∧ numeralReports [token] = []) :
    Renders ⟨text, Fragment.atomLevel⟩ [⟨kind, encode text⟩] (.literal span literal) := by
  have differs (other : Char) (outside : isDecimalDigit other = false) : digit ≠ other :=
    decimalDigit_ne isDigit outside
  have unsigned : Fragment.startsWithSign text = false := by
    rw [startsWithSign_cons starts, beq_eq_false_iff_ne.2 (differs '-' (by decide)),
      beq_eq_false_iff_ne.2 (differs '+' (by decide))]
    rfl
  exact {
    spells := by
      rw [Word.written, String.ofList_toList] at spells
      exact spells
    phrase := phrase_number numeral fun token word =>
      value token (congrArg Word.kind word) (congrArg Word.lexeme word)
    level_le := le_rfl
    starts := ⟨digit, more, starts, differs '\x7b' (by decide)⟩
    sign := by
      intro word others same
      cases same
      rw [unsigned]
      rcases numeral with rfl | rfl <;> rfl
    unsigned := fun _ => unsigned }

/-- A text of digits renders an integer. -/
theorem renders_int {value : Int64} (positive : 0 ≤ value.toInt) :
    Renders ⟨toString value.toInt, Fragment.atomLevel⟩ [⟨.integer, encode (toString value.toInt)⟩]
      (.literal span (.int value)) := by
  obtain ⟨digits, text, solid, all, read⟩ := integerLiteral_reads positive
  obtain ⟨digit, more, same⟩ := List.exists_cons_of_ne_nil solid
  refine renders_number (text.trans same) (all digit (same ▸ List.mem_cons_self)) (.inl rfl) ?_ ?_
  · rw [text]
    exact digits_spell solid all
  · intro token kind lexeme
    rw [numeralLiteral, numeralReports, List.flatMap_singleton, kind, lexeme]
    simp only [read]
    exact ⟨rfl, rfl⟩

/-- A form of its shortest decimal renders a float. -/
theorem renders_float {value : Float} (plain : IsPlain value) :
    Renders ⟨floatLiteralText value, Fragment.atomLevel⟩ [⟨.float, encode (floatLiteralText value)⟩]
      (.literal span (.float value)) := by
  obtain ⟨mantissa, exponent, found⟩ := plain
  obtain ⟨form, text, fractional, read⟩ := floatLiteral_reads found
  obtain ⟨digit, more, same, isDigit⟩ := form.text_cons
  refine renders_number (text.trans same) isDigit (.inr rfl) ?_ ?_
  · rw [text]
    exact form.spells fractional
  · intro token kind lexeme
    rw [numeralLiteral, numeralReports, List.flatMap_singleton, kind, lexeme]
    simp only [read]
    exact ⟨rfl, rfl⟩

/-- A pair of parentheses renders the unit. -/
theorem renders_unit : Renders ⟨"()", Fragment.atomLevel⟩
    [.written .leftParen ['('], .written .rightParen [')']] (.literal span .unit) := by
  have tokens_eq {tokens : List Token} (same : tokens.map Token.word =
      [.written .leftParen ['('], .written .rightParen [')']]) :
      ∃ opening closing, tokens = [opening, closing] ∧ opening.kind = .leftParen ∧
        closing.kind = .rightParen := by
    obtain ⟨opening, _, rfl, left, later⟩ := List.map_eq_cons_iff.1 same
    obtain ⟨closing, rfl, right⟩ := exists_single later
    exact ⟨opening, closing, rfl, congrArg Word.kind left, congrArg Word.kind right⟩
  have term (depth : Nat) : ReadsAs (Grammar.term (expressionWithin depth)) (depth + 1) (fun _ => True)
      [.written .leftParen ['('], .written .rightParen [')']] (.literal span .unit) := by
    intro tokens rest same _ _
    obtain ⟨opening, closing, rfl, left, right⟩ := tokens_eq same
    exact ⟨.literal (opening.span.around closing.span) .unit, rfl, term_unit left right rest⟩
  have opening : Phrase.Opening [Word.written .leftParen ['('], .written .rightParen [')']] :=
    opening_of_head rfl Kind.noConfusion
  refine ⟨?_, Phrase.ofTerm opening (Phrase.factor_of_term term ?_ ?_ (List.cons_ne_nil _ _)) term,
    le_rfl, ⟨'(', [')'], rfl, by decide⟩, ?_, fun _ => rfl⟩
  · intro rest others _ worded
    exact (worded.symbol rfl (by decide) (by decide)).symbol rfl (by decide) (by decide)
  · intro word others same
    cases same
    rfl
  · intro depth tokens rest same _
    obtain ⟨opening, closing, rfl, left, right⟩ := tokens_eq same
    exact refuses_callee_inside left (refuses_function (by simp [headKind, right]))
  · intro word others same
    cases same
    rfl

end Literals

/-- A callee before what ends a factor is applied to nothing. -/
theorem callee_alone {depth : Nat} {first : Token} {others rest : List Token} {value : Expression}
    (yields : (callee (expressionWithin depth)).Yields (first :: others ++ rest) value [] rest)
    (notSign : isSign first.kind = false) (ends : Ends rest)
    (short : (first :: others ++ rest).length ≤ depth + 1) :
    (Grammar.factor (expressionWithin depth)).Yields (first :: others ++ rest) value [] rest := by
  have positive := ends.length_pos
  simp only [List.cons_append, List.length_cons, List.length_append] at short
  obtain ⟨less, rfl⟩ : ∃ less, depth = less + 1 := ⟨depth - 1, by omega⟩
  refine factor_application (fun kind here => ?_) (yields_application_alone yields ends.refuses_argument)
  obtain rfl : first.kind = kind := Option.some.inj here
  exact notSign

/-- The token of a written name has this name. -/
theorem name_of_word {name : String} {token : Token}
    (word : token.word = .written .identifier name.toList) :
    token.kind = .identifier ∧ token.name = name := by
  have lexeme := congrArg Word.lexeme word
  rw [Word.written, String.ofList_toList] at lexeme
  refine ⟨congrArg Word.kind word, ?_⟩
  rw [Token.name, show token.lexeme = encode name from lexeme, decode_encode]

/-- A name starts with neither a sign nor a brace. -/
theorem IsName.starts {name : String} (isName : IsName name) :
    (∃ first rest, name.toList = first :: rest ∧ first ≠ '\x7b') ∧
      Fragment.startsWithSign name = false := by
  obtain ⟨first, more, same, starts, _, _⟩ := (isName_iff name).1 isName
  have differs (other : Char) (outside : startsName other = false) : first ≠ other := by
    rintro rfl
    rw [starts] at outside
    cases outside
  refine ⟨⟨first, more, same, differs _ (by decide)⟩, ?_⟩
  rw [startsWithSign_cons same, beq_eq_false_iff_ne.2 (differs '-' (by decide)),
    beq_eq_false_iff_ne.2 (differs '+' (by decide))]
  rfl

/-- A name renders an identifier. -/
theorem renders_ident {span : Span} {name : String} (isName : IsName name) :
    Renders ⟨name, Fragment.atomLevel⟩ [.written .identifier name.toList] (.ident span name) := by
  obtain ⟨starts, unsigned⟩ := isName.starts
  have opening : Phrase.Opening [Word.written .identifier name.toList] := by
    refine ⟨⟨_, _, rfl, rfl⟩, fun depth tokens rest same ends => ?_⟩
    obtain ⟨token, rfl, word⟩ := exists_single same
    exact refuses_function_colon (name_of_word word).1 ends.not_colon
  refine ⟨isName.spells, Phrase.ofTerm opening ?_ ?_, le_rfl, starts, ?_, fun _ => unsigned⟩
  · intro depth tokens rest same short ends
    obtain ⟨token, rfl, word⟩ := exists_single same
    obtain ⟨kind, rfl⟩ := name_of_word word
    refine ⟨.ident token.span token.name, rfl,
      callee_alone (yields_callee_ident kind rest) ?_ ends short⟩
    rw [kind]
    rfl
  · intro depth tokens rest same _ _
    obtain ⟨token, rfl, word⟩ := exists_single same
    obtain ⟨kind, rfl⟩ := name_of_word word
    exact ⟨.ident token.span token.name, rfl, term_ident kind rest⟩
  · intro word others same
    cases same
    rw [unsigned]
    rfl

/-- These are the words of a text in parentheses. -/
def parenthesizedWords (words : List Word) : List Word :=
  .written .leftParen ['('] :: (words ++ [.written .rightParen [')']])

/-- Words in parentheses are those of tokens in parentheses. -/
theorem exists_parenthesized {tokens : List Token} {words : List Word}
    (same : tokens.map Token.word = parenthesizedWords words) :
    ∃ opening inside closing, tokens = opening :: (inside ++ [closing]) ∧
      opening.kind = .leftParen ∧ inside.map Token.word = words ∧ closing.kind = .rightParen := by
  obtain ⟨opening, _, rfl, left, later⟩ := List.map_eq_cons_iff.1 same
  obtain ⟨inside, last, rfl, here, final⟩ := List.map_eq_append_iff.1 later
  obtain ⟨closing, rfl, right⟩ := exists_single final
  exact ⟨opening, inside, closing, rfl, congrArg Word.kind left, here, congrArg Word.kind right⟩

/-- A text in parentheses spells its words in parentheses. -/
theorem Spells.parenthesized {text : List Char} {words : List Word} (spells : Spells text words) :
    Spells ('(' :: (text ++ [')'])) (parenthesizedWords words) := by
  intro rest others _ worded
  have closing := worded.symbol (show Kind.ofSymbol? ')' = some .rightParen from rfl) (by decide)
    (by decide)
  have whole := spells _ _ (loose_cons (by decide) rest) closing
  have all := whole.symbol (show Kind.ofSymbol? '(' = some .leftParen from rfl) (by decide) (by decide)
  simpa [parenthesizedWords] using all

/-- A fragment in parentheses has them at both ends. -/
theorem parenthesized_toList (text : String) :
    (Fragment.parenthesized text).toList = '(' :: (text.toList ++ [')']) := by
  rw [Fragment.parenthesized, String.toList_append, String.toList_append]
  rfl

/-- The first token is that of the first word. -/
theorem Grammar.Phrase.head {level : Nat} {words : List Word} {meant : Expression}
    (phrase : Phrase level words meant) {tokens : List Token} (same : tokens.map Token.word = words) :
    ∃ word others, words = word :: others ∧ startsExpression word.kind = true ∧
      ∀ rest, headKind (tokens ++ rest) = some word.kind := by
  obtain ⟨word, others, rfl, starts⟩ := phrase.starts
  obtain ⟨token, tokens, rfl, rfl, _⟩ := List.map_eq_cons_iff.1 same
  exact ⟨token.word, others, rfl, starts, fun rest => rfl⟩

/-- Words that start an expression are not closed at once. -/
theorem Grammar.Phrase.head_ne {level : Nat} {words : List Word} {meant : Expression}
    (phrase : Phrase level words meant) {tokens rest : List Token}
    (same : tokens.map Token.word = words) {kind : Kind} (other : startsExpression kind = false) :
    headKind (tokens ++ rest) ≠ some kind := by
  obtain ⟨word, others, _, starts, here⟩ := phrase.head same
  rw [here]
  rintro same
  rw [Option.some.inj same, other] at starts
  cases starts

/-- A text in parentheses renders what the text renders. -/
theorem Renders.parenthesized {fragment : Fragment} {words : List Word} {meant : Expression}
    (renders : Renders fragment words meant) :
    Renders ⟨Fragment.parenthesized fragment.text, Fragment.atomLevel⟩ (parenthesizedWords words)
      meant := by
  have text := parenthesized_toList fragment.text
  have phrase := renders.phrase
  have unsigned : Fragment.startsWithSign (Fragment.parenthesized fragment.text) = false := by
    rw [startsWithSign_cons text]
    rfl
  have opening : Phrase.Opening (parenthesizedWords words) := opening_of_head rfl Kind.noConfusion
  have term (depth : Nat) : ReadsAs (Grammar.term (expressionWithin depth)) (depth + 1) (fun _ => True)
      (parenthesizedWords words) meant := by
    intro tokens rest same short _
    obtain ⟨opening, inside, closing, rfl, left, here, right⟩ := exists_parenthesized same
    simp only [List.cons_append, List.append_assoc, List.length_cons, List.nil_append] at short ⊢
    have closed : Closed (closing :: rest) := ⟨closing, rest, rfl, by rw [right]; rfl⟩
    obtain ⟨value, bare, yields⟩ := phrase.expression depth inside _ here (by omega) closed
    exact ⟨value, bare, term_paren left right (phrase.head_ne here rfl) yields⟩
  have factor (depth : Nat) : ReadsAs (Grammar.factor (expressionWithin depth)) (depth + 1) Ends
      (parenthesizedWords words) meant := by
    by_cases level : fragment.level = Fragment.functionLevel
    · intro tokens rest same short ends
      obtain ⟨opening, inside, closing, rfl, left, here, right⟩ := exists_parenthesized same
      have closed : Closed (closing :: rest) := ⟨closing, rest, rfl, by rw [right]; rfl⟩
      obtain ⟨value, bare, yields⟩ := phrase.function level depth inside (closing :: rest) here (by
        simp only [List.cons_append, List.append_assoc, List.length_cons, List.nil_append] at short
        omega) closed
      have applied : (callee (expressionWithin depth)).Yields (opening :: (inside ++ [closing]) ++ rest)
          value [] rest := by
        simpa using yields_callee_function left right yields
      exact ⟨value, bare, callee_alone applied (by rw [left]; rfl) ends short⟩
    · refine Phrase.factor_of_term term ?_ ?_ (List.cons_ne_nil _ _) depth
      · intro word others same
        cases same
        rfl
      · intro depth tokens rest same _
        obtain ⟨opening, inside, closing, rfl, left, here, right⟩ := exists_parenthesized same
        simp only [List.cons_append, List.append_assoc, List.nil_append]
        have ends : Ends (closing :: rest) := ⟨closing, rest, rfl, .inl (by rw [right]; rfl)⟩
        exact refuses_callee_inside left (phrase.notFunction level depth inside _ here ends)
  refine ⟨?_, Phrase.ofTerm opening factor term, le_rfl, ⟨'(', _, text, by decide⟩, ?_,
    fun _ => unsigned⟩
  · rw [text]
    exact renders.spells.parenthesized
  · intro word others same
    cases same
    rw [unsigned]
    rfl

/-- A fragment is put in parentheses where it binds too loosely. -/
theorem Renders.atLeast {fragment : Fragment} {words : List Word} {meant : Expression}
    (renders : Renders fragment words meant) {level : Nat} (low : level ≤ Fragment.atomLevel) :
    ∃ level' words', level ≤ level' ∧ Renders ⟨fragment.atLeast level, level'⟩ words' meant := by
  by_cases loose : fragment.level < level
  · rw [Fragment.atLeast, if_pos loose]
    exact ⟨Fragment.atomLevel, _, low, renders.parenthesized⟩
  · rw [Fragment.atLeast, if_neg loose]
    exact ⟨fragment.level, words, Nat.le_of_not_lt loose, renders⟩

end Reckon
