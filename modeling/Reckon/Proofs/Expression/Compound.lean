/-
This file shows that operations, functions, applications and lists are written as words that are
parsed as the same construct, and from it that every parsable expression is.
-/

import Reckon.Proofs.Expression.Rendering

namespace Reckon

open Text Lexeme Grammar Reckon.Parser

/-- An operator of a chain is written with a single symbol, which is read as a word of its own
unless it opens a comment with the next one. -/
structure Operator.Written (operator : Operator) (operators : List (Kind × Operator)) (kind : Kind)
    (symbol : Char) : Prop where
  text : operator.text = String.ofList [symbol]
  goesOn : kind ≠ .endOfInput
  known : operators.lookup kind = some operator
  trails : (sumOperators.lookup kind).isSome = true ∨ (productOperators.lookup kind).isSome = true
  worded : ∀ {rest : List Char} {words : List Word},
    (∀ next, rest.head? = some next → next ≠ '-' ∧ next ≠ '\x7b') → Worded rest words →
      Worded (symbol :: rest) (.written kind [symbol] :: words)

/-- A factor ends before an operator. -/
theorem Operator.Written.ends {operator : Operator} {operators : List (Kind × Operator)} {found : Token}
    {symbol : Char} (written : operator.Written operators found.kind symbol) (rest : List Token) :
    Ends (found :: rest) :=
  ⟨found, rest, rfl, .inr written.trails⟩

/-- A sign is the operator of a sum. -/
theorem Operator.written_sum {operator : Operator} (isUnary : operator.isUnary = true) :
    ∃ kind symbol, operator.Written sumOperators kind symbol ∧ isSign kind = true ∧
      (symbol == '-' || symbol == '+') = true := by
  cases operator with
  | add =>
      refine ⟨.plus, '+', ⟨rfl, by decide, rfl, by decide, ?_⟩, rfl, rfl⟩
      exact fun _ worded => worded.symbol rfl (by decide) (by decide)
  | sub =>
      refine ⟨.dash, '-', ⟨rfl, by decide, rfl, by decide, ?_⟩, rfl, rfl⟩
      exact fun alone worded => worded.dash alone
  | mul | div | mod | other => cases isUnary

/-- An operator that binds as tightly as a product is one of products. -/
theorem Operator.written_product {operator : Operator} (tight : operator.precedence = 2) :
    ∃ kind symbol, operator.Written productOperators kind symbol := by
  cases operator with
  | mul => exact ⟨.star, '*', rfl, by decide, rfl, by decide,
      fun _ worded => worded.symbol rfl (by decide) (by decide)⟩
  | div => exact ⟨.slash, '/', rfl, by decide, rfl, by decide,
      fun _ worded => worded.symbol rfl (by decide) (by decide)⟩
  | mod => exact ⟨.percent, '%', rfl, by decide, rfl, by decide,
      fun _ worded => worded.symbol rfl (by decide) (by decide)⟩
  | add | sub | other => cases tight

/-- An operator that binds loosely is also a sign. -/
theorem Operator.isUnary_of_loose {operator : Operator} (isBinary : operator.isBinary = true)
    (loose : operator.precedence ≠ 2) : operator.isUnary = true := by
  cases operator with
  | add | sub => rfl
  | mul | div | mod => exact absurd rfl loose
  | other => cases isBinary

section Operations

variable {span : Span} {operator : Operator} {operand left right : Expression}
  {fragment fragment' : Fragment} {words words' : List Word}

/-- A sign before an atom renders a unary operation. -/
theorem Renders.unary (renders : Renders fragment words operand)
    (isUnary : operator.isUnary = true) :
    ∃ words', Renders ⟨operator.text ++ fragment.atLeast Fragment.atomLevel, Fragment.unaryLevel⟩ words'
      (.unary span operator operand) := by
  obtain ⟨level, words, high, inner⟩ := renders.atLeast (Nat.le_refl Fragment.atomLevel)
  obtain rfl : level = Fragment.atomLevel := Nat.le_antisymm inner.level_le high
  obtain ⟨kind, symbol, written, sign, isSymbol⟩ := Operator.written_sum isUnary
  generalize fragment.atLeast Fragment.atomLevel = text at inner
  obtain ⟨first, more, same, notBrace⟩ := inner.starts
  have notDash : first ≠ '-' := by
    have unsigned := inner.unsigned rfl
    rw [startsWithSign_cons same, Bool.or_eq_false_iff] at unsigned
    exact beq_eq_false_iff_ne.1 unsigned.1
  have whole : (operator.text ++ text).toList = symbol :: text.toList := by
    rw [String.toList_append, written.text, String.toList_ofList, List.singleton_append]
  have reads (depth : Nat) : ReadsAs (factor (expressionWithin depth)) (depth + 1) Ends
      (.written kind [symbol] :: words) (.unary span operator operand) := by
    intro tokens rest same short _
    obtain ⟨found, tokens, rfl, word, later⟩ := List.map_eq_cons_iff.1 same
    obtain rfl : found.kind = kind := congrArg Word.kind word
    obtain ⟨value, bare, yields⟩ := inner.phrase.term rfl depth tokens rest later
      (Nat.le_of_succ_le short) trivial
    refine ⟨.unary (found.span.around value.extent) operator value, ?_,
      factor_unary (yields_unary written.known written.goesOn yields)⟩
    rw [Expression.bare, Expression.bare, bare]
  have opening : Phrase.Opening (.written kind [symbol] :: words) := by
    apply opening_of_head
    · simp [Word.written, startsExpression, sign]
    · rintro rfl
      cases sign
  have low : Fragment.unaryLevel ≤ Fragment.atomLevel := by decide
  have other : Fragment.unaryLevel ≠ Fragment.atomLevel := by decide
  refine ⟨_, ?_, Phrase.ofFactor opening reads, low, ⟨symbol, _, whole, ?_⟩, ?_,
    (absurd · other)⟩
  · intro rest others loose worded
    change Worded ((operator.text ++ text).toList ++ rest) _
    rw [whole, List.cons_append]
    refine written.worded ?_ (inner.spells rest others loose worded)
    rintro next found
    rw [same] at found
    cases found
    exact ⟨notDash, notBrace⟩
  · rintro rfl
    cases isSymbol
  · intro word others same
    cases same
    change isSign kind = Fragment.startsWithSign (operator.text ++ text)
    rw [startsWithSign_cons whole, isSymbol, sign]

/-- The words of two operands are read as one operation. -/
theorem Operator.Written.spells {operators : List (Kind × Operator)} {kind : Kind} {symbol : Char}
    {before after : List Char} (written : operator.Written operators kind symbol)
    (first : Spells before words) (second : Spells after words') (solid : words' ≠ []) :
    Spells (before ++ ' ' :: symbol :: ' ' :: after)
      (words ++ .written kind [symbol] :: words') := by
  intro rest others loose worded
  have blank := (second rest others loose worded).blank (List.append_ne_nil_of_left_ne_nil solid others)
  have alone (next : Char) (found : (' ' :: (after ++ rest)).head? = some next) :
      next ≠ '-' ∧ next ≠ '{' := by
    cases found
    decide
  have operation := (written.worded alone blank).blank (List.cons_ne_nil _ _)
  have whole := first _ _ (loose_cons (by decide) _) operation
  simpa only [List.append_assoc, List.cons_append] using whole

/-- A text starts with a sign when its first part does. -/
theorem startsWithSign_append {text : String} {first : Char} {rest : List Char}
    (same : text.toList = first :: rest) (more : String) :
    Fragment.startsWithSign (text ++ more) = Fragment.startsWithSign text := by
  have whole : (text ++ more).toList = first :: (rest ++ more.toList) := by
    rw [String.toList_append, same, List.cons_append]
  rw [startsWithSign_cons same, startsWithSign_cons whole]

/-- Two operands render an operation when they bind tightly enough for it. -/
theorem Renders.operation {operators : List (Kind × Operator)} {kind : Kind} {symbol : Char}
    {level : Nat} (first : Renders fragment words left) (second : Renders fragment' words' right)
    (written : operator.Written operators kind symbol) (tight : level ≤ fragment.level)
    (isChain : level = Fragment.sumLevel ∨ level = Fragment.productLevel)
    (phrase : Phrase.Opening (words ++ .written kind [symbol] :: words') →
      Phrase level (words ++ .written kind [symbol] :: words') (.binary span operator left right)) :
    Renders ⟨fragment.text ++ " " ++ operator.text ++ " " ++ fragment'.text, level⟩
      (words ++ .written kind [symbol] :: words') (.binary span operator left right) := by
  obtain ⟨character, more, same, notBrace⟩ := first.starts
  obtain ⟨word, others, split, starts⟩ := first.phrase.starts
  have notFunction : fragment.level ≠ Fragment.functionLevel := by
    rintro level'
    rw [level'] at tight
    rcases isChain with rfl | rfl
    · exact absurd tight (by decide)
    · exact absurd tight (by decide)
  have opening : Phrase.Opening (words ++ .written kind [symbol] :: words') := by
    refine ⟨⟨word, _, by rw [split, List.cons_append], starts⟩, ?_⟩
    intro depth tokens rest same _
    obtain ⟨before, _, rfl, here, later⟩ := List.map_eq_append_iff.1 same
    obtain ⟨found, after, rfl, foundWord, _⟩ := List.map_eq_cons_iff.1 later
    obtain rfl : found.kind = kind := congrArg Word.kind foundWord
    rw [List.append_assoc]
    exact first.phrase.notFunction notFunction depth before _ here (written.ends _)
  have low : level < Fragment.atomLevel := by rcases isChain with rfl | rfl <;> decide
  have whole : (fragment.text ++ " " ++ operator.text ++ " " ++ fragment'.text).toList =
      fragment.text.toList ++ ' ' :: symbol :: ' ' :: fragment'.text.toList := by
    simp [String.toList_append, written.text]
  have starts' := whole
  rw [same, List.cons_append] at starts'
  refine ⟨?_, phrase opening, Nat.le_of_lt low, ⟨character, _, starts', notBrace⟩, ?_,
    fun same => absurd same (Nat.ne_of_lt low)⟩
  · rw [whole]
    exact written.spells first.spells second.spells second.phrase.solid
  · intro word' others' same'
    rw [split, List.cons_append] at same'
    obtain rfl := (List.cons.inj same').1
    rw [String.append_assoc, String.append_assoc, String.append_assoc, startsWithSign_append same]
    exact first.sign word others split

/-- Two operands render a binary operation when each binds as tightly as its side demands. -/
theorem Renders.binary (first : Renders fragment words left) (second : Renders fragment' words' right)
    (isBinary : operator.isBinary = true) :
    ∃ words, Renders (Fragment.ofBinary operator fragment fragment') words
      (.binary span operator left right) := by
  by_cases tight : operator.precedence = 2
  · obtain ⟨kind, symbol, written⟩ := Operator.written_product tight
    have level : Fragment.binaryLevel operator = Fragment.productLevel := by
      rw [Fragment.binaryLevel, tight]
      rfl
    obtain ⟨level', words, high, first⟩ :=
      first.atLeast (show Fragment.productLevel ≤ Fragment.atomLevel by decide)
    obtain ⟨level'', words', high', second⟩ :=
      second.atLeast (show Fragment.productLevel + 1 ≤ Fragment.atomLevel by decide)
    rw [Fragment.ofBinary, level]
    refine ⟨_, first.operation second written high (.inr rfl) fun opening => .ofProduct opening ?_⟩
    intro depth
    exact (first.phrase.product high depth).operation (second.phrase.factor high' depth) written.goesOn
      written.known fun found rest same => ⟨found, rest, rfl, .inr (same ▸ written.trails)⟩
  · obtain ⟨kind, symbol, written, sign, _⟩ :=
      Operator.written_sum (Operator.isUnary_of_loose isBinary tight)
    have level : Fragment.binaryLevel operator = Fragment.sumLevel := by
      rw [Fragment.binaryLevel, beq_eq_false_iff_ne.2 tight]
      rfl
    obtain ⟨level', words, high, first⟩ :=
      first.atLeast (show Fragment.sumLevel ≤ Fragment.atomLevel by decide)
    obtain ⟨level'', words', high', second⟩ :=
      second.atLeast (show Fragment.sumLevel + 1 ≤ Fragment.atomLevel by decide)
    rw [Fragment.ofBinary, level]
    refine ⟨_, first.operation second written high (.inl rfl) fun opening => .ofSum opening ?_⟩
    intro depth
    exact (first.phrase.sum high depth).operation (second.phrase.product high' depth).reads
      written.goesOn written.known fun found rest same => ⟨found, rest, rfl, .inr (same ▸ sign)⟩

end Operations

section Applications

variable {span : Span} {param : String} {body callee arg : Expression} {fragment : Fragment}
  {words words' : List Word}

/-- A name and a body render a function. -/
theorem Renders.function (renders : Renders fragment words body) (isName : IsName param) :
    ∃ words', Renders ⟨param ++ ": " ++ fragment.text, Fragment.functionLevel⟩ words'
      (.function span param body) := by
  obtain ⟨⟨first, more, same, notBrace⟩, unsigned⟩ := isName.starts
  have whole : (param ++ ": " ++ fragment.text).toList =
      param.toList ++ ':' :: ' ' :: fragment.text.toList := by
    simp [String.toList_append]
  have starts := whole
  rw [same, List.cons_append] at starts
  have reads (depth : Nat) : ReadsAs (Grammar.function (expressionWithin depth)) (depth + 1) Closed
      (.written .identifier param.toList :: .written .colon [':'] :: words)
      (.function span param body) := by
    intro tokens rest same short closed
    obtain ⟨name, _, rfl, word, later⟩ := List.map_eq_cons_iff.1 same
    obtain ⟨colon, inside, rfl, isColon, here⟩ := List.map_eq_cons_iff.1 later
    obtain ⟨kind, rfl⟩ := name_of_word word
    simp only [List.cons_append, List.length_cons] at short
    obtain ⟨value, bare, yields⟩ := renders.phrase.expression depth inside rest here (by omega) closed
    refine ⟨.function (name.span.around value.extent) name.name value, ?_,
      yields_function kind (congrArg Word.kind isColon) yields⟩
    rw [Expression.bare, Expression.bare, bare]
  have low : Fragment.functionLevel ≤ Fragment.atomLevel := by decide
  have other : Fragment.functionLevel ≠ Fragment.atomLevel := by decide
  refine ⟨_, ?_, Phrase.ofFunction ⟨_, _, rfl, rfl⟩ reads, low, ⟨first, _, starts, notBrace⟩, ?_,
    (absurd · other)⟩
  · intro rest others loose worded
    have blank := (renders.spells rest others loose worded).blank
      (List.append_ne_nil_of_left_ne_nil renders.phrase.solid others)
    have colon := blank.symbol (show Kind.ofSymbol? ':' = some .colon from rfl) (by decide) (by decide)
    have all := isName.spells _ _ (loose_cons (by decide) _) colon
    rw [whole]
    simpa only [List.append_assoc, List.cons_append, List.nil_append] using all
  · intro word others same'
    cases same'
    rw [String.append_assoc, startsWithSign_append same, unsigned]
    rfl

/-- A callee is rendered by an atom that is also read where an argument can follow it. -/
structure RendersCallee (text : String) (words : List Word) (meant : Expression) : Prop
    extends Renders ⟨text, Fragment.atomLevel⟩ words meant where
  notFunction : ∀ depth (tokens rest : List Token), tokens.map Token.word = words →
    headKind rest ≠ some .colon → (Grammar.function (expressionWithin depth)).Refuses (tokens ++ rest)
  reads : ∀ depth, ReadsAs (Grammar.callee (expressionWithin depth)) (depth + 1) (fun _ => True) words
    meant

/-- A name is rendered as a callee by itself. -/
theorem rendersCallee_ident {name : String} (isName : IsName name) :
    RendersCallee name [.written .identifier name.toList] (.ident span name) where
  toRenders := renders_ident isName
  notFunction := by
    intro depth tokens rest same notColon
    obtain ⟨token, rfl, word⟩ := exists_single same
    exact refuses_function_colon (name_of_word word).1 notColon
  reads := by
    intro depth tokens rest same _ _
    obtain ⟨token, rfl, word⟩ := exists_single same
    obtain ⟨kind, rfl⟩ := name_of_word word
    exact ⟨.ident token.span token.name, rfl, yields_callee_ident kind rest⟩

/-- A function is applied in parentheses. -/
theorem Renders.rendersCallee {text : String} {meant : Expression}
    (renders : Renders ⟨text, Fragment.functionLevel⟩ words meant) :
    RendersCallee (Fragment.parenthesized text) (parenthesizedWords words) meant where
  toRenders := renders.parenthesized
  notFunction := by
    intro depth tokens rest same _
    obtain ⟨opening, inside, closing, rfl, left, _, _⟩ := exists_parenthesized same
    exact refuses_function (by simp [headKind, left])
  reads := by
    intro depth tokens rest same short _
    obtain ⟨opening, inside, closing, rfl, left, here, right⟩ := exists_parenthesized same
    simp only [List.cons_append, List.append_assoc, List.length_cons, List.nil_append] at short ⊢
    have closed : Closed (closing :: rest) := ⟨closing, rest, rfl, by rw [right]; rfl⟩
    obtain ⟨value, bare, yields⟩ := renders.phrase.function rfl depth inside _ here
      (Nat.le_of_succ_le short) closed
    exact ⟨value, bare, yields_callee_function left right yields⟩

/-- An argument is put in parentheses where it would read as a sum with the callee. -/
theorem Renders.argument (renders : Renders fragment words arg) {text : String}
    (same : text = fragment.atLeast Fragment.sumLevel) :
    ∃ level words', Renders ⟨if Fragment.startsWithSign text then Fragment.parenthesized text else text,
      level⟩ words' arg ∧ ∀ word others, words' = word :: others → isSign word.kind = false := by
  obtain ⟨level, words', _, inner⟩ :=
    renders.atLeast (show Fragment.sumLevel ≤ Fragment.atomLevel by decide)
  rw [← same] at inner
  by_cases sign : Fragment.startsWithSign text = true
  · rw [if_pos sign]
    refine ⟨Fragment.atomLevel, _, inner.parenthesized, ?_⟩
    intro word others same
    cases same
    rfl
  · rw [if_neg sign]
    exact ⟨level, words', inner, fun word others same =>
      (inner.sign word others same).trans (Bool.eq_false_iff.2 sign)⟩

/-- A callee and an argument are read as an application. -/
theorem RendersCallee.reads_application {first : String} (head : RendersCallee first words callee)
    (tail : Renders fragment words' arg)
    (notSign : ∀ word others, words' = word :: others → isSign word.kind = false) (depth : Nat) :
    ReadsAs (Grammar.factor (expressionWithin depth)) (depth + 1) Closed (words ++ words')
      (.apply span callee arg) := by
  intro tokens rest same short closed
  obtain ⟨before, after, rfl, here, later⟩ := List.map_eq_append_iff.1 same
  rw [List.append_assoc] at short ⊢
  obtain ⟨value, bare, yields⟩ := head.reads depth before (after ++ rest) here short trivial
  have shorter : (after ++ rest).length ≤ depth := by
    have positive : 0 < before.length := by
      rw [← List.length_map Token.word, here]
      exact List.length_pos_of_ne_nil head.phrase.solid
    rw [List.length_append] at short
    omega
  obtain ⟨value', bare', yields'⟩ := tail.phrase.expression depth after rest later shorter closed
  have argument : (Grammar.argument (expressionWithin depth)).Yields (after ++ rest) value' [] rest := by
    refine yields_argument (fun kind found => ?_) yields'
    obtain ⟨word, others, split, _, first⟩ := tail.phrase.head later
    rw [first, Option.some.injEq] at found
    exact found ▸ notSign word others split
  obtain ⟨word, others, split, _, first⟩ := head.phrase.head here
  refine ⟨.apply (value.extent.around value'.extent) value value', ?_,
    factor_application (fun kind found => ?_) (yields_application yields argument)⟩
  · rw [Expression.bare, Expression.bare, bare, bare']
  · rw [first, Option.some.injEq] at found
    exact found ▸ (head.sign word others split).trans (head.unsigned rfl)

/-- A callee and an argument render an application. -/
theorem RendersCallee.apply {first second : String} {level : Nat}
    (head : RendersCallee first words callee) (tail : Renders ⟨second, level⟩ words' arg)
    (notSign : ∀ word others, words' = word :: others → isSign word.kind = false) :
    Renders ⟨first ++ " " ++ second, Fragment.applyLevel⟩ (words ++ words') (.apply span callee arg) := by
  obtain ⟨character, more, same, notBrace⟩ := head.starts
  obtain ⟨word, others, split, starts⟩ := head.phrase.starts
  have whole : (first ++ " " ++ second).toList = first.toList ++ ' ' :: second.toList := by
    simp [String.toList_append]
  have starts' := whole
  rw [same, List.cons_append] at starts'
  have opening : Phrase.Opening (words ++ words') := by
    refine ⟨⟨word, _, by rw [split, List.cons_append], starts⟩, ?_⟩
    intro depth tokens rest same _
    obtain ⟨before, after, rfl, here, later⟩ := List.map_eq_append_iff.1 same
    rw [List.append_assoc]
    exact head.notFunction depth before _ here (tail.phrase.head_ne later rfl)
  have low : Fragment.applyLevel ≤ Fragment.atomLevel := by decide
  have other : Fragment.applyLevel ≠ Fragment.atomLevel := by decide
  refine ⟨?_, Phrase.ofApplication opening (head.reads_application tail notSign), low,
    ⟨character, _, starts', notBrace⟩, ?_, (absurd · other)⟩
  · intro rest others' loose worded
    have blank := (tail.spells rest others' loose worded).blank
      (List.append_ne_nil_of_left_ne_nil tail.phrase.solid others')
    have all := head.spells _ _ (loose_cons (by decide) _) blank
    rw [whole]
    simpa only [List.append_assoc, List.cons_append] using all
  · intro word' others' same'
    rw [split, List.cons_append] at same'
    obtain rfl := (List.cons.inj same').1
    rw [String.append_assoc, startsWithSign_append same]
    exact head.sign word others split

/-- A callee is put in parentheses unless it is an atom. -/
theorem RendersCallee.ofApply {fragment fragment' : Fragment}
    (head : RendersCallee (if fragment.level = Fragment.atomLevel then fragment.text
      else Fragment.parenthesized fragment.text) words callee) (tail : Renders fragment' words' arg) :
    ∃ words, Renders (Fragment.ofApply fragment fragment') words (.apply span callee arg) := by
  obtain ⟨level, words', inner, notSign⟩ := tail.argument rfl
  exact ⟨_, head.apply inner notSign⟩

/-- Names and functions are written as callees. -/
theorem Expression.Parsable.rendersCallee (parsable : callee.Parsable)
    (callable : callee.isCallable = true) (text : callee.fold Fragment.interpretation = .ok fragment)
    (renders : Renders fragment words callee) :
    ∃ words, RendersCallee (if fragment.level = Fragment.atomLevel then fragment.text
      else Fragment.parenthesized fragment.text) words callee := by
  cases parsable with
  | ident isName =>
      cases text
      exact ⟨_, rendersCallee_ident isName⟩
  | function isName inner =>
      rw [fold] at text
      obtain ⟨body, _, text⟩ := exists_of_bind_ok text
      cases text
      exact ⟨_, renders.rendersCallee⟩
  | int | float | unit | unary | binary | apply | list => cases callable

end Applications

section Lists

/-- Fragments render expressions one by one. -/
inductive RendersAll : List Fragment → List (List Word) → List Expression → Prop where
  | nil : RendersAll [] [] []
  | cons {fragment : Fragment} {words : List Word} {elem : Expression} {fragments : List Fragment}
      {phrases : List (List Word)} {elems : List Expression} (here : Renders fragment words elem)
      (later : RendersAll fragments phrases elems) :
      RendersAll (fragment :: fragments) (words :: phrases) (elem :: elems)

/-- These are the words of further elements, each after a comma. -/
def furtherWords (phrases : List (List Word)) : List Word :=
  phrases.flatMap fun words => .written .comma [','] :: words

/-- This is the text of further elements, each after a comma and a blank. -/
def furtherText (fragments : List Fragment) : List Char :=
  fragments.flatMap fun fragment => ',' :: ' ' :: fragment.text.toList

variable {fragments : List Fragment} {phrases : List (List Word)} {elems : List Expression}

/-- Elements are written with commas between them. -/
theorem toList_elements (first : Fragment) (others : List Fragment) :
    (String.intercalate ", " ((first :: others).map Fragment.text)).toList =
      first.text.toList ++ furtherText others := by
  induction others generalizing first with
  | nil => simp [furtherText]
  | cons second others ih =>
      rw [List.map_cons, List.map_cons, String.intercalate_cons_cons, String.toList_append,
        String.toList_append, ← List.map_cons, ih second, List.append_assoc]
      rfl

/-- No word goes on with further elements. -/
theorem loose_further (fragments : List Fragment) (rest : List Char) :
    Loose (furtherText fragments ++ [']'] ++ rest) := by
  cases fragments with
  | nil => exact loose_cons (by decide) _
  | cons => exact loose_cons (by decide) _

/-- Further elements and the closing bracket end an expression. -/
theorem closed_further {tokens : List Token} {closing : Token}
    (same : tokens.map Token.word = furtherWords phrases) (right : closing.kind = .rightBracket)
    (rest : List Token) : Closed (tokens ++ closing :: rest) := by
  cases phrases with
  | nil =>
      obtain rfl := List.map_eq_nil_iff.1 same
      exact ⟨closing, rest, rfl, by rw [right]; rfl⟩
  | cons =>
      obtain ⟨next, _, rfl, isNext, _⟩ := List.map_eq_cons_iff.1 same
      have comma : next.kind = .comma := congrArg Word.kind isNext
      exact ⟨next, _, rfl, by rw [comma]; rfl⟩

/-- Further elements are read as their words before a closing bracket. -/
theorem RendersAll.spells_further (all : RendersAll fragments phrases elems) :
    Spells (furtherText fragments ++ [']']) (furtherWords phrases ++ [.written .rightBracket [']']]) := by
  induction all with
  | nil =>
      intro rest others _ worded
      exact worded.symbol rfl (by decide) (by decide)
  | @cons fragment words elem fragments phrases elems here later ih =>
      intro rest others loose worded
      have tail := ih rest others loose worded
      have blank := (here.spells _ _ (loose_further fragments rest) tail).blank
        (List.append_ne_nil_of_left_ne_nil here.phrase.solid _)
      have comma := blank.symbol (show Kind.ofSymbol? ',' = some .comma from rfl) (by decide) (by decide)
      simpa [furtherText, furtherWords] using comma

/-- Further elements are parsed one by one up to the closing bracket. -/
theorem RendersAll.repeats {depth : Nat} (all : RendersAll fragments phrases elems)
    {tokens rest : List Token} {closing : Token} (same : tokens.map Token.word = furtherWords phrases)
    (right : closing.kind = .rightBracket) (short : (tokens ++ closing :: rest).length ≤ depth + 1) :
    ∃ values, Expression.allBare values = Expression.allBare elems ∧
      Repeats (pair (token .comma) (expressionWithin depth) fun _ elem => elem)
        (tokens ++ closing :: rest) values [] (closing :: rest) := by
  induction all generalizing tokens with
  | nil =>
      obtain rfl := List.map_eq_nil_iff.1 same
      refine ⟨[], rfl, .done ((refuses_head ?_).pair _ _)⟩
      simp [headKind, right]
  | @cons fragment words elem fragments phrases elems here later ih =>
      obtain ⟨comma, _, rfl, isComma, same⟩ := List.map_eq_cons_iff.1 same
      obtain ⟨inside, tokens, rfl, first, others⟩ := List.map_eq_append_iff.1 same
      simp only [List.cons_append, List.append_assoc, List.length_cons] at short ⊢
      obtain ⟨value, bare, yields⟩ := here.phrase.expression depth inside _ first
        (Nat.le_of_succ_le_succ short) (closed_further others right rest)
      obtain ⟨values, allBare, repeats⟩ := ih others (by
        simp only [List.length_append, List.length_cons] at short ⊢
        omega)
      refine ⟨value :: values, ?_, .step ((yields_token (congrArg Word.kind isComma) (by decide) _).pair
        yields _) ?_ repeats⟩
      · rw [Expression.allBare, Expression.allBare, bare, allBare]
      · simp only [List.length_append, List.length_cons]
        omega

/-- Elements between brackets render a list. -/
theorem renders_brackets {span : Span} {text : String} {words : List Word}
    (spells : Spells (text.toList ++ [']']) (words ++ [.written .rightBracket [']']]))
    (reads : ∀ depth (tokens rest : List Token) (closing : Token), tokens.map Token.word = words →
      closing.kind = .rightBracket → (tokens ++ closing :: rest).length ≤ depth →
        ∃ values, Expression.allBare values = Expression.allBare elems ∧
          (elements (expressionWithin depth)).Yields (tokens ++ closing :: rest) values []
            (closing :: rest)) :
    ∃ words', Renders ⟨"[" ++ text ++ "]", Fragment.atomLevel⟩ words' (.list span elems) := by
  have whole : ("[" ++ text ++ "]").toList = '[' :: (text.toList ++ [']']) := by
    simp [String.toList_append]
  have unsigned : Fragment.startsWithSign ("[" ++ text ++ "]") = false := by
    rw [startsWithSign_cons whole]
    rfl
  have opening : Phrase.Opening (.written .leftBracket ['['] :: (words ++ [.written .rightBracket [']']])) :=
    opening_of_head rfl Kind.noConfusion
  have term (depth : Nat) : ReadsAs (Grammar.term (expressionWithin depth)) (depth + 1) (fun _ => True)
      (.written .leftBracket ['['] :: (words ++ [.written .rightBracket [']']])) (.list span elems) := by
    intro tokens rest same short _
    obtain ⟨opening, _, rfl, left, later⟩ := List.map_eq_cons_iff.1 same
    obtain ⟨inside, last, rfl, here, final⟩ := List.map_eq_append_iff.1 later
    obtain ⟨closing, rfl, right⟩ := exists_single final
    simp only [List.cons_append, List.append_assoc, List.length_cons, List.nil_append] at short ⊢
    obtain ⟨values, bare, yields⟩ := reads depth inside rest closing here (congrArg Word.kind right)
      (Nat.le_of_succ_le_succ short)
    refine ⟨.list (opening.span.around closing.span) values, ?_,
      term_list (congrArg Word.kind left) (congrArg Word.kind right) yields⟩
    rw [Expression.bare, Expression.bare, bare]
  refine ⟨_, ?_, Phrase.ofTerm opening (Phrase.factor_of_term term ?_ ?_ (List.cons_ne_nil _ _)) term,
    Nat.le_refl _, ⟨'[', _, whole, by decide⟩, ?_, fun _ => unsigned⟩
  · intro rest others loose worded
    have all := (spells rest others loose worded).symbol
      (show Kind.ofSymbol? '[' = some .leftBracket from rfl) (by decide) (by decide)
    rw [whole]
    exact all
  · intro word others same
    cases same
    rfl
  · intro depth tokens rest same _
    obtain ⟨opening, _, rfl, left, _⟩ := List.map_eq_cons_iff.1 same
    have kind : opening.kind = .leftBracket := congrArg Word.kind left
    exact refuses_callee (by simp [headKind, kind]) (by simp [headKind, kind])
  · intro word others same
    cases same
    rw [unsigned]
    rfl

/-- Elements between brackets, with commas in between, render a list. -/
theorem RendersAll.list {span : Span} (all : RendersAll fragments phrases elems) :
    ∃ words, Renders ⟨"[" ++ String.intercalate ", " (fragments.map Fragment.text) ++ "]",
      Fragment.atomLevel⟩ words (.list span elems) := by
  cases all with
  | nil =>
      refine @renders_brackets [] span _ [] RendersAll.nil.spells_further ?_
      intro depth tokens rest closing same right short
      obtain rfl := List.map_eq_nil_iff.1 same
      rw [List.nil_append] at short ⊢
      refine ⟨[], rfl, yields_no_elements right ?_⟩
      cases depth with
      | zero => cases short
      | succ depth =>
          refine refuses_expression fun kind here => ?_
          obtain rfl : closing.kind = kind := Option.some.inj here
          rw [right]
          rfl
  | @cons fragment words elem fragments phrases elems here later =>
      refine @renders_brackets (elem :: elems) span _ (words ++ furtherWords phrases) ?_ ?_
      · intro rest others loose worded
        have tail := later.spells_further rest others loose worded
        have whole := here.spells _ _ (loose_further fragments rest) tail
        rw [toList_elements]
        simpa using whole
      · intro depth tokens rest closing same right short
        obtain ⟨inside, tokens, rfl, first, others⟩ := List.map_eq_append_iff.1 same
        rw [List.append_assoc] at short ⊢
        obtain ⟨value, bare, yields⟩ := here.phrase.expression depth inside _ first short
          (closed_further others right rest)
        have shorter : (tokens ++ closing :: rest).length ≤ depth + 1 := by
          rw [List.length_append] at short
          omega
        obtain ⟨values, allBare, repeats⟩ := later.repeats others right shorter
        refine ⟨value :: values, ?_, yields_elements yields repeats⟩
        rw [Expression.allBare, Expression.allBare, bare, allBare]

end Lists

/-- Elements are rendered when each of them is. -/
theorem rendersAll {elems : List Expression} (each : ∀ elem ∈ elems, ∃ fragment words,
    elem.fold Fragment.interpretation = .ok fragment ∧ Renders fragment words elem) :
    ∃ fragments phrases, Expression.foldAll Fragment.interpretation elems = .ok fragments ∧
      RendersAll fragments phrases elems := by
  induction elems with
  | nil => exact ⟨[], [], rfl, .nil⟩
  | cons elem elems ih =>
      obtain ⟨⟨fragment, words, text, here⟩, others⟩ := List.forall_mem_cons.1 each
      obtain ⟨fragments, phrases, texts, later⟩ := ih others
      refine ⟨_, _, ?_, .cons here later⟩
      rw [Expression.foldAll, text, texts]
      rfl

/-- Every parsable expression is written as a fragment that renders it. -/
theorem Expression.Parsable.renders {expression : Expression} (parsable : expression.Parsable) :
    ∃ fragment words, expression.fold Fragment.interpretation = .ok fragment ∧
      Renders fragment words expression := by
  induction parsable with
  | int positive => exact ⟨_, _, rfl, renders_int positive⟩
  | float plain => exact ⟨_, _, rfl, renders_float plain⟩
  | unit => exact ⟨_, _, rfl, renders_unit⟩
  | ident isName => exact ⟨_, _, rfl, renders_ident isName⟩
  | unary isUnary inner ih =>
      obtain ⟨fragment, words, text, renders⟩ := ih
      obtain ⟨words, whole⟩ := renders.unary isUnary
      refine ⟨_, words, ?_, whole⟩
      rw [fold, text]
      rfl
  | binary isBinary first second ih ih' =>
      obtain ⟨fragment, words, text, renders⟩ := ih
      obtain ⟨fragment', words', text', renders'⟩ := ih'
      obtain ⟨words, whole⟩ := renders.binary renders' isBinary
      refine ⟨_, words, ?_, whole⟩
      rw [fold, text, text']
      rfl
  | function isName inner ih =>
      obtain ⟨fragment, words, text, renders⟩ := ih
      obtain ⟨words, whole⟩ := renders.function isName
      refine ⟨_, words, ?_, whole⟩
      rw [fold, text]
      rfl
  | apply callable first second ih ih' =>
      obtain ⟨fragment, words, text, renders⟩ := ih
      obtain ⟨fragment', words', text', renders'⟩ := ih'
      -- A callee is written as a name or in brackets, so its argument can stand right behind it.
      obtain ⟨_, head⟩ := first.rendersCallee callable text renders
      obtain ⟨words, whole⟩ := head.ofApply renders'
      refine ⟨_, words, ?_, whole⟩
      rw [fold, text, text']
      rfl
  | @list span elems inner ih =>
      obtain ⟨fragments, phrases, texts, all⟩ := rendersAll ih
      obtain ⟨words, whole⟩ := all.list
      refine ⟨_, words, ?_, whole⟩
      rw [fold, texts]
      rfl

end Reckon
