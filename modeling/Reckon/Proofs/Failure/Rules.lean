/-
This file gives the pattern of each rule of the grammar. The rules follow their patterns, and the words
of the patterns are sentences.
-/

import Reckon.Proofs.Failure.Following
import Reckon.Proofs.Parse.Acceptance

namespace Reckon

namespace Pattern

/-- This is one of the kinds, which are tried in order. -/
def anyOf (kind : Kind) : List Kind → Pattern
  | [] => token kind
  | other :: others => either (token kind) (anyOf other others)

def sumOperator : Pattern := anyOf .plus [.dash]

def productOperator : Pattern := anyOf .star [.slash, .percent]

def bracketed (left : Kind) (inner : Pattern) (right : Kind) : Pattern :=
  both (token left) (both inner (token right))

def function (expr : Pattern) : Pattern := both (token .identifier) (both (token .colon) expr)

def callee (expr : Pattern) : Pattern :=
  either (bracketed .leftParen (function expr) .rightParen) (token .identifier)

def application (expr : Pattern) : Pattern :=
  both (callee expr) (optional (barred [.plus, .dash] expr))

def elements (expr : Pattern) (count : Nat) : Pattern :=
  both expr (repeated (both (token .comma) expr) (both (token .comma) (token .identifier)) count)

def list (expr : Pattern) (count : Nat) : Pattern :=
  both (token .leftBracket) (closed (elements expr count) .rightBracket)

def term (expr : Pattern) (count : Nat) : Pattern :=
  either (among .integer [.float]) (either (token .identifier)
    (either (both (token .leftParen) (token .rightParen)) (either (bracketed .leftParen expr .rightParen)
      (either (bracketed .leftBrace expr .rightBrace) (list expr count)))))

def unary (expr : Pattern) (count : Nat) : Pattern := both sumOperator (term expr count)

def factor (expr : Pattern) (count : Nat) : Pattern :=
  either (unary expr count) (either (application expr) (term expr count))

def chain (operand operator : Pattern) (count : Nat) : Pattern :=
  both operand (repeated (both operator operand) (both operator (token .identifier)) count)

def product (expr : Pattern) (count : Nat) : Pattern := chain (factor expr count) productOperator count

def sum (expr : Pattern) (count : Nat) : Pattern := chain (product expr count) sumOperator count

def expressionRule (expr : Pattern) (count : Nat) : Pattern := either (function expr) (sum expr count)

/-- This is the pattern of expressions that nest at most `depth` deep. The innermost expressions are
names, which can have a sign. -/
def expressionWithin (count : Nat) : Nat → Pattern
  | 0 => either (both sumOperator (token .identifier)) (token .identifier)
  | depth + 1 => expressionRule (expressionWithin count depth) count

def statementRule (expr : Pattern) : Pattern :=
  either (both (token .identifier) (both (token .equal) expr)) expr

/-- A solid pattern matches no empty word. -/
def Solid (pattern : Pattern) : Prop := ∀ word, (pattern.run word).length? ≠ some 0

section Solid

variable {first second : Pattern}

theorem solid_token (kind : Kind) : (token kind).Solid := by
  intro word found
  exact absurd (Trace.among_length found).1 (by decide)

/-- A sequence is solid when its first part is. -/
theorem Solid.both (solid : first.Solid) : (first.both second).Solid := by
  intro word found
  obtain ⟨length, rest, here, _, total⟩ := Trace.andThen_length.1 found
  obtain rfl : length = 0 := by omega
  exact solid word here

/-- A choice is solid when both alternatives are. -/
theorem Solid.either (solid : first.Solid) (solid' : second.Solid) : (first.either second).Solid := by
  intro word found
  rcases Trace.orElse_length.1 found with here | ⟨_, here⟩
  · exact solid word here
  · exact solid' word here

/-- One of several kinds is not empty. -/
theorem solid_anyOf (kind : Kind) (others : List Kind) : (anyOf kind others).Solid := by
  induction others generalizing kind with
  | nil => exact solid_token kind
  | cons other others ih => exact (solid_token kind).either (ih other)

theorem solid_callee (expr : Pattern) : (callee expr).Solid :=
  (solid_token .leftParen).both.either (solid_token .identifier)

/-- A match of a solid pattern leaves fewer tokens than before. -/
theorem Solid.leaves (solid : first.Solid) (bound : Nat) : Parser.Leaves first (bound + 1) bound := by
  intro word length found
  have positive : length ≠ 0 := fun same => solid word (same ▸ found)
  omega

theorem leaves_same (pattern : Pattern) (bound : Nat) : Parser.Leaves pattern bound bound :=
  fun _ _ _ => Nat.le_add_left _ _

end Solid

end Pattern

namespace Grammar

open Reckon.Parser State Failure

variable {expr : Parser Expression} {pattern : Pattern} {bound count : Nat}

/-- A token of one of the kinds follows their pattern. -/
theorem follows_tokenAmong {kind : Kind} {others : List Kind}
    (goesOn : ∀ other ∈ kind :: others, other ≠ .endOfInput) (bound : Nat) :
    (tokenAmong (kind :: others)).Follows bound (.anyOf kind others) := by
  induction others generalizing kind with
  | nil => exact (follows_token (goesOn _ List.mem_cons_self) bound).choice_single
  | cons other others ih =>
      obtain ⟨here, later⟩ := List.forall_mem_cons.1 goesOn
      exact (follows_token here bound).choice (ih later)

theorem follows_sumOperator (bound : Nat) : (tokenAmong sumKinds).Follows bound .sumOperator :=
  follows_tokenAmong (by decide) bound

theorem follows_productOperator (bound : Nat) :
    (tokenAmong productKinds).Follows bound .productOperator :=
  follows_tokenAmong (by decide) bound

theorem furthest_noteNumeral {A : Type} (found : Token) (zero : A) (value : Except NumeralProblem A)
    (state : State) : (noteNumeral found zero value state).2.furthest = state.furthest := by
  cases value <;> rfl

/-- A number that is parsed leaves the furthest failure as it was. -/
theorem furthest_number {state next : State} {value : Expression}
    (outcome : number state = .success value next) : next.furthest = state.furthest := by
  unfold number at outcome
  split at outcome
  · cases outcome
  split at outcome
  · split at outcome
    · cases outcome
    rename_i pushed
    split at outcome
    · cases outcome
    · cases outcome
      exact (furthest_noteNumeral _ _ _ _).trans (furthest_push pushed)
  · split at outcome
    · cases outcome
    rename_i pushed
    cases outcome
    exact (furthest_noteNumeral _ _ _ _).trans (furthest_push pushed)
  · cases outcome

/-- A number follows the pattern of both kinds of numerals. -/
theorem follows_number (bound : Nat) : number.Follows bound (.among .integer [.float]) := by
  intro state tokens _ facing
  cases tokens with
  | nil => cases facing.supply
  | cons first rest =>
      rw [Pattern.run]
      rcases Trace.among_cases [.integer, .float] ((first :: rest).map Token.kind) with
        ⟨⟨kind, member, others, split⟩, run⟩ | ⟨other, run⟩
      · have numeral : first.kind = .integer ∨ first.kind = .float := by
          rw [(List.cons.inj split).1]
          simpa using member
        obtain ⟨next, outcome, reached⟩ := yields_number rest numeral state facing
        rw [run]
        exact .inl ⟨1, _, next, rfl, outcome, ⟨reached.facing, reached.extended⟩,
          furthest_number outcome⟩
      · have notInteger : first.kind ≠ .integer :=
          fun same => other .integer (by decide) (congrArg some same)
        have notFloat : first.kind ≠ .float :=
          fun same => other .float (by decide) (congrArg some same)
        have same := SameBefore.expect state Kind.integer.name
        rw [run]
        refine .inr ⟨_, rfl, ?_, same.trans (.expect _ Kind.float.name), ?_⟩
        · simp only [number, facing.peek]
        · rw [furthest_expect, furthest_expect, same.position]
          rfl

/-- A parser between brackets follows the bracketed pattern. -/
theorem follows_between {A : Type} {inner : Parser A} (follows : inner.Follows bound pattern)
    {left right : Kind} (opens : left ≠ .endOfInput) (closes : right ≠ .endOfInput) :
    (between (token left) inner (token right)).Follows (bound + 1) (.bracketed left pattern right) :=
  (follows_token opens _).triple follows (follows_token closes bound)
    ((Pattern.solid_token left).leaves bound) (Pattern.leaves_same _ _) _

/-- The rule of functions follows its pattern. -/
theorem follows_function (follows : expr.Follows bound pattern) :
    (function expr).Follows (bound + 1) (.function pattern) :=
  (follows_token (by decide) _).triple (follows_token (by decide) bound) follows
    ((Pattern.solid_token _).leaves bound) (Pattern.leaves_same _ _) _

/-- The rule of callees follows its pattern. -/
theorem follows_callee (follows : expr.Follows bound pattern) :
    (callee expr).Follows (bound + 1) (.callee pattern) :=
  ((follows_between (follows_function follows) (by decide) (by decide)).lower (Nat.le_succ _)).choice
    ((follows_token (by decide) _).map _).choice_single

/-- Nothing is noted of the signs that bar an argument. -/
theorem follows_argument (follows : expr.Follows bound pattern) :
    (argument expr).Follows bound (.barred [.plus, .dash] pattern) := by
  apply Pursues.attempt
  intro state tokens short facing
  rw [Parser.andThen, Pattern.run]
  cases tokens with
  | nil => cases facing.supply
  | cons first rest =>
      have starts : Trace.starts [.plus, .dash] ((first :: rest).map Token.kind) =
          isSign first.kind := by
        rw [Bool.eq_iff_iff, isSign_iff, Trace.starts_iff]
        simp [Symbol.isSumOperator]
      rw [starts]
      by_cases sign : isSign first.kind = true
      · obtain ⟨operator, known⟩ := Option.isSome_iff_exists.1 sign
        have goesOn : first.kind ≠ .endOfInput := by
          intro same
          rw [same] at sign
          cases sign
        have yields : Grammar.sign.Yields (first :: rest) first [] rest :=
          yields_tokenAmong goesOn known rest
        rw [if_pos sign, yields.absent_eq facing]
        exact .inr ⟨state, rfl, rfl, .refl (Nat.le_refl _), rfl⟩
      · have refuses : Grammar.sign.Refuses (first :: rest) := by
          refine refuses_sign fun kind here => ?_
          obtain rfl : first.kind = kind := Option.some.inj here
          exact Bool.eq_false_iff.2 sign
        rw [if_neg sign, refuses.absent_eq facing]
        exact follows.pursues.map (fun arg => arg) state (first :: rest) short facing

/-- The rule of applications follows its pattern. -/
theorem follows_application (follows : expr.Follows bound pattern) :
    (application expr).Follows (bound + 1) (.application pattern) :=
  (follows_callee follows).pair (follows_argument follows).optional
    ((Pattern.solid_callee pattern).leaves bound) _

/-- The elements of a list follow their pattern, which repeats often enough. -/
theorem follows_elements (follows : expr.Follows bound pattern) (enough : bound ≤ count) :
    (pair expr (many (pair (token .comma) expr fun _ elem => elem))
      fun first others => first :: others).Follows bound (.elements pattern count) := by
  have step : (pair (token .comma) expr fun _ elem => elem).Follows bound
      (.both (.token .comma) pattern) :=
    (follows_token (by decide) bound).pair follows (Pattern.leaves_same _ _) _
  exact follows.pair (step.many (Pattern.solid_token _).both enough) (Pattern.leaves_same _ _) _

/-- A closing token is looked at before it is consumed, but it is noted only once. -/
theorem follows_peeked {A B : Type} {kind : Kind} (goesOn : kind ≠ .endOfInput) (value : A)
    (f : A → Token → B) (bound : Nat) :
    ((choice [(lookahead (token kind)).map fun _ => value]).andThen fun value =>
      (token kind).map fun closing => f value closing).Follows bound (.token kind) := by
  intro state tokens short facing
  have peek := (follows_token goesOn bound state tokens short facing).lookahead facing
  rw [Pattern.token, Pattern.run] at peek ⊢
  rw [Parser.andThen]
  rcases Trace.among_cases [kind] (tokens.map Token.kind) with ⟨_, run⟩ | ⟨_, run⟩
  · rw [run] at peek ⊢
    rcases peek with ⟨_, _, next, zero, outcome, moves, noted⟩ | ⟨_, impossible, _⟩
    · obtain rfl := Option.some.inj zero
      have peeked : ((lookahead (token kind)).map fun _ => value).attempt state =
          .success value next := by
        simp only [attempt, Parser.map, Parser.andThen, outcome, succeed]
      have last := ((follows_token goesOn bound).map (f value)) next tokens short moves.facing
      rw [Pattern.token, Pattern.run, run] at last
      simp only [choice, peeked]
      rcases last with ⟨_, result, final, one, outcome', moves', noted'⟩ | ⟨_, impossible, _⟩
      · have both : state.Moves tokens (0 + _) final := moves.trans moves'
        rw [Nat.zero_add] at both
        exact .inl ⟨_, result, final, one, outcome', both, noted'.trans noted⟩
      · cases impossible
    · cases impossible
  · rw [run] at peek ⊢
    rcases peek with ⟨_, _, _, impossible, _⟩ | ⟨failed, _, outcome, same, noted⟩
    · cases impossible
    · have stopped : ((lookahead (token kind)).map fun _ => value).attempt state =
          .failure { state with furthest := failed.furthest } := by
        simp only [attempt, Parser.map, Parser.andThen, outcome,
          backtrack_extends (same.extends (Nat.le_refl _))]
      simp only [choice, stopped, fail]
      exact .inr ⟨_, rfl, rfl, rfl, noted⟩

/-- The elements of a list end at its closing bracket, which stands alone if there are none. -/
theorem pursues_closed {inner : Parser (List Expression)} {A : Type}
    {f : List Expression → Token → A} (follows : inner.Follows bound pattern) {kind : Kind}
    (goesOn : kind ≠ .endOfInput) :
    ((choice [inner, (lookahead (token kind)).map fun _ => []]).andThen fun elems =>
      (token kind).map fun closing => f elems closing).Pursues bound (.closed pattern kind) := by
  intro state tokens short facing
  rw [Pattern.run]
  rcases follows.pursues.attempt state tokens short facing with
    ⟨length, elems, middle, found, outcome, moves, noted⟩ | ⟨failed, none, outcome, same, noted⟩
  · have later := (follows_token goesOn _).pursues.map (f elems) middle _ (Nat.le_refl _) moves.facing
    rw [List.map_drop] at later
    simp only [Parser.andThen, choice, outcome, found]
    exact .andThen facing found moves noted later
  · have later := follows_peeked goesOn [] f bound failed tokens short (facing.same same)
    simp only [Parser.andThen, choice, outcome, none] at later ⊢
    exact (Traces.orElse none same noted later).loosen

/-- The rule of lists follows its pattern. -/
theorem follows_list (follows : expr.Follows bound pattern) (enough : bound ≤ count) :
    (list expr).Follows (bound + 1) (.list pattern count) :=
  ((follows_token (by decide) _).pursues.andThen
    (fun _ => pursues_closed (follows_elements follows enough) (by decide))
    ((Pattern.solid_token _).leaves bound)).attempt

/-- The rule of terms follows its pattern. -/
theorem follows_term (follows : expr.Follows bound pattern) (enough : bound ≤ count) :
    (term expr).Follows (bound + 1) (.term pattern count) := by
  have unit : unit.Follows (bound + 1) (.both (.token .leftParen) (.token .rightParen)) :=
    (follows_token (by decide) _).pair (follows_token (by decide) _) (Pattern.leaves_same _ _) _
  exact (follows_number _).choice (((follows_token (by decide) _).map _).choice (unit.choice
    ((follows_between follows (by decide) (by decide)).choice
      ((follows_between follows (by decide) (by decide)).choice
        (follows_list follows enough).choice_single))))

/-- The rule of factors follows its pattern. -/
theorem follows_factor (follows : expr.Follows bound pattern) (enough : bound ≤ count) :
    (factor expr).Follows (bound + 1) (.factor pattern count) := by
  have term := follows_term follows enough
  have unary : (unary expr).Follows (bound + 1) (.unary pattern count) := by
    rw [unary_eq]
    exact (follows_sumOperator _).pair term (Pattern.leaves_same _ _) _
  exact unary.choice ((follows_application follows).choice term.choice_single)

/-- Operands with operators between them follow the pattern of chains. -/
theorem follows_chained {operand : Parser Expression} {operators : List (Kind × Operator)}
    {operator : Pattern} (follows : operand.Follows bound pattern)
    (follows' : (tokenAmong (operators.map Prod.fst)).Follows bound operator) (solid : operator.Solid)
    (enough : bound ≤ count) :
    (chained operand operators).Follows bound (.chain pattern operator count) := by
  have step : (operation operand operators).Follows bound (.both operator pattern) :=
    follows'.pair follows (Pattern.leaves_same _ _) _
  exact follows.pair (step.many solid.both enough) (Pattern.leaves_same _ _) _

/-- The rule of expressions follows its pattern. -/
theorem follows_expressionRule (follows : expr.Follows bound pattern) (enough : bound < count) :
    (expressionRule expr).Follows (bound + 1) (.expressionRule pattern count) := by
  have factor := follows_factor follows (Nat.le_of_lt enough)
  have product : (product expr).Follows (bound + 1) (.product pattern count) := by
    rw [product_eq]
    exact follows_chained factor (follows_productOperator _) (Pattern.solid_anyOf _ _) enough
  have sum : (sum expr).Follows (bound + 1) (.sum pattern count) := by
    rw [sum_eq]
    exact follows_chained product (follows_sumOperator _) (Pattern.solid_anyOf _ _) enough
  exact (follows_function follows).choice sum.choice_single

/-- The parse of an expression follows its pattern, as long as both nest deep enough. -/
theorem follows_expressionWithin {count depth depth' : Nat} (below : bound ≤ depth)
    (below' : bound ≤ depth') (enough : bound ≤ count) :
    (expressionWithin depth).Follows bound (.expressionWithin count depth') := by
  induction bound generalizing depth depth' with
  | zero => exact follows_zero _ _
  | succ bound ih =>
      obtain ⟨depth, rfl⟩ : ∃ less, depth = less + 1 := ⟨depth - 1, by omega⟩
      obtain ⟨depth', rfl⟩ : ∃ less, depth' = less + 1 := ⟨depth' - 1, by omega⟩
      exact follows_expressionRule (ih (by omega) (by omega) (by omega)) enough

/-- The rule of statements follows its pattern. -/
theorem follows_statementRule (follows : expr.Follows bound pattern) :
    (statementRule expr).Follows bound (.statementRule pattern) := by
  have assignment : (assignment expr).Follows bound
      (.both (.token .identifier) (.both (.token .equal) pattern)) :=
    (follows_token (by decide) _).triple (follows_token (by decide) bound) follows
      (Pattern.leaves_same _ _) (Pattern.leaves_same _ _) _
  exact assignment.choice (follows.map _).choice_single

end Grammar

namespace Pattern

open Reckon.Symbol

variable {expr operand operator : Pattern} {count : Nat} {word : List Kind}

/-- The words of several kinds are those kinds alone. -/
theorem language_anyOf {kind : Kind} {others : List Kind}
    (language : (anyOf kind others).Language word) : ∃ found ∈ kind :: others, word = [found] := by
  induction others generalizing kind with
  | nil => exact language
  | cons other others ih =>
      rcases language with ⟨found, member, rfl⟩ | later
      · exact ⟨found, by simp_all, rfl⟩
      · obtain ⟨found, member, rfl⟩ := ih later
        exact ⟨found, List.mem_cons_of_mem _ member, rfl⟩

theorem language_token {kind : Kind} (language : (token kind).Language word) : word = [kind] := by
  obtain ⟨found, member, rfl⟩ := language
  rw [List.mem_singleton.1 member]

/-- A bracketed word has its brackets at both ends. -/
theorem language_bracketed {left right : Kind} {inner : Pattern}
    (language : (bracketed left inner right).Language word) :
    ∃ inside, inner.Language inside ∧ word = left :: inside ++ [right] := by
  obtain ⟨_, _, rfl, opening, inside, _, rfl, language, closing⟩ := language
  rw [language_token opening, language_token closing]
  exact ⟨inside, language, rfl⟩

/-- The words of sum operators are the operators of sums. -/
theorem language_sumOperator (language : sumOperator.Language word) :
    ∃ operator, isSumOperator operator ∧ word = [operator] := by
  obtain ⟨found, member, rfl⟩ := language_anyOf language
  exact ⟨found, by simpa [isSumOperator] using member, rfl⟩

/-- The words of product operators are the operators of products. -/
theorem language_productOperator (language : productOperator.Language word) :
    ∃ operator, isProductOperator operator ∧ word = [operator] := by
  obtain ⟨found, member, rfl⟩ := language_anyOf language
  exact ⟨found, by simpa [isProductOperator] using member, rfl⟩

/-- What is kept by a step is kept by its repetition. -/
theorem language_repeated {step last : Pattern} {P : List Kind → Prop}
    (kept : ∀ earlier word, step.Language word ∨ last.Language word → P earlier → P (earlier ++ word))
    {earlier : List Kind} (language : (repeated step last count).Language word) (holds : P earlier) :
    P (earlier ++ word) := by
  induction count generalizing earlier word with
  | zero =>
      rcases language with rfl | language
      · rwa [List.append_nil]
      · exact kept _ _ (.inr language) holds
  | succ count ih =>
      rcases language with rfl | ⟨_, _, rfl, first, later⟩
      · rwa [List.append_nil]
      · rw [← List.append_assoc]
        exact ih later (kept _ _ (.inl first) holds)

/-- No term starts with a sign. -/
theorem unsigned_term (derives : Derives .term word) (others : List Kind) :
    Unsigned (word ++ others) := by
  rintro kind here sign
  rw [← Grammar.isSign_iff] at sign
  rcases Grammar.term_head derives with rfl | ⟨first, rest, rfl, _, notSign⟩
  · cases here
    cases sign
  · cases here
    rw [notSign] at sign
    cases sign

/-- A callee before an expression is a sum, whatever the expression starts with: it is an application, or
the expression is another operand. -/
theorem derives_applied {arg : List Kind} (callee : Derives .callee word)
    (argument : Derives .expression arg) : Derives .sum (word ++ arg) := by
  have left : Derives .sum word :=
    .sum_one (.product_one (.factor_application (.application_alone callee)))
  by_cases unsigned : Unsigned arg
  · exact .sum_one (.product_one (.factor_application (.application callee argument unsigned)))
  · cases argument with
    | expression_function derives =>
        cases derives with
        | function _ =>
            refine absurd ?_ unsigned
            rintro _ ⟨⟩ (same | same) <;> cases same
    | expression_sum derives =>
        cases derives.flow (.inr rfl) with
        | signed isSign term follows =>
            have joined := left.sum_join (.inl isSign) (.product_one (.factor_term term)) (.inl rfl)
            cases follows with
            | nothing => rwa [List.append_nil]
            | operation isOperator more =>
                have all := joined.sum_join isOperator more (.inr rfl)
                rwa [List.append_assoc, List.cons_append] at all
        | term term _ => exact absurd (unsigned_term term _) unsigned
        | applied callee' _ _ => exact absurd (unsigned_term callee'.callee_term _) unsigned

/-- A chain of sums is a sum. -/
theorem language_chain
    (operands : ∀ word, operand.Language word → Derives .sum word)
    (operators : ∀ word, operator.Language word → ∃ found,
      (isSumOperator found ∨ isProductOperator found) ∧ word = [found])
    (language : (chain operand operator count).Language word) : Derives .sum word := by
  obtain ⟨first, others, rfl, start, later⟩ := language
  refine language_repeated ?_ later (operands _ start)
  rintro earlier _ (⟨_, right, rfl, found, language⟩ | ⟨_, right, rfl, found, language⟩) left
  · obtain ⟨found, isOperator, rfl⟩ := operators _ found
    exact left.sum_join isOperator (operands _ language) (.inr rfl)
  · obtain ⟨found, isOperator, rfl⟩ := operators _ found
    rw [language_token language]
    exact left.sum_join isOperator (.product_one (.factor_term .term_name)) (.inl rfl)

section Rules

variable (expressions : ∀ word, expr.Language word → Derives .expression word)
include expressions

/-- The words of the pattern of functions are functions. -/
theorem language_function (language : (function expr).Language word) : Derives .function word := by
  obtain ⟨_, _, rfl, name, _, body, rfl, colon, language⟩ := language
  rw [language_token name, language_token colon]
  exact .function (expressions _ language)

/-- The words of the pattern of callees are callees. -/
theorem language_callee (language : (callee expr).Language word) : Derives .callee word := by
  rcases language with language | name
  · obtain ⟨inside, inner, rfl⟩ := language_bracketed language
    exact .callee_function (language_function expressions inner)
  · rw [language_token name]
    exact .callee_name

/-- The words of the pattern of elements are elements of a list. -/
theorem language_elements (language : (elements expr count).Language word) :
    Derives .elements word := by
  obtain ⟨first, others, rfl, start, later⟩ := language
  refine language_repeated ?_ later (.elements_one (expressions _ start))
  rintro earlier _ (⟨_, elem, rfl, comma, language⟩ | ⟨_, elem, rfl, comma, language⟩) left
  · rw [language_token comma]
    exact .elements_more left (expressions _ language)
  · rw [language_token comma, language_token language]
    exact .elements_more left (.expression_sum (.sum_one (.product_one (.factor_term .term_name))))

/-- The words of the pattern of terms are terms. -/
theorem language_term (language : (term expr count).Language word) : Derives .term word := by
  rcases language with number | name | unit | paren | brace | list
  · obtain ⟨found, member, rfl⟩ := number
    rcases List.mem_pair.1 member with rfl | rfl
    · exact .term_number .integer
    · exact .term_number .float
  · rw [language_token name]
    exact .term_name
  · obtain ⟨_, _, rfl, opening, closing⟩ := unit
    rw [language_token opening, language_token closing]
    exact .term_unit .unit
  · obtain ⟨inside, language, rfl⟩ := language_bracketed paren
    exact .term_paren (expressions _ language)
  · obtain ⟨inside, language, rfl⟩ := language_bracketed brace
    exact .term_brace (expressions _ language)
  · obtain ⟨_, _, rfl, opening, rfl | ⟨inside, language, rfl⟩⟩ := list
    · rw [language_token opening]
      exact .term_list .list_empty
    · rw [language_token opening]
      exact .term_list (.list (language_elements expressions language))

/-- The words of the pattern of factors are sums. -/
theorem language_factor (language : (factor expr count).Language word) : Derives .sum word := by
  rcases language with ⟨_, _, rfl, sign, operand⟩ | ⟨_, _, rfl, callee, argument⟩ | term
  · obtain ⟨sign, isSign, rfl⟩ := language_sumOperator sign
    have operand := language_term expressions operand
    exact .sum_one (.product_one (.factor_unary (.unary isSign operand)))
  · have callee := language_callee expressions callee
    rcases argument with rfl | argument
    · rw [List.append_nil]
      exact .sum_one (.product_one (.factor_application (.application_alone callee)))
    · exact derives_applied callee (expressions _ argument)
  · exact .sum_one (.product_one (.factor_term (language_term expressions term)))

/-- The words of the pattern of expressions are expressions. -/
theorem language_expressionRule (language : (expressionRule expr count).Language word) :
    Derives .expression word := by
  rcases language with function | sum
  · exact .expression_function (language_function expressions function)
  · refine .expression_sum (language_chain (fun word product => ?_) (fun word found => ?_) sum)
    · refine language_chain (fun word => language_factor expressions) (fun word found => ?_) product
      obtain ⟨operator, isProduct, rfl⟩ := language_productOperator found
      exact ⟨operator, .inr isProduct, rfl⟩
    · obtain ⟨operator, isSum, rfl⟩ := language_sumOperator found
      exact ⟨operator, .inl isSum, rfl⟩

/-- The words of the pattern of statements are statements. -/
theorem language_statementRule (language : (statementRule expr).Language word) :
    Derives .statement word := by
  rcases language with ⟨_, _, rfl, name, _, value, rfl, equal, language⟩ | language
  · rw [language_token name, language_token equal]
    exact .statement_assignment (.assignment (expressions _ language))
  · exact .statement_expression (expressions _ language)

end Rules

/-- The words of the pattern of expressions are sentences. -/
theorem language_expressionWithin {depth : Nat} (language : (expressionWithin count depth).Language word) :
    Derives .expression word := by
  induction depth generalizing word with
  | zero =>
      rcases language with ⟨_, _, rfl, sign, name⟩ | name
      · obtain ⟨sign, isSign, rfl⟩ := language_sumOperator sign
        rw [language_token name]
        exact .expression_sum (.sum_one (.product_one (.factor_unary (.unary isSign .term_name))))
      · rw [language_token name]
        exact .expression_sum (.sum_one (.product_one (.factor_term .term_name)))
  | succ depth ih => exact language_expressionRule (fun word => ih) language

end Pattern

end Reckon
