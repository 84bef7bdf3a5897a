/-
This file describes each rule of the grammar by the tokens that it yields a tree on, and by those
that it refuses. The recursive occurrence of a rule stays a parser.
-/

import Reckon.Proofs.Parse.Facing
import Reckon.Proofs.Parse.Operators
import Reckon.Proofs.Parse.Sentence

namespace Reckon.Grammar

open Reckon.Parser State

/-- This is the kind of the first token. -/
def headKind (tokens : List Token) : Option Kind := tokens.head?.map Token.kind

/-- A number without a value stands for zero. -/
def numeralOr {A : Type} (zero : A) : Except NumeralProblem A → A
  | .ok value => value
  | .error _ => zero

/-- A number without a value is reported. -/
def problemReports {A : Type} (token : Token) : Except NumeralProblem A → List Report
  | .ok _ => []
  | .error problem => [.atSpan token.span (.invalidNumeral token.lexeme problem)]

/-- A state that notes a numeral stays in front of the same tokens, and reports it when it has no value. -/
theorem Reaches.noteNumeral {A : Type} {state next : State} {rest : List Token} (token : Token)
    (zero : A) (value : Except NumeralProblem A) (reached : state.Reaches [] rest next) :
    ∃ noted, noteNumeral token zero value next = (numeralOr zero value, noted) ∧
      state.Reaches (problemReports token value) rest noted := by
  cases value with
  | ok value => exact ⟨next, rfl, reached⟩
  | error problem => exact ⟨_, rfl, reached.report _⟩

/-- This is the literal that a number stands for. -/
def numeralLiteral (token : Token) : Literal :=
  match token.kind with
  | .integer =>
      match integerValue token.lexeme with
      | .ok value => .int (numeralOr 0 value)
      | .error _ => .int 0
  | _ => .float (numeralOr 0 (floatValue token.lexeme))

/-- These are the reports of the numbers without a value. -/
def numeralReports (tokens : List Token) : List Report :=
  tokens.flatMap fun token =>
    match token.kind with
    | .integer =>
        match integerValue token.lexeme with
        | .ok value => problemReports token value
        | .error _ => []
    | .float => problemReports token (floatValue token.lexeme)
    | _ => []

/-- A number is consumed as a literal, and reported when it has no value. -/
theorem yields_number {token : Token} (tokens : List Token)
    (numeral : token.kind = .integer ∨ token.kind = .float) :
    number.Yields (token :: tokens) (.literal token.span (numeralLiteral token))
      (numeralReports [token]) tokens := by
  intro state facing
  have goesOn : token.kind ≠ .endOfInput := by
    rcases numeral with kind | kind <;> rw [kind] <;> decide
  obtain ⟨handle, next, pushed, _, reached⟩ := facing.push goesOn .token
  rcases numeral with kind | kind
  · obtain ⟨value, read⟩ : ∃ value, integerValue token.lexeme = .ok value := by
      cases facing.supply with
      | last ends => exact absurd ends goesOn
      | more _ spelled _ => exact spelled kind
    obtain ⟨noted, same, reached⟩ := Reaches.noteNumeral token 0 value reached
    refine ⟨noted, ?_, ?_⟩
    · simp only [number, facing.peek, kind, pushed, read, same, numeralLiteral]
    · simpa [numeralReports, kind, read] using reached
  · obtain ⟨noted, same, reached⟩ :=
      Reaches.noteNumeral token 0 (floatValue token.lexeme) reached
    refine ⟨noted, ?_, ?_⟩
    · simp only [number, facing.peek, kind, pushed, same, numeralLiteral]
    · simpa [numeralReports, kind] using reached

/-- What starts with no number is refused. -/
theorem refuses_number {tokens : List Token} (notInteger : headKind tokens ≠ some .integer)
    (notFloat : headKind tokens ≠ some .float) : number.Refuses tokens := by
  cases tokens with
  | nil => exact refuses_nil _
  | cons token tokens =>
      intro state facing
      have notInteger : token.kind ≠ .integer := fun same => notInteger (congrArg some same)
      have notFloat : token.kind ≠ .float := fun same => notFloat (congrArg some same)
      refine ⟨_, ?_, (SameBefore.expect state Kind.integer.name).trans (.expect _ Kind.float.name)⟩
      simp only [number, facing.peek]

/-- A token of another kind is refused. -/
theorem refuses_head {tokens : List Token} {kind : Kind} (other : headKind tokens ≠ some kind) :
    (token kind).Refuses tokens := by
  cases tokens with
  | nil => exact refuses_nil _
  | cons first tokens => exact refuses_token tokens fun same => other (congrArg some same)

theorem yields_ident {name : Token} (kind : name.kind = .identifier) (tokens : List Token) :
    ident.Yields (name :: tokens) (.ident name.span name.name) [] tokens :=
  (yields_token kind (by decide) tokens).map _

theorem refuses_ident {tokens : List Token} (other : headKind tokens ≠ some .identifier) :
    ident.Refuses tokens := (refuses_head other).map _

/-- Two parentheses with nothing between them are the unit. -/
theorem yields_unit {opening closing : Token} (left : opening.kind = .leftParen)
    (right : closing.kind = .rightParen) (tokens : List Token) :
    unit.Yields (opening :: closing :: tokens) (.literal (opening.span.around closing.span) .unit) []
      tokens :=
  (yields_token left (by decide) _).pair (yields_token right (by decide) tokens) _

theorem refuses_unit {tokens : List Token} (other : headKind tokens ≠ some .leftParen) :
    unit.Refuses tokens := (refuses_head other).pair _ _

/-- A parenthesis with something inside opens no unit. -/
theorem refuses_unit_inside {opening : Token} {tokens : List Token}
    (left : opening.kind = .leftParen) (other : headKind tokens ≠ some .rightParen) :
    unit.Refuses (opening :: tokens) :=
  (yields_token left (by decide) tokens).refuses_pair (refuses_head other) _

section Between

variable {A : Type} {parser : Parser A} {opening closing : Token} {left right : Kind}
  {tokens rest : List Token} {value : A} {reports : List Report}

/-- A value between brackets of the right kinds is found. -/
theorem yields_between (opens : opening.kind = left) (closes : closing.kind = right)
    (left_ne : left ≠ .endOfInput) (right_ne : right ≠ .endOfInput)
    (inside : parser.Yields tokens value reports (closing :: rest)) :
    (between (token left) parser (token right)).Yields (opening :: tokens) value reports rest := by
  have whole : (between (token left) parser (token right)).Yields (opening :: tokens) value
      ([] ++ (reports ++ [])) rest :=
    (yields_token opens left_ne tokens).triple inside (yields_token closes right_ne rest) _
  simpa using whole

theorem refuses_between (other : headKind tokens ≠ some left) :
    (between (token left) parser (token right)).Refuses tokens := (refuses_head other).triple _ _ _

/-- Brackets are refused with what is between them. -/
theorem refuses_between_inside (opens : opening.kind = left) (left_ne : left ≠ .endOfInput)
    (inside : parser.Refuses tokens) :
    (between (token left) parser (token right)).Refuses (opening :: tokens) :=
  (yields_token opens left_ne tokens).refuses_triple inside _ _

end Between

section Terms

variable {expr : Parser Expression} {tokens rest : List Token} {value : Expression}
  {reports : List Report}

/-- A number is a term. -/
theorem term_number {numeral : Token} (kind : numeral.kind = .integer ∨ numeral.kind = .float)
    (tokens : List Token) :
    (term expr).Yields (numeral :: tokens) (.literal numeral.span (numeralLiteral numeral))
      (numeralReports [numeral]) tokens :=
  (yields_number tokens kind).choice _

/-- A term that starts with no number is chosen among the other ones. -/
theorem term_other (notInteger : headKind tokens ≠ some .integer)
    (notFloat : headKind tokens ≠ some .float) (notName : headKind tokens ≠ some .identifier)
    (other : (choice [unit, between (token .leftParen) expr (token .rightParen),
      between (token .leftBrace) expr (token .rightBrace), list expr]).Yields tokens value reports
        rest) : (term expr).Yields tokens value reports rest :=
  (refuses_number notInteger notFloat).choice ((refuses_ident notName).choice other)

/-- A name is a term. -/
theorem term_ident {name : Token} (kind : name.kind = .identifier) (tokens : List Token) :
    (term expr).Yields (name :: tokens) (.ident name.span name.name) [] tokens :=
  (refuses_number (by simp [headKind, kind]) (by simp [headKind, kind])).choice
    ((yields_ident kind tokens).choice _)

/-- The unit is a term. -/
theorem term_unit {opening closing : Token} (left : opening.kind = .leftParen)
    (right : closing.kind = .rightParen) (tokens : List Token) :
    (term expr).Yields (opening :: closing :: tokens)
      (.literal (opening.span.around closing.span) .unit) [] tokens :=
  term_other (by simp [headKind, left]) (by simp [headKind, left]) (by simp [headKind, left])
    ((yields_unit left right tokens).choice _)

/-- An expression between parentheses is a term with the same tree. -/
theorem term_paren {opening closing : Token} (left : opening.kind = .leftParen)
    (right : closing.kind = .rightParen) (some : headKind tokens ≠ some .rightParen)
    (inside : expr.Yields tokens value reports (closing :: rest)) :
    (term expr).Yields (opening :: tokens) value reports rest :=
  term_other (by simp [headKind, left]) (by simp [headKind, left]) (by simp [headKind, left])
    ((refuses_unit_inside left some).choice
      ((yields_between left right (by decide) (by decide) inside).choice _))

/-- An expression between curly brackets is a term with the same tree. -/
theorem term_brace {opening closing : Token} (left : opening.kind = .leftBrace)
    (right : closing.kind = .rightBrace)
    (inside : expr.Yields tokens value reports (closing :: rest)) :
    (term expr).Yields (opening :: tokens) value reports rest :=
  term_other (by simp [headKind, left]) (by simp [headKind, left]) (by simp [headKind, left])
    ((refuses_unit (by simp [headKind, left])).choice
      ((refuses_between (by simp [headKind, left])).choice
        ((yields_between left right (by decide) (by decide) inside).choice _)))

/-- A list is a term. -/
theorem term_list {opening closing : Token} {elems : List Expression}
    (left : opening.kind = .leftBracket) (right : closing.kind = .rightBracket)
    (inside : (elements expr).Yields tokens elems reports (closing :: rest)) :
    (term expr).Yields (opening :: tokens) (.list (opening.span.around closing.span) elems) reports
      rest := by
  have whole : (list expr).Yields (opening :: tokens)
      (.list (opening.span.around closing.span) elems) ([] ++ (reports ++ [])) rest :=
    (yields_token left (by decide) tokens).triple inside (yields_token right (by decide) rest) _
  rw [List.nil_append, List.append_nil] at whole
  exact term_other (by simp [headKind, left]) (by simp [headKind, left]) (by simp [headKind, left])
    ((refuses_unit (by simp [headKind, left])).choice
      ((refuses_between (by simp [headKind, left])).choice
        ((refuses_between (by simp [headKind, left])).choice (whole.choice _))))

/-- No term starts with a token of another kind. -/
theorem refuses_term (notInteger : headKind tokens ≠ some .integer)
    (notFloat : headKind tokens ≠ some .float) (notName : headKind tokens ≠ some .identifier)
    (notParen : headKind tokens ≠ some .leftParen) (notBrace : headKind tokens ≠ some .leftBrace)
    (notBracket : headKind tokens ≠ some .leftBracket) : (term expr).Refuses tokens :=
  (refuses_number notInteger notFloat).choice_cons ((refuses_ident notName).choice_cons
    ((refuses_unit notParen).choice_cons ((refuses_between notParen).choice_cons
      ((refuses_between notBrace).choice_cons
        (Refuses.choice_cons ((refuses_head notBracket).triple _ _ _) (refuses_choice_nil _))))))

/-- The elements of a list are one expression and then others behind commas. -/
theorem yields_elements {others : List Expression} {between : List Token} {reports' : List Report}
    (first : expr.Yields tokens value reports between)
    (later : Repeats (pair (token .comma) expr fun _ elem => elem) between others reports' rest) :
    (elements expr).Yields tokens (value :: others) (reports ++ reports') rest :=
  (first.pair later.many _).choice _

/-- Directly before the closing bracket there are no elements. -/
theorem yields_no_elements {closing : Token} (right : closing.kind = .rightBracket)
    (refuses : expr.Refuses (closing :: tokens)) :
    (elements expr).Yields (closing :: tokens) [] [] (closing :: tokens) := by
  have none := (yields_token right (by decide) tokens).lookahead.map fun _ => ([] : List Expression)
  exact (refuses.pair _ _).choice (none.choice _)

end Terms

/-- An operator is found by the kind of its token. -/
theorem yields_tokenAmong {operators : List (Kind × Operator)} {found : Token}
    {operator : Operator} (goesOn : found.kind ≠ .endOfInput)
    (known : operators.lookup found.kind = some operator) (tokens : List Token) :
    (tokenAmong (operators.map Prod.fst)).Yields (found :: tokens) found [] tokens := by
  induction operators with
  | nil => cases known
  | cons entry operators ih =>
      obtain ⟨kind, first⟩ := entry
      by_cases same : found.kind = kind
      · exact (yields_token same (same ▸ goesOn) tokens).choice _
      · rw [List.lookup_cons, beq_eq_false_iff_ne.2 same] at known
        exact (refuses_token tokens same).choice (ih known)

/-- No operator is found where the first token denotes none of them. -/
theorem refuses_tokenAmong {operators : List (Kind × Operator)} {tokens : List Token}
    (unknown : ∀ kind, headKind tokens = some kind → operators.lookup kind = none) :
    (tokenAmong (operators.map Prod.fst)).Refuses tokens := by
  induction operators with
  | nil => exact refuses_choice_nil tokens
  | cons entry operators ih =>
      obtain ⟨kind, first⟩ := entry
      have other : headKind tokens ≠ some kind := by
        intro same
        have none := unknown kind same
        rw [List.lookup_cons_self] at none
        cases none
      refine Refuses.choice_cons (refuses_head other) (ih fun found here => ?_)
      have none := unknown found here
      have differ : found ≠ kind := fun same => other (same ▸ here)
      rwa [List.lookup_cons, beq_eq_false_iff_ne.2 differ] at none

/-- The operators of sums are plus and minus. -/
theorem lookup_sumOperators {kind : Kind} {operator : Operator} :
    sumOperators.lookup kind = some operator ↔
      (kind = .plus ∧ operator = .add) ∨ (kind = .dash ∧ operator = .sub) := by
  rw [List.lookup_eq_some_iff]
  constructor
  · rintro ⟨before, after, split, _⟩
    have member : (kind, operator) ∈ sumOperators := by simp [split]
    simpa [sumOperators] using member
  · rintro (⟨rfl, rfl⟩ | ⟨rfl, rfl⟩)
    · exact ⟨[], _, rfl, by simp⟩
    · exact ⟨[(.plus, .add)], _, rfl, by simp⟩

/-- The operators of products are times, division and remainder. -/
theorem lookup_productOperators {kind : Kind} {operator : Operator} :
    productOperators.lookup kind = some operator ↔
      (kind = .star ∧ operator = .mul) ∨ (kind = .slash ∧ operator = .div) ∨
        (kind = .percent ∧ operator = .mod) := by
  rw [List.lookup_eq_some_iff]
  constructor
  · rintro ⟨before, after, split, _⟩
    have member : (kind, operator) ∈ productOperators := by simp [split]
    simpa [productOperators] using member
  · rintro (⟨rfl, rfl⟩ | ⟨rfl, rfl⟩ | ⟨rfl, rfl⟩)
    · exact ⟨[], _, rfl, by simp⟩
    · exact ⟨[(.star, .mul)], _, rfl, by simp⟩
    · exact ⟨[(.star, .mul), (.slash, .div)], _, rfl, by simp⟩

/-- An operator of a sum can also be a sign. -/
def isSign (kind : Kind) : Bool := (sumOperators.lookup kind).isSome

/-- The signs are the operators of sums. -/
theorem isSign_iff {kind : Kind} : isSign kind = true ↔ Symbol.isSumOperator kind := by
  rw [isSign, Option.isSome_iff_exists, Symbol.isSumOperator]
  constructor
  · rintro ⟨operator, known⟩
    exact (lookup_sumOperators.1 known).imp And.left And.left
  · rintro (rfl | rfl)
    · exact ⟨.add, rfl⟩
    · exact ⟨.sub, rfl⟩

section Operations

variable {expr : Parser Expression} {tokens between rest : List Token} {value : Expression}
  {reports reports' : List Report}

/-- A sign before a term makes a unary expression. -/
theorem yields_unary {found : Token} {operator : Operator}
    (known : sumOperators.lookup found.kind = some operator) (goesOn : found.kind ≠ .endOfInput)
    (operand : (term expr).Yields tokens value reports rest) :
    (unary expr).Yields (found :: tokens)
      (.unary (found.span.around value.extent) operator value) reports rest := by
  rw [unary_eq, ← operatorIn_eq known]
  exact (yields_tokenAmong goesOn known tokens).pair operand _

/-- What starts with no sign is refused. -/
theorem refuses_sign (notSign : ∀ kind, headKind tokens = some kind → isSign kind = false) :
    sign.Refuses tokens := by
  refine @refuses_tokenAmong sumOperators _ fun kind here => ?_
  have none := notSign kind here
  rw [isSign, Option.isSome_eq_false_iff, Option.isNone_iff_eq_none] at none
  exact none

/-- A name, a colon and an expression make a function. -/
theorem yields_function {name colon : Token} (isName : name.kind = .identifier)
    (isColon : colon.kind = .colon) (body : expr.Yields tokens value reports rest) :
    (function expr).Yields (name :: colon :: tokens)
      (.function (name.span.around value.extent) name.name value) reports rest :=
  (yields_token isName (by decide) _).triple (yields_token isColon (by decide) _) body _

theorem refuses_function (notName : headKind tokens ≠ some .identifier) :
    (function expr).Refuses tokens := (refuses_head notName).triple _ _ _

theorem refuses_function_colon {name : Token} (isName : name.kind = .identifier)
    (notColon : headKind tokens ≠ some .colon) : (function expr).Refuses (name :: tokens) :=
  (yields_token isName (by decide) tokens).refuses_triple (refuses_head notColon) _ _

/-- A function between parentheses can be called. -/
theorem yields_callee_function {opening closing : Token} (left : opening.kind = .leftParen)
    (right : closing.kind = .rightParen)
    (inside : (function expr).Yields tokens value reports (closing :: rest)) :
    (callee expr).Yields (opening :: tokens) value reports rest :=
  (yields_between left right (by decide) (by decide) inside).choice _

/-- A name can be called. -/
theorem yields_callee_ident {name : Token} (isName : name.kind = .identifier)
    (tokens : List Token) :
    (callee expr).Yields (name :: tokens) (.ident name.span name.name) [] tokens :=
  (refuses_between (by simp [headKind, isName])).choice ((yields_ident isName tokens).choice _)

/-- Nothing can be called but a name or a parenthesis. -/
theorem refuses_callee (notParen : headKind tokens ≠ some .leftParen)
    (notName : headKind tokens ≠ some .identifier) : (callee expr).Refuses tokens :=
  (refuses_between notParen).choice_cons
    ((refuses_ident notName).choice_cons (refuses_choice_nil _))

/-- A parenthesis can only be called when a function is inside. -/
theorem refuses_callee_inside {opening : Token} (left : opening.kind = .leftParen)
    (inside : (function expr).Refuses tokens) : (callee expr).Refuses (opening :: tokens) :=
  (refuses_between_inside left (by decide) inside).choice_cons
    ((refuses_ident (by simp [headKind, left])).choice_cons (refuses_choice_nil _))

/-- An expression is an argument unless it starts with a sign. -/
theorem yields_argument (notSign : ∀ kind, headKind tokens = some kind → isSign kind = false)
    (yields : expr.Yields tokens value reports rest) :
    (argument expr).Yields tokens value reports rest :=
  (refuses_sign notSign).absent.pair yields _

/-- A sign is left to the sum around the call, so no argument starts with it. -/
theorem refuses_argument_sign {found : Token} {operator : Operator}
    (known : sumOperators.lookup found.kind = some operator) (goesOn : found.kind ≠ .endOfInput)
    (tokens : List Token) : (argument expr).Refuses (found :: tokens) :=
  (yields_tokenAmong goesOn known tokens).refuses_absent.pair _ _

theorem refuses_argument (notSign : ∀ kind, headKind tokens = some kind → isSign kind = false)
    (refuses : expr.Refuses tokens) : (argument expr).Refuses tokens :=
  (refuses_sign notSign).absent.refuses_pair refuses _

/-- A callee with an argument is an application. -/
theorem yields_application {arg : Expression} (head : (callee expr).Yields tokens value reports between)
    (tail : (argument expr).Yields between arg reports' rest) :
    (application expr).Yields tokens (.apply (value.extent.around arg.extent) value arg)
      (reports ++ reports') rest :=
  head.pair tail.optional _

/-- A callee without an argument stands for itself. -/
theorem yields_application_alone (head : (callee expr).Yields tokens value reports rest)
    (tail : (argument expr).Refuses rest) :
    (application expr).Yields tokens value reports rest := by
  have whole : (application expr).Yields tokens value (reports ++ []) rest :=
    head.pair tail.optional _
  rwa [List.append_nil] at whole

theorem factor_unary (yields : (unary expr).Yields tokens value reports rest) :
    (factor expr).Yields tokens value reports rest := yields.choice _

/-- No unary expression starts without a sign. -/
theorem refuses_unary (notSign : ∀ kind, headKind tokens = some kind → isSign kind = false) :
    (unary expr).Refuses tokens := by
  rw [unary_eq]
  exact (refuses_sign notSign).pair _ _

/-- An application is a factor unless a sign stands before it. -/
theorem factor_application (notSign : ∀ kind, headKind tokens = some kind → isSign kind = false)
    (yields : (application expr).Yields tokens value reports rest) :
    (factor expr).Yields tokens value reports rest :=
  (refuses_unary notSign).choice (yields.choice _)

/-- A term is a factor when nothing in it can be called. -/
theorem factor_term (notSign : ∀ kind, headKind tokens = some kind → isSign kind = false)
    (notCallee : (callee expr).Refuses tokens) (yields : (term expr).Yields tokens value reports rest) :
    (factor expr).Yields tokens value reports rest :=
  (refuses_unary notSign).choice (Refuses.choice (notCallee.pair _ _) (yields.choice _))

/-- An operator and its right operand are an operation. -/
theorem yields_operation {operand : Parser Expression} {operators : List (Kind × Operator)}
    {found : Token} {operator : Operator} (goesOn : found.kind ≠ .endOfInput)
    (known : operators.lookup found.kind = some operator)
    (right : operand.Yields tokens value reports rest) :
    (operation operand operators).Yields (found :: tokens) (operator, value) reports rest := by
  rw [← operatorIn_eq known]
  exact (yields_tokenAmong goesOn known tokens).pair right _

theorem refuses_operation {operand : Parser Expression} {operators : List (Kind × Operator)}
    (unknown : ∀ kind, headKind tokens = some kind → operators.lookup kind = none) :
    (operation operand operators).Refuses tokens := (refuses_tokenAmong unknown).pair _ _

/-- An operand with operations behind it is chained from the left. -/
theorem yields_chained {operand : Parser Expression} {operators : List (Kind × Operator)}
    {others : List (Operator × Expression)} (first : operand.Yields tokens value reports between)
    (later : Repeats (operation operand operators) between others reports' rest) :
    (chained operand operators).Yields tokens (chainLeft value others) (reports ++ reports') rest :=
  first.pair later.many _

/-- Factors with the operators of products between them make a product. -/
theorem yields_product {others : List (Operator × Expression)}
    (first : (factor expr).Yields tokens value reports between)
    (later : Repeats (operation (factor expr) productOperators) between others reports' rest) :
    (product expr).Yields tokens (chainLeft value others) (reports ++ reports') rest := by
  rw [product_eq]
  exact yields_chained first later

/-- Products with the operators of sums between them make a sum. -/
theorem yields_sum {others : List (Operator × Expression)}
    (first : (product expr).Yields tokens value reports between)
    (later : Repeats (operation (product expr) sumOperators) between others reports' rest) :
    (sum expr).Yields tokens (chainLeft value others) (reports ++ reports') rest := by
  rw [sum_eq]
  exact yields_chained first later

/-- A sum starts as its first factor does. -/
theorem refuses_sum (refuses : (factor expr).Refuses tokens) : (sum expr).Refuses tokens := by
  rw [sum_eq, product_eq]
  exact Refuses.pair (refuses.pair _ _) _ _

/-- These kinds can start an expression. -/
def startsExpression (kind : Kind) : Bool :=
  isSign kind || kind == .identifier || kind == .integer || kind == .float || kind == .leftParen ||
    kind == .leftBrace || kind == .leftBracket

/-- No expression starts with another kind. -/
theorem refuses_expression
    (stop : ∀ kind, headKind tokens = some kind → startsExpression kind = false) :
    (expressionRule expr).Refuses tokens := by
  have notSign (kind : Kind) (here : headKind tokens = some kind) : isSign kind = false := by
    have none := stop kind here
    simp only [startsExpression, Bool.or_eq_false_iff] at none
    exact none.1.1.1.1.1.1
  have other (kind : Kind) (starts : startsExpression kind = true) : headKind tokens ≠ some kind := by
    intro here
    rw [stop kind here] at starts
    cases starts
  have term : (term expr).Refuses tokens :=
    refuses_term (other _ rfl) (other _ rfl) (other _ rfl) (other _ rfl) (other _ rfl) (other _ rfl)
  have application : (application expr).Refuses tokens :=
    (refuses_callee (other _ rfl) (other _ rfl)).pair _ _
  have factor : (factor expr).Refuses tokens :=
    (refuses_unary notSign).choice_cons
      (application.choice_cons (term.choice_cons (refuses_choice_nil _)))
  exact (refuses_function (other _ rfl)).choice_cons
    ((refuses_sum factor).choice_cons (refuses_choice_nil _))

theorem expression_function (yields : (function expr).Yields tokens value reports rest) :
    (expressionRule expr).Yields tokens value reports rest := yields.choice _

/-- A sum is an expression when it is no function. -/
theorem expression_sum (notFunction : (function expr).Refuses tokens)
    (yields : (sum expr).Yields tokens value reports rest) :
    (expressionRule expr).Yields tokens value reports rest :=
  notFunction.choice (yields.choice _)

end Operations

end Reckon.Grammar
