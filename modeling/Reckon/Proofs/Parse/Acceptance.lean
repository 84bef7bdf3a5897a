/-
This file shows that the parse of an expression accepts every sentence of the grammar. The parse
commits to the first alternative and reads arguments greedily, so a sentence is followed from its
first factor on.
-/

import Reckon.Proofs.Parse.Rules
import Reckon.Proofs.Parse.Sentence

namespace Reckon.Grammar

open Reckon.Parser Reckon.Symbol

/-- These kinds end an expression. -/
def closes (kind : Kind) : Bool :=
  kind == .rightParen || kind == .rightBrace || kind == .rightBracket || kind == .comma ||
    kind == .endOfInput

/-- The first token ends an expression. -/
def Closed (tokens : List Token) : Prop :=
  ∃ token rest, tokens = token :: rest ∧ closes token.kind = true

/-- A parser accepts the tokens up to the rest. -/
def Accepts {A : Type} (parser : Parser A) (tokens rest : List Token) : Prop :=
  ∃ value reports, parser.Yields tokens value reports rest

/-- These kinds close an expression. -/
theorem closes_cases {kind : Kind} (closing : closes kind = true) :
    kind = .rightParen ∨ kind = .rightBrace ∨ kind = .rightBracket ∨ kind = .comma ∨
      kind = .endOfInput := by
  simpa only [closes, Bool.or_eq_true, beq_iff_eq, or_assoc] using closing

/-- No expression starts with what closes one. -/
theorem Closed.stops {tokens : List Token} (closed : Closed tokens) (kind : Kind)
    (here : headKind tokens = some kind) : startsExpression kind = false := by
  obtain ⟨token, rest, rfl, closing⟩ := closed
  obtain rfl : token.kind = kind := Option.some.inj here
  rcases closes_cases closing with same | same | same | same | same <;> rw [same] <;> decide

/-- Every sentence starts with a kind that can start an expression. -/
theorem derives_starts {symbol : Symbol} {word : List Kind} (derives : Derives symbol word) :
    ∃ kind rest, word = kind :: rest ∧ startsExpression kind = true := by
  induction derives with
  | unary isSign _ _ =>
      rcases isSign with rfl | rfl
      · exact ⟨_, _, rfl, rfl⟩
      · exact ⟨_, _, rfl, rfl⟩
  | statement_assignment _ ih | statement_expression _ ih | expression_function _ ih
  | expression_sum _ ih | sum_one _ ih | product_one _ ih | factor_unary _ ih
  | factor_application _ ih | factor_term _ ih | application_alone _ ih | term_number _ ih
  | term_unit _ ih | term_list _ ih | elements_one _ ih => exact ih
  | sum_more _ _ _ ih _ | product_more _ _ _ ih _ | application _ _ _ ih _
  | elements_more _ _ ih _ =>
      obtain ⟨kind, rest, rfl, starts⟩ := ih
      exact ⟨kind, _, rfl, starts⟩
  | _ => exact ⟨_, _, rfl, rfl⟩

/-- A bracketed word has its brackets at both ends. -/
theorem exists_bracketed {A : Type} {kindOf : A → Kind} {word : List A} {left right : Kind}
    {sentence : List Kind} (kinds : word.map kindOf = left :: sentence ++ [right]) :
    ∃ opening inside closing, word = opening :: (inside ++ [closing]) ∧ kindOf opening = left ∧
      inside.map kindOf = sentence ∧ kindOf closing = right := by
  obtain ⟨opening, _, rfl, isLeft, later⟩ := List.map_eq_cons_iff.1 kinds
  obtain ⟨inside, last, rfl, same, final⟩ := List.map_eq_append_iff.1 later
  obtain ⟨closing, rfl, isRight⟩ := List.map_eq_singleton_iff.1 final
  exact ⟨opening, inside, closing, rfl, isLeft, same, isRight⟩

/-- Other elements of a list start with what closes the one before them. -/
theorem closed_others {word rest : List Token} {closing : Token} {sentence : List Kind}
    (more : Others sentence) (kinds : word.map Token.kind = sentence)
    (isRight : closing.kind = .rightBracket) : Closed (word ++ closing :: rest) := by
  cases more with
  | nothing =>
      obtain rfl := List.map_eq_nil_iff.1 kinds
      exact ⟨closing, rest, rfl, by rw [isRight]; rfl⟩
  | more =>
      obtain ⟨comma, _, rfl, isComma, _⟩ := List.map_eq_cons_iff.1 kinds
      exact ⟨comma, _, rfl, by rw [isComma]; rfl⟩

/-- An expression parser is complete up to a size when it accepts every smaller sentence before a
token that ends it, and refuses what starts no expression. -/
structure Complete (expr : Parser Expression) (bound size : Nat) : Prop where
  accepts : ∀ word rest : List Token, word.length < size →
    Derives .expression (word.map Token.kind) → Closed rest → (word ++ rest).length ≤ bound →
      Accepts expr (word ++ rest) rest
  stops : ∀ tokens : List Token, tokens.length ≤ bound →
    (∀ kind, headKind tokens = some kind → startsExpression kind = false) → expr.Refuses tokens

namespace Complete

variable {expr : Parser Expression} {bound size : Nat}

/-- A function is accepted when its body is. -/
theorem function (complete : Complete expr bound size) {word rest : List Token}
    (small : word.length ≤ size) (derives : Derives .function (word.map Token.kind))
    (closed : Closed rest) (short : (word ++ rest).length ≤ bound + 1) :
    Accepts (function expr) (word ++ rest) rest := by
  generalize kinds : word.map Token.kind = sentence at derives
  cases derives with
  | function derives =>
      obtain ⟨name, _, rfl, isName, later⟩ := List.map_eq_cons_iff.1 kinds
      obtain ⟨colon, body, rfl, isColon, rfl⟩ := List.map_eq_cons_iff.1 later
      simp only [List.length_cons, List.cons_append] at small short
      obtain ⟨value, reports, yields⟩ :=
        complete.accepts body rest (by omega) derives closed (by omega)
      exact ⟨_, _, yields_function isName isColon yields⟩

/-- A name or a function in parentheses is accepted as a callee. -/
theorem callee (complete : Complete expr bound size) {word rest : List Token}
    (small : word.length ≤ size) (derives : Derives .callee (word.map Token.kind))
    (short : (word ++ rest).length ≤ bound + 1) : Accepts (callee expr) (word ++ rest) rest := by
  generalize kinds : word.map Token.kind = sentence at derives
  cases derives with
  | callee_function derives =>
      obtain ⟨opening, inside, closing, rfl, isLeft, rfl, isRight⟩ := exists_bracketed kinds
      simp only [List.length_cons, List.cons_append, List.length_append, List.append_assoc,
        List.length_nil, List.nil_append] at small short ⊢
      have closed : Closed (closing :: rest) := ⟨closing, rest, rfl, by rw [isRight]; rfl⟩
      obtain ⟨value, reports, yields⟩ := complete.function (by omega) derives closed (by
        simp only [List.length_append, List.length_cons]
        omega)
      exact ⟨_, _, yields_callee_function isLeft isRight yields⟩
  | callee_name =>
      obtain ⟨name, rfl, isName⟩ := List.map_eq_singleton_iff.1 kinds
      exact ⟨_, _, yields_callee_ident isName rest⟩

/-- The other elements of a list are read up to the bracket that closes it. -/
theorem others (complete : Complete expr bound size) {word rest : List Token} {closing : Token}
    {sentence : List Kind} (more : Others sentence) (kinds : word.map Token.kind = sentence)
    (small : word.length ≤ size) (isRight : closing.kind = .rightBracket)
    (short : (word ++ closing :: rest).length ≤ bound + 1) :
    ∃ values reports, Repeats (pair (token .comma) expr fun _ elem => elem)
      (word ++ closing :: rest) values reports (closing :: rest) := by
  induction more generalizing word with
  | nothing =>
      obtain rfl := List.map_eq_nil_iff.1 kinds
      exact ⟨[], [], .done ((refuses_head (by simp [headKind, isRight])).pair _ _)⟩
  | @more first others derives later ih =>
      obtain ⟨comma, _, rfl, isComma, split⟩ := List.map_eq_cons_iff.1 kinds
      obtain ⟨elem, word, rfl, rfl, rfl⟩ := List.map_eq_append_iff.1 split
      simp only [List.length_cons, List.cons_append, List.length_append, List.append_assoc]
        at small short ⊢
      have closed : Closed (word ++ closing :: rest) := closed_others later rfl isRight
      have enough : (elem ++ (word ++ closing :: rest)).length ≤ bound := by
        simp only [List.length_append, List.length_cons]
        omega
      obtain ⟨value, reports, yields⟩ :=
        complete.accepts elem _ (by omega) derives closed enough
      obtain ⟨values, reports', repeats⟩ := ih rfl (by omega) (by
        simp only [List.length_append, List.length_cons]
        omega)
      refine ⟨value :: values, _, .step ((yields_token isComma (by decide) _).pair yields _) ?_
        repeats⟩
      simp only [List.length_append, List.length_cons]
      omega

/-- A list is accepted when its elements are. -/
theorem list (complete : Complete expr bound size) {word rest : List Token}
    (small : word.length ≤ size) (derives : Derives .list (word.map Token.kind))
    (short : (word ++ rest).length ≤ bound + 1) : Accepts (term expr) (word ++ rest) rest := by
  generalize kinds : word.map Token.kind = sentence at derives
  cases derives with
  | list_empty =>
      obtain ⟨opening, _, rfl, isLeft, final⟩ := List.map_eq_cons_iff.1 kinds
      obtain ⟨closing, rfl, isRight⟩ := List.map_eq_singleton_iff.1 final
      simp only [List.length_cons, List.cons_append, List.nil_append] at short ⊢
      have closed : Closed (closing :: rest) := ⟨closing, rest, rfl, by rw [isRight]; rfl⟩
      have refuses := complete.stops (closing :: rest) (by simpa using short) closed.stops
      exact ⟨_, _, term_list isLeft isRight (yields_no_elements isRight refuses)⟩
  | list derives =>
      obtain ⟨opening, inside, closing, rfl, isLeft, split, isRight⟩ := exists_bracketed kinds
      obtain ⟨_, _, rfl, left, more⟩ := derives.elements_others rfl
      obtain ⟨first, others, rfl, rfl, kinds'⟩ := List.map_eq_append_iff.1 split
      simp only [List.length_cons, List.cons_append, List.length_append, List.append_assoc,
        List.length_nil, List.nil_append] at small short ⊢
      have closed : Closed (others ++ closing :: rest) := closed_others more kinds' isRight
      have enough : (first ++ (others ++ closing :: rest)).length ≤ bound := by
        simp only [List.length_append, List.length_cons]
        omega
      obtain ⟨value, reports, yields⟩ := complete.accepts first _ (by omega) left closed enough
      have less : (others ++ closing :: rest).length ≤ bound + 1 := by
        simp only [List.length_append] at enough ⊢
        omega
      obtain ⟨values, reports', repeats⟩ := complete.others more kinds' (by omega) isRight less
      exact ⟨_, _, term_list isLeft isRight (yields_elements yields repeats)⟩

/-- A term is accepted before any rest. -/
theorem term (complete : Complete expr bound size) {word rest : List Token}
    (small : word.length ≤ size) (derives : Derives .term (word.map Token.kind))
    (short : (word ++ rest).length ≤ bound + 1) : Accepts (term expr) (word ++ rest) rest := by
  generalize kinds : word.map Token.kind = sentence at derives
  cases derives with
  | term_number derives =>
      cases derives with
      | integer =>
          obtain ⟨numeral, rfl, isInteger⟩ := List.map_eq_singleton_iff.1 kinds
          exact ⟨_, _, term_number (.inl isInteger) rest⟩
      | float =>
          obtain ⟨numeral, rfl, isFloat⟩ := List.map_eq_singleton_iff.1 kinds
          exact ⟨_, _, term_number (.inr isFloat) rest⟩
  | term_name =>
      obtain ⟨name, rfl, isName⟩ := List.map_eq_singleton_iff.1 kinds
      exact ⟨_, _, term_ident isName rest⟩
  | term_unit derives =>
      cases derives with
      | unit =>
          obtain ⟨opening, _, rfl, isLeft, final⟩ := List.map_eq_cons_iff.1 kinds
          obtain ⟨closing, rfl, isRight⟩ := List.map_eq_singleton_iff.1 final
          exact ⟨_, _, term_unit isLeft isRight rest⟩
  | term_paren derives =>
      obtain ⟨opening, inside, closing, rfl, isLeft, rfl, isRight⟩ := exists_bracketed kinds
      obtain ⟨kind, others, starts, isStart⟩ := derives_starts derives
      obtain ⟨first, inside, rfl, rfl, _⟩ := List.map_eq_cons_iff.1 starts
      simp only [List.length_cons, List.cons_append, List.length_append, List.append_assoc,
        List.length_nil, List.nil_append] at small short ⊢
      have closed : Closed (closing :: rest) := ⟨closing, rest, rfl, by rw [isRight]; rfl⟩
      have some : headKind (first :: (inside ++ closing :: rest)) ≠ some .rightParen := by
        intro same
        rw [Option.some.inj same] at isStart
        cases isStart
      obtain ⟨value, reports, yields⟩ := complete.accepts (first :: inside) (closing :: rest)
        (by simp only [List.length_cons]; omega) derives closed (by
          simp only [List.length_append, List.length_cons]
          omega)
      exact ⟨_, _, term_paren isLeft isRight some yields⟩
  | term_brace derives =>
      obtain ⟨opening, inside, closing, rfl, isLeft, rfl, isRight⟩ := exists_bracketed kinds
      simp only [List.length_cons, List.cons_append, List.length_append, List.append_assoc,
        List.length_nil, List.nil_append] at small short ⊢
      have closed : Closed (closing :: rest) := ⟨closing, rest, rfl, by rw [isRight]; rfl⟩
      obtain ⟨value, reports, yields⟩ := complete.accepts inside (closing :: rest) (by omega)
        derives closed (by
          simp only [List.length_append, List.length_cons]
          omega)
      exact ⟨_, _, term_brace isLeft isRight yields⟩
  | term_list derives => exact complete.list small (kinds ▸ derives) short

end Complete

/-- The rest of a sum is finished by operations of its first product, and then by those of the sum. -/
def Finishes (expr : Parser Expression) (tokens rest : List Token) : Prop :=
  ∃ middle factors reports products reports',
    Repeats (operation (factor expr) productOperators) tokens factors reports middle ∧
      Repeats (operation (product expr) sumOperators) middle products reports' rest

/-- A sum flows from its first factor to what finishes it. -/
def Flows (expr : Parser Expression) (tokens rest : List Token) : Prop :=
  ∃ middle, Accepts (factor expr) tokens middle ∧ middle.length < tokens.length ∧
    Finishes expr middle rest

/-- A repetition leaves no more tokens than there were. -/
theorem repeats_length_le {A : Type} {parser : Parser A} {tokens rest : List Token} {values : List A}
    {reports : List Report} (repeats : Repeats parser tokens values reports rest) :
    rest.length ≤ tokens.length := by
  induction repeats with
  | done => exact Nat.le_refl _
  | step _ shorter _ ih => omega

/-- What flows through all levels is accepted as a sum. -/
theorem Flows.accepts {expr : Parser Expression} {tokens rest : List Token}
    (flows : Flows expr tokens rest) : Accepts (sum expr) tokens rest := by
  obtain ⟨_, ⟨_, _, yields⟩, _, _, _, _, _, _, first, second⟩ := flows
  exact ⟨_, _, yields_sum (yields_product yields first) second⟩

/-- A sum is finished before what closes it. -/
theorem Closed.finishes {expr : Parser Expression} {rest : List Token} (closed : Closed rest) :
    Finishes expr rest rest := by
  have unknown (operators : List (Kind × Operator))
      (plain : ∀ kind, closes kind = true → operators.lookup kind = none) (kind : Kind)
      (here : headKind rest = some kind) : operators.lookup kind = none := by
    obtain ⟨token, rest, rfl, closing⟩ := closed
    obtain rfl : token.kind = kind := Option.some.inj here
    exact plain _ closing
  refine ⟨rest, [], [], [], [], .done (refuses_operation (unknown _ ?_)),
    .done (refuses_operation (unknown _ ?_))⟩
  all_goals
    intro kind closing
    rcases closes_cases closing with rfl | rfl | rfl | rfl | rfl <;> rfl

/-- An operation before a sum that flows finishes what is before it. -/
theorem Flows.finishes {expr : Parser Expression} {found : Token} {tokens rest : List Token}
    (isOperator : isSumOperator found.kind ∨ isProductOperator found.kind)
    (flows : Flows expr tokens rest) : Finishes expr (found :: tokens) rest := by
  obtain ⟨middle, ⟨value, reports, yields⟩, shorter, between, _, _, _, _, first, second⟩ := flows
  have less := repeats_length_le first
  rcases isOperator with isSum | isProduct
  · have goesOn : found.kind ≠ .endOfInput := by
      rcases isSum with same | same <;> rw [same] <;> decide
    obtain ⟨operator, known⟩ : ∃ operator, sumOperators.lookup found.kind = some operator := by
      rcases isSum with same | same
      · exact ⟨.add, by rw [same]; rfl⟩
      · exact ⟨.sub, by rw [same]; rfl⟩
    have unknown : ∀ kind, headKind (found :: tokens) = some kind →
        productOperators.lookup kind = none := by
      rintro _ ⟨⟩
      rcases isSum with same | same <;> rw [same] <;> rfl
    refine ⟨found :: tokens, [], [], _, _, .done (refuses_operation unknown),
      .step (yields_operation goesOn known (yields_product yields first)) ?_ second⟩
    simp only [List.length_cons]
    omega
  · have goesOn : found.kind ≠ .endOfInput := by
      rcases isProduct with same | same | same <;> rw [same] <;> decide
    obtain ⟨operator, known⟩ : ∃ operator, productOperators.lookup found.kind = some operator := by
      rcases isProduct with same | same | same
      · exact ⟨.mul, by rw [same]; rfl⟩
      · exact ⟨.div, by rw [same]; rfl⟩
      · exact ⟨.mod, by rw [same]; rfl⟩
    refine ⟨between, _, _, _, _, .step (yields_operation goesOn known yields) ?_ first, second⟩
    simp only [List.length_cons]
    omega

/-- What follows a factor is no argument of it, and makes a name neither a parameter nor the target of
an assignment. -/
theorem follows_head {tail rest : List Token} (follows : Follows (tail.map Token.kind))
    (closed : Closed rest) : ∃ found others, tail ++ rest = found :: others ∧
      (found.kind ≠ .colon ∧ found.kind ≠ .equal) ∧
        (isSumOperator found.kind ∨ startsExpression found.kind = false) := by
  generalize kinds : tail.map Token.kind = sentence at follows
  cases follows with
  | nothing =>
      obtain rfl := List.map_eq_nil_iff.1 kinds
      have stops := closed.stops
      obtain ⟨token, rest, rfl, closing⟩ := closed
      refine ⟨token, rest, rfl, ?_, .inr (stops _ rfl)⟩
      rcases closes_cases closing with same | same | same | same | same <;> rw [same] <;> decide
  | operation isOperator _ =>
      obtain ⟨found, others, rfl, rfl, _⟩ := List.map_eq_cons_iff.1 kinds
      refine ⟨found, others ++ rest, rfl, ?_, ?_⟩
      · rcases isOperator with (same | same) | same | same | same <;> rw [same] <;> decide
      · rcases isOperator with isSum | isProduct
        · exact .inl isSum
        · right
          rcases isProduct with same | same | same <;> rw [same] <;> rfl

/-- What starts no expression is no sign. -/
theorem isSign_eq_false {kind : Kind} (stops : startsExpression kind = false) :
    isSign kind = false := by
  simp only [startsExpression, Bool.or_eq_false_iff] at stops
  exact stops.1.1.1.1.1.1

/-- A term is a name, or it starts with a kind that is neither a name nor a sign. -/
theorem term_head {word : List Kind} (derives : Derives .term word) :
    word = [.identifier] ∨ ∃ kind rest, word = kind :: rest ∧ kind ≠ .identifier ∧
      isSign kind = false := by
  cases derives with
  | term_number derives =>
      cases derives with
      | integer => exact .inr ⟨_, _, rfl, by decide, rfl⟩
      | float => exact .inr ⟨_, _, rfl, by decide, rfl⟩
  | term_name => exact .inl rfl
  | term_unit derives =>
      cases derives with
      | unit => exact .inr ⟨_, _, rfl, by decide, rfl⟩
  | term_paren _ => exact .inr ⟨_, _, rfl, by decide, rfl⟩
  | term_brace _ => exact .inr ⟨_, _, rfl, by decide, rfl⟩
  | term_list derives =>
      cases derives with
      | list_empty => exact .inr ⟨_, _, rfl, by decide, rfl⟩
      | list _ => exact .inr ⟨_, _, rfl, by decide, rfl⟩

/-- A name at the start of a sum is neither a parameter nor the target of an assignment. -/
theorem flow_head {word rest : List Token} (flow : Flow (word.map Token.kind))
    (closed : Closed rest) : headKind (word ++ rest) ≠ some .identifier ∨
      ∃ name found others, word ++ rest = name :: found :: others ∧ name.kind = .identifier ∧
        found.kind ≠ .colon ∧ found.kind ≠ .equal := by
  generalize kinds : word.map Token.kind = sentence at flow
  cases flow with
  | signed isSign _ _ =>
      obtain ⟨sign, others, rfl, rfl, _⟩ := List.map_eq_cons_iff.1 kinds
      left
      rcases isSign with same | same <;> simp [headKind, same]
  | term derives follows =>
      obtain ⟨word, tail, rfl, rfl, rfl⟩ := List.map_eq_append_iff.1 kinds
      rw [List.append_assoc]
      rcases term_head derives with single | ⟨kind, others, split, notName, _⟩
      · obtain ⟨name, rfl, isName⟩ := List.map_eq_singleton_iff.1 single
        obtain ⟨found, others, split, other, _⟩ := follows_head follows closed
        exact .inr ⟨name, found, others, by rw [split]; rfl, isName, other⟩
      · obtain ⟨first, others, rfl, rfl, _⟩ := List.map_eq_cons_iff.1 split
        exact .inl (by simpa [headKind] using notName)
  | applied derives argument _ =>
      obtain ⟨word, arg, rfl, split, rfl⟩ := List.map_eq_append_iff.1 kinds
      rw [List.append_assoc]
      cases derives with
      | callee_function =>
          obtain ⟨opening, _, rfl, isLeft, _⟩ := List.map_eq_cons_iff.1 split
          exact .inl (by simp [headKind, isLeft])
      | callee_name =>
          obtain ⟨name, rfl, isName⟩ := List.map_eq_singleton_iff.1 split
          obtain ⟨_, _, starts, isStart⟩ := derives_starts argument
          obtain ⟨first, others, rfl, rfl, _⟩ := List.map_eq_cons_iff.1 starts
          refine .inr ⟨name, first, others ++ rest, rfl, isName, ?_, ?_⟩
          all_goals
            intro same
            rw [same] at isStart
            cases isStart

/-- A sum is no function. -/
theorem refuses_function_flow {expr : Parser Expression} {word rest : List Token}
    (flow : Flow (word.map Token.kind)) (closed : Closed rest) :
    (function expr).Refuses (word ++ rest) := by
  rcases flow_head flow closed with notName | ⟨name, found, others, split, isName, notColon, _⟩
  · exact refuses_function notName
  · rw [split]
    exact refuses_function_colon isName (by simpa [headKind] using notColon)

/-- An expression is no assignment. -/
theorem refuses_assignment {expr : Parser Expression} {word rest : List Token}
    (derives : Derives .expression (word.map Token.kind)) (closed : Closed rest) :
    (assignment expr).Refuses (word ++ rest) := by
  have named {name found : Token} {others : List Token} (isName : name.kind = .identifier)
      (notEqual : found.kind ≠ .equal) : (assignment expr).Refuses (name :: found :: others) :=
    (yields_token isName (by decide) _).refuses_triple (refuses_token others notEqual) _ _
  generalize kinds : word.map Token.kind = sentence at derives
  cases derives with
  | expression_function derives =>
      cases derives with
      | function _ =>
          obtain ⟨name, _, rfl, isName, later⟩ := List.map_eq_cons_iff.1 kinds
          obtain ⟨colon, body, rfl, isColon, _⟩ := List.map_eq_cons_iff.1 later
          exact named isName (by simp [isColon])
  | expression_sum derives =>
      subst kinds
      rcases flow_head (derives.flow (.inr rfl)) closed with
        notName | ⟨name, found, others, split, isName, _, notEqual⟩
      · exact (refuses_head notName).triple _ _ _
      · rw [split]
        exact named isName notEqual

/-- A term can be applied, or it is refused as a callee. -/
theorem callee_or_refuses {expr : Parser Expression} {word : List Token}
    (derives : Derives .term (word.map Token.kind)) (rest : List Token) :
    Derives .callee (word.map Token.kind) ∨ (callee expr).Refuses (word ++ rest) := by
  generalize kinds : word.map Token.kind = sentence at derives
  have other {first : Token} {others : List Token} (notParen : first.kind ≠ .leftParen)
      (notName : first.kind ≠ .identifier) : (callee expr).Refuses (first :: others) :=
    refuses_callee (by simpa [headKind] using notParen) (by simpa [headKind] using notName)
  cases derives with
  | term_number derives =>
      cases derives with
      | integer =>
          obtain ⟨numeral, rfl, isInteger⟩ := List.map_eq_singleton_iff.1 kinds
          exact .inr (other (by simp [isInteger]) (by simp [isInteger]))
      | float =>
          obtain ⟨numeral, rfl, isFloat⟩ := List.map_eq_singleton_iff.1 kinds
          exact .inr (other (by simp [isFloat]) (by simp [isFloat]))
  | term_name => exact .inl .callee_name
  | term_unit derives =>
      cases derives with
      | unit =>
          obtain ⟨opening, _, rfl, isLeft, final⟩ := List.map_eq_cons_iff.1 kinds
          obtain ⟨closing, rfl, isRight⟩ := List.map_eq_singleton_iff.1 final
          -- Parentheses with nothing between them open like a callee, but no function stands inside.
          exact .inr (refuses_callee_inside isLeft (refuses_function (by simp [headKind, isRight])))
  | term_paren derives =>
      cases derives with
      | expression_function derives => exact .inl (.callee_function derives)
      | expression_sum derives =>
          obtain ⟨opening, inside, closing, rfl, isLeft, rfl, isRight⟩ := exists_bracketed kinds
          -- A sum in parentheses is no callee, since a callee in parentheses is a function.
          have closed : Closed (closing :: rest) := ⟨closing, rest, rfl, by rw [isRight]; rfl⟩
          right
          rw [List.cons_append, List.append_assoc]
          exact refuses_callee_inside isLeft
            (refuses_function_flow (derives.flow (.inr rfl)) closed)
  | term_brace derives =>
      obtain ⟨opening, inside, closing, rfl, isLeft, _, _⟩ := exists_bracketed kinds
      exact .inr (other (by simp [isLeft]) (by simp [isLeft]))
  | term_list derives =>
      obtain ⟨opening, inside, rfl, isLeft⟩ : ∃ opening inside, word = opening :: inside ∧
          opening.kind = .leftBracket := by
        cases derives with
        | list_empty =>
            obtain ⟨opening, inside, rfl, isLeft, _⟩ := List.map_eq_cons_iff.1 kinds
            exact ⟨opening, inside, rfl, isLeft⟩
        | list _ =>
            obtain ⟨opening, inside, rfl, isLeft, _⟩ := List.map_eq_cons_iff.1 kinds
            exact ⟨opening, inside, rfl, isLeft⟩
      exact .inr (other (by simp [isLeft]) (by simp [isLeft]))

/-- A term has no sign. -/
theorem unsigned_term {word : List Token} (derives : Derives .term (word.map Token.kind))
    (rest : List Token) (kind : Kind) (here : headKind (word ++ rest) = some kind) :
    isSign kind = false := by
  rcases term_head derives with single | ⟨_, _, split, _, notSign⟩
  · obtain ⟨name, rfl, isName⟩ := List.map_eq_singleton_iff.1 single
    obtain rfl : name.kind = kind := Option.some.inj here
    rw [isName]
    rfl
  · obtain ⟨first, others, rfl, rfl, _⟩ := List.map_eq_cons_iff.1 split
    obtain rfl : first.kind = kind := Option.some.inj here
    exact notSign

namespace Complete

variable {expr : Parser Expression} {bound size : Nat}

/-- No argument starts with an operator or with what closes the expression. -/
theorem refuses_argument (complete : Complete expr bound size) {tail rest : List Token}
    (follows : Follows (tail.map Token.kind)) (closed : Closed rest)
    (short : (tail ++ rest).length ≤ bound) : (argument expr).Refuses (tail ++ rest) := by
  obtain ⟨found, others, split, _, isSum | stops⟩ := follows_head follows closed
  · rw [split]
    rcases isSum with same | same
    · exact refuses_argument_sign (by rw [same]; rfl) (by rw [same]; decide) others
    · exact refuses_argument_sign (by rw [same]; rfl) (by rw [same]; decide) others
  · have stop : ∀ kind, headKind (tail ++ rest) = some kind → startsExpression kind = false := by
      rw [split]
      rintro _ ⟨⟩
      exact stops
    exact Grammar.refuses_argument (fun kind here => isSign_eq_false (stop kind here))
      (complete.stops _ short stop)

/-- A term alone is a factor. -/
theorem factor_term (complete : Complete expr bound size) {word tail rest : List Token}
    (small : word.length ≤ size) (derives : Derives .term (word.map Token.kind))
    (follows : Follows (tail.map Token.kind)) (closed : Closed rest)
    (short : (word ++ (tail ++ rest)).length ≤ bound + 1) :
    Accepts (factor expr) (word ++ (tail ++ rest)) (tail ++ rest) := by
  have notSign := unsigned_term derives (tail ++ rest)
  rcases callee_or_refuses derives (tail ++ rest) with callee | refuses
  · have positive := List.length_pos_iff.2 derives.ne_nil
    rw [List.length_map] at positive
    obtain ⟨value, reports, yields⟩ := complete.callee small callee short
    rw [List.length_append] at short
    have none := complete.refuses_argument follows closed (by omega)
    exact ⟨_, _, factor_application notSign (yields_application_alone yields none)⟩
  · obtain ⟨value, reports, yields⟩ := complete.term small derives short
    exact ⟨_, _, Grammar.factor_term notSign refuses yields⟩

/-- Every sum flows. -/
theorem flows (complete : Complete expr bound size) {word rest : List Token}
    (small : word.length ≤ size) (flow : Flow (word.map Token.kind)) (closed : Closed rest)
    (short : (word ++ rest).length ≤ bound + 1) : Flows expr (word ++ rest) rest := by
  induction count : word.length using Nat.strongRecOn generalizing word with
  | ind count' ih =>
      subst count
      -- Behind the first factor stands nothing, or an operator before a shorter flow.
      have tailFinishes {tail : List Token} (shorter : tail.length < word.length)
          (follows : Follows (tail.map Token.kind))
          (enough : tail.length + rest.length ≤ bound + 1) :
          Finishes expr (tail ++ rest) rest := by
        generalize kinds : tail.map Token.kind = sentence at follows
        cases follows with
        | nothing =>
            obtain rfl := List.map_eq_nil_iff.1 kinds
            exact closed.finishes
        | operation isOperator derives =>
            obtain ⟨found, others, rfl, rfl, rfl⟩ := List.map_eq_cons_iff.1 kinds
            simp only [List.length_cons] at shorter enough
            have flows := ih others.length (by omega) (by omega) (derives.flow (.inr rfl))
              (by rw [List.length_append]; omega) rfl
            exact flows.finishes isOperator
      generalize kinds : word.map Token.kind = sentence at flow
      cases flow with
      | signed isSign derives follows =>
          obtain ⟨sign, _, rfl, rfl, split⟩ := List.map_eq_cons_iff.1 kinds
          obtain ⟨word, tail, rfl, rfl, rfl⟩ := List.map_eq_append_iff.1 split
          simp only [List.length_cons, List.cons_append, List.length_append, List.append_assoc]
            at small short tailFinishes ⊢
          have enough : (word ++ (tail ++ rest)).length ≤ bound + 1 := by
            simp only [List.length_append]
            omega
          obtain ⟨value, reports, yields⟩ := complete.term (by omega) derives enough
          obtain ⟨operator, known⟩ : ∃ operator, sumOperators.lookup sign.kind = some operator := by
            rcases isSign with same | same
            · exact ⟨.add, by rw [same]; rfl⟩
            · exact ⟨.sub, by rw [same]; rfl⟩
          have goesOn : sign.kind ≠ .endOfInput := by
            rcases isSign with same | same <;> rw [same] <;> decide
          refine ⟨tail ++ rest, ⟨_, _, factor_unary (yields_unary known goesOn yields)⟩, ?_,
            tailFinishes (by omega) follows (by omega)⟩
          simp only [List.length_cons, List.length_append]
          omega
      | term derives follows =>
          obtain ⟨word, tail, rfl, rfl, rfl⟩ := List.map_eq_append_iff.1 kinds
          have positive := List.length_pos_iff.2 derives.ne_nil
          rw [List.append_assoc] at short ⊢
          simp only [List.length_append, List.length_map] at small positive tailFinishes
          refine ⟨tail ++ rest, complete.factor_term (by omega) derives follows closed short, ?_, ?_⟩
          · simp only [List.length_append]
            omega
          · simp only [List.length_append] at short
            exact tailFinishes (by omega) follows (by omega)
      | applied derives argument unsigned =>
          obtain ⟨word, arg, rfl, rfl, rfl⟩ := List.map_eq_append_iff.1 kinds
          have positive := List.length_pos_iff.2 derives.ne_nil
          rw [List.append_assoc] at short ⊢
          simp only [List.length_append, List.length_map] at small positive
          obtain ⟨value, reports, yields⟩ := complete.callee (by omega) derives short
          rw [List.length_append] at short
          obtain ⟨value', reports', yields'⟩ :=
            complete.accepts arg rest (by omega) argument closed (by omega)
          have noSign : ∀ kind, headKind (arg ++ rest) = some kind → isSign kind = false := by
            obtain ⟨_, _, starts, _⟩ := derives_starts argument
            obtain ⟨first, others, rfl, _, _⟩ := List.map_eq_cons_iff.1 starts
            rintro _ ⟨⟩
            exact Bool.eq_false_iff.2 fun sign => unsigned first.kind rfl (isSign_iff.1 sign)
          refine ⟨rest, ⟨_, _, factor_application (unsigned_term derives.callee_term _)
            (yields_application yields (yields_argument noSign yields'))⟩, ?_, closed.finishes⟩
          simp only [List.length_append]
          omega

/-- A function or a sum is accepted as an expression. -/
theorem expressionRule (complete : Complete expr bound size) {word rest : List Token}
    (small : word.length ≤ size) (derives : Derives .expression (word.map Token.kind))
    (closed : Closed rest) (short : (word ++ rest).length ≤ bound + 1) :
    Accepts (expressionRule expr) (word ++ rest) rest := by
  cases derives with
  | expression_function derives =>
      obtain ⟨value, reports, yields⟩ := complete.function small derives closed short
      exact ⟨_, _, expression_function yields⟩
  | expression_sum derives =>
      have flow := derives.flow (.inr rfl)
      obtain ⟨value, reports, yields⟩ := (complete.flows small flow closed short).accepts
      exact ⟨_, _, expression_sum (refuses_function_flow flow closed) yields⟩

end Complete

/-- The parse of expressions is complete up to every size. -/
theorem complete_expressionWithin (depth size : Nat) : Complete (expressionWithin depth) depth size := by
  have stops (depth : Nat) (tokens : List Token) (short : tokens.length ≤ depth)
      (stop : ∀ kind, headKind tokens = some kind → startsExpression kind = false) :
      (expressionWithin depth).Refuses tokens := by
    cases depth with
    | zero =>
        obtain rfl := List.length_eq_zero_iff.1 (Nat.le_zero.1 short)
        exact refuses_nil _
    | succ depth => exact refuses_expression stop
  induction size generalizing depth with
  | zero => exact ⟨fun word rest small => absurd small (Nat.not_lt_zero _), stops depth⟩
  | succ size ih =>
      refine ⟨fun word rest small derives closed short => ?_, stops depth⟩
      cases depth with
      | zero =>
          have empty := List.append_eq_nil_iff.1 (List.length_eq_zero_iff.1 (Nat.le_zero.1 short))
          rw [empty.1] at derives
          exact absurd rfl derives.ne_nil
      | succ depth =>
          exact (ih depth).expressionRule (Nat.lt_succ_iff.1 small) derives closed short

/-- Every sentence is accepted before a token that ends it. -/
theorem accepts_expression {word rest : List Token} (depth : Nat)
    (derives : Derives .expression (word.map Token.kind)) (closed : Closed rest)
    (short : (word ++ rest).length ≤ depth) :
    Accepts (expressionWithin depth) (word ++ rest) rest :=
  (complete_expressionWithin depth (word.length + 1)).accepts word rest (Nat.lt_succ_self _) derives
    closed short

/-- A statement is accepted at every depth that covers its tokens. -/
theorem accepts_statement {word rest : List Token} (depth : Nat)
    (derives : Derives .statement (word.map Token.kind)) (closed : Closed rest)
    (short : (word ++ rest).length ≤ depth) :
    Accepts (statementRule (expressionWithin depth)) (word ++ rest) rest := by
  generalize kinds : word.map Token.kind = sentence at derives
  cases derives with
  | statement_assignment derives =>
      cases derives with
      | assignment derives =>
          obtain ⟨name, _, rfl, isName, later⟩ := List.map_eq_cons_iff.1 kinds
          obtain ⟨equal, value, rfl, isEqual, rfl⟩ := List.map_eq_cons_iff.1 later
          simp only [List.length_cons, List.cons_append] at short
          obtain ⟨value', reports, yields⟩ := accepts_expression depth derives closed (by omega)
          have whole := (yields_token isName (by decide) _).triple
            (yields_token isEqual (by decide) _) yields fun name _ value => assigned name value
          exact ⟨_, _, whole.choice _⟩
  | statement_expression derives =>
      subst kinds
      obtain ⟨value, reports, yields⟩ := accepts_expression depth derives closed short
      exact ⟨_, _, (refuses_assignment derives closed).choice ((yields.map _).choice _)⟩

end Reckon.Grammar
