/-
This file shows how words that are written for an expression are parsed. The looser a phrase binds, the fewer
rules of the grammar yield it.
-/

import Reckon.Expression.Source
import Reckon.Proofs.Expression.Parsable
import Reckon.Proofs.Parse.Acceptance
import Reckon.Proofs.Token.Wording

namespace Reckon.Grammar

open Text Reckon.Parser

/-- A parser reads words as an expression when it yields this expression, up to spans, on all tokens
with these words. -/
def ReadsAs (parser : Parser Expression) (bound : Nat) (Suits : List Token → Prop)
    (words : List Word) (expression : Expression) : Prop :=
  ∀ tokens rest : List Token, tokens.map Token.word = words → (tokens ++ rest).length ≤ bound →
    Suits rest → ∃ value, value.bare = expression.bare ∧ parser.Yields (tokens ++ rest) value [] rest

/-- A chain reads words as its first part when it goes on with the operations behind them. -/
def LeadsAs (operand : Parser Expression) (operators : List (Kind × Operator)) (bound : Nat)
    (Suits : List Token → Prop) (words : List Word) (expression : Expression) : Prop :=
  ∀ tokens rest : List Token, tokens.map Token.word = words → (tokens ++ rest).length ≤ bound →
    Suits rest → ∃ value, value.bare = expression.bare ∧ ∀ others final,
      Repeats (operation operand operators) rest others [] final →
        (chained operand operators).Yields (tokens ++ rest) (chainLeft value others) [] final

/-- No factor goes on with the rest: it ends the expression, or it goes on with an operator. -/
def Ends (rest : List Token) : Prop :=
  ∃ token others, rest = token :: others ∧ (closes token.kind = true ∨
    (sumOperators.lookup token.kind).isSome = true ∨
      (productOperators.lookup token.kind).isSome = true)

/-- No product goes on with the rest. -/
def EndsProduct (rest : List Token) : Prop :=
  ∃ token others, rest = token :: others ∧ (closes token.kind = true ∨
    (sumOperators.lookup token.kind).isSome = true)

theorem Closed.endsProduct {rest : List Token} (closed : Closed rest) : EndsProduct rest := by
  obtain ⟨token, others, same, closing⟩ := closed
  exact ⟨token, others, same, .inl closing⟩

theorem EndsProduct.ends {rest : List Token} (ends : EndsProduct rest) : Ends rest := by
  obtain ⟨token, others, same, kind⟩ := ends
  exact ⟨token, others, same, kind.imp_right .inl⟩

/-- These kinds stand behind a factor. -/
def trailingKinds : List Kind :=
  [.rightParen, .rightBrace, .rightBracket, .comma, .endOfInput, .plus, .dash, .star, .slash,
    .percent]

/-- A factor is ended by one of the trailing kinds. -/
theorem Ends.kinds {rest : List Token} (ends : Ends rest) :
    ∃ token others, rest = token :: others ∧ token.kind ∈ trailingKinds := by
  obtain ⟨token, others, same, kind⟩ := ends
  refine ⟨token, others, same, ?_⟩
  rcases kind with closing | sum | product
  · rcases closes_cases closing with kind | kind | kind | kind | kind <;> rw [kind] <;> decide
  · obtain ⟨operator, known⟩ := Option.isSome_iff_exists.1 sum
    rcases lookup_sumOperators.1 known with ⟨kind, _⟩ | ⟨kind, _⟩ <;> rw [kind] <;> decide
  · obtain ⟨operator, known⟩ := Option.isSome_iff_exists.1 product
    rcases lookup_productOperators.1 known with ⟨kind, _⟩ | ⟨kind, _⟩ | ⟨kind, _⟩ <;> rw [kind] <;>
      decide

/-- A product does not go on where it ends. -/
theorem EndsProduct.refuses {operand : Parser Expression} {rest : List Token}
    (ends : EndsProduct rest) : (operation operand productOperators).Refuses rest := by
  obtain ⟨token, others, rfl, kind⟩ := ends
  refine refuses_operation fun found same => ?_
  obtain rfl : token.kind = found := Option.some.inj same
  rcases kind with closing | sum
  · rcases closes_cases closing with kind | kind | kind | kind | kind <;> rw [kind] <;> decide
  · obtain ⟨operator, known⟩ := Option.isSome_iff_exists.1 sum
    rcases lookup_sumOperators.1 known with ⟨kind, _⟩ | ⟨kind, _⟩ <;> rw [kind] <;> decide

/-- A sum does not go on before what closes it. -/
theorem Closed.refuses {operand : Parser Expression} {rest : List Token} (closed : Closed rest) :
    (operation operand sumOperators).Refuses rest := by
  obtain ⟨token, others, rfl, closing⟩ := closed
  refine refuses_operation fun found same => ?_
  obtain rfl : token.kind = found := Option.some.inj same
  rcases closes_cases closing with kind | kind | kind | kind | kind <;> rw [kind] <;> decide

/-- No argument starts behind a factor. -/
theorem Ends.refuses_argument {depth : Nat} {rest : List Token} (ends : Ends rest) :
    (argument (expressionWithin (depth + 1))).Refuses rest := by
  obtain ⟨token, others, rfl, member⟩ := ends.kinds
  by_cases sign : (sumOperators.lookup token.kind).isSome = true
  · obtain ⟨operator, known⟩ := Option.isSome_iff_exists.1 sign
    refine refuses_argument_sign known ?_ others
    rintro same
    rw [same] at known
    cases known
  · have all : ∀ kind ∈ trailingKinds, (sumOperators.lookup kind).isSome = true ∨
        startsExpression kind = false := by decide
    have stops := (all _ member).resolve_left sign
    refine Grammar.refuses_argument (fun kind same => ?_) (refuses_expression fun kind same => ?_)
    · obtain rfl : token.kind = kind := Option.some.inj same
      exact Bool.eq_false_iff.2 sign
    · obtain rfl : token.kind = kind := Option.some.inj same
      exact stops

/-- No factor ends before a colon. -/
theorem Ends.not_colon {rest : List Token} (ends : Ends rest) : headKind rest ≠ some .colon := by
  obtain ⟨token, others, rfl, member⟩ := ends.kinds
  intro same
  rw [Option.some.inj same] at member
  revert member
  decide

theorem Ends.length_pos {rest : List Token} (ends : Ends rest) : 0 < rest.length := by
  obtain ⟨token, others, rfl, _⟩ := ends
  exact Nat.succ_pos _

section Chains

variable {operand : Parser Expression} {operators : List (Kind × Operator)} {bound : Nat}
  {Suits Suits' : List Token → Prop} {words words' : List Word} {meant meant' : Expression}

/-- An operand is the first part of a chain. -/
theorem ReadsAs.leads (reads : ReadsAs operand bound Suits words meant) :
    LeadsAs operand operators bound Suits words meant := by
  intro tokens rest same short suits
  obtain ⟨value, bare, yields⟩ := reads tokens rest same short suits
  refine ⟨value, bare, fun others final repeats => ?_⟩
  exact yields_chained yields repeats

/-- A chain is a longer chain together with one more operation. -/
theorem LeadsAs.operation {kind : Kind} {lexeme : Bytes} {span : Span} {operator : Operator}
    (left : LeadsAs operand operators bound Suits words meant)
    (right : ReadsAs operand bound Suits' words' meant') (goesOn : kind ≠ .endOfInput)
    (known : operators.lookup kind = some operator)
    (suits : ∀ token rest, token.kind = kind → Suits (token :: rest)) :
    LeadsAs operand operators bound Suits' (words ++ ⟨kind, lexeme⟩ :: words')
      (.binary span operator meant meant') := by
  intro tokens rest same short suits'
  obtain ⟨first, _, rfl, here, later⟩ := List.map_eq_append_iff.1 same
  obtain ⟨found, second, rfl, word, there⟩ := List.map_eq_cons_iff.1 later
  obtain rfl : found.kind = kind := congrArg Word.kind word
  rw [List.append_assoc, List.cons_append] at short ⊢
  have shorter : (second ++ rest).length ≤ bound := by
    simp only [List.length_append, List.length_cons] at short ⊢
    omega
  obtain ⟨value, bare, leads⟩ := left first _ here short (suits found (second ++ rest) rfl)
  obtain ⟨value', bare', yields⟩ := right second rest there shorter suits'
  refine ⟨.binary (value.extent.around value'.extent) operator value value', ?_,
    fun others final repeats => ?_⟩
  · rw [Expression.bare, Expression.bare, bare, bare']
  · have longer : rest.length < (found :: (second ++ rest)).length := by
      rw [List.length_cons, List.length_append]
      omega
    exact leads _ _ (.step (yields_operation goesOn known yields) longer repeats)

end Chains

section Levels

variable {depth : Nat} {words : List Word} {meant : Expression}

/-- A chain of factors ends before what ends a product. -/
theorem LeadsAs.reads
    (leads : LeadsAs (factor (expressionWithin depth)) productOperators (depth + 1) Ends words meant) :
    ReadsAs (product (expressionWithin depth)) (depth + 1) EndsProduct words meant := by
  intro tokens rest same short ends
  obtain ⟨value, bare, yields⟩ := leads tokens rest same short ends.ends
  rw [product_eq]
  exact ⟨value, bare, yields [] rest (.done ends.refuses)⟩

/-- A sum before a token that ends it is an expression. -/
theorem LeadsAs.expression
    (leads : ∀ depth, LeadsAs (product (expressionWithin depth)) sumOperators (depth + 1) EndsProduct
      words meant)
    (notFunction : ∀ depth (tokens rest : List Token), tokens.map Token.word = words → Ends rest →
      (function (expressionWithin depth)).Refuses (tokens ++ rest))
    (depth : Nat) : ReadsAs (expressionWithin depth) depth Closed words meant := by
  intro tokens rest same short closed
  cases depth with
  | zero =>
      obtain ⟨token, others, rfl, _⟩ := closed
      simp at short
  | succ depth =>
      obtain ⟨value, bare, yields⟩ := leads depth tokens rest same short closed.endsProduct
      have yields := yields [] rest (.done closed.refuses)
      rw [← sum_eq] at yields
      exact ⟨value, bare,
        expression_sum (notFunction depth tokens rest same closed.endsProduct.ends) yields⟩

end Levels

/-- A phrase is what is written for an expression. The rules that yield the expression on its words
are those of its level and of all lower levels. -/
structure Phrase (level : Nat) (words : List Word) (meant : Expression) : Prop where
  starts : ∃ word others, words = word :: others ∧ startsExpression word.kind = true
  function : level = Fragment.functionLevel → ∀ depth,
    ReadsAs (function (expressionWithin depth)) (depth + 1) Closed words meant
  notFunction : level ≠ Fragment.functionLevel → ∀ depth (tokens rest : List Token),
    tokens.map Token.word = words → Ends rest →
      (Grammar.function (expressionWithin depth)).Refuses (tokens ++ rest)
  expression : ∀ depth, ReadsAs (expressionWithin depth) depth Closed words meant
  sum : Fragment.sumLevel ≤ level → ∀ depth,
    LeadsAs (product (expressionWithin depth)) sumOperators (depth + 1) EndsProduct words meant
  product : Fragment.productLevel ≤ level → ∀ depth,
    LeadsAs (factor (expressionWithin depth)) productOperators (depth + 1) Ends words meant
  factor : Fragment.unaryLevel ≤ level → ∀ depth,
    ReadsAs (factor (expressionWithin depth)) (depth + 1) Ends words meant
  term : level = Fragment.atomLevel → ∀ depth,
    ReadsAs (term (expressionWithin depth)) (depth + 1) (fun _ => True) words meant

namespace Phrase

variable {words : List Word} {meant : Expression}

/-- This is what all phrases but functions and applications start with. -/
structure Opening (words : List Word) : Prop where
  starts : ∃ word others, words = word :: others ∧ startsExpression word.kind = true
  notFunction : ∀ depth (tokens rest : List Token), tokens.map Token.word = words → Ends rest →
    (Grammar.function (expressionWithin depth)).Refuses (tokens ++ rest)

/-- A phrase has a word. -/
theorem solid {level : Nat} (phrase : Phrase level words meant) : words ≠ [] := by
  obtain ⟨_, _, same, _⟩ := phrase.starts
  rw [same]
  exact List.cons_ne_nil _ _

/-- What reads as a function at every depth is a phrase of its level. -/
theorem ofFunction (starts : ∃ word others, words = word :: others ∧ startsExpression word.kind = true)
    (reads : ∀ depth, ReadsAs (Grammar.function (expressionWithin depth)) (depth + 1) Closed words
      meant) : Phrase Fragment.functionLevel words meant where
  starts := starts
  function := fun _ => reads
  notFunction := fun other => absurd rfl other
  expression := by
    intro depth tokens rest same short closed
    cases depth with
    | zero =>
        obtain ⟨token, others, rfl, _⟩ := closed
        simp at short
    | succ depth =>
        obtain ⟨value, bare, yields⟩ := reads depth tokens rest same short closed
        exact ⟨value, bare, expression_function yields⟩
  sum := fun high => absurd high (by decide)
  product := fun high => absurd high (by decide)
  factor := fun high => absurd high (by decide)
  term := nofun

/-- What reads as an application at every depth is a phrase of its level. -/
theorem ofApplication (opening : Opening words)
    (reads : ∀ depth, ReadsAs (Grammar.factor (expressionWithin depth)) (depth + 1) Closed words
      meant) : Phrase Fragment.applyLevel words meant where
  starts := opening.starts
  function := nofun
  notFunction := fun _ => opening.notFunction
  expression := by
    intro depth tokens rest same short closed
    cases depth with
    | zero =>
        obtain ⟨token, others, rfl, _⟩ := closed
        simp at short
    | succ depth =>
        obtain ⟨value, bare, yields⟩ := reads depth tokens rest same short closed
        have product := yields_product yields (.done closed.endsProduct.refuses)
        refine ⟨value, bare, expression_sum ?_ (yields_sum product (.done closed.refuses))⟩
        exact opening.notFunction depth tokens rest same closed.endsProduct.ends
  sum := fun high => absurd high (by decide)
  product := fun high => absurd high (by decide)
  factor := fun high => absurd high (by decide)
  term := nofun

/-- What leads a sum at every depth is a phrase of its level. -/
theorem ofSum (opening : Opening words)
    (leads : ∀ depth, LeadsAs (Grammar.product (expressionWithin depth)) sumOperators (depth + 1)
      EndsProduct words meant) : Phrase Fragment.sumLevel words meant where
  starts := opening.starts
  function := nofun
  notFunction := fun _ => opening.notFunction
  expression := LeadsAs.expression leads opening.notFunction
  sum := fun _ => leads
  product := fun high => absurd high (by decide)
  factor := fun high => absurd high (by decide)
  term := nofun

/-- What leads a product at every depth is a phrase of its level. -/
theorem ofProduct (opening : Opening words)
    (leads : ∀ depth, LeadsAs (Grammar.factor (expressionWithin depth)) productOperators (depth + 1)
      Ends words meant) : Phrase Fragment.productLevel words meant where
  starts := opening.starts
  function := nofun
  notFunction := fun _ => opening.notFunction
  expression := LeadsAs.expression (fun depth => (leads depth).reads.leads) opening.notFunction
  sum := fun _ depth => (leads depth).reads.leads
  product := fun _ => leads
  factor := fun high => absurd high (by decide)
  term := nofun

/-- What reads as a factor at every depth is a phrase of its level. -/
theorem ofFactor (opening : Opening words)
    (reads : ∀ depth, ReadsAs (Grammar.factor (expressionWithin depth)) (depth + 1) Ends words meant) :
    Phrase Fragment.unaryLevel words meant where
  starts := opening.starts
  function := nofun
  notFunction := fun _ => opening.notFunction
  expression := LeadsAs.expression (fun depth => (reads depth).leads.reads.leads) opening.notFunction
  sum := fun _ depth => (reads depth).leads.reads.leads
  product := fun _ depth => (reads depth).leads
  factor := fun _ => reads
  term := nofun

/-- What reads as a term at every depth is a phrase of the innermost level. -/
theorem ofTerm (opening : Opening words)
    (reads : ∀ depth, ReadsAs (Grammar.factor (expressionWithin depth)) (depth + 1) Ends words meant)
    (term : ∀ depth, ReadsAs (Grammar.term (expressionWithin depth)) (depth + 1) (fun _ => True) words
      meant) : Phrase Fragment.atomLevel words meant where
  starts := opening.starts
  function := nofun
  notFunction := fun _ => opening.notFunction
  expression := LeadsAs.expression (fun depth => (reads depth).leads.reads.leads) opening.notFunction
  sum := fun _ depth => (reads depth).leads.reads.leads
  product := fun _ depth => (reads depth).leads
  factor := fun _ => reads
  term := fun _ => term

/-- A term that no callee starts with is a factor. -/
theorem factor_of_term
    (reads : ∀ depth, ReadsAs (Grammar.term (expressionWithin depth)) (depth + 1) (fun _ => True) words
      meant)
    (notSign : ∀ word others, words = word :: others → isSign word.kind = false)
    (notCallee : ∀ depth (tokens rest : List Token), tokens.map Token.word = words → Ends rest →
      (callee (expressionWithin depth)).Refuses (tokens ++ rest))
    (solid : words ≠ []) (depth : Nat) :
    ReadsAs (Grammar.factor (expressionWithin depth)) (depth + 1) Ends words meant := by
  intro tokens rest same short ends
  obtain ⟨value, bare, yields⟩ := reads depth tokens rest same short trivial
  refine ⟨value, bare, Grammar.factor_term (fun kind here => ?_) (notCallee depth tokens rest same ends)
    yields⟩
  cases tokens with
  | nil => exact absurd same.symm solid
  | cons token tokens =>
      obtain rfl : token.kind = kind := Option.some.inj here
      exact notSign token.word _ same.symm

end Phrase

end Reckon.Grammar
