/-
This file shows that the whole grammar reads the tree of every outline. It comes to it through a sum or
through a function, where the outline grammar tries an application first.
-/

import Reckon.Proofs.Expression.Phrase
import Reckon.Proofs.Outline.Acceptance

namespace Reckon

open Reckon.Parser Reckon.Grammar

/-- These are the tokens without their handles. -/
abbrev tokensOf (items : List Significant) : List Token := items.map Significant.token

/-- Significant tokens are read as a tree by the rules of a symbol. An expression is read as a function
or as a sum, and only as one of them. -/
def ReadsTree (items : List Significant) (value : Expression) : Symbol → Prop
  | .function => ∀ (depth : Nat) (rest : List Significant), Closing rest →
      (items ++ rest).length ≤ depth + 1 →
        (function (expressionWithin depth)).Yields (tokensOf (items ++ rest)) value [] (tokensOf rest)
  | .callee => ∀ (depth : Nat) (rest : List Significant), (items ++ rest).length ≤ depth + 1 →
      (callee (expressionWithin depth)).Yields (tokensOf (items ++ rest)) value [] (tokensOf rest)
  | .expression => ∀ (depth : Nat) (rest : List Significant), Closing rest →
      (items ++ rest).length ≤ depth + 1 →
        (function (expressionWithin depth)).Yields (tokensOf (items ++ rest)) value []
            (tokensOf rest) ∨
          (function (expressionWithin depth)).Refuses (tokensOf (items ++ rest)) ∧
            (sum (expressionWithin depth)).Yields (tokensOf (items ++ rest)) value [] (tokensOf rest)
  | _ => True

namespace ReadsTree

variable {items rest : List Significant} {value : Expression}

/-- The items of an outlined expression are parsed as the tree that they read as. -/
theorem expression (reads : ReadsTree items value .expression) (depth : Nat) (closing : Closing rest)
    (short : (items ++ rest).length ≤ depth) :
    (expressionWithin depth).Yields (tokensOf (items ++ rest)) value [] (tokensOf rest) := by
  cases depth with
  | zero =>
      obtain ⟨token, others, split, _⟩ := closing
      obtain ⟨item, items', rfl, _⟩ := List.map_eq_cons_iff.1 split
      simp at short
  | succ depth =>
      rcases reads depth rest closing short with function | ⟨notFunction, sum⟩
      · exact expression_function function
      · exact expression_sum notFunction sum

/-- A factor before a token that ends an expression is read as a sum. -/
theorem of_factor (derives : Symbol.Derives .sum (items.map Significant.kind))
    (factor : ∀ (depth : Nat) (rest : List Significant), Closing rest →
      (items ++ rest).length ≤ depth + 1 → (Grammar.factor (expressionWithin depth)).Yields
        (tokensOf (items ++ rest)) value [] (tokensOf rest)) :
    ReadsTree items value .expression := by
  intro depth rest closing short
  right
  have flow : Symbol.Flow ((tokensOf items).map Token.kind) := by
    rw [List.map_map]
    exact derives.flow (.inr rfl)
  have notFunction : (function (expressionWithin depth)).Refuses _ :=
    refuses_function_flow flow closing
  rw [← List.map_append] at notFunction
  have product := yields_product (factor depth rest closing short) (.done closing.endsProduct.refuses)
  exact ⟨notFunction, yields_sum product (.done closing.refuses)⟩

end ReadsTree

/-- No argument starts with a token that ends an expression. -/
theorem refuses_argument_closing (depth : Nat) {rest : List Significant} (closing : Closing rest)
    (short : rest.length ≤ depth) : (argument (expressionWithin depth)).Refuses (tokensOf rest) := by
  have follows : Symbol.Follows (([] : List Token).map Token.kind) := .nothing
  exact (complete_expressionWithin depth 0).refuses_argument follows closing (by simpa using short)

namespace Outlined

variable {symbol : Symbol} {items rest : List Significant} {value : Expression} {nodes : List Node}

theorem head_sign (outlined : Outlined symbol items value nodes) (rest : List Significant) (kind : Kind)
    (here : headKind (tokensOf (items ++ rest)) = some kind) : isSign kind = false := by
  obtain ⟨first, others, rfl, starts⟩ := outlined.head
  obtain rfl : first.kind = kind := Option.some.inj here
  rcases starts with same | same <;> rw [same] <;> rfl

/-- An outlined expression does not start with a closing parenthesis. -/
theorem head_not_closing (outlined : Outlined symbol items value nodes) :
    headKind (tokensOf (items ++ rest)) ≠ some .rightParen := by
  obtain ⟨first, others, rfl, starts⟩ := outlined.head
  intro here
  have same : first.kind = .rightParen := Option.some.inj here
  rw [same] at starts
  rcases starts with same | same <;> cases same

/-- The tree of an outline is what the whole grammar reads. -/
theorem reads (outlined : Outlined symbol items value nodes) : ReadsTree items value symbol := by
  induction outlined with
  | function isName isColon _ ih =>
      intro depth rest closing short
      have inner := ih.expression depth closing (by simp at short ⊢; omega)
      exact yields_function isName isColon inner
  | callee_name isName =>
      intro depth rest _
      exact yields_callee_ident isName _
  | @callee_function _ last _ _ _ isLeft isRight _ ih =>
      intro depth rest short
      have inner := ih depth (last :: rest) (closing_paren isRight rest) (by simp at short ⊢; omega)
      rw [List.cons_append, List.append_assoc]
      exact yields_callee_function isLeft isRight inner
  | expression_function _ ih =>
      intro depth rest closing short
      exact .inl (ih depth rest closing short)
  | @expression_name name isName =>
      have outlined := Outlined.expression_name isName
      refine .of_factor (derives_name isName) fun depth rest closing short => ?_
      have none := refuses_argument_closing depth closing (by simpa using short)
      exact factor_application (outlined.head_sign rest)
        (yields_application_alone (yields_callee_ident isName _) none)
  | @expression_paren opening last _ _ _ isLeft isRight inside ih =>
      have outlined := Outlined.expression_paren isLeft isRight inside
      have sum := derives_paren isLeft isRight inside.derives
      refine .of_factor sum fun depth rest closing short => ?_
      have notSign := outlined.head_sign rest
      rw [List.cons_append, List.append_assoc, List.singleton_append] at short notSign ⊢
      have enough : rest.length ≤ depth := by simp at short; omega
      -- Parentheses around a function can be applied, so nothing may stand behind them.
      rcases ih depth (last :: rest) (closing_paren isRight rest) (by simp at short ⊢; omega) with
        function | ⟨notFunction, _⟩
      · exact factor_application notSign (yields_application_alone
          (yields_callee_function isLeft isRight function) (refuses_argument_closing depth closing enough))
      · have inner := ih.expression depth (closing_paren isRight rest)
          (by simp at short ⊢; omega)
        exact factor_term notSign (refuses_callee_inside isLeft notFunction)
          (term_paren isLeft isRight inside.head_not_closing inner)
  | @expression_application word arg _ _ _ _ first second handle ih ih' =>
      have outlined := Outlined.expression_application first second handle
      have sum := derives_application first.derives second.derives second.unsigned
      refine .of_factor sum fun depth rest closing short => ?_
      have notSign := outlined.head_sign rest
      have positive := first.length_pos
      rw [List.append_assoc] at short notSign ⊢
      have callee := ih depth (arg ++ rest) short
      rw [List.length_append] at short
      have inner := ih'.expression depth closing (by omega)
      exact factor_application notSign
        (yields_application callee (yields_argument (second.head_sign rest) inner))

end Outlined

end Reckon
