/-
This file shows that the outline grammar accepts every outline before a token that ends it, and that a
sentence of names, colons, equal signs and parentheses has an outline.
-/

import Reckon.Proofs.Outline.Shape

namespace Reckon

open Reckon.Parser

/-- The first significant token ends an expression. -/
abbrev Closing (items : List Significant) : Prop := Grammar.Closed (items.map Significant.token)

/-- A closing parenthesis closes. -/
theorem closing_paren {closing : Significant} (isRight : closing.kind = .rightParen)
    (rest : List Significant) : Closing (closing :: rest) := by
  refine ⟨closing.token, rest.map Significant.token, rfl, ?_⟩
  have same : closing.token.kind = .rightParen := isRight
  rw [same]
  rfl

/-- A token that ends an expression has none of the other kinds. -/
theorem Grammar.Closed.otherHead {items : List Significant} (closing : Closing items) {kind : Kind}
    (opens : Grammar.closes kind = false) : OtherHead kind items := by
  obtain ⟨token, rest, split, closes⟩ := closing
  obtain ⟨item, items, rfl, rfl, rfl⟩ := List.map_eq_cons_iff.1 split
  rintro _ ⟨⟩ same
  have ends : Grammar.closes item.kind = true := closes
  rw [same, opens] at ends
  cases ends

/-- A token of one kind is none of another kind. -/
theorem otherHead_cons {item : Significant} {items : List Significant} {kind other : Kind}
    (same : item.kind = kind) (differs : kind ≠ other) : OtherHead other (item :: items) := by
  rintro _ ⟨⟩
  rwa [same]

/-- A sum is no function, and no assignment. -/
theorem Symbol.Derives.otherHeads {items rest : List Significant}
    (derives : Symbol.Derives .sum (items.map Significant.kind)) (closing : Closing rest) :
    OtherHead .identifier (items ++ rest) ∨ ∃ name others, items ++ rest = name :: others ∧
      name.kind = .identifier ∧ OtherHead .colon others ∧ OtherHead .equal others := by
  have kinds : items.map Significant.kind = (items.map Significant.token).map Token.kind := by
    rw [List.map_map]
    rfl
  rw [kinds] at derives
  rcases Grammar.flow_head (derives.flow (.inr rfl)) closing with
    notName | ⟨name, found, others, split, isName, notColon, notEqual⟩
  · left
    rw [← List.map_append] at notName
    intro item here same
    obtain ⟨others, split⟩ := List.head?_eq_some_iff.1 here
    rw [split] at notName
    exact notName (congrArg some same)
  · right
    rw [← List.map_append] at split
    obtain ⟨item, items', split', rfl, later⟩ := List.map_eq_cons_iff.1 split
    obtain ⟨item', items'', rfl, rfl, rfl⟩ := List.map_eq_cons_iff.1 later
    refine ⟨item, item' :: items'', split', isName, ?_, ?_⟩
    · rintro _ ⟨⟩
      exact notColon
    · rintro _ ⟨⟩
      exact notEqual

namespace Outline

/-- A name that is called is one node. -/
theorem emits_callee_name {expr : Parser Unit} {name : Significant} (isName : name.kind = .identifier)
    (rest : List Significant) : (callee expr).Emits (name :: rest) [name.node .nameUse] rest :=
  (declines_atom_head (otherHead_cons isName (by decide))).choice
    ((advances_plain isName (by decide) .nameUse).emits.choice _)

/-- An expression parser is complete up to a size when it emits every smaller outline before a token
that ends it, and declines what starts no outline. -/
structure Complete (expr : Parser Unit) (bound size : Nat) : Prop where
  emits : ∀ (items rest : List Significant) (value : Expression) (nodes : List Node),
    items.length < size → Outlined .expression items value nodes → Closing rest →
      (items ++ rest).length ≤ bound → ∃ nodes', expr.Emits (items ++ rest) nodes' rest
  declines : ∀ items : List Significant, items.length ≤ bound → OtherHead .identifier items →
    OtherHead .leftParen items → expr.Declines items

namespace Complete

variable {expr : Parser Unit} {bound size : Nat} {items rest : List Significant}
  {value : Expression} {nodes : List Node}

theorem closed (complete : Complete expr bound size) (closing : Closing rest)
    (short : rest.length ≤ bound) : expr.Declines rest :=
  complete.declines rest short (closing.otherHead rfl) (closing.otherHead rfl)

/-- An outlined function is emitted when its body is. -/
theorem function (complete : Complete expr bound size)
    (outlined : Outlined .function items value nodes) (small : items.length ≤ size)
    (closing : Closing rest) (short : (items ++ rest).length ≤ bound + 1) :
    ∃ nodes', (function expr).Emits (items ++ rest) nodes' rest := by
  cases outlined with
  | function isName isColon body =>
      simp only [List.length_cons, List.cons_append] at small short
      obtain ⟨nodes', emits⟩ := complete.emits _ rest _ _ (by omega) body closing (by omega)
      exact ⟨_, emits_function isName isColon emits⟩

/-- A name or an outlined function in parentheses is emitted. -/
theorem callee (complete : Complete expr bound size)
    (outlined : Outlined .callee items value nodes) (small : items.length ≤ size)
    (short : (items ++ rest).length ≤ bound + 1) :
    ∃ nodes', (callee expr).Emits (items ++ rest) nodes' rest := by
  cases outlined with
  | callee_name isName => exact ⟨_, emits_callee_name isName rest⟩
  | callee_function isLeft isRight inside =>
      simp only [List.length_cons, List.cons_append, List.length_append, List.append_assoc,
        List.length_nil, List.nil_append] at small short ⊢
      obtain ⟨nodes', emits⟩ := complete.function inside (by omega) (closing_paren isRight rest) (by
        simp only [List.length_append, List.length_cons]
        omega)
      exact ⟨_, (emits_atom isLeft isRight emits).choice _⟩

/-- Parentheses around a sum cannot be applied. -/
theorem callee_or_declines (complete : Complete expr bound size) {opening closing : Significant}
    (isLeft : opening.kind = .leftParen) (isRight : closing.kind = .rightParen)
    (outlined : Outlined .expression items value nodes) (small : items.length < size)
    (short : (items ++ closing :: rest).length ≤ bound) :
    (∃ nodes', (Outline.callee expr).Emits (opening :: (items ++ closing :: rest)) nodes' rest) ∨
      (Outline.callee expr).Declines (opening :: (items ++ closing :: rest)) := by
  have notName : (plain .identifier .nameUse).Declines (opening :: (items ++ closing :: rest)) :=
    declines_consume _ (otherHead_cons isLeft (by decide)) _
  have no (declines : (Outline.function expr).Declines (items ++ closing :: rest)) :
      (Outline.callee expr).Declines (opening :: (items ++ closing :: rest)) :=
    (declines_atom isLeft declines).choice_cons (notName.choice_cons (declines_choice_nil _))
  rcases outlined.function_or_sum with inside | derives
  · obtain ⟨nodes', emits⟩ :=
      complete.function inside (by omega) (closing_paren isRight rest) (by omega)
    exact .inl ⟨_, (emits_atom isLeft isRight emits).choice _⟩
  · rcases derives.otherHeads (closing_paren isRight rest) with
      other | ⟨name, others, split, isName, notColon, _⟩
    · exact .inr (no (declines_function_head other))
    · rw [split] at no ⊢
      exact .inr (no (declines_function_colon isName notColon))

/-- An outlined expression is emitted when the expressions inside are. -/
theorem expressionRule (complete : Complete expr bound size)
    (outlined : Outlined .expression items value nodes) (small : items.length ≤ size)
    (closing : Closing rest) (short : (items ++ rest).length ≤ bound + 1) :
    ∃ nodes', (expressionRule expr).Emits (items ++ rest) nodes' rest := by
  cases outlined with
  | expression_function outlined =>
      obtain ⟨nodes', emits⟩ := complete.function outlined small closing short
      cases outlined with
      | @function _ colon body _ _ isName isColon _ =>
          simp only [List.cons_append, List.length_cons] at short emits ⊢
          have none := complete.declines (colon :: (body ++ rest)) (Nat.le_of_succ_le_succ short)
            (otherHead_cons isColon (by decide)) (otherHead_cons isColon (by decide))
          exact ⟨_, (declines_application (emits_callee_name isName _) none).choice
            ((declines_atom_head (otherHead_cons isName (by decide))).choice (emits.choice _))⟩
  | expression_name isName =>
      simp only [List.singleton_append, List.length_cons] at short ⊢
      have none := complete.closed closing (by omega)
      exact ⟨_, (declines_application (emits_callee_name isName rest) none).choice
        ((declines_atom_head (otherHead_cons isName (by decide))).choice
          ((declines_function_colon isName (closing.otherHead rfl)).choice
            ((advances_plain isName (by decide) .nameUse).emits.choice _)))⟩
  | expression_paren isLeft isRight inside =>
      simp only [List.length_cons, List.cons_append, List.length_append, List.append_assoc,
        List.length_nil, List.nil_append] at small short ⊢
      obtain ⟨nodes', emits⟩ := complete.emits _ _ _ _ (by omega) inside
        (closing_paren isRight rest) (by simp only [List.length_append, List.length_cons]; omega)
      have whole := (emits_atom isLeft isRight emits).choice
        [Outline.function expr, plain .identifier .nameUse]
      have none := complete.closed closing (by omega)
      have applied := complete.callee_or_declines isLeft isRight inside (by omega) (by
        simp only [List.length_append, List.length_cons]
        exact Nat.le_of_succ_le_succ short)
      rcases applied with ⟨_, first⟩ | declines
      · exact ⟨_, (declines_application first none).choice whole⟩
      · exact ⟨_, (declines_application_callee declines).choice whole⟩
  | @expression_application word arg _ _ _ _ first second _ =>
      have positive := first.length_pos
      rw [List.append_assoc, List.length_append] at short
      rw [List.length_append] at small
      rw [List.append_assoc]
      have applied : ∃ nodes', (Outline.callee expr).Emits (word ++ (arg ++ rest)) nodes' (arg ++ rest) :=
        complete.callee first (by omega) (by rw [List.length_append]; omega)
      obtain ⟨_, emits⟩ := applied
      obtain ⟨_, emits'⟩ := complete.emits arg rest _ _ (by omega) second closing (by omega)
      obtain ⟨_, whole⟩ := emits_application emits emits'
      exact ⟨_, whole.choice _⟩

end Complete

/-- The outline grammar is complete up to every size. -/
theorem complete_expressionWithin (depth size : Nat) :
    Complete (expressionWithin depth) depth size := by
  have declines (depth : Nat) (items : List Significant) (short : items.length ≤ depth)
      (notName : OtherHead .identifier items) (notParen : OtherHead .leftParen items) :
      (expressionWithin depth).Declines items := by
    cases depth with
    | zero =>
        obtain rfl := List.length_eq_zero_iff.1 (Nat.le_zero.1 short)
        exact declines_nil _
    | succ depth =>
        have name := declines_consume State.push notName .nameUse
        have none : (callee (expressionWithin depth)).Declines items :=
          (declines_atom_head notParen).choice_cons (name.choice_cons (declines_choice_nil items))
        exact (declines_application_callee none).choice_cons
          ((declines_atom_head notParen).choice_cons ((declines_function_head notName).choice_cons
            (name.choice_cons (declines_choice_nil items))))
  induction size generalizing depth with
  | zero => exact ⟨fun _ _ _ _ small => absurd small (Nat.not_lt_zero _), declines depth⟩
  | succ size ih =>
      refine ⟨fun items rest value nodes small outlined closing short => ?_, declines depth⟩
      cases depth with
      | zero =>
          have positive := outlined.length_pos
          rw [List.length_append] at short
          omega
      | succ depth =>
          exact (ih depth).expressionRule outlined (Nat.lt_succ_iff.1 small) closing short

end Outline

/-- These are the kinds that the outline grammar knows. -/
def outlineKinds : List Kind := [.identifier, .colon, .equal, .leftParen, .rightParen]

/-- A sentence is plain when it has only kinds of the outline grammar, and no parenthesis that is
closed as soon as it is opened. -/
def PlainSentence (word : List Kind) : Prop :=
  (∀ kind ∈ word, kind ∈ outlineKinds) ∧ ¬[.leftParen, .rightParen] <:+: word

namespace PlainSentence

variable {word inner : List Kind}

theorem part (plain : PlainSentence word) (within : inner <:+: word) : PlainSentence inner :=
  ⟨fun kind member => plain.1 kind (within.subset member), fun found => plain.2 (found.trans within)⟩

theorem absurd {P : Prop} {kind : Kind} (plain : PlainSentence word) (member : kind ∈ word)
    (other : kind ∉ outlineKinds) : P := (other (plain.1 kind member)).elim

/-- No operator is in a plain sentence. -/
theorem no_operator {P : Prop} {operator : Kind} (plain : PlainSentence word)
    (member : operator ∈ word)
    (isOperator : Symbol.isSumOperator operator ∨ Symbol.isProductOperator operator) : P := by
  apply plain.absurd member
  rcases isOperator with (rfl | rfl) | rfl | rfl | rfl <;> decide

end PlainSentence

/-- A plain sentence has an outline. It is read from its first factor on, as the whole grammar does. -/
theorem exists_outlined {items : List Significant}
    (derives : Symbol.Derives .expression (items.map Significant.kind))
    (plain : PlainSentence (items.map Significant.kind)) :
    ∃ value nodes, Outlined .expression items value nodes := by
  induction count : items.length using Nat.strongRecOn generalizing items with
  | ind size ih =>
  subst count
  -- A function can stand for the whole sentence or in the parentheses of a callee, so it comes first.
  have function (part : List Significant) {word : List Kind} (shorter : part.length ≤ items.length)
      (kinds : part.map Significant.kind = word) (derives : Symbol.Derives .function word)
      (plain : PlainSentence word) : ∃ value nodes, Outlined .function part value nodes := by
    cases derives with
    | function derives =>
        obtain ⟨name, _, rfl, isName, later⟩ := List.map_eq_cons_iff.1 kinds
        obtain ⟨colon, body, rfl, isColon, rfl⟩ := List.map_eq_cons_iff.1 later
        simp only [List.length_cons] at shorter
        obtain ⟨value, nodes, inner⟩ := ih body.length (by omega) derives
          (plain.part ⟨[.identifier, .colon], [], by simp⟩) rfl
        exact ⟨_, _, .function isName isColon inner⟩
  generalize kinds : items.map Significant.kind = sentence at derives plain
  cases derives with
  | expression_function derives =>
      obtain ⟨value, nodes, outlined⟩ := function items (Nat.le_refl _) kinds derives plain
      exact ⟨value, nodes, .expression_function outlined⟩
  | expression_sum derives =>
  have flow := derives.flow (.inr rfl)
  clear derives
  cases flow with
  -- A plain sentence has no operator, so a flow of it is a single term or an application.
  | signed isSign _ _ => exact plain.no_operator List.mem_cons_self (.inl isSign)
  | term derives follows =>
      cases follows with
      | operation isOperator _ => exact plain.no_operator (by simp) isOperator
      | nothing =>
      rw [List.append_nil] at kinds plain
      cases derives with
      | term_number derives =>
          cases derives with
          | integer | float => exact plain.absurd List.mem_cons_self (by decide)
      | term_name =>
          obtain ⟨name, rfl, isName⟩ := List.map_eq_singleton_iff.1 kinds
          exact ⟨_, _, .expression_name isName⟩
      | term_unit derives =>
          cases derives with
          | unit => exact (plain.2 List.infix_rfl).elim
      | term_paren derives =>
          obtain ⟨opening, inside, closing, rfl, isLeft, rfl, isRight⟩ :=
            Grammar.exists_bracketed kinds
          obtain ⟨value, nodes, inner⟩ := ih inside.length
            (by simp only [List.length_cons, List.length_append]; omega) derives
            (plain.part ⟨[.leftParen], [.rightParen], rfl⟩) rfl
          exact ⟨_, _, .expression_paren isLeft isRight inner⟩
      | term_brace _ => exact plain.absurd List.mem_cons_self (by decide)
      | term_list derives =>
          cases derives with
          | list_empty | list _ => exact plain.absurd List.mem_cons_self (by decide)
  | applied derives argument _ =>
      obtain ⟨word, arg, rfl, callee, rfl⟩ := List.map_eq_append_iff.1 kinds
      have some := derives.ne_nil
      have positive : 0 < word.length := by
        rw [← callee, ← List.length_pos_iff, List.length_map] at some
        exact some
      rw [List.length_append] at function ih
      obtain ⟨value', nodes', second⟩ := ih arg.length (by omega) argument
        (plain.part ⟨_, [], List.append_nil _⟩) rfl
      cases derives with
      | callee_name =>
          obtain ⟨name, rfl, isName⟩ := List.map_eq_singleton_iff.1 callee
          exact ⟨_, _, .expression_application (.callee_name isName) second 0⟩
      | callee_function derives =>
          obtain ⟨opening, inside, closing, rfl, isLeft, rfl, isRight⟩ :=
            Grammar.exists_bracketed callee
          simp only [List.length_cons, List.length_append] at function
          obtain ⟨value, nodes, inner⟩ := function inside (by omega) rfl derives
            (plain.part ⟨[.leftParen], [.rightParen] ++ arg.map Significant.kind, by simp⟩)
          exact ⟨_, _, .expression_application (.callee_function isLeft isRight inner) second 0⟩

end Reckon
