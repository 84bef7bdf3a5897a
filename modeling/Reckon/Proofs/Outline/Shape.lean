/-
This file shows what the outline grammar consumes and emits. Its expressions are sentences of the
whole grammar, and the nodes that a failed alternative added are gone.
-/

import Reckon.Proofs.Outline.Emission
import Reckon.Proofs.Parse.Acceptance

namespace Reckon

open Reckon.Symbol in
/-- An outline covers significant tokens with the tree that they stand for and the nodes that they
emit. Parentheses come behind what is inside of them, the closing one first. -/
inductive Outlined : Symbol → List Significant → Expression → List Node → Prop
  | function {name colon : Significant} {items : List Significant} {value : Expression}
      {nodes : List Node} (isName : name.kind = .identifier) (isColon : colon.kind = .colon)
      (body : Outlined expression items value nodes) :
      Outlined function (name :: colon :: items)
        (.function (name.token.span.around value.extent) name.token.name value)
        (name.node .functionArgument :: (nodes ++ [colon.node .functionDeclaration]))
  | callee_name {name : Significant} (isName : name.kind = .identifier) :
      Outlined callee [name] (.ident name.token.span name.token.name) [name.node .nameUse]
  | callee_function {opening closing : Significant} {items : List Significant} {value : Expression}
      {nodes : List Node} (isLeft : opening.kind = .leftParen) (isRight : closing.kind = .rightParen)
      (inside : Outlined function items value nodes) :
      Outlined callee (opening :: (items ++ [closing])) value
        (nodes ++ [closing.node .atomEnd, opening.node .atomBegin])
  | expression_function {items : List Significant} {value : Expression} {nodes : List Node}
      (function : Outlined function items value nodes) : Outlined expression items value nodes
  | expression_name {name : Significant} (isName : name.kind = .identifier) :
      Outlined expression [name] (.ident name.token.span name.token.name) [name.node .nameUse]
  | expression_paren {opening closing : Significant} {items : List Significant} {value : Expression}
      {nodes : List Node} (isLeft : opening.kind = .leftParen) (isRight : closing.kind = .rightParen)
      (inside : Outlined expression items value nodes) :
      Outlined expression (opening :: (items ++ [closing])) value
        (nodes ++ [closing.node .atomEnd, opening.node .atomBegin])
  | expression_application {items items' : List Significant} {value arg : Expression}
      {nodes nodes' : List Node} (first : Outlined callee items value nodes)
      (second : Outlined expression items' arg nodes') (handle : Int) :
      Outlined expression (items ++ items') (.apply (value.extent.around arg.extent) value arg)
        (nodes ++ nodes' ++ [⟨.application, handle⟩])

namespace Outlined

open Reckon.Symbol

variable {symbol : Symbol} {items : List Significant} {value : Expression} {nodes : List Node}

/-- What is outlined starts with a name or a parenthesis. -/
theorem head (outlined : Outlined symbol items value nodes) : ∃ first others,
    items = first :: others ∧ (first.kind = .identifier ∨ first.kind = .leftParen) := by
  induction outlined with
  | function isName _ _ | callee_name isName | expression_name isName =>
      exact ⟨_, _, rfl, .inl isName⟩
  | callee_function isLeft _ _ _ | expression_paren isLeft _ _ _ => exact ⟨_, _, rfl, .inr isLeft⟩
  | expression_function _ ih => exact ih
  | expression_application _ _ _ ih _ =>
      obtain ⟨first, others, rfl, starts⟩ := ih
      exact ⟨first, _, rfl, starts⟩

theorem length_pos (outlined : Outlined symbol items value nodes) : 0 < items.length := by
  obtain ⟨first, others, rfl, _⟩ := outlined.head
  exact Nat.succ_pos _

/-- What is outlined starts with no sign. -/
theorem unsigned (outlined : Outlined symbol items value nodes) :
    Unsigned (items.map Significant.kind) := by
  obtain ⟨first, others, rfl, starts⟩ := outlined.head
  rintro _ ⟨⟩ (same | same)
  all_goals
    rw [same] at starts
    rcases starts with same | same <;> cases same

/-- A name is a sum. -/
theorem derives_name {name : Significant} (isName : name.kind = .identifier) :
    Derives .sum ([name].map Significant.kind) := by
  rw [List.map_singleton, isName]
  exact .sum_one (.product_one (.factor_term .term_name))

/-- An expression between parentheses is a sum. -/
theorem derives_paren {opening closing : Significant} (isLeft : opening.kind = .leftParen)
    (isRight : closing.kind = .rightParen)
    (inside : Derives .expression (items.map Significant.kind)) :
    Derives .sum ((opening :: (items ++ [closing])).map Significant.kind) := by
  rw [List.map_cons, List.map_append, List.map_singleton, isLeft, isRight]
  exact .sum_one (.product_one (.factor_term (.term_paren inside)))

/-- A callee with an argument that has no sign is a sum. -/
theorem derives_application {items' : List Significant}
    (callee : Derives .callee (items.map Significant.kind))
    (arg : Derives .expression (items'.map Significant.kind))
    (unsigned : Unsigned (items'.map Significant.kind)) :
    Derives .sum ((items ++ items').map Significant.kind) := by
  rw [List.map_append]
  exact .sum_one (.product_one (.factor_application (.application callee arg unsigned)))

/-- An outline is a sentence of the whole grammar. -/
theorem derives (outlined : Outlined symbol items value nodes) :
    Derives symbol (items.map Significant.kind) := by
  induction outlined with
  | function isName isColon _ ih =>
      rw [List.map_cons, List.map_cons, isName, isColon]
      exact .function ih
  | callee_name isName =>
      rw [List.map_singleton, isName]
      exact .callee_name
  | callee_function isLeft isRight _ ih =>
      rw [List.map_cons, List.map_append, List.map_singleton, isLeft, isRight]
      exact .callee_function ih
  | expression_function _ ih => exact .expression_function ih
  | expression_name isName => exact .expression_sum (derives_name isName)
  | expression_paren isLeft isRight _ ih => exact .expression_sum (derives_paren isLeft isRight ih)
  | expression_application _ second _ ih ih' =>
      exact .expression_sum (derives_application ih ih' second.unsigned)

/-- An outlined expression that is no function is a sum. -/
theorem function_or_sum (outlined : Outlined .expression items value nodes) :
    Outlined .function items value nodes ∨ Derives .sum (items.map Significant.kind) := by
  cases outlined with
  | expression_function function => exact .inl function
  | expression_name isName => exact .inr (derives_name isName)
  | expression_paren isLeft isRight inside =>
      exact .inr (derives_paren isLeft isRight inside.derives)
  | expression_application first second _ =>
      exact .inr (derives_application first.derives second.derives second.unsigned)

end Outlined

namespace Outline

open Reckon.Parser

/-- A parser settles on every list of significant tokens up to a length: it declines them, or it emits
the nodes of a shape on the first of them. -/
def Settles (parser : Parser Unit) (bound : Nat) (shape : List Significant → List Node → Prop) :
    Prop :=
  ∀ items : List Significant, items.length ≤ bound → parser.Declines items ∨
    ∃ consumed rest nodes, items = consumed ++ rest ∧ shape consumed nodes ∧
      parser.Emits items nodes rest

/-- The nodes are those of an outline. -/
def Shaped (symbol : Symbol) (items : List Significant) (nodes : List Node) : Prop :=
  ∃ value, Outlined symbol items value nodes

theorem Settles.imp {parser : Parser Unit} {bound : Nat}
    {shape shape' : List Significant → List Node → Prop} (settles : Settles parser bound shape)
    (implies : ∀ consumed nodes, shape consumed nodes → shape' consumed nodes) :
    Settles parser bound shape' := by
  intro items short
  rcases settles items short with declines | ⟨consumed, rest, nodes, split, shaped, emits⟩
  · exact .inl declines
  · exact .inr ⟨consumed, rest, nodes, split, implies consumed nodes shaped, emits⟩

/-- A choice settles on a shape when all alternatives do. -/
theorem settles_choice {parsers : List (Parser Unit)} {bound : Nat}
    {shape : List Significant → List Node → Prop}
    (all : ∀ parser ∈ parsers, Settles parser bound shape) :
    Settles (choice parsers) bound shape := by
  intro items short
  induction parsers with
  | nil => exact .inl (declines_choice_nil items)
  | cons parser parsers ih =>
      have later := ih fun other member => all other (List.mem_cons_of_mem _ member)
      rcases all parser List.mem_cons_self items short with
        declines | ⟨consumed, rest, nodes, split, shaped, emits⟩
      · rcases later with others | ⟨consumed, rest, nodes, split, shaped, emits⟩
        · exact .inl (declines.choice_cons others)
        · exact .inr ⟨consumed, rest, nodes, split, shaped, declines.choice emits⟩
      · exact .inr ⟨consumed, rest, nodes, split, shaped, emits.choice parsers⟩

/-- A name is a callee and an expression. -/
theorem settles_name (bound : Nat) {symbol : Symbol}
    (shaped : ∀ name : Significant, name.kind = .identifier →
      Shaped symbol [name] [name.node .nameUse]) :
    Settles (plain .identifier .nameUse) bound (Shaped symbol) := by
  intro items _
  rcases head_or_other .identifier items with ⟨name, rest, rfl, isName⟩ | other
  · exact .inr ⟨[name], rest, [name.node .nameUse], rfl, shaped name isName,
      (advances_plain isName (by decide) .nameUse).emits⟩
  · exact .inl (declines_consume _ other _)

variable {expr inner : Parser Unit} {bound : Nat}

/-- What is in parentheses is emitted before both of them. -/
theorem emits_atom {opening closing : Significant} {inside rest : List Significant}
    {nodes : List Node} (isLeft : opening.kind = .leftParen) (isRight : closing.kind = .rightParen)
    (emits : inner.Emits (inside ++ closing :: rest) nodes (closing :: rest)) :
    (atom inner).Emits (opening :: (inside ++ closing :: rest))
      (nodes ++ [closing.node .atomEnd, opening.node .atomBegin]) rest := by
  have closed : nodes ++ [closing.node .atomEnd, opening.node .atomBegin] =
      [] ++ nodes ++ [closing.node .atomEnd] ++ [opening.node .atomBegin] := by simp
  rw [closed]
  apply emits_sequence
  refine (advances_deferred isLeft (by decide) _).inOrder (emits.advances.inOrder
    ((advances_deferred isRight (by decide) _).inOrder ?_))
  exact (advances_pop _).inOrder ((advances_pop _).inOrder advances_nil)

theorem declines_atom_head {items : List Significant} (other : OtherHead .leftParen items) :
    (atom inner).Declines items :=
  declines_sequence ((declines_consume _ other _).stops.inOrder _)

/-- An atom declines a parenthesis when what is inside declines. -/
theorem declines_atom {opening : Significant} {items : List Significant}
    (isLeft : opening.kind = .leftParen) (declines : inner.Declines items) :
    (atom inner).Declines (opening :: items) :=
  declines_sequence (stops_inOrder (fun _ _ => ⟨_, _, advances_deferred isLeft (by decide) _⟩)
    (declines.stops.inOrder _))

/-- An atom settles on parentheses around the shape inside. -/
theorem settles_atom {shape : List Significant → List Node → Prop}
    (settles : Settles inner bound shape) :
    Settles (atom inner) (bound + 1) fun consumed nodes => ∃ opening inside closing nodes',
      consumed = opening :: (inside ++ [closing]) ∧ opening.kind = .leftParen ∧
        closing.kind = .rightParen ∧ shape inside nodes' ∧
          nodes = nodes' ++ [closing.node .atomEnd, opening.node .atomBegin] := by
  intro items short
  rcases head_or_other .leftParen items with ⟨opening, items, rfl, isLeft⟩ | other
  · rcases settles items (by simpa using short) with
      declines | ⟨inside, rest, nodes, rfl, shaped, emits⟩
    · exact .inl (declines_atom isLeft declines)
    · rcases head_or_other .rightParen rest with ⟨closing, rest, rfl, isRight⟩ | other
      · exact .inr ⟨opening :: (inside ++ [closing]), rest, _, by simp,
          ⟨opening, inside, closing, nodes, rfl, isLeft, isRight, shaped, rfl⟩,
          emits_atom isLeft isRight emits⟩
      · left
        exact declines_sequence (stops_inOrder
          (fun _ _ => ⟨_, _, advances_deferred isLeft (by decide) _⟩)
          (stops_inOrder (fun _ _ => ⟨_, _, emits.advances⟩) ((declines_consume _ other _).stops.inOrder _)))
  · exact .inl (declines_atom_head other)

/-- The colon of a function is emitted behind the body. -/
theorem emits_function {name colon : Significant} {items rest : List Significant} {nodes : List Node}
    (isName : name.kind = .identifier) (isColon : colon.kind = .colon)
    (emits : expr.Emits items nodes rest) :
    (function expr).Emits (name :: colon :: items)
      (name.node .functionArgument :: (nodes ++ [colon.node .functionDeclaration])) rest := by
  have joined : name.node .functionArgument :: (nodes ++ [colon.node .functionDeclaration]) =
      [] ++ [name.node .functionArgument] ++ nodes ++ [colon.node .functionDeclaration] := by simp
  rw [joined]
  apply emits_sequence
  refine (advances_plain isName (by decide) _).inOrder
    ((advances_deferred isColon (by decide) _).inOrder (emits.advances.inOrder ?_))
  exact (advances_pop _).inOrder advances_nil

theorem declines_function_head {items : List Significant} (other : OtherHead .identifier items) :
    (function expr).Declines items :=
  declines_sequence ((declines_consume _ other _).stops.inOrder _)

/-- A function declines a name without a colon behind it. -/
theorem declines_function_colon {name : Significant} {items : List Significant}
    (isName : name.kind = .identifier) (other : OtherHead .colon items) :
    (function expr).Declines (name :: items) :=
  declines_sequence (stops_inOrder (fun _ _ => ⟨_, _, advances_plain isName (by decide) _⟩)
    ((declines_consume _ other _).stops.inOrder _))

/-- A function settles on a parameter, a colon and the shape of its body. -/
theorem settles_function (settles : Settles expr bound (Shaped .expression)) :
    Settles (function expr) (bound + 2) (Shaped .function) := by
  intro items short
  rcases head_or_other .identifier items with ⟨name, items, rfl, isName⟩ | other
  · rcases head_or_other .colon items with ⟨colon, items, rfl, isColon⟩ | other
    · rcases settles items (by simpa using short) with
        declines | ⟨body, rest, nodes, rfl, ⟨value, outlined⟩, emits⟩
      · left
        exact declines_sequence (stops_inOrder
          (fun _ _ => ⟨_, _, advances_plain isName (by decide) _⟩)
          (stops_inOrder (fun _ _ => ⟨_, _, advances_deferred isColon (by decide) _⟩)
            (declines.stops.inOrder _)))
      · exact .inr ⟨name :: colon :: body, rest, _, rfl, ⟨_, .function isName isColon outlined⟩,
          emits_function isName isColon emits⟩
    · exact .inl (declines_function_colon isName other)
  · exact .inl (declines_function_head other)

/-- This is what can be applied. -/
def callee (expr : Parser Unit) : Parser Unit :=
  choice [atom (function expr), plain .identifier .nameUse]

/-- A callee settles on a name or a function in parentheses. -/
theorem settles_callee (settles : Settles expr bound (Shaped .expression)) :
    Settles (callee expr) (bound + 1) (Shaped .callee) := by
  apply settles_choice
  intro parser member
  simp only [List.mem_cons, List.not_mem_nil, or_false] at member
  rcases member with rfl | rfl
  · refine Settles.imp (fun items short => settles_atom (settles_function settles) items (by omega)) ?_
    rintro consumed nodes ⟨opening, inside, closing, nodes', rfl, isLeft, isRight, ⟨value, inner⟩, rfl⟩
    exact ⟨value, .callee_function isLeft isRight inner⟩
  · exact settles_name _ fun name isName => ⟨_, .callee_name isName⟩

/-- The mark of an application takes the handle of the token behind it. -/
theorem emits_application {items between rest : List Significant} {nodes nodes' : List Node}
    (first : (callee expr).Emits items nodes between) (second : expr.Emits between nodes' rest) :
    ∃ handle, (application expr).Emits items (nodes ++ nodes' ++ [⟨.application, handle⟩]) rest := by
  cases rest with
  | nil =>
      refine ⟨0, ?_⟩
      exact emits_sequence (first.advances.inOrder (second.advances.inOrder
        ((advances_never (mark .application)).inOrder advances_nil)))
  | cons item rest =>
      refine ⟨item.handle, ?_⟩
      exact emits_sequence (first.advances.inOrder (second.advances.inOrder
        ((advances_mark .application).inOrder advances_nil)))

theorem declines_application_callee {items : List Significant} (declines : (callee expr).Declines items) :
    (application expr).Declines items := declines_sequence (declines.stops.inOrder _)

/-- An application declines a callee without an argument. -/
theorem declines_application {items between : List Significant} {nodes : List Node}
    (first : (callee expr).Emits items nodes between) (declines : expr.Declines between) :
    (application expr).Declines items :=
  declines_sequence (stops_inOrder (fun _ _ => ⟨_, _, first.advances⟩) (declines.stops.inOrder _))

/-- An application settles on the shapes of its callee and its argument. -/
theorem settles_application (settles : Settles expr bound (Shaped .expression)) :
    Settles (application expr) (bound + 1) (Shaped .expression) := by
  intro items short
  rcases settles_callee settles items short with
    declines | ⟨consumed, between, nodes, rfl, ⟨value, first⟩, emits⟩
  · exact .inl (declines_application_callee declines)
  · have positive := first.length_pos
    rw [List.length_append] at short
    rcases settles between (by omega) with
      declines | ⟨consumed', rest, nodes', rfl, ⟨value', second⟩, emits'⟩
    · exact .inl (declines_application emits declines)
    · obtain ⟨handle, whole⟩ := emits_application emits emits'
      exact .inr ⟨consumed ++ consumed', rest, _, by simp,
        ⟨_, .expression_application first second handle⟩, whole⟩

/-- The outlined rule of expressions settles when the expressions inside do. -/
theorem settles_expressionRule (settles : Settles expr bound (Shaped .expression)) :
    Settles (expressionRule expr) (bound + 1) (Shaped .expression) := by
  apply settles_choice
  intro parser member
  simp only [List.mem_cons, List.not_mem_nil, or_false] at member
  rcases member with rfl | rfl | rfl | rfl
  · exact settles_application settles
  · refine (settles_atom settles).imp ?_
    rintro consumed nodes ⟨opening, inside, closing, nodes', rfl, isLeft, isRight, ⟨value, inner⟩, rfl⟩
    exact ⟨value, .expression_paren isLeft isRight inner⟩
  · refine Settles.imp (fun items short => settles_function settles items (by omega)) ?_
    rintro consumed nodes ⟨value, outlined⟩
    exact ⟨value, .expression_function outlined⟩
  · exact settles_name _ fun name isName => ⟨_, .expression_name isName⟩

/-- What the outline grammar consumes has an outline. -/
theorem settles_expressionWithin (depth : Nat) :
    Settles (expressionWithin depth) depth (Shaped .expression) := by
  induction depth with
  | zero =>
      intro items short
      obtain rfl := List.length_eq_zero_iff.1 (Nat.le_zero.1 short)
      exact .inl (declines_nil _)
  | succ depth ih => exact settles_expressionRule ih

end Outline

end Reckon
