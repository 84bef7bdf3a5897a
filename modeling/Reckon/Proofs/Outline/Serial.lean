/-
This file writes trees as nodes, with the parts of a construct before the construct itself. An outline
has the nodes of its tree, and the brackets between them.
-/

import Reckon.Proofs.Outline.Tree

namespace Reckon

/-- This is the kind of the tokens that play a role. -/
def Role.kind? : Role → Option Kind
  | functionDeclaration => some .colon
  | functionArgument | assignmentTarget | nameUse => some .identifier
  | assignment => some .equal
  | atomBegin => some .leftParen
  | atomEnd => some .rightParen
  | token | application | other _ => none

def Role.isBracket (role : Role) : Bool := role == .atomBegin || role == .atomEnd

/-- A tree is written as nodes, with the tokens that they stand for in the order of the text. The node
of an application stands for no token. -/
inductive Expression.Serial : Expression → List Significant → List Node → Prop
  | ident {name : Significant} (isName : name.kind = .identifier) :
      Serial (.ident name.token.span name.token.name) [name] [name.node .nameUse]
  | function {span : Span} {name colon : Significant} {items : List Significant} {body : Expression}
      {nodes : List Node} (isName : name.kind = .identifier) (isColon : colon.kind = .colon)
      (inner : Serial body items nodes) :
      Serial (.function span name.token.name body) (name :: colon :: items)
        (name.node .functionArgument :: (nodes ++ [colon.node .functionDeclaration]))
  | apply {span : Span} {items items' : List Significant} {callee arg : Expression}
      {nodes nodes' : List Node} (first : Serial callee items nodes)
      (second : Serial arg items' nodes') (handle : Int) :
      Serial (.apply span callee arg) (items ++ items') (nodes ++ nodes' ++ [⟨.application, handle⟩])

/-- An assignment is written from its equal sign to its target. -/
inductive Statement.Serial : Statement → List Significant → List Node → Prop
  | assign {span : Span} {name equal : Significant} {items : List Significant} {value : Expression}
      {nodes : List Node} (isName : name.kind = .identifier) (isEqual : equal.kind = .equal)
      (inner : value.Serial items nodes) :
      Serial (.assign span name.token.name value) (name :: equal :: items)
        (equal.node .assignment :: (nodes ++ [name.node .assignmentTarget]))
  | define {span : Span} {name equal param colon : Significant} {items : List Significant}
      {body : Expression} {nodes : List Node} (isName : name.kind = .identifier)
      (isEqual : equal.kind = .equal) (isParam : param.kind = .identifier)
      (isColon : colon.kind = .colon) (inner : body.Serial items nodes) :
      Serial (.define span name.token.name param.token.name body)
        (name :: equal :: param :: colon :: items)
        (equal.node .assignment :: param.node .functionArgument ::
          (nodes ++ [colon.node .functionDeclaration, name.node .assignmentTarget]))
  | expression {items : List Significant} {value : Expression} {nodes : List Node}
      (inner : value.Serial items nodes) : Serial (.expression value) items nodes

/-- These are the tokens that are no parentheses. -/
def unbracketed (items : List Significant) : List Significant :=
  items.filter fun item => item.kind != .leftParen && item.kind != .rightParen

/-- These are the nodes of no parentheses. -/
def bracketFree (nodes : List Node) : List Node := nodes.filter fun node => !node.role.isBracket

/-- A token plays a role in a node when the node has its handle, and the role is one for its kind. -/
structure Significant.Plays (item : Significant) (node : Node) : Prop where
  handle : node.handle = item.handle
  kind : node.role.kind? = some item.kind

/-- Each token plays a role in one node. Only the nodes of applications are left. -/
def EachPlays (items : List Significant) (nodes : List Node) : Prop :=
  ∃ order, order.Perm items ∧
    List.Forall₂ Significant.Plays order (nodes.filter fun node => node.role != .application)

/-- A statement has an outline when it is an expression with one, or assigns one. -/
inductive OutlinedStatement : List Significant → Statement → List Node → Prop
  | assignment {name equal : Significant} {items : List Significant} {value : Expression}
      {nodes : List Node} (isName : name.kind = .identifier) (isEqual : equal.kind = .equal)
      (outlined : Outlined .expression items value nodes) :
      OutlinedStatement (name :: equal :: items) (Grammar.assigned name.token value)
        (equal.node .assignment :: (nodes ++ [name.node .assignmentTarget]))
  | expression {items : List Significant} {value : Expression} {nodes : List Node}
      (outlined : Outlined .expression items value nodes) :
      OutlinedStatement items (.expression value) nodes

section Parts

variable {items items' : List Significant} {item : Significant} {nodes nodes' : List Node} {role : Role}

theorem unbracketed_append : unbracketed (items ++ items') = unbracketed items ++ unbracketed items' :=
  List.filter_append _ _

/-- A token that is no parenthesis stays. -/
theorem unbracketed_cons {kind : Kind} (same : item.kind = kind) (notLeft : kind ≠ .leftParen)
    (notRight : kind ≠ .rightParen) : unbracketed (item :: items) = item :: unbracketed items := by
  apply List.filter_cons_of_pos
  rw [same, bne_iff_ne.2 notLeft, bne_iff_ne.2 notRight]
  rfl

theorem bracketFree_append : bracketFree (nodes ++ nodes') = bracketFree nodes ++ bracketFree nodes' :=
  List.filter_append _ _

theorem bracketFree_cons (plain : role.isBracket = false) :
    bracketFree (item.node role :: nodes) = item.node role :: bracketFree nodes :=
  List.filter_cons_of_pos (by rw [Significant.node, plain]; rfl)

/-- Parentheses around tokens leave nothing more. -/
theorem unbracketed_around {opening closing : Significant} (isLeft : opening.kind = .leftParen)
    (isRight : closing.kind = .rightParen) :
    unbracketed (opening :: (items ++ [closing])) = unbracketed items := by
  simp [unbracketed, isLeft, isRight]

theorem bracketFree_around (opening closing : Significant) :
    bracketFree (nodes ++ [closing.node .atomEnd, opening.node .atomBegin]) = bracketFree nodes := by
  simp [bracketFree, Significant.node, Role.isBracket]

/-- Tokens play their nodes part by part. -/
theorem EachPlays.append (first : EachPlays items nodes) (second : EachPlays items' nodes') :
    EachPlays (items ++ items') (nodes ++ nodes') := by
  obtain ⟨order, same, plays⟩ := first
  obtain ⟨order', same', plays'⟩ := second
  refine ⟨order ++ order', same.append same', ?_⟩
  rw [List.filter_append]
  exact List.rel_append plays plays'

/-- The order of the tokens does not matter to the nodes that they play. -/
theorem EachPlays.perm (plays : EachPlays items nodes) (same : items.Perm items') :
    EachPlays items' nodes := by
  obtain ⟨order, same', plays⟩ := plays
  exact ⟨order, same'.trans same, plays⟩

/-- A token plays a node of its own kind. -/
theorem eachPlays_singleton (kind : role.kind? = some item.kind) :
    EachPlays [item] [item.node role] := by
  refine ⟨[item], .refl _, ?_⟩
  have some : role ≠ .application := by
    rintro rfl
    cases kind
  rw [List.filter_cons_of_pos (by simpa [Significant.node] using some)]
  exact .cons ⟨rfl, kind⟩ .nil

theorem eachPlays_application (handle : Int) : EachPlays [] [⟨.application, handle⟩] :=
  ⟨[], .refl _, .nil⟩

/-- The nodes of two tokens can stand around those of the others. -/
theorem EachPlays.around {first last : Significant} {role role' : Role}
    (plays : EachPlays items nodes) (kind : role.kind? = some first.kind)
    (kind' : role'.kind? = some last.kind) :
    EachPlays (first :: last :: items) (first.node role :: (nodes ++ [last.node role'])) := by
  have all := (eachPlays_singleton kind).append (plays.append (eachPlays_singleton kind'))
  have same : (items ++ [last]).Perm (last :: items) := List.perm_append_comm
  exact all.perm (same.cons first)

end Parts

variable {symbol : Symbol} {items : List Significant} {value : Expression} {nodes : List Node}

/-- Without brackets, an outline is its tree written as nodes. -/
theorem Outlined.serial (outlined : Outlined symbol items value nodes) :
    value.Serial (unbracketed items) (bracketFree nodes) := by
  induction outlined with
  | function isName isColon _ ih =>
      rw [unbracketed_cons isName (by decide) (by decide),
        unbracketed_cons isColon (by decide) (by decide), bracketFree_cons rfl, bracketFree_append,
        bracketFree_cons rfl]
      exact .function isName isColon ih
  | callee_name isName | expression_name isName =>
      rw [unbracketed_cons isName (by decide) (by decide), bracketFree_cons rfl]
      exact .ident isName
  | callee_function isLeft isRight _ ih | expression_paren isLeft isRight _ ih =>
      rw [unbracketed_around isLeft isRight, bracketFree_around]
      exact ih
  | expression_function _ ih => exact ih
  | expression_application _ _ handle ih ih' =>
      rw [unbracketed_append, bracketFree_append, bracketFree_append]
      exact .apply ih ih' handle

/-- Each token of an outline plays a role in one node. -/
theorem Outlined.eachPlays (outlined : Outlined symbol items value nodes) : EachPlays items nodes := by
  induction outlined with
  | function isName isColon _ ih =>
      exact ih.around (by rw [isName]; rfl) (by rw [isColon]; rfl)
  | callee_name isName | expression_name isName => exact eachPlays_singleton (by rw [isName]; rfl)
  | @callee_function opening closing _ _ _ isLeft isRight _ ih
  | @expression_paren opening closing _ _ _ isLeft isRight _ ih =>
      have first : EachPlays [opening] [opening.node .atomBegin] :=
        eachPlays_singleton (by rw [isLeft]; rfl)
      have last : EachPlays [closing] [closing.node .atomEnd] :=
        eachPlays_singleton (by rw [isRight]; rfl)
      exact (ih.append (last.append first)).perm
        ((List.perm_append_comm.append_left _).trans List.perm_middle)
  | expression_function _ ih => exact ih
  | expression_application _ _ handle ih ih' =>
      have all := (ih.append ih').append (eachPlays_application handle)
      rwa [List.append_nil] at all

namespace OutlinedStatement

variable {statement : Statement}

/-- An outlined statement is the serialization of its tree. -/
theorem serial (outlined : OutlinedStatement items statement nodes) :
    statement.Serial (unbracketed items) (bracketFree nodes) := by
  cases outlined with
  | assignment isName isEqual outlined =>
      rw [unbracketed_cons isName (by decide) (by decide),
        unbracketed_cons isEqual (by decide) (by decide), bracketFree_cons rfl, bracketFree_append,
        bracketFree_cons rfl]
      have inner := outlined.serial
      generalize unbracketed _ = others at inner ⊢
      generalize bracketFree _ = nodes at inner ⊢
      -- The value of a definition is a function, and its nodes are those of the definition.
      cases inner with
      | ident isName' => exact .assign isName isEqual (.ident isName')
      | function isParam isColon inner =>
          rw [List.cons_append, List.append_assoc]
          exact .define isName isEqual isParam isColon inner
      | apply first second handle => exact .assign isName isEqual (.apply first second handle)
  | expression outlined => exact .expression outlined.serial

/-- Every token of an outlined statement plays one node. -/
theorem eachPlays (outlined : OutlinedStatement items statement nodes) : EachPlays items nodes := by
  cases outlined with
  | @assignment name equal _ _ _ isName isEqual outlined =>
      have all : EachPlays (equal :: name :: _)
          (equal.node .assignment :: (_ ++ [name.node .assignmentTarget])) :=
        outlined.eachPlays.around (by rw [isEqual]; rfl) (by rw [isName]; rfl)
      exact all.perm (.swap _ _ _)
  | expression outlined => exact outlined.eachPlays

end OutlinedStatement

end Reckon
