/-
This file shows how the spans of a tree are nested. Each node has the smallest span around its own tokens and
its children, which stand one after the other.
-/

import Reckon.Proofs.Evaluation.Whole
import Reckon.Proofs.Parse.Leaves

namespace Reckon

open Text

namespace Span

/-- A span lies within another one when it does not reach beyond it. -/
def Within (inner outer : Span) : Prop :=
  outer.start.offset ≤ inner.start.offset ∧ inner.stop.offset ≤ outer.stop.offset

def Before (first second : Span) : Prop := first.stop.offset ≤ second.start.offset

def Solid (span : Span) : Prop := span.start.offset < span.stop.offset

/-- A hull is the smallest span that covers the given ones. -/
structure IsHull (span : Span) (parts : List Span) : Prop where
  covers : ∀ part ∈ parts, part.Within span
  least : ∀ other : Span, (∀ part ∈ parts, part.Within other) → span.Within other
  start : ∃ part ∈ parts, part.start = span.start
  stop : ∃ part ∈ parts, part.stop = span.stop

end Span

/-- Tokens lay out a span when it is the hull of its own tokens and of its children. In front of the
children, between them and behind them stand no other tokens than its own and silent ones. -/
structure Span.LaidOut (tokens : List Token) (span : Span) (front between back : List Token)
    (children : List Span) : Prop where
  start : ∃ token ∈ tokens, token.span.start = span.start
  stop : ∃ token ∈ tokens, token.span.stop = span.stop
  solid : span.Solid
  own : ∀ token ∈ front ++ between ++ back, token ∈ tokens ∧ token.span.Within span
  ordered : (front.map Token.span ++ children ++ back.map Token.span).Pairwise Span.Before
  hull : span.IsHull (front.map Token.span ++ children ++ back.map Token.span)
  complete : ∀ token ∈ tokens, token.span.Within span →
    token ∈ front ++ between ++ back ∨ token.kind.isSilent = true ∨
      ∃ child ∈ children, token.span.Within child

namespace Expression

/-- These are the children of a node in the order of the text. -/
def children : Expression → List Expression
  | hole | literal _ _ | ident _ _ => []
  | unary _ _ operand => [operand]
  | binary _ _ left right => [left, right]
  | function _ _ body => [body]
  | apply _ callee arg => [callee, arg]
  | list _ elems => elems

/-- A node owns the tokens that stand in front of its children, between them and behind them. -/
inductive Owns : Expression → (front between back : List Token) → Prop where
  | number {token : Token} (numeral : token.kind = .integer ∨ token.kind = .float) :
      Owns (.literal token.span (Grammar.numeralLiteral token)) [token] [] []
  | unit {span : Span} {opening closing : Token} (opens : opening.kind = .leftParen)
      (closes : closing.kind = .rightParen) : Owns (.literal span .unit) [opening] [] [closing]
  | name {token : Token} (isName : token.kind = .identifier) :
      Owns (.ident token.span token.name) [token] [] []
  | unary {span : Span} {sign : Token} {operator : Operator} {operand : Expression}
      (known : Grammar.sumOperators.lookup sign.kind = some operator) :
      Owns (.unary span operator operand) [sign] [] []
  | binary {span : Span} {token : Token} {operator : Operator} {left right : Expression}
      (known : Grammar.sumOperators.lookup token.kind = some operator ∨
        Grammar.productOperators.lookup token.kind = some operator) :
      Owns (.binary span operator left right) [] [token] []
  | function {span : Span} {param colon : Token} {body : Expression}
      (isName : param.kind = .identifier) (isColon : colon.kind = .colon) :
      Owns (.function span param.name body) [param] [colon] []
  | apply {span : Span} {callee arg : Expression} : Owns (.apply span callee arg) [] [] []
  | list {span : Span} {opening closing : Token} {commas : List Token} {elems : List Expression}
      (opens : opening.kind = .leftBracket) (closes : closing.kind = .rightBracket)
      (all : ∀ comma ∈ commas, comma.kind = .comma) (count : commas.length = elems.length - 1) :
      Owns (.list span elems) [opening] commas [closing]

/-- A node is nested in tokens that lay out its span. -/
def Nested (tokens : List Token) (node : Expression) : Prop :=
  ∃ front between back, node.span = .ok node.extent ∧ node.Owns front between back ∧
    node.extent.LaidOut tokens front between back (node.children.map extent)

end Expression

namespace Statement

/-- The value of a statement stands behind its name, if it has one. -/
def children : Statement → List Expression
  | missing => []
  | assign _ _ value => [value]
  | define _ _ _ body => [body]
  | expression value => [value]

/-- The tokens of a statement stand before its value. The parameter of a definition is one of them. -/
inductive Owns : Statement → (front between : List Token) → Prop where
  | assign {span : Span} {name equal : Token} {value : Expression} (isName : name.kind = .identifier)
      (isEqual : equal.kind = .equal) : Owns (.assign span name.name value) [name] [equal]
  | define {span : Span} {name equal param colon : Token} {body : Expression}
      (isName : name.kind = .identifier) (isEqual : equal.kind = .equal)
      (isParam : param.kind = .identifier) (isColon : colon.kind = .colon) :
      Owns (.define span name.name param.name body) [name] [equal, param, colon]
  | expression {value : Expression} : Owns (.expression value) [] []

/-- A statement is nested in tokens that lay out its span. -/
def Nested (tokens : List Token) (statement : Statement) : Prop :=
  ∃ span front between, statement.span = .ok span ∧ statement.Owns front between ∧
    span.LaidOut tokens front between [] (statement.children.map Expression.extent)

end Statement

section Hulls

variable {first second last part : Span} {middle parts : List Span}

/-- The span around two spans in a row reaches from the start of the first to the end of the second. -/
theorem Span.Before.around (before : first.Before second) (solid : first.Solid) (solid' : second.Solid) :
    first.around second = ⟨first.start, second.stop⟩ := by
  unfold Span.Before Span.Solid at *
  rw [Span.around, if_neg (by omega), if_pos (by omega)]

/-- A span is the hull of itself. -/
theorem Span.isHull_singleton (part : Span) : part.IsHull [part] where
  covers := List.forall_mem_singleton.2 ⟨Int.le_refl _, Int.le_refl _⟩
  least := fun _ => List.forall_mem_singleton.1
  start := ⟨part, List.mem_singleton_self _, rfl⟩
  stop := ⟨part, List.mem_singleton_self _, rfl⟩

/-- The hull of spans that stand one after the other reaches from the first to the last one. -/
theorem Span.isHull_around (ordered : (first :: middle ++ [last]).Pairwise Span.Before)
    (solid : ∀ part ∈ first :: middle ++ [last], part.Solid) :
    (first.around last).IsHull (first :: middle ++ [last]) := by
  obtain ⟨front, _, cross⟩ := List.pairwise_append.1 ordered
  have behind := (List.pairwise_cons.1 ordered).1
  have solidFirst := solid first List.mem_cons_self
  have solidLast := solid last (by simp)
  have before := cross first List.mem_cons_self last (List.mem_singleton_self _)
  rw [before.around solidFirst solidLast]
  unfold Span.Before Span.Solid at *
  refine ⟨fun part member => ⟨?_, ?_⟩, fun other covers => ?_, ⟨first, by simp, rfl⟩, ⟨last, by simp, rfl⟩⟩
  · rcases List.mem_cons.1 member with rfl | later
    · exact Int.le_refl _
    · have after := behind part later
      dsimp only
      omega
  · rcases List.mem_append.1 member with earlier | same
    · have ahead := cross part earlier last (List.mem_singleton_self _)
      dsimp only
      omega
    · rw [List.mem_singleton.1 same]
  · exact ⟨(covers first List.mem_cons_self).1, (covers last (by simp)).2⟩

end Hulls

/-- Tokens are in order when they stand one after the other, and none of them is empty. -/
structure InOrder (tokens : List Token) : Prop where
  pairwise : tokens.Pairwise fun first second => first.span.Before second.span
  solid : ∀ token ∈ tokens, token.span.Solid

/-- Two parts of tokens in order are in order, and the first stands before the second. -/
theorem InOrder.append {first second : List Token} (order : InOrder (first ++ second)) :
    InOrder first ∧ InOrder second ∧ ∀ a ∈ first, ∀ b ∈ second, a.span.Before b.span := by
  obtain ⟨left, right, cross⟩ := List.pairwise_append.1 order.pairwise
  obtain ⟨solid, solid'⟩ := List.forall_mem_append.1 order.solid
  exact ⟨⟨left, solid⟩, ⟨right, solid'⟩, cross⟩

theorem InOrder.sublist {tokens body : List Token} (order : InOrder tokens)
    (sublist : body.Sublist tokens) : InOrder body :=
  ⟨order.pairwise.sublist sublist, fun token member => order.solid token (sublist.subset member)⟩

/-- Spans are a row in tokens when they stand one after the other, and each of them starts and stops where
a token does. -/
structure Row (tokens : List Token) (parts : List Span) : Prop where
  starts : ∀ part ∈ parts, ∃ token ∈ tokens, token.span.start = part.start
  stops : ∀ part ∈ parts, ∃ token ∈ tokens, token.span.stop = part.stop
  solid : ∀ part ∈ parts, part.Solid
  ordered : parts.Pairwise Span.Before

namespace Row

variable {tokens tokens' : List Token} {parts parts' : List Span}

/-- A single token is a row. -/
theorem token {token : Token} (order : InOrder [token]) : Row [token] [token.span] where
  starts := List.forall_mem_singleton.2 ⟨token, List.mem_singleton_self _, rfl⟩
  stops := List.forall_mem_singleton.2 ⟨token, List.mem_singleton_self _, rfl⟩
  solid := List.forall_mem_singleton.2 (order.solid token (List.mem_singleton_self _))
  ordered := List.pairwise_singleton _ _

/-- A row stays one among more tokens. -/
theorem mono (row : Row tokens parts) (inside : tokens ⊆ tokens') : Row tokens' parts where
  starts part member := (row.starts part member).imp fun _ => And.imp_left (@inside _)
  stops part member := (row.stops part member).imp fun _ => And.imp_left (@inside _)
  solid := row.solid
  ordered := row.ordered

/-- Two rows make a row when the tokens of the first stand before those of the second. -/
theorem append (row : Row tokens parts) (row' : Row tokens' parts')
    (cross : ∀ first ∈ tokens, ∀ second ∈ tokens', first.span.Before second.span) :
    Row (tokens ++ tokens') (parts ++ parts') where
  starts := List.forall_mem_append.2 ⟨(row.mono (List.subset_append_left _ _)).starts,
    (row'.mono (List.subset_append_right _ _)).starts⟩
  stops := List.forall_mem_append.2 ⟨(row.mono (List.subset_append_left _ _)).stops,
    (row'.mono (List.subset_append_right _ _)).stops⟩
  solid := List.forall_mem_append.2 ⟨row.solid, row'.solid⟩
  ordered := by
    refine List.pairwise_append.2 ⟨row.ordered, row'.ordered, fun part member part' member' => ?_⟩
    obtain ⟨first, inside, stop⟩ := row.stops part member
    obtain ⟨second, inside', start⟩ := row'.starts part' member'
    have before := cross first inside second inside'
    rwa [Span.Before, stop, start] at before

theorem isHull_pair {first second : Span} (row : Row tokens [first, second]) :
    (first.around second).IsHull [first, second] :=
  @Span.isHull_around first second [] row.ordered row.solid

end Row

namespace Span.LaidOut

variable {tokens tokens' : List Token} {span : Span} {front between back : List Token}
  {children : List Span}

/-- A hull of parts in a row is laid out. -/
theorem of_row (row : Row tokens (front.map Token.span ++ children ++ back.map Token.span))
    (hull : span.IsHull (front.map Token.span ++ children ++ back.map Token.span))
    (own : ∀ token ∈ front ++ between ++ back, token ∈ tokens ∧ token.span.Within span)
    (complete : ∀ token ∈ tokens, token.span.Within span →
      token ∈ front ++ between ++ back ∨ token.kind.isSilent = true ∨
        ∃ child ∈ children, token.span.Within child) :
    span.LaidOut tokens front between back children := by
  obtain ⟨first, member, start⟩ := hull.start
  obtain ⟨last, member', stop⟩ := hull.stop
  refine ⟨start ▸ row.starts first member, stop ▸ row.stops last member', ?_, own, row.ordered, hull,
    complete⟩
  have covers := hull.covers first member
  have solid := row.solid first member
  unfold Span.Within Span.Solid at *
  omega

/-- A laid out span starts and stops with tokens. -/
theorem row (laid : span.LaidOut tokens front between back children) : Row tokens [span] where
  starts := List.forall_mem_singleton.2 laid.start
  stops := List.forall_mem_singleton.2 laid.stop
  solid := List.forall_mem_singleton.2 laid.solid
  ordered := List.pairwise_singleton _ _

/-- Other tokens do not matter when they are silent or reach beyond the span. -/
theorem mono (laid : span.LaidOut tokens front between back children) (inside : tokens ⊆ tokens')
    (others : ∀ token ∈ tokens', token ∈ tokens ∨ token.kind.isSilent = true ∨ ¬token.span.Within span) :
    span.LaidOut tokens' front between back children where
  start := laid.start.imp fun _ => And.imp_left (@inside _)
  stop := laid.stop.imp fun _ => And.imp_left (@inside _)
  solid := laid.solid
  own token member := (laid.own token member).imp_left (@inside _)
  ordered := laid.ordered
  hull := laid.hull
  complete token member within := by
    rcases others token member with known | silent | beyond
    · exact laid.complete token known within
    · exact .inr (.inl silent)
    · exact absurd within beyond

/-- A span stays laid out with more tokens behind it. -/
theorem append_left (laid : span.LaidOut tokens front between back children)
    (order : InOrder (tokens ++ tokens')) :
    span.LaidOut (tokens ++ tokens') front between back children := by
  obtain ⟨_, later, cross⟩ := order.append
  refine laid.mono (List.subset_append_left _ _) fun token member => ?_
  rcases List.mem_append.1 member with known | other
  · exact .inl known
  · refine .inr (.inr fun within => ?_)
    obtain ⟨last, inside, stop⟩ := laid.stop
    have before := cross last inside token other
    have solid := later.solid token other
    unfold Span.Before Span.Solid Span.Within at *
    rw [stop] at before
    omega

/-- A span stays laid out with more tokens before it. -/
theorem append_right (laid : span.LaidOut tokens front between back children) (tokens' : List Token)
    (order : InOrder (tokens' ++ tokens)) :
    span.LaidOut (tokens' ++ tokens) front between back children := by
  obtain ⟨earlier, _, cross⟩ := order.append
  refine laid.mono (List.subset_append_right _ _) fun token member => ?_
  rcases List.mem_append.1 member with other | known
  · refine .inr (.inr fun within => ?_)
    obtain ⟨first, inside, start⟩ := laid.start
    have before := cross token other first inside
    have solid := earlier.solid token other
    unfold Span.Before Span.Solid Span.Within at *
    rw [start] at before
    omega
  · exact .inl known

end Span.LaidOut

namespace Expression

/-- A node with a layout is not a hole, so it has a span. -/
theorem Owns.span {node : Expression} {front between back : List Token}
    (owns : node.Owns front between back) : node.span = .ok node.extent := by
  cases owns
  all_goals rfl

/-- A part of several trees is a part of one of them. -/
theorem mem_allParts {part : Expression} {elems : List Expression} (member : part ∈ allParts elems) :
    ∃ elem ∈ elems, part ∈ elem.parts := by
  induction elems with
  | nil => cases member
  | cons elem elems ih =>
      rcases List.mem_append.1 member with here | later
      · exact ⟨elem, List.mem_cons_self, here⟩
      · obtain ⟨other, inside, found⟩ := ih later
        exact ⟨other, List.mem_cons_of_mem _ inside, found⟩

/-- A part of a node is the node itself or a part of one of its children. -/
theorem mem_parts {part node : Expression} (member : part ∈ node.parts) :
    part = node ∨ ∃ child ∈ node.children, part ∈ child.parts := by
  cases node with
  | hole | literal | ident => exact .inl (List.mem_singleton.1 member)
  | unary _ _ operand | function _ _ operand =>
      refine (List.mem_cons.1 member).imp_right fun inside => ⟨operand, ?_, inside⟩
      exact List.mem_singleton_self _
  | binary _ _ left right | apply _ left right =>
      refine (List.mem_cons.1 member).imp_right fun inside => ?_
      rcases List.mem_append.1 inside with inside | inside
      · exact ⟨left, List.mem_cons_self, inside⟩
      · exact ⟨right, List.mem_cons_of_mem _ List.mem_cons_self, inside⟩
  | list _ elems => exact (List.mem_cons.1 member).imp_right mem_allParts

namespace Nested

variable {tokens tokens' : List Token} {node : Expression}

/-- A node stays nested with more tokens behind it. -/
theorem append_left (nested : node.Nested tokens) (order : InOrder (tokens ++ tokens')) :
    node.Nested (tokens ++ tokens') := by
  obtain ⟨front, between, back, span, owns, laid⟩ := nested
  exact ⟨front, between, back, span, owns, laid.append_left order⟩

/-- A node stays nested with more tokens before it. -/
theorem append_right (nested : node.Nested tokens) (tokens' : List Token)
    (order : InOrder (tokens' ++ tokens)) : node.Nested (tokens' ++ tokens) := by
  obtain ⟨front, between, back, span, owns, laid⟩ := nested
  exact ⟨front, between, back, span, owns, laid.append_right tokens' order⟩

end Nested

end Expression

/-- Trees are spread over tokens when they stand in a row, with the commas between them, and no token is
left but silent ones. -/
structure Spread (tokens : List Token) (values : List Expression) (commas : List Token) : Prop where
  row : Row tokens (values.map Expression.extent)
  nested : ∀ value ∈ values, ∀ part ∈ value.parts, part.Nested tokens
  separate : ∀ comma ∈ commas, comma ∈ tokens ∧ comma.kind = .comma
  count : commas.length + 1 = values.length
  complete : ∀ token ∈ tokens, token ∈ commas ∨ token.kind.isSilent = true ∨
    ∃ value ∈ values, token.span.Within value.extent

namespace Spread

variable {tokens tokens' : List Token} {value value' : Expression} {commas : List Token}

/-- There is no comma beside a single tree. -/
theorem complete_single (spread : Spread tokens [value] commas) :
    ∀ token ∈ tokens, token.kind.isSilent = true ∨ token.span.Within value.extent := by
  have none : commas = [] := List.length_eq_zero_iff.1 (Nat.succ.inj spread.count)
  intro token member
  rcases spread.complete token member with comma | silent | ⟨_, found, within⟩
  · rw [none] at comma
    cases comma
  · exact .inl silent
  · obtain rfl := List.mem_singleton.1 found
    exact .inr within

/-- A node is spread over its own tokens and those of its children. -/
theorem node {node : Expression} {front between back : List Token} (owns : node.Owns front between back)
    (row : Row tokens (front.map Token.span ++ node.children.map Expression.extent ++ back.map Token.span))
    (hull : node.extent.IsHull
      (front.map Token.span ++ node.children.map Expression.extent ++ back.map Token.span))
    (inside : front ++ between ++ back ⊆ tokens)
    (held : ∀ token ∈ between, token.span.Within node.extent)
    (nested : ∀ child ∈ node.children, ∀ part ∈ child.parts, part.Nested tokens)
    (complete : ∀ token ∈ tokens, token ∈ front ++ between ++ back ∨ token.kind.isSilent = true ∨
      ∃ child ∈ node.children, token.span.Within child.extent) : Spread tokens [node] [] := by
  have own : ∀ token ∈ front ++ between ++ back, token ∈ tokens ∧ token.span.Within node.extent := by
    intro token member
    refine ⟨inside member, ?_⟩
    rcases List.mem_append.1 member with member | behind
    · rcases List.mem_append.1 member with ahead | inner
      · exact hull.covers _ (List.mem_append_left _ (List.mem_append_left _ (List.mem_map_of_mem ahead)))
      · exact held token inner
    · exact hull.covers _ (List.mem_append_right _ (List.mem_map_of_mem behind))
  have laid := Span.LaidOut.of_row row hull own fun token member _ =>
    (complete token member).imp_right (Or.imp_right fun ⟨child, found, within⟩ =>
      ⟨child.extent, List.mem_map_of_mem found, within⟩)
  refine ⟨laid.row, ?_, by simp, rfl, fun token member => .inr ?_⟩
  · refine List.forall_mem_singleton.2 fun part member => ?_
    rcases Expression.mem_parts member with rfl | ⟨child, found, within⟩
    · exact ⟨front, between, back, owns.span, owns, laid⟩
    · exact nested child found part within
  · rcases complete token member with known | silent | ⟨child, found, within⟩
    · exact .inr ⟨node, List.mem_singleton_self _, (own token known).2⟩
    · exact .inl silent
    · have covers := hull.covers child.extent
        (List.mem_append_left _ (List.mem_append_right _ (List.mem_map_of_mem found)))
      refine .inr ⟨node, List.mem_singleton_self _, ?_⟩
      unfold Span.Within at *
      omega

end Spread

/-- What stands between two spans is held by each span that covers both. -/
theorem Row.holds {first last : List Token} {left right outer : Span} {token : Token}
    (row : Row first [left]) (row' : Row last [right]) (order : InOrder first) (order' : InOrder last)
    (before : ∀ other ∈ first, other.span.Before token.span)
    (behind : ∀ other ∈ last, token.span.Before other.span) (covers : left.Within outer)
    (covers' : right.Within outer) : token.span.Within outer := by
  obtain ⟨start, inside, same⟩ := row.starts left (List.mem_singleton_self _)
  obtain ⟨stop, inside', same'⟩ := row'.stops right (List.mem_singleton_self _)
  have solid := order.solid start inside
  have solid' := order'.solid stop inside'
  have after := before start inside
  have ahead := behind stop inside'
  unfold Span.Within Span.Before Span.Solid at *
  rw [same] at solid
  rw [same'] at solid'
  omega

/-- A token between two spans in a row lies in the hull of them. -/
theorem Row.between {first last : List Token} {left right : Span} {token : Token}
    (row : Row first [left]) (row' : Row last [right]) (order : InOrder (first ++ token :: last)) :
    Row (first ++ token :: last) [left, right] ∧ (left.around right).IsHull [left, right] ∧
      token.span.Within (left.around right) := by
  obtain ⟨before, behind, cross⟩ := order.append
  obtain ⟨_, after, cross'⟩ := @InOrder.append [token] last behind
  have both := row.append (row'.mono (List.subset_cons_self token last)) cross
  have hull := both.isHull_pair
  refine ⟨both, hull, row.holds row' before after ?_ ?_ (hull.covers _ (by simp))
    (hull.covers _ (by simp))⟩
  · exact fun other member => cross other member token List.mem_cons_self
  · exact cross' token (List.mem_singleton_self _)

namespace Spread

variable {word other : List Token} {value operand first second callee arg body elem : Expression}
  {opening closing token comma : Token} {elems : List Expression} {commas commas' : List Token}

theorem left (spread : Spread word elems commas) (order : InOrder (word ++ other)) :
    ∀ value ∈ elems, ∀ part ∈ value.parts, part.Nested (word ++ other) :=
  fun value member part inside => (spread.nested value member part inside).append_left order

/-- The parts of the trees behind stay nested with more tokens before them. -/
theorem right (spread : Spread word elems commas) (other : List Token)
    (order : InOrder (other ++ word)) :
    ∀ value ∈ elems, ∀ part ∈ value.parts, part.Nested (other ++ word) :=
  fun value member part inside => (spread.nested value member part inside).append_right other order

/-- The tokens of a child are its own or silent. -/
theorem complete_child (spread : Spread word [value] commas) {children : List Expression}
    (child : value ∈ children) (own : List Token) : ∀ token ∈ word, token ∈ own ∨
      token.kind.isSilent = true ∨ ∃ child ∈ children, token.span.Within child.extent :=
  fun token member => .inr ((spread.complete_single token member).imp_right fun within =>
    ⟨value, child, within⟩)

/-- A name is spread over its token. -/
theorem name (isName : token.kind = .identifier) (order : InOrder [token]) :
    Spread [token] [.ident token.span token.name] [] := by
  have row := Row.token order
  exact node (.name isName) row (Span.isHull_singleton _) (by simp) (by simp)
    (by simp [Expression.children]) fun _ member => .inl member

/-- A number is spread over its token. -/
theorem number (numeral : token.kind = .integer ∨ token.kind = .float) (order : InOrder [token]) :
    Spread [token] [.literal token.span (Grammar.numeralLiteral token)] [] := by
  have row := Row.token order
  exact node (.number numeral) row (Span.isHull_singleton _) (by simp) (by simp)
    (by simp [Expression.children]) fun _ member => .inl member

/-- The unit is spread over its two parentheses. -/
theorem unit (opens : opening.kind = .leftParen) (closes : closing.kind = .rightParen)
    (order : InOrder [opening, closing]) :
    Spread [opening, closing] [.literal (opening.span.around closing.span) .unit] [] := by
  obtain ⟨here, there, cross⟩ := @InOrder.append [opening] [closing] order
  have row := (Row.token here).append
    (.token there) cross
  have hull := row.isHull_pair
  exact node (.unit opens closes) row hull (by simp) (by simp) (by simp [Expression.children])
    fun _ member => .inl member

/-- A binary expression is spread over both operands with the operator between them. -/
theorem binary {operator : Operator} (known : Grammar.sumOperators.lookup token.kind = some operator ∨
      Grammar.productOperators.lookup token.kind = some operator)
    (order : InOrder (word ++ token :: other)) (spread : Spread word [first] commas)
    (spread' : Spread other [second] commas') : Spread (word ++ token :: other)
      [.binary (first.extent.around second.extent) operator first second] [] := by
  obtain ⟨row, hull, held⟩ := spread.row.between spread'.row order
  refine node (.binary known) row hull (by simp) (List.forall_mem_singleton.2 held) ?_ ?_
  · have inner := spread'.right [token] order.append.2.1
    refine List.forall_mem_cons.2 ⟨spread.left order first (by simp), List.forall_mem_singleton.2 ?_⟩
    exact fun part member => (inner second (by simp) part member).append_right _ order
  · refine List.forall_mem_append.2 ⟨spread.complete_child (by simp [Expression.children]) _,
      List.forall_mem_cons.2 ⟨.inl (by simp), ?_⟩⟩
    exact spread'.complete_child (by simp [Expression.children]) _

/-- A unary expression is spread over its sign and its operand. -/
theorem unary {sign : Token} {operator : Operator}
    (known : Grammar.sumOperators.lookup sign.kind = some operator) (order : InOrder (sign :: word))
    (spread : Spread word [operand] commas) :
    Spread (sign :: word) [.unary (sign.span.around operand.extent) operator operand] [] := by
  obtain ⟨here, _, cross⟩ := @InOrder.append [sign] word order
  have row := (Row.token here).append spread.row cross
  have hull := row.isHull_pair
  refine node (.unary known) row hull (by simp) (by simp) (spread.right [sign] order) ?_
  exact List.forall_mem_cons.2 ⟨.inl (by simp), spread.complete_child (by simp [Expression.children]) _⟩

/-- A function is spread over its parameter, the colon and its body. -/
theorem function {param colon : Token} (isName : param.kind = .identifier) (isColon : colon.kind = .colon)
    (order : InOrder (param :: colon :: word)) (spread : Spread word [body] commas) :
    Spread (param :: colon :: word) [.function (param.span.around body.extent) param.name body] [] := by
  obtain ⟨here, behind, _⟩ := @InOrder.append [param] (colon :: word) order
  obtain ⟨row, hull, held⟩ := (Row.token here).between spread.row order
  refine node (.function isName isColon) row hull (by simp) (List.forall_mem_singleton.2 held) ?_ ?_
  · have inner := spread.right [colon] behind
    refine List.forall_mem_singleton.2 fun part member => ?_
    exact (inner body (by simp) part member).append_right [param] order
  · refine List.forall_mem_cons.2 ⟨.inl (by simp), List.forall_mem_cons.2 ⟨.inl (by simp), ?_⟩⟩
    exact spread.complete_child (by simp [Expression.children]) _

/-- An application is spread over its callee and its argument. -/
theorem apply (order : InOrder (word ++ other)) (spread : Spread word [callee] commas)
    (spread' : Spread other [arg] commas') :
    Spread (word ++ other) [.apply (callee.extent.around arg.extent) callee arg] [] := by
  obtain ⟨_, _, cross⟩ := order.append
  have row := spread.row.append spread'.row cross
  have hull := row.isHull_pair
  refine node .apply row hull (by simp) (by simp) ?_ ?_
  · exact List.forall_mem_cons.2 ⟨spread.left order callee (by simp), spread'.right _ order⟩
  · exact List.forall_mem_append.2 ⟨spread.complete_child (by simp [Expression.children]) _,
      spread'.complete_child (by simp [Expression.children]) _⟩

/-- A list spans its brackets and what stands between them. -/
theorem list (opens : opening.kind = .leftBracket) (closes : closing.kind = .rightBracket)
    (order : InOrder (opening :: word ++ [closing])) (row : Row word (elems.map Expression.extent))
    (nested : ∀ elem ∈ elems, ∀ part ∈ elem.parts, part.Nested word)
    (separate : ∀ comma ∈ commas, comma ∈ word ∧ comma.kind = .comma)
    (count : commas.length = elems.length - 1) (complete : ∀ token ∈ word, token ∈ commas ∨
      token.kind.isSilent = true ∨ ∃ elem ∈ elems, token.span.Within elem.extent) :
    Spread (opening :: word ++ [closing]) [.list (opening.span.around closing.span) elems] [] := by
  obtain ⟨front, there, cross⟩ := order.append
  obtain ⟨here, _, cross'⟩ := @InOrder.append [opening] word front
  have start := Row.token here
  have stop := Row.token there
  have row := (start.append row cross').append stop cross
  have hull := Span.isHull_around row.ordered row.solid
  have inside : commas ⊆ word := fun comma member => (separate comma member).1
  refine node (.list opens closes (fun comma member => (separate comma member).2) count) row hull
    ?_ ?_ ?_ ?_
  · rintro token member
    simp only [List.mem_append, List.mem_cons, List.not_mem_nil, or_false] at member ⊢
    exact member.imp_left (Or.imp_right (@inside token))
  · refine fun comma member => start.holds stop here there ?_ ?_ (hull.covers _ (by simp))
      (hull.covers _ (by simp))
    · exact fun other found => cross' other found comma (inside member)
    · exact cross comma (List.mem_cons_of_mem _ (inside member))
  · intro elem member part found
    exact ((nested elem member part found).append_right [opening] front).append_left order
  · refine List.forall_mem_append.2 ⟨List.forall_mem_cons.2 ⟨.inl (by simp), fun token member => ?_⟩,
      List.forall_mem_singleton.2 (.inl (by simp))⟩
    exact (complete token member).imp_left fun comma => by simp [comma]

/-- Brackets around a tree do not reach into its span. -/
theorem enclosed (spread : Spread word [value] commas)
    (silent : opening.kind.isSilent = true ∧ closing.kind.isSilent = true)
    (order : InOrder (opening :: word ++ [closing])) : Spread (opening :: word ++ [closing]) [value] [] := by
  obtain ⟨front, _, _⟩ := order.append
  have inside : word ⊆ opening :: word ++ [closing] := by simp
  refine ⟨spread.row.mono inside, ?_, by simp, rfl, ?_⟩
  · intro elem member part found
    exact (spread.right [opening] front elem member part found).append_left order
  · refine List.forall_mem_append.2 ⟨List.forall_mem_cons.2 ⟨.inr (.inl silent.1), ?_⟩,
      List.forall_mem_singleton.2 (.inr (.inl silent.2))⟩
    exact spread.complete_child (List.mem_singleton_self _) _

/-- One more element stands behind one more comma. -/
theorem element (isComma : comma.kind = .comma) (order : InOrder (word ++ comma :: other))
    (spread : Spread word elems commas) (spread' : Spread other [elem] commas') :
    Spread (word ++ comma :: other) (elems ++ [elem]) (commas ++ [comma]) := by
  obtain ⟨_, behind, cross⟩ := order.append
  have row := spread.row.append (spread'.row.mono (List.subset_cons_self comma other)) cross
  rw [← List.map_append] at row
  refine ⟨row, ?_, ?_, by simp [← spread.count], ?_⟩
  · have inner := spread'.right [comma] behind
    refine List.forall_mem_append.2 ⟨spread.left order, List.forall_mem_singleton.2 fun part member => ?_⟩
    exact (inner elem (by simp) part member).append_right _ order
  · refine List.forall_mem_append.2 ⟨fun token member => ?_, List.forall_mem_singleton.2 ⟨by simp, isComma⟩⟩
    exact (spread.separate token member).imp_left (List.mem_append_left _)
  · refine List.forall_mem_append.2 ⟨fun token member => ?_, List.forall_mem_cons.2 ⟨.inl (by simp), ?_⟩⟩
    · refine (spread.complete token member).imp (List.mem_append_left _) (Or.imp_right ?_)
      exact fun ⟨value, found, within⟩ => ⟨value, List.mem_append_left _ found, within⟩
    · exact spread'.complete_child (by simp) _

end Spread

/-- What tokens in order build is spread over them. -/
theorem Symbol.Builds.spread {symbol : Symbol} {tokens : List Token} {values : List Expression}
    (builds : symbol.Builds tokens values) (order : InOrder tokens) :
    ∃ commas, Spread tokens values commas := by
  induction builds with
  | passed _ _ ih => exact ih order
  | joined joins _ known _ left right =>
      obtain ⟨wordOrder, behind, _⟩ := order.append
      obtain ⟨_, otherOrder, _⟩ := @InOrder.append [_] _ behind
      obtain ⟨_, spread⟩ := left wordOrder
      obtain ⟨_, spread'⟩ := right otherOrder
      refine ⟨[], spread.binary ?_ order spread'⟩
      cases joins with
      | sum => exact .inl known
      | product => exact .inr known
  | enclosed encloses _ ih =>
      obtain ⟨_, spread⟩ := ih (@InOrder.append [_] _ order.append.1).2.1
      exact ⟨[], spread.enclosed encloses.silent order⟩
  | name _ isName => exact ⟨[], .name isName order⟩
  | number numeral => exact ⟨[], .number numeral order⟩
  | unit opens closes => exact ⟨[], .unit opens closes order⟩
  | unary known _ ih =>
      obtain ⟨_, spread⟩ := ih (@InOrder.append [_] _ order).2.1
      exact ⟨[], spread.unary known order⟩
  | function isName isColon _ ih =>
      obtain ⟨_, spread⟩ := ih (@InOrder.append [_, _] _ order).2.1
      exact ⟨[], spread.function isName isColon order⟩
  | application _ _ _ left right =>
      obtain ⟨wordOrder, otherOrder, _⟩ := order.append
      obtain ⟨_, spread⟩ := left wordOrder
      obtain ⟨_, spread'⟩ := right otherOrder
      exact ⟨[], spread.apply order spread'⟩
  | @list_empty opening closing opens closes =>
      have row : Row [] [] := ⟨by simp, by simp, by simp, .nil⟩
      have none : ∀ comma ∈ ([] : List Token), comma ∈ ([] : List Token) ∧ comma.kind = .comma := by simp
      have framed : InOrder (opening :: [] ++ [closing]) := order
      exact ⟨[], .list opens closes framed row (by simp) none rfl (by simp)⟩
  | list opens closes _ ih =>
      obtain ⟨commas, spread⟩ := ih (@InOrder.append [_] _ order.append.1).2.1
      have count := spread.count
      exact ⟨[], .list opens closes order spread.row spread.nested spread.separate (by omega)
        spread.complete⟩
  | elements _ isComma _ left right =>
      obtain ⟨wordOrder, behind, _⟩ := order.append
      obtain ⟨_, otherOrder, _⟩ := @InOrder.append [_] _ behind
      obtain ⟨_, spread⟩ := left wordOrder
      obtain ⟨_, spread'⟩ := right otherOrder
      exact ⟨_, spread.element isComma order spread'⟩

section Statements

variable {tokens word : List Token} {name equal : Token} {value : Expression}

/-- The last of the parts ends where their hull does. -/
theorem Span.IsHull.stop_last {span last : Span} {parts : List Span} (hull : span.IsHull (parts ++ [last]))
    (ordered : (parts ++ [last]).Pairwise Span.Before) (solid : last.Solid) : last.stop = span.stop := by
  obtain ⟨part, member, stop⟩ := hull.stop
  rcases List.mem_append.1 member with earlier | same
  · have before := (List.pairwise_append.1 ordered).2.2 part earlier last (List.mem_singleton_self _)
    have covers := hull.covers last (by simp)
    unfold Span.Before Span.Solid Span.Within at *
    rw [stop] at before
    omega
  · rw [← List.mem_singleton.1 same, stop]

/-- A statement with a name spans the name and its last child. -/
theorem Statement.nested_named {statement : Statement} {child : Expression} {between : List Token}
    (span : statement.span = .ok (name.span.around child.extent)) (owns : statement.Owns [name] between)
    (children : statement.children = [child]) (order : InOrder (name :: word))
    (row : Row word [child.extent]) (inside : between ⊆ word)
    (held : ∀ token ∈ between, token.span.Within (name.span.around child.extent))
    (complete : ∀ token ∈ word, token ∈ between ∨ token.kind.isSilent = true ∨
      token.span.Within child.extent) : statement.Nested (name :: word) := by
  obtain ⟨here, _, cross⟩ := @InOrder.append [name] word order
  have row := (Row.token here).append row cross
  have hull := row.isHull_pair
  refine ⟨_, [name], between, span, owns, ?_⟩
  rw [children]
  refine .of_row row hull ?_ fun token member _ => ?_
  · rw [List.append_nil]
    refine List.forall_mem_cons.2 ⟨⟨List.mem_cons_self, hull.covers _ (by simp)⟩, fun token member => ?_⟩
    exact ⟨List.mem_cons_of_mem _ (inside member), held token member⟩
  · rw [List.append_nil]
    rcases List.mem_cons.1 member with rfl | later
    · exact .inl List.mem_cons_self
    · refine (complete token later).imp (List.mem_cons_of_mem _) (Or.imp_right fun within => ?_)
      exact ⟨child.extent, List.mem_singleton_self _, within⟩

/-- The equality sign is within the span of the name and of what is assigned to it. -/
theorem equal_within {span : Span} (order : InOrder (name :: equal :: word)) (row : Row word [span]) :
    equal.span.Within (name.span.around span) ∧ span.Within (name.span.around span) := by
  have here := (@InOrder.append [name] (equal :: word) order).1
  obtain ⟨_, hull, held⟩ := (Row.token here).between row order
  exact ⟨held, hull.covers span (by simp)⟩

/-- A definition ends where the body of its function does. -/
theorem around_body {span inner : Span} {param : Token} {between : List Token}
    (order : InOrder (name :: word)) (laid : span.LaidOut word [param] between [] [inner])
    (solid : inner.Solid) : name.span.around span = name.span.around inner := by
  obtain ⟨here, _, cross⟩ := @InOrder.append [name] word order
  have solidName := here.solid name (List.mem_singleton_self _)
  obtain ⟨first, member, start⟩ := laid.start
  have before : name.span.Before span := by
    have before := cross name (List.mem_singleton_self _) first member
    rwa [Span.Before, start] at before
  have before' : name.span.Before inner := Int.le_trans before (laid.hull.covers inner (by simp)).1
  have stop := @Span.IsHull.stop_last span inner [param.span] laid.hull laid.ordered solid
  rw [before.around solidName laid.solid, before'.around solidName solid, stop]

/-- A function that is assigned to a name becomes a definition around its body. -/
theorem nested_define {span : Span} {param : String} {body : Expression} {commas : List Token}
    (isName : name.kind = .identifier) (isEqual : equal.kind = .equal)
    (order : InOrder (name :: equal :: word))
    (spread : Spread word [.function span param body] commas) :
    (Statement.define (name.span.around span) name.name param body).Nested (name :: equal :: word) := by
  have nested := spread.nested _ (List.mem_singleton_self _)
  obtain ⟨_, _, _, _, owns, laid⟩ := nested _ (Expression.mem_parts_self _)
  obtain ⟨_, _, _, _, _, inner⟩ := nested body (List.mem_cons_of_mem _ body.mem_parts_self)
  cases owns with
  | @function _ param colon _ isParam isColon =>
      -- The function and its body start apart but end together, so the definition spans both.
      have wider := laid.append_right [equal] (@InOrder.append [name] _ order).2.1
      have same := around_body order wider inner.solid
      obtain ⟨holds, covers⟩ := equal_within order spread.row
      rw [same] at holds covers
      have held (token : Token) (member : token ∈ [param, colon]) : token ∈ word ∧
          token.span.Within (name.span.around body.extent) := by
        obtain ⟨inside, within⟩ := laid.own token member
        exact ⟨inside, Int.le_trans covers.1 within.1, Int.le_trans within.2 covers.2⟩
      refine Statement.nested_named (congrArg Except.ok same) (.define isName isEqual isParam isColon)
        rfl order (inner.row.mono (List.subset_cons_self equal word)) ?_ ?_ ?_
      · exact List.cons_subset_cons _ fun token member => (held token member).1
      · exact List.forall_mem_cons.2 ⟨holds, fun token member => (held token member).2⟩
      · refine List.forall_mem_cons.2 ⟨.inl List.mem_cons_self, fun token member => ?_⟩
        rcases spread.complete_single token member with silent | within
        · exact .inr (.inl silent)
        · refine (laid.complete token member within).imp (List.mem_cons_of_mem _) (Or.imp_right ?_)
          rintro ⟨child, found, within⟩
          rwa [List.mem_singleton.1 found] at within

/-- What is assigned to a name is nested behind it. -/
theorem nested_assigned {commas : List Token} (isName : name.kind = .identifier)
    (isEqual : equal.kind = .equal) (order : InOrder (name :: equal :: word))
    (spread : Spread word [value] commas) :
    (Grammar.assigned name value).Nested (name :: equal :: word) := by
  have row := spread.row.mono (List.subset_cons_self equal word)
  cases value with
  | function span param body => exact nested_define isName isEqual order spread
  | _ =>
      refine Statement.nested_named rfl (.assign isName isEqual) rfl order row (by simp)
        (List.forall_mem_singleton.2 (equal_within order spread.row).1)
        (List.forall_mem_cons.2 ⟨.inl (by simp), ?_⟩)
      exact fun token member => .inr (spread.complete_single token member)

/-- A statement without a name spans its expression. -/
theorem nested_expression (nested : value.Nested tokens) :
    (Statement.expression value).Nested tokens := by
  obtain ⟨_, _, _, span, _, laid⟩ := nested
  refine ⟨value.extent, [], [], span, .expression, ?_⟩
  refine .of_row laid.row (Span.isHull_singleton _) (by simp) fun token _ within => .inr (.inr ?_)
  exact ⟨value.extent, List.mem_singleton_self _, within⟩

/-- A statement has no parts but those of its value. -/
theorem parts_assigned (name : Token) (value : Expression) :
    (Grammar.assigned name value).parts ⊆ value.parts := by
  cases value with
  | function span param body => exact List.subset_cons_self _ _
  | _ => exact fun _ => id

/-- A statement that tokens in order build is nested in them, with all parts of it. -/
theorem Symbol.BuildsStatement.nested {statement : Statement}
    (builds : Symbol.BuildsStatement tokens statement) (order : InOrder tokens) :
    statement.Nested tokens ∧ ∀ part ∈ statement.parts, part.Nested tokens := by
  cases builds with
  | @assignment name equal word value isName isEqual inner =>
      obtain ⟨_, spread⟩ := inner.spread (@InOrder.append [name, equal] word order).2.1
      refine ⟨nested_assigned isName isEqual order spread, fun part member => ?_⟩
      have inside := parts_assigned name value member
      exact spread.right [name, equal] order value (List.mem_singleton_self _) part inside
  | expression inner =>
      obtain ⟨_, spread⟩ := inner.spread order
      have nested := spread.nested _ (List.mem_singleton_self _)
      exact ⟨nested_expression (nested _ (Expression.mem_parts_self _)), nested⟩

/-- Silent tokens do not matter to what is nested in the others. -/
theorem nested_silent {tokens' : List Token} (inside : tokens ⊆ tokens')
    (silent : ∀ token ∈ tokens', token ∈ tokens ∨ token.kind.isSilent = true) :
    (∀ node : Expression, node.Nested tokens → node.Nested tokens') ∧
      ∀ statement : Statement, statement.Nested tokens → statement.Nested tokens' := by
  have others (span : Span) (token : Token) (member : token ∈ tokens') :
      token ∈ tokens ∨ token.kind.isSilent = true ∨ ¬token.span.Within span :=
    (silent token member).imp_right .inl
  constructor
  · rintro node ⟨front, between, back, span, owns, laid⟩
    exact ⟨front, between, back, span, owns, laid.mono inside (others _)⟩
  · rintro statement ⟨span, front, between, found, owns, laid⟩
    exact ⟨span, front, between, found, owns, laid.mono inside (others _)⟩

end Statements

/-- The tokens of a text are in order. -/
theorem Cut.inOrder {source : Bytes} {segments : List Segment} {tail : List Glyph}
    {misreadings : List Misreading} (cut : Cut .start source.glyphs segments tail misreadings)
    {tokens : List Token} {final : Token} (whole : tokensFrom .start tail segments = tokens ++ [final])
    (proper : ∀ token ∈ tokens, token.kind ≠ .endOfInput) : InOrder tokens := by
  have lossless := cut.lossless
  rw [whole] at lossless
  exact ⟨(List.pairwise_append.1 lossless.pairwise).1, fun token member =>
    lossless.proper token (List.mem_append_left _ member) (proper token member)⟩

/-- In the tree of a text the spans are nested. Each node spans its own tokens and its children, and nothing
beyond them. Its children stand one after the other, and behind the name of a statement. -/
theorem spans_nested (source : Bytes) :
    ∃ tokens final, (Reading.ofBytes source).buffer.tokens = .ok (tokens ++ [final]) ∧
      final.kind = .endOfInput ∧
      (∀ expression, (Reading.ofBytes source).buffer.parseExpression = .ok expression →
        ∀ node ∈ expression.parts, node.Nested tokens) ∧
      (∀ statement, (Reading.ofBytes source).buffer.parseStatement = .ok statement →
        statement.Nested tokens ∧ ∀ node ∈ statement.parts, node.Nested tokens) := by
  obtain ⟨segments, tail, misreadings, cut⟩ := exists_cut .start source.glyphs
  obtain ⟨body, final, split, starts⟩ := cut.startsBefore
  obtain ⟨tokens, last, whole, _, ends⟩ := tokensFrom_words .start tail segments
  rw [whole, significantTokens, List.filter_append, List.filter_singleton, ends] at split
  obtain ⟨significant, _⟩ := List.append_inj' split rfl
  have silent (token : Token) (member : token ∈ tokens) : token ∈ body ∨ token.kind.isSilent = true := by
    rw [← significant]
    by_cases isComment : token.kind = .comment
    · exact .inr (isComment ▸ rfl)
    · exact .inl (List.mem_filter.2 ⟨member, bne_iff_ne.2 isComment⟩)
  have proper (token : Token) (member : token ∈ tokens) : token.kind ≠ .endOfInput := by
    intro same
    rcases silent token member with inside | quiet
    · exact starts.others token inside same
    · rw [same] at quiet
      cases quiet
  have sublist : body.Sublist tokens := significant ▸ List.filter_sublist
  have order := (cut.inOrder whole proper).sublist sublist
  obtain ⟨expressions, statements⟩ := nested_silent sublist.subset silent
  refine ⟨tokens, last, whole ▸ cut.tokens, ends, fun expression found node member => ?_,
    fun statement found => ?_⟩
  · obtain ⟨_, spread⟩ := (starts.built.1 expression found).1.spread order
    exact expressions node (spread.nested expression (List.mem_singleton_self _) node member)
  · obtain ⟨nested, parts⟩ := (starts.built.2 statement found).1.nested order
    exact ⟨statements statement nested, fun node member => expressions node (parts node member)⟩

/-- The span of a definition leaves out the closing parenthesis around its function. -/
theorem parenthesizedFunction_nested :
    let buffer := (Reading.ofBytes (encode "f=(n:-n)")).buffer
    let location (offset : Int) : Location := ⟨offset, 1, offset + 1⟩
    let token (kind : Kind) (lexeme : Bytes) (start : Int) : Token :=
      ⟨kind, lexeme, ⟨location start, location (start + 1)⟩⟩
    ∃ statement, buffer.parseStatement = .ok statement ∧
      statement.span = .ok ⟨location 0, location 7⟩ ∧
      statement.Nested [token .identifier #[0x66] 0, token .equal #[0x3D] 1, token .leftParen #[0x28] 2,
        token .identifier #[0x6E] 3, token .colon #[0x3A] 4, token .dash #[0x2D] 5,
        token .identifier #[0x6E] 6, token .rightParen #[0x29] 7] := by
  intro buffer location token
  obtain ⟨tokens, final, read, _, _, statements⟩ := spans_nested (encode "f=(n:-n)")
  have found : buffer.tokens = .ok ([token .identifier #[0x66] 0, token .equal #[0x3D] 1,
      token .leftParen #[0x28] 2, token .identifier #[0x6E] 3, token .colon #[0x3A] 4,
      token .dash #[0x2D] 5, token .identifier #[0x6E] 6, token .rightParen #[0x29] 7] ++
      [⟨.endOfInput, #[], ⟨location 8, location 8⟩⟩]) := by
    decide +kernel
  obtain ⟨rfl, _⟩ := List.append_inj' (Except.ok.inj (read.symm.trans found)) rfl
  have spanned : (match buffer.parseStatement with
      | .ok statement => decide (statement.span = .ok ⟨location 0, location 7⟩)
      | .error _ => false) = true := by
    decide +kernel
  split at spanned
  case h_1 statement parsed =>
    exact ⟨statement, parsed, of_decide_eq_true spanned, (statements statement parsed).1⟩
  case h_2 => cases spanned

end Reckon
