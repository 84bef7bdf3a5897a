/-
This file shows that a parse only sees the words of the significant tokens. Texts with the same words are
parsed as the same trees and rejected for the same reasons, wherever the words stand.
-/

import Reckon.Parse.Outline
import Reckon.Proofs.Parse.Language
import Reckon.Proofs.Parse.Lockstep

namespace Reckon

open Text

/-- This is a statement without its spans. -/
def Statement.bare : Statement → Statement
  | missing => missing
  | assign _ name value => assign ⟨.start, .start⟩ name value.bare
  | define _ name param body => define ⟨.start, .start⟩ name param body.bare
  | expression value => expression value.bare

/-- Two trees are the same tree when they are equal but for their spans. -/
def SameTree (value value' : Expression) : Prop := value.bare = value'.bare

def SameStatement (statement statement' : Statement) : Prop := statement.bare = statement'.bare

open Reckon.Parser

namespace Twins

section Trees

open Grammar

variable {twins : Twins} {expr : Parser Expression}

/-- A numeral is noted alike in parallel states, since its value depends on its text alone. -/
theorem Parallel.noteNumeral {A : Type} {state state' : State} (parallel : twins.Parallel state state')
    {token token' : Token} (word : SameWord token token') (zero : A) (value : Except NumeralProblem A) :
    (noteNumeral token zero value state).1 = (noteNumeral token' zero value state').1 ∧
      twins.Parallel (noteNumeral token zero value state).2 (noteNumeral token' zero value state').2 := by
  cases value with
  | ok value => exact ⟨rfl, parallel⟩
  | error problem =>
      refine ⟨rfl, parallel.report ?_⟩
      rw [Token.same_lexeme word]
      rfl

/-- Numerals of the same word become the same literal. -/
theorem lockstep_number : twins.Lockstep SameTree number number := by
  intro state state' parallel
  have peeked := parallel.peek
  rw [number, number]
  generalize state.peek = found, state'.peek = found' at peeked
  cases peeked with
  | error fault => exact .fault fault parallel
  | @ok token token' word =>
  have pushed := parallel.push .token
  dsimp only
  rw [Token.same_kind word, Token.same_lexeme word]
  generalize state.push .token = step, state'.push .token = step' at pushed
  split
  · cases pushed with
    | error fault => exact .fault fault parallel
    | @ok step step' consumed =>
        dsimp only
        cases integerValue token'.lexeme with
        | error fault => exact .fault fault consumed.2
        | ok value =>
            obtain ⟨same, parallel'⟩ := consumed.2.noteNumeral word 0 value
            exact .success (congrArg (Expression.literal _ ∘ .int) same) parallel'
  · cases pushed with
    | error fault => exact .fault fault parallel
    | @ok step step' consumed =>
        obtain ⟨same, parallel'⟩ := consumed.2.noteNumeral word 0 (floatValue token'.lexeme)
        exact .success (congrArg (Expression.literal _ ∘ .float) same) parallel'
  · exact .failure ((parallel.expect _).expect _)

theorem same_name {token token' : Token} (word : SameWord token token') : token.name = token'.name :=
  congrArg Bytes.decode (Token.same_lexeme word)

theorem lockstep_ident : twins.Lockstep SameTree ident ident :=
  (lockstep_token .identifier).map fun _ _ word => congrArg (Expression.ident _) (same_name word)

theorem lockstep_unit : twins.Lockstep SameTree Grammar.unit Grammar.unit :=
  (lockstep_token .leftParen).pair (lockstep_token .rightParen) fun _ _ _ _ _ _ => rfl

/-- The elements of a list become the same trees. -/
theorem lockstep_elements (inner : twins.Lockstep SameTree expr expr) :
    twins.Lockstep (List.Forall₂ SameTree) (elements expr) (elements expr) := by
  have other : twins.Lockstep SameTree (pair (token .comma) expr fun _ elem => elem)
      (pair (token .comma) expr fun _ elem => elem) :=
    (lockstep_token .comma).pair inner fun _ _ _ _ _ here => here
  refine lockstep_choice (List.forall_mem_cons.2 ⟨?_, List.forall_mem_singleton.2 ?_⟩)
  · exact inner.pair other.many fun _ _ _ _ first others => .cons first others
  · exact (lockstep_token .rightBracket).lookahead.map fun _ _ _ => .nil

/-- Elements of the same trees are the same without their spans. -/
theorem same_allBare {elems elems' : List Expression} (same : List.Forall₂ SameTree elems elems') :
    Expression.allBare elems = Expression.allBare elems' := by
  induction same with
  | nil => rfl
  | cons first _ ih => rw [Expression.allBare, Expression.allBare, first, ih]

/-- A list becomes the same tree. -/
theorem lockstep_list (inner : twins.Lockstep SameTree expr expr) :
    twins.Lockstep SameTree (Grammar.list expr) (Grammar.list expr) :=
  (lockstep_token .leftBracket).triple (lockstep_elements inner) (lockstep_token .rightBracket)
    fun _ _ _ _ _ _ _ same _ => congrArg (Expression.list _) (same_allBare same)

/-- A term becomes the same tree. -/
theorem lockstep_term (inner : twins.Lockstep SameTree expr expr) :
    twins.Lockstep SameTree (term expr) (term expr) := by
  refine lockstep_choice ?_
  rintro parser (_ | ⟨_, _ | ⟨_, _ | ⟨_, _ | ⟨_, _ | ⟨_, _ | ⟨_, ⟨⟩⟩⟩⟩⟩⟩⟩)
  · exact lockstep_number
  · exact lockstep_ident
  · exact lockstep_unit
  · exact (lockstep_token .leftParen).between inner (lockstep_token .rightParen)
  · exact (lockstep_token .leftBrace).between inner (lockstep_token .rightBrace)
  · exact lockstep_list inner

/-- One of several kinds is found in both texts or in neither. -/
theorem lockstep_tokenAmong (kinds : List Kind) :
    twins.Lockstep SameWord (tokenAmong kinds) (tokenAmong kinds) := by
  refine lockstep_choice ?_
  intro parser member
  obtain ⟨kind, _, rfl⟩ := List.mem_map.1 member
  exact lockstep_token kind

/-- The same words denote the same operator. -/
theorem same_operatorIn {found found' : Token} (word : SameWord found found')
    (operators : List (Kind × Operator)) : operatorIn operators found = operatorIn operators found' := by
  rw [operatorIn, operatorIn, Token.same_kind word]

/-- A unary expression becomes the same tree. -/
theorem lockstep_unary (inner : twins.Lockstep SameTree expr expr) :
    twins.Lockstep SameTree (unary expr) (unary expr) := by
  rw [unary_eq]
  refine (lockstep_tokenAmong sumKinds).pair (lockstep_term inner) ?_
  intro found found' operand operand' word same
  rw [SameTree, Expression.bare, Expression.bare, same_operatorIn word, same]

/-- A function becomes the same tree. -/
theorem lockstep_function (inner : twins.Lockstep SameTree expr expr) :
    twins.Lockstep SameTree (function expr) (function expr) := by
  refine (lockstep_token .identifier).triple (lockstep_token .colon) inner ?_
  intro param param' _ _ body body' word _ same
  rw [SameTree, Expression.bare, Expression.bare, same_name word, same]

/-- A callee becomes the same tree. -/
theorem lockstep_callee (inner : twins.Lockstep SameTree expr expr) :
    twins.Lockstep SameTree (callee expr) (callee expr) := by
  refine lockstep_choice (List.forall_mem_cons.2 ⟨?_, List.forall_mem_singleton.2 lockstep_ident⟩)
  exact (lockstep_token .leftParen).between (lockstep_function inner) (lockstep_token .rightParen)

theorem lockstep_argument (inner : twins.Lockstep SameTree expr expr) :
    twins.Lockstep SameTree (argument expr) (argument expr) :=
  (lockstep_tokenAmong sumKinds).absent.pair inner fun _ _ _ _ _ here => here

/-- An application becomes the same tree. -/
theorem lockstep_application (inner : twins.Lockstep SameTree expr expr) :
    twins.Lockstep SameTree (application expr) (application expr) := by
  refine (lockstep_callee inner).pair (lockstep_argument inner).optional ?_
  intro callee callee' arg arg' first second
  cases second with
  | none => exact first
  | some second =>
      rw [SameTree, Expression.bare, Expression.bare, first, second]

/-- A factor becomes the same tree. -/
theorem lockstep_factor (inner : twins.Lockstep SameTree expr expr) :
    twins.Lockstep SameTree (factor expr) (factor expr) := by
  refine lockstep_choice ?_
  rintro parser (_ | ⟨_, _ | ⟨_, _ | ⟨_, ⟨⟩⟩⟩⟩)
  · exact lockstep_unary inner
  · exact lockstep_application inner
  · exact lockstep_term inner

/-- Two operations are the same when their operators and operands are. -/
def SameOperation (step step' : Operator × Expression) : Prop :=
  step.1 = step'.1 ∧ SameTree step.2 step'.2

/-- Operations that are the same chain up to the same tree. -/
theorem same_chainLeft {first first' : Expression} {others others' : List (Operator × Expression)}
    (here : SameTree first first') (later : List.Forall₂ SameOperation others others') :
    SameTree (chainLeft first others) (chainLeft first' others') := by
  induction later generalizing first first' with
  | nil => exact here
  | @cons step step' _ _ same _ ih =>
      refine ih ?_
      rw [SameTree, Expression.bare, Expression.bare, here, same.1, same.2]

/-- Operands with operators between them become the same tree. -/
theorem lockstep_chained {operand : Parser Expression} (inner : twins.Lockstep SameTree operand operand)
    (operators : List (Kind × Operator)) :
    twins.Lockstep SameTree (chained operand operators) (chained operand operators) := by
  have other : twins.Lockstep SameOperation (operation operand operators) (operation operand operators) :=
    (lockstep_tokenAmong _).pair inner fun _ _ _ _ found right => ⟨same_operatorIn found _, right⟩
  exact inner.pair other.many fun _ _ _ _ first others => same_chainLeft first others

/-- The rule of expressions gives the same tree when the rules inside do. -/
theorem lockstep_expressionRule (inner : twins.Lockstep SameTree expr expr) :
    twins.Lockstep SameTree (expressionRule expr) (expressionRule expr) := by
  have sum : twins.Lockstep SameTree (sum expr) (sum expr) := by
    rw [sum_eq, product_eq]
    exact lockstep_chained (lockstep_chained (lockstep_factor inner) _) _
  exact lockstep_choice
    (List.forall_mem_cons.2 ⟨lockstep_function inner, List.forall_mem_singleton.2 sum⟩)

/-- Expressions of a given depth become the same tree. -/
theorem lockstep_expressionWithin (depth : Nat) :
    twins.Lockstep SameTree (expressionWithin depth) (expressionWithin depth) := by
  induction depth with
  | zero => exact fun _ _ parallel => .fault _ parallel
  | succ depth ih => exact lockstep_expressionRule ih

/-- An expression becomes the same tree in both texts. -/
theorem lockstep_expression : twins.Lockstep SameTree expression expression := by
  intro state state' parallel
  rw [expression, expression, depthBound, depthBound, parallel.significant, parallel.significant',
    twins.size_eq]
  exact lockstep_expressionWithin _ state state' parallel

/-- Without spans, an assigned function is a definition and any other value an assignment. -/
theorem bare_assigned (name : Token) (value : Expression) :
    (assigned name value).bare =
      match value.bare with
      | .function _ param body => .define ⟨.start, .start⟩ name.name param body
      | other => .assign ⟨.start, .start⟩ name.name other := by
  cases value <;> rfl

/-- A statement becomes the same tree in both texts. -/
theorem lockstep_statement : twins.Lockstep SameStatement statement statement := by
  intro state state' parallel
  rw [statement, statement, depthBound, depthBound, parallel.significant, parallel.significant',
    twins.size_eq]
  have inner : twins.Lockstep SameTree _ _ :=
    lockstep_expressionWithin (twins.right.significant.size + 1)
  refine lockstep_choice (List.forall_mem_cons.2 ⟨?_, List.forall_mem_singleton.2 ?_⟩) _ _ parallel
  · refine (lockstep_token .identifier).triple (lockstep_token .equal) inner ?_
    intro name name' _ _ value value' word _ same
    rw [SameStatement, bare_assigned, bare_assigned, same_name word, same]
  · exact inner.map fun _ _ same => congrArg Statement.expression same

end Trees

section Outlines

open Outline

variable {twins : Twins} {expr : Parser Unit}

theorem lockstep_plain (kind : Kind) (role : Role) :
    twins.Lockstep Eq (plain kind role) (plain kind role) := (lockstep_emit kind role).discard

theorem lockstep_deferred (kind : Kind) (role : Role) :
    twins.Lockstep Eq (deferred kind role) (deferred kind role) := (lockstep_defer kind role).discard

/-- The steps of a rule are outlined alike when each of them is. -/
theorem lockstep_steps {parsers : List (Parser Unit)}
    (all : ∀ parser ∈ parsers, twins.Lockstep Eq parser parser) :
    twins.Lockstep Eq (discard (sequence parsers)) (discard (sequence parsers)) :=
  (lockstep_sequence all).discard

/-- An atom has the same outline. -/
theorem lockstep_atom (inner : twins.Lockstep Eq expr expr) :
    twins.Lockstep Eq (atom expr) (atom expr) := by
  refine lockstep_steps ?_
  rintro parser (_ | ⟨_, _ | ⟨_, _ | ⟨_, _ | ⟨_, _ | ⟨_, ⟨⟩⟩⟩⟩⟩⟩)
  · exact lockstep_deferred _ _
  · exact inner
  · exact lockstep_deferred _ _
  · exact lockstep_pop
  · exact lockstep_pop

/-- A function has the same outline. -/
theorem lockstep_outlinedFunction (inner : twins.Lockstep Eq expr expr) :
    twins.Lockstep Eq (function expr) (function expr) := by
  refine lockstep_steps ?_
  rintro parser (_ | ⟨_, _ | ⟨_, _ | ⟨_, _ | ⟨_, ⟨⟩⟩⟩⟩⟩)
  · exact lockstep_plain _ _
  · exact lockstep_deferred _ _
  · exact inner
  · exact lockstep_pop

/-- An application has the same outline. -/
theorem lockstep_outlinedApplication (inner : twins.Lockstep Eq expr expr) :
    twins.Lockstep Eq (application expr) (application expr) := by
  refine lockstep_steps ?_
  rintro parser (_ | ⟨_, _ | ⟨_, _ | ⟨_, ⟨⟩⟩⟩⟩)
  · exact lockstep_choice (List.forall_mem_cons.2 ⟨lockstep_atom (lockstep_outlinedFunction inner),
      List.forall_mem_singleton.2 (lockstep_plain _ _)⟩)
  · exact inner
  · exact lockstep_mark _

/-- An expression of a given depth has the same outline. -/
theorem lockstep_outlinedExpression (depth : Nat) :
    twins.Lockstep Eq (expressionWithin depth) (expressionWithin depth) := by
  induction depth with
  | zero => exact fun _ _ parallel => .fault _ parallel
  | succ depth ih =>
      refine lockstep_choice ?_
      rintro parser (_ | ⟨_, _ | ⟨_, _ | ⟨_, _ | ⟨_, ⟨⟩⟩⟩⟩⟩)
      · exact lockstep_outlinedApplication ih
      · exact lockstep_atom ih
      · exact lockstep_outlinedFunction ih
      · exact lockstep_plain _ _

/-- A statement has the same outline. -/
theorem lockstep_outlinedStatement : twins.Lockstep Eq statement statement := by
  intro state state' parallel
  rw [statement, statement, parallel.significant, parallel.significant', twins.size_eq]
  have inner : twins.Lockstep Eq _ _ :=
    lockstep_outlinedExpression (twins.right.significant.size + 1)
  refine lockstep_choice (List.forall_mem_cons.2 ⟨?_, List.forall_mem_singleton.2 inner⟩) _ _ parallel
  refine lockstep_steps ?_
  rintro parser (_ | ⟨_, _ | ⟨_, _ | ⟨_, _ | ⟨_, ⟨⟩⟩⟩⟩⟩)
  · exact lockstep_deferred _ _
  · exact lockstep_plain _ _
  · exact inner
  · exact lockstep_pop

end Outlines

end Twins

/-- These are the words of the significant tokens of a buffer. -/
def Buffer.words (buffer : Buffer) : Except Fault (List Word) :=
  buffer.tokens.map fun tokens => (significantTokens tokens).map Token.word

/-- A node is at a place when its handle is that of the significant token there. -/
def Node.IsAt (buffer : Buffer) (place : Nat) (node : Node) : Prop :=
  ∃ handle : Handle, (State.ofBuffer buffer).significant[place]? = some handle ∧ node.handle = handle

/-- Two outlines are the same when they have the same roles at the same places. -/
def SameOutline (buffer buffer' : Buffer) : List Node → List Node → Prop :=
  List.Forall₂ fun node node' => node.role = node'.role ∧
    ∃ place, node.IsAt buffer place ∧ node'.IsAt buffer' place

/-- Two lists are related through others with the same images. -/
theorem forall₂_through {A A' B B' C : Type} {related : A → B → Prop} {related' : A' → B' → Prop}
    {image : B → C} {image' : B' → C} {first : List A} {second : List B}
    (left : List.Forall₂ related first second) {first' : List A'} {second' : List B'}
    (right : List.Forall₂ related' first' second') (same : second.map image = second'.map image') :
    List.Forall₂ (fun a a' => ∃ b b', related a b ∧ related' a' b' ∧ image b = image' b') first first' := by
  induction left generalizing first' second' with
  | nil =>
      cases right with
      | nil => exact .nil
      | cons => cases same
  | cons here _ ih =>
      cases right with
      | nil => cases same
      | cons there later =>
          obtain ⟨head, tail⟩ := List.cons.inj same
          exact .cons ⟨_, _, here, there, head⟩ (ih later tail)

/-- Two buffers with the same words start twin parses. -/
theorem exists_twins {source source' : Bytes}
    (same : (Reading.ofBytes source).buffer.words = (Reading.ofBytes source').buffer.words) :
    ∃ twins : Twins, twins.left = .ofBuffer (Reading.ofBytes source).buffer ∧
      twins.right = .ofBuffer (Reading.ofBytes source').buffer := by
  obtain ⟨segments, tail, misreadings, cut⟩ := exists_cut .start source.glyphs
  obtain ⟨segments', tail', misreadings', cut'⟩ := exists_cut .start source'.glyphs
  rw [Buffer.words, Buffer.words, cut.tokens, cut'.tokens] at same
  exact ⟨⟨_, _, forall₂_through cut.facing.ahead cut'.facing.ahead (Except.ok.inj same)⟩, rfl, rfl⟩

theorem Twins.parallel_start {twins : Twins} {buffer buffer' : Buffer}
    (left : twins.left = .ofBuffer buffer) (right : twins.right = .ofBuffer buffer') :
    twins.Parallel (.ofBuffer buffer) (.ofBuffer buffer') where
  input := by rw [left]
  input' := by rw [right]
  significant := by rw [left]
  significant' := by rw [right]
  nodes := .nil
  stack := .nil
  reports := rfl
  furthest := rfl

/-- Results stay alike whatever is made of their values, as long as the values stay related. -/
theorem Result.Alike.map {A B C D : Type} {related : A → B → Prop} {related' : C → D → Prop}
    {result : Result A} {result' : Result B} (alike : Result.Alike related result result') {f : A → C}
    {g : B → D} (good : ∀ value value', related' (f value) (g value')) :
    Result.Alike related' (result.map f) (result'.map g) := by
  cases alike with
  | ok => exact .ok (good _ _)
  | report same => exact .report same
  | fault fault => exact .fault fault

/-- The outlines of twins are the same. -/
theorem Twins.outline_alike {twins : Twins} {buffer buffer' : Buffer}
    (left : twins.left = .ofBuffer buffer) (right : twins.right = .ofBuffer buffer') :
    Result.Alike (SameOutline buffer buffer') buffer.outline buffer'.outline := by
  obtain ⟨alike, parallel⟩ := lockstep_outlinedStatement.run (parallel_start left right)
  have nodes : SameOutline buffer buffer' (Outline.statement.run (.ofBuffer buffer)).2.outline
      (Outline.statement.run (.ofBuffer buffer')).2.outline := by
    rw [SameOutline, State.outline, State.outline, List.forall₂_map_left_iff, List.forall₂_map_right_iff]
    refine parallel.nodes.imp fun record record' same => ⟨same.role, ?_⟩
    obtain ⟨place, found, found'⟩ := same.handle
    rw [left] at found
    rw [right] at found'
    exact ⟨place, ⟨_, found, rfl⟩, ⟨_, found', rfl⟩⟩
  exact alike.map fun _ _ => nodes

/-- Texts whose significant tokens are the same words are parsed alike: as the same trees, or they are
rejected for the same causes in the same order. So are their outlines, of which the nodes have the same
roles at the same places among the significant tokens. -/
theorem parse_wordwise (source source' : Bytes)
    (same : (Reading.ofBytes source).buffer.words = (Reading.ofBytes source').buffer.words) :
    let buffer := (Reading.ofBytes source).buffer
    let buffer' := (Reading.ofBytes source').buffer
    Result.Alike SameTree buffer.parseExpression buffer'.parseExpression ∧
    Result.Alike SameStatement buffer.parseStatement buffer'.parseStatement ∧
    Result.Alike (SameOutline buffer buffer') buffer.outline buffer'.outline := by
  intro buffer buffer'
  obtain ⟨twins, left, right⟩ := exists_twins same
  have start := Twins.parallel_start left right
  exact ⟨(Twins.lockstep_expression.run start).1, (Twins.lockstep_statement.run start).1,
    Twins.outline_alike left right⟩

/-- Comments and line breaks between the words do not matter. -/
theorem spreadApplication_wordwise :
    let source : Bytes := encode "f (x: x + 1) y)"
    let source' : Bytes := encode "f -- call\n ( x :\n\tx+1 -\x7b sum \x7d- )y )\n"
    (Reading.ofBytes source).buffer.words = (Reading.ofBytes source').buffer.words ∧
    Result.Alike SameTree (Reading.ofBytes source).buffer.parseExpression
      (Reading.ofBytes source').buffer.parseExpression ∧
    Result.Alike (SameOutline (Reading.ofBytes source).buffer (Reading.ofBytes source').buffer)
      (Reading.ofBytes source).buffer.outline (Reading.ofBytes source').buffer.outline := by
  intro source source'
  have same : (Reading.ofBytes source).buffer.words = (Reading.ofBytes source').buffer.words := by
    decide +kernel
  obtain ⟨expression, _, outline⟩ := parse_wordwise source source' same
  exact ⟨same, expression, outline⟩

end Reckon
