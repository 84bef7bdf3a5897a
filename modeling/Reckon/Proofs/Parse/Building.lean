/-
This file tells which trees a sentence builds. The rules are those of the grammar, each with the tree that
it makes of its tokens and of the trees of its parts.
-/

import Reckon.Proofs.Expression.Parsable
import Reckon.Proofs.Parse.Rules
import Reckon.Proofs.Parse.Sentence

namespace Reckon

open Grammar

/-- A sound token stands for a name or a number that can be written again. -/
structure Token.Sound (token : Token) : Prop where
  name : token.kind = .identifier → IsName token.name
  integer : token.kind = .integer →
    ∃ value, integerValue token.lexeme = .ok (.ok value) ∧ 0 ≤ value.toInt
  float : token.kind = .float → ∃ value, floatValue token.lexeme = .ok value ∧ IsPlain value

/-- The literal of a numeral can be parsed again. -/
theorem Token.Sound.literal {token : Token} (sound : token.Sound)
    (numeral : token.kind = .integer ∨ token.kind = .float) {span : Span} :
    (Expression.literal span (numeralLiteral token)).Parsable := by
  rcases numeral with kind | kind
  · obtain ⟨value, read, positive⟩ := sound.integer kind
    simp only [numeralLiteral, kind, read]
    exact .int positive
  · obtain ⟨value, read, plain⟩ := sound.float kind
    simp only [numeralLiteral, kind, read]
    exact .float plain

namespace Symbol

/-- A symbol passes the trees of its only part on. -/
inductive Passes : (part whole : Symbol) → Prop where
  | function : Passes .function .expression
  | sum : Passes .sum .expression
  | product : Passes .product .sum
  | factor : Passes .factor .product
  | unary : Passes .unary .factor
  | application : Passes .application .factor
  | term : Passes .term .factor
  | callee : Passes .callee .application
  | number : Passes .number .term
  | unit : Passes .unit .term
  | list : Passes .list .term
  | element : Passes .expression .elements

/-- Operations of one level join the parts of a chain. -/
inductive Joins : (part whole : Symbol) → (operators : List (Kind × Operator)) → Prop where
  | sum : Joins .product .sum sumOperators
  | product : Joins .factor .product productOperators

/-- Brackets only enclose the tree of their part. -/
inductive Encloses : (part whole : Symbol) → (left right : Kind) → Prop where
  | paren : Encloses .expression .term .leftParen .rightParen
  | brace : Encloses .expression .term .leftBrace .rightBrace
  | callee : Encloses .function .callee .leftParen .rightParen

/-- A name stands for itself where it is a term and where it is called. -/
inductive Names : (whole : Symbol) → Prop where
  | term : Names .term
  | callee : Names .callee

/-- A sentence builds trees. There is exactly one of them, except for the elements of a list. -/
inductive Builds : Symbol → List Token → List Expression → Prop where
  | passed {part whole : Symbol} {word : List Token} {values : List Expression}
      (passes : Passes part whole) (inner : Builds part word values) : Builds whole word values
  | joined {part whole : Symbol} {operators : List (Kind × Operator)} {word other : List Token}
      {token : Token} {operator : Operator} {first second : Expression}
      (joins : Joins part whole operators) (left : Builds whole word [first])
      (known : operators.lookup token.kind = some operator) (right : Builds part other [second]) :
      Builds whole (word ++ token :: other)
        [.binary (first.extent.around second.extent) operator first second]
  | enclosed {part whole : Symbol} {opening closing : Token} {word : List Token} {value : Expression}
      (encloses : Encloses part whole opening.kind closing.kind) (inner : Builds part word [value]) :
      Builds whole (opening :: word ++ [closing]) [value]
  | name {whole : Symbol} {token : Token} (names : Names whole) (isName : token.kind = .identifier) :
      Builds whole [token] [.ident token.span token.name]
  | number {token : Token} (numeral : token.kind = .integer ∨ token.kind = .float) :
      Builds .number [token] [.literal token.span (numeralLiteral token)]
  | unit {opening closing : Token} (opens : opening.kind = .leftParen)
      (closes : closing.kind = .rightParen) :
      Builds .unit [opening, closing] [.literal (opening.span.around closing.span) .unit]
  | unary {sign : Token} {operator : Operator} {word : List Token} {operand : Expression}
      (known : sumOperators.lookup sign.kind = some operator) (inner : Builds .term word [operand]) :
      Builds .unary (sign :: word) [.unary (sign.span.around operand.extent) operator operand]
  | function {param colon : Token} {word : List Token} {body : Expression}
      (isName : param.kind = .identifier) (isColon : colon.kind = .colon)
      (inner : Builds .expression word [body]) : Builds .function (param :: colon :: word)
        [.function (param.span.around body.extent) param.name body]
  | application {word other : List Token} {callee arg : Expression}
      (left : Builds .callee word [callee]) (right : Builds .expression other [arg])
      (unsigned : Unsigned (other.map Token.kind)) : Builds .application (word ++ other)
        [.apply (callee.extent.around arg.extent) callee arg]
  | list_empty {opening closing : Token} (opens : opening.kind = .leftBracket)
      (closes : closing.kind = .rightBracket) :
      Builds .list [opening, closing] [.list (opening.span.around closing.span) []]
  | list {opening closing : Token} {word : List Token} {elems : List Expression}
      (opens : opening.kind = .leftBracket) (closes : closing.kind = .rightBracket)
      (inner : Builds .elements word elems) : Builds .list (opening :: word ++ [closing])
        [.list (opening.span.around closing.span) elems]
  | elements {word other : List Token} {comma : Token} {elems : List Expression} {elem : Expression}
      (left : Builds .elements word elems) (isComma : comma.kind = .comma)
      (right : Builds .expression other [elem]) :
      Builds .elements (word ++ comma :: other) (elems ++ [elem])

/-- A sentence gives a tree when it builds this one alone. -/
abbrev Gives (symbol : Symbol) (tokens : List Token) (value : Expression) : Prop :=
  Builds symbol tokens [value]

/-- A statement is built from its expression. -/
inductive BuildsStatement : List Token → Statement → Prop where
  | assignment {name equal : Token} {word : List Token} {value : Expression}
      (isName : name.kind = .identifier) (isEqual : equal.kind = .equal)
      (inner : Builds .expression word [value]) :
      BuildsStatement (name :: equal :: word) (assigned name value)
  | expression {word : List Token} {value : Expression} (inner : Builds .expression word [value]) :
      BuildsStatement word (.expression value)

/-- What an operator joins may stand alone. -/
theorem Joins.passes {part whole : Symbol} {operators : List (Kind × Operator)}
    (joins : Joins part whole operators) : Passes part whole := by
  cases joins with
  | sum => exact .product
  | product => exact .factor

/-- What joins two operands is a binary operator. -/
theorem Joins.isBinary {part whole : Symbol} {operators : List (Kind × Operator)} {kind : Kind}
    {operator : Operator} (joins : Joins part whole operators)
    (known : operators.lookup kind = some operator) : operator.isBinary = true := by
  cases joins with
  | sum => rcases lookup_sumOperators.1 known with ⟨_, rfl⟩ | ⟨_, rfl⟩ <;> rfl
  | product => rcases lookup_productOperators.1 known with ⟨_, rfl⟩ | ⟨_, rfl⟩ | ⟨_, rfl⟩ <;> rfl

/-- Only a function is enclosed to be called. -/
theorem Encloses.function {part : Symbol} {left right : Kind}
    (encloses : Encloses part .callee left right) : part = .function := by
  cases encloses
  rfl

section Derivations

variable {part whole : Symbol} {operators : List (Kind × Operator)} {word other : List Kind}

/-- A symbol derives what it passes on. -/
theorem Passes.derives (passes : Passes part whole) (inner : Derives part word) :
    Derives whole word := by
  cases passes with
  | function => exact .expression_function inner
  | sum => exact .expression_sum inner
  | product => exact .sum_one inner
  | factor => exact .product_one inner
  | unary => exact .factor_unary inner
  | application => exact .factor_application inner
  | term => exact .factor_term inner
  | callee => exact .application_alone inner
  | number => exact .term_number inner
  | unit => exact .term_unit inner
  | list => exact .term_list inner
  | element => exact .elements_one inner

/-- A symbol derives the operands that it joins, with the operator between them. -/
theorem Joins.derives (joins : Joins part whole operators) {kind : Kind} {operator : Operator}
    (known : operators.lookup kind = some operator) (left : Derives whole word)
    (right : Derives part other) : Derives whole (word ++ kind :: other) := by
  cases joins with
  | sum => exact .sum_more left ((lookup_sumOperators.1 known).imp And.left And.left) right
  | product =>
      have isProduct := (lookup_productOperators.1 known).imp And.left (Or.imp And.left And.left)
      exact .product_more left isProduct right

/-- A symbol derives what it encloses, with the brackets around it. -/
theorem Encloses.derives {left right : Kind} (encloses : Encloses part whole left right)
    (inner : Derives part word) : Derives whole (left :: word ++ [right]) := by
  cases encloses with
  | paren => exact .term_paren inner
  | brace => exact .term_brace inner
  | callee => exact .callee_function inner

end Derivations

section Building

variable {symbol : Symbol} {tokens : List Token} {values : List Expression}

/-- The kinds of tokens that build trees are a sentence of the grammar. -/
theorem Builds.derives (builds : Builds symbol tokens values) :
    Derives symbol (tokens.map Token.kind) := by
  induction builds with
  | passed passes _ ih => exact passes.derives ih
  | joined joins _ known _ left right =>
      rw [List.map_append, List.map_cons]
      exact joins.derives known left right
  | enclosed encloses _ ih =>
      rw [List.map_append, List.map_cons, List.map_singleton]
      exact encloses.derives ih
  | name names isName =>
      rw [List.map_singleton, isName]
      cases names with
      | term => exact .term_name
      | callee => exact .callee_name
  | number numeral =>
      rw [List.map_singleton]
      rcases numeral with kind | kind
      · exact kind ▸ .integer
      · exact kind ▸ .float
  | unit opens closes =>
      rw [List.map_cons, List.map_singleton, opens, closes]
      exact .unit
  | unary known _ ih =>
      exact .unary ((lookup_sumOperators.1 known).imp And.left And.left) ih
  | function isName isColon _ ih =>
      rw [List.map_cons, List.map_cons, isName, isColon]
      exact .function ih
  | application _ _ unsigned left right =>
      rw [List.map_append]
      exact .application left right unsigned
  | list_empty opens closes =>
      rw [List.map_cons, List.map_singleton, opens, closes]
      exact .list_empty
  | list opens closes _ ih =>
      rw [List.map_append, List.map_cons, List.map_singleton, opens, closes]
      exact .list ih
  | elements _ isComma _ left right =>
      rw [List.map_append, List.map_cons, isComma]
      exact .elements_more left right

theorem Builds.length_pos (builds : Builds symbol tokens values) : 0 < tokens.length := by
  have some := List.length_pos_iff.2 builds.derives.ne_nil
  rwa [List.length_map] at some

/-- What is called is a name or a function. -/
theorem Builds.callable (builds : Builds symbol tokens values)
    (which : symbol = .callee ∨ symbol = .function) : ∀ value ∈ values, value.isCallable = true := by
  induction builds with
  | passed passes _ _ => rcases which with rfl | rfl <;> cases passes
  | joined joins _ _ _ _ _ => rcases which with rfl | rfl <;> cases joins
  | enclosed encloses _ ih =>
      rcases which with rfl | rfl
      · exact ih (.inr encloses.function)
      · cases encloses
  | name _ _ => exact List.forall_mem_singleton.2 rfl
  | function _ _ _ _ => exact List.forall_mem_singleton.2 rfl
  | _ => rcases which with impossible | impossible <;> cases impossible

/-- Sound tokens build trees that a source text can stand for. -/
theorem Builds.parsable (builds : Builds symbol tokens values) (sound : ∀ token ∈ tokens, token.Sound) :
    ∀ value ∈ values, value.Parsable := by
  induction builds with
  | passed _ _ ih => exact ih sound
  | joined joins _ known _ first second =>
      obtain ⟨left, right⟩ := List.forall_mem_append.1 sound
      have parsable := List.forall_mem_singleton.1 (first left)
      have parsable' := List.forall_mem_singleton.1 (second (List.forall_mem_cons.1 right).2)
      exact List.forall_mem_singleton.2 (.binary (joins.isBinary known) parsable parsable')
  | enclosed _ _ ih =>
      exact ih (List.forall_mem_append.1 (List.forall_mem_cons.1 sound).2).1
  | name _ isName =>
      exact List.forall_mem_singleton.2 (.ident ((List.forall_mem_singleton.1 sound).name isName))
  | number numeral => exact List.forall_mem_singleton.2 ((List.forall_mem_singleton.1 sound).literal numeral)
  | unit _ _ => exact List.forall_mem_singleton.2 .unit
  | unary known _ ih =>
      have parsable := List.forall_mem_singleton.1 (ih (List.forall_mem_cons.1 sound).2)
      refine List.forall_mem_singleton.2 (.unary ?_ parsable)
      rcases lookup_sumOperators.1 known with ⟨_, rfl⟩ | ⟨_, rfl⟩ <;> rfl
  | function isName _ _ ih =>
      obtain ⟨named, rest⟩ := List.forall_mem_cons.1 sound
      have parsable := List.forall_mem_singleton.1 (ih (List.forall_mem_cons.1 rest).2)
      exact List.forall_mem_singleton.2 (.function (named.name isName) parsable)
  | application left _ _ first second =>
      obtain ⟨front, back⟩ := List.forall_mem_append.1 sound
      have callable := List.forall_mem_singleton.1 (left.callable (.inl rfl))
      have parsable := List.forall_mem_singleton.1 (first front)
      exact List.forall_mem_singleton.2
        (.apply callable parsable (List.forall_mem_singleton.1 (second back)))
  | list_empty _ _ => exact List.forall_mem_singleton.2 (.list (List.forall_mem_nil _))
  | list _ _ _ ih =>
      have inner := (List.forall_mem_append.1 (List.forall_mem_cons.1 sound).2).1
      exact List.forall_mem_singleton.2 (.list (ih inner))
  | elements _ _ _ first second =>
      obtain ⟨left, right⟩ := List.forall_mem_append.1 sound
      exact List.forall_mem_append.2 ⟨first left, second (List.forall_mem_cons.1 right).2⟩

end Building

section Statements

variable {tokens : List Token} {statement : Statement}

/-- Tokens from which a statement is built derive a statement. -/
theorem BuildsStatement.derives (builds : BuildsStatement tokens statement) :
    Derives .statement (tokens.map Token.kind) := by
  cases builds with
  | assignment isName isEqual inner =>
      rw [List.map_cons, List.map_cons, isName, isEqual]
      exact .statement_assignment (.assignment inner.derives)
  | expression inner => exact .statement_expression inner.derives

/-- An assignment is parsable when its name is a name and its value is parsable. -/
theorem parsable_assigned {name : Token} {value : Expression} (isName : IsName name.name)
    (parsable : value.Parsable) : (assigned name value).Parsable := by
  unfold assigned
  cases parsable with
  | function isParam body => exact ⟨isName, isParam, body⟩
  | int positive => exact ⟨isName, .int positive⟩
  | float plain => exact ⟨isName, .float plain⟩
  | unit => exact ⟨isName, .unit⟩
  | ident isName' => exact ⟨isName, .ident isName'⟩
  | unary isUnary inner => exact ⟨isName, .unary isUnary inner⟩
  | binary isBinary first second => exact ⟨isName, .binary isBinary first second⟩
  | apply callable first second => exact ⟨isName, .apply callable first second⟩
  | list inner => exact ⟨isName, .list inner⟩

/-- A statement that is built from sound tokens is parsable. -/
theorem BuildsStatement.parsable (builds : BuildsStatement tokens statement)
    (sound : ∀ token ∈ tokens, token.Sound) : statement.Parsable := by
  cases builds with
  | assignment isName _ inner =>
      obtain ⟨named, rest⟩ := List.forall_mem_cons.1 sound
      have parsable := inner.parsable (List.forall_mem_cons.1 rest).2
      exact parsable_assigned (named.name isName) (List.forall_mem_singleton.1 parsable)
  | expression inner => exact inner.parsable sound _ (List.mem_singleton_self _)

end Statements

end Symbol

end Reckon
