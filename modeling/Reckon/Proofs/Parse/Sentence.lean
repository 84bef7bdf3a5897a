/-
This file gives the grammar of the language as a context-free grammar over the kinds of tokens. No
alternative has a priority, and no repetition is greedy.
-/

import Reckon.Parse.Grammar

namespace Reckon

/-- These are the symbols of the grammar that stand for sentences. -/
inductive Symbol where
  | statement
  | assignment
  | expression
  | function
  | sum
  | product
  | factor
  | unary
  | application
  | callee
  | term
  | unit
  | list
  | elements
  | number
  deriving DecidableEq, Repr

namespace Symbol

/-- These kinds are operators of a sum, and signs. -/
def isSumOperator (kind : Kind) : Prop := kind = .plus ∨ kind = .dash

def isProductOperator (kind : Kind) : Prop := kind = .star ∨ kind = .slash ∨ kind = .percent

/-- An argument starts without a sign. -/
def Unsigned (kinds : List Kind) : Prop := ∀ kind ∈ kinds.head?, ¬isSumOperator kind

open Kind in
/-- A symbol derives a sentence. -/
inductive Derives : Symbol → List Kind → Prop where
  /-- stmt = assign | expr -/
  | statement_assignment {word : List Kind} : Derives .assignment word → Derives .statement word
  | statement_expression {word : List Kind} : Derives .expression word → Derives .statement word
  /-- assign = IDENT "=" expr -/
  | assignment {word : List Kind} : Derives .expression word →
      Derives .assignment (identifier :: equal :: word)
  /-- expr = function | sum -/
  | expression_function {word : List Kind} : Derives .function word → Derives .expression word
  | expression_sum {word : List Kind} : Derives .sum word → Derives .expression word
  /-- function = IDENT ":" expr -/
  | function {word : List Kind} : Derives .expression word →
      Derives .function (identifier :: colon :: word)
  /-- sum = product (("+" | "-") product)* -/
  | sum_one {word : List Kind} : Derives .product word → Derives .sum word
  | sum_more {word other : List Kind} {operator : Kind} : Derives .sum word →
      isSumOperator operator → Derives .product other → Derives .sum (word ++ operator :: other)
  /-- product = factor (("*" | "/" | "%") factor)* -/
  | product_one {word : List Kind} : Derives .factor word → Derives .product word
  | product_more {word other : List Kind} {operator : Kind} : Derives .product word →
      isProductOperator operator → Derives .factor other →
      Derives .product (word ++ operator :: other)
  /-- factor = unary | apply | term -/
  | factor_unary {word : List Kind} : Derives .unary word → Derives .factor word
  | factor_application {word : List Kind} : Derives .application word → Derives .factor word
  | factor_term {word : List Kind} : Derives .term word → Derives .factor word
  /-- unary = ("+" | "-") term -/
  | unary {word : List Kind} {sign : Kind} : isSumOperator sign → Derives .term word →
      Derives .unary (sign :: word)
  /-- apply = callee expr?, and the expression starts without a sign -/
  | application_alone {word : List Kind} : Derives .callee word → Derives .application word
  | application {word arg : List Kind} : Derives .callee word → Derives .expression arg →
      Unsigned arg → Derives .application (word ++ arg)
  /-- callee = "(" function ")" | IDENT -/
  | callee_function {word : List Kind} : Derives .function word →
      Derives .callee (leftParen :: word ++ [rightParen])
  | callee_name : Derives .callee [identifier]
  /-- term = number | IDENT | unit | "(" expr ")" | "{" expr "}" | list -/
  | term_number {word : List Kind} : Derives .number word → Derives .term word
  | term_name : Derives .term [identifier]
  | term_unit {word : List Kind} : Derives .unit word → Derives .term word
  | term_paren {word : List Kind} : Derives .expression word →
      Derives .term (leftParen :: word ++ [rightParen])
  | term_brace {word : List Kind} : Derives .expression word →
      Derives .term (leftBrace :: word ++ [rightBrace])
  | term_list {word : List Kind} : Derives .list word → Derives .term word
  /-- unit = "(" ")" -/
  | unit : Derives .unit [leftParen, rightParen]
  /-- list = "[" (expr ("," expr)*)? "]" -/
  | list_empty : Derives .list [leftBracket, rightBracket]
  | list {word : List Kind} : Derives .elements word →
      Derives .list (leftBracket :: word ++ [rightBracket])
  | elements_one {word : List Kind} : Derives .expression word → Derives .elements word
  | elements_more {word other : List Kind} : Derives .elements word → Derives .expression other →
      Derives .elements (word ++ comma :: other)
  /-- number = INTEGER | FLOAT -/
  | integer : Derives .number [integer]
  | float : Derives .number [float]

/-- No sentence is empty. -/
theorem Derives.ne_nil {symbol : Symbol} {word : List Kind} (derives : Derives symbol word) :
    word ≠ [] := by
  induction derives <;> simp_all

/-- An operation continues a sum with an operator and an operand of its level. -/
inductive Continues : Kind → List Kind → Prop where
  | sum {operator : Kind} {word : List Kind} (isSum : isSumOperator operator)
      (derives : Derives .product word) : Continues operator word
  | product {operator : Kind} {word : List Kind} (isProduct : isProductOperator operator)
      (derives : Derives .factor word) : Continues operator word

/-- What continues a sum is a sum itself behind its operator. -/
theorem Continues.derives_sum {operator : Kind} {word : List Kind}
    (continues : Continues operator word) : Derives .sum word := by
  cases continues with
  | sum _ derives => exact .sum_one derives
  | product _ derives => exact .sum_one (.product_one derives)

/-- A sum is continued by an operator. -/
theorem Continues.isOperator {operator : Kind} {word : List Kind}
    (continues : Continues operator word) :
    isSumOperator operator ∨ isProductOperator operator := by
  cases continues with
  | sum isSum _ => exact .inl isSum
  | product isProduct _ => exact .inr isProduct

/-- An operation can be added to a sum, also inside of its last product. -/
theorem Derives.sum_extend {word other : List Kind} {operator : Kind} (derives : Derives .sum word)
    (continues : Continues operator other) : Derives .sum (word ++ operator :: other) := by
  cases continues with
  | sum isSum right => exact .sum_more derives isSum right
  | product isProduct right =>
      cases derives with
      | sum_one left => exact .sum_one (.product_more left isProduct right)
      | sum_more left isSum last =>
          rw [List.append_assoc, List.cons_append]
          exact .sum_more left isSum (.product_more last isProduct right)

/-- An operator joins two sums. -/
theorem Derives.sum_join {symbol : Symbol} {word other : List Kind} {operator : Kind}
    (left : Derives .sum word) (isOperator : isSumOperator operator ∨ isProductOperator operator)
    (right : Derives symbol other) (which : symbol = .product ∨ symbol = .sum) :
    Derives .sum (word ++ operator :: other) := by
  induction right with
  | sum_one _ ih => exact ih (.inl rfl)
  | sum_more _ isSum last ih _ =>
      have joined := (ih (.inr rfl)).sum_extend (.sum isSum last)
      rwa [List.append_assoc, List.cons_append] at joined
  | product_one derives _ =>
      rcases isOperator with isSum | isProduct
      · exact left.sum_extend (.sum isSum (.product_one derives))
      · exact left.sum_extend (.product isProduct derives)
  | product_more _ isProduct last ih _ =>
      have joined := (ih (.inl rfl)).sum_extend (.product isProduct last)
      rwa [List.append_assoc, List.cons_append] at joined
  | _ => rcases which with impossible | impossible <;> cases impossible

/-- An operation can be added to an expression, also inside of the body of a function. -/
theorem Derives.expression_extend {symbol : Symbol} {word other : List Kind} {operator : Kind}
    (derives : Derives symbol word) (continues : Continues operator other)
    (which : symbol = .expression ∨ symbol = .function) :
    Derives symbol (word ++ operator :: other) := by
  induction derives with
  | expression_function _ ih => exact .expression_function (ih (.inr rfl))
  | expression_sum derives _ => exact .expression_sum (derives.sum_extend continues)
  | function _ ih => exact .function (ih (.inl rfl))
  | _ => rcases which with impossible | impossible <;> cases impossible

/-- Behind the first factor of a sum there is nothing, or an operator and another sum. -/
inductive Follows : List Kind → Prop where
  | nothing : Follows []
  | operation {operator : Kind} {word : List Kind}
      (isOperator : isSumOperator operator ∨ isProductOperator operator)
      (derives : Derives .sum word) : Follows (operator :: word)

/-- What follows a factor can be continued. -/
theorem Follows.extend {tail other : List Kind} {operator : Kind} (follows : Follows tail)
    (continues : Continues operator other) : Follows (tail ++ operator :: other) := by
  cases follows with
  | nothing => exact .operation continues.isOperator continues.derives_sum
  | operation isOperator derives => exact .operation isOperator (derives.sum_extend continues)

/-- A sum is read from its first factor on: the argument of an application takes all that is left. -/
inductive Flow : List Kind → Prop where
  | signed {sign : Kind} {word tail : List Kind} (isSign : isSumOperator sign)
      (derives : Derives .term word) (follows : Follows tail) : Flow (sign :: (word ++ tail))
  | term {word tail : List Kind} (derives : Derives .term word) (follows : Follows tail) :
      Flow (word ++ tail)
  | applied {word arg : List Kind} (derives : Derives .callee word)
      (argument : Derives .expression arg) (unsigned : Unsigned arg) : Flow (word ++ arg)

/-- A word without a sign in front stays so with more behind it. -/
theorem Unsigned.extend {word other : List Kind} (unsigned : Unsigned word) (some : word ≠ []) :
    Unsigned (word ++ other) := by
  cases word with
  | nil => exact absurd rfl some
  | cons first word => exact unsigned

/-- The innermost argument absorbs every operation behind it. -/
theorem Flow.extend {word other : List Kind} {operator : Kind} (flow : Flow word)
    (continues : Continues operator other) : Flow (word ++ operator :: other) := by
  cases flow with
  | signed isSign derives follows =>
      rw [List.cons_append, List.append_assoc]
      exact .signed isSign derives (follows.extend continues)
  | term derives follows =>
      rw [List.append_assoc]
      exact .term derives (follows.extend continues)
  | applied derives argument unsigned =>
      rw [List.append_assoc]
      exact .applied derives (argument.expression_extend continues (.inl rfl))
        (unsigned.extend argument.ne_nil)

/-- A callee is a term. -/
theorem Derives.callee_term {word : List Kind} (derives : Derives .callee word) :
    Derives .term word := by
  cases derives with
  | callee_function derives => exact .term_paren (.expression_function derives)
  | callee_name => exact .term_name

/-- A factor flows through all levels. -/
theorem Derives.factor_flow {word : List Kind} (derives : Derives .factor word) : Flow word := by
  cases derives with
  | factor_unary derives =>
      cases derives with
      | @unary word sign isSign derives =>
          have flow := Flow.signed isSign derives .nothing
          rwa [List.append_nil] at flow
  | factor_application derives =>
      cases derives with
      | application_alone derives =>
          have flow := Flow.term derives.callee_term .nothing
          rwa [List.append_nil] at flow
      | application derives argument unsigned => exact .applied derives argument unsigned
  | factor_term derives =>
      have flow := Flow.term derives .nothing
      rwa [List.append_nil] at flow

/-- Every sum can be read from its first factor on. -/
theorem Derives.flow {symbol : Symbol} {word : List Kind} (derives : Derives symbol word)
    (which : symbol = .product ∨ symbol = .sum) : Flow word := by
  induction derives with
  | sum_one _ ih => exact ih (.inl rfl)
  | sum_more _ isSum right ih _ => exact (ih (.inr rfl)).extend (.sum isSum right)
  | product_one derives _ => exact derives.factor_flow
  | product_more _ isProduct right ih _ => exact (ih (.inl rfl)).extend (.product isProduct right)
  | _ => rcases which with impossible | impossible <;> cases impossible

/-- The expressions of a list after the first one have a comma in front. -/
inductive Others : List Kind → Prop where
  | nothing : Others []
  | more {word others : List Kind} (derives : Derives .expression word) (later : Others others) :
      Others (.comma :: (word ++ others))

/-- One more element can stand behind the others. -/
theorem Others.extend {others word : List Kind} (more : Others others)
    (derives : Derives .expression word) : Others (others ++ .comma :: word) := by
  induction more with
  | nothing =>
      have one := Others.more derives .nothing
      rwa [List.append_nil] at one
  | more first _ ih =>
      rw [List.cons_append, List.append_assoc]
      exact .more first ih

/-- Elements are one expression and the others. -/
theorem Derives.elements_others {symbol : Symbol} {word : List Kind} (derives : Derives symbol word)
    (which : symbol = .elements) :
    ∃ first others, word = first ++ others ∧ Derives .expression first ∧ Others others := by
  induction derives with
  | elements_one derives _ => exact ⟨_, [], by simp, derives, .nothing⟩
  | elements_more _ derives ih _ =>
      obtain ⟨first, others, rfl, left, more⟩ := ih rfl
      exact ⟨first, _, List.append_assoc .., left, more.extend derives⟩
  | _ => cases which

end Symbol

end Reckon
