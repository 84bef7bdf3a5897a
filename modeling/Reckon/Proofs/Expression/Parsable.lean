/-
This file defines the expressions that a source text can stand for.
-/

import Reckon.Decimal.Binary64
import Reckon.Expression.Basic
import Reckon.Token.Reader

namespace Reckon

open Text Decimal

/-- A name reads as a single identifier. -/
def IsName (name : String) : Prop :=
  ∃ token final, (Reading.ofBytes (encode name)).buffer.tokens = .ok [token, final] ∧
    token.kind = .identifier ∧ token.lexeme = encode name

/-- A float is plain when it is finite, and not negative, not even as a zero. -/
def IsPlain (value : Float) : Prop :=
  ∃ mantissa exponent, Binary64.ofFloat value = .finite false mantissa exponent

namespace Expression

/-- Only names and functions are applied. -/
def isCallable : Expression → Bool
  | ident _ _ | function _ _ _ => true
  | _ => false

/-- An expression is parsable when a source text can stand for it. -/
inductive Parsable : Expression → Prop where
  | int {span : Span} {value : Int64} (positive : 0 ≤ value.toInt) :
      Parsable (.literal span (.int value))
  | float {span : Span} {value : Float} (plain : IsPlain value) :
      Parsable (.literal span (.float value))
  | unit {span : Span} : Parsable (.literal span .unit)
  | ident {span : Span} {name : String} (isName : IsName name) : Parsable (.ident span name)
  | unary {span : Span} {operator : Operator} {operand : Expression}
      (isUnary : operator.isUnary = true) (inner : Parsable operand) :
      Parsable (.unary span operator operand)
  | binary {span : Span} {operator : Operator} {left right : Expression}
      (isBinary : operator.isBinary = true) (first : Parsable left) (second : Parsable right) :
      Parsable (.binary span operator left right)
  | function {span : Span} {param : String} {body : Expression} (isName : IsName param)
      (inner : Parsable body) : Parsable (.function span param body)
  | apply {span : Span} {callee arg : Expression} (callable : callee.isCallable = true)
      (first : Parsable callee) (second : Parsable arg) : Parsable (.apply span callee arg)
  | list {span : Span} {elems : List Expression} (inner : ∀ elem ∈ elems, Parsable elem) :
      Parsable (.list span elems)

mutual

/-- This is an expression without its spans. -/
def bare : Expression → Expression
  | hole => hole
  | literal _ value => literal ⟨.start, .start⟩ value
  | ident _ name => ident ⟨.start, .start⟩ name
  | unary _ operator operand => unary ⟨.start, .start⟩ operator operand.bare
  | binary _ operator left right => binary ⟨.start, .start⟩ operator left.bare right.bare
  | function _ param body => function ⟨.start, .start⟩ param body.bare
  | apply _ callee arg => apply ⟨.start, .start⟩ callee.bare arg.bare
  | list _ elems => list ⟨.start, .start⟩ (allBare elems)

def allBare : List Expression → List Expression
  | [] => []
  | elem :: elems => elem.bare :: allBare elems

end

end Expression

/-- A statement is parsable when its expressions are. -/
def Statement.Parsable : Statement → Prop
  | missing => False
  | assign _ name value => IsName name ∧ value.Parsable
  | define _ name param body => IsName name ∧ IsName param ∧ body.Parsable
  | expression value => value.Parsable

end Reckon
