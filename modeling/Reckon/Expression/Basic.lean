/-
This file defines the expressions and statements of the language.
-/

import Reckon.Fault
import Reckon.Location
import Reckon.Operator

namespace Reckon

/-- A literal of another sort than the first three is invalid, and only has a text to show. -/
inductive Literal where
  | int (value : Int64)
  | float (value : Float)
  | unit
  | other (shown : String)
  deriving Repr, Inhabited

/-- A hole stands where an expression is missing. No expression that was read from a source text
has one. -/
inductive Expression where
  | hole
  | literal (span : Span) (value : Literal)
  | ident (span : Span) (name : String)
  | unary (span : Span) (operator : Operator) (operand : Expression)
  | binary (span : Span) (operator : Operator) (left right : Expression)
  /-- This is the function `param: body`. -/
  | function (span : Span) (param : String) (body : Expression)
  /-- This is the application `callee arg`. -/
  | apply (span : Span) (callee arg : Expression)
  | list (span : Span) (elems : List Expression)
  deriving Repr, Inhabited

/-- A missing statement stands where a statement should be. -/
inductive Statement where
  | missing
  /-- This is the assignment `name = value`. -/
  | assign (span : Span) (name : String) (value : Expression)
  /-- This is the definition `name = param: body`. -/
  | define (span : Span) (name param : String) (body : Expression)
  | expression (value : Expression)
  deriving Repr, Inhabited

/-- This is the text of a place where a tree is missing. -/
def missingText : String := "<nil>"

/-- This is the span of an expression, and the zero span for a hole. -/
def Expression.extent : Expression → Span
  | hole => ⟨⟨0, 0, 0⟩, ⟨0, 0, 0⟩⟩
  | literal span _ => span
  | ident span _ => span
  | unary span _ _ => span
  | binary span _ _ _ => span
  | function span _ _ => span
  | apply span _ _ => span
  | list span _ => span

/-- A hole has no span. -/
def Expression.span : Expression → Except Fault Span
  | hole => .error .missingTree
  | expression => .ok expression.extent

/-- An expression as a statement has the span of the expression. -/
def Statement.span : Statement → Except Fault Span
  | missing => .error .missingTree
  | assign span _ _ => .ok span
  | define span _ _ _ => .ok span
  | expression value => value.span

/-- An interpretation gives a meaning to each construct from the meanings of its parts. -/
structure Interpretation (A : Type) where
  literal : Literal → Except Fault A
  ident : String → A
  unary : Operator → A → A
  binary : Operator → A → A → A
  function : String → A → A
  apply : A → A → A
  list : List A → A

namespace Expression

mutual

/-- This is the meaning of an expression. The parts have theirs from left to right. -/
def fold {A : Type} (meaning : Interpretation A) : Expression → Except Fault A
  | hole => .error (.invalidNode missingText)
  | literal _ value => meaning.literal value
  | ident _ name => .ok (meaning.ident name)
  | unary _ operator operand => do
      let operand ← fold meaning operand
      return meaning.unary operator operand
  | binary _ operator left right => do
      let left ← fold meaning left
      let right ← fold meaning right
      return meaning.binary operator left right
  | function _ param body => do
      let body ← fold meaning body
      return meaning.function param body
  | apply _ callee arg => do
      let callee ← fold meaning callee
      let arg ← fold meaning arg
      return meaning.apply callee arg
  | list _ elems => do
      let elems ← foldAll meaning elems
      return meaning.list elems

def foldAll {A : Type} (meaning : Interpretation A) : List Expression → Except Fault (List A)
  | [] => .ok []
  | elem :: elems => do
      let elem ← fold meaning elem
      let elems ← foldAll meaning elems
      return elem :: elems

end

end Expression

end Reckon
