/-
This file evaluates expressions and executes statements.
-/

import Reckon.Value

namespace Reckon

/-- This reports a cause at a span. -/
def reportAt {A : Type} (span : Span) (cause : Cause) : Result A :=
  .error (.report (.atSpan span cause))

/-- An invalid literal has no value. -/
def Literal.value : Literal → Result Value
  | int value => .ok (.int value)
  | float value => .ok (.float value)
  | unit => .ok .unit
  | other shown => .error (.fault (.invalidLiteral shown))

/-- Integer arithmetic wraps around at sixty-four bits, and the quotient goes toward zero. -/
def Operator.onInts (span : Span) (operator : Operator) (left right : Int64) : Result Value :=
  match operator with
  | add => .ok (.int (left + right))
  | sub => .ok (.int (left - right))
  | mul => .ok (.int (left * right))
  | div => if right = 0 then reportAt span .divisionByZero else .ok (.int (left / right))
  | mod => if right = 0 then reportAt span .divisionByZero else .ok (.int (left % right))
  | other code => .error (.fault (.invalidOperator (other code).text))

/-- Floats have no remainder. -/
def Operator.onFloats? (operator : Operator) (left right : Float) : Option Float :=
  match operator with
  | add => some (left + right)
  | sub => some (left - right)
  | mul => some (left * right)
  | div => some (left / right)
  | _ => none

/-- This applies a sign to a number. -/
def Operator.applyUnary (span : Span) (operator : Operator) (operand : Value) : Result Value :=
  match operator, operand with
  | sub, .int value => .ok (.int (-value))
  | sub, .float value => .ok (.float (-value))
  | add, .int value => .ok (.int value)
  | add, .float value => .ok (.float value)
  | _, _ => reportAt span (.typeMismatch operator [operand.variety])

/-- This applies an operator to two numbers of one variety. -/
def Operator.applyBinary (span : Span) (operator : Operator) (left right : Value) :
    Result Value :=
  let mismatch : Result Value :=
    reportAt span (.typeMismatch operator [left.variety, right.variety])
  match left, right with
  | .int left, .int right => operator.onInts span left right
  | .float left, .float right =>
      match operator.onFloats? left right with
      | some value => .ok (.float value)
      | none => mismatch
  | _, _ => mismatch

namespace Expression

mutual

/-- This evaluates an expression in a scope. The body of a called closure is evaluated by `call`,
which is given the span of the application. -/
def evalWith (globals : Bindings) (call : Span → Scope → Expression → Result Value)
    (scope : Scope) : Expression → Result Value
  | hole => .error (.fault (.invalidExpression missingText))
  | literal _ value => value.value
  | ident span name =>
      match scope.get? globals name with
      | some value => .ok value
      | none => reportAt span (.unbound name)
  | unary span operator operand =>
      match evalWith globals call scope operand with
      | .ok operand => operator.applyUnary span operand
      | .error trouble => .error trouble
  | binary span operator left right =>
      match evalWith globals call scope left with
      | .error trouble => .error trouble
      | .ok left =>
          match evalWith globals call scope right with
          | .error trouble => .error trouble
          | .ok right => operator.applyBinary span left right
  | function _ param body => .ok (.closure param body scope)
  | apply span callee arg =>
      match evalWith globals call scope callee with
      | .error trouble => .error trouble
      | .ok (.closure param body outer) =>
          match evalWith globals call scope arg with
          | .error trouble => .error trouble
          | .ok arg => call span (.call param arg outer) body
      | .ok value => reportAt callee.extent (.notCallable value.variety)
  | list _ elems =>
      match evalElements globals call scope none elems with
      | .ok elems => .ok (.list elems)
      | .error trouble => .error trouble

/-- All elements of a list have the variety of the first one. -/
def evalElements (globals : Bindings) (call : Span → Scope → Expression → Result Value)
    (scope : Scope) (expected : Option Variety) : List Expression → Result (List Value)
  | [] => .ok []
  | elem :: elems =>
      match evalWith globals call scope elem with
      | .error trouble => .error trouble
      | .ok value =>
          let first := expected.getD value.variety
          if value.variety = first then
            match evalElements globals call scope (some first) elems with
            | .ok values => .ok (value :: values)
            | .error trouble => .error trouble
          else reportAt elem.extent (.mixedList first value.variety)

end

/-- This evaluates an expression inside of which calls nest at most `depth` deep. A deeper call
is reported with the limit. -/
def evalWithin (globals : Bindings) (limit : Nat) : Nat → Scope → Expression → Result Value
  | 0 => evalWith globals fun span _ _ => reportAt span (.callDepth limit)
  | depth + 1 => evalWith globals fun _ scope body => evalWithin globals limit depth scope body

/-- This evaluates an expression in the global scope with the given limit on nested calls. -/
def evalLimited (limit : Nat) (globals : Bindings) (expression : Expression) : Result Value :=
  expression.evalWithin globals limit limit .global

end Expression

/-- Calls nest at most this deep in the evaluation of one statement. -/
def maxCallDepth : Nat := 10000

/-- This evaluates an expression in the global scope. -/
def Expression.eval (globals : Bindings) (expression : Expression) : Result Value :=
  expression.evalLimited maxCallDepth globals

/-- This executes a statement. A statement that binds a name has the value unit, and binds the
name only if its expression has a value. -/
def Statement.exec (globals : Bindings) : Statement → Result (Value × Bindings)
  | missing => .error (.fault (.invalidStatement missingText))
  | assign _ name value =>
      match value.eval globals with
      | .ok value => .ok (.unit, globals.set name value)
      | .error trouble => .error trouble
  | define _ name param body => .ok (.unit, globals.set name (.closure param body .global))
  | expression value =>
      match value.eval globals with
      | .ok value => .ok (value, globals)
      | .error trouble => .error trouble

end Reckon
