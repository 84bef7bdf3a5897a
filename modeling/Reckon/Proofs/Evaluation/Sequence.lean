/-
This file shows that the parts of an expression are evaluated one after the other, up to the first one
without a value.
-/

import Reckon.Evaluation

namespace Reckon.Expression

/-- This evaluates the body of a closure while calls still nest at most `depth` deep. -/
def callWithin (globals : Bindings) (limit : Nat) :
    Nat → Span → Scope → Expression → Result Value
  | 0, span, _, _ => reportAt span (.callDepth limit)
  | depth + 1, _, scope, body => body.evalWithin globals limit depth scope

/-- An evaluation with a limit is one whose calls count the depth. -/
theorem evalWithin_eq (globals : Bindings) (limit depth : Nat) (scope : Scope)
    (expression : Expression) :
    expression.evalWithin globals limit depth scope =
      expression.evalWith globals (callWithin globals limit depth) scope := by
  cases depth <;> rfl

variable {globals : Bindings} {call : Span → Scope → Expression → Result Value} {scope : Scope}

/-- The operand comes before its sign. -/
theorem evalWith_unary (span : Span) (operator : Operator) (operand : Expression) :
    (unary span operator operand).evalWith globals call scope =
      operand.evalWith globals call scope >>= operator.applyUnary span := by
  rw [evalWith]
  cases operand.evalWith globals call scope <;> rfl

/-- The left operand comes before the right one, and both before the operator. -/
theorem evalWith_binary (span : Span) (operator : Operator) (left right : Expression) :
    (binary span operator left right).evalWith globals call scope =
      left.evalWith globals call scope >>= fun value =>
        right.evalWith globals call scope >>= operator.applyBinary span value := by
  rw [evalWith]
  cases left.evalWith globals call scope with
  | error trouble => rfl
  | ok value => cases right.evalWith globals call scope <;> rfl

/-- This evaluates an argument for the value of a callee, and then calls it. -/
def evalCall (globals : Bindings) (call : Span → Scope → Expression → Result Value)
    (scope : Scope) (span place : Span) (arg : Expression) : Value → Result Value
  | .closure param body outer =>
      arg.evalWith globals call scope >>= fun value => call span (.call param value outer) body
  | value => reportAt place (.notCallable value.variety)

/-- The callee comes before the call. -/
theorem evalWith_apply (span : Span) (callee arg : Expression) :
    (apply span callee arg).evalWith globals call scope =
      callee.evalWith globals call scope >>=
        evalCall globals call scope span callee.extent arg := by
  rw [evalWith]
  cases callee.evalWith globals call scope with
  | error trouble => rfl
  | ok value =>
      cases value with
      | int | float | unit | list => rfl
      | closure param body outer =>
          change _ = arg.evalWith globals call scope >>= fun value =>
            call span (.call param value outer) body
          cases arg.evalWith globals call scope <;> rfl

/-- A list has the values of its elements. -/
theorem evalWith_list (span : Span) (elems : List Expression) :
    (list span elems).evalWith globals call scope =
      evalElements globals call scope none elems >>= fun values => .ok (.list values) := by
  rw [evalWith]
  cases evalElements globals call scope none elems <;> rfl

/-- This evaluates the elements of a list after one with the given value. -/
def evalLater (globals : Bindings) (call : Span → Scope → Expression → Result Value)
    (scope : Scope) (expected : Option Variety) (place : Span) (elems : List Expression)
    (value : Value) : Result (List Value) :=
  let first := expected.getD value.variety
  if value.variety = first then
    evalElements globals call scope (some first) elems >>= fun values => .ok (value :: values)
  else reportAt place (.mixedList first value.variety)

/-- An element comes before the later ones. -/
theorem evalElements_cons (expected : Option Variety) (elem : Expression)
    (elems : List Expression) :
    evalElements globals call scope expected (elem :: elems) =
      elem.evalWith globals call scope >>=
        evalLater globals call scope expected elem.extent elems := by
  rw [evalElements]
  cases elem.evalWith globals call scope with
  | error trouble => rfl
  | ok value =>
      change _ = evalLater _ _ _ _ _ _ _
      rw [evalLater]
      dsimp only
      split
      · cases evalElements globals call scope (some (expected.getD value.variety)) elems <;> rfl
      · rfl

end Reckon.Expression
