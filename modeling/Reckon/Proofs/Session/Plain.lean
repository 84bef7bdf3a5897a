/-
This file shows that literals and operators give values without scopes, and what is reported of them.
-/

import Reckon.Evaluation

namespace Reckon

/-- A plain value refers to no scope. -/
inductive Value.Plain : Value → Prop where
  | int (value : Int64) : Plain (.int value)
  | float (value : Float) : Plain (.float value)
  | unit : Plain .unit

/-- A literal is whole unless it is of another sort. -/
def Literal.isWhole : Literal → Bool
  | other _ => false
  | _ => true

/-- A simple result is a plain value, or it is reported without a word on calls and names. It is a fault
only of what is broken. -/
inductive Result.Simple (broken : Prop) : Result Value → Prop where
  | ok {value : Value} (plain : value.Plain) : Simple broken (.ok value)
  | report {span : Span} {cause : Cause} (other : ∀ limit, cause ≠ .callDepth limit)
      (known : ∀ name, cause ≠ .unbound name) : Simple broken (reportAt span cause)
  | fault {fault : Fault} (breaks : broken) : Simple broken (.error (.fault fault))

/-- A value of a simple result is plain. -/
theorem Result.Simple.plain {broken : Prop} {result : Result Value} {value : Value}
    (simple : result.Simple broken) (found : result = .ok value) : value.Plain := by
  cases simple with
  | ok plain =>
      cases found
      exact plain
  | report | fault => cases found

variable {span : Span} {operator : Operator} {left right value : Value}

/-- The value of a literal is simple. -/
theorem Literal.value_simple (literal : Literal) :
    literal.value.Simple (literal.isWhole ≠ true) := by
  cases literal with
  | int number => exact .ok (.int number)
  | float number => exact .ok (.float number)
  | unit => exact .ok .unit
  | other shown => exact .fault Bool.false_ne_true

/-- What a sign gives is simple. -/
theorem Operator.applyUnary_simple (span : Span) (operator : Operator) (operand : Value) :
    (operator.applyUnary span operand).Simple False := by
  unfold Operator.applyUnary
  split
  · exact .ok (.int _)
  · exact .ok (.float _)
  · exact .ok (.int _)
  · exact .ok (.float _)
  · exact .report nofun nofun

/-- What an operator gives on integers is simple. -/
theorem Operator.onInts_simple (span : Span) (operator : Operator) (left right : Int64) :
    (operator.onInts span left right).Simple (operator.isBinary ≠ true) := by
  cases operator with
  | add | sub | mul => exact .ok (.int _)
  | div | mod =>
      rw [onInts]
      split
      · exact .report nofun nofun
      · exact .ok (.int _)
  | other code => exact .fault Bool.false_ne_true

/-- Only integers need an operator with a meaning. -/
theorem Operator.applyBinary_simple (span : Span) (operator : Operator) (left right : Value) :
    (operator.applyBinary span left right).Simple (operator.isBinary ≠ true) := by
  unfold Operator.applyBinary
  dsimp only
  split
  · exact onInts_simple span operator _ _
  · split
    · exact .ok (.float _)
    · exact .report nofun nofun
  · exact .report nofun nofun

theorem Operator.applyUnary_plain (found : operator.applyUnary span left = .ok value) :
    value.Plain := (applyUnary_simple span operator left).plain found

theorem Operator.applyBinary_plain (found : operator.applyBinary span left right = .ok value) :
    value.Plain := (applyBinary_simple span operator left right).plain found

theorem Literal.value_plain {literal : Literal} (found : literal.value = .ok value) : value.Plain :=
  literal.value_simple.plain found

end Reckon
