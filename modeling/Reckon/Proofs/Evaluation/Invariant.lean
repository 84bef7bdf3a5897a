/-
This file shows by one induction what evaluation keeps. An invariant says which values may arise, in which
scopes an expression may be evaluated, and which trouble may come of it.
-/

import Reckon.Proofs.Evaluation.Sequence
import Reckon.Proofs.Session.Plain

namespace Reckon

/-- A result conforms when its value meets a condition, or when its trouble is allowed. -/
inductive Result.Conforms {A : Type} (condition : A → Prop) (allows : Trouble → Prop) : Result A → Prop where
  | ok {value : A} (here : condition value) : Conforms condition allows (.ok value)
  | error {trouble : Trouble} (allowed : allows trouble) : Conforms condition allows (.error trouble)

/-- What follows a result is only needed for values. -/
theorem Result.Conforms.bind {A B : Type} {condition : A → Prop} {further : B → Prop}
    {allows : Trouble → Prop} {result : Result A} {rest : A → Result B}
    (conforms : result.Conforms condition allows)
    (next : ∀ value, condition value → (rest value).Conforms further allows) :
    (result >>= rest).Conforms further allows := by
  cases conforms with
  | ok here => exact next _ here
  | error allowed => exact .error allowed

/-- A result that conforms still does when less is asked of its value. -/
theorem Result.Conforms.imp {A : Type} {condition further : A → Prop} {allows : Trouble → Prop}
    {result : Result A} (conforms : result.Conforms condition allows)
    (implies : ∀ value, condition value → further value) : result.Conforms further allows := by
  cases conforms with
  | ok here => exact .ok (implies _ here)
  | error allowed => exact .error allowed

namespace Expression

/-- These are the parts of an expression that are evaluated in its own scope. -/
def operands : Expression → List Expression
  | hole | literal _ _ | ident _ _ | function _ _ _ => []
  | unary _ _ operand => [operand]
  | binary _ _ left right => [left, right]
  | apply _ callee arg => [callee, arg]
  | list _ elems => elems

/-- A fault can come of these expressions, whatever their parts are. -/
inductive Broken : Expression → Prop where
  | hole : Broken .hole
  | literal {span : Span} {value : Literal} (invalid : value.isWhole ≠ true) : Broken (.literal span value)
  | binary {span : Span} {operator : Operator} {left right : Expression}
      (invalid : operator.isBinary ≠ true) : Broken (.binary span operator left right)

end Expression

/-- The values of a list are of one variety. -/
def OneVariety (values : List Value) : Prop :=
  ∀ first ∈ values, ∀ second ∈ values, first.variety = second.variety

/-- An invariant is a condition on values, on an expression in its scope, and on trouble, that every single
step of an evaluation keeps. -/
structure Invariant (globals : Bindings) where
  value : Value → Prop
  admits : Scope → Expression → Prop
  allows : Trouble → Prop
  plain : ∀ {found : Value}, found.Plain → value found
  list : ∀ {elems : List Value}, OneVariety elems → (∀ elem ∈ elems, value elem) → value (.list elems)
  operand : ∀ {scope : Scope} {expression part : Expression}, admits scope expression →
    part ∈ expression.operands → admits scope part
  bound : ∀ {scope : Scope} {span : Span} {name : String} {found : Value},
    admits scope (.ident span name) → scope.get? globals name = some found → value found
  unbound : ∀ {scope : Scope} {span : Span} {name : String}, admits scope (.ident span name) →
    scope.get? globals name = none → allows (.report (.atSpan span (.unbound name)))
  closure : ∀ {scope : Scope} {span : Span} {param : String} {body : Expression},
    admits scope (.function span param body) → value (.closure param body scope)
  body : ∀ {param : String} {body : Expression} {scope : Scope} {arg : Value},
    value (.closure param body scope) → value arg → admits (.call param arg scope) body
  broken : ∀ {scope : Scope} {expression : Expression} {fault : Fault}, admits scope expression →
    expression.Broken → allows (.fault fault)
  report : ∀ {span : Span} {cause : Cause}, (∀ name, cause ≠ .unbound name) →
    allows (.report (.atSpan span cause))

namespace Invariant

variable {globals : Bindings} (invariant : Invariant globals)

/-- Calls keep an invariant when they do so in the scopes that admit the body. -/
def KeptBy (call : Span → Scope → Expression → Result Value) : Prop :=
  ∀ span scope body, invariant.admits scope body →
    (call span scope body).Conforms invariant.value invariant.allows

/-- A simple result conforms when every fault is allowed wherever it may be one. -/
theorem simple {broken : Prop} {result : Result Value} (simple : result.Simple broken)
    (faults : broken → ∀ fault, invariant.allows (.fault fault)) :
    result.Conforms invariant.value invariant.allows := by
  cases simple with
  | ok plain => exact .ok (invariant.plain plain)
  | report _ known => exact .error (invariant.report known)
  | fault breaks => exact .error (faults breaks _)

variable {call : Span → Scope → Expression → Result Value} {scope : Scope}

mutual

/-- An expression in a scope that admits it has a value of the invariant, or its trouble is allowed. -/
theorem evalWith_conforms (kept : invariant.KeptBy call) (expression : Expression)
    (admitted : invariant.admits scope expression) :
    (expression.evalWith globals call scope).Conforms invariant.value invariant.allows := by
  cases expression with
  | hole => exact .error (invariant.broken admitted .hole)
  | literal span value =>
      exact invariant.simple value.value_simple fun invalid _ => invariant.broken admitted (.literal invalid)
  | ident span name =>
      rw [Expression.evalWith]
      split
      · rename_i value found
        exact .ok (invariant.bound admitted found)
      · rename_i missing
        exact .error (invariant.unbound admitted missing)
  | unary span operator operand =>
      have inner := invariant.operand admitted List.mem_cons_self
      rw [Expression.evalWith_unary]
      exact (evalWith_conforms kept operand inner).bind fun value _ =>
        invariant.simple (operator.applyUnary_simple span value) False.elim
  | binary span operator left right =>
      have first := invariant.operand admitted List.mem_cons_self
      have second := invariant.operand admitted (List.mem_cons_of_mem _ List.mem_cons_self)
      rw [Expression.evalWith_binary]
      exact (evalWith_conforms kept left first).bind fun value _ =>
        (evalWith_conforms kept right second).bind fun value' _ =>
          invariant.simple (operator.applyBinary_simple span value value') fun invalid _ =>
            invariant.broken admitted (.binary invalid)
  | function span param body => exact .ok (invariant.closure admitted)
  | apply span callee arg =>
      have first := invariant.operand admitted List.mem_cons_self
      have second := invariant.operand admitted (List.mem_cons_of_mem _ List.mem_cons_self)
      rw [Expression.evalWith_apply]
      refine (evalWith_conforms kept callee first).bind fun value here => ?_
      cases value with
      | int | float | unit | list => exact .error (invariant.report nofun)
      | closure param body outer =>
          -- The body is no part of the expression, so it is left to the call.
          exact (evalWith_conforms kept arg second).bind fun value there =>
            kept _ _ _ (invariant.body here there)
  | list span elems =>
      rw [Expression.evalWith_list]
      refine (evalElements_conforms kept none elems fun elem => invariant.operand admitted).bind
        fun values elements => ?_
      obtain ⟨all, variety, _, same⟩ := elements
      have one : OneVariety values := fun first here second there =>
        (same first here).trans (same second there).symm
      exact .ok (invariant.list one all)

/-- The elements of a list are of the variety that is expected of them. -/
theorem evalElements_conforms (kept : invariant.KeptBy call) (expected : Option Variety)
    (elems : List Expression) (admitted : ∀ elem ∈ elems, invariant.admits scope elem) :
    (Expression.evalElements globals call scope expected elems).Conforms
      (fun values => (∀ value ∈ values, invariant.value value) ∧
        ∃ variety, (∀ first, expected = some first → variety = first) ∧
          ∀ value ∈ values, value.variety = variety) invariant.allows := by
  cases elems with
  | nil =>
      refine .ok ⟨List.forall_mem_nil _, expected.getD .unit, ?_, List.forall_mem_nil _⟩
      rintro first rfl
      rfl
  | cons elem elems =>
      obtain ⟨first, second⟩ := List.forall_mem_cons.1 admitted
      rw [Expression.evalElements_cons]
      refine (evalWith_conforms kept elem first).bind fun value here => ?_
      rw [Expression.evalLater]
      split
      · rename_i same
        refine (evalElements_conforms kept _ elems second).bind fun values elements => ?_
        obtain ⟨later, variety, expects, all⟩ := elements
        have variety_eq : value.variety = variety := same.trans (expects _ rfl).symm
        refine .ok ⟨List.forall_mem_cons.2 ⟨here, later⟩, variety, ?_,
          List.forall_mem_cons.2 ⟨variety_eq, all⟩⟩
        rintro first rfl
        exact expects first rfl
      · exact .error (invariant.report nofun)

end

/-- Calls keep an invariant however deep they nest. -/
theorem keptBy_callWithin (limit depth : Nat) :
    invariant.KeptBy (Expression.callWithin globals limit depth) := by
  induction depth with
  | zero => exact fun span scope body _ => .error (invariant.report nofun)
  | succ depth ih =>
      intro span scope body admitted
      rw [Expression.callWithin, Expression.evalWithin_eq]
      exact invariant.evalWith_conforms ih body admitted

/-- What an admitted expression evaluates to keeps the invariant, at every depth and limit. -/
theorem evalWithin_conforms (limit depth : Nat) {expression : Expression}
    (admitted : invariant.admits scope expression) :
    (expression.evalWithin globals limit depth scope).Conforms invariant.value invariant.allows := by
  rw [Expression.evalWithin_eq]
  exact invariant.evalWith_conforms (invariant.keptBy_callWithin limit depth) expression admitted

/-- A statement is admitted when its expression is, and a definition when its function is. -/
def AdmitsStatement : Statement → Prop
  | .missing => ∀ fault, invariant.allows (.fault fault)
  | .assign _ _ value | .expression value => invariant.admits .global value
  | .define span _ param body => invariant.admits .global (.function span param body)

/-- An execution leaves the bindings as they were, or a value of the invariant bound to a name. -/
inductive Leaves : Value × Bindings → Prop where
  | value {value : Value} (here : invariant.value value) : Leaves (value, globals)
  | binding {name : String} {value : Value} (here : invariant.value value) :
      Leaves (.unit, globals.set name value)

/-- An admitted statement leaves bindings that keep the invariant. -/
theorem exec_conforms {statement : Statement} (admitted : invariant.AdmitsStatement statement) :
    (statement.exec globals).Conforms invariant.Leaves invariant.allows := by
  have evaluates (value : Expression) (admitted : invariant.admits .global value) :
      (value.eval globals).Conforms invariant.value invariant.allows :=
    invariant.evalWithin_conforms maxCallDepth maxCallDepth admitted
  cases statement with
  | missing => exact .error (admitted _)
  | define span name param body => exact .ok (.binding (invariant.closure admitted))
  | assign span name value =>
      have conforms := evaluates value admitted
      rw [Statement.exec]
      generalize value.eval globals = result at conforms
      cases conforms with
      | ok here => exact .ok (.binding here)
      | error allowed => exact .error allowed
  | expression value =>
      have conforms := evaluates value admitted
      rw [Statement.exec]
      generalize value.eval globals = result at conforms
      cases conforms with
      | ok here => exact .ok (.value here)
      | error allowed => exact .error allowed

end Invariant

end Reckon
