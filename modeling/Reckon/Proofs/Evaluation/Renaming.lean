/-
This file shows that the names of parameters do not matter. Two expressions that only differ in them have
the same trouble, or values that only differ in the names of the parameters that their closures have.
-/

import Reckon.Proofs.Evaluation.Sequence
import Reckon.Proofs.Session.Sharing

namespace Reckon

/-- A pairing pairs the parameters around two expressions, the innermost ones first. -/
abbrev Pairing := List (String × String)

/-- Two names stand for each other when the innermost parameters that they refer to are paired, and two
names that refer to no parameter when they are the same. -/
inductive Pairing.Pairs : Pairing → String → String → Prop where
  | free {name : String} : Pairs [] name name
  | bound {name name' : String} {pairing : Pairing} : Pairs ((name, name') :: pairing) name name'
  | outer {name name' param param' : String} {pairing : Pairing} (differs : name ≠ param)
      (differs' : name' ≠ param') (pairs : Pairs pairing name name') :
      Pairs ((param, param') :: pairing) name name'

/-- This pairing pairs names with themselves. -/
def Pairing.keeping (names : List String) : Pairing := names.map fun name => (name, name)

mutual

/-- Two expressions are alike when they only differ in the names of parameters. -/
inductive Expression.Alike : Pairing → Expression → Expression → Prop where
  | hole {pairing : Pairing} : Expression.Alike pairing .hole .hole
  | literal {pairing : Pairing} {span : Span} {value : Literal} :
      Expression.Alike pairing (.literal span value) (.literal span value)
  | ident {pairing : Pairing} {span : Span} {name name' : String} (pairs : pairing.Pairs name name') :
      Expression.Alike pairing (.ident span name) (.ident span name')
  | unary {pairing : Pairing} {span : Span} {operator : Operator} {operand operand' : Expression}
      (inner : Expression.Alike pairing operand operand') :
      Expression.Alike pairing (.unary span operator operand) (.unary span operator operand')
  | binary {pairing : Pairing} {span : Span} {operator : Operator}
      {left left' right right' : Expression} (former : Expression.Alike pairing left left')
      (latter : Expression.Alike pairing right right') :
      Expression.Alike pairing (.binary span operator left right) (.binary span operator left' right')
  | function {pairing : Pairing} {span : Span} {param param' : String} {body body' : Expression}
      (inner : Expression.Alike ((param, param') :: pairing) body body') :
      Expression.Alike pairing (.function span param body) (.function span param' body')
  | apply {pairing : Pairing} {span : Span} {callee callee' arg arg' : Expression}
      (former : Expression.Alike pairing callee callee') (latter : Expression.Alike pairing arg arg') :
      Expression.Alike pairing (.apply span callee arg) (.apply span callee' arg')
  | list {pairing : Pairing} {span : Span} {elems elems' : List Expression}
      (all : Expression.AllAlike pairing elems elems') :
      Expression.Alike pairing (.list span elems) (.list span elems')

inductive Expression.AllAlike : Pairing → List Expression → List Expression → Prop where
  | nil {pairing : Pairing} : Expression.AllAlike pairing [] []
  | cons {pairing : Pairing} {elem elem' : Expression} {elems elems' : List Expression}
      (former : Expression.Alike pairing elem elem')
      (latter : Expression.AllAlike pairing elems elems') :
      Expression.AllAlike pairing (elem :: elems) (elem' :: elems')

end

mutual

/-- Two values are alike when they only differ in the names of the parameters of closures. The bodies of
two closures are compared by the pairing of the scopes that they captured. -/
inductive Value.Alike : Value → Value → Prop where
  | int {value : Int64} : Value.Alike (.int value) (.int value)
  | float {value : Float} : Value.Alike (.float value) (.float value)
  | unit : Value.Alike .unit .unit
  | list {elems elems' : List Value} (all : Value.AllAlike elems elems') :
      Value.Alike (.list elems) (.list elems')
  | closure {pairing : Pairing} {param param' : String} {body body' : Expression}
      {scope scope' : Scope} (around : Scope.Alike pairing scope scope')
      (inner : body.Alike ((param, param') :: pairing) body') :
      Value.Alike (.closure param body scope) (.closure param' body' scope')

inductive Value.AllAlike : List Value → List Value → Prop where
  | nil : Value.AllAlike [] []
  | cons {elem elem' : Value} {elems elems' : List Value} (former : Value.Alike elem elem')
      (latter : Value.AllAlike elems elems') : Value.AllAlike (elem :: elems) (elem' :: elems')

/-- Two scopes are alike when they bind the names of a pairing to values that are alike. -/
inductive Scope.Alike : Pairing → Scope → Scope → Prop where
  | global : Scope.Alike [] .global .global
  | call {pairing : Pairing} {name name' : String} {value value' : Value} {outer outer' : Scope}
      (here : Value.Alike value value') (around : Scope.Alike pairing outer outer') :
      Scope.Alike ((name, name') :: pairing) (.call name value outer) (.call name' value' outer')

end

namespace Pairing

/-- The innermost parameters are paired with each other and hide outer ones. -/
theorem pairs_cons {pairing : Pairing} {name name' param param' : String} :
    Pairs ((param, param') :: pairing) name name' ↔ (name = param ∧ name' = param') ∨
      (name ≠ param ∧ name' ≠ param' ∧ pairing.Pairs name name') := by
  constructor
  · intro pairs
    cases pairs with
    | bound => exact .inl ⟨rfl, rfl⟩
    | outer differs differs' pairs => exact .inr ⟨differs, differs', pairs⟩
  · rintro (⟨rfl, rfl⟩ | ⟨differs, differs', pairs⟩)
    · exact .bound
    · exact .outer differs differs' pairs

/-- Names that are kept are paired with themselves. -/
theorem pairs_keeping (names : List String) (name : String) : (keeping names).Pairs name name := by
  induction names with
  | nil => exact .free
  | cons first names ih =>
      by_cases same : name = first
      · rw [same]
        exact .bound
      · exact .outer same same ih

/-- Around all parameters there is room for names that are kept. -/
theorem Pairs.within {pairing : Pairing} {name name' : String} (pairs : pairing.Pairs name name')
    (names : List String) : Pairs (pairing ++ keeping names) name name' := by
  induction pairs with
  | free => exact pairs_keeping names _
  | bound => exact .bound
  | outer differs differs' _ ih => exact .outer differs differs' ih

end Pairing

namespace Expression

mutual

/-- Every expression is alike to itself. -/
theorem alike_refl (names : List String) :
    (expression : Expression) → expression.Alike (.keeping names) expression
  | hole => .hole
  | literal _ _ => .literal
  | ident _ name => .ident (Pairing.pairs_keeping names name)
  | unary _ _ operand => .unary (alike_refl names operand)
  | binary _ _ left right => .binary (alike_refl names left) (alike_refl names right)
  | function _ param body => .function (alike_refl (param :: names) body)
  | apply _ callee arg => .apply (alike_refl names callee) (alike_refl names arg)
  | list _ elems => .list (allAlike_refl names elems)

/-- Every list of expressions is alike to itself. -/
theorem allAlike_refl (names : List String) :
    (elems : List Expression) → AllAlike (.keeping names) elems elems
  | [] => .nil
  | elem :: elems => .cons (alike_refl names elem) (allAlike_refl names elems)

end

mutual

/-- Expressions stay alike inside of further parameters with the same names. -/
theorem Alike.within {pairing : Pairing} {expression expression' : Expression}
    (alike : expression.Alike pairing expression') (names : List String) :
    expression.Alike (pairing ++ .keeping names) expression' :=
  match alike with
  | .hole => .hole
  | .literal => .literal
  | .ident pairs => .ident (pairs.within names)
  | .unary inner => .unary (inner.within names)
  | .binary former latter => .binary (former.within names) (latter.within names)
  | .function inner => .function (inner.within names)
  | .apply former latter => .apply (former.within names) (latter.within names)
  | .list all => .list (all.within names)

/-- Expressions stay alike when more names around them are kept. -/
theorem AllAlike.within {pairing : Pairing} {elems elems' : List Expression}
    (all : AllAlike pairing elems elems') (names : List String) :
    AllAlike (pairing ++ .keeping names) elems elems' :=
  match all with
  | .nil => .nil
  | .cons former latter => .cons (former.within names) (latter.within names)

end

/-- Expressions that are alike are at the same place. -/
theorem Alike.extent {pairing : Pairing} {expression expression' : Expression}
    (alike : expression.Alike pairing expression') : expression.extent = expression'.extent := by
  cases alike <;> rfl

end Expression

/-- These are the names that the calls around a scope bind, the innermost one first. -/
def Scope.params : Scope → List String
  | global => []
  | call name _ outer => name :: outer.params

mutual

/-- Every value is alike to itself. -/
theorem Value.alike_refl : (value : Value) → value.Alike value
  | .int _ => .int
  | .float _ => .float
  | .unit => .unit
  | .list elems => .list (Value.allAlike_refl elems)
  | .closure param body scope =>
      .closure (Scope.alike_refl scope) (body.alike_refl (param :: scope.params))

theorem Value.allAlike_refl : (elems : List Value) → Value.AllAlike elems elems
  | [] => .nil
  | elem :: elems => .cons (Value.alike_refl elem) (Value.allAlike_refl elems)

theorem Scope.alike_refl : (scope : Scope) → scope.Alike (.keeping scope.params) scope
  | .global => .global
  | .call _ value outer => .call (Value.alike_refl value) (Scope.alike_refl outer)

end

theorem Value.Alike.variety {value value' : Value} (alike : value.Alike value') :
    value.variety = value'.variety := by
  cases alike <;> rfl

/-- Names that stand for each other are bound to values that are alike, or they are the same name and are
not bound in either scope. -/
inductive Found : String → String → Option Value → Option Value → Prop where
  | some {name name' : String} {value value' : Value} (alike : value.Alike value') :
      Found name name' (some value) (some value')
  | none {name : String} : Found name name none none

/-- Paired names are found in alike scopes with alike values. -/
theorem Scope.Alike.get? {pairing : Pairing} {scope scope' : Scope} (alike : scope.Alike pairing scope')
    (globals : Bindings) {name name' : String} (pairs : pairing.Pairs name name') :
    Found name name' (scope.get? globals name) (scope'.get? globals name') := by
  induction pairs generalizing scope scope' with
  | @free name =>
      cases alike with
      | global =>
      rw [Scope.get?]
      cases globals.get? name with
      | none => exact .none
      | some value => exact .some value.alike_refl
  | bound =>
      cases alike with
      | call here around =>
      rw [Scope.get?, Scope.get?, if_pos rfl, if_pos rfl]
      exact .some here
  | outer differs differs' _ ih =>
      cases alike with
      | call here around =>
      rw [Scope.get?, Scope.get?, if_neg differs, if_neg differs']
      exact ih around

section Agree

variable {A B : Type} {shows : A → A → Prop} {shows' : B → B → Prop} {result result' : Result A}

/-- Results agree when they go on alike from values that agree. -/
theorem Agree.bind {next next' : A → Result B} (agree : Agree shows result result')
    (later : ∀ value value', shows value value' → Agree shows' (next value) (next' value')) :
    Agree shows' (result >>= next) (result' >>= next') := by
  cases result with
  | error trouble =>
      cases result' with
      | error trouble' => exact agree
      | ok value' => exact agree.elim
  | ok value =>
      cases result' with
      | error trouble' => exact agree.elim
      | ok value' => exact later value value' agree

/-- Every result agrees with itself. -/
theorem agree_refl (result : Result Value) : Agree Value.Alike result result := by
  cases result with
  | ok value => exact value.alike_refl
  | error trouble => exact rfl

end Agree

/-- A sign gives alike results on alike values. -/
theorem Operator.applyUnary_alike (span : Span) (operator : Operator) {value value' : Value}
    (alike : value.Alike value') :
    Agree Value.Alike (operator.applyUnary span value) (operator.applyUnary span value') := by
  cases alike with
  | int | float | unit => exact agree_refl _
  | list | closure => cases operator <;> exact rfl

/-- An operator gives alike results on alike values. -/
theorem Operator.applyBinary_alike (span : Span) (operator : Operator) {left left' right right' : Value}
    (alike : left.Alike left') (alike' : right.Alike right') :
    Agree Value.Alike (operator.applyBinary span left right)
      (operator.applyBinary span left' right') := by
  cases alike <;> cases alike' <;> exact agree_refl _

/-- Calls respect alike scopes and bodies. -/
def CallsAlike (call : Span → Scope → Expression → Result Value) : Prop :=
  ∀ span pairing scope scope' body body', Scope.Alike pairing scope scope' → body.Alike pairing body' →
    Agree Value.Alike (call span scope body) (call span scope' body')

namespace Expression

variable {globals : Bindings} {call : Span → Scope → Expression → Result Value} {pairing : Pairing}
  {scope scope' : Scope}

mutual

/-- Expressions that are alike agree in scopes that are alike. -/
theorem evalWith_alike (calls : CallsAlike call) (around : scope.Alike pairing scope')
    (expression : Expression) {expression' : Expression} (alike : expression.Alike pairing expression') :
    Agree Value.Alike (expression.evalWith globals call scope)
      (expression'.evalWith globals call scope') := by
  cases expression with
  | hole =>
      cases alike
      exact rfl
  | literal span value =>
      cases alike
      exact agree_refl _
  | ident span name =>
      cases alike with
      | ident pairs =>
      have found := around.get? globals pairs
      rw [evalWith, evalWith]
      generalize scope.get? globals _ = bound, scope'.get? globals _ = bound' at found
      cases found with
      | some alike => exact alike
      | none => exact rfl
  | unary span operator operand =>
      cases alike with
      | unary inner =>
      rw [evalWith_unary, evalWith_unary]
      exact (evalWith_alike calls around operand inner).bind fun value value' alike =>
        operator.applyUnary_alike span alike
  | binary span operator left right =>
      cases alike with
      | binary former latter =>
      rw [evalWith_binary, evalWith_binary]
      exact (evalWith_alike calls around left former).bind fun value value' first =>
        (evalWith_alike calls around right latter).bind fun other other' second =>
          operator.applyBinary_alike span first second
  | function span param body =>
      cases alike with
      | function inner => exact .closure around inner
  | apply span callee arg =>
      cases alike with
      | apply former latter =>
      rw [evalWith_apply, evalWith_apply, former.extent]
      refine (evalWith_alike calls around callee former).bind fun value value' alike => ?_
      cases alike with
      | int | float | unit | list => exact rfl
      -- Both bodies are called in scopes that pair their own parameters.
      | closure captured inner =>
          exact (evalWith_alike calls around arg latter).bind fun value value' here =>
            calls _ _ _ _ _ _ (.call here captured) inner
  | list span elems =>
      cases alike with
      | list all =>
      rw [evalWith_list, evalWith_list]
      exact (evalElements_alike calls around none elems all).bind fun values values' alike => .list alike

/-- Alike elements have alike values, or the same trouble. -/
theorem evalElements_alike (calls : CallsAlike call) (around : scope.Alike pairing scope')
    (expected : Option Variety) (elems : List Expression) {elems' : List Expression}
    (all : AllAlike pairing elems elems') :
    Agree Value.AllAlike (evalElements globals call scope expected elems)
      (evalElements globals call scope' expected elems') := by
  cases elems with
  | nil =>
      cases all
      exact .nil
  | cons elem elems =>
      cases all with
      | cons former latter =>
      rw [evalElements_cons, evalElements_cons, former.extent]
      refine (evalWith_alike calls around elem former).bind fun value value' alike => ?_
      rw [evalLater, evalLater, alike.variety]
      split
      · exact (evalElements_alike calls around _ elems latter).bind fun values values' later =>
          .cons alike later
      · exact rfl

end

/-- Calls are alike at every depth. -/
theorem callWithin_alike (globals : Bindings) (limit depth : Nat) :
    CallsAlike (callWithin globals limit depth) := by
  induction depth with
  | zero => exact fun _ _ _ _ _ _ _ _ => rfl
  | succ depth ih =>
      intro span pairing scope scope' body body' around alike
      rw [callWithin, callWithin, evalWithin_eq, evalWithin_eq]
      exact evalWith_alike ih around body alike

end Expression

/-- Expressions that are alike have the same trouble in any scope, or values that are alike. So they do in
two scopes that are alike, which is how the bodies of two closures are compared after their call. -/
theorem parameters_renamed (globals : Bindings) (limit depth : Nat) :
    (∀ scope (expression expression' : Expression), expression.Alike [] expression' →
      Agree Value.Alike (expression.evalWithin globals limit depth scope)
        (expression'.evalWithin globals limit depth scope)) ∧
    (∀ pairing scope scope' (expression expression' : Expression), Scope.Alike pairing scope scope' →
      expression.Alike pairing expression' →
      Agree Value.Alike (expression.evalWithin globals limit depth scope)
        (expression'.evalWithin globals limit depth scope')) := by
  have general : ∀ pairing scope scope' (expression expression' : Expression),
      Scope.Alike pairing scope scope' → expression.Alike pairing expression' →
      Agree Value.Alike (expression.evalWithin globals limit depth scope)
        (expression'.evalWithin globals limit depth scope') := by
    intro pairing scope scope' expression expression' around alike
    rw [Expression.evalWithin_eq, Expression.evalWithin_eq]
    exact Expression.evalWith_alike (Expression.callWithin_alike globals limit depth) around _ alike
  refine ⟨fun scope expression expression' alike => ?_, general⟩
  exact general _ scope scope expression expression' scope.alike_refl (alike.within scope.params)

/-- This is the expression `(first: second: first) 3`, whose value is a closure. -/
def keepFirst (first second : String) : Expression :=
  .apply ⟨.start, .start⟩
    (.function ⟨.start, .start⟩ first
      (.function ⟨.start, .start⟩ second (.ident ⟨.start, .start⟩ first)))
    (.literal ⟨.start, .start⟩ (.int 3))

/-- The parameters can trade their names, also where one of the names is bound around them. They cannot
have the same name, which would change what the inner body refers to. -/
theorem keepFirst_renamed :
    (keepFirst "x" "y").Alike [] (keepFirst "y" "x") ∧
    ¬(keepFirst "x" "y").Alike [] (keepFirst "x" "x") ∧
    Agree Value.Alike ((keepFirst "x" "y").evalWithin [] 5 5 (.call "y" (.int 4) .global))
      ((keepFirst "y" "x").evalWithin [] 5 5 (.call "y" (.int 4) .global)) := by
  have alike : (keepFirst "x" "y").Alike [] (keepFirst "y" "x") :=
    .apply (.function (.function (.ident (.outer (by decide) (by decide) .bound)))) .literal
  refine ⟨alike, ?_, (parameters_renamed [] 5 5).1 _ _ _ alike⟩
  intro merged
  cases merged with
  | apply former _ =>
  cases former with
  | function body =>
  cases body with
  | function inner =>
  cases inner with
  | ident pairs =>
  rcases Pairing.pairs_cons.1 pairs with ⟨same, _⟩ | ⟨_, differs, _⟩
  · exact absurd same (by decide)
  · exact differs rfl

end Reckon
