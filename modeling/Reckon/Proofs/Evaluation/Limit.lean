/-
This file shows that the limit on nested calls only matters where it is reported. All other results are
those of an evaluation without a limit.
-/

import Reckon.Proofs.Evaluation.Sequence
import Reckon.Proofs.Session.Plain

namespace Reckon

mutual

/-- These are the rules of an evaluation without a limit. Operands are evaluated from left to right,
a callee before its argument, and a body in a new scope inside of the one its closure captured. -/
inductive Evaluates (globals : Bindings) : Scope → Expression → Result Value → Prop where
  | hole {scope : Scope} :
      Evaluates globals scope .hole (.error (.fault (.invalidExpression missingText)))
  | literal {scope : Scope} {span : Span} {literal : Literal} :
      Evaluates globals scope (.literal span literal) literal.value
  | bound {scope : Scope} {span : Span} {name : String} {value : Value}
      (found : scope.get? globals name = some value) :
      Evaluates globals scope (.ident span name) (.ok value)
  | unbound {scope : Scope} {span : Span} {name : String}
      (missing : scope.get? globals name = none) :
      Evaluates globals scope (.ident span name) (reportAt span (.unbound name))
  | unary {scope : Scope} {span : Span} {operator : Operator} {operand : Expression} {value : Value}
      (inner : Evaluates globals scope operand (.ok value)) :
      Evaluates globals scope (.unary span operator operand) (operator.applyUnary span value)
  | unaryTrouble {scope : Scope} {span : Span} {operator : Operator} {operand : Expression}
      {trouble : Trouble} (inner : Evaluates globals scope operand (.error trouble)) :
      Evaluates globals scope (.unary span operator operand) (.error trouble)
  | binary {scope : Scope} {span : Span} {operator : Operator} {left right : Expression}
      {value value' : Value} (former : Evaluates globals scope left (.ok value))
      (latter : Evaluates globals scope right (.ok value')) :
      Evaluates globals scope (.binary span operator left right)
        (operator.applyBinary span value value')
  | leftTrouble {scope : Scope} {span : Span} {operator : Operator} {left right : Expression}
      {trouble : Trouble} (former : Evaluates globals scope left (.error trouble)) :
      Evaluates globals scope (.binary span operator left right) (.error trouble)
  | rightTrouble {scope : Scope} {span : Span} {operator : Operator} {left right : Expression}
      {value : Value} {trouble : Trouble} (former : Evaluates globals scope left (.ok value))
      (latter : Evaluates globals scope right (.error trouble)) :
      Evaluates globals scope (.binary span operator left right) (.error trouble)
  | function {scope : Scope} {span : Span} {param : String} {body : Expression} :
      Evaluates globals scope (.function span param body) (.ok (.closure param body scope))
  | apply {scope outer : Scope} {span : Span} {callee arg body : Expression} {param : String}
      {value : Value} {result : Result Value}
      (former : Evaluates globals scope callee (.ok (.closure param body outer)))
      (latter : Evaluates globals scope arg (.ok value))
      (call : Evaluates globals (.call param value outer) body result) :
      Evaluates globals scope (.apply span callee arg) result
  | calleeTrouble {scope : Scope} {span : Span} {callee arg : Expression} {trouble : Trouble}
      (former : Evaluates globals scope callee (.error trouble)) :
      Evaluates globals scope (.apply span callee arg) (.error trouble)
  | notCallable {scope : Scope} {span : Span} {callee arg : Expression} {value : Value}
      (former : Evaluates globals scope callee (.ok value))
      (other : ∀ param body outer, value ≠ .closure param body outer) :
      Evaluates globals scope (.apply span callee arg)
        (reportAt callee.extent (.notCallable value.variety))
  | argTrouble {scope outer : Scope} {span : Span} {callee arg body : Expression} {param : String}
      {trouble : Trouble} (former : Evaluates globals scope callee (.ok (.closure param body outer)))
      (latter : Evaluates globals scope arg (.error trouble)) :
      Evaluates globals scope (.apply span callee arg) (.error trouble)
  | list {scope : Scope} {span : Span} {elems : List Expression} {values : List Value}
      (all : EvaluatesAll globals scope none elems (.ok values)) :
      Evaluates globals scope (.list span elems) (.ok (.list values))
  | listTrouble {scope : Scope} {span : Span} {elems : List Expression} {trouble : Trouble}
      (all : EvaluatesAll globals scope none elems (.error trouble)) :
      Evaluates globals scope (.list span elems) (.error trouble)

/-- The elements of a list are evaluated up to the first one without a value, or with a value of
another variety than the elements before it. -/
inductive EvaluatesAll (globals : Bindings) :
    Scope → Option Variety → List Expression → Result (List Value) → Prop where
  | nil {scope : Scope} {expected : Option Variety} : EvaluatesAll globals scope expected [] (.ok [])
  | cons {scope : Scope} {expected : Option Variety} {elem : Expression} {elems : List Expression}
      {value : Value} {values : List Value} (former : Evaluates globals scope elem (.ok value))
      (same : value.variety = expected.getD value.variety)
      (latter : EvaluatesAll globals scope (some (expected.getD value.variety)) elems (.ok values)) :
      EvaluatesAll globals scope expected (elem :: elems) (.ok (value :: values))
  | elemTrouble {scope : Scope} {expected : Option Variety} {elem : Expression}
      {elems : List Expression} {trouble : Trouble}
      (former : Evaluates globals scope elem (.error trouble)) :
      EvaluatesAll globals scope expected (elem :: elems) (.error trouble)
  | mixed {scope : Scope} {expected : Option Variety} {elem : Expression} {elems : List Expression}
      {value : Value} (former : Evaluates globals scope elem (.ok value))
      (other : value.variety ≠ expected.getD value.variety) :
      EvaluatesAll globals scope expected (elem :: elems)
        (reportAt elem.extent (.mixedList (expected.getD value.variety) value.variety))
  | laterTrouble {scope : Scope} {expected : Option Variety} {elem : Expression}
      {elems : List Expression} {value : Value} {trouble : Trouble}
      (former : Evaluates globals scope elem (.ok value))
      (same : value.variety = expected.getD value.variety)
      (latter : EvaluatesAll globals scope (some (expected.getD value.variety)) elems
        (.error trouble)) :
      EvaluatesAll globals scope expected (elem :: elems) (.error trouble)

end

/-- Trouble exceeds the limit when a cause of it is that calls nested too deep. -/
def Trouble.Exceeds : Trouble → Prop
  | .report reported => ∃ leaf ∈ reported.leaves, ∃ limit, leaf.1 = .callDepth limit
  | .fault _ => False

def Result.Exceeds {A : Type} : Result A → Prop
  | .ok _ => False
  | .error trouble => trouble.Exceeds

theorem exceeds_reportAt {A : Type} (span : Span) (limit : Nat) :
    (reportAt span (.callDepth limit) : Result A).Exceeds :=
  ⟨(.callDepth limit, some span), List.mem_singleton_self _, limit, rfl⟩

theorem within_ok {A : Type} (value : A) : ¬Result.Exceeds (.ok value) := id

/-- A report of anything else is within every limit. -/
theorem within_reportAt {A : Type} {span : Span} {cause : Cause}
    (other : ∀ limit, cause ≠ .callDepth limit) : ¬(reportAt span cause : Result A).Exceeds := by
  rintro ⟨leaf, member, limit, same⟩
  cases List.mem_singleton.1 member
  exact other limit same

/-- A simple result is within every limit. -/
theorem Result.Simple.within {broken : Prop} {result : Result Value}
    (simple : result.Simple broken) : ¬result.Exceeds := by
  cases simple with
  | ok => exact within_ok _
  | report other => exact within_reportAt other
  | fault => exact id

/-- What exceeds the limit exceeds it whatever comes next. -/
theorem Result.Exceeds.bind {A B : Type} {result : Result A} (exceeds : result.Exceeds)
    (rest : A → Result B) : (result >>= rest).Exceeds := by
  cases result with
  | ok value => cases exceeds
  | error trouble => exact exceeds

/-- Attempts with a limit settle on a result when they need a certain depth for it, and exceed the
limit below that depth. -/
structure Settles {A : Type} (attempt : Nat → Nat → Result A) (result : Result A) : Prop where
  within : ¬result.Exceeds
  threshold : ∃ need, ∀ limit depth, (need ≤ depth → attempt limit depth = result) ∧
    (depth < need → (attempt limit depth).Exceeds)

section Settles

variable {A B : Type} {attempt : Nat → Nat → Result A} {rest : Nat → Nat → A → Result B}

theorem settles_always {result : Result A} (within : ¬result.Exceeds) :
    Settles (fun _ _ => result) result :=
  ⟨within, 0, fun _ _ => ⟨fun _ => rfl, nofun⟩⟩

/-- Two parts settle when the second one settles on the value of the first. -/
theorem Settles.bind {value : A} {result : Result B} (former : Settles attempt (.ok value))
    (latter : Settles (fun limit depth => rest limit depth value) result) :
    Settles (fun limit depth => attempt limit depth >>= rest limit depth) result := by
  obtain ⟨_, need, former⟩ := former
  obtain ⟨within, need', latter⟩ := latter
  refine ⟨within, max need need', fun limit depth => ⟨fun enough => ?_, fun few => ?_⟩⟩
  · have found := (former limit depth).1 (by omega)
    rw [found]
    exact (latter limit depth).1 (by omega)
  · by_cases reached : need ≤ depth
    · rw [(former limit depth).1 reached]
      exact (latter limit depth).2 (by omega)
    · exact ((former limit depth).2 (by omega)).bind _

/-- Trouble that settles is the trouble of the whole. -/
theorem Settles.trouble {trouble : Trouble} (former : Settles attempt (.error trouble)) :
    Settles (fun limit depth => attempt limit depth >>= rest limit depth) (.error trouble) := by
  obtain ⟨within, need, former⟩ := former
  refine ⟨within, need, fun limit depth => ⟨fun enough => ?_, fun few => ?_⟩⟩
  · rw [(former limit depth).1 enough]
    rfl
  · exact ((former limit depth).2 few).bind _

end Settles

section Evaluation

open Expression

variable {globals : Bindings} {scope : Scope} {expression : Expression} {result : Result Value}

/-- A call needs one more level than the body. -/
theorem settles_call {body : Expression} (span : Span)
    (inside : Settles (fun limit depth => body.evalWith globals (callWithin globals limit depth) scope)
      result) :
    Settles (fun limit depth => callWithin globals limit depth span scope body) result := by
  simp only [← evalWithin_eq] at inside
  obtain ⟨within, need, inside⟩ := inside
  refine ⟨within, need + 1, fun limit depth => ?_⟩
  cases depth with
  | zero =>
      exact ⟨fun enough => absurd enough (Nat.not_succ_le_zero need),
        fun _ => exceeds_reportAt span limit⟩
  | succ depth =>
      exact ⟨fun enough => (inside limit depth).1 (Nat.le_of_succ_le_succ enough),
        fun few => (inside limit depth).2 (Nat.lt_of_succ_lt_succ few)⟩

mutual

/-- A result without a limit is the one with any limit that suffices for it. -/
theorem Evaluates.settles : {scope : Scope} → {expression : Expression} →
    {result : Result Value} → Evaluates globals scope expression result →
    Settles (fun limit depth => expression.evalWith globals (callWithin globals limit depth) scope)
      result
  | _, _, _, .hole | _, _, _, .function => settles_always id
  | _, _, _, .literal => settles_always (Literal.value_simple _).within
  | _, _, _, .bound found => by
      simp only [evalWith, found]
      exact settles_always (within_ok _)
  | _, _, _, .unbound missing => by
      simp only [evalWith, missing]
      exact settles_always (within_reportAt nofun)
  | _, _, _, .unary inner => by
      simp only [evalWith_unary]
      exact inner.settles.bind (settles_always (Operator.applyUnary_simple _ _ _).within)
  | _, _, _, .unaryTrouble inner => by
      simp only [evalWith_unary]
      exact inner.settles.trouble
  | _, _, _, .binary former latter => by
      simp only [evalWith_binary]
      exact former.settles.bind (latter.settles.bind
        (settles_always (Operator.applyBinary_simple _ _ _ _).within))
  | _, _, _, .leftTrouble former => by
      simp only [evalWith_binary]
      exact former.settles.trouble
  | _, _, _, .rightTrouble former latter => by
      simp only [evalWith_binary]
      exact former.settles.bind latter.settles.trouble
  | _, _, _, .apply former latter call => by
      simp only [evalWith_apply]
      exact former.settles.bind (latter.settles.bind (settles_call _ call.settles))
  | _, _, _, .calleeTrouble former => by
      simp only [evalWith_apply]
      exact former.settles.trouble
  | _, _, _, @Evaluates.notCallable _ _ _ _ _ value former other => by
      simp only [evalWith_apply]
      refine former.settles.bind ?_
      cases value with
      | int | float | unit | list => exact settles_always (within_reportAt nofun)
      | closure param body outer => cases other param body outer rfl
  | _, _, _, .argTrouble former latter => by
      simp only [evalWith_apply]
      exact former.settles.bind latter.settles.trouble
  | _, _, _, .list all => by
      simp only [evalWith_list]
      exact all.settles.bind (settles_always (within_ok _))
  | _, _, _, .listTrouble all => by
      simp only [evalWith_list]
      exact all.settles.trouble

/-- The evaluation of elements settles as those of each do. -/
theorem EvaluatesAll.settles : {scope : Scope} → {expected : Option Variety} →
    {elems : List Expression} → {result : Result (List Value)} →
    EvaluatesAll globals scope expected elems result →
    Settles (fun limit depth =>
      evalElements globals (callWithin globals limit depth) scope expected elems) result
  | _, _, _, _, .nil => settles_always (within_ok _)
  | _, _, _, _, .cons former same latter => by
      simp only [evalElements_cons]
      refine former.settles.bind ?_
      simp only [evalLater, if_pos same]
      exact latter.settles.bind (settles_always (within_ok _))
  | _, _, _, _, .elemTrouble former => by
      simp only [evalElements_cons]
      exact former.settles.trouble
  | _, _, _, _, .mixed former other => by
      simp only [evalElements_cons]
      refine former.settles.bind ?_
      simp only [evalLater, if_neg other]
      exact settles_always (within_reportAt nofun)
  | _, _, _, _, .laterTrouble former same latter => by
      simp only [evalElements_cons]
      refine former.settles.bind ?_
      simp only [evalLater, if_pos same]
      exact latter.settles.trouble

end

mutual

/-- The rules give the result of an evaluation with a limit where the limit was not exceeded. -/
theorem evalWith_evaluates {call : Span → Scope → Expression → Result Value}
    (calls : ∀ span scope body, ¬(call span scope body).Exceeds →
      Evaluates globals scope body (call span scope body))
    (scope : Scope) (expression : Expression)
    (within : ¬(expression.evalWith globals call scope).Exceeds) :
    Evaluates globals scope expression (expression.evalWith globals call scope) := by
  cases expression with
  | hole => exact .hole
  | literal span value => exact .literal
  | function span param body => exact .function
  | ident span name =>
      rw [evalWith]
      split
      · rename_i value found
        exact .bound found
      · rename_i missing
        exact .unbound missing
  | unary span operator operand =>
      have inner := evalWith_evaluates calls scope operand
      rw [evalWith_unary] at within ⊢
      cases found : operand.evalWith globals call scope with
      | error trouble =>
          rw [found] at inner within
          exact .unaryTrouble (inner within)
      | ok value =>
          rw [found] at inner
          exact .unary (inner id)
  | binary span operator left right =>
      have former := evalWith_evaluates calls scope left
      have latter := evalWith_evaluates calls scope right
      rw [evalWith_binary] at within ⊢
      cases found : left.evalWith globals call scope with
      | error trouble =>
          rw [found] at former within
          exact .leftTrouble (former within)
      | ok value =>
          rw [found] at former within
          -- The left operand has a value, so the whole exceeds the limit only if the right one does.
          change ¬(right.evalWith globals call scope >>= operator.applyBinary span value).Exceeds
            at within
          cases found' : right.evalWith globals call scope with
          | error trouble =>
              rw [found'] at latter within
              exact .rightTrouble (former id) (latter within)
          | ok value' =>
              rw [found'] at latter
              exact .binary (former id) (latter id)
  | apply span callee arg =>
      have former := evalWith_evaluates calls scope callee
      have latter := evalWith_evaluates calls scope arg
      rw [evalWith_apply] at within ⊢
      cases found : callee.evalWith globals call scope with
      | error trouble =>
          rw [found] at former within
          exact .calleeTrouble (former within)
      | ok value =>
          rw [found] at former within
          change ¬(evalCall globals call scope span callee.extent arg value).Exceeds at within
          cases value with
          | int | float | unit | list => exact .notCallable (former id) nofun
          | closure param body outer =>
              -- Only this case calls a body, which is where the limit counts.
              have whole : (.ok (.closure param body outer) >>=
                  evalCall globals call scope span callee.extent arg) =
                    arg.evalWith globals call scope >>= fun value =>
                      call span (.call param value outer) body := rfl
              rw [whole]
              rw [evalCall] at within
              cases found' : arg.evalWith globals call scope with
              | error trouble =>
                  rw [found'] at latter within
                  exact .argTrouble (former id) (latter within)
              | ok value' =>
                  rw [found'] at latter within
                  exact .apply (former id) (latter id) (calls _ _ _ within)
  | list span elems =>
      have all := evalElements_evaluates calls scope none elems
      rw [evalWith_list] at within ⊢
      cases found : evalElements globals call scope none elems with
      | error trouble =>
          rw [found] at all within
          exact .listTrouble (all within)
      | ok values =>
          rw [found] at all
          exact .list (all id)

/-- Elements that are evaluated within the limit evaluate without one. -/
theorem evalElements_evaluates {call : Span → Scope → Expression → Result Value}
    (calls : ∀ span scope body, ¬(call span scope body).Exceeds →
      Evaluates globals scope body (call span scope body))
    (scope : Scope) (expected : Option Variety) (elems : List Expression)
    (within : ¬(evalElements globals call scope expected elems).Exceeds) :
    EvaluatesAll globals scope expected elems (evalElements globals call scope expected elems) := by
  cases elems with
  | nil => exact .nil
  | cons elem elems =>
      have former := evalWith_evaluates calls scope elem
      rw [evalElements_cons] at within ⊢
      cases found : elem.evalWith globals call scope with
      | error trouble =>
          rw [found] at former within
          exact .elemTrouble (former within)
      | ok value =>
          rw [found] at former within
          change ¬(evalLater globals call scope expected elem.extent elems value).Exceeds at within
          change EvaluatesAll _ _ _ _ (evalLater globals call scope expected elem.extent elems value)
          rw [evalLater] at within ⊢
          split at within
          · rename_i same
            have latter := evalElements_evaluates calls scope
              (some (expected.getD value.variety)) elems
            rw [if_pos same]
            cases found' :
              evalElements globals call scope (some (expected.getD value.variety)) elems with
            | error trouble =>
                rw [found'] at latter within
                exact .laterTrouble (former id) same (latter within)
            | ok values =>
                rw [found'] at latter
                exact .cons (former id) same (latter id)
          · rename_i other
            rw [if_neg other]
            exact .mixed (former id) other

end

/-- A call that stays within the limit evaluates without one. -/
theorem callWithin_evaluates (limit depth : Nat) (span : Span) (scope : Scope)
    (body : Expression) (within : ¬(callWithin globals limit depth span scope body).Exceeds) :
    Evaluates globals scope body (callWithin globals limit depth span scope body) := by
  induction depth generalizing span scope body with
  | zero => exact absurd (exceeds_reportAt span limit) within
  | succ depth ih =>
      rw [callWithin, evalWithin_eq] at within ⊢
      exact evalWith_evaluates ih scope body within

/-- An evaluation that stays within the limit is one without a limit. -/
theorem evalWithin_evaluates (limit depth : Nat) (scope : Scope) (expression : Expression)
    (within : ¬(expression.evalWithin globals limit depth scope).Exceeds) :
    Evaluates globals scope expression (expression.evalWithin globals limit depth scope) := by
  rw [evalWithin_eq] at within ⊢
  exact evalWith_evaluates (callWithin_evaluates limit depth) scope expression within

/-- An evaluation without a limit is reached from some limit on. -/
theorem Evaluates.settlesWithin {scope : Scope} {expression : Expression} {result : Result Value}
    (evaluates : Evaluates globals scope expression result) :
    Settles (fun limit depth => expression.evalWithin globals limit depth scope) result := by
  simp only [evalWithin_eq]
  exact evaluates.settles

end Evaluation

/-- What does not exceed a limit has the same result with every greater limit. It is the only result
that the rules give, and they only give results that some limit suffices for. -/
theorem limit_transparent (globals : Bindings) (scope : Scope) (expression : Expression) :
    (∀ limit, ¬(expression.evalWithin globals limit limit scope).Exceeds →
      (∀ limit' ≥ limit, expression.evalWithin globals limit' limit' scope =
        expression.evalWithin globals limit limit scope) ∧
      ∀ result, Evaluates globals scope expression result ↔
        expression.evalWithin globals limit limit scope = result) ∧
    ∀ result, Evaluates globals scope expression result ↔
      ¬result.Exceeds ∧ ∃ limit, expression.evalWithin globals limit limit scope = result := by
  have settled {result : Result Value} (evaluates : Evaluates globals scope expression result)
      {limit : Nat} (within : ¬(expression.evalWithin globals limit limit scope).Exceeds) :
      ∀ limit' ≥ limit, expression.evalWithin globals limit' limit' scope = result := by
    obtain ⟨_, need, attempts⟩ := evaluates.settlesWithin
    -- Below what they need, attempts exceed the limit, and this one does not.
    have enough : need ≤ limit :=
      Nat.le_of_not_lt fun few => within ((attempts limit limit).2 few)
    exact fun limit' more => (attempts limit' limit').1 (Nat.le_trans enough more)
  refine ⟨fun limit within => ?_, fun result => ⟨fun evaluates => ?_, ?_⟩⟩
  · have evaluates := evalWithin_evaluates limit limit scope expression within
    refine ⟨settled evaluates within, fun result => ⟨fun other => ?_, ?_⟩⟩
    · exact settled other within limit (Nat.le_refl limit)
    · rintro rfl
      exact evaluates
  · obtain ⟨within, need, attempts⟩ := evaluates.settlesWithin
    exact ⟨within, need, (attempts need need).1 (Nat.le_refl need)⟩
  · rintro ⟨within, limit, rfl⟩
    exact evalWithin_evaluates limit limit scope expression within

/-- This is the expression `(x: x) 3`, which needs a single call. -/
def identityCall : Expression :=
  .apply ⟨.start, .start⟩
    (.function ⟨.start, .start⟩ "x" (.ident ⟨.start, .start⟩ "x"))
    (.literal ⟨.start, .start⟩ (.int 3))

/-- A call of the identity needs a limit of one, and gives the same with a greater one. -/
theorem identityCall_transparent :
    (identityCall.evalWithin [] 0 0 .global).Exceeds ∧
    ¬(identityCall.evalWithin [] 1 1 .global).Exceeds ∧
    identityCall.evalWithin [] 5 5 .global = .ok (.int 3) ∧
    Evaluates [] .global identityCall (.ok (.int 3)) := by
  have within : ¬(identityCall.evalWithin [] 1 1 .global).Exceeds := within_ok (Value.int 3)
  obtain ⟨same, rules⟩ := (limit_transparent [] .global identityCall).1 1 within
  exact ⟨exceeds_reportAt _ 0, within, same 5 (by decide), (rules _).2 rfl⟩

end Reckon
