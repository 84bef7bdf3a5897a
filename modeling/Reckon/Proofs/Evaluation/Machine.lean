/-
This file shows that evaluation ends. A machine that evaluates step by step, and counts the calls that
have not returned yet, comes to the result of the evaluation with its counter as it was.
-/

import Mathlib.Logic.Function.Iterate
import Reckon.Proofs.Evaluation.Whole

namespace Reckon

/-- This is what is left to do when a part of an expression has a result. -/
inductive Pending where
  | unary (span : Span) (operator : Operator)
  | left (span : Span) (operator : Operator) (right : Expression) (scope : Scope)
  | right (span : Span) (operator : Operator) (left : Value)
  | callee (span place : Span) (arg : Expression) (scope : Scope)
  | arg (span : Span) (param : String) (body : Expression) (outer : Scope)
  /-- The body of a closure is evaluated until here. -/
  | call
  | elem (place : Span) (expected : Option Variety) (before : List Value)
      (after : List Expression) (scope : Scope)
  | assign (name : String)

def Pending.isCall : Pending → Bool
  | call => true
  | _ => false

inductive Focus where
  | evaluating (scope : Scope) (expression : Expression)
  | returning (result : Result Value)

/-- A machine counts the calls that it is in. What is to be done next comes first. -/
structure Machine where
  globals : Bindings
  depth : Nat
  pending : List Pending
  focus : Focus

namespace Machine

def returns (machine : Machine) (result : Result Value) : Machine :=
  { machine with focus := .returning result }

/-- This turns to a part of an expression. The task goes on with its result. -/
def evaluates (machine : Machine) (task : Pending) (scope : Scope) (part : Expression) : Machine :=
  { machine with pending := task :: machine.pending, focus := .evaluating scope part }

def elements (machine : Machine) (scope : Scope) (expected : Option Variety)
    (before : List Value) : List Expression → Machine
  | [] => machine.returns (.ok (.list before))
  | elem :: elems => machine.evaluates (.elem elem.extent expected before elems scope) scope elem

def enter (machine : Machine) (scope : Scope) : Expression → Machine
  | .hole => machine.returns (.error (.fault (.invalidExpression missingText)))
  | .literal _ value => machine.returns value.value
  | .ident span name =>
      match scope.get? machine.globals name with
      | some value => machine.returns (.ok value)
      | none => machine.returns (reportAt span (.unbound name))
  | .unary span operator operand => machine.evaluates (.unary span operator) scope operand
  | .binary span operator left right =>
      machine.evaluates (.left span operator right scope) scope left
  | .function _ param body => machine.returns (.ok (.closure param body scope))
  | .apply span callee arg =>
      machine.evaluates (.callee span callee.extent arg scope) scope callee
  | .list _ elems => machine.elements scope none [] elems

/-- This goes on with a value. A call counts from the evaluation of the body to its end. -/
def resume (limit : Nat) (machine : Machine) (value : Value) : Pending → Machine
  | .unary span operator => machine.returns (operator.applyUnary span value)
  | .left span operator right scope => machine.evaluates (.right span operator value) scope right
  | .right span operator left => machine.returns (operator.applyBinary span left value)
  | .callee span place arg scope =>
      match value with
      | .closure param body outer => machine.evaluates (.arg span param body outer) scope arg
      | value => machine.returns (reportAt place (.notCallable value.variety))
  | .arg span param body outer =>
      if machine.depth < limit then
        let machine := { machine with depth := machine.depth + 1 }
        machine.evaluates .call (.call param value outer) body
      else machine.returns (reportAt span (.callDepth limit))
  | .call => { machine with depth := machine.depth - 1, focus := .returning (.ok value) }
  | .elem place expected before after scope =>
      let first := expected.getD value.variety
      if value.variety = first then
        machine.elements scope (some first) (before ++ [value]) after
      else machine.returns (reportAt place (.mixedList first value.variety))
  | .assign name =>
      { machine with globals := machine.globals.set name value, focus := .returning (.ok .unit) }

/-- Trouble leaves all that is pending undone, but a call that ends in trouble is still counted
down. -/
def abandon (machine : Machine) (trouble : Trouble) : Pending → Machine
  | .call => { machine with depth := machine.depth - 1, focus := .returning (.error trouble) }
  | _ => machine.returns (.error trouble)

/-- A machine that returns with nothing pending is at its end. -/
def step (limit : Nat) (machine : Machine) : Machine :=
  match machine.focus, machine.pending with
  | .evaluating scope expression, _ => machine.enter scope expression
  | .returning _, [] => machine
  | .returning (.ok value), task :: pending =>
      { machine with pending := pending }.resume limit value task
  | .returning (.error trouble), task :: pending =>
      { machine with pending := pending }.abandon trouble task

/-- This is the machine that executes a statement. -/
def ofStatement (globals : Bindings) : Statement → Machine
  | .missing => ⟨globals, 0, [], .returning (.error (.fault (.invalidStatement missingText)))⟩
  | .assign _ name value => ⟨globals, 0, [.assign name], .evaluating .global value⟩
  | .define _ name param body =>
      ⟨globals.set name (.closure param body .global), 0, [], .returning (.ok .unit)⟩
  | .expression value => ⟨globals, 0, [], .evaluating .global value⟩

/-- A machine is inside of an evaluation as long as it has not returned to what was pending. -/
def Inside (pending : List Pending) (machine : Machine) : Prop :=
  pending <:+ machine.pending ∧
    (machine.pending = pending → ∃ scope expression, machine.focus = .evaluating scope expression)

/-- A machine comes to another one after finitely many steps, and is inside until then. -/
def Reaches (limit : Nat) (pending : List Pending) (first last : Machine) : Prop :=
  ∃ count, (step limit)^[count] first = last ∧
    ∀ earlier < count, ((step limit)^[earlier] first).Inside pending

/-- A machine returns a result when it comes to it for the first time with the counter, the
bindings and what was pending as they were. -/
def Returns (limit : Nat) (machine : Machine) (result : Result Value) : Prop :=
  Reaches limit machine.pending machine (machine.returns result)

section Reaches

variable {limit : Nat} {task : Pending} {pending : List Pending} {first middle last : Machine}

theorem Reaches.refl : Reaches limit pending first first := ⟨0, rfl, nofun⟩

theorem Reaches.trans (former : Reaches limit pending first middle)
    (latter : Reaches limit pending middle last) : Reaches limit pending first last := by
  obtain ⟨count, rfl, inside⟩ := former
  obtain ⟨count', rfl, inside'⟩ := latter
  refine ⟨count' + count, Function.iterate_add_apply _ _ _ _, fun earlier before => ?_⟩
  by_cases early : earlier < count
  · exact inside earlier early
  · have late := inside' (earlier - count) (by omega)
    rw [← Function.iterate_add_apply, Nat.sub_add_cancel (Nat.le_of_not_lt early)] at late
    exact late

/-- A machine reaches what is reached after its next step. -/
theorem Reaches.next (inside : first.Inside pending)
    (rest : Reaches limit pending (first.step limit) last) : Reaches limit pending first last := by
  refine .trans ⟨1, rfl, fun earlier before => ?_⟩ rest
  cases Nat.lt_one_iff.1 before
  exact inside

/-- A machine that is inside of a task is inside of what is pending beneath it. -/
theorem Inside.beneath {machine : Machine} (inside : machine.Inside (task :: pending)) :
    machine.Inside pending := by
  refine ⟨(List.suffix_cons task pending).trans inside.1, fun same => ?_⟩
  have short := inside.1.length_le
  rw [same, List.length_cons] at short
  omega

/-- The result of a part is taken up by the task that waits for it. -/
theorem Reaches.after {globals : Bindings} {depth : Nat} {result : Result Value}
    (part : Reaches limit (task :: pending) first
      ⟨globals, depth, task :: pending, .returning result⟩)
    (rest : Reaches limit pending
      (step limit ⟨globals, depth, task :: pending, .returning result⟩) last) :
    Reaches limit pending first last := by
  obtain ⟨count, comes, inside⟩ := part
  refine .trans ⟨count, comes, fun earlier before => (inside earlier before).beneath⟩
    (.next ?_ rest)
  exact ⟨List.suffix_cons task pending, fun same => by cases List.cons_ne_self _ _ same⟩

/-- Trouble with a part passes by the task, and ends the whole. -/
theorem Reaches.bind {globals : Bindings} {depth : Nat} {result : Result Value}
    {rest : Value → Result Value} (simple : task.isCall = false)
    (part : Reaches limit (task :: pending) first
      ⟨globals, depth, task :: pending, .returning result⟩)
    (next : ∀ value, Reaches limit pending
      (step limit ⟨globals, depth, task :: pending, .returning (.ok value)⟩)
      ⟨globals, depth, pending, .returning (rest value)⟩) :
    Reaches limit pending first ⟨globals, depth, pending, .returning (result >>= rest)⟩ := by
  refine part.after ?_
  cases result with
  | ok value => exact next value
  | error trouble =>
      cases task with
      | call => cases simple
      | unary | left | right | callee | arg | elem | assign => exact .refl

/-- A machine that evaluates a part has not returned. -/
theorem inside_evaluating (globals : Bindings) (depth : Nat) (pending : List Pending)
    (scope : Scope) (expression : Expression) :
    Inside pending ⟨globals, depth, pending, .evaluating scope expression⟩ :=
  ⟨List.suffix_rfl, fun _ => ⟨scope, expression, rfl⟩⟩

end Reaches

end Machine

namespace Expression

open Machine

variable {limit depth : Nat} {globals : Bindings}
  {call : Span → Scope → Expression → Result Value}

/-- Calls return when the machine does with a closure and its argument. -/
def CallsReturn (limit depth : Nat) (globals : Bindings)
    (call : Span → Scope → Expression → Result Value) : Prop :=
  ∀ pending span param body outer arg,
    Reaches limit pending
      (step limit ⟨globals, depth, .arg span param body outer :: pending, .returning (.ok arg)⟩)
      ⟨globals, depth, pending, .returning (call span (.call param arg outer) body)⟩

mutual

/-- A machine returns the result of the evaluation of a part when calls return. -/
theorem evalWith_returns (calls : CallsReturn limit depth globals call) (scope : Scope)
    (pending : List Pending) (expression : Expression) :
    Returns limit ⟨globals, depth, pending, .evaluating scope expression⟩
      (expression.evalWith globals call scope) := by
  refine .next (inside_evaluating globals depth pending scope expression) ?_
  cases expression with
  | hole | literal | function => exact .refl
  | ident span name =>
      simp only [evalWith, step, enter]
      cases scope.get? globals name <;> exact .refl
  | unary span operator operand =>
      rw [evalWith_unary]
      exact (evalWith_returns calls scope _ operand).bind rfl fun value => .refl
  | binary span operator left right =>
      rw [evalWith_binary]
      exact (evalWith_returns calls scope _ left).bind rfl fun value =>
        (evalWith_returns calls scope _ right).bind rfl fun value' => .refl
  | apply span callee arg =>
      rw [evalWith_apply]
      refine (evalWith_returns calls scope _ callee).bind rfl fun value => ?_
      cases value with
      | int | float | unit | list => exact .refl
      | closure param body outer =>
          exact (evalWith_returns calls scope _ arg).bind rfl
            (calls pending span param body outer)
  | list span elems =>
      rw [evalWith_list]
      exact evalElements_returns calls scope pending none [] elems
        (.evaluating scope (.list span elems))

/-- A machine comes to the list of its elements, or to the first trouble with them. -/
theorem evalElements_returns (calls : CallsReturn limit depth globals call) (scope : Scope)
    (pending : List Pending) (expected : Option Variety) (before : List Value)
    (elems : List Expression) (focus : Focus) :
    Reaches limit pending
      ((⟨globals, depth, pending, focus⟩ : Machine).elements scope expected before elems)
      ⟨globals, depth, pending, .returning
        (evalElements globals call scope expected elems >>= fun values =>
          .ok (.list (before ++ values)))⟩ := by
  cases elems with
  | nil =>
      have all : Value.list before = .list (before ++ []) := by rw [List.append_nil]
      rw [evalElements, elements, all]
      exact .refl
  | cons elem elems =>
      rw [evalElements_cons, bind_assoc]
      refine (evalWith_returns calls scope _ elem).bind rfl fun value => ?_
      -- The machine keeps the values so far, and the evaluation puts them in front at the end.
      simp only [step, resume, evalLater]
      split
      · have later := evalElements_returns calls scope pending
          (some (expected.getD value.variety)) (before ++ [value]) elems (.returning (.ok value))
        rw [bind_assoc]
        simp only [List.append_assoc] at later
        exact later
      · exact .refl

end

/-- The machine has room for as many calls as the counter leaves below the limit. -/
theorem evalWithin_returns (limit : Nat) (globals : Bindings) (depth : Nat) (scope : Scope)
    (pending : List Pending) (expression : Expression) :
    Returns limit ⟨globals, depth, pending, .evaluating scope expression⟩
      (expression.evalWithin globals limit (limit - depth) scope) := by
  -- A body is no part of the expression that calls it, but it has less room below the limit.
  induction room : limit - depth generalizing depth scope pending expression with
  | zero =>
      refine evalWith_returns (fun pending span param body outer arg => ?_) scope pending expression
      simp only [step, resume]
      rw [if_neg (by omega)]
      exact .refl
  | succ room' ih =>
      refine evalWith_returns (fun pending span param body outer arg => ?_) scope pending expression
      have inner := ih (depth + 1) (.call param arg outer) (.call :: pending) body (by omega)
      simp only [step, resume]
      rw [if_pos (by omega)]
      cases found : body.evalWithin globals limit room' (.call param arg outer) <;>
        rw [found] at inner
      · exact inner.after .refl
      · exact inner.after .refl

end Expression

namespace Machine

/-- The counter is the number of calls that are pending, and stays below the limit. -/
def Counted (limit : Nat) (machine : Machine) : Prop :=
  machine.depth = machine.pending.countP Pending.isCall ∧ machine.depth ≤ limit

section Counted

variable {limit : Nat} {machine : Machine}

/-- Turning to a part counts no call. -/
theorem Counted.evaluates (counted : machine.Counted limit) {task : Pending}
    (simple : task.isCall = false) (scope : Scope) (part : Expression) :
    (machine.evaluates task scope part).Counted limit := by
  refine ⟨?_, counted.2⟩
  rw [Machine.evaluates, List.countP_cons_of_neg (by rw [simple]; nofun)]
  exact counted.1

/-- Turning to the elements of a list counts no call. -/
theorem Counted.elements (counted : machine.Counted limit) (scope : Scope)
    (expected : Option Variety) (before : List Value) (elems : List Expression) :
    (machine.elements scope expected before elems).Counted limit := by
  cases elems with
  | nil => exact counted
  | cons elem elems => exact counted.evaluates rfl scope elem

/-- Entering an expression counts no call. -/
theorem Counted.enter (counted : machine.Counted limit) (scope : Scope)
    (expression : Expression) : (machine.enter scope expression).Counted limit := by
  cases expression with
  | hole | literal | function => exact counted
  | ident span name =>
      rw [Machine.enter]
      split <;> exact counted
  | unary span operator operand => exact counted.evaluates rfl scope operand
  | binary span operator left right => exact counted.evaluates rfl scope left
  | apply span callee arg => exact counted.evaluates rfl scope callee
  | list span elems => exact counted.elements scope none [] elems

/-- A task that is no call does not matter to the counter. -/
theorem Counted.beneath {task : Pending} {globals : Bindings} {depth : Nat}
    {pending : List Pending} {focus : Focus}
    (counted : Counted limit ⟨globals, depth, task :: pending, focus⟩)
    (simple : task.isCall = false) : Counted limit ⟨globals, depth, pending, focus⟩ := by
  refine ⟨?_, counted.2⟩
  have same := counted.1
  rw [List.countP_cons_of_neg (by rw [simple]; nofun)] at same
  exact same

/-- The end of a call was counted. -/
theorem Counted.ended {globals : Bindings} {depth : Nat} {pending : List Pending}
    {focus : Focus} (counted : Counted limit ⟨globals, depth, .call :: pending, focus⟩)
    (after : Focus) : Counted limit ⟨globals, depth - 1, pending, after⟩ := by
  obtain ⟨same, below⟩ := counted
  rw [List.countP_cons_of_pos rfl] at same
  dsimp only at same below
  exact ⟨by dsimp only; omega, by dsimp only; omega⟩

/-- Going on with a value counts a call only when it starts one, and counts it down when it ends. -/
theorem Counted.resume {task : Pending} {globals : Bindings} {depth : Nat}
    {pending : List Pending} {focus : Focus}
    (counted : Counted limit ⟨globals, depth, task :: pending, focus⟩) (value : Value) :
    ((⟨globals, depth, pending, focus⟩ : Machine).resume limit value task).Counted limit := by
  cases task with
  | call => exact counted.ended _
  | unary | right | assign => exact counted.beneath rfl
  | left span operator right scope => exact (counted.beneath rfl).evaluates rfl scope right
  | callee span place arg scope =>
      cases value with
      | int | float | unit | list => exact counted.beneath rfl
      | closure param body outer => exact (counted.beneath rfl).evaluates rfl scope arg
  | arg span param body outer =>
      have rest := counted.beneath rfl
      simp only [Machine.resume]
      split
      · rename_i room
        refine ⟨?_, room⟩
        rw [Machine.evaluates, List.countP_cons_of_pos rfl]
        exact congrArg (· + 1) rest.1
      · exact rest
  | elem place expected before after scope =>
      simp only [Machine.resume]
      split
      · exact (counted.beneath rfl).elements scope _ _ after
      · exact counted.beneath rfl

/-- A call that ends with trouble is counted down. -/
theorem Counted.abandon {task : Pending} {globals : Bindings} {depth : Nat}
    {pending : List Pending} {focus : Focus}
    (counted : Counted limit ⟨globals, depth, task :: pending, focus⟩) (trouble : Trouble) :
    ((⟨globals, depth, pending, focus⟩ : Machine).abandon trouble task).Counted limit := by
  cases task with
  | call => exact counted.ended _
  | unary | left | right | callee | arg | elem | assign => exact counted.beneath rfl

/-- Every step keeps the counter right. -/
theorem Counted.step (counted : machine.Counted limit) : (machine.step limit).Counted limit := by
  obtain ⟨globals, depth, pending, focus⟩ := machine
  cases focus with
  | evaluating scope expression => exact counted.enter scope expression
  | returning result =>
      cases pending with
      | nil => exact counted
      | cons task pending =>
          cases result with
          | ok value => exact counted.resume value
          | error trouble => exact counted.abandon trouble

/-- The counter is right after any number of steps. -/
theorem Counted.run (counted : machine.Counted limit) (count : Nat) :
    ((Machine.step limit)^[count] machine).Counted limit := by
  induction count with
  | zero => exact counted
  | succ count ih =>
      rw [Function.iterate_succ_apply']
      exact ih.step

theorem counted_ofStatement (limit : Nat) (globals : Bindings) (statement : Statement) :
    (ofStatement globals statement).Counted limit := by
  cases statement <;> exact ⟨rfl, Nat.zero_le limit⟩

end Counted

/-- A machine ends as another one when it comes to it and then stays there. -/
def Ends (limit : Nat) (first last : Machine) : Prop :=
  ∃ count, ∀ later ≥ count, (step limit)^[later] first = last

/-- This is a machine at its end after the execution of a statement. -/
def ended (globals : Bindings) : Result (Value × Bindings) → Machine
  | .ok (value, after) => ⟨after, 0, [], .returning (.ok value)⟩
  | .error trouble => ⟨globals, 0, [], .returning (.error trouble)⟩

theorem ends_self {limit : Nat} {machine : Machine} (final : machine.step limit = machine) :
    machine.Ends limit machine :=
  ⟨0, fun later _ => Function.iterate_fixed final later⟩

/-- A machine ends where it reaches one that stays as it is. -/
theorem Reaches.ends {limit : Nat} {pending : List Pending} {first last : Machine}
    (reaches : Reaches limit pending first last) (final : last.step limit = last) :
    first.Ends limit last := by
  obtain ⟨count, comes, _⟩ := reaches
  refine ⟨count, fun later after => ?_⟩
  rw [← Nat.sub_add_cancel after, Function.iterate_add_apply, comes]
  exact Function.iterate_fixed final (later - count)

/-- The machine of a statement ends with what its execution gives. -/
theorem exec_ends (globals : Bindings) (statement : Statement) :
    (ofStatement globals statement).Ends maxCallDepth (ended globals (statement.exec globals)) := by
  have evaluates (pending : List Pending) (value : Expression) :=
    Expression.evalWithin_returns maxCallDepth globals 0 .global pending value
  cases statement with
  | missing => exact ends_self rfl
  | define span name param body => exact ends_self rfl
  | expression value =>
      have inner := evaluates [] value
      rw [Statement.exec]
      change Returns _ _ (value.eval globals) at inner
      cases found : value.eval globals <;> rw [found] at inner
      · exact inner.ends rfl
      · exact inner.ends rfl
  | assign span name value =>
      have inner := evaluates [.assign name] value
      rw [Statement.exec]
      change Returns _ _ (value.eval globals) at inner
      cases found : value.eval globals <;> rw [found] at inner
      · exact (Reaches.after inner .refl).ends rfl
      · exact (Reaches.after inner .refl).ends rfl

end Machine

open Machine

/-- Evaluation ends, whatever the global bindings are: the machine returns the result of an expression
with its counter as it was, and ends with the result of a statement. The calls it is in are never more
than the limit, and whole expressions have a value or are reported. -/
theorem evaluation_ends (globals : Bindings) :
    (∀ depth scope pending expression,
      Returns maxCallDepth ⟨globals, depth, pending, .evaluating scope expression⟩
        (expression.evalWithin globals maxCallDepth (maxCallDepth - depth) scope)) ∧
    (∀ statement : Statement,
      (ofStatement globals statement).Ends maxCallDepth
        (ended globals (statement.exec globals))) ∧
    (∀ count scope expression,
      ((step maxCallDepth)^[count] ⟨globals, 0, [], .evaluating scope expression⟩).Counted
        maxCallDepth) ∧
    (∀ count (statement : Statement),
      ((step maxCallDepth)^[count] (ofStatement globals statement)).Counted maxCallDepth) ∧
    (globals.isWhole = true →
      (∀ limit depth scope (expression : Expression), scope.isWhole = true →
        expression.isWhole = true → ∀ fault,
          expression.evalWithin globals limit depth scope ≠ .error (.fault fault)) ∧
      ∀ statement : Statement, statement.isWhole = true → ∀ fault,
        statement.exec globals ≠ .error (.fault fault)) := by
  refine ⟨Expression.evalWithin_returns maxCallDepth globals, exec_ends globals,
    fun count scope expression => Counted.run ⟨rfl, Nat.zero_le _⟩ count,
    fun count statement => (counted_ofStatement maxCallDepth globals statement).run count,
    fun globalsWhole => ⟨fun limit depth scope expression scopeWhole whole => ?_,
      fun statement whole => (statement.exec_whole globalsWhole whole).ne_fault⟩⟩
  have meets := Expression.evalWithin_whole globalsWhole limit depth expression.extent scope
    expression scopeWhole whole
  exact meets.ne_fault

/-- This is the expression `f x` with an argument in place of `x`. -/
def endlessCall (arg : Expression) : Expression :=
  .apply ⟨.start, .start⟩ (.ident ⟨.start, .start⟩ "f") arg

/-- The function `f = x: f x` calls itself without end. -/
def endless : Bindings :=
  [("f", .closure "x" (endlessCall (.ident ⟨.start, .start⟩ "x")) .global)]

/-- A call that calls itself runs into the limit at every depth. -/
theorem endlessCall_evalWithin (limit depth : Nat) (value : Value) :
    (endlessCall (.ident ⟨.start, .start⟩ "x")).evalWithin endless limit depth
      (.call "x" value .global) = reportAt ⟨.start, .start⟩ (.callDepth limit) := by
  induction depth with
  | zero => rfl
  | succ depth ih => exact ih

/-- The first call of an endless function runs into the limit. -/
theorem endlessCall_evalLimited (limit : Nat) :
    (endlessCall (.literal ⟨.start, .start⟩ (.int 3))).evalLimited limit endless =
      reportAt ⟨.start, .start⟩ (.callDepth limit) := by
  cases limit with
  | zero => rfl
  | succ limit => exact endlessCall_evalWithin (limit + 1) limit (.int 3)

def endlessStatement : Statement :=
  .expression (endlessCall (.literal ⟨.start, .start⟩ (.int 3)))

/-- The call of such a function is reported, after which the counter is zero again. -/
theorem endless_ends :
    endless.isWhole = true ∧ endlessStatement.isWhole = true ∧
    (ofStatement endless endlessStatement).Ends maxCallDepth
      ⟨endless, 0, [], .returning (reportAt ⟨.start, .start⟩ (.callDepth maxCallDepth))⟩ ∧
    ∀ fault, endlessStatement.exec endless ≠ .error (.fault fault) := by
  obtain ⟨_, ends, _, _, faultless⟩ := evaluation_ends endless
  refine ⟨rfl, rfl, ?_, (faultless rfl).2 _ rfl⟩
  have last := ends endlessStatement
  rw [endlessStatement, Statement.exec, Expression.eval, endlessCall_evalLimited] at last
  exact last

end Reckon
