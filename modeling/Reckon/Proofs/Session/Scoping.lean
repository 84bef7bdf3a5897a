/-
This file shows that no name is missing where all names were bound before. A closure is covered when the
scope that it captured binds the names of its body, and a session whose closures are covered stays one.
-/

import Reckon.Proofs.Evaluation.Invariant
import Reckon.Proofs.Session.Frames

namespace Reckon

open Text

namespace Expression

mutual

/-- These are the names that an expression uses outside of the functions that bind them. -/
def free : Expression → List String
  | hole | literal _ _ => []
  | ident _ name => [name]
  | unary _ _ operand => operand.free
  | binary _ _ left right => left.free ++ right.free
  | function _ param body => body.free.filter (· ≠ param)
  | apply _ callee arg => callee.free ++ arg.free
  | list _ elems => allFree elems

def allFree : List Expression → List String
  | [] => []
  | elem :: elems => elem.free ++ allFree elems

end

end Expression

/-- A scope binds the names that are found in it or around it. -/
def Scope.Binds (globals : Bindings) (scope : Scope) (name : String) : Prop :=
  (scope.get? globals name).isSome = true

instance (globals : Bindings) (scope : Scope) (name : String) : Decidable (scope.Binds globals name) :=
  inferInstanceAs (Decidable (_ = true))

/-- A closure is covered when its scope binds the names of its body, apart from the parameter. -/
def Covered (globals : Bindings) (param : String) (body : Expression) (scope : Scope) : Prop :=
  ∀ name ∈ body.free, name ≠ param → scope.Binds globals name

instance (globals : Bindings) (param : String) (body : Expression) (scope : Scope) :
    Decidable (Covered globals param body scope) :=
  inferInstanceAs (Decidable (∀ name ∈ body.free, name ≠ param → scope.Binds globals name))

mutual

/-- A value leads to a closure when it is the closure, and where its elements and the scopes that it
captured lead. -/
inductive Value.LeadsTo (globals : Bindings) : Value → String → Expression → Scope → Prop where
  | here {param : String} {body : Expression} {scope : Scope} :
      Value.LeadsTo globals (.closure param body scope) param body scope
  | captured {param param' : String} {body body' : Expression} {scope scope' : Scope}
      (inner : Scope.LeadsTo globals scope param' body' scope') :
      Value.LeadsTo globals (.closure param body scope) param' body' scope'
  | element {elems : List Value} {elem : Value} {param : String} {body : Expression} {scope : Scope}
      (member : elem ∈ elems) (inner : Value.LeadsTo globals elem param body scope) :
      Value.LeadsTo globals (.list elems) param body scope

/-- A scope leads where its bindings and those around it lead, the global ones included. -/
inductive Scope.LeadsTo (globals : Bindings) : Scope → String → Expression → Scope → Prop where
  | global {name param : String} {value : Value} {body : Expression} {scope : Scope}
      (found : globals.get? name = some value) (inner : Value.LeadsTo globals value param body scope) :
      Scope.LeadsTo globals .global param body scope
  | bound {name param : String} {value : Value} {outer scope : Scope} {body : Expression}
      (inner : Value.LeadsTo globals value param body scope) :
      Scope.LeadsTo globals (.call name value outer) param body scope
  | outer {name param : String} {value : Value} {outer scope : Scope} {body : Expression}
      (inner : Scope.LeadsTo globals outer param body scope) :
      Scope.LeadsTo globals (.call name value outer) param body scope

end

/-- A value is closed when every closure that it leads to is covered. -/
def Value.Closed (globals : Bindings) (value : Value) : Prop :=
  ∀ param body scope, value.LeadsTo globals param body scope → Covered globals param body scope

def Scope.Closed (globals : Bindings) (scope : Scope) : Prop :=
  ∀ param body inner, scope.LeadsTo globals param body inner → Covered globals param body inner

/-- Global bindings are closed when every closure that can be reached from them is covered. -/
def Bindings.Closed (globals : Bindings) : Prop := Scope.global.Closed globals

section Closed

variable {globals : Bindings} {value : Value} {scope : Scope} {name param : String} {body : Expression}

theorem Value.Plain.closed (plain : value.Plain) : value.Closed globals := by
  intro param body scope leads
  cases plain <;> cases leads

/-- A list is closed when its elements are. -/
theorem closed_list {elems : List Value} :
    (Value.list elems).Closed globals ↔ ∀ elem ∈ elems, elem.Closed globals := by
  constructor
  · intro closed elem member param body scope leads
    exact closed param body scope (.element member leads)
  · rintro all param body scope (_ | _ | ⟨member, inner⟩)
    exact all _ member param body scope inner

/-- A closure is closed when its scope is and binds all names of its body but the parameter. -/
theorem closed_closure : (Value.closure param body scope).Closed globals ↔
    Covered globals param body scope ∧ scope.Closed globals := by
  constructor
  · intro closed
    exact ⟨closed param body scope .here,
      fun param' body' scope' leads => closed param' body' scope' (.captured leads)⟩
  · rintro ⟨covered, closed⟩ param' body' scope' (_ | inner | _)
    · exact covered
    · exact closed param' body' scope' inner

/-- The scope of a call is closed when its argument and the scope outside are. -/
theorem closed_call : (Scope.call name value scope).Closed globals ↔
    value.Closed globals ∧ scope.Closed globals := by
  constructor
  · intro closed
    exact ⟨fun param body inner leads => closed param body inner (.bound leads),
      fun param body inner leads => closed param body inner (.outer leads)⟩
  · rintro ⟨here, around⟩ param body inner (_ | leads | leads)
    · exact here param body inner leads
    · exact around param body inner leads

/-- What is found in a closed scope is closed. -/
theorem Scope.Closed.get? (closed : scope.Closed globals) (found : scope.get? globals name = some value) :
    value.Closed globals := by
  fun_induction Scope.get? globals scope name with
  | case1 => exact fun param body inner leads => closed param body inner (.global found leads)
  | case2 bound here outer =>
      cases found
      exact (closed_call.1 closed).1
  | case3 bound here outer name _ ih => exact ih (closed_call.1 closed).2 found

/-- The scope of a call binds its parameter, and what the scope outside binds. -/
theorem binds_call {bound : String} : (Scope.call bound value scope).Binds globals name ↔
    name = bound ∨ scope.Binds globals name := by
  rw [Scope.Binds, Scope.get?]
  split
  · rename_i same
    exact iff_of_true rfl (.inl same)
  · rename_i other
    rw [or_iff_right other]
    rfl

/-- A call opens a scope that covers the body of the closure. -/
theorem Covered.call (covered : Covered globals param body scope) (value : Value) :
    ∀ name ∈ body.free, (Scope.call param value scope).Binds globals name := by
  intro name member
  rw [binds_call]
  by_cases same : name = param
  · exact .inl same
  · exact .inr (covered name member same)

end Closed

/-- Trouble misses a name when a cause of it is that the name is not bound. -/
def Trouble.MissesName : Trouble → Prop
  | .report reported => ∃ leaf ∈ reported.leaves, ∃ name, leaf.1 = .unbound name
  | .fault _ => False

/-- A result finds its names when no trouble misses one, and its value meets a condition. -/
inductive Result.FindsNames {A : Type} (condition : A → Prop) : Result A → Prop where
  | ok {value : A} (here : condition value) : FindsNames condition (.ok value)
  | error {trouble : Trouble} (found : ¬trouble.MissesName) : FindsNames condition (.error trouble)

section FindsNames

variable {A : Type} {condition : A → Prop} {result : Result A}

/-- The name of a stage does not matter to the names that are found. -/
theorem Result.FindsNames.inStage (finds : result.FindsNames condition) (stage : Stage) :
    (result.inStage stage).FindsNames condition := by
  cases finds with
  | ok here => exact .ok here
  | @error trouble found =>
      cases trouble with
      | report report => exact .error found
      | fault fault => exact .error id

/-- A result finds its names when its trouble misses none. -/
theorem Result.Conforms.finds
    (conforms : result.Conforms condition fun trouble => ¬trouble.MissesName) :
    result.FindsNames condition := by
  cases conforms with
  | ok here => exact .ok here
  | error found => exact .error found

end FindsNames

/-- A name that is free in an element is free in the list. -/
theorem Expression.mem_allFree {elems : List Expression} {elem : Expression} {name : String}
    (inside : elem ∈ elems) (member : name ∈ elem.free) : name ∈ allFree elems := by
  induction elems with
  | nil => cases inside
  | cons first elems ih =>
      rcases List.mem_cons.1 inside with rfl | later
      · exact List.mem_append_left _ member
      · exact List.mem_append_right _ (ih later)

/-- A name that is free in an operand is free in the expression. -/
theorem Expression.mem_free_of_operand {expression part : Expression} {name : String}
    (inside : part ∈ expression.operands) (member : name ∈ part.free) : name ∈ expression.free := by
  cases expression with
  | hole | literal | ident | function => cases inside
  | unary => exact List.mem_singleton.1 inside ▸ member
  | binary | apply =>
      rcases List.mem_pair.1 inside with rfl | rfl
      · exact List.mem_append_left _ member
      · exact List.mem_append_right _ member
  | list span elems => exact mem_allFree inside member

/-- Expressions in closed scopes that bind their names have closed values, and miss no name. -/
def Bindings.closedInvariant (globals : Bindings) : Invariant globals where
  value := Value.Closed globals
  admits scope expression :=
    scope.Closed globals ∧ ∀ name ∈ expression.free, scope.Binds globals name
  allows trouble := ¬trouble.MissesName
  plain := Value.Plain.closed
  list _ all := closed_list.2 all
  operand admitted inside :=
    ⟨admitted.1, fun name member => admitted.2 name (Expression.mem_free_of_operand inside member)⟩
  bound admitted found := admitted.1.get? found
  unbound := by
    intro scope span name admitted missing
    have bound : (scope.get? globals name).isSome = true := admitted.2 name (List.mem_singleton_self name)
    rw [missing] at bound
    cases bound
  closure admitted := closed_closure.2
    ⟨fun name member other => admitted.2 name (List.mem_filter.2 ⟨member, decide_eq_true other⟩), admitted.1⟩
  body closure arg :=
    have ⟨covered, around⟩ := closed_closure.1 closure
    ⟨closed_call.2 ⟨arg, around⟩, covered.call _⟩
  broken _ _ := id
  report := by
    rintro span cause known ⟨leaf, member, name, same⟩
    cases List.mem_singleton.1 member
    exact known name same

/-- In a closed scope, an expression whose free names are bound finds all of its names. -/
theorem Expression.evalWithin_finds {globals : Bindings} {scope : Scope} (limit depth : Nat)
    (closed : scope.Closed globals) (expression : Expression)
    (bound : ∀ name ∈ expression.free, scope.Binds globals name) :
    (expression.evalWithin globals limit depth scope).FindsNames (Value.Closed globals) :=
  (globals.closedInvariant.evalWithin_conforms limit depth ⟨closed, bound⟩).finds

section Set

variable {globals : Bindings} {bound : String} {new : Value}

/-- What a scope binds it still binds when a global name is set. -/
theorem Scope.Binds.set {scope : Scope} {name : String} (binds : scope.Binds globals name)
    (bound : String) (new : Value) : scope.Binds (globals.set bound new) name := by
  rw [Scope.Binds] at binds
  fun_induction Scope.get? globals scope name with
  | case1 =>
      rw [Scope.Binds, Scope.get?, Bindings.get?_set]
      split
      · rfl
      · exact binds
  | case2 => exact binds_call.2 (.inl rfl)
  | case3 first value outer name _ ih => exact binds_call.2 (.inr (ih binds))

/-- A closure stays covered when a global name is bound. -/
theorem Covered.set {param : String} {body : Expression} {scope : Scope}
    (covered : Covered globals param body scope) (bound : String) (new : Value) :
    Covered (globals.set bound new) param body scope :=
  fun name member other => (covered name member other).set bound new

/-- The global scope leads where it led before, and where the newly bound value leads. -/
theorem Scope.LeadsTo.global_of_set {name param : String} {value : Value} {body : Expression}
    {scope : Scope} (found : (globals.set bound new).get? name = some value)
    (inner : value.LeadsTo globals param body scope ∨ new.LeadsTo globals param body scope) :
    Scope.global.LeadsTo globals param body scope ∨ new.LeadsTo globals param body scope := by
  rw [Bindings.get?_set] at found
  split at found
  · cases found
    exact .inr (inner.elim id id)
  · exact inner.imp_left (.global found)

mutual

/-- Where a value leads after a name was bound it led before, or the new value does. -/
theorem Value.LeadsTo.of_set {value : Value} {param : String} {body : Expression} {scope : Scope} :
    value.LeadsTo (globals.set bound new) param body scope →
      value.LeadsTo globals param body scope ∨ new.LeadsTo globals param body scope
  | .here => .inl .here
  | .captured inner => inner.of_set.imp_left .captured
  | .element member inner => inner.of_set.imp_left (.element member)

/-- A closure that a scope leads to after a name was set was there before, or is part of the new value. -/
theorem Scope.LeadsTo.of_set {outer : Scope} {param : String} {body : Expression} {scope : Scope} :
    outer.LeadsTo (globals.set bound new) param body scope →
      outer.LeadsTo globals param body scope ∨ new.LeadsTo globals param body scope
  | .global found inner => Scope.LeadsTo.global_of_set found inner.of_set
  | .bound inner => inner.of_set.imp_left .bound
  | .outer inner => inner.of_set.imp_left .outer

end

/-- Bindings stay closed when every closure that the new value leads to is covered by then. -/
theorem Bindings.Closed.set (closed : globals.Closed)
    (covered : ∀ param body scope, new.LeadsTo globals param body scope →
      Covered (globals.set bound new) param body scope) : (globals.set bound new).Closed := by
  intro param body scope leads
  rcases leads.of_set with before | fresh
  · exact (closed param body scope before).set bound new
  · exact covered param body scope fresh

/-- An execution that leaves the bindings closed leaves a closed value. -/
theorem Bindings.Closed.of_leaves {executed : Value × Bindings} (closed : globals.Closed)
    (leaves : globals.closedInvariant.Leaves executed) :
    executed.1.Closed executed.2 ∧ executed.2.Closed := by
  cases leaves with
  | value here => exact ⟨here, closed⟩
  | binding here =>
      refine ⟨Value.Plain.unit.closed, closed.set ?_⟩
      intro param body scope leads
      exact (here param body scope leads).set _ _

/-- A function of the global scope whose other names are bound by then can be bound to a name. -/
theorem Bindings.Closed.define {param : String} {body : Expression} (closed : globals.Closed)
    (covered : Covered (globals.set bound (.closure param body .global)) param body .global) :
    (globals.set bound (.closure param body .global)).Closed := by
  apply closed.set
  intro param' body' scope leads
  cases leads with
  | here => exact covered
  | captured inner => exact (closed param' body' scope inner).set _ _

/-- Without bindings there is nothing to close. -/
theorem Bindings.closed_empty : Bindings.Closed [] := by
  intro param body scope leads
  cases leads with
  | global found inner => cases found

end Set

namespace Statement

/-- A statement is scoped when the names that it uses are bound. A definition may also use its parameter
and its own name. -/
def Scoped (globals : Bindings) : Statement → Prop
  | missing => True
  | assign _ _ value | expression value => ∀ name ∈ value.free, Scope.global.Binds globals name
  | define _ name param body =>
      ∀ other ∈ body.free, other ≠ param → other ≠ name → Scope.global.Binds globals other

instance (globals : Bindings) (statement : Statement) : Decidable (statement.Scoped globals) :=
  match statement with
  | missing => inferInstanceAs (Decidable True)
  | assign _ _ value | expression value =>
      inferInstanceAs (Decidable (∀ name ∈ value.free, Scope.global.Binds globals name))
  | define _ name param body =>
      inferInstanceAs (Decidable (∀ other ∈ body.free, other ≠ param → other ≠ name →
        Scope.global.Binds globals other))

variable {globals : Bindings}

/-- The body of a definition may use its own name. -/
theorem Scoped.covered {span : Span} {name param : String} {body : Expression}
    (known : (define span name param body).Scoped globals) (new : Value) :
    Covered (globals.set name new) param body .global := by
  intro other member different
  by_cases same : other = name
  · rw [Scope.Binds, Scope.get?, Bindings.get?_set, if_pos same]
    rfl
  · exact (known other member different same).set name new

/-- A known statement finds its names, and it leaves closed bindings behind. -/
theorem exec_finds (closed : globals.Closed) (statement : Statement) (known : statement.Scoped globals) :
    (statement.exec globals).FindsNames fun executed =>
      executed.1.Closed executed.2 ∧ executed.2.Closed := by
  have evaluates (admitted : globals.closedInvariant.AdmitsStatement statement) :
      (statement.exec globals).FindsNames fun executed =>
        executed.1.Closed executed.2 ∧ executed.2.Closed :=
    ((globals.closedInvariant.exec_conforms admitted).imp fun _ => closed.of_leaves).finds
  cases statement with
  | missing => exact evaluates fun _ => id
  | assign | expression => exact evaluates ⟨closed, known⟩
  -- A definition may use its own name, which is not bound before it is executed.
  | define span name param body => exact .ok ⟨Value.Plain.unit.closed, closed.define (known.covered _)⟩

end Statement

namespace Session

/-- A text is scoped in a session when the statement that it spells is. -/
def Scoped (session : Session) (source : Bytes) : Prop :=
  ∀ statement, (parse source).value = .ok statement → statement.Scoped session.globals

/-- The texts of a list are scoped when each of them is in the session that those before it leave. -/
def AllScoped (session : Session) : List Bytes → Prop
  | [] => True
  | source :: sources => session.Scoped source ∧ (session.run source).2.AllScoped sources

/-- A scoped text finds its names, and it leaves a closed session behind. -/
theorem run_finds {session : Session} (closed : session.globals.Closed) {source : Bytes}
    {statement : Statement} (parsed : (parse source).value = .ok statement)
    (known : statement.Scoped session.globals) :
    (session.run source).1.value.FindsNames (Value.Closed (session.run source).2.globals) ∧
      (session.run source).2.globals.Closed := by
  have finds := (statement.exec_finds closed known).inStage .evaluation
  rw [run, parsed]
  dsimp only
  generalize (statement.exec session.globals).inStage .evaluation = result at finds
  cases finds with
  | error found => exact ⟨.error found, closed⟩
  | @ok executed here =>
      obtain ⟨value, globals⟩ := executed
      dsimp only
      cases value.text with
      | ok text => exact ⟨.ok here.1, here.2⟩
      | error fault => exact ⟨.error id, here.2⟩

/-- A source with known names keeps the bindings closed. -/
theorem run_closed {session : Session} (closed : session.globals.Closed) {source : Bytes}
    (known : session.Scoped source) : (session.run source).2.globals.Closed := by
  cases parsed : (parse source).value with
  | ok statement => exact (run_finds closed parsed (known statement parsed)).2
  | error trouble =>
      rw [run, parsed]
      exact closed

/-- Sources with known names keep the bindings closed. -/
theorem runAll_closed {session : Session} (closed : session.globals.Closed) (sources : List Bytes)
    (known : session.AllScoped sources) : (session.runAll sources).globals.Closed := by
  induction sources generalizing session with
  | nil => exact closed
  | cons source sources ih => exact ih (run_closed closed known.1) known.2

end Session

/-- From closed bindings, no expression whose names are bound misses a name, however deep its calls nest,
and its value is closed. No statement whose names are bound misses one, and the bindings that it leaves
are closed, also where a definition uses its own name. So is every session that such texts lead to. -/
theorem names_found (globals : Bindings) (closed : globals.Closed) :
    (∀ limit depth scope (expression : Expression), scope.Closed globals →
      (∀ name ∈ expression.free, scope.Binds globals name) →
      (expression.evalWithin globals limit depth scope).FindsNames (Value.Closed globals)) ∧
    (∀ statement : Statement, statement.Scoped globals →
      (statement.exec globals).FindsNames fun executed =>
        executed.1.Closed executed.2 ∧ executed.2.Closed) ∧
    (∀ span name param body, (Statement.define span name param body).Scoped globals →
      ∃ next, (Statement.define span name param body).exec globals = .ok (.unit, next) ∧ next.Closed) ∧
    (∀ sources, Session.AllScoped ⟨globals⟩ sources →
      (Session.runAll ⟨globals⟩ sources).globals.Closed ∧
      ∀ source statement, (Session.parse source).value = .ok statement →
        statement.Scoped (Session.runAll ⟨globals⟩ sources).globals →
        ((Session.runAll ⟨globals⟩ sources).run source).1.value.FindsNames
          (Value.Closed ((Session.runAll ⟨globals⟩ sources).run source).2.globals)) := by
  refine ⟨?_, fun statement => statement.exec_finds closed, ?_, ?_⟩
  · intro limit depth scope expression around bound
    exact Expression.evalWithin_finds limit depth around expression bound
  · intro span name param body known
    exact ⟨_, rfl, closed.define (known.covered _)⟩
  · intro sources known
    have later := Session.runAll_closed closed sources known
    exact ⟨later, fun source statement parsed bound => (Session.run_finds later parsed bound).1⟩

/-- This is the expression `name x` with an argument in place of `x`. -/
def callOf (name : String) (arg : Expression) : Expression :=
  .apply ⟨.start, .start⟩ (.ident ⟨.start, .start⟩ name) arg

/-- This is the function `x: name x`. -/
def callTo (name : String) : Value :=
  .closure "x" (callOf name (.ident ⟨.start, .start⟩ "x")) .global

/-- The functions `f = x: g x` and `g = x: f x` call each other. -/
def mutualCalls : Bindings := [("f", callTo "g"), ("g", callTo "f")]

/-- Two functions that call each other are closed. -/
theorem mutualCalls_closed : mutualCalls.Closed := by
  have first : (Bindings.set [] "f" (callTo "f")).Closed := Bindings.closed_empty.define (by decide)
  have second : ((Bindings.set [] "f" (callTo "f")).set "g" (callTo "f")).Closed :=
    first.define (by decide)
  have third : (((Bindings.set [] "f" (callTo "f")).set "g" (callTo "f")).set "f" (callTo "g")).Closed :=
    second.define (by decide)
  exact third

/-- A call of such a function misses no name, and a further definition leaves closed bindings. -/
theorem mutualCalls_found :
    mutualCalls.Closed ∧ (Statement.define ⟨.start, .start⟩ "h" "x"
      (callOf "h" (callOf "f" (.ident ⟨.start, .start⟩ "x")))).Scoped mutualCalls ∧
    ((callOf "f" (.literal ⟨.start, .start⟩ (.int 3))).evalWithin mutualCalls 5 5 .global).FindsNames
      (Value.Closed mutualCalls) ∧
    (mutualCalls.set "h" (.closure "x" (callOf "h" (callOf "f" (.ident ⟨.start, .start⟩ "x")))
      .global)).Closed := by
  have names := names_found mutualCalls mutualCalls_closed
  refine ⟨mutualCalls_closed, by decide, names.1 5 5 .global _ mutualCalls_closed (by decide), ?_⟩
  obtain ⟨next, executed, closed⟩ := names.2.2.1 ⟨.start, .start⟩ "h" "x"
    (callOf "h" (callOf "f" (.ident ⟨.start, .start⟩ "x"))) (by decide)
  cases executed
  exact closed

end Reckon
