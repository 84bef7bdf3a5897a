/-
This file shows that an expression without a missing or invalid part is evaluated without a fault, and
that everything it leaves behind can be evaluated and written without one.
-/

import Reckon.Expression.Text
import Reckon.Proofs.Evaluation.Invariant
import Reckon.Proofs.Session.Held

namespace Reckon

namespace Expression

mutual

/-- An expression is whole when no part of it is missing, and no literal or operator in it is
without a meaning. A sign without a meaning is only a mismatch. -/
def isWhole : Expression → Bool
  | hole => false
  | literal _ value => value.isWhole
  | ident _ _ => true
  | unary _ _ operand => operand.isWhole
  | binary _ operator left right => operator.isBinary && left.isWhole && right.isWhole
  | function _ _ body => body.isWhole
  | apply _ callee arg => callee.isWhole && arg.isWhole
  | list _ elems => allWhole elems

def allWhole : List Expression → Bool
  | [] => true
  | elem :: elems => elem.isWhole && allWhole elems

end

end Expression

def Statement.isWhole : Statement → Bool
  | missing => false
  | assign _ _ value => value.isWhole
  | define _ _ _ body => body.isWhole
  | expression value => value.isWhole

mutual

/-- A value is whole when the bodies of all closures in it are, also of those that are captured. -/
def Value.isWhole : Value → Bool
  | .int _ | .float _ | .unit => true
  | .list elems => Value.allWhole elems
  | .closure _ body scope => body.isWhole && scope.isWhole

def Value.allWhole : List Value → Bool
  | [] => true
  | elem :: elems => elem.isWhole && Value.allWhole elems

def Scope.isWhole : Scope → Bool
  | .global => true
  | .call _ value outer => value.isWhole && outer.isWhole

end

def Bindings.isWhole (bindings : Bindings) : Bool := bindings.all fun binding => binding.2.isWhole

/-- A result meets a condition when its value does, or when it is a report. A fault meets none. -/
inductive Result.Meets {A : Type} (condition : A → Prop) : Result A → Prop where
  | ok {value : A} (here : condition value) : Meets condition (.ok value)
  | report {report : Report} : Meets condition (.error (.report report))

namespace Expression

/-- Elements are whole when each of them is. -/
theorem allWhole_iff (elems : List Expression) :
    allWhole elems = true ↔ ∀ elem ∈ elems, elem.isWhole = true := by
  induction elems with
  | nil => exact ⟨fun _ => List.forall_mem_nil _, fun _ => rfl⟩
  | cons elem elems ih => rw [allWhole, Bool.and_eq_true, ih, List.forall_mem_cons]

/-- A source text stands for whole expressions only. -/
theorem Parsable.whole {expression : Expression} (parsable : expression.Parsable) :
    expression.isWhole = true := by
  induction parsable with
  | int | float | unit | ident => rfl
  | unary _ _ ih => exact ih
  | binary isBinary _ _ first second =>
      rw [isWhole, isBinary, first, second]
      rfl
  | function _ _ ih => exact ih
  | apply _ _ _ first second =>
      rw [isWhole, first, second]
      rfl
  | list _ ih => exact (allWhole_iff _).2 ih

end Expression

/-- A parsed statement has no hole. -/
theorem Statement.Parsable.whole {statement : Statement} (parsable : statement.Parsable) :
    statement.isWhole = true := by
  cases statement with
  | missing => cases parsable
  | assign => exact Expression.Parsable.whole parsable.2
  | define => exact Expression.Parsable.whole parsable.2.2
  | expression => exact Expression.Parsable.whole parsable

section Meets

variable {A : Type} {condition : A → Prop} {result : Result A}

/-- A result that meets a condition is a value that does, or a report. -/
theorem Result.Meets.cases (meets : result.Meets condition) :
    (∃ value, result = .ok value ∧ condition value) ∨
      ∃ report, result = .error (.report report) := by
  cases meets with
  | ok here => exact .inl ⟨_, rfl, here⟩
  | report => exact .inr ⟨_, rfl⟩

/-- A result that meets a condition is no fault. -/
theorem Result.Meets.ne_fault (meets : result.Meets condition) (fault : Fault) :
    result ≠ .error (.fault fault) := by
  rintro rfl
  cases meets

/-- A result meets a condition when its value does and it is no fault. -/
theorem Result.meets_iff : result.Meets condition ↔
    (∀ value, result = .ok value → condition value) ∧ ∀ fault, result ≠ .error (.fault fault) := by
  constructor
  · intro meets
    refine ⟨?_, meets.ne_fault⟩
    rintro value rfl
    cases meets with
    | ok here => exact here
  · rintro ⟨values, faults⟩
    match result with
    | .ok value => exact .ok (values value rfl)
    | .error (.report report) => exact .report
    | .error (.fault fault) => exact absurd rfl (faults fault)

/-- The name of a stage does not matter to what a value meets. -/
theorem Result.Meets.inStage (meets : result.Meets condition) (stage : Stage) :
    (result.inStage stage).Meets condition := by
  cases meets with
  | ok here => exact .ok here
  | report => exact .report

theorem Result.Meets.imp {further : A → Prop} (meets : result.Meets condition)
    (implies : ∀ value, condition value → further value) : result.Meets further := by
  cases meets with
  | ok here => exact .ok (implies _ here)
  | report => exact .report

end Meets

section Bindings

variable {globals : Bindings} {scope : Scope} {name : String} {value : Value}

theorem Bindings.isWhole_get? (whole : globals.isWhole = true)
    (found : globals.get? name = some value) : value.isWhole = true :=
  List.all_eq_true.1 whole (name, value) (mem_of_get? found)

/-- Bindings stay whole when a whole value is set. -/
theorem Bindings.isWhole_set (whole : globals.isWhole = true) (new : value.isWhole = true)
    (name : String) : (globals.set name value).isWhole = true := by
  refine List.all_eq_true.2 ?_
  rintro ⟨other, found⟩ member
  rcases Bindings.mem_set member with same | old
  · cases same
    exact new
  · exact List.all_eq_true.1 whole (other, found) old

/-- A value that is found from a whole scope outwards is whole. -/
theorem Scope.isWhole_get? (whole : scope.isWhole = true) (globalsWhole : globals.isWhole = true)
    (found : scope.get? globals name = some value) : value.isWhole = true := by
  fun_induction Scope.get? globals scope name with
  | case1 => exact Bindings.isWhole_get? globalsWhole found
  | case2 bound here outer =>
      cases found
      rw [Scope.isWhole, Bool.and_eq_true] at whole
      exact whole.1
  | case3 bound here outer name _ ih =>
      rw [Scope.isWhole, Bool.and_eq_true] at whole
      exact ih whole.2 found

end Bindings

/-- The operands of a whole expression are whole. -/
theorem Expression.operand_whole {expression part : Expression} (whole : expression.isWhole = true)
    (inside : part ∈ expression.operands) : part.isWhole = true := by
  cases expression with
  | hole | literal | ident | function => cases inside
  | unary => exact List.mem_singleton.1 inside ▸ whole
  | binary =>
      rw [isWhole, Bool.and_eq_true, Bool.and_eq_true] at whole
      rcases List.mem_pair.1 inside with rfl | rfl
      · exact whole.1.2
      · exact whole.2
  | apply =>
      rw [isWhole, Bool.and_eq_true] at whole
      rcases List.mem_pair.1 inside with rfl | rfl
      · exact whole.1
      · exact whole.2
  | list => exact (allWhole_iff _).1 whole part inside

/-- A broken expression is not whole. -/
theorem Expression.Broken.not_whole {expression : Expression} (broken : expression.Broken) :
    expression.isWhole ≠ true := by
  intro whole
  cases broken with
  | hole => cases whole
  | literal invalid => exact invalid whole
  | binary invalid =>
      rw [isWhole, Bool.and_eq_true, Bool.and_eq_true] at whole
      exact invalid whole.1.1

theorem Value.Plain.whole {value : Value} (plain : value.Plain) : value.isWhole = true := by
  cases plain <;> rfl

/-- The elements of a list value are whole when each of them is. -/
theorem Value.allWhole_iff (elems : List Value) :
    Value.allWhole elems = true ↔ ∀ elem ∈ elems, elem.isWhole = true := by
  induction elems with
  | nil => exact ⟨fun _ => List.forall_mem_nil _, fun _ => rfl⟩
  | cons elem elems ih => rw [Value.allWhole, Bool.and_eq_true, ih, List.forall_mem_cons]

/-- Whole expressions have whole values in whole scopes, or they are reported. -/
def Bindings.wholeInvariant {globals : Bindings} (globalsWhole : globals.isWhole = true) :
    Invariant globals where
  value value := value.isWhole = true
  admits scope expression := scope.isWhole = true ∧ expression.isWhole = true
  allows trouble := ∃ report, trouble = .report report
  plain := Value.Plain.whole
  list _ all := (Value.allWhole_iff _).2 all
  operand admitted inside := ⟨admitted.1, Expression.operand_whole admitted.2 inside⟩
  bound admitted found := Scope.isWhole_get? admitted.1 globalsWhole found
  unbound _ _ := ⟨_, rfl⟩
  closure admitted := by
    rw [Value.isWhole, Bool.and_eq_true]
    exact ⟨admitted.2, admitted.1⟩
  body closure arg := by
    rw [Value.isWhole, Bool.and_eq_true] at closure
    rw [Scope.isWhole, Bool.and_eq_true]
    exact ⟨⟨arg, closure.2⟩, closure.1⟩
  broken admitted broken := absurd admitted.2 broken.not_whole
  report _ := ⟨_, rfl⟩

/-- A result meets a condition when all its trouble is reported. -/
theorem Result.Conforms.meets {A : Type} {condition : A → Prop} {result : Result A}
    (conforms : result.Conforms condition fun trouble => ∃ report, trouble = .report report) :
    result.Meets condition := by
  cases conforms with
  | ok here => exact .ok here
  | error allowed =>
      obtain ⟨report, rfl⟩ := allowed
      exact .report

/-- Calls keep whole when the values of whole bodies in whole scopes are whole. -/
def CallsWhole (call : Span → Scope → Expression → Result Value) : Prop :=
  ∀ span scope body, scope.isWhole = true → body.isWhole = true →
    (call span scope body).Meets fun value => value.isWhole = true

/-- A deeper call is reported, so the limit on nested calls does not matter for it. -/
theorem Expression.evalWithin_whole {globals : Bindings} (globalsWhole : globals.isWhole = true)
    (limit depth : Nat) : CallsWhole fun _ scope body => body.evalWithin globals limit depth scope := by
  intro _ scope body scopeWhole whole
  exact ((Bindings.wholeInvariant globalsWhole).evalWithin_conforms limit depth ⟨scopeWhole, whole⟩).meets

/-- A whole statement keeps the global bindings whole. -/
theorem Statement.exec_whole {globals : Bindings} (globalsWhole : globals.isWhole = true)
    (statement : Statement) (whole : statement.isWhole = true) :
    (statement.exec globals).Meets fun next => next.1.isWhole = true ∧ next.2.isWhole = true := by
  have admitted : (Bindings.wholeInvariant globalsWhole).AdmitsStatement statement := by
    cases statement with
    | missing => cases whole
    | assign | define | expression => exact ⟨rfl, whole⟩
  refine ((Bindings.wholeInvariant globalsWhole).exec_conforms admitted).meets.imp fun next leaves => ?_
  cases leaves with
  | value here => exact ⟨here, globalsWhole⟩
  | binding here => exact ⟨rfl, Bindings.isWhole_set globalsWhole here _⟩

section Texts

/-- A whole literal has a text. -/
theorem Literal.text_whole {literal : Literal} (whole : literal.isWhole = true) :
    ∃ text, literal.text = .ok text := by
  cases literal with
  | int | float | unit => exact ⟨_, rfl⟩
  | other shown => cases whole

namespace Expression

mutual

/-- A whole expression has a meaning when whole literals have one. -/
theorem fold_whole {A : Type} (meaning : Interpretation A)
    (literals : ∀ literal : Literal, literal.isWhole = true →
      ∃ value, meaning.literal literal = .ok value)
    (expression : Expression) (whole : expression.isWhole = true) :
    ∃ value, expression.fold meaning = .ok value := by
  cases expression with
  | hole => cases whole
  | literal span literal => exact literals literal whole
  | ident span name => exact ⟨_, rfl⟩
  | unary span operator operand =>
      obtain ⟨value, found⟩ := fold_whole meaning literals operand whole
      rw [fold, found]
      exact ⟨_, rfl⟩
  | binary span operator left right =>
      rw [isWhole, Bool.and_eq_true, Bool.and_eq_true] at whole
      obtain ⟨value, found⟩ := fold_whole meaning literals left whole.1.2
      obtain ⟨value', found'⟩ := fold_whole meaning literals right whole.2
      rw [fold, found, found']
      exact ⟨_, rfl⟩
  | function span param body =>
      obtain ⟨value, found⟩ := fold_whole meaning literals body whole
      rw [fold, found]
      exact ⟨_, rfl⟩
  | apply span callee arg =>
      rw [isWhole, Bool.and_eq_true] at whole
      obtain ⟨value, found⟩ := fold_whole meaning literals callee whole.1
      obtain ⟨value', found'⟩ := fold_whole meaning literals arg whole.2
      rw [fold, found, found']
      exact ⟨_, rfl⟩
  | list span elems =>
      obtain ⟨values, found⟩ := foldAll_whole meaning literals elems whole
      rw [fold, found]
      exact ⟨_, rfl⟩

/-- An interpretation that gives whole literals a meaning gives one to all whole elements. -/
theorem foldAll_whole {A : Type} (meaning : Interpretation A)
    (literals : ∀ literal : Literal, literal.isWhole = true →
      ∃ value, meaning.literal literal = .ok value)
    (elems : List Expression) (whole : allWhole elems = true) :
    ∃ values, foldAll meaning elems = .ok values := by
  cases elems with
  | nil => exact ⟨_, rfl⟩
  | cons elem elems =>
      rw [allWhole, Bool.and_eq_true] at whole
      obtain ⟨value, found⟩ := fold_whole meaning literals elem whole.1
      obtain ⟨values, found'⟩ := foldAll_whole meaning literals elems whole.2
      rw [foldAll, found, found']
      exact ⟨_, rfl⟩

end

/-- A whole expression has a source text. -/
theorem source_whole (expression : Expression) (whole : expression.isWhole = true) :
    ∃ text, expression.source = .ok text := by
  have literals (literal : Literal) (whole : literal.isWhole = true) :
      ∃ fragment, Fragment.interpretation.literal literal = .ok fragment := by
    obtain ⟨text, found⟩ := Literal.text_whole whole
    refine ⟨⟨text, Fragment.atomLevel⟩, ?_⟩
    change (do return (⟨← literal.text, Fragment.atomLevel⟩ : Fragment)) = _
    rw [found]
    rfl
  obtain ⟨fragment, found⟩ := fold_whole Fragment.interpretation literals expression whole
  rw [source, found]
  exact ⟨_, rfl⟩

mutual

/-- These are the expression itself and all parts of it, also the bodies of functions. -/
def parts : Expression → List Expression
  | hole => [hole]
  | literal span value => [literal span value]
  | ident span name => [ident span name]
  | unary span operator operand => unary span operator operand :: operand.parts
  | binary span operator left right => binary span operator left right :: (left.parts ++ right.parts)
  | function span param body => function span param body :: body.parts
  | apply span callee arg => apply span callee arg :: (callee.parts ++ arg.parts)
  | list span elems => list span elems :: allParts elems

def allParts : List Expression → List Expression
  | [] => []
  | elem :: elems => elem.parts ++ allParts elems

end

mutual

/-- The parts of a whole expression are whole. -/
theorem parts_whole (expression : Expression) (whole : expression.isWhole = true) :
    ∀ part ∈ expression.parts, part.isWhole = true := by
  cases expression with
  | hole => cases whole
  | literal span value => exact List.forall_mem_singleton.2 whole
  | ident span name => exact List.forall_mem_singleton.2 whole
  | unary span operator operand =>
      exact List.forall_mem_cons.2 ⟨whole, parts_whole operand whole⟩
  | binary span operator left right =>
      refine List.forall_mem_cons.2 ⟨whole, ?_⟩
      rw [isWhole, Bool.and_eq_true, Bool.and_eq_true] at whole
      exact List.forall_mem_append.2 ⟨parts_whole left whole.1.2, parts_whole right whole.2⟩
  | function span param body =>
      exact List.forall_mem_cons.2 ⟨whole, parts_whole body whole⟩
  | apply span callee arg =>
      refine List.forall_mem_cons.2 ⟨whole, ?_⟩
      rw [isWhole, Bool.and_eq_true] at whole
      exact List.forall_mem_append.2 ⟨parts_whole callee whole.1, parts_whole arg whole.2⟩
  | list span elems =>
      exact List.forall_mem_cons.2 ⟨whole, allParts_whole elems whole⟩

/-- The parts of whole elements are whole. -/
theorem allParts_whole (elems : List Expression) (whole : allWhole elems = true) :
    ∀ part ∈ allParts elems, part.isWhole = true := by
  cases elems with
  | nil => exact List.forall_mem_nil _
  | cons elem elems =>
      rw [allWhole, Bool.and_eq_true] at whole
      exact List.forall_mem_append.2 ⟨parts_whole elem whole.1, allParts_whole elems whole.2⟩

end

/-- What is wrong with a part is covered up in the text of the whole, so the parts have texts of
their own. -/
theorem text_whole {expression : Expression} (whole : expression.isWhole = true) :
    ∀ part ∈ expression.parts, ∃ text, part.text = .ok text := by
  intro part inside
  have here := parts_whole expression whole part inside
  cases part with
  | hole => cases here
  | literal span value =>
      obtain ⟨text, found⟩ := Literal.text_whole here
      rw [Expression.text, found]
      exact ⟨_, rfl⟩
  | ident | unary | binary | function | apply | list => exact ⟨_, rfl⟩

theorem mem_parts_self (expression : Expression) : expression ∈ expression.parts := by
  cases expression <;> exact List.mem_cons_self

end Expression

/-- These are the expressions of a statement, and all parts of them. -/
def Statement.parts : Statement → List Expression
  | missing => []
  | assign _ _ value => value.parts
  | define _ _ _ body => body.parts
  | expression value => value.parts

/-- A whole statement has a text, and so do its parts. -/
theorem Statement.text_whole {statement : Statement} (whole : statement.isWhole = true) :
    (∃ text, statement.text = .ok text) ∧
      ∀ part ∈ statement.parts, ∃ text, part.text = .ok text := by
  cases statement with
  | missing => cases whole
  | assign span name value => exact ⟨⟨_, rfl⟩, Expression.text_whole whole⟩
  | define span name param body => exact ⟨⟨_, rfl⟩, Expression.text_whole whole⟩
  | expression value =>
      exact ⟨Expression.text_whole whole value value.mem_parts_self, Expression.text_whole whole⟩

mutual

/-- The body of a closure is written as source text. -/
theorem Value.text_whole (value : Value) (whole : value.isWhole = true) :
    ∃ text, value.text = .ok text := by
  cases value with
  | int | float | unit => exact ⟨_, rfl⟩
  | list elems =>
      obtain ⟨text, found⟩ := Value.elementsText_whole elems whole
      rw [Value.text, found]
      exact ⟨_, rfl⟩
  | closure param body scope =>
      rw [Value.isWhole, Bool.and_eq_true] at whole
      obtain ⟨text, found⟩ := body.source_whole whole.1
      rw [Value.text, found]
      exact ⟨_, rfl⟩

/-- The elements of a whole list have a text. -/
theorem Value.elementsText_whole (elems : List Value) (whole : Value.allWhole elems = true) :
    ∃ text, Value.elementsText elems = .ok text := by
  cases elems with
  | nil => exact ⟨_, rfl⟩
  | cons elem elems =>
      rw [Value.allWhole, Bool.and_eq_true] at whole
      obtain ⟨text, found⟩ := Value.text_whole elem whole.1
      obtain ⟨texts, found'⟩ := Value.elementsText_whole elems whole.2
      rw [Value.elementsText, found, found']
      exact ⟨_, rfl⟩

end

end Texts

end Reckon
