/-
This file shows that the elements of every list in a session are of one variety, however deep the list lies in
other lists and in the scopes that closures captured. The loop that makes a list leaves no place of it empty.
-/

import Mathlib.Data.List.Forall2
import Reckon.Proofs.Evaluation.Invariant
import Reckon.Proofs.Script.Reaction

namespace Reckon

open Text

mutual

/-- A value reaches itself, and what its elements and the scope that it captured reach. -/
inductive Value.Reaches (globals : Bindings) : Value → Value → Prop where
  | here {value : Value} : Value.Reaches globals value value
  | element {elems : List Value} {elem target : Value} (member : elem ∈ elems)
      (inner : Value.Reaches globals elem target) : Value.Reaches globals (.list elems) target
  | captured {param : String} {body : Expression} {scope : Scope} {target : Value}
      (inner : Scope.Reaches globals scope target) :
      Value.Reaches globals (.closure param body scope) target

/-- A scope reaches what its bindings and those around it reach, the global ones included. -/
inductive Scope.Reaches (globals : Bindings) : Scope → Value → Prop where
  | global {name : String} {value target : Value} (found : globals.get? name = some value)
      (inner : Value.Reaches globals value target) : Scope.Reaches globals .global target
  | bound {name : String} {value target : Value} {outer : Scope}
      (inner : Value.Reaches globals value target) : Scope.Reaches globals (.call name value outer) target
  | outer {name : String} {value target : Value} {outer : Scope}
      (inner : Scope.Reaches globals outer target) : Scope.Reaches globals (.call name value outer) target

end

/-- A value is uniform when the elements of every list that it reaches are of one variety. -/
def Value.Uniform (globals : Bindings) (value : Value) : Prop :=
  ∀ elems, value.Reaches globals (.list elems) → OneVariety elems

def Scope.Uniform (globals : Bindings) (scope : Scope) : Prop :=
  ∀ elems, scope.Reaches globals (.list elems) → OneVariety elems

def Bindings.Uniform (globals : Bindings) : Prop := Scope.global.Uniform globals

section Uniform

variable {globals : Bindings} {value : Value} {scope : Scope} {name param : String} {body : Expression}

theorem Value.Plain.uniform (plain : value.Plain) : value.Uniform globals := by
  intro elems reaches
  cases plain <;> cases reaches

/-- A list is uniform when its elements are of one variety and uniform. -/
theorem uniform_list {elems : List Value} : (Value.list elems).Uniform globals ↔
    OneVariety elems ∧ ∀ elem ∈ elems, elem.Uniform globals := by
  constructor
  · intro uniform
    exact ⟨uniform elems .here, fun elem member inner reaches => uniform inner (.element member reaches)⟩
  · rintro ⟨here, all⟩ inner (_ | ⟨member, reaches⟩)
    · exact here
    · exact all _ member inner reaches

/-- A closure is uniform when its scope is. -/
theorem uniform_closure : (Value.closure param body scope).Uniform globals ↔ scope.Uniform globals := by
  constructor
  · intro uniform elems reaches
    exact uniform elems (.captured reaches)
  · rintro uniform elems (_ | _ | reaches)
    exact uniform elems reaches

/-- The scope of a call is uniform when its argument and the scope outside are. -/
theorem uniform_call : (Scope.call name value scope).Uniform globals ↔
    value.Uniform globals ∧ scope.Uniform globals := by
  constructor
  · intro uniform
    exact ⟨fun elems reaches => uniform elems (.bound reaches),
      fun elems reaches => uniform elems (.outer reaches)⟩
  · rintro ⟨here, around⟩ elems (_ | reaches | reaches)
    · exact here elems reaches
    · exact around elems reaches

/-- What is found in a uniform scope is uniform. -/
theorem Scope.Uniform.get? (uniform : scope.Uniform globals)
    (found : scope.get? globals name = some value) : value.Uniform globals := by
  fun_induction Scope.get? globals scope name with
  | case1 => exact fun elems reaches => uniform elems (.global found reaches)
  | case2 =>
      cases found
      exact (uniform_call.1 uniform).1
  | case3 bound here outer name _ ih => exact ih (uniform_call.1 uniform).2 found

/-- Without bindings all values are uniform. -/
theorem Bindings.uniform_empty : Bindings.Uniform [] := by
  intro elems reaches
  cases reaches with
  | global found inner => cases found

end Uniform

/-- The value of an expression in a uniform scope is uniform, if it has one. -/
def Bindings.uniformInvariant (globals : Bindings) : Invariant globals where
  value := Value.Uniform globals
  admits scope _ := scope.Uniform globals
  allows _ := True
  plain := Value.Plain.uniform
  list one all := uniform_list.2 ⟨one, all⟩
  operand uniform _ := uniform
  bound uniform found := uniform.get? found
  unbound _ _ := trivial
  closure uniform := uniform_closure.2 uniform
  body closure arg := uniform_call.2 ⟨arg, uniform_closure.1 closure⟩
  broken _ _ := trivial
  report _ := trivial

section Set

variable {globals : Bindings} {bound : String} {new : Value}

/-- The global scope reaches what it reached before, and what the newly bound value reaches. -/
theorem Scope.Reaches.global_of_set {name : String} {value target : Value}
    (found : (globals.set bound new).get? name = some value)
    (inner : value.Reaches globals target ∨ new.Reaches globals target) :
    Scope.global.Reaches globals target ∨ new.Reaches globals target := by
  rw [Bindings.get?_set] at found
  split at found
  · cases found
    exact .inr (inner.elim id id)
  · exact inner.imp_left (.global found)

mutual

/-- What a value reaches after a name was bound it reached before, or the new value does. -/
theorem Value.Reaches.of_set {value target : Value} :
    value.Reaches (globals.set bound new) target →
      value.Reaches globals target ∨ new.Reaches globals target
  | .here => .inl .here
  | .captured inner => inner.of_set.imp_left .captured
  | .element member inner => inner.of_set.imp_left (.element member)

/-- What a scope reaches after a name was set it reached before, or the new value does. -/
theorem Scope.Reaches.of_set {scope : Scope} {target : Value} :
    scope.Reaches (globals.set bound new) target →
      scope.Reaches globals target ∨ new.Reaches globals target
  | .global found inner => Scope.Reaches.global_of_set found inner.of_set
  | .bound inner => inner.of_set.imp_left .bound
  | .outer inner => inner.of_set.imp_left .outer

end

end Set

/-- Bindings go on to uniform ones when what was uniform before stays so. -/
structure Bindings.GoesOn (globals next : Bindings) : Prop where
  bindings : next.Uniform
  values : ∀ value : Value, value.Uniform globals → value.Uniform next

namespace Bindings.GoesOn

variable {globals next : Bindings}

theorem refl (uniform : globals.Uniform) : globals.GoesOn globals := ⟨uniform, fun _ => id⟩

theorem trans {last : Bindings} (first : globals.GoesOn next) (second : next.GoesOn last) :
    globals.GoesOn last := ⟨second.bindings, fun value => second.values value ∘ first.values value⟩

/-- A uniform value can be bound to a name. -/
theorem set (uniform : globals.Uniform) {new : Value} (here : new.Uniform globals) (name : String) :
    globals.GoesOn (globals.set name new) where
  bindings := fun elems reaches => reaches.of_set.elim (uniform elems) (here elems)
  values := fun _ before elems reaches => reaches.of_set.elim (before elems) (here elems)

end Bindings.GoesOn

/-- A statement goes on to uniform bindings, and its value is uniform in them. -/
theorem Statement.exec_uniform {globals next : Bindings} {value : Value} (uniform : globals.Uniform)
    {statement : Statement} (executed : statement.exec globals = .ok (value, next)) :
    value.Uniform next ∧ globals.GoesOn next := by
  have admitted : globals.uniformInvariant.AdmitsStatement statement := by
    cases statement with
    | missing => exact fun _ => trivial
    | assign | define | expression => exact uniform
  have conforms := globals.uniformInvariant.exec_conforms admitted
  rw [executed] at conforms
  cases conforms with
  | ok leaves =>
      cases leaves with
      | value here => exact ⟨here, .refl uniform⟩
      | binding here => exact ⟨Value.Plain.unit.uniform, .set uniform here _⟩

namespace Session

/-- A text that is run goes on to a uniform session, and its value is uniform there. -/
theorem run_uniform {session : Session} (uniform : session.globals.Uniform) (source : Bytes) :
    session.globals.GoesOn (session.run source).2.globals ∧
      ∀ value, (session.run source).1.value = .ok value →
        value.Uniform (session.run source).2.globals := by
  have runs := session.runs source
  generalize (session.run source).1.value = result, (session.run source).2 = next at runs ⊢
  cases runs with
  | unparsed | failed => exact ⟨.refl uniform, nofun⟩
  | unwritten parsed executed => exact ⟨(Statement.exec_uniform uniform executed).2, nofun⟩
  | ran parsed executed =>
      obtain ⟨here, later⟩ := Statement.exec_uniform uniform executed
      refine ⟨later, ?_⟩
      rintro value ⟨rfl⟩
      exact here

end Session

/-- A session that reacts to a chunk goes on to a uniform one, and a value that comes of it is uniform. -/
theorem Session.Reacts.uniform {session : Session} {chunk : Bytes} {reaction : Reaction}
    (reacts : session.Reacts chunk reaction) (uniform : session.globals.Uniform) :
    session.globals.GoesOn reaction.session.globals ∧
      ∀ value, reaction.value? = some value → value.Uniform reaction.session.globals := by
  have ran := run_uniform uniform chunk
  cases reacts with
  | blank | opened | misread | insignificant => exact ⟨.refl uniform, nofun⟩
  | failed => exact ⟨ran.1, nofun⟩
  | @ran value _ _ _ ended =>
      refine ⟨ran.1, ?_⟩
      intro other same
      cases same
      exact ran.2 value ended

/-- A script is uniform when its session and the values that it gave so far are. -/
structure Script.Uniform (script : Script) : Prop where
  bindings : script.session.globals.Uniform
  values : ∀ value ∈ script.values, value.Uniform script.session.globals

namespace Script

/-- A line goes on to a uniform script. -/
theorem feed_uniform {script : Script} (uniform : script.Uniform) (line : Bytes) :
    (script.feed line).1.Uniform ∧ script.session.globals.GoesOn (script.feed line).1.session.globals := by
  obtain ⟨later, gives⟩ := (script.session.reacts (script.extended line)).uniform uniform.bindings
  rw [feed_eq]
  refine ⟨⟨later.bindings, ?_⟩, later⟩
  intro value member
  rcases Array.mem_append.1 member with old | new
  · exact later.values value (uniform.values value old)
  · rw [Option.mem_toArray] at new
    exact gives value new

/-- The lines of a script keep the bindings uniform and have uniform values. -/
theorem feedAll_uniform {script : Script} (uniform : script.Uniform) (lines : List Bytes) :
    (script.feedAll lines).1.Uniform ∧
      script.session.globals.GoesOn (script.feedAll lines).1.session.globals := by
  induction lines generalizing script with
  | nil => exact ⟨uniform, .refl uniform.bindings⟩
  | cons line lines ih =>
      obtain ⟨here, later⟩ := script.feed_uniform uniform line
      rw [feedAll_cons]
      split
      · obtain ⟨last, further⟩ := ih here
        exact ⟨last, later.trans further⟩
      · exact ⟨here, later⟩

/-- A script keeps the bindings uniform and has uniform values. -/
theorem run_uniform {session : Session} (uniform : session.globals.Uniform) (text : Bytes) :
    (Script.run session text).1.Uniform ∧
      session.globals.GoesOn (Script.run session text).1.session.globals := by
  have start : (Script.ofSession session).Uniform := ⟨uniform, nofun⟩
  rw [run_eq]
  exact feedAll_uniform start (Lines.ofBytes text).lines

end Script

namespace Session

/-- These are the values that a call gives. -/
def returned (session : Session) : Call → List Value
  | .statement text =>
      match (session.run text).1.value with
      | .ok value => [value]
      | .error _ => []
  | .script text => (Script.run session text).1.values.toList

/-- These are the values that calls give one after the other. -/
def allReturned (session : Session) : List Call → List Value
  | [] => []
  | call :: calls => session.returned call ++ (session.perform call).allReturned calls

/-- A call keeps the bindings uniform, and the values that it returns are uniform. -/
theorem perform_uniform {session : Session} (uniform : session.globals.Uniform) (call : Call) :
    session.globals.GoesOn (session.perform call).globals ∧
      ∀ value ∈ session.returned call, value.Uniform (session.perform call).globals := by
  cases call with
  | statement text =>
      obtain ⟨later, gives⟩ := run_uniform uniform text
      refine ⟨later, ?_⟩
      intro value member
      unfold returned at member
      dsimp only at member
      split at member
      · rename_i value' ended
        rw [List.mem_singleton.1 member]
        exact gives value' ended
      · cases member
  | script text =>
      obtain ⟨script, later⟩ := Script.run_uniform uniform text
      refine ⟨later, ?_⟩
      intro value member
      exact script.values value (Array.mem_toList_iff.1 member)

/-- Calls keep the bindings uniform, and all values that they return are uniform. -/
theorem performAll_uniform {session : Session} (uniform : session.globals.Uniform) (calls : List Call) :
    session.globals.GoesOn (calls.foldl perform session).globals ∧
      ∀ value ∈ session.allReturned calls, value.Uniform (calls.foldl perform session).globals := by
  induction calls generalizing session with
  | nil => exact ⟨.refl uniform, List.forall_mem_nil _⟩
  | cons call calls ih =>
      obtain ⟨first, here⟩ := session.perform_uniform uniform call
      obtain ⟨later, rest⟩ := ih first.bindings
      refine ⟨first.trans later, ?_⟩
      intro value member
      rcases List.mem_append.1 member with now | after
      · exact later.values value (here value now)
      · exact rest value after

end Session

namespace Expression

/-- This fills the places of a list from an index on with the values of expressions. The value at the first
place tells the variety of the others. -/
def fill (evaluate : Expression → Result Value) (places : List (Option Value)) (index : Nat) :
    List Expression → Result (List (Option Value))
  | [] => .ok places
  | elem :: elems =>
      match evaluate elem with
      | .error trouble => .error trouble
      | .ok value =>
          if index = 0 then fill evaluate (places.set index (some value)) (index + 1) elems
          else
            match places[0]? with
            | some (some first) =>
                if value.variety = first.variety then
                  fill evaluate (places.set index (some value)) (index + 1) elems
                else reportAt elem.extent (.mixedList first.variety value.variety)
            | _ => .error (.fault .outOfBounds)

variable {globals : Bindings} {call : Span → Scope → Expression → Result Value} {scope : Scope}

/-- A value goes to the place after the ones that are filled. -/
theorem set_next (done : List Value) (count : Nat) (value : Value) :
    (done.map some ++ List.replicate (count + 1) none).set done.length (some value) =
      (done ++ [value]).map some ++ List.replicate count none := by
  simp [List.replicate_succ]

/-- Places of which the first ones are filled come to be filled with the values of the elements. -/
theorem fill_eq (done : List Value) (elems : List Expression) :
    fill (evalWith globals call scope) (done.map some ++ List.replicate elems.length none) done.length elems =
      evalElements globals call scope (done.head?.map Value.variety) elems >>= fun values =>
        .ok ((done ++ values).map some) := by
  induction elems generalizing done with
  | nil =>
      show Except.ok _ = Except.ok _
      simp
  | cons elem elems ih =>
      rw [fill, evalElements_cons]
      cases elem.evalWith globals call scope with
      | error trouble => rfl
      | ok value =>
          have later (variety : Variety) (head : (done ++ [value]).head?.map Value.variety = some variety) :
              fill (evalWith globals call scope)
                ((done.map some ++ List.replicate (elem :: elems).length none).set done.length (some value))
                (done.length + 1) elems =
              (evalElements globals call scope (some variety) elems >>= fun later => .ok (value :: later)) >>=
                fun values => .ok ((done ++ values).map some) := by
            have filled := ih (done ++ [value])
            rw [head, List.length_append, List.length_singleton] at filled
            rw [List.length_cons, set_next, filled]
            cases evalElements globals call scope (some variety) elems with
            | error trouble => rfl
            | ok values =>
                show Except.ok _ = Except.ok _
                rw [List.append_assoc, List.singleton_append]
          show _ = evalLater _ _ _ _ _ _ _ >>= _
          rw [evalLater]
          cases done with
          | nil =>
              dsimp only
              rw [if_pos List.length_nil, later value.variety rfl]
              show _ = ite (value.variety = value.variety) _ _ >>= _
              rw [if_pos rfl]
              rfl
          | cons first done =>
              have filled : (first :: done).length ≠ 0 := Nat.succ_ne_zero _
              dsimp only
              rw [if_neg filled]
              show ite (value.variety = first.variety) _ _ = ite (value.variety = first.variety) _ _ >>= _
              split
              · exact later first.variety rfl
              · rfl

/-- Elements that have values are compared with the variety that is expected, up to the first other one. -/
theorem evalElements_evaluated {elems : List Expression} {values : List Value}
    (evaluated : List.Forall₂ (fun elem value => elem.evalWith globals call scope = .ok value) elems values)
    (first : Variety) : evalElements globals call scope (some first) elems =
      match (elems.zip values).find? fun part => part.2.variety ≠ first with
      | some (elem, value) => reportAt elem.extent (.mixedList first value.variety)
      | none => .ok values := by
  induction evaluated with
  | nil => rfl
  | @cons elem value elems values here later ih =>
      rw [evalElements_cons, here]
      show evalLater _ _ _ _ _ _ _ = _
      rw [evalLater, List.zip_cons_cons, List.find?_cons]
      by_cases same : value.variety = first
      · simp only [Option.getD_some, same, ih, if_true, ne_eq, not_true, decide_false]
        generalize List.find? _ (elems.zip values) = other
        cases other <;> rfl
      · simp [same]

/-- A list is made of the values of its elements, unless one of them differs from the first one. -/
theorem evalWith_list_evaluated (span : Span) {elems : List Expression} {first : Value} {values : List Value}
    (evaluated : List.Forall₂ (fun elem value => elem.evalWith globals call scope = .ok value) elems
      (first :: values)) : (list span elems).evalWith globals call scope =
      match (elems.zip (first :: values)).find? fun part => part.2.variety ≠ first.variety with
      | some (elem, value) => reportAt elem.extent (.mixedList first.variety value.variety)
      | none => .ok (.list (first :: values)) := by
  have expected := evalElements_evaluated evaluated first.variety
  cases evaluated with
  | @cons elem _ elems _ here later =>
      have same : evalElements globals call scope none (elem :: elems) =
          evalElements globals call scope (some first.variety) (elem :: elems) := by
        rw [evalElements_cons, evalElements_cons, here]
        rfl
      rw [evalWith_list, same, expected]
      generalize List.find? _ _ = other
      cases other <;> rfl

end Expression

/-- This is the first value of a list that is of another variety than the value at its start. -/
structure FirstOther (values : List Value) (index : Nat) (start other : Value) : Prop where
  head : values[0]? = some start
  here : values[index]? = some other
  differs : other.variety ≠ start.variety
  before : ∀ (earlier : Nat) (value : Value), earlier < index → values[earlier]? = some value →
    value.variety = start.variety

section FirstOther

variable {elems : List Expression} {values : List Value} {start other : Value} {index : Nat}

/-- The first element of another variety is found among all. -/
theorem FirstOther.find? {elem : Expression} (first : FirstOther values index start other)
    (here : elems[index]? = some elem) :
    ((elems.zip values).find? fun part => part.2.variety ≠ start.variety) = some (elem, other) := by
  have paired : (elems.zip values)[index]? = some (elem, other) :=
    List.getElem?_zip_eq_some.2 ⟨here, first.here⟩
  obtain ⟨inside, same⟩ := List.getElem?_eq_some_iff.1 paired
  apply List.find?_eq_some_iff_getElem.2
  refine ⟨decide_eq_true first.differs, index, inside, same, ?_⟩
  intro earlier before
  have there := List.getElem?_zip_eq_some.1 (List.getElem?_eq_getElem (Nat.lt_trans before inside))
  rw [decide_eq_false (not_not.2 (first.before earlier _ before there.2))]
  rfl

/-- There is such a value unless all are of one variety. -/
theorem exists_find? (lengths : elems.length = values.length) (found : other ∈ values)
    (different : other.variety ≠ start.variety) :
    ∃ part, ((elems.zip values).find? fun part => part.2.variety ≠ start.variety) = some part := by
  apply Option.isSome_iff_exists.1
  rw [List.find?_isSome]
  rw [← List.map_snd_zip (Nat.le_of_eq lengths.symm)] at found
  obtain ⟨part, member, rfl⟩ := List.mem_map.1 found
  exact ⟨part, member, decide_eq_true different⟩

/-- No element of another variety is found in a list of one variety. -/
theorem OneVariety.find? (one : OneVariety values) (member : start ∈ values) :
    ((elems.zip values).find? fun part => part.2.variety ≠ start.variety) = none := by
  apply List.find?_eq_none.2
  intro part inside
  have same := one part.2 (List.of_mem_zip inside).2 start member
  simp [same]

end FirstOther

namespace Expression

variable {globals : Bindings} {limit depth : Nat} {scope : Scope} {elems : List Expression}
  {values : List Value}

/-- Places are filled as the elements of a list are evaluated. -/
theorem list_filled (globals : Bindings) (limit depth : Nat) (scope : Scope) (span : Span)
    (elems : List Expression) : ∃ outcome : Result (List Value),
      (list span elems).evalWithin globals limit depth scope = outcome.map .list ∧
      fill (evalWithin globals limit depth scope) (List.replicate elems.length none) 0 elems =
        outcome.map (List.map some) := by
  have same : evalWithin globals limit depth scope =
      evalWith globals (callWithin globals limit depth) scope := by
    funext expression
    exact evalWithin_eq globals limit depth scope expression
  have filled : fill (evalWith globals (callWithin globals limit depth) scope)
      (List.replicate elems.length none) 0 elems =
        evalElements globals (callWithin globals limit depth) scope none elems >>= fun values =>
          .ok (values.map some) := fill_eq [] elems
  refine ⟨evalElements globals (callWithin globals limit depth) scope none elems, ?_, ?_⟩
  · rw [same, evalWith_list]
    cases evalElements globals (callWithin globals limit depth) scope none elems <;> rfl
  · rw [same, filled]
    cases evalElements globals (callWithin globals limit depth) scope none elems <;> rfl

/-- A list is reported exactly when the value of an element is of another variety than the first one, and the
report is on the first such element. -/
theorem list_mixed (span : Span)
    (evaluated : List.Forall₂ (fun elem value => elem.evalWithin globals limit depth scope = .ok value) elems
      values) :
    ((∃ place first found, (list span elems).evalWithin globals limit depth scope =
        reportAt place (.mixedList first found)) ↔
      ∃ start other, values[0]? = some start ∧ other ∈ values ∧ other.variety ≠ start.variety) ∧
    (∀ index start elem other, FirstOther values index start other → elems[index]? = some elem →
      (list span elems).evalWithin globals limit depth scope =
        reportAt elem.extent (.mixedList start.variety other.variety)) ∧
    (OneVariety values → (list span elems).evalWithin globals limit depth scope = .ok (.list values)) := by
  simp only [evalWithin_eq] at evaluated ⊢
  cases values with
  | nil =>
      cases evaluated
      refine ⟨?_, ?_, fun _ => rfl⟩
      · apply iff_of_false
        · rintro ⟨place, first, found, same⟩
          cases same
        · rintro ⟨start, other, found, _⟩
          cases found
      · intro index start elem other first
        cases first.head
  | cons first values =>
  have lengths := evaluated.length_eq
  -- The search goes through the elements from the left and compares each with the first.
  have result := evalWith_list_evaluated span evaluated
  refine ⟨⟨?_, ?_⟩, ?_, ?_⟩
  · rintro ⟨place, variety, found, same⟩
    rw [result] at same
    split at same
    · rename_i elem other differs
      have inside := List.mem_of_find?_eq_some differs
      have different := List.find?_some differs
      exact ⟨first, other, rfl, (List.of_mem_zip inside).2, of_decide_eq_true different⟩
    · cases same
  · rintro ⟨start, other, head, member, different⟩
    cases head
    obtain ⟨⟨elem, value⟩, found⟩ := exists_find? lengths member different
    rw [result, found]
    exact ⟨_, _, _, rfl⟩
  · intro index start elem other other? here
    cases other?.head
    rw [result, other?.find? here]
  · intro one
    rw [result, one.find? List.mem_cons_self]

end Expression

/-- After calls, all lists that the global bindings and the values of the calls reach are of one variety, and
no place of a list is ever left empty. A list whose elements have values is reported exactly when one of these
is of another variety than the first one, and the report is on the first such element. -/
theorem lists_uniform (calls : List Call) :
    (Session.after calls).globals.Uniform ∧
    (∀ value ∈ Session.empty.allReturned calls, value.Uniform (Session.after calls).globals) ∧
    ∀ (globals : Bindings) (limit depth : Nat) (scope : Scope) (span : Span) (elems : List Expression),
      (∃ outcome : Result (List Value),
        (Expression.list span elems).evalWithin globals limit depth scope = outcome.map .list ∧
        Expression.fill (Expression.evalWithin globals limit depth scope) (List.replicate elems.length none) 0
          elems = outcome.map (List.map some)) ∧
      ∀ values : List Value,
        List.Forall₂ (fun elem value => elem.evalWithin globals limit depth scope = .ok value) elems values →
        ((∃ place first found, (Expression.list span elems).evalWithin globals limit depth scope =
            reportAt place (.mixedList first found)) ↔
          ∃ start other, values[0]? = some start ∧ other ∈ values ∧ other.variety ≠ start.variety) ∧
        (∀ index start elem other, FirstOther values index start other → elems[index]? = some elem →
          (Expression.list span elems).evalWithin globals limit depth scope =
            reportAt elem.extent (.mixedList start.variety other.variety)) ∧
        (OneVariety values →
          (Expression.list span elems).evalWithin globals limit depth scope = .ok (.list values)) := by
  obtain ⟨later, returned⟩ := Session.performAll_uniform Bindings.uniform_empty calls
  refine ⟨later.bindings, returned, ?_⟩
  intro globals limit depth scope span elems
  refine ⟨Expression.list_filled globals limit depth scope span elems, ?_⟩
  intro values evaluated
  exact Expression.list_mixed span evaluated

/-- This is a script that binds the name `l` to the list of one and two, and then uses it. -/
def listScript : Bytes := #[108, 32, 61, 32, 91, 49, 44, 32, 50, 93, 10, 108]

/-- The script gives a list, which is of one variety. A unit after a number is reported. -/
theorem listScript_uniform :
    (∃ elems, Value.list elems ∈ Session.empty.allReturned [.script listScript] ∧ OneVariety elems) ∧
    ∀ first second span : Span,
      let elems : List Expression := [.literal first (.int 1), .literal second .unit]
      let values : List Value := [.int 1, .unit]
      List.Forall₂ (fun elem value => elem.evalWithin [] 1 1 .global = .ok value) elems values ∧
      FirstOther values 1 (.int 1) .unit ∧
      (Expression.list span elems).evalWithin [] 1 1 .global = reportAt second (.mixedList .int .unit) := by
  obtain ⟨_, returned, lists⟩ := lists_uniform [.script listScript]
  constructor
  · have varieties : Variety.list ∈ (Session.empty.allReturned [.script listScript]).map Value.variety := by
      decide +kernel
    obtain ⟨value, member, variety⟩ := List.mem_map.1 varieties
    cases value with
    | list elems => exact ⟨elems, member, returned _ member elems .here⟩
    | int | float | unit | closure => cases variety
  · intro first second span elems values
    have evaluated : List.Forall₂ (fun elem value => elem.evalWithin [] 1 1 .global = .ok value) elems
        values := .cons rfl (.cons rfl .nil)
    have other : FirstOther values 1 (.int 1) .unit := by
      refine ⟨rfl, rfl, by decide, ?_⟩
      intro earlier value before found
      rw [Nat.lt_one_iff.1 before] at found
      cases found
      rfl
    obtain ⟨_, report⟩ := lists [] 1 1 .global span elems
    exact ⟨evaluated, other, (report values evaluated).2.1 1 _ _ _ other rfl⟩

end Reckon
