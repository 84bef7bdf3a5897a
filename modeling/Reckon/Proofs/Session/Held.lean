/-
This file shows that a session holds no closure that could not have been read from a text.
-/

import Reckon.Proofs.Evaluation.Invariant
import Reckon.Proofs.Expression.Parsed
import Reckon.Proofs.Session.Course

namespace Reckon

open Text

mutual

/-- A value holds a closure when it is the closure, or when a part of it holds the closure. -/
inductive Value.Holds : Value → String → Expression → Prop where
  | here {param : String} {body : Expression} {scope : Scope} :
      Value.Holds (.closure param body scope) param body
  | captured {param param' : String} {body body' : Expression} {scope : Scope}
      (inner : Scope.Holds scope param body) : Value.Holds (.closure param' body' scope) param body
  | element {elems : List Value} {elem : Value} {param : String} {body : Expression}
      (member : elem ∈ elems) (inner : Value.Holds elem param body) :
      Value.Holds (.list elems) param body

/-- A scope holds the closures that its bindings hold, up to the global ones. -/
inductive Scope.Holds : Scope → String → Expression → Prop where
  | bound {name param : String} {value : Value} {outer : Scope} {body : Expression}
      (inner : Value.Holds value param body) : Scope.Holds (.call name value outer) param body
  | outer {name param : String} {value : Value} {outer : Scope} {body : Expression}
      (inner : Scope.Holds outer param body) : Scope.Holds (.call name value outer) param body

end

/-- A session holds the closures that its global bindings hold. -/
def Session.Holds (session : Session) (param : String) (body : Expression) : Prop :=
  ∃ name value, (name, value) ∈ session.globals ∧ Value.Holds value param body

/-- A value is sound when the closures in it are parsable functions. -/
def Value.Sound (value : Value) : Prop :=
  ∀ param body, value.Holds param body → IsName param ∧ body.Parsable

def Scope.Sound (scope : Scope) : Prop :=
  ∀ param body, scope.Holds param body → IsName param ∧ body.Parsable

def Bindings.Sound (bindings : Bindings) : Prop :=
  ∀ name value, (name, value) ∈ bindings → value.Sound

theorem Value.sound_int (value : Int64) : (Value.int value).Sound := nofun

theorem Value.sound_float (value : Float) : (Value.float value).Sound := nofun

theorem Value.sound_unit : Value.unit.Sound := nofun

/-- A list is sound when its elements are. -/
theorem Value.sound_list {elems : List Value} : (Value.list elems).Sound ↔ ∀ elem ∈ elems, elem.Sound := by
  constructor
  · intro sound elem member param body holds
    exact sound param body (.element member holds)
  · rintro all param body (_ | _ | ⟨member, inner⟩)
    exact all _ member param body inner

/-- A closure is sound when its body can be parsed again and its scope is sound. -/
theorem Value.sound_closure {param : String} {body : Expression} {scope : Scope} :
    (Value.closure param body scope).Sound ↔ (IsName param ∧ body.Parsable) ∧ scope.Sound := by
  constructor
  · intro sound
    exact ⟨sound param body .here, fun param' body' holds => sound param' body' (.captured holds)⟩
  · rintro ⟨function, captured⟩ param' body' (_ | inner | _)
    · exact function
    · exact captured param' body' inner

theorem Scope.sound_global : Scope.global.Sound := nofun

/-- The scope of a call is sound when its argument and the scope outside are. -/
theorem Scope.sound_call {name : String} {value : Value} {outer : Scope} :
    (Scope.call name value outer).Sound ↔ value.Sound ∧ outer.Sound := by
  constructor
  · intro sound
    exact ⟨fun param body holds => sound param body (.bound holds),
      fun param body holds => sound param body (.outer holds)⟩
  · rintro ⟨here, later⟩ param body (inner | inner)
    · exact here param body inner
    · exact later param body inner

/-- A value that is found is among the bindings. -/
theorem Bindings.mem_of_get? {bindings : Bindings} {name : String} {value : Value}
    (found : bindings.get? name = some value) : (name, value) ∈ bindings := by
  obtain ⟨before, after, same, _⟩ := List.lookup_eq_some_iff.1 found
  rw [same]
  exact List.mem_append_right _ List.mem_cons_self

theorem Bindings.Sound.get? {bindings : Bindings} {name : String} {value : Value}
    (sound : bindings.Sound) (found : bindings.get? name = some value) : value.Sound :=
  sound name value (mem_of_get? found)

/-- A binding is an old one, or the new one. -/
theorem Bindings.mem_set {bindings : Bindings} {name other : String} {value found : Value}
    (member : (other, found) ∈ bindings.set name value) :
    (other, found) = (name, value) ∨ (other, found) ∈ bindings := by
  fun_induction Bindings.set bindings name value with
  | case1 => exact .inl (List.mem_singleton.1 member)
  | case2 => exact (List.mem_cons.1 member).imp_right (List.mem_cons_of_mem _)
  | case3 => exact List.mem_cons.1 member
  | case4 first firstValue rest _ _ ih =>
      rcases List.mem_cons.1 member with here | later
      · exact .inr (here ▸ List.mem_cons_self)
      · exact (ih later).imp_right (List.mem_cons_of_mem _)

/-- Bindings stay sound when a sound value is set. -/
theorem Bindings.Sound.set {bindings : Bindings} {name : String} {value : Value}
    (sound : bindings.Sound) (new : value.Sound) : (bindings.set name value).Sound := by
  intro other found member
  rcases Bindings.mem_set member with same | old
  · cases same
    exact new
  · exact sound other found old

/-- A value that is found from a sound scope outwards is sound. -/
theorem Scope.Sound.get? {globals : Bindings} {scope : Scope} {name : String} {value : Value}
    (sound : scope.Sound) (globalsSound : globals.Sound) (found : scope.get? globals name = some value) :
    value.Sound := by
  fun_induction Scope.get? globals scope name with
  | case1 => exact globalsSound.get? found
  | case2 bound here outer =>
      cases found
      exact (Scope.sound_call.1 sound).1
  | case3 bound here outer name _ ih => exact ih (Scope.sound_call.1 sound).2 found

/-- A plain value holds no function. -/
theorem Value.Plain.sound {value : Value} (plain : value.Plain) : value.Sound := by
  cases plain with
  | int value => exact Value.sound_int value
  | float value => exact Value.sound_float value
  | unit => exact Value.sound_unit

/-- The operands of a parsable expression are parsable. -/
theorem Expression.Parsable.operand {expression part : Expression} (parsable : expression.Parsable)
    (inside : part ∈ expression.operands) : part.Parsable := by
  cases parsable with
  | int | float | unit | ident | function => cases inside
  | unary _ inner => exact List.mem_singleton.1 inside ▸ inner
  | binary _ first second | apply _ first second =>
      rcases List.mem_pair.1 inside with rfl | rfl
      · exact first
      · exact second
  | list inner => exact inner part inside

/-- Parsable expressions in sound scopes have sound values, if they have any. -/
def Bindings.Sound.invariant {globals : Bindings} (sound : globals.Sound) : Invariant globals where
  value := Value.Sound
  admits scope expression := scope.Sound ∧ expression.Parsable
  allows _ := True
  plain := Value.Plain.sound
  list _ all := Value.sound_list.2 all
  operand admitted inside := ⟨admitted.1, admitted.2.operand inside⟩
  bound admitted found := admitted.1.get? sound found
  unbound _ _ := trivial
  closure := by
    rintro scope span param body ⟨scopeSound, parsable⟩
    cases parsable with
    | function isName inner => exact Value.sound_closure.2 ⟨⟨isName, inner⟩, scopeSound⟩
  body closure arg :=
    have ⟨function, captured⟩ := Value.sound_closure.1 closure
    ⟨Scope.sound_call.2 ⟨arg, captured⟩, function.2⟩
  broken _ _ := trivial
  report _ := trivial

/-- A parsable statement may be executed on sound bindings. -/
theorem Statement.Parsable.admitted {statement : Statement} {globals : Bindings}
    (parsable : statement.Parsable) (sound : globals.Sound) : sound.invariant.AdmitsStatement statement := by
  cases statement with
  | missing => cases parsable
  | assign => exact ⟨Scope.sound_global, parsable.2⟩
  | define => exact ⟨Scope.sound_global, .function parsable.2.1 parsable.2.2⟩
  | expression => exact ⟨Scope.sound_global, parsable⟩

/-- A parsable statement has a sound value, and it keeps the global bindings sound. -/
theorem Statement.Parsable.exec_sound {statement : Statement} {globals next : Bindings} {value : Value}
    (parsable : statement.Parsable) (sound : globals.Sound)
    (found : statement.exec globals = .ok (value, next)) : value.Sound ∧ next.Sound := by
  have conforms := sound.invariant.exec_conforms (parsable.admitted sound)
  rw [found] at conforms
  cases conforms with
  | ok leaves =>
      cases leaves with
      | value here => exact ⟨here, sound⟩
      | binding here => exact ⟨Value.sound_unit, sound.set here⟩

namespace Session

/-- A session has the tokens of the reading, also when it was misread. -/
theorem tokens_buffer (source : Bytes) : (tokens source).value.1 = (Reading.ofBytes source).buffer := by
  unfold tokens
  dsimp only
  split <;> rfl

/-- A text is only run as a statement that it was parsed as. -/
theorem parse_parsable {source : Bytes} {statement : Statement}
    (found : (parse source).value = .ok statement) : statement.Parsable := by
  have same := tokens_buffer source
  unfold parse at found
  dsimp only at found
  split at found
  · cases found
  · rename_i buffer read
    rw [read] at same
    obtain rfl : buffer = (Reading.ofBytes source).buffer := same
    split at found
    · cases found
    · rename_i parsed outcome
      split at found
      · cases found
      · cases found
        exact (parsed_parsable source).2 statement (Result.inStage_ok outcome)

/-- A run keeps the global bindings sound, even when its value cannot be shown. -/
theorem run_sound {session : Session} (sound : session.globals.Sound) (source : Bytes) :
    (session.run source).2.globals.Sound := by
  have runs := session.runs source
  generalize (session.run source).1.value = result, (session.run source).2 = next at runs
  cases runs with
  | unparsed | failed => exact sound
  | unwritten parsed executed | ran parsed executed =>
      exact ((parse_parsable parsed).exec_sound sound executed).2

end Session

/-- The reachable sessions are those after any texts and any scripts. -/
inductive Session.Reachable : Session → Prop where
  | empty : Reachable .empty
  | run {session : Session} (reachable : Reachable session) (source : Bytes) :
      Reachable (session.run source).2
  | script {session : Session} (reachable : Reachable session) (text : Bytes) :
      Reachable (Script.run session text).1.session

/-- A session that was reached by its calls holds sound values. -/
theorem Session.Reachable.sound {session : Session} (reachable : session.Reachable) :
    session.globals.Sound := by
  induction reachable with
  | empty => nofun
  | run _ source ih => exact Session.run_sound ih source
  | @script session _ text ih =>
      have each (session : Session) (source : Bytes) (sound : session.globals.Sound) :
          (session.run source).2.globals.Sound := Session.run_sound sound source
      exact session.perform_keeps each ih (.script text)

/-- A reachable session holds only parsable functions. -/
theorem Session.Reachable.holds {session : Session} (reachable : session.Reachable) {param : String}
    {body : Expression} (holds : session.Holds param body) : IsName param ∧ body.Parsable := by
  obtain ⟨name, value, member, inner⟩ := holds
  exact reachable.sound name value member param body inner

end Reckon
