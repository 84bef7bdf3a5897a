/-
This file shows what a run writes to the scopes that were there before it. A run that ends in trouble
and an expression write nothing, and a statement that binds a name only writes its global binding.
-/

import Reckon.Proofs.Session.Course
import Reckon.Proofs.Session.Sharing

namespace Reckon

open Text

/-- The first binding of a name is the one that is found. -/
theorem Bindings.get?_cons (first name : String) (value : Value) (rest : Bindings) :
    Bindings.get? ((first, value) :: rest) name =
      if name = first then some value else Bindings.get? rest name := by
  unfold Bindings.get?
  rw [List.lookup_cons]
  by_cases same : name = first
  · rw [if_pos same, beq_iff_eq.2 same]
  · rw [if_neg same, beq_eq_false_iff_ne.2 same]

/-- Setting a name changes what is found under that name alone. -/
theorem Bindings.get?_set (bindings : Bindings) (name : String) (value : Value) (other : String) :
    (bindings.set name value).get? other =
      if other = name then some value else bindings.get? other := by
  fun_induction Bindings.set bindings name value with
  | case1 => rw [get?_cons]
  | case2 =>
      rw [get?_cons, get?_cons]
      split <;> rfl
  | case3 => rw [get?_cons]
  | case4 first firstValue rest differs before ih =>
      rw [get?_cons, get?_cons, ih]
      by_cases same : other = name
      · rw [if_pos same, if_pos same, if_neg (same ▸ differs)]
      · rw [if_neg same, if_neg same]

/-- A global binding is written to the first frame. -/
theorem Store.Represents.set {store : Store} {globals : Bindings} {bound : Stored} {value : Value}
    (represents : store.Represents globals) (shows : Shows store bound value) (name : String) :
    (store.set 0 name bound).Represents (globals.set name value) := by
  have keeps := Store.keeps_set store name bound
  obtain ⟨frame, found, outermost, all⟩ := represents
  refine ⟨frame.bind name bound, by rw [getElem?_set, found]; rfl, outermost, fun other => ?_⟩
  rw [Bindings.get?_set, Frame.bind]
  dsimp only
  by_cases same : other = name
  · rw [if_pos same, same, Function.update_self]
    exact .some (shows.kept keeps)
  · rw [if_neg same, Function.update_of_ne same]
    exact rel_imp (fun _ _ shows => shows.kept keeps) (all other)

namespace Statement

/-- This is what a statement writes. -/
inductive Writes (statement : Statement) (before : Store) : Result Stored → Store → Prop
  | nothing {result : Result Stored} {after : Store} (grows : before.Grows after)
      (unbound : statement.bound? = none ∨ ∃ trouble, result = .error trouble) :
      Writes statement before result after
  | binding {name : String} {value : Stored} {middle : Store} (grows : before.Grows middle)
      (bound : statement.bound? = some name) :
      Writes statement before (.ok .unit) (middle.set 0 name value)

/-- An assignment sets its name in the global frame when its value is found. -/
theorem execIn_assign (span : Span) (name : String) (value : Expression) (store : Store) :
    (assign span name value).execIn store =
      match value.evalInWithin maxCallDepth maxCallDepth 0 store with
      | (.ok value, middle) => (.ok .unit, middle.set 0 name value)
      | (.error trouble, middle) => (.error trouble, middle) := by
  rw [execIn, Step.andThen]
  cases value.evalInWithin maxCallDepth maxCallDepth 0 store with
  | mk result middle => cases result <;> rfl

/-- A statement writes nothing but its own name to the global frame. -/
theorem execIn_writes (statement : Statement) (store : Store) :
    statement.Writes store (statement.execIn store).1 (statement.execIn store).2 := by
  cases statement with
  | missing => exact .nothing (.refl store) (.inl rfl)
  | expression value =>
      exact .nothing (Expression.evalInWithin_grows maxCallDepth maxCallDepth 0 value store) (.inl rfl)
  | define span name param body => exact .binding (.refl store) rfl
  | assign span name value =>
      have grows := Expression.evalInWithin_grows maxCallDepth maxCallDepth 0 value store
      rw [execIn_assign]
      cases ran : value.evalInWithin maxCallDepth maxCallDepth 0 store with
      | mk result middle =>
      rw [ran] at grows
      cases result with
      | ok value => exact .binding grows rfl
      | error trouble => exact .nothing grows (.inr ⟨trouble, rfl⟩)

/-- A statement mirrors its execution, also in the bindings that it leaves. -/
theorem execIn_mirrors {store : Store} {globals : Bindings} (represents : store.Represents globals)
    (statement : Statement) :
    Agree (fun stored executed => Shows (statement.execIn store).2 stored executed.1 ∧
      (statement.execIn store).2.Represents executed.2) (statement.execIn store).1
      (statement.exec globals) := by
  have evaluates (value : Expression) :
      (value.evalInWithin maxCallDepth maxCallDepth 0).Mirrors store Shows (value.eval globals) :=
    Expression.evalInWithin_mirrors represents .global maxCallDepth maxCallDepth value
  cases statement with
  | missing => exact rfl
  | define span name param body => exact ⟨.unit, represents.set (.closure .global) name⟩
  | expression value =>
      obtain ⟨grows, agree⟩ := evaluates value
      rw [execIn, exec]
      cases ran : value.evalInWithin maxCallDepth maxCallDepth 0 store with
      | mk result middle =>
      rw [ran] at grows agree
      cases result <;> cases outcome : value.eval globals <;> rw [outcome] at agree
      · exact agree
      · exact agree
      · exact agree
      · exact ⟨agree, represents.grown grows⟩
  | assign span name value =>
      obtain ⟨grows, agree⟩ := evaluates value
      rw [execIn_assign, exec]
      cases ran : value.evalInWithin maxCallDepth maxCallDepth 0 store with
      | mk result middle =>
      rw [ran] at grows agree
      cases result <;> cases outcome : value.eval globals <;> rw [outcome] at agree
      · exact agree
      · exact agree
      · exact agree
      · exact ⟨.unit, (represents.grown grows).set agree name⟩

end Statement

namespace Store

/-- The value of a run has a text when the run binds a name. -/
theorem run_writes (store : Store) {source : Bytes} {statement : Statement}
    (parsed : (Session.parse source).value = .ok statement) :
    statement.Writes store (store.run source).1 (store.run source).2 := by
  have writes := statement.execIn_writes store
  rw [run, parsed]
  dsimp only
  cases ran : statement.execIn store with
  | mk result after =>
  rw [ran] at writes
  dsimp only at writes ⊢
  cases result with
  | error trouble =>
      obtain ⟨staged, same⟩ := Result.inStage_error .evaluation trouble
      rw [same]
      cases writes with
      | nothing grows => exact .nothing grows (.inr ⟨staged, rfl⟩)
  | ok value =>
      rw [Result.inStage_value]
      dsimp only
      cases writes with
      | binding grows bound => exact .binding grows bound
      | nothing grows unbound =>
          have unbound : statement.bound? = none := unbound.resolve_right nofun
          split
          · exact .nothing grows (.inl unbound)
          · exact .nothing grows (.inl unbound)

/-- A run on a store gives the value of the run in the session that the store represents. -/
theorem run_mirrors {store : Store} {session : Session} (represents : store.Represents session.globals)
    (source : Bytes) :
    Agree (Shows (store.run source).2) (store.run source).1 (session.run source).1.value ∧
      (store.run source).2.Represents (session.run source).2.globals := by
  rw [run, Session.run]
  dsimp only
  cases parsed : (Session.parse source).value with
  | error trouble => exact ⟨rfl, represents⟩
  | ok statement =>
  have agree := statement.execIn_mirrors represents
  have writes := statement.execIn_writes store
  dsimp only
  cases ran : statement.execIn store with
  | mk result after =>
  rw [ran] at agree writes
  dsimp only at agree writes ⊢
  cases result with
  | error trouble =>
      cases outcome : statement.exec session.globals with
      | ok executed =>
          rw [outcome] at agree
          cases agree
      | error trouble' =>
          rw [outcome] at agree
          cases agree
          obtain ⟨staged, same⟩ := Result.inStage_error .evaluation trouble
          rw [same, same]
          cases writes with
          | nothing grows => exact ⟨rfl, represents.grown grows⟩
  | ok stored =>
      cases outcome : statement.exec session.globals with
      | error trouble =>
          rw [outcome] at agree
          cases agree
      | ok executed =>
          obtain ⟨value, globals⟩ := executed
          rw [outcome] at agree
          obtain ⟨shows, represents'⟩ := agree
          rw [Result.inStage_value, Result.inStage_value]
          dsimp only
          rw [shows.text]
          cases value.text with
          | ok text => exact ⟨shows, represents'⟩
          | error fault => exact ⟨rfl, represents'⟩

/-- Every frame but the first one is that of an application. -/
def Applied (store : Store) : Prop :=
  ∀ address frame, 0 < address → store[address]? = some frame →
    ∃ name value outer, frame = Frame.ofCall name value outer

/-- A store that grows still has one binding in every frame of an application. -/
theorem Grows.applied {before after : Store} (grows : before.Grows after) (applied : before.Applied) :
    after.Applied := by
  obtain ⟨frames, rfl, all⟩ := grows
  intro address frame inner found
  rw [List.getElem?_append] at found
  split at found
  · exact applied address frame inner found
  · exact all frame (List.mem_of_getElem? found)

/-- Setting a global name leaves the frames of applications alone. -/
theorem Applied.set {store : Store} (applied : store.Applied) (name : String) (value : Stored) :
    (store.set 0 name value).Applied := by
  intro address frame inner found
  rw [getElem?_set, Option.map_eq_some_iff] at found
  obtain ⟨frame, before, rfl⟩ := found
  rw [if_neg (Nat.ne_of_lt inner)]
  exact applied address frame inner before

/-- No run writes to the scope of an application. -/
theorem run_keeps (store : Store) (source : Bytes) : store.Keeps (store.run source).2 ∧
    (store.Applied → (store.run source).2.Applied) := by
  cases parsed : (Session.parse source).value with
  | error trouble =>
      have same : (store.run source).2 = store := by rw [run, parsed]
      rw [same]
      exact ⟨fun _ _ _ => id, id⟩
  | ok statement =>
      have writes := store.run_writes parsed
      revert writes
      generalize store.run source = ran
      obtain ⟨result, after⟩ := ran
      intro writes
      cases writes with
      | nothing grows => exact ⟨grows.keeps, grows.applied⟩
      | binding grows =>
          exact ⟨grows.keeps.trans (keeps_set _ _ _), fun applied => (grows.applied applied).set _ _⟩

/-- Trouble and expressions leave every frame as it was. -/
theorem run_grows (store : Store) (source : Bytes)
    (unbound : (∃ trouble, (store.run source).1 = .error trouble) ∨
      ∃ expression, (Session.parse source).value = .ok (.expression expression)) :
    store.Grows (store.run source).2 := by
  cases parsed : (Session.parse source).value with
  | error trouble =>
      have same : (store.run source).2 = store := by rw [run, parsed]
      rw [same]
      exact .refl store
  | ok statement =>
      have writes := store.run_writes parsed
      revert writes unbound
      generalize store.run source = ran
      obtain ⟨result, after⟩ := ran
      intro unbound writes
      cases writes with
      | nothing grows => exact grows
      | binding grows bound =>
          rcases unbound with ⟨trouble, failed⟩ | ⟨expression, same⟩
          · cases failed
          · cases parsed.symm.trans same
            cases bound

/-- A run that binds a name writes to the first frame after the evaluation. -/
theorem run_sets {store : Store} {source : Bytes} {statement : Statement} {name : String}
    {value : Stored} (parsed : (Session.parse source).value = .ok statement)
    (bound : statement.bound? = some name) (ended : (store.run source).1 = .ok value) :
    ∃ middle new, store.Grows middle ∧ (store.run source).2 = middle.set 0 name new := by
  have writes := store.run_writes parsed
  revert writes ended
  generalize store.run source = ran
  obtain ⟨result, after⟩ := ran
  intro ended writes
  cases ended
  cases writes with
  | nothing grows unbound =>
      rcases unbound with unbound | ⟨trouble, failed⟩
      · cases bound.symm.trans unbound
      · cases failed
  | binding grows bound' =>
      cases bound.symm.trans bound'
      exact ⟨_, _, grows, rfl⟩

/-- Sources keep all frames of applications. -/
theorem runAll_keeps (store : Store) (sources : List Bytes) : store.Keeps (store.runAll sources) ∧
    (store.Applied → (store.runAll sources).Applied) := by
  induction sources generalizing store with
  | nil => exact ⟨fun _ _ _ => id, id⟩
  | cons source sources ih =>
      have first := store.run_keeps source
      have later := ih (store.run source).2
      exact ⟨first.1.trans later.1, later.2 ∘ first.2⟩

/-- This is a store after the texts that calls run, which depend on the session. -/
def perform (store : Store) (session : Session) : List Call → Store
  | [] => store
  | call :: calls => (store.runAll (session.sources call)).perform (session.perform call) calls

def after (calls : List Call) : Store := start.perform .empty calls

/-- A store that runs sources represents the bindings of a session that runs them. -/
theorem runAll_represents {store : Store} {session : Session}
    (represents : store.Represents session.globals) (sources : List Bytes) :
    (store.runAll sources).Represents (session.runAll sources).globals := by
  induction sources generalizing store session with
  | nil => exact represents
  | cons source sources ih => exact ih (run_mirrors represents source).2

/-- A store that performs calls represents the bindings of the session. -/
theorem perform_represents {store : Store} {session : Session}
    (represents : store.Represents session.globals) (applied : store.Applied) (calls : List Call) :
    (store.perform session calls).Represents (calls.foldl Session.perform session).globals ∧
      (store.perform session calls).Applied := by
  induction calls generalizing store session with
  | nil => exact ⟨represents, applied⟩
  | cons call calls ih =>
      have here := runAll_represents represents (session.sources call)
      rw [← Session.perform_runAll] at here
      exact ih here ((store.runAll_keeps _).2 applied)

/-- The store after calls represents the bindings of the session after them. -/
theorem after_represents (calls : List Call) :
    (after calls).Represents (Session.after calls).globals ∧ (after calls).Applied := by
  have represents : start.Represents Session.empty.globals := ⟨.empty none, rfl, rfl, fun _ => .none⟩
  refine perform_represents represents ?_ calls
  intro address frame inner found
  cases address with
  | zero => exact absurd inner (Nat.lt_irrefl 0)
  | succ address => cases found

end Store

/-- In every session that calls reach, a run that ends in trouble and an expression change no binding
of any scope. A run that binds a name has the value unit and changes one global binding. The scope of
an application keeps its single binding, whatever is run later. -/
theorem run_frames (calls : List Call) (source : Bytes) :
    let session := Session.after calls
    let store := Store.after calls
    let ran := store.run source
    (store.Represents session.globals ∧ ran.2.Represents (session.run source).2.globals ∧
      Agree (Shows ran.2) ran.1 (session.run source).1.value) ∧
    ((∃ trouble, (session.run source).1.value = .error trouble) ∨
        (∃ expression, (Session.parse source).value = .ok (.expression expression)) →
      (session.run source).2 = session ∧
        ∀ (address : Address) (frame : Frame), store[address]? = some frame → ran.2[address]? = some frame) ∧
    (∀ statement name value, (Session.parse source).value = .ok statement →
      statement.bound? = some name → (session.run source).1.value = .ok value →
      value = .unit ∧ (∃ bound, (session.run source).2.globals = session.globals.set name bound) ∧
        ∃ bound, ∀ (address : Address) (frame : Frame), store[address]? = some frame →
          ran.2[address]? = some (if address = 0 then frame.bind name bound else frame)) ∧
    (∀ (address : Address) (frame : Frame), 0 < address → store[address]? = some frame →
      (∃ name value outer, frame = Frame.ofCall name value outer) ∧
        ∀ later, (store.runAll later)[address]? = some frame) := by
  intro session store ran
  obtain ⟨represents, applied⟩ := Store.after_represents calls
  obtain ⟨agree, represents'⟩ := Store.run_mirrors represents source
  refine ⟨⟨represents, represents', agree⟩, ?_, ?_, ?_⟩
  · intro unbound
    -- Without a binding the store only grew, so every frame that it had is still there.
    have grows : store.Grows ran.2 := by
      apply store.run_grows source
      rcases unbound with ⟨trouble, failed⟩ | written
      · rw [failed] at agree
        exact .inl ⟨trouble, agree.error⟩
      · exact .inr written
    refine ⟨?_, fun address frame found => grows.getElem? found⟩
    rcases session.run_binds source with ⟨same, _⟩ | ⟨statement, name, _, parsed, bound, ended, _⟩
    · exact same
    · rcases unbound with ⟨trouble, failed⟩ | ⟨expression, written⟩
      · cases ended.symm.trans failed
      · cases parsed.symm.trans written
        cases bound
  · intro statement name value parsed bound ended
    rw [ended] at agree
    obtain ⟨stored, ended', _⟩ := agree.ok
    obtain ⟨middle, new, grows, written⟩ := Store.run_sets parsed bound ended'
    -- The session and the store bind the same name, since both ran the same statement.
    rcases session.run_binds source with ⟨_, failed | unbound⟩ | ⟨_, _, bound', parsed', same, ended'', set⟩
    · obtain ⟨trouble, failed⟩ := failed
      cases ended.symm.trans failed
    · obtain ⟨statement', parsed', unbound⟩ := unbound
      cases parsed.symm.trans parsed'
      cases bound.symm.trans unbound
    · cases parsed.symm.trans parsed'
      cases bound.symm.trans same
      cases ended.symm.trans ended''
      refine ⟨rfl, ⟨bound', set⟩, new, ?_⟩
      intro address frame found
      rw [written, Store.getElem?_set, grows.getElem? found, Option.map_some]
      by_cases first : address = 0
      · rw [if_pos first, if_pos first.symm]
      · rw [if_neg first, if_neg (Ne.symm first)]
  · intro address frame inner found
    exact ⟨applied address frame inner found, fun later =>
      (store.runAll_keeps later).1 address frame inner found⟩

end Reckon
