/-
This file describes runs of the operations on a state. A run that returns to a save finds what was
there, as long as it neither returned to an older save nor popped an older entry in between.
-/

import Reckon.Proofs.Parse.Purity

namespace Reckon

/-- These are the operations on the state of a parse. A return names its save by the number of the
saves that were taken before it. -/
inductive Operation where
  | push (role : Role)
  | shift (role : Role)
  | pop
  | mark (role : Role)
  | report (report : Report)
  | expect (what : String)
  | save
  | restore (number : Nat)
  deriving Repr

/-- An operation goes forward unless it is a return. -/
theorem Operation.forward_or_return (operation : Operation) :
    (∀ number, operation ≠ .restore number) ∨ ∃ number, operation = .restore number := by
  cases operation with
  | restore number => exact .inr ⟨number, rfl⟩
  | _ => exact .inl nofun

/-- A run has come to a state, and it remembers the saves that it took in order. -/
structure Run where
  state : State
  saves : List Save
  deriving Repr

namespace Run

def start (buffer : Buffer) : Run := ⟨.ofBuffer buffer, []⟩

/-- This is the run after it took a save. -/
def saved (run : Run) : Run := { run with saves := run.saves ++ [run.state.save] }

/-- This performs an operation, unless it breaks a rule of the state. -/
def perform (run : Run) : Operation → Except Fault Run
  | .push role => (run.state.push role).map fun (_, state) => { run with state }
  | .shift role => (run.state.shift role).map fun (_, state) => { run with state }
  | .pop => run.state.pop.map fun state => { run with state }
  | .mark role => (run.state.mark role).map fun state => { run with state }
  | .report report => .ok { run with state := run.state.report report }
  | .expect what => .ok { run with state := run.state.expect what }
  | .save => .ok run.saved
  | .restore number =>
      match run.saves[number]? with
      | some save => (run.state.restore save).map fun state => { run with state }
      | none => .error .outOfBounds

/-- This performs operations one after the other. -/
def performAll (run : Run) : List Operation → Except Fault Run
  | [] => .ok run
  | operation :: operations =>
      match run.perform operation with
      | .ok next => next.performAll operations
      | .error fault => .error fault

/-- An operation that comes after earlier ones spares the save that a run took before them when it
returns to no older save, and pops no entry that was on the stack at the save. -/
def Spares (run : Run) (earlier : List Operation) : Operation → Prop
  | .restore number => run.saves.length ≤ number
  | .pop => ∀ popping, run.saved.performAll earlier = .ok popping →
      run.state.stack.size < popping.state.stack.size
  | _ => True

/-- Operations keep a save when all of them spare it. -/
def Keeps (run : Run) (operations : List Operation) : Prop :=
  ∀ earlier operation later, operations = earlier ++ operation :: later →
    run.Spares earlier operation

/-- Operations are orderly when those between a save and a return to it keep the save. -/
def Orderly (start : Run) (operations : List Operation) : Prop :=
  ∀ before between after run,
    operations = before ++ .save :: (between ++ .restore run.saves.length :: after) →
      start.performAll before = .ok run → run.Keeps between

/-- A list is split at an item in as many ways as it has items. -/
theorem forall_splits {A : Type} {list : List A} {holds : List A → A → List A → Prop} :
    (∀ before item after, list = before ++ item :: after → holds before item after) ↔
      ∀ count, ∀ inside : count < list.length,
        holds (list.take count) list[count] (list.drop (count + 1)) := by
  constructor
  · intro all count inside
    apply all
    rw [← List.drop_eq_getElem_cons inside, List.take_append_drop]
  · intro all before item after split
    subst split
    simpa using all before.length (by simp)

instance {A : Type} {list : List A} {holds : List A → A → List A → Prop}
    [∀ before item after, Decidable (holds before item after)] :
    Decidable (∀ before item after, list = before ++ item :: after → holds before item after) :=
  decidable_of_iff _ forall_splits.symm

instance {A E : Type} {value : Except E A} {holds : A → Prop} [DecidablePred holds] :
    Decidable (∀ result, value = .ok result → holds result) :=
  match value with
  | .ok result => decidable_of_iff (holds result) (by simp)
  | .error _ => isTrue (by simp)

instance (run : Run) (earlier : List Operation) (operation : Operation) :
    Decidable (run.Spares earlier operation) := by
  cases operation <;> unfold Spares <;> infer_instance

instance (run : Run) (operations : List Operation) : Decidable (run.Keeps operations) :=
  inferInstanceAs (Decidable (∀ earlier operation later,
    operations = earlier ++ operation :: later → run.Spares earlier operation))

/-- A return to the save asks that the operations since keep the save. -/
def KeptAt (run : Run) (between : List Operation) : Operation → Prop
  | .restore number => number = run.saves.length → run.Keeps between
  | _ => True

/-- A save asks that the operations until any return to it keep the save. -/
def KeptUntil (run : Run) (later : List Operation) : Operation → Prop
  | .save => ∀ between operation after, later = between ++ operation :: after →
      run.KeptAt between operation
  | _ => True

instance (run : Run) (between : List Operation) (operation : Operation) :
    Decidable (run.KeptAt between operation) := by
  cases operation <;> unfold KeptAt <;> infer_instance

instance (run : Run) (later : List Operation) (operation : Operation) :
    Decidable (run.KeptUntil later operation) := by
  cases operation <;> unfold KeptUntil <;> infer_instance

/-- Operations are orderly when every return among them is to a save that was kept until then. -/
theorem orderly_iff (start : Run) (operations : List Operation) : start.Orderly operations ↔
    ∀ before operation later, operations = before ++ operation :: later →
      ∀ run, start.performAll before = .ok run → run.KeptUntil later operation := by
  constructor
  · intro orderly before operation later split run reached
    cases operation with
    | save =>
        intro between operation' after split'
        cases operation' with
        | restore number =>
            rintro rfl
            exact orderly before between after run (by rw [split, split']) reached
        | _ => trivial
    | _ => trivial
  · intro all before between after run split reached
    exact all before .save _ split run reached between _ after rfl rfl

instance (start : Run) (operations : List Operation) : Decidable (start.Orderly operations) :=
  decidable_of_iff _ (start.orderly_iff operations).symm

/-- Operations in two parts are performed one part after the other. -/
theorem performAll_append (run : Run) (first second : List Operation) :
    run.performAll (first ++ second) =
      match run.performAll first with
      | .ok next => next.performAll second
      | .error fault => .error fault := by
  induction first generalizing run with
  | nil => rfl
  | cons operation operations ih =>
      simp only [List.cons_append, performAll]
      cases run.perform operation with
      | ok next => exact ih next
      | error fault => rfl

/-- Operations that were performed were performed up to any place among them. -/
theorem exists_performAll {run next : Run} {first second : List Operation}
    (performed : run.performAll (first ++ second) = .ok next) :
    ∃ middle, run.performAll first = .ok middle ∧ middle.performAll second = .ok next := by
  rw [performAll_append] at performed
  cases result : run.performAll first with
  | ok middle =>
      rw [result] at performed
      exact ⟨middle, rfl, performed⟩
  | error fault =>
      rw [result] at performed
      cases performed

theorem performAll_trans {run middle next : Run} {first second : List Operation}
    (left : run.performAll first = .ok middle) (right : middle.performAll second = .ok next) :
    run.performAll (first ++ second) = .ok next := by
  rw [performAll_append, left]
  exact right

/-- A run of some operations performs the first of them and then the others. -/
theorem exists_perform {run next : Run} {operation : Operation} {operations : List Operation}
    (performed : run.performAll (operation :: operations) = .ok next) :
    ∃ middle, run.perform operation = .ok middle ∧ middle.performAll operations = .ok next := by
  rw [performAll] at performed
  cases result : run.perform operation with
  | ok middle =>
      rw [result] at performed
      exact ⟨middle, rfl, performed⟩
  | error fault =>
      rw [result] at performed
      cases performed

theorem performAll_cons {run middle next : Run} {operation : Operation}
    {operations : List Operation} (first : run.perform operation = .ok middle)
    (later : middle.performAll operations = .ok next) :
    run.performAll (operation :: operations) = .ok next := by
  rw [performAll, first]
  exact later

theorem performAll_singleton (run : Run) (operation : Operation) :
    run.performAll [operation] = run.perform operation := by
  rw [performAll]
  cases run.perform operation <;> rfl

theorem performAll_save (run : Run) (operations : List Operation) :
    run.performAll (.save :: operations) = run.saved.performAll operations := rfl

/-- An operation that is no return only adds to a state, but for the entry that it pops. -/
theorem perform_extends {run next : Run} {operation : Operation} {floor : Nat}
    (performed : run.perform operation = .ok next) (height : floor ≤ run.state.stack.size)
    (forward : ∀ number, operation ≠ .restore number)
    (above : operation = .pop → floor < run.state.stack.size) :
    State.Extends floor run.state next.state := by
  cases operation with
  | push role =>
      obtain ⟨⟨handle, state⟩, pushed, rfl⟩ := Parser.exists_of_map_ok performed
      exact State.extends_push pushed height
  | shift role =>
      obtain ⟨⟨handle, state⟩, shifted, rfl⟩ := Parser.exists_of_map_ok performed
      exact State.extends_shift shifted height
  | pop =>
      obtain ⟨state, popped, rfl⟩ := Parser.exists_of_map_ok performed
      exact State.extends_pop popped (above rfl)
  | mark role =>
      obtain ⟨state, marked, rfl⟩ := Parser.exists_of_map_ok performed
      exact State.extends_mark marked height
  | report report =>
      cases performed
      exact { State.Extends.refl height with reports := by simp [State.report] }
  | expect what =>
      cases performed
      exact (State.SameBefore.expect _ what).extends height
  | save =>
      cases performed
      exact .refl height
  | restore number => exact absurd rfl (forward number)

/-- A return goes to a save that was taken. -/
theorem exists_of_restore {run next : Run} {number : Nat}
    (performed : run.perform (.restore number) = .ok next) : ∃ save state,
      run.saves[number]? = some save ∧ run.state.restore save = .ok state ∧
        next = { run with state } := by
  rw [perform] at performed
  cases found : run.saves[number]? with
  | none =>
      rw [found] at performed
      cases performed
  | some save =>
      rw [found] at performed
      obtain ⟨state, restored, rfl⟩ := Parser.exists_of_map_ok performed
      exact ⟨save, state, rfl, restored, rfl⟩

/-- An operation takes no save, or one of the state before it. -/
theorem perform_saves {run next : Run} {operation : Operation}
    (performed : run.perform operation = .ok next) :
    (operation = .save ∧ next = run.saved) ∨ (operation ≠ .save ∧ next.saves = run.saves) := by
  cases operation with
  | save =>
      cases performed
      exact .inl ⟨rfl, rfl⟩
  | restore number =>
      obtain ⟨_, _, _, _, rfl⟩ := exists_of_restore performed
      exact .inr ⟨nofun, rfl⟩
  | report report | expect what =>
      cases performed
      exact .inr ⟨nofun, rfl⟩
  | push role | shift role | pop | mark role =>
      obtain ⟨_, _, rfl⟩ := Parser.exists_of_map_ok performed
      exact .inr ⟨nofun, rfl⟩

/-- Every save was there at the start of the operations, or it was taken among them. -/
theorem exists_save {run next : Run} {operations : List Operation} {number : Nat} {save : Save}
    (performed : run.performAll operations = .ok next) (found : next.saves[number]? = some save) :
    run.saves[number]? = some save ∨ ∃ before after middle,
      operations = before ++ .save :: after ∧ run.performAll before = .ok middle ∧
        middle.saves.length = number ∧ save = middle.state.save := by
  induction operations generalizing run with
  | nil =>
      cases performed
      exact .inl found
  | cons operation operations ih =>
      obtain ⟨middle, first, later⟩ := exists_perform performed
      rcases ih later with here | ⟨before, after, middle', rfl, reached, count, same⟩
      · rcases perform_saves first with ⟨rfl, rfl⟩ | ⟨_, kept⟩
        · rw [saved, List.getElem?_append] at here
          split at here
          · exact .inl here
          · rename_i beyond
            obtain ⟨zero, same⟩ : number - run.saves.length = 0 ∧ run.state.save = save := by
              rw [List.getElem?_singleton] at here
              split at here
              · exact ⟨‹_›, Option.some.inj here⟩
              · cases here
            exact .inr ⟨[], operations, run, rfl, rfl, by omega, same.symm⟩
        · exact .inl (kept ▸ here)
      · refine .inr ⟨operation :: before, after, middle', rfl, ?_, count, same⟩
        exact performAll_cons first reached

/-- No operation takes back a save that was handed out. -/
theorem saves_prefix {run next : Run} {operations : List Operation}
    (performed : run.performAll operations = .ok next) : run.saves <+: next.saves := by
  induction operations generalizing run with
  | nil =>
      cases performed
      exact List.prefix_rfl
  | cons operation operations ih =>
      obtain ⟨middle, first, later⟩ := exists_perform performed
      refine List.IsPrefix.trans ?_ (ih later)
      rcases perform_saves first with ⟨_, rfl⟩ | ⟨_, kept⟩
      · exact List.prefix_append _ _
      · exact kept ▸ List.prefix_rfl

/-- A save that is no older than the one that a run takes is this one, or it was taken since. -/
theorem exists_return {run next : Run} {operations : List Operation} {number : Nat} {save : Save}
    (performed : run.saved.performAll operations = .ok next) (found : next.saves[number]? = some save)
    (newer : run.saves.length ≤ number) :
    save = run.state.save ∨ ∃ before after middle,
      operations = before ++ .save :: after ∧ run.saved.performAll before = .ok middle ∧
        middle.saved.performAll after = .ok next ∧ middle.saves.length = number ∧
          save = middle.state.save := by
  rcases exists_save performed found with here | ⟨before, after, middle, rfl, reached, count, same⟩
  · rw [saved, List.getElem?_append_right newer, List.getElem?_singleton] at here
    split at here
    · exact .inl (Option.some.inj here).symm
    · cases here
  · obtain ⟨_, again, later⟩ := exists_performAll performed
    obtain rfl := Except.ok.inj (reached.symm.trans again)
    exact .inr ⟨before, after, middle, rfl, reached, later, count, same⟩

/-- A save stays under its number. -/
theorem getElem?_saves {run next : Run} {operations : List Operation}
    (performed : run.saved.performAll operations = .ok next) :
    next.saves[run.saves.length]? = some run.state.save := by
  obtain ⟨more, same⟩ := saves_prefix performed
  rw [← same, saved, List.append_assoc, List.getElem?_append_right (Nat.le_refl _), Nat.sub_self]
  rfl

theorem Keeps.of_append {run : Run} {first second : List Operation}
    (keeps : run.Keeps (first ++ second)) : run.Keeps first := by
  intro earlier operation later split
  exact keeps earlier operation (later ++ second) (by rw [split, List.append_assoc]; rfl)

theorem Keeps.last {run : Run} {first : List Operation} {operation : Operation}
    (keeps : run.Keeps (first ++ [operation])) : run.Spares first operation :=
  keeps first operation [] rfl

/-- A condition on the operations between a save and a return to it allows an induction when it holds of the
first ones of them too, and asks that they return to no older save. What holds of a state at a save then holds
of the states after it if it stays with every operation that is no return, comes back with every return, and
joins up where a save was taken in between. -/
theorem between_induction {start : Run} {operations : List Operation}
    {allowed : Run → List Operation → Prop}
    (between_allowed : ∀ before between after run,
      operations = before ++ .save :: (between ++ .restore run.saves.length :: after) →
        start.performAll before = .ok run → allowed run between)
    (shorter : ∀ run first second, allowed run (first ++ second) → allowed run first)
    (newer : ∀ run first number, allowed run (first ++ [.restore number]) → run.saves.length ≤ number)
    {motive : State → State → Prop}
    (begins : ∀ before run, start.performAll before = .ok run → motive run.state run.state)
    (forward : ∀ run earlier middle operation next, allowed run (earlier ++ [operation]) →
      run.saved.performAll earlier = .ok middle → motive run.state middle.state →
      middle.perform operation = .ok next → (∀ number, operation ≠ .restore number) →
      motive run.state next.state)
    (returns : ∀ saving middle next : State, motive saving middle →
      middle.restore saving.save = .ok next → motive saving next)
    (trans : ∀ first second third, motive first second → motive second third → motive first third)
    {before between after : List Operation} {run next : Run}
    (split : operations = before ++ .save :: (between ++ after))
    (reached : start.performAll before = .ok run) (here : allowed run between)
    (performed : run.saved.performAll between = .ok next) : motive run.state next.state := by
  -- A return to a newer save needs the statement for the operations up to that save, and for those
  -- from there on, so the induction is on the number of operations.
  induction count : between.length using Nat.strongRecOn
    generalizing before between after run next with
  | ind count ih =>
  rcases List.eq_nil_or_concat between with rfl | ⟨first, operation, rfl⟩
  · cases performed
    exact begins before run reached
  rw [List.concat_eq_append] at *
  rw [List.length_append, List.length_singleton] at count
  obtain ⟨middle, earlier, last⟩ := exists_performAll performed
  rw [performAll_singleton] at last
  have there := shorter run first [operation] here
  have held := ih first.length (by omega) (split.trans (by rw [List.append_assoc])) reached there earlier rfl
  rcases operation.forward_or_return with isForward | ⟨number, rfl⟩
  · exact forward run first middle operation next here earlier held last isForward
  · obtain ⟨save, state, found, restored, rfl⟩ := exists_of_restore last
    rcases exists_return earlier found (newer run first number here) with
      rfl | ⟨first', second', saving, rfl, reached', later, rfl, rfl⟩
    · -- The return is to the save itself.
      exact returns run.state middle.state state held restored
    · -- The return is to a save that was taken since.
      rw [List.length_append, List.length_cons] at count
      have outer : operations = before ++ .save ::
          (first' ++ .save :: (second' ++ .restore saving.saves.length :: after)) := by
        rw [split]
        simp only [List.append_assoc, List.cons_append, List.nil_append]
      have below := ih first'.length (by omega) outer reached (shorter run first' _ there) reached' rfl
      have inner : operations = (before ++ .save :: first') ++ .save ::
          (second' ++ .restore saving.saves.length :: after) := by
        rw [outer]
        simp only [List.append_assoc, List.cons_append]
      have reached'' := performAll_trans reached ((performAll_save run first').trans reached')
      have above := ih second'.length (by omega) inner reached''
        (between_allowed _ _ _ _ inner reached'') later rfl
      exact trans _ _ _ below (returns saving.state middle.state state above restored)

/-- Everything that was there at a save stays while the operations keep the save. -/
theorem Orderly.extends {start : Run} {operations : List Operation} (orderly : start.Orderly operations)
    {before between after : List Operation} {run next : Run}
    (split : operations = before ++ .save :: (between ++ after))
    (reached : start.performAll before = .ok run) (keeps : run.Keeps between)
    (performed : run.saved.performAll between = .ok next) :
    State.Extends run.state.stack.size run.state next.state := by
  refine between_induction (motive := fun saving state => State.Extends saving.stack.size saving state)
    orderly (fun _ _ _ => Keeps.of_append) (fun _ _ _ => Keeps.last) ?_ ?_ ?_ ?_ split reached keeps performed
  · exact fun _ _ _ => .refl (Nat.le_refl _)
  · intro run earlier middle operation next keeps performed extended last forward
    refine extended.trans (perform_extends last extended.height forward ?_)
    rintro rfl
    exact keeps.last middle performed
  · intro saving middle next extended restored
    rw [extended.restore] at restored
    cases restored
    exact State.SameBefore.extends rfl (Nat.le_refl _)
  · intro first second third below above
    exact below.trans (above.lower below.height)

/-- A return gives back the state at the save, but for the furthest failure. -/
theorem Orderly.restores {start : Run} {operations : List Operation}
    (orderly : start.Orderly operations) {before between after : List Operation} {run next : Run}
    (split : operations = before ++ .save :: (between ++ .restore run.saves.length :: after))
    (reached : start.performAll before = .ok run)
    (performed : run.saved.performAll between = .ok next) :
    next.perform (.restore run.saves.length) =
      .ok { next with state := { run.state with furthest := next.state.furthest } } := by
  have extended := orderly.extends split reached (orderly _ _ _ _ split reached) performed
  rw [perform, getElem?_saves performed]
  dsimp only
  rw [extended.restore]
  rfl

/-- What holds at the start, stays with every operation that is no return, and comes back with every
return, holds of all that orderly operations reach. -/
theorem Orderly.induction {start : Run} {operations : List Operation}
    (orderly : start.Orderly operations) {motive : List Operation → Run → Prop}
    (fresh : start.saves = []) (begins : motive [] start)
    (forward : ∀ done operation run next, motive done run → run.perform operation = .ok next →
      (∀ number, operation ≠ .restore number) → motive (done ++ [operation]) next)
    (returns : ∀ before between saving returning, motive before saving →
      motive (before ++ .save :: between) returning →
      motive (before ++ .save :: between ++ [.restore saving.saves.length])
        { returning with state := { saving.state with furthest := returning.state.furthest } })
    {done rest : List Operation} {run : Run} (split : operations = done ++ rest)
    (reached : start.performAll done = .ok run) : motive done run := by
  -- A return leads to the state at its save, which fewer operations reached.
  induction count : done.length using Nat.strongRecOn generalizing done rest run with
  | ind count ih =>
  rcases List.eq_nil_or_concat done with rfl | ⟨first, operation, rfl⟩
  · cases reached
    exact begins
  rw [List.concat_eq_append] at *
  rw [List.length_append, List.length_singleton] at count
  obtain ⟨middle, earlier, last⟩ := exists_performAll reached
  rw [performAll_singleton] at last
  rw [List.append_assoc] at split
  have held := ih first.length (by omega) split earlier rfl
  rcases operation.forward_or_return with isForward | ⟨number, rfl⟩
  · exact forward first operation middle run held last isForward
  obtain ⟨save, _, found, _, _⟩ := exists_of_restore last
  rcases exists_save earlier found with here | ⟨before, between, saving, rfl, reached', rfl, _⟩
  · rw [fresh] at here
    cases here
  obtain ⟨_, again, later⟩ := exists_performAll earlier
  obtain rfl := Except.ok.inj (reached'.symm.trans again)
  rw [List.length_append] at count
  have split' : operations = before ++ .save ::
      (between ++ .restore saving.saves.length :: rest) := by
    rw [split]
    simp only [List.append_assoc, List.cons_append, List.nil_append]
  have saved := ih before.length (by omega) split' reached' rfl
  obtain rfl := Except.ok.inj (last.symm.trans (orderly.restores split' reached' later))
  exact returns before between saving middle saved held

end Run

/-- What is followed along operations stores its value under the number of the save. -/
theorem foldl_saved {S V : Type} {follow : S → Operation → S} (saves : S → List V) (value : S → V)
    (stores : ∀ followed, saves (follow followed .save) = saves followed ++ [value followed])
    (keeps : ∀ followed operation, saves followed <+: saves (follow followed operation)) (followed : S)
    (between : List Operation) :
    (saves ((Operation.save :: between).foldl follow followed))[(saves followed).length]? =
      some (value followed) := by
  have stay (followed : S) (operations : List Operation) :
      saves followed <+: saves (operations.foldl follow followed) := by
    induction operations generalizing followed with
    | nil => exact List.prefix_rfl
    | cons operation operations ih => exact (keeps followed operation).trans (ih _)
  obtain ⟨more, same⟩ := stay (follow followed .save) between
  rw [List.foldl_cons, ← same, stores, List.append_assoc,
    List.getElem?_append_right (Nat.le_refl _), Nat.sub_self]
  rfl

end Reckon
