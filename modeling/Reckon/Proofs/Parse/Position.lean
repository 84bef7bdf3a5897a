/-
This file compares the position of a state, which is read off its records, with a counter that every
state and every save stores. The records of the stack never lie beyond the position, so an entry that
moves to the output does not move the position.
-/

import Reckon.Proofs.Parse.Facing
import Reckon.Proofs.Parse.Operations

namespace Reckon

/-- A tally counts the tokens that operations consume, and it stores the count at every save. -/
structure Tally where
  position : Nat
  saves : List Nat
  deriving DecidableEq, Repr

namespace Tally

def start : Tally := ⟨0, []⟩

/-- This counts an operation. -/
def follow (tally : Tally) : Operation → Tally
  | .push _ | .shift _ => { tally with position := tally.position + 1 }
  | .save => { tally with saves := tally.saves ++ [tally.position] }
  | .restore number => { tally with position := tally.saves.getD number tally.position }
  | .pop | .mark _ | .report _ | .expect _ => tally

def followAll (tally : Tally) (operations : List Operation) : Tally := operations.foldl follow tally

theorem followAll_append (tally : Tally) (first second : List Operation) :
    tally.followAll (first ++ second) = (tally.followAll first).followAll second :=
  List.foldl_append

/-- The count at a save stays stored under the number of the save. -/
theorem followAll_saved (tally : Tally) (between : List Operation) :
    ((tally.followAll (.save :: between)).saves)[tally.saves.length]? = some tally.position := by
  refine foldl_saved saves position (fun _ => rfl) ?_ tally between
  intro tally operation
  cases operation with
  | save => exact List.prefix_append _ _
  | _ => exact List.prefix_rfl

end Tally

namespace State

variable {state next : State} {role : Role} {handle : Handle}

/-- A state covers its stack when no entry lies beyond the position. -/
def Covers (state : State) : Prop := ∀ record ∈ state.stack, record.position ≤ state.position

/-- The last position is below what all positions are below. -/
theorem lastPosition_le {records : Array Record} {bound : Nat}
    (below : ∀ record ∈ records, record.position ≤ bound) : lastPosition records ≤ bound := by
  rw [lastPosition]
  split
  · exact below _ (Array.mem_of_back? ‹_›)
  · exact Nat.zero_le _

/-- A record that is put on the stack decides the position unless it goes back. -/
theorem position_shift (state : State) (record : Record) (further : state.position ≤ record.position) :
    ({ state with stack := state.stack.push record } : State).position = record.position := by
  have nodes : lastPosition state.nodes ≤ state.position := Nat.le_max_left _ _
  simp only [position, lastPosition, Array.back?_push] at nodes further ⊢
  omega

/-- A pushed token takes the position one further. -/
theorem Covers.push (covers : state.Covers) (pushed : state.push role = .ok (handle, next)) :
    next.Covers ∧ next.position = state.position + 1 := by
  obtain ⟨_, _, same⟩ := Parser.exists_of_map_ok pushed
  cases same
  have moved := position_push state ⟨role, handle, state.position + 1⟩ (Nat.le_succ _)
  refine ⟨?_, moved⟩
  intro record member
  rw [moved]
  exact Nat.le_succ_of_le (covers record member)

/-- A shifted token takes the position one further. -/
theorem Covers.shift (covers : state.Covers) (shifted : state.shift role = .ok (handle, next)) :
    next.Covers ∧ next.position = state.position + 1 := by
  obtain ⟨_, _, same⟩ := Parser.exists_of_map_ok shifted
  cases same
  have moved := position_shift state ⟨role, handle, state.position + 1⟩ (Nat.le_succ _)
  refine ⟨?_, moved⟩
  intro record member
  rw [moved]
  rcases Array.mem_push.1 member with old | rfl
  · exact Nat.le_succ_of_le (covers record old)
  · exact Nat.le_refl _

/-- The entry that moves to the output takes the position along. -/
theorem Covers.pop (covers : state.Covers) (popped : state.pop = .ok next) :
    next.Covers ∧ next.position = state.position := by
  rw [State.pop] at popped
  split at popped
  · rename_i top found
    cases popped
    have below : ∀ record ∈ state.stack.pop, record.position ≤ state.position := by
      intro record member
      rw [← Array.mem_toList_iff, Array.toList_pop] at member
      exact covers record (Array.mem_toList_iff.1 (List.dropLast_subset _ member))
    have moved : ({ state with
        nodes := state.nodes.push { top with position := state.position }
        stack := state.stack.pop } : State).position = state.position := by
      have stack := lastPosition_le below
      rw [State.position, lastPosition, Array.back?_push]
      exact Nat.max_eq_left stack
    refine ⟨?_, moved⟩
    intro record member
    rw [moved]
    exact below record member
  · cases popped

/-- A mark leaves the position where it is. -/
theorem Covers.mark (covers : state.Covers) (marked : state.mark role = .ok next) :
    next.Covers ∧ next.position = state.position := by
  obtain ⟨handle, _, same⟩ := Parser.exists_of_map_ok marked
  cases same
  have kept := position_push state ⟨role, handle, state.position⟩ (Nat.le_refl _)
  refine ⟨?_, kept⟩
  intro record member
  rw [kept]
  exact covers record member

/-- The furthest failure does not matter to the stack. -/
theorem SameBefore.covers {before after : State} (same : before.SameBefore after)
    (covers : before.Covers) : after.Covers := by
  rw [same]
  exact covers

end State

namespace Run

/-- A run is tallied when its position and the number of its saves are counted right. -/
structure Tallied (run : Run) (tally : Tally) : Prop where
  position : run.state.position = tally.position
  saves : run.saves.length = tally.saves.length
  covers : run.state.Covers

theorem tallied_start (buffer : Buffer) : (Run.start buffer).Tallied Tally.start :=
  ⟨rfl, rfl, fun _ member => absurd member (Array.not_mem_empty _)⟩

/-- An operation that is no return is counted. -/
theorem Tallied.perform {run next : Run} {tally : Tally} {operation : Operation}
    (tallied : run.Tallied tally) (performed : run.perform operation = .ok next)
    (forward : ∀ number, operation ≠ .restore number) : next.Tallied (tally.follow operation) := by
  obtain ⟨position, saves, covers⟩ := tallied
  cases operation with
  | push role =>
      obtain ⟨⟨handle, state⟩, pushed, rfl⟩ := Parser.exists_of_map_ok performed
      obtain ⟨covers', moved⟩ := covers.push pushed
      exact ⟨moved.trans (congrArg (· + 1) position), saves, covers'⟩
  | shift role =>
      obtain ⟨⟨handle, state⟩, shifted, rfl⟩ := Parser.exists_of_map_ok performed
      obtain ⟨covers', moved⟩ := covers.shift shifted
      exact ⟨moved.trans (congrArg (· + 1) position), saves, covers'⟩
  | pop =>
      obtain ⟨state, popped, rfl⟩ := Parser.exists_of_map_ok performed
      obtain ⟨covers', kept⟩ := covers.pop popped
      exact ⟨kept.trans position, saves, covers'⟩
  | mark role =>
      obtain ⟨state, marked, rfl⟩ := Parser.exists_of_map_ok performed
      obtain ⟨covers', kept⟩ := covers.mark marked
      exact ⟨kept.trans position, saves, covers'⟩
  | report report =>
      cases performed
      exact ⟨position, saves, covers⟩
  | expect what =>
      cases performed
      have same := State.SameBefore.expect run.state what
      exact ⟨same.position.trans position, saves, same.covers covers⟩
  | save =>
      cases performed
      refine ⟨position, ?_, covers⟩
      simp [saved, Tally.follow, saves]
  | restore number => exact absurd rfl (forward number)

/-- Orderly operations are counted, the returns among them included. -/
theorem Orderly.tallied {buffer : Buffer} {operations : List Operation}
    (orderly : (Run.start buffer).Orderly operations) {done rest : List Operation} {run : Run}
    (split : operations = done ++ rest) (reached : (Run.start buffer).performAll done = .ok run) :
    run.Tallied (Tally.start.followAll done) := by
  refine orderly.induction (motive := fun done run => run.Tallied (Tally.start.followAll done)) rfl
    (tallied_start buffer) ?_ ?_ split reached
  · intro done operation run next tallied performed forward
    rw [Tally.followAll_append]
    exact tallied.perform performed forward
  · intro before between saving returning saved tallied
    have stored := (Tally.start.followAll before).followAll_saved between
    rw [← Tally.followAll_append, ← saved.saves] at stored
    rw [Tally.followAll_append _ (before ++ _)]
    refine ⟨?_, tallied.saves, saved.covers⟩
    change saving.state.position = List.getD _ _ _
    rw [List.getD_eq_getElem?_getD, stored]
    exact saved.position

end Run

/-- While operations are orderly, the position of the state is the one that the tally counts, and a
return gives back the output, the stack and the reports of its save. -/
theorem position_tallied (buffer : Buffer) (operations : List Operation)
    (orderly : (Run.start buffer).Orderly operations) :
    (∀ done rest run, operations = done ++ rest → (Run.start buffer).performAll done = .ok run →
      run.state.position = (Tally.start.followAll done).position) ∧
    (∀ before between rest saving returning,
      operations = before ++ .save :: (between ++ .restore saving.saves.length :: rest) →
      (Run.start buffer).performAll before = .ok saving →
      saving.performAll (.save :: between) = .ok returning →
      ∃ returned, returning.perform (.restore saving.saves.length) = .ok returned ∧
        returned.state.nodes = saving.state.nodes ∧ returned.state.stack = saving.state.stack ∧
        returned.state.reports = saving.state.reports) := by
  constructor
  · intro done rest run split reached
    exact (orderly.tallied split reached).position
  · intro before between rest saving returning split reached performed
    exact ⟨_, orderly.restores split reached performed, rfl, rfl, rfl⟩

/-- These operations shift two brackets, return to each save once, and pop one bracket in between. -/
def bracketOperations : List Operation :=
  [.save, .shift .atomBegin, .save, .push .nameUse, .expect "Ident", .restore 1, .shift .atomBegin,
    .pop, .mark .application, .restore 0, .push .nameUse]

/-- The position after the operations is the one after the only token that they consume for good. -/
theorem bracketOperations_tallied : (Run.start openNest.input).Orderly bracketOperations ∧
    ∃ run, (Run.start openNest.input).performAll bracketOperations = .ok run ∧
      run.state.position = 1 := by
  have orderly : (Run.start openNest.input).Orderly bracketOperations := by decide +kernel
  refine ⟨orderly, ?_⟩
  cases reached : (Run.start openNest.input).performAll bracketOperations with
  | ok run =>
      have counted := (position_tallied openNest.input bracketOperations orderly).1 bracketOperations []
        run (List.append_nil _).symm reached
      exact ⟨run, rfl, counted.trans (by decide)⟩
  | error fault =>
      have performs : ((Run.start openNest.input).performAll bracketOperations).isOk = true := by
        decide +kernel
      rw [reached] at performs
      cases performs

end Reckon
