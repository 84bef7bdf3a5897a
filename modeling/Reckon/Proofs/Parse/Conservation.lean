/-
This file follows the tokens that operations consume. They are in the output or on the shift stack, each
of them once, whatever was undone before, and a node that a mark added stands for none of them.
-/

import Reckon.Proofs.Parse.Columns
import Reckon.Proofs.Parse.Language
import Reckon.Proofs.Parse.Position

namespace Reckon

open Text

/-- This tells of every output node whether a mark added it, and stores that at every save. -/
structure Origins where
  marked : List Bool
  saves : List (List Bool)
  deriving DecidableEq, Repr

namespace Origins

def start : Origins := ⟨[], []⟩

/-- This tells it of the output after an operation. -/
def follow (origins : Origins) : Operation → Origins
  | .push _ | .pop => { origins with marked := origins.marked ++ [false] }
  | .mark _ => { origins with marked := origins.marked ++ [true] }
  | .save => { origins with saves := origins.saves ++ [origins.marked] }
  | .restore number => { origins with marked := origins.saves.getD number origins.marked }
  | .shift _ | .report _ | .expect _ => origins

def followAll (origins : Origins) (operations : List Operation) : Origins :=
  operations.foldl follow origins

theorem followAll_append (origins : Origins) (first second : List Operation) :
    origins.followAll (first ++ second) = (origins.followAll first).followAll second :=
  List.foldl_append

/-- What is told at a save stays stored under the number of the save. -/
theorem followAll_saved (origins : Origins) (between : List Operation) :
    ((origins.followAll (.save :: between)).saves)[origins.saves.length]? = some origins.marked := by
  refine foldl_saved saves marked (fun _ => rfl) ?_ origins between
  intro origins operation
  cases operation with
  | save => exact List.prefix_append _ _
  | _ => exact List.prefix_rfl

end Origins

namespace State

variable {start state next : State} {final : Nat} {marked : List Bool}

/-- The significant tokens of a state end with its only end of input, at the given position. -/
structure EndsAt (state : State) (final : Nat) : Prop where
  inside : final < state.significant.size
  only : ∀ position handle, state.significant[position]? = some handle →
    (state.input.kind handle = .ok .endOfInput ↔ position = final)

/-- These are the handles of the output nodes that no mark added. -/
def unmarked (nodes : Array Record) (marked : List Bool) : List Handle :=
  ((nodes.toList.zip marked).filter fun node => !node.2).map fun node => node.1.handle

/-- A pushed node counts unless a mark added it. -/
theorem unmarked_push {nodes : Array Record} (marks : marked.length = nodes.size) (record : Record)
    (isMarked : Bool) : unmarked (nodes.push record) (marked ++ [isMarked]) =
      unmarked nodes marked ++ if isMarked then [] else [record.handle] := by
  have length : nodes.toList.length = marked.length := by rw [Array.length_toList, marks]
  rw [unmarked, unmarked, Array.toList_push, List.zip_append length, List.filter_append,
    List.map_append]
  cases isMarked <;> rfl

/-- These are the handles of the tokens that were consumed. -/
def consumed (state : State) (marked : List Bool) : List Handle :=
  unmarked state.nodes marked ++ state.stack.toList.map Record.handle

/-- A state conserves its tokens when the consumed ones are those before its position. -/
structure Conserves (start : State) (final : Nat) (marked : List Bool) (state : State) : Prop where
  input : state.input = start.input
  significant : state.significant = start.significant
  covers : state.Covers
  bounded : state.position ≤ final
  marks : marked.length = state.nodes.size
  tokens : (state.consumed marked).Perm (start.significant.toList.take state.position)

theorem conserves_ofBuffer (buffer : Buffer) (final : Nat) :
    Conserves (ofBuffer buffer) final [] (ofBuffer buffer) :=
  ⟨rfl, rfl, fun _ member => absurd member (Array.not_mem_empty _), Nat.zero_le _, rfl, .nil⟩

/-- The furthest failure does not matter to the tokens. -/
theorem Conserves.same {other : State} (conserves : Conserves start final marked state)
    (same : state.SameBefore other) : Conserves start final marked other := by
  rw [same]
  exact ⟨conserves.input, conserves.significant, conserves.covers, conserves.bounded, conserves.marks,
    conserves.tokens⟩

/-- The token that can be consumed is the one at the position, and it is not the last one. -/
theorem Conserves.consumable {handle : Handle} (conserves : Conserves start final marked state)
    (ends : start.EndsAt final) (found : state.consumable = .ok handle) :
    state.position < final ∧ start.significant.toList.take (state.position + 1) =
      start.significant.toList.take state.position ++ [handle] := by
  have inside := Nat.lt_of_le_of_lt conserves.bounded ends.inside
  have current : state.current = .ok handle ∧ state.input.kind handle ≠ .ok .endOfInput := by
    unfold State.consumable at found
    split at found
    · cases found
    · rename_i goesOn
      refine ⟨found, fun last => ?_⟩
      rw [atEnd, is, kind, found] at goesOn
      simp only [last] at goesOn
      cases goesOn
    · cases found
  have here : start.significant[state.position]? = some handle := by
    have place : min state.position (start.significant.size - 1) = state.position := by omega
    have at_ := current.1
    rw [State.current, handleAt, conserves.significant, place] at at_
    split at at_
    · cases at_
      assumption
    · cases at_
  have further : state.position ≠ final := by
    intro last
    rw [conserves.input] at current
    exact current.2 ((ends.only _ _ here).2 last)
  refine ⟨Nat.lt_of_le_of_ne conserves.bounded further, ?_⟩
  rw [List.take_add_one, Array.getElem?_toList, here]
  rfl

/-- A pushed token joins the consumed ones. -/
theorem Conserves.push {role : Role} {handle : Handle} (conserves : Conserves start final marked state)
    (ends : start.EndsAt final) (pushed : state.push role = .ok (handle, next)) :
    Conserves start final (marked ++ [false]) next := by
  obtain ⟨covers, moved⟩ := conserves.covers.push pushed
  obtain ⟨_, found, same⟩ := Parser.exists_of_map_ok pushed
  obtain ⟨before, taken⟩ := conserves.consumable ends found
  cases same
  refine ⟨conserves.input, conserves.significant, covers, by omega, by simp [conserves.marks], ?_⟩
  rw [moved, taken, consumed, unmarked_push conserves.marks, if_neg Bool.false_ne_true,
    List.append_assoc]
  -- The new handle stands before the stack, and its token comes after those of the stack.
  refine (List.perm_append_comm.append_left _).trans ?_
  rw [← List.append_assoc]
  exact conserves.tokens.append_right [handle]

/-- A shifted token joins the consumed ones. -/
theorem Conserves.shift {role : Role} {handle : Handle} (conserves : Conserves start final marked state)
    (ends : start.EndsAt final) (shifted : state.shift role = .ok (handle, next)) :
    Conserves start final marked next := by
  obtain ⟨covers, moved⟩ := conserves.covers.shift shifted
  obtain ⟨_, found, same⟩ := Parser.exists_of_map_ok shifted
  obtain ⟨before, taken⟩ := conserves.consumable ends found
  cases same
  refine ⟨conserves.input, conserves.significant, covers, by omega, conserves.marks, ?_⟩
  rw [moved, taken, consumed, Array.toList_push, List.map_append, ← List.append_assoc]
  exact conserves.tokens.append_right [handle]

/-- The entry that moves to the output keeps its token. -/
theorem Conserves.pop (conserves : Conserves start final marked state)
    (popped : state.pop = .ok next) : Conserves start final (marked ++ [false]) next := by
  obtain ⟨covers, kept⟩ := conserves.covers.pop popped
  rw [State.pop] at popped
  split at popped
  · rename_i top found
    cases popped
    refine ⟨conserves.input, conserves.significant, covers, by rw [kept]; exact conserves.bounded,
      by simp [conserves.marks], ?_⟩
    have stack : state.stack.toList = state.stack.pop.toList ++ [top] := by
      rw [Array.toList_pop]
      exact (List.dropLast_append_getLast? top (by rw [Array.getLast?_toList, found]; rfl)).symm
    have tokens := conserves.tokens
    rw [consumed, stack, List.map_append] at tokens
    rw [kept, consumed, unmarked_push conserves.marks, if_neg Bool.false_ne_true, List.append_assoc]
    exact (List.perm_append_comm.append_left _).trans tokens
  · cases popped

/-- A mark stands for no token. -/
theorem Conserves.mark {role : Role} (conserves : Conserves start final marked state)
    (added : state.mark role = .ok next) : Conserves start final (marked ++ [true]) next := by
  obtain ⟨covers, kept⟩ := conserves.covers.mark added
  obtain ⟨_, _, same⟩ := Parser.exists_of_map_ok added
  cases same
  refine ⟨conserves.input, conserves.significant, covers, by rw [kept]; exact conserves.bounded,
    by simp [conserves.marks], ?_⟩
  rw [kept, consumed, unmarked_push conserves.marks, if_pos rfl, List.append_nil]
  exact conserves.tokens

end State

namespace Run

variable {start : State} {final : Nat}

/-- A run is conservative when its state conserves its tokens, and its saves are those that the origins
store. -/
structure Conservative (start : State) (final : Nat) (origins : Origins) (run : Run) : Prop where
  state : State.Conserves start final origins.marked run.state
  saves : run.saves.length = origins.saves.length

/-- An operation that is no return conserves the tokens. -/
theorem Conservative.perform {run next : Run} {origins : Origins} {operation : Operation}
    (conservative : run.Conservative start final origins) (ends : start.EndsAt final)
    (performed : run.perform operation = .ok next) (forward : ∀ number, operation ≠ .restore number) :
    next.Conservative start final (origins.follow operation) := by
  obtain ⟨conserves, saves⟩ := conservative
  cases operation with
  | push role =>
      obtain ⟨_, pushed, rfl⟩ := Parser.exists_of_map_ok performed
      exact ⟨conserves.push ends pushed, saves⟩
  | shift role =>
      obtain ⟨_, shifted, rfl⟩ := Parser.exists_of_map_ok performed
      exact ⟨conserves.shift ends shifted, saves⟩
  | pop =>
      obtain ⟨_, popped, rfl⟩ := Parser.exists_of_map_ok performed
      exact ⟨conserves.pop popped, saves⟩
  | mark role =>
      obtain ⟨_, marked, rfl⟩ := Parser.exists_of_map_ok performed
      exact ⟨conserves.mark marked, saves⟩
  | report report =>
      cases performed
      exact ⟨⟨conserves.input, conserves.significant, conserves.covers, conserves.bounded,
        conserves.marks, conserves.tokens⟩, saves⟩
  | expect what =>
      cases performed
      exact ⟨conserves.same (.expect run.state what), saves⟩
  | save =>
      cases performed
      refine ⟨conserves, ?_⟩
      simp [saved, Origins.follow, saves]
  | restore number => exact absurd rfl (forward number)

/-- Orderly operations conserve the tokens, the returns among them included. -/
theorem Orderly.conservative {buffer : Buffer} {operations : List Operation}
    (orderly : (Run.start buffer).Orderly operations) (ends : (State.ofBuffer buffer).EndsAt final)
    {done rest : List Operation} {run : Run} (split : operations = done ++ rest)
    (reached : (Run.start buffer).performAll done = .ok run) :
    run.Conservative (.ofBuffer buffer) final (Origins.start.followAll done) := by
  refine orderly.induction (motive := fun done run =>
    run.Conservative (.ofBuffer buffer) final (Origins.start.followAll done)) rfl
    ⟨State.conserves_ofBuffer buffer final, rfl⟩ ?_ ?_ split reached
  · intro done operation run next conservative performed forward
    rw [Origins.followAll_append]
    exact conservative.perform ends performed forward
  · intro before between saving returning saved conservative
    have stored := (Origins.start.followAll before).followAll_saved between
    rw [← Origins.followAll_append, ← saved.saves] at stored
    rw [Origins.followAll_append _ (before ++ _)]
    refine ⟨?_, conservative.saves⟩
    change State.Conserves _ _ (List.getD _ _ _) _
    rw [List.getD_eq_getElem?_getD, stored]
    exact saved.state.same rfl

end Run

/-- The significant tokens of a text end with its only end of input. -/
theorem Buffer.StartsBefore.endsAt {buffer : Buffer} {body : List Token} {final : Token}
    (starts : buffer.StartsBefore body final) : (State.ofBuffer buffer).EndsAt body.length := by
  have size := starts.facing.position_add
  rw [List.length_append, List.length_singleton] at size
  change 0 + _ = _ at size
  refine ⟨by omega, fun position handle found => ?_⟩
  have ahead := starts.facing.ahead
  change List.Forall₂ _ (List.drop 0 _) _ at ahead
  rw [List.drop_zero] at ahead
  rw [← Array.getElem?_toList] at found
  obtain ⟨inside, here⟩ := List.getElem?_eq_some_iff.1 found
  have inside' : position < (body ++ [final]).length := by
    rw [← ahead.length_eq]
    exact inside
  have token := List.forall₂_iff_get.1 ahead |>.2 position inside inside'
  rw [List.get_eq_getElem, here, List.get_eq_getElem] at token
  rw [Buffer.kind_of_token token, Except.ok.injEq]
  rw [List.length_append, List.length_singleton] at inside'
  by_cases last : position = body.length
  · subst last
    simp [starts.ends]
  · have before : position < body.length := by omega
    rw [List.getElem_append_left before]
    exact iff_of_false (starts.others _ (List.getElem_mem before)) last

/-- No significant token stands twice. -/
theorem State.significant_nodup (buffer : Buffer) :
    (State.ofBuffer buffer).significant.toList.Nodup := by
  rw [State.significant_ofBuffer]
  exact List.nodup_range.filter _

/-- While operations are orderly, the handles of the output nodes that no mark added and of the entries of
the shift stack are those of the significant tokens before the position, each of them once. The
position never passes the end of input. When the roles, the handles and the positions of the nodes are laid
out in columns, the operations leave the columns equally long, one entry for every node. -/
theorem tokens_conserved (source : Bytes) (operations : List Operation)
    (orderly : (Run.start (Reading.ofBytes source).buffer).Orderly operations) :
    ∃ final, (State.ofBuffer (Reading.ofBytes source).buffer).EndsAt final ∧
      ∀ done rest run, operations = done ++ rest →
        (Run.start (Reading.ofBytes source).buffer).performAll done = .ok run →
        let marked := (Origins.start.followAll done).marked
        let significant := (State.ofBuffer (Reading.ofBytes source).buffer).significant
        (∃ layout, (Layout.start (Reading.ofBytes source).buffer).performAll done = .ok layout ∧
          layout.Shows run ∧
          layout.columns.roles.size = marked.length ∧
          layout.columns.handles.size = marked.length ∧
          layout.columns.positions.size = marked.length ∧
          layout.columns.outline = .ok run.state.outline) ∧
        run.state.position ≤ final ∧
        (run.state.consumed marked).Perm (significant.toList.take run.state.position) ∧
        (run.state.consumed marked).Nodup := by
  obtain ⟨segments, tail, misreadings, cut⟩ := exists_cut .start source.glyphs
  obtain ⟨body, final, _, starts⟩ := cut.startsBefore
  refine ⟨body.length, starts.endsAt, ?_⟩
  intro done rest run split reached marked significant
  obtain ⟨conserves, _⟩ := orderly.conservative starts.endsAt split reached
  have counted : run.state.nodes.size = marked.length := conserves.marks.symm
  obtain ⟨layout, laid, shows⟩ := Layout.performAll_shows reached
  refine ⟨⟨layout, laid, shows, ?_, ?_, ?_, shows.columns.outline⟩, conserves.bounded, conserves.tokens, ?_⟩
  · rw [shows.columns.roles, Array.size_map, counted]
  · rw [shows.columns.handles, Array.size_map, counted]
  · rw [shows.columns.positions, Array.size_map, counted]
  · refine conserves.tokens.nodup_iff.2 ?_
    exact (State.significant_nodup _).sublist (List.take_sublist _ _)

/-- These operations consume a bracket and a name with a comment between them. The name is consumed again
after a return, and the bracket moves to the output behind a mark. -/
def nestedNameOperations : List Operation :=
  [.shift .atomBegin, .save, .push .nameUse, .restore 0, .push .nameUse, .mark .application, .pop]

/-- The name and the bracket are in the output, and the mark stands for neither of them. Each column has an
entry for the mark as well. -/
theorem nestedName_conserved :
    let source : Bytes := encode "( -- it\nx"
    (Run.start (Reading.ofBytes source).buffer).Orderly nestedNameOperations ∧
    ∃ run, (Run.start (Reading.ofBytes source).buffer).performAll nestedNameOperations = .ok run ∧
      (run.state.consumed [false, true, false]).Perm
        ((State.ofBuffer (Reading.ofBytes source).buffer).significant.toList.take run.state.position) ∧
      (run.state.consumed [false, true, false]).Nodup ∧
      ∃ layout, (Layout.start (Reading.ofBytes source).buffer).performAll nestedNameOperations = .ok layout ∧
        layout.columns.roles.size = 3 ∧ layout.columns.handles.size = 3 ∧
        layout.columns.positions.size = 3 := by
  intro source
  have orderly : (Run.start (Reading.ofBytes source).buffer).Orderly nestedNameOperations := by
    decide +kernel
  refine ⟨orderly, ?_⟩
  obtain ⟨final, _, conserved⟩ := tokens_conserved source nestedNameOperations orderly
  cases reached : (Run.start (Reading.ofBytes source).buffer).performAll nestedNameOperations with
  | ok run =>
      obtain ⟨⟨layout, laid, _, roles, handles, positions, _⟩, _, tokens, once⟩ :=
        conserved nestedNameOperations [] run (List.append_nil _).symm reached
      exact ⟨run, rfl, tokens, once, layout, laid, roles, handles, positions⟩
  | error fault =>
      have performs : ((Run.start (Reading.ofBytes source).buffer).performAll
          nestedNameOperations).isOk = true := by decide +kernel
      rw [reached] at performs
      cases performs

end Reckon
