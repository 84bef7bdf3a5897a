/-
This file shows what a return does after an entry that was on the stack at its save was popped. The return is
refused only while the stack is lower than at the save. Where other entries have taken the places of those
that were popped, the parse goes on with them, beyond the position of the save.
-/

import Mathlib.Data.List.Induction
import Reckon.Proofs.Parse.Position

namespace Reckon

open Text

namespace State

variable {state next saving : State} {role : Role} {handle : Handle}

/-- This is a state after a return to an earlier one whose stack was no higher. -/
def returned (saving state : State) : State :=
  { state with
    nodes := saving.nodes
    stack := state.stack.shrink saving.stack.size
    reports := saving.reports }

theorem restore_lower (lower : state.stack.size < saving.stack.size) :
    state.restore saving.save = .error .restoredPastPop := if_pos lower

/-- Where the stack is not lower, a return is not refused for a popped entry. -/
theorem restore_tall {save : Save} (tall : save.stack ≤ state.stack.size) :
    state.restore save ≠ .error .restoredPastPop := by
  intro refused
  have cut {A : Type} {items : Array A} {size : Nat} (fails : cutTo items size = .error .restoredPastPop) :
      False := by
    rw [cutTo] at fails
    split at fails <;> cases fails
  rw [State.restore, if_neg (Nat.not_lt.2 tall)] at refused
  rcases Parser.error_of_bind_error refused with fails | ⟨nodes, refused⟩
  · exact cut fails
  rcases Parser.error_of_bind_error refused with fails | ⟨stack, refused⟩
  · exact cut fails
  rcases Parser.error_of_bind_error refused with fails | ⟨reports, refused⟩
  · exact cut fails
  · cases refused

/-- A return from a state that is no lower gives the earlier state with the later furthest failure. -/
theorem Extends.restore_returned (extended : Extends 0 saving state)
    (tall : saving.stack.size ≤ state.stack.size) :
    state.restore saving.save = .ok (saving.returned state) := by
  rw [State.restore, save, if_neg (Nat.not_lt.2 tall)]
  simp only [cutTo_longer extended.nodes, cutTo_inside tall, cutTo_longer extended.reports]
  rfl

/-- A state after a return extends the earlier one. -/
theorem Extends.returned (extended : Extends 0 saving state) : Extends 0 saving (saving.returned state) where
  input := extended.input
  significant := extended.significant
  nodes := List.prefix_rfl
  stack := List.nil_prefix
  height := Nat.zero_le _
  reports := List.prefix_rfl

/-- The stack of a state rises when every entry lies beyond those below it. -/
def Rising (state : State) : Prop := state.stack.toList.Pairwise (·.position < ·.position)

theorem Rising.sublist {lower : State} (rising : state.Rising)
    (fewer : lower.stack.toList.Sublist state.stack.toList) : lower.Rising :=
  List.Pairwise.sublist fewer rising

/-- The entry on top of a stack that rises lies beyond all the others. -/
theorem Rising.le_lastPosition (rising : state.Rising) {record : Record} (member : record ∈ state.stack) :
    record.position ≤ lastPosition state.stack := by
  obtain ⟨input, significant, nodes, ⟨list⟩, reports, furthest⟩ := state
  rw [List.mem_toArray] at member
  rcases List.eq_nil_or_concat list with rfl | ⟨below, top, rfl⟩
  · simp at member
  · rw [List.concat_eq_append] at *
    have last : lastPosition (below ++ [top]).toArray = top.position := by simp [lastPosition]
    show record.position ≤ lastPosition (below ++ [top]).toArray
    rw [last]
    rcases List.mem_append.1 member with inside | here
    · exact Nat.le_of_lt ((List.pairwise_append.1 rising).2.2 record inside top (by simp))
    · exact Nat.le_of_eq (congrArg Record.position (List.mem_singleton.1 here))

theorem Rising.le_position (rising : state.Rising) {record : Record} (member : record ∈ state.stack) :
    record.position ≤ state.position :=
  Nat.le_trans (rising.le_lastPosition member) (Nat.le_max_right _ _)

theorem Rising.covers (rising : state.Rising) : state.Covers := fun _ member => rising.le_position member

/-- A state is past an earlier one when all that was added to the stack lies beyond the position that the
parse had there. Where the stack is lower, the output has come as far. -/
structure Past (saving state : State) : Prop where
  extended : Extends 0 saving state
  rising : state.Rising
  nodes : lastPosition saving.nodes ≤ lastPosition state.nodes
  position : saving.position ≤ state.position
  lowered : state.stack.size < saving.stack.size → saving.position ≤ lastPosition state.nodes
  entries : ∀ (index : Nat) (record : Record), state.stack[index]? = some record →
    saving.stack[index]? = some record ∨ saving.position < record.position

theorem Rising.same (rising : state.Rising) (same : state.SameBefore next) : state.Past next := by
  have extended := same.extends (Nat.zero_le _)
  rw [same]
  rw [same] at extended
  exact ⟨extended, rising, Nat.le_refl _, Nat.le_refl _, fun lower => absurd lower (Nat.lt_irrefl _),
    fun _ _ => .inl⟩

theorem Rising.refl (rising : state.Rising) : state.Past state := rising.same (.refl state)

/-- A node at the end of the output notes a position that is no earlier. -/
theorem Rising.node (rising : state.Rising) {record : Record} (further : state.position ≤ record.position) :
    state.Past { state with nodes := state.nodes.push record } where
  extended := { Extends.refl (Nat.zero_le _) with nodes := by simp }
  rising := rising
  nodes := by
    have far : lastPosition state.nodes ≤ state.position := Nat.le_max_left _ _
    simp only [lastPosition, Array.back?_push] at far ⊢
    omega
  position := by
    rw [position_push state record further]
    exact further
  lowered := fun lower => absurd lower (Nat.lt_irrefl _)
  entries := fun _ _ => .inl

/-- A pushed token takes the state past where it was. -/
theorem Rising.push (rising : state.Rising) (pushed : state.push role = .ok (handle, next)) :
    state.Past next := by
  obtain ⟨_, _, same⟩ := Parser.exists_of_map_ok pushed
  cases same
  apply rising.node
  exact Nat.le_succ _

/-- A mark takes the state past where it was. -/
theorem Rising.mark (rising : state.Rising) (marked : state.mark role = .ok next) : state.Past next := by
  obtain ⟨_, _, same⟩ := Parser.exists_of_map_ok marked
  cases same
  apply rising.node
  exact Nat.le_refl _

/-- A shifted token lies beyond the entries beneath it. -/
theorem Rising.shift (rising : state.Rising) (shifted : state.shift role = .ok (handle, next)) :
    state.Past next := by
  have extended := extends_shift shifted (Nat.zero_le _)
  obtain ⟨_, moved⟩ := rising.covers.shift shifted
  obtain ⟨_, _, same⟩ := Parser.exists_of_map_ok shifted
  cases same
  refine ⟨extended, ?_, Nat.le_refl _, ?_, ?_, ?_⟩
  · show (state.stack.push _).toList.Pairwise _
    rw [Array.toList_push]
    apply List.pairwise_append.2
    refine ⟨rising, List.pairwise_singleton _ _, ?_⟩
    intro record member top here
    rw [List.mem_singleton.1 here]
    exact Nat.lt_succ_of_le (rising.le_position (Array.mem_toList_iff.1 member))
  · rw [moved]
    exact Nat.le_succ _
  · intro lower
    simp only [Array.size_push] at lower
    omega
  · intro index record found
    simp only [Array.getElem?_push] at found
    split at found
    · cases found
      exact .inr (Nat.lt_succ_self _)
    · exact .inl found

/-- The entry that moves to the output brings it to the position of the parse. -/
theorem Rising.pop (rising : state.Rising) (popped : state.pop = .ok next) : state.Past next := by
  obtain ⟨_, kept⟩ := rising.covers.pop popped
  rw [State.pop] at popped
  split at popped
  · rename_i top found
    cases popped
    have noted : state.Past
        { state with nodes := state.nodes.push { top with position := state.position } } :=
      rising.node (Nat.le_refl _)
    refine ⟨{ noted.extended with stack := List.nil_prefix, height := Nat.zero_le _ }, ?_, noted.nodes,
      ?_, ?_, ?_⟩
    · apply rising.sublist
      show state.stack.pop.toList.Sublist _
      rw [Array.toList_pop]
      exact List.dropLast_sublist _
    · exact Nat.le_of_eq kept.symm
    · intro _
      simp [lastPosition]
    · intro index record here
      simp only [Array.getElem?_pop] at here
      split at here
      · exact .inl here
      · cases here
  · cases popped

theorem Past.trans {middle : State} (before : saving.Past middle) (after : middle.Past state) :
    saving.Past state where
  extended := before.extended.trans after.extended
  rising := after.rising
  nodes := Nat.le_trans before.nodes after.nodes
  position := Nat.le_trans before.position after.position
  lowered := by
    intro lower
    by_cases falls : state.stack.size < middle.stack.size
    · exact Nat.le_trans before.position (after.lowered falls)
    · exact Nat.le_trans (before.lowered (by omega)) after.nodes
  entries := by
    intro index record found
    rcases after.entries index record found with old | fresh
    · exact before.entries index record old
    · exact .inr (Nat.lt_of_le_of_lt before.position fresh)

/-- A record of the stack stays at its place when the stack is cut above it. -/
theorem getElem?_shrink {records : Array Record} {size index : Nat} {record : Record} :
    (records.shrink size)[index]? = some record ↔ index < size ∧ records[index]? = some record := by
  rw [← Array.getElem?_toList, Array.toList_shrink, List.getElem?_take, Array.getElem?_toList]
  split <;> rename_i inside <;> simp [inside]

/-- A return brings the stack back to its height. -/
theorem size_returned (tall : saving.stack.size ≤ state.stack.size) :
    (saving.returned state).stack.size = saving.stack.size := by
  show (state.stack.shrink _).size = _
  simp [tall]

/-- The stack still rises after a return. -/
theorem Rising.returned (rising : state.Rising) (saving : State) : (saving.returned state).Rising := by
  apply rising.sublist
  show (state.stack.shrink _).toList.Sublist _
  rw [Array.toList_shrink]
  exact List.take_sublist _ _

/-- An entry that is left by a return lies no further than the position. -/
theorem Rising.le_returned (rising : state.Rising) {index : Nat} {record : Record}
    (inside : index < saving.stack.size) (found : state.stack[index]? = some record) :
    record.position ≤ (saving.returned state).position := by
  apply (rising.returned saving).le_position
  exact Array.mem_of_getElem? (getElem?_shrink.2 ⟨inside, found⟩)

/-- A return leads to a state that is past the save. -/
theorem Past.returned (past : saving.Past state) (tall : saving.stack.size ≤ state.stack.size) :
    saving.Past (saving.returned state) := by
  have size := size_returned tall
  refine ⟨past.extended.returned, past.rising.returned saving, Nat.le_refl _, ?_, ?_, ?_⟩
  · -- The entry at the height of the save is still there, or a later one has taken its place.
    rw [State.position]
    apply Nat.max_le.2
    refine ⟨Nat.le_max_left _ _, ?_⟩
    rw [lastPosition]
    split
    · rename_i top found
      rw [Array.back?_eq_getElem?] at found
      have inside : saving.stack.size - 1 < saving.stack.size := (Array.getElem?_eq_some_iff.1 found).1
      have there := Array.getElem?_eq_getElem (Nat.lt_of_lt_of_le inside tall)
      have left := past.rising.le_returned inside there
      rcases past.entries _ _ there with old | fresh
      · rw [old] at found
        cases found
        exact left
      · have far : lastPosition saving.stack ≤ saving.position := Nat.le_max_right _ _
        rw [lastPosition, Array.back?_eq_getElem?, found] at far
        exact Nat.le_trans far (Nat.le_trans (Nat.le_of_lt fresh) left)
    · exact Nat.zero_le _
  · intro lower
    omega
  · intro index record found
    exact past.entries index record (getElem?_shrink.1 found).2

/-- A return to an older save stays past it. -/
theorem Past.restore (past : saving.Past state) (restored : state.restore saving.save = .ok next) :
    saving.Past next := by
  by_cases lower : state.stack.size < saving.stack.size
  · rw [restore_lower lower] at restored
    cases restored
  · rw [past.extended.restore_returned (Nat.not_lt.1 lower)] at restored
    cases restored
    exact past.returned (Nat.not_lt.1 lower)

/-- A return cuts the stack to its size at the save. -/
theorem stack_restore {save : Save} (restored : state.restore save = .ok next) :
    next.stack = state.stack.shrink save.stack := by
  rw [State.restore] at restored
  split at restored
  · cases restored
  · rename_i tall
    obtain ⟨nodes, _, restored⟩ := Parser.exists_of_bind_ok restored
    obtain ⟨stack, cut, restored⟩ := Parser.exists_of_bind_ok restored
    obtain ⟨reports, _, restored⟩ := Parser.exists_of_bind_ok restored
    rw [cutTo_inside (Nat.not_lt.1 tall)] at cut
    cases cut
    cases restored
    rfl

/-- The stack is renewed from a height on when all entries from there on lie beyond an earlier position. -/
def Renewed (height : Nat) (saving state : State) : Prop :=
  ∀ (index : Nat) (record : Record), height ≤ index → state.stack[index]? = some record →
    saving.position < record.position

/-- After a pop, nothing is left from the height of the popped entry on. -/
theorem renewed_pop (popped : state.pop = .ok next) (saving : State) :
    Renewed (state.stack.size - 1) saving next := by
  rw [State.pop] at popped
  split at popped
  · cases popped
    intro index record high found
    have below := (Array.getElem?_eq_some_iff.1 found).1
    simp only [Array.size_pop] at below
    omega
  · cases popped

/-- A renewed stack stays renewed as the parse goes on. -/
theorem Renewed.past {height : Nat} (renewed : Renewed height saving state)
    (further : saving.position ≤ state.position) (past : state.Past next) : Renewed height saving next := by
  intro index record high found
  rcases past.entries index record found with old | fresh
  · exact renewed index record high old
  · exact Nat.lt_of_le_of_lt further fresh

/-- A return keeps the stack renewed from the same height on. -/
theorem Renewed.restore {height : Nat} {save : Save} (renewed : Renewed height saving state)
    (restored : state.restore save = .ok next) : Renewed height saving next := by
  intro index record high found
  rw [stack_restore restored] at found
  exact renewed index record high (getElem?_shrink.1 found).2

end State

namespace Run

variable {start run next : Run} {operations : List Operation}

/-- Operations stay inside a run when they return to none of its saves. -/
def StaysInside (run : Run) (operations : List Operation) : Prop :=
  ∀ number, .restore number ∈ operations → run.saves.length ≤ number

/-- Operations return to their saves in turn when those between a save and a return to it return to no older
save. -/
def InTurn (start : Run) (operations : List Operation) : Prop :=
  ∀ before between after run,
    operations = before ++ .save :: (between ++ .restore run.saves.length :: after) →
      start.performAll before = .ok run → run.StaysInside between

/-- An operation that is no return keeps the stack rising, and leads past the state before it. -/
theorem perform_past {operation : Operation} (performed : run.perform operation = .ok next)
    (rising : run.state.Rising) (forward : ∀ number, operation ≠ .restore number) :
    run.state.Past next.state := by
  cases operation with
  | push role =>
      obtain ⟨⟨handle, state⟩, pushed, rfl⟩ := Parser.exists_of_map_ok performed
      exact rising.push pushed
  | shift role =>
      obtain ⟨⟨handle, state⟩, shifted, rfl⟩ := Parser.exists_of_map_ok performed
      exact rising.shift shifted
  | pop =>
      obtain ⟨state, popped, rfl⟩ := Parser.exists_of_map_ok performed
      exact rising.pop popped
  | mark role =>
      obtain ⟨state, marked, rfl⟩ := Parser.exists_of_map_ok performed
      exact rising.mark marked
  | report report =>
      cases performed
      have same := rising.refl
      exact { same with extended := { same.extended with reports := by simp [State.report] } }
  | expect what =>
      cases performed
      exact rising.same (State.SameBefore.expect _ what)
  | save =>
      cases performed
      exact rising.refl
  | restore number => exact absurd rfl (forward number)

/-- The stack rises along all operations, in whatever order they return. -/
theorem rising_performAll (performed : run.performAll operations = .ok next) (rising : run.state.Rising) :
    next.state.Rising := by
  induction operations generalizing run with
  | nil =>
      cases performed
      exact rising
  | cons operation operations ih =>
      obtain ⟨middle, first, later⟩ := exists_perform performed
      apply ih later
      rcases operation.forward_or_return with forward | ⟨number, rfl⟩
      · exact (perform_past first rising forward).rising
      · obtain ⟨save, state, _, restored, rfl⟩ := exists_of_restore first
        apply rising.sublist
        rw [State.stack_restore restored, Array.toList_shrink]
        exact List.take_sublist _ _

theorem rising_start (buffer : Buffer) : (Run.start buffer).state.Rising := List.Pairwise.nil

theorem StaysInside.of_append {first second : List Operation} (inside : run.StaysInside (first ++ second)) :
    run.StaysInside first := fun number member => inside number (List.mem_append_left _ member)

/-- While operations return to their saves in turn, they come past every save that they can return to. -/
theorem InTurn.past (inTurn : start.InTurn operations) (rising : start.state.Rising)
    {before between after : List Operation} (split : operations = before ++ .save :: (between ++ after))
    (reached : start.performAll before = .ok run) (inside : run.StaysInside between)
    (performed : run.saved.performAll between = .ok next) : run.state.Past next.state := by
  refine between_induction (motive := State.Past) inTurn (fun _ _ _ => StaysInside.of_append) ?_ ?_ ?_ ?_ ?_
    split reached inside performed
  · intro run first number inside
    exact inside number (by simp)
  · intro before run reached
    exact (rising_performAll reached rising).refl
  · intro run earlier middle operation next _ _ past last forward
    exact past.trans (perform_past last past.rising forward)
  · intro saving middle next past restored
    exact past.restore restored
  · intro first second third below above
    exact below.trans above

/-- Operations that return only once, at their end, do so in turn. -/
theorem InTurn.single {operations : List Operation} (start : Run) (number : Nat)
    (forward : ∀ number, .restore number ∉ operations) : start.InTurn (operations ++ [.restore number]) := by
  intro before between after run split _ number' member
  have shorter := congrArg List.dropLast split
  rw [List.dropLast_concat, ← List.cons_append, ← List.append_assoc,
    List.dropLast_append_of_ne_nil (List.cons_ne_nil _ _)] at shorter
  apply absurd _ (forward number')
  rw [shorter]
  simp [member]

/-- Operations after a save pop an entry that was on the stack at the save. -/
def PopsOlder (run : Run) (operations : List Operation) : Prop :=
  ∃ earlier later popping record, operations = earlier ++ .pop :: later ∧
    run.saved.performAll earlier = .ok popping ∧ popping.state.stack.back? = some record ∧
      record ∈ run.state.stack

/-- From the height of an entry that was popped after a save on, the stack stays renewed. -/
theorem InTurn.renewed (inTurn : start.InTurn operations) (rising : start.state.Rising)
    {before earlier later after : List Operation} {popping : Run}
    (split : operations = before ++ .save :: (earlier ++ .pop :: later ++ after))
    (reached : start.performAll before = .ok run) (inside : run.StaysInside (earlier ++ .pop :: later))
    (popped : run.saved.performAll earlier = .ok popping)
    (performed : popping.performAll (.pop :: later) = .ok next) :
    State.Renewed (popping.state.stack.size - 1) run.state next.state := by
  induction later using List.reverseRecOn generalizing next after with
  | nil =>
      rw [performAll_singleton] at performed
      obtain ⟨state, pops, rfl⟩ := Parser.exists_of_map_ok performed
      exact State.renewed_pop pops _
  | append_singleton later operation ih =>
      rw [← List.cons_append] at performed
      obtain ⟨middle, popped', last⟩ := exists_performAll performed
      rw [performAll_singleton] at last
      have split' : operations = before ++ .save :: (earlier ++ .pop :: later ++ operation :: after) := by
        rw [split]
        simp
      have inside' : run.StaysInside (earlier ++ .pop :: later) := by
        rw [← List.cons_append, ← List.append_assoc] at inside
        exact inside.of_append
      have renewed := ih split' inside' popped'
      have past := inTurn.past rising split' reached inside' (performAll_trans popped popped')
      rcases operation.forward_or_return with forward | ⟨number, rfl⟩
      · exact renewed.past past.position (perform_past last past.rising forward)
      · obtain ⟨_, _, _, restored, rfl⟩ := exists_of_restore last
        exact renewed.restore restored

end Run

open Run in
/-- A return to a save is refused where the stack is lower than at the save. When an entry that was on the
stack at the save was popped, and the stack is not lower, the parse goes on from a later position, with
another stack. -/
theorem return_past_pop (buffer : Buffer) (before between after : List Operation) (saving returning : Run)
    (inTurn : (Run.start buffer).InTurn
      (before ++ .save :: (between ++ .restore saving.saves.length :: after)))
    (reached : (Run.start buffer).performAll before = .ok saving)
    (performed : saving.performAll (.save :: between) = .ok returning)
    (popped : saving.PopsOlder between) :
    (returning.state.stack.size < saving.state.stack.size →
      returning.perform (.restore saving.saves.length) = .error .restoredPastPop) ∧
    (saving.state.stack.size ≤ returning.state.stack.size → ∃ returned,
      returning.perform (.restore saving.saves.length) = .ok returned ∧
        returned.state.stack ≠ saving.state.stack ∧ saving.state.position < returned.state.position) := by
  rw [performAll_save] at performed
  have rising := rising_start buffer
  have past := inTurn.past rising rfl reached (inTurn _ _ _ _ rfl reached) performed
  rw [perform, getElem?_saves performed]
  dsimp only
  constructor
  · intro lower
    rw [State.restore_lower lower]
    rfl
  · intro tall
    rw [past.extended.restore_returned tall]
    refine ⟨_, rfl, ?_⟩
    obtain ⟨earlier, later, popping, record, rfl, popped, top, member⟩ := popped
    obtain ⟨_, again, performed'⟩ := exists_performAll performed
    obtain rfl := Except.ok.inj (popped.symm.trans again)
    have renewed := inTurn.renewed rising rfl reached (inTurn _ _ _ _ rfl reached) popped performed'
    -- The popped entry stands at the same height as it did at the save.
    have below : record.position ≤ saving.state.position :=
      (rising_performAll reached rising).le_position member
    have held : saving.state.stack[popping.state.stack.size - 1]? = some record := by
      have split : before ++ .save :: (earlier ++ .pop :: later ++ .restore saving.saves.length :: after) =
          before ++ .save :: (earlier ++ (.pop :: later ++ .restore saving.saves.length :: after)) := by
        rw [List.append_assoc]
      have past' := inTurn.past rising split reached (inTurn _ _ _ _ rfl reached).of_append popped
      rw [Array.back?_eq_getElem?] at top
      rcases past'.entries _ _ top with old | fresh
      · exact old
      · exact absurd below (Nat.not_le.2 fresh)
    have inside := (Array.getElem?_eq_some_iff.1 held).1
    have there := Array.getElem?_eq_getElem (Nat.lt_of_lt_of_le inside tall)
    have fresh := renewed _ _ (Nat.le_refl _) there
    constructor
    · intro same
      have left := State.getElem?_shrink.2 ⟨inside, there⟩
      rw [show returning.state.stack.shrink saving.state.stack.size = saving.state.stack from same,
        held] at left
      rw [← Option.some.inj left] at fresh
      exact absurd below (Nat.not_le.2 fresh)
    · exact Nat.lt_of_lt_of_le fresh (past.rising.le_returned inside there)

/-- This is the buffer of two names. -/
def twoNames : Buffer := (Reading.ofBytes #[97, 32, 98]).buffer

/-- These operations put another entry in the place of the one on top of the stack. -/
def replacing : List Operation := [.pop, .shift .assignmentTarget]

/-- These operations return to their only save in turn. -/
theorem twoNames_inTurn : (Run.start twoNames).InTurn
    ([.shift .assignmentTarget] ++ .save :: (replacing ++ [.restore 0])) := by
  have single := @Run.InTurn.single [.shift .assignmentTarget, .save, .pop, .shift .assignmentTarget]
  apply single
  simp

/-- The stack is as high as at the save once the second name is in the place of the first one. -/
theorem twoNames_replaced : ∃ saving returning,
    (Run.start twoNames).performAll [.shift .assignmentTarget] = .ok saving ∧
      saving.performAll (.save :: replacing) = .ok returning ∧ saving.saves.length = 0 ∧
        saving.PopsOlder replacing ∧ saving.state.stack.size ≤ returning.state.stack.size := by
  have steps : ((Run.start twoNames).performAll [.shift .assignmentTarget]).isOk = true ∧
      ∀ saving, (Run.start twoNames).performAll [.shift .assignmentTarget] = .ok saving →
        saving.saves.length = 0 ∧ 0 < saving.state.stack.size ∧
          (saving.performAll (.save :: replacing)).isOk = true ∧
            ∀ returning, saving.performAll (.save :: replacing) = .ok returning →
              saving.state.stack.size ≤ returning.state.stack.size := by
    decide +kernel
  obtain ⟨shifts, rest⟩ := steps
  obtain ⟨saving, reached⟩ := Parser.exists_of_isOk shifts
  obtain ⟨fresh, filled, replaces, tall⟩ := rest saving reached
  obtain ⟨returning, performed⟩ := Parser.exists_of_isOk replaces
  refine ⟨saving, returning, reached, performed, fresh, ?_, tall returning performed⟩
  have top : saving.state.stack.back? = some saving.state.stack[saving.state.stack.size - 1] := by
    rw [Array.back?_eq_getElem?, Array.getElem?_eq_getElem]
  exact ⟨[], [.shift .assignmentTarget], saving.saved, _, rfl, rfl, top, Array.getElem_mem _⟩

open Run in
/-- The return goes on at the end of the text, although the first name was popped. -/
theorem twoNames_returned : ∃ saving returning returned,
    (Run.start twoNames).InTurn ([.shift .assignmentTarget] ++
      .save :: (replacing ++ [.restore saving.saves.length])) ∧
    (Run.start twoNames).performAll [.shift .assignmentTarget] = .ok saving ∧
    saving.performAll (.save :: replacing) = .ok returning ∧ saving.PopsOlder replacing ∧
    returning.perform (.restore saving.saves.length) = .ok returned ∧
    returned.state.stack ≠ saving.state.stack ∧ saving.state.position < returned.state.position := by
  obtain ⟨saving, returning, reached, performed, fresh, popped, tall⟩ := twoNames_replaced
  have inTurn := twoNames_inTurn
  rw [← fresh] at inTurn
  have holds := return_past_pop twoNames _ replacing [] saving returning inTurn reached performed popped
  obtain ⟨returned, performed', other, further⟩ := holds.2 tall
  exact ⟨saving, returning, returned, inTurn, reached, performed, popped, performed', other, further⟩

/-- It is not so that every return after such a pop is refused. -/
theorem not_always_refused : ¬ ∀ (source : Bytes) (before between after : List Operation)
    (saving returning : Run),
    (Run.start (Reading.ofBytes source).buffer).InTurn
      (before ++ .save :: (between ++ .restore saving.saves.length :: after)) →
    (Run.start (Reading.ofBytes source).buffer).performAll before = .ok saving →
    saving.performAll (.save :: between) = .ok returning → saving.PopsOlder between →
    returning.perform (.restore saving.saves.length) = .error .restoredPastPop := by
  intro refused
  obtain ⟨saving, returning, reached, performed, fresh, popped, tall⟩ := twoNames_replaced
  have inTurn := twoNames_inTurn
  rw [← fresh] at inTurn
  have fails := refused #[97, 32, 98] _ replacing [] saving returning inTurn reached performed popped
  rw [Run.performAll_save] at performed
  rw [Run.perform, Run.getElem?_saves performed] at fails
  exact State.restore_tall tall (Parser.error_of_map_error fails)

end Reckon
