/-
This file shows that the effects of a rule that succeeds only lead onwards: the position never falls, and it
only comes past the end of input where it was there before.
-/

import Reckon.Proofs.Parse.Conservation

namespace Reckon

namespace State

variable {floor limit final : Nat} {state next before after : State}

/-- No effect leads back. An entry that moves to the output takes the position along. -/
theorem Effect.position_le (effect : Effect floor before after) : before.position ≤ after.position := by
  cases effect with
  | same same => exact same.position.ge
  | push pushed =>
      obtain ⟨handle, _, same⟩ := Parser.exists_of_map_ok pushed
      cases same
      rw [position_push _ _ (Nat.le_succ _)]
      exact Nat.le_succ _
  | shift shifted =>
      obtain ⟨handle, _, same⟩ := Parser.exists_of_map_ok shifted
      cases same
      rw [position_shift _ _ (Nat.le_succ _)]
      exact Nat.le_succ _
  | pop above popped =>
      rw [State.pop] at popped
      split at popped
      · -- The entry that is uncovered can only move the position further on.
        cases popped
        refine Nat.le_trans ?_ (Nat.le_max_left _ _)
        simp [lastPosition]
      · cases popped
  | mark marked =>
      obtain ⟨handle, _, same⟩ := Parser.exists_of_map_ok marked
      cases same
      rw [position_push _ _ (Nat.le_refl _)]
  | report report reported =>
      subst reported
      exact Nat.le_refl _

/-- No operation above a height takes the position back. -/
theorem Leads.position_le (leads : Leads floor before after) : before.position ≤ after.position := by
  induction leads with
  | refl => exact Nat.le_refl _
  | tail _ effect ih => exact Nat.le_trans ih effect.position_le

/-- The position keeps to a limit, and so does every entry that a pop above the floor can uncover. Entries
further down may lie anywhere, since nothing is known of how the state came about. -/
structure Limited (floor limit : Nat) (state : State) : Prop where
  position : state.position ≤ limit
  entries : ∀ (index : Nat) (record : Record), floor ≤ index + 1 → state.stack[index]? = some record →
    record.position ≤ limit

/-- No pop above the whole stack uncovers more than the entry on top of it. -/
theorem limited_whole (within : state.position ≤ limit) : Limited state.stack.size limit state := by
  refine ⟨within, ?_⟩
  intro index record high found
  have inside := (Array.getElem?_eq_some_iff.1 found).1
  have top : state.stack.back? = some record := by
    rw [Array.back?_eq_getElem?, show state.stack.size - 1 = index by omega, found]
  have last : lastPosition state.stack = record.position := by rw [lastPosition, top]
  have far : lastPosition state.stack ≤ state.position := Nat.le_max_right _ _
  omega

/-- A node within the limit keeps the state limited. -/
theorem Limited.node (limited : Limited floor limit state) {record : Record}
    (further : state.position ≤ record.position) (within : record.position ≤ limit) :
    Limited floor limit { state with nodes := state.nodes.push record } := by
  refine ⟨?_, limited.entries⟩
  rw [position_push _ _ further]
  exact within

/-- A shifted entry within the limit keeps the state limited. -/
theorem Limited.shift (limited : Limited floor limit state) {record : Record}
    (further : state.position ≤ record.position) (within : record.position ≤ limit) :
    Limited floor limit { state with stack := state.stack.push record } := by
  refine ⟨?_, ?_⟩
  · rw [position_shift _ _ further]
    exact within
  · intro index other high found
    simp only [Array.getElem?_push] at found
    split at found
    · cases found
      exact within
    · exact limited.entries index other high found

/-- An entry that moves to the output keeps the state limited. -/
theorem Limited.pop (limited : Limited floor limit state) (above : floor < state.stack.size)
    (popped : state.pop = .ok next) : Limited floor limit next := by
  rw [State.pop] at popped
  split at popped
  · cases popped
    have entries : ∀ (index : Nat) (record : Record), floor ≤ index + 1 →
        state.stack.pop[index]? = some record → record.position ≤ limit := by
      intro index record high found
      rw [Array.getElem?_pop] at found
      split at found
      · exact limited.entries index record high found
      · cases found
    refine ⟨Nat.max_le.2 ⟨?_, ?_⟩, entries⟩
    · simpa [lastPosition] using limited.position
    · rw [lastPosition]
      split
      · rename_i top found
        rw [Array.back?_eq_getElem?, Array.size_pop] at found
        exact entries _ top (by omega) found
      · exact Nat.zero_le _
  · cases popped

/-- The last of the significant tokens of a state is its only end of input, at the given position. -/
structure Closes (state : State) (final : Nat) : Prop where
  ends : state.EndsAt final
  size : state.significant.size = final + 1

/-- An extension has the same end of input ahead. -/
theorem Closes.extends (closes : state.Closes final) (extended : Extends floor state next) :
    next.Closes final := by
  refine ⟨⟨?_, ?_⟩, ?_⟩
  · rw [extended.significant]
    exact closes.ends.inside
  · rw [extended.significant, extended.input]
    exact closes.ends.only
  · rw [extended.significant]
    exact closes.size

/-- The end of input cannot be consumed, from wherever it is read. -/
theorem Closes.consumable (closes : state.Closes final) {handle : Handle}
    (found : state.consumable = .ok handle) : state.position < final := by
  by_contra past
  have inside := closes.ends.inside
  have last := Array.getElem?_eq_getElem inside
  have current : state.current = .ok state.significant[final] := by
    have place : min state.position (state.significant.size - 1) = final := by
      rw [closes.size]
      omega
    rw [State.current, handleAt, place, last]
  have atEnd : state.atEnd = .ok true := by
    rw [State.atEnd, State.is, State.kind, current]
    dsimp only
    rw [(closes.ends.only _ _ last).2 rfl]
    rfl
  rw [State.consumable, atEnd] at found
  cases found

/-- An operation keeps the state limited when the limit covers the tokens. -/
theorem Effect.limited (effect : Effect floor before after) (closes : before.Closes final)
    (enough : final ≤ limit) (limited : Limited floor limit before) : Limited floor limit after := by
  cases effect with
  | same same =>
      rw [same]
      exact ⟨limited.position, limited.entries⟩
  | push pushed =>
      obtain ⟨handle, found, same⟩ := Parser.exists_of_map_ok pushed
      cases same
      exact limited.node (Nat.le_succ _) (Nat.le_trans (closes.consumable found) enough)
  | shift shifted =>
      obtain ⟨handle, found, same⟩ := Parser.exists_of_map_ok shifted
      cases same
      exact limited.shift (Nat.le_succ _) (Nat.le_trans (closes.consumable found) enough)
  | pop above popped => exact limited.pop above popped
  | mark marked =>
      obtain ⟨handle, _, same⟩ := Parser.exists_of_map_ok marked
      cases same
      exact limited.node (Nat.le_refl _) limited.position
  | report report reported =>
      subst reported
      exact ⟨limited.position, limited.entries⟩

/-- Operations keep the state limited when the limit covers the tokens. -/
theorem Leads.limited (leads : Leads floor before after) (height : floor ≤ before.stack.size)
    (closes : before.Closes final) (enough : final ≤ limit) (limited : Limited floor limit before) :
    Limited floor limit after := by
  induction leads with
  | refl => exact limited
  | tail leads effect ih => exact effect.limited (closes.extends (Leads.extends leads height)) enough ih

end State

namespace Parser

open State

variable {A : Type}

/-- A parser goes forward when all that a success does in the end are effects above the floor. -/
def Forward (parser : Parser A) (watch : Watch) : Prop :=
  ∀ floor state, floor ≤ state.stack.size → watch floor state = true →
    (parser state).Ends (Leads floor state) (fun _ => True)

theorem Clean.forward {parser : Parser A} {watch : Watch} (clean : Clean parser watch) :
    Forward parser watch := fun floor state height kept =>
  (clean floor state height kept).imp (fun _ => id) (fun _ _ => trivial)

end Parser

end Reckon
