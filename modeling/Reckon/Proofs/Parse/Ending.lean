/-
This file shows that a parse always ends. A rule that refers to itself only enters itself again after it
consumed a token, and the end of input is never consumed, so the tokens ahead bound the nesting.
-/

import Reckon.Proofs.Parse.Approximation
import Reckon.Proofs.Session.Faultless

namespace Reckon

open Text Reckon.Parser

/-- This is the number of tokens from the position of a state on, the end of input included. -/
def State.ahead (state : State) : Nat := state.significant.size - state.position

/-- There are as many tokens ahead as a state faces. -/
theorem State.Facing.ahead_eq {state : State} {tokens : List Token} (facing : state.Facing tokens) :
    state.ahead = tokens.length := by
  have whole := facing.position_add
  rw [State.ahead]
  omega

namespace Parser

variable {A : Type} {rule : Parser A → Parser A}

/-- This is a rule that may only enter itself again with fewer tokens ahead than at the entry before, and
with at least one. It faults at any other entry, and then the whole parse does. -/
def descend (rule : Parser A → Parser A) (bound : Nat) : Parser A := fun state =>
  if _fewer : 0 < state.ahead ∧ state.ahead < bound then rule (descend rule state.ahead) state
  else .fault .exhausted state
termination_by bound

/-- A rule that is entered with fewer tokens ahead goes on with that many. -/
theorem descend_enter {bound : Nat} {state : State} (some : 0 < state.ahead)
    (fewer : state.ahead < bound) :
    descend rule bound state = rule (descend rule state.ahead) state := by
  rw [descend, dif_pos ⟨some, fewer⟩]

/-- A depth bounds the nesting as long as it is not less than the tokens ahead. -/
theorem descend_below {within : Nat → Parser A} (next : ∀ depth, within (depth + 1) = rule (within depth))
    (raise : ∀ lower upper : Parser A, lower.Below upper → (rule lower).Below (rule upper))
    {bound depth : Nat} (enough : bound ≤ depth + 1) : (descend rule bound).Below (within depth) := by
  induction depth generalizing bound with
  | zero =>
      intro state
      rw [descend, dif_neg (by omega)]
      exact .fault
  | succ depth ih =>
      intro state
      rw [descend]
      split
      · rw [next]
        exact raise _ _ (ih (by omega)) state
      · exact .fault

/-- What holds of a rule with one more token than its recursive occurrence holds of the recursion, if it
only depends on what happens with each number of tokens ahead. -/
theorem descend_meets {Meets : Nat → Parser A → Prop}
    (step : ∀ bound parser, Meets bound parser → Meets (bound + 1) (rule parser))
    (glue : ∀ bound parser, (∀ ahead, 0 < ahead → ahead ≤ bound → ∃ other, Meets ahead other ∧
      ∀ state : State, state.ahead = ahead → parser state = other state) → Meets bound parser)
    (bound : Nat) : Meets bound (descend rule (bound + 1)) := by
  induction bound using Nat.strongRecOn with
  | ind bound ih =>
      refine glue bound _ fun ahead positive within => ⟨rule (descend rule ahead), ?_, ?_⟩
      · obtain ⟨less, rfl⟩ : ∃ less, ahead = less + 1 := ⟨ahead - 1, by omega⟩
        exact step less _ (ih less (by omega))
      · intro state same
        rw [descend_enter (by omega) (by omega), same]

/-- A parser decides when it is, at every number of tokens ahead, like a parser that does. -/
theorem Decides.glue {Good : List Token → A → Prop} (bound : Nat) (parser : Parser A)
    (pieces : ∀ ahead, 0 < ahead → ahead ≤ bound → ∃ other : Parser A, other.Decides ahead Good ∧
      ∀ state : State, state.ahead = ahead → parser state = other state) : parser.Decides bound Good := by
  intro tokens short
  rcases Nat.eq_zero_or_pos tokens.length with none | some
  · rw [List.length_eq_zero_iff.1 none]
    exact .inl (refuses_nil parser)
  · obtain ⟨other, decides, same⟩ := pieces tokens.length some short
    rcases decides tokens (Nat.le_refl _) with refuses | ⟨consumed, rest, value, split, good, yields⟩
    · refine .inl fun state facing => ?_
      rw [same state facing.ahead_eq]
      exact refuses state facing
    · refine .inr ⟨consumed, rest, value, split, good, fun state facing => ?_⟩
      rw [same state facing.ahead_eq]
      exact yields state facing

/-- A parse ends without a fault, and the end of input is still ahead then. -/
structure Ends (parser : Parser A) (state : State) : Prop where
  faultless : ∀ fault, (parser.run state).1 ≠ .error (.fault fault)
  ahead : 0 < (parser.run state).2.ahead

variable {parser : Parser A} {state : State}

/-- A parse that is done ends. -/
theorem Done.ends (done : parser.Done state) {tokens : List Token} (facing : state.Facing tokens)
    (start : state.position = 0) : parser.Ends state := by
  refine ⟨(done.run_meets facing start).ne_fault, ?_⟩
  rcases done with ⟨value, next, rest, outcome, facing'⟩ | ⟨failed, outcome, same⟩
  · have final : (parser.run state).2 = next := by
      rw [run, outcome]
      dsimp only
      split <;> rfl
    rw [final, facing'.ahead_eq]
    exact facing'.nonempty
  · have final : (parser.run state).2 = failed := by
      rw [run, outcome]
      dsimp only
      split <;> rfl
    rw [final, (facing.same same).ahead_eq]
    exact facing.nonempty

variable {B : Type}

/-- A parser with a recursive rule ends by its tokens when the rule enters itself only after it consumed a
token, and when any depth will do that is not less than the number of tokens. -/
structure EndsByTokens (parser : Parser B) (rule : Parser A → Parser A) (within : Nat → Parser A)
    (whole : Parser A → Parser B) (start : State) : Prop where
  ends : parser.Ends start
  guarded : parser.run start = (whole (descend rule (start.significant.size + 1))).run start
  deep : ∀ depth, start.significant.size ≤ depth → parser.run start = (whole (within depth)).run start

/-- A parser ends by its tokens when the guarded recursion does not fault. -/
theorem Ends.byTokens {parser : Parser B} {rule : Parser A → Parser A} {within : Nat → Parser A}
    {whole : Parser A → Parser B} {start : State}
    (ends : (whole (descend rule (start.significant.size + 1))).Ends start)
    (bounded : parser.run start = (whole (within (start.significant.size + 1))).run start)
    (next : ∀ depth, within (depth + 1) = rule (within depth))
    (raise : ∀ lower upper : Parser A, lower.Below upper → (rule lower).Below (rule upper))
    (raiseWhole : ∀ lower upper : Parser A, lower.Below upper → (whole lower).Below (whole upper)) :
    parser.EndsByTokens rule within whole start := by
  have deep (depth : Nat) (enough : start.significant.size ≤ depth) :
      (whole (descend rule (start.significant.size + 1))).run start =
        (whole (within depth)).run start :=
    (raiseWhole _ _ (descend_below next raise (Nat.succ_le_succ enough))).run_eq ends.faultless
  have guarded := bounded.trans (deep _ (Nat.le_succ _)).symm
  refine ⟨⟨?_, ?_⟩, guarded, fun depth enough => guarded.trans (deep depth enough)⟩
  · rw [guarded]
    exact ends.faultless
  · rw [guarded]
    exact ends.ahead

end Parser

theorem Grammar.decides_descend (bound : Nat) :
    (descend expressionRule (bound + 1)).Decides bound (Symbol.Gives .expression) :=
  descend_meets (fun _ _ => decides_expressionRule) Decides.glue bound

open Outline in
/-- An outline settles when it is, at every number of tokens ahead, like one that does. -/
theorem Outline.settles_glue {shape : List Significant → List Node → Prop} (bound : Nat)
    (parser : Parser Unit) (pieces : ∀ ahead, 0 < ahead → ahead ≤ bound → ∃ other : Parser Unit,
      Settles other ahead shape ∧ ∀ state : State, state.ahead = ahead → parser state = other state) :
    Settles parser bound shape := by
  intro items short
  rcases Nat.eq_zero_or_pos items.length with none | some
  · rw [List.length_eq_zero_iff.1 none]
    exact .inl (declines_nil parser)
  · obtain ⟨other, settles, same⟩ := pieces items.length some short
    have agrees {state : State} (faces : state.Faces items) : parser state = other state :=
      same state (by rw [faces.tokens.ahead_eq, List.length_map])
    rcases settles items (Nat.le_refl _) with declines | ⟨consumed, rest, nodes, split, shaped, emits⟩
    · refine .inl fun state faces => ?_
      rw [agrees faces]
      exact declines state faces
    · refine .inr ⟨consumed, rest, nodes, split, shaped, fun state faces => ?_⟩
      rw [agrees faces]
      exact emits state faces

theorem Outline.settles_descend (bound : Nat) :
    Settles (descend expressionRule (bound + 1)) bound (Shaped .expression) :=
  descend_meets (fun _ _ => settles_expressionRule) settles_glue bound

/-- Every parse of a text ends without a fault and before the end of input is consumed. The recursive rule
of each grammar only enters itself again with fewer tokens ahead than at the entry before. So a depth that
is not less than the number of tokens is never exhausted, and all such depths give the same parse. -/
theorem parse_ends (source : Bytes) :
    let start := State.ofBuffer (Reading.ofBytes source).buffer
    Grammar.expression.EndsByTokens Grammar.expressionRule Grammar.expressionWithin id start ∧
    Grammar.statement.EndsByTokens Grammar.expressionRule Grammar.expressionWithin
      Grammar.statementRule start ∧
    Outline.statement.EndsByTokens Outline.expressionRule Outline.expressionWithin
      Outline.statementRule start := by
  intro start
  obtain ⟨segments, tail, misreadings, cut⟩ := exists_cut .start source.glyphs
  obtain ⟨body, final, _, starts⟩ := cut.startsBefore
  have facing : start.Facing (body ++ [final]) := starts.facing
  have count : (body ++ [final]).length = start.significant.size := by
    rw [← facing.position_add]
    exact (Nat.zero_add _).symm
  have decides := Grammar.decides_descend start.significant.size
  have settles := Outline.settles_descend start.significant.size
  refine ⟨?_, ?_, ?_⟩
  · have ends := ((decides.lower count.le).done facing).ends facing rfl
    exact ends.byTokens (Grammar.run_expression start) (fun _ => rfl)
      (fun _ _ => Grammar.below_expressionRule) fun _ _ => id
  · have statement := (Grammar.decides_statementRule decides).lower count.le
    have ends := (statement.done facing).ends facing rfl
    exact ends.byTokens (Grammar.run_statement start) (fun _ => rfl)
      (fun _ _ => Grammar.below_expressionRule) fun _ _ => Grammar.below_statementRule
  · have ends := (starts.outlining_done settles (Nat.le_refl _)).ends facing rfl
    exact ends.byTokens (Outline.run_statement start) (fun _ => rfl)
      (fun _ _ => Outline.below_expressionRule) fun _ _ => Outline.below_statementRule

end Reckon
