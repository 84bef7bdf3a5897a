/-
This file shows that a repetition ends. It keeps as many applications of its rule as succeed and move on one
after the other, and the end of input bounds their number.
-/

import Reckon.Proofs.Parse.Effect

namespace Reckon

open Text

/-- A state reads a text when it goes over the significant tokens of that text. -/
structure State.Reads (state : State) (source : Bytes) : Prop where
  input : state.input = (Reading.ofBytes source).buffer
  significant : state.significant = (State.ofBuffer (Reading.ofBytes source).buffer).significant

/-- A state that reads a text has its end of input ahead. -/
theorem State.Reads.closes {state : State} {source : Bytes} (reads : state.Reads source) :
    ∃ final, state.Closes final := by
  obtain ⟨segments, tail, misreadings, cut⟩ := exists_cut .start source.glyphs
  obtain ⟨body, last, _, starts⟩ := cut.startsBefore
  have ends := starts.endsAt
  have size := starts.facing.position_add
  rw [List.length_append, List.length_singleton] at size
  change 0 + _ = _ at size
  refine ⟨body.length, ⟨?_, ?_⟩, ?_⟩
  · rw [reads.significant]
    exact ends.inside
  · rw [reads.significant, reads.input]
    exact ends.only
  · rw [reads.significant]
    omega

instance {A : Type} {succeeded failed : State → Prop} [DecidablePred succeeded] [DecidablePred failed]
    (outcome : Outcome A) : Decidable (outcome.Ends succeeded failed) :=
  match outcome with
  | .success _ state => inferInstanceAs (Decidable (succeeded state))
  | .failure state => inferInstanceAs (Decidable (failed state))
  | .fault _ _ => isTrue trivial

/-- A success ends in what outcomes end in. -/
theorem Outcome.Ends.of_success {A : Type} {outcome : Outcome A} {succeeded failed : State → Prop}
    {value : A} {next : State} (ends : outcome.Ends succeeded failed)
    (success : outcome = .success value next) : succeeded next := by
  rw [success] at ends
  exact ends

namespace Parser

open State

variable {A : Type} {parser : Parser A} {watch : Watch} {state next last : State} {value : A}
  {values : List A} {final : Nat}

/-- These are the values of applications one after the other that all succeed and move on. -/
inductive Kept (parser : Parser A) : State → List A → State → Prop where
  | stop (state : State) : Kept parser state [] state
  | next {state middle last : State} {value : A} {values : List A}
      (success : parser state = .success value middle) (moves : state.position < middle.position)
      (later : Kept parser middle values last) : Kept parser state (value :: values) last

/-- A parser stands still when it fails, or when its success does not move on. -/
def Still (parser : Parser A) (state : State) : Prop :=
  ∀ value next, parser state = .success value next → next.position ≤ state.position

/-- No applications are kept beyond a state where the parser stands still. -/
theorem Kept.prefix {others : List A} (kept : Kept parser state values last) (still : Still parser last)
    (other : Kept parser state others next) : others <+: values := by
  induction kept generalizing others with
  | stop state =>
      cases other with
      | stop => exact List.prefix_rfl
      | next success moves => exact absurd (still _ _ success) (Nat.not_le.2 moves)
  | next success _ _ ih =>
      cases other with
      | stop => exact List.nil_prefix
      | next success' _ later =>
          rw [success] at success'
          cases success'
          exact List.cons_prefix_cons.2 ⟨rfl, ih still later⟩

/-- These kept applications come first in all the others that can be kept. -/
structure Maximal (parser : Parser A) (state : State) (values : List A) (last : State) : Prop where
  kept : Kept parser state values last
  longest : ∀ others next, Kept parser state others next → others <+: values

/-- A parser is steady at a state when it ends there without a fault, and when neither it nor a part of it
that takes a save pops an entry that was on the stack at its start. -/
structure Steady (parser : Parser A) (watch : Watch) (state : State) : Prop where
  faultless : ∀ fault failed, parser state ≠ .fault fault failed
  spares : watch state.stack.size state = true

/-- A parser is steady along its repetition when it is so after any kept applications. -/
def SteadyAlong (parser : Parser A) (watch : Watch) (state : State) : Prop :=
  ∀ values next, Kept parser state values next → Steady parser watch next

theorem SteadyAlong.here (steady : SteadyAlong parser watch state) : Steady parser watch state :=
  steady [] state (.stop state)

/-- A parser that is steady along its repetition is steady after each step. -/
theorem SteadyAlong.later (steady : SteadyAlong parser watch state)
    (success : parser state = .success value next) (moves : state.position < next.position) :
    SteadyAlong parser watch next := fun values last kept =>
  steady (value :: values) last (.next success moves kept)

/-- An application that moves on is kept. -/
theorem manyWithin_kept (success : parser state = .success value next)
    (moves : state.position < next.position) (earlier : List A) (bound : Nat) :
    manyWithin parser earlier (bound + 1) state = manyWithin parser (value :: earlier) bound next := by
  have moved : next.position ≠ state.position := Nat.ne_of_gt moves
  simp only [manyWithin, success, if_neg moved]

/-- A repetition that keeps its saves and does not fault shows that its parser is steady along it. -/
theorem steadyAlong_of_manyWithin (earlier : List A) {bound : Nat}
    (spares : Watch.manyWithin parser watch bound 0 state = true)
    (faultless : ∀ fault failed, manyWithin parser earlier bound state ≠ .fault fault failed) :
    SteadyAlong parser watch state := by
  intro values next kept
  -- The kept applications are the first ones that the repetition made, so none of them faulted.
  induction kept generalizing earlier bound with
  | stop state =>
      cases bound with
      | zero => exact absurd rfl (faultless .exhausted state)
      | succ bound =>
          simp only [Watch.manyWithin, Bool.and_eq_true] at spares
          refine ⟨?_, spares.1⟩
          intro fault failed outcome
          apply faultless fault failed
          rw [manyWithin]
          simp only [outcome]
  | @next state middle _ value _ success moves _ ih =>
      cases bound with
      | zero => exact absurd rfl (faultless .exhausted state)
      | succ bound =>
          have moved : middle.position ≠ state.position := Nat.ne_of_gt moves
          simp only [Watch.manyWithin, Bool.and_eq_true, success, if_neg moved] at spares
          rw [manyWithin_kept success moves] at faultless
          exact ih _ spares.2 faultless

variable {B : Type} {f : A → B}

/-- A change of the value changes no state. -/
theorem map_success (success : parser state = .success value next) :
    parser.map f state = .success (f value) next := by
  rw [map, andThen, success]
  rfl

/-- A change of the value changes no failure. -/
theorem map_failure_iff {failed : State} :
    parser.map f state = .failure failed ↔ parser state = .failure failed := by
  rw [map, andThen]
  cases parser state <;> simp [succeed]

section Progress

variable (watched : Watched parser watch) (forward : Forward parser watch)

include forward

/-- A success never leads back, nor past the end of input. -/
theorem Steady.moves (steady : Steady parser watch state) (closes : state.Closes final)
    (success : parser state = .success value next) :
    next.Closes final ∧ state.position ≤ next.position ∧ next.position ≤ max state.position final := by
  have leads : Leads state.stack.size state next :=
    (forward state.stack.size state (Nat.le_refl _) steady.spares).of_success success
  refine ⟨closes.extends (leads.extends (Nat.le_refl _)), leads.position_le, ?_⟩
  have limited := limited_whole (Nat.le_max_left state.position final)
  exact (leads.limited (Nat.le_refl _) closes (Nat.le_max_right _ _) limited).position

/-- Every kept application takes at least one of the tokens before the end of input. -/
theorem SteadyAlong.length_le (steady : SteadyAlong parser watch state) (closes : state.Closes final)
    (kept : Kept parser state values last) : values.length ≤ final - state.position := by
  induction kept with
  | stop => exact Nat.zero_le _
  | next success moves _ ih =>
      obtain ⟨closes', _, bounded⟩ := steady.here.moves forward closes success
      have shorter := ih (steady.later success moves) closes'
      rw [List.length_cons]
      omega

include watched

/-- A repetition ends where its parser stands still, and it undoes what the parser did there. -/
theorem Steady.manyWithin_still (here : Steady parser watch state) (closes : state.Closes final)
    (still : Still parser state) (earlier : List A) (bound : Nat) :
    ∃ next, manyWithin parser earlier (bound + 1) state = .success earlier.reverse next ∧
      state.SameBefore next := by
  have bounded := watched.bounded state.stack.size state (Nat.le_refl _) here.spares
  unfold manyWithin
  dsimp only
  cases outcome : parser state with
  | success value next =>
      rw [outcome] at bounded
      obtain ⟨_, onwards, _⟩ := here.moves forward closes outcome
      have stays : next.position = state.position := Nat.le_antisymm (still _ _ outcome) onwards
      dsimp only
      rw [if_pos stays, Extends.restore bounded]
      exact ⟨_, rfl, rfl⟩
  | failure failed =>
      rw [outcome] at bounded
      dsimp only
      rw [Extends.restore bounded]
      exact ⟨_, rfl, rfl⟩
  | fault fault failed => exact absurd outcome (here.faultless fault failed)

/-- A repetition comes to a state where its parser stands still before it runs out of its bound. -/
theorem SteadyAlong.manyWithin (steady : SteadyAlong parser watch state) (closes : state.Closes final)
    (earlier : List A) {bound : Nat} (enough : final - state.position < bound) :
    ∃ values last next, Kept parser state values last ∧ Still parser last ∧
      manyWithin parser earlier bound state = .success (earlier.reverse ++ values) next ∧
      last.SameBefore next := by
  -- A kept application leaves fewer tokens ahead, so a bound that is one lower is still enough.
  induction bound generalizing earlier state with
  | zero => exact absurd enough (Nat.not_lt_zero _)
  | succ bound ih =>
      by_cases still : Still parser state
      · obtain ⟨next, success, same⟩ :=
          steady.here.manyWithin_still watched forward closes still earlier bound
        refine ⟨[], state, next, .stop state, still, ?_, same⟩
        rw [success, List.append_nil]
      · unfold Still at still
        push Not at still
        obtain ⟨value, middle, success, moves⟩ := still
        obtain ⟨closes', _, within⟩ := steady.here.moves forward closes success
        obtain ⟨values, last, next, kept, still, repeated, same⟩ :=
          ih (steady.later success moves) closes' (value :: earlier) (by omega)
        refine ⟨value :: values, last, next, .next success moves kept, still, ?_, same⟩
        rw [manyWithin_kept success moves, repeated, List.reverse_cons, List.append_assoc]
        rfl

/-- A repetition keeps a longest row of applications, and nothing is left of the application after it. -/
theorem SteadyAlong.many (steady : SteadyAlong parser watch state) (closes : state.Closes final) :
    ∃ values last next, Maximal parser state values last ∧ many parser state = .success values next ∧
      last.SameBefore next := by
  have enough : final - state.position < state.significant.size + 1 := by
    have size := closes.size
    omega
  obtain ⟨values, last, next, kept, still, success, same⟩ :=
    steady.manyWithin watched forward closes [] enough
  exact ⟨values, last, next, ⟨kept, fun _ _ => kept.prefix still⟩, success, same⟩

/-- A repetition of at least one application adds the first value to the others. -/
theorem several_success (closes : state.Closes final) (here : Steady parser watch state)
    (success : parser state = .success value next) (steady : SteadyAlong parser watch next) :
    ∃ values last, Parser.many parser next = .success values last ∧
      several parser state = .success (value :: values) last := by
  obtain ⟨closes', _⟩ := here.moves forward closes success
  obtain ⟨values, _, last, _, repeated, _⟩ := steady.many watched forward closes'
  refine ⟨values, last, repeated, ?_⟩
  rw [several, attempt, andThen, success]
  dsimp only
  rw [map_success repeated]

/-- A repetition of at least one application fails where the first one does. -/
theorem several_failure_iff (closes : state.Closes final) (here : Steady parser watch state)
    (steady : ∀ value middle, parser state = .success value middle → SteadyAlong parser watch middle) :
    (∃ failed, several parser state = .failure failed) ↔ ∃ failed, parser state = .failure failed := by
  cases outcome : parser state with
  | success value middle =>
      obtain ⟨values, last, _, all⟩ :=
        several_success watched forward closes here outcome (steady value middle outcome)
      rw [all]
      simp
  | failure failed =>
      have bounded := watched.bounded state.stack.size state (Nat.le_refl _) here.spares
      rw [outcome] at bounded
      rw [several, attempt, andThen, outcome]
      dsimp only
      rw [backtrack_extends bounded]
      simp
  | fault fault failed => exact absurd outcome (here.faultless fault failed)

end Progress

end Parser

open Reckon.Parser

namespace RuleSet

/-- This watches the run of a rule whose references nest at most `depth` deep. -/
def watchOf (rules : RuleSet) (depth : Nat) (rule : Rule) : Watch :=
  rule.watchWith (rules.parserWithin depth) (rules.watchWithin depth)

theorem watched_ruleWithin (rules : RuleSet) (depth : Nat) (rule : Rule) :
    Watched (rules.ruleWithin depth rule) (rules.watchOf depth rule) :=
  (rule.cleanWith (rules.cleanWithin depth)).watched

theorem forward_ruleWithin (rules : RuleSet) (depth : Nat) (rule : Rule) :
    Forward (rules.ruleWithin depth rule) (rules.watchOf depth rule) :=
  (rule.cleanWith (rules.cleanWithin depth)).forward

theorem KeepsSaves.steadyAlong {rules : RuleSet} {depth : Nat} {rule : Rule} {state next : State}
    {value : Yield} (keeps : rules.KeepsSaves depth (.many rule) state)
    (success : rules.ruleWithin depth (.many rule) state = .success value next) :
    SteadyAlong (rules.ruleWithin depth rule) (rules.watchOf depth rule) state := by
  refine steadyAlong_of_manyWithin [] keeps ?_
  intro fault failed outcome
  have faults : rules.ruleWithin depth (.many rule) state = .fault fault failed := by
    change (Parser.many (rules.ruleWithin depth rule)).map _ state = _
    rw [map, andThen, Parser.many, outcome]
  rw [faults] at success
  cases success

end RuleSet

/-- The repetition of a rule that is steady along it ends. It gives the values of the longest row of
applications that all succeed and move on, no more of them than tokens before the end of input, and nothing but
the furthest failure is left of the application after them. A repetition of at least one application fails
where the rule fails, and it otherwise adds the first value to those of the repetition from there on. -/
theorem repetition_ends (source : Bytes) (rules : RuleSet) (depth : Nat) (rule : Rule) (state : State)
    (reads : state.Reads source) :
    let parser := rules.ruleWithin depth rule
    let watch := rules.watchOf depth rule
    (SteadyAlong parser watch state → ∃ final values last next, state.EndsAt final ∧
      Maximal parser state values last ∧ values.length ≤ final - state.position ∧
      rules.ruleWithin depth (.many rule) state = .success (.list values) next ∧
      last.SameBefore next ∧ next.position = last.position) ∧
    (Steady parser watch state →
      (∀ value middle, parser state = .success value middle → SteadyAlong parser watch middle) →
      ((∃ failed, rules.ruleWithin depth (.several rule) state = .failure failed) ↔
        ∃ failed, parser state = .failure failed) ∧
      ∀ value middle, parser state = .success value middle → ∃ values next,
        rules.ruleWithin depth (.many rule) middle = .success (.list values) next ∧
        rules.ruleWithin depth (.several rule) state = .success (.list (value :: values)) next) := by
  intro parser watch
  have watched : Watched parser watch := rules.watched_ruleWithin depth rule
  have forward : Forward parser watch := rules.forward_ruleWithin depth rule
  have many (state : State) : rules.ruleWithin depth (.many rule) state =
      (Parser.many parser).map .list state := rfl
  have several : rules.ruleWithin depth (.several rule) state =
      (Parser.several parser).map .list state := rfl
  obtain ⟨final, closes⟩ := reads.closes
  constructor
  · intro steady
    obtain ⟨values, last, next, maximal, success, same⟩ := steady.many watched forward closes
    refine ⟨final, values, last, next, closes.ends, maximal, ?_, ?_, same, same.position⟩
    · exact steady.length_le forward closes maximal.kept
    · rw [many, map_success success]
  · intro here steady
    constructor
    · rw [several, ← several_failure_iff watched forward closes here steady]
      simp only [map_failure_iff]
    · intro value middle success
      -- After the first application both repetitions go on from the same state.
      obtain ⟨values, next, others, all⟩ :=
        several_success watched forward closes here success (steady value middle success)
      refine ⟨values, next, ?_, ?_⟩
      · rw [many, map_success others]
      · rw [several, map_success all]

/-- This rule asks for a name in brackets with a report, and it succeeds where there is none. -/
def groupRule : Rule :=
  .pair (.report "group")
    (.optional (.sequence [.defer .leftParen .atomBegin, .emit .identifier .nameUse,
      .emit .rightParen .atomEnd, .pop]))

/-- This is the state before three groups, and the last of them is not closed. -/
def threeGroups : State := .ofBuffer (Reading.ofBytes (encode "(a) (b) (c")).buffer

theorem threeGroups_begin : (RuleSet.ruleWithin [] 0 groupRule threeGroups).Ends
    (fun next => threeGroups.position < next.position) (fun _ => False) := by decide +kernel

theorem threeGroups_end : (RuleSet.ruleWithin [] 0 (.many groupRule) threeGroups).Ends
    (fun next => next.position = 6 ∧ next.reports.size = 2) (fun _ => False) := by decide +kernel

/-- The rule of groups is steady along its repetition. -/
theorem threeGroups_steady :
    SteadyAlong (RuleSet.ruleWithin [] 0 groupRule) (RuleSet.watchOf [] 0 groupRule) threeGroups := by
  have keeps : RuleSet.KeepsSaves [] 0 (.many groupRule) threeGroups := by decide +kernel
  have succeeds : (RuleSet.ruleWithin [] 0 (.many groupRule) threeGroups).succeeded? = some true := by
    decide +kernel
  obtain ⟨_, _, success⟩ := Outcome.exists_success succeeds
  exact keeps.steadyAlong success

/-- The rule succeeds at the open group without moving on, so its third report is undone. The repetition of
at least one group adds the first group to those after it. -/
theorem threeGroups_repeated : threeGroups.Reads (encode "(a) (b) (c") ∧
    SteadyAlong (RuleSet.ruleWithin [] 0 groupRule) (RuleSet.watchOf [] 0 groupRule) threeGroups ∧
    (∃ final values last next, threeGroups.EndsAt final ∧
      Maximal (RuleSet.ruleWithin [] 0 groupRule) threeGroups values last ∧
      values.length ≤ final - threeGroups.position ∧
      RuleSet.ruleWithin [] 0 (.many groupRule) threeGroups = .success (.list values) next ∧
      last.SameBefore next ∧ next.position = 6 ∧ next.reports.size = 2) ∧
    ∃ value middle values next, RuleSet.ruleWithin [] 0 groupRule threeGroups = .success value middle ∧
      RuleSet.ruleWithin [] 0 (.many groupRule) middle = .success (.list values) next ∧
      RuleSet.ruleWithin [] 0 (.several groupRule) threeGroups =
        .success (.list (value :: values)) next := by
  have steady := threeGroups_steady
  have reads : threeGroups.Reads (encode "(a) (b) (c") := ⟨rfl, rfl⟩
  obtain ⟨many, several⟩ := repetition_ends _ [] 0 groupRule threeGroups reads
  refine ⟨reads, steady, ?_, ?_⟩
  · obtain ⟨final, values, last, next, ends, maximal, few, success, same, _⟩ := many steady
    exact ⟨final, values, last, next, ends, maximal, few, success, same,
      threeGroups_end.of_success success⟩
  · have begins : (RuleSet.ruleWithin [] 0 groupRule threeGroups).succeeded? = some true := by
      decide +kernel
    obtain ⟨value, middle, first⟩ := Outcome.exists_success begins
    obtain ⟨_, others⟩ := several steady.here fun value middle success =>
      steady.later success (threeGroups_begin.of_success success)
    obtain ⟨values, next, repeated, all⟩ := others value middle first
    exact ⟨value, middle, values, next, first, repeated, all⟩

end Reckon
