/-
This file shows that a rule that fails leaves no trace but the furthest failure. A return to a save
only truncates, so this needs that no rule pops an entry that is older than its save.
-/

import Reckon.Proofs.Parse.Watch

namespace Reckon

/-- This is a condition on the state that a parser stops in, whether it succeeds or fails. -/
def Outcome.Ends {A : Type} (succeeded failed : State → Prop) : Outcome A → Prop
  | .success _ state => succeeded state
  | .failure state => failed state
  | .fault _ _ => True

theorem Outcome.Ends.imp {A : Type} {succeeded failed succeeded' failed' : State → Prop}
    {outcome : Outcome A} (ends : outcome.Ends succeeded failed)
    (success : ∀ state, succeeded state → succeeded' state)
    (failure : ∀ state, failed state → failed' state) : outcome.Ends succeeded' failed' := by
  cases outcome with
  | success value state => exact success state ends
  | failure state => exact failure state ends
  | fault fault state => trivial

namespace Parser

open State

variable {A B C R : Type}

/-- A bounded parser keeps what is below the floor, also when it fails. -/
def Bounded (parser : Parser A) (watch : Watch) : Prop :=
  ∀ floor state, floor ≤ state.stack.size → watch floor state = true →
    (parser state).Ends (Extends floor state) (Extends floor state)

/-- A watched parser keeps what is below the floor, and a failure of it leaves no trace. -/
def Watched (parser : Parser A) (watch : Watch) : Prop :=
  ∀ floor state, floor ≤ state.stack.size → watch floor state = true →
    (parser state).Ends (Extends floor state) (SameBefore state)

/-- A parser that is watched all the time is bounded by its watch. -/
theorem Watched.bounded {parser : Parser A} {watch : Watch} (watched : Watched parser watch) :
    Bounded parser watch := fun floor state height kept =>
  (watched floor state height kept).imp (fun _ extended => extended)
    (fun _ same => same.extends height)

/-- Another value does not change where a parser stops. -/
theorem ends_map (parser : Parser A) (f : A → B) (state : State) (succeeded failed : State → Prop) :
    (parser.map f state).Ends succeeded failed ↔ (parser state).Ends succeeded failed := by
  unfold Parser.map Parser.andThen
  cases parser state <;> rfl

/-- What a parser did above the whole stack is undone. -/
theorem backtrack_extends {before failed : State} (extended : Extends before.stack.size before failed) :
    (backtrack before.save failed : Outcome A) =
      .failure { before with furthest := failed.furthest } := by
  rw [backtrack, extended.restore]

/-- A lookahead leaves no trace, also when it succeeds. -/
theorem Watched.lookahead {parser : Parser A} {watch : Watch} (watched : Watched parser watch)
    (state : State) (kept : watch state.stack.size state = true) :
    (lookahead parser state).Ends (SameBefore state) (SameBefore state) := by
  have ends := watched.bounded state.stack.size state (Nat.le_refl _) kept
  unfold Parser.lookahead
  dsimp only
  cases result : parser state with
  | success value next =>
      rw [result] at ends
      dsimp only
      rw [Extends.restore ends]
      exact rfl
  | failure failed =>
      rw [result] at ends
      dsimp only
      rw [backtrack_extends ends]
      exact rfl
  | fault fault failed => trivial

/-- A test for an absence changes nothing, not even the furthest failure. -/
theorem Watched.absent {parser : Parser A} {watch : Watch} (watched : Watched parser watch)
    (state : State) (kept : watch state.stack.size state = true) :
    (absent parser state).Ends (· = state) (· = state) := by
  have ends := watched.bounded state.stack.size state (Nat.le_refl _) kept
  unfold Parser.absent
  dsimp only
  cases result : parser state with
  | success value next =>
      rw [result] at ends
      dsimp only
      rw [Extends.restore ends]
      exact rfl
  | failure failed =>
      rw [result] at ends
      dsimp only
      rw [Extends.restore ends]
      exact rfl
  | fault fault failed => trivial

/-- A contained parser only has effects above the floor, also when it fails. -/
def Contained (parser : Parser A) (watch : Watch) : Prop :=
  ∀ floor state, floor ≤ state.stack.size → watch floor state = true →
    (parser state).Ends (Leads floor state) (Leads floor state)

/-- A clean parser only has effects above the floor, and a failure of it leaves no trace. -/
def Clean (parser : Parser A) (watch : Watch) : Prop :=
  ∀ floor state, floor ≤ state.stack.size → watch floor state = true →
    (parser state).Ends (Leads floor state) (SameBefore state)

section Clean

variable {parser : Parser A} {watch : Watch}

theorem Clean.contained (clean : Clean parser watch) : Contained parser watch :=
  fun floor state height kept => (clean floor state height kept).imp (fun _ => id)
    (fun _ => SameBefore.leads)

/-- Effects above the floor keep what is below it. -/
theorem Clean.watched (clean : Clean parser watch) : Watched parser watch :=
  fun floor state height kept => (clean floor state height kept).imp
    (fun _ leads => Leads.extends leads height) (fun _ => id)

/-- A sequence is contained when both of its parts are. -/
theorem Contained.andThen {next : A → Parser B} {second : Watch} (left : Contained parser watch)
    (right : ∀ value, Contained (next value) second) :
    Contained (parser.andThen next) (Watch.andThen parser watch second) := by
  intro floor state height kept
  simp only [Watch.andThen, Bool.and_eq_true] at kept
  have before := left floor state height kept.1
  unfold Parser.andThen
  cases result : parser state with
  | success value middle =>
      rw [result] at kept before
      have leads : Leads floor state middle := before
      exact (right value floor middle (leads.extends height).height kept.2).imp (fun _ => leads.trans)
        (fun _ => leads.trans)
  | failure failed =>
      rw [result] at before
      exact before
  | fault fault failed => trivial

theorem clean_succeed (value : A) (watch : Watch) : Clean (succeed value) watch := fun _ _ _ _ => .refl

theorem clean_fail (watch : Watch) : Clean (fail : Parser A) watch := fun _ _ _ _ => rfl

theorem Clean.map (clean : Clean parser watch) (f : A → B) : Clean (parser.map f) watch :=
  fun floor state height kept => (ends_map parser f state _ _).2 (clean floor state height kept)

theorem Contained.map (contained : Contained parser watch) (f : A → B) : Contained (parser.map f) watch :=
  fun floor state height kept => (ends_map parser f state _ _).2 (contained floor state height kept)

/-- A save raises the floor to the whole stack, so that a failure is undone. -/
theorem Contained.attempt (contained : Contained parser watch) : Clean parser.attempt watch.saved := by
  intro floor state height kept
  have ends := contained state.stack.size state (Nat.le_refl _) kept
  unfold Parser.attempt
  cases result : parser state with
  | success value next =>
      rw [result] at ends
      exact Leads.lower ends height
  | failure failed =>
      rw [result] at ends
      dsimp only
      rw [backtrack_extends (Leads.extends ends (Nat.le_refl _))]
      exact rfl
  | fault fault failed => trivial

/-- Clean parsers one after the other are contained. -/
theorem contained_inOrder (parsers : List (Parser A × Watch))
    (clean : ∀ part ∈ parsers, Clean part.1 part.2) :
    Contained (inOrder (parsers.map Prod.fst)) (Watch.inOrder parsers) := by
  induction parsers with
  | nil => exact (clean_succeed [] _).contained
  | cons part others ih =>
      have later := ih fun other member => clean other (List.mem_cons_of_mem _ member)
      have first := clean part List.mem_cons_self
      exact first.contained.andThen fun value => later.map _

/-- The alternatives before the one that succeeds leave no trace. -/
theorem clean_choice (parsers : List (Parser A × Watch))
    (clean : ∀ part ∈ parsers, Clean part.1 part.2) :
    Clean (choice (parsers.map Prod.fst)) (Watch.choice parsers) := by
  induction parsers with
  | nil => exact clean_fail _
  | cons part others ih =>
      have later := ih fun other member => clean other (List.mem_cons_of_mem _ member)
      have first := (clean part List.mem_cons_self).contained.attempt
      intro floor state height kept
      simp only [Watch.choice, Bool.and_eq_true] at kept
      have ends := first floor state height kept.1
      rw [List.map_cons, choice]
      dsimp only
      cases result : part.1.attempt state with
      | success value next =>
          rw [result] at ends
          exact ends
      | failure failed =>
          rw [result] at ends kept
          have same : SameBefore state failed := ends
          refine (later floor failed (same.extends height).height kept.2).imp ?_ (fun _ => same.trans)
          intro final leads
          exact same.leads.trans leads
      | fault fault failed => trivial

/-- A repetition leads along the applications that it keeps, and it undoes the last one. It does not fail. -/
theorem Clean.manyWithin (clean : Clean parser watch) (values : List A) (bound floor : Nat)
    (state : State) (height : floor ≤ state.stack.size)
    (kept : Watch.manyWithin parser watch bound floor state = true) :
    (manyWithin parser values bound state).Ends (Leads floor state) (fun _ => False) := by
  induction bound generalizing values state with
  | zero => trivial
  | succ bound ih =>
      simp only [Watch.manyWithin, Bool.and_eq_true] at kept
      have ends := clean.contained state.stack.size state (Nat.le_refl _) kept.1
      unfold Parser.manyWithin
      dsimp only
      cases result : parser state with
      | success value next =>
          rw [result] at ends kept
          have whole : Leads state.stack.size state next := ends
          have leads := whole.lower height
          dsimp only at kept ⊢
          split
          case isTrue =>
            rw [(whole.extends (Nat.le_refl _)).restore]
            exact SameBefore.leads rfl
          case isFalse moved =>
            rw [if_neg moved] at kept
            exact (ih _ next (leads.extends height).height kept.2).imp (fun _ => leads.trans)
              (fun _ => id)
      | failure failed =>
          rw [result] at ends
          have whole : Leads state.stack.size state failed := ends
          dsimp only
          rw [(whole.extends (Nat.le_refl _)).restore]
          exact SameBefore.leads rfl
      | fault fault failed => trivial

theorem Clean.many (clean : Clean parser watch) : Clean (many parser) (Watch.many parser watch) :=
  fun floor state height kept => (clean.manyWithin [] _ floor state height kept).imp (fun _ => id)
    (fun _ => False.elim)

/-- What may be absent is clean when it is clean where it is present. -/
theorem Clean.optional (clean : Clean parser watch) : Clean (optional parser) watch.saved := by
  intro floor state height kept
  have ends := clean.contained.attempt floor state height kept
  unfold Parser.optional
  cases result : parser.attempt state with
  | success value next =>
      rw [result] at ends
      exact ends
  | failure failed =>
      rw [result] at ends
      exact SameBefore.leads ends
  | fault fault failed => trivial

end Clean

/-- A token is consumed on top of the state. -/
theorem clean_consume (operation : State → Role → Except Fault (Handle × State)) (kind : Kind)
    (role : Role) (moves : ∀ floor state handle next,
      operation state role = .ok (handle, next) → Effect floor state next) :
    Clean (consume operation kind role) Watch.idle := by
  intro floor state _ _
  fun_cases consume operation kind role state with
  | case1 | case3 | case5 => trivial
  | case2 => exact .expect state kind.name
  | case4 _ handle next moved token found => exact .single (moves _ _ _ _ moved)

/-- A change is clean when every step of it is an operation above the height. -/
theorem clean_change (update : State → Except Fault State) (watch : Watch)
    (moves : ∀ floor state next, watch floor state = true → update state = .ok next →
      Effect floor state next) : Clean (change update) watch := by
  intro floor state _ kept
  unfold change
  cases result : update state with
  | ok next => exact .single (moves _ _ _ kept result)
  | error fault => trivial

/-- The end of input is found without a change of the output. -/
theorem clean_endOfInput : Clean endOfInput Watch.idle := by
  intro floor state _ _
  fun_cases endOfInput state with
  | case1 => exact .refl
  | case2 => exact .expect state _
  | case3 => trivial

end Parser

namespace Rule

open Reckon.Parser

variable {call : String → Parser Yield} {calls : String → Watch}

/-- Every parser comes with its own watch. -/
theorem watchesWith_fst (rules : List Rule) :
    (watchesWith call calls rules).map Prod.fst = parsersWith call rules := by
  induction rules with
  | nil => rfl
  | cons rule rules ih => rw [watchesWith, parsersWith, List.map_cons, ih]

mutual

/-- Every rule is clean when its references are. -/
theorem cleanWith (clean : ∀ name, Clean (call name) (calls name)) :
    (rule : Rule) → Clean (rule.parserWith call) (rule.watchWith call calls)
  | emit kind role => (clean_consume _ kind role fun _ _ _ _ => .push).map _
  | defer kind role => (clean_consume _ kind role fun _ _ _ _ => .shift).map _
  | pop => (clean_change _ _ fun _ _ _ kept => .pop (of_decide_eq_true kept)).map _
  | mark role => (clean_change _ Watch.idle fun _ _ _ _ => .mark).map _
  | endOfInput => clean_endOfInput.map _
  -- A part of a sequence may fail after an earlier one has moved, and the attempt undoes both.
  | sequence rules => by
      have parts := contained_inOrder _ (allCleanWith clean rules)
      rw [watchesWith_fst] at parts
      exact parts.attempt.map _
  | pair first second => by
      have left := (cleanWith clean first).contained
      have right := (cleanWith clean second).contained
      exact (left.andThen fun _ => right.map _).attempt
  | triple first second third => by
      have left := (cleanWith clean first).contained
      have middle := (cleanWith clean second).contained
      have right := (cleanWith clean third).contained
      exact (left.andThen fun _ => middle.andThen fun _ => right.map _).attempt
  | choice rules => by
      have parts := clean_choice _ (allCleanWith clean rules)
      rw [watchesWith_fst] at parts
      exact parts
  | many rule => (cleanWith clean rule).many.map _
  | several rule => by
      have first := cleanWith clean rule
      exact (first.contained.andThen fun _ => first.many.contained.map _).attempt.map _
  | labelled _ rule => (cleanWith clean rule).map _
  | optional rule => (cleanWith clean rule).optional.map _
  -- These two return to where they started either way, so all they keep is the furthest failure.
  | lookahead rule => fun _ state _ kept =>
      ((cleanWith clean rule).watched.lookahead state kept).imp (fun _ => State.SameBefore.leads)
        (fun _ => id)
  | absent rule => Clean.map (fun _ state _ kept =>
      ((cleanWith clean rule).watched.absent state kept).imp (fun _ same => by rw [same])
        (fun _ same => by rw [same]; exact rfl)) _
  | between opening rule closing => by
      have left := (cleanWith clean opening).contained
      have middle := (cleanWith clean rule).contained
      have right := (cleanWith clean closing).contained
      exact (left.andThen fun _ => middle.andThen fun _ => right.map _).attempt
  | discard rule => ((cleanWith clean rule).map _).map _
  | reference name => clean name
  | report text => fun _ _ _ _ => .single (.report _ rfl)
  | reject expected => fun _ state _ _ => by
      unfold parserWith Outcome.Ends
      dsimp only
      split
      · exact .refl state
      · exact .expect state expected

/-- The parsers of rules are clean when those that they call are. -/
theorem allCleanWith (clean : ∀ name, Clean (call name) (calls name)) :
    (rules : List Rule) → ∀ part ∈ watchesWith call calls rules, Clean part.1 part.2
  | [], part, member => by cases member
  | rule :: rules, part, member => by
      rcases List.mem_cons.1 member with first | later
      · rw [first]
        exact cleanWith clean rule
      · exact allCleanWith clean rules part later

end

end Rule

namespace RuleSet

/-- The parser of every rule in a rule set is clean. -/
theorem cleanWithin (rules : RuleSet) (depth : Nat) (name : String) :
    Parser.Clean (rules.parserWithin depth name) (rules.watchWithin depth name) := by
  induction depth generalizing name with
  | zero => exact fun _ _ _ _ => trivial
  | succ depth ih =>
      unfold parserWithin watchWithin
      cases rules.lookup name with
      | some rule => exact rule.cleanWith ih
      | none => exact Parser.clean_fail _

end RuleSet

/-- A rule that keeps its saves leaves no trace of a failure but the furthest one. A lookahead also
leaves none when it succeeds, and a test for an absence leaves none at all. -/
theorem backtracking_pure (rules : RuleSet) (depth : Nat) (rule : Rule) (state : State) :
    (rules.KeepsSaves depth rule state → ∀ failed,
      rules.ruleWithin depth rule state = .failure failed → state.SameBefore failed) ∧
    (rules.KeepsSaves depth (.lookahead rule) state → ∀ value next,
      rules.ruleWithin depth (.lookahead rule) state = .success value next →
        state.SameBefore next) ∧
    (rules.KeepsSaves depth (.absent rule) state →
      (∀ value next, rules.ruleWithin depth (.absent rule) state = .success value next →
        next = state) ∧
      ∀ failed, rules.ruleWithin depth (.absent rule) state = .failure failed → failed = state) := by
  have watched (rule : Rule) := (rule.cleanWith (rules.cleanWithin depth)).watched
  refine ⟨?_, ?_, ?_⟩
  · intro kept failed outcome
    have ends := watched rule 0 state (Nat.zero_le _) kept
    change Outcome.Ends _ _ (rules.ruleWithin depth rule state) at ends
    rw [outcome] at ends
    exact ends
  · intro kept value next outcome
    have ends := (watched rule).lookahead state kept
    change Outcome.Ends _ _ (rules.ruleWithin depth (.lookahead rule) state) at ends
    rw [outcome] at ends
    exact ends
  · intro kept
    have ends := (Parser.ends_map _ (fun _ => Yield.unit) state _ _).2
      ((watched rule).absent state kept)
    change Outcome.Ends _ _ (rules.ruleWithin depth (.absent rule) state) at ends
    refine ⟨fun value next outcome => ?_, fun failed outcome => ?_⟩
    all_goals
      rw [outcome] at ends
      exact ends

/-- This tells whether a parser succeeded or failed, unless it broke a rule. -/
def Outcome.succeeded? {A : Type} : Outcome A → Option Bool
  | .success _ _ => some true
  | .failure _ => some false
  | .fault _ _ => none

theorem Outcome.exists_success {A : Type} {outcome : Outcome A}
    (succeeded : outcome.succeeded? = some true) : ∃ value next, outcome = .success value next := by
  cases outcome <;> simp_all [Outcome.succeeded?]

theorem Outcome.exists_failure {A : Type} {outcome : Outcome A}
    (failed : outcome.succeeded? = some false) : ∃ next, outcome = .failure next := by
  cases outcome <;> simp_all [Outcome.succeeded?]

/-- A nest is a name in any number of brackets. -/
def nestRules : RuleSet :=
  [("nest", .choice
    [.sequence [.defer .leftParen .atomBegin, .reference "nest", .pop, .emit .rightParen .atomEnd],
      .emit .identifier .nameUse])]

/-- This is the state before two brackets are opened around a name, and none is closed. -/
def openNest : State :=
  let span (start stop : Int) : Span := ⟨⟨start, 1, start + 1⟩, ⟨stop, 1, stop + 1⟩⟩
  .ofBuffer ⟨#[40, 40, 120], #[⟨.leftParen, span 0 1⟩, ⟨.leftParen, span 1 2⟩,
    ⟨.identifier, span 2 3⟩, ⟨.endOfInput, span 3 3⟩]⟩

/-- A nest that is not closed is undone, although it was shifted and popped, and neither a lookahead
nor the test for the absence of a nest leaves a trace. -/
theorem openNest_undone :
    (nestRules.KeepsSaves 4 (.reference "nest") openNest ∧ ∃ failed,
      nestRules.ruleWithin 4 (.reference "nest") openNest = .failure failed ∧
        openNest.SameBefore failed) ∧
    (nestRules.KeepsSaves 4 (.lookahead (.defer .leftParen .atomBegin)) openNest ∧ ∃ value next,
      nestRules.ruleWithin 4 (.lookahead (.defer .leftParen .atomBegin)) openNest =
        .success value next ∧ openNest.SameBefore next) ∧
    (nestRules.KeepsSaves 4 (.absent (.reference "nest")) openNest ∧ ∃ value,
      nestRules.ruleWithin 4 (.absent (.reference "nest")) openNest = .success value openNest) := by
  have nest := backtracking_pure nestRules 4 (.reference "nest") openNest
  have shift := backtracking_pure nestRules 4 (.defer .leftParen .atomBegin) openNest
  have kept : nestRules.KeepsSaves 4 (.reference "nest") openNest := by decide +kernel
  have looked : nestRules.KeepsSaves 4 (.lookahead (.defer .leftParen .atomBegin)) openNest := by
    decide +kernel
  have missed : nestRules.KeepsSaves 4 (.absent (.reference "nest")) openNest := by decide +kernel
  have fails : (nestRules.ruleWithin 4 (.reference "nest") openNest).succeeded? = some false := by
    decide +kernel
  have sees : (nestRules.ruleWithin 4 (.lookahead (.defer .leftParen .atomBegin))
      openNest).succeeded? = some true := by decide +kernel
  have misses : (nestRules.ruleWithin 4 (.absent (.reference "nest")) openNest).succeeded? =
      some true := by decide +kernel
  refine ⟨⟨kept, ?_⟩, ⟨looked, ?_⟩, ⟨missed, ?_⟩⟩
  · obtain ⟨failed, result⟩ := Outcome.exists_failure fails
    exact ⟨failed, result, nest.1 kept failed result⟩
  · obtain ⟨value, next, result⟩ := Outcome.exists_success sees
    exact ⟨value, next, result, shift.2.1 looked value next result⟩
  · obtain ⟨value, next, result⟩ := Outcome.exists_success misses
    have same := (nest.2.2 missed).1 value next result
    rw [same] at result
    exact ⟨value, result⟩

end Reckon
