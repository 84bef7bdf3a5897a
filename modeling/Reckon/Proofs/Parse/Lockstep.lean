/-
This file runs parsers on two inputs with the same words. They stay in lockstep: they are at the same
position all the time, and they only differ in the places of what they found.
-/

import Mathlib.Data.List.Forall2
import Reckon.Parse.Parser
import Reckon.Proofs.Parse.Facing
import Reckon.Proofs.Token.Wording

namespace Reckon

/-- This is a cause without the place of a token. -/
def Cause.bare : Cause → Cause
  | unexpectedToken found expected => unexpectedToken { found with span := ⟨.start, .start⟩ } expected
  | cause => cause

/-- These are the causes of a report from left to right, without their places. -/
def Report.causes (report : Report) : List Cause := report.leaves.map fun leaf => leaf.1.bare

/-- The causes of joined reports are those of each, one after the other. -/
theorem Report.causes_joined (reports : List Report) :
    (joined reports).causes = (reports.map causes).flatten := by
  rw [causes, leaves, leavesIn]
  induction reports with
  | nil => rfl
  | cons report reports ih => rw [allLeavesIn, List.map_append, ih, List.map_cons, List.flatten_cons]; rfl

/-- Results are alike when both are values that are related, or reports of the same causes. -/
inductive Result.Alike {A B : Type} (related : A → B → Prop) : Result A → Result B → Prop where
  | ok {value : A} {value' : B} (here : related value value') : Alike related (.ok value) (.ok value')
  | report {report report' : Report} (same : report.causes = report'.causes) :
      Alike related (.error (.report report)) (.error (.report report'))
  | fault (fault : Fault) : Alike related (.error (.fault fault)) (.error (.fault fault))

theorem Token.same_kind {token token' : Token} (same : token.word = token'.word) :
    token.kind = token'.kind := congrArg Word.kind same

theorem Token.same_lexeme {token token' : Token} (same : token.word = token'.word) :
    token.lexeme = token'.lexeme := congrArg Word.lexeme same

/-- Tokens that spell the same word are unexpected for the same bare cause. -/
theorem Token.bare_unexpected {token token' : Token} (same : token.word = token'.word)
    (expected : List String) :
    (Cause.unexpectedToken token expected).bare = (Cause.unexpectedToken token' expected).bare := by
  rw [Cause.bare, Cause.bare, Token.same_kind same, Token.same_lexeme same]

/-- Results match when both are values that are related, or the same fault. -/
inductive Matched {A B : Type} (related : A → B → Prop) : Except Fault A → Except Fault B → Prop where
  | ok {value : A} {value' : B} (here : related value value') : Matched related (.ok value) (.ok value')
  | error (fault : Fault) : Matched related (.error fault) (.error fault)

/-- Values that match still match after related functions were applied to them. -/
theorem Matched.map {A B C D : Type} {related : A → B → Prop} {related' : C → D → Prop}
    {result : Except Fault A} {result' : Except Fault B} (matched : Matched related result result')
    {f : A → C} {g : B → D} (good : ∀ value value', related value value' → related' (f value) (g value')) :
    Matched related' (result.map f) (result'.map g) := by
  cases matched with
  | ok here => exact .ok (good _ _ here)
  | error fault => exact .error fault

/-- Computations match when they go on alike from values that match. -/
theorem Matched.bind {A B C D : Type} {related : A → B → Prop} {related' : C → D → Prop}
    {result : Except Fault A} {result' : Except Fault B} (matched : Matched related result result')
    {f : A → Except Fault C} {g : B → Except Fault D}
    (next : ∀ value value', related value value' → Matched related' (f value) (g value')) :
    Matched related' (result >>= f) (result' >>= g) := by
  cases matched with
  | ok here => exact next _ _ here
  | error fault => exact .error fault

/-- Two states are twins when their significant tokens spell the same words. -/
structure Twins where
  left : State
  right : State
  spelled : List.Forall₂ (fun handle handle' => ∃ token token', left.input.token handle = .ok token ∧
    right.input.token handle' = .ok token' ∧ token.word = token'.word)
    left.significant.toList right.significant.toList

open Reckon.Parser

namespace Twins

variable {twins : Twins}

/-- Two handles are the same when they have the same place among the significant tokens. -/
def SameHandle (twins : Twins) (handle handle' : Handle) : Prop :=
  ∃ index : Nat,
    twins.left.significant[index]? = some handle ∧ twins.right.significant[index]? = some handle'

structure SameRecord (twins : Twins) (record record' : Record) : Prop where
  role : record.role = record'.role
  handle : twins.SameHandle record.handle record'.handle
  position : record.position = record'.position

/-- Two states are parallel when they are reached from twins by the same steps. -/
structure Parallel (twins : Twins) (state state' : State) : Prop where
  input : state.input = twins.left.input
  input' : state'.input = twins.right.input
  significant : state.significant = twins.left.significant
  significant' : state'.significant = twins.right.significant
  nodes : List.Forall₂ twins.SameRecord state.nodes.toList state'.nodes.toList
  stack : List.Forall₂ twins.SameRecord state.stack.toList state'.stack.toList
  reports : state.reports.toList.map Report.causes = state'.reports.toList.map Report.causes
  furthest : state.furthest = state'.furthest

theorem size_eq (twins : Twins) : twins.left.significant.size = twins.right.significant.size :=
  twins.spelled.length_eq

/-- Handles of the same place lead to tokens that spell the same word. -/
theorem SameHandle.token {handle handle' : Handle} (same : twins.SameHandle handle handle') :
    ∃ token token', twins.left.input.token handle = .ok token ∧
      twins.right.input.token handle' = .ok token' ∧ token.word = token'.word := by
  obtain ⟨index, found, found'⟩ := same
  obtain ⟨inside, rfl⟩ := Array.getElem?_eq_some_iff.1 found
  obtain ⟨inside', rfl⟩ := Array.getElem?_eq_some_iff.1 found'
  exact (List.forall₂_iff_get.1 twins.spelled).2 index inside inside'

/-- At every index both twins have a significant token, or neither has. -/
theorem sameHandle_getElem? (twins : Twins) (index : Nat) :
    (twins.left.significant[index]? = none ∧ twins.right.significant[index]? = none) ∨
      ∃ handle handle', twins.left.significant[index]? = some handle ∧
        twins.right.significant[index]? = some handle' ∧ twins.SameHandle handle handle' := by
  have size := twins.size_eq
  by_cases inside : index < twins.left.significant.size
  · have found := Array.getElem?_eq_getElem inside
    have found' := Array.getElem?_eq_getElem (size ▸ inside)
    exact .inr ⟨_, _, found, found', index, found, found'⟩
  · rw [Array.getElem?_eq_none (Nat.not_lt.1 inside),
      Array.getElem?_eq_none (size ▸ Nat.not_lt.1 inside)]
    exact .inl ⟨rfl, rfl⟩

section Records

variable {records records' : Array Record}

/-- The last position is read off the positions of all records. -/
theorem lastPosition_eq (records : Array Record) :
    State.lastPosition records = (records.toList.map Record.position).getLast?.getD 0 := by
  rw [State.lastPosition, List.getLast?_map, Array.getLast?_toList]
  cases records.back? <;> rfl

/-- Records that are the same note the same last position. -/
theorem sameRecords_lastPosition (all : List.Forall₂ twins.SameRecord records.toList records'.toList) :
    State.lastPosition records = State.lastPosition records' := by
  have same : records.toList.map Record.position = records'.toList.map Record.position := by
    rw [← List.forall₂_eq_eq_eq, List.forall₂_map_left_iff, List.forall₂_map_right_iff]
    exact all.imp fun record record' same => same.position
  rw [lastPosition_eq, lastPosition_eq, same]

/-- Records stay the same when the same record is added to both. -/
theorem sameRecords_push (all : List.Forall₂ twins.SameRecord records.toList records'.toList)
    {record record' : Record} (same : twins.SameRecord record record') :
    List.Forall₂ twins.SameRecord (records.push record).toList (records'.push record').toList := by
  rw [Array.toList_push, Array.toList_push]
  exact List.rel_append all (.cons same .nil)

/-- Arrays of related items are cut alike. -/
theorem matched_cutTo {A B : Type} {related : A → B → Prop} {items : Array A} {items' : Array B}
    (all : List.Forall₂ related items.toList items'.toList) (size : Nat) :
    Matched (fun found found' => List.Forall₂ related found.toList found'.toList)
      (State.cutTo items size) (State.cutTo items' size) := by
  have sizes : items.size = items'.size := all.length_eq
  rw [State.cutTo, State.cutTo, sizes]
  split
  · refine .ok ?_
    rw [Array.toList_shrink, Array.toList_shrink]
    exact List.forall₂_take size all
  · exact .error _

/-- The last records are the same, if there are any, and so are those before them. -/
theorem sameRecords_back? (all : List.Forall₂ twins.SameRecord records.toList records'.toList) :
    (records.back? = none ∧ records'.back? = none) ∨
      ∃ record record', records.back? = some record ∧ records'.back? = some record' ∧
        twins.SameRecord record record' ∧
        List.Forall₂ twins.SameRecord records.pop.toList records'.pop.toList := by
  have init : List.Forall₂ twins.SameRecord records.pop.toList records'.pop.toList := by
    rw [Array.toList_pop, Array.toList_pop, List.dropLast_eq_take, List.dropLast_eq_take,
      all.length_eq]
    exact List.forall₂_take _ all
  rw [← Array.getLast?_toList, ← Array.getLast?_toList, List.getLast?_eq_head?_reverse,
    List.getLast?_eq_head?_reverse]
  have reversed := List.forall₂_reverse_iff.2 all
  generalize records.toList.reverse = ends, records'.toList.reverse = ends' at reversed
  cases reversed with
  | nil => exact .inl ⟨rfl, rfl⟩
  | cons same _ => exact .inr ⟨_, _, rfl, rfl, same, init⟩

end Records

section States

variable {state state' : State}

theorem Parallel.position (parallel : twins.Parallel state state') : state.position = state'.position := by
  rw [State.position, State.position, sameRecords_lastPosition parallel.nodes,
    sameRecords_lastPosition parallel.stack]

/-- Parallel states have the same sizes to return to. -/
theorem Parallel.save (parallel : twins.Parallel state state') : state.save = state'.save := by
  have nodes := parallel.nodes.length_eq
  have stack := parallel.stack.length_eq
  have reports := congrArg List.length parallel.reports
  rw [List.length_map, List.length_map] at reports
  rw [State.save, State.save, ← Array.length_toList, nodes, ← Array.length_toList, stack,
    ← Array.length_toList, reports]
  rfl

/-- A return to the same save keeps states parallel, or faults in both. -/
theorem Parallel.restore (parallel : twins.Parallel state state') (save : Save) :
    Matched twins.Parallel (state.restore save) (state'.restore save) := by
  have stack : state.stack.size = state'.stack.size := parallel.stack.length_eq
  have reports := parallel.reports
  rw [← List.forall₂_eq_eq_eq, List.forall₂_map_left_iff, List.forall₂_map_right_iff] at reports
  rw [State.restore, State.restore, stack]
  split
  · exact .error _
  · refine (matched_cutTo parallel.nodes save.nodes).bind fun nodes nodes' sameNodes => ?_
    refine (matched_cutTo parallel.stack save.stack).bind fun stack stack' sameStack => ?_
    refine (matched_cutTo reports save.reports).bind fun reports reports' sameReports => ?_
    refine .ok { parallel with nodes := sameNodes, stack := sameStack, reports := ?_ }
    rw [← List.forall₂_eq_eq_eq, List.forall₂_map_left_iff, List.forall₂_map_right_iff]
    exact sameReports

/-- The significant tokens at one position have the same handle, up to their place. -/
theorem Parallel.handleAt (parallel : twins.Parallel state state') (position : Nat) :
    Matched twins.SameHandle (state.handleAt position) (state'.handleAt position) := by
  rw [State.handleAt, State.handleAt, parallel.significant, parallel.significant', twins.size_eq]
  rcases twins.sameHandle_getElem? (min position (twins.right.significant.size - 1)) with
    ⟨none, none'⟩ | ⟨handle, handle', found, found', same⟩
  · rw [none, none']
    exact .error _
  · rw [found, found']
    exact .ok same

/-- A handle of one state and the same handle of the other spell the same word. -/
theorem Parallel.token (parallel : twins.Parallel state state') {handle handle' : Handle}
    (same : twins.SameHandle handle handle') : ∃ token token', state.input.token handle = .ok token ∧
      state'.input.token handle' = .ok token' ∧ token.word = token'.word := by
  rw [parallel.input, parallel.input']
  exact same.token

/-- The current tokens of parallel states have the same place. -/
theorem Parallel.current (parallel : twins.Parallel state state') :
    Matched twins.SameHandle state.current state'.current := by
  rw [State.current, State.current, parallel.position]
  exact parallel.handleAt _

/-- The current tokens of parallel states spell the same word. -/
theorem Parallel.peek (parallel : twins.Parallel state state') :
    Matched (fun token token' => token.word = token'.word) state.peek state'.peek := by
  have current := parallel.current
  rw [State.peek, State.peek]
  generalize state.current = found, state'.current = found' at current
  cases current with
  | error fault => exact .error fault
  | ok same =>
      obtain ⟨token, token', read, read', word⟩ := parallel.token same
      dsimp only
      rw [read, read']
      exact .ok word

/-- A test of the kind of the current token has the same answer in parallel states. -/
theorem Parallel.is (parallel : twins.Parallel state state') (kind : Kind) :
    state.is kind = state'.is kind := by
  have current := parallel.current
  rw [State.is, State.is, State.kind, State.kind]
  generalize state.current = found, state'.current = found' at current
  cases current with
  | error fault => rfl
  | ok same =>
      obtain ⟨token, token', read, read', word⟩ := parallel.token same
      dsimp only
      rw [Buffer.kind_of_token read, Buffer.kind_of_token read', Token.same_kind word]

/-- The current token can be consumed in both of two parallel states, or in neither. -/
theorem Parallel.consumable (parallel : twins.Parallel state state') :
    Matched twins.SameHandle state.consumable state'.consumable := by
  rw [State.consumable, State.consumable, State.atEnd, State.atEnd, parallel.is]
  cases state'.is .endOfInput with
  | error fault => exact .error fault
  | ok ends =>
      cases ends with
      | true => exact .error _
      | false => exact parallel.current

/-- Two steps are parallel when they consume the same token. -/
def Consumed (twins : Twins) (step step' : Handle × State) : Prop :=
  twins.SameHandle step.1 step'.1 ∧ twins.Parallel step.2 step'.2

/-- Both states consume the same word as an output node, and they stay parallel. -/
theorem Parallel.push (parallel : twins.Parallel state state') (role : Role) :
    Matched twins.Consumed (state.push role) (state'.push role) := by
  refine parallel.consumable.map fun handle handle' same => ⟨same, { parallel with nodes := ?_ }⟩
  exact sameRecords_push parallel.nodes ⟨rfl, same, congrArg (· + 1) parallel.position⟩

/-- Both states put the same word on the shift stack, and they stay parallel. -/
theorem Parallel.shift (parallel : twins.Parallel state state') (role : Role) :
    Matched twins.Consumed (state.shift role) (state'.shift role) := by
  refine parallel.consumable.map fun handle handle' same => ⟨same, { parallel with stack := ?_ }⟩
  exact sameRecords_push parallel.stack ⟨rfl, same, congrArg (· + 1) parallel.position⟩

/-- The same entry moves to the output in both states, or both stacks are empty. -/
theorem Parallel.pop (parallel : twins.Parallel state state') :
    Matched twins.Parallel state.pop state'.pop := by
  rw [State.pop, State.pop]
  rcases sameRecords_back? parallel.stack with ⟨none, none'⟩ | ⟨top, top', found, found', same, below⟩
  · rw [none, none']
    exact .error _
  · rw [found, found']
    refine .ok { parallel with nodes := ?_, stack := below }
    exact sameRecords_push parallel.nodes ⟨same.role, same.handle, parallel.position⟩

/-- A mark is added at the same token of both states. -/
theorem Parallel.mark (parallel : twins.Parallel state state') (role : Role) :
    Matched twins.Parallel (state.mark role) (state'.mark role) := by
  refine parallel.current.map fun handle handle' same => { parallel with nodes := ?_ }
  exact sameRecords_push parallel.nodes ⟨rfl, same, parallel.position⟩

/-- Reports of the same causes keep states parallel, whatever their places are. -/
theorem Parallel.report (parallel : twins.Parallel state state') {report report' : Report}
    (same : report.causes = report'.causes) :
    twins.Parallel (state.report report) (state'.report report') := by
  refine { parallel with reports := ?_ }
  rw [State.report, State.report, Array.toList_push, Array.toList_push, List.map_append, List.map_append,
    parallel.reports, List.map_singleton, List.map_singleton, same]

/-- What is expected is noted at the same position of both states. -/
theorem Parallel.expect (parallel : twins.Parallel state state') (what : String) :
    twins.Parallel (state.expect what) (state'.expect what) := by
  rw [State.expect, State.expect, parallel.position, parallel.furthest]
  split
  · exact { parallel with furthest := rfl }
  · split
    · exact { parallel with furthest := rfl }
    · split
      · exact { parallel with furthest := rfl }
      · exact parallel

/-- The furthest failures of parallel states are reported with the same causes. -/
theorem Parallel.failure (parallel : twins.Parallel state state') :
    Matched (fun report report' => report.causes = report'.causes) state.failure state'.failure := by
  rw [State.failure, State.failure, parallel.furthest]
  cases state'.furthest with
  | none => exact .ok rfl
  | some furthest =>
      have found := parallel.handleAt furthest.position
      dsimp only
      generalize state.handleAt furthest.position = handle, state'.handleAt furthest.position = handle'
        at found
      cases found with
      | error fault => exact .error fault
      | ok same =>
          obtain ⟨token, token', read, read', word⟩ := parallel.token same
          change Matched _ (state.input.token _ >>= _) (state'.input.token _ >>= _)
          rw [read, read']
          change Matched _ (if _ then _ else _) (if _ then _ else _)
          rw [Token.same_kind word]
          split
          · exact .ok rfl
          · exact .ok (congrArg (fun cause => [cause]) (Token.bare_unexpected word _))

end States

/-- Outcomes are parallel when both are of the same sort, with values that are related. -/
inductive Outcomes {A B : Type} (twins : Twins) (related : A → B → Prop) : Outcome A → Outcome B → Prop where
  | success {value : A} {value' : B} {state state' : State} (here : related value value')
      (parallel : twins.Parallel state state') :
      Outcomes twins related (.success value state) (.success value' state')
  | failure {state state' : State} (parallel : twins.Parallel state state') :
      Outcomes twins related (.failure state) (.failure state')
  | fault (fault : Fault) {state state' : State} (parallel : twins.Parallel state state') :
      Outcomes twins related (.fault fault state) (.fault fault state')

/-- Parsers are in lockstep when they take parallel states to parallel outcomes. -/
def Lockstep {A B : Type} (twins : Twins) (related : A → B → Prop) (parser : Parser A)
    (parser' : Parser B) : Prop :=
  ∀ state state', twins.Parallel state state' →
    twins.Outcomes related (parser state) (parser' state')

section Parsers

variable {A A' B B' C C' R R' : Type} {related : A → A' → Prop} {related' : B → B' → Prop}
  {related'' : C → C' → Prop} {further : R → R' → Prop}

theorem lockstep_succeed {value : A} {value' : A'} (here : related value value') :
    twins.Lockstep related (succeed value) (succeed value') :=
  fun _ _ parallel => .success here parallel

/-- Two parsers in lockstep can be followed by parsers in lockstep. -/
theorem Lockstep.andThen {first : Parser A} {first' : Parser A'} {second : A → Parser B}
    {second' : A' → Parser B'} (left : twins.Lockstep related first first')
    (right : ∀ value value', related value value' →
      twins.Lockstep related' (second value) (second' value')) :
    twins.Lockstep related' (first.andThen second) (first'.andThen second') := by
  intro state state' parallel
  have outcomes := left state state' parallel
  rw [Parser.andThen, Parser.andThen]
  generalize first state = outcome, first' state' = outcome' at outcomes
  cases outcomes with
  | success here parallel => exact right _ _ here _ _ parallel
  | failure parallel => exact .failure parallel
  | fault fault parallel => exact .fault fault parallel

/-- Lockstep does not depend on what is made of the values. -/
theorem Lockstep.map {parser : Parser A} {parser' : Parser A'}
    (lockstep : twins.Lockstep related parser parser') {f : A → B} {f' : A' → B'}
    (good : ∀ value value', related value value' → related' (f value) (f' value')) :
    twins.Lockstep related' (parser.map f) (parser'.map f') :=
  lockstep.andThen fun value value' here => lockstep_succeed (good value value' here)

theorem Lockstep.discard {parser : Parser A} {parser' : Parser A'}
    (lockstep : twins.Lockstep related parser parser') :
    twins.Lockstep Eq parser.discard parser'.discard := lockstep.map fun _ _ _ => rfl

/-- An update that keeps states parallel is in lockstep with itself. -/
theorem lockstep_change {update update' : State → Except Fault State}
    (updates : ∀ state state', twins.Parallel state state' →
      Matched twins.Parallel (update state) (update' state')) :
    twins.Lockstep Eq (change update) (change update') := by
  intro state state' parallel
  have matched := updates state state' parallel
  rw [change, change]
  generalize update state = next, update' state' = next' at matched
  cases matched with
  | ok parallel' => exact .success rfl parallel'
  | error fault => exact .fault fault parallel

/-- A return to a save keeps the lockstep. -/
theorem Parallel.restored {state state' : State} (parallel : twins.Parallel state state') (save : Save)
    {next : State → Outcome A} {next' : State → Outcome A'}
    (later : ∀ state state', twins.Parallel state state' →
      twins.Outcomes related (next state) (next' state')) :
    twins.Outcomes related
      (match state.restore save with
        | .ok restored => next restored
        | .error fault => .fault fault state)
      (match state'.restore save with
        | .ok restored => next' restored
        | .error fault => .fault fault state') := by
  have matched := parallel.restore save
  generalize state.restore save = restored, state'.restore save = restored' at matched
  cases matched with
  | ok parallel' => exact later _ _ parallel'
  | error fault => exact .fault fault parallel

theorem lockstep_backtrack (save : Save) :
    twins.Lockstep related (backtrack save) (backtrack save) :=
  fun _ _ parallel => parallel.restored save fun _ _ restored => .failure restored

/-- An attempt that fails in one state fails in the other, and both return. -/
theorem Lockstep.attempt {parser : Parser A} {parser' : Parser A'}
    (lockstep : twins.Lockstep related parser parser') :
    twins.Lockstep related parser.attempt parser'.attempt := by
  intro state state' parallel
  have outcomes := lockstep state state' parallel
  rw [Parser.attempt, Parser.attempt, parallel.save]
  generalize parser state = outcome, parser' state' = outcome' at outcomes
  cases outcomes with
  | success here parallel => exact .success here parallel
  | failure parallel => exact lockstep_backtrack _ _ _ parallel
  | fault fault parallel => exact .fault fault parallel

/-- Words are what tokens share in lockstep. -/
def SameWord (token token' : Token) : Prop := token.word = token'.word

/-- A token of the kind is consumed in both states or in neither. -/
theorem lockstep_consume {operation : State → Role → Except Fault (Handle × State)}
    (operates : ∀ state state' role, twins.Parallel state state' →
      Matched twins.Consumed (operation state role) (operation state' role)) (kind : Kind) (role : Role) :
    twins.Lockstep SameWord (consume operation kind role) (consume operation kind role) := by
  intro state state' parallel
  rw [consume, consume, parallel.is]
  cases state'.is kind with
  | error fault => exact .fault fault parallel
  | ok isKind =>
      cases isKind with
      | false => exact .failure (parallel.expect kind.name)
      | true =>
          have matched := operates state state' role parallel
          dsimp only
          generalize operation state role = step, operation state' role = step' at matched
          cases matched with
          | error fault => exact .fault fault parallel
          | @ok step step' consumed =>
              obtain ⟨token, token', read, read', word⟩ := consumed.2.token consumed.1
              dsimp only
              rw [read, read']
              exact .success word consumed.2

theorem lockstep_emit (kind : Kind) (role : Role) :
    twins.Lockstep SameWord (emit kind role) (emit kind role) :=
  lockstep_consume (fun _ _ role parallel => parallel.push role) kind role

theorem lockstep_token (kind : Kind) :
    twins.Lockstep SameWord (Parser.token kind) (Parser.token kind) := lockstep_emit kind .token

theorem lockstep_defer (kind : Kind) (role : Role) :
    twins.Lockstep SameWord (defer kind role) (defer kind role) :=
  lockstep_consume (fun _ _ role parallel => parallel.shift role) kind role

theorem lockstep_pop : twins.Lockstep Eq Parser.pop Parser.pop :=
  lockstep_change fun _ _ parallel => parallel.pop

theorem lockstep_mark (role : Role) : twins.Lockstep Eq (Parser.mark role) (Parser.mark role) :=
  lockstep_change fun _ _ parallel => parallel.mark role

/-- The end of input is found in both states or in neither. -/
theorem lockstep_endOfInput : twins.Lockstep Eq endOfInput endOfInput := by
  intro state state' parallel
  rw [endOfInput, endOfInput, State.atEnd, State.atEnd, parallel.is]
  cases state'.is .endOfInput with
  | error fault => exact .fault fault parallel
  | ok ends =>
      cases ends with
      | true => exact .success rfl parallel
      | false => exact .failure (parallel.expect _)

/-- Parsers one after the other are in lockstep when each of them is. -/
theorem lockstep_inOrder {parsers : List (Parser A)} {related : A → A → Prop}
    (all : ∀ parser ∈ parsers, twins.Lockstep related parser parser) :
    twins.Lockstep (List.Forall₂ related) (inOrder parsers) (inOrder parsers) := by
  induction parsers with
  | nil => exact lockstep_succeed .nil
  | cons parser parsers ih =>
      obtain ⟨first, later⟩ := List.forall_mem_cons.1 all
      exact first.andThen fun value value' here => (ih later).map fun values values' others =>
        .cons here others

/-- A sequence that fails midway fails midway in both states. -/
theorem lockstep_sequence {parsers : List (Parser A)} {related : A → A → Prop}
    (all : ∀ parser ∈ parsers, twins.Lockstep related parser parser) :
    twins.Lockstep (List.Forall₂ related) (sequence parsers) (sequence parsers) :=
  (lockstep_inOrder all).attempt

/-- A pair is in lockstep when both of its parts are. -/
theorem Lockstep.pair {first : Parser A} {first' : Parser A'} {second : Parser B} {second' : Parser B'}
    (left : twins.Lockstep related first first') (right : twins.Lockstep related' second second')
    {f : A → B → R} {f' : A' → B' → R'} (good : ∀ a a' b b', related a a' → related' b b' →
      further (f a b) (f' a' b')) :
    twins.Lockstep further (pair first second f) (pair first' second' f') :=
  (left.andThen fun a a' here => right.map fun b b' there => good a a' b b' here there).attempt

/-- A triple is in lockstep when all of its parts are. -/
theorem Lockstep.triple {first : Parser A} {first' : Parser A'} {second : Parser B}
    {second' : Parser B'} {third : Parser C} {third' : Parser C'}
    (left : twins.Lockstep related first first') (middle : twins.Lockstep related' second second')
    (right : twins.Lockstep related'' third third') {f : A → B → C → R} {f' : A' → B' → C' → R'}
    (good : ∀ a a' b b' c c', related a a' → related' b b' → related'' c c' →
      further (f a b c) (f' a' b' c')) :
    twins.Lockstep further (triple first second third f) (triple first' second' third' f') :=
  (left.andThen fun a a' here => middle.andThen fun b b' there => right.map fun c c' last =>
    good a a' b b' c c' here there last).attempt

/-- Brackets keep in lockstep what is between them. -/
theorem Lockstep.between {opening : Parser A} {parser : Parser B} {parser' : Parser B'}
    {closing : Parser C} {related : A → A → Prop} {related'' : C → C → Prop}
    (opens : twins.Lockstep related opening opening) (inside : twins.Lockstep related' parser parser')
    (closes : twins.Lockstep related'' closing closing) :
    twins.Lockstep related' (between opening parser closing) (between opening parser' closing) :=
  opens.triple inside closes fun _ _ _ _ _ _ _ here _ => here

/-- The alternative that is taken in one state is the one that is taken in the other. -/
theorem lockstep_choice {parsers : List (Parser A)} {related : A → A → Prop}
    (all : ∀ parser ∈ parsers, twins.Lockstep related parser parser) :
    twins.Lockstep related (choice parsers) (choice parsers) := by
  induction parsers with
  | nil => exact fun _ _ parallel => .failure parallel
  | cons parser parsers ih =>
      obtain ⟨first, later⟩ := List.forall_mem_cons.1 all
      intro state state' parallel
      have outcomes := first.attempt state state' parallel
      rw [choice]
      dsimp only
      generalize parser.attempt state = outcome, parser.attempt state' = outcome' at outcomes
      cases outcomes with
      | success here parallel => exact .success here parallel
      | failure parallel => exact ih later _ _ parallel
      | fault fault parallel => exact .fault fault parallel

/-- A repetition goes on equally often in both states, and keeps related values. -/
theorem lockstep_manyWithin {parser : Parser A} {related : A → A → Prop}
    (lockstep : twins.Lockstep related parser parser) (bound : Nat) {values values' : List A}
    (earlier : List.Forall₂ related values values') :
    twins.Lockstep (List.Forall₂ related) (manyWithin parser values bound)
      (manyWithin parser values' bound) := by
  induction bound generalizing values values' with
  | zero => exact fun _ _ parallel => .fault _ parallel
  | succ bound ih =>
      intro state state' parallel
      have outcomes := lockstep state state' parallel
      have stop {stopped stopped' : State} (parallel : twins.Parallel stopped stopped') :=
        parallel.restored state'.save fun _ _ restored =>
          Outcomes.success (List.rel_reverse earlier) restored
      rw [manyWithin, manyWithin]
      dsimp only
      rw [parallel.save, parallel.position]
      generalize parser state = outcome, parser state' = outcome' at outcomes
      cases outcomes with
      | failure parallel => exact stop parallel
      | fault fault parallel => exact .fault fault parallel
      | success here parallel =>
          dsimp only
          rw [parallel.position]
          split
          · exact stop parallel
          · exact ih (.cons here earlier) _ _ parallel

/-- A repetition ends after equally many values in both states. -/
theorem Lockstep.many {parser : Parser A} {related : A → A → Prop}
    (lockstep : twins.Lockstep related parser parser) :
    twins.Lockstep (List.Forall₂ related) (many parser) (many parser) := by
  intro state state' parallel
  rw [Parser.many, Parser.many, parallel.significant, parallel.significant', twins.size_eq]
  exact lockstep_manyWithin lockstep _ .nil state state' parallel

/-- What may be absent is present in both states or in neither. -/
theorem Lockstep.optional {parser : Parser A} {related : A → A → Prop}
    (lockstep : twins.Lockstep related parser parser) :
    twins.Lockstep (Option.Rel related) (optional parser) (optional parser) := by
  intro state state' parallel
  have outcomes := lockstep.attempt state state' parallel
  rw [Parser.optional, Parser.optional]
  generalize parser.attempt state = outcome, parser.attempt state' = outcome' at outcomes
  cases outcomes with
  | success here parallel => exact .success (.some here) parallel
  | failure parallel => exact .success .none parallel
  | fault fault parallel => exact .fault fault parallel

/-- What must not come next comes next in both states or in neither. -/
theorem Lockstep.absent {parser : Parser A} {related : A → A → Prop}
    (lockstep : twins.Lockstep related parser parser) :
    twins.Lockstep Eq (absent parser) (absent parser) := by
  intro state state' parallel
  have outcomes := lockstep state state' parallel
  rw [Parser.absent, Parser.absent]
  dsimp only
  rw [parallel.save, parallel.furthest]
  generalize parser state = outcome, parser state' = outcome' at outcomes
  cases outcomes with
  | fault fault parallel => exact .fault fault parallel
  | success here ended =>
      exact ended.restored state'.save fun _ _ restored => .failure { restored with furthest := rfl }
  | failure ended =>
      exact ended.restored state'.save fun _ _ restored => .success rfl { restored with furthest := rfl }

/-- What only has to come next comes next in both states or in neither. -/
theorem Lockstep.lookahead {parser : Parser A} {related : A → A → Prop}
    (lockstep : twins.Lockstep related parser parser) :
    twins.Lockstep related (lookahead parser) (lookahead parser) := by
  intro state state' parallel
  have outcomes := lockstep state state' parallel
  rw [Parser.lookahead, Parser.lookahead, parallel.save]
  generalize parser state = outcome, parser state' = outcome' at outcomes
  cases outcomes with
  | failure ended => exact lockstep_backtrack _ _ _ ended
  | fault fault parallel => exact .fault fault parallel
  | success here ended =>
      exact ended.restored state'.save fun _ _ restored => .success here restored

/-- Parses in lockstep end alike. -/
theorem Lockstep.run {parser : Parser A} {parser' : Parser A'}
    (lockstep : twins.Lockstep related parser parser') {state state' : State}
    (parallel : twins.Parallel state state') :
    Result.Alike related (parser.run state).1 (parser'.run state').1 ∧
      twins.Parallel (parser.run state).2 (parser'.run state').2 := by
  have whole : twins.Lockstep related (Parser.pair parser endOfInput fun value _ => value)
      (Parser.pair parser' endOfInput fun value _ => value) :=
    lockstep.pair lockstep_endOfInput fun _ _ _ _ here _ => here
  have outcomes := whole state state' parallel
  rw [Parser.run, Parser.run]
  generalize Parser.pair parser endOfInput (fun value _ => value) state = outcome,
    Parser.pair parser' endOfInput (fun value _ => value) state' = outcome' at outcomes
  cases outcomes with
  | fault fault parallel => exact ⟨.fault fault, parallel⟩
  | @failure ended ended' parallel =>
      have matched := parallel.failure
      dsimp only
      generalize ended.failure = failure, ended'.failure = failure' at matched
      cases matched with
      | ok same => exact ⟨.report same, parallel⟩
      | error fault => exact ⟨.fault fault, parallel⟩
  | @success value value' ended ended' here parallel =>
      have reports := parallel.reports
      have empty : ended.reports.isEmpty = ended'.reports.isEmpty := by
        have length := congrArg List.length reports
        rw [List.length_map, List.length_map] at length
        rw [Array.isEmpty, Array.isEmpty, ← Array.length_toList, length, Array.length_toList]
      dsimp only
      rw [empty]
      split
      · exact ⟨.ok here, parallel⟩
      · refine ⟨.report ?_, parallel⟩
        rw [Report.causes_joined, Report.causes_joined, reports]

end Parsers

end Twins

end Reckon
