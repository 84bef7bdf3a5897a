/-
This file describes parsers by the tokens that are still ahead of them: a parser yields a value
and leaves the rest of the tokens, or it refuses them.
-/

import Mathlib.Data.List.Forall2
import Reckon.Numeral
import Reckon.Proofs.Parse.Purity

namespace Reckon

/-- An integer token is well spelled when it stands for a number, if only for a great one. -/
def Token.WellSpelled (token : Token) : Prop :=
  token.kind = .integer → ∃ value, integerValue token.lexeme = .ok value

/-- A supply of tokens ends with its only end of input, and its integers are well spelled. -/
inductive Supply : List Token → Prop where
  | last {token : Token} (ends : token.kind = .endOfInput) : Supply [token]
  | more {token : Token} {tokens : List Token} (goesOn : token.kind ≠ .endOfInput)
      (spelled : token.WellSpelled) (later : Supply tokens) : Supply (token :: tokens)

namespace State

/-- A state faces the tokens from its position on. -/
structure Facing (state : State) (tokens : List Token) : Prop where
  ahead : List.Forall₂ (fun handle token => state.input.token handle = .ok token)
    (state.significant.toList.drop state.position) tokens
  supply : Supply tokens

theorem Facing.nonempty {state : State} {tokens : List Token} (facing : state.Facing tokens) :
    0 < tokens.length := by
  cases facing.supply <;> simp

/-- The tokens ahead are those from the position to the end. -/
theorem Facing.position_add {state : State} {tokens : List Token} (facing : state.Facing tokens) :
    state.position + tokens.length = state.significant.size := by
  have length := facing.ahead.length_eq
  have some := facing.nonempty
  rw [List.length_drop, Array.length_toList] at length
  omega

/-- Nothing but the furthest failure matters to what a state faces. -/
theorem Facing.same {state other : State} {tokens : List Token} (facing : state.Facing tokens)
    (same : state.SameBefore other) : other.Facing tokens := by
  rw [same]
  exact ⟨facing.ahead, facing.supply⟩

/-- The first token that a state faces is the current one. -/
theorem Facing.current {state : State} {token : Token} {tokens : List Token}
    (facing : state.Facing (token :: tokens)) :
    ∃ handle, state.current = .ok handle ∧ state.input.token handle = .ok token ∧
      List.Forall₂ (fun handle token => state.input.token handle = .ok token)
        (state.significant.toList.drop (state.position + 1)) tokens := by
  have inside := facing.position_add
  obtain ⟨handle, handles, found, later, split⟩ := List.forall₂_cons_right_iff.1 facing.ahead
  refine ⟨handle, ?_, found, ?_⟩
  · have place : min state.position (state.significant.size - 1) = state.position := by
      rw [List.length_cons] at inside
      omega
    have here : state.significant[state.position]? = some handle := by
      rw [← Array.getElem?_toList, ← List.head?_drop, split]
      rfl
    rw [State.current, handleAt, place, here]
  · rw [← List.drop_drop, split]
    exact later

/-- The current kind is that of the first token ahead. -/
theorem Facing.kind {state : State} {token : Token} {tokens : List Token}
    (facing : state.Facing (token :: tokens)) : state.kind = .ok token.kind := by
  obtain ⟨handle, current, found, _⟩ := facing.current
  rw [State.kind, current]
  exact Buffer.kind_of_token found

/-- A test of the current kind tests the first token ahead. -/
theorem Facing.is {state : State} {token : Token} {tokens : List Token}
    (facing : state.Facing (token :: tokens)) (kind : Kind) :
    state.is kind = .ok (decide (token.kind = kind)) := by
  rw [State.is, facing.kind]
  rfl

/-- The current token is the first token ahead. -/
theorem Facing.peek {state : State} {token : Token} {tokens : List Token}
    (facing : state.Facing (token :: tokens)) : state.peek = .ok token := by
  obtain ⟨handle, current, found, _⟩ := facing.current
  rw [State.peek, current]
  exact found

/-- A state reaches another one that has more output and reports, and faces the rest. -/
structure Reaches (state : State) (reports : List Report) (rest : List Token) (next : State) :
    Prop where
  facing : next.Facing rest
  extended : Extends state.stack.size state next
  reports : next.reports.toList = state.reports.toList ++ reports

theorem Reaches.trans {state middle next : State} {first second : List Report}
    {between rest : List Token} (left : state.Reaches first between middle)
    (right : middle.Reaches second rest next) : state.Reaches (first ++ second) rest next where
  facing := right.facing
  extended := left.extended.trans (right.extended.lower left.extended.height)
  reports := by rw [right.reports, left.reports, List.append_assoc]

theorem Facing.reaches {state : State} {tokens : List Token} (facing : state.Facing tokens) :
    state.Reaches [] tokens state := ⟨facing, .refl (Nat.le_refl _), by simp⟩

/-- A state reaches what only differs in the furthest failure. -/
theorem Facing.reaches_same {state other : State} {tokens : List Token}
    (facing : state.Facing tokens) (same : state.SameBefore other) :
    state.Reaches [] tokens other := by
  refine ⟨facing.same same, same.extends (Nat.le_refl _), ?_⟩
  rw [same]
  simp

/-- A report that is added to a reached state is added to the reports of the way. -/
theorem Reaches.report {state next : State} {reports : List Report} {rest : List Token}
    (reached : state.Reaches reports rest next) (report : Report) :
    state.Reaches (reports ++ [report]) rest (next.report report) := by
  have moved : next.Reaches [report] rest (next.report report) :=
    ⟨⟨reached.facing.ahead, reached.facing.supply⟩,
      { Extends.refl (Nat.le_refl _) with reports := by simp [State.report] },
      by simp [State.report]⟩
  exact reached.trans moved

/-- A record that is pushed decides the position unless it goes back. -/
theorem position_push (state : State) (record : Record) (further : state.position ≤ record.position) :
    ({ state with nodes := state.nodes.push record } : State).position = record.position := by
  have stack : lastPosition state.stack ≤ state.position := Nat.le_max_right _ _
  simp only [position, lastPosition, Array.back?_push] at stack further ⊢
  omega

/-- Any token but the end of input can be pushed. -/
theorem Facing.push {state : State} {token : Token} {tokens : List Token}
    (facing : state.Facing (token :: tokens)) (goesOn : token.kind ≠ .endOfInput) (role : Role) :
    ∃ handle next, state.push role = .ok (handle, next) ∧ next.input.token handle = .ok token ∧
      state.Reaches [] tokens next := by
  obtain ⟨handle, current, found, later⟩ := facing.current
  have consumable : state.consumable = .ok handle := by
    rw [State.consumable, atEnd, facing.is, decide_eq_false goesOn, current]
  rw [State.push, consumable]
  refine ⟨handle, _, rfl, found, ?_, ?_, by simp⟩
  · refine ⟨?_, ?_⟩
    · rw [position_push _ _ (Nat.le_succ _)]
      exact later
    · cases facing.supply with
      | last ends => exact absurd ends goesOn
      | more _ _ later => exact later
  · exact { Extends.refl (Nat.le_refl _) with nodes := by simp }

end State

namespace Parser

open State

variable {A B C R : Type}

/-- A parser yields a value on tokens, with reports, and leaves the rest. -/
def Yields (parser : Parser A) (tokens : List Token) (value : A) (reports : List Report)
    (rest : List Token) : Prop :=
  ∀ state : State, state.Facing tokens →
    ∃ next, parser state = .success value next ∧ state.Reaches reports rest next

/-- A parser refuses tokens when it fails on them without a trace. -/
def Refuses (parser : Parser A) (tokens : List Token) : Prop :=
  ∀ state : State, state.Facing tokens →
    ∃ failed, parser state = .failure failed ∧ state.SameBefore failed

/-- A parser strays on tokens when it fails on them after it consumed some. -/
def Strays (parser : Parser A) (tokens : List Token) : Prop :=
  ∀ state : State, state.Facing tokens →
    ∃ failed, parser state = .failure failed ∧ Extends state.stack.size state failed

/-- A refusal is a failure. -/
theorem Refuses.strays {parser : Parser A} {tokens : List Token} (refuses : parser.Refuses tokens) :
    parser.Strays tokens := by
  intro state facing
  obtain ⟨failed, outcome, same⟩ := refuses state facing
  exact ⟨failed, outcome, same.extends (Nat.le_refl _)⟩

/-- A value is yielded behind another one. -/
theorem Yields.andThen {parser : Parser A} {next : A → Parser B} {tokens between rest : List Token}
    {value : A} {value' : B} {reports reports' : List Report}
    (first : parser.Yields tokens value reports between)
    (second : (next value).Yields between value' reports' rest) :
    (parser.andThen next).Yields tokens value' (reports ++ reports') rest := by
  intro state facing
  obtain ⟨middle, outcome, reached⟩ := first state facing
  obtain ⟨final, outcome', reached'⟩ := second middle reached.facing
  refine ⟨final, ?_, reached.trans reached'⟩
  rw [Parser.andThen, outcome]
  exact outcome'

/-- A sequence fails when its first part does. -/
theorem Strays.andThen {parser : Parser A} {next : A → Parser B} {tokens : List Token}
    (strays : parser.Strays tokens) : (parser.andThen next).Strays tokens := by
  intro state facing
  obtain ⟨failed, outcome, extended⟩ := strays state facing
  exact ⟨failed, by rw [Parser.andThen, outcome], extended⟩

/-- A sequence fails when a later part does. -/
theorem Yields.strays_andThen {parser : Parser A} {next : A → Parser B}
    {tokens between : List Token} {value : A} {reports : List Report}
    (first : parser.Yields tokens value reports between)
    (second : (next value).Strays between) : (parser.andThen next).Strays tokens := by
  intro state facing
  obtain ⟨middle, outcome, reached⟩ := first state facing
  obtain ⟨failed, outcome', extended⟩ := second middle reached.facing
  refine ⟨failed, ?_, reached.extended.trans (extended.lower reached.extended.height)⟩
  rw [Parser.andThen, outcome]
  exact outcome'

theorem yields_succeed (value : A) (tokens : List Token) :
    (succeed value).Yields tokens value [] tokens := fun state facing =>
  ⟨state, rfl, facing.reaches⟩

/-- What is made of a value is yielded where the value is. -/
theorem Yields.map {parser : Parser A} {tokens rest : List Token} {value : A}
    {reports : List Report} (yields : parser.Yields tokens value reports rest) (f : A → B) :
    (parser.map f).Yields tokens (f value) reports rest := by
  have both : (parser.map f).Yields tokens (f value) (reports ++ []) rest :=
    yields.andThen (yields_succeed (f value) rest)
  rwa [List.append_nil] at both

/-- Tokens are refused whatever is made of the value. -/
theorem Refuses.map {parser : Parser A} {tokens : List Token} (refuses : parser.Refuses tokens)
    (f : A → B) : (parser.map f).Refuses tokens := by
  intro state facing
  obtain ⟨failed, outcome, same⟩ := refuses state facing
  exact ⟨failed, by rw [Parser.map, Parser.andThen, outcome], same⟩

theorem Strays.map {parser : Parser A} {tokens : List Token} (strays : parser.Strays tokens)
    (f : A → B) : (parser.map f).Strays tokens := strays.andThen

/-- An attempt that goes well yields the same value. -/
theorem Yields.attempt {parser : Parser A} {tokens rest : List Token} {value : A}
    {reports : List Report} (yields : parser.Yields tokens value reports rest) :
    parser.attempt.Yields tokens value reports rest := by
  intro state facing
  obtain ⟨next, outcome, reached⟩ := yields state facing
  exact ⟨next, by rw [Parser.attempt, outcome], reached⟩

/-- An attempt that fails returns, so it refuses. -/
theorem Strays.attempt {parser : Parser A} {tokens : List Token} (strays : parser.Strays tokens) :
    parser.attempt.Refuses tokens := by
  intro state facing
  obtain ⟨failed, outcome, extended⟩ := strays state facing
  refine ⟨{ state with furthest := failed.furthest }, ?_, rfl⟩
  rw [Parser.attempt, outcome]
  exact backtrack_extends extended

section Sequences

variable {first : Parser A} {second : Parser B} {third : Parser C}
  {tokens between beyond rest : List Token} {a : A} {b : B} {c : C}
  {reports reports' reports'' : List Report}

/-- Two values one after the other are paired. -/
theorem Yields.pair (left : first.Yields tokens a reports between)
    (right : second.Yields between b reports' rest) (f : A → B → R) :
    (Parser.pair first second f).Yields tokens (f a b) (reports ++ reports') rest :=
  (left.andThen (right.map _)).attempt

theorem Refuses.pair (left : first.Refuses tokens) (second : Parser B) (f : A → B → R) :
    (Parser.pair first second f).Refuses tokens :=
  left.strays.andThen.attempt

/-- A pair is refused with its second part. -/
theorem Yields.refuses_pair (left : first.Yields tokens a reports between)
    (right : second.Refuses between) (f : A → B → R) :
    (Parser.pair first second f).Refuses tokens :=
  (left.strays_andThen (right.strays.map _)).attempt

/-- Three values one after the other make a triple. -/
theorem Yields.triple (left : first.Yields tokens a reports between)
    (middle : second.Yields between b reports' beyond) (right : third.Yields beyond c reports'' rest)
    (f : A → B → C → R) :
    (Parser.triple first second third f).Yields tokens (f a b c) (reports ++ (reports' ++ reports''))
      rest :=
  (left.andThen (middle.andThen (right.map _))).attempt

theorem Refuses.triple (left : first.Refuses tokens) (second : Parser B) (third : Parser C)
    (f : A → B → C → R) : (Parser.triple first second third f).Refuses tokens :=
  left.strays.andThen.attempt

/-- A triple is refused with its second part. -/
theorem Yields.refuses_triple (left : first.Yields tokens a reports between)
    (middle : second.Refuses between) (third : Parser C) (f : A → B → C → R) :
    (Parser.triple first second third f).Refuses tokens :=
  (left.strays_andThen middle.strays.andThen).attempt

/-- A triple is refused with its last part. -/
theorem Yields.refuses_triple_last (left : first.Yields tokens a reports between)
    (middle : second.Yields between b reports' beyond) (right : third.Refuses beyond)
    (f : A → B → C → R) : (Parser.triple first second third f).Refuses tokens :=
  (left.strays_andThen (middle.strays_andThen (right.strays.map _))).attempt

end Sequences

/-- The first alternative is taken when it yields. -/
theorem Yields.choice {parser : Parser A} {tokens rest : List Token} {value : A}
    {reports : List Report} (yields : parser.Yields tokens value reports rest)
    (others : List (Parser A)) : (choice (parser :: others)).Yields tokens value reports rest := by
  intro state facing
  obtain ⟨next, outcome, reached⟩ := yields.attempt state facing
  exact ⟨next, by simp only [Parser.choice, outcome], reached⟩

/-- An alternative that refuses leaves the choice to the others. -/
theorem Refuses.choice {parser : Parser A} {others : List (Parser A)} {tokens rest : List Token}
    {value : A} {reports : List Report} (refuses : parser.Refuses tokens)
    (yields : (choice others).Yields tokens value reports rest) :
    (choice (parser :: others)).Yields tokens value reports rest := by
  intro state facing
  obtain ⟨failed, outcome, same⟩ := refuses.strays.attempt state facing
  obtain ⟨next, outcome', reached⟩ := yields failed (facing.same same)
  refine ⟨next, by simp only [Parser.choice, outcome, outcome'], ?_⟩
  exact (facing.reaches_same same).trans reached

theorem refuses_choice_nil (tokens : List Token) : (choice [] : Parser A).Refuses tokens :=
  fun state _ => ⟨state, rfl, rfl⟩

/-- A choice is refused when all alternatives are. -/
theorem Refuses.choice_cons {parser : Parser A} {others : List (Parser A)} {tokens : List Token}
    (first : parser.Refuses tokens) (second : (Parser.choice others).Refuses tokens) :
    (Parser.choice (parser :: others)).Refuses tokens := by
  intro state facing
  obtain ⟨failed, outcome, same⟩ := first.strays.attempt state facing
  obtain ⟨final, outcome', same'⟩ := second failed (facing.same same)
  exact ⟨final, by simp only [Parser.choice, outcome, outcome'], same.trans same'⟩

/-- An optional value is present when it is yielded. -/
theorem Yields.optional {parser : Parser A} {tokens rest : List Token} {value : A}
    {reports : List Report} (yields : parser.Yields tokens value reports rest) :
    (optional parser).Yields tokens (some value) reports rest := by
  intro state facing
  obtain ⟨next, outcome, reached⟩ := yields.attempt state facing
  exact ⟨next, by rw [Parser.optional, outcome], reached⟩

/-- An optional value is absent when it is refused. -/
theorem Refuses.optional {parser : Parser A} {tokens : List Token}
    (refuses : parser.Refuses tokens) : (optional parser).Yields tokens none [] tokens := by
  intro state facing
  obtain ⟨failed, outcome, same⟩ := refuses.strays.attempt state facing
  exact ⟨failed, by rw [Parser.optional, outcome], facing.reaches_same same⟩

/-- What a parser does is undone where its absence is asked for. -/
theorem Refuses.absent_eq {parser : Parser A} {tokens : List Token} {state : State}
    (refuses : parser.Refuses tokens) (facing : state.Facing tokens) :
    absent parser state = .success () state := by
  obtain ⟨failed, outcome, same⟩ := refuses state facing
  rw [absent]
  simp only [outcome, (same.extends (Nat.le_refl _)).restore]
  rfl

/-- What must not come next fails without a trace where it comes next. -/
theorem Yields.absent_eq {parser : Parser A} {tokens rest : List Token} {value : A}
    {reports : List Report} {state : State} (yields : parser.Yields tokens value reports rest)
    (facing : state.Facing tokens) : absent parser state = .failure state := by
  obtain ⟨next, outcome, reached⟩ := yields state facing
  rw [absent]
  simp only [outcome, reached.extended.restore]
  rfl

theorem Refuses.absent {parser : Parser A} {tokens : List Token} (refuses : parser.Refuses tokens) :
    (absent parser).Yields tokens () [] tokens :=
  fun state facing => ⟨state, refuses.absent_eq facing, facing.reaches⟩

theorem Yields.refuses_absent {parser : Parser A} {tokens rest : List Token} {value : A}
    {reports : List Report} (yields : parser.Yields tokens value reports rest) :
    (absent parser).Refuses tokens := fun state facing => ⟨state, yields.absent_eq facing, rfl⟩

/-- A lookahead yields the value and stays in front of its tokens. -/
theorem Yields.lookahead {parser : Parser A} {tokens rest : List Token} {value : A}
    {reports : List Report} (yields : parser.Yields tokens value reports rest) :
    (lookahead parser).Yields tokens value [] tokens := by
  intro state facing
  obtain ⟨next, outcome, reached⟩ := yields state facing
  refine ⟨{ state with furthest := next.furthest }, ?_, facing.reaches_same rfl⟩
  rw [Parser.lookahead]
  simp only [outcome, reached.extended.restore]

/-- A lookahead refuses what its parser refuses. -/
theorem Refuses.lookahead {parser : Parser A} {tokens : List Token}
    (refuses : parser.Refuses tokens) : (lookahead parser).Refuses tokens := by
  intro state facing
  obtain ⟨failed, outcome, same⟩ := refuses state facing
  refine ⟨{ state with furthest := failed.furthest }, ?_, rfl⟩
  rw [Parser.lookahead]
  simp only [outcome]
  exact backtrack_extends (same.extends (Nat.le_refl _))

/-- No state faces an empty list of tokens. -/
theorem refuses_nil (parser : Parser A) : parser.Refuses [] := by
  intro state facing
  cases facing.supply

/-- A token of the wanted kind is consumed. -/
theorem yields_token {token : Token} {kind : Kind} (same : token.kind = kind)
    (goesOn : kind ≠ .endOfInput) (tokens : List Token) :
    (Parser.token kind).Yields (token :: tokens) token [] tokens := by
  intro state facing
  obtain ⟨handle, next, pushed, found, reached⟩ := facing.push (same ▸ goesOn) .token
  refine ⟨next, ?_, reached⟩
  rw [Parser.token, emit, consume]
  simp only [facing.is, same, decide_true, pushed, found]

/-- A token of another kind is refused. -/
theorem refuses_token {token : Token} {kind : Kind} (tokens : List Token)
    (other : token.kind ≠ kind) : (Parser.token kind).Refuses (token :: tokens) := by
  intro state facing
  refine ⟨state.expect kind.name, ?_, .expect state kind.name⟩
  rw [Parser.token, emit, consume]
  simp only [facing.is, decide_eq_false other]

/-- A parser repeats on tokens as long as it yields values there. -/
inductive Repeats (parser : Parser A) :
    List Token → List A → List Report → List Token → Prop where
  | done {tokens : List Token} (refuses : parser.Refuses tokens) : Repeats parser tokens [] [] tokens
  | step {tokens between rest : List Token} {value : A} {values : List A}
      {reports reports' : List Report} (yields : parser.Yields tokens value reports between)
      (shorter : between.length < tokens.length)
      (later : Repeats parser between values reports' rest) :
      Repeats parser tokens (value :: values) (reports ++ reports') rest

/-- A repetition yields its values within any bound that covers the tokens. -/
theorem Repeats.manyWithin {parser : Parser A} {tokens rest : List Token} {values : List A}
    {reports : List Report} (repeats : Repeats parser tokens values reports rest)
    (earlier : List A) (bound : Nat) (enough : tokens.length ≤ bound) :
    (manyWithin parser earlier bound).Yields tokens (earlier.reverse ++ values) reports rest := by
  induction repeats generalizing earlier bound with
  | done refuses =>
      intro state facing
      have positive := facing.nonempty
      obtain ⟨bound, rfl⟩ : ∃ less, bound = less + 1 := ⟨bound - 1, by omega⟩
      obtain ⟨failed, outcome, same⟩ := refuses state facing
      refine ⟨{ state with furthest := failed.furthest }, ?_, facing.reaches_same rfl⟩
      rw [Parser.manyWithin]
      simp only [outcome, (same.extends (Nat.le_refl _)).restore, List.append_nil]
  | @step tokens between rest value values reports reports' yields shorter later ih =>
      intro state facing
      have positive := facing.nonempty
      obtain ⟨bound, rfl⟩ : ∃ less, bound = less + 1 := ⟨bound - 1, by omega⟩
      obtain ⟨middle, outcome, reached⟩ := yields state facing
      obtain ⟨next, outcome', reached'⟩ := ih (value :: earlier) bound (by omega) middle reached.facing
      have moved : middle.position ≠ state.position := by
        have before := facing.position_add
        have after := reached.facing.position_add
        rw [reached.extended.significant] at after
        omega
      refine ⟨next, ?_, reached.trans reached'⟩
      rw [Parser.manyWithin]
      simp only [outcome, if_neg moved, outcome', List.reverse_cons, List.append_assoc,
        List.singleton_append]

/-- A repetition yields its values. -/
theorem Repeats.many {parser : Parser A} {tokens rest : List Token} {values : List A}
    {reports : List Report} (repeats : Repeats parser tokens values reports rest) :
    (many parser).Yields tokens values reports rest := by
  intro state facing
  have enough : tokens.length ≤ state.significant.size + 1 := by
    have length := facing.position_add
    omega
  exact repeats.manyWithin [] _ enough state facing

end Parser

end Reckon
