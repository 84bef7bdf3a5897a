/-
This file shows how parsers follow patterns: a parser succeeds where the pattern matches, it fails where
the pattern does not match, and its furthest failure notes the tests that the pattern missed.
-/

import Reckon.Proofs.Failure.Pattern
import Reckon.Proofs.Parse.Facing

namespace Reckon

namespace Failure

/-- This notes what was expected at a position, unless a rule failed further on. -/
def note (furthest : Option Failure) (position : Nat) (what : String) : Option Failure :=
  match furthest with
  | none => some ⟨position, [what]⟩
  | some known =>
      if known.position < position then some ⟨position, [what]⟩
      else if position = known.position && !known.expected.contains what then
        some ⟨position, known.expected ++ [what]⟩
      else some known

/-- This notes the failed tests of a run that starts at the given position. -/
def noteAll (furthest : Option Failure) (position : Nat) (misses : List Test) : Option Failure :=
  misses.foldl (fun furthest test => note furthest (position + test.offset) test.kind.name) furthest

theorem noteAll_append (furthest : Option Failure) (position : Nat) (first second : List Test) :
    noteAll furthest position (first ++ second) =
      noteAll (noteAll furthest position first) position second := List.foldl_append

/-- Tests behind some tokens are noted as far behind the position. -/
theorem noteAll_behind (furthest : Option Failure) (position length : Nat) (misses : List Test) :
    noteAll furthest position (misses.map (Test.behind length)) =
      noteAll furthest (position + length) misses := by
  simp only [noteAll, List.foldl_map, Test.behind, Nat.add_assoc]

end Failure

open Failure

namespace State

/-- What is expected is noted at the position. -/
theorem furthest_expect (state : State) (what : String) :
    (state.expect what).furthest = note state.furthest state.position what := by
  unfold expect note
  cases known : state.furthest with
  | none => rfl
  | some known =>
      dsimp only
      split
      · rfl
      · split <;> simp_all

/-- A consumed token leaves the furthest failure alone. -/
theorem furthest_push {state next : State} {role : Role} {handle : Handle}
    (pushed : state.push role = .ok (handle, next)) : next.furthest = state.furthest := by
  obtain ⟨_, _, same⟩ := Parser.exists_of_map_ok pushed
  cases same
  rfl

/-- A state moves on by a number of tokens. -/
structure Moves (state : State) (tokens : List Token) (length : Nat) (next : State) : Prop where
  facing : next.Facing (tokens.drop length)
  extended : Extends state.stack.size state next

variable {state middle next : State} {tokens : List Token} {length length' : Nat}

/-- A move takes the position as far as its length. -/
theorem Moves.position (facing : state.Facing tokens) (moves : state.Moves tokens length next) :
    next.position = state.position + length := by
  have before := facing.position_add
  have after := moves.facing.position_add
  have some := moves.facing.nonempty
  rw [moves.extended.significant] at after
  rw [List.length_drop] at after some
  omega

theorem Moves.trans (first : state.Moves tokens length middle)
    (second : middle.Moves (tokens.drop length) length' next) :
    state.Moves tokens (length + length') next := by
  refine ⟨?_, first.extended.trans (second.extended.lower first.extended.height)⟩
  rw [← List.drop_drop]
  exact second.facing

/-- What moves on from a state moves on from the state before it. -/
theorem Moves.before {earlier : State} (moves : state.Moves tokens length next)
    (same : earlier.SameBefore state) : earlier.Moves tokens length next :=
  ⟨moves.facing, (same.extends (Nat.le_refl _)).trans
    (moves.extended.lower (same.extends (Nat.le_refl _)).height)⟩

theorem Facing.stays (facing : state.Facing tokens) : state.Moves tokens 0 state :=
  ⟨facing, .refl (Nat.le_refl _)⟩

end State

namespace Parser

open State

variable {A B C R : Type}

/-- An outcome traces a run when it is a success after a match, and a failure else. The failed tests are
noted in both cases. -/
def Traces (Left : State → Prop) (state : State) (tokens : List Token) (trace : Trace)
    (outcome : Outcome A) : Prop :=
  (∃ length value next, trace.length? = some length ∧ outcome = .success value next ∧
    state.Moves tokens length next ∧
      next.furthest = noteAll state.furthest state.position trace.misses) ∨
  (∃ failed, trace.length? = none ∧ outcome = .failure failed ∧ Left failed ∧
    failed.furthest = noteAll state.furthest state.position trace.misses)

/-- A parser follows a pattern on no more tokens than the bound. It fails without a trace. -/
def Follows (parser : Parser A) (bound : Nat) (pattern : Pattern) : Prop :=
  ∀ (state : State) (tokens : List Token), tokens.length ≤ bound → state.Facing tokens →
    Traces state.SameBefore state tokens (pattern.run (tokens.map Token.kind)) (parser state)

/-- A part of a sequence follows a pattern too, but it may consume tokens before it fails. -/
def Pursues (parser : Parser A) (bound : Nat) (pattern : Pattern) : Prop :=
  ∀ (state : State) (tokens : List Token), tokens.length ≤ bound → state.Facing tokens →
    Traces (Extends state.stack.size state) state tokens (pattern.run (tokens.map Token.kind))
      (parser state)

/-- A pattern leaves room for the next one when it does not match too little. -/
def Leaves (pattern : Pattern) (bound bound' : Nat) : Prop :=
  ∀ (word : List Kind) (length : Nat), (pattern.run word).length? = some length →
    bound ≤ length + bound'

variable {parser first : Parser A} {second : Parser B} {third : Parser C}
  {pattern pattern' pattern'' : Pattern} {bound bound' bound'' : Nat}

theorem Follows.lower (follows : parser.Follows bound pattern) (below : bound' ≤ bound) :
    parser.Follows bound' pattern :=
  fun state tokens short => follows state tokens (Nat.le_trans short below)

/-- An outcome without a trace may also have left one. -/
theorem Traces.loosen {state : State} {tokens : List Token} {trace : Trace} {outcome : Outcome A}
    (traces : Traces state.SameBefore state tokens trace outcome) :
    Traces (Extends state.stack.size state) state tokens trace outcome := by
  rcases traces with matched | ⟨failed, none, outcome, same, noted⟩
  · exact .inl matched
  · exact .inr ⟨failed, none, outcome, same.extends (Nat.le_refl _), noted⟩

theorem Follows.pursues (follows : parser.Follows bound pattern) : parser.Pursues bound pattern :=
  fun state tokens short facing => (follows state tokens short facing).loosen

/-- Tokens of no length are faced by no state. -/
theorem follows_zero (parser : Parser A) (pattern : Pattern) : parser.Follows 0 pattern := by
  intro state tokens short facing
  have some := facing.nonempty
  omega

/-- An attempt leaves no trace of a failure. -/
theorem Pursues.attempt (pursues : parser.Pursues bound pattern) :
    parser.attempt.Follows bound pattern := by
  intro state tokens short facing
  rw [Parser.attempt]
  rcases pursues state tokens short facing with
    ⟨length, value, next, found, outcome, reached⟩ | ⟨failed, none, outcome, extended, noted⟩
  · exact .inl ⟨length, value, next, found, by rw [outcome], reached⟩
  · refine .inr ⟨{ state with furthest := failed.furthest }, none, ?_, rfl, noted⟩
    rw [outcome]
    exact backtrack_extends extended

/-- What is made of the value does not matter to the pattern of a part. -/
theorem Pursues.map (pursues : parser.Pursues bound pattern) (f : A → B) :
    (parser.map f).Pursues bound pattern := by
  intro state tokens short facing
  rw [Parser.map, Parser.andThen]
  rcases pursues state tokens short facing with
    ⟨length, value, next, found, outcome, reached⟩ | ⟨failed, none, outcome, reached⟩
  · exact .inl ⟨length, f value, next, found, by rw [outcome]; rfl, reached⟩
  · exact .inr ⟨failed, none, by rw [outcome], reached⟩

/-- What is made of the value does not matter to the pattern. -/
theorem Follows.map (follows : parser.Follows bound pattern) (f : A → B) :
    (parser.map f).Follows bound pattern := by
  intro state tokens short facing
  rw [Parser.map, Parser.andThen]
  rcases follows state tokens short facing with
    ⟨length, value, next, found, outcome, reached⟩ | ⟨failed, none, outcome, reached⟩
  · exact .inl ⟨length, f value, next, found, by rw [outcome]; rfl, reached⟩
  · exact .inr ⟨failed, none, by rw [outcome], reached⟩

/-- What is noted after a match is noted at the position behind it. -/
theorem noted_behind {state next final : State} {tokens : List Token} {length : Nat}
    {misses misses' : List Test} (facing : state.Facing tokens) (moves : state.Moves tokens length next)
    (noted : next.furthest = noteAll state.furthest state.position misses)
    (noted' : final.furthest = noteAll next.furthest next.position misses') :
    final.furthest = noteAll state.furthest state.position
      (misses ++ misses'.map (Test.behind length)) := by
  rw [noteAll_append, noteAll_behind, ← noted, noted', moves.position facing]

/-- A run goes on from where the first match ends. -/
theorem Traces.andThen {state next : State} {tokens : List Token} {trace : Trace} {length : Nat}
    {later : Nat → Trace} {outcome : Outcome B} (facing : state.Facing tokens)
    (found : trace.length? = some length) (moves : state.Moves tokens length next)
    (noted : next.furthest = noteAll state.furthest state.position trace.misses)
    (traces : Traces (Extends next.stack.size next) next (tokens.drop length) (later length) outcome) :
    Traces (Extends state.stack.size state) state tokens (trace.andThen later) outcome := by
  rw [Trace.andThen_matched found]
  rcases traces with
    ⟨length', value, final, found', outcome, moves', noted'⟩ | ⟨failed, none, outcome, extended, noted'⟩
  · exact .inl ⟨length + length', value, final, by rw [found']; rfl, outcome, moves.trans moves',
      noted_behind facing moves noted noted'⟩
  · exact .inr ⟨failed, by rw [none]; rfl, outcome,
      moves.extended.trans (extended.lower moves.extended.height), noted_behind facing moves noted noted'⟩

/-- A sequence follows both patterns. -/
theorem Pursues.andThen {next : A → Parser B} (left : first.Pursues bound pattern)
    (right : ∀ value, (next value).Pursues bound' pattern') (room : Leaves pattern bound bound') :
    (first.andThen next).Pursues bound (.both pattern pattern') := by
  intro state tokens short facing
  rw [Pattern.run, Parser.andThen]
  rcases left state tokens short facing with
    ⟨length, value, middle, found, outcome, moves, noted⟩ | ⟨failed, none, outcome, extended, noted⟩
  · have enough := room _ _ found
    have traces := right value middle (tokens.drop length) (by rw [List.length_drop]; omega)
      moves.facing
    rw [outcome]
    rw [List.map_drop] at traces
    exact .andThen facing found moves noted traces
  · rw [Trace.andThen_missed none]
    exact .inr ⟨failed, none, by rw [outcome], extended, noted⟩

/-- A pair follows both patterns one after the other. -/
theorem Follows.pair (left : first.Follows bound pattern) (right : second.Follows bound' pattern')
    (room : Leaves pattern bound bound') (f : A → B → R) :
    (Parser.pair first second f).Follows bound (.both pattern pattern') :=
  (left.pursues.andThen (fun _ => right.pursues.map _) room).attempt

/-- A triple follows its three patterns one after the other. -/
theorem Follows.triple (left : first.Follows bound pattern) (middle : second.Follows bound' pattern')
    (right : third.Follows bound'' pattern'') (room : Leaves pattern bound bound')
    (room' : Leaves pattern' bound' bound'') (f : A → B → C → R) :
    (Parser.triple first second third f).Follows bound (.both pattern (.both pattern' pattern'')) :=
  (left.pursues.andThen (fun _ => middle.pursues.andThen (fun _ => right.pursues.map _) room')
    room).attempt

/-- A failure is followed by another attempt in its place. -/
theorem noted_instead {state failed final : State} {misses misses' : List Test}
    (same : state.SameBefore failed)
    (noted : failed.furthest = noteAll state.furthest state.position misses)
    (noted' : final.furthest = noteAll failed.furthest failed.position misses') :
    final.furthest = noteAll state.furthest state.position (misses ++ misses') := by
  rw [noteAll_append, ← noted, noted', same.position]

/-- Another run takes the place of a failed one. -/
theorem Traces.orElse {state failed : State} {tokens : List Token} {trace other : Trace}
    {outcome : Outcome A} (none : trace.length? = none) (same : state.SameBefore failed)
    (noted : failed.furthest = noteAll state.furthest state.position trace.misses)
    (traces : Traces failed.SameBefore failed tokens other outcome) :
    Traces state.SameBefore state tokens (trace.orElse other) outcome := by
  rw [Trace.orElse_missed none]
  rcases traces with ⟨length, value, next, found, outcome, moves, noted'⟩ |
    ⟨final, none', outcome, same', noted'⟩
  · exact .inl ⟨length, value, next, found, outcome, moves.before same,
      noted_instead same noted noted'⟩
  · exact .inr ⟨final, none', outcome, same.trans same', noted_instead same noted noted'⟩

/-- Nothing is consumed by a look ahead, but what failed in it is noted. -/
theorem Traces.lookahead {state : State} {tokens : List Token} {trace : Trace}
    (facing : state.Facing tokens) (traces : Traces state.SameBefore state tokens trace (parser state)) :
    Traces state.SameBefore state tokens { trace with length? := trace.length?.map fun _ => 0 }
      (lookahead parser state) := by
  rw [Parser.lookahead]
  rcases traces with ⟨length, value, next, found, outcome, moves, noted⟩ |
    ⟨failed, none, outcome, same, noted⟩
  · have stayed : state.SameBefore { state with furthest := next.furthest } := rfl
    refine .inl ⟨0, value, _, by rw [found]; rfl, ?_, (facing.same stayed).stays.before stayed, noted⟩
    simp only [outcome, moves.extended.restore]
  · refine .inr ⟨{ state with furthest := failed.furthest }, by rw [none]; rfl, ?_, rfl, noted⟩
    simp only [outcome]
    exact backtrack_extends (same.extends (Nat.le_refl _))

/-- No other run takes the place of a match. -/
theorem traces_matched {Left : State → Prop} {state next : State} {tokens : List Token}
    {trace other : Trace} {length : Nat} {value : A} (found : trace.length? = some length)
    (reached : state.Moves tokens length next ∧
      next.furthest = noteAll state.furthest state.position trace.misses) :
    Traces Left state tokens (trace.orElse other) (.success value next) := by
  rw [Trace.orElse_matched found]
  exact .inl ⟨length, value, next, found, rfl, reached⟩

/-- A choice of a single alternative follows its pattern. -/
theorem Follows.choice_single (follows : parser.Follows bound pattern) :
    (choice [parser]).Follows bound pattern := by
  intro state tokens short facing
  rcases follows.pursues.attempt state tokens short facing with
    ⟨length, value, next, found, outcome, reached⟩ | ⟨failed, none, outcome, reached⟩
  · exact .inl ⟨length, value, next, found, by simp only [Parser.choice, outcome], reached⟩
  · exact .inr ⟨failed, none, by simp only [Parser.choice, outcome, fail], reached⟩

/-- A choice follows either of the patterns. -/
theorem Follows.choice {others : List (Parser A)} (left : parser.Follows bound pattern)
    (right : (Parser.choice others).Follows bound pattern') :
    (Parser.choice (parser :: others)).Follows bound (.either pattern pattern') := by
  intro state tokens short facing
  rw [Pattern.run]
  rcases left.pursues.attempt state tokens short facing with
    ⟨length, value, next, found, outcome, reached⟩ | ⟨failed, none, outcome, same, noted⟩
  · simp only [Parser.choice, outcome]
    exact traces_matched found reached
  · simp only [Parser.choice, outcome]
    exact .orElse none same noted (right failed tokens short (facing.same same))

/-- What may be absent follows the optional pattern. -/
theorem Follows.optional (follows : parser.Follows bound pattern) :
    (Parser.optional parser).Follows bound (.optional pattern) := by
  intro state tokens short facing
  rw [Parser.optional, Pattern.run]
  rcases follows.pursues.attempt state tokens short facing with
    ⟨length, value, next, found, outcome, reached⟩ | ⟨failed, none, outcome, same, noted⟩
  · rw [outcome]
    exact traces_matched found reached
  · rw [outcome]
    exact .orElse none same noted (.inl ⟨0, _, failed, rfl, rfl, (facing.same same).stays, rfl⟩)

/-- A token follows the pattern of its kind. -/
theorem follows_token {kind : Kind} (goesOn : kind ≠ .endOfInput) (bound : Nat) :
    (token kind).Follows bound (.token kind) := by
  intro state tokens _ facing
  cases tokens with
  | nil => cases facing.supply
  | cons first rest =>
      rw [token, emit, consume, Pattern.token, Pattern.run]
      rcases Trace.among_cases [kind] ((first :: rest).map Token.kind) with
        ⟨⟨found, member, others, split⟩, run⟩ | ⟨other, run⟩
      · have same : first.kind = kind := (List.cons.inj split).1.trans (List.mem_singleton.1 member)
        obtain ⟨handle, next, pushed, found, reached⟩ := facing.push (same ▸ goesOn) .token
        refine .inl ⟨1, first, next, by rw [run], ?_, ⟨reached.facing, reached.extended⟩, ?_⟩
        · simp only [facing.is, same, decide_true, pushed, found]
        · rw [run]
          exact furthest_push pushed
      · have differs : first.kind ≠ kind :=
          fun same => other kind (List.mem_singleton_self _) (congrArg some same)
        refine .inr ⟨state.expect kind.name, by rw [run], ?_, .expect state kind.name, ?_⟩
        · simp only [facing.is, decide_eq_false differs]
        · rw [run]
          exact furthest_expect state kind.name

end Parser

namespace Pattern

/-- A step is repeated at most a number of times, and the last step is a simple one. -/
def repeated (step last : Pattern) : Nat → Pattern
  | 0 => .optional last
  | count + 1 => .optional (.both step (repeated step last count))

/-- An optional pattern always matches. -/
theorem optional_length (pattern : Pattern) (word : List Kind) :
    ∃ length, ((optional pattern).run word).length? = some length := by
  cases found : (pattern.run word).length? with
  | none => exact ⟨0, Trace.orElse_length.2 (.inr ⟨found, rfl⟩)⟩
  | some length => exact ⟨length, Trace.orElse_length.2 (.inl found)⟩

theorem repeated_length (step last : Pattern) (count : Nat) (word : List Kind) :
    ∃ length, ((repeated step last count).run word).length? = some length := by
  cases count <;> exact optional_length _ word

end Pattern

namespace Parser

open State

variable {A : Type} {parser : Parser A} {pattern : Pattern} {bound : Nat}

/-- A repetition follows its steps, as long as each of them moves on. -/
theorem Follows.manyWithin {last : Pattern} (follows : parser.Follows bound pattern)
    (moving : ∀ word, (pattern.run word).length? ≠ some 0) (earlier : List A) (fuel count : Nat)
    (state : State) (tokens : List Token) (short : tokens.length ≤ bound)
    (enough : tokens.length ≤ count) (fueled : tokens.length ≤ fuel) (facing : state.Facing tokens) :
    Traces state.SameBefore state tokens
      ((Pattern.repeated pattern last count).run (tokens.map Token.kind))
      (manyWithin parser earlier fuel state) := by
  induction count generalizing earlier fuel state tokens with
  | zero =>
      have some := facing.nonempty
      omega
  | succ count ih =>
      have some := facing.nonempty
      obtain ⟨fuel, rfl⟩ : ∃ less, fuel = less + 1 := ⟨fuel - 1, by omega⟩
      rw [Pattern.repeated, Pattern.run, Pattern.run, Parser.manyWithin]
      rcases follows state tokens short facing with
        ⟨length, value, middle, found, outcome, moves, noted⟩ | ⟨failed, none, outcome, same, noted⟩
      · have positive : length ≠ 0 := fun same => moving _ (same ▸ found)
        have moved : middle.position ≠ state.position := by
          rw [moves.position facing]
          omega
        have shorter : (tokens.drop length).length < tokens.length := by
          rw [List.length_drop]
          omega
        have later := ih (value :: earlier) fuel middle (tokens.drop length) (by omega) (by omega)
          (by omega) moves.facing
        obtain ⟨rest, found'⟩ := Pattern.repeated_length pattern last count
          ((tokens.map Token.kind).drop length)
        rw [List.map_drop] at later
        have both : Traces (Extends state.stack.size state) state tokens
            ((pattern.run (tokens.map Token.kind)).andThen fun length =>
              (pattern.repeated last count).run ((tokens.map Token.kind).drop length)) _ :=
          Traces.andThen facing found moves noted later.loosen
        rcases both with
          ⟨total, values, final, found'', outcome', reached⟩ | ⟨_, none, _⟩
        · simp only [outcome, if_neg moved, outcome']
          exact traces_matched found'' reached
        · rw [Trace.andThen_length.2 ⟨length, rest, found, found', rfl⟩] at none
          cases none
      · rw [Trace.andThen_missed none]
        simp only [outcome, (same.extends (Nat.le_refl _)).restore]
        have stopped : state.SameBefore { state with furthest := failed.furthest } := rfl
        exact .orElse none stopped noted (.inl ⟨0, _, _, rfl, rfl, (facing.same stopped).stays, rfl⟩)

/-- A repetition follows the repeated pattern when every step moves on. -/
theorem Follows.many {last : Pattern} (follows : parser.Follows bound pattern)
    (moving : ∀ word, (pattern.run word).length? ≠ some 0) {count : Nat} (enough : bound ≤ count) :
    (many parser).Follows bound (Pattern.repeated pattern last count) := by
  intro state tokens short facing
  have length := facing.position_add
  exact follows.manyWithin moving [] _ count state tokens short (by omega) (by omega) facing

end Parser

end Reckon
