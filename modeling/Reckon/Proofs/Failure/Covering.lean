/-
This file shows that the failed tests which are noted cover all other ones: a test that is not noted is
followed by a failed test further on, or the match goes on beyond it. The tests that bar an argument are
the only ones that are never noted.
-/

import Reckon.Proofs.Failure.Rules

namespace Reckon

open Reckon.Symbol

namespace Trace

/-- A run goes beyond an offset by what it matches, or by a test that it notes. -/
def Beyond (trace : Trace) (offset : Nat) : Prop :=
  (∃ miss ∈ trace.misses, offset < miss.offset) ∨
    ∃ length, trace.length? = some length ∧ offset < length

/-- A test is covered when it is noted, or when the run goes beyond it. -/
def Covers (trace : Trace) (test : Test) : Prop := trace.Beyond test.offset ∨ test ∈ trace.misses

/-- A vocal run does not fail without a note. -/
def Vocal (trace : Trace) : Prop := trace.length? = none → ∃ miss, miss ∈ trace.misses

variable {trace other : Trace} {next : Nat → Trace} {offset length : Nat} {test : Test}

/-- What goes beyond an offset still does when another vocal run follows its match. -/
theorem Beyond.andThen_left (beyond : trace.Beyond offset)
    (vocal : ∀ length, trace.length? = some length → (next length).Vocal) :
    (trace.andThen next).Beyond offset := by
  rcases beyond with ⟨miss, member, further⟩ | ⟨length, found, further⟩
  · exact .inl ⟨miss, mem_andThen_misses.2 (.inl member), further⟩
  · cases found' : (next length).length? with
    | some rest =>
        exact .inr ⟨_, andThen_length.2 ⟨length, rest, found, found', rfl⟩, by omega⟩
    | none =>
        obtain ⟨miss, member⟩ := vocal length found found'
        refine .inl ⟨miss.behind length,
          mem_andThen_misses.2 (.inr ⟨length, found, miss, member, rfl⟩), ?_⟩
        rw [Test.behind_offset]
        omega

/-- The second of two runs goes beyond an offset that is counted from the end of the first match. -/
theorem Beyond.andThen_right (found : trace.length? = some length)
    (beyond : (next length).Beyond offset) : (trace.andThen next).Beyond (length + offset) := by
  rcases beyond with ⟨miss, member, further⟩ | ⟨rest, found', further⟩
  · refine .inl ⟨miss.behind length,
      mem_andThen_misses.2 (.inr ⟨length, found, miss, member, rfl⟩), ?_⟩
    rw [Test.behind_offset]
    omega
  · exact .inr ⟨_, andThen_length.2 ⟨length, rest, found, found', rfl⟩, by omega⟩

/-- An alternative that goes beyond an offset takes the whole run there. -/
theorem Beyond.orElse_left (beyond : trace.Beyond offset) : (trace.orElse other).Beyond offset := by
  rcases beyond with ⟨miss, member, further⟩ | ⟨length, found, further⟩
  · exact .inl ⟨miss, mem_orElse_misses.2 (.inl member), further⟩
  · exact .inr ⟨length, orElse_length.2 (.inl found), further⟩

/-- Where the first alternative fails, the run goes as far as the second one. -/
theorem Beyond.orElse_right (none : trace.length? = none) (beyond : other.Beyond offset) :
    (trace.orElse other).Beyond offset := by
  rcases beyond with ⟨miss, member, further⟩ | ⟨length, found, further⟩
  · exact .inl ⟨miss, mem_orElse_misses.2 (.inr ⟨none, member⟩), further⟩
  · exact .inr ⟨length, orElse_length.2 (.inr ⟨none, found⟩), further⟩

/-- A test of the first of two runs stays covered when the second one is vocal. -/
theorem Covers.andThen_left (covers : trace.Covers test)
    (vocal : ∀ length, trace.length? = some length → (next length).Vocal) :
    (trace.andThen next).Covers test :=
  covers.imp (·.andThen_left vocal) fun member => mem_andThen_misses.2 (.inl member)

/-- A test of the second of two runs is covered behind the match of the first. -/
theorem Covers.andThen_right (found : trace.length? = some length)
    (covers : (next length).Covers test) : (trace.andThen next).Covers (test.behind length) :=
  covers.imp (.andThen_right found) fun member =>
    mem_andThen_misses.2 (.inr ⟨length, found, test, member, rfl⟩)

theorem Covers.orElse_left (covers : trace.Covers test) : (trace.orElse other).Covers test :=
  covers.imp (·.orElse_left) fun member => mem_orElse_misses.2 (.inl member)

theorem Covers.orElse_right (none : trace.length? = none) (covers : other.Covers test) :
    (trace.orElse other).Covers test :=
  covers.imp (.orElse_right none) fun member => mem_orElse_misses.2 (.inr ⟨none, member⟩)

/-- Every test of a single token is passed or noted. -/
theorem covers_among {kinds word : List Kind} (member : test ∈ (among kinds word).tests) :
    (among kinds word).Covers test := by
  rcases among_cases kinds word with ⟨_, same⟩ | ⟨_, same⟩
  · rw [same] at member ⊢
    obtain ⟨kind, _, rfl⟩ := List.mem_map.1 member
    exact .inl (.inr ⟨1, rfl, Nat.one_pos⟩)
  · rw [same] at member ⊢
    exact .inr member

/-- A choice of kinds is vocal, wherever it stands. -/
theorem vocal_among (kind : Kind) (others word : List Kind) : (among (kind :: others) word).Vocal := by
  intro none
  rcases among_cases (kind :: others) word with ⟨_, same⟩ | ⟨_, same⟩
  · rw [same] at none
    cases none
  · rw [same]
    exact ⟨⟨0, kind⟩, List.mem_cons_self⟩

/-- A run that is followed by vocal runs is vocal. -/
theorem Vocal.andThen (vocal : trace.Vocal)
    (later : ∀ length, trace.length? = some length → (next length).Vocal) :
    (trace.andThen next).Vocal := by
  intro none
  cases found : trace.length? with
  | none =>
      obtain ⟨miss, member⟩ := vocal found
      exact ⟨miss, mem_andThen_misses.2 (.inl member)⟩
  | some length =>
      rw [andThen_matched found] at none
      have refused : (next length).length? = Option.none := Option.map_eq_none_iff.1 none
      obtain ⟨miss, member⟩ := later length found refused
      exact ⟨_, mem_andThen_misses.2 (.inr ⟨length, found, miss, member, rfl⟩)⟩

/-- A run is vocal when its last alternative is. -/
theorem Vocal.orElse (vocal : other.Vocal) : (trace.orElse other).Vocal := by
  intro none
  cases found : trace.length? with
  | none =>
      rw [orElse_missed found] at none
      obtain ⟨miss, member⟩ := vocal none
      exact ⟨miss, mem_orElse_misses.2 (.inr ⟨found, member⟩)⟩
  | some length =>
      rw [orElse_matched found, found] at none
      cases none

end Trace

namespace Pattern

open Trace

/-- All tests of a covered pattern are covered. -/
def Covered (pattern : Pattern) : Prop :=
  ∀ word, ∀ test ∈ (pattern.run word).tests, (pattern.run word).Covers test

/-- All tests of a guarded pattern are covered, unless the match stops at the test and before a sign. -/
def Guarded (pattern : Pattern) : Prop :=
  ∀ word, ∀ test ∈ (pattern.run word).tests, (pattern.run word).Covers test ∨
    (pattern.run word).length? = some test.offset ∧ ¬Unsigned (word.drop test.offset)

def Vocal (pattern : Pattern) : Prop := ∀ word, (pattern.run word).Vocal

/-- A pattern is idle when it matches nothing before a sign. -/
def Idle (pattern : Pattern) : Prop :=
  ∀ word, ¬Unsigned word → (pattern.run word).length? = some 0

/-- A pattern is eager when it goes beyond every sign. -/
def Eager (pattern : Pattern) : Prop := ∀ word, ¬Unsigned word → (pattern.run word).Beyond 0

variable {first second : Pattern} {kind : Kind} {others : List Kind}

theorem covered_among (kind : Kind) (others : List Kind) : (among kind others).Covered :=
  fun _ _ => covers_among

theorem vocal_among (kind : Kind) (others : List Kind) : (among kind others).Vocal :=
  Trace.vocal_among kind others

theorem Vocal.both (vocal : first.Vocal) (vocal' : second.Vocal) : (first.both second).Vocal :=
  fun word => (vocal word).andThen fun _ _ => vocal' _

theorem Vocal.either (vocal : second.Vocal) : (first.either second).Vocal :=
  fun word => (vocal word).orElse

/-- A pattern before its closing kind is vocal, since the closing kind is noted. -/
theorem vocal_closed (pattern : Pattern) (kind : Kind) : (pattern.closed kind).Vocal := by
  intro word
  have vocal (word : List Kind) : (Trace.among [kind] word).Vocal := vocal_among kind [] word
  rw [run]
  cases found : (pattern.run word).length? with
  | some length =>
      refine Trace.Vocal.andThen (fun none => ?_) fun _ _ => vocal _
      rw [found] at none
      cases none
  | none => exact (vocal word).orElse

theorem Covered.guarded (covered : first.Covered) : first.Guarded :=
  fun word test member => .inl (covered word test member)

/-- A sequence of covered patterns is covered when the second one is vocal. -/
theorem Covered.both (covered : first.Covered) (covered' : second.Covered) (vocal : second.Vocal) :
    (first.both second).Covered := by
  intro word test member
  rcases mem_andThen_tests.1 member with left | ⟨length, found, later, right, rfl⟩
  · exact (covered word test left).andThen_left fun _ _ => vocal _
  · exact .andThen_right found (covered' _ later right)

/-- A choice of covered patterns is covered. -/
theorem Covered.either (covered : first.Covered) (covered' : second.Covered) :
    (first.either second).Covered := by
  intro word test member
  rcases mem_orElse_tests.1 member with left | ⟨none, right⟩
  · exact (covered word test left).orElse_left
  · exact .orElse_right none (covered' word test right)

/-- A covered pattern stays covered when it may be left out. -/
theorem Covered.optional (covered : first.Covered) : (optional first).Covered := by
  intro word test member
  rcases mem_orElse_tests.1 member with left | ⟨_, right⟩
  · exact (covered word test left).orElse_left
  · cases right

/-- A covered pattern stays covered before its closing kind. -/
theorem Covered.closed (covered : first.Covered) (kind : Kind) : (first.closed kind).Covered := by
  intro word test member
  rw [run] at member ⊢
  cases here : (first.run word).length? with
  | some total =>
      rw [here] at member
      rcases mem_andThen_tests.1 member with left | ⟨length, found, later, right, rfl⟩
      · exact (covered word test left).andThen_left fun _ _ => vocal_among kind [] _
      · exact .andThen_right found (covers_among right)
  | none =>
      rw [here] at member
      rcases mem_orElse_tests.1 member with left | ⟨none, right⟩
      · exact (covered word test left).orElse_left
      · exact .orElse_right none (covers_among right)

/-- What is guarded stays so before a pattern that is idle. -/
theorem Guarded.both (guarded : first.Guarded) (guarded' : second.Guarded) (vocal : second.Vocal)
    (idle : second.Idle) : (first.both second).Guarded := by
  intro word test member
  rcases mem_andThen_tests.1 member with left | ⟨length, found, later, right, rfl⟩
  · rcases guarded word test left with covers | ⟨stops, sign⟩
    · exact .inl (covers.andThen_left fun _ _ => vocal _)
    · exact .inr ⟨andThen_length.2 ⟨_, 0, stops, idle _ sign, rfl⟩, sign⟩
  · rcases guarded' _ later right with covers | ⟨stops, sign⟩
    · exact .inl (.andThen_right found covers)
    · refine .inr ⟨andThen_length.2 ⟨length, _, found, stops, rfl⟩, ?_⟩
      rwa [List.drop_drop] at sign

/-- A guarded pattern stays so behind a covered one. -/
theorem Covered.both_guarded (covered : first.Covered) (guarded : second.Guarded)
    (vocal : second.Vocal) : (first.both second).Guarded := by
  intro word test member
  rcases mem_andThen_tests.1 member with left | ⟨length, found, later, right, rfl⟩
  · exact .inl ((covered word test left).andThen_left fun _ _ => vocal _)
  · rcases guarded _ later right with covers | ⟨stops, sign⟩
    · exact .inl (.andThen_right found covers)
    · refine .inr ⟨andThen_length.2 ⟨length, _, found, stops, rfl⟩, ?_⟩
      rwa [List.drop_drop] at sign

/-- A guarded pattern before an eager one is covered. -/
theorem Guarded.both_eager (guarded : first.Guarded) (covered : second.Covered)
    (vocal : second.Vocal) (eager : second.Eager) : (first.both second).Covered := by
  intro word test member
  rcases mem_andThen_tests.1 member with left | ⟨length, found, later, right, rfl⟩
  · rcases guarded word test left with covers | ⟨stops, sign⟩
    · exact covers.andThen_left fun _ _ => vocal _
    · have beyond : ((first.run word).andThen fun length => second.run (word.drop length)).Beyond
          (test.offset + 0) := .andThen_right stops (eager _ sign)
      exact .inl beyond
  · exact .andThen_right found (covered _ later right)

/-- A choice of guarded patterns is guarded. -/
theorem Guarded.either (guarded : first.Guarded) (guarded' : second.Guarded) :
    (first.either second).Guarded := by
  intro word test member
  rcases mem_orElse_tests.1 member with left | ⟨none, right⟩
  · exact (guarded word test left).imp (·.orElse_left) fun stops =>
      ⟨orElse_length.2 (.inl stops.1), stops.2⟩
  · exact (guarded' word test right).imp (.orElse_right none) fun stops =>
      ⟨orElse_length.2 (.inr ⟨none, stops.1⟩), stops.2⟩

/-- A guarded pattern stays guarded when it may be left out. -/
theorem Guarded.optional (guarded : first.Guarded) : (optional first).Guarded := by
  intro word test member
  rcases mem_orElse_tests.1 member with left | ⟨_, right⟩
  · exact (guarded word test left).imp (·.orElse_left) fun stops =>
      ⟨orElse_length.2 (.inl stops.1), stops.2⟩
  · cases right

/-- A match of a solid pattern goes beyond its start. -/
theorem Solid.beyond (solid : first.Solid) {word : List Kind} {length : Nat}
    (found : (first.run word).length? = some length) : (first.run word).Beyond 0 := by
  have positive : length ≠ 0 := fun same => solid word (same ▸ found)
  exact .inr ⟨length, found, Nat.pos_of_ne_zero positive⟩

/-- A pattern that always matches is vocal. -/
theorem vocal_of_length {pattern : Pattern}
    (matched : ∀ word, ∃ length, (pattern.run word).length? = some length) : pattern.Vocal := by
  intro word none
  obtain ⟨length, found⟩ := matched word
  rw [none] at found
  cases found

theorem vocal_optional (pattern : Pattern) : (optional pattern).Vocal :=
  vocal_of_length (optional_length pattern)

section Repetition

variable {step last : Pattern} {count : Nat}

theorem vocal_repeated : (repeated step last count).Vocal :=
  vocal_of_length (repeated_length step last count)

/-- A repetition of covered steps is covered. -/
theorem Covered.repeated (covered : step.Covered) (covered' : last.Covered) :
    (repeated step last count).Covered := by
  induction count with
  | zero => exact covered'.optional
  | succ count ih => exact (covered.both ih vocal_repeated).optional

/-- A repetition is idle when its steps do not start with a sign. -/
theorem idle_repeated (refuses : ∀ word, ¬Unsigned word → (step.run word).length? = none)
    (refuses' : ∀ word, ¬Unsigned word → (last.run word).length? = none) (count : Nat) :
    (repeated step last count).Idle := by
  intro word sign
  cases count with
  | zero => exact orElse_length.2 (.inr ⟨refuses' word sign, rfl⟩)
  | succ count =>
      have none : ((step.both (repeated step last count)).run word).length? = none := by
        rw [run, andThen_missed (refuses word sign)]
        exact refuses word sign
      exact orElse_length.2 (.inr ⟨none, rfl⟩)

/-- A repetition of guarded steps is guarded when it stops before every sign. -/
theorem Guarded.repeated (guarded : step.Guarded) (guarded' : last.Guarded)
    (idle : ∀ count, (repeated step last count).Idle) : (repeated step last count).Guarded := by
  induction count with
  | zero => exact guarded'.optional
  | succ count ih => exact (guarded.both ih vocal_repeated (idle count)).optional

/-- A repetition is eager when its first step is. -/
theorem eager_repeated (eager : step.Eager) (eager' : last.Eager) : (repeated step last count).Eager := by
  intro word sign
  cases count with
  | zero => exact (eager' word sign).orElse_left
  | succ count =>
      have both : ((step.run word).andThen fun length =>
          (repeated step last count).run (word.drop length)).Beyond 0 :=
        (eager word sign).andThen_left fun _ _ => vocal_repeated _
      exact both.orElse_left

/-- A repetition of guarded steps is covered when it goes on at every sign, since a step that stops before a
sign is followed by another one. -/
theorem Guarded.repeated_eager (guarded : step.Guarded) (covered : last.Covered) (eager : step.Eager)
    (eager' : last.Eager) : (Pattern.repeated step last count).Covered := by
  induction count with
  | zero => exact covered.optional
  | succ count ih =>
      exact (guarded.both_eager ih vocal_repeated (eager_repeated eager eager')).optional

end Repetition

/-- A pattern asks for a sign, unless it goes beyond it. -/
def Asks (pattern : Pattern) : Prop :=
  ∀ word, Unsigned word → (pattern.run word).Beyond 0 ∨
    ∀ sign, isSumOperator sign → ⟨0, sign⟩ ∈ (pattern.run word).misses

/-- A sequence asks for a sign when its first part does. -/
theorem Asks.both (asks : first.Asks) (vocal : second.Vocal) : (first.both second).Asks := by
  intro word unsigned
  rcases asks word unsigned with beyond | missed
  · exact .inl (beyond.andThen_left fun _ _ => vocal _)
  · exact .inr fun sign isSign => mem_andThen_misses.2 (.inl (missed sign isSign))

/-- A choice asks for a sign when its first alternative does. -/
theorem Asks.either_left (asks : first.Asks) : (first.either second).Asks := by
  intro word unsigned
  rcases asks word unsigned with beyond | missed
  · exact .inl beyond.orElse_left
  · exact .inr fun sign isSign => mem_orElse_misses.2 (.inl (missed sign isSign))

/-- A choice asks for a sign when its second alternative does and the first one matches no empty word. -/
theorem Asks.either_right (solid : first.Solid) (asks : second.Asks) : (first.either second).Asks := by
  intro word unsigned
  cases found : (first.run word).length? with
  | some length => exact .inl (solid.beyond found).orElse_left
  | none =>
      rcases asks word unsigned with beyond | missed
      · exact .inl (.orElse_right found beyond)
      · exact .inr fun sign isSign => mem_orElse_misses.2 (.inr ⟨found, missed sign isSign⟩)

section Signs

variable {word : List Kind}

/-- A word that is not unsigned starts with a sign. -/
theorem exists_sign (signed : ¬Unsigned word) : ∃ sign rest, isSumOperator sign ∧ word = sign :: rest := by
  cases word with
  | nil => exact absurd (fun _ here => nomatch here) signed
  | cons kind rest =>
      refine ⟨kind, rest, Classical.not_not.1 fun other => signed ?_, rfl⟩
      rintro _ ⟨⟩
      exact other

theorem sumOperator_length (signed : ¬Unsigned word) : (sumOperator.run word).length? = some 1 := by
  obtain ⟨sign, rest, rfl | rfl, rfl⟩ := exists_sign signed <;> rfl

theorem productOperator_length (signed : ¬Unsigned word) :
    (productOperator.run word).length? = none := by
  obtain ⟨sign, rest, rfl | rfl, rfl⟩ := exists_sign signed <;> rfl

theorem starts_signs : Trace.starts [.plus, .dash] word = true ↔ ¬Unsigned word := by
  cases word <;> simp [Trace.starts, Unsigned, isSumOperator, or_iff_not_imp_left]

/-- An operator of sums asks for a sign. -/
theorem asks_sumOperator : sumOperator.Asks := by
  intro word unsigned
  have none : Trace.starts [.plus, .dash] word = false :=
    Bool.eq_false_iff.2 fun here => starts_signs.1 here unsigned
  obtain ⟨notPlus, notDash⟩ : Trace.starts [.plus] word = false ∧ Trace.starts [.dash] word = false := by
    simpa [Trace.starts] using none
  have plus : (token .plus).run word = ⟨.none, [⟨0, .plus⟩], [⟨0, .plus⟩]⟩ := by
    rw [token, run, Trace.among, notPlus]
    rfl
  have dash : (token .dash).run word = ⟨.none, [⟨0, .dash⟩], [⟨0, .dash⟩]⟩ := by
    rw [token, run, Trace.among, notDash]
    rfl
  refine .inr fun sign isSign => ?_
  rw [sumOperator, anyOf, anyOf, run, plus, dash]
  rcases isSign with rfl | rfl
  · exact List.mem_cons_self
  · exact List.mem_cons_of_mem _ List.mem_cons_self

end Signs

/-- Kinds that are tried in order are covered. -/
theorem covered_anyOf (kind : Kind) (others : List Kind) : (anyOf kind others).Covered := by
  induction others generalizing kind with
  | nil => exact covered_among kind []
  | cons other others ih => exact (covered_among kind []).either (ih other)

/-- What starts with an operator of a sum goes beyond every sign. -/
theorem eager_operation (vocal : second.Vocal) : (sumOperator.both second).Eager := by
  intro word signed
  have operator : (sumOperator.run word).Beyond 0 :=
    .inr ⟨1, sumOperator_length signed, Nat.one_pos⟩
  exact operator.andThen_left fun _ _ => vocal _

/-- What starts with an operator of a product refuses every sign. -/
theorem operation_refuses (second : Pattern) (word : List Kind) (signed : ¬Unsigned word) :
    ((productOperator.both second).run word).length? = none := by
  rw [run, andThen_missed (productOperator_length signed)]
  exact productOperator_length signed

/-- An attentive pattern has covered tests, it does not fail without a note, and it asks for a sign. -/
structure Attentive (pattern : Pattern) : Prop where
  covered : pattern.Covered
  vocal : pattern.Vocal
  asks : pattern.Asks

section Rules

variable {expr : Pattern}

/-- No argument is tried before a sign. -/
theorem run_argument (expr : Pattern) {word : List Kind} (signed : ¬Unsigned word) :
    (optional (barred [.plus, .dash] expr)).run word = ⟨some 0, [⟨0, .plus⟩, ⟨0, .dash⟩], []⟩ := by
  rw [run, run, if_pos (starts_signs.2 signed)]
  rfl

theorem idle_argument (expr : Pattern) : (optional (barred [.plus, .dash] expr)).Idle := by
  intro word signed
  rw [run_argument expr signed]

/-- The signs that bar an argument are asked for again, either by the argument or behind the callee. -/
theorem Attentive.argument (attentive : expr.Attentive) :
    (optional (barred [.plus, .dash] expr)).Guarded := by
  intro word test member
  by_cases unsigned : Unsigned word
  · have allowed : ¬Trace.starts [.plus, .dash] word = true :=
      fun here => starts_signs.1 here unsigned
    have covers : (expr.run word).Covers test := by
      rcases mem_orElse_tests.1 member with member | ⟨_, ⟨⟩⟩
      rw [run, if_neg allowed] at member
      rcases List.mem_append.1 member with hidden | member
      · obtain ⟨sign, isSign, rfl⟩ := List.mem_map.1 hidden
        exact (attentive.asks word unsigned).imp id fun missed =>
          missed sign (by simpa [isSumOperator] using isSign)
      · exact attentive.covered word test member
    rw [run, run, if_neg allowed]
    have silent : ((expr.run word).silently ([.plus, .dash].map (Test.mk 0))).Covers test := covers
    exact .inl silent.orElse_left
  · rw [run_argument expr unsigned] at member ⊢
    have here : test.offset = 0 := by
      rcases List.mem_pair.1 member with rfl | rfl <;> rfl
    rw [here]
    exact .inr ⟨rfl, unsigned⟩

/-- Functions are attentive to their tests when expressions are. -/
theorem Attentive.function (attentive : expr.Attentive) :
    (function expr).Covered ∧ (function expr).Vocal := by
  have colon : (both (token .colon) expr).Vocal := (vocal_among _ _).both attentive.vocal
  exact ⟨(covered_among _ _).both ((covered_among _ _).both attentive.covered attentive.vocal) colon,
    (vocal_among _ _).both colon⟩

/-- A covered pattern stays covered between brackets. -/
theorem Covered.bracketed (covered : first.Covered) (vocal : first.Vocal) (left right : Kind) :
    (bracketed left first right).Covered :=
  (covered_among _ _).both (covered.both (covered_among _ _) (vocal_among _ _))
    (vocal.both (vocal_among _ _))

/-- An application is only guarded: its argument is not tried before a sign. -/
theorem Attentive.application (attentive : expr.Attentive) : (application expr).Guarded := by
  have callee : (callee expr).Covered :=
    (attentive.function.1.bracketed attentive.function.2 _ _).either (covered_among _ _)
  exact callee.guarded.both attentive.argument (vocal_optional _) (idle_argument expr)

/-- Terms cover their tests when expressions do. -/
theorem Attentive.term (attentive : expr.Attentive) (count : Nat) :
    (term expr count).Covered ∧ (term expr count).Vocal := by
  have elements : (elements expr count).Covered := by
    refine attentive.covered.both (Covered.repeated ?_ ?_) vocal_repeated
    · exact (covered_among _ _).both attentive.covered attentive.vocal
    · exact (covered_among _ _).both (covered_among _ _) (vocal_among _ _)
  have list : (list expr count).Covered :=
    (covered_among _ _).both (elements.closed _) (vocal_closed _ _)
  have unit : (both (token .leftParen) (token .rightParen)).Covered :=
    (covered_among _ _).both (covered_among _ _) (vocal_among _ _)
  have inside (left right : Kind) := attentive.covered.bracketed attentive.vocal left right
  refine ⟨(covered_among _ _).either ((covered_among _ _).either (unit.either ((inside _ _).either
    ((inside _ _).either list)))), ?_⟩
  exact .either (.either (.either (.either (.either ((vocal_among _ _).both (vocal_closed _ _))))))

/-- Factors are guarded, vocal, and ask for a sign. -/
theorem Attentive.factor (attentive : expr.Attentive) (count : Nat) :
    (factor expr count).Guarded ∧ (factor expr count).Vocal ∧ (factor expr count).Asks := by
  obtain ⟨covered, vocal⟩ := attentive.term count
  have unary : (unary expr count).Covered := (covered_anyOf _ _).both covered vocal
  exact ⟨unary.guarded.either (attentive.application.either covered.guarded), .either (.either vocal),
    (asks_sumOperator.both vocal).either_left⟩

/-- Products are guarded, vocal, and ask for a sign. -/
theorem Attentive.product (attentive : expr.Attentive) (count : Nat) :
    (product expr count).Guarded ∧ (product expr count).Vocal ∧ (product expr count).Asks := by
  obtain ⟨guarded, vocal, asks⟩ := attentive.factor count
  have step : (both productOperator (Pattern.factor expr count)).Guarded :=
    (covered_anyOf _ _).both_guarded guarded vocal
  have last : (both productOperator (token .identifier)).Covered :=
    (covered_anyOf _ _).both (covered_among _ _) (vocal_among _ _)
  have idle (count' : Nat) := idle_repeated (operation_refuses (Pattern.factor expr count))
    (operation_refuses (token .identifier)) count'
  exact ⟨guarded.both (step.repeated last.guarded idle) vocal_repeated (idle count),
    vocal.both vocal_repeated, asks.both vocal_repeated⟩

/-- A sum is attentive, since it tries the signs that its products stop before. -/
theorem Attentive.sum (attentive : expr.Attentive) (count : Nat) : (sum expr count).Attentive := by
  obtain ⟨guarded, vocal, asks⟩ := attentive.product count
  have step : (both sumOperator (Pattern.product expr count)).Guarded :=
    (covered_anyOf _ _).both_guarded guarded vocal
  have last : (both sumOperator (token .identifier)).Covered :=
    (covered_anyOf _ _).both (covered_among _ _) (vocal_among _ _)
  have eager := eager_operation vocal
  have eager' := eager_operation (vocal_among .identifier [])
  exact ⟨guarded.both_eager (step.repeated_eager last eager eager') vocal_repeated
    (eager_repeated eager eager'), vocal.both vocal_repeated, asks.both vocal_repeated⟩

/-- The rule of expressions is attentive when the expressions inside are. -/
theorem Attentive.expressionRule (attentive : expr.Attentive) (count : Nat) :
    (expressionRule expr count).Attentive := by
  have sum := attentive.sum count
  exact ⟨attentive.function.1.either sum.covered, .either sum.vocal,
    .either_right (solid_token _).both sum.asks⟩

/-- The pattern of expressions is attentive. -/
theorem attentive_expressionWithin (count depth : Nat) : (expressionWithin count depth).Attentive := by
  induction depth with
  | zero =>
      have signed : (both sumOperator (token .identifier)).Covered :=
        (covered_anyOf _ _).both (covered_among _ _) (vocal_among _ _)
      exact ⟨signed.either (covered_among _ _), .either (vocal_among _ _),
        (asks_sumOperator.both (vocal_among _ _)).either_left⟩
  | succ depth ih => exact ih.expressionRule count

/-- Statements cover their tests when expressions do. -/
theorem Attentive.statementRule (attentive : expr.Attentive) :
    (statementRule expr).Covered ∧ (statementRule expr).Vocal := by
  have value : (both (token .equal) expr).Vocal := (vocal_among _ _).both attentive.vocal
  have assignment : (both (token .identifier) (both (token .equal) expr)).Covered :=
    (covered_among _ _).both ((covered_among _ _).both attentive.covered attentive.vocal) value
  exact ⟨assignment.either attentive.covered, .either attentive.vocal⟩

end Rules

end Pattern

end Reckon
