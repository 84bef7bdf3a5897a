/-
This file defines patterns, which only look at the kinds of tokens. The run of a pattern is a series of
tests, and it is the same on all words that pass and fail the same tests.
-/

import Mathlib.Data.List.Basic
import Reckon.Token.Kind

namespace Reckon

/-- A pattern is matched against the kinds of tokens. -/
inductive Pattern where
  /-- A token has one of the kinds, which are all asked for at once. -/
  | among (kind : Kind) (others : List Kind)
  | both (first second : Pattern)
  /-- The second pattern is tried where the first one does not match. -/
  | either (first second : Pattern)
  | optional (pattern : Pattern)
  /-- The pattern does not match before any of the kinds. -/
  | barred (kinds : List Kind) (pattern : Pattern)
  /-- A token of the kind closes what the pattern matches, or stands alone where it does not match. -/
  | closed (pattern : Pattern) (kind : Kind)
  deriving Repr

/-- A test asks for a kind at an offset. -/
structure Test where
  offset : Nat
  kind : Kind
  deriving DecidableEq, Repr

/-- This is the test behind some more tokens. -/
def Test.behind (length : Nat) (test : Test) : Test := { test with offset := length + test.offset }

theorem Test.behind_offset (length : Nat) (test : Test) :
    (test.behind length).offset = length + test.offset := rfl

/-- A trace is a run of a pattern: the length of its match, the tests that it made, and the failed tests
that it notes. -/
structure Trace where
  length? : Option Nat
  tests : List Test
  misses : List Test
  deriving DecidableEq, Repr

namespace Trace

/-- Nothing is matched without a test. -/
def empty : Trace := ⟨some 0, [], []⟩

/-- The first kind of a word is one of the given ones. -/
def starts (kinds : List Kind) (word : List Kind) : Bool := kinds.any fun kind => word[0]? == some kind

/-- These are the tests of a single token. -/
def among (kinds : List Kind) (word : List Kind) : Trace :=
  { length? := if starts kinds word then some 1 else none
    tests := kinds.map (Test.mk 0)
    misses := if starts kinds word then [] else kinds.map (Test.mk 0) }

/-- A match is followed by another run. -/
def andThen (trace : Trace) (next : Nat → Trace) : Trace :=
  match trace.length? with
  | none => trace
  | some length =>
      { length? := (next length).length?.map (length + ·)
        tests := trace.tests ++ (next length).tests.map (Test.behind length)
        misses := trace.misses ++ (next length).misses.map (Test.behind length) }

/-- Where nothing is matched there is another run. -/
def orElse (trace other : Trace) : Trace :=
  match trace.length? with
  | some _ => trace
  | none => ⟨other.length?, trace.tests ++ other.tests, trace.misses ++ other.misses⟩

/-- A trace makes more tests before those that it notes. -/
def silently (tests : List Test) (trace : Trace) : Trace := { trace with tests := tests ++ trace.tests }

end Trace

namespace Pattern

def token (kind : Kind) : Pattern := among kind []

/-- This is the run of a pattern on a word. -/
def run : Pattern → List Kind → Trace
  | among kind others, word => .among (kind :: others) word
  | both first second, word => (first.run word).andThen fun length => second.run (word.drop length)
  | either first second, word => (first.run word).orElse (second.run word)
  | optional pattern, word => (pattern.run word).orElse .empty
  | barred kinds pattern, word =>
      if Trace.starts kinds word then ⟨none, kinds.map (Test.mk 0), []⟩
      else (pattern.run word).silently (kinds.map (Test.mk 0))
  | closed pattern kind, word =>
      match (pattern.run word).length? with
      | some _ => (pattern.run word).andThen fun length => .among [kind] (word.drop length)
      | none => (pattern.run word).orElse (.among [kind] word)

/-- These are the words that a pattern stands for. Neither priority nor greed matters to them. -/
def Language : Pattern → List Kind → Prop
  | among kind others, word => ∃ found ∈ kind :: others, word = [found]
  | both first second, word => ∃ left right, word = left ++ right ∧ first.Language left ∧
      second.Language right
  | either first second, word => first.Language word ∨ second.Language word
  | optional pattern, word => word = [] ∨ pattern.Language word
  | barred _ pattern, word => pattern.Language word
  | closed pattern kind, word => word = [kind] ∨ ∃ inner, pattern.Language inner ∧
      word = inner ++ [kind]

end Pattern

namespace Trace

variable {trace other : Trace} {next : Nat → Trace} {test : Test} {kinds : List Kind}
  {word word' : List Kind}

theorem andThen_missed (none : trace.length? = none) : trace.andThen next = trace := by
  unfold andThen
  rw [none]

/-- A match is followed by the next run, with its tests behind it. -/
theorem andThen_matched {length : Nat} (found : trace.length? = some length) : trace.andThen next =
    { length? := (next length).length?.map (length + ·)
      tests := trace.tests ++ (next length).tests.map (Test.behind length)
      misses := trace.misses ++ (next length).misses.map (Test.behind length) } := by
  unfold andThen
  rw [found]

/-- Without a match the other run comes behind the first one. -/
theorem orElse_missed (none : trace.length? = none) : trace.orElse other =
    ⟨other.length?, trace.tests ++ other.tests, trace.misses ++ other.misses⟩ := by
  unfold orElse
  rw [none]

/-- The other run is left out behind a match. -/
theorem orElse_matched {length : Nat} (found : trace.length? = some length) :
    trace.orElse other = trace := by
  unfold orElse
  rw [found]

/-- The tests of a sequence are those of its first run, and those of the next run behind its match. -/
theorem mem_andThen_tests : test ∈ (trace.andThen next).tests ↔ test ∈ trace.tests ∨
    ∃ length, trace.length? = some length ∧ ∃ later ∈ (next length).tests,
      later.behind length = test := by
  unfold andThen
  cases trace.length? <;> simp

/-- The notes of a sequence are those of its first run, and those of the next run behind its match. -/
theorem mem_andThen_misses : test ∈ (trace.andThen next).misses ↔ test ∈ trace.misses ∨
    ∃ length, trace.length? = some length ∧ ∃ later ∈ (next length).misses,
      later.behind length = test := by
  unfold andThen
  cases trace.length? <;> simp

/-- A sequence matches what both of its runs match. -/
theorem andThen_length {total : Nat} : (trace.andThen next).length? = some total ↔
    ∃ length rest, trace.length? = some length ∧ (next length).length? = some rest ∧
      length + rest = total := by
  unfold andThen
  cases found : trace.length? <;> simp [found]

/-- The tests of a choice are those of its first run, and those of the other one where the first fails. -/
theorem mem_orElse_tests : test ∈ (trace.orElse other).tests ↔ test ∈ trace.tests ∨
    trace.length? = none ∧ test ∈ other.tests := by
  unfold orElse
  cases trace.length? <;> simp

/-- The notes of a choice are those of its first run, and those of the other one where the first fails. -/
theorem mem_orElse_misses : test ∈ (trace.orElse other).misses ↔ test ∈ trace.misses ∨
    trace.length? = none ∧ test ∈ other.misses := by
  unfold orElse
  cases trace.length? <;> simp

/-- A choice matches what its first run matches, or else what the other one does. -/
theorem orElse_length {length : Nat} : (trace.orElse other).length? = some length ↔
    trace.length? = some length ∨ trace.length? = none ∧ other.length? = some length := by
  unfold orElse
  cases found : trace.length? <;> simp [found]

/-- Only the run behind the match matters to a sequence. -/
theorem andThen_congr {next' : Nat → Trace}
    (same : ∀ length, trace.length? = some length → next length = next' length) :
    trace.andThen next = trace.andThen next' := by
  cases found : trace.length? with
  | none => rw [andThen_missed found, andThen_missed found]
  | some length => rw [andThen_matched found, andThen_matched found, same length found]

/-- The other run only matters where the first one fails. -/
theorem orElse_congr {other' : Trace} (same : trace.length? = none → other = other') :
    trace.orElse other = trace.orElse other' := by
  cases found : trace.length? with
  | none => rw [same found]
  | some length => rw [orElse_matched found, orElse_matched found]

/-- Two words agree on the tests of a trace when they pass the same of them. -/
def Agrees (trace : Trace) (word word' : List Kind) : Prop :=
  ∀ test ∈ trace.tests, word[test.offset]? = some test.kind ↔ word'[test.offset]? = some test.kind

/-- Words that agree on a sequence agree on both of its runs. -/
theorem Agrees.andThen (agrees : (trace.andThen next).Agrees word word') :
    trace.Agrees word word' ∧ ∀ length, trace.length? = some length →
      (next length).Agrees (word.drop length) (word'.drop length) := by
  refine ⟨fun test member => agrees test (mem_andThen_tests.2 (.inl member)), ?_⟩
  intro length found test member
  rw [List.getElem?_drop, List.getElem?_drop]
  exact agrees _ (mem_andThen_tests.2 (.inr ⟨length, found, test, member, rfl⟩))

/-- Words that agree on a choice agree on the runs that are made. -/
theorem Agrees.orElse (agrees : (trace.orElse other).Agrees word word') :
    trace.Agrees word word' ∧ (trace.length? = none → other.Agrees word word') := by
  refine ⟨fun test member => agrees test (mem_orElse_tests.2 (.inl member)), ?_⟩
  intro none test member
  exact agrees _ (mem_orElse_tests.2 (.inr ⟨none, member⟩))

theorem starts_iff : starts kinds word = true ↔ ∃ kind ∈ kinds, ∃ rest, word = kind :: rest := by
  simp only [starts, List.any_eq_true, beq_iff_eq, ← List.head?_eq_getElem?, List.head?_eq_some_iff]

/-- Words that agree on some kinds start with the same of them. -/
theorem Agrees.starts (agrees : trace.Agrees word word')
    (asked : ∀ test ∈ kinds.map (Test.mk 0), test ∈ trace.tests) :
    starts kinds word' = starts kinds word := by
  rw [Bool.eq_iff_iff, Trace.starts, Trace.starts, List.any_eq_true, List.any_eq_true]
  simp only [beq_iff_eq]
  refine exists_congr fun kind => and_congr_right fun member => ?_
  exact (agrees ⟨0, kind⟩ (asked _ (List.mem_map_of_mem member))).symm

theorem among_congr (agrees : (among kinds word).Agrees word word') :
    among kinds word' = among kinds word := by
  rw [among, among, agrees.starts fun _ => id]

/-- A test of a token passes, or all kinds that it asked for are noted. -/
theorem among_cases (kinds word : List Kind) :
    (∃ kind ∈ kinds, ∃ rest, word = kind :: rest) ∧
        among kinds word = ⟨some 1, kinds.map (Test.mk 0), []⟩ ∨
      (∀ kind ∈ kinds, word[0]? ≠ some kind) ∧
        among kinds word = ⟨none, kinds.map (Test.mk 0), kinds.map (Test.mk 0)⟩ := by
  rw [among]
  cases here : starts kinds word with
  | true => exact .inl ⟨starts_iff.1 here, rfl⟩
  | false =>
      refine .inr ⟨?_, rfl⟩
      simpa [starts] using here

/-- A test of the first kind is noted when the word does not start with it. -/
theorem among_miss (miss : test ∈ (among kinds word).misses) :
    ∃ kind ∈ kinds, test = ⟨0, kind⟩ ∧ word[0]? ≠ some kind := by
  rcases among_cases kinds word with ⟨_, same⟩ | ⟨other, same⟩
  · rw [same] at miss
    cases miss
  · rw [same] at miss
    obtain ⟨kind, member, rfl⟩ := List.mem_map.1 miss
    exact ⟨kind, member, rfl, other kind member⟩

/-- A test of the first kind matches that kind alone. -/
theorem among_length {length : Nat} (found : (among kinds word).length? = some length) :
    length = 1 ∧ ∃ kind ∈ kinds, ∃ rest, word = kind :: rest := by
  rcases among_cases kinds word with ⟨here, same⟩ | ⟨_, same⟩
  · rw [same] at found
    exact ⟨(Option.some.inj found).symm, here⟩
  · rw [same] at found
    cases found

end Trace

namespace Pattern

open Trace

/-- A run is the same on words that agree on its tests. -/
theorem run_congr (pattern : Pattern) {word word' : List Kind}
    (agrees : (pattern.run word).Agrees word word') : pattern.run word' = pattern.run word := by
  induction pattern generalizing word word' with
  | among kind others => exact among_congr agrees
  | both first second ih ih' =>
      obtain ⟨left, right⟩ := agrees.andThen
      rw [run, run, ih left]
      exact andThen_congr fun length found => ih' (right length found)
  | either first second ih ih' =>
      obtain ⟨left, right⟩ := agrees.orElse
      rw [run, run, ih left]
      exact orElse_congr fun none => ih' (right none)
  | optional pattern ih =>
      rw [run, run, ih agrees.orElse.1]
  | barred kinds pattern ih =>
      have asked : ∀ test ∈ kinds.map (Test.mk 0), test ∈ ((barred kinds pattern).run word).tests := by
        intro test member
        rw [run]
        split
        · exact member
        · exact List.mem_append_left _ member
      have same := agrees.starts asked
      rw [run, run, same]
      split
      · rfl
      · rename_i allowed
        rw [run, if_neg allowed] at agrees
        rw [ih fun test member => agrees test (List.mem_append_right _ member)]
  | closed pattern kind ih =>
      rw [run] at agrees
      rw [run, run]
      cases found : (pattern.run word).length? with
      | some length =>
          rw [found] at agrees
          obtain ⟨left, right⟩ := Agrees.andThen agrees
          rw [ih left, found]
          exact andThen_congr fun length found => among_congr (right length found)
      | none =>
          rw [found] at agrees
          obtain ⟨left, right⟩ := Agrees.orElse agrees
          rw [ih left, found]
          exact orElse_congr fun none => among_congr (right none)

/-- Every pattern stands for some word. -/
theorem exists_language (pattern : Pattern) : ∃ word, pattern.Language word := by
  induction pattern with
  | among kind others => exact ⟨[kind], kind, List.mem_cons_self, rfl⟩
  | both first second ih ih' =>
      obtain ⟨left, first⟩ := ih
      obtain ⟨right, second⟩ := ih'
      exact ⟨left ++ right, left, right, rfl, first, second⟩
  | either first second ih _ =>
      obtain ⟨word, language⟩ := ih
      exact ⟨word, .inl language⟩
  | optional => exact ⟨[], .inl rfl⟩
  | barred kinds pattern ih => exact ih
  | closed pattern kind => exact ⟨[kind], .inl rfl⟩

/-- What a pattern matches is a word of its language. -/
theorem language_take (pattern : Pattern) {word : List Kind} {length : Nat}
    (found : (pattern.run word).length? = some length) : pattern.Language (word.take length) := by
  induction pattern generalizing word length with
  | among kind others =>
      obtain ⟨rfl, first, member, rest, rfl⟩ := among_length found
      exact ⟨first, member, rfl⟩
  | both first second ih ih' =>
      obtain ⟨count, rest, first, second, rfl⟩ := andThen_length.1 found
      exact ⟨_, _, List.take_add, ih first, ih' second⟩
  | either first second ih ih' =>
      rcases orElse_length.1 found with first | ⟨_, second⟩
      · exact .inl (ih first)
      · exact .inr (ih' second)
  | optional pattern ih =>
      rcases orElse_length.1 found with first | ⟨_, second⟩
      · exact .inr (ih first)
      · obtain rfl : 0 = length := Option.some.inj second
        exact .inl rfl
  | barred kinds pattern ih =>
      rw [run] at found
      split at found
      · cases found
      · exact ih found
  | closed pattern kind ih =>
      rw [run] at found
      split at found
      · obtain ⟨count, rest, first, second, rfl⟩ := andThen_length.1 found
        obtain ⟨rfl, last, member, others, split⟩ := among_length second
        obtain rfl := List.mem_singleton.1 member
        refine .inr ⟨_, ih first, ?_⟩
        rw [List.take_add, split]
        rfl
      · rename_i none
        rcases orElse_length.1 found with first | ⟨_, second⟩
        · rw [none] at first
          cases first
        · obtain ⟨rfl, last, member, others, rfl⟩ := among_length second
          obtain rfl := List.mem_singleton.1 member
          exact .inl rfl

/-- A noted test was failed. -/
theorem miss_ne (pattern : Pattern) {word : List Kind} {test : Test}
    (miss : test ∈ (pattern.run word).misses) : word[test.offset]? ≠ some test.kind := by
  induction pattern generalizing word test with
  | among kind others =>
      obtain ⟨kind, _, rfl, other⟩ := among_miss miss
      exact other
  | both first second ih ih' =>
      rcases mem_andThen_misses.1 miss with left | ⟨length, _, later, right, rfl⟩
      · exact ih left
      · have other := ih' right
        rwa [List.getElem?_drop] at other
  | either first second ih ih' =>
      rcases mem_orElse_misses.1 miss with left | ⟨_, right⟩
      · exact ih left
      · exact ih' right
  | optional pattern ih =>
      rcases mem_orElse_misses.1 miss with left | ⟨_, right⟩
      · exact ih left
      · cases right
  | barred kinds pattern ih =>
      rw [run] at miss
      split at miss
      · cases miss
      · exact ih miss
  | closed pattern kind ih =>
      rw [run] at miss
      split at miss
      · rcases mem_andThen_misses.1 miss with left | ⟨length, _, later, right, rfl⟩
        · exact ih left
        · obtain ⟨kind, _, rfl, other⟩ := among_miss right
          rwa [List.getElem?_drop] at other
      · rcases mem_orElse_misses.1 miss with left | ⟨_, right⟩
        · exact ih left
        · obtain ⟨kind, _, rfl, other⟩ := among_miss right
          exact other

/-- From a noted test on, a kind that passes it leads to a word of the language. -/
theorem exists_language_of_miss (pattern : Pattern) {word : List Kind} {test : Test}
    (miss : test ∈ (pattern.run word).misses) :
    ∃ rest, pattern.Language (word.take test.offset ++ test.kind :: rest) := by
  induction pattern generalizing word test with
  | among kind others =>
      obtain ⟨kind, member, rfl, _⟩ := among_miss miss
      exact ⟨[], kind, member, rfl⟩
  | both first second ih ih' =>
      rcases mem_andThen_misses.1 miss with left | ⟨length, found, later, right, rfl⟩
      · obtain ⟨rest, language⟩ := ih left
        -- The first part can be completed from the test on, and any word of the second completes the whole.
        obtain ⟨other, language'⟩ := second.exists_language
        exact ⟨rest ++ other, _, other, by simp, language, language'⟩
      · obtain ⟨rest, language⟩ := ih' right
        refine ⟨rest, _, _, ?_, first.language_take found, language⟩
        rw [Test.behind, List.take_add, List.append_assoc]
  | either first second ih ih' =>
      rcases mem_orElse_misses.1 miss with left | ⟨_, right⟩
      · obtain ⟨rest, language⟩ := ih left
        exact ⟨rest, .inl language⟩
      · obtain ⟨rest, language⟩ := ih' right
        exact ⟨rest, .inr language⟩
  | optional pattern ih =>
      rcases mem_orElse_misses.1 miss with left | ⟨_, right⟩
      · obtain ⟨rest, language⟩ := ih left
        exact ⟨rest, .inr language⟩
      · cases right
  | barred kinds pattern ih =>
      rw [run] at miss
      split at miss
      · cases miss
      · exact ih miss
  | closed pattern kind ih =>
      -- A test inside the brackets leads to a word inside, and the closing kind completes it.
      have inside {test : Test} (left : test ∈ (pattern.run word).misses) :
          ∃ rest, (closed pattern kind).Language (word.take test.offset ++ test.kind :: rest) := by
        obtain ⟨rest, language⟩ := ih left
        exact ⟨rest ++ [kind], .inr ⟨_, language, by simp⟩⟩
      rw [run] at miss
      split at miss
      · rcases mem_andThen_misses.1 miss with left | ⟨length, found, later, right, rfl⟩
        · exact inside left
        · obtain ⟨last, member, rfl, _⟩ := among_miss right
          obtain rfl := List.mem_singleton.1 member
          exact ⟨[], .inr ⟨_, pattern.language_take found, rfl⟩⟩
      · rcases mem_orElse_misses.1 miss with left | ⟨_, right⟩
        · exact inside left
        · obtain ⟨last, member, rfl, _⟩ := among_miss right
          obtain rfl := List.mem_singleton.1 member
          exact ⟨[], .inl rfl⟩

end Pattern

end Reckon
