/-
This file shows what the failed tests of a run tell. Where a pattern does not match a word, the kinds that
were asked for at the last failed tests are those that could come next.
-/

import Mathlib.Data.List.Induction
import Mathlib.Data.List.Nodup
import Reckon.Proofs.Failure.Covering

namespace Reckon

open Reckon.Symbol

/-- A failure sums up failed tests when it is at the last of their offsets, and expects the names of the
kinds that they ask for there. -/
structure Failure.Sums (failure : Failure) (misses : List Test) : Prop where
  last : ∀ miss ∈ misses, miss.offset ≤ failure.position
  attained : ∃ kind, ⟨failure.position, kind⟩ ∈ misses
  distinct : failure.expected.Nodup
  names : ∀ name, name ∈ failure.expected ↔
    ∃ kind, ⟨failure.position, kind⟩ ∈ misses ∧ kind.name = name

namespace Failure

variable {failure : Failure} {misses : List Test}

/-- The first failed test, or one beyond all others, is summed up by itself. -/
theorem sums_beyond (test : Test) (before : ∀ miss ∈ misses, miss.offset < test.offset) :
    Sums ⟨test.offset, [test.kind.name]⟩ (misses ++ [test]) := by
  have here : ⟨test.offset, test.kind⟩ ∈ misses ++ [test] :=
    List.mem_append_right _ (List.mem_singleton_self test)
  refine ⟨fun miss member => ?_, ⟨_, here⟩, List.nodup_singleton _, fun name => ⟨fun member => ?_, ?_⟩⟩
  · rcases List.mem_append.1 member with earlier | same
    · exact Nat.le_of_lt (before miss earlier)
    · obtain rfl := List.mem_singleton.1 same
      exact Nat.le_refl _
  · exact ⟨test.kind, here, (List.mem_singleton.1 member).symm⟩
  · rintro ⟨kind, member, rfl⟩
    rcases List.mem_append.1 member with earlier | same
    · exact absurd (before _ earlier) (Nat.lt_irrefl _)
    · rw [← List.mem_singleton.1 same]
      exact List.mem_singleton_self _

/-- Another failed test is summed up together with those before it. -/
theorem Sums.note (sums : failure.Sums misses) (test : Test) :
    ∃ next, Failure.note (some failure) test.offset test.kind.name = some next ∧
      next.Sums (misses ++ [test]) := by
  obtain ⟨position, expected⟩ := failure
  obtain ⟨last, ⟨kind, attained⟩, distinct, names⟩ := sums
  dsimp only at last attained distinct names
  unfold Failure.note
  dsimp only
  split
  · rename_i beyond
    exact ⟨_, rfl, sums_beyond test fun miss member => Nat.lt_of_le_of_lt (last miss member) beyond⟩
  -- The furthest position stays, and the name is added only where the test stands there.
  · rename_i notBeyond
    have last' : ∀ miss ∈ misses ++ [test], miss.offset ≤ position := by
      intro miss member
      rcases List.mem_append.1 member with earlier | same
      · exact last miss earlier
      · rw [List.mem_singleton.1 same]
        exact Nat.le_of_not_lt notBeyond
    have attained' : ∃ kind, ⟨position, kind⟩ ∈ misses ++ [test] :=
      ⟨kind, List.mem_append_left _ attained⟩
    have names' (name : String) : (∃ kind, ⟨position, kind⟩ ∈ misses ++ [test] ∧ kind.name = name) ↔
        name ∈ expected ∨ test.offset = position ∧ test.kind.name = name := by
      rw [names]
      constructor
      · rintro ⟨kind, member, rfl⟩
        rcases List.mem_append.1 member with earlier | same
        · exact .inl ⟨kind, earlier, rfl⟩
        · rw [← List.mem_singleton.1 same]
          exact .inr ⟨rfl, rfl⟩
      · rintro (⟨kind, member, rfl⟩ | ⟨rfl, rfl⟩)
        · exact ⟨kind, List.mem_append_left _ member, rfl⟩
        · exact ⟨test.kind, List.mem_append_right _ (List.mem_singleton_self test), rfl⟩
    split
    · rename_i fresh
      obtain ⟨rfl, absent⟩ : test.offset = position ∧ test.kind.name ∉ expected := by
        simpa using fresh
      refine ⟨_, rfl, last', attained', ?_, fun name => ?_⟩
      · exact distinct.append (List.nodup_singleton _) (by simpa using absent)
      · rw [names', List.mem_append, List.mem_singleton]
        simp [eq_comm]
    · rename_i known
      refine ⟨_, rfl, last', attained', distinct, fun name => ?_⟩
      rw [names']
      refine ⟨.inl, ?_⟩
      rintro (member | ⟨rfl, rfl⟩)
      · exact member
      · simpa using known

/-- The furthest failure sums up all failed tests. -/
theorem exists_sums (some : misses ≠ []) :
    ∃ failure, noteAll none 0 misses = Option.some failure ∧ failure.Sums misses := by
  induction misses using List.reverseRecOn with
  | nil => exact absurd rfl some
  | append_singleton misses test ih =>
      have single (furthest : Option Failure) :
          noteAll furthest 0 [test] = note furthest test.offset test.kind.name := by
        rw [noteAll, List.foldl_cons, List.foldl_nil, Nat.zero_add]
      rw [noteAll_append, single]
      cases misses with
      | nil =>
          have alone : Sums ⟨test.offset, [test.kind.name]⟩ ([] ++ [test]) :=
            sums_beyond test fun miss member => absurd member List.not_mem_nil
          exact ⟨_, rfl, alone⟩
      | cons first misses =>
          obtain ⟨failure, noted, sums⟩ := ih (List.cons_ne_nil _ _)
          rw [noted]
          exact sums.note test

end Failure

/-- A matched word that is the same up to the last failed tests passes one of them. -/
theorem Pattern.Covered.passes {pattern : Pattern} (covered : pattern.Covered) {word word' : List Kind}
    {position : Nat} (none : (pattern.run word).length? = none)
    (matched : (pattern.run word').length? ≠ Option.none)
    (last : ∀ miss ∈ (pattern.run word).misses, miss.offset ≤ position)
    (same : ∀ offset < position, word'[offset]? = word[offset]?) :
    ∃ kind, ⟨position, kind⟩ ∈ (pattern.run word).misses ∧ word'[position]? = some kind := by
  -- On words that pass the same tests both runs would fail.
  have differ : ¬(pattern.run word).Agrees word word' := by
    intro agrees
    rw [pattern.run_congr agrees] at matched
    exact matched none
  obtain ⟨test, member, differ⟩ : ∃ test ∈ (pattern.run word).tests,
      ¬(word[test.offset]? = some test.kind ↔ word'[test.offset]? = some test.kind) := by
    simpa only [Trace.Agrees, not_forall, exists_prop] using differ
  have further : position ≤ test.offset := by
    by_contra before
    exact differ (by rw [same _ (Nat.lt_of_not_le before)])
  rcases covered word test member with (⟨miss, missed, beyond⟩ | ⟨length, found, _⟩) | missed
  · exact absurd (last miss missed) (by omega)
  · rw [none] at found
    cases found
  · obtain rfl : test.offset = position := Nat.le_antisymm (last test missed) further
    have other := pattern.miss_ne missed
    exact ⟨test.kind, missed, by simpa [other] using differ⟩

/-- A word is viable when a sentence starts with it. The end of input is behind every sentence. -/
def Symbol.Viable (symbol : Symbol) (word : List Kind) : Prop :=
  ∃ sentence, symbol.Derives sentence ∧ word <+: sentence ++ [.endOfInput]

/-- A failure is pinpointed when the kinds before it are viable and the found kind is not, and when it
expects, once each, the names of all kinds that are viable instead. -/
structure Pinpoints (symbol : Symbol) (before : List Kind) (found : Kind) (expected : List String) :
    Prop where
  viable : symbol.Viable before
  stuck : ¬symbol.Viable (before ++ [found])
  distinct : expected.Nodup
  complete : ∀ name, name ∈ expected ↔ ∃ kind, symbol.Viable (before ++ [kind]) ∧ kind.name = name

/-- A word in front of a viable one is viable. -/
theorem Symbol.Viable.of_prefix {symbol : Symbol} {word word' : List Kind} (viable : symbol.Viable word)
    (starts : word' <+: word) : symbol.Viable word' := by
  obtain ⟨sentence, derives, continues⟩ := viable
  exact ⟨sentence, derives, starts.trans continues⟩

/-- There is no end of input in a sentence. -/
theorem Symbol.Derives.endOfInput_not_mem {symbol : Symbol} {word : List Kind}
    (derives : symbol.Derives word) : Kind.endOfInput ∉ word := by
  have operator {kind : Kind} (isOperator : isSumOperator kind ∨ isProductOperator kind) :
      ¬Kind.endOfInput = kind := by
    rintro rfl
    simp [isSumOperator, isProductOperator] at isOperator
  induction derives with
  | sum_more _ isSum _ ih ih' => simp [ih, ih', operator (.inl isSum)]
  | product_more _ isProduct _ ih ih' => simp [ih, ih', operator (.inr isProduct)]
  | unary isSign _ ih => simp [ih, operator (.inl isSign)]
  | _ => simp_all

/-- A word with an end of input goes on in no sentence. -/
theorem Symbol.not_viable_beyond {symbol : Symbol} {word : List Kind} (ended : Kind.endOfInput ∈ word)
    (kind : Kind) : ¬symbol.Viable (word ++ [kind]) := by
  rintro ⟨sentence, derives, starts⟩
  have absent := derives.endOfInput_not_mem
  rcases List.prefix_concat_iff.1 starts with same | inside
  · obtain ⟨rfl, _⟩ := List.append_inj' same rfl
    exact absent ended
  · exact absent (inside.subset (List.mem_append_left _ ended))

namespace Pattern

open Trace

/-- This is a pattern before the end of input. -/
def whole (pattern : Pattern) : Pattern := both pattern (token .endOfInput)

/-- A match up to the end of input is one of the whole pattern. -/
theorem whole_length {pattern : Pattern} {word rest : List Kind} {length : Nat}
    (found : (pattern.run word).length? = some length) (ended : word.drop length = .endOfInput :: rest) :
    (pattern.whole.run word).length? = some (length + 1) := by
  have last : ((token .endOfInput).run (word.drop length)).length? = some 1 := by
    rw [ended]
    rfl
  exact andThen_length.2 ⟨length, 1, found, last, rfl⟩

/-- Patterns describe the sentences of a symbol: their words are sentences, and each sentence is matched by
all patterns that are deep enough. -/
structure Describes (pattern : Nat → Pattern) (symbol : Symbol) : Prop where
  covered : ∀ depth, (pattern depth).Covered
  vocal : ∀ depth, (pattern depth).Vocal
  sound : ∀ {depth word}, (pattern depth).Language word → symbol.Derives word
  complete : ∀ {sentence depth}, symbol.Derives sentence → sentence.length < depth →
    ((pattern depth).whole.run (sentence ++ [.endOfInput])).length? ≠ none

namespace Describes

variable {pattern : Nat → Pattern} {symbol : Symbol} {depth : Nat} {word : List Kind}

/-- The words of a whole pattern are sentences before the end of input. -/
theorem language_whole (describes : Describes pattern symbol)
    (language : (pattern depth).whole.Language word) :
    ∃ sentence, symbol.Derives sentence ∧ word = sentence ++ [.endOfInput] := by
  obtain ⟨sentence, _, rfl, language, final⟩ := language
  rw [language_token final]
  exact ⟨sentence, describes.sound language, rfl⟩

/-- What a test asks for could stand there. -/
theorem viable_of_miss (describes : Describes pattern symbol) {position : Nat} {kind : Kind}
    (miss : ⟨position, kind⟩ ∈ ((pattern depth).whole.run word).misses) :
    symbol.Viable (word.take position ++ [kind]) := by
  obtain ⟨rest, language⟩ := (pattern depth).whole.exists_language_of_miss miss
  obtain ⟨sentence, derives, split⟩ := describes.language_whole language
  refine ⟨sentence, derives, rest, ?_⟩
  rw [← split, List.append_assoc]
  rfl

/-- No pattern matches up to the first end of input unless there is a sentence before it. -/
theorem refuses (describes : Describes pattern symbol) {body : List Kind} (others : Kind.endOfInput ∉ body)
    (noSentence : ¬symbol.Derives body) (depth : Nat) :
    ((pattern depth).whole.run (body ++ [.endOfInput])).length? = none := by
  by_contra some
  obtain ⟨length, found⟩ := Option.ne_none_iff_exists'.1 some
  obtain ⟨sentence, derives, split⟩ := describes.language_whole (language_take _ found)
  have starts : sentence ++ [Kind.endOfInput] <+: body ++ [Kind.endOfInput] := by
    rw [← split]
    exact List.take_prefix _ _
  rcases List.prefix_concat_iff.1 starts with same | inside
  · obtain ⟨rfl, _⟩ := List.append_inj' same rfl
    exact noSentence derives
  · exact others (inside.subset (by simp))

/-- What sums up the failed tests on a text that is no sentence pinpoints the failure. -/
theorem pinpoints (describes : Describes pattern symbol) {body : List Kind} {failure : Failure}
    (others : Kind.endOfInput ∉ body) (noSentence : ¬symbol.Derives body)
    (sums : ∀ depth, body.length < depth →
      failure.Sums ((pattern depth).whole.run (body ++ [.endOfInput])).misses) :
    ∃ found, (body ++ [Kind.endOfInput])[failure.position]? = some found ∧
      Pinpoints symbol ((body ++ [Kind.endOfInput]).take failure.position) found failure.expected := by
  generalize whole : body ++ [Kind.endOfInput] = word at sums ⊢
  obtain ⟨last, ⟨kind, attained⟩, distinct, names⟩ := sums _ (Nat.lt_succ_self _)
  have viable := describes.viable_of_miss attained
  have inside : failure.position < word.length := by
    by_contra beyond
    rw [List.take_of_length_le (Nat.le_of_not_lt beyond)] at viable
    exact not_viable_beyond (by simp [← whole]) kind viable
  -- The kinds that can come next are asked for in every run that is deep enough.
  have missed {kind : Kind} (viable : symbol.Viable (word.take failure.position ++ [kind])) :
      ∃ depth, ⟨failure.position, kind⟩ ∈ ((pattern depth).whole.run word).misses ∧
        failure.Sums ((pattern depth).whole.run word).misses := by
    obtain ⟨sentence, derives, rest, split⟩ := viable
    have summed := sums (max body.length sentence.length + 1) (by omega)
    have covered := (describes.covered (max body.length sentence.length + 1)).both
      (covered_among .endOfInput []) (vocal_among .endOfInput [])
    have here : (word.take failure.position).length = failure.position :=
      List.length_take_of_le (Nat.le_of_lt inside)
    obtain ⟨kind', member, passed⟩ := covered.passes
      (whole ▸ describes.refuses others noSentence _) (describes.complete derives (by omega)) summed.last
      (fun offset before => by
        rw [← split, List.append_assoc, List.getElem?_append_left (by omega),
          List.getElem?_take_of_lt before])
    rw [← split, List.append_assoc, List.getElem?_append_right (by omega), here, Nat.sub_self] at passed
    obtain rfl : kind = kind' := Option.some.inj passed
    exact ⟨_, member, summed⟩
  refine ⟨_, List.getElem?_eq_getElem inside,
    viable.of_prefix (List.prefix_append _ _), fun stuck => ?_, distinct, fun name => ⟨?_, ?_⟩⟩
  · obtain ⟨depth, member, _⟩ := missed stuck
    exact (pattern depth).whole.miss_ne member (List.getElem?_eq_getElem inside)
  · intro expected
    obtain ⟨kind, member, same⟩ := (names name).1 expected
    exact ⟨kind, describes.viable_of_miss member, same⟩
  · rintro ⟨kind, viable, rfl⟩
    obtain ⟨depth, member, summed⟩ := missed viable
    exact (summed.names _).2 ⟨kind, member, rfl⟩

end Describes

end Pattern

end Reckon
