/-
This file shows that a syntax error is located exactly. The report points at the first token with which
no sentence goes on, and it names the kinds that could stand there instead.
-/

import Reckon.Proofs.Failure.Summary
import Reckon.Proofs.Parse.Language

namespace Reckon

open Text Failure Grammar

/-- The text of a sample is a number, which is what an integer must be. -/
def Kind.sample (kind : Kind) : Token :=
  ⟨kind, #[48], ⟨.start, { Location.start with offset := 1 }⟩⟩

/-- This is a state before samples of the kinds. -/
def State.sample (kinds : List Kind) : State :=
  { State.ofBuffer ⟨#[48], (kinds.map fun kind => kind.sample.entry).toArray⟩ with
    significant := Array.range kinds.length }

/-- Samples of a sentence can be supplied. -/
theorem supply_sample {sentence : List Kind} (others : Kind.endOfInput ∉ sentence) :
    Supply ((sentence ++ [Kind.endOfInput]).map Kind.sample) := by
  induction sentence with
  | nil => exact .last rfl
  | cons kind sentence ih =>
      have number : integerValue #[48] = .ok (.ok 0) := by decide
      rw [List.mem_cons, not_or] at others
      exact .more (Ne.symm others.1) (fun _ => ⟨_, number⟩) (ih others.2)

/-- A state before samples faces them. -/
theorem State.facing_sample {sentence : List Kind} (others : Kind.endOfInput ∉ sentence) :
    (State.sample (sentence ++ [Kind.endOfInput])).Facing
      ((sentence ++ [Kind.endOfInput]).map Kind.sample) := by
  refine ⟨?_, supply_sample others⟩
  generalize sentence ++ [Kind.endOfInput] = kinds
  change List.Forall₂ _ ((Array.range kinds.length).toList.drop 0) _
  rw [List.drop_zero, Array.toList_range]
  refine List.forall₂_iff_get.2 ⟨by simp, fun handle _ inside => ?_⟩
  rw [List.length_map] at inside
  have entry : (State.sample kinds).input.entries[handle]? = some (kinds[handle].sample.entry) := by
    simp [State.sample, State.ofBuffer, inside]
  rw [List.get_eq_getElem, List.get_eq_getElem, List.getElem_range, List.getElem_map, Buffer.token,
    Buffer.entry, entry]
  rfl

namespace Parser

open State

variable {A : Type} {parser : Parser A} {pattern : Pattern} {bound : Nat} {state : State}
  {tokens : List Token}

/-- The end of input is noted at every other token. -/
theorem traces_endOfInput (facing : state.Facing tokens)
    (none : ((Pattern.token .endOfInput).run (tokens.map Token.kind)).length? = none) (value : A) :
    Traces state.SameBefore state tokens ((Pattern.token .endOfInput).run (tokens.map Token.kind))
      (endOfInput.map (fun _ => value) state) := by
  cases tokens with
  | nil => cases facing.supply
  | cons first others =>
      rcases Trace.among_cases [.endOfInput] ((first :: others).map Token.kind) with
        ⟨_, run⟩ | ⟨other, run⟩
      · rw [Pattern.token, Pattern.run, run] at none
        cases none
      · have goesOn : first.kind ≠ .endOfInput :=
          fun same => other .endOfInput (List.mem_singleton_self _) (congrArg some same)
        rw [Pattern.token, Pattern.run, run, Parser.map, Parser.andThen, endOfInput, atEnd, facing.is,
          decide_eq_false goesOn]
        exact .inr ⟨_, rfl, rfl, .expect state _, furthest_expect state _⟩

/-- What is accepted up to the end of input is matched as a whole. -/
theorem Follows.matches_whole (follows : parser.Follows bound pattern) (short : tokens.length ≤ bound)
    (facing : state.Facing tokens) {final : Token} (ends : final.kind = .endOfInput)
    (accepts : Accepts parser tokens [final]) :
    (pattern.whole.run (tokens.map Token.kind)).length? ≠ none := by
  obtain ⟨value, reports, yields⟩ := accepts
  obtain ⟨next, outcome, reached⟩ := yields state facing
  rcases follows state tokens short facing with
    ⟨length, value', next', found, outcome', moves, _⟩ | ⟨failed, _, outcome', _⟩
  · rw [outcome] at outcome'
    cases outcome'
    have rest : [final] = tokens.drop length := Facing.unique reached.facing moves.facing
    have ended : (tokens.map Token.kind).drop length = [.endOfInput] := by
      rw [← List.map_drop, ← rest, List.map_singleton, ends]
    rw [Pattern.whole_length found ended]
    exact Option.some_ne_none _
  · rw [outcome] at outcome'
    cases outcome'

/-- A parse of what is not matched as a whole fails, and all failed tests are noted. -/
theorem Follows.fails_whole (follows : parser.Follows bound pattern) (short : tokens.length ≤ bound)
    (facing : state.Facing tokens)
    (none : (pattern.whole.run (tokens.map Token.kind)).length? = none) :
    ∃ failed, Parser.pair parser endOfInput (fun value _ => value) state = .failure failed ∧
      state.SameBefore failed ∧ failed.furthest =
        noteAll state.furthest state.position (pattern.whole.run (tokens.map Token.kind)).misses := by
  have traces : Traces (Extends state.stack.size state) state tokens
      (pattern.whole.run (tokens.map Token.kind))
      ((parser.andThen fun value => endOfInput.map fun _ => value) state) := by
    rw [Pattern.whole, Pattern.run] at none ⊢
    rw [Parser.andThen]
    rcases follows.pursues state tokens short facing with
      ⟨length, value, next, found, outcome, moves, noted⟩ | ⟨failed, none', outcome, extended, noted⟩
    · rw [outcome]
      rw [Trace.andThen_matched found, ← List.map_drop] at none
      have stops := traces_endOfInput moves.facing (Option.map_eq_none_iff.1 none) value
      rw [List.map_drop] at stops
      exact .andThen facing found moves noted stops.loosen
    · rw [outcome, Trace.andThen_missed none']
      exact .inr ⟨failed, none', rfl, extended, noted⟩
  rcases traces with ⟨_, _, _, found, _⟩ | ⟨failed, _, outcome, extended, noted⟩
  · rw [none] at found
    cases found
  · refine ⟨{ state with furthest := failed.furthest }, ?_, rfl, noted⟩
    rw [Parser.pair, Parser.attempt, outcome]
    exact backtrack_extends extended

end Parser

/-- This is the report that tells what was found and what was expected. -/
def syntaxReport (found : Token) (expected : List String) : Report :=
  if found.kind = .endOfInput then .atSpan found.span (.unexpectedEnd expected)
  else .atSpan found.span (.unexpectedToken found expected)

/-- The furthest failure is reported at its token, or at the last one. -/
theorem State.Facing.failure_at {state failed : State} {tokens : List Token} {furthest : Failure}
    (facing : state.Facing tokens) (start : state.position = 0) (same : state.SameBefore failed)
    (noted : failed.furthest = some furthest) :
    ∃ found, tokens[min furthest.position (tokens.length - 1)]? = some found ∧
      failed.failure = .ok (syntaxReport found furthest.expected) := by
  have size := facing.position_add
  have positive := facing.nonempty
  have ahead := facing.ahead
  rw [start, List.drop_zero] at ahead
  rw [start, Nat.zero_add] at size
  have inside : min furthest.position (tokens.length - 1) < tokens.length := by omega
  have inside' : min furthest.position (tokens.length - 1) < state.significant.size := by omega
  have token := (List.forall₂_iff_get.1 ahead).2 _ inside' inside
  rw [List.get_eq_getElem, List.get_eq_getElem] at token
  refine ⟨_, List.getElem?_eq_getElem inside, ?_⟩
  have current : failed.handleAt furthest.position =
      .ok (state.significant[min furthest.position (tokens.length - 1)]) := by
    rw [same, State.handleAt]
    dsimp only
    rw [← size, Array.getElem?_eq_getElem inside']
  rw [State.failure, noted]
  dsimp only
  rw [current]
  change (failed.input.token _ >>= _) = _
  have input : failed.input = state.input := by rw [same]
  rw [input]
  have token' : state.input.token (state.significant[min furthest.position (tokens.length - 1)]) =
      .ok (tokens[min furthest.position (tokens.length - 1)]) := token
  rw [token', syntaxReport]
  by_cases ends : (tokens[min furthest.position (tokens.length - 1)]).kind = .endOfInput
  · rw [if_pos ends]
    exact if_pos ends
  · rw [if_neg ends]
    exact if_neg ends

/-- The furthest failure within the tokens is reported at its token. -/
theorem State.Facing.failure {state failed : State} {tokens : List Token} {furthest : Failure}
    {found : Token} (facing : state.Facing tokens) (start : state.position = 0)
    (same : state.SameBefore failed) (noted : failed.furthest = some furthest)
    (here : tokens[furthest.position]? = some found) :
    failed.failure = .ok (syntaxReport found furthest.expected) := by
  have inside := (List.getElem?_eq_some_iff.1 here).1
  obtain ⟨found', here', failure⟩ := facing.failure_at start same noted
  rw [Nat.min_eq_left (Nat.le_sub_one_of_lt inside), here] at here'
  cases here'
  exact failure

/-- A syntax error is located when the report of its token pinpoints it. -/
def Located {A : Type} (symbol : Symbol) (tokens : List Token) (result : Result A) : Prop :=
  ∃ before found after expected, tokens = before ++ found :: after ∧
    result = .error (.report (syntaxReport found expected)) ∧
    Pinpoints symbol (before.map Token.kind) found.kind expected

/-- Parsers realize patterns when they follow them and accept the sentences of a symbol. A parser that is
deep enough follows all patterns that are. -/
structure Realizes {A : Type} (parser : Nat → Parser A) (pattern : Nat → Pattern) (symbol : Symbol) :
    Prop where
  follows : ∀ {bound depth depth'}, bound ≤ depth → bound ≤ depth' →
    (parser depth).Follows bound (pattern depth')
  accepts : ∀ {word rest : List Token} {depth}, symbol.Derives (word.map Token.kind) →
    Closed rest → (word ++ rest).length ≤ depth →
      Accepts (parser depth) (word ++ rest) rest

namespace Realizes

variable {A : Type} {parser : Nat → Parser A} {pattern : Nat → Pattern} {symbol : Symbol}

/-- A sentence is matched as a whole by every pattern that is deep enough. -/
theorem complete (realizes : Realizes parser pattern symbol) {sentence : List Kind} {depth : Nat}
    (derives : symbol.Derives sentence) (short : sentence.length < depth) :
    ((pattern depth).whole.run (sentence ++ [.endOfInput])).length? ≠ none := by
  have facing := State.facing_sample derives.endOfInput_not_mem
  have kinds (kinds : List Kind) : (kinds.map Kind.sample).map Token.kind = kinds := by
    rw [List.map_map]
    exact List.map_id _
  have derives' : symbol.Derives ((sentence.map Kind.sample).map Token.kind) := by rwa [kinds]
  have short' : (sentence.map Kind.sample ++ [Kind.endOfInput.sample]).length ≤ depth := by
    simp
    omega
  have accepts := realizes.accepts derives' ⟨Kind.endOfInput.sample, [], rfl, rfl⟩ short'
  rw [List.map_append, List.map_singleton] at facing
  have ends : Kind.endOfInput.sample.kind = .endOfInput := rfl
  have whole := (realizes.follows (Nat.le_refl _) (Nat.le_refl _)).matches_whole short' facing ends
    accepts
  rwa [List.map_append, kinds, List.map_singleton] at whole

section Located

variable {buffer : Buffer} {body : List Token} {final : Token}

/-- The parse of what is no sentence fails, and its furthest failure sums up the run of every pattern that
is deep enough. -/
theorem exists_furthest (realizes : Realizes parser pattern symbol)
    (describes : Pattern.Describes pattern symbol) (starts : buffer.StartsBefore body final)
    (noSentence : ¬symbol.Derives buffer.sentence) {depth : Nat}
    (deep : buffer.sentence.length < depth) : ∃ failed furthest,
      Parser.pair (parser (depthBound (.ofBuffer buffer))) Parser.endOfInput (fun value _ => value)
        (.ofBuffer buffer) = .failure failed ∧
      (State.ofBuffer buffer).SameBefore failed ∧ failed.furthest = some furthest ∧
      furthest.Sums ((pattern depth).whole.run (buffer.sentence ++ [.endOfInput])).misses := by
  have none := describes.refuses starts.endOfInput_not_mem noSentence depth
  have deep' : (body ++ [final]).length ≤ depth := by
    rw [starts.sentence, List.length_map] at deep
    rwa [List.length_append, List.length_singleton]
  have follows := realizes.follows starts.short deep'
  obtain ⟨miss, member⟩ := ((describes.vocal depth).both (Pattern.vocal_among .endOfInput [])) _ none
  obtain ⟨furthest, all, sums⟩ := exists_sums (List.ne_nil_of_mem member)
  rw [← starts.kinds] at none all sums ⊢
  obtain ⟨failed, outcome, same, noted⟩ := follows.fails_whole (Nat.le_refl _) starts.facing none
  exact ⟨failed, furthest, outcome, same, noted.trans all, sums⟩

/-- Every parse of what is no sentence locates its syntax error. -/
theorem located (realizes : Realizes parser pattern symbol)
    (describes : Pattern.Describes pattern symbol) (starts : buffer.StartsBefore body final)
    (noSentence : ¬symbol.Derives buffer.sentence) : Located symbol (body ++ [final])
      ((parser (depthBound (.ofBuffer buffer))).run (.ofBuffer buffer)).1 := by
  obtain ⟨failed, furthest, outcome, same, noted, _⟩ :=
    realizes.exists_furthest describes starts noSentence (Nat.lt_succ_self _)
  -- The parse does not depend on the depth of the pattern, so there is only one furthest failure.
  have sums (depth : Nat) (deep : buffer.sentence.length < depth) :
      furthest.Sums ((pattern depth).whole.run (buffer.sentence ++ [.endOfInput])).misses := by
    obtain ⟨failed', furthest', outcome', _, noted', sums⟩ :=
      realizes.exists_furthest describes starts noSentence deep
    rw [outcome] at outcome'
    cases outcome'
    rw [noted] at noted'
    cases noted'
    exact sums
  obtain ⟨kind, here, pinpoints⟩ := describes.pinpoints starts.endOfInput_not_mem noSentence sums
  rw [← starts.kinds, List.getElem?_map] at here
  obtain ⟨found, inside, rfl⟩ := Option.map_eq_some_iff.1 here
  refine ⟨(body ++ [final]).take furthest.position, found,
    (body ++ [final]).drop (furthest.position + 1), furthest.expected, ?_, ?_, ?_⟩
  · obtain ⟨within, rfl⟩ := List.getElem?_eq_some_iff.1 inside
    rw [List.getElem_cons_drop, List.take_append_drop]
  · rw [Parser.run, outcome]
    dsimp only
    rw [starts.facing.failure rfl same noted inside]
  · rwa [List.map_take, starts.kinds]

end Located

end Realizes

/-- The rules of expressions realize their patterns. -/
theorem realizes_expression :
    Realizes expressionWithin (fun depth => .expressionWithin depth depth) .expression where
  follows below below' := follows_expressionWithin below below' below'
  accepts derives closed short := accepts_expression _ derives closed short

/-- The rules of statements realize their patterns. -/
theorem realizes_statement : Realizes (fun depth => statementRule (expressionWithin depth))
    (fun depth => .statementRule (.expressionWithin depth depth)) .statement where
  follows below below' := follows_statementRule (follows_expressionWithin below below' below')
  accepts derives closed short := accepts_statement _ derives closed short

/-- The patterns of expressions describe them. -/
theorem describes_expression :
    Pattern.Describes (fun depth => .expressionWithin depth depth) .expression where
  covered depth := (Pattern.attentive_expressionWithin depth depth).covered
  vocal depth := (Pattern.attentive_expressionWithin depth depth).vocal
  sound := Pattern.language_expressionWithin
  complete := realizes_expression.complete

/-- The patterns of statements describe them. -/
theorem describes_statement :
    Pattern.Describes (fun depth => .statementRule (.expressionWithin depth depth)) .statement where
  covered depth := (Pattern.attentive_expressionWithin depth depth).statementRule.1
  vocal depth := (Pattern.attentive_expressionWithin depth depth).statementRule.2
  sound := Pattern.language_statementRule fun _ => Pattern.language_expressionWithin
  complete := realizes_statement.complete

/-- Every syntax error is located. No two tokens share a span, so the span of the report tells where. -/
theorem syntaxError_located (source : Bytes) :
    ∃ tokens, (Reading.ofBytes source).buffer.tokens = .ok tokens ∧
      (tokens.map Token.span).Nodup ∧
      (¬AvoidsSyntaxErrors (Reading.ofBytes source).buffer.parseExpression →
        Located .expression (significantTokens tokens) (Reading.ofBytes source).buffer.parseExpression) ∧
      (¬AvoidsSyntaxErrors (Reading.ofBytes source).buffer.parseStatement →
        Located .statement (significantTokens tokens) (Reading.ofBytes source).buffer.parseStatement) := by
  obtain ⟨segments, tail, misreadings, cut⟩ := exists_cut .start source.glyphs
  obtain ⟨body, final, split, starts⟩ := cut.startsBefore
  obtain ⟨avoids, avoids'⟩ := starts.avoids_iff
  refine ⟨_, cut.tokens, cut.lossless.spans_nodup, ?_⟩
  rw [avoids, avoids', split, Buffer.parseExpression, Buffer.parseStatement, run_expression,
    run_statement]
  exact ⟨realizes_expression.located describes_expression starts,
    realizes_statement.located describes_statement starts⟩

/-- These are the causes that a result reports, each with its place. -/
def Result.reported? {A : Type} : Result A → Option (List (Cause × Option Span))
  | .error (.report report) => some report.leaves
  | _ => none

/-- A token that is reported as unexpected is a syntax error. -/
theorem not_avoids_of_reported {A : Type} {result : Result A} {found : Token} {expected : List String}
    {place : Option Span}
    (reported : result.reported? = some [(.unexpectedToken found expected, place)]) :
    ¬AvoidsSyntaxErrors result := by
  intro avoids
  cases result with
  | ok value => cases reported
  | error trouble =>
      cases trouble with
      | fault fault => cases reported
      | report report =>
          have leaves : report.leaves = [(.unexpectedToken found expected, place)] :=
            Option.some.inj reported
          obtain ⟨lexeme, problem, same⟩ := avoids.2 _ (by rw [leaves]; exact List.mem_singleton_self _)
          cases same

/-- The report of a located syntax error tells its token among tokens without a common span. -/
theorem Located.pinpoints {A : Type} {symbol : Symbol} {result : Result A} (before : List Token)
    {found : Token} {after : List Token} {expected : List String}
    (located : Located symbol (before ++ found :: after) result)
    (distinct : ((before ++ found :: after).map Token.span).Nodup)
    (reported : result.reported? = some [(.unexpectedToken found expected, some found.span)]) :
    Pinpoints symbol (before.map Token.kind) found.kind expected := by
  obtain ⟨before', found', after', expected', split, rfl, pinpoints⟩ := located
  have leaves : (syntaxReport found' expected').leaves =
      [(.unexpectedToken found expected, some found.span)] := Option.some.inj reported
  rw [syntaxReport] at leaves
  split_ifs at leaves with ends
  · cases leaves
  · cases leaves
    have same : ((before ++ found :: after).map Token.span)[before.length]? =
        ((before ++ found :: after).map Token.span)[before'.length]? := by
      conv_rhs => rw [split]
      simp
    have inside : before.length < ((before ++ found :: after).map Token.span).length := by simp
    have lengths : before.length = before'.length := (List.getElem?_inj inside distinct).1 same
    rw [(List.append_inj split lengths).1]
    exact pinpoints

/-- This is a token in the first line of a text of one byte characters. -/
def Token.inFirstLine (offset : Int) (kind : Kind) (lexeme : String) : Token :=
  let stop := offset + lexeme.length
  ⟨kind, encode lexeme, ⟨⟨offset, 1, offset + 1⟩, ⟨stop, 1, stop + 1⟩⟩⟩

/-- These are the tokens of a definition whose sum lacks its second summand. -/
def lackingSummand : List Token :=
  [.inFirstLine 0 .identifier "f", .inFirstLine 2 .equal "=", .inFirstLine 4 .leftParen "(",
    .inFirstLine 5 .identifier "x", .inFirstLine 7 .plus "+", .inFirstLine 9 .rightParen ")",
    .inFirstLine 10 .endOfInput ""]

/-- These can follow a name that starts an expression. -/
def followingName : List String :=
  [Kind.colon, .identifier, .plus, .dash, .leftParen, .integer, .float, .leftBrace, .leftBracket, .star,
    .slash, .percent, .endOfInput].map Kind.name

/-- These can start a summand. -/
def startingSummand : List String :=
  [Kind.plus, .dash, .leftParen, .identifier, .integer, .float, .leftBrace, .leftBracket].map Kind.name

/-- A definition whose sum lacks its second summand is no expression from its equals sign on, and no
statement from its closing parenthesis on. The reports name what could stand there. -/
theorem closingParen_located :
    let buffer := (Reading.ofBytes (encode "f = (x + )")).buffer
    (¬AvoidsSyntaxErrors buffer.parseExpression ∧ ¬AvoidsSyntaxErrors buffer.parseStatement) ∧
      buffer.tokens = .ok lackingSummand ∧
      Located .expression lackingSummand buffer.parseExpression ∧
      Located .statement lackingSummand buffer.parseStatement ∧
      Pinpoints .expression [.identifier] .equal followingName ∧
      Pinpoints .statement [.identifier, .equal, .leftParen, .identifier, .plus] .rightParen
        startingSummand := by
  intro buffer
  have cut : buffer.tokens = .ok lackingSummand := by decide +kernel
  have reported : buffer.parseExpression.reported? = some [(.unexpectedToken (.inFirstLine 2 .equal "=")
      followingName, some (Token.inFirstLine 2 .equal "=").span)] := by decide +kernel
  have reported' : buffer.parseStatement.reported? = some [(.unexpectedToken
      (.inFirstLine 9 .rightParen ")") startingSummand, some (Token.inFirstLine 9 .rightParen ")").span)] := by
    decide +kernel
  have errors := not_avoids_of_reported reported
  have errors' := not_avoids_of_reported reported'
  obtain ⟨tokens, found, distinct, located, located'⟩ := syntaxError_located (encode "f = (x + )")
  obtain rfl : lackingSummand = tokens := Except.ok.inj (cut.symm.trans found)
  have whole : significantTokens lackingSummand = lackingSummand := by decide
  have located := located errors
  have located' := located' errors'
  rw [whole] at located located'
  exact ⟨⟨errors, errors'⟩, cut, located, located',
    located.pinpoints (lackingSummand.take 1) distinct reported,
    located'.pinpoints (lackingSummand.take 5) distinct reported'⟩

end Reckon
