/-
This file shows which numbers a parse reports. When the tokens are a sentence, each number without a value
is reported once and in order; otherwise only the syntax error is reported.
-/

import Reckon.Proofs.Session.Faultless
import Reckon.Proofs.Token.Promise

namespace Reckon

open Text Lexeme Grammar Reckon.Parser

/-- This is what is wrong with a number token. An integer is wrong when it needs more than sixty-three
bits. -/
def Token.problem? (token : Token) : Option NumeralProblem :=
  match token.kind with
  | .integer =>
      if IntegerReading.spelledValue (token.lexeme.glyphs.map Glyph.character) < 2 ^ 63 then none
      else some .integerOverflow
  | .float =>
      match floatValue token.lexeme with
      | .ok _ => none
      | .error problem => some problem
  | _ => none

theorem Token.problem?_none {token : Token} (notInteger : token.kind ≠ .integer)
    (notFloat : token.kind ≠ .float) : token.problem? = none := by
  simp only [problem?]

/-- A number without a value is told by its lexeme and its span. -/
def Token.invalid? (token : Token) : Option (Cause × Option Span) :=
  token.problem?.map fun problem => (.invalidNumeral token.lexeme problem, some token.span)

def Token.report? (token : Token) : Option Report :=
  token.problem?.map fun problem => .atSpan token.span (.invalidNumeral token.lexeme problem)

/-- A result tells the invalid numbers among the tokens when these are a sentence, and only a syntax error
when they are none. -/
structure Result.TellsNumerals {A : Type} (result : Result A) (isSentence : Prop)
    (tokens : List Token) : Prop where
  valid : isSentence → tokens.filterMap Token.invalid? = [] → ∃ value, result = .ok value
  invalid : isSentence → tokens.filterMap Token.invalid? ≠ [] →
    ∃ report, result = .error (.report report) ∧ report.leaves = tokens.filterMap Token.invalid?
  otherwise : ¬isSentence → ∃ report, result = .error (.report report) ∧ report.IsSyntaxError

theorem Result.TellsNumerals.congr {A : Type} {result : Result A} {isSentence : Prop}
    {tokens tokens' : List Token} (tells : result.TellsNumerals isSentence tokens)
    (same : tokens.filterMap Token.invalid? = tokens'.filterMap Token.invalid?) :
    result.TellsNumerals isSentence tokens' := by
  obtain ⟨valid, invalid, otherwise⟩ := tells
  rw [same] at valid invalid
  exact ⟨valid, invalid, otherwise⟩

/-- The integers of a text are spelled as integers. -/
theorem Cut.integer_spelling {source : Bytes} {segments : List Segment} {tail : List Glyph}
    {misreadings : List Misreading} (cut : Cut .start source.glyphs segments tail misreadings)
    {token : Token} (member : token ∈ tokensFrom .start tail segments) (kind : token.kind = .integer) :
    IntegerSpelling (token.lexeme.glyphs.map Glyph.character) := by
  obtain ⟨after, promised⟩ := cut.lexeme_promised member
  rw [kind] at promised
  exact promised.integer_spelling

namespace Grammar

/-- Each number is reported when there is something wrong with it. -/
theorem numeralReports_eq {tokens : List Token} (spelled : ∀ token ∈ tokens, token.kind = .integer →
    IntegerSpelling (token.lexeme.glyphs.map Glyph.character)) :
    numeralReports tokens = tokens.filterMap Token.report? := by
  rw [numeralReports, List.filterMap_eq_flatMap_toList]
  refine List.flatMap_congr fun token member => ?_
  rw [Token.report?]
  split
  · rename_i kind
    have bits : Decimal.twoTo 63 = 2 ^ 63 := rfl
    rw [integerValue_spelled (spelled token member kind), Token.problem?, kind, bits]
    dsimp only
    split_ifs <;> rfl
  · rename_i kind
    rw [Token.problem?, kind]
    cases floatValue token.lexeme <;> rfl
  · rename_i notInteger notFloat
    rw [Token.problem?_none notInteger notFloat]
    rfl

/-- The leaves of numeral reports are the invalid numerals. -/
theorem leaves_numerals (tokens : List Token) :
    (Report.joined (tokens.filterMap Token.report?)).leaves = tokens.filterMap Token.invalid? := by
  change Report.allLeavesIn none _ = _
  induction tokens with
  | nil => rfl
  | cons token tokens ih =>
      rw [List.filterMap_cons, List.filterMap_cons, Token.report?, Token.invalid?]
      cases token.problem? with
      | none => exact ih
      | some problem => exact congrArg (List.cons _) ih

theorem reports_eq_nil_iff (tokens : List Token) :
    tokens.filterMap Token.report? = [] ↔ tokens.filterMap Token.invalid? = [] := by
  simp only [List.filterMap_eq_nil_iff, Token.report?, Token.invalid?, Option.map_eq_none_iff]

end Grammar

namespace Parser

variable {A : Type} {parser : Parser A} {state : State}

/-- A parse that is refused ends with a syntax error. -/
theorem run_refused {tokens : List Token} (facing : state.Facing tokens) (start : state.position = 0)
    (refuses : (pair parser endOfInput fun value _ => value).Refuses tokens) :
    ∃ report, (parser.run state).1 = .error (.report report) ∧ report.IsSyntaxError := by
  obtain ⟨failed, outcome, same⟩ := refuses state facing
  obtain ⟨report, failure⟩ := facing.failure_reported start same
  refine ⟨report, ?_, failure_isSyntaxError failure⟩
  rw [Parser.run, outcome]
  simp only [failure]

/-- A parse tells the numbers of its tokens when it avoids syntax errors on sentences alone. -/
theorem run_tells {body : List Token} {final : Token} {Good : List Token → A → Prop} {isSentence : Prop}
    (facing : state.Facing (body ++ [final])) (ends : final.kind = .endOfInput)
    (fresh : state.reports = #[]) (start : state.position = 0)
    (decides : parser.Decides (body ++ [final]).length Good)
    (avoids : AvoidsSyntaxErrors (parser.run state).1 ↔ isSentence)
    (spelled : ∀ token ∈ body, token.kind = .integer →
      IntegerSpelling (token.lexeme.glyphs.map Glyph.character)) :
    (parser.run state).1.TellsNumerals isSentence body := by
  rcases decides.whole facing with refuses | ⟨value, _, yields⟩
  · have wrong : ¬isSentence := fun right => run_refuses facing refuses (avoids.2 right)
    exact ⟨fun right => absurd right wrong, fun right => absurd right wrong,
      fun _ => run_refused facing start refuses⟩
  · have result := run_yields facing fresh yields ends
    have right : isSentence := by
      rw [← avoids, result]
      split
      · trivial
      · rename_i some
        exact numerals_avoid some
    rw [numeralReports_eq spelled] at result
    refine ⟨fun _ none => ⟨value, ?_⟩, fun _ some => ⟨_, ?_, leaves_numerals body⟩,
      fun wrong => absurd right wrong⟩
    · rw [result, if_pos ((reports_eq_nil_iff body).2 none)]
    · rw [result, if_neg fun none => some ((reports_eq_nil_iff body).1 none)]

end Parser

/-- Comments are never invalid. -/
theorem invalid_significantTokens (tokens : List Token) :
    (significantTokens tokens).filterMap Token.invalid? = tokens.filterMap Token.invalid? := by
  rw [significantTokens, List.filterMap_filter]
  refine List.filterMap_congr fun token _ => ?_
  split
  · rfl
  · rename_i comment
    have kind : token.kind = .comment := by simpa using comment
    rw [Token.invalid?, Token.problem?_none (by simp [kind]) (by simp [kind])]
    rfl

/-- When the tokens of a text are a sentence of the grammar, its parse fails exactly when one of its integers
or floats has no value, and then it reports each of them once, in order, by its lexeme and at its span.
Otherwise the parse reports a syntax error, and nothing about numbers. -/
theorem numerals_reported (source : Bytes) :
    let buffer := (Reading.ofBytes source).buffer
    ∃ tokens, buffer.tokens = .ok tokens ∧
      buffer.parseExpression.TellsNumerals (Symbol.Derives .expression buffer.sentence) tokens ∧
      buffer.parseStatement.TellsNumerals (Symbol.Derives .statement buffer.sentence) tokens := by
  intro buffer
  obtain ⟨segments, tail, misreadings, cut⟩ := exists_cut .start source.glyphs
  obtain ⟨body, final, split, starts⟩ := cut.startsBefore
  refine ⟨_, cut.tokens, ?_⟩
  have spelled (token : Token) (member : token ∈ body) (kind : token.kind = .integer) :
      IntegerSpelling (token.lexeme.glyphs.map Glyph.character) :=
    cut.integer_spelling (body_subset split member) kind
  have last : final.invalid? = none := by
    rw [Token.invalid?, Token.problem?_none (by simp [starts.ends]) (by simp [starts.ends])]
    rfl
  have invalid : body.filterMap Token.invalid? =
      (tokensFrom .start tail segments).filterMap Token.invalid? := by
    rw [← invalid_significantTokens (tokensFrom .start tail segments), split, List.filterMap_append,
      List.filterMap_cons_none last, List.filterMap_nil, List.append_nil]
  obtain ⟨expressions, statements⟩ := starts.decides
  obtain ⟨avoids, avoids'⟩ := starts.avoids_iff
  rw [Buffer.parseExpression, Grammar.run_expression] at avoids
  rw [Buffer.parseStatement, Grammar.run_statement] at avoids'
  constructor
  · rw [Buffer.parseExpression, Grammar.run_expression]
    have tells := Parser.run_tells starts.facing starts.ends rfl rfl expressions avoids spelled
    exact tells.congr invalid
  · rw [Buffer.parseStatement, Grammar.run_statement]
    have tells := Parser.run_tells starts.facing starts.ends rfl rfl statements avoids' spelled
    exact tells.congr invalid

end Reckon
