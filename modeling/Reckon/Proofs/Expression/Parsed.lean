/-
This file shows that every expression and every statement that a text is parsed as is parsable.
-/

import Reckon.Proofs.Expression.Literals
import Reckon.Proofs.Parse.Language

namespace Reckon

open Text Lexeme Decimal Grammar Reckon.Parser

/-- The value of an integer is not negative. -/
theorem integerValue_nonneg {lexeme : Bytes} {value : Int64}
    (spelling : IntegerSpelling (lexeme.glyphs.map Glyph.character))
    (read : integerValue lexeme = .ok (.ok value)) : 0 ≤ value.toInt := by
  rw [integerValue_spelled spelling] at read
  generalize IntegerReading.spelledValue (lexeme.glyphs.map Glyph.character) = number at read
  split at read
  · rename_i small
    cases read
    have below : (number : Int) < 2 ^ 63 := by
      have whole : number < 2 ^ 63 := small
      exact_mod_cast whole
    rw [Int64.toInt_ofInt_of_le (by omega) below]
    exact Int.natCast_nonneg _
  · cases read

section Tokens

variable {segment : Segment}

/-- A float that was scanned is plain. -/
theorem Segment.Scanned.float_plain (scanned : segment.Scanned) (kind : segment.kind = .float)
    {value : Float} (read : floatValue (glyphBytes segment.lexeme) = .ok value) : IsPlain value := by
  obtain ⟨digit, rest, isDigit, same⟩ := scanned.float kind
  rw [floatValue, Bytes.decode, scanned.glyphs, same] at read
  have unsigned := @ofText_unsigned digit rest isDigit
  split at read
  · rename_i number found
    obtain ⟨mantissa, exponent, rfl, canonical⟩ := unsigned number found
    cases read
    exact ⟨mantissa, exponent, Binary64.ofFloat_toFloat canonical⟩
  · cases read
  · cases read

/-- A token that was scanned is sound when there is nothing to report about it. -/
theorem Segment.Scanned.sound (scanned : segment.Scanned) {token : Token}
    (sameKind : token.kind = segment.kind) (sameLexeme : token.lexeme = glyphBytes segment.lexeme)
    (quiet : numeralReports [token] = []) : token.Sound where
  name := by
    intro kind
    rw [isName_iff, Token.name, sameLexeme, Bytes.decode, scanned.glyphs, String.toList_ofList]
    exact scanned.name (sameKind.symm.trans kind)
  integer := by
    intro kind
    have spelling := scanned.integer (sameKind.symm.trans kind)
    rw [← sameLexeme] at spelling
    have read := integerValue_spelled spelling
    rw [numeralReports, List.flatMap_singleton, kind] at quiet
    split at read
    · exact ⟨_, read, integerValue_nonneg spelling read⟩
    · simp only [read] at quiet
      cases quiet
  float := by
    intro kind
    rw [numeralReports, List.flatMap_singleton, kind] at quiet
    dsimp only at quiet
    cases read : floatValue token.lexeme with
    | error problem =>
        rw [read] at quiet
        cases quiet
    | ok value =>
        refine ⟨value, rfl, scanned.float_plain (sameKind.symm.trans kind) ?_⟩
        rw [← sameLexeme, read]

end Tokens

theorem Grammar.numeralReports_eq_nil {tokens : List Token} (quiet : numeralReports tokens = [])
    (token : Token) (member : token ∈ tokens) : numeralReports [token] = [] := by
  rw [numeralReports, List.flatMap_singleton]
  exact List.flatMap_eq_nil_iff.1 quiet token member

/-- The value of a parse is built from all tokens before the end of input, and each number among them has
a value. -/
theorem Parser.run_good {A : Type} {parser : Parser A} {state : State} {body : List Token}
    {final : Token} {Good : List Token → A → Prop} {value : A}
    (facing : state.Facing (body ++ [final])) (ends : final.kind = .endOfInput)
    (fresh : state.reports = #[]) (decides : parser.Decides (body ++ [final]).length Good)
    (found : (parser.run state).1 = .ok value) : Good body value ∧ numeralReports body = [] := by
  rcases decides.whole facing with refuses | ⟨value', good, yields⟩
  · refine absurd ?_ (run_refuses facing refuses)
    rw [found]
    trivial
  · rw [run_yields facing fresh yields ends] at found
    split at found
    · rename_i quiet
      cases found
      exact ⟨good, quiet⟩
    · cases found

/-- What is parsed from a buffer is built from its tokens, none of which is an invalid numeral. -/
theorem Buffer.StartsBefore.built {buffer : Buffer} {body : List Token} {final : Token}
    (starts : buffer.StartsBefore body final) :
    (∀ expression, buffer.parseExpression = .ok expression →
      Symbol.Gives .expression body expression ∧ numeralReports body = []) ∧
    (∀ statement, buffer.parseStatement = .ok statement →
      Symbol.BuildsStatement body statement ∧ numeralReports body = []) := by
  obtain ⟨expressions, statements⟩ := starts.decides
  rw [Buffer.parseExpression, Buffer.parseStatement, run_expression, run_statement]
  exact ⟨fun _ => Parser.run_good starts.facing starts.ends rfl expressions,
    fun _ => Parser.run_good starts.facing starts.ends rfl statements⟩

theorem body_subset {body tokens : List Token} {final : Token}
    (split : significantTokens tokens = body ++ [final]) : body ⊆ tokens := by
  intro token member
  have inside : token ∈ significantTokens tokens := by
    rw [split]
    exact List.mem_append_left _ member
  exact (List.mem_filter.1 inside).1

/-- The tokens of a parse are sound when there is nothing to report about them. -/
theorem Cut.sound {source : Bytes} {segments : List Segment} {tail : List Glyph}
    {misreadings : List Misreading} (cut : Cut .start source.glyphs segments tail misreadings)
    {tokens : List Token} (inside : tokens ⊆ tokensFrom .start tail segments)
    (goesOn : ∀ token ∈ tokens, token.kind ≠ .endOfInput) (quiet : numeralReports tokens = [])
    (token : Token) (member : token ∈ tokens) : token.Sound := by
  have scanned := cut.scanned (isText_glyphs source)
  rcases mem_tokensFrom (inside member) with last | ⟨segment, found, kind, lexeme⟩
  · exact absurd last (goesOn token member)
  · exact (scanned segment found).sound kind lexeme (numeralReports_eq_nil quiet token member)

/-- Every expression and every statement that a text is parsed as is parsable. -/
theorem parsed_parsable (source : Bytes) :
    (∀ expression, (Reading.ofBytes source).buffer.parseExpression = .ok expression →
      expression.Parsable) ∧
    (∀ statement, (Reading.ofBytes source).buffer.parseStatement = .ok statement →
      statement.Parsable) := by
  obtain ⟨segments, tail, misreadings, cut⟩ := exists_cut .start source.glyphs
  obtain ⟨body, final, split, starts⟩ := cut.startsBefore
  have sound := cut.sound (body_subset split) starts.others
  refine ⟨fun expression found => ?_, fun statement found => ?_⟩
  · obtain ⟨gives, quiet⟩ := starts.built.1 expression found
    exact List.forall_mem_singleton.1 (gives.parsable (sound quiet))
  · obtain ⟨builds, quiet⟩ := starts.built.2 statement found
    exact builds.parsable (sound quiet)

end Reckon
