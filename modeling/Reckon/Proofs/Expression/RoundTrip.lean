/-
This file shows that the source text of a parsable expression is read and parsed as this expression.
-/

import Reckon.Proofs.Expression.Compound
import Reckon.Proofs.Parse.Language

namespace Reckon

open Text Grammar Reckon.Parser

/-- The tokens of segments have their words, and the end of input comes last. -/
theorem tokensFrom_words (place : Location) (tail : List Glyph) (segments : List Segment) :
    ∃ body final, tokensFrom place tail segments = body ++ [final] ∧
      body.map Token.word = segments.map Segment.word ∧ final.kind = .endOfInput := by
  induction segments generalizing place with
  | nil => exact ⟨[], _, rfl, rfl, rfl⟩
  | cons segment segments ih =>
      obtain ⟨body, final, split, words, ends⟩ := ih (segment.after place)
      refine ⟨segment.token place :: body, final, ?_, ?_, ends⟩
      · rw [tokensFrom, split, List.cons_append]
      · rw [List.map_cons, List.map_cons, words]
        rfl

/-- A text that is worded is read without a misreading. What a parser yields on its words is the
result of the parse. -/
theorem Worded.run {A : Type} {text : String} {words : List Word} {parser : Nat → Parser A}
    {Meant : A → Prop} (worded : Worded text.toList words)
    (reads : ∀ depth (tokens rest : List Token), tokens.map Token.word = words →
      (tokens ++ rest).length ≤ depth → Closed rest →
        ∃ value, Meant value ∧ (parser depth).Yields (tokens ++ rest) value [] rest) :
    let reading := Reading.ofBytes (encode text)
    reading.report? = none ∧ ∃ value, Meant value ∧
      ((parser (depthBound (.ofBuffer reading.buffer))).run (.ofBuffer reading.buffer)).1 =
        .ok value := by
  obtain ⟨segments, tail, cut, same⟩ := worded.cut .start
  rw [← glyphs_encode] at cut
  refine ⟨by rw [Reading.report?, cut.reading]; rfl, ?_⟩
  obtain ⟨body, final, split, here, ends⟩ := tokensFrom_words .start tail segments
  rw [same] at here
  have plain : significantTokens (body ++ [final]) = body ++ [final] := by
    rw [significantTokens, List.filter_eq_self]
    intro token member
    rw [bne_iff_ne]
    rcases List.mem_append.1 member with inside | last
    · exact worded.plain token.word (here ▸ List.mem_map_of_mem inside)
    · rw [List.mem_singleton.1 last, ends]
      exact Kind.noConfusion
  have facing := cut.facing
  rw [split, plain] at facing
  have closed : Closed [final] := ⟨final, [], rfl, by rw [ends]; rfl⟩
  have enough := facing.position_add
  have short : (body ++ [final]).length ≤
      depthBound (State.ofBuffer (Reading.ofBytes (encode text)).buffer) := by
    rw [depthBound]
    omega
  obtain ⟨value, meant, yields⟩ := reads _ body [final] here short closed
  refine ⟨value, meant, ?_⟩
  rw [run_yields facing rfl yields ends, if_pos rfl]

/-- The source text of a parsable expression is read back as the expression, up to its spans. -/
theorem Expression.Parsable.parse_source {expression : Expression} (parsable : expression.Parsable) :
    ∃ text, expression.source = .ok text ∧ (Reading.ofBytes (encode text)).report? = none ∧
      ∃ value, (Reading.ofBytes (encode text)).buffer.parseExpression = .ok value ∧
        value.bare = expression.bare := by
  obtain ⟨fragment, words, text, renders⟩ := parsable.renders
  obtain ⟨quiet, value, bare, parsed⟩ := renders.spells.worded.run renders.phrase.expression
  refine ⟨fragment.text, ?_, quiet, value, ?_, bare⟩
  · rw [Expression.source, text]
    rfl
  · rw [Buffer.parseExpression, run_expression, parsed]

/-- A name, an equality sign and the source text of a parsable expression are read back as the
assignment. -/
theorem Expression.Parsable.parse_assignment {expression : Expression} (parsable : expression.Parsable)
    {name : String} (isName : IsName name) :
    ∃ text, expression.source = .ok text ∧
      (Reading.ofBytes (encode (name ++ " = " ++ text))).report? = none ∧
        ∃ token value, token.name = name ∧ value.bare = expression.bare ∧
          (Reading.ofBytes (encode (name ++ " = " ++ text))).buffer.parseStatement =
            .ok (assigned token value) := by
  obtain ⟨fragment, words, text, renders⟩ := parsable.renders
  have whole : (name ++ " = " ++ fragment.text).toList =
      name.toList ++ ' ' :: '=' :: ' ' :: fragment.text.toList := by
    simp [String.toList_append]
  have worded : Worded (name ++ " = " ++ fragment.text).toList
      (.written .identifier name.toList :: .written .equal ['='] :: words) := by
    have blank := renders.spells.worded.blank renders.phrase.solid
    have equal := blank.symbol (show Kind.ofSymbol? '=' = some .equal from rfl) (by decide) (by decide)
    rw [whole]
    exact isName.spells _ _ (loose_cons (by decide) _) (equal.blank (List.cons_ne_nil _ _))
  obtain ⟨quiet, statement, ⟨token, value, named, bare, rfl⟩, parsed⟩ :=
    @Worded.run _ _ _ (fun depth => statementRule (expressionWithin depth))
      (fun statement => ∃ token value, token.name = name ∧ value.bare = expression.bare ∧
        statement = assigned token value) worded (by
      intro depth tokens rest same short closed
      obtain ⟨token, _, rfl, word, later⟩ := List.map_eq_cons_iff.1 same
      obtain ⟨equal, inside, rfl, isEqual, here⟩ := List.map_eq_cons_iff.1 later
      obtain ⟨kind, named⟩ := name_of_word word
      simp only [List.cons_append, List.length_cons] at short ⊢
      obtain ⟨value, bare, yields⟩ :=
        renders.phrase.expression depth inside rest here (by omega) closed
      refine ⟨assigned token value, ⟨token, value, named, bare, rfl⟩, Yields.choice ?_ _⟩
      exact (yields_token kind (by decide) _).triple
        (yields_token (congrArg Word.kind isEqual) (by decide) _) yields _)
  refine ⟨fragment.text, ?_, quiet, token, value, named, bare, ?_⟩
  · rw [Expression.source, text]
    rfl
  · rw [Buffer.parseStatement, run_statement, parsed]

end Reckon
