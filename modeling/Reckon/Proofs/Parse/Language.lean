/-
This file shows that the sentences that are parsed are those of the grammar, although the parse commits to
its first success and repeats greedily.
-/

import Reckon.Proofs.Parse.Acceptance
import Reckon.Proofs.Parse.Decision
import Reckon.Proofs.Token.Spelling

namespace Reckon

open Text Grammar

/-- These are the kinds of the tokens that matter to a parse, up to the end of input. -/
def Buffer.sentence (buffer : Buffer) : List Kind :=
  (buffer.entries.toList.map Entry.kind).filter fun kind => kind != .comment && kind != .endOfInput

/-- A result avoids syntax errors when nothing but the value of a number is wrong. -/
def AvoidsSyntaxErrors {A : Type} : Result A → Prop
  | .ok _ => True
  | .error (.report report) => report.leaves ≠ [] ∧ ∀ leaf ∈ report.leaves,
      ∃ lexeme problem, leaf.1 = .invalidNumeral lexeme problem
  | .error (.fault _) => False

/-- A syntax error says nothing about the value of a number. -/
def Report.IsSyntaxError (report : Report) : Prop :=
  report.leaves ≠ [] ∧ ∀ leaf ∈ report.leaves, ∀ lexeme problem,
    leaf.1 ≠ .invalidNumeral lexeme problem

/-- A report of a single cause that is no number is a syntax error. -/
theorem Report.isSyntaxError_single {report : Report} {cause : Cause} {place : Option Span}
    (leaves : report.leaves = [(cause, place)])
    (other : ∀ lexeme problem, cause ≠ .invalidNumeral lexeme problem) : report.IsSyntaxError := by
  rw [IsSyntaxError, leaves]
  exact ⟨List.cons_ne_nil _ _, List.forall_mem_singleton.2 other⟩

/-- A syntax error is more than the wrong value of a number. -/
theorem Report.IsSyntaxError.not_avoids {A : Type} {report : Report} (isError : report.IsSyntaxError) :
    ¬AvoidsSyntaxErrors (.error (.report report) : Result A) := by
  rintro ⟨some, all⟩
  obtain ⟨leaf, member⟩ := List.exists_mem_of_ne_nil _ some
  obtain ⟨lexeme, problem, same⟩ := all leaf member
  exact isError.2 leaf member lexeme problem same

/-- Comments do not matter to a parse. -/
def significantTokens (tokens : List Token) : List Token :=
  tokens.filter fun token => token.kind != .comment

/-- The significant tokens of a text end with the only end of input, and its integers can be read. -/
theorem supply_significantTokens (place : Location) (tail : List Glyph) (segments : List Segment)
    (scanned : ∀ segment ∈ segments, segment.Scanned ∧ segment.kind ≠ .endOfInput) :
    Supply (significantTokens (tokensFrom place tail segments)) := by
  induction segments generalizing place with
  | nil => exact .last rfl
  | cons segment segments ih =>
      obtain ⟨here, later⟩ := List.forall_mem_cons.1 scanned
      have rest := ih (segment.after place) later
      rw [tokensFrom, significantTokens, List.filter_cons]
      split
      · exact .more here.2 (fun integer => ⟨_, integerValue_spelled (here.1.integer integer)⟩) rest
      · exact rest

/-- The tokens of a supply are those before the end of input, and the end of input. -/
theorem Supply.split {tokens : List Token} (supply : Supply tokens) :
    ∃ body final, tokens = body ++ [final] ∧ final.kind = .endOfInput ∧
      ∀ token ∈ body, token.kind ≠ .endOfInput := by
  induction supply with
  | @last token ends => exact ⟨[], token, rfl, ends, by simp⟩
  | @more token tokens goesOn _ _ ih =>
      obtain ⟨body, final, rfl, ends, others⟩ := ih
      exact ⟨token :: body, final, rfl, ends, List.forall_mem_cons.2 ⟨goesOn, others⟩⟩

/-- The significant tokens of a buffer are those that are no comments. -/
theorem State.significant_ofBuffer (buffer : Buffer) : (State.ofBuffer buffer).significant.toList =
    (List.range buffer.size).filter fun handle =>
      buffer.entries[handle]?.elim false (·.kind != .comment) := by
  rw [State.ofBuffer, Array.toList_filter, Array.toList_range]
  refine List.filter_congr fun handle _ => ?_
  cases buffer.entries[handle]? <;> rfl

/-- A parse starts before the significant tokens of the text. -/
theorem Cut.facing {source : Bytes} {segments : List Segment} {tail : List Glyph}
    {misreadings : List Misreading} (cut : Cut .start source.glyphs segments tail misreadings) :
    (State.ofBuffer (Reading.ofBytes source).buffer).Facing
      (significantTokens (tokensFrom .start tail segments)) := by
  have scanned := cut.scanned (isText_glyphs source)
  refine ⟨?_, supply_significantTokens _ _ _ fun segment member =>
    ⟨scanned segment member, cut.proper segment member⟩⟩
  have entries : (Reading.ofBytes source).buffer.entries =
      ((tokensFrom .start tail segments).map Token.entry).toArray := by rw [cut.reading]
  have token {handle : Handle} {token : Token}
      (found : (tokensFrom .start tail segments)[handle]? = some token) :
      (Reading.ofBytes source).buffer.entries[handle]? = some token.entry ∧
        (Reading.ofBytes source).buffer.token handle = .ok token := by
    have entry : (Reading.ofBytes source).buffer.entries[handle]? = some token.entry := by
      rw [entries, List.getElem?_toArray, List.getElem?_map, found]
      rfl
    refine ⟨entry, ?_⟩
    obtain ⟨previous, place⟩ := mem_placesFrom 0 _ token (List.mem_of_getElem? found)
    unfold Buffer.token Buffer.entry
    rw [entry]
    rcases cut.placed [] rfl rfl _ place with ⟨_, _, _, _, placed, _⟩ | ⟨_, placed, _⟩
    · rw [cut.reading]
      exact placed.materialize _
    · rw [cut.reading]
      exact placed.materialize _
  have size : (Reading.ofBytes source).buffer.size = (tokensFrom .start tail segments).length := by
    rw [Buffer.size, entries]
    simp
  have all : List.Forall₂ (fun handle token =>
      (Reading.ofBytes source).buffer.entries[handle]? = some token.entry ∧
        (Reading.ofBytes source).buffer.token handle = .ok token)
      (List.range (Reading.ofBytes source).buffer.size) (tokensFrom .start tail segments) := by
    refine List.forall₂_iff_get.2 ⟨by rw [List.length_range, size], fun handle _ inside => ?_⟩
    rw [List.get_eq_getElem, List.getElem_range]
    exact token (List.getElem?_eq_getElem inside)
  change List.Forall₂ _ (List.drop 0 _) _
  rw [List.drop_zero, State.significant_ofBuffer]
  refine (List.rel_filter ?_ all).imp fun handle token both => both.2
  rintro handle token ⟨entry, _⟩
  simp only [entry]
  rfl

namespace Parser

open State

/-- The end of input is found and not consumed. -/
theorem yields_endOfInput {final : Token} (ends : final.kind = .endOfInput) (rest : List Token) :
    endOfInput.Yields (final :: rest) () [] (final :: rest) := by
  intro state facing
  refine ⟨state, ?_, facing.reaches⟩
  rw [endOfInput, atEnd, facing.is, decide_eq_true ends]

/-- Every other token is refused as the end of input. -/
theorem refuses_endOfInput {first : Token} (goesOn : first.kind ≠ .endOfInput) (rest : List Token) :
    endOfInput.Refuses (first :: rest) := by
  intro state facing
  refine ⟨state.expect Kind.endOfInput.name, ?_, .expect state _⟩
  rw [endOfInput, atEnd, facing.is, decide_eq_false goesOn]

/-- A state faces only one list of tokens. -/
theorem Facing.unique {state : State} {tokens tokens' : List Token} (facing : state.Facing tokens)
    (facing' : state.Facing tokens') : tokens = tokens' := by
  refine Relator.RightUnique.forall₂ ?_ facing.ahead facing'.ahead
  intro handle token token' found found'
  exact Except.ok.inj (found.symm.trans found')

/-- A failure tells what was found and what was expected. -/
theorem failure_isSyntaxError {state : State} {report : Report} (failure : state.failure = .ok report) :
    report.IsSyntaxError := by
  unfold State.failure at failure
  cases furthest : state.furthest with
  | none =>
      rw [furthest] at failure
      cases failure
      exact Report.isSyntaxError_single rfl fun _ _ => Cause.noConfusion
  | some furthest' =>
      rw [furthest] at failure
      dsimp only at failure
      obtain ⟨handle, _, failure⟩ := exists_of_bind_ok failure
      obtain ⟨found, _, failure⟩ := exists_of_bind_ok failure
      split at failure
      · cases failure
        exact Report.isSyntaxError_single rfl fun _ _ => Cause.noConfusion
      · cases failure
        exact Report.isSyntaxError_single rfl fun _ _ => Cause.noConfusion

/-- A number without a value is the only thing that is reported without a syntax error. -/
theorem mem_numeralReports {tokens : List Token} {report : Report}
    (member : report ∈ numeralReports tokens) :
    ∃ span lexeme problem, report = .atSpan span (.invalidNumeral lexeme problem) := by
  obtain ⟨token, _, found⟩ := List.mem_flatMap.1 member
  have problem {B : Type} {value : Except NumeralProblem B}
      (found : report ∈ problemReports token value) :
      ∃ span lexeme problem, report = .atSpan span (.invalidNumeral lexeme problem) := by
    cases value with
    | ok value => cases found
    | error problem => exact ⟨_, _, problem, List.mem_singleton.1 found⟩
  revert found
  split
  · split
    · exact problem
    · intro found
      cases found
  · exact problem
  · intro found
    cases found

/-- Reports about numbers alone are no syntax errors. -/
theorem numerals_avoid {A : Type} {tokens : List Token} (some : numeralReports tokens ≠ []) :
    AvoidsSyntaxErrors (.error (.report (.joined (numeralReports tokens))) : Result A) := by
  have leaves (reports : List Report) (all : ∀ report ∈ reports, ∃ span lexeme problem,
      report = .atSpan span (.invalidNumeral lexeme problem)) (place : Option Span) :
      (reports ≠ [] → Report.allLeavesIn place reports ≠ []) ∧
        ∀ leaf ∈ Report.allLeavesIn place reports, ∃ lexeme problem,
          leaf.1 = .invalidNumeral lexeme problem := by
    induction reports with
    | nil => exact ⟨fun absent => absurd rfl absent, by simp [Report.allLeavesIn]⟩
    | cons report reports ih =>
        obtain ⟨⟨span, lexeme, problem, rfl⟩, later⟩ := List.forall_mem_cons.1 all
        refine ⟨fun _ => List.cons_ne_nil _ _, ?_⟩
        exact List.forall_mem_cons.2 ⟨⟨lexeme, problem, rfl⟩, (ih later).2⟩
  have both := leaves (numeralReports tokens) (fun _ => mem_numeralReports) none
  exact ⟨both.1 some, both.2⟩

/-- A parse ends with the value of the parser, or with the reports of its numbers. -/
theorem run_yields {A : Type} {parser : Parser A} {state : State} {tokens rest : List Token}
    {final : Token} {value : A} {reports : List Report} (facing : state.Facing tokens)
    (fresh : state.reports = #[]) (yields : parser.Yields tokens value reports (final :: rest))
    (ends : final.kind = .endOfInput) :
    (parser.run state).1 =
      if reports = [] then .ok value else .error (.report (.joined reports)) := by
  obtain ⟨next, outcome, reached⟩ :=
    yields.pair (yields_endOfInput ends rest) (fun value _ => value) state facing
  have reported : next.reports.toList = reports := by
    rw [reached.reports, fresh, List.append_nil, List.nil_append]
  rw [Parser.run, outcome]
  dsimp only
  rw [← reported]
  by_cases none : next.reports = #[]
  · simp [none]
  · simp [none]

/-- A parse that is refused ends with a syntax error. -/
theorem run_refuses {A : Type} {parser : Parser A} {state : State} {tokens : List Token}
    (facing : state.Facing tokens)
    (refuses : (pair parser endOfInput fun value _ => value).Refuses tokens) :
    ¬AvoidsSyntaxErrors (parser.run state).1 := by
  obtain ⟨failed, outcome, _⟩ := refuses state facing
  rw [Parser.run, outcome]
  dsimp only
  split
  · rename_i report failure
    exact (failure_isSyntaxError failure).not_avoids
  · exact id

/-- A parse of a whole supply refuses it, or yields a tree of all tokens before the end of input. -/
theorem Decides.whole {A : Type} {parser : Parser A} {state : State} {body : List Token} {final : Token}
    {Good : List Token → A → Prop} (facing : state.Facing (body ++ [final]))
    (decides : parser.Decides (body ++ [final]).length Good) :
    (Parser.pair parser endOfInput fun value _ => value).Refuses (body ++ [final]) ∨
      ∃ value, Good body value ∧
        parser.Yields (body ++ [final]) value (numeralReports body) [final] := by
  rcases decides _ (Nat.le_refl _) with refuses | ⟨consumed, rest, value, split, good, yields⟩
  · exact .inl (refuses.pair _ _)
  · obtain ⟨next, _, reached⟩ := yields state facing
    cases reached.facing.supply with
    | @last token ends =>
        obtain ⟨rfl, same⟩ := List.append_inj' split rfl
        obtain rfl := (List.cons.inj same).1
        exact .inr ⟨value, good, yields⟩
    | @more token tokens goesOn _ _ =>
        exact .inl (yields.refuses_pair (refuses_endOfInput goesOn tokens) _)

/-- What a parser accepts up to the end of input is not refused together with it. -/
theorem not_refuses_of_accepts {A : Type} {parser : Parser A} {state : State} {tokens : List Token}
    {final : Token} (accepts : Accepts parser tokens [final]) (ends : final.kind = .endOfInput)
    (facing : state.Facing tokens) :
    ¬(pair parser endOfInput fun value _ => value).Refuses tokens := by
  intro refuses
  obtain ⟨value, reports, yields⟩ := accepts
  obtain ⟨failed, outcome, _⟩ := refuses state facing
  obtain ⟨next, outcome', _⟩ :=
    yields.pair (yields_endOfInput ends []) (fun value _ => value) state facing
  rw [outcome] at outcome'
  cases outcome'

/-- A parse avoids syntax errors exactly when all tokens up to the end of input are a sentence. -/
theorem run_avoids {A : Type} {parser : Parser A} {state : State} {body : List Token} {final : Token}
    {symbol : Symbol} {Good : List Token → A → Prop} (facing : state.Facing (body ++ [final]))
    (ends : final.kind = .endOfInput) (fresh : state.reports = #[])
    (decides : parser.Decides (body ++ [final]).length Good)
    (sound : ∀ value, Good body value → symbol.Derives (body.map Token.kind))
    (accepts : symbol.Derives (body.map Token.kind) → Accepts parser (body ++ [final]) [final]) :
    AvoidsSyntaxErrors (parser.run state).1 ↔ symbol.Derives (body.map Token.kind) := by
  rcases decides.whole facing with refuses | ⟨value, good, yields⟩
  · exact ⟨fun avoids => absurd avoids (run_refuses facing refuses),
      fun derives => absurd refuses (not_refuses_of_accepts (accepts derives) ends facing)⟩
  · refine ⟨fun _ => sound value good, fun _ => ?_⟩
    rw [run_yields facing fresh yields ends]
    split
    · trivial
    · exact numerals_avoid ‹_›

end Parser

/-- The sentence of a text is that of the significant tokens before the end of input. -/
theorem Cut.sentence {source : Bytes} {segments : List Segment} {tail : List Glyph}
    {misreadings : List Misreading} (cut : Cut .start source.glyphs segments tail misreadings)
    {body : List Token} {final : Token}
    (split : significantTokens (tokensFrom .start tail segments) = body ++ [final])
    (ends : final.kind = .endOfInput) (others : ∀ token ∈ body, token.kind ≠ .endOfInput) :
    (Reading.ofBytes source).buffer.sentence = body.map Token.kind := by
  have kinds : (Reading.ofBytes source).buffer.entries.toList.map Entry.kind =
      (tokensFrom .start tail segments).map Token.kind := by
    rw [cut.reading, List.toList_toArray, List.map_map]
    rfl
  have final' : [final.kind].filter (fun kind => kind != .endOfInput) = [] := by
    rw [ends]
    rfl
  have first : ((tokensFrom .start tail segments).map Token.kind).filter (fun kind => kind != .comment) =
      (body ++ [final]).map Token.kind := by
    rw [← split, significantTokens, List.filter_map]
    rfl
  have body' : (body.map Token.kind).filter (fun kind => kind != .endOfInput) = body.map Token.kind := by
    rw [List.filter_eq_self]
    intro kind member
    obtain ⟨token, inside, rfl⟩ := List.mem_map.1 member
    exact bne_iff_ne.2 (others token inside)
  have both (kind : Kind) : (kind != .comment && kind != .endOfInput) =
      (kind != .endOfInput && kind != .comment) := Bool.and_comm _ _
  rw [Buffer.sentence, kinds]
  simp only [both]
  rw [← List.filter_filter, first, List.map_append, List.filter_append, body', List.map_singleton,
    final', List.append_nil]

/-- The depth of a parse is fixed at its start. -/
theorem Grammar.run_expression (state : State) :
    expression.run state = (expressionWithin (depthBound state)).run state := by
  simp only [Parser.run, Parser.pair, Parser.attempt, Parser.andThen, expression]

theorem Grammar.run_statement (state : State) :
    statement.run state = (statementRule (expressionWithin (depthBound state))).run state := by
  simp only [Parser.run, Parser.pair, Parser.attempt, Parser.andThen, statement]

theorem Grammar.closed_endOfInput {final : Token} (ends : final.kind = .endOfInput) : Closed [final] :=
  ⟨final, [], rfl, by rw [ends]; rfl⟩

/-- A parse of a buffer starts before the tokens of its sentence, and then there is the end of input. -/
structure Buffer.StartsBefore (buffer : Buffer) (body : List Token) (final : Token) : Prop where
  ends : final.kind = .endOfInput
  others : ∀ token ∈ body, token.kind ≠ .endOfInput
  facing : (State.ofBuffer buffer).Facing (body ++ [final])
  sentence : buffer.sentence = body.map Token.kind
  short : (body ++ [final]).length ≤ depthBound (State.ofBuffer buffer)

/-- The significant kinds are those of the sentence and the end of input. -/
theorem Buffer.StartsBefore.kinds {buffer : Buffer} {body : List Token} {final : Token}
    (starts : buffer.StartsBefore body final) :
    (body ++ [final]).map Token.kind = buffer.sentence ++ [.endOfInput] := by
  rw [List.map_append, List.map_singleton, starts.ends, starts.sentence]

/-- There is no end of input in a sentence. -/
theorem Buffer.StartsBefore.endOfInput_not_mem {buffer : Buffer} {body : List Token} {final : Token}
    (starts : buffer.StartsBefore body final) : Kind.endOfInput ∉ buffer.sentence := by
  rw [starts.sentence]
  intro member
  obtain ⟨token, inside, same⟩ := List.mem_map.1 member
  exact starts.others token inside same

/-- The buffer of a text starts before its significant tokens. -/
theorem Cut.startsBefore {source : Bytes} {segments : List Segment} {tail : List Glyph}
    {misreadings : List Misreading} (cut : Cut .start source.glyphs segments tail misreadings) :
    ∃ body final, significantTokens (tokensFrom .start tail segments) = body ++ [final] ∧
      (Reading.ofBytes source).buffer.StartsBefore body final := by
  have facing := cut.facing
  obtain ⟨body, final, split, ends, others⟩ := facing.supply.split
  have sentence := cut.sentence split ends others
  rw [split] at facing
  have enough := facing.position_add
  have short : (body ++ [final]).length ≤
      depthBound (State.ofBuffer (Reading.ofBytes source).buffer) := by
    rw [depthBound]
    omega
  exact ⟨body, final, split, ends, others, facing, sentence, short⟩

/-- The depth of a parse is enough to decide about the tokens it starts before. -/
theorem Buffer.StartsBefore.decides {buffer : Buffer} {body : List Token} {final : Token}
    (starts : buffer.StartsBefore body final) :
    (expressionWithin (depthBound (State.ofBuffer buffer))).Decides (body ++ [final]).length
      (Symbol.Gives .expression) ∧
    (statementRule (expressionWithin (depthBound (State.ofBuffer buffer)))).Decides
      (body ++ [final]).length Symbol.BuildsStatement :=
  ⟨(decides_expressionWithin _).lower starts.short,
    (decides_statementRule (decides_expressionWithin _)).lower starts.short⟩

/-- Both parsers avoid syntax errors exactly on their sentences. -/
theorem Buffer.StartsBefore.avoids_iff {buffer : Buffer} {body : List Token} {final : Token}
    (starts : buffer.StartsBefore body final) :
    (AvoidsSyntaxErrors buffer.parseExpression ↔ Symbol.Derives .expression buffer.sentence) ∧
    (AvoidsSyntaxErrors buffer.parseStatement ↔ Symbol.Derives .statement buffer.sentence) := by
  have closed := closed_endOfInput starts.ends
  rw [starts.sentence, Buffer.parseExpression, Buffer.parseStatement, run_expression, run_statement]
  obtain ⟨expressions, statements⟩ := starts.decides
  exact ⟨Parser.run_avoids starts.facing starts.ends rfl expressions (fun _ gives => gives.derives)
      fun derives => accepts_expression _ derives closed starts.short,
    Parser.run_avoids starts.facing starts.ends rfl statements (fun _ builds => builds.derives)
      fun derives => accepts_statement _ derives closed starts.short⟩

/-- A text parses without a syntax error exactly when the kinds of its tokens are a sentence of the
grammar. Neither the order of alternatives nor greed loses or adds a sentence. -/
theorem parse_avoids_iff_derives (source : Bytes) :
    (AvoidsSyntaxErrors (Reading.ofBytes source).buffer.parseExpression ↔
      Symbol.Derives .expression (Reading.ofBytes source).buffer.sentence) ∧
    (AvoidsSyntaxErrors (Reading.ofBytes source).buffer.parseStatement ↔
      Symbol.Derives .statement (Reading.ofBytes source).buffer.sentence) := by
  obtain ⟨segments, tail, misreadings, cut⟩ := exists_cut .start source.glyphs
  obtain ⟨_, _, _, starts⟩ := cut.startsBefore
  exact starts.avoids_iff

end Reckon
