/-
This file shows that no fault arises from a source text. Whatever requests a session has served, the
next one ends with a value or with a report.
-/

import Reckon.Proofs.Evaluation.Whole
import Reckon.Proofs.Failure.Location
import Reckon.Proofs.Outline.Agreement
import Reckon.Proofs.Script.Reaction
import Reckon.Proofs.Token.Standing

namespace Reckon

open Text Reckon.Parser

/-- Every failure at the start of some tokens can be reported. -/
theorem State.Facing.failure_reported {state failed : State} {tokens : List Token}
    (facing : state.Facing tokens) (start : state.position = 0) (same : state.SameBefore failed) :
    ∃ report, failed.failure = .ok report := by
  cases noted : failed.furthest with
  | none => exact ⟨_, by rw [State.failure, noted]⟩
  | some furthest =>
      obtain ⟨found, _, reported⟩ := facing.failure_at start same noted
      exact ⟨_, reported⟩

namespace Parser

variable {A : Type} {parser : Parser A} {state : State}

/-- A parse is done when it stops in front of some tokens, or fails without a trace. -/
def Done (parser : Parser A) (state : State) : Prop :=
  (∃ value next rest, pair parser endOfInput (fun value _ => value) state = .success value next ∧
    next.Facing rest) ∨
  ∃ failed, pair parser endOfInput (fun value _ => value) state = .failure failed ∧
    state.SameBefore failed

/-- A parse that is done is reported without a fault. -/
theorem Done.run_meets (done : parser.Done state) {tokens : List Token} (facing : state.Facing tokens)
    (start : state.position = 0) : (parser.run state).1.Meets fun _ => True := by
  rcases done with ⟨value, next, _, outcome, _⟩ | ⟨failed, outcome, same⟩
  · rw [run, outcome]
    dsimp only
    split
    · exact .ok trivial
    · exact .report
  · obtain ⟨report, reported⟩ := facing.failure_reported start same
    rw [run, outcome]
    simp only [reported]
    exact .report

/-- A parser that decides on all tokens ahead is done with them. -/
theorem Decides.done {Good : List Token → A → Prop} {tokens : List Token}
    (decides : parser.Decides tokens.length Good) (facing : state.Facing tokens) :
    parser.Done state := by
  rcases decides _ (Nat.le_refl _) with refuses | ⟨consumed, rest, value, _, _, yields⟩
  · exact .inr (refuses.pair _ _ state facing)
  · obtain ⟨next, _, reached⟩ := yields state facing
    cases reached.facing.supply with
    | last ends =>
        obtain ⟨next, outcome, reached'⟩ :=
          yields.pair (yields_endOfInput ends []) (fun value _ => value) state facing
        exact .inl ⟨_, next, _, outcome, reached'.facing⟩
    | more goesOn _ _ =>
        exact .inr (yields.refuses_pair (refuses_endOfInput goesOn _) _ state facing)

end Parser

/-- The outlining of a buffer is done with its tokens. -/
theorem Buffer.StartsBefore.outlining_done {buffer : Buffer} {body : List Token} {final : Token}
    (starts : buffer.StartsBefore body final) {expr : Parser Unit} {bound : Nat}
    (settles : Outline.Settles expr bound (Outline.Shaped .expression))
    (enough : (State.ofBuffer buffer).significant.size ≤ bound) :
    (Outline.statementRule expr).Done (.ofBuffer buffer) := by
  obtain ⟨last, ends, faces, _⟩ := starts.facing.faces starts.ends starts.others
  rcases Buffer.fails_or_outlined faces settles enough with fails | ⟨_, _, _, emits⟩
  · exact .inr fails
  · obtain ⟨value, next, outcome, emitted⟩ := emits.completes faces ends
    exact .inl ⟨value, next, _, outcome, emitted.faces.tokens⟩

/-- A buffer is outlined, or the outline ends with a report. -/
theorem Buffer.outline_meets {buffer : Buffer} {body : List Token} {final : Token}
    (starts : buffer.StartsBefore body final) : buffer.outline.Meets fun _ => True := by
  have done := starts.outlining_done (Outline.settles_expressionWithin _) (Nat.le_succ _)
  have meets := done.run_meets starts.facing rfl
  rw [← Outline.run_statement] at meets
  rw [outline_eq]
  rcases meets.cases with ⟨value, found, _⟩ | ⟨report, found⟩
  · rw [found]
    exact .ok trivial
  · rw [found]
    exact .report

/-- The buffer of a text is parsed without a fault by both grammars, also when it was misread. -/
theorem buffer_meets (source : Bytes) :
    (Reading.ofBytes source).buffer.parseExpression.Meets Expression.Parsable ∧
    (Reading.ofBytes source).buffer.parseStatement.Meets Statement.Parsable ∧
    (Reading.ofBytes source).buffer.outline.Meets fun _ => True := by
  obtain ⟨segments, tail, misreadings, cut⟩ := exists_cut .start source.glyphs
  obtain ⟨body, final, _, starts⟩ := cut.startsBefore
  have parsable := parsed_parsable source
  refine ⟨Result.meets_iff.2 ⟨parsable.1, ?_⟩, Result.meets_iff.2 ⟨parsable.2, ?_⟩, ?_⟩
  · rw [Buffer.parseExpression, Grammar.run_expression]
    have decides := (Grammar.decides_expressionWithin _).lower starts.short
    exact ((decides.done starts.facing).run_meets starts.facing rfl).ne_fault
  · rw [Buffer.parseStatement, Grammar.run_statement]
    have decides := (Grammar.decides_statementRule (Grammar.decides_expressionWithin _)).lower starts.short
    exact ((decides.done starts.facing).run_meets starts.facing rfl).ne_fault
  · exact Buffer.outline_meets starts

namespace Session

/-- A session parses a text to a parsable statement, or it reports what is wrong. -/
theorem parse_meets (source : Bytes) : (parse source).value.Meets Statement.Parsable := by
  have same := tokens_buffer source
  have meets := (buffer_meets source).2.1.inStage .parsing
  unfold parse
  dsimp only
  split
  · exact .report
  · rename_i buffer read
    rw [read] at same
    obtain rfl : buffer = (Reading.ofBytes source).buffer := same
    rcases meets.cases with ⟨statement, found, parsable⟩ | ⟨report, found⟩
    · obtain ⟨⟨text, written⟩, _⟩ := Statement.text_whole parsable.whole
      simp only [found, written]
      exact .ok parsable
    · simp only [found]
      exact .report

/-- A session outlines a text, or it reports what is wrong. -/
theorem outline_meets (source : Bytes) : (outline source).value.2.Meets fun _ => True := by
  have same := tokens_buffer source
  have meets := (buffer_meets source).2.2.inStage .parsing
  unfold outline
  dsimp only
  split
  · exact .report
  · rename_i buffer read
    rw [read] at same
    obtain rfl : buffer = (Reading.ofBytes source).buffer := same
    rcases meets.cases with ⟨nodes, found, _⟩ | ⟨report, found⟩
    · simp only [found]
      exact .ok trivial
    · simp only [found]
      exact .report

/-- A run keeps the global bindings whole, and its value has a text. -/
theorem run_meets {session : Session} (whole : session.globals.isWhole = true) (source : Bytes) :
    ((session.run source).1.value.Meets fun value => value.isWhole = true) ∧
      (session.run source).2.globals.isWhole = true := by
  unfold run
  dsimp only
  rcases (parse_meets source).cases with ⟨statement, found, parsable⟩ | ⟨report, found⟩
  · simp only [found]
    have meets := (statement.exec_whole whole parsable.whole).inStage .evaluation
    rcases meets.cases with ⟨⟨value, globals⟩, found, here, later⟩ | ⟨report, found⟩
    · obtain ⟨text, written⟩ := value.text_whole here
      simp only [found, written]
      exact ⟨.ok here, later⟩
    · simp only [found]
      exact ⟨.report, whole⟩
  · simp only [found]
    exact ⟨.report, whole⟩

end Session

theorem none_ne_fault (fault : Fault) : none ≠ some (Trouble.fault fault) :=
  (Option.some_ne_none _).symm

/-- A report is no fault. -/
theorem report_ne_fault (report : Report) (fault : Fault) :
    some (Trouble.report report) ≠ some (.fault fault) := by
  intro same
  cases same

/-- A reaction to a chunk keeps the global bindings whole, and no fault comes of it. -/
theorem Session.Reacts.meets {session : Session} {chunk : Bytes} {reaction : Reaction}
    (reacts : session.Reacts chunk reaction) (whole : session.globals.isWhole = true) :
    reaction.session.globals.isWhole = true ∧ ∀ fault, reaction.trouble? ≠ some (.fault fault) := by
  obtain ⟨meets, kept⟩ := run_meets whole chunk
  cases reacts with
  | blank | opened | insignificant => exact ⟨whole, none_ne_fault⟩
  | misread => exact ⟨whole, report_ne_fault _⟩
  | ran => exact ⟨kept, none_ne_fault⟩
  | failed _ _ _ ended =>
      rw [ended] at meets
      cases meets
      exact ⟨kept, report_ne_fault _⟩

namespace Script

/-- A line keeps the bindings whole, and no fault comes of it. -/
theorem feed_meets {script : Script} (whole : script.session.globals.isWhole = true) (line : Bytes) :
    (script.feed line).1.session.globals.isWhole = true ∧
      ∀ fault, (script.feed line).2 ≠ some (.fault fault) := by
  obtain ⟨kept, calm⟩ := (script.session.reacts (script.extended line)).meets whole
  rw [feed_eq]
  refine ⟨kept, fun fault same => ?_⟩
  obtain ⟨trouble, found, located⟩ := Option.map_eq_some_iff.1 same
  cases trouble with
  | report => cases located
  | fault fault => exact calm fault found

/-- Lines keep the bindings whole, and no fault comes of them. -/
theorem feedAll_meets {script : Script} (whole : script.session.globals.isWhole = true)
    (lines : List Bytes) : (script.feedAll lines).1.session.globals.isWhole = true ∧
      ∀ fault, (script.feedAll lines).2 ≠ some (.fault fault) := by
  induction lines generalizing script with
  | nil => exact ⟨whole, none_ne_fault⟩
  | cons line lines ih =>
      have fed := feed_meets whole line
      rw [feedAll_cons]
      split
      · exact ih fed.1
      · rename_i trouble stopped
        rw [stopped] at fed
        exact fed

/-- The end of a script is no fault, even when a comment is still open. -/
theorem finish_ne_fault (script : Script) (fault : Fault) : script.finish ≠ some (.fault fault) := by
  unfold finish
  split
  · exact none_ne_fault fault
  · split
    · exact report_ne_fault _ fault
    · exact none_ne_fault fault

/-- A script keeps the bindings whole, and no fault comes of it. -/
theorem run_meets {session : Session} (whole : session.globals.isWhole = true) (text : Bytes) :
    (run session text).1.session.globals.isWhole = true ∧
      ∀ fault, (run session text).2 ≠ some (.fault fault) := by
  have fed := @feedAll_meets (ofSession session) whole (Lines.ofBytes text).lines
  unfold run
  dsimp only
  split
  · rename_i script trouble outcome
    rw [outcome] at fed
    exact fed
  · rename_i script outcome
    rw [outcome] at fed
    split
    · exact ⟨fed.1, report_ne_fault _⟩
    · exact ⟨fed.1, script.finish_ne_fault⟩

end Script

/-- These are the requests to a session. -/
inductive Request where
  | tokens (source : Bytes)
  | parse (source : Bytes)
  | outline (source : Bytes)
  | statement (source : Bytes)
  | script (text : Bytes)

/-- This is the trouble that a result ends with, if there is any. -/
def Result.trouble? {A : Type} : Result A → Option Trouble
  | .ok _ => none
  | .error trouble => some trouble

/-- The trouble of a result that meets a condition is no fault. -/
theorem Result.Meets.trouble?_ne_fault {A : Type} {condition : A → Prop} {result : Result A}
    (meets : result.Meets condition) (fault : Fault) : result.trouble? ≠ some (.fault fault) := by
  cases meets with
  | ok => exact none_ne_fault fault
  | report => exact report_ne_fault _ fault

namespace Session

/-- This is the trouble with a request, if there is any, and the session after it. -/
def serve (session : Session) : Request → Option Trouble × Session
  | .tokens source =>
      match Reading.read source with
      | .ok _ => ((tokens source).value.2.map .report, session)
      | .error fault => (some (.fault fault), session)
  | .parse source => ((parse source).value.trouble?, session)
  | .outline source => ((outline source).value.2.trouble?, session)
  | .statement source => ((session.run source).1.value.trouble?, (session.run source).2)
  | .script text => ((Script.run session text).2, (Script.run session text).1.session)

/-- This is a new session after requests. -/
def served (requests : List Request) : Session :=
  requests.foldl (fun session request => (session.serve request).2) .empty

/-- No request faults in a session with whole bindings, and the bindings stay whole. -/
theorem serve_meets {session : Session} (whole : session.globals.isWhole = true)
    (request : Request) : (session.serve request).2.globals.isWhole = true ∧
      ∀ fault, (session.serve request).1 ≠ some (.fault fault) := by
  cases request with
  | tokens source =>
      rw [serve, Reading.read_eq]
      refine ⟨whole, fun fault => ?_⟩
      dsimp only
      cases (tokens source).value.2 with
      | none => exact none_ne_fault fault
      | some report => exact report_ne_fault report fault
  | parse source => exact ⟨whole, (parse_meets source).trouble?_ne_fault⟩
  | outline source => exact ⟨whole, (outline_meets source).trouble?_ne_fault⟩
  | statement source =>
      obtain ⟨meets, kept⟩ := run_meets whole source
      exact ⟨kept, meets.trouble?_ne_fault⟩
  | script text => exact Script.run_meets whole text

/-- After any requests a session has whole bindings. -/
theorem served_whole (requests : List Request) : (served requests).globals.isWhole = true := by
  have kept (session : Session) (whole : session.globals.isWhole = true) :
      (requests.foldl (fun session request => (session.serve request).2) session).globals.isWhole =
        true := by
    induction requests generalizing session with
    | nil => exact whole
    | cons request requests ih => exact ih _ (serve_meets whole request).1
  exact kept .empty rfl

end Session

/-- No fault arises from a source text. Reading cuts every lexeme out of the text, and gathers as many kinds
as spans. The buffer of every text can be parsed, also when the text was misread, and what it is parsed
as is whole and can be written with all its parts. No request faults after any requests, and the values
that a session holds can be written. -/
theorem session_faultless :
    (∀ source : Bytes,
      Reading.read source = .ok (Reading.ofBytes source) ∧
      (∀ count passed,
        let reader := (Reader.ofBytes source).after count
        let cursor := reader.cursor.skip passed
        reader.read source = .ok reader.next ∧
          ∃ text, (cursor.ahead source).slice source = .ok text ∧ text.glyphs = cursor.rest) ∧
      (∃ tokens, (Reading.ofBytes source).buffer.tokens = .ok tokens) ∧
      ((Reading.ofBytes source).buffer.parseExpression.Meets fun expression =>
        expression.isWhole = true ∧ (∃ text, expression.source = .ok text) ∧
          ∀ part ∈ expression.parts, ∃ text, part.text = .ok text) ∧
      ((Reading.ofBytes source).buffer.parseStatement.Meets fun statement =>
        statement.isWhole = true ∧ (∃ text, statement.text = .ok text) ∧
          ∀ part ∈ statement.parts, ∃ text, part.text = .ok text) ∧
      ∀ fault, (Reading.ofBytes source).buffer.outline ≠ .error (.fault fault)) ∧
    ∀ requests : List Request,
      (∀ request fault, ((Session.served requests).serve request).1 ≠ some (.fault fault)) ∧
      ∀ name value, (name, value) ∈ (Session.served requests).globals →
        ∃ text, value.text = .ok text := by
  refine ⟨fun source => ⟨Reading.read_eq source, ?_, ?_, ?_, ?_, ?_⟩, fun requests => ⟨?_, ?_⟩⟩
  · intro count passed reader cursor
    have stands := Reader.stands_after source count
    exact ⟨(Reader.read_stands stands).1, (stands.skip passed).slice_ahead⟩
  · obtain ⟨segments, tail, misreadings, cut⟩ := exists_cut .start source.glyphs
    exact ⟨_, cut.tokens⟩
  · exact (buffer_meets source).1.imp fun expression parsable =>
      ⟨parsable.whole, expression.source_whole parsable.whole,
        Expression.text_whole parsable.whole⟩
  · exact (buffer_meets source).2.1.imp fun statement parsable =>
      ⟨parsable.whole, Statement.text_whole parsable.whole⟩
  · exact (buffer_meets source).2.2.ne_fault
  · exact fun request => (Session.serve_meets (Session.served_whole requests) request).2
  · intro name value member
    exact value.text_whole (List.all_eq_true.1 (Session.served_whole requests) _ member)

end Reckon
