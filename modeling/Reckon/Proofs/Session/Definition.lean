/-
This file shows that a session can be made to hold every parsable function, and it states how texts,
parsable expressions and sessions belong together.
-/

import Reckon.Proofs.Expression.RoundTrip
import Reckon.Proofs.Session.Held

namespace Reckon

open Text Lexeme Grammar

/-- A name that was just bound is bound to its new value. -/
theorem Bindings.mem_set_self (bindings : Bindings) (name : String) (value : Value) :
    (name, value) ∈ bindings.set name value := by
  fun_induction Bindings.set bindings name value with
  | case1 => exact List.mem_singleton_self _
  | case2 => exact List.mem_cons_self
  | case3 => exact List.mem_cons_self
  | case4 first firstValue rest _ _ ih => exact List.mem_cons_of_mem _ ih

/-- Only a function is a function without its spans. -/
theorem Expression.exists_function {value body : Expression} {span : Span} {param : String}
    (same : value.bare = (Expression.function span param body).bare) :
    ∃ span' body', value = .function span' param body' ∧ body'.bare = body.bare := by
  cases value with
  | function span' param' body' =>
      rw [bare, bare] at same
      injection same with _ param_eq body_eq
      exact ⟨span', body', by rw [param_eq], body_eq⟩
  | hole | literal | ident | unary | binary | apply | list => simp [bare] at same

namespace Session

/-- A text that is read and parsed as a definition binds the name to the function. -/
theorem run_parsed {session : Session} {source : Bytes} {span : Span} {name param : String}
    {body : Expression} (quiet : (Reading.ofBytes source).report? = none)
    (parsed : (Reading.ofBytes source).buffer.parseStatement = .ok (.define span name param body)) :
    (session.run source).2 = ⟨session.globals.set name (.closure param body .global)⟩ := by
  have statement : (parse source).value = .ok (.define span name param body) := by
    rw [parse, tokens]
    simp only [quiet, parsed]
    rfl
  rw [run]
  simp only [statement]
  rfl

/-- A function that is defined by its source text is held up to its spans. -/
theorem run_definition {name param : String} {body : Expression} (isName : IsName name)
    (isParam : IsName param) (parsable : body.Parsable) (span : Span) :
    ∃ text body', (Expression.function span param body).source = .ok text ∧ body'.bare = body.bare ∧
      ∀ session : Session, (session.run (encode (name ++ " = " ++ text))).2 =
        ⟨session.globals.set name (.closure param body' .global)⟩ := by
  obtain ⟨text, written, quiet, token, value, named, bare, parsed⟩ :=
    @Expression.Parsable.parse_assignment (.function span param body) (.function isParam parsable)
      name isName
  obtain ⟨span', body', rfl, same⟩ := Expression.exists_function bare
  refine ⟨text, body', written, same, fun session => ?_⟩
  rw [assigned, named] at parsed
  exact run_parsed quiet parsed

end Session

/-- The source text of every parsable expression is read back as this expression, up to its spans.
All expressions that were parsed are parsable, and so is every function that a session holds. -/
theorem source_round_trip :
    (∀ expression : Expression, expression.Parsable → ∃ text, expression.source = .ok text ∧
      (Reading.ofBytes (encode text)).report? = none ∧
        ∃ value, (Reading.ofBytes (encode text)).buffer.parseExpression = .ok value ∧
          value.bare = expression.bare) ∧
    (∀ (source : Bytes) (expression : Expression),
      (Reading.ofBytes source).buffer.parseExpression = .ok expression → expression.Parsable) ∧
    (∀ (session : Session) (param : String) (body : Expression), session.Reachable →
      session.Holds param body → IsName param ∧ body.Parsable) := by
  refine ⟨fun _ parsable => parsable.parse_source, fun source => (parsed_parsable source).1, ?_⟩
  intro session param body reachable holds
  exact reachable.holds holds

/-- This is the product `x * -2`. -/
def negativeDouble (span : Span) : Expression :=
  .binary span .mul (.ident span "x") (.unary span .sub (.literal span (.int 2)))

/-- This is the application `(x: x * -2) [x, ()]`. -/
def sampleApplication (span : Span) : Expression :=
  .apply span (.function span "x" (negativeDouble span))
    (.list span [.ident span "x", .literal span .unit])

example (span : Span) : (sampleApplication span).source = .ok "(x: x * -2) [x, ()]" := by rfl

theorem isName_letter : IsName "x" :=
  (isName_iff "x").2 ⟨'x', [], rfl, by decide +kernel, by simp, by decide +kernel⟩

/-- An application that was read back is parsable, and so is a function that a session holds. -/
theorem sampleApplication_read_back : ∃ (text : String) (value : Expression) (session : Session)
    (body : Expression),
    (sampleApplication ⟨.start, .start⟩).source = .ok text ∧
      (Reading.ofBytes (encode text)).buffer.parseExpression = .ok value ∧
        value.bare = (sampleApplication ⟨.start, .start⟩).bare ∧ value.Parsable ∧
          session.Reachable ∧ session.Holds "x" body ∧ body.Parsable := by
  have letter := isName_letter
  have body : (negativeDouble ⟨.start, .start⟩).Parsable :=
    .binary rfl (.ident letter) (.unary rfl (.int (by decide)))
  have elems : ∀ elem ∈ [Expression.ident ⟨.start, .start⟩ "x", .literal ⟨.start, .start⟩ .unit],
      elem.Parsable := by
    simp only [List.forall_mem_cons, List.not_mem_nil, false_implies, implies_true, and_true]
    exact ⟨.ident letter, .unit⟩
  obtain ⟨text, written, _, value, parsed, bare⟩ :=
    source_round_trip.1 (sampleApplication ⟨.start, .start⟩)
      (.apply rfl (.function letter body) (.list elems))
  obtain ⟨definition, held, _, _, ran⟩ := Session.run_definition letter letter body ⟨.start, .start⟩
  have reachable : Session.Reachable (Session.empty.run (encode ("x" ++ " = " ++ definition))).2 :=
    .run .empty _
  have holds : Session.Holds (Session.empty.run (encode ("x" ++ " = " ++ definition))).2 "x" held := by
    rw [ran]
    exact ⟨"x", _, Bindings.mem_set_self _ _ _, .here⟩
  exact ⟨text, value, _, held, written, parsed, bare, source_round_trip.2.1 _ value parsed, reachable,
    holds, (source_round_trip.2.2 _ "x" held reachable holds).2⟩

end Reckon
