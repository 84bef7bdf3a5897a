/-
This file compares the two parses of a buffer. A statement is an expression exactly when the buffer is one,
and it is assigned to a name exactly when an expression stands behind the name and the equality sign.
-/

import Mathlib.Data.List.Nodup
import Reckon.Expression.Text
import Reckon.Proofs.Expression.Parsed
import Reckon.Proofs.Parse.Approximation

namespace Reckon

open Text Grammar Reckon.Symbol Reckon.Parser State

/-- These are the handles of the significant entries in their order. -/
def Buffer.significant (buffer : Buffer) : List Handle := (State.ofBuffer buffer).significant.toList

/-- This is the buffer behind its first significant entries. They count as comments, and all handles and
spans stay. -/
def Buffer.behind (buffer : Buffer) (count : Nat) : Buffer :=
  { buffer with entries := buffer.entries.mapIdx fun handle entry =>
      if handle ∈ buffer.significant.take count then { entry with kind := .comment } else entry }

/-- This is the name that a statement gives to its value. -/
def Statement.name? : Statement → Option String
  | assign _ name _ => some name
  | define _ name _ _ => some name
  | missing | expression _ => none

/-- A value is assigned to a name. When it is a function, it becomes a definition. -/
inductive Statement.Names (name : Token) : Expression → Statement → Prop where
  | define {span : Span} {param : String} {body : Expression} : Names name (.function span param body)
      (.define (name.span.around span) name.name param body)
  | assign {value : Expression} (other : ∀ span param body, value ≠ .function span param body) :
      Names name value (.assign (name.span.around value.extent) name.name value)

namespace Buffer

variable {buffer : Buffer} {count : Nat}

/-- The buffer behind some tokens has them as comments. -/
theorem entries_behind (handle : Handle) : (buffer.behind count).entries[handle]? =
    buffer.entries[handle]?.map fun entry =>
      if handle ∈ buffer.significant.take count then { entry with kind := .comment } else entry :=
  Array.getElem?_mapIdx

/-- All but the first handles are those that are not among the first. -/
theorem filter_significant (buffer : Buffer) (count : Nat) :
    (buffer.significant.filter fun handle => handle ∉ buffer.significant.take count) =
      buffer.significant.drop count := by
  have nodup : buffer.significant.Nodup := by
    rw [significant, State.significant_ofBuffer]
    exact List.nodup_range.filter _
  have apart := List.disjoint_take_drop nodup (Nat.le_refl count)
  have passed : (buffer.significant.take count).filter
      (fun handle => handle ∉ buffer.significant.take count) = [] := by
    rw [List.filter_eq_nil_iff]
    simp
  have left : (buffer.significant.drop count).filter
      (fun handle => handle ∉ buffer.significant.take count) = buffer.significant.drop count := by
    rw [List.filter_eq_self]
    intro handle member
    exact decide_eq_true fun first => apart first member
  have split := List.filter_append (p := fun handle => handle ∉ buffer.significant.take count)
    (buffer.significant.take count) (buffer.significant.drop count)
  rwa [List.take_append_drop, passed, left, List.nil_append] at split

/-- Only the first significant entries are no longer significant. -/
theorem significant_behind (buffer : Buffer) (count : Nat) :
    (buffer.behind count).significant = buffer.significant.drop count := by
  have size : (buffer.behind count).size = buffer.size := Array.size_mapIdx
  rw [← filter_significant, significant, State.significant_ofBuffer, size]
  conv_rhs => rw [significant, State.significant_ofBuffer, List.filter_filter]
  refine List.filter_congr fun handle _ => ?_
  rw [entries_behind, ← State.significant_ofBuffer, ← significant]
  cases buffer.entries[handle]? with
  | none => simp
  | some entry => by_cases passed : handle ∈ buffer.significant.take count <;> simp [passed]

/-- There are no more significant tokens behind some of them. -/
theorem size_behind (buffer : Buffer) (count : Nat) :
    (State.ofBuffer (buffer.behind count)).significant.size ≤ (State.ofBuffer buffer).significant.size := by
  have fewer := congrArg List.length (significant_behind buffer count)
  rw [List.length_drop, significant, significant, Array.length_toList, Array.length_toList] at fewer
  rw [fewer]
  exact Nat.sub_le _ _

/-- The tokens of all other entries stay the same. -/
theorem token_behind {handle : Handle} (other : handle ∉ buffer.significant.take count) :
    (buffer.behind count).token handle = buffer.token handle := by
  have same : (buffer.behind count).entry handle = buffer.entry handle := by
    rw [entry, entry, entries_behind]
    simp only [other, if_false, Option.map_id']
  rw [token, token, same]
  rfl

/-- A parse behind the first entries starts before the tokens of the others. -/
theorem facing_behind {tokens : List Token} (facing : (State.ofBuffer buffer).Facing tokens)
    (supply : Supply (tokens.drop count)) :
    (State.ofBuffer (buffer.behind count)).Facing (tokens.drop count) := by
  refine ⟨?_, supply⟩
  have ahead := facing.ahead
  change List.Forall₂ _ buffer.significant tokens at ahead
  change List.Forall₂ _ (buffer.behind count).significant _
  rw [significant_behind]
  have others : ∀ handle ∈ buffer.significant.drop count,
      handle ∉ buffer.significant.take count := by
    intro handle member
    rw [← filter_significant] at member
    exact of_decide_eq_true (List.mem_filter.1 member).2
  refine ((List.forall₂_and_left _ _).2 ⟨others, List.forall₂_drop count ahead⟩).imp ?_
  rintro handle token ⟨other, found⟩
  exact (token_behind other).trans found

end Buffer

/-- What is behind a token can be supplied. -/
theorem Supply.tail {token : Token} {tokens : List Token} (supply : Supply (token :: tokens))
    (some : tokens ≠ []) : Supply tokens := by
  cases supply with
  | last => exact absurd rfl some
  | more _ _ later => exact later

/-- A name and a value make one statement. -/
theorem Statement.names_iff {name : Token} {value : Expression} {statement : Statement} :
    Statement.Names name value statement ↔ statement = assigned name value := by
  constructor
  · intro names
    cases names with
    | define => rfl
    | assign other =>
        cases value with
        | function span param body => exact absurd rfl (other span param body)
        | _ => rfl
  · rintro rfl
    cases value with
    | function span param body => exact .define
    | _ => exact .assign fun _ _ _ => Expression.noConfusion

theorem Grammar.name?_assigned (name : Token) (value : Expression) :
    (assigned name value).name? = some name.name := by
  cases value <;> rfl

namespace Parser

variable {A : Type} {parser : Parser A} {tokens rest rest' : List Token} {value value' : A}
  {reports reports' : List Report} {state : State}

/-- A parser above another one yields whatever that one yields. -/
theorem Below.yields {above : Parser A} (below : parser.Below above)
    (yields : parser.Yields tokens value reports rest) : above.Yields tokens value reports rest := by
  intro state facing
  obtain ⟨next, outcome, reached⟩ := yields state facing
  have same := below state
  refine ⟨next, ?_, reached⟩
  rw [outcome] at same
  generalize above state = outcome' at same
  cases same
  rfl

/-- A parser yields only one value where it stands. -/
theorem Yields.unique (yields : parser.Yields tokens value reports rest)
    (yields' : parser.Yields tokens value' reports' rest') (facing : state.Facing tokens) :
    value = value' := by
  obtain ⟨next, outcome, _⟩ := yields state facing
  obtain ⟨next', outcome', _⟩ := yields' state facing
  rw [outcome] at outcome'
  cases outcome'
  rfl

variable {body : List Token} {final : Token} {Good : List Token → A → Prop}

/-- A parser that decides and accepts all tokens yields a good value on them. -/
theorem Decides.accepted (decides : parser.Decides (body ++ [final]).length Good)
    (facing : state.Facing (body ++ [final])) (ends : final.kind = .endOfInput)
    (accepts : Accepts parser (body ++ [final]) [final]) : ∃ value, Good body value ∧
      parser.Yields (body ++ [final]) value (numeralReports body) [final] := by
  rcases decides.whole facing with refuses | yields
  · exact absurd refuses (not_refuses_of_accepts accepts ends facing)
  · exact yields

/-- A parse succeeds with a value exactly when it yields this one on all tokens, and each number among
them has a value. -/
theorem run_ok_iff (facing : state.Facing (body ++ [final])) (ends : final.kind = .endOfInput)
    (fresh : state.reports = #[]) (decides : parser.Decides (body ++ [final]).length Good) :
    (parser.run state).1 = .ok value ↔ Good body value ∧ numeralReports body = [] ∧
      parser.Yields (body ++ [final]) value [] [final] := by
  constructor
  · intro found
    obtain ⟨good, quiet⟩ := run_good facing ends fresh decides found
    refine ⟨good, quiet, ?_⟩
    rcases decides.whole facing with refuses | ⟨value', _, yields⟩
    · refine absurd ?_ (run_refuses facing refuses)
      rw [found]
      trivial
    · rw [run_yields facing fresh yields ends, if_pos quiet] at found
      cases found
      rwa [quiet] at yields
  · rintro ⟨_, _, yields⟩
    rw [run_yields facing fresh yields ends, if_pos rfl]

end Parser

namespace Grammar

/-- An expression that nests deeper may be parsed as well, and nothing else changes. -/
theorem below_expressionWithin {depth deeper : Nat} (enough : depth ≤ deeper) :
    (expressionWithin depth).Below (expressionWithin deeper) := by
  induction depth generalizing deeper with
  | zero => exact fun _ => .fault
  | succ depth ih =>
      obtain ⟨less, rfl⟩ : ∃ less, deeper = less + 1 := ⟨deeper - 1, by omega⟩
      exact below_expressionRule (ih (Nat.le_of_succ_le_succ enough))

variable {expr : Parser Expression} {body : List Token} {final : Token} {state : State}

/-- Where a sentence stands, a statement is the expression. -/
theorem statementRule_expression {value : Expression} {reports : List Report}
    (derives : Derives .expression (body.map Token.kind)) (ends : final.kind = .endOfInput)
    (yields : expr.Yields (body ++ [final]) value reports [final]) :
    (statementRule expr).Yields (body ++ [final]) (.expression value) reports [final] := by
  exact (refuses_assignment derives (closed_endOfInput ends)).choice ((yields.map _).choice _)

/-- Behind a name and an equality sign, the statement assigns the expression. -/
theorem statementRule_assigned {name equal : Token} {tokens rest : List Token} {value : Expression}
    {reports : List Report} (isName : name.kind = .identifier) (isEqual : equal.kind = .equal)
    (yields : expr.Yields tokens value reports rest) :
    (statementRule expr).Yields (name :: equal :: tokens) (assigned name value) reports rest := by
  have whole := (yields_token isName (by decide) _).triple (yields_token isEqual (by decide) _) yields
    fun name _ value => assigned name value
  exact whole.choice _

end Grammar

namespace Buffer.StartsBefore

variable {buffer : Buffer} {body : List Token} {final : Token}

/-- The two parses of a buffer succeed with the values that their rules yield. -/
theorem parse_iff (starts : buffer.StartsBefore body final) :
    let expr := expressionWithin (depthBound (State.ofBuffer buffer))
    (∀ value, buffer.parseExpression = .ok value ↔ Gives .expression body value ∧
      numeralReports body = [] ∧ expr.Yields (body ++ [final]) value [] [final]) ∧
    ∀ statement, buffer.parseStatement = .ok statement ↔ BuildsStatement body statement ∧
      numeralReports body = [] ∧ (statementRule expr).Yields (body ++ [final]) statement [] [final] := by
  obtain ⟨expressions, statements⟩ := starts.decides
  rw [parseExpression, parseStatement, run_expression, run_statement]
  exact ⟨fun _ => run_ok_iff starts.facing starts.ends rfl expressions,
    fun _ => run_ok_iff starts.facing starts.ends rfl statements⟩

/-- An expression statement is parsed exactly where the expression is. -/
theorem expression_iff (starts : buffer.StartsBefore body final) (value : Expression) :
    buffer.parseStatement = .ok (.expression value) ↔ buffer.parseExpression = .ok value := by
  obtain ⟨expressions, statements⟩ := starts.parse_iff
  rw [expressions, statements]
  constructor
  · rintro ⟨builds, quiet, yields⟩
    generalize same : Statement.expression value = statement at builds
    cases builds with
    | @assignment name _ _ value' =>
        have named := name?_assigned name value'
        rw [← same] at named
        cases named
    | expression inner =>
        cases same
        obtain ⟨_, gives, yields'⟩ := starts.decides.1.accepted starts.facing starts.ends
          (accepts_expression _ inner.derives (closed_endOfInput starts.ends) starts.short)
        rw [quiet] at yields'
        have whole := statementRule_expression inner.derives starts.ends yields'
        cases yields.unique whole starts.facing
        exact ⟨gives, quiet, yields'⟩
  · rintro ⟨gives, quiet, yields⟩
    exact ⟨.expression gives, quiet, statementRule_expression gives.derives starts.ends yields⟩

section Behind

variable {name equal : Token} {word : List Token}

theorem facing_word (starts : buffer.StartsBefore (name :: equal :: word) final) :
    (State.ofBuffer (buffer.behind 2)).Facing (word ++ [final]) :=
  facing_behind starts.facing ((starts.facing.supply.tail (by simp)).tail (by simp))

/-- The parse behind a name and an equality sign is that of the same tokens inside of the whole. -/
theorem behind_iff (starts : buffer.StartsBefore (name :: equal :: word) final) (value : Expression) :
    let expr := expressionWithin (depthBound (State.ofBuffer buffer))
    (buffer.behind 2).parseExpression = .ok value ↔ Gives .expression word value ∧
      numeralReports word = [] ∧ expr.Yields (word ++ [final]) value [] [final] := by
  intro expr
  have facing := starts.facing_word
  have enough := facing.position_add
  have short : (word ++ [final]).length ≤ depthBound (State.ofBuffer (buffer.behind 2)) := by
    rw [depthBound]
    omega
  have decides := (decides_expressionWithin (depthBound (State.ofBuffer (buffer.behind 2)))).lower short
  -- Fewer tokens bound the depth behind the sign more tightly, which still is enough for all of them.
  have below : (expressionWithin (depthBound (State.ofBuffer (buffer.behind 2)))).Below expr :=
    below_expressionWithin (Nat.succ_le_succ (size_behind buffer 2))
  rw [parseExpression, run_expression, run_ok_iff facing starts.ends rfl decides]
  refine and_congr_right fun gives => and_congr_right fun quiet => ⟨below.yields, fun yields => ?_⟩
  obtain ⟨_, _, yields'⟩ := decides.accepted facing starts.ends
    (accepts_expression _ gives.derives (closed_endOfInput starts.ends) short)
  rw [quiet] at yields'
  cases yields.unique (below.yields yields') facing
  exact yields'

/-- Where an expression stands behind a name and an equality sign, the statement yields it. -/
theorem exists_assigned (starts : buffer.StartsBefore (name :: equal :: word) final)
    (derives : Derives .expression (word.map Token.kind)) :
    let expr := expressionWithin (depthBound (State.ofBuffer buffer))
    ∃ value, Gives .expression word value ∧
      expr.Yields (word ++ [final]) value (numeralReports word) [final] := by
  have short : (word ++ [final]).length ≤ depthBound (State.ofBuffer buffer) := by
    have whole := starts.short
    simp only [List.cons_append, List.length_cons] at whole
    omega
  exact ((decides_expressionWithin _).lower short).accepted starts.facing_word starts.ends
    (accepts_expression _ derives (closed_endOfInput starts.ends) short)

end Behind

/-- A value with a name is parsed exactly where an expression stands behind the name. -/
theorem named_iff (starts : buffer.StartsBefore body final) {statement : Statement} {text : String}
    (named : statement.name? = some text) : buffer.parseStatement = .ok statement ↔
      ∃ name equal rest value, body ++ [final] = name :: equal :: rest ∧ name.kind = .identifier ∧
        name.name = text ∧ equal.kind = .equal ∧ (buffer.behind 2).parseExpression = .ok value ∧
        Statement.Names name value statement := by
  have plain {name equal : Token} (word : List Token) (isName : name.kind = .identifier)
      (isEqual : equal.kind = .equal) :
      numeralReports (name :: equal :: word) = numeralReports word := by
    simp [numeralReports, isName, isEqual]
  rw [starts.parse_iff.2]
  constructor
  · rintro ⟨builds, quiet, yields⟩
    cases builds with
    | @assignment name equal word _ isName isEqual inner =>
        rw [plain word isName isEqual] at quiet
        obtain ⟨value, gives, yields'⟩ := starts.exists_assigned inner.derives
        rw [quiet] at yields'
        -- The parser is a function, so the statement that it yields is the assigned one.
        have same := yields.unique (statementRule_assigned isName isEqual yields') starts.facing
        rw [same, name?_assigned] at named
        exact ⟨name, equal, word ++ [final], value, rfl, isName, Option.some.inj named, isEqual,
          (starts.behind_iff value).2 ⟨gives, quiet, yields'⟩, Statement.names_iff.2 same⟩
    | expression inner => cases named
  · rintro ⟨name, equal, rest, value, split, isName, rfl, isEqual, parsed, names⟩
    obtain ⟨word, rfl, rfl⟩ : ∃ word, body = name :: equal :: word ∧ rest = word ++ [final] := by
      cases body with
      | nil => cases split
      | cons first later =>
          obtain ⟨rfl, behind⟩ := List.cons.inj split
          cases later with
          | nil =>
              have last := starts.ends
              rw [(List.cons.inj behind).1, isEqual] at last
              cases last
          | cons second word =>
              obtain ⟨rfl, rest_eq⟩ := List.cons.inj behind
              exact ⟨word, rfl, rest_eq.symm⟩
    obtain ⟨gives, quiet, yields⟩ := (starts.behind_iff value).1 parsed
    rw [Statement.names_iff.1 names]
    exact ⟨.assignment isName isEqual gives, (plain word isName isEqual).trans quiet,
      statementRule_assigned isName isEqual yields⟩

end Buffer.StartsBefore

/-- A text is parsed as an expression statement exactly when it is parsed as this expression. It is parsed
as a value with a name exactly when its significant tokens are the name, an equality sign and those of the
value. -/
theorem statement_entry (source : Bytes) :
    let buffer := (Reading.ofBytes source).buffer
    ∃ tokens, buffer.tokens = .ok tokens ∧
      (∀ value, buffer.parseStatement = .ok (.expression value) ↔ buffer.parseExpression = .ok value) ∧
      ∀ statement text, statement.name? = some text → (buffer.parseStatement = .ok statement ↔
        ∃ name equal rest value, significantTokens tokens = name :: equal :: rest ∧
          name.kind = .identifier ∧ name.name = text ∧ equal.kind = .equal ∧
          (buffer.behind 2).parseExpression = .ok value ∧ Statement.Names name value statement) := by
  obtain ⟨segments, tail, misreadings, cut⟩ := exists_cut .start source.glyphs
  obtain ⟨body, final, split, starts⟩ := cut.startsBefore
  refine ⟨_, cut.tokens, starts.expression_iff, fun statement text named => ?_⟩
  rw [split]
  exact starts.named_iff named

/-- A function in parentheses behind a comment becomes a definition. -/
theorem parenthesizedFunction_entry :
    let buffer := (Reading.ofBytes (encode "f -\x7bc\x7d- = (x: x)")).buffer
    let span (start stop : Int) : Span := ⟨⟨start, 1, start + 1⟩, ⟨stop, 1, stop + 1⟩⟩
    ∃ statement value, buffer.parseStatement = .ok statement ∧ statement.name? = some "f" ∧
      statement.span = .ok (span 0 15) ∧ statement.text = .ok "(def f x (var x))" ∧
      (buffer.behind 2).parseExpression = .ok value ∧ value.extent = span 11 15 ∧
      value.text = .ok "(fn x (var x))" := by
  intro buffer span
  obtain ⟨_, _, _, named⟩ := statement_entry (encode "f -\x7bc\x7d- = (x: x)")
  have stated : (match buffer.parseStatement with
      | .ok result => decide (result.name? = some "f" ∧ result.span = .ok (span 0 15) ∧
          result.text = .ok "(def f x (var x))")
      | .error _ => false) = true := by
    decide +kernel
  have valued : (match (buffer.behind 2).parseExpression with
      | .ok value => decide (value.extent = span 11 15 ∧ value.text = .ok "(fn x (var x))")
      | .error _ => false) = true := by
    decide +kernel
  split at stated
  case h_1 result parsed =>
    obtain ⟨name, place, text⟩ := of_decide_eq_true stated
    obtain ⟨_, _, _, value, _, _, _, _, behind, _⟩ := (named result "f" name).1 parsed
    have behind' : (buffer.behind 2).parseExpression = .ok value := behind
    rw [behind'] at valued
    obtain ⟨place', text'⟩ := of_decide_eq_true valued
    exact ⟨result, value, parsed, name, place, text, behind, place', text'⟩
  case h_2 => cases stated

end Reckon
