/-
This file shows that the outline grammar and the whole grammar agree: the nodes of a text are those of
its statement, and a plain statement has nodes.
-/

import Mathlib.Data.List.Nodup
import Reckon.Proofs.Outline.Serial
import Reckon.Proofs.Parse.Language

namespace Reckon

open Text Reckon.Parser

namespace Outline

variable {expr : Parser Unit} {bound : Nat}

/-- The target of an assignment is emitted behind its value. -/
theorem emits_assignment {name equal : Significant} {items rest : List Significant}
    {nodes : List Node} (isName : name.kind = .identifier) (isEqual : equal.kind = .equal)
    (emits : expr.Emits items nodes rest) :
    (assignment expr).Emits (name :: equal :: items)
      (equal.node .assignment :: (nodes ++ [name.node .assignmentTarget])) rest := by
  have joined : equal.node .assignment :: (nodes ++ [name.node .assignmentTarget]) =
      [] ++ [equal.node .assignment] ++ nodes ++ [name.node .assignmentTarget] := by simp
  rw [joined]
  apply emits_sequence
  refine (advances_deferred isName (by decide) _).inOrder
    ((advances_plain isEqual (by decide) _).inOrder (emits.advances.inOrder ?_))
  exact (advances_pop _).inOrder advances_nil

theorem declines_assignment_head {items : List Significant} (other : OtherHead .identifier items) :
    (assignment expr).Declines items :=
  declines_sequence ((declines_consume _ other _).stops.inOrder _)

/-- No assignment starts with a name without an equals sign behind it. -/
theorem declines_assignment_equal {name : Significant} {items : List Significant}
    (isName : name.kind = .identifier) (other : OtherHead .equal items) :
    (assignment expr).Declines (name :: items) :=
  declines_sequence (stops_inOrder (fun _ _ => ⟨_, _, advances_deferred isName (by decide) _⟩)
    ((declines_consume _ other _).stops.inOrder _))

/-- What the outline grammar consumes as a statement has an outline. -/
theorem settles_statement (settles : Settles expr bound (Shaped .expression)) :
    Settles (statementRule expr) bound
      fun items nodes => ∃ statement, OutlinedStatement items statement nodes := by
  apply settles_choice
  intro parser member
  simp only [List.mem_cons, List.not_mem_nil, or_false] at member
  rcases member with rfl | rfl
  · intro items short
    rcases head_or_other .identifier items with ⟨name, items, rfl, isName⟩ | other
    · rcases head_or_other .equal items with ⟨equal, items, rfl, isEqual⟩ | other
      · simp only [List.length_cons] at short
        rcases settles items (by omega) with
          declines | ⟨body, rest, nodes, rfl, ⟨value, outlined⟩, emits⟩
        · left
          exact declines_sequence (stops_inOrder
            (fun _ _ => ⟨_, _, advances_deferred isName (by decide) _⟩)
            (stops_inOrder (fun _ _ => ⟨_, _, advances_plain isEqual (by decide) _⟩)
              (declines.stops.inOrder _)))
        · exact .inr ⟨name :: equal :: body, rest, _, rfl, ⟨_, .assignment isName isEqual outlined⟩,
            emits_assignment isName isEqual emits⟩
      · exact .inl (declines_assignment_equal isName other)
    · exact .inl (declines_assignment_head other)
  · refine settles.imp ?_
    rintro consumed nodes ⟨value, outlined⟩
    exact ⟨.expression value, .expression outlined⟩

/-- An outlined expression is no assignment. -/
theorem declines_assignment {items rest : List Significant} {value : Expression} {nodes : List Node}
    (outlined : Outlined .expression items value nodes) (closing : Closing rest) :
    (assignment expr).Declines (items ++ rest) := by
  rcases outlined.function_or_sum with function | sum
  · cases function with
    | function isName isColon _ =>
        exact declines_assignment_equal isName (otherHead_cons isColon (by decide))
  · rcases sum.otherHeads closing with other | ⟨name, others, split, isName, _, notEqual⟩
    · exact declines_assignment_head other
    · rw [split]
      exact declines_assignment_equal isName notEqual

/-- The outline grammar accepts every outlined statement. -/
theorem exists_emits_statement {items rest : List Significant} {statement : Statement}
    {nodes : List Node} (outlined : OutlinedStatement items statement nodes) (closing : Closing rest)
    (depth : Nat) (short : (items ++ rest).length ≤ depth) :
    ∃ nodes', (statementRule (expressionWithin depth)).Emits (items ++ rest) nodes' rest := by
  cases outlined with
  | @assignment name equal items _ _ isName isEqual outlined =>
      simp only [List.cons_append, List.length_cons] at short ⊢
      obtain ⟨nodes', emits⟩ := (complete_expressionWithin depth (items.length + 1)).emits items rest
        _ _ (Nat.lt_succ_self _) outlined closing (by omega)
      exact ⟨_, (emits_assignment isName isEqual emits).choice _⟩
  | expression outlined =>
      obtain ⟨nodes', emits⟩ := (complete_expressionWithin depth (items.length + 1)).emits items rest
        _ _ (Nat.lt_succ_self _) outlined closing short
      exact ⟨_, (declines_assignment outlined closing).choice (emits.choice _)⟩

/-- The depth of a parse is fixed at its start. -/
theorem run_statement (state : State) : statement.run state =
    (statementRule (expressionWithin (state.significant.size + 1))).run state := by
  simp only [Parser.run, Parser.pair, Parser.attempt, Parser.andThen, statement]

end Outline

/-- The whole grammar reads every outlined statement. -/
theorem OutlinedStatement.yields {items rest : List Significant} {statement : Statement}
    {nodes : List Node} (outlined : OutlinedStatement items statement nodes) (closing : Closing rest)
    (depth : Nat) (short : (items ++ rest).length ≤ depth) :
    (Grammar.statementRule (Grammar.expressionWithin depth)).Yields (tokensOf (items ++ rest))
      statement [] (tokensOf rest) := by
  cases outlined with
  | @assignment name equal items value _ isName isEqual outlined =>
      simp only [List.cons_append, List.length_cons] at short
      have inner := outlined.reads.expression depth closing (by omega)
      have whole : (Grammar.assignment (Grammar.expressionWithin depth)).Yields
          (tokensOf (name :: equal :: (items ++ rest))) (Grammar.assigned name.token value) []
            (tokensOf rest) :=
        (yields_token isName (by decide) _).triple (yields_token isEqual (by decide) _) inner _
      exact whole.choice _
  | expression outlined =>
      have inner := outlined.reads.expression depth closing short
      have derives : Symbol.Derives .expression ((tokensOf items).map Token.kind) := by
        rw [List.map_map]
        exact outlined.derives
      have notAssignment : (Grammar.assignment (Grammar.expressionWithin depth)).Refuses
          (tokensOf (items ++ rest)) := by
        rw [tokensOf, List.map_append]
        exact Grammar.refuses_assignment derives closing
      exact notAssignment.choice ((inner.map _).choice _)

/-- A plain statement has an outline. -/
theorem exists_outlinedStatement {items : List Significant}
    (derives : Symbol.Derives .statement (items.map Significant.kind))
    (plain : PlainSentence (items.map Significant.kind)) :
    ∃ statement nodes, OutlinedStatement items statement nodes := by
  generalize kinds : items.map Significant.kind = sentence at derives plain
  cases derives with
  | statement_assignment derives =>
      cases derives with
      | assignment derives =>
          obtain ⟨name, _, rfl, isName, later⟩ := List.map_eq_cons_iff.1 kinds
          obtain ⟨equal, body, rfl, isEqual, rfl⟩ := List.map_eq_cons_iff.1 later
          obtain ⟨value, nodes, outlined⟩ := exists_outlined derives
            (plain.part ⟨[.identifier, .equal], [], by simp⟩)
          exact ⟨_, _, .assignment isName isEqual outlined⟩
  | statement_expression derives =>
      subst kinds
      obtain ⟨value, nodes, outlined⟩ := exists_outlined derives plain
      exact ⟨_, _, .expression outlined⟩

/-- This is a token that matters to a parse, with its handle, unless it is the end of input. -/
def Buffer.item? (buffer : Buffer) (handle : Handle) : Option Significant :=
  match buffer.token handle with
  | .ok token =>
      if token.kind = .comment ∨ token.kind = .endOfInput then none else some ⟨handle, token⟩
  | .error _ => none

/-- These are the tokens that matter to a parse, up to the end of input. -/
def Buffer.items (buffer : Buffer) : List Significant :=
  (List.range buffer.size).filterMap buffer.item?

namespace Buffer

variable {buffer : Buffer} {handle : Handle} {token : Token}

/-- A significant token has the handle that it was found by. -/
theorem item?_handle {item : Significant} (found : buffer.item? handle = some item) :
    item.handle = handle := by
  unfold item? at found
  split at found
  · split at found
    · cases found
    · cases found
      rfl
  · cases found

/-- No significant token has the handle of another one. -/
theorem items_nodup (buffer : Buffer) : (buffer.items.map Significant.handle).Nodup := by
  rw [items, List.map_filterMap]
  refine List.Nodup.filterMap (fun first second handle found found' => ?_) List.nodup_range
  obtain ⟨item, here, rfl⟩ := Option.map_eq_some_iff.1 found
  obtain ⟨item', here', same⟩ := Option.map_eq_some_iff.1 found'
  rw [← item?_handle here, ← item?_handle here', same]

/-- A token is significant for the state of a parse unless it is a comment. -/
theorem elim_entry (found : buffer.token handle = .ok token) :
    buffer.entries[handle]?.elim false (·.kind != .comment) = (token.kind != .comment) := by
  have kind := kind_of_token found
  unfold Buffer.kind entry at kind
  cases here : buffer.entries[handle]? with
  | none =>
      rw [here] at kind
      cases kind
  | some entry =>
      rw [here] at kind
      have same : entry.kind = token.kind := Except.ok.inj kind
      rw [Option.elim_some, same]

/-- The significant tokens are those that a state starts with. -/
theorem items_eq (buffer : Buffer) :
    buffer.items = (State.ofBuffer buffer).significant.toList.filterMap buffer.item? := by
  rw [State.significant_ofBuffer, List.filterMap_filter, items]
  refine List.filterMap_congr fun handle _ => ?_
  cases found : buffer.token handle with
  | error fault =>
      have none : buffer.item? handle = none := by rw [item?, found]
      rw [none, ite_self]
  | ok token =>
      rw [elim_entry found]
      by_cases comment : token.kind = .comment
      · rw [item?, found]
        simp [comment]
      · rw [if_pos (bne_iff_ne.2 comment)]

end Buffer

/-- Tokens that are found by their handles are significant tokens with these handles. -/
theorem exists_significant {buffer : Buffer} {handles : List Handle} {tokens : List Token}
    (found : List.Forall₂ (fun handle token => buffer.token handle = .ok token) handles tokens) :
    ∃ items : List Significant, items.map Significant.handle = handles ∧ tokensOf items = tokens ∧
      ∀ item ∈ items, buffer.token item.handle = .ok item.token := by
  induction found with
  | nil => exact ⟨[], rfl, rfl, by simp⟩
  | @cons handle token handles tokens first _ ih =>
      obtain ⟨items, rfl, rfl, all⟩ := ih
      exact ⟨⟨handle, token⟩ :: items, rfl, rfl, List.forall_mem_cons.2 ⟨first, all⟩⟩

/-- A parse starts before the items of its buffer and the end of input. -/
theorem State.Facing.faces {buffer : Buffer} {body : List Token} {final : Token}
    (facing : (State.ofBuffer buffer).Facing (body ++ [final])) (ends : final.kind = .endOfInput)
    (others : ∀ token ∈ body, token.kind ≠ .endOfInput) : ∃ last : Significant,
      last.kind = .endOfInput ∧ (State.ofBuffer buffer).Faces (buffer.items ++ [last]) ∧
        tokensOf buffer.items = body := by
  have ahead : List.Forall₂ (fun handle token => buffer.token handle = .ok token)
      (State.ofBuffer buffer).significant.toList (body ++ [final]) := facing.ahead
  obtain ⟨whole, handles, split, all⟩ := exists_significant ahead
  obtain ⟨items, single, rfl, rfl, same⟩ := List.map_eq_append_iff.1 split
  obtain ⟨last, rfl, rfl⟩ := List.map_eq_singleton_iff.1 same
  have item : ∀ found ∈ items, (buffer.item? ∘ Significant.handle) found = some found := by
    intro found member
    have token := all found (List.mem_append_left _ member)
    have kept : found.handle ∈ (State.ofBuffer buffer).significant.toList := by
      rw [← handles]
      exact List.mem_map_of_mem (List.mem_append_left _ member)
    rw [State.significant_ofBuffer, List.mem_filter, Buffer.elim_entry token, bne_iff_ne] at kept
    rw [Function.comp_apply, Buffer.item?, token]
    exact if_neg (not_or.2 ⟨kept.2, others _ (List.mem_map_of_mem member)⟩)
  have none : buffer.item? last.handle = none := by
    rw [Buffer.item?, all last (by simp)]
    exact if_pos (.inr ends)
  have same : buffer.items = items := by
    rw [Buffer.items_eq, ← handles, List.filterMap_map, List.filterMap_append,
      List.filterMap_congr item, List.filterMap_some]
    simp [none]
  refine ⟨last, ends, ⟨?_, ?_, fun _ member => absurd member (Array.not_mem_empty _)⟩, same ▸ rfl⟩
  · rw [same]
    change (State.ofBuffer buffer).Facing (tokensOf (items ++ [last]))
    rw [split]
    exact facing
  · rw [same]
    exact handles.symm

namespace Parser

variable {A : Type} {parser : Parser A} {items rest : List Significant} {nodes : List Node}
  {state : State}

/-- A parse that emits all nodes before the end of input succeeds. -/
theorem Emits.completes {final : Significant} (emits : parser.Emits items nodes [final])
    (faces : state.Faces items) (ends : final.kind = .endOfInput) :
    ∃ value next, pair parser endOfInput (fun value _ => value) state = .success value next ∧
      Emitted state nodes [] [final] next := by
  obtain ⟨value, next, outcome, emitted⟩ := emits state faces
  have atEnd : next.atEnd = .ok true := by rw [State.atEnd, emitted.faces.is, ends]; rfl
  refine ⟨value, next, ?_, emitted⟩
  simp only [pair, attempt, andThen, outcome, Parser.map, endOfInput, atEnd, succeed]

/-- A parser that emits up to the end of input runs without trouble. -/
theorem Emits.run {final : Significant} (emits : parser.Emits items nodes [final])
    (faces : state.Faces items) (fresh : state.reports = #[]) (ends : final.kind = .endOfInput) :
    ∃ value next, parser.run state = (.ok value, next) ∧ next.outline = state.outline ++ nodes := by
  obtain ⟨value, next, outcome, emitted⟩ := emits.completes faces ends
  refine ⟨value, next, ?_, emitted.outline⟩
  rw [Parser.run, outcome]
  simp only [emitted.reports, fresh]
  rfl

/-- A parse fails when a token is left before the end of input. -/
theorem Emits.fails {item : Significant} (emits : parser.Emits items nodes (item :: rest))
    (faces : state.Faces items) (goesOn : item.kind ≠ .endOfInput) :
    ∃ failed, pair parser endOfInput (fun value _ => value) state = .failure failed ∧
      state.SameBefore failed := by
  obtain ⟨value, next, outcome, emitted⟩ := emits state faces
  have notEnd : next.atEnd = .ok false := by
    rw [State.atEnd, emitted.faces.is, decide_eq_false goesOn]
  have extended : State.Extends state.stack.size state (next.expect Kind.endOfInput.name) :=
    emitted.extended.trans ((State.SameBefore.expect next _).extends emitted.extended.height)
  refine ⟨{ state with furthest := (next.expect Kind.endOfInput.name).furthest }, ?_, rfl⟩
  simp only [pair, attempt, andThen, outcome, Parser.map, endOfInput, notEnd]
  exact backtrack_extends extended

/-- A parser that declines fails without a trace. -/
theorem Declines.fails (declines : parser.Declines items) (faces : state.Faces items) :
    ∃ failed, pair parser endOfInput (fun value _ => value) state = .failure failed ∧
      state.SameBefore failed := by
  obtain ⟨failed, outcome, same⟩ := declines state faces
  refine ⟨{ state with furthest := failed.furthest }, ?_, rfl⟩
  simp only [pair, Parser.attempt, andThen, outcome]
  exact backtrack_extends (same.extends (Nat.le_refl _))

/-- A parse that fails gives an error. -/
theorem run_failure {failed : State}
    (failure : pair parser endOfInput (fun value _ => value) state = .failure failed) :
    ∃ error, (parser.run state).1 = .error error := by
  rw [Parser.run, failure]
  dsimp only
  split
  · exact ⟨_, rfl⟩
  · exact ⟨_, rfl⟩

end Parser

/-- The outline of a buffer is what the rule of statements has emitted at its end. -/
theorem Buffer.outline_eq (buffer : Buffer) :
    buffer.outline = (Outline.statement.run (State.ofBuffer buffer)).1.map fun _ =>
      (Outline.statement.run (State.ofBuffer buffer)).2.outline := by
  delta Buffer.outline
  cases Outline.statement.run (State.ofBuffer buffer)
  rfl

/-- A buffer has the nodes of an outline when all of its items are outlined. -/
theorem Buffer.outline_ok {buffer : Buffer} {final : Significant} {nodes : List Node}
    (faces : (State.ofBuffer buffer).Faces (buffer.items ++ [final]))
    (ends : final.kind = .endOfInput) (emits : (Outline.statementRule (Outline.expressionWithin
      ((State.ofBuffer buffer).significant.size + 1))).Emits (buffer.items ++ [final]) nodes [final]) :
    buffer.outline = .ok nodes := by
  obtain ⟨value, next, outcome, emitted⟩ := emits.run faces rfl ends
  rw [outline_eq, Outline.run_statement, outcome]
  exact congrArg Except.ok emitted

/-- The parse of a buffer fails, or all of its items are outlined. -/
theorem Buffer.fails_or_outlined {buffer : Buffer} {final : Significant}
    (faces : (State.ofBuffer buffer).Faces (buffer.items ++ [final])) {expr : Parser Unit} {bound : Nat}
    (settles : Outline.Settles expr bound (Outline.Shaped .expression))
    (enough : (State.ofBuffer buffer).significant.size ≤ bound) :
    (∃ failed, pair (Outline.statementRule expr) endOfInput (fun value _ => value) (.ofBuffer buffer) =
      .failure failed ∧ (State.ofBuffer buffer).SameBefore failed) ∨
    ∃ statement nodes, OutlinedStatement buffer.items statement nodes ∧
      (Outline.statementRule expr).Emits (buffer.items ++ [final]) nodes [final] := by
  have short := faces.tokens.position_add
  rw [List.length_map] at short
  rcases Outline.settles_statement settles (buffer.items ++ [final]) (by omega) with
    declines | ⟨consumed, rest, nodes, split, ⟨statement, outlined⟩, emits⟩
  · exact .inl (declines.fails faces)
  · obtain ⟨_, next, _, emitted⟩ := emits _ faces
    have supply := emitted.faces.tokens.supply
    rcases rest with _ | ⟨item, rest⟩
    · cases supply
    · rw [List.map_cons] at supply
      generalize tokens : rest.map Significant.token = others at supply
      cases supply with
      | last atEnd =>
          obtain rfl := List.map_eq_nil_iff.1 tokens
          obtain ⟨same, single⟩ := List.append_inj' split rfl
          obtain rfl := (List.cons.inj single).1
          exact .inr ⟨statement, nodes, same ▸ outlined, emits⟩
      | more goesOn _ _ => exact .inl (emits.fails faces goesOn)

/-- A buffer that has nodes is outlined as a statement with these nodes. -/
theorem Buffer.outlined_of_ok {buffer : Buffer} {final : Significant} {nodes : List Node}
    (faces : (State.ofBuffer buffer).Faces (buffer.items ++ [final]))
    (ends : final.kind = .endOfInput) (ok : buffer.outline = .ok nodes) :
    ∃ statement, OutlinedStatement buffer.items statement nodes := by
  rcases fails_or_outlined faces (Outline.settles_expressionWithin _) (Nat.le_succ _) with
    ⟨failed, fails, _⟩ | ⟨statement, nodes', outlined, emits⟩
  · obtain ⟨error, outcome⟩ := run_failure fails
    rw [outline_eq, Outline.run_statement, outcome] at ok
    cases ok
  · obtain rfl := Except.ok.inj ((outline_ok faces ends emits).symm.trans ok)
    exact ⟨statement, outlined⟩

/-- The grammars agree. A text that has nodes is a statement, and the nodes are those of the statement,
with the brackets between them. Each token plays a role in one node. And a plain statement has nodes. -/
theorem outline_agrees (source : Bytes) :
    (∀ nodes, (Reading.ofBytes source).buffer.outline = .ok nodes →
      ∃ statement, (Reading.ofBytes source).buffer.parseStatement = .ok statement ∧
        statement.Serial (unbracketed (Reading.ofBytes source).buffer.items) (bracketFree nodes) ∧
        EachPlays (Reading.ofBytes source).buffer.items nodes ∧
        ((Reading.ofBytes source).buffer.items.map Significant.handle).Nodup) ∧
    (PlainSentence (Reading.ofBytes source).buffer.sentence →
      ∀ statement, (Reading.ofBytes source).buffer.parseStatement = .ok statement →
        ∃ nodes, (Reading.ofBytes source).buffer.outline = .ok nodes) := by
  obtain ⟨segments, tail, misreadings, cut⟩ := exists_cut .start source.glyphs
  obtain ⟨body, final, _, starts⟩ := cut.startsBefore
  have sentence := starts.sentence
  obtain ⟨last, ends, faces, rfl⟩ := starts.facing.faces starts.ends starts.others
  rw [List.map_map] at sentence
  have closing : Closing [last] := ⟨last.token, [], rfl, by
    have same : last.token.kind = .endOfInput := ends
    rw [same]
    rfl⟩
  have short := faces.tokens.position_add
  rw [List.length_map] at short
  constructor
  · intro nodes ok
    obtain ⟨statement, outlined⟩ := Buffer.outlined_of_ok faces ends ok
    -- The items that were outlined are parsed as a tree at the depth that the whole parser uses.
    have yields := outlined.yields closing
      (Grammar.depthBound (State.ofBuffer (Reading.ofBytes source).buffer)) (by
        rw [Grammar.depthBound]
        omega)
    have parsed := run_yields faces.tokens rfl yields ends
    rw [if_pos rfl, ← Grammar.run_statement] at parsed
    exact ⟨statement, parsed, outlined.serial, outlined.eachPlays, Buffer.items_nodup _⟩
  · intro plain statement parsed
    have derives : Symbol.Derives .statement (Reading.ofBytes source).buffer.sentence := by
      rw [← starts.avoids_iff.2, parsed]
      trivial
    rw [sentence] at derives plain
    -- A plain sentence that derives a statement has an outline, and the outline parser emits it.
    obtain ⟨_, _, outlined⟩ := exists_outlinedStatement derives plain
    obtain ⟨nodes, emits⟩ := Outline.exists_emits_statement outlined closing
      ((State.ofBuffer (Reading.ofBytes source).buffer).significant.size + 1) (by omega)
    exact ⟨nodes, Buffer.outline_ok faces ends emits⟩

end Reckon
