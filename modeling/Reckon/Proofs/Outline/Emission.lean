/-
This file describes parsers by the nodes that they add to the output. A sequence is followed from the
state at its start, with the nodes that it added and the entries that it left on the shift stack.
-/

import Reckon.Parse.Outline
import Reckon.Proofs.Parse.Facing
import Reckon.Proofs.Parse.Position

namespace Reckon

/-- A significant token comes with its handle. -/
structure Significant where
  handle : Handle
  token : Token

def Significant.kind (item : Significant) : Kind := item.token.kind

/-- This is the node of a significant token in a role. -/
def Significant.node (item : Significant) (role : Role) : Node := ⟨role, item.handle⟩

def Record.node (record : Record) : Node := ⟨record.role, record.handle⟩

namespace State

/-- A state faces significant tokens, and it covers its stack. -/
structure Faces (state : State) (items : List Significant) : Prop where
  tokens : state.Facing (items.map Significant.token)
  handles : state.significant.toList.drop state.position = items.map Significant.handle
  covers : state.Covers

variable {state next : State} {item : Significant} {items : List Significant}

/-- The current handle is that of the first token ahead. -/
theorem Faces.current (faces : state.Faces (item :: items)) : state.current = .ok item.handle := by
  have inside := faces.tokens.position_add
  have place : min state.position (state.significant.size - 1) = state.position := by
    rw [List.map_cons, List.length_cons] at inside
    omega
  have here : state.significant[state.position]? = some item.handle := by
    rw [← Array.getElem?_toList, ← List.head?_drop, faces.handles]
    rfl
  rw [State.current, handleAt, place, here]

/-- The handle of a token ahead leads to the token. -/
theorem Faces.token (faces : state.Faces (item :: items)) :
    state.input.token item.handle = .ok item.token := by
  obtain ⟨handle, current, found, _⟩ := faces.tokens.current
  obtain rfl := Except.ok.inj (faces.current.symm.trans current)
  exact found

theorem Faces.is (faces : state.Faces (item :: items)) (kind : Kind) :
    state.is kind = .ok (decide (item.kind = kind)) := faces.tokens.is kind

theorem Faces.consumable (faces : state.Faces (item :: items)) (goesOn : item.kind ≠ .endOfInput) :
    state.consumable = .ok item.handle := by
  rw [State.consumable, atEnd, faces.is, decide_eq_false goesOn, faces.current]

theorem Faces.same {other : State} (faces : state.Faces items) (same : state.SameBefore other) :
    other.Faces items := by
  refine ⟨faces.tokens.same same, ?_, same.covers faces.covers⟩
  rw [same]
  exact faces.handles

/-- A state of the same input at the same position faces the same tokens. -/
theorem Faces.stay (faces : state.Faces items) (input : next.input = state.input)
    (significant : next.significant = state.significant)
    (moved : next.Covers ∧ next.position = state.position) : next.Faces items := by
  obtain ⟨covers, kept⟩ := moved
  refine ⟨⟨?_, faces.tokens.supply⟩, ?_, covers⟩
  · rw [input, significant, kept]
    exact faces.tokens.ahead
  · rw [significant, kept]
    exact faces.handles

/-- A state that moves on by one token faces the others. -/
theorem Faces.advance (faces : state.Faces (item :: items)) (goesOn : item.kind ≠ .endOfInput)
    (input : next.input = state.input) (significant : next.significant = state.significant)
    (moved : next.Covers ∧ next.position = state.position + 1) : next.Faces items := by
  obtain ⟨covers, further⟩ := moved
  obtain ⟨_, _, _, later⟩ := faces.tokens.current
  refine ⟨⟨?_, ?_⟩, ?_, covers⟩
  · rw [input, significant, further]
    exact later
  · obtain ⟨_, _, _, _, reached⟩ := faces.tokens.push goesOn .token
    exact reached.facing.supply
  · rw [significant, further, ← List.drop_drop, faces.handles]
    rfl

end State

/-- A state was reached from a base with some more nodes and with entries on top of the stack. -/
structure Emitted (base : State) (nodes shifted : List Node) (items : List Significant)
    (state : State) : Prop where
  faces : state.Faces items
  extended : State.Extends base.stack.size base state
  outline : state.outline = base.outline ++ nodes
  stack : state.stack.toList.map Record.node = base.stack.toList.map Record.node ++ shifted
  reports : state.reports = base.reports

namespace Emitted

variable {base state next : State} {nodes shifted : List Node} {item : Significant}
  {items : List Significant} {role : Role}

theorem refl (faces : state.Faces items) : Emitted state [] [] items state :=
  ⟨faces, .refl (Nat.le_refl _), by simp, by simp, rfl⟩

theorem same (emitted : Emitted base nodes shifted items state) (same : state.SameBefore next) :
    Emitted base nodes shifted items next := by
  refine ⟨emitted.faces.same same, emitted.extended.trans (same.extends emitted.extended.height), ?_,
    ?_, ?_⟩
  all_goals rw [same]
  · exact emitted.outline
  · exact emitted.stack
  · exact emitted.reports

theorem trans {nodes' shifted' : List Node} {items' : List Significant}
    (left : Emitted base nodes shifted items state)
    (right : Emitted state nodes' shifted' items' next) :
    Emitted base (nodes ++ nodes') (shifted ++ shifted') items' next where
  faces := right.faces
  extended := left.extended.trans (right.extended.lower left.extended.height)
  outline := by rw [right.outline, left.outline, List.append_assoc]
  stack := by rw [right.stack, left.stack, List.append_assoc]
  reports := right.reports.trans left.reports

/-- A token that is pushed becomes the last node. -/
theorem push (emitted : Emitted base nodes shifted (item :: items) state)
    (goesOn : item.kind ≠ .endOfInput) (role : Role) : ∃ next,
      state.push role = .ok (item.handle, next) ∧ next.input = state.input ∧
        Emitted base (nodes ++ [item.node role]) shifted items next := by
  have pushed : state.push role = .ok (item.handle, { state with
      nodes := state.nodes.push ⟨role, item.handle, state.position + 1⟩ }) := by
    rw [State.push, emitted.faces.consumable goesOn]
    rfl
  refine ⟨_, pushed, rfl, ?_⟩
  refine ⟨emitted.faces.advance goesOn rfl rfl (emitted.faces.covers.push pushed),
    emitted.extended.trans (State.extends_push pushed emitted.extended.height), ?_, emitted.stack,
    emitted.reports⟩
  rw [← List.append_assoc, ← emitted.outline]
  simp [State.outline, Significant.node]

/-- A token that is shifted becomes the top of the stack. -/
theorem shift (emitted : Emitted base nodes shifted (item :: items) state)
    (goesOn : item.kind ≠ .endOfInput) (role : Role) : ∃ next,
      state.shift role = .ok (item.handle, next) ∧ next.input = state.input ∧
        Emitted base nodes (shifted ++ [item.node role]) items next := by
  have put : state.shift role = .ok (item.handle, { state with
      stack := state.stack.push ⟨role, item.handle, state.position + 1⟩ }) := by
    rw [State.shift, emitted.faces.consumable goesOn]
    rfl
  refine ⟨_, put, rfl, ?_⟩
  refine ⟨emitted.faces.advance goesOn rfl rfl (emitted.faces.covers.shift put),
    emitted.extended.trans (State.extends_shift put emitted.extended.height), emitted.outline, ?_,
    emitted.reports⟩
  rw [← List.append_assoc, ← emitted.stack]
  simp [Record.node, Significant.node]

/-- The entry that was shifted last is popped first. -/
theorem pop {node : Node} (emitted : Emitted base nodes (shifted ++ [node]) items state) :
    ∃ next, state.pop = .ok next ∧ Emitted base (nodes ++ [node]) shifted items next := by
  have stack := emitted.stack
  rw [← List.append_assoc] at stack
  obtain ⟨entries, last, split, below, top⟩ := List.map_eq_append_iff.1 stack
  obtain ⟨record, rfl, rfl⟩ := List.map_eq_singleton_iff.1 top
  have found : state.stack.back? = some record := by
    rw [← Array.getLast?_toList, split, List.getLast?_concat]
  have popped : state.pop = .ok { state with
      nodes := state.nodes.push { record with position := state.position }
      stack := state.stack.pop } := by rw [State.pop, found]
  have above : base.stack.size < state.stack.size := by
    have length := congrArg List.length emitted.stack
    simp only [List.length_map, Array.length_toList, List.length_append, List.length_singleton]
      at length
    omega
  have moved := emitted.faces.covers.pop popped
  refine ⟨_, popped, emitted.faces.stay rfl rfl moved,
    emitted.extended.trans (State.extends_pop popped above), ?_, ?_, emitted.reports⟩
  · rw [← List.append_assoc, ← emitted.outline]
    simp [State.outline, Record.node]
  · rw [← below, Array.toList_pop, split, List.dropLast_concat]

/-- A mark becomes the last node, and its token stays ahead. -/
theorem mark (emitted : Emitted base nodes shifted (item :: items) state) (role : Role) :
    ∃ next, state.mark role = .ok next ∧
      Emitted base (nodes ++ [item.node role]) shifted (item :: items) next := by
  have marked : state.mark role = .ok { state with
      nodes := state.nodes.push ⟨role, item.handle, state.position⟩ } := by
    rw [State.mark, emitted.faces.current]
    rfl
  refine ⟨_, marked, ?_⟩
  refine ⟨emitted.faces.stay rfl rfl (emitted.faces.covers.mark marked),
    emitted.extended.trans (State.extends_mark marked emitted.extended.height), ?_, emitted.stack,
    emitted.reports⟩
  rw [← List.append_assoc, ← emitted.outline]
  simp [State.outline, Significant.node]

end Emitted

namespace Parser

variable {A B : Type}

/-- A parser emits nodes on significant tokens, and leaves the rest. -/
def Emits (parser : Parser A) (items : List Significant) (nodes : List Node)
    (rest : List Significant) : Prop :=
  ∀ state : State, state.Faces items →
    ∃ value next, parser state = .success value next ∧ Emitted state nodes [] rest next

/-- A parser declines significant tokens when it fails on them without a trace. -/
def Declines (parser : Parser A) (items : List Significant) : Prop :=
  ∀ state : State, state.Faces items →
    ∃ failed, parser state = .failure failed ∧ state.SameBefore failed

/-- A part of a sequence advances what the sequence has emitted and shifted so far. -/
def Advances (parser : Parser A) (nodes shifted : List Node) (items : List Significant)
    (nodes' shifted' : List Node) (rest : List Significant) : Prop :=
  ∀ base state : State, Emitted base nodes shifted items state →
    ∃ value next, parser state = .success value next ∧ Emitted base nodes' shifted' rest next

/-- A part of a sequence stops it, whatever it has emitted and shifted so far. -/
def Stops (parser : Parser A) (items : List Significant) : Prop :=
  ∀ (base state : State) (nodes shifted : List Node), Emitted base nodes shifted items state →
    ∃ failed, parser state = .failure failed ∧ State.Extends base.stack.size base failed

variable {parser : Parser A} {nodes nodes' shifted shifted' : List Node} {item : Significant}
  {items between rest : List Significant}

/-- What a parser emits comes behind what was emitted before. -/
theorem Emits.advances (emits : parser.Emits items nodes' rest) :
    parser.Advances nodes shifted items (nodes ++ nodes') shifted rest := by
  intro base state emitted
  obtain ⟨value, next, outcome, emitted'⟩ := emits state emitted.faces
  have both := emitted.trans emitted'
  rw [List.append_nil] at both
  exact ⟨value, next, outcome, both⟩

/-- A part that declines stops its sequence. -/
theorem Declines.stops (declines : parser.Declines items) : parser.Stops items := by
  intro base state nodes shifted emitted
  obtain ⟨failed, outcome, same⟩ := declines state emitted.faces
  exact ⟨failed, outcome, (emitted.same same).extended⟩

/-- What is emitted does not depend on the value. -/
theorem advances_discard (advances : parser.Advances nodes shifted items nodes' shifted' rest) :
    (discard parser).Advances nodes shifted items nodes' shifted' rest := by
  intro base state emitted
  obtain ⟨value, next, outcome, emitted'⟩ := advances base state emitted
  exact ⟨(), next, by rw [discard, Parser.map, Parser.andThen, outcome]; rfl, emitted'⟩

/-- A token of the kind becomes a node. -/
theorem advances_plain {kind : Kind} (same : item.kind = kind) (goesOn : kind ≠ .endOfInput)
    (role : Role) : (Outline.plain kind role).Advances nodes shifted (item :: items)
      (nodes ++ [item.node role]) shifted items := by
  apply advances_discard
  intro base state emitted
  obtain ⟨next, pushed, input, emitted'⟩ := emitted.push (same ▸ goesOn) role
  refine ⟨item.token, next, ?_, emitted'⟩
  have found : next.input.token item.handle = .ok item.token := by
    rw [input]
    exact emitted.faces.token
  rw [emit, consume]
  simp only [emitted.faces.is, same, decide_true, pushed, found]

/-- A token of the kind is put on the stack as a node. -/
theorem advances_deferred {kind : Kind} (same : item.kind = kind) (goesOn : kind ≠ .endOfInput)
    (role : Role) : (Outline.deferred kind role).Advances nodes shifted (item :: items)
      nodes (shifted ++ [item.node role]) items := by
  apply advances_discard
  intro base state emitted
  obtain ⟨next, put, input, emitted'⟩ := emitted.shift (same ▸ goesOn) role
  refine ⟨item.token, next, ?_, emitted'⟩
  have found : next.input.token item.handle = .ok item.token := by
    rw [input]
    exact emitted.faces.token
  rw [defer, consume]
  simp only [emitted.faces.is, same, decide_true, put, found]

/-- The top of the stack moves behind the nodes. -/
theorem advances_pop (node : Node) :
    pop.Advances nodes (shifted ++ [node]) items (nodes ++ [node]) shifted items := by
  intro base state emitted
  obtain ⟨next, popped, emitted'⟩ := emitted.pop
  exact ⟨(), next, by rw [pop, change, popped], emitted'⟩

/-- A mark is a node for the token ahead. -/
theorem advances_mark (role : Role) : (mark role).Advances nodes shifted (item :: items)
    (nodes ++ [item.node role]) shifted (item :: items) := by
  intro base state emitted
  obtain ⟨next, marked, emitted'⟩ := emitted.mark role
  exact ⟨(), next, by rw [mark, change, marked], emitted'⟩

theorem declines_nil (parser : Parser A) : parser.Declines [] := by
  intro state faces
  cases faces.tokens.supply

/-- The first significant token is of another kind, if there is one. -/
def OtherHead (kind : Kind) (items : List Significant) : Prop :=
  ∀ item ∈ items.head?, item.kind ≠ kind

/-- The first token ahead is of the given kind, or it is not. -/
theorem head_or_other (kind : Kind) (items : List Significant) :
    (∃ item rest, items = item :: rest ∧ item.kind = kind) ∨ OtherHead kind items := by
  cases items with
  | nil => exact .inr fun item member => absurd member (Option.not_mem_none item)
  | cons item rest =>
      by_cases same : item.kind = kind
      · exact .inl ⟨item, rest, rfl, same⟩
      · refine .inr ?_
        rintro _ ⟨⟩
        exact same

/-- A token of another kind is not consumed. -/
theorem declines_consume (operation : State → Role → Except Fault (Handle × State)) {kind : Kind}
    (other : OtherHead kind items) (role : Role) :
    (discard (consume operation kind role)).Declines items := by
  cases items with
  | nil => exact declines_nil _
  | cons item items =>
      intro state faces
      refine ⟨state.expect kind.name, ?_, .expect state kind.name⟩
      rw [discard, Parser.map, Parser.andThen, consume]
      simp only [faces.is, decide_eq_false (other item rfl)]

/-- Nothing advances without a token ahead. -/
theorem advances_never (parser : Parser A) : parser.Advances nodes shifted [] nodes' shifted' rest := by
  intro base state emitted
  cases emitted.faces.tokens.supply

theorem Advances.emits (advances : parser.Advances [] [] items nodes [] rest) :
    parser.Emits items nodes rest := fun state faces => advances state state (.refl faces)

/-- The parts of a sequence advance one after the other. -/
theorem Advances.inOrder {parsers : List (Parser A)} {last : List Significant}
    {nodes'' shifted'' : List Node} (first : parser.Advances nodes shifted items nodes' shifted' rest)
    (later : (Parser.inOrder parsers).Advances nodes' shifted' rest nodes'' shifted'' last) :
    (Parser.inOrder (parser :: parsers)).Advances nodes shifted items nodes'' shifted'' last := by
  intro base state emitted
  obtain ⟨value, middle, outcome, emitted'⟩ := first base state emitted
  obtain ⟨values, next, outcome', emitted''⟩ := later base middle emitted'
  refine ⟨value :: values, next, ?_, emitted''⟩
  rw [Parser.inOrder, Parser.andThen, outcome]
  dsimp only
  rw [Parser.map, Parser.andThen, outcome']
  rfl

theorem advances_nil : (inOrder [] : Parser (List A)).Advances nodes shifted items nodes shifted items :=
  fun _ state emitted => ⟨[], state, rfl, emitted⟩

/-- A sequence stops with its first part. -/
theorem Stops.inOrder (stops : parser.Stops items) (parsers : List (Parser A)) :
    (Parser.inOrder (parser :: parsers)).Stops items := by
  intro base state nodes shifted emitted
  obtain ⟨failed, outcome, extended⟩ := stops base state nodes shifted emitted
  exact ⟨failed, by rw [Parser.inOrder, Parser.andThen, outcome], extended⟩

/-- A sequence stops with a later part. -/
theorem stops_inOrder {parsers : List (Parser A)}
    (first : ∀ nodes shifted, ∃ nodes' shifted',
      parser.Advances nodes shifted items nodes' shifted' rest)
    (later : (inOrder parsers).Stops rest) : (inOrder (parser :: parsers)).Stops items := by
  intro base state nodes shifted emitted
  obtain ⟨nodes', shifted', advances⟩ := first nodes shifted
  obtain ⟨value, middle, outcome, emitted'⟩ := advances base state emitted
  obtain ⟨failed, outcome', extended⟩ := later base middle nodes' shifted' emitted'
  refine ⟨failed, ?_, extended⟩
  rw [inOrder, Parser.andThen, outcome]
  dsimp only
  rw [Parser.map, Parser.andThen, outcome']

/-- A sequence emits what its parts add up to when they pop all that they shifted. -/
theorem emits_sequence {parsers : List (Parser A)}
    (advances : (inOrder parsers).Advances [] [] items nodes [] rest) :
    (discard (sequence parsers)).Emits items nodes rest := by
  intro state faces
  obtain ⟨values, next, outcome, emitted⟩ := advances state state (.refl faces)
  exact ⟨(), next, by rw [discard, Parser.map, Parser.andThen, sequence, attempt, outcome]; rfl, emitted⟩

/-- A sequence that stops returns to where it began. -/
theorem declines_sequence {parsers : List (Parser A)} (stops : (inOrder parsers).Stops items) :
    (discard (sequence parsers)).Declines items := by
  intro state faces
  obtain ⟨failed, outcome, extended⟩ := stops state state [] [] (.refl faces)
  refine ⟨{ state with furthest := failed.furthest }, ?_, rfl⟩
  rw [discard, Parser.map, Parser.andThen, sequence, attempt, outcome]
  dsimp only
  rw [backtrack_extends extended]

/-- An attempt of what declines declines. -/
theorem Declines.attempt (declines : parser.Declines items) : parser.attempt.Declines items := by
  intro state faces
  obtain ⟨failed, outcome, same⟩ := declines state faces
  refine ⟨{ state with furthest := failed.furthest }, ?_, rfl⟩
  rw [Parser.attempt, outcome]
  exact backtrack_extends (same.extends (Nat.le_refl _))

/-- The first alternative is taken when it emits. -/
theorem Emits.choice (emits : parser.Emits items nodes rest) (others : List (Parser A)) :
    (choice (parser :: others)).Emits items nodes rest := by
  intro state faces
  obtain ⟨value, next, outcome, emitted⟩ := emits state faces
  exact ⟨value, next, by simp only [Parser.choice, Parser.attempt, outcome], emitted⟩

/-- An alternative that declines leaves the choice to the others. -/
theorem Declines.choice {others : List (Parser A)} (declines : parser.Declines items)
    (emits : (choice others).Emits items nodes rest) :
    (choice (parser :: others)).Emits items nodes rest := by
  intro state faces
  obtain ⟨failed, outcome, same⟩ := declines.attempt state faces
  obtain ⟨value, next, outcome', emitted⟩ := emits failed (faces.same same)
  refine ⟨value, next, by simp only [Parser.choice, outcome, outcome'], ?_⟩
  have before : Emitted state [] [] items failed := (Emitted.refl faces).same same
  exact before.trans emitted

/-- A choice declines when all alternatives do. -/
theorem Declines.choice_cons {others : List (Parser A)} (first : parser.Declines items)
    (second : (Parser.choice others).Declines items) :
    (Parser.choice (parser :: others)).Declines items := by
  intro state faces
  obtain ⟨failed, outcome, same⟩ := first.attempt state faces
  obtain ⟨final, outcome', same'⟩ := second failed (faces.same same)
  exact ⟨final, by simp only [Parser.choice, outcome, outcome'], same.trans same'⟩

theorem declines_choice_nil (items : List Significant) : (choice [] : Parser A).Declines items :=
  fun state _ => ⟨state, rfl, rfl⟩

end Parser

end Reckon
