/-
This file lays the output of a parse out in three columns: the roles, the handles and the positions of its
nodes. Every operation adds to all columns or cuts all of them, so it does what it does to the nodes.
-/

import Reckon.Proofs.Parse.Lockstep
import Reckon.Proofs.Parse.Operations

namespace Reckon

/-- These are the parts of a parse, with a column for each part of an output node. -/
structure Columns where
  input : Buffer
  significant : Array Handle
  roles : Array Role
  handles : Array Handle
  positions : Array Nat
  stack : Array Record
  reports : Array Report
  furthest : Option Failure

namespace Columns

/-- These are the columns before the first significant token. -/
def ofBuffer (input : Buffer) : Columns where
  input := input
  significant := (State.ofBuffer input).significant
  roles := #[]
  handles := #[]
  positions := #[]
  stack := #[]
  reports := #[]
  furthest := none

/-- The roles stand for the nodes where these are counted. -/
def save (columns : Columns) : Save :=
  ⟨columns.roles.size, columns.stack.size, columns.reports.size⟩

/-- This returns to a save. Every column is cut by itself. -/
def restore (columns : Columns) (save : Save) : Except Fault Columns :=
  if columns.stack.size < save.stack then .error .restoredPastPop
  else do
    let roles ← State.cutTo columns.roles save.nodes
    let handles ← State.cutTo columns.handles save.nodes
    let positions ← State.cutTo columns.positions save.nodes
    let stack ← State.cutTo columns.stack save.stack
    let reports ← State.cutTo columns.reports save.reports
    return { columns with roles, handles, positions, stack, reports }

/-- The position is the last one of its column, or the one on top of the stack. -/
def position (columns : Columns) : Nat :=
  max (columns.positions.back?.getD 0) (State.lastPosition columns.stack)

def current (columns : Columns) : Except Fault Handle :=
  match columns.significant[min columns.position (columns.significant.size - 1)]? with
  | some handle => .ok handle
  | none => .error .outOfBounds

/-- The current token can be consumed unless it is the end of input. -/
def consumable (columns : Columns) : Except Fault Handle :=
  match columns.current with
  | .error fault => .error fault
  | .ok handle =>
      match columns.input.kind handle with
      | .error fault => .error fault
      | .ok kind => if kind = .endOfInput then .error .consumedPastEnd else .ok handle

/-- This adds a node to all columns. -/
def append (columns : Columns) (role : Role) (handle : Handle) (position : Nat) : Columns :=
  { columns with
    roles := columns.roles.push role
    handles := columns.handles.push handle
    positions := columns.positions.push position }

/-- This consumes the current token as an output node. -/
def push (columns : Columns) (role : Role) : Except Fault (Handle × Columns) :=
  columns.consumable.map fun handle => (handle, columns.append role handle (columns.position + 1))

/-- This consumes the current token and puts it on the shift stack. -/
def shift (columns : Columns) (role : Role) : Except Fault (Handle × Columns) :=
  columns.consumable.map fun handle =>
    (handle, { columns with stack := columns.stack.push ⟨role, handle, columns.position + 1⟩ })

def pop (columns : Columns) : Except Fault Columns :=
  match columns.stack.back? with
  | some top =>
      .ok ({ columns with stack := columns.stack.pop }.append top.role top.handle columns.position)
  | none => .error .poppedEmptyStack

def mark (columns : Columns) (role : Role) : Except Fault Columns :=
  columns.current.map fun handle => columns.append role handle columns.position

def report (columns : Columns) (report : Report) : Columns :=
  { columns with reports := columns.reports.push report }

def expect (columns : Columns) (what : String) : Columns :=
  let position := columns.position
  match columns.furthest with
  | none => { columns with furthest := some ⟨position, [what]⟩ }
  | some furthest =>
      if furthest.position < position then
        { columns with furthest := some ⟨position, [what]⟩ }
      else if position = furthest.position && !furthest.expected.contains what then
        { columns with furthest := some ⟨position, furthest.expected ++ [what]⟩ }
      else columns

/-- The node at an index has its role, and a handle that is found at the same index. -/
def node (columns : Columns) (role : Role) (index : Nat) : Except Fault Node :=
  match columns.handles[index]? with
  | some handle => .ok ⟨role, handle⟩
  | none => .error .outOfBounds

/-- These are the output nodes so far. -/
def outline (columns : Columns) : Except Fault (List Node) :=
  columns.roles.toList.zipIdx.mapM fun (role, index) => columns.node role index

/-- Columns show a state when each of them is a part of its nodes. -/
structure Shows (columns : Columns) (state : State) : Prop where
  input : columns.input = state.input
  significant : columns.significant = state.significant
  roles : columns.roles = state.nodes.map Record.role
  handles : columns.handles = state.nodes.map Record.handle
  positions : columns.positions = state.nodes.map Record.position
  stack : columns.stack = state.stack
  reports : columns.reports = state.reports
  furthest : columns.furthest = state.furthest

theorem shows_ofBuffer (buffer : Buffer) : (ofBuffer buffer).Shows (.ofBuffer buffer) :=
  ⟨rfl, rfl, Array.map_empty.symm, Array.map_empty.symm, Array.map_empty.symm, rfl, rfl, rfl⟩

variable {columns : Columns} {state : State}

theorem Shows.save (shows : columns.Shows state) : columns.save = state.save := by
  rw [Columns.save, State.save, shows.roles, Array.size_map, shows.stack, shows.reports]

/-- The columns are at the same position. -/
theorem Shows.position (shows : columns.Shows state) : columns.position = state.position := by
  have last : (state.nodes.map Record.position).back?.getD 0 = State.lastPosition state.nodes := by
    rw [State.lastPosition, Array.back?_map]
    cases state.nodes.back? <;> rfl
  rw [Columns.position, State.position, shows.positions, last, shows.stack]

theorem Shows.current (shows : columns.Shows state) : columns.current = state.current := by
  have same : columns.significant[min columns.position (columns.significant.size - 1)]? =
      state.significant[min state.position (state.significant.size - 1)]? := by
    rw [shows.position, shows.significant]
  cases found : state.significant[min state.position (state.significant.size - 1)]? with
  | some handle => rw [Columns.current, State.current, State.handleAt, same, found]
  | none => rw [Columns.current, State.current, State.handleAt, same, found]

/-- The same token can be consumed. -/
theorem Shows.consumable (shows : columns.Shows state) : columns.consumable = state.consumable := by
  rw [Columns.consumable, State.consumable, State.atEnd, State.is, State.kind, shows.current, shows.input]
  cases state.current with
  | error fault => rfl
  | ok handle =>
      dsimp only
      cases state.input.kind handle with
      | error fault => rfl
      | ok kind =>
          dsimp only [Except.map]
          by_cases last : kind = .endOfInput
          · rw [if_pos last, decide_eq_true last]
          · rw [if_neg last, decide_eq_false last]

/-- A node that is added to all columns is added to the output. -/
theorem Shows.append (shows : columns.Shows state) (record : Record) :
    (columns.append record.role record.handle record.position).Shows
      { state with nodes := state.nodes.push record } where
  input := shows.input
  significant := shows.significant
  roles := by simp [Columns.append, shows.roles]
  handles := by simp [Columns.append, shows.handles]
  positions := by simp [Columns.append, shows.positions]
  stack := shows.stack
  reports := shows.reports
  furthest := shows.furthest

/-- Both consume the same token. -/
theorem Shows.push (shows : columns.Shows state) (role : Role) :
    Matched (fun pushed found => pushed.1 = found.1 ∧ pushed.2.Shows found.2)
      (columns.push role) (state.push role) := by
  rw [Columns.push, State.push, shows.consumable, shows.position]
  cases state.consumable with
  | error fault => exact .error fault
  | ok handle => exact .ok ⟨rfl, shows.append ⟨role, handle, state.position + 1⟩⟩

/-- The same token is put on the shift stack. -/
theorem Shows.shift (shows : columns.Shows state) (role : Role) :
    Matched (fun shifted found => shifted.1 = found.1 ∧ shifted.2.Shows found.2)
      (columns.shift role) (state.shift role) := by
  rw [Columns.shift, State.shift, shows.consumable, shows.position]
  cases state.consumable with
  | error fault => exact .error fault
  | ok handle => exact .ok ⟨rfl, { shows with stack := by rw [shows.stack] }⟩

/-- The top of the stack moves to the end of every column. -/
theorem Shows.pop (shows : columns.Shows state) : Matched Shows columns.pop state.pop := by
  rw [Columns.pop, State.pop, shows.position, shows.stack]
  cases state.stack.back? with
  | none => exact .error _
  | some top =>
      have lower : Shows { columns with stack := state.stack.pop } { state with stack := state.stack.pop } :=
        { shows with stack := rfl }
      exact .ok (lower.append { top with position := state.position })

/-- A mark is added to every column. -/
theorem Shows.mark (shows : columns.Shows state) (role : Role) :
    Matched Shows (columns.mark role) (state.mark role) := by
  rw [Columns.mark, State.mark, shows.current, shows.position]
  cases state.current with
  | error fault => exact .error fault
  | ok handle => exact .ok (shows.append ⟨role, handle, state.position⟩)

/-- The part of an array is cut as the array is. -/
theorem cutTo_map {A B : Type} (part : A → B) (items : Array A) (size : Nat) :
    State.cutTo (items.map part) size = (State.cutTo items size).map (Array.map part) := by
  rw [State.cutTo, State.cutTo, Array.size_map]
  split
  · rw [Except.map]
    congr 1
    apply Array.ext'
    simp
  · rfl

/-- The columns are cut at the same size, so they stay in step. -/
theorem Shows.restore (shows : columns.Shows state) (save : Save) :
    Matched Shows (columns.restore save) (state.restore save) := by
  rw [Columns.restore, State.restore, shows.stack, shows.roles, shows.handles, shows.positions, shows.reports]
  simp only [cutTo_map]
  split
  · exact .error _
  · cases State.cutTo state.nodes save.nodes with
    | error fault => exact .error fault
    | ok nodes =>
        cases State.cutTo state.stack save.stack with
        | error fault => exact .error fault
        | ok stack =>
            cases State.cutTo state.reports save.reports with
            | error fault => exact .error fault
            | ok reports =>
                exact .ok ⟨shows.input, shows.significant, rfl, rfl, rfl, rfl, rfl, shows.furthest⟩

theorem Shows.report (shows : columns.Shows state) (report : Report) :
    (columns.report report).Shows (state.report report) :=
  { shows with reports := by rw [Columns.report, State.report, shows.reports] }

/-- The same is expected at the same position. -/
theorem Shows.expect (shows : columns.Shows state) (what : String) :
    (columns.expect what).Shows (state.expect what) := by
  unfold Columns.expect State.expect
  rw [shows.position, shows.furthest]
  dsimp only
  cases state.furthest with
  | none => exact { shows with furthest := rfl }
  | some furthest =>
      dsimp only
      split_ifs
      · exact { shows with furthest := rfl }
      · exact { shows with furthest := rfl }
      · exact shows

/-- Every role of the output has its handle. -/
theorem Shows.outline (shows : columns.Shows state) : columns.outline = .ok state.outline := by
  have found (entry : Record × Nat) (member : entry ∈ state.nodes.toList.zipIdx) :
      columns.node entry.1.role entry.2 = .ok ⟨entry.1.role, entry.1.handle⟩ := by
    have here := List.mem_zipIdx_iff_getElem?.1 member
    rw [Array.getElem?_toList] at here
    rw [node, shows.handles, Array.getElem?_map, here]
    rfl
  have listed : state.nodes.toList.zipIdx.map (fun entry => entry.1) = state.nodes.toList :=
    List.zipIdx_map_fst 0 _
  rw [Columns.outline, shows.roles, Array.toList_map, List.zipIdx_map, List.mapM_map]
  refine (mapM_found _ _ found).trans (congrArg Except.ok ?_)
  rw [State.outline, ← listed, List.map_map, listed]
  rfl

end Columns

/-- A layout has come to its columns, and it remembers the saves that it took in order. -/
structure Layout where
  columns : Columns
  saves : List Save

namespace Layout

def start (buffer : Buffer) : Layout := ⟨.ofBuffer buffer, []⟩

/-- This performs an operation on the columns, unless it breaks a rule of them. -/
def perform (layout : Layout) : Operation → Except Fault Layout
  | .push role => (layout.columns.push role).map fun (_, columns) => { layout with columns }
  | .shift role => (layout.columns.shift role).map fun (_, columns) => { layout with columns }
  | .pop => layout.columns.pop.map fun columns => { layout with columns }
  | .mark role => (layout.columns.mark role).map fun columns => { layout with columns }
  | .report report => .ok { layout with columns := layout.columns.report report }
  | .expect what => .ok { layout with columns := layout.columns.expect what }
  | .save => .ok { layout with saves := layout.saves ++ [layout.columns.save] }
  | .restore number =>
      match layout.saves[number]? with
      | some save => (layout.columns.restore save).map fun columns => { layout with columns }
      | none => .error .outOfBounds

def performAll (layout : Layout) : List Operation → Except Fault Layout
  | [] => .ok layout
  | operation :: operations =>
      match layout.perform operation with
      | .ok next => next.performAll operations
      | .error fault => .error fault

/-- A layout shows a run when its columns show the state, and it took the same saves. -/
structure Shows (layout : Layout) (run : Run) : Prop where
  columns : layout.columns.Shows run.state
  saves : layout.saves = run.saves

theorem shows_start (buffer : Buffer) : (start buffer).Shows (Run.start buffer) :=
  ⟨Columns.shows_ofBuffer buffer, rfl⟩

variable {layout : Layout} {run : Run}

/-- A layout that takes over changed columns shows the run that takes over what they show. -/
theorem Shows.changed {columns : Except Fault Columns} {state : Except Fault State}
    (shows : layout.Shows run) (matched : Matched Columns.Shows columns state) :
    Matched Shows (columns.map fun columns => { layout with columns })
      (state.map fun state => { run with state }) :=
  matched.map fun _ _ here => ⟨here, shows.saves⟩

/-- An operation on the columns is the one on the nodes, fault by fault. -/
theorem Shows.perform (shows : layout.Shows run) (operation : Operation) :
    Matched Shows (layout.perform operation) (run.perform operation) := by
  cases operation with
  | push role => exact (shows.columns.push role).map fun _ _ here => ⟨here.2, shows.saves⟩
  | shift role => exact (shows.columns.shift role).map fun _ _ here => ⟨here.2, shows.saves⟩
  | pop => exact shows.changed shows.columns.pop
  | mark role => exact shows.changed (shows.columns.mark role)
  | report report => exact .ok ⟨shows.columns.report report, shows.saves⟩
  | expect what => exact .ok ⟨shows.columns.expect what, shows.saves⟩
  | save => exact .ok ⟨shows.columns, by rw [shows.saves, shows.columns.save, Run.saved]⟩
  | restore number =>
      have same : layout.saves[number]? = run.saves[number]? := by rw [shows.saves]
      rw [Layout.perform, Run.perform, same]
      cases run.saves[number]? with
      | none => exact .error _
      | some save => exact shows.changed (shows.columns.restore save)

/-- A run on the columns is the run on the nodes. -/
theorem Shows.performAll (shows : layout.Shows run) (operations : List Operation) :
    Matched Shows (layout.performAll operations) (run.performAll operations) := by
  induction operations generalizing layout run with
  | nil => exact .ok shows
  | cons operation operations ih =>
      rw [Layout.performAll, Run.performAll]
      have first := shows.perform operation
      generalize layout.perform operation = laid, run.perform operation = performed at first
      cases first with
      | ok here => exact ih here
      | error fault => exact .error fault

/-- What operations do to the nodes of a text, they do to its columns. -/
theorem performAll_shows {buffer : Buffer} {operations : List Operation}
    (reached : (Run.start buffer).performAll operations = .ok run) :
    ∃ layout, (start buffer).performAll operations = .ok layout ∧ layout.Shows run := by
  have matched := (shows_start buffer).performAll operations
  rw [reached] at matched
  generalize laid : (start buffer).performAll operations = result at matched
  cases matched with
  | ok here => exact ⟨_, rfl, here⟩

end Layout

end Reckon
