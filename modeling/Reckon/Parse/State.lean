/-
This file defines the state of a parse. The position of a parse is not stored: every output node
and every entry of the shift stack records the position after it, so a return to an earlier state
is a truncation.
-/

import Reckon.Parse.Role
import Reckon.Report

namespace Reckon

/-- A record is a node together with the position after it. -/
structure Record where
  role : Role
  handle : Handle
  position : Nat
  deriving DecidableEq, Repr, Inhabited

/-- This is the furthest position where a rule failed, and what was expected there. -/
structure Failure where
  position : Nat
  expected : List String
  deriving DecidableEq, Repr

/-- The significant tokens are all but the comments. -/
structure State where
  input : Buffer
  significant : Array Handle
  nodes : Array Record
  stack : Array Record
  reports : Array Report
  furthest : Option Failure
  deriving Repr

/-- A save holds the sizes that a state is truncated to. -/
structure Save where
  nodes : Nat
  stack : Nat
  reports : Nat
  deriving DecidableEq, Repr

namespace State

/-- This is the state before the first significant token. -/
def ofBuffer (input : Buffer) : State where
  input := input
  significant := (Array.range input.size).filter fun handle =>
    match input.entries[handle]? with
    | some entry => entry.kind != .comment
    | none => false
  nodes := #[]
  stack := #[]
  reports := #[]
  furthest := none

def save (state : State) : Save := ⟨state.nodes.size, state.stack.size, state.reports.size⟩

/-- This is the start of an array up to the given size. Nothing can be cut off beyond the end. -/
def cutTo {A : Type} (items : Array A) (size : Nat) : Except Fault (Array A) :=
  if size ≤ items.size then .ok (items.shrink size) else .error .outOfBounds

/-- This returns to a save. The furthest failure stays. -/
def restore (state : State) (save : Save) : Except Fault State :=
  if state.stack.size < save.stack then .error .restoredPastPop
  else do
    let nodes ← cutTo state.nodes save.nodes
    let stack ← cutTo state.stack save.stack
    let reports ← cutTo state.reports save.reports
    return { state with nodes, stack, reports }

/-- This is the position that the last of the given records notes. -/
def lastPosition (records : Array Record) : Nat :=
  match records.back? with
  | some record => record.position
  | none => 0

/-- The position of a parse is the index of its current significant token. -/
def position (state : State) : Nat := max (lastPosition state.nodes) (lastPosition state.stack)

/-- This is the handle of a significant token, or of the last one. -/
def handleAt (state : State) (position : Nat) : Except Fault Handle :=
  match state.significant[min position (state.significant.size - 1)]? with
  | some handle => .ok handle
  | none => .error .outOfBounds

def current (state : State) : Except Fault Handle := state.handleAt state.position

/-- This is the kind of the current token. -/
def kind (state : State) : Except Fault Kind :=
  match state.current with
  | .ok handle => state.input.kind handle
  | .error fault => .error fault

/-- This is the current token. -/
def peek (state : State) : Except Fault Token :=
  match state.current with
  | .ok handle => state.input.token handle
  | .error fault => .error fault

def is (state : State) (kind : Kind) : Except Fault Bool :=
  state.kind.map fun found => found = kind

def atEnd (state : State) : Except Fault Bool := state.is .endOfInput

/-- The current token can be consumed unless it is the end of input. -/
def consumable (state : State) : Except Fault Handle :=
  match state.atEnd with
  | .ok true => .error .consumedPastEnd
  | .ok false => state.current
  | .error fault => .error fault

/-- This consumes the current token as an output node. -/
def push (state : State) (role : Role) : Except Fault (Handle × State) :=
  state.consumable.map fun handle =>
    (handle, { state with nodes := state.nodes.push ⟨role, handle, state.position + 1⟩ })

/-- This consumes the current token and puts it on the shift stack. -/
def shift (state : State) (role : Role) : Except Fault (Handle × State) :=
  state.consumable.map fun handle =>
    (handle, { state with stack := state.stack.push ⟨role, handle, state.position + 1⟩ })

/-- This moves the top of the shift stack to the output. -/
def pop (state : State) : Except Fault State :=
  match state.stack.back? with
  | some top =>
      .ok { state with
        nodes := state.nodes.push { top with position := state.position }
        stack := state.stack.pop }
  | none => .error .poppedEmptyStack

/-- This adds an output node without consuming a token. -/
def mark (state : State) (role : Role) : Except Fault State :=
  state.current.map fun handle =>
    { state with nodes := state.nodes.push ⟨role, handle, state.position⟩ }

/-- A report is dropped when the parse returns to a save from before it. -/
def report (state : State) (report : Report) : State :=
  { state with reports := state.reports.push report }

/-- This notes that something was expected at the current token. -/
def expect (state : State) (what : String) : State :=
  let position := state.position
  match state.furthest with
  | none => { state with furthest := some ⟨position, [what]⟩ }
  | some furthest =>
      if furthest.position < position then
        { state with furthest := some ⟨position, [what]⟩ }
      else if position = furthest.position && !furthest.expected.contains what then
        { state with furthest := some ⟨position, furthest.expected ++ [what]⟩ }
      else state

/-- This is the output so far. -/
def outline (state : State) : List Node :=
  state.nodes.toList.map fun record => ⟨record.role, record.handle⟩

/-- This reports the furthest failure. -/
def failure (state : State) : Except Fault Report :=
  match state.furthest with
  | none => .ok (.single (.plain "parse failed"))
  | some furthest => do
      let found ← state.input.token (← state.handleAt furthest.position)
      if found.kind = .endOfInput then
        return .atSpan found.span (.unexpectedEnd furthest.expected)
      else return .atSpan found.span (.unexpectedToken found furthest.expected)

end State

end Reckon
