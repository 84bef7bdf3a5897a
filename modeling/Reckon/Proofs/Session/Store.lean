/-
This file runs statements on a store of scopes. A closure refers to its scope by an address, every
scope is a frame whose bindings can be written, and an application allocates a frame before it binds
its argument there.
-/

import Mathlib.Logic.Function.Basic
import Reckon.Script

namespace Reckon

open Text

/-- An address is the position of a frame in its store. -/
abbrev Address := Nat

/-- A stored value is a value whose closures refer to their scopes by address. -/
inductive Stored where
  | int (value : Int64)
  | float (value : Float)
  | unit
  | list (elems : List Stored)
  | closure (param : String) (body : Expression) (scope : Address)

namespace Stored

mutual

/-- This is the value with every closure put into the global scope. -/
def outline : Stored → Value
  | int value => .int value
  | float value => .float value
  | unit => .unit
  | list elems => .list (outlineAll elems)
  | closure param body _ => .closure param body .global

def outlineAll : List Stored → List Value
  | [] => []
  | elem :: elems => outline elem :: outlineAll elems

end

/-- This stores a number or the unit. -/
def ofPlain : Value → Stored
  | .int value => int value
  | .float value => float value
  | _ => unit

end Stored

/-- A frame has the bindings of one scope, and the address of the scope around it. -/
structure Frame where
  values : String → Option Stored
  outer : Option Address

namespace Frame

def empty (outer : Option Address) : Frame := ⟨fun _ => none, outer⟩

/-- This binds a name in place of any earlier binding of it. -/
def bind (frame : Frame) (name : String) (value : Stored) : Frame :=
  { frame with values := Function.update frame.values name (some value) }

/-- This is the frame of an application, which has a single binding. -/
def ofCall (name : String) (value : Stored) (outer : Address) : Frame :=
  (empty (some outer)).bind name value

end Frame

/-- The global scope is the frame at the address zero. -/
abbrev Store := List Frame

namespace Store

def start : Store := [.empty none]

/-- A name is looked up from a frame outwards. A scope is older than the ones inside of it. -/
def get? (store : Store) (name : String) (address : Address) : Option Stored :=
  match store[address]? with
  | none => none
  | some frame =>
      match frame.values name with
      | some value => some value
      | none =>
          match frame.outer with
          | none => none
          | some outer => if outer < address then get? store name outer else none
termination_by address

/-- This binds a name in the frame at an address. -/
def set (store : Store) (address : Address) (name : String) (value : Stored) : Store :=
  store.modify address (·.bind name value)

end Store

/-- A step reads and writes a store, also when it ends in trouble. -/
def Step (A : Type) := Store → Result A × Store

namespace Step

variable {A B : Type}

/-- This leaves the store as it is. -/
def give (result : Result A) : Step A := fun store => (result, store)

def andThen (first : Step A) (next : A → Step B) : Step B := fun store =>
  match first store with
  | (.ok value, store) => next value store
  | (.error trouble, store) => (.error trouble, store)

def lookup (span : Span) (name : String) (address : Address) : Step Stored := fun store =>
  match store.get? name address with
  | some value => (.ok value, store)
  | none => (reportAt span (.unbound name), store)

/-- This allocates a frame without bindings. -/
def allocate (outer : Address) : Step Address := fun store =>
  (.ok store.length, store ++ [.empty (some outer)])

def bind (address : Address) (name : String) (value : Stored) : Step Unit := fun store =>
  (.ok (), store.set address name value)

end Step

namespace Expression

mutual

/-- This evaluates an expression in the scope at an address. The body of a closure is applied to its
argument by `call`, which is given the span of the application and the scope of the closure. -/
def evalIn (call : Span → Address → String → Stored → Expression → Step Stored)
    (scope : Address) : Expression → Step Stored
  | hole => .give (.error (.fault (.invalidExpression missingText)))
  | literal _ value => .give (value.value.map .ofPlain)
  | ident span name => .lookup span name scope
  | unary span operator operand =>
      (evalIn call scope operand).andThen fun operand =>
        .give ((operator.applyUnary span operand.outline).map .ofPlain)
  | binary span operator left right =>
      (evalIn call scope left).andThen fun left =>
        (evalIn call scope right).andThen fun right =>
          .give ((operator.applyBinary span left.outline right.outline).map .ofPlain)
  | function _ param body => .give (.ok (.closure param body scope))
  | apply span callee arg =>
      (evalIn call scope callee).andThen fun
        | .closure param body outer =>
            (evalIn call scope arg).andThen fun arg => call span outer param arg body
        | value => .give (reportAt callee.extent (.notCallable value.outline.variety))
  | list _ elems =>
      (evalElementsIn call scope none elems).andThen fun elems => .give (.ok (.list elems))

def evalElementsIn (call : Span → Address → String → Stored → Expression → Step Stored)
    (scope : Address) (expected : Option Variety) : List Expression → Step (List Stored)
  | [] => .give (.ok [])
  | elem :: elems =>
      (evalIn call scope elem).andThen fun value =>
        let first := expected.getD value.outline.variety
        if value.outline.variety = first then
          (evalElementsIn call scope (some first) elems).andThen fun values =>
            .give (.ok (value :: values))
        else .give (reportAt elem.extent (.mixedList first value.outline.variety))

end

/-- This evaluates an expression inside of which calls nest at most `depth` deep. A call allocates
its scope, and binds the argument there before it evaluates the body. -/
def evalInWithin (limit : Nat) : Nat → Address → Expression → Step Stored
  | 0 => evalIn fun span _ _ _ _ => .give (reportAt span (.callDepth limit))
  | depth + 1 => evalIn fun _ outer param arg body =>
      (Step.allocate outer).andThen fun scope =>
        (Step.bind scope param arg).andThen fun _ => evalInWithin limit depth scope body

end Expression

/-- This executes a statement in the global scope. -/
def Statement.execIn : Statement → Step Stored
  | missing => .give (.error (.fault (.invalidStatement missingText)))
  | assign _ name value =>
      (value.evalInWithin maxCallDepth maxCallDepth 0).andThen fun value =>
        (Step.bind 0 name value).andThen fun _ => .give (.ok .unit)
  | define _ name param body =>
      (Step.bind 0 name (.closure param body 0)).andThen fun _ => .give (.ok .unit)
  | expression value => value.evalInWithin maxCallDepth maxCallDepth 0

namespace Store

/-- This runs a text as one statement. -/
def run (store : Store) (source : Bytes) : Result Stored × Store :=
  match (Session.parse source).value with
  | .error trouble => (.error trouble, store)
  | .ok statement =>
      match statement.execIn store with
      | (result, store) =>
          match result.inStage .evaluation with
          | .error trouble => (.error trouble, store)
          | .ok value =>
              match value.outline.text with
              | .error fault => (.error (.fault fault), store)
              | .ok _ => (.ok value, store)

/-- This runs texts one after the other. -/
def runAll (store : Store) (sources : List Bytes) : Store :=
  sources.foldl (fun store source => (store.run source).2) store

end Store

end Reckon
