/-
This file defines the faults: uses of this library that break one of its rules. No fault arises
from a source text alone.
-/

import Reckon.Text.Quoted

namespace Reckon

open Text

inductive Fault where
  /-- A token buffer has as many kinds as spans. -/
  | unevenBuffer
  /-- A parse cannot return to a point before an entry of the shift stack was popped. -/
  | restoredPastPop
  /-- A parse cannot consume the end of input. -/
  | consumedPastEnd
  /-- A parse cannot pop the empty shift stack. -/
  | poppedEmptyStack
  | invalidLiteral (shown : String)
  | invalidNode (shown : String)
  | invalidExpression (shown : String)
  | invalidStatement (shown : String)
  | invalidOperator (shown : String)
  /-- An integer token is spelled with digits of its radix. -/
  | misspelledInteger (lexeme : Bytes)
  /-- A handle or a span lies outside of its buffer. -/
  | outOfBounds
  /-- A tree with a hole has no span and no text. -/
  | missingTree
  /-- A recursion went deeper than its bound. -/
  | exhausted
  deriving DecidableEq, Repr, Inhabited

/-- A fault of a rule of this library has a message, and other faults have none. -/
def Fault.message? : Fault → Option String
  | .unevenBuffer => some "token: kinds and spans differ in length"
  | .restoredPastPop => some "parser: restore past a popped shift-stack entry"
  | .consumedPastEnd => some "parser: consumed a node past the end of input"
  | .poppedEmptyStack => some "parser: popped the empty shift stack"
  | .invalidLiteral shown => some ("invalid literal " ++ shown)
  | .invalidNode shown => some ("invalid node " ++ shown)
  | .invalidExpression shown => some ("invalid expression " ++ shown)
  | .invalidStatement shown => some ("invalid statement " ++ shown)
  | .invalidOperator shown => some ("invalid operator " ++ shown)
  | .misspelledInteger lexeme => some ("incorrectly tokenized integer " ++ lexeme.quoted)
  | .outOfBounds | .missingTree | .exhausted => none

/-- This is the text that stands in place of a part that could not be shown. -/
def Fault.shown (fault : Fault) : String :=
  let reason := match fault.message? with
    | some message => message
    | none => "runtime error: invalid memory address or nil pointer dereference"
  "%!v(PANIC=String method: " ++ reason ++ ")"

/-- A part that cannot be shown is replaced by its fault. -/
def shownOrFault (shown : Except Fault String) : String :=
  match shown with
  | .ok text => text
  | .error fault => fault.shown

end Reckon
