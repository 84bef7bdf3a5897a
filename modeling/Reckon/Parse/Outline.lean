/-
This file defines the outline grammar. It covers assignments, functions, applications and
parentheses, and notes the role of every token instead of building a tree.
-/

import Reckon.Parse.Parser

namespace Reckon.Outline

open Reckon.Parser

/-- This notes the role of a token at once. -/
def plain (kind : Kind) (role : Role) : Parser Unit := discard (emit kind role)

/-- This notes the role of a token when it is popped. -/
def deferred (kind : Kind) (role : Role) : Parser Unit := discard (defer kind role)

/-- atom = "(" inner ")" -/
def atom (inner : Parser Unit) : Parser Unit :=
  discard (sequence
    [deferred .leftParen .atomBegin, inner, deferred .rightParen .atomEnd, pop, pop])

/-- function = IDENT ":" expr -/
def function (expr : Parser Unit) : Parser Unit :=
  discard (sequence
    [plain .identifier .functionArgument, deferred .colon .functionDeclaration, expr, pop])

/-- application = (atom(function) | IDENT) expr -/
def application (expr : Parser Unit) : Parser Unit :=
  discard (sequence
    [choice [atom (function expr), plain .identifier .nameUse], expr, mark .application])

/-- expr = application | atom(expr) | function | IDENT -/
def expressionRule (expr : Parser Unit) : Parser Unit :=
  choice [application expr, atom expr, function expr, plain .identifier .nameUse]

/-- This parses expressions that nest at most `depth` deep. -/
def expressionWithin : Nat → Parser Unit
  | 0 => fun state => .fault .exhausted state
  | depth + 1 => expressionRule (expressionWithin depth)

/-- assign = IDENT "=" expr -/
def assignment (expr : Parser Unit) : Parser Unit :=
  discard (sequence
    [deferred .identifier .assignmentTarget, plain .equal .assignment, expr, pop])

/-- stmt = assign | expr -/
def statementRule (expr : Parser Unit) : Parser Unit := choice [assignment expr, expr]

/-- Every expression inside of another one starts after one more token, so the number of tokens
bounds the depth. -/
def statement : Parser Unit := fun state =>
  statementRule (expressionWithin (state.significant.size + 1)) state

end Reckon.Outline

namespace Reckon

/-- This parses a whole buffer by the outline grammar, into the roles of its tokens. -/
def Buffer.outline (buffer : Buffer) : Result (List Node) :=
  let (result, state) := Outline.statement.run (.ofBuffer buffer)
  result.map fun _ => state.outline

end Reckon
