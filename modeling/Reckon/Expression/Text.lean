/-
This file writes expressions and statements as nested lists: the name of a construct, then its
parts.
-/

import Reckon.Expression.Source

namespace Reckon

/-- A construct is written in parentheses. An empty part is left out. -/
def constructText (name : String) (parts : List String) : String :=
  let shown := parts.filter fun part => !part.isEmpty
  "(" ++ String.intercalate " " (name :: shown) ++ ")"

namespace Expression

/-- This shows a part with the given text. A part without a text is shown by what is wrong with
it. -/
def shownPart (part : Expression) (text : Except Fault String) : String :=
  match part with
  | hole => missingText
  | _ => shownOrFault text

mutual

/-- Only a hole and an invalid literal have no text. -/
def text : Expression → Except Fault String
  | hole => .error .missingTree
  | literal _ value => do return constructText "literal" [← value.text]
  | ident _ name => .ok (constructText "var" [name])
  | unary _ operator operand =>
      .ok (constructText "unary" [operator.text, operand.shownPart operand.text])
  | binary _ operator left right =>
      .ok (constructText "binary"
        [operator.text, left.shownPart left.text, right.shownPart right.text])
  | function _ param body => .ok (constructText "fn" [param, body.shownPart body.text])
  | apply _ callee arg =>
      .ok (constructText "apply" [callee.shownPart callee.text, arg.shownPart arg.text])
  | list _ elems => .ok (constructText "list" [shownOrFault (elementsText elems)])

/-- The elements of a list are written one after the other. -/
def elementsText : List Expression → Except Fault String
  | [] => .ok ""
  | [elem] => elem.text
  | elem :: elems => do
      let elem ← elem.text
      let elems ← elementsText elems
      return elem ++ " " ++ elems

end

def shown (expression : Expression) : String := expression.shownPart expression.text

end Expression

/-- An expression as a statement is written like the expression. -/
def Statement.text : Statement → Except Fault String
  | missing => .error .missingTree
  | assign _ name value => .ok (constructText "assign" [name, value.shown])
  | define _ name param body => .ok (constructText "def" [name, param, body.shown])
  | expression value => value.text

end Reckon
