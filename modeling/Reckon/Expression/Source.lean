/-
This file writes expressions as source text that reads back as the same expression.
-/

import Reckon.Decimal.Written
import Reckon.Expression.Basic

namespace Reckon

/-- A float literal always shows a point, an exponent or a letter, so that it does not read back
as an integer. -/
def floatLiteralText (value : Float) : String :=
  let text := Decimal.compactText value
  let isMark (character : Char) : Bool :=
    character == '.' || character == 'e' || character == 'E' || character == 'n' ||
      character == 'N'
  if text.toList.any isMark then text else text ++ ".0"

/-- An invalid literal has no text. -/
def Literal.text : Literal → Except Fault String
  | int value => .ok (toString value.toInt)
  | float value => .ok (floatLiteralText value)
  | unit => .ok "()"
  | other shown => .error (.invalidLiteral shown)

/-- A fragment of a greater level binds tighter. -/
structure Fragment where
  text : String
  level : Nat
  deriving Repr

namespace Fragment

def functionLevel : Nat := 0

def applyLevel : Nat := 1

def sumLevel : Nat := 2

def productLevel : Nat := 3

def unaryLevel : Nat := 4

def atomLevel : Nat := 5

def parenthesized (text : String) : String := "(" ++ text ++ ")"

/-- A fragment that binds less tightly than its place needs parentheses. -/
def atLeast (fragment : Fragment) (level : Nat) : String :=
  if fragment.level < level then parenthesized fragment.text else fragment.text

def binaryLevel (operator : Operator) : Nat :=
  if operator.precedence == 2 then productLevel else sumLevel

/-- A text that starts with a sign would read as a sum after another expression. -/
def startsWithSign (text : String) : Bool :=
  match text.toList with
  | character :: _ => character == '-' || character == '+'
  | [] => false

/-- Operators of one level associate to the left, so the right operand binds tighter. -/
def ofBinary (operator : Operator) (left right : Fragment) : Fragment :=
  let level := binaryLevel operator
  ⟨left.atLeast level ++ " " ++ operator.text ++ " " ++ right.atLeast (level + 1), level⟩

/-- The callee of an application is an atom, and its argument starts without a sign. -/
def ofApply (callee arg : Fragment) : Fragment :=
  let calleeText :=
    if callee.level = atomLevel then callee.text else parenthesized callee.text
  let argText := arg.atLeast sumLevel
  let argText := if startsWithSign argText then parenthesized argText else argText
  ⟨calleeText ++ " " ++ argText, applyLevel⟩

/-- This is the interpretation of expressions as source text. -/
def interpretation : Interpretation Fragment where
  literal value := do return ⟨← value.text, atomLevel⟩
  ident name := ⟨name, atomLevel⟩
  unary operator operand := ⟨operator.text ++ operand.atLeast atomLevel, unaryLevel⟩
  binary := ofBinary
  function param body := ⟨param ++ ": " ++ body.text, functionLevel⟩
  apply := ofApply
  list elems := ⟨"[" ++ String.intercalate ", " (elems.map Fragment.text) ++ "]", atomLevel⟩

end Fragment

/-- This is the source text of an expression. -/
def Expression.source (expression : Expression) : Except Fault String := do
  let fragment ← expression.fold Fragment.interpretation
  return fragment.text

end Reckon
