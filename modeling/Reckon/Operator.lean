/-
This file defines the arithmetic operators.
-/

import Reckon.Token.Kind

namespace Reckon

/-- The operators have the codes from zero on in this order. A code beyond them is an operator
without a meaning. -/
inductive Operator where
  | add
  | sub
  | mul
  | div
  | mod
  | other (code : Int)
  deriving DecidableEq, Repr, Inhabited

namespace Operator

/-- This is the operator with the given code. -/
def ofCode (code : Int) : Operator :=
  match code with
  | 0 => add
  | 1 => sub
  | 2 => mul
  | 3 => div
  | 4 => mod
  | code => other code

def code : Operator → Int
  | add => 0
  | sub => 1
  | mul => 2
  | div => 3
  | mod => 4
  | other code => code

def text : Operator → String
  | add => "+"
  | sub => "-"
  | mul => "*"
  | div => "/"
  | mod => "%"
  | other code => "Op(" ++ toString code ++ ")"

/-- An operator of greater precedence binds tighter. -/
def precedence : Operator → Nat
  | mul | div | mod => 2
  | _ => 1

def isUnary : Operator → Bool
  | add | sub => true
  | _ => false

def isBinary : Operator → Bool
  | other _ => false
  | _ => true

/-- This is the operator that a token of the given kind denotes. -/
def ofKind? : Kind → Option Operator
  | .plus => some add
  | .dash => some sub
  | .star => some mul
  | .slash => some div
  | .percent => some mod
  | _ => none

end Operator

end Reckon
