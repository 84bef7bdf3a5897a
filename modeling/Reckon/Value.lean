/-
This file defines the values of expressions and the scopes that bind names to them.
-/

import Reckon.Expression.Source
import Reckon.Report

namespace Reckon

mutual

inductive Value where
  | int (value : Int64)
  | float (value : Float)
  | unit
  | list (elems : List Value)
  /-- A closure is a function together with the scope it was created in. -/
  | closure (param : String) (body : Expression) (scope : Scope)

/-- Every call opens a scope with a single binding inside of the scope of its closure. The
outermost scope is the global one, whose bindings are kept apart. -/
inductive Scope where
  | global
  | call (name : String) (value : Value) (outer : Scope)

end

instance : Inhabited Value := ⟨.unit⟩

instance : Inhabited Scope := ⟨.global⟩

namespace Value

def variety : Value → Variety
  | int _ => .int
  | float _ => .float
  | unit => .unit
  | list _ => .list
  | closure _ _ _ => .function

mutual

/-- A float is written without a fraction when it has none. -/
def text : Value → Except Fault String
  | int value => .ok (toString value.toInt)
  | float value => .ok (Decimal.positionalText value)
  | unit => .ok ""
  | list elems => do return "[" ++ (← elementsText elems) ++ " ]"
  | closure param body _ => do return param ++ " -> " ++ (← body.source)

/-- Each element of a list is written after a blank. -/
def elementsText : List Value → Except Fault String
  | [] => .ok ""
  | elem :: elems => do
      let elem ← text elem
      let elems ← elementsText elems
      return " " ++ elem ++ elems

end

end Value

/-- The global bindings are sorted by name. -/
abbrev Bindings := List (String × Value)

namespace Bindings

def get? (bindings : Bindings) (name : String) : Option Value := bindings.lookup name

/-- This binds a name in place of any earlier binding of it. -/
def set (bindings : Bindings) (name : String) (value : Value) : Bindings :=
  match bindings with
  | [] => [(name, value)]
  | (other, otherValue) :: rest =>
      if name = other then (name, value) :: rest
      else if name < other then (name, value) :: (other, otherValue) :: rest
      else (other, otherValue) :: set rest name value

def names (bindings : Bindings) : List String := bindings.map Prod.fst

/-- Bindings are written between braces in the order of their names. A value without a text is
shown by what is wrong with it. -/
def text (bindings : Bindings) : String :=
  let shown (binding : String × Value) : String :=
    " " ++ binding.1 ++ ":" ++ shownOrFault binding.2.text
  "\x7b" ++ String.join (bindings.map shown) ++ " \x7d"

end Bindings

namespace Scope

/-- A name is looked up from the innermost scope outwards. -/
def get? (globals : Bindings) : Scope → String → Option Value
  | global, name => globals.get? name
  | call bound value outer, name => if name = bound then some value else get? globals outer name

/-- A scope is written before the one around it. -/
def text (globals : Bindings) : Scope → String
  | global => globals.text
  | call name value outer => Bindings.text [(name, value)] ++ "\n\t&" ++ text globals outer

end Scope

end Reckon
