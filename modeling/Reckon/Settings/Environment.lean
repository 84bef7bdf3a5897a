/-
This file defines environments of named texts, and the references to them in other texts.
-/

namespace Reckon

/-- A name that is not set has the empty text. -/
abbrev Environment := List (String × String)

namespace Environment

/-- The empty name is never set. -/
def get (environment : Environment) (name : String) : String :=
  if name.isEmpty then "" else (environment.lookup name).getD ""

/-- These characters form a name by themselves. -/
def isSpecial (character : Char) : Bool :=
  "*#$@!?-".toList.contains character || ('0' ≤ character && character ≤ '9')

def continuesName (character : Char) : Bool := character.isAlphanum || character == '_'

/-- A dollar sign is followed by a name, by braces without a name, which stand for nothing, or by
neither, and then stands for itself. -/
inductive Reference where
  | named (name : String) (length : Nat)
  | empty (length : Nat)
  | plain
  deriving DecidableEq, Repr

/-- This is the number of characters of a reference after its dollar sign. -/
def Reference.length : Reference → Nat
  | named _ length => length
  | empty length => length
  | plain => 0

/-- This reads the reference after a dollar sign. -/
def Reference.ofText (text : List Char) : Reference :=
  match text with
  | '\x7b' :: body =>
      let name := body.takeWhile fun character => character != '\x7d'
      if name.length = body.length then empty 1
      else if name.isEmpty then empty 2
      else named (String.ofList name) (name.length + 2)
  | character :: _ =>
      if isSpecial character then named (String.singleton character) 1
      else
        let name := text.takeWhile continuesName
        if name.isEmpty then plain else named (String.ofList name) name.length
  | [] => plain

def Reference.text (environment : Environment) : Reference → List Char
  | named name _ => (environment.get name).toList
  | empty _ => []
  | plain => ['$']

/-- These are the references of a text after passing over `skip` characters. -/
def referencesAfter : Nat → List Char → List Reference
  | _, [] => []
  | skip + 1, _ :: rest => referencesAfter skip rest
  | 0, character :: rest =>
      if character == '$' && !rest.isEmpty then
        let found := Reference.ofText rest
        found :: referencesAfter found.length rest
      else referencesAfter 0 rest

/-- These are the names that a text refers to. -/
def namesIn (text : String) : List String :=
  (referencesAfter 0 text.toList).filterMap fun
    | .named name _ => some name
    | _ => none

/-- This expands the references of a text after passing over `skip` characters. -/
def expandAfter (environment : Environment) : Nat → List Char → List Char
  | _, [] => []
  | skip + 1, _ :: rest => environment.expandAfter skip rest
  | 0, character :: rest =>
      if character == '$' && !rest.isEmpty then
        let found := Reference.ofText rest
        found.text environment ++ environment.expandAfter found.length rest
      else character :: environment.expandAfter 0 rest

/-- This replaces the references `$NAME` and `${NAME}` of a text. -/
def expand (environment : Environment) (text : String) : String :=
  String.ofList (environment.expandAfter 0 text.toList)

end Environment

end Reckon
