/-
This file reads lists of test cases.
-/

namespace Reckon

/-- A document is a value of nested lists and named fields. A number is given by its text. -/
inductive CaseDocument where
  | null
  | flag (flag : Bool)
  | number (text : String)
  | text (text : String)
  | list (elems : List CaseDocument)
  | fields (fields : List (String × CaseDocument))
  deriving Inhabited

/-- A case gives the expected result of an input for each part of the program. -/
structure Case where
  label : String
  input : String
  expected : List (String × String)
  deriving DecidableEq, Repr

namespace CaseDocument

/-- A text holds no control characters beyond the escaped ones and the line break, and neither of
the last two code points of sixteen bits. -/
def isAllowed (character : Char) : Bool :=
  let code := character.toNat
  !(0x7F ≤ code && code ≤ 0x9F && code != 0x85) && code != 0xFFFE && code != 0xFFFF

/-- This is the break between two lines of a text. -/
def lineBreak : Char := '\u0085'

/-- This stands for a row of blanks and line breaks: blanks stay by themselves, a single break is a
blank, and each further one a newline. -/
def folded (blanks breaks : Nat) : List Char :=
  match breaks with
  | 0 => List.replicate blanks ' '
  | 1 => [' ']
  | breaks + 1 => List.replicate breaks '\n'

/-- This folds the line breaks of a text after a row of blanks and line breaks. -/
def foldLines (blanks breaks : Nat) : List Char → List Char
  | [] => folded blanks breaks
  | character :: rest =>
      if character == ' ' then foldLines (blanks + 1) breaks rest
      else if character == lineBreak then foldLines blanks (breaks + 1) rest
      else folded blanks breaks ++ character :: foldLines 0 0 rest

def readText? (text : String) : Option String :=
  if text.toList.all isAllowed then some (String.ofList (foldLines 0 0 text.toList)) else none

/-- The name of a field stands on one line. -/
def readName? (name : String) : Option String :=
  if name.toList.all isAllowed && !name.toList.contains lineBreak then some name else none

mutual

/-- This reads the texts of a document. One that cannot be read makes the whole document
unreadable. -/
def read? : CaseDocument → Option CaseDocument
  | text content => (readText? content).map text
  | list elems => (readAll? elems).map list
  | fields entries => (readFields? entries).map fields
  | document => some document

def readAll? : List CaseDocument → Option (List CaseDocument)
  | [] => some []
  | elem :: elems =>
      match read? elem, readAll? elems with
      | some elem, some elems => some (elem :: elems)
      | _, _ => none

def readFields? : List (String × CaseDocument) → Option (List (String × CaseDocument))
  | [] => some []
  | (name, value) :: entries =>
      match readName? name, read? value, readFields? entries with
      | some name, some value, some entries => some ((name, value) :: entries)
      | _, _, _ => none

end

end CaseDocument

namespace Case

def field (fields : List (String × CaseDocument)) (name : String) : CaseDocument :=
  (fields.lookup name).getD .null

/-- Every single value is a text. -/
def text? : CaseDocument → Option String
  | .null => some ""
  | .flag flag => some (if flag then "true" else "false")
  | .number text => some text
  | .text text => some text
  | _ => none

/-- Some words stand for flags. -/
def flag? : CaseDocument → Option Bool
  | .null => some false
  | .flag flag => some flag
  | .text text =>
      if ["y", "Y", "yes", "on"].contains text then some true
      else if ["n", "N", "no", "off"].contains text then some false
      else none
  | _ => none

def texts? : CaseDocument → Option (List (String × String))
  | .null => some []
  | .fields fields => fields.mapM fun (name, value) => (text? value).map fun text => (name, text)
  | _ => none

/-- This reads one case, and drops one that is not enabled. -/
def ofDocument? : CaseDocument → Option (List Case)
  | .null => some []
  | .fields fields => do
      let label ← text? (field fields "label")
      let enabled ← flag? (field fields "enable")
      let input ← text? (field fields "input")
      let expected ← texts? (field fields "expected")
      return if enabled then [⟨label, input, expected⟩] else []
  | _ => none

/-- This reads the enabled cases of a list in order. A document of another form has none. -/
def all? (document : CaseDocument) : Option (List Case) :=
  match document.read? with
  | some .null => some []
  | some (.list elems) => (elems.mapM ofDocument?).map List.flatten
  | _ => none

end Case

end Reckon
