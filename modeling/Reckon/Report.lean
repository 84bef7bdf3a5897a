/-
This file defines the reports of what is wrong with a source text.
-/

import Reckon.Operator
import Reckon.Token.Reader

namespace Reckon

open Text

/-- A numeral without a value is wrong in one of these ways. -/
inductive NumeralProblem where
  | integerOverflow
  | floatOutOfRange
  | malformedFloat
  deriving DecidableEq, Repr

def NumeralProblem.text : NumeralProblem → String
  | .integerOverflow => "integer overflows 64 bits"
  | .floatOutOfRange => "float out of range"
  | .malformedFloat => "malformed float"

/-- The variety of a value decides which operations accept it. -/
inductive Variety where
  | int
  | float
  | unit
  | list
  | function
  deriving DecidableEq, Repr

def Variety.name : Variety → String
  | .int => "Int"
  | .float => "Float"
  | .unit => "Unit"
  | .list => "List"
  | .function => "Function"

/-- A cause is a single thing that is wrong. -/
inductive Cause where
  | misread (misreading : Misreading)
  | unexpectedToken (found : Token) (expected : List String)
  | unexpectedEnd (expected : List String)
  | invalidNumeral (lexeme : Bytes) (problem : NumeralProblem)
  | unbound (name : String)
  | typeMismatch (operator : Operator) (operands : List Variety)
  | notCallable (variety : Variety)
  | mixedList (expected found : Variety)
  | divisionByZero
  | callDepth (limit : Nat)
  | plain (text : String)
  deriving DecidableEq, Repr

def Cause.message : Cause → String
  | misread misreading => misreading.message
  | unexpectedToken found expected =>
      "unexpected " ++ found.kind.name ++ " " ++ found.lexeme.quoted ++ ": expected " ++
        String.intercalate ", " expected
  | unexpectedEnd expected =>
      "unexpected end of input: expected " ++ String.intercalate ", " expected
  | invalidNumeral lexeme problem =>
      "invalid literal " ++ lexeme.quoted ++ ": " ++ problem.text
  | unbound name => "unbound identifier " ++ quoted name
  | typeMismatch operator operands =>
      "type mismatch: cannot apply " ++ operator.text ++ " to " ++
        String.intercalate " and " (operands.map Variety.name)
  | notCallable variety => variety.name ++ " is not callable"
  | mixedList expected found =>
      "list elements must share a type: expected " ++ expected.name ++ ", found " ++ found.name
  | divisionByZero => "division by zero"
  | callDepth limit => "call depth exceeds " ++ toString limit
  | plain text => text

/-- The stages of a run label the reports that come out of them. -/
inductive Stage where
  | lexing
  | parsing
  | evaluation
  | line (number : Nat)
  deriving DecidableEq, Repr

def Stage.label : Stage → String
  | lexing => "lex"
  | parsing => "parse"
  | evaluation => "eval"
  | line number => "line " ++ toString number

/-- A report places its causes in the source text and in the stages of a run. -/
inductive Report where
  | single (cause : Cause)
  | located (span : Span) (report : Report)
  | staged (stage : Stage) (report : Report)
  | joined (reports : List Report)
  deriving Repr

namespace Report

/-- This reports a cause at a span. -/
def atSpan (span : Span) (cause : Cause) : Report := located span (single cause)

/-- This reports the misreadings of a text, if there are any. -/
def ofMisreadings? : List Misreading → Option Report
  | [] => none
  | misreadings => some (joined (misreadings.map fun misreading => single (.misread misreading)))

mutual

def message : Report → String
  | single cause => cause.message
  | located span report => "at " ++ span.start.text ++ ": " ++ report.message
  | staged stage report => stage.label ++ ": " ++ report.message
  | joined reports => String.intercalate "\n" (messages reports)

def messages : List Report → List String
  | [] => []
  | report :: reports => report.message :: messages reports

end

mutual

/-- These are the causes from left to right, each with the innermost span around it. -/
def leavesIn (place : Option Span) : Report → List (Cause × Option Span)
  | single cause => [(cause, place)]
  | located span report => leavesIn (some span) report
  | staged _ report => leavesIn place report
  | joined reports => allLeavesIn place reports

def allLeavesIn (place : Option Span) : List Report → List (Cause × Option Span)
  | [] => []
  | report :: reports => leavesIn place report ++ allLeavesIn place reports

end

def leaves (report : Report) : List (Cause × Option Span) := report.leavesIn none

/-- A report is fatal when one of its causes ended the reading of the text. -/
def isFatal (report : Report) : Bool :=
  report.leaves.any fun leaf =>
    match leaf.1 with
    | .misread misreading => misreading.isFatal
    | _ => false

/-- A report is open when one of its causes is a block comment that does not close. -/
def isOpen (report : Report) : Bool :=
  report.leaves.any fun leaf =>
    match leaf.1 with
    | .misread misreading => misreading.isOpenComment
    | _ => false

mutual

/-- These are the texts that are printed one after the other: a joined report is printed part
by part. -/
def parts : Report → List String
  | joined reports => allParts reports
  | report => [report.message]

def allParts : List Report → List String
  | [] => []
  | report :: reports => parts report ++ allParts reports

end

end Report

/-- Trouble with a source text is reported, and trouble with the use of this library is a
fault. -/
inductive Trouble where
  | report (report : Report)
  | fault (fault : Fault)
  deriving Repr

/-- A run ends with a value or with trouble. -/
abbrev Result (A : Type) := Except Trouble A

/-- This names the stage that a report comes out of. -/
def Result.inStage {A : Type} (stage : Stage) (result : Result A) : Result A :=
  match result with
  | .error (.report report) => .error (.report (.staged stage report))
  | result => result

/-- This is the report of a reading that went wrong. -/
def Reading.report? (reading : Reading) : Option Report :=
  Report.ofMisreadings? reading.misreadings

/-- This is the buffer of a reading that went well. -/
def Reading.accepted (reading : Reading) : Result Buffer :=
  match reading.report? with
  | some report => .error (.report report)
  | none => .ok reading.buffer

end Reckon
