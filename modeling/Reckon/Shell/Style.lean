/-
This file defines how texts are laid out before they are printed.
-/

import Reckon.Session
import Reckon.Text.Columns

namespace Reckon

/-- The terminal shows a tab as four blanks. -/
def withoutTabs (text : String) : String :=
  String.join (text.toList.map fun character =>
    if character == '\t' then "    " else String.singleton character)

/-- Every line is padded with blanks to the width of the widest one. -/
def padded (text : String) : String :=
  let lines := text.splitOn "\n"
  let width := (lines.map Text.columns).foldl max 0
  String.intercalate "\n" (lines.map fun line =>
    line ++ String.ofList (List.replicate (width - Text.columns line) ' '))

/-- A styled text is laid out as a block of lines of one width, and a plain text as it is. -/
def layOut (styled : Bool) (text : String) : String :=
  let text := withoutTabs text
  if styled then padded (String.intercalate "\n" (text.splitOn "\r\n")) else text

/-- The value unit is not printed. -/
def Value.printed (styled : Bool) (value : Value) : String :=
  match value with
  | .unit => ""
  | value => layOut styled (shownOrFault value.text) ++ "\n"

/-- A joined report is printed part by part. -/
def Report.printed (styled : Bool) (report : Report) : String :=
  String.join (report.parts.map fun part => layOut styled ("Error: " ++ part) ++ "\n")

/-- A fault is printed like a report. -/
def Trouble.printed (styled : Bool) : Trouble → String
  | .report found => found.printed styled
  | .fault found => layOut styled ("Error: " ++ found.shown) ++ "\n"

/-- The message of trouble has the stages that it came out of. -/
def Trouble.message : Trouble → String
  | .report found => found.message
  | .fault found => found.shown

end Reckon
