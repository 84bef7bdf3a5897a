/-
This file writes the notes of a session as log lines.
-/

import Reckon.Session
import Reckon.Text.Blank

namespace Reckon

open Text

/-- A detail is quoted if it is empty, or if a character of it would not stand for itself. -/
def needsQuotes (text : String) : Bool :=
  let stands (character : Char) : Bool :=
    if character.toNat < 0x80 then
      0x20 < character.toNat && character != '=' && character != '"'
    else character != replacement && !isBlank character && isPrintable character
  text.isEmpty || !text.toList.all stands

def detailText (text : String) : String := if needsQuotes text then quoted text else text

/-- A log line has the level, the event and the details of a note. -/
def Note.logLine (note : Note) : String :=
  let fields := ("level", "DEBUG") :: ("msg", note.event) :: note.details
  String.intercalate " " (fields.map fun (key, value) => key ++ "=" ++ detailText value) ++ "\n"

/-- Notes are logged only on request. -/
def logText (verbose : Bool) (notes : List Note) : String :=
  if verbose then String.join (notes.map Note.logLine) else ""

end Reckon
