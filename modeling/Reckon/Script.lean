/-
This file runs scripts: texts with a statement on every line.
-/

import Reckon.Session
import Reckon.Text.Blank

namespace Reckon

open Text

/-- A line of a script has fewer bytes than this. -/
def lineLimit : Nat := 65536

/-- These are the lines of a script up to the first one that is too long, if there is one. -/
structure Lines where
  lines : List Bytes
  tooLong : Bool
  deriving Repr

namespace Lines

/-- A carriage return at the end of a line is not part of it. The line is given in reverse. -/
def ofReversed (reversed : List UInt8) : Bytes :=
  match reversed with
  | 0x0D :: rest => rest.reverse.toArray
  | _ => reversed.reverse.toArray

/-- This splits the rest of a text after `read` lines and the start of another one, which is given
in reverse with its length. A text that ends with a newline has no empty last line. -/
def split (read : List Bytes) (reversed : List UInt8) (length : Nat) : List UInt8 → Lines
  | [] =>
      if length = 0 then ⟨read.reverse, false⟩
      else ⟨(ofReversed reversed :: read).reverse, false⟩
  | byte :: rest =>
      if byte = 0x0A then split (ofReversed reversed :: read) [] 0 rest
      else if length + 1 < lineLimit then split read (byte :: reversed) (length + 1) rest
      else ⟨read.reverse, true⟩

def ofBytes (text : Bytes) : Lines := split [] [] 0 text.toList

end Lines

/-- A script in progress has a chunk of lines whose block comment is still open, and the number of
the first line of it. Without such a chunk the pending text is empty. -/
structure Script where
  session : Session
  line : Nat
  pending : Bytes
  start : Nat
  values : Array Value
  notes : Array Note

namespace Script

def ofSession (session : Session) : Script := ⟨session, 0, #[], 0, #[], #[]⟩

/-- This is the chunk with one more line. -/
def extended (script : Script) (line : Bytes) : Bytes :=
  if script.pending.isEmpty then line else script.pending ++ #[0x0A] ++ line

/-- A text without significant tokens has nothing to run. -/
def isInsignificant (buffer : Buffer) : Bool :=
  buffer.entries.all fun entry => entry.kind = .comment || entry.kind = .endOfInput

/-- This is a script after its next line, or the trouble that stops it. -/
def feed (script : Script) (line : Bytes) : Script × Option Trouble :=
  let source := script.extended line
  let number := script.line + 1
  let start := if script.pending.isEmpty then number else script.start
  let script := { script with line := number, start, pending := #[] }
  if source.consistsOf isBlank then (script, none)
  else
    let read := Session.tokens source
    let script := { script with notes := script.notes ++ read.notes }
    let (buffer, report) := read.value
    match report with
    | some report =>
        if report.isOpen then ({ script with pending := source }, none)
        else (script, some (.report (.staged (.line start) report)))
    | none =>
        if isInsignificant buffer then (script, none)
        else
          let (ran, session) := script.session.run source
          let script := { script with session, notes := script.notes ++ ran.notes }
          match ran.value.inStage (.line start) with
          | .ok value => ({ script with values := script.values.push value }, none)
          | .error trouble => (script, some trouble)

/-- This feeds lines up to the first trouble. -/
def feedAll (script : Script) : List Bytes → Script × Option Trouble
  | [] => (script, none)
  | line :: lines =>
      match script.feed line with
      | (script, none) => feedAll script lines
      | (script, some trouble) => (script, some trouble)

/-- A block comment that is still open at the end of a script is reported. -/
def finish (script : Script) : Option Trouble :=
  if script.pending.isEmpty then none
  else
    match (Session.tokens script.pending).value.2 with
    | some report => some (.report (.staged (.line script.start) report))
    | none => none

/-- This is the report of a line that is too long. -/
def tooLong : Trouble := .report (.single (.plain "bufio.Scanner: token too long"))

/-- This runs a text line by line. A line that opens a block comment is joined with the following
lines until the comment closes. -/
def run (session : Session) (text : Bytes) : Script × Option Trouble :=
  let lines := Lines.ofBytes text
  match (ofSession session).feedAll lines.lines with
  | (script, some trouble) => (script, some trouble)
  | (script, none) =>
      if lines.tooLong then (script, some tooLong) else (script, script.finish)

end Script

end Reckon
