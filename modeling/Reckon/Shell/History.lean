/-
This file defines the history of the prompt.
-/

import Reckon.Shell.Input

namespace Reckon

open Text

/-- The entries are sorted from the oldest to the newest. -/
abbrev History := List Bytes

namespace History

/-- A history keeps this many of the newest entries. -/
def limit : Nat := 1000

/-- This appends an entry and drops the oldest one beyond the limit. -/
def push (history : History) (entry : Bytes) : History :=
  let history := history ++ [entry]
  if history.length > limit then history.drop 1 else history

/-- An entry that repeats the newest one is not appended. -/
def add (history : History) (entry : Bytes) : History :=
  if history.getLast? == some entry then history else history.push entry

/-- This appends the lines of a history file up to the first one that is no entry, which is
described by its number. -/
def load (history : History) (number : Nat) : List Piece → History × Option String
  | [] => (history, none)
  | piece :: pieces =>
      if !piece.isWhole then
        (history, some ("line " ++ toString number ++ " is too long"))
      else if !piece.text.isWellFormed then
        (history, some ("invalid string at line " ++ toString number))
      else load (history.push piece.text) (number + 1) pieces

/-- This reads the content of a history file. -/
def ofContent (content : Bytes) : History × Option String := load [] 1 (Piece.all content)

/-- A history file has an entry on every line. -/
def content (history : History) : Bytes :=
  (history.flatMap fun entry => entry.toList ++ [0x0A]).toArray

end History

end Reckon
