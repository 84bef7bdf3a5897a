/-
This file defines sessions, which run statements against the same global bindings and note what
each stage did.
-/

import Reckon.Evaluation
import Reckon.Expression.Text
import Reckon.Parse.Grammar
import Reckon.Parse.Outline

namespace Reckon

open Text

/-- A note tells that a stage came to an end, with details by name. -/
structure Note where
  event : String
  details : List (String × String)
  deriving DecidableEq, Repr

/-- This is a value together with the notes of the stages that led to it, in order. -/
structure Noted (A : Type) where
  value : A
  notes : List Note

/-- A session keeps the global bindings from statement to statement. -/
structure Session where
  globals : Bindings

namespace Session

def empty : Session := ⟨[]⟩

/-- This reads the tokens of a text. They are there also when something is wrong. -/
def tokens (source : Bytes) : Noted (Buffer × Option Report) :=
  let reading := Reading.ofBytes source
  match reading.report? with
  | some report => ⟨(reading.buffer, some (.staged .lexing report)), []⟩
  | none =>
      ⟨(reading.buffer, none), [⟨"lexed", [("tokens", toString reading.buffer.size)]⟩]⟩

/-- This parses a text as one statement. -/
def parse (source : Bytes) : Noted (Result Statement) :=
  let read := tokens source
  match read.value with
  | (_, some report) => ⟨.error (.report report), read.notes⟩
  | (buffer, none) =>
      match buffer.parseStatement.inStage .parsing with
      | .error trouble => ⟨.error trouble, read.notes⟩
      | .ok statement =>
          match statement.text with
          | .error fault => ⟨.error (.fault fault), read.notes⟩
          | .ok text => ⟨.ok statement, read.notes ++ [⟨"parsed", [("stmt", text)]⟩]⟩

/-- This parses a text by the outline grammar. The nodes refer to the tokens of the buffer. -/
def outline (source : Bytes) : Noted (Buffer × Result (List Node)) :=
  let read := tokens source
  match read.value with
  | (buffer, some report) => ⟨(buffer, .error (.report report)), read.notes⟩
  | (buffer, none) =>
      match buffer.outline.inStage .parsing with
      | .ok nodes =>
          ⟨(buffer, .ok nodes), read.notes ++ [⟨"traced", [("nodes", toString nodes.length)]⟩]⟩
      | .error trouble => ⟨(buffer, .error trouble), read.notes⟩

/-- This runs a text as one statement. The session changes only if the statement has a value. -/
def run (session : Session) (source : Bytes) : Noted (Result Value) × Session :=
  let parsed := parse source
  match parsed.value with
  | .error trouble => (⟨.error trouble, parsed.notes⟩, session)
  | .ok statement =>
      match (statement.exec session.globals).inStage .evaluation with
      | .error trouble => (⟨.error trouble, parsed.notes⟩, session)
      | .ok (value, globals) =>
          match value.text with
          | .error fault => (⟨.error (.fault fault), parsed.notes⟩, ⟨globals⟩)
          | .ok text =>
              let note : Note :=
                ⟨"evaluated", [("kind", value.variety.name), ("value", text)]⟩
              (⟨.ok value, parsed.notes ++ [note]⟩, ⟨globals⟩)

end Session

end Reckon
