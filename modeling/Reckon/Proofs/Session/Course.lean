/-
This file shows how a session goes on: in which ways the run of a text ends, which texts scripts and calls
run, and that a call keeps what all runs keep.
-/

import Reckon.Script

namespace Reckon

open Text

/-- This is the name that a statement binds. -/
def Statement.bound? : Statement → Option String
  | assign _ name _ | define _ name _ _ => some name
  | missing | expression _ => none

/-- Trouble stays trouble in a stage, whatever the value would have been. -/
theorem Result.inStage_error (stage : Stage) (trouble : Trouble) :
    ∃ staged, ∀ {A : Type}, Result.inStage stage (.error trouble : Result A) = .error staged := by
  cases trouble with
  | report report => exact ⟨.report (.staged stage report), rfl⟩
  | fault fault => exact ⟨.fault fault, rfl⟩

theorem Result.inStage_value {A : Type} (stage : Stage) (value : A) :
    Result.inStage stage (.ok value) = .ok value := rfl

/-- A value of a stage is the value itself. -/
theorem Result.inStage_ok {A : Type} {stage : Stage} {result : Result A} {value : A}
    (found : result.inStage stage = .ok value) : result = .ok value := by
  unfold Result.inStage at found
  split at found
  · cases found
  · exact found

/-- A statement that is executed binds its own name, or none. -/
theorem Statement.exec_binds {statement : Statement} {globals next : Bindings} {value : Value}
    (executed : statement.exec globals = .ok (value, next)) :
    (statement.bound? = none ∧ next = globals) ∨ ∃ name bound, statement.bound? = some name ∧
      value = .unit ∧ next = globals.set name bound := by
  cases statement with
  | missing => cases executed
  | define span name param body =>
      cases executed
      exact .inr ⟨name, _, rfl, rfl, rfl⟩
  | assign span name expression =>
      rw [exec] at executed
      split at executed
      · cases executed
        exact .inr ⟨name, _, rfl, rfl, rfl⟩
      · cases executed
  | expression expression =>
      rw [exec] at executed
      split at executed
      · cases executed
        exact .inl ⟨rfl, rfl⟩
      · cases executed

namespace Session

/-- These are the ways in which a session runs a text, with the result and the session after it. -/
inductive Runs (session : Session) (source : Bytes) : Result Value → Session → Prop where
  | unparsed {trouble : Trouble} (parsed : (parse source).value = .error trouble) :
      Runs session source (.error trouble) session
  | failed {statement : Statement} {trouble : Trouble} (parsed : (parse source).value = .ok statement)
      (executed : (statement.exec session.globals).inStage .evaluation = .error trouble) :
      Runs session source (.error trouble) session
  | unwritten {statement : Statement} {value : Value} {globals : Bindings} {fault : Fault}
      (parsed : (parse source).value = .ok statement)
      (executed : statement.exec session.globals = .ok (value, globals))
      (written : value.text = .error fault) : Runs session source (.error (.fault fault)) ⟨globals⟩
  | ran {statement : Statement} {value : Value} {globals : Bindings} {text : String}
      (parsed : (parse source).value = .ok statement)
      (executed : statement.exec session.globals = .ok (value, globals))
      (written : value.text = .ok text) : Runs session source (.ok value) ⟨globals⟩

/-- The run of a source goes one of these ways. -/
theorem runs (session : Session) (source : Bytes) :
    session.Runs source (session.run source).1.value (session.run source).2 := by
  rw [run]
  dsimp only
  cases parsed : (parse source).value with
  | error trouble => exact .unparsed parsed
  | ok statement =>
  dsimp only
  cases executed : (statement.exec session.globals).inStage .evaluation with
  | error trouble => exact .failed parsed executed
  | ok result =>
      obtain ⟨value, globals⟩ := result
      dsimp only
      cases written : value.text with
      | error fault => exact .unwritten parsed (Result.inStage_ok executed) written
      | ok text => exact .ran parsed (Result.inStage_ok executed) written

/-- A run binds one name to a value, or it leaves the session as it was. -/
theorem run_binds (session : Session) (source : Bytes) :
    ((session.run source).2 = session ∧ ((∃ trouble, (session.run source).1.value = .error trouble) ∨
      ∃ statement, (parse source).value = .ok statement ∧ statement.bound? = none)) ∨
    ∃ statement name bound, (parse source).value = .ok statement ∧ statement.bound? = some name ∧
      (session.run source).1.value = .ok .unit ∧
        (session.run source).2.globals = session.globals.set name bound := by
  have runs := session.runs source
  generalize (session.run source).1.value = result, (session.run source).2 = next at runs ⊢
  cases runs with
  | unparsed | failed => exact .inl ⟨rfl, .inl ⟨_, rfl⟩⟩
  | unwritten parsed executed written =>
      rcases Statement.exec_binds executed with ⟨_, rfl⟩ | ⟨_, _, _, rfl, _⟩
      · exact .inl ⟨rfl, .inl ⟨_, rfl⟩⟩
      · cases written
  | ran parsed executed written =>
      rcases Statement.exec_binds executed with ⟨unbound, rfl⟩ | ⟨name, bound, binds, rfl, rfl⟩
      · exact .inl ⟨rfl, .inr ⟨_, parsed, unbound⟩⟩
      · exact .inr ⟨_, name, bound, parsed, binds, rfl, rfl⟩

/-- This runs texts one after the other. -/
def runAll (session : Session) (sources : List Bytes) : Session :=
  sources.foldl (fun session source => (session.run source).2) session

theorem runAll_append (session : Session) (first second : List Bytes) :
    session.runAll (first ++ second) = (session.runAll first).runAll second := List.foldl_append

end Session

namespace Script

/-- This is the text that a line makes a script run, if there is one. -/
def source? (script : Script) (line : Bytes) : Option Bytes :=
  let source := script.extended line
  if source.consistsOf isBlank then none
  else
    match (Session.tokens source).value.2 with
    | some _ => none
    | none => if isInsignificant (Session.tokens source).value.1 then none else some source

/-- These are the texts that a script runs up to the first trouble. -/
def sources (script : Script) : List Bytes → List Bytes
  | [] => []
  | line :: lines =>
      (script.source? line).toList ++
        match script.feed line with
        | (next, none) => next.sources lines
        | (_, some _) => []

/-- A line runs the source that it completes, if it completes one. -/
theorem feed_session (script : Script) (line : Bytes) :
    (script.feed line).1.session = script.session.runAll (script.source? line).toList := by
  unfold feed source?
  dsimp only
  split
  · rfl
  · cases (Session.tokens (script.extended line)).value.2 with
    | some report =>
        dsimp only
        split <;> rfl
    | none =>
        dsimp only
        split
        · rfl
        · split <;> rfl

/-- Lines run the sources that they complete. -/
theorem feedAll_session (script : Script) (lines : List Bytes) :
    (script.feedAll lines).1.session = script.session.runAll (script.sources lines) := by
  induction lines generalizing script with
  | nil => rfl
  | cons line lines ih =>
      have first := script.feed_session line
      rw [feedAll, sources, Session.runAll_append, ← first]
      cases script.feed line with
      | mk next trouble =>
      cases trouble with
      | none => exact ih next
      | some trouble => rfl

end Script

/-- A call runs a text as one statement, or as a script. -/
inductive Call where
  | statement (text : Bytes)
  | script (text : Bytes)

namespace Session

def perform (session : Session) : Call → Session
  | .statement text => (session.run text).2
  | .script text => (Script.run session text).1.session

/-- These are the texts that a call runs as statements. -/
def sources (session : Session) : Call → List Bytes
  | .statement text => [text]
  | .script text => (Script.ofSession session).sources (Lines.ofBytes text).lines

/-- A call runs its sources. -/
theorem perform_runAll (session : Session) (call : Call) :
    session.perform call = session.runAll (session.sources call) := by
  cases call with
  | statement text => rfl
  | script text =>
      rw [perform, sources, Script.run]
      have fed := (Script.ofSession session).feedAll_session (Lines.ofBytes text).lines
      cases ran : (Script.ofSession session).feedAll (Lines.ofBytes text).lines with
      | mk script trouble =>
      rw [ran] at fed
      cases trouble with
      | some trouble => exact fed
      | none =>
          dsimp only
          split
          · exact fed
          · exact fed

/-- This is a session after calls. -/
def after (calls : List Call) : Session := calls.foldl perform .empty

section Kept

variable {Good : Session → Prop} (each : ∀ session source, Good session → Good (session.run source).2)
include each

/-- What each source keeps all of them keep. -/
theorem runAll_keeps {session : Session} (good : Good session) (sources : List Bytes) :
    Good (session.runAll sources) := by
  induction sources generalizing session with
  | nil => exact good
  | cons source sources ih => exact ih (each session source good)

/-- A call runs texts one after the other, so it keeps what every run keeps. -/
theorem perform_keeps {session : Session} (good : Good session) (call : Call) :
    Good (session.perform call) := by
  rw [perform_runAll]
  exact runAll_keeps each good (session.sources call)

end Kept

end Session

end Reckon
