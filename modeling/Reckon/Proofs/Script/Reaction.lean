/-
This file separates what a script keeps of its lines from what its session does: a session reacts to a
chunk of lines, and the numbers of the lines have no influence on that.
-/

import Reckon.Proofs.Session.Frames
import Reckon.Proofs.Script.Lines

namespace Reckon

open Text

/-- A reaction to a chunk of lines is the session after it, the chunk if its comment is still open, the
value or the trouble that came of it, and the notes of its stages. -/
structure Reaction where
  session : Session
  pending : Bytes
  value? : Option Value
  trouble? : Option Trouble
  notes : List Note

/-- This is how a session reacts to a chunk of lines. -/
def Session.react (session : Session) (chunk : Bytes) : Reaction :=
  if chunk.consistsOf isBlank then ⟨session, #[], none, none, []⟩
  else
    let read := tokens chunk
    match read.value.2 with
    | some report =>
        if report.isOpen then ⟨session, chunk, none, none, read.notes⟩
        else ⟨session, #[], none, some (.report report), read.notes⟩
    | none =>
        if Script.isInsignificant read.value.1 then ⟨session, #[], none, none, read.notes⟩
        else
          let (ran, next) := session.run chunk
          match ran.value with
          | .ok value => ⟨next, #[], some value, none, read.notes ++ ran.notes⟩
          | .error trouble => ⟨next, #[], none, some trouble, read.notes ++ ran.notes⟩

/-- This names the line that a report comes from. -/
def Trouble.inLine (number : Nat) : Trouble → Trouble
  | .report reported => .report (.staged (.line number) reported)
  | .fault found => .fault found

/-- The line of a result is named in its trouble alone. -/
theorem Result.inStage_line {A : Type} (number : Nat) (result : Result A) :
    result.inStage (.line number) =
      match result with
      | .ok value => .ok value
      | .error trouble => .error (trouble.inLine number) := by
  cases result with
  | ok value => rfl
  | error trouble => cases trouble <;> rfl

namespace Script

/-- This is the number of the first line of the chunk that a script is going to feed. -/
def first (script : Script) : Nat := if script.pending.isEmpty then script.line + 1 else script.start

/-- This is a script after its session reacted to its chunk. -/
def reacted (script : Script) (reaction : Reaction) : Script where
  session := reaction.session
  line := script.line + 1
  pending := reaction.pending
  start := script.first
  values := script.values ++ reaction.value?.toArray
  notes := script.notes ++ reaction.notes

/-- A line makes the session of a script react to the chunk that it ends. -/
theorem feed_eq (script : Script) (line : Bytes) :
    let reaction := script.session.react (script.extended line)
    script.feed line = (script.reacted reaction, reaction.trouble?.map (Trouble.inLine script.first)) := by
  have notes (first : Array Note) (second third : List Note) :
      first ++ second ++ third = first ++ (second ++ third) := by
    apply Array.ext'
    simp
  simp only [feed, Session.react, Result.inStage_line]
  split
  · simp [reacted, first]
  · cases (Session.tokens (script.extended line)).value.2 with
    | some report =>
        dsimp only
        split <;> simp [reacted, first, Trouble.inLine]
    | none =>
        dsimp only
        split
        · simp [reacted, first]
        · cases (script.session.run (script.extended line)).1.value with
          | ok value => simp [reacted, first, notes]
          | error trouble => simp [reacted, first, notes]

/-- Feeding stops at the first trouble. -/
theorem feedAll_cons (script : Script) (line : Bytes) (lines : List Bytes) :
    script.feedAll (line :: lines) =
      match (script.feed line).2 with
      | none => (script.feed line).1.feedAll lines
      | some trouble => ((script.feed line).1, some trouble) := by
  rw [feedAll]
  cases script.feed line with
  | mk next trouble => cases trouble <;> rfl

/-- More lines are fed when those before them cause no trouble. -/
theorem feedAll_append (script : Script) (lines more : List Bytes) :
    script.feedAll (lines ++ more) =
      match (script.feedAll lines).2 with
      | none => (script.feedAll lines).1.feedAll more
      | some trouble => ((script.feedAll lines).1, some trouble) := by
  induction lines generalizing script with
  | nil => rfl
  | cons line lines ih =>
      rw [List.cons_append, feedAll_cons, feedAll_cons]
      cases (script.feed line).2 with
      | none => exact ih _
      | some trouble => rfl

/-- A script is fed all lines of its text, and finished unless it ends before. -/
theorem run_eq (session : Session) (text : Bytes) :
    run session text =
      let fed := (ofSession session).feedAll (Lines.ofBytes text).lines
      (fed.1, fed.2.or (if (Lines.ofBytes text).tooLong then some tooLong else fed.1.finish)) := by
  rw [run]
  dsimp only
  cases (ofSession session).feedAll (Lines.ofBytes text).lines with
  | mk script trouble =>
  cases trouble with
  | none =>
      dsimp only
      split <;> rfl
  | some trouble => rfl

end Script

namespace Session

/-- These are the ways in which a session reacts to a chunk. -/
inductive Reacts (session : Session) (chunk : Bytes) : Reaction → Prop where
  | blank (blank : chunk.consistsOf isBlank = true) : Reacts session chunk ⟨session, #[], none, none, []⟩
  | opened {report : Report} (found : (tokens chunk).value.2 = some report)
      (isOpen : report.isOpen = true) :
      Reacts session chunk ⟨session, chunk, none, none, (tokens chunk).notes⟩
  | misread {report : Report} (found : (tokens chunk).value.2 = some report)
      (isClosed : report.isOpen = false) :
      Reacts session chunk ⟨session, #[], none, some (.report report), (tokens chunk).notes⟩
  | insignificant (found : (tokens chunk).value.2 = none)
      (comments : Script.isInsignificant (tokens chunk).value.1 = true) :
      Reacts session chunk ⟨session, #[], none, none, (tokens chunk).notes⟩
  | ran {value : Value} (solid : chunk.consistsOf isBlank = false)
      (found : (tokens chunk).value.2 = none)
      (significant : Script.isInsignificant (tokens chunk).value.1 = false)
      (ended : (session.run chunk).1.value = .ok value) :
      Reacts session chunk ⟨(session.run chunk).2, #[], some value, none,
        (tokens chunk).notes ++ (session.run chunk).1.notes⟩
  | failed {trouble : Trouble} (solid : chunk.consistsOf isBlank = false)
      (found : (tokens chunk).value.2 = none)
      (significant : Script.isInsignificant (tokens chunk).value.1 = false)
      (ended : (session.run chunk).1.value = .error trouble) :
      Reacts session chunk ⟨(session.run chunk).2, #[], none, some trouble,
        (tokens chunk).notes ++ (session.run chunk).1.notes⟩

/-- The reaction to a chunk is one of these. -/
theorem reacts (session : Session) (chunk : Bytes) : Reacts session chunk (session.react chunk) := by
  unfold react
  split
  · exact .blank ‹_›
  · rename_i solid
    rw [Bool.not_eq_true] at solid
    dsimp only
    split
    · split
      · exact .opened ‹_› ‹_›
      · exact .misread ‹_› ((Bool.not_eq_true _).mp ‹_›)
    · split
      · exact .insignificant ‹_› ‹_›
      · rename_i found significant
        rw [Bool.not_eq_true] at significant
        split
        · exact .ran solid found significant ‹_›
        · exact .failed solid found significant ‹_›

variable {session : Session} {chunk : Bytes} {reaction : Reaction}

/-- Nothing comes of a chunk while its comment is open. -/
theorem Reacts.pending (reacts : Reacts session chunk reaction)
    (isPending : reaction.pending.isEmpty = false) :
    reaction.pending = chunk ∧ reaction.session = session ∧ reaction.value? = none ∧
      ∃ report, (tokens chunk).value.2 = some report := by
  cases reacts with
  | opened found isOpen => exact ⟨rfl, rfl, rfl, _, found⟩
  | blank | misread | insignificant | ran | failed => cases isPending

/-- A session is not changed by a chunk that is reported. -/
theorem Reacts.reported {report : Report} (reacts : Reacts session chunk reaction)
    (reported : reaction.trouble? = some (.report report)) :
    reaction.session = session ∧ reaction.value? = none := by
  cases reacts with
  | misread => exact ⟨rfl, rfl⟩
  | failed solid found significant ended =>
      rcases session.run_binds chunk with ⟨same, _⟩ | ⟨_, _, _, _, _, ended', _⟩
      · exact ⟨same, rfl⟩
      · cases ended.symm.trans ended'
  | blank | opened | insignificant | ran => cases reported

end Session

namespace Script

/-- Lines that are fed without trouble are reacted to one after the other. -/
theorem exists_reaction {script next : Script} {line : Bytes} {lines : List Bytes}
    (fed : script.feedAll (line :: lines) = (next, none)) :
    ∃ reaction, script.session.Reacts (script.extended line) reaction ∧ reaction.trouble? = none ∧
      script.feed line = (script.reacted reaction, none) ∧
      (script.reacted reaction).feedAll lines = (next, none) := by
  have here := script.feed_eq line
  dsimp only at here
  rw [feedAll_cons, here] at fed
  dsimp only at fed
  split at fed
  · rename_i calm
    rw [calm] at here
    exact ⟨_, script.session.reacts _, Option.map_eq_none_iff.1 calm, here, fed⟩
  · cases fed

/-- A script keeps a chunk only while there is a report of it. -/
theorem feedAll_pending {script next : Script} {lines : List Bytes}
    (unreported : script.pending.isEmpty = true ∨
      ∃ report, (Session.tokens script.pending).value.2 = some report)
    (fed : script.feedAll lines = (next, none)) :
    next.pending.isEmpty = true ∨ ∃ report, (Session.tokens next.pending).value.2 = some report := by
  induction lines generalizing script with
  | nil =>
      cases fed
      exact unreported
  | cons line lines ih =>
      obtain ⟨reaction, reacts, _, _, later⟩ := exists_reaction fed
      refine ih ?_ later
      cases isPending : reaction.pending.isEmpty with
      | true => exact .inl isPending
      | false =>
          obtain ⟨same, _, _, report, found⟩ := reacts.pending isPending
          exact .inr ⟨report, by rw [reacted, same]; exact found⟩

/-- A script that ends well has no pending chunk. -/
theorem exists_of_run {session : Session} {text : Bytes} {script : Script}
    (ended : run session text = (script, none)) :
    (ofSession session).feedAll (Lines.ofBytes text).lines = (script, none) ∧
      (Lines.ofBytes text).tooLong = false ∧ script.pending = #[] := by
  rw [run_eq] at ended
  dsimp only at ended
  cases fed : (ofSession session).feedAll (Lines.ofBytes text).lines with
  | mk next trouble =>
  rw [fed] at ended
  dsimp only at ended
  obtain ⟨rfl, calm⟩ := Prod.mk.inj ended
  obtain ⟨rfl, calm⟩ := Option.or_eq_none_iff.1 calm
  split at calm
  · cases calm
  · rename_i short
    refine ⟨rfl, (Bool.not_eq_true _).mp short, ?_⟩
    rcases feedAll_pending (.inl rfl) fed with isEmpty | ⟨report, found⟩
    · exact Array.isEmpty_iff.1 isEmpty
    · rw [finish, found] at calm
      split at calm
      · exact Array.isEmpty_iff.1 ‹_›
      · cases calm

end Script

end Reckon
