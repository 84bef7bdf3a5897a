/-
This file compares a script with its parts. A text that follows a script which ended well is run as it
would be in a session of its own, and a script that stops has done what the lines before its last chunk
do.
-/

import Mathlib.Data.List.Induction
import Reckon.Proofs.Script.Reaction

namespace Reckon

open Text

/-- This is trouble with the same lines further down in a text. -/
def Trouble.furtherDown (lines : Nat) : Trouble → Trouble
  | .report (.staged (.line number) reported) => .report (.staged (.line (number + lines)) reported)
  | trouble => trouble

theorem Trouble.inLine_furtherDown (trouble : Trouble) (number lines : Nat) :
    (trouble.inLine number).furtherDown lines = trouble.inLine (number + lines) := by
  cases trouble <;> rfl

/-- This is the line that trouble comes from, if it names one. -/
def Trouble.line? : Trouble → Option Nat
  | .report (.staged (.line number) _) => some number
  | _ => none

/-- Trouble that names its line names a later one when there are lines before it. -/
theorem Trouble.line?_furtherDown (trouble : Trouble) (lines : Nat) :
    (trouble.furtherDown lines).line? = trouble.line?.map (· + lines) := by
  cases trouble with
  | fault fault => rfl
  | report report =>
      cases report with
      | staged stage report => cases stage <;> rfl
      | _ => rfl

namespace Script

/-- A joined script continues an earlier one with the lines of a script of its own. -/
structure Continues (earlier script joined : Script) : Prop where
  session : joined.session = script.session
  line : joined.line = script.line + earlier.line
  pending : joined.pending = script.pending
  start : script.pending.isEmpty = false → joined.start = script.start + earlier.line
  values : joined.values = earlier.values ++ script.values
  notes : joined.notes = earlier.notes ++ script.notes

/-- A script continues one that ended neutral, in the session that it left. -/
theorem continues_ofSession {earlier : Script} (neutral : earlier.pending = #[]) :
    Continues earlier (ofSession earlier.session) earlier where
  session := rfl
  line := (Nat.zero_add _).symm
  pending := neutral
  start := nofun
  values := Array.append_empty.symm
  notes := Array.append_empty.symm

variable {earlier script joined : Script}

/-- The chunk of a joined script starts further down by the earlier lines. -/
theorem Continues.first (continues : Continues earlier script joined) :
    joined.first = script.first + earlier.line := by
  rw [Script.first, Script.first, continues.pending]
  cases isEmpty : script.pending.isEmpty with
  | true =>
      rw [if_pos rfl, if_pos rfl, continues.line]
      omega
  | false => rw [if_neg Bool.false_ne_true, if_neg Bool.false_ne_true, continues.start isEmpty]

/-- A line does the same to a joined script, further down. -/
theorem Continues.feed (continues : Continues earlier script joined) (line : Bytes) :
    Continues earlier (script.feed line).1 (joined.feed line).1 ∧
      (joined.feed line).2 = (script.feed line).2.map (Trouble.furtherDown earlier.line) := by
  have chunk : joined.extended line = script.extended line := by
    rw [extended, extended, continues.pending]
  rw [feed_eq, feed_eq, chunk, continues.session, continues.first]
  dsimp only
  refine ⟨⟨rfl, ?_, rfl, fun _ => continues.first, ?_, ?_⟩, ?_⟩
  · rw [reacted, reacted, continues.line]
    exact Nat.add_right_comm _ _ _
  · rw [reacted, reacted, continues.values, Array.append_assoc]
  · rw [reacted, reacted, continues.notes]
    apply Array.ext'
    simp
  · cases (script.session.react (script.extended line)).trouble? with
    | none => rfl
    | some trouble => exact congrArg some (trouble.inLine_furtherDown _ _).symm

/-- Lines do the same to a joined script, further down. -/
theorem Continues.feedAll (continues : Continues earlier script joined) (lines : List Bytes) :
    Continues earlier (script.feedAll lines).1 (joined.feedAll lines).1 ∧
      (joined.feedAll lines).2 = (script.feedAll lines).2.map (Trouble.furtherDown earlier.line) := by
  induction lines generalizing script joined with
  | nil => exact ⟨continues, rfl⟩
  | cons line lines ih =>
      obtain ⟨later, trouble⟩ := continues.feed line
      rw [feedAll_cons, feedAll_cons, trouble]
      cases (script.feed line).2 with
      | none => exact ih later
      | some trouble => exact ⟨later, rfl⟩

/-- A joined script finishes like the later one, further down. -/
theorem Continues.finish (continues : Continues earlier script joined) :
    joined.finish = script.finish.map (Trouble.furtherDown earlier.line) := by
  rw [Script.finish, Script.finish, continues.pending]
  cases isEmpty : script.pending.isEmpty with
  | true => rfl
  | false =>
      rw [if_neg Bool.false_ne_true, if_neg Bool.false_ne_true, continues.start isEmpty]
      cases (Session.tokens script.pending).value.2 <;> rfl

/-- A script counts the lines that it was fed. -/
theorem feedAll_line {script next : Script} {lines : List Bytes}
    (fed : script.feedAll lines = (next, none)) : next.line = script.line + lines.length := by
  induction lines generalizing script with
  | nil =>
      cases fed
      rfl
  | cons line lines ih =>
      obtain ⟨_, _, _, _, later⟩ := exists_reaction fed
      rw [ih later, List.length_cons, Nat.add_comm lines.length, ← Nat.add_assoc]
      rfl

/-- An empty line does nothing to a script without a pending chunk but to be counted. -/
theorem feedAll_empty (neutral : script.pending = #[]) :
    script.feedAll [#[]] = ({ script with line := script.line + 1, start := script.line + 1 }, none) := by
  have chunk : script.extended #[] = #[] := by rw [extended, if_pos (Array.isEmpty_iff.2 neutral)]
  have first : script.first = script.line + 1 := if_pos (Array.isEmpty_iff.2 neutral)
  have calm : script.session.react #[] = ⟨script.session, #[], none, none, []⟩ := rfl
  rw [feedAll_cons, feed_eq, chunk, calm]
  simp [reacted, first, neutral, Script.feedAll]

/-- The lines of a text with a newline after it take a script that ends well to where it can go on. -/
theorem exists_neutral {session : Session} {first : Bytes} {ran : Script} {lines : List Bytes}
    (ended : run session first = (ran, none))
    (cases : lines = (Lines.ofBytes first).lines ∨ lines = (Lines.ofBytes first).lines ++ [#[]]) :
    ∃ neutral, (ofSession session).feedAll lines = (neutral, none) ∧ neutral.pending = #[] ∧
      neutral.session = ran.session ∧ neutral.values = ran.values ∧ neutral.notes = ran.notes := by
  obtain ⟨fed, _, neutral⟩ := exists_of_run ended
  rcases cases with rfl | rfl
  · exact ⟨ran, fed, neutral, rfl, rfl, rfl⟩
  · refine ⟨{ ran with line := ran.line + 1, start := ran.line + 1 }, ?_, neutral, rfl, rfl, rfl⟩
    rw [feedAll_append, fed]
    exact feedAll_empty neutral

end Script

/-- A text after a script that ended well is run as it would be by itself in the session that the script
left. Only the lines of its trouble are counted from the start of the script. -/
theorem script_joined (session : Session) (first second : Bytes) (ran : Script)
    (ended : Script.run session first = (ran, none)) :
    let later := Script.run ran.session second
    let joined := Script.run session (first ++ #[0x0A] ++ second)
    joined.1.values = ran.values ++ later.1.values ∧ joined.1.notes = ran.notes ++ later.1.notes ∧
      joined.1.session = later.1.session ∧
      joined.2 = later.2.map (Trouble.furtherDown (first.toList.count 0x0A + 1)) := by
  intro later joined
  obtain ⟨_, short, _⟩ := Script.exists_of_run ended
  obtain ⟨lines, split, count, cases⟩ := Lines.ofBytes_newline first second short
  obtain ⟨neutral, fed, isNeutral, session', values, notes⟩ := Script.exists_neutral ended cases
  have line : neutral.line = first.toList.count 0x0A + 1 := by
    rw [Script.feedAll_line fed, count]
    exact Nat.zero_add _
  obtain ⟨continues, trouble⟩ :=
    (Script.continues_ofSession isNeutral).feedAll (Lines.ofBytes second).lines
  have later_eq : later = _ := Script.run_eq ran.session second
  have joined_eq : joined = _ := Script.run_eq session (first ++ #[0x0A] ++ second)
  dsimp only at later_eq joined_eq
  rw [split, Script.feedAll_append, fed] at joined_eq
  dsimp only at joined_eq
  rw [← session'] at later_eq
  rw [joined_eq, later_eq, ← values, ← notes, ← line]
  refine ⟨continues.values, continues.notes, continues.session, ?_⟩
  dsimp only
  rw [trouble, continues.finish]
  cases (Script.feedAll (.ofSession neutral.session) (Lines.ofBytes second).lines).2 with
  | some trouble => rfl
  | none =>
      cases (Lines.ofBytes second).tooLong with
      | true => rfl
      | false => rfl

/-- A definition with a comment of two lines gives the unit, and the name behind it its value. The open string in
the line after the name is in the fourth line of the whole script. -/
theorem openString_joined :
    let first : Bytes := encode "n = 2 -\x7b two\n\x7d-"
    let second : Bytes := encode "n\n\""
    let ran := Script.run .empty first
    let later := Script.run ran.1.session second
    let joined := Script.run .empty (first ++ #[0x0A] ++ second)
    ran.2 = none ∧ joined.1.values = ran.1.values ++ later.1.values ∧
      joined.1.values.map Value.text = #[.ok "", .ok "2"] ∧
      joined.2 = later.2.map (Trouble.furtherDown 2) ∧
      later.2.bind Trouble.line? = some 2 ∧ joined.2.bind Trouble.line? = some 4 := by
  intro first second ran later joined
  have calm : ran.2 = none := Option.isNone_iff_eq_none.1 (by decide +kernel)
  have lines : first.toList.count 0x0A + 1 = 2 := by decide +kernel
  have defined : ran.1.values.map Value.text = #[.ok ""] := by decide +kernel
  have used : later.1.values.map Value.text = #[.ok "2"] := by decide +kernel
  have stopped : later.2.bind Trouble.line? = some 2 := by decide +kernel
  clear_value first second
  have ended : Script.run .empty first = (ran.1, none) := Prod.ext rfl calm
  obtain ⟨values, _, _, trouble⟩ := script_joined .empty first second ran.1 ended
  rw [lines] at trouble
  refine ⟨calm, values, ?_, trouble, stopped, ?_⟩
  · rw [values, Array.map_append, defined, used]
    rfl
  · obtain ⟨found, is, inLine⟩ := Option.bind_eq_some_iff.1 stopped
    rw [trouble, is, Option.map_some, Option.bind_some, Trouble.line?_furtherDown, inLine]
    rfl

namespace Script

/-- A script that was fed lines did, before its chunk, what the lines before the chunk do alone. -/
structure Resumable (session : Session) (fed : List Bytes) (script : Script) : Prop where
  line : script.line = fed.length
  positive : 0 < script.first
  inside : script.first ≤ fed.length + 1
  prior : ∃ prior, (ofSession session).feedAll (fed.take (script.first - 1)) = (prior, none) ∧
    prior.pending = #[] ∧ prior.values = script.values ∧ prior.session = script.session

theorem resumable_ofSession (session : Session) : Resumable session [] (ofSession session) :=
  ⟨rfl, Nat.one_pos, Nat.le_refl _, ofSession session, rfl, rfl, rfl, rfl⟩

/-- A script can still be resumed after one more line. -/
theorem Resumable.feed {session : Session} {fed : List Bytes} {script next : Script} {line : Bytes}
    (resumable : Resumable session fed script) (whole : (ofSession session).feedAll fed = (script, none))
    (outcome : script.feed line = (next, none)) : Resumable session (fed ++ [line]) next := by
  obtain ⟨count, positive, inside, prior, earlier, neutral, values, same⟩ := resumable
  have whole' : (ofSession session).feedAll (fed ++ [line]) = (next, none) := by
    rw [feedAll_append, whole]
    dsimp only
    rw [feedAll_cons, outcome]
    rfl
  have reacts := script.session.reacts (script.extended line)
  rw [feed_eq] at outcome
  obtain ⟨rfl, _⟩ := Prod.mk.inj outcome
  have length : (fed ++ [line]).length = fed.length + 1 := by simp
  have count' : script.line + 1 = (fed ++ [line]).length := by rw [length, count]
  cases isEmpty : (script.session.react (script.extended line)).pending.isEmpty with
  | true =>
      -- The chunk is over, so all lines are before the next one.
      have first : (script.reacted (script.session.react (script.extended line))).first =
          (fed ++ [line]).length + 1 := by
        rw [Script.first, reacted, if_pos isEmpty, count']
      refine ⟨count', by omega, by omega, _, ?_, Array.isEmpty_iff.1 isEmpty, rfl, rfl⟩
      rw [first, Nat.add_sub_cancel, List.take_length]
      exact whole'
  | false =>
      have first : (script.reacted (script.session.react (script.extended line))).first =
          script.first := by
        rw [Script.first, reacted, if_neg (by rw [isEmpty]; exact Bool.false_ne_true)]
      obtain ⟨_, session', value, _⟩ := reacts.pending isEmpty
      refine ⟨count', by omega, by omega, prior, ?_, neutral, ?_, ?_⟩
      · rw [first, List.take_append_of_le_length (by omega)]
        exact earlier
      · rw [values, reacted, value]
        exact Array.append_empty.symm
      · rw [same, reacted, session']

/-- A script that was fed lines without trouble can be resumed. -/
theorem resumable_feedAll {session : Session} {lines : List Bytes} {script : Script}
    (fed : (ofSession session).feedAll lines = (script, none)) : Resumable session lines script := by
  induction lines using List.reverseRecOn generalizing script with
  | nil =>
      cases fed
      exact resumable_ofSession session
  | append_singleton lines line ih =>
      rw [feedAll_append] at fed
      cases before : (ofSession session).feedAll lines with
      | mk middle trouble =>
      rw [before] at fed
      cases trouble with
      | some trouble => cases fed
      | none =>
          refine (ih before).feed before ?_
          dsimp only at fed
          rw [feedAll_cons] at fed
          cases outcome : middle.feed line with
          | mk next trouble =>
          rw [outcome] at fed
          cases trouble with
          | some trouble => cases fed
          | none =>
              cases fed
              rfl

/-- Trouble comes up at a line that follows lines without trouble. -/
theorem exists_of_feedAll {script stopped : Script} {lines : List Bytes} {trouble : Trouble}
    (fed : script.feedAll lines = (stopped, some trouble)) :
    ∃ before line after middle, lines = before ++ line :: after ∧
      script.feedAll before = (middle, none) ∧ middle.feed line = (stopped, some trouble) := by
  induction lines generalizing script with
  | nil => cases fed
  | cons line lines ih =>
      rw [feedAll_cons] at fed
      cases outcome : script.feed line with
      | mk next first =>
      rw [outcome] at fed
      cases first with
      | none =>
          obtain ⟨before, line', after, middle, rfl, reached, stops⟩ := ih fed
          refine ⟨line :: before, line', after, middle, rfl, ?_, stops⟩
          rw [feedAll_cons, outcome]
          exact reached
      | some first =>
          cases fed
          exact ⟨[], line, lines, script, rfl, rfl, outcome⟩

/-- A line that is reported leaves nothing behind. -/
theorem feed_stopped {script stopped : Script} {line : Bytes} {number : Nat} {report : Report}
    (outcome : script.feed line = (stopped, some (.report (.staged (.line number) report)))) :
    script.first = number ∧ stopped.values = script.values ∧ stopped.session = script.session := by
  have reacts := script.session.reacts (script.extended line)
  rw [feed_eq] at outcome
  obtain ⟨rfl, reported⟩ := Prod.mk.inj outcome
  obtain ⟨trouble, found, same⟩ := Option.map_eq_some_iff.1 reported
  cases trouble with
  | fault fault => cases same
  | report report =>
      cases same
      obtain ⟨session', value⟩ := reacts.reported found
      refine ⟨rfl, ?_, session'⟩
      rw [reacted, value]
      exact Array.append_empty

/-- The lines before the chunk of a script are run without trouble by themselves. -/
theorem Resumable.run {session : Session} {text : Bytes} {fed : List Bytes} {script : Script}
    (resumable : Resumable session fed script) (inside : fed <+: (Lines.ofBytes text).lines) :
    ∃ prior, Script.run session (Lines.leading (script.first - 1) text) = (prior, none) ∧
      prior.values = script.values ∧ prior.session = script.session := by
  obtain ⟨_, _, bound, prior, earlier, neutral, values, same⟩ := resumable
  obtain ⟨more, split⟩ := inside
  have within : script.first - 1 ≤ fed.length := by omega
  have within' : script.first - 1 ≤ (Lines.ofBytes text).lines.length := by
    rw [← split, List.length_append]
    omega
  refine ⟨prior, ?_, values, same⟩
  rw [run_eq, Lines.ofBytes_leading text _ within', ← split, List.take_append_of_le_length within,
    earlier]
  dsimp only
  rw [finish, if_pos (Array.isEmpty_iff.2 neutral)]
  rfl

end Script

/-- A script that stops with trouble in a line has done what the lines before it do by themselves, and
nothing more. The line is the first one of the chunk that the trouble is about. -/
theorem script_stopped (session : Session) (text : Bytes) (script : Script) (number : Nat)
    (report : Report)
    (stopped : Script.run session text = (script, some (.report (.staged (.line number) report)))) :
    0 < number ∧ ∃ prior, Script.run session (Lines.leading (number - 1) text) = (prior, none) ∧
      prior.values = script.values ∧ prior.session = script.session := by
  rw [Script.run_eq] at stopped
  dsimp only at stopped
  cases fed : (Script.ofSession session).feedAll (Lines.ofBytes text).lines with
  | mk next trouble =>
  rw [fed] at stopped
  obtain ⟨rfl, stopped⟩ := Prod.mk.inj stopped
  cases trouble with
  | some trouble =>
      cases stopped
      obtain ⟨before, line, after, middle, lines, reached, stops⟩ := Script.exists_of_feedAll fed
      have resumable := Script.resumable_feedAll reached
      obtain ⟨rfl, values, same⟩ := Script.feed_stopped stops
      rw [values, same]
      have inside : before <+: (Lines.ofBytes text).lines := lines ▸ List.prefix_append _ _
      exact ⟨resumable.positive, resumable.run inside⟩
  | none =>
      have resumable := Script.resumable_feedAll fed
      rw [Option.none_or] at stopped
      split at stopped
      · cases stopped
      · dsimp only at stopped
        rw [Script.finish] at stopped
        split at stopped
        · cases stopped
        · rename_i isPending
          -- Nothing is held back, so the reported line is the one behind all that were fed.
          have first : next.first = next.start := if_neg isPending
          split at stopped
          · cases stopped
            rw [← first]
            exact ⟨resumable.positive, resumable.run List.prefix_rfl⟩
          · cases stopped

/-- Trouble that names a line is a report in that line. -/
theorem Trouble.exists_of_line? {trouble : Trouble} {number : Nat} (found : trouble.line? = some number) :
    ∃ report, trouble = .report (.staged (.line number) report) := by
  unfold line? at found
  split at found
  · cases found
    exact ⟨_, rfl⟩
  · cases found

/-- A name without a value behind a comment of two lines is in the second line of its script, and the
definition in the first line is in force. -/
theorem unboundName_stopped :
    ∃ script report, Script.run .empty (encode "n = 2\n-\x7b two\n\x7d- m") =
        (script, some (.report (.staged (.line 2) report))) ∧
      ∃ prior, Script.run .empty (encode "n = 2\n") = (prior, none) ∧
        prior.values = script.values ∧ prior.session = script.session := by
  have stops : (Script.run .empty (encode "n = 2\n-\x7b two\n\x7d- m")).2.bind Trouble.line? = some 2 := by
    decide +kernel
  have front : Lines.leading 1 (encode "n = 2\n-\x7b two\n\x7d- m") = encode "n = 2\n" := by
    decide +kernel
  cases ran : Script.run .empty (encode "n = 2\n-\x7b two\n\x7d- m") with
  | mk script trouble =>
  rw [ran] at stops
  obtain ⟨trouble, rfl, found⟩ := Option.bind_eq_some_iff.1 stops
  obtain ⟨report, rfl⟩ := Trouble.exists_of_line? found
  obtain ⟨_, prior, earlier, same⟩ := script_stopped .empty _ script 2 report ran
  rw [← front]
  exact ⟨script, report, rfl, prior, earlier, same⟩

end Reckon
