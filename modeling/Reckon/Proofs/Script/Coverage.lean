/-
This file shows that the texts which a script runs say together what its whole text says: no token is
lost, run twice or joined with another one.
-/

import Reckon.Proofs.Script.Reaction
import Reckon.Proofs.Session.Held
import Reckon.Proofs.Token.Content

namespace Reckon

open Text

namespace Session

/-- These are the outcomes of texts that are run one after the other. -/
def outcomes (session : Session) : List Bytes → List (Result Value)
  | [] => []
  | source :: sources => (session.run source).1.value :: (session.run source).2.outcomes sources

/-- Sources have their outcomes one after the other. -/
theorem outcomes_append (session : Session) (first second : List Bytes) :
    session.outcomes (first ++ second) =
      session.outcomes first ++ (session.runAll first).outcomes second := by
  induction first generalizing session with
  | nil => rfl
  | cons source first ih =>
      rw [List.cons_append, outcomes, ih, outcomes]
      rfl

variable {source : Bytes}

/-- The tokens of a session come with the report of the reading. -/
theorem tokens_report (source : Bytes) :
    (tokens source).value.2 = (Reading.ofBytes source).report?.map (.staged .lexing) := by
  rw [tokens]
  cases (Reading.ofBytes source).report? <;> rfl

/-- A text that is not reported has no misreadings. -/
theorem misreadings_unreported (unreported : (tokens source).value.2 = none) :
    (Reading.ofBytes source).misreadings = [] := by
  rw [tokens_report, Option.map_eq_none_iff] at unreported
  have leaves := (Reading.ofBytes source).leaves_eq
  rw [Reading.leaves, unreported] at leaves
  exact List.map_eq_nil_iff.1 leaves.symm

/-- A report that is open tells of an open comment. -/
theorem misreadings_open {report : Report} (found : (tokens source).value.2 = some report)
    (isOpen : report.isOpen = true) :
    (Reading.ofBytes source).misreadings.any Misreading.isOpenComment = true := by
  rw [tokens_report, Option.map_eq_some_iff] at found
  obtain ⟨read, reported, rfl⟩ := found
  have leaves := (Reading.ofBytes source).leaves_eq
  rw [Reading.leaves, reported] at leaves
  change read.leaves = _ at leaves
  change read.leaves.any _ = true at isOpen
  rw [leaves, List.any_map] at isOpen
  exact isOpen

end Session

/-- A pending text ends in an open comment, and its lexemes stay in their lines. -/
def Continuable (pending : Bytes) : Prop :=
  ∃ segments tail misreadings, Cut .start pending.glyphs segments tail misreadings ∧
    misreadings.any Misreading.isOpenComment = true ∧ Lined segments

/-- A line without a newline among its bytes has none among its glyphs. -/
theorem inLine_of_not_mem {line : Bytes} (outside : 0x0A ∉ line.toList) : InLine line.glyphs := by
  have none : (line.glyphs.countP fun glyph => glyph.is '\n') = 0 :=
    (Utf8.count_newline line.toList).trans (List.count_eq_zero.2 outside)
  intro glyph member
  simpa using List.countP_eq_zero.1 none glyph member

namespace Script

/-- These are the glyphs of lines, each of them ended by a newline. -/
def ended (lines : List Bytes) : List Glyph := lines.flatMap fun line => line.glyphs ++ [glyphOf '\n']

/-- This is what a script has not run yet: its pending chunk, which the next line belongs to, and the
lines. -/
def unread (script : Script) (lines : List Bytes) : List Glyph :=
  if script.pending.isEmpty then ended lines
  else script.pending.glyphs ++ glyphOf '\n' :: ended lines

variable {script next : Script} {line : Bytes} {reaction : Reaction}

/-- What is not read yet is the pending chunk with the line, and the lines behind it. -/
theorem unread_cons (script : Script) (line : Bytes) (lines : List Bytes) :
    script.unread (line :: lines) = (script.extended line).glyphs ++ glyphOf '\n' :: ended lines := by
  have first : ended (line :: lines) = line.glyphs ++ glyphOf '\n' :: ended lines := by
    rw [ended, List.flatMap_cons, List.append_assoc]
    rfl
  rw [unread, extended, first]
  split
  · rfl
  · rw [glyphs_newline, List.append_assoc, List.cons_append]

/-- In the chunk that a line ends, no lexeme but a comment goes over the end of a line. -/
theorem exists_lined_cut (held : script.pending.isEmpty = true ∨ Continuable script.pending)
    (outside : 0x0A ∉ line.toList) : ∃ segments tail misreadings,
      Cut .start (script.extended line).glyphs segments tail misreadings ∧ Lined segments := by
  have inLine := inLine_of_not_mem outside
  rw [extended]
  split
  · obtain ⟨segments, tail, misreadings, cut⟩ := exists_cut .start line.glyphs
    exact ⟨segments, tail, misreadings, cut, cut.lined inLine⟩
  · rename_i isPending
    obtain ⟨segments, tail, misreadings, cut, isOpen, lined⟩ := held.resolve_left isPending
    rw [glyphs_newline]
    exact cut.grow isOpen lined inLine

theorem sources_cons (lines : List Bytes) (fed : script.feed line = (next, none)) :
    script.sources (line :: lines) = (script.source? line).toList ++ next.sources lines := by
  rw [sources, fed]

/-- A session without trouble has a value for the text that it runs, if there is one. -/
theorem reacts_outcomes (reacts : script.session.Reacts (script.extended line) reaction)
    (calm : reaction.trouble? = none) :
    script.session.outcomes (script.source? line).toList = reaction.value?.toList.map .ok := by
  cases reacts with
  | blank blank => simp [source?, blank, Session.outcomes]
  | opened found => simp [source?, found, Session.outcomes]
  | insignificant found comments => simp [source?, found, comments, Session.outcomes]
  | ran solid found proper ended => simp [source?, solid, found, proper, Session.outcomes, ended]
  | misread | failed => cases calm

/-- The values of a script are the outcomes of the texts that it runs. -/
theorem feedAll_outcomes {lines : List Bytes} (fed : script.feedAll lines = (next, none)) :
    ∃ values, next.values.toList = script.values.toList ++ values ∧
      script.session.outcomes (script.sources lines) = values.map .ok := by
  induction lines generalizing script with
  | nil =>
      cases fed
      exact ⟨[], (List.append_nil _).symm, rfl⟩
  | cons line lines ih =>
      obtain ⟨reaction, reacts, calm, here, later⟩ := exists_reaction fed
      obtain ⟨values, added, outcomes⟩ := ih later
      have session := script.feed_session line
      rw [here] at session
      refine ⟨reaction.value?.toList ++ values, ?_, ?_⟩
      · rw [added, reacted]
        simp
      · rw [sources_cons lines here, Session.outcomes_append, ← session, outcomes,
          reacts_outcomes reacts calm, List.map_append]

/-- A text of comments says nothing. -/
theorem spoken_insignificant {source : Bytes} {segments : List Segment} {tail : List Glyph}
    {misreadings : List Misreading} (cut : Cut .start source.glyphs segments tail misreadings)
    (comments : isInsignificant (Session.tokens source).value.1 = true) :
    spoken (segments.map fun segment => (segment.kind, segment.lexeme)) = [] := by
  rw [← tokensFrom_says .start tail cut.proper, List.filterMap_eq_nil_iff]
  rw [Session.tokens_buffer, cut.reading, isInsignificant, List.all_toArray, List.all_map,
    List.all_eq_true] at comments
  intro token member
  have either := Bool.or_eq_true_iff.1 (comments token member)
  exact if_pos (either.imp of_decide_eq_true of_decide_eq_true)

/-- Without trouble a chunk is held back, or it is clean and what it says is run. -/
theorem reacts_covered (held : script.pending.isEmpty = true ∨ Continuable script.pending)
    (outside : 0x0A ∉ line.toList) (reacts : script.session.Reacts (script.extended line) reaction)
    (calm : reaction.trouble? = none) :
    (reaction.pending = script.extended line ∧ reaction.pending.isEmpty = false ∧
        Continuable reaction.pending ∧ script.source? line = none) ∨
      (reaction.pending = #[] ∧ ∃ lexemes contents, Clean (script.extended line).glyphs lexemes ∧
        (script.source? line).toList.mapM content = .ok contents ∧ contents.flatten = spoken lexemes) := by
  obtain ⟨segments, tail, misreadings, cut, lined⟩ := exists_lined_cut held outside
  have read : (Reading.ofBytes (script.extended line)).misreadings = misreadings := by rw [cut.reading]
  cases reacts with
  | blank blank =>
      have silent : script.source? line = none := by simp [source?, blank]
      rw [silent]
      exact .inr ⟨rfl, [], [], .finished (List.all_eq_true.1 blank), rfl, rfl⟩
  | opened found isOpen =>
      have silent : script.source? line = none := by simp [source?, found]
      have comment := Session.misreadings_open found isOpen
      rw [read] at comment
      -- An open comment needs a glyph at least, so what is held back is not empty.
      refine .inl ⟨rfl, ?_, ⟨segments, tail, misreadings, cut, comment, lined⟩, silent⟩
      rw [← Bool.not_eq_true, Array.isEmpty_iff]
      intro empty
      dsimp only at empty
      rw [empty] at read
      rw [← read] at comment
      exact absurd comment (by decide)
  | insignificant found comments =>
      have silent : script.source? line = none := by simp [source?, found, comments]
      rw [Session.misreadings_unreported found] at read
      rw [silent]
      exact .inr ⟨rfl, _, [], cut.clean read.symm lined, rfl, (spoken_insignificant cut comments).symm⟩
  | ran solid found proper ended =>
      have runs : script.source? line = some (script.extended line) := by
        simp [source?, solid, found, proper]
      rw [Session.misreadings_unreported found] at read
      have clean := cut.clean read.symm lined
      rw [runs]
      refine .inr ⟨rfl, _, [_], clean, ?_, List.flatten_singleton⟩
      rw [Option.toList_some, List.mapM_cons, clean.content]
      rfl
  | misread | failed => cases calm

/-- What a script has not run yet says the same as the texts that it runs. -/
theorem feedAll_covered {lines : List Bytes}
    (held : script.pending.isEmpty = true ∨ Continuable script.pending)
    (outside : ∀ line ∈ lines, 0x0A ∉ line.toList) (fed : script.feedAll lines = (next, none))
    (complete : next.pending = #[]) :
    ∃ lexemes contents, Clean (script.unread lines) lexemes ∧
      (script.sources lines).mapM content = .ok contents ∧ contents.flatten = spoken lexemes := by
  induction lines generalizing script with
  | nil =>
      cases fed
      rw [unread, if_pos (Array.isEmpty_iff.2 complete)]
      exact ⟨[], [], .finished (List.forall_mem_nil _), rfl, rfl⟩
  | cons line lines ih =>
      obtain ⟨here, there⟩ := List.forall_mem_cons.1 outside
      obtain ⟨reaction, reacts, calm, first, later⟩ := exists_reaction fed
      rw [sources_cons lines first, unread_cons]
      rcases reacts_covered held here reacts calm with
        ⟨pending, isPending, continuable, silent⟩ | ⟨closed, lexemes, contents, clean, said, same⟩
      · -- Nothing is run, and the chunk with the lines is still unread as a whole.
        obtain ⟨lexemes, contents, clean, said, same⟩ := ih (.inr continuable) there later
        rw [unread, reacted, if_neg (by simpa using isPending), pending] at clean
        rw [silent]
        exact ⟨lexemes, contents, clean, said, same⟩
      · obtain ⟨lexemes', contents', clean', said', same'⟩ :=
          ih (.inl (Array.isEmpty_iff.2 closed)) there later
        rw [unread, reacted, if_pos (Array.isEmpty_iff.2 closed)] at clean'
        refine ⟨lexemes ++ lexemes', contents ++ contents', clean.newline clean', ?_, ?_⟩
        · rw [List.mapM_append, said, said']
          rfl
        · rw [List.flatten_append, same, same', spoken_append]

end Script

namespace Lines

/-- A row is its line, perhaps with a carriage return behind it. -/
theorem ofRow_cases (row : List UInt8) :
    Utf8.read row = (ofRow row).glyphs ∨ Utf8.read row = (ofRow row).glyphs ++ [glyphOf '\r'] := by
  by_cases returned : row.getLast? = some 0x0D
  · obtain ⟨line, rfl⟩ := List.getLast?_eq_some_iff.1 returned
    rw [ofRow_return, Utf8.read_return]
    exact .inr rfl
  · rw [ofRow_plain returned]
    exact .inl rfl

/-- There is no newline in a line. -/
theorem not_mem_ofRow {row : List UInt8} (outside : 0x0A ∉ row) : 0x0A ∉ (ofRow row).toList := by
  by_cases returned : row.getLast? = some 0x0D
  · obtain ⟨line, rfl⟩ := List.getLast?_eq_some_iff.1 returned
    rw [ofRow_return]
    exact mt (List.mem_append_left _) outside
  · rw [ofRow_plain returned]
    exact outside

/-- A text is a variant of its lines with a newline behind each of them. -/
theorem variant_rows (text : List UInt8) :
    LineVariant (Script.ended ((rows text).map ofRow)) (Utf8.read text) := by
  have ended (row : List UInt8) (lines : List Bytes) : Script.ended (ofRow row :: lines) =
      (ofRow row).glyphs ++ glyphOf '\n' :: Script.ended lines := List.append_assoc ..
  induction text using rows_induction with
  | nil => exact .nil
  | last row some outside =>
      rw [rows_last some outside, List.map_singleton, ended]
      rcases ofRow_cases row with plain | returned
      · rw [plain, ← List.append_nil (ofRow row).glyphs, List.append_assoc]
        exact .append_left _ .missing
      · rw [returned]
        exact .append_left _ .bare
  | newline row rest outside ih =>
      rw [rows_cons outside, List.map_cons, ended, Utf8.read_newline]
      rcases ofRow_cases row with plain | returned
      · rw [plain]
        exact .append_left _ (.same _ ih)
      · rw [returned, List.append_assoc]
        exact .append_left _ (.returned ih)

/-- There is no newline in a row. -/
theorem not_mem_of_mem_rows {text row : List UInt8} (member : row ∈ rows text) : 0x0A ∉ row := by
  refine not_mem_of_mem_splitOn text row ?_
  rcases splitOn_cases text with same | same
  · rw [same]
    exact member
  · rw [same]
    exact List.mem_append_left _ member

/-- A text without a line that is too long has the lines of all its rows. -/
theorem lines_eq {text : Bytes} (complete : (ofBytes text).tooLong = false) :
    (ofBytes text).lines = (rows text.toList).map ofRow := by
  rw [ofBytes_eq] at complete ⊢
  rw [ofRows_short (by simpa [ofRows] using complete)]

end Lines

/-- A script that ends well runs texts that say, one after the other, what its whole text says. Its values
are the outcomes of these texts, each of them run once and in this order. -/
theorem script_covered (session : Session) (text : Bytes) (script : Script)
    (ended : Script.run session text = (script, none)) :
    let sources := session.sources (.script text)
    (∃ contents, sources.mapM content = .ok contents ∧ content text = .ok contents.flatten) ∧
      session.outcomes sources = script.values.toList.map .ok ∧
      script.session = session.runAll sources := by
  intro sources
  obtain ⟨fed, complete, closed⟩ := Script.exists_of_run ended
  have lines := Lines.lines_eq complete
  refine ⟨?_, ?_, ?_⟩
  · have outside : ∀ line ∈ (Lines.ofBytes text).lines, 0x0A ∉ line.toList := by
      rw [lines, List.forall_mem_map]
      exact fun row member => Lines.not_mem_ofRow (Lines.not_mem_of_mem_rows member)
    obtain ⟨lexemes, contents, clean, said, same⟩ :=
      Script.feedAll_covered (.inl rfl) outside fed closed
    have fresh : (Script.ofSession session).unread (Lines.ofBytes text).lines =
        Script.ended (Lines.ofBytes text).lines := if_pos rfl
    rw [fresh, lines] at clean
    obtain ⟨lexemes', clean', unchanged⟩ := clean.variant (Lines.variant_rows text.toList)
    have whole : content text = .ok (spoken lexemes') := Clean.content clean'
    refine ⟨contents, said, ?_⟩
    rw [whole, same, spoken, unchanged, spoken]
  · obtain ⟨values, added, outcomes⟩ := Script.feedAll_outcomes fed
    rw [added]
    exact outcomes
  · have performed := session.perform_runAll (.script text)
    rw [Session.perform, ended] at performed
    exact performed

/-- A definition goes over two lines with the end of a comment between them, and all lines end with
carriage returns. -/
theorem brokenDefinition_covered :
    let text := encode "n = 1 -\x7b one\r\n\x7d- + 2\r\n\r\n-- three\r\nn\r"
    let first := encode "n = 1 -\x7b one\n\x7d- + 2"
    ∃ script, Script.run .empty text = (script, none) ∧
      Session.empty.sources (.script text) = [first, encode "n"] ∧
      (∃ contents, [first, encode "n"].mapM content = .ok contents ∧
        content text = .ok contents.flatten) ∧
      script.values.size = 2 := by
  intro text first
  have ends : (Script.run .empty text).2.isNone = true := by decide +kernel
  have sources : Session.empty.sources (.script text) = [first, encode "n"] := by decide +kernel
  clear_value text first
  cases ran : Script.run .empty text with
  | mk script trouble =>
  rw [ran] at ends
  obtain rfl := Option.isNone_iff_eq_none.1 ends
  obtain ⟨covered, outcomes, _⟩ := script_covered .empty text script ran
  rw [sources] at covered outcomes
  refine ⟨script, rfl, sources, covered, ?_⟩
  have size := congrArg List.length outcomes
  rw [List.length_map, Array.length_toList] at size
  exact size.symm

end Reckon
