/-
This file describes what a text says, whatever the places of its tokens: texts without misreadings that
follow each other line by line say together what they say alone.
-/

import Reckon.Proofs.Token.Returns

namespace Reckon

open Text Lexeme

/-- A text is clean when it is lexemes with blanks between them, and no lexeme but a comment goes over the
end of a line. -/
inductive Clean : List Glyph → List (Kind × List Glyph) → Prop where
  | finished {tail : List Glyph} (blank : AllBlank tail) : Clean tail []
  | lexeme {gap : List Glyph} {first : Glyph} {rest : List Glyph} {kind : Kind} {length : Nat}
      {lexemes : List (Kind × List Glyph)} (blank : AllBlank gap)
      (solid : isBlank first.character = false) (found : scan first rest = .lexeme kind length)
      (inLine : kind ≠ .comment → InLine ((first :: rest).take length))
      (later : Clean ((first :: rest).drop length) lexemes) :
      Clean (gap ++ first :: rest) ((kind, (first :: rest).take length) :: lexemes)

/-- Comments say nothing. -/
def significant (lexemes : List (Kind × List Glyph)) : List (Kind × List Glyph) :=
  lexemes.filter fun lexeme => lexeme.1 ≠ .comment

theorem significant_append (first second : List (Kind × List Glyph)) :
    significant (first ++ second) = significant first ++ significant second :=
  List.filter_append ..

theorem significant_comment (comment : List Glyph) (lexemes : List (Kind × List Glyph)) :
    significant ((.comment, comment) :: lexemes) = significant lexemes := by
  simp [significant]

/-- Every other lexeme stays. -/
theorem significant_proper {kind : Kind} (proper : kind ≠ .comment) (lexeme : List Glyph)
    (lexemes : List (Kind × List Glyph)) :
    significant ((kind, lexeme) :: lexemes) = (kind, lexeme) :: significant lexemes := by
  simp [significant, proper]

namespace Clean

variable {glyphs text : List Glyph} {lexemes : List (Kind × List Glyph)}

/-- Blanks before a clean text leave it clean. -/
theorem indented {gap : List Glyph} (blank : AllBlank gap) (clean : Clean glyphs lexemes) :
    Clean (gap ++ glyphs) lexemes := by
  cases clean with
  | finished blank' => exact .finished (List.forall_mem_append.2 ⟨blank, blank'⟩)
  | lexeme blank' solid found inLine later =>
      rw [← List.append_assoc]
      exact .lexeme (List.forall_mem_append.2 ⟨blank, blank'⟩) solid found inLine later

/-- Clean texts follow each other after a newline. -/
theorem newline (clean : Clean glyphs lexemes) {more : List Glyph} {others : List (Kind × List Glyph)}
    (other : Clean more others) : Clean (glyphs ++ glyphOf '\n' :: more) (lexemes ++ others) := by
  induction clean with
  | finished blank =>
      rw [List.append_cons]
      exact other.indented (List.forall_mem_append.2 ⟨blank, List.forall_mem_singleton.2 (by decide)⟩)
  | @lexeme gap first rest kind length lexemes blank solid found inLine later ih =>
      have token : (scan first rest).token? = some (kind, length) := by rw [found, Scan.token?]
      obtain ⟨scanned, front, back⟩ := scan_token_newline more token
      rw [List.append_assoc, List.cons_append, List.cons_append, ← front]
      rw [← front] at inLine
      rw [← back] at ih
      exact .lexeme blank solid (scanned.trans found) inLine ih

/-- Only the comments of a variant differ. -/
theorem variant (clean : Clean glyphs lexemes) (variant : LineVariant glyphs text) :
    ∃ lexemes', Clean text lexemes' ∧ significant lexemes' = significant lexemes := by
  induction clean generalizing text with
  | finished blank => exact ⟨[], .finished (variant.blank blank), rfl⟩
  | @lexeme gap first rest kind length lexemes blank solid found inLine later ih =>
      obtain ⟨gap', text', rfl, blank', variant'⟩ := variant.split_blank blank
      have here : first.is '\n' = false :=
        is_newline_of_class (fun character => !isBlank character) (by decide) (by simp [solid])
      obtain ⟨rest', rfl, variant''⟩ := variant'.cons here
      by_cases comment : kind = .comment
      · subst comment
        obtain ⟨length', found', behind⟩ := scan_comment_variant variant'' found
        obtain ⟨lexemes', later', same⟩ := ih behind
        refine ⟨(.comment, (first :: rest').take length') :: lexemes', ?_, ?_⟩
        · exact .lexeme blank' solid found' (absurd rfl) later'
        · rw [significant_comment, significant_comment, same]
      · have found' := scan_variant variant'' found comment (inLine comment)
        obtain ⟨_, inside, _⟩ := scan_fits first rest kind length (by rw [found, Scan.token?])
        obtain ⟨taken, behind⟩ := variant'.take_drop inside (inLine comment)
        obtain ⟨lexemes', later', same⟩ := ih behind
        refine ⟨(kind, (first :: rest').take length) :: lexemes', ?_, ?_⟩
        · exact .lexeme blank' solid found' (by rw [taken]; exact inLine) later'
        · rw [significant_proper comment, significant_proper comment, same, taken]

/-- A clean text is cut into its lexemes, and nothing of it is misread. -/
theorem exists_cut (clean : Clean glyphs lexemes) (place : Location) :
    ∃ segments tail, Cut place glyphs segments tail [] ∧
      lexemes = segments.map fun segment => (segment.kind, segment.lexeme) := by
  induction clean generalizing place with
  | @finished tail blank => exact ⟨[], tail, .finished blank, rfl⟩
  | @lexeme gap first rest kind length lexemes blank solid found inLine later ih =>
      obtain ⟨segments, tail, cut, rfl⟩ := ih (Segment.after ⟨gap, kind, (first :: rest).take length⟩ place)
      have whole := Cut.segment blank solid (by rw [found, Scan.token?]) cut
      rw [found] at whole
      exact ⟨_, tail, whole, rfl⟩

end Clean

/-- Segments are lined when no lexeme of them but a comment goes over the end of a line. -/
def Lined (segments : List Segment) : Prop :=
  ∀ segment ∈ segments, segment.kind ≠ .comment → InLine segment.lexeme

namespace Cut

variable {place : Location} {glyphs tail : List Glyph} {segments : List Segment}
  {misreadings : List Misreading}

/-- A text that is read without a misreading is clean. -/
theorem clean (cut : Cut place glyphs segments tail misreadings) (read : misreadings = [])
    (lined : Lined segments) :
    Clean glyphs (segments.map fun segment => (segment.kind, segment.lexeme)) := by
  induction cut with
  | finished blank => exact .finished blank
  | opened blank solid found =>
      obtain ⟨_, same, _⟩ := scan_opens _ _ _ found
      rw [same] at read
      cases read
  | @segment place gap first rest kind length segments tail misreadings blank solid found later ih =>
      obtain ⟨here, there⟩ := List.forall_mem_cons.1 lined
      obtain ⟨calm, read'⟩ := List.append_eq_nil_iff.1 read
      have scanned : scan first rest = .lexeme kind length := by
        cases result : scan first rest <;> rw [result] at found calm <;> cases found <;> cases calm
        rfl
      exact .lexeme blank solid scanned here (ih read' there)

/-- The lexemes of a line are in it. -/
theorem lined (cut : Cut place glyphs segments tail misreadings) (inLine : InLine glyphs) :
    Lined segments := by
  induction cut with
  | finished => exact List.forall_mem_nil _
  | opened => exact List.forall_mem_nil _
  | segment blank solid found later ih =>
      obtain ⟨_, solidInLine⟩ := List.forall_mem_append.1 inLine
      refine List.forall_mem_cons.2 ⟨fun _ glyph member => ?_, ih fun glyph member => ?_⟩
      · exact solidInLine glyph (List.mem_of_mem_take member)
      · exact solidInLine glyph (List.mem_of_mem_drop member)

end Cut

namespace Lexeme

/-- A comment that a further line ends goes over the end of the line before it. -/
theorem commentEnd?_beyond {passed depth length : Nat} {glyphs more : List Glyph}
    (opened : commentEnd? passed depth glyphs = none)
    (found : commentEnd? passed depth (glyphs ++ glyphOf '\n' :: more) = some length) :
    passed + glyphs.length < length := by
  have brace : (glyphOf '\n').is '\x7b' = false := by decide
  have dash : (glyphOf '\n').is '-' = false := by decide
  fun_induction commentEnd? passed depth glyphs with
  | case1 passed depth =>
      have bounds := commentEnd?_bounds _ _ _ _ found
      rw [List.length_nil]
      omega
  | case2 passed depth first =>
      rw [List.singleton_append, commentEnd?.eq_def] at found
      simp only [brace, dash, Bool.and_false, Bool.false_eq_true, if_false] at found
      have bounds := commentEnd?_bounds _ _ _ _ found
      rw [List.length_singleton]
      omega
  | case3 passed depth first second rest opens ih =>
      rw [List.cons_append, List.cons_append, commentEnd?.eq_def] at found
      simp only [opens, if_true] at found
      have beyond := ih opened found
      rw [List.length_cons, List.length_cons]
      omega
  | case4 => cases opened
  | case5 passed first second rest notOpens closes depth ih =>
      rw [List.cons_append, List.cons_append, commentEnd?.eq_def] at found
      simp only [notOpens, closes, Bool.false_eq_true, if_true, if_false] at found
      have beyond := ih opened found
      rw [List.length_cons, List.length_cons]
      omega
  | case6 passed depth first second rest notOpens notCloses ih =>
      rw [List.cons_append, List.cons_append, commentEnd?.eq_def] at found
      simp only [notOpens, notCloses, Bool.false_eq_true, if_false] at found
      have beyond := ih opened found
      simp only [List.length_cons] at beyond ⊢
      omega

/-- An open comment stays open, or it ends in what follows the newline. -/
theorem scan_openComment_newline {first : Glyph} {rest : List Glyph} (more : List Glyph)
    (found : scan first rest = .unterminatedComment) :
    scan first (rest ++ glyphOf '\n' :: more) = .unterminatedComment ∨
      ∃ length, scan first (rest ++ glyphOf '\n' :: more) = .lexeme .comment length ∧
        (first :: rest).length < length := by
  rcases scan_open first rest (by rw [found, Scan.token?]) with
    ⟨string, _⟩ | ⟨_, dash, second, body, rfl, brace⟩
  · rw [found] at string
    cases string
  · have line : ¬second.is '-' = true := by
      simp only [Glyph.is, beq_iff_eq] at brace ⊢
      rw [brace]
      decide
    rw [scan, if_pos dash, scanDash, if_neg line, if_pos brace] at found
    rw [scan, if_pos dash, List.cons_append, scanDash, if_neg line, if_pos brace]
    cases ends : commentEnd? 2 0 (body ++ glyphOf '\n' :: more) with
    | none => exact .inl rfl
    | some length =>
        have opened : commentEnd? 2 0 body = none := by
          cases opened : commentEnd? 2 0 body with
          | none => rfl
          | some length =>
              rw [opened] at found
              cases found
        have beyond := commentEnd?_beyond opened ends
        refine .inr ⟨length, rfl, ?_⟩
        rw [List.length_cons, List.length_cons]
        omega

end Lexeme

/-- A text whose comment is open goes on with a line, and its lexemes stay in their lines. -/
theorem Cut.grow {place : Location} {glyphs tail : List Glyph} {segments : List Segment}
    {misreadings : List Misreading} (cut : Cut place glyphs segments tail misreadings)
    (opened : misreadings.any Misreading.isOpenComment = true) (lined : Lined segments)
    {line : List Glyph} (inLine : InLine line) :
    ∃ segments' tail' misreadings',
      Cut place (glyphs ++ glyphOf '\n' :: line) segments' tail' misreadings' ∧ Lined segments' := by
  induction cut with
  | finished => cases opened
  | @opened place gap first rest blank solid found =>
      have comment : scan first rest = .unterminatedComment := by
        rcases scan_open first rest found with ⟨string, _⟩ | ⟨comment, _⟩
        · rw [string] at opened
          cases opened
        · exact comment
      rw [List.append_assoc, List.cons_append]
      rcases scan_openComment_newline line comment with still | ⟨length, ends, beyond⟩
      · exact ⟨[], _, _, .opened blank solid (by rw [still, Scan.token?]), List.forall_mem_nil _⟩
      · -- The comment ends in the line, so only glyphs of the line are left behind it.
        have rested : (first :: (rest ++ glyphOf '\n' :: line)).drop length =
            line.drop (length - ((first :: rest).length + 1)) := by
          obtain ⟨count, rfl⟩ := Nat.exists_eq_add_of_lt beyond
          rw [← List.cons_append, Nat.add_assoc, List.drop_length_add_append, List.drop_succ_cons,
            ← Nat.add_assoc, Nat.add_right_comm, Nat.add_sub_cancel_left]
        obtain ⟨segments', tail', misreadings', later⟩ := exists_cut
          (Segment.after ⟨gap, .comment, (first :: (rest ++ glyphOf '\n' :: line)).take length⟩ place)
          ((first :: (rest ++ glyphOf '\n' :: line)).drop length)
        refine ⟨_, tail', _, .segment blank solid (by rw [ends, Scan.token?]) later, ?_⟩
        refine List.forall_mem_cons.2 ⟨absurd rfl, later.lined ?_⟩
        rw [rested]
        exact fun glyph member => inLine glyph (List.mem_of_mem_drop member)
  | @segment place gap first rest kind length segments tail misreadings blank solid found later ih =>
      obtain ⟨here, there⟩ := List.forall_mem_cons.1 lined
      obtain ⟨scanned, front, back⟩ := scan_token_newline line found
      have calm : ((scan first rest).misreadings (place.pastAll gap) first rest).any
          Misreading.isOpenComment = false := by
        cases result : scan first rest <;> rw [result] at found <;> cases found <;> rfl
      rw [List.any_append, calm, Bool.false_or] at opened
      obtain ⟨segments', tail', misreadings', whole, lined'⟩ := ih opened there
      rw [← front] at here whole
      rw [← back] at whole
      rw [List.append_assoc, List.cons_append]
      exact ⟨_, tail', _, .segment blank solid (by rw [scanned, found]) whole,
        List.forall_mem_cons.2 ⟨here, lined'⟩⟩

/-- A token says its kind and its lexeme, unless it is a comment or the end of input. -/
def Token.says? (token : Token) : Option (Kind × Bytes) :=
  if token.kind = .comment ∨ token.kind = .endOfInput then none else some (token.kind, token.lexeme)

/-- This is what the tokens of a text say, in order. -/
def content (source : Bytes) : Except Fault (List (Kind × Bytes)) :=
  (Reading.ofBytes source).buffer.tokens.map fun tokens => tokens.filterMap Token.says?

/-- These are the lexemes of a content. -/
def spoken (lexemes : List (Kind × List Glyph)) : List (Kind × Bytes) :=
  (significant lexemes).map fun lexeme => (lexeme.1, glyphBytes lexeme.2)

/-- What two texts say is said one after the other. -/
theorem spoken_append (first second : List (Kind × List Glyph)) :
    spoken (first ++ second) = spoken first ++ spoken second := by
  rw [spoken, significant_append, List.map_append]
  rfl

/-- The tokens of segments say what the segments say. -/
theorem tokensFrom_says (place : Location) (tail : List Glyph) {segments : List Segment}
    (proper : ∀ segment ∈ segments, segment.kind ≠ .endOfInput) :
    (tokensFrom place tail segments).filterMap Token.says? =
      spoken (segments.map fun segment => (segment.kind, segment.lexeme)) := by
  induction segments generalizing place with
  | nil => rfl
  | cons segment segments ih =>
      obtain ⟨here, there⟩ := List.forall_mem_cons.1 proper
      rw [tokensFrom, List.map_cons]
      by_cases comment : segment.kind = .comment
      · have silent : (segment.token place).says? = none := if_pos (.inl comment)
        rw [List.filterMap_cons_none silent, ih _ there, comment, spoken, spoken, significant_comment]
      · have said : (segment.token place).says? = some (segment.kind, glyphBytes segment.lexeme) :=
          if_neg (not_or.2 ⟨comment, here⟩)
        rw [List.filterMap_cons_some said, ih _ there, spoken, spoken, significant_proper comment,
          List.map_cons]

/-- A clean text says its significant lexemes. -/
theorem Clean.content {source : Bytes} {lexemes : List (Kind × List Glyph)}
    (clean : Clean source.glyphs lexemes) : content source = .ok (spoken lexemes) := by
  obtain ⟨segments, tail, cut, rfl⟩ := clean.exists_cut .start
  rw [Reckon.content, cut.tokens, Except.map, tokensFrom_says _ _ cut.proper]

end Reckon
