/-
This file matches what is reported about a text with its tokens. Each unrecognized token is told by one
misreading, in their order, and only the last misreading can tell of a token that does not end.
-/

import Mathlib.Data.List.Forall2
import Reckon.Proofs.Token.Placement
import Reckon.Proofs.Token.Spelling

namespace Reckon

open Text Lexeme

/-- This is the text of a number with a radix but without digits. -/
def Text.Bytes.IsRadixMark (text : Bytes) : Prop := text = encode "0b" ∨ text = encode "0x"

/-- A misreading tells a token by its start. It shows the text of a radix mark, and otherwise the only
character of the token. -/
structure Misreading.Tells (misreading : Misreading) (token : Token) : Prop where
  location : misreading.location = token.span.start
  malformed : misreading = .malformedLiteral token.span.start token.lexeme ↔ token.lexeme.IsRadixMark
  unexpected : ¬token.lexeme.IsRadixMark → ∃ glyph, token.lexeme.glyphs = [glyph] ∧
    misreading = .unexpectedCharacter token.span.start glyph.character

namespace Lexeme

/-- A scan without a lexeme stands before a single character, or before the mark of a radix. -/
inductive Scan.Stumbles (first : Glyph) (rest : List Glyph) : Scan → Nat → Prop
  | character : Stumbles first rest .unexpected 1
  | mark {second : Glyph} {digits : List Glyph} (split : rest = second :: digits)
      (zero : first.is '0' = true) (radix : second.is 'b' = true ∨ second.is 'x' = true) :
      Stumbles first rest (.malformed 2) 2

/-- A radix mark without digits is not recognized. -/
theorem scanRadix_unrecognized {isRadixDigit : Char → Bool} {digits : List Glyph} {length : Nat}
    (found : (scanRadix isRadixDigit digits).token? = some (.unrecognized, length)) :
    scanRadix isRadixDigit digits = .malformed 2 ∧ length = 2 := by
  revert found
  unfold scanRadix
  split
  all_goals
    intro found
    cases found
  exact ⟨rfl, rfl⟩

/-- Every decimal numeral is recognized. -/
theorem scanDecimal_recognized (rest : List Glyph) (length : Nat) :
    (scanDecimal rest).token? ≠ some (.unrecognized, length) := by
  unfold scanDecimal
  dsimp only
  split <;> simp [Scan.token?]

/-- A numeral is not recognized only for its radix mark. -/
theorem scanNumber_unrecognized {first : Glyph} {rest : List Glyph} {length : Nat}
    (found : (scanNumber first rest).token? = some (.unrecognized, length)) :
    Scan.Stumbles first rest (scanNumber first rest) length := by
  revert found
  fun_cases scanNumber first rest with
  | case1 second digits marks =>
      intro found
      obtain ⟨scanned, rfl⟩ := scanRadix_unrecognized found
      rw [Bool.and_eq_true] at marks
      rw [scanned]
      exact .mark rfl marks.1 (.inl marks.2)
  | case2 second digits _ marks =>
      intro found
      obtain ⟨scanned, rfl⟩ := scanRadix_unrecognized found
      rw [Bool.and_eq_true] at marks
      rw [scanned]
      exact .mark rfl marks.1 (.inr marks.2)
  | case3 => exact fun found => absurd found (scanDecimal_recognized _ _)
  | case4 => exact fun found => absurd found (scanDecimal_recognized _ _)

/-- An unrecognized token stumbles over its first glyph or a radix mark. -/
theorem scan_unrecognized {first : Glyph} {rest : List Glyph} {length : Nat}
    (found : (scan first rest).token? = some (.unrecognized, length)) :
    Scan.Stumbles first rest (scan first rest) length := by
  cases scan_source found with
  | word _ _ named => exact absurd (by decide) named
  | number _ same found =>
      rw [same]
      exact scanNumber_unrecognized found
  | symbol known => exact absurd (by decide) known
  | unexpected same =>
      rw [same]
      exact .character

/-- A scan that finds a lexeme reports nothing. -/
theorem Scan.misreadings_recognized {scan : Scan} {kind : Kind} {length : Nat}
    (found : scan.token? = some (kind, length)) (recognized : kind ≠ .unrecognized) (place : Location)
    (first : Glyph) (rest : List Glyph) : scan.misreadings place first rest = [] := by
  cases scan with
  | lexeme => rfl
  | malformed | unexpected =>
      cases found
      exact absurd rfl recognized
  | unterminatedString | unterminatedComment => cases found

/-- A scan without a lexeme reports once, about the token that it leaves behind. -/
theorem Scan.Stumbles.tells {first : Glyph} {rest gap : List Glyph} {scan : Scan} {length : Nat}
    (stumbles : scan.Stumbles first rest length) (place : Location)
    (text : IsText ((first :: rest).take length)) :
    ∃ misreading, scan.misreadings (place.pastAll gap) first rest = [misreading] ∧
      misreading.Tells
        (Segment.token ⟨gap, .unrecognized, (first :: rest).take length⟩ place) := by
  have glyphs := glyphs_glyphBytes _ text
  cases stumbles with
  | character =>
      have unmarked : ¬(glyphBytes [first]).IsRadixMark := by
        change (glyphBytes [first]).glyphs = [first] at glyphs
        rintro (same | same)
        all_goals
          rw [same, glyphs_encode] at glyphs
          cases glyphs
      refine ⟨_, rfl, rfl, ⟨fun same => ?_, fun mark => absurd mark unmarked⟩, fun _ => ?_⟩
      · cases same
      · exact ⟨first, glyphs, rfl⟩
  | @mark second digits split zero radix =>
      subst split
      change (glyphBytes [first, second]).glyphs = [first, second] at glyphs
      have marked : (glyphBytes [first, second]).IsRadixMark := by
        have shown : (glyphBytes [first, second]).decode =
            String.ofList [first.character, second.character] := by
          rw [Bytes.decode, glyphs]
          rfl
        have same := @encode_decode (glyphBytes [first, second])
        rw [shown, beq_iff_eq.1 zero] at same
        rcases radix with binary | hexadecimal
        · rw [beq_iff_eq.1 binary] at same
          exact .inl (same (by simp)).symm
        · rw [beq_iff_eq.1 hexadecimal] at same
          exact .inr (same (by simp)).symm
      exact ⟨_, rfl, rfl, ⟨fun _ => marked, fun _ => rfl⟩, fun unmarked => absurd marked unmarked⟩

end Lexeme

/-- The misreadings of a cut, the fatal one apart, tell its unrecognized tokens. -/
theorem Cut.told {place : Location} {glyphs : List Glyph} {segments : List Segment} {tail : List Glyph}
    {misreadings : List Misreading} (cut : Cut place glyphs segments tail misreadings)
    (text : IsText glyphs) :
    List.Forall₂ Misreading.Tells (misreadings.filter fun misreading => !misreading.isFatal)
      ((tokensFrom place tail segments).filter fun token => token.kind = .unrecognized) := by
  induction cut with
  | finished blank => exact .nil
  | @opened place gap first rest blank solid found =>
      obtain ⟨misreading, same, opens⟩ := scan_opens (place.pastAll gap) first rest found
      rw [same, List.filter_cons_of_neg (by rw [opens.isFatal]; decide)]
      exact .nil
  | @segment place gap first rest kind length segments tail misreadings blank solid found later ih =>
      have behind := (IsText.of_append _ _ text).2
      rw [← List.take_append_drop length (first :: rest)] at behind
      obtain ⟨front, back⟩ := IsText.of_append _ _ behind
      have mild := scan_misreadings_not_fatal (place.pastAll gap) first rest _ found
      rw [tokensFrom, List.filter_append]
      by_cases unrecognized : kind = .unrecognized
      · subst unrecognized
        obtain ⟨misreading, same, tells⟩ := (scan_unrecognized found).tells place front
        rw [same, List.any_cons, Bool.or_eq_false_iff] at mild
        rw [same, List.filter_cons_of_pos (by rw [mild.1]; rfl), List.filter_cons_of_pos (by rfl)]
        exact .cons tells (ih back)
      · rw [Scan.misreadings_recognized found unrecognized,
          List.filter_cons_of_neg (by simp [Segment.token, unrecognized])]
        exact ih back

namespace Report

/-- This joins two reports, if there are any. -/
def join? : Option Report → Option Report → Option Report
  | none, none => none
  | first, second => some (joined (first.toList ++ second.toList))

/-- A report lists causes when it shows these in order, each in a line of its own. -/
structure Lists (report : Report) (causes : List Cause) : Prop where
  some : causes ≠ []
  leaves : report.leaves = causes.map fun cause => (cause, none)
  message : report.message = "\n".intercalate (causes.map Cause.message)

namespace Lists

variable {first second : Report} {causes causes' : List Cause}

/-- A single report lists its cause. -/
theorem single (cause : Cause) : (Report.single cause).Lists [cause] where
  some := List.cons_ne_nil _ _
  leaves := rfl
  message := String.intercalate_singleton.symm

/-- A report alone lists the same when it is joined. -/
theorem joined_one (lists : first.Lists causes) : (joined [first]).Lists causes where
  some := lists.some
  leaves := (List.append_nil _).trans lists.leaves
  message := String.intercalate_singleton.trans lists.message

/-- Two joined reports list the causes of both. -/
theorem joined_two (left : first.Lists causes) (right : second.Lists causes') :
    (joined [first, second]).Lists (causes ++ causes') where
  some := List.append_ne_nil_of_left_ne_nil left.some _
  leaves := by
    change first.leaves ++ (second.leaves ++ []) = _
    rw [List.append_nil, left.leaves, right.leaves, List.map_append]
  message := by
    have solid : causes.map Cause.message ≠ [] := by simpa using left.some
    have solid' : causes'.map Cause.message ≠ [] := by simpa using right.some
    change "\n".intercalate [first.message, second.message] = _
    rw [left.message, right.message, List.map_append, String.intercalate_append_of_ne_nil solid solid',
      String.intercalate_cons_cons, String.intercalate_singleton]

end Lists

/-- An optional report lists causes, and it is missing when there are none. -/
def Lists? (report? : Option Report) (causes : List Cause) : Prop :=
  (report? = none ∧ causes = []) ∨ ∃ report, report? = some report ∧ report.Lists causes

namespace Lists?

variable {first second : Option Report} {causes causes' : List Cause}

/-- Two optional reports list the causes of both when they are joined. -/
theorem join (left : Lists? first causes) (right : Lists? second causes') :
    Lists? (join? first second) (causes ++ causes') := by
  rcases left with ⟨rfl, rfl⟩ | ⟨left, rfl, lists⟩
  · rcases right with ⟨rfl, rfl⟩ | ⟨right, rfl, lists⟩
    · exact .inl ⟨rfl, rfl⟩
    · exact .inr ⟨_, rfl, lists.joined_one⟩
  · rcases right with ⟨rfl, rfl⟩ | ⟨right, rfl, lists'⟩
    · rw [List.append_nil]
      exact .inr ⟨_, rfl, lists.joined_one⟩
    · exact .inr ⟨_, rfl, lists.joined_two lists'⟩

/-- A missing misreading is not reported. -/
theorem single? (misreading? : Option Misreading) :
    Lists? (misreading?.map fun misreading => .single (.misread misreading))
      (misreading?.toList.map .misread) := by
  cases misreading? with
  | none => exact .inl ⟨rfl, rfl⟩
  | some misreading => exact .inr ⟨_, rfl, .single _⟩

/-- There is no report when there is no cause. -/
theorem eq_none_iff (lists : Lists? first causes) : first = none ↔ causes = [] := by
  rcases lists with ⟨rfl, rfl⟩ | ⟨report, rfl, lists⟩
  · exact ⟨fun _ => rfl, fun _ => rfl⟩
  · exact ⟨nofun, fun none => absurd none lists.some⟩

/-- A report is fatal when a misreading in it is. -/
theorem isFatal {misreadings : List Misreading} (lists : Lists? first (misreadings.map .misread)) :
    first.any Report.isFatal = misreadings.any Misreading.isFatal := by
  rcases lists with ⟨rfl, none⟩ | ⟨report, rfl, lists⟩
  · rw [List.map_eq_nil_iff.1 none]
    rfl
  · rw [Option.any_some, Report.isFatal, lists.leaves, List.map_map, List.any_map]
    rfl

end Lists?

/-- This joins misreadings to a report one after the other, each around those before it. -/
def chained? (report? : Option Report) (misreadings : List Misreading) : Option Report :=
  misreadings.foldl (fun report? misreading => join? report? (some (single (.misread misreading))))
    report?

/-- A chain of reports shows its misreadings after what was reported before. -/
theorem Lists?.chained {report? : Option Report} {causes : List Cause} (lists : Lists? report? causes)
    (misreadings : List Misreading) :
    Lists? (Report.chained? report? misreadings) (causes ++ misreadings.map .misread) := by
  induction misreadings generalizing report? causes with
  | nil =>
      rw [List.map_nil, List.append_nil]
      exact lists
  | cons misreading misreadings ih =>
      have step := ih (lists.join (.single? (some misreading)))
      rw [List.append_assoc] at step
      exact step

/-- All misreadings that are reported together are in one list. -/
theorem lists_ofMisreadings? (misreadings : List Misreading) :
    Lists? (ofMisreadings? misreadings) (misreadings.map .misread) := by
  have messages (misreadings : List Misreading) :
      Report.messages (misreadings.map fun misreading => single (.misread misreading)) =
        (misreadings.map Cause.misread).map Cause.message := by
    induction misreadings with
    | nil => rfl
    | cons misreading misreadings ih =>
        rw [List.map_cons, Report.messages, ih]
        rfl
  cases misreadings with
  | nil => exact .inl ⟨rfl, rfl⟩
  | cons misreading misreadings =>
      refine .inr ⟨_, rfl, by simp, ?_, ?_⟩
      · rw [List.map_map]
        exact allLeavesIn_misread (misreading :: misreadings)
      · exact congrArg ("\n".intercalate) (messages (misreading :: misreadings))

end Report

/-- This is the report of a reader that joins each misreading to those before it, and a fatal one in
the end. -/
def Reading.chained? (reading : Reading) : Option Report :=
  Report.join? (Report.chained? none (reading.misreadings.filter fun misreading => !misreading.isFatal))
    ((reading.misreadings.find? Misreading.isFatal).map fun misreading => .single (.misread misreading))

/-- A reading is matched with its tokens when it is reported about the unrecognized ones in their order,
and then at most about a token that does not end. -/
structure Reading.Matched (reading : Reading) (tokens : List Token) (mild : List Misreading)
    (fatal? : Option Misreading) : Prop where
  told : List.Forall₂ Misreading.Tells mild (tokens.filter fun token => token.kind = .unrecognized)
  passed : ∀ misreading ∈ mild, misreading.isFatal = false
  stopped : ∀ misreading ∈ fatal?, misreading.isFatal = true
  isFatal : reading.report?.any Report.isFatal = fatal?.isSome
  silent : reading.report? = none ↔ (∀ token ∈ tokens, token.kind ≠ .unrecognized) ∧ fatal? = none
  report : Report.Lists? reading.report? ((mild ++ fatal?.toList).map .misread)
  chained : Report.Lists? reading.chained? ((mild ++ fatal?.toList).map .misread)

/-- At most the last misreading of a cut is fatal. -/
theorem Cut.fatal_last {place : Location} {glyphs : List Glyph} {segments : List Segment}
    {tail : List Glyph} {misreadings : List Misreading}
    (cut : Cut place glyphs segments tail misreadings) :
    ∃ (mild : List Misreading) (fatal? : Option Misreading), misreadings = mild ++ fatal?.toList ∧
      (∀ misreading ∈ mild, misreading.isFatal = false) ∧
      ∀ misreading ∈ fatal?, misreading.isFatal = true := by
  rcases cut.tail with ⟨mild, _⟩ | ⟨mild, fatal, rfl, passed, _, _, _, _, _, opens, _⟩
  · refine ⟨misreadings, none, (List.append_nil _).symm, by simpa using mild, fun _ member => ?_⟩
    cases member
  · refine ⟨mild, some fatal, rfl, by simpa using passed, fun misreading member => ?_⟩
    obtain rfl := Option.mem_some_iff.1 member
    exact opens.isFatal

/-- What is reported about a text tells its unrecognized tokens one by one, in their order. At most one
fatal misreading follows them. -/
theorem misreadings_matched (source : Bytes) : ∃ tokens mild fatal?,
    (Reading.ofBytes source).buffer.tokens = .ok tokens ∧
      (Reading.ofBytes source).Matched tokens mild fatal? := by
  obtain ⟨segments, tail, misreadings, cut⟩ := exists_cut .start source.glyphs
  have read : (Reading.ofBytes source).misreadings = misreadings := by rw [cut.reading]
  obtain ⟨mild, fatal?, rfl, passed, stopped⟩ := cut.fatal_last
  -- The mild misreadings come first, so the filter and the search each take their part.
  have kept : (mild ++ fatal?.toList).filter (fun misreading => !misreading.isFatal) = mild := by
    rw [List.filter_append, List.filter_eq_self.2, List.filter_eq_nil_iff.2, List.append_nil]
    · intro misreading member
      simp [stopped misreading (Option.mem_toList.1 member)]
    · intro misreading member
      simp [passed misreading member]
  have last : (mild ++ fatal?.toList).find? Misreading.isFatal = fatal? := by
    rw [List.find?_append, List.find?_eq_none.2, Option.none_or]
    · cases fatal? with
      | none => rfl
      | some fatal => rw [Option.toList_some, List.find?_cons_of_pos (stopped fatal rfl)]
    · intro misreading member
      simp [passed misreading member]
  have told := cut.told (isText_glyphs source)
  rw [kept] at told
  have report : Report.Lists? (Reading.ofBytes source).report? ((mild ++ fatal?.toList).map .misread) := by
    rw [Reading.report?, read]
    exact Report.lists_ofMisreadings? _
  refine ⟨_, mild, fatal?, cut.tokens, told, passed, stopped, ?_, ?_, report, ?_⟩
  · rw [report.isFatal, List.any_append, List.any_eq_false.2 fun misreading member => by
      simp [passed misreading member], Bool.false_or]
    cases fatal? with
    | none => rfl
    | some fatal => simp [stopped fatal rfl]
  · rw [report.eq_none_iff, List.map_eq_nil_iff, List.append_eq_nil_iff]
    refine and_congr ⟨fun none => ?_, fun recognized => ?_⟩ (by simp)
    · rw [none, List.forall₂_nil_left_iff, List.filter_eq_nil_iff] at told
      simpa using told
    · rw [List.filter_eq_nil_iff.2 (by simpa using recognized), List.forall₂_nil_right_iff] at told
      exact told
  · rw [Reading.chained?, read, kept, last, List.map_append]
    have empty : Report.Lists? none [] := .inl ⟨rfl, rfl⟩
    exact (empty.chained mild).join (.single? fatal?)

example : (Reading.ofBytes #[0x30, 0x78, 0xE2, 0x0A, 0x22]).report?.map Report.message =
    some ("\n".intercalate ["malformed integer literal \"0x\" at 1:1",
      "unexpected character: '\uFFFD' at 1:3", "unterminated string starting at 2:1"]) := by
  decide +kernel

end Reckon
