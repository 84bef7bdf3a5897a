/-
This file bounds the lexeme that a scan finds: it has a glyph, it lies inside of the text, and it
is never the end of input.
-/

import Mathlib.Data.List.Basic
import Reckon.Token.Reader

namespace Reckon.Lexeme

open Text

theorem run_le (inClass : Char → Bool) (glyphs : List Glyph) : run inClass glyphs ≤ glyphs.length :=
  List.Sublist.length_le (List.takeWhile_sublist _)

/-- A string ends at a quote inside of the text. -/
theorem stringEnd?_bounds (passed : Nat) (glyphs : List Glyph) (length : Nat)
    (found : stringEnd? passed glyphs = some length) :
    passed < length ∧ length ≤ passed + glyphs.length := by
  fun_induction stringEnd? passed glyphs with
  | case1 => cases found
  | case2 passed first rest quote =>
      cases found
      simp only [List.length_cons]
      omega
  | case3 passed first _ _ second rest _ ih =>
      have inside := ih found
      simp only [List.length_cons] at inside ⊢
      omega
  | case4 passed first _ _ second rest _ ih =>
      have inside := ih found
      simp only [List.length_cons] at inside ⊢
      omega
  | case5 => cases found
  | case6 passed first rest _ _ ih =>
      have inside := ih found
      simp only [List.length_cons] at inside ⊢
      omega

/-- A block comment ends with two glyphs inside of the text. -/
theorem commentEnd?_bounds (passed depth : Nat) (glyphs : List Glyph) (length : Nat)
    (found : commentEnd? passed depth glyphs = some length) :
    passed + 2 ≤ length ∧ length ≤ passed + glyphs.length := by
  fun_induction commentEnd? passed depth glyphs with
  | case1 => cases found
  | case2 => cases found
  | case3 passed depth first second rest _ ih =>
      have inside := ih found
      simp only [List.length_cons]
      omega
  | case4 passed first second rest _ _ =>
      cases found
      simp only [List.length_cons]
      omega
  | case5 passed first second rest _ _ depth ih =>
      have inside := ih found
      simp only [List.length_cons]
      omega
  | case6 passed depth first second rest _ _ ih =>
      have inside := ih found
      simp only [List.length_cons] at inside ⊢
      omega

/-- A number ends within the glyphs. -/
theorem numberEnd_bounds (passed : Nat) (glyphs : List Glyph) :
    passed ≤ numberEnd passed glyphs ∧ numberEnd passed glyphs ≤ passed + glyphs.length := by
  fun_induction numberEnd passed glyphs <;> simp only [List.length_cons, List.length_nil] at * <;>
    omega

namespace Scan

/-- This is the kind and the length of the token that a scan finds. There is none if the text ends
inside of it. -/
def token? : Scan → Option (Kind × Nat)
  | lexeme kind length => some (kind, length)
  | malformed length => some (.unrecognized, length)
  | unexpected => some (.unrecognized, 1)
  | unterminatedString | unterminatedComment => none

/-- This is what a scan at the given place reports. -/
def misreadings (place : Location) (first : Glyph) (rest : List Glyph) : Scan → List Misreading
  | lexeme _ _ => []
  | malformed length => [.malformedLiteral place (glyphBytes ((first :: rest).take length))]
  | unexpected => [.unexpectedCharacter place first.character]
  | unterminatedString => [.unterminatedString place]
  | unterminatedComment => [.unterminatedComment place]

/-- The token of a scan has a glyph, lies inside of `count` glyphs and is not the end of input. -/
def Fits (count : Nat) (scan : Scan) : Prop :=
  ∀ kind length, scan.token? = some (kind, length) →
    1 ≤ length ∧ length ≤ count ∧ kind ≠ .endOfInput

/-- A lexeme that is not empty fits when it is within the glyphs. -/
theorem fits_lexeme (count : Nat) (kind : Kind) (length : Nat) (positive : 1 ≤ length)
    (inside : length ≤ count) (proper : kind ≠ .endOfInput) : (lexeme kind length).Fits count := by
  intro _ _ found
  cases found
  exact ⟨positive, inside, proper⟩

end Scan

/-- What a dash opens is within the glyphs. -/
theorem scanDash_fits (rest : List Glyph) : (scanDash rest).Fits (rest.length + 1) := by
  unfold scanDash
  split
  · next second body =>
      split
      · apply Scan.fits_lexeme _ _ _ (by omega) _ (by decide)
        have inside := run_le (fun character => character != '\n') (second :: body)
        omega
      · split
        · split
          · next length found =>
              have inside := commentEnd?_bounds _ _ _ _ found
              apply Scan.fits_lexeme _ _ _ (by omega) _ (by decide)
              simp only [List.length_cons]
              omega
          · intro _ _ found
            cases found
        · exact Scan.fits_lexeme _ _ _ (by omega) (by omega) (by decide)
  · exact Scan.fits_lexeme _ _ _ (by omega) (by omega) (by decide)

/-- A string is within the glyphs. -/
theorem scanString_fits (rest : List Glyph) : (scanString rest).Fits (rest.length + 1) := by
  unfold scanString
  split
  · next length found =>
      have inside := stringEnd?_bounds _ _ _ found
      exact Scan.fits_lexeme _ _ _ (by omega) (by omega) (by decide)
  · intro _ _ found
    cases found

/-- These are kinds of tokens that are neither words nor symbols. -/
def wordlessKinds : List Kind := [.endOfInput, .comment, .integer, .float, .string]

/-- A word is a keyword or an identifier. -/
theorem ofWord_ne (word : String) {kind : Kind} (wordless : kind ∈ .unrecognized :: wordlessKinds) :
    Kind.ofWord word ≠ kind := by
  revert wordless
  unfold Kind.ofWord Kind.ofKeyword?
  split
  all_goals
    rintro wordless rfl
    revert wordless
    decide

/-- A word is within the glyphs. -/
theorem scanWord_fits (first : Glyph) (rest : List Glyph) :
    (scanWord first rest).Fits (rest.length + 1) := by
  have inside := run_le continuesName rest
  exact Scan.fits_lexeme _ _ _ (by omega) (by omega) (ofWord_ne _ (by decide))

/-- A numeral with a radix mark is within the glyphs. -/
theorem scanRadix_fits (isRadixDigit : Char → Bool) (digits : List Glyph) :
    (scanRadix isRadixDigit digits).Fits (digits.length + 2) := by
  have inside := run_le isRadixDigit digits
  unfold scanRadix
  split
  · intro _ _ found
    cases found
    exact ⟨by omega, by omega, by decide⟩
  · exact Scan.fits_lexeme _ _ _ (by omega) (by omega) (by decide)

/-- A decimal numeral is within the glyphs. -/
theorem scanDecimal_fits (rest : List Glyph) : (scanDecimal rest).Fits (rest.length + 1) := by
  have inside := numberEnd_bounds 1 rest
  unfold scanDecimal
  dsimp only
  split <;> exact Scan.fits_lexeme _ _ _ (by omega) (by omega) (by decide)

/-- A numeral is within the glyphs. -/
theorem scanNumber_fits (first : Glyph) (rest : List Glyph) :
    (scanNumber first rest).Fits (rest.length + 1) := by
  unfold scanNumber
  split
  · split
    · exact scanRadix_fits _ _
    · split
      · exact scanRadix_fits _ _
      · exact scanDecimal_fits _
  · exact scanDecimal_fits _

/-- A symbol is no name. -/
theorem ofSymbol?_ne {symbol : Char} {kind other : Kind}
    (found : Kind.ofSymbol? symbol = some kind)
    (wordless : other ∈ .unrecognized :: .identifier :: wordlessKinds) : kind ≠ other := by
  unfold Kind.ofSymbol? at found
  split at found
  all_goals
    cases found
  all_goals
    rintro rfl
    revert wordless
    decide

/-- Every token has a glyph of its own. -/
theorem scan_fits (first : Glyph) (rest : List Glyph) :
    (scan first rest).Fits (rest.length + 1) := by
  unfold scan
  split
  · exact scanDash_fits rest
  · split
    · exact scanString_fits rest
    · split
      · exact scanWord_fits first rest
      · split
        · exact scanNumber_fits first rest
        · split
          · next kind found =>
              exact Scan.fits_lexeme _ _ _ (by omega) (by omega) (ofSymbol?_ne found (by decide))
          · intro _ _ found
            cases found
            exact ⟨by omega, by omega, by decide⟩

/-- What a dash opens without an end is a block comment. -/
theorem scanDash_open (rest : List Glyph) (found : (scanDash rest).token? = none) :
    scanDash rest = .unterminatedComment ∧
      ∃ second body, rest = second :: body ∧ second.is '\x7b' = true := by
  fun_cases scanDash rest
  all_goals simp_all [Scan.token?, scanDash]

/-- Every numeral ends. -/
theorem scanNumber_closed (first : Glyph) (rest : List Glyph) :
    (scanNumber first rest).token? ≠ none := by
  have radix (isRadixDigit : Char → Bool) (digits : List Glyph) :
      (scanRadix isRadixDigit digits).token? ≠ none := by
    unfold scanRadix
    split <;> simp [Scan.token?]
  have decimal (rest : List Glyph) : (scanDecimal rest).token? ≠ none := by
    unfold scanDecimal
    dsimp only
    split <;> simp [Scan.token?]
  fun_cases scanNumber first rest
  · exact radix _ _
  · exact radix _ _
  · exact decimal _
  · exact decimal _

/-- A scan without a token has come to a string or a comment that does not end. -/
theorem scan_open (first : Glyph) (rest : List Glyph) (found : (scan first rest).token? = none) :
    (scan first rest = .unterminatedString ∧ first.is '"' = true) ∨
      (scan first rest = .unterminatedComment ∧ first.is '-' = true ∧
        ∃ second body, rest = second :: body ∧ second.is '\x7b' = true) := by
  revert found
  fun_cases scan first rest with
  | case1 dash =>
      intro found
      obtain ⟨result, second⟩ := scanDash_open rest found
      exact .inr ⟨result, dash, second⟩
  | case2 _ quote =>
      intro found
      refine .inl ⟨?_, quote⟩
      unfold scanString at found ⊢
      split at found
      · cases found
      · rfl
  | case3 =>
      intro found
      cases found
  | case4 =>
      intro found
      exact absurd found (scanNumber_closed first rest)
  | case5 =>
      intro found
      cases found
  | case6 =>
      intro found
      cases found
end Reckon.Lexeme
