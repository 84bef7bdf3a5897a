/-
This file shows that every token is spelled as its kind promises, and that it ends exactly where it has
to: no token stops before its end, and none goes past it.
-/

import Reckon.Proofs.Token.Placement
import Reckon.Proofs.Token.Wording

namespace Reckon

open Text Lexeme

namespace Lexeme

/-- What comes next, if anything, is not in the class. -/
def Stops (inClass : Char → Bool) (after : List Char) : Prop :=
  ∀ next, after.head? = some next → inClass next = false

/-- A text of a language is longest when the language has none that goes further into what comes after. -/
def Longest (language : List Char → Prop) (text after : List Char) : Prop :=
  language text ∧ ∀ more rest, after = more ++ rest → more ≠ [] → ¬language (text ++ more)

/-- A radix is marked by two characters, and has digits of its own. -/
inductive RadixMark : (mark : List Char) → (isRadixDigit : Char → Bool) → Prop where
  | binary : RadixMark ['0', 'b'] isBinaryDigit
  | hexadecimal : RadixMark ['0', 'x'] isHexDigit

/-- Characters without a radix mark at their start are read as a decimal number. -/
def Unmarked (characters : List Char) : Prop :=
  ∀ mark isRadixDigit, RadixMark mark isRadixDigit → ¬mark <+: characters

def continuesNumber (character : Char) : Bool := isDecimalDigit character || isFractional character

/-- A number goes on with digits, points and exponent marks, each mark with at most one sign. -/
inductive NumberRest : List Char → Prop where
  | nil : NumberRest []
  | plain {first : Char} {rest : List Char} (continues : continuesNumber first = true)
      (later : NumberRest rest) : NumberRest (first :: rest)
  | signed {mark sign : Char} {rest : List Char} (exponent : isExponentMark mark = true)
      (signs : isSign sign = true) (later : NumberRest rest) : NumberRest (mark :: sign :: rest)

/-- A float has a point or an exponent, and no radix mark. -/
structure FloatSpelling (text : List Char) : Prop where
  number : ∃ first rest, text = first :: rest ∧ isDecimalDigit first = true ∧ NumberRest rest
  fractional : text.any isFractional = true
  unmarked : Unmarked text

/-- A quote directly behind a slash does not close its string. -/
def Escaped (before : List Char) : Prop := before.getLast? = some '/'

/-- The rest of a string ends at its first quote that is not escaped. -/
def StringRest (rest : List Char) : Prop :=
  ∃ body, rest = body ++ ['"'] ∧ ¬Escaped body ∧
    ∀ front back, body = front ++ '"' :: back → Escaped front

def StringSpelling (text : List Char) : Prop := ∃ rest, text = '"' :: rest ∧ StringRest rest

/-- This counts the marks that open a block comment less those that close one, from left to right. -/
def commentDepth : List Char → Int
  | first :: second :: rest =>
      if first = '-' ∧ second = '\x7b' then commentDepth rest + 1
      else if first = '\x7d' ∧ second = '-' then commentDepth rest - 1
      else commentDepth (second :: rest)
  | _ => 0

/-- A block comment ends at the first place where all of its marks are closed. -/
structure BlockSpelling (text : List Char) : Prop where
  opens : ['-', '\x7b'] <+: text
  closed : commentDepth text = 0
  nested : ∀ front, front <+: text → front ≠ text → 2 ≤ front.length → 0 < commentDepth front

/-- A line comment has no newline. -/
def LineSpelling (text : List Char) : Prop := ∃ line, text = '-' :: '-' :: line ∧ '\n' ∉ line

/-- No token starts with a foreign character, and no blank is one. -/
structure Foreign (character : Char) : Prop where
  solid : isBlank character = false
  nameless : startsName character = false
  numberless : isDecimalDigit character = false
  symbolless : Kind.ofSymbol? character = none
  undelimited : character ≠ '-' ∧ character ≠ '"'

/-- A kind promises how a token is spelled and what does not come after it. -/
inductive Promised : (kind : Kind) → (text after : List Char) → Prop where
  | endOfInput : Promised .endOfInput [] []
  | identifier {first : Char} {more after : List Char} (starts : startsName first = true)
      (continues : ∀ character ∈ more, continuesName character = true)
      (free : Kind.ofKeyword? (String.ofList (first :: more)) = none)
      (ends : Stops continuesName after) : Promised .identifier (first :: more) after
  | keyword {kind : Kind} {text after : List Char}
      (known : Kind.ofKeyword? (String.ofList text) = some kind)
      (ends : Stops continuesName after) : Promised kind text after
  | decimal {digits after : List Char} (some : digits ≠ []) (all : AllDigits digits)
      (unmarked : Unmarked (digits ++ after))
      (ends : Stops continuesNumber after) :
      Promised .integer digits after
  | radix {mark digits after : List Char} {isRadixDigit : Char → Bool}
      (marked : RadixMark mark isRadixDigit) (some : digits ≠ [])
      (all : ∀ digit ∈ digits, isRadixDigit digit = true) (ends : Stops isRadixDigit after) :
      Promised .integer (mark ++ digits) after
  | float {text after : List Char} (longest : Longest FloatSpelling text after) :
      Promised .float text after
  | string {text after : List Char} (spelling : StringSpelling text) : Promised .string text after
  | lineComment {text after : List Char} (spelling : LineSpelling text)
      (ends : Stops (fun next => next != '\n') after) : Promised .comment text after
  | blockComment {text after : List Char} (spelling : BlockSpelling text) :
      Promised .comment text after
  | symbol {character : Char} {kind : Kind} {after : List Char}
      (known : Kind.ofSymbol? character = some kind) : Promised kind [character] after
  | dash {after : List Char} (alone : Stops (fun next => next == '-' || next == '\x7b') after) :
      Promised .dash ['-'] after
  | malformed {mark after : List Char} {isRadixDigit : Char → Bool}
      (marked : RadixMark mark isRadixDigit) (ends : Stops isRadixDigit after) :
      Promised .unrecognized mark after
  | unexpected {character : Char} {after : List Char} (foreign : Foreign character) :
      Promised .unrecognized [character] after

/-- A scan promises when its token is spelled as its kind promises. -/
def Scan.Promises (glyphs : List Glyph) (scan : Scan) : Prop :=
  ∀ kind length, scan.token? = some (kind, length) →
    Promised kind ((glyphs.take length).map Glyph.character)
      ((glyphs.drop length).map Glyph.character)

/-- A run takes the characters of a class from the front. -/
theorem map_take_run (inClass : Char → Bool) (glyphs : List Glyph) :
    (glyphs.take (run inClass glyphs)).map Glyph.character =
      (glyphs.map Glyph.character).takeWhile inClass := by
  rw [run, ← List.prefix_iff_eq_take.1 (List.takeWhile_prefix _), List.takeWhile_map]
  rfl

/-- A run leaves the characters from the first one outside of the class on. -/
theorem map_drop_run (inClass : Char → Bool) (glyphs : List Glyph) :
    (glyphs.drop (run inClass glyphs)).map Glyph.character =
      (glyphs.map Glyph.character).dropWhile inClass := by
  have whole : (glyphs.map Glyph.character).takeWhile inClass ++
      (glyphs.drop (run inClass glyphs)).map Glyph.character = glyphs.map Glyph.character := by
    rw [← map_take_run, ← List.map_append, List.take_append_drop]
  exact List.append_cancel_left (whole.trans List.takeWhile_append_dropWhile.symm)

/-- What is left behind a run does not go on with the class. -/
theorem stops_dropWhile (inClass : Char → Bool) (characters : List Char) :
    Stops inClass (characters.dropWhile inClass) := by
  intro next found
  have stop := List.head?_dropWhile_not inClass characters
  rw [found] at stop
  simpa using stop

/-- A word ends before the first character that does not continue it. -/
theorem scanWord_promises {first : Glyph} {rest : List Glyph}
    (starts : startsName first.character = true) :
    (scanWord first rest).Promises (first :: rest) := by
  intro kind length found
  simp only [scanWord, Scan.token?, Option.some.injEq, Prod.mk.injEq] at found
  obtain ⟨named, rfl⟩ := found
  rw [List.map_cons, map_take_run] at named
  rw [Nat.add_comm, List.take_succ_cons, List.drop_succ_cons, List.map_cons, map_take_run,
    map_drop_run]
  have ends := stops_dropWhile continuesName (rest.map Glyph.character)
  rw [Kind.ofWord] at named
  cases known : Kind.ofKeyword? (String.ofList
      (first.character :: (rest.map Glyph.character).takeWhile continuesName)) with
  | none =>
      rw [known] at named
      subst named
      exact .identifier starts (fun character member => List.mem_takeWhile_imp member) known ends
  | some keyword =>
      rw [known] at named
      subst named
      exact .keyword known ends

/-- The digits of a radix are all those behind its mark. -/
theorem scanRadix_promises {isRadixDigit : Char → Bool} {first second : Glyph} {digits : List Glyph}
    (marked : RadixMark [first.character, second.character] isRadixDigit) :
    (scanRadix isRadixDigit digits).Promises (first :: second :: digits) := by
  intro kind length found
  have ends := stops_dropWhile isRadixDigit (digits.map Glyph.character)
  rw [← map_drop_run] at ends
  revert found
  unfold scanRadix
  split
  · rename_i none
    rintro found
    cases found
    rw [none] at ends
    exact .malformed marked ends
  · rename_i solid
    intro found
    cases found
    rw [Nat.add_comm, List.take_succ_cons, List.take_succ_cons, List.drop_succ_cons,
      List.drop_succ_cons]
    refine .radix marked ?_ (fun digit member => ?_) ends
    · intro empty
      have inside := run_le isRadixDigit digits
      have none := congrArg List.length empty
      rw [List.length_map, List.length_take, Nat.min_eq_left inside] at none
      exact solid none
    · rw [map_take_run] at member
      exact List.mem_takeWhile_imp member

theorem continuesNumber_glyph (glyph : Glyph) : continuesNumber glyph.character =
    (isDecimalDigit glyph.character || glyph.is '.' || isExponentMark glyph.character) :=
  (Bool.or_assoc _ _ _).symm

/-- An exponent mark is neither a digit nor a point. -/
theorem exponentMark_plain {glyph : Glyph} (exponent : isExponentMark glyph.character = true) :
    (isDecimalDigit glyph.character || glyph.is '.') = false := by
  simp only [isExponentMark, Bool.or_eq_true, beq_iff_eq] at exponent
  rw [Glyph.is]
  rcases exponent with same | same <;> rw [same] <;> decide

theorem continuesNumber_mark {mark : Char} (exponent : isExponentMark mark = true) :
    continuesNumber mark = true := by
  rw [continuesNumber, isFractional, exponent, Bool.or_true, Bool.or_true]

/-- A sign alone does not go on with a number. -/
theorem continuesNumber_sign {sign : Char} (signs : isSign sign = true) :
    continuesNumber sign = false := by
  simp only [isSign, Bool.or_eq_true, beq_iff_eq] at signs
  rcases signs with rfl | rfl <;> decide

/-- A number goes on with its first character, or with that and its sign. -/
theorem NumberRest.cases {first : Char} {rest : List Char} (number : NumberRest (first :: rest)) :
    continuesNumber first = true ∧ (NumberRest rest ∨ isExponentMark first = true ∧
      ∃ sign later, rest = sign :: later ∧ isSign sign = true ∧ NumberRest later) := by
  cases number with
  | plain continues later => exact ⟨continues, .inl later⟩
  | signed exponent signs later =>
      exact ⟨continuesNumber_mark exponent, .inr ⟨exponent, _, _, rfl, signs, later⟩⟩

namespace Longest

variable {text after : List Char}

/-- The rest of a number can be empty where nothing goes on with it. -/
theorem number_nil (stops : Stops continuesNumber after) : Longest NumberRest [] after := by
  refine ⟨.nil, fun more rest split some number => ?_⟩
  cases more with
  | nil => exact some rfl
  | cons first more =>
      have stop := stops first (by rw [split]; rfl)
      rw [number.cases.1] at stop
      cases stop

/-- A character that goes on with a number makes its rest longer, unless a sign behind it belongs to it. -/
theorem number_cons {first : Char} (longest : Longest NumberRest text after)
    (continues : continuesNumber first = true)
    (unsigned : isExponentMark first = true → Stops isSign (text ++ after)) :
    Longest NumberRest (first :: text) after := by
  refine ⟨.plain continues longest.1, fun more rest split some number => ?_⟩
  rw [List.cons_append] at number
  rcases number.cases.2 with later | ⟨exponent, sign, later, same, signs, _⟩
  · exact longest.2 more rest split some later
  · have stop := unsigned exponent sign (by rw [split, ← List.append_assoc, same]; rfl)
    rw [signs] at stop
    cases stop

/-- A sign behind an exponent mark belongs to the number. -/
theorem number_signed {mark sign : Char} (longest : Longest NumberRest text after)
    (exponent : isExponentMark mark = true) (signs : isSign sign = true) :
    Longest NumberRest (mark :: sign :: text) after := by
  refine ⟨.signed exponent signs longest.1, fun more rest split some number => ?_⟩
  rw [List.cons_append, List.cons_append] at number
  rcases number.cases.2 with later | ⟨_, _, _, same, _, later⟩
  · have continues := later.cases.1
    rw [continuesNumber_sign signs] at continues
    cases continues
  · cases same
    exact longest.2 more rest split some later

end Longest

/-- A number is read as far as it goes. -/
theorem numberEnd_longest (passed : Nat) (glyphs : List Glyph) : Longest NumberRest
    ((glyphs.take (numberEnd passed glyphs - passed)).map Glyph.character)
    ((glyphs.drop (numberEnd passed glyphs - passed)).map Glyph.character) := by
  fun_induction numberEnd passed glyphs with
  | case1 passed =>
      rw [List.take_nil, List.drop_nil]
      exact .number_nil (by simp [Stops])
  | case2 passed first rest plain ih =>
      have bounds := numberEnd_bounds (passed + 1) rest
      have step : numberEnd (passed + 1) rest - passed =
          numberEnd (passed + 1) rest - (passed + 1) + 1 := by omega
      rw [step, List.take_succ_cons, List.drop_succ_cons, List.map_cons]
      refine ih.number_cons ?_ fun exponent => ?_
      · rw [continuesNumber_glyph, plain, Bool.true_or]
      · rw [exponentMark_plain exponent] at plain
        cases plain
  | case3 passed first plain exponent second rest signs ih =>
      have bounds := numberEnd_bounds (passed + 2) rest
      have step : numberEnd (passed + 2) rest - passed =
          numberEnd (passed + 2) rest - (passed + 2) + 1 + 1 := by omega
      rw [step, List.take_succ_cons, List.drop_succ_cons, List.take_succ_cons, List.drop_succ_cons,
        List.map_cons, List.map_cons]
      exact ih.number_signed exponent signs
  | case4 passed first plain exponent second rest unsigned ih =>
      have bounds := numberEnd_bounds (passed + 1) (second :: rest)
      have step : numberEnd (passed + 1) (second :: rest) - passed =
          numberEnd (passed + 1) (second :: rest) - (passed + 1) + 1 := by omega
      rw [step, List.take_succ_cons, List.drop_succ_cons, List.map_cons]
      refine ih.number_cons (continuesNumber_mark exponent) fun _ => ?_
      rw [← List.map_append, List.take_append_drop]
      intro next found
      cases found
      exact Bool.eq_false_iff.2 unsigned
  | case5 passed first plain exponent =>
      have step : passed + 1 - passed = 1 := by omega
      rw [step]
      exact (Longest.number_nil (by simp [Stops])).number_cons (continuesNumber_mark exponent)
        fun _ => by simp [Stops]
  | case6 passed first rest plain unmarked =>
      rw [Nat.sub_self, List.take_zero, List.drop_zero]
      refine .number_nil fun next found => ?_
      cases found
      rw [continuesNumber_glyph, Bool.eq_false_iff.2 plain, Bool.eq_false_iff.2 unmarked, Bool.or_false]

/-- Digits can stand before the rest of a number. -/
theorem NumberRest.after_digits {digits rest : List Char} (all : AllDigits digits)
    (number : NumberRest rest) : NumberRest (digits ++ rest) := by
  induction digits with
  | nil => exact number
  | cons digit digits ih =>
      obtain ⟨here, later⟩ := List.forall_mem_cons.1 all
      exact .plain (by rw [continuesNumber, here, Bool.true_or]) (ih later)

/-- Digits end where no number goes on. -/
theorem Longest.stops {digits after : List Char} (longest : Longest NumberRest digits after)
    (all : AllDigits digits) : Stops continuesNumber after := by
  intro next found
  obtain ⟨rest, rfl⟩ := List.head?_eq_some_iff.1 found
  refine Bool.eq_false_iff.2 fun continues => ?_
  exact longest.2 [next] rest rfl (List.cons_ne_nil _ _) (.after_digits all (.plain continues .nil))

theorem Unmarked.of_prefix {front characters : List Char} (unmarked : Unmarked characters)
    (inside : front <+: characters) : Unmarked front :=
  fun mark isRadixDigit marked starts => unmarked mark isRadixDigit marked (starts.trans inside)

/-- A number of a first digit is a float when it is fractional, and it is longest as a float. -/
theorem Longest.float {first : Char} {text after : List Char} (longest : Longest NumberRest text after)
    (digit : isDecimalDigit first = true) (fractional : text.any isFractional = true)
    (unmarked : Unmarked (first :: text)) : Longest FloatSpelling (first :: text) after := by
  refine ⟨⟨⟨first, text, rfl, digit, longest.1⟩, ?_, unmarked⟩,
    fun more rest split some spelling => ?_⟩
  · rw [List.any_cons, fractional, Bool.or_true]
  · obtain ⟨_, _, same, _, number⟩ := spelling.number
    cases same
    exact longest.2 more rest split some number

/-- A decimal numeral has the promised spelling, and nothing after it goes on with it. -/
theorem scanDecimal_promises {first : Glyph} {rest : List Glyph}
    (digit : isDecimalDigit first.character = true)
    (unmarked : Unmarked ((first :: rest).map Glyph.character)) :
    (scanDecimal rest).Promises (first :: rest) := by
  intro kind length found
  have longest := numberEnd_longest 1 rest
  have digits := numberEnd_digits 1 rest
  have fractional : ((rest.take (numberEnd 1 rest - 1)).map Glyph.character).any isFractional =
      (rest.take (numberEnd 1 rest - 1)).any fun glyph =>
        glyph.is '.' || isExponentMark glyph.character := List.any_map
  obtain ⟨count, more⟩ : ∃ count, numberEnd 1 rest = count + 1 :=
    ⟨numberEnd 1 rest - 1, by have := numberEnd_bounds 1 rest; omega⟩
  simp only [scanDecimal, more, Nat.add_sub_cancel] at found longest digits fractional
  have whole : (first :: rest).map Glyph.character =
      (first.character :: (rest.take count).map Glyph.character) ++
        (rest.drop count).map Glyph.character := by
    rw [List.cons_append, ← List.map_append, List.take_append_drop, List.map_cons]
  rw [whole] at unmarked
  rw [← fractional] at found
  split at found
  · rename_i some
    cases found
    rw [List.take_succ_cons, List.drop_succ_cons, List.map_cons]
    exact .float (longest.float digit some (unmarked.of_prefix (List.prefix_append _ _)))
  · rename_i plain
    cases found
    rw [List.take_succ_cons, List.drop_succ_cons, List.map_cons]
    have all : AllDigits ((rest.take count).map Glyph.character) := by
      rw [fractional, List.any_eq_true] at plain
      push Not at plain
      refine List.forall_mem_map.2 (digits fun glyph member => ?_)
      exact Bool.eq_false_iff.2 (plain glyph member)
    exact .decimal (List.cons_ne_nil _ _) (List.forall_mem_cons.2 ⟨digit, all⟩) unmarked
      (longest.stops all)

/-- A numeral with or without a radix mark has the promised spelling. -/
theorem scanNumber_promises {first : Glyph} {rest : List Glyph}
    (digit : isDecimalDigit first.character = true) :
    (scanNumber first rest).Promises (first :: rest) := by
  fun_cases scanNumber first rest with
  | case1 second digits mark =>
      simp only [Glyph.is, Bool.and_eq_true, beq_iff_eq] at mark
      exact scanRadix_promises (by rw [mark.1, mark.2]; exact .binary)
  | case2 second digits _ mark =>
      simp only [Glyph.is, Bool.and_eq_true, beq_iff_eq] at mark
      exact scanRadix_promises (by rw [mark.1, mark.2]; exact .hexadecimal)
  | case3 second digits notBinary notHexadecimal =>
      refine scanDecimal_promises digit ?_
      intro mark isRadixDigit marked starts
      simp only [Glyph.is, Bool.and_eq_true, beq_iff_eq] at notBinary notHexadecimal
      cases marked with
      | binary =>
          simp only [List.map_cons, List.cons_prefix_cons, List.nil_prefix, and_true] at starts
          exact notBinary ⟨starts.1.symm, starts.2.symm⟩
      | hexadecimal =>
          simp only [List.map_cons, List.cons_prefix_cons, List.nil_prefix, and_true] at starts
          exact notHexadecimal ⟨starts.1.symm, starts.2.symm⟩
  | case4 =>
      refine scanDecimal_promises digit ?_
      intro mark isRadixDigit marked starts
      cases marked <;> simp at starts

theorem Escaped.ne_nil {front : List Char} (escaped : Escaped front) : front ≠ [] := by
  rintro rfl
  cases escaped

/-- Only what stands directly before a quote can escape it. -/
theorem escaped_cons {character : Char} {front : List Char} (some : front ≠ []) :
    Escaped (character :: front) ↔ Escaped front := by
  rw [Escaped, Escaped, List.getLast?_cons_of_ne_nil some]

namespace StringRest

theorem closing : StringRest ['"'] := by
  refine ⟨[], rfl, fun escaped => escaped.ne_nil rfl, fun front back split => ?_⟩
  simp at split

/-- A quote behind a slash does not end a string. -/
theorem escaped {rest : List Char} (string : StringRest rest) :
    StringRest ('/' :: '"' :: rest) := by
  obtain ⟨body, rfl, ends, escapes⟩ := string
  refine ⟨'/' :: '"' :: body, rfl, ?_, fun front back split => ?_⟩
  · rw [escaped_cons (List.cons_ne_nil _ _)]
    cases body with
    | nil => simp [Escaped]
    | cons first body => rwa [escaped_cons (List.cons_ne_nil _ _)]
  · rcases front with _ | ⟨slash, _ | ⟨quote, front⟩⟩
    · simp at split
    · rw [← (List.cons.inj split).1]
      rfl
    · have earlier := escapes front back (List.cons.inj (List.cons.inj split).2).2
      rwa [escaped_cons (List.cons_ne_nil _ _), escaped_cons earlier.ne_nil]

/-- A character that is neither a quote nor escapes one is in the string. -/
theorem cons {character : Char} {rest : List Char} (string : StringRest rest)
    (plain : character ≠ '"') (alone : character = '/' → rest.head? ≠ some '"') :
    StringRest (character :: rest) := by
  obtain ⟨body, rfl, ends, escapes⟩ := string
  refine ⟨character :: body, rfl, ?_, fun front back split => ?_⟩
  · cases body with
    | nil =>
        intro slash
        exact alone (Option.some.inj slash) rfl
    | cons first body => rwa [escaped_cons (List.cons_ne_nil _ _)]
  · cases front with
    | nil => exact absurd (List.cons.inj split).1 plain
    | cons first front =>
        have earlier := escapes front back (List.cons.inj split).2
        rwa [escaped_cons earlier.ne_nil]

end StringRest

/-- The end of a string is found at its first quote that is not escaped. -/
theorem stringEnd?_rest {passed : Nat} {glyphs : List Glyph} {length : Nat}
    (found : stringEnd? passed glyphs = some length) :
    StringRest ((glyphs.take (length - passed)).map Glyph.character) := by
  have bounds := stringEnd?_bounds passed glyphs length found
  fun_induction stringEnd? passed glyphs with
  | case1 => cases found
  | case2 passed first rest quote =>
      cases found
      have step : passed + 1 - passed = 0 + 1 := by omega
      rw [step, List.take_succ_cons, List.take_zero, List.map_singleton, beq_iff_eq.1 quote]
      exact .closing
  | case3 passed first _ slash second rest quote ih =>
      have later := stringEnd?_bounds _ _ _ found
      have step : length - passed = length - (passed + 2) + 1 + 1 := by omega
      rw [step, List.take_succ_cons, List.take_succ_cons, List.map_cons, List.map_cons,
        beq_iff_eq.1 slash, beq_iff_eq.1 quote]
      exact (ih found later).escaped
  | case4 passed first plain slash second rest unquoted ih =>
      have later := stringEnd?_bounds _ _ _ found
      have step : length - passed = length - (passed + 1) + 1 := by omega
      rw [step, List.take_succ_cons, List.map_cons]
      refine (ih found later).cons (fun quote => plain (beq_iff_eq.2 quote)) fun _ quote => ?_
      obtain ⟨more, positive⟩ : ∃ more, length - (passed + 1) = more + 1 :=
        ⟨length - (passed + 1) - 1, by omega⟩
      rw [positive, List.take_succ_cons, List.map_cons, List.head?_cons] at quote
      exact unquoted (beq_iff_eq.2 (Option.some.inj quote))
  | case5 => cases found
  | case6 passed first rest plain open' ih =>
      have later := stringEnd?_bounds _ _ _ found
      have step : length - passed = length - (passed + 1) + 1 := by omega
      rw [step, List.take_succ_cons, List.map_cons]
      exact (ih found later).cons (fun quote => plain (beq_iff_eq.2 quote))
        fun slash => absurd (beq_iff_eq.2 slash) open'

/-- A string has the promised spelling. -/
theorem scanString_promises {first : Glyph} {rest : List Glyph} (quote : first.is '"' = true) :
    (scanString rest).Promises (first :: rest) := by
  intro kind length found
  unfold scanString at found
  split at found
  · rename_i length ends
    cases found
    obtain ⟨more, rfl⟩ : ∃ more, length = more + 1 :=
      ⟨length - 1, by have := stringEnd?_bounds _ _ _ ends; omega⟩
    have string := stringEnd?_rest ends
    rw [Nat.add_sub_cancel] at string
    rw [List.take_succ_cons, List.map_cons, beq_iff_eq.1 quote]
    exact .string ⟨_, rfl, string⟩
  · cases found

/-- A block comment in which `depth` others are open closes them all at its end, and not before. -/
structure BlockRest (depth : Nat) (rest : List Char) : Prop where
  closed : commentDepth rest = -(depth + 1)
  nested : ∀ front, front <+: rest → front ≠ rest → -(depth + 1) < commentDepth front

/-- A pair of characters that marks no border of a block comment does not count. -/
def Neutral (first second : Char) : Prop :=
  ¬(first = '-' ∧ second = '{') ∧ ¬(first = '}' ∧ second = '-')

/-- A character that is not part of a mark leaves the depth of comments alone. -/
theorem commentDepth_neutral {first : Char} {rest : List Char}
    (neutral : ∀ second, rest.head? = some second → Neutral first second) :
    commentDepth (first :: rest) = commentDepth rest := by
  cases rest with
  | nil => rfl
  | cons second rest =>
      obtain ⟨opens, closes⟩ := neutral second rfl
      rw [commentDepth, if_neg opens, if_neg closes]

theorem commentDepth_open (rest : List Char) :
    commentDepth ('-' :: '{' :: rest) = commentDepth rest + 1 := by
  rw [commentDepth, if_pos ⟨rfl, rfl⟩]

theorem commentDepth_close (rest : List Char) :
    commentDepth ('}' :: '-' :: rest) = commentDepth rest - 1 := by
  rw [commentDepth, if_neg (by decide), if_pos ⟨rfl, rfl⟩]

/-- A proper start of a text of two more characters breaks off before them or goes on behind them. -/
theorem prefix_pair {A : Type} {first second : A} {front rest : List A}
    (inside : front <+: first :: second :: rest) (proper : front ≠ first :: second :: rest) :
    front.length < 2 ∨ ∃ later, front = first :: second :: later ∧ later <+: rest ∧ later ≠ rest := by
  rcases front with _ | ⟨a, _ | ⟨b, later⟩⟩
  · exact .inl (by simp)
  · exact .inl (by simp)
  · simp only [List.cons_prefix_cons] at inside
    obtain ⟨rfl, rfl, behind⟩ := inside
    exact .inr ⟨later, rfl, behind, fun same => proper (same ▸ rfl)⟩

/-- A single character has no mark of a comment. -/
theorem commentDepth_short {front : List Char} (short : front.length < 2) : commentDepth front = 0 := by
  rcases front with _ | ⟨first, _ | ⟨second, rest⟩⟩
  · rfl
  · rfl
  · simp only [List.length_cons] at short
    omega

namespace BlockRest

variable {depth : Nat} {rest : List Char}

/-- A closing mark ends a block without further comments. -/
theorem closing : BlockRest 0 ['}', '-'] := by
  refine ⟨by decide, fun front inside proper => ?_⟩
  rcases prefix_pair inside proper with short | ⟨later, _, inside, proper⟩
  · rw [commentDepth_short short]
    decide
  · exact absurd (List.prefix_nil.1 inside) proper

/-- Comments that are opened in a block have to be closed in it. -/
theorem opened (block : BlockRest (depth + 1) rest) : BlockRest depth ('-' :: '{' :: rest) := by
  refine ⟨?_, fun front inside proper => ?_⟩
  · rw [commentDepth_open, block.closed]
    omega
  · rcases prefix_pair inside proper with short | ⟨later, rfl, inside, proper⟩
    · rw [commentDepth_short short]
      omega
    · have earlier := block.nested later inside proper
      rw [commentDepth_open]
      omega

/-- A closing mark of an inner comment leaves the outer ones open. -/
theorem shut (block : BlockRest depth rest) : BlockRest (depth + 1) ('}' :: '-' :: rest) := by
  refine ⟨?_, fun front inside proper => ?_⟩
  · rw [commentDepth_close, block.closed]
    omega
  · rcases prefix_pair inside proper with short | ⟨later, rfl, inside, proper⟩
    · rw [commentDepth_short short]
      omega
    · have earlier := block.nested later inside proper
      rw [commentDepth_close]
      omega

/-- A character that is not part of a mark is in the block. -/
theorem neutral {first second : Char} (block : BlockRest depth (second :: rest))
    (neutral : Neutral first second) : BlockRest depth (first :: second :: rest) := by
  refine ⟨?_, fun front inside proper => ?_⟩
  · rw [commentDepth_neutral (fun _ same => Option.some.inj same ▸ neutral), block.closed]
  · cases front with
    | nil =>
        change -((depth : Int) + 1) < 0
        omega
    | cons character front =>
        rw [List.cons_prefix_cons] at inside
        obtain ⟨rfl, behind⟩ := inside
        have earlier := block.nested front behind fun same => proper (same ▸ rfl)
        rwa [commentDepth_neutral]
        intro next found
        obtain ⟨later, rfl⟩ := List.head?_eq_some_iff.1 found
        rwa [(List.cons_prefix_cons.1 behind).1]

end BlockRest

/-- The end of a block comment is found where all its comments are closed. -/
theorem commentEnd?_rest {passed depth : Nat} {glyphs : List Glyph} {length : Nat}
    (found : commentEnd? passed depth glyphs = some length) :
    BlockRest depth ((glyphs.take (length - passed)).map Glyph.character) := by
  have bounds := commentEnd?_bounds passed depth glyphs length found
  fun_induction commentEnd? passed depth glyphs with
  | case1 => cases found
  | case2 => cases found
  | case3 passed depth first second rest opens ih =>
      have later := commentEnd?_bounds _ _ _ _ found
      have step : length - passed = length - (passed + 2) + 1 + 1 := by omega
      simp only [Glyph.is, Bool.and_eq_true, beq_iff_eq] at opens
      rw [step, List.take_succ_cons, List.take_succ_cons, List.map_cons, List.map_cons,
        opens.1, opens.2]
      exact (ih found later).opened
  | case4 passed first second rest _ closes =>
      cases found
      have step : passed + 2 - passed = 0 + 1 + 1 := by omega
      simp only [Glyph.is, Bool.and_eq_true, beq_iff_eq] at closes
      rw [step, List.take_succ_cons, List.take_succ_cons, List.take_zero, List.map_cons,
        List.map_singleton, closes.1, closes.2]
      exact .closing
  | case5 passed first second rest _ closes depth ih =>
      have later := commentEnd?_bounds _ _ _ _ found
      have step : length - passed = length - (passed + 2) + 1 + 1 := by omega
      simp only [Glyph.is, Bool.and_eq_true, beq_iff_eq] at closes
      rw [step, List.take_succ_cons, List.take_succ_cons, List.map_cons, List.map_cons,
        closes.1, closes.2]
      exact (ih found later).shut
  | case6 passed depth first second rest opens closes ih =>
      have later := commentEnd?_bounds _ _ _ _ found
      obtain ⟨more, positive⟩ : ∃ more, length - (passed + 1) = more + 1 :=
        ⟨length - (passed + 1) - 1, by omega⟩
      have step : length - passed = more + 1 + 1 := by omega
      have block := ih found later
      simp only [Glyph.is, Bool.and_eq_true, beq_iff_eq] at opens closes
      rw [positive, List.take_succ_cons, List.map_cons] at block
      rw [step, List.take_succ_cons, List.take_succ_cons, List.map_cons, List.map_cons]
      exact block.neutral ⟨opens, closes⟩

/-- A block comment starts with its opening mark and ends where it is closed. -/
theorem BlockRest.spelling {rest : List Char} (block : BlockRest 0 rest) :
    BlockSpelling ('-' :: '{' :: rest) := by
  refine ⟨⟨rest, rfl⟩, ?_, fun front inside proper long => ?_⟩
  · rw [commentDepth_open, block.closed]
    rfl
  · rcases prefix_pair inside proper with short | ⟨later, rfl, inside, proper⟩
    · omega
    · have earlier := block.nested later inside proper
      rw [commentDepth_open]
      omega

/-- A dash opens a comment of the promised spelling, or stands alone. -/
theorem scanDash_promises {first : Glyph} {rest : List Glyph} (dash : first.is '-' = true) :
    (scanDash rest).Promises (first :: rest) := by
  have isDash := beq_iff_eq.1 dash
  intro kind length found
  fun_cases scanDash rest with
  | case1 second body again =>
      rw [scanDash, if_pos again] at found
      cases found
      rw [Nat.add_comm, List.take_succ_cons, List.drop_succ_cons, List.map_cons, map_take_run,
        map_drop_run, isDash]
      refine .lineComment ?_ (stops_dropWhile _ _)
      rw [List.map_cons, beq_iff_eq.1 again, List.takeWhile_cons_of_pos (by decide)]
      refine ⟨_, rfl, fun newline => ?_⟩
      have other := List.mem_takeWhile_imp newline
      cases other
  | case2 second body single brace length ends =>
      rw [scanDash, if_neg single, if_pos brace, ends] at found
      cases found
      obtain ⟨more, rfl⟩ : ∃ more, length = more + 1 + 1 :=
        ⟨length - 2, by have := commentEnd?_bounds _ _ _ _ ends; omega⟩
      have block : BlockRest 0 ((body.take more).map Glyph.character) := commentEnd?_rest ends
      rw [List.take_succ_cons, List.take_succ_cons, List.map_cons, List.map_cons, isDash,
        beq_iff_eq.1 brace]
      exact .blockComment block.spelling
  | case3 second body single brace ends =>
      rw [scanDash, if_neg single, if_pos brace, ends] at found
      cases found
  | case4 second body single plain =>
      rw [scanDash, if_neg single, if_neg plain] at found
      cases found
      rw [List.take_succ_cons, List.take_zero, List.drop_succ_cons, List.drop_zero,
        List.map_singleton, isDash]
      refine .dash fun next same => ?_
      cases same
      exact Bool.or_eq_false_iff.2 ⟨Bool.eq_false_iff.2 single, Bool.eq_false_iff.2 plain⟩
  | case5 =>
      cases found
      rw [List.take_succ_cons, List.take_nil, List.drop_succ_cons, List.drop_nil,
        List.map_singleton, isDash]
      exact .dash fun next same => absurd same (by simp)

/-- Every token is spelled as its kind promises. -/
theorem scan_promises {first : Glyph} {rest : List Glyph} (solid : isBlank first.character = false) :
    (scan first rest).Promises (first :: rest) := by
  fun_cases scan first rest with
  | case1 dash => exact scanDash_promises dash
  | case2 _ quote => exact scanString_promises quote
  | case3 _ _ starts => exact scanWord_promises starts
  | case4 _ _ _ digit => exact scanNumber_promises digit
  | case5 _ _ _ _ kind known =>
      intro _ _ found
      cases found
      exact .symbol known
  | case6 notDash notQuote nameless numberless symbolless =>
      intro _ _ found
      cases found
      refine .unexpected ⟨solid, Bool.eq_false_iff.2 nameless, Bool.eq_false_iff.2 numberless,
        symbolless, fun dash => notDash (beq_iff_eq.2 dash), fun quote => notQuote (beq_iff_eq.2 quote)⟩

/-- A symbol starts no name and is no keyword. -/
theorem ofSymbol?_nameless {character : Char} {kind : Kind}
    (known : Kind.ofSymbol? character = some kind) :
    startsName character = false ∧ kind.isKeyword = false := by
  unfold Kind.ofSymbol? at known
  split at known
  all_goals
    cases known
  all_goals
    decide +kernel

/-- A keyword is spelled like a name. -/
theorem ofKeyword?_named {text : List Char} {kind : Kind}
    (known : Kind.ofKeyword? (String.ofList text) = some kind) :
    kind.isKeyword = true ∧ ∃ first more, text = first :: more ∧ startsName first = true := by
  have named {word : String} (same : String.ofList text = word) : text = word.toList := by
    rw [← same, String.toList_ofList]
  unfold Kind.ofKeyword? at known
  split at known
  all_goals
    cases known
  all_goals
    rename_i same
    exact ⟨rfl, _, _, named same, by decide +kernel⟩

/-- What starts like a name is a word. -/
theorem Promised.named {kind : Kind} {text after : List Char} (promised : Promised kind text after)
    {first : Char} {more : List Char} (same : text = first :: more) (starts : startsName first = true) :
    Kind.ofWord (String.ofList text) = kind := by
  have numberless (digit : isDecimalDigit first = true) : False := by
    rw [(decimalDigit_solid digit).2] at starts
    cases starts
  have marked {mark rest : List Char} {isRadixDigit : Char → Bool}
      (marked : RadixMark mark isRadixDigit) (same : mark ++ rest = first :: more) : False := by
    cases marked <;> cases same <;> exact numberless (by decide)
  have undelimited : first ≠ '-' ∧ first ≠ '"' := (startsName_solid starts).2
  cases promised with
  | endOfInput => cases same
  | identifier _ _ free _ => rw [Kind.ofWord, free, Option.getD_none]
  | keyword known _ => rw [Kind.ofWord, known, Option.getD_some]
  | decimal _ all _ _ => exact (numberless (all first (by simp [same]))).elim
  | radix mark _ _ _ => exact (marked mark same).elim
  | float longest =>
      obtain ⟨_, _, split, digit, _⟩ := longest.1.number
      cases split.symm.trans same
      exact (numberless digit).elim
  | string spelling =>
      obtain ⟨_, split, _⟩ := spelling
      exact absurd (List.cons.inj (split.symm.trans same)).1.symm undelimited.2
  | lineComment spelling _ =>
      obtain ⟨_, split, _⟩ := spelling
      exact absurd (List.cons.inj (split.symm.trans same)).1.symm undelimited.1
  | blockComment spelling =>
      obtain ⟨_, split⟩ := spelling.opens
      exact absurd (List.cons.inj (split.trans same)).1.symm undelimited.1
  | symbol known =>
      cases same
      rw [(ofSymbol?_nameless known).1] at starts
      cases starts
  | dash _ => exact absurd (List.cons.inj same).1.symm undelimited.1
  | malformed mark _ => exact (marked mark ((List.append_nil _).trans same)).elim
  | unexpected foreign =>
      cases same
      rw [foreign.nameless] at starts
      cases starts

/-- An integer token has digits, with a radix mark or without one. -/
theorem Promised.integer_spelling {text after : List Char} (promised : Promised .integer text after) :
    IntegerSpelling text := by
  cases promised with
  | keyword known _ => cases (ofKeyword?_named known).1
  | decimal some all _ _ => exact .decimal some all
  | radix marked some all _ =>
      cases marked with
      | binary => exact .binary some all
      | hexadecimal => exact .hexadecimal some all
  | symbol known => exact absurd rfl (ofSymbol?_ne known (by decide))

/-- A keyword is exactly what is spelled like one. -/
theorem Promised.keyword_iff {kind : Kind} {text after : List Char}
    (promised : Promised kind text after) (word : Kind) :
    Kind.ofKeyword? (String.ofList text) = some word ↔ kind = word ∧ word.isKeyword = true := by
  constructor
  · intro known
    obtain ⟨isKeyword, first, more, same, starts⟩ := ofKeyword?_named known
    have named := promised.named same starts
    rw [Kind.ofWord, known] at named
    exact ⟨named.symm, isKeyword⟩
  · rintro ⟨rfl, isKeyword⟩
    cases promised with
    | keyword known _ => exact known
    | symbol known =>
        rw [(ofSymbol?_nameless known).2] at isKeyword
        cases isKeyword
    | _ => cases isKeyword

end Lexeme

/-- A token of a cut is spelled as its kind promises where it stands in the text. -/
theorem Cut.token_promised {source : Bytes} {segments : List Segment} {tail : List Glyph}
    {misreadings : List Misreading} (cut : Cut .start source.glyphs segments tail misreadings)
    {token : Token} (member : token ∈ tokensFrom .start tail segments) :
    ∃ before text after, source.glyphs = before ++ text ++ after ∧
      token.span.start.offset = byteCount before ∧
      token.span.stop.offset = byteCount (before ++ text) ∧ token.lexeme = glyphBytes text ∧
      Promised token.kind (text.map Glyph.character) (after.map Glyph.character) := by
  have offset (glyphs : List Glyph) : (Location.start.pastAll glyphs).offset = byteCount glyphs := by
    rw [Location.offset_pastAll]
    exact Int.zero_add _
  rcases cut.token_cases member with rfl | ⟨before, first, rest, kind, length, whole, solid, found, rfl⟩
  · refine ⟨source.glyphs, [], [], by simp, offset _, ?_, rfl, .endOfInput⟩
    rw [List.append_nil]
    exact offset _
  · refine ⟨before, (first :: rest).take length, (first :: rest).drop length, ?_, offset _, offset _,
      rfl, scan_promises solid kind length found⟩
    rw [List.append_assoc, List.take_append_drop, whole]

/-- The characters of a token are spelled as its kind promises. -/
theorem Cut.lexeme_promised {source : Bytes} {segments : List Segment} {tail : List Glyph}
    {misreadings : List Misreading} (cut : Cut .start source.glyphs segments tail misreadings)
    {token : Token} (member : token ∈ tokensFrom .start tail segments) :
    ∃ after, Promised token.kind (token.lexeme.glyphs.map Glyph.character) after := by
  obtain ⟨before, text, after, whole, _, _, lexeme, promised⟩ := cut.token_promised member
  have isText := isText_glyphs source
  rw [whole] at isText
  have middle := (IsText.of_append _ _ (IsText.of_append _ _ isText).1).2
  rw [lexeme, glyphs_glyphBytes _ middle]
  exact ⟨_, promised⟩

/-- Every token is spelled as its kind promises and ends where it has to. A keyword is exactly what is
spelled like one. -/
theorem tokens_promised (source : Bytes) :
    ∃ tokens, (Reading.ofBytes source).buffer.tokens = .ok tokens ∧
      ∀ token ∈ tokens, ∃ before text after, source.glyphs = before ++ text ++ after ∧
        token.span.start.offset = byteCount before ∧
        token.span.stop.offset = byteCount (before ++ text) ∧ token.lexeme = glyphBytes text ∧
        Promised token.kind (text.map Glyph.character) (after.map Glyph.character) ∧
        ∀ word, Kind.ofKeyword? (String.ofList (text.map Glyph.character)) = some word ↔
          token.kind = word ∧ word.isKeyword = true := by
  obtain ⟨segments, tail, misreadings, cut⟩ := exists_cut .start source.glyphs
  refine ⟨_, cut.tokens, fun token member => ?_⟩
  obtain ⟨before, text, after, whole, start, stop, lexeme, promised⟩ := cut.token_promised member
  exact ⟨before, text, after, whole, start, stop, lexeme, promised, promised.keyword_iff⟩

end Reckon
