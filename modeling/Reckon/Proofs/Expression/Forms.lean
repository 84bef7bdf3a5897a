/-
This file shows that the text of an expression tells the expression. The text is that of a form, which is a
word or a group of forms, and no two forms have one text.
-/

import Reckon.Expression.Text
import Reckon.Proofs.Expression.Literals
import Reckon.Proofs.Expression.Parsed
import Reckon.Proofs.Parse.Wordwise

namespace Reckon

open Text Decimal Lexeme

/-- A form is a word, or a group that has a head and parts. -/
inductive Form where
  | word (text : String)
  | group (head : String) (parts : List Form)

namespace Form

/-- These characters are no part of a word. -/
def isDelimiter (character : Char) : Bool := character == ' ' || character == '(' || character == ')'

/-- Characters are solid when no delimiter is among them. -/
def Solid (characters : List Char) : Prop := ∀ character ∈ characters, isDelimiter character = false

/-- A word has ended where a delimiter follows, or nothing. -/
def Ended (rest : List Char) : Prop := ∀ first ∈ rest.head?, isDelimiter first = true

/-- A word has ended before a delimiter. -/
theorem ended_cons {first : Char} (delimiter : isDelimiter first = true) (rest : List Char) :
    Ended (first :: rest) := by
  intro first' here
  cases here
  exact delimiter

/-- Solid characters are told from what ends them. -/
theorem solid_unique {first second rest rest' : List Char} (solid : Solid first) (solid' : Solid second)
    (ended : Ended rest) (ended' : Ended rest') (same : first ++ rest = second ++ rest') :
    first = second ∧ rest = rest' := by
  induction first generalizing second with
  | nil =>
      cases second with
      | nil => exact ⟨rfl, same⟩
      | cons character second =>
          have delimiter := ended character (by rw [show rest = _ from same]; rfl)
          rw [solid' character List.mem_cons_self] at delimiter
          cases delimiter
  | cons character first ih =>
      cases second with
      | nil =>
          have delimiter := ended' character (by rw [show rest' = _ from same.symm]; rfl)
          rw [solid character List.mem_cons_self] at delimiter
          cases delimiter
      | cons character' second =>
          obtain ⟨here, later⟩ := List.cons.inj same
          obtain ⟨_, inner⟩ := List.forall_mem_cons.1 solid
          obtain ⟨_, inner'⟩ := List.forall_mem_cons.1 solid'
          obtain ⟨rfl, rests⟩ := ih inner inner' later
          exact ⟨by rw [here], rests⟩

mutual

/-- A group is written in parentheses, with a blank before each of its parts. -/
def written : Form → List Char
  | word text => text.toList
  | group head parts => '(' :: (head.toList ++ (writtenParts parts ++ [')']))

def writtenParts : List Form → List Char
  | [] => []
  | part :: parts => ' ' :: (part.written ++ writtenParts parts)

end

/-- A form is sound when its words and heads are solid, and no word in it is empty. -/
inductive Sound : Form → Prop where
  | word {text : String} (filled : text.toList ≠ []) (solid : Solid text.toList) : Sound (.word text)
  | group {head : String} {parts : List Form} (solid : Solid head.toList)
      (inner : ∀ part ∈ parts, Sound part) : Sound (.group head parts)

/-- The parts of a sound group are sound. -/
theorem Sound.parts {head : String} {parts : List Form} (sound : (Form.group head parts).Sound) :
    ∀ part ∈ parts, part.Sound := by
  cases sound with
  | group _ inner => exact inner

/-- A word has ended before the parts of a group. -/
theorem ended_parts (parts : List Form) (rest : List Char) : Ended (writtenParts parts ++ ')' :: rest) := by
  cases parts with
  | nil => exact ended_cons (by decide) _
  | cons => exact ended_cons (by decide) _

/-- A sound form is not written as nothing. -/
theorem Sound.filled {form : Form} (sound : form.Sound) : form.written ≠ [] := by
  cases sound with
  | word filled => exact filled
  | group => exact List.cons_ne_nil _ _

/-- No word is written like a group. -/
theorem word_ne_group {text head : String} {parts : List Form} (sound : (word text).Sound)
    {rest rest' : List Char} : (word text).written ++ rest ≠ (group head parts).written ++ rest' := by
  intro same
  cases sound with
  | word filled solid =>
  obtain ⟨first, more, here⟩ := List.exists_cons_of_ne_nil filled
  rw [written, here] at same
  obtain ⟨rfl, _⟩ := List.cons.inj same
  have outside := solid '(' (by rw [here]; exact List.mem_cons_self)
  cases outside

mutual

/-- Two sound forms that are written alike are one form, whatever follows them. -/
theorem written_unique (form form' : Form) (sound : form.Sound) (sound' : form'.Sound)
    {rest rest' : List Char} (ended : Ended rest) (ended' : Ended rest')
    (same : form.written ++ rest = form'.written ++ rest') : form = form' ∧ rest = rest' := by
  cases form with
  | word text =>
      cases form' with
      | group head parts => exact absurd same (word_ne_group sound)
      | word text' =>
          cases sound with
          | word _ solid =>
          cases sound' with
          | word _ solid' =>
          obtain ⟨texts, rests⟩ := solid_unique solid solid' ended ended' same
          exact ⟨by rw [String.toList_inj.1 texts], rests⟩
  | group head parts =>
      cases form' with
      | word text => exact absurd same.symm (word_ne_group sound')
      | group head' parts' =>
          cases sound with
          | group solid inner =>
          cases sound' with
          | group solid' inner' =>
          simp only [written, List.cons_append, List.append_assoc, List.nil_append, List.cons.injEq,
            true_and] at same
          obtain ⟨heads, later⟩ := solid_unique solid solid' (ended_parts _ _) (ended_parts _ _) same
          obtain ⟨rfl, rests⟩ := writtenParts_unique parts parts' inner inner' later
          exact ⟨by rw [String.toList_inj.1 heads], rests⟩

/-- Parts of sound groups that are written alike before their closing parentheses are the same. -/
theorem writtenParts_unique (parts parts' : List Form) (sound : ∀ part ∈ parts, part.Sound)
    (sound' : ∀ part ∈ parts', part.Sound) {rest rest' : List Char}
    (same : writtenParts parts ++ ')' :: rest = writtenParts parts' ++ ')' :: rest') :
    parts = parts' ∧ rest = rest' := by
  cases parts with
  | nil =>
      cases parts' with
      | nil => exact ⟨rfl, (List.cons.inj same).2⟩
      | cons => cases (List.cons.inj same).1
  | cons part parts =>
      cases parts' with
      | nil => cases (List.cons.inj same).1
      | cons part' parts' =>
          obtain ⟨here, later⟩ := List.forall_mem_cons.1 sound
          obtain ⟨here', later'⟩ := List.forall_mem_cons.1 sound'
          simp only [writtenParts, List.cons_append, List.append_assoc, List.cons.injEq, true_and] at same
          obtain ⟨rfl, rests⟩ :=
            written_unique part part' here here' (ended_parts _ _) (ended_parts _ _) same
          obtain ⟨rfl, ends⟩ := writtenParts_unique parts parts' later later' rests
          exact ⟨rfl, ends⟩

end

end Form

namespace Form

/-- Characters of a class that leaves the delimiters out are solid. -/
theorem solid_of_class {inClass : Char → Bool} (blank : inClass ' ' = false) (left : inClass '(' = false)
    (right : inClass ')' = false) {characters : List Char}
    (inside : ∀ character ∈ characters, inClass character = true) : Solid characters := by
  intro character member
  have differs {other : Char} (outside : inClass other = false) : (character == other) = false := by
    rw [beq_eq_false_iff_ne]
    rintro rfl
    rw [inside character member] at outside
    cases outside
  rw [isDelimiter, differs blank, differs left, differs right]
  rfl

/-- A name is a sound word. -/
theorem sound_name {name : String} (isName : IsName name) : (word name).Sound := by
  obtain ⟨first, more, same, starts, continues, _⟩ := (isName_iff name).1 isName
  constructor
  · rw [same]
    exact List.cons_ne_nil _ _
  · have inside : ∀ character ∈ name.toList, continuesName character = true := by
      rw [same]
      refine List.forall_mem_cons.2 ⟨?_, continues⟩
      rw [continuesName, starts, Bool.true_or]
    exact solid_of_class (by decide +kernel) (by decide +kernel) (by decide +kernel) inside

theorem solid_digits {digits : List Char} (all : AllDigits digits) : Solid digits :=
  solid_of_class (by decide) (by decide) (by decide) all

theorem Solid.append {first second : List Char} (left : Solid first) (right : Solid second) :
    Solid (first ++ second) := List.forall_mem_append.2 ⟨left, right⟩

/-- A decimal numeral has no delimiter. -/
theorem solid_decimal (form : DecimalForm) : Solid form.text := by
  have fraction : Solid form.fractionText := by
    have digits := solid_digits form.fraction_digits
    rw [DecimalForm.fractionText]
    split
    · exact List.forall_mem_nil _
    · rename_i same
      rw [same] at digits
      exact List.forall_mem_cons.2 ⟨by decide, digits⟩
  have exponent : Solid form.exponentText := by
    rw [DecimalForm.exponentText]
    split
    · exact List.forall_mem_nil _
    · rename_i negative digits same
      have sign : isDelimiter (if negative then '-' else '+') = false := by cases negative <;> decide
      have solid := solid_digits (form.exponent_digits negative digits same)
      exact List.forall_mem_cons.2 ⟨by decide, List.forall_mem_cons.2 ⟨sign, solid⟩⟩
  exact (solid_digits form.whole_digits).append (fraction.append exponent)

/-- A binary operator is a sound word. -/
theorem sound_operator {operator : Operator} (isBinary : operator.isBinary = true) :
    (word operator.text).Sound := by
  have single : ∃ symbol, operator.text = String.ofList [symbol] ∧ isDelimiter symbol = false := by
    cases operator with
    | add => exact ⟨'+', rfl, by decide⟩
    | sub => exact ⟨'-', rfl, by decide⟩
    | mul => exact ⟨'*', rfl, by decide⟩
    | div => exact ⟨'/', rfl, by decide⟩
    | mod => exact ⟨'%', rfl, by decide⟩
    | other code => cases isBinary
  obtain ⟨symbol, text, outside⟩ := single
  rw [text]
  constructor
  · rw [String.toList_ofList]
    exact List.cons_ne_nil _ _
  · rw [String.toList_ofList]
    exact List.forall_mem_singleton.2 outside

/-- An integer is a sound word. -/
theorem sound_int {value : Int64} (positive : 0 ≤ value.toInt) :
    (word (toString value.toInt)).Sound := by
  obtain ⟨digits, same, filled, all, _⟩ := integerLiteral_reads positive
  rw [← same] at filled all
  exact .word filled (solid_digits all)

/-- A float that can be spelled is a sound word. -/
theorem sound_float {value : Float} (plain : IsPlain value) : (word (floatLiteralText value)).Sound := by
  obtain ⟨mantissa, exponent, found⟩ := plain
  obtain ⟨form, same, _, _⟩ := floatLiteral_reads found
  constructor
  · rw [same, DecimalForm.text]
    exact List.append_ne_nil_of_left_ne_nil form.whole_ne _
  · rw [same]
    exact solid_decimal form

end Form

/-- Integers are told by their digits. -/
theorem int_unique {value value' : Int64} (positive : 0 ≤ value.toInt) (positive' : 0 ≤ value'.toInt)
    (same : toString value.toInt = toString value'.toInt) : value = value' := by
  obtain ⟨_, _, _, _, read⟩ := integerLiteral_reads positive
  obtain ⟨_, _, _, _, read'⟩ := integerLiteral_reads positive'
  rw [same, read'] at read
  cases read
  rfl

/-- Floats that are written alike are the same. -/
theorem float_unique {value value' : Float} (plain : IsPlain value) (plain' : IsPlain value')
    (same : floatLiteralText value = floatLiteralText value') : value = value' := by
  obtain ⟨_, _, found⟩ := plain
  obtain ⟨_, _, found'⟩ := plain'
  obtain ⟨_, _, _, read⟩ := floatLiteral_reads found
  obtain ⟨_, _, _, read'⟩ := floatLiteral_reads found'
  rw [same, read'] at read
  cases read
  rfl

/-- A float shows a point or an exponent, and an integer shows none. -/
theorem int_ne_float {value : Int64} {value' : Float} (positive : 0 ≤ value.toInt) (plain : IsPlain value') :
    toString value.toInt ≠ floatLiteralText value' := by
  intro same
  obtain ⟨digits, whole, _, all, _⟩ := integerLiteral_reads positive
  obtain ⟨_, _, found⟩ := plain
  obtain ⟨form, text, fractional, _⟩ := floatLiteral_reads found
  have marked := fractional.any
  rw [← text, ← same, whole, digits_not_fractional all] at marked
  cases marked

/-- Operators that are written alike are the same. -/
theorem Operator.text_unique {operator operator' : Operator} (isBinary : operator.isBinary = true)
    (isBinary' : operator'.isBinary = true) (same : operator.text = operator'.text) :
    operator = operator' := by
  cases operator with
  | other code => cases isBinary
  | add | sub | mul | div | mod =>
      cases operator' with
      | other code => cases isBinary'
      | add | sub | mul | div | mod => first | rfl | exact absurd same (by decide)

/-- The signs are binary operators too. -/
theorem Operator.isBinary_of_isUnary {operator : Operator} (isUnary : operator.isUnary = true) :
    operator.isBinary = true := by
  cases operator with
  | add | sub => rfl
  | mul | div | mod | other code => cases isUnary

/-- A unit is written like a group without anything in it. -/
def Literal.form : Literal → Form
  | int value => .word (toString value.toInt)
  | float value => .word (floatLiteralText value)
  | unit => .group "" []
  | other shown => .word shown

namespace Expression

mutual

/-- This is the form of an expression. The elements of a list are parts of the same group. -/
def form : Expression → Form
  | hole => .word missingText
  | literal _ value => .group "literal" [value.form]
  | ident _ name => .group "var" [.word name]
  | unary _ operator operand => .group "unary" [.word operator.text, operand.form]
  | binary _ operator left right => .group "binary" [.word operator.text, left.form, right.form]
  | function _ param body => .group "fn" [.word param, body.form]
  | apply _ callee arg => .group "apply" [callee.form, arg.form]
  | list _ elems => .group "list" (allForms elems)

def allForms : List Expression → List Form
  | [] => []
  | elem :: elems => elem.form :: allForms elems

end

end Expression

def Statement.form : Statement → Form
  | missing => .word missingText
  | assign _ name value => .group "assign" [.word name, value.form]
  | define _ name param body => .group "def" [.word name, .word param, body.form]
  | expression value => value.form

namespace Form

/-- The names of the constructs are heads. -/
theorem sound_group {head : String} {parts : List Form}
    (known : head ∈ ["", "literal", "var", "unary", "binary", "fn", "apply", "list", "assign", "def"])
    (inner : ∀ part ∈ parts, part.Sound) : (group head parts).Sound := by
  have solid : ∀ head ∈ ["", "literal", "var", "unary", "binary", "fn", "apply", "list", "assign", "def"],
      Solid head.toList := by
    simp [Solid, isDelimiter]
  exact .group (solid head known) inner

/-- A text tells a form when it is what is written for the form. -/
def Tells (text : String) (form : Form) : Prop := text.toList = form.written

theorem tells_word (text : String) : Tells text (.word text) := rfl

theorem tells_unit : Tells "()" (.group "" []) := rfl

/-- Texts with blanks between them are the parts of a group. -/
theorem intercalate_tells (name : String) {texts : List String} {parts : List Form}
    (each : List.Forall₂ Tells texts parts) :
    (String.intercalate " " (name :: texts)).toList = name.toList ++ writtenParts parts := by
  induction each generalizing name with
  | nil =>
      rw [writtenParts, List.append_nil]
      rfl
  | @cons text part texts parts here later ih =>
      rw [String.intercalate_cons_cons, String.toList_append, String.toList_append, ih, writtenParts, here,
        List.append_assoc]
      rfl

/-- A construct without empty parts is written as a group. -/
theorem toList_construct (name : String) {texts : List String} (filled : ∀ text ∈ texts, text.toList ≠ []) :
    (constructText name texts).toList =
      '(' :: ((String.intercalate " " (name :: texts)).toList ++ [')']) := by
  have shown : texts.filter (fun part => !part.isEmpty) = texts := by
    apply List.filter_eq_self.2
    intro text member
    simpa using filled text member
  rw [constructText, shown]
  show ("(" ++ _ ++ ")").toList = _
  rw [String.toList_append, String.toList_append]
  rfl

/-- The text of a construct is the group of its parts. -/
theorem tells_construct {name : String} {texts : List String} {parts : List Form}
    (each : List.Forall₂ Tells texts parts) (sound : (group name parts).Sound) :
    Tells (constructText name texts) (group name parts) := by
  have filled : ∀ text ∈ texts, text.toList ≠ [] := by
    intro text member
    obtain ⟨index, inside, rfl⟩ := List.getElem_of_mem member
    have below := each.length_eq ▸ inside
    have tells : Tells texts[index] parts[index] := each.get inside below
    rw [tells]
    exact (sound.parts parts[index] (List.getElem_mem below)).filled
  rw [Tells, toList_construct name filled, intercalate_tells name each, written, List.append_assoc]

/-- Texts tell sound forms apart. -/
theorem tells_iff {text text' : String} {form form' : Form} (tells : Tells text form)
    (tells' : Tells text' form') (sound : form.Sound) (sound' : form'.Sound) :
    text = text' ↔ form = form' := by
  rw [← String.toList_inj, tells, tells']
  constructor
  · intro same
    exact (@written_unique form form' sound sound' [] [] nofun nofun (by rw [same])).1
  · intro same
    rw [same]

end Form

namespace Expression

open Form

/-- The forms of several trees are those of each. -/
theorem allForms_eq (elems : List Expression) : allForms elems = elems.map form := by
  induction elems with
  | nil => rfl
  | cons elem elems ih => rw [allForms, List.map_cons, ih]

/-- The form of a parsed expression is sound. -/
theorem Parsable.sound {expression : Expression} (parsable : expression.Parsable) :
    expression.form.Sound := by
  induction parsable with
  | int positive => exact sound_group (by decide) (List.forall_mem_singleton.2 (sound_int positive))
  | float plain => exact sound_group (by decide) (List.forall_mem_singleton.2 (sound_float plain))
  | unit =>
      apply sound_group (by decide)
      exact List.forall_mem_singleton.2 (sound_group (by decide) (List.forall_mem_nil _))
  | ident isName => exact sound_group (by decide) (List.forall_mem_singleton.2 (sound_name isName))
  | unary isUnary _ inner =>
      have operator := sound_operator (Operator.isBinary_of_isUnary isUnary)
      exact sound_group (by decide) (by simp [operator, inner])
  | binary isBinary _ _ first second =>
      exact sound_group (by decide) (by simp [sound_operator isBinary, first, second])
  | function isName _ inner => exact sound_group (by decide) (by simp [sound_name isName, inner])
  | apply _ _ _ first second => exact sound_group (by decide) (by simp [first, second])
  | list _ inner =>
      apply sound_group (by decide)
      rw [allForms_eq]
      exact List.forall_mem_map.2 inner

theorem Parsable.text_eq {expression : Expression} (parsable : expression.Parsable) :
    expression.text = .ok expression.shown := by
  cases parsable <;> rfl

/-- The elements of a list are written like parts of a group, but for the first blank. -/
theorem elementsText_tells {elems : List Expression}
    (each : ∀ elem ∈ elems, elem.text = .ok elem.shown ∧ Tells elem.shown elem.form) (some : elems ≠ []) :
    ∃ text, elementsText elems = .ok text ∧ ' ' :: text.toList = writtenParts (allForms elems) := by
  induction elems with
  | nil => exact absurd rfl some
  | cons elem elems ih =>
      obtain ⟨⟨found, tells⟩, later⟩ := List.forall_mem_cons.1 each
      cases elems with
      | nil =>
          refine ⟨elem.shown, found, ?_⟩
          rw [allForms, allForms, writtenParts, writtenParts, List.append_nil, tells]
      | cons second elems =>
          obtain ⟨rest, found', tells'⟩ := ih later (List.cons_ne_nil _ _)
          refine ⟨elem.shown ++ " " ++ rest, ?_, ?_⟩
          · rw [elementsText, found, found']
            · rfl
            · exact List.cons_ne_nil _ _
          · rw [allForms, writtenParts, ← tells', ← tells]
            simp

/-- A list is written as one group with its elements. -/
theorem list_tells {elems : List Expression} (sound : (Form.group "list" (allForms elems)).Sound)
    (each : ∀ elem ∈ elems, elem.text = .ok elem.shown ∧ Tells elem.shown elem.form) :
    Tells (constructText "list" [shownOrFault (elementsText elems)]) (.group "list" (allForms elems)) := by
  cases elems with
  | nil => rfl
  | cons elem elems =>
      obtain ⟨text, found, written⟩ := elementsText_tells each (List.cons_ne_nil _ _)
      have filled : text.toList ≠ [] := by
        intro empty
        rw [empty, allForms, writtenParts] at written
        have nothing := (List.append_eq_nil_iff.1 (List.cons.inj written).2.symm).1
        exact (sound.parts _ List.mem_cons_self).filled nothing
      rw [found, Tells]
      show (constructText "list" [text]).toList = _
      rw [toList_construct "list" (List.forall_mem_singleton.2 filled), Form.written, ← written,
        String.intercalate_cons_cons, String.toList_append, String.toList_append]
      simp

/-- The text of a parsable expression tells its form. -/
theorem Parsable.tells {expression : Expression} (parsable : expression.Parsable) :
    Tells expression.shown expression.form := by
  have sound := parsable.sound
  induction parsable with
  | int | float => exact tells_construct (.cons (tells_word _) .nil) sound
  | unit => exact tells_construct (.cons tells_unit .nil) sound
  | ident => exact tells_construct (.cons (tells_word _) .nil) sound
  | unary _ inner ih => exact tells_construct (.cons (tells_word _) (.cons (ih inner.sound) .nil)) sound
  | binary _ first second ih ih' =>
      apply tells_construct _ sound
      exact .cons (tells_word _) (.cons (ih first.sound) (.cons (ih' second.sound) .nil))
  | function _ inner ih => exact tells_construct (.cons (tells_word _) (.cons (ih inner.sound) .nil)) sound
  | apply _ first second ih ih' =>
      exact tells_construct (.cons (ih first.sound) (.cons (ih' second.sound) .nil)) sound
  | list inner ih =>
      apply list_tells sound
      intro elem member
      exact ⟨(inner elem member).text_eq, ih elem member (inner elem member).sound⟩

/-- Elements of the same forms are the same trees. -/
theorem same_trees {elems elems' : List Expression} (same : elems.map form = elems'.map form)
    (each : ∀ elem ∈ elems, ∀ elem' ∈ elems', elem.form = elem'.form → SameTree elem elem') :
    List.Forall₂ SameTree elems elems' := by
  induction elems generalizing elems' with
  | nil =>
      cases elems' with
      | nil => exact .nil
      | cons => cases same
  | cons elem elems ih =>
      cases elems' with
      | nil => cases same
      | cons elem' elems' =>
          obtain ⟨here, later⟩ := List.cons.inj same
          apply List.Forall₂.cons (each elem List.mem_cons_self elem' List.mem_cons_self here)
          apply ih later
          intro inner member inner' member'
          exact each inner (List.mem_cons_of_mem _ member) inner' (List.mem_cons_of_mem _ member')

/-- Parsable expressions of one form are one tree. -/
theorem Parsable.form_unique {expression expression' : Expression} (parsable : expression.Parsable)
    (parsable' : expression'.Parsable) (same : expression.form = expression'.form) :
    SameTree expression expression' := by
  -- The head tells the construct, so the other constructs are excluded in each case.
  induction parsable generalizing expression' with
  | int positive =>
      cases parsable' with
      | int positive' =>
          simp only [form, Literal.form, group.injEq, List.cons.injEq, word.injEq, true_and, and_true] at same
          rw [int_unique positive positive' same]
          rfl
      | float plain =>
          simp only [form, Literal.form, group.injEq, List.cons.injEq, word.injEq, true_and, and_true] at same
          exact absurd same (int_ne_float positive plain)
      | _ => simp [form, Literal.form] at same
  | float plain =>
      cases parsable' with
      | int positive =>
          simp only [form, Literal.form, group.injEq, List.cons.injEq, word.injEq, true_and, and_true] at same
          exact absurd same.symm (int_ne_float positive plain)
      | float plain' =>
          simp only [form, Literal.form, group.injEq, List.cons.injEq, word.injEq, true_and, and_true] at same
          rw [float_unique plain plain' same]
          rfl
      | _ => simp [form, Literal.form] at same
  | unit =>
      cases parsable' with
      | unit => rfl
      | _ => simp [form, Literal.form] at same
  | ident =>
      cases parsable' with
      | ident =>
          simp only [form, group.injEq, List.cons.injEq, word.injEq, true_and, and_true] at same
          rw [same]
          rfl
      | _ => simp [form] at same
  | unary isUnary _ ih =>
      cases parsable' with
      | unary isUnary' inner =>
          simp only [form, group.injEq, List.cons.injEq, word.injEq, true_and, and_true] at same
          have operators := Operator.text_unique (Operator.isBinary_of_isUnary isUnary)
            (Operator.isBinary_of_isUnary isUnary') same.1
          rw [SameTree, bare, bare, operators, ih inner same.2]
      | _ => simp [form] at same
  | binary isBinary _ _ ih ih' =>
      cases parsable' with
      | binary isBinary' first second =>
          simp only [form, group.injEq, List.cons.injEq, word.injEq, true_and, and_true] at same
          obtain ⟨texts, left, right⟩ := same
          rw [SameTree, bare, bare, Operator.text_unique isBinary isBinary' texts, ih first left,
            ih' second right]
      | _ => simp [form] at same
  | function _ _ ih =>
      cases parsable' with
      | function _ inner =>
          simp only [form, group.injEq, List.cons.injEq, word.injEq, true_and, and_true] at same
          rw [SameTree, bare, bare, same.1, ih inner same.2]
      | _ => simp [form] at same
  | apply _ _ _ ih ih' =>
      cases parsable' with
      | apply _ first second =>
          simp only [form, group.injEq, List.cons.injEq, true_and, and_true] at same
          rw [SameTree, bare, bare, ih first same.1, ih' second same.2]
      | _ => simp [form] at same
  | @list span elems inner ih =>
      cases parsable' with
      | @list span' elems' inner' =>
          simp only [form, group.injEq, true_and, allForms_eq] at same
          have each : List.Forall₂ SameTree elems elems' := by
            apply same_trees same
            intro elem member elem' member'
            exact ih elem member (inner' elem' member')
          rw [SameTree, bare, bare, Twins.same_allBare each]
      | _ => simp [form] at same

/-- No expression has the form of a statement that binds a name. -/
theorem Parsable.form_ne {expression : Expression} (parsable : expression.Parsable) {head : String}
    {parts : List Form} (binds : head = "assign" ∨ head = "def") : expression.form ≠ .group head parts := by
  rcases binds with rfl | rfl <;> cases parsable <;> simp [form]

mutual

/-- The form of an expression does not depend on its spans. -/
theorem form_bare (expression : Expression) : expression.bare.form = expression.form := by
  cases expression with
  | hole | literal | ident => rfl
  | unary span operator operand => rw [bare, form, form, form_bare operand]
  | binary span operator left right => rw [bare, form, form, form_bare left, form_bare right]
  | function span param body => rw [bare, form, form, form_bare body]
  | apply span callee arg => rw [bare, form, form, form_bare callee, form_bare arg]
  | list span elems => rw [bare, form, form, allForms_bare elems]

/-- Spans do not matter to the forms of several trees. -/
theorem allForms_bare (elems : List Expression) : allForms (allBare elems) = allForms elems := by
  cases elems with
  | nil => rfl
  | cons elem elems => rw [allBare, allForms, allForms, form_bare elem, allForms_bare elems]

end

end Expression

namespace Statement

open Form

/-- The form of a parsed statement is sound. -/
theorem Parsable.sound {statement : Statement} (parsable : statement.Parsable) : statement.form.Sound := by
  cases statement with
  | missing => cases parsable
  | assign span name value =>
      obtain ⟨isName, inner⟩ := parsable
      exact sound_group (by decide) (by simp [sound_name isName, inner.sound])
  | define span name param body =>
      obtain ⟨isName, isParam, inner⟩ := parsable
      exact sound_group (by decide) (by simp [sound_name isName, sound_name isParam, inner.sound])
  | expression value => exact Expression.Parsable.sound parsable

/-- The text of a parsable statement tells its form. -/
theorem Parsable.tells {statement : Statement} (parsable : statement.Parsable) :
    ∃ text, statement.text = .ok text ∧ Tells text statement.form := by
  have sound := parsable.sound
  cases statement with
  | missing => cases parsable
  | assign span name value =>
      exact ⟨_, rfl, tells_construct (.cons (tells_word _) (.cons parsable.2.tells .nil)) sound⟩
  | define span name param body =>
      refine ⟨_, rfl, tells_construct ?_ sound⟩
      exact .cons (tells_word _) (.cons (tells_word _) (.cons parsable.2.2.tells .nil))
  | expression value =>
      have parsable : value.Parsable := parsable
      exact ⟨value.shown, parsable.text_eq, parsable.tells⟩

theorem Parsable.form_unique {statement statement' : Statement} (parsable : statement.Parsable)
    (parsable' : statement'.Parsable) (same : statement.form = statement'.form) :
    SameStatement statement statement' := by
  cases statement with
  | missing => cases parsable
  | assign span name value =>
      cases statement' with
      | missing => cases parsable'
      | define => simp [form] at same
      | expression => exact absurd same.symm (parsable'.form_ne (.inl rfl))
      | assign span' name' value' =>
          simp only [form, group.injEq, List.cons.injEq, word.injEq, true_and, and_true] at same
          rw [SameStatement, bare, bare, same.1, parsable.2.form_unique parsable'.2 same.2]
  | define span name param body =>
      cases statement' with
      | missing => cases parsable'
      | assign => simp [form] at same
      | expression => exact absurd same.symm (parsable'.form_ne (.inr rfl))
      | define span' name' param' body' =>
          simp only [form, group.injEq, List.cons.injEq, word.injEq, true_and, and_true] at same
          obtain ⟨names, params, bodies⟩ := same
          rw [SameStatement, bare, bare, names, params, parsable.2.2.form_unique parsable'.2.2 bodies]
  | expression value =>
      have parsable : value.Parsable := parsable
      cases statement' with
      | missing => cases parsable'
      | assign => exact absurd same (parsable.form_ne (.inl rfl))
      | define => exact absurd same (parsable.form_ne (.inr rfl))
      | expression value' => exact congrArg expression (parsable.form_unique parsable' same)

theorem form_bare (statement : Statement) : statement.bare.form = statement.form := by
  cases statement with
  | missing => rfl
  | assign span name value => rw [bare, form, form, value.form_bare]
  | define span name param body => rw [bare, form, form, body.form_bare]
  | expression value => exact value.form_bare

end Statement

/-- The texts of two parsed trees are equal exactly when the trees are, but for their spans. This holds of
expressions and of statements. -/
theorem text_unambiguous (source source' : Bytes) :
    (∀ expression expression', (Reading.ofBytes source).buffer.parseExpression = .ok expression →
      (Reading.ofBytes source').buffer.parseExpression = .ok expression' →
      ∃ text text', expression.text = .ok text ∧ expression'.text = .ok text' ∧
        (text = text' ↔ SameTree expression expression')) ∧
    (∀ statement statement', (Reading.ofBytes source).buffer.parseStatement = .ok statement →
      (Reading.ofBytes source').buffer.parseStatement = .ok statement' →
      ∃ text text', statement.text = .ok text ∧ statement'.text = .ok text' ∧
        (text = text' ↔ SameStatement statement statement')) := by
  constructor
  · intro expression expression' parsed parsed'
    have parsable := (parsed_parsable source).1 expression parsed
    have parsable' := (parsed_parsable source').1 expression' parsed'
    refine ⟨_, _, parsable.text_eq, parsable'.text_eq, ?_⟩
    rw [Form.tells_iff parsable.tells parsable'.tells parsable.sound parsable'.sound]
    constructor
    · exact parsable.form_unique parsable'
    · intro same
      rw [← expression.form_bare, same, expression'.form_bare]
  · intro statement statement' parsed parsed'
    have parsable := (parsed_parsable source).2 statement parsed
    have parsable' := (parsed_parsable source').2 statement' parsed'
    obtain ⟨text, found, tells⟩ := parsable.tells
    obtain ⟨text', found', tells'⟩ := parsable'.tells
    refine ⟨text, text', found, found', ?_⟩
    rw [Form.tells_iff tells tells' parsable.sound parsable'.sound]
    constructor
    · exact parsable.form_unique parsable'
    · intro same
      rw [← statement.form_bare, same, statement'.form_bare]

/-- This is the text of what was parsed, if it has one. -/
def parsedText? {A : Type} (text : A → Except Fault String) (parsed : Result A) : Option String :=
  match parsed with
  | .ok tree => (text tree).toOption
  | .error _ => none

/-- A text that was found is the text of what was parsed. -/
theorem exists_of_parsedText {A : Type} {text : A → Except Fault String} {parsed : Result A}
    {written : String} (found : parsedText? text parsed = some written) :
    ∃ tree, parsed = .ok tree ∧ text tree = .ok written := by
  cases parsed with
  | error trouble => cases found
  | ok tree =>
      refine ⟨tree, rfl, ?_⟩
      rw [parsedText?] at found
      cases shown : text tree with
      | ok other =>
          rw [shown] at found
          cases found
          rfl
      | error fault =>
          rw [shown] at found
          cases found

/-- Parentheses around an argument or a value leave no trace in the text, and so they make no other tree. -/
theorem parentheses_unambiguous :
    (∃ expression expression', (Reading.ofBytes #[102, 32, 120]).buffer.parseExpression = .ok expression ∧
      (Reading.ofBytes #[102, 40, 120, 41]).buffer.parseExpression = .ok expression' ∧
      expression.text = .ok "(apply (var f) (var x))" ∧ SameTree expression expression') ∧
    (∃ statement statement', (Reading.ofBytes #[102, 61, 120]).buffer.parseStatement = .ok statement ∧
      (Reading.ofBytes #[102, 61, 40, 120, 41]).buffer.parseStatement = .ok statement' ∧
      statement.text = .ok "(assign f (var x))" ∧ SameStatement statement statement') := by
  constructor
  · have first : parsedText? Expression.text (Reading.ofBytes #[102, 32, 120]).buffer.parseExpression =
        some "(apply (var f) (var x))" := by decide +kernel
    have second : parsedText? Expression.text (Reading.ofBytes #[102, 40, 120, 41]).buffer.parseExpression =
        some "(apply (var f) (var x))" := by decide +kernel
    obtain ⟨expression, parsed, text⟩ := exists_of_parsedText first
    obtain ⟨expression', parsed', text'⟩ := exists_of_parsedText second
    obtain ⟨_, _, found, found', same⟩ := (text_unambiguous _ _).1 expression expression' parsed parsed'
    cases text.symm.trans found
    cases text'.symm.trans found'
    exact ⟨expression, expression', parsed, parsed', text, same.1 rfl⟩
  · have first : parsedText? Statement.text (Reading.ofBytes #[102, 61, 120]).buffer.parseStatement =
        some "(assign f (var x))" := by decide +kernel
    have second : parsedText? Statement.text (Reading.ofBytes #[102, 61, 40, 120, 41]).buffer.parseStatement =
        some "(assign f (var x))" := by decide +kernel
    obtain ⟨statement, parsed, text⟩ := exists_of_parsedText first
    obtain ⟨statement', parsed', text'⟩ := exists_of_parsedText second
    obtain ⟨_, _, found, found', same⟩ := (text_unambiguous _ _).2 statement statement' parsed parsed'
    cases text.symm.trans found
    cases text'.symm.trans found'
    exact ⟨statement, statement', parsed, parsed', text, same.1 rfl⟩

end Reckon
