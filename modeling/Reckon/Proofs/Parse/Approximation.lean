/-
This file compares parsers that only differ in where they fault. When one recursive occurrence of a rule
faults less often than another one, so does the whole rule, and its other outcomes stay the same.
-/

import Mathlib.Data.List.Forall2
import Reckon.Parse.Grammar
import Reckon.Parse.Outline

namespace Reckon

variable {A B C R : Type}

/-- An outcome is below another one when it is a fault, or the same. -/
inductive Outcome.Below : Outcome A → Outcome A → Prop where
  | fault {fault : Fault} {state : State} {outcome : Outcome A} : Below (.fault fault state) outcome
  | same {outcome : Outcome A} : Below outcome outcome

namespace Parser

/-- A parser is below another one when it faults, or has the same outcome. -/
def Below (first second : Parser A) : Prop := ∀ state, (first state).Below (second state)

theorem Below.refl (parser : Parser A) : parser.Below parser := fun _ => .same

/-- A sequence is below another one when both of its parts are. -/
theorem Below.andThen {first first' : Parser A} {second second' : A → Parser B}
    (left : first.Below first') (right : ∀ value, (second value).Below (second' value)) :
    (first.andThen second).Below (first'.andThen second') := by
  intro state
  have below := left state
  rw [Parser.andThen, Parser.andThen]
  generalize first state = outcome, first' state = outcome' at below
  cases below with
  | fault => exact .fault
  | same =>
      cases outcome with
      | success value state => exact right value state
      | failure state => exact .same
      | fault fault state => exact .same

theorem Below.map {parser parser' : Parser A} (below : parser.Below parser') (f : A → B) :
    (parser.map f).Below (parser'.map f) := below.andThen fun _ => .refl _

theorem Below.discard {parser parser' : Parser A} (below : parser.Below parser') :
    parser.discard.Below parser'.discard := below.map _

theorem Below.checked {parser parser' : Parser (Except Fault A)} (below : parser.Below parser') :
    parser.checked.Below parser'.checked := below.andThen fun _ => .refl _

/-- Attempts are below each other as their parsers are. -/
theorem Below.attempt {parser parser' : Parser A} (below : parser.Below parser') :
    parser.attempt.Below parser'.attempt := by
  intro state
  have below := below state
  rw [Parser.attempt, Parser.attempt]
  generalize parser state = outcome, parser' state = outcome' at below
  cases below with
  | fault => exact .fault
  | same => exact .same

/-- Parsers one after the other are below others part by part. -/
theorem below_inOrder {parsers parsers' : List (Parser A)} (all : List.Forall₂ Below parsers parsers') :
    (inOrder parsers).Below (inOrder parsers') := by
  induction all with
  | nil => exact .refl _
  | cons first _ ih => exact first.andThen fun value => ih.map _

theorem below_sequence {parsers parsers' : List (Parser A)} (all : List.Forall₂ Below parsers parsers') :
    (sequence parsers).Below (sequence parsers') := (below_inOrder all).attempt

/-- A pair is below another one part by part. -/
theorem Below.pair {first first' : Parser A} {second second' : Parser B} (left : first.Below first')
    (right : second.Below second') (f : A → B → R) :
    (Parser.pair first second f).Below (Parser.pair first' second' f) :=
  (left.andThen fun _ => right.map _).attempt

/-- A triple is below another one part by part. -/
theorem Below.triple {first first' : Parser A} {second second' : Parser B} {third third' : Parser C}
    (left : first.Below first') (middle : second.Below second') (right : third.Below third')
    (f : A → B → C → R) :
    (Parser.triple first second third f).Below (Parser.triple first' second' third' f) :=
  (left.andThen fun _ => middle.andThen fun _ => right.map _).attempt

/-- What is between brackets may be replaced by what is above it. -/
theorem Below.between {parser parser' : Parser B} (below : parser.Below parser') (opening : Parser A)
    (closing : Parser C) :
    (Parser.between opening parser closing).Below (Parser.between opening parser' closing) :=
  (Below.refl opening).triple below (.refl closing) _

/-- A choice is below another one alternative by alternative. -/
theorem below_choice {parsers parsers' : List (Parser A)} (all : List.Forall₂ Below parsers parsers') :
    (choice parsers).Below (choice parsers') := by
  induction all with
  | nil => exact .refl _
  | @cons parser parser' parsers parsers' first _ ih =>
      intro state
      have below := first.attempt state
      rw [choice, choice]
      dsimp only
      generalize parser.attempt state = outcome, parser'.attempt state = outcome' at below
      cases below with
      | fault => exact .fault
      | same =>
          cases outcome with
          | success value state => exact .same
          | failure state => exact ih state
          | fault fault state => exact .same

/-- A repetition of at most a given number of steps is below that of a greater parser. -/
theorem Below.manyWithin {parser parser' : Parser A} (below : parser.Below parser') (values : List A)
    (bound : Nat) : (manyWithin parser values bound).Below (manyWithin parser' values bound) := by
  induction bound generalizing values with
  | zero => exact .refl _
  | succ bound ih =>
      intro state
      have here := below state
      rw [Parser.manyWithin, Parser.manyWithin]
      dsimp only
      generalize parser state = outcome, parser' state = outcome' at here
      cases here with
      | fault => exact .fault
      | same =>
          cases outcome with
          | failure state => exact .same
          | fault fault state => exact .same
          | success value next =>
              dsimp only
              split
              · exact .same
              · exact ih _ next

theorem Below.many {parser parser' : Parser A} (below : parser.Below parser') :
    (many parser).Below (many parser') := fun state => below.manyWithin [] _ state

/-- What may be absent is below what is above it. -/
theorem Below.optional {parser parser' : Parser A} (below : parser.Below parser') :
    (optional parser).Below (optional parser') := by
  intro state
  have below := below.attempt state
  rw [Parser.optional, Parser.optional]
  generalize parser.attempt state = outcome, parser'.attempt state = outcome' at below
  cases below with
  | fault => exact .fault
  | same => exact .same

/-- A run without a fault is the run of every parser above. -/
theorem Below.run_eq {parser parser' : Parser A} (below : parser.Below parser') {state : State}
    (faultless : ∀ fault, (parser.run state).1 ≠ .error (.fault fault)) :
    parser.run state = parser'.run state := by
  have whole := (below.pair (.refl endOfInput) fun value _ => value) state
  rw [Parser.run] at faultless
  rw [Parser.run, Parser.run]
  generalize Parser.pair parser endOfInput (fun value _ => value) state = outcome,
    Parser.pair parser' endOfInput (fun value _ => value) state = outcome' at faultless whole
  cases whole with
  | fault => exact absurd rfl (faultless _)
  | same => rfl

end Parser

open Reckon.Parser

namespace Grammar

variable {expr expr' : Parser Expression}

/-- The elements of a list grow with the expressions inside. -/
theorem below_elements (below : expr.Below expr') : (elements expr).Below (elements expr') := by
  have others : (Parser.many (Parser.pair (token .comma) expr fun _ elem => elem)).Below
      (Parser.many (Parser.pair (token .comma) expr' fun _ elem => elem)) :=
    ((Below.refl _).pair below _).many
  exact below_choice (.cons (below.pair others _) (.cons (.refl _) .nil))

theorem below_list (below : expr.Below expr') : (list expr).Below (list expr') :=
  (Below.refl _).triple (below_elements below) (.refl _) _

theorem below_term (below : expr.Below expr') : (term expr).Below (term expr') :=
  below_choice (.cons (.refl _) (.cons (.refl _) (.cons (.refl _) (.cons (below.between _ _)
    (.cons (below.between _ _) (.cons (below_list below) .nil))))))

theorem below_unary (below : expr.Below expr') : (unary expr).Below (unary expr') :=
  ((Below.refl _).pair (below_term below) _).checked

theorem below_function (below : expr.Below expr') : (function expr).Below (function expr') :=
  (Below.refl _).triple (.refl _) below _

theorem below_callee (below : expr.Below expr') : (callee expr).Below (callee expr') :=
  below_choice (.cons ((below_function below).between _ _) (.cons (.refl _) .nil))

theorem below_argument (below : expr.Below expr') : (argument expr).Below (argument expr') :=
  (Below.refl _).pair below _

theorem below_application (below : expr.Below expr') : (application expr).Below (application expr') :=
  (below_callee below).pair (below_argument below).optional _

theorem below_factor (below : expr.Below expr') : (factor expr).Below (factor expr') :=
  below_choice (.cons (below_unary below) (.cons (below_application below)
    (.cons (below_term below) .nil)))

theorem below_chain (below : expr.Below expr') (kinds : List Kind) :
    (chain expr kinds).Below (chain expr' kinds) :=
  (below.pair ((Below.refl _).pair below _).many _).checked

/-- The rule of expressions grows with the expressions inside. -/
theorem below_expressionRule (below : expr.Below expr') :
    (expressionRule expr).Below (expressionRule expr') :=
  below_choice (.cons (below_function below)
    (.cons (below_chain (below_chain (below_factor below) _) _) .nil))

theorem below_statementRule (below : expr.Below expr') :
    (statementRule expr).Below (statementRule expr') :=
  below_choice (.cons ((Below.refl _).triple (.refl _) below _) (.cons (below.map _) .nil))

end Grammar

namespace Outline

variable {expr expr' : Parser Unit}

theorem below_atom (below : expr.Below expr') : (atom expr).Below (atom expr') :=
  (below_sequence (.cons (.refl _) (.cons below
    (.cons (.refl _) (.cons (.refl _) (.cons (.refl _) .nil)))))).discard

theorem below_function (below : expr.Below expr') : (function expr).Below (function expr') :=
  (below_sequence (.cons (.refl _) (.cons (.refl _) (.cons below (.cons (.refl _) .nil))))).discard

theorem below_application (below : expr.Below expr') : (application expr).Below (application expr') :=
  (below_sequence (.cons (below_choice (.cons (below_atom (below_function below))
    (.cons (.refl _) .nil))) (.cons below (.cons (.refl _) .nil)))).discard

/-- The outlined rule of expressions grows with the expressions inside. -/
theorem below_expressionRule (below : expr.Below expr') :
    (expressionRule expr).Below (expressionRule expr') :=
  below_choice (.cons (below_application below) (.cons (below_atom below)
    (.cons (below_function below) (.cons (.refl _) .nil))))

/-- The outlined rule of statements grows with the expressions inside. -/
theorem below_statementRule (below : expr.Below expr') :
    (statementRule expr).Below (statementRule expr') :=
  below_choice (.cons (below_sequence (.cons (.refl _) (.cons (.refl _)
    (.cons below (.cons (.refl _) .nil))))).discard (.cons below .nil))

end Outline

end Reckon
