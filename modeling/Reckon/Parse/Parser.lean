/-
This file defines parsers and the ways to combine them.
-/

import Reckon.Parse.State

namespace Reckon

/-- A parser succeeds with a value, fails, or breaks a rule of its state. -/
inductive Outcome (A : Type) where
  | success (value : A) (state : State)
  | failure (state : State)
  | fault (fault : Fault) (state : State)
  deriving Repr

/-- A parser that fails leaves the state as it found it, apart from the furthest failure. -/
abbrev Parser (A : Type) := State → Outcome A

namespace Parser

variable {A B C R : Type}

def succeed (value : A) : Parser A := fun state => .success value state

def fail : Parser A := fun state => .failure state

/-- This runs the second parser with the value of the first one. -/
def andThen (first : Parser A) (second : A → Parser B) : Parser B := fun state =>
  match first state with
  | .success value state => second value state
  | .failure state => .failure state
  | .fault fault state => .fault fault state

def map (parser : Parser A) (f : A → B) : Parser B := parser.andThen fun value => succeed (f value)

def discard (parser : Parser A) : Parser Unit := parser.map fun _ => ()

/-- A fault in the place of a value is a fault of the parser. -/
def checked (parser : Parser (Except Fault A)) : Parser A :=
  parser.andThen fun value state =>
    match value with
    | .ok value => .success value state
    | .error fault => .fault fault state

/-- This applies a change of the state that can fault. -/
def change (update : State → Except Fault State) : Parser Unit := fun state =>
  match update state with
  | .ok state => .success () state
  | .error fault => .fault fault state

/-- This returns to a save and then fails. -/
def backtrack (save : Save) : Parser A := fun state =>
  match state.restore save with
  | .ok state => .failure state
  | .error fault => .fault fault state

/-- This undoes what a parser did before it failed. -/
def attempt (parser : Parser A) : Parser A := fun state =>
  match parser state with
  | .failure failed => backtrack state.save failed
  | outcome => outcome

/-- This consumes a token of the given kind by the given operation of the state. -/
def consume (operation : State → Role → Except Fault (Handle × State)) (kind : Kind)
    (role : Role) : Parser Token := fun state =>
  match state.is kind with
  | .error fault => .fault fault state
  | .ok false => .failure (state.expect kind.name)
  | .ok true =>
      match operation state role with
      | .error fault => .fault fault state
      | .ok (handle, state) =>
          match state.input.token handle with
          | .ok token => .success token state
          | .error fault => .fault fault state

/-- This consumes a token as an output node. -/
def emit (kind : Kind) (role : Role) : Parser Token := consume State.push kind role

/-- This consumes a token without a meaning of its own. -/
def token (kind : Kind) : Parser Token := emit kind .token

/-- This consumes a token and puts it on the shift stack. A matching `pop` follows in the same
rule. -/
def defer (kind : Kind) (role : Role) : Parser Token := consume State.shift kind role

def pop : Parser Unit := change State.pop

def mark (role : Role) : Parser Unit := change fun state => state.mark role

/-- This succeeds at the end of input. -/
def endOfInput : Parser Unit := fun state =>
  match state.atEnd with
  | .ok true => .success () state
  | .ok false => .failure (state.expect Kind.endOfInput.name)
  | .error fault => .fault fault state

/-- This runs the parsers one after the other. -/
def inOrder : List (Parser A) → Parser (List A)
  | [] => succeed []
  | parser :: parsers =>
      parser.andThen fun value => (inOrder parsers).map fun values => value :: values

/-- A sequence fails without a trace when one of its parts fails. -/
def sequence (parsers : List (Parser A)) : Parser (List A) := attempt (inOrder parsers)

def pair (first : Parser A) (second : Parser B) (f : A → B → R) : Parser R :=
  attempt (first.andThen fun a => second.map fun b => f a b)

def triple (first : Parser A) (second : Parser B) (third : Parser C) (f : A → B → C → R) :
    Parser R :=
  attempt (first.andThen fun a => second.andThen fun b => third.map fun c => f a b c)

def between (opening : Parser A) (parser : Parser B) (closing : Parser C) : Parser B :=
  triple opening parser closing fun _ value _ => value

/-- A choice commits to the first alternative that succeeds. -/
def choice : List (Parser A) → Parser A
  | [] => fail
  | parser :: parsers => fun state =>
      match attempt parser state with
      | .failure state => choice parsers state
      | outcome => outcome

/-- This applies a parser until it fails or stands still, at most `bound` times. -/
def manyWithin (parser : Parser A) (values : List A) : Nat → Parser (List A)
  | 0 => fun state => .fault .exhausted state
  | bound + 1 => fun state =>
      let save := state.save
      let position := state.position
      let stop (state : State) : Outcome (List A) :=
        match state.restore save with
        | .ok state => .success values.reverse state
        | .error fault => .fault fault state
      match parser state with
      | .success value state =>
          if state.position = position then stop state
          else manyWithin parser (value :: values) bound state
      | .failure state => stop state
      | .fault fault state => .fault fault state

/-- Every application but the last one moves on to another significant token, so their number
bounds the applications. -/
def many (parser : Parser A) : Parser (List A) := fun state =>
  manyWithin parser [] (state.significant.size + 1) state

def several (parser : Parser A) : Parser (List A) :=
  attempt (parser.andThen fun first => (many parser).map fun others => first :: others)

/-- This succeeds, and consumes nothing, when the given parser fails. What that one expected is
forgotten. -/
def absent (parser : Parser A) : Parser Unit := fun state =>
  let save := state.save
  let furthest := state.furthest
  let rewind (state : State) (next : Parser Unit) : Outcome Unit :=
    match state.restore save with
    | .ok state => next { state with furthest }
    | .error fault => .fault fault state
  match parser state with
  | .success _ state => rewind state fail
  | .failure state => rewind state (succeed ())
  | .fault fault state => .fault fault state

/-- This succeeds without a value when the given parser fails. -/
def optional (parser : Parser A) : Parser (Option A) := fun state =>
  match attempt parser state with
  | .success value state => .success (some value) state
  | .failure state => .success none state
  | .fault fault state => .fault fault state

/-- This keeps the value of a parser and undoes everything else. -/
def lookahead (parser : Parser A) : Parser A := fun state =>
  let save := state.save
  match parser state with
  | .success value state =>
      match state.restore save with
      | .ok state => .success value state
      | .error fault => .fault fault state
  | .failure state => backtrack save state
  | .fault fault state => .fault fault state

/-- This requires a parser to consume the whole input without a report. -/
def run (parser : Parser A) (state : State) : Result A × State :=
  match pair parser endOfInput (fun value _ => value) state with
  | .success value state =>
      if state.reports.isEmpty then (.ok value, state)
      else (.error (.report (.joined state.reports.toList)), state)
  | .failure state =>
      match state.failure with
      | .ok report => (.error (.report report), state)
      | .error fault => (.error (.fault fault), state)
  | .fault fault state => (.error (.fault fault), state)

end Parser

end Reckon
