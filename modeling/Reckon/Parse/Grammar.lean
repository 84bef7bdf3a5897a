/-
This file defines the grammar of expressions and statements. Each rule is given its recursive
occurrence as a parser.
-/

import Reckon.Expression.Basic
import Reckon.Numeral
import Reckon.Parse.Parser

namespace Reckon.Grammar

open Reckon.Parser

/-- A number without a value is reported, and parsed as zero. -/
def noteNumeral {A : Type} (token : Token) (zero : A) (value : Except NumeralProblem A)
    (state : State) : A × State :=
  match value with
  | .ok value => (value, state)
  | .error problem =>
      (zero, state.report (.atSpan token.span (.invalidNumeral token.lexeme problem)))

/-- number = INTEGER | FLOAT -/
def number : Parser Expression := fun state =>
  match state.peek with
  | .error fault => .fault fault state
  | .ok token =>
      match token.kind with
      | .integer =>
          match state.push .token with
          | .error fault => .fault fault state
          | .ok (_, state) =>
              match integerValue token.lexeme with
              | .error fault => .fault fault state
              | .ok value =>
                  let (value, state) := noteNumeral token 0 value state
                  .success (.literal token.span (.int value)) state
      | .float =>
          match state.push .token with
          | .error fault => .fault fault state
          | .ok (_, state) =>
              let (value, state) := noteNumeral token 0 (floatValue token.lexeme) state
              .success (.literal token.span (.float value)) state
      | _ => .failure ((state.expect Kind.integer.name).expect Kind.float.name)

/-- ident = IDENT -/
def ident : Parser Expression :=
  (token .identifier).map fun name => .ident name.span name.name

/-- unit = "(" ")" -/
def unit : Parser Expression :=
  pair (token .leftParen) (token .rightParen) fun opening closing =>
    .literal (opening.span.around closing.span) .unit

/-- elements = (expr ("," expr)*)?, and a closing bracket follows if there are none -/
def elements (expr : Parser Expression) : Parser (List Expression) :=
  let others := many (pair (token .comma) expr fun _ elem => elem)
  choice
    [pair expr others fun first others => first :: others,
     (lookahead (token .rightBracket)).map fun _ => []]

/-- list = "[" elements "]" -/
def list (expr : Parser Expression) : Parser Expression :=
  triple (token .leftBracket) (elements expr) (token .rightBracket) fun opening elems closing =>
    .list (opening.span.around closing.span) elems

/-- term = number | ident | unit | "(" expr ")" | "{" expr "}" | list -/
def term (expr : Parser Expression) : Parser Expression :=
  choice
    [number,
     ident,
     unit,
     between (token .leftParen) expr (token .rightParen),
     between (token .leftBrace) expr (token .rightBrace),
     list expr]

/-- This parses a token of one of the given kinds. -/
def tokenAmong (kinds : List Kind) : Parser Token := choice (kinds.map token)

def sumKinds : List Kind := [.plus, .dash]

def productKinds : List Kind := [.star, .slash, .percent]

/-- This is the operator that a token denotes. -/
def operatorOf (found : Token) : Except Fault Operator :=
  match Operator.ofKind? found.kind with
  | some operator => .ok operator
  | none => .error (.invalidOperator found.text)

/-- sign = "+" | "-" -/
def sign : Parser Token := tokenAmong sumKinds

/-- unary = sign term -/
def unary (expr : Parser Expression) : Parser Expression :=
  checked (pair sign (term expr) fun found operand =>
    (operatorOf found).map fun operator =>
      .unary (found.span.around operand.extent) operator operand)

/-- function = IDENT ":" expr -/
def function (expr : Parser Expression) : Parser Expression :=
  triple (token .identifier) (token .colon) expr fun param _ body =>
    .function (param.span.around body.extent) param.name body

/-- callee = "(" function ")" | ident -/
def callee (expr : Parser Expression) : Parser Expression :=
  choice [between (token .leftParen) (function expr) (token .rightParen), ident]

/-- argument = expr, and it does not start with a sign -/
def argument (expr : Parser Expression) : Parser Expression :=
  pair (absent sign) expr fun _ arg => arg

/-- application = callee argument? -/
def application (expr : Parser Expression) : Parser Expression :=
  pair (callee expr) (optional (argument expr)) fun callee arg =>
    match arg with
    | none => callee
    | some arg => .apply (callee.extent.around arg.extent) callee arg

/-- factor = unary | application | term -/
def factor (expr : Parser Expression) : Parser Expression :=
  choice [unary expr, application expr, term expr]

/-- Operators of one level associate to the left. -/
def foldLeft (first : Expression) : List (Token × Expression) → Except Fault Expression
  | [] => .ok first
  | (found, right) :: others =>
      match operatorOf found with
      | .ok operator =>
          foldLeft (.binary (first.extent.around right.extent) operator first right) others
      | .error fault => .error fault

/-- chain = operand (operator operand)* -/
def chain (operand : Parser Expression) (kinds : List Kind) : Parser Expression :=
  let other := pair (tokenAmong kinds) operand fun found right => (found, right)
  checked (pair operand (many other) foldLeft)

/-- product = factor (("*" | "/" | "%") factor)* -/
def product (expr : Parser Expression) : Parser Expression := chain (factor expr) productKinds

/-- sum = product (("+" | "-") product)* -/
def sum (expr : Parser Expression) : Parser Expression := chain (product expr) sumKinds

/-- expr = function | sum -/
def expressionRule (expr : Parser Expression) : Parser Expression :=
  choice [function expr, sum expr]

/-- This parses expressions that nest at most `depth` deep. -/
def expressionWithin : Nat → Parser Expression
  | 0 => fun state => .fault .exhausted state
  | depth + 1 => expressionRule (expressionWithin depth)

/-- Every expression inside of another one starts after one more token, so the number of tokens
bounds the depth. -/
def depthBound (state : State) : Nat := state.significant.size + 1

def expression : Parser Expression := fun state => expressionWithin (depthBound state) state

/-- A function that is assigned to a name is a definition. -/
def assigned (name : Token) (value : Expression) : Statement :=
  let span := name.span.around value.extent
  match value with
  | .function _ param body => .define span name.name param body
  | value => .assign span name.name value

/-- assign = IDENT "=" expr -/
def assignment (expr : Parser Expression) : Parser Statement :=
  triple (token .identifier) (token .equal) expr fun name _ value => assigned name value

/-- stmt = assign | expr -/
def statementRule (expr : Parser Expression) : Parser Statement :=
  choice [assignment expr, expr.map .expression]

def statement : Parser Statement := fun state =>
  statementRule (expressionWithin (depthBound state)) state

end Reckon.Grammar

namespace Reckon

/-- This parses a whole buffer as one expression. -/
def Buffer.parseExpression (buffer : Buffer) : Result Expression :=
  (Grammar.expression.run (.ofBuffer buffer)).1

/-- This parses a whole buffer as one statement. -/
def Buffer.parseStatement (buffer : Buffer) : Result Statement :=
  (Grammar.statement.run (.ofBuffer buffer)).1

end Reckon
