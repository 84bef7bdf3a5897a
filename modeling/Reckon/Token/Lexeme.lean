/-
This file defines where the lexeme at the start of a text ends. Every length counts glyphs.
-/

import Reckon.Text.Blank
import Reckon.Text.Digit
import Reckon.Text.Glyph
import Reckon.Text.Letter
import Reckon.Token.Kind

namespace Reckon.Lexeme

open Text

/-- An identifier starts with a letter or an underscore. -/
def startsName (character : Char) : Bool := isLetter character || character == '_'

/-- An identifier goes on with letters, underscores and digits. -/
def continuesName (character : Char) : Bool := startsName character || isDigit character

def isDecimalDigit (character : Char) : Bool := '0' ≤ character && character ≤ '9'

def isBinaryDigit (character : Char) : Bool := character == '0' || character == '1'

def isHexDigit (character : Char) : Bool :=
  isDecimalDigit character || ('a' ≤ character && character ≤ 'f') ||
    ('A' ≤ character && character ≤ 'F')

def isExponentMark (character : Char) : Bool := character == 'e' || character == 'E'

def isSign (character : Char) : Bool := character == '+' || character == '-'

/-- This is the number of leading glyphs in the given class. -/
def run (inClass : Char → Bool) (glyphs : List Glyph) : Nat :=
  (glyphs.takeWhile fun glyph => inClass glyph.character).length

/-- This is the length of the rest of a string up to its closing quote, `passed` glyphs
included. A quote after a slash does not close the string. -/
def stringEnd? (passed : Nat) : List Glyph → Option Nat
  | [] => none
  | first :: rest =>
      if first.is '"' then some (passed + 1)
      else if first.is '/' then
        match rest with
        | second :: rest =>
            if second.is '"' then stringEnd? (passed + 2) rest
            else stringEnd? (passed + 1) (second :: rest)
        | [] => none
      else stringEnd? (passed + 1) rest

/-- This is the length of the rest of a block comment that is nested in `depth` others,
`passed` glyphs included. -/
def commentEnd? (passed depth : Nat) : List Glyph → Option Nat
  | [] => none
  | [_] => none
  | first :: second :: rest =>
      if first.is '-' && second.is '\x7b' then commentEnd? (passed + 2) (depth + 1) rest
      else if first.is '\x7d' && second.is '-' then
        match depth with
        | 0 => some (passed + 2)
        | depth + 1 => commentEnd? (passed + 2) depth rest
      else commentEnd? (passed + 1) depth (second :: rest)

/-- This is the length of the rest of a number, `passed` glyphs included. A sign belongs to a
number directly after an exponent mark. -/
def numberEnd (passed : Nat) : List Glyph → Nat
  | [] => passed
  | first :: rest =>
      if isDecimalDigit first.character || first.is '.' then numberEnd (passed + 1) rest
      else if isExponentMark first.character then
        match rest with
        | second :: rest =>
            if isSign second.character then numberEnd (passed + 2) rest
            else numberEnd (passed + 1) (second :: rest)
        | [] => passed + 1
      else passed

/-- A scan finds the lexeme at the start of a text that does not start with a blank. -/
inductive Scan where
  /-- This is a lexeme of the given kind and length. -/
  | lexeme (kind : Kind) (length : Nat)
  /-- This is a radix mark of the given length without digits. -/
  | malformed (length : Nat)
  /-- No lexeme starts with the first character. -/
  | unexpected
  | unterminatedString
  | unterminatedComment
  deriving DecidableEq, Repr

/-- A dash opens a line comment or a block comment, or stands alone. -/
def scanDash (rest : List Glyph) : Scan :=
  match rest with
  | second :: body =>
      if second.is '-' then .lexeme .comment (1 + run (fun character => character != '\n') rest)
      else if second.is '\x7b' then
        match commentEnd? 2 0 body with
        | some length => .lexeme .comment length
        | none => .unterminatedComment
      else .lexeme .dash 1
  | [] => .lexeme .dash 1

def scanString (rest : List Glyph) : Scan :=
  match stringEnd? 1 rest with
  | some length => .lexeme .string length
  | none => .unterminatedString

/-- A word is a keyword or an identifier. -/
def scanWord (first : Glyph) (rest : List Glyph) : Scan :=
  let length := run continuesName rest
  let word := String.ofList ((first :: rest.take length).map Glyph.character)
  .lexeme (.ofWord word) (1 + length)

/-- The digits of a radix follow its mark of two characters. -/
def scanRadix (isRadixDigit : Char → Bool) (digits : List Glyph) : Scan :=
  match run isRadixDigit digits with
  | 0 => .malformed 2
  | length => .lexeme .integer (2 + length)

/-- A number with a point or an exponent is a float. -/
def scanDecimal (rest : List Glyph) : Scan :=
  let length := numberEnd 1 rest
  let isFractional (glyph : Glyph) : Bool := glyph.is '.' || isExponentMark glyph.character
  if (rest.take (length - 1)).any isFractional then .lexeme .float length
  else .lexeme .integer length

def scanNumber (first : Glyph) (rest : List Glyph) : Scan :=
  match rest with
  | second :: digits =>
      if first.is '0' && second.is 'b' then scanRadix isBinaryDigit digits
      else if first.is '0' && second.is 'x' then scanRadix isHexDigit digits
      else scanDecimal rest
  | [] => scanDecimal rest

/-- The first character decides the class of the lexeme. -/
def scan (first : Glyph) (rest : List Glyph) : Scan :=
  if first.is '-' then scanDash rest
  else if first.is '"' then scanString rest
  else if startsName first.character then scanWord first rest
  else if isDecimalDigit first.character then scanNumber first rest
  else
    match Kind.ofSymbol? first.character with
    | some kind => .lexeme kind 1
    | none => .unexpected

end Reckon.Lexeme
