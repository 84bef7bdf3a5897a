/-
This file reads a source text token by token.
-/

import Reckon.Cursor
import Reckon.Token.Buffer
import Reckon.Token.Lexeme

namespace Reckon

open Text

/-- A misreading is a place of a text where no token could be read. -/
inductive Misreading where
  | unexpectedCharacter (location : Location) (character : Char)
  | malformedLiteral (location : Location) (lexeme : Bytes)
  | unterminatedString (location : Location)
  | unterminatedComment (location : Location)
  deriving DecidableEq, Repr

namespace Misreading

def message : Misreading → String
  | unexpectedCharacter location character =>
      "unexpected character: " ++ quotedCharacter character ++ " at " ++ location.text
  | malformedLiteral location lexeme =>
      "malformed integer literal " ++ lexeme.quoted ++ " at " ++ location.text
  | unterminatedString location => "unterminated string starting at " ++ location.text
  | unterminatedComment location => "unterminated comment starting at " ++ location.text

/-- A fatal misreading ends the reading before the end of the text. -/
def isFatal : Misreading → Bool
  | unterminatedString _ | unterminatedComment _ => true
  | _ => false

def isOpenComment : Misreading → Bool
  | unterminatedComment _ => true
  | _ => false

end Misreading

/-- A reader has read the tokens before its cursor. The misreadings are those so far, in the
order of the text. -/
structure Reader where
  cursor : Cursor
  finished : Bool
  misreadings : Array Misreading
  deriving Repr, Inhabited

namespace Reader

/-- This is the reader before the first token of a text. -/
def ofBytes (source : Bytes) : Reader := ⟨.ofBytes source, false, #[]⟩

/-- The end of input is an empty token at the cursor. -/
def endToken (cursor : Cursor) : Token := ⟨.endOfInput, #[], cursor.spanFrom cursor.location⟩

/-- This is the token of the next `length` glyphs. -/
def tokenOf (cursor : Cursor) (kind : Kind) (length : Nat) : Token :=
  ⟨kind, glyphBytes (cursor.rest.take length), (cursor.skip length).spanFrom cursor.location⟩

/-- A reader that is finished stays at the end of its text. -/
def finish (reader : Reader) (misreadings : Array Misreading) : Token × Reader :=
  let cursor := reader.cursor.skip reader.cursor.rest.length
  (endToken cursor, ⟨cursor, true, misreadings⟩)

/-- This reads the token at a cursor that is not before a blank. -/
def nextAt (reader : Reader) (first : Glyph) (rest : List Glyph) : Token × Reader :=
  let cursor := reader.cursor
  let misreadings := reader.misreadings
  match Lexeme.scan first rest with
  | .lexeme kind length =>
      (tokenOf cursor kind length, ⟨cursor.skip length, false, misreadings⟩)
  | .malformed length =>
      let token := tokenOf cursor .unrecognized length
      (token, ⟨cursor.skip length, false,
        misreadings.push (.malformedLiteral cursor.location token.lexeme)⟩)
  | .unexpected =>
      (tokenOf cursor .unrecognized 1, ⟨cursor.skip 1, false,
        misreadings.push (.unexpectedCharacter cursor.location first.character)⟩)
  | .unterminatedString =>
      reader.finish (misreadings.push (.unterminatedString cursor.location))
  | .unterminatedComment =>
      reader.finish (misreadings.push (.unterminatedComment cursor.location))

/-- This reads the next token. At the end of the text, and after a fatal misreading, it is the
end of input again and again. -/
def next (reader : Reader) : Token × Reader :=
  if reader.finished then (endToken reader.cursor, reader)
  else
    let cursor := reader.cursor.skipWhile isBlank
    let reader := { reader with cursor }
    match cursor.rest with
    | [] => (endToken cursor, { reader with finished := true })
    | first :: rest => reader.nextAt first rest

/-- This reads the given number of tokens, with the reader after each of them. -/
def take : Nat → Reader → List (Token × Reader)
  | 0, _ => []
  | count + 1, reader =>
      let step := reader.next
      step :: take count step.2

/-- This reads the next token, and cuts its lexeme out of the source text. The end of input has
nothing to cut out. -/
def read (source : Bytes) (reader : Reader) : Except Fault (Token × Reader) :=
  let (token, next) := reader.next
  if token.kind = .endOfInput then .ok (token, next)
  else (token.span.slice source).map fun lexeme => ({ token with lexeme }, next)

/-- This reads up to the end of input, at most `bound` tokens with it. The kinds and the spans are
gathered side by side. -/
def readAll (source : Bytes) (kinds : Array Kind) (spans : Array Span) :
    Nat → Reader → Except Fault (Array Kind × Array Span × Array Misreading)
  | 0, _ => .error .exhausted
  | bound + 1, reader =>
      match reader.read source with
      | .error fault => .error fault
      | .ok (token, reader) =>
          let kinds := kinds.push token.kind
          let spans := spans.push token.span
          if token.kind = .endOfInput then .ok (kinds, spans, reader.misreadings)
          else readAll source kinds spans bound reader

end Reader

/-- A reading is the buffer of a text together with all its misreadings. -/
structure Reading where
  buffer : Buffer
  misreadings : List Misreading
  deriving Repr, Inhabited

/-- This reads a whole text. Every token before the end of input has a glyph of its own, so the
number of glyphs bounds the number of tokens. -/
def Reading.read (source : Bytes) : Except Fault Reading := do
  let reader := Reader.ofBytes source
  let (kinds, spans, misreadings) ← reader.readAll source #[] #[] (reader.cursor.rest.length + 1)
  let buffer ← Buffer.ofColumns source kinds.toList spans.toList
  return ⟨buffer, misreadings.toList⟩

/-- This is the reading of a text. A text whose reading faulted would have no tokens, not even the
end of input, and every parse would fault on it. -/
def Reading.ofBytes (source : Bytes) : Reading :=
  match read source with
  | .ok reading => reading
  | .error _ => ⟨⟨source, #[]⟩, []⟩

/-- A fatal reading ended before the end of its text. -/
def Reading.isFatal (reading : Reading) : Bool := reading.misreadings.any Misreading.isFatal

end Reckon
