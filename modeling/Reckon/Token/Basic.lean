/-
This file defines the tokens of a source text.
-/

import Reckon.Location
import Reckon.Text.Quoted
import Reckon.Token.Kind

namespace Reckon

open Text

/-- The lexeme of a token is its source text. -/
structure Token where
  kind : Kind
  lexeme : Bytes
  span : Span
  deriving DecidableEq, Repr, Inhabited

/-- A name is the lexeme of a token as characters. -/
def Token.name (token : Token) : String := token.lexeme.decode

/-- A token is written as its kind, its quoted lexeme and its span. -/
def Token.text (token : Token) : String :=
  "\x7b" ++ token.kind.name ++ ", " ++ token.lexeme.quoted ++ ", " ++ token.span.text ++ "\x7d"

end Reckon
