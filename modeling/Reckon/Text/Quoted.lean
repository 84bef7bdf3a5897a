/-
This file writes text in quotes, so that a reader can tell every byte of it.
-/

import Reckon.Text.Glyph
import Reckon.Text.Printable

namespace Reckon.Text

/-- This is a number in lower case hexadecimal with at least `width` digits. -/
def hexadecimal (width number : Nat) : String :=
  let digits := Nat.toDigits 16 number
  String.ofList (List.replicate (width - digits.length) '0' ++ digits)

/-- These control characters have an escape letter of their own. -/
def escapeLetter (character : Char) : Option Char :=
  match character.toNat with
  | 0x07 => some 'a'
  | 0x08 => some 'b'
  | 0x0C => some 'f'
  | 0x0A => some 'n'
  | 0x0D => some 'r'
  | 0x09 => some 't'
  | 0x0B => some 'v'
  | _ => none

/-- An escaped character is written by itself, by a letter or by its code point. -/
def escaped (quote character : Char) : String :=
  if character == quote || character == '\\' then String.ofList ['\\', character]
  else if isPrintable character then String.singleton character
  else
    match escapeLetter character with
    | some letter => String.ofList ['\\', letter]
    | none =>
        if character.toNat < 0x80 then "\\x" ++ hexadecimal 2 character.toNat
        else if character.toNat < 0x10000 then "\\u" ++ hexadecimal 4 character.toNat
        else "\\U" ++ hexadecimal 8 character.toNat

/-- A stray byte is written by its value. -/
def Glyph.escaped (glyph : Glyph) : String :=
  if glyph.isStray then
    String.join (glyph.bytes.map fun byte => "\\x" ++ hexadecimal 2 byte.toNat)
  else Text.escaped '"' glyph.character

/-- Quoted bytes stand between double quotes. -/
def Bytes.quoted (text : Bytes) : String :=
  "\"" ++ String.join (text.glyphs.map Glyph.escaped) ++ "\""

def quoted (text : String) : String :=
  "\"" ++ String.join (text.toList.map (escaped '"')) ++ "\""

/-- A quoted character stands between single quotes. -/
def quotedCharacter (character : Char) : String := "'" ++ escaped '\'' character ++ "'"

end Reckon.Text
