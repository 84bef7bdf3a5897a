/-
This file gives the values of numeric literals.
-/

import Reckon.Decimal.Reading
import Reckon.Report

namespace Reckon

open Text Decimal

/-- An integer text is a number of sixty-four bits, a greater one, or no number at all. -/
inductive IntegerReading where
  | value (value : Int64)
  | outOfRange
  | malformed
  deriving DecidableEq, Repr

namespace IntegerReading

/-- This reads the digits of a radix from left to right, and stops as soon as the number needs
more than sixty-four bits. -/
def magnitude (radix read : Nat) : List Char → Option (Option Nat)
  | [] => some (some read)
  | character :: rest =>
      match radixDigit? radix character with
      | none => none
      | some digit =>
          let read := read * radix + digit
          if read < twoTo 64 then magnitude radix read rest else some none

/-- A number of sixty-four bits with a sign is at least `-2 ^ 63` and less than `2 ^ 63`. -/
def signed (negative : Bool) (magnitude : Nat) : IntegerReading :=
  if negative then
    if magnitude ≤ twoTo 63 then value (Int64.ofInt (-magnitude)) else outOfRange
  else if magnitude < twoTo 63 then value (Int64.ofInt magnitude)
  else outOfRange

/-- This reads a whole text in the given radix. A sign may stand before the digits. -/
def ofDigits (radix : Nat) (characters : List Char) : IntegerReading :=
  let (negative, digits) := splitSign characters
  match digits with
  | [] => malformed
  | digits =>
      match magnitude radix 0 digits with
      | none => malformed
      | some none => outOfRange
      | some (some magnitude) => signed negative magnitude

/-- The decimal form is tried first, then the forms with a radix mark. -/
def ofText (characters : List Char) : IntegerReading :=
  match ofDigits 10 characters with
  | malformed =>
      match characters with
      | '0' :: 'x' :: digits => ofDigits 16 digits
      | '0' :: 'b' :: digits => ofDigits 2 digits
      | _ => malformed
  | reading => reading

end IntegerReading

/-- This is the value of an integer token, or what is wrong with it. -/
def integerValue (lexeme : Bytes) : Except Fault (Except NumeralProblem Int64) :=
  match IntegerReading.ofText (lexeme.glyphs.map Glyph.character) with
  | .value value => .ok (.ok value)
  | .outOfRange => .ok (.error .integerOverflow)
  | .malformed => .error (.misspelledInteger lexeme)

/-- This is the value of a float token, or what is wrong with it. -/
def floatValue (lexeme : Bytes) : Except NumeralProblem Float :=
  match FloatReading.ofText lexeme.decode with
  | .value value => .ok value.toFloat
  | .outOfRange _ => .error .floatOutOfRange
  | .malformed => .error .malformedFloat

end Reckon
