/-
This file reads floats from text: decimal and hexadecimal numerals, infinities and the value that
is not a number.
-/

import Reckon.Decimal.Binary64

namespace Reckon.Decimal

/-- A text is a float, a number beyond all floats, or neither. -/
inductive FloatReading where
  | value (value : Binary64)
  | outOfRange (negative : Bool)
  | malformed
  deriving DecidableEq, Repr

def decimalDigit? (character : Char) : Option Nat :=
  if '0' ≤ character ∧ character ≤ '9' then some (character.toNat - '0'.toNat) else none

/-- This is the value of a digit of a radix up to thirty-six. -/
def radixDigit? (radix : Nat) (character : Char) : Option Nat :=
  let value? :=
    if '0' ≤ character ∧ character ≤ '9' then some (character.toNat - '0'.toNat)
    else if 'a' ≤ character ∧ character ≤ 'z' then some (character.toNat - 'a'.toNat + 10)
    else if 'A' ≤ character ∧ character ≤ 'Z' then some (character.toNat - 'A'.toNat + 10)
    else none
  value?.filter fun value => value < radix

/-- The significand read so far is its coefficient over the radix to the number of fraction
digits. -/
structure Significand where
  coefficient : Nat
  fractionDigits : Nat
  hasPoint : Bool
  hasDigit : Bool
  deriving Repr

/-- This reads digits, underscores and at most one point. -/
def Significand.read (radix : Nat) (read : Significand) : List Char → Significand × List Char
  | [] => (read, [])
  | character :: rest =>
      if character == '_' then Significand.read radix read rest
      else if character == '.' then
        if read.hasPoint then (read, character :: rest)
        else Significand.read radix { read with hasPoint := true } rest
      else
        match radixDigit? radix character with
        | some digit =>
            Significand.read radix
              { read with
                coefficient := read.coefficient * radix + digit
                fractionDigits := read.fractionDigits + (if read.hasPoint then 1 else 0)
                hasDigit := true } rest
        | none => (read, character :: rest)

/-- This reads digits and underscores. The exponent stops growing once it is beyond every
float. -/
def readExponent (read : Nat) : List Char → Nat × List Char
  | [] => (read, [])
  | character :: rest =>
      if character == '_' then readExponent read rest
      else
        match decimalDigit? character with
        | some digit => readExponent (if read < 10000 then read * 10 + digit else read) rest
        | none => (read, character :: rest)

/-- A sign may stand before a number. -/
def splitSign : List Char → Bool × List Char
  | '-' :: rest => (true, rest)
  | '+' :: rest => (false, rest)
  | characters => (false, characters)

/-- An exponent is a mark, perhaps a sign, and at least one digit. -/
def readExponentPart? (mark : Char) : List Char → Option (Option Int × List Char)
  | [] => some (none, [])
  | character :: rest =>
      if character.toLower == mark then
        let (negative, digits) := splitSign rest
        match digits with
        | [] => none
        | digit :: _ =>
            if digit.isDigit then
              let (exponent, rest) := readExponent 0 digits
              some (some (if negative then -(exponent : Int) else exponent), rest)
            else none
      else some (none, character :: rest)

/-- An underscore stands between two digits, or between a radix mark and a digit. The flag
`afterDigit` tells whether the last character allows an underscore. -/
def underscoresFit (isDigit : Char → Bool) (afterDigit afterUnderscore : Bool) : List Char → Bool
  | [] => !afterUnderscore
  | character :: rest =>
      if isDigit character then underscoresFit isDigit true false rest
      else if character == '_' then afterDigit && underscoresFit isDigit false true rest
      else !afterUnderscore && underscoresFit isDigit false false rest

/-- The value `coefficient * 10 ^ exponent` is compared with the range of floats before the power
is computed. -/
def ofDecimal (negative : Bool) (coefficient : Nat) (exponent : Int) : Binary64 :=
  let magnitude : Int := (coefficient.log2 : Int) * 30103 / 100000 + exponent
  if coefficient == 0 || magnitude < -340 then .finite negative 0 Binary64.leastExponent
  else if magnitude > 320 then .infinite negative
  else .ofFraction negative (coefficient * tenTo exponent.toNat) (tenTo (-exponent).toNat)

/-- This is `coefficient * 2 ^ exponent` in the same way. -/
def ofBinary (negative : Bool) (coefficient : Nat) (exponent : Int) : Binary64 :=
  let magnitude : Int := coefficient.log2 + exponent
  if coefficient == 0 || magnitude < -1100 then .finite negative 0 Binary64.leastExponent
  else if magnitude > 1030 then .infinite negative
  else .ofFraction negative (coefficient * twoTo exponent.toNat) (twoTo (-exponent).toNat)

def FloatReading.ofBinary64 : Binary64 → FloatReading
  | .infinite negative => outOfRange negative
  | finite => value finite

def readDecimal (negative : Bool) (characters : List Char) : FloatReading :=
  let (significand, rest) := Significand.read 10 ⟨0, 0, false, false⟩ characters
  match readExponentPart? 'e' rest with
  | some (exponent, []) =>
      if significand.hasDigit && underscoresFit Char.isDigit false false characters then
        .ofBinary64 (ofDecimal negative significand.coefficient
          (exponent.getD 0 - significand.fractionDigits))
      else .malformed
  | _ => .malformed

/-- A hexadecimal numeral always has a binary exponent. -/
def readHexadecimal (negative : Bool) (characters : List Char) : FloatReading :=
  let (significand, rest) := Significand.read 16 ⟨0, 0, false, false⟩ characters
  match readExponentPart? 'p' rest with
  | some (some exponent, []) =>
      let isDigit (character : Char) : Bool := (radixDigit? 16 character).isSome
      if significand.hasDigit && underscoresFit isDigit true false characters then
        .ofBinary64 (ofBinary negative significand.coefficient
          (exponent - 4 * significand.fractionDigits))
      else .malformed
  | _ => .malformed

/-- This reads a whole text as a float. -/
def FloatReading.ofText (text : String) : FloatReading :=
  let (negative, unsigned) := splitSign text.toList
  let lower := unsigned.map Char.toLower
  if lower == "inf".toList || lower == "infinity".toList then .value (.infinite negative)
  else if text.toLower == "nan" then .value .notANumber
  else
    match unsigned with
    | '0' :: mark :: first :: rest =>
        if mark.toLower == 'x' then readHexadecimal negative (first :: rest)
        else readDecimal negative unsigned
    | _ => readDecimal negative unsigned

end Reckon.Decimal
