/-
This file finds the shortest decimal that reads back as a given float.
-/

import Reckon.Decimal.Power

namespace Reckon.Decimal

/-- This is the number `coefficient * 10 ^ exponent`. -/
structure Number where
  coefficient : Nat
  exponent : Int
  deriving DecidableEq, Repr

/-- A positive float stands for the interval of numbers that are nearest to it. The ends and the
value itself are multiples of a quarter of `2 ^ exponent`. -/
structure Neighbourhood where
  low : Nat
  value : Nat
  high : Nat
  closed : Bool
  exponent : Int
  deriving Repr

/-- The float below a power of two is nearer than the one above it, except at the least
exponent. The ends belong to the interval when the mantissa is even. -/
def Neighbourhood.ofFinite (mantissa : Nat) (exponent leastExponent : Int) : Neighbourhood where
  low := if mantissa == twoTo 52 && exponent > leastExponent then 4 * mantissa - 1
    else 4 * mantissa - 2
  value := 4 * mantissa
  high := 4 * mantissa + 2
  closed := mantissa % 2 == 0
  exponent := exponent - 2

/-- These factors make the multiples of `10 ^ decimal` and of `2 ^ binary` comparable. -/
def commonScale (decimal binary : Int) : Nat × Nat :=
  (tenTo decimal.toNat * twoTo (-binary).toNat, tenTo (-decimal).toNat * twoTo binary.toNat)

/-- A decimal reads back as the float when it lies in the neighbourhood of it. -/
def Neighbourhood.contains (place : Neighbourhood) (decimal : Number) : Bool :=
  let (decimalUnit, binaryUnit) := commonScale decimal.exponent place.exponent
  let point := decimal.coefficient * decimalUnit
  let low := place.low * binaryUnit
  let high := place.high * binaryUnit
  if place.closed then low ≤ point && point ≤ high else low < point && point < high

/-- This is the number of decimal digits of a number above zero. -/
def digitCount (number : Nat) : Nat := (Nat.toDigits 10 number).length

/-- The value of the neighbourhood lies below this power of ten and not below the one before it.
Every float above zero has a digit among its first four hundred decimal places. -/
def Neighbourhood.decimalScale (place : Neighbourhood) : Int :=
  let scaled := place.value * tenTo 400 * twoTo place.exponent.toNat / twoTo (-place.exponent).toNat
  (digitCount scaled : Int) - 400

/-- Of the two decimals with the given exponent next to the value, this is the nearest one in
the neighbourhood, and of two equally near ones the even one. -/
def Neighbourhood.nearest? (place : Neighbourhood) (exponent : Int) : Option Number :=
  let (decimalUnit, binaryUnit) := commonScale exponent place.exponent
  let value := place.value * binaryUnit
  let below := value / decimalUnit
  let lower : Number := ⟨below, exponent⟩
  let upper : Number := ⟨below + 1, exponent⟩
  let distance := 2 * (value % decimalUnit)
  let upperIsNearer := distance > decimalUnit || (distance == decimalUnit && below % 2 == 1)
  match place.contains lower, place.contains upper with
  | true, true => some (if upperIsNearer then upper else lower)
  | true, false => some lower
  | false, true => some upper
  | false, false => none

/-- This tries the given number of digits and then more, up to `more` times. The exact value ends
the search. -/
def Neighbourhood.search (place : Neighbourhood) (scale : Int) (digits : Nat) : Nat → Number
  | 0 =>
      let (_, binaryUnit) := commonScale (-1100) place.exponent
      ⟨place.value * binaryUnit / twoTo (-place.exponent).toNat, -1100⟩
  | more + 1 =>
      match place.nearest? (scale - digits) with
      | some decimal => decimal
      | none => place.search scale (digits + 1) more

/-- This moves trailing zeros of the coefficient into the exponent, at most `bound` of them. -/
def Number.stripped (decimal : Number) : Nat → Number
  | 0 => decimal
  | bound + 1 =>
      if decimal.coefficient != 0 && decimal.coefficient % 10 == 0 then
        Number.stripped ⟨decimal.coefficient / 10, decimal.exponent + 1⟩ bound
      else decimal

/-- This is the decimal with the fewest digits that reads back as `mantissa * 2 ^ exponent`, and
the nearest of them. Seventeen digits identify every float. -/
def shortest (mantissa : Nat) (exponent leastExponent : Int) : Number :=
  if mantissa == 0 then ⟨0, 0⟩
  else
    let place := Neighbourhood.ofFinite mantissa exponent leastExponent
    let decimal := place.search place.decimalScale 1 17
    decimal.stripped (digitCount decimal.coefficient)

end Reckon.Decimal
