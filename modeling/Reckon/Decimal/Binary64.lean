/-
This file relates floats to exact numbers: a finite float is an integer times a power of two, and
every fraction has a nearest float.
-/

import Reckon.Decimal.Power

namespace Reckon.Decimal

/-- The finite values carry the sign apart, because zero has one too. -/
inductive Binary64 where
  | notANumber
  | infinite (negative : Bool)
  /-- This is the value `mantissa * 2 ^ exponent`, or its negation. -/
  | finite (negative : Bool) (mantissa : Nat) (exponent : Int)
  deriving DecidableEq, Repr

namespace Binary64

/-- This is the exponent of the least float above zero. -/
def leastExponent : Int := -1074

/-- A float with this exponent and a mantissa of fifty-three bits is among the greatest. -/
def greatestExponent : Int := 971

/-- The bits of a float hold its sign, a biased exponent and a fraction. -/
def ofBits (bits : Nat) : Binary64 :=
  let negative := bits / twoTo 63 % 2 == 1
  let biased : Nat := bits / twoTo 52 % twoTo 11
  let fraction : Nat := bits % twoTo 52
  if biased == 2047 then
    if fraction == 0 then infinite negative else notANumber
  else if biased == 0 then finite negative fraction leastExponent
  else finite negative (twoTo 52 + fraction) ((biased : Int) - 1075)

def ofFloat (value : Float) : Binary64 := ofBits value.toBits.toNat

/-- These are the bits of a value whose mantissa and exponent are those of a float. -/
def toBits : Binary64 → Nat
  | notANumber => 2047 * twoTo 52 + twoTo 51 + 1
  | infinite negative => (if negative then twoTo 63 else 0) + 2047 * twoTo 52
  | finite negative mantissa exponent =>
      let sign := if negative then twoTo 63 else 0
      if mantissa < twoTo 52 then sign + mantissa
      else sign + (exponent + 1075).toNat * twoTo 52 + (mantissa - twoTo 52)

def toFloat (value : Binary64) : Float := Float.ofBits (UInt64.ofNat value.toBits)

/-- This is the quotient to the nearest integer, and to the even one of two. -/
def roundedQuotient (numerator denominator : Nat) : Nat :=
  let quotient := numerator / denominator
  let remainder := numerator % denominator
  match compare (2 * remainder) denominator with
  | .lt => quotient
  | .gt => quotient + 1
  | .eq => quotient + quotient % 2

/-- This is the greatest power of two that is at most the fraction. -/
def binaryScale (numerator denominator : Nat) : Int :=
  let scale : Int := (numerator.log2 : Int) - denominator.log2
  if numerator * twoTo (-scale).toNat < denominator * twoTo scale.toNat then scale - 1 else scale

/-- This is the float nearest to a fraction, and infinite beyond the greatest one. -/
def ofFraction (negative : Bool) (numerator denominator : Nat) : Binary64 :=
  if numerator == 0 then finite negative 0 leastExponent
  else
    let exponent := max leastExponent (binaryScale numerator denominator - 52)
    let mantissa := roundedQuotient (numerator * twoTo (-exponent).toNat)
      (denominator * twoTo exponent.toNat)
    let (mantissa, exponent) :=
      if mantissa == twoTo 53 then (twoTo 52, exponent + 1) else (mantissa, exponent)
    if exponent > greatestExponent then infinite negative
    else finite negative mantissa exponent

end Binary64

end Reckon.Decimal
