/-
This file writes floats with the fewest digits that identify them.
-/

import Reckon.Decimal.Binary64
import Reckon.Decimal.Shortest

namespace Reckon.Decimal

/-- This is the number of digits before the decimal point, negative when zeros follow it. -/
def Number.pointPlace (decimal : Number) : Int :=
  digitCount decimal.coefficient + decimal.exponent

/-- A decimal in positional form has all its digits around the point. -/
def Number.positional (decimal : Number) : String :=
  let digits := Nat.toDigits 10 decimal.coefficient
  let place := decimal.pointPlace
  let whole :=
    if place ≤ 0 then ['0']
    else digits.take place.toNat ++ List.replicate (place.toNat - digits.length) '0'
  let fraction := List.replicate (-place).toNat '0' ++ digits.drop place.toNat
  String.ofList (if decimal.exponent < 0 then whole ++ '.' :: fraction else whole)

/-- The exponent of a scientific form has a sign and at least two digits. -/
def writtenExponent (exponent : Int) : String :=
  let digits := toString exponent.natAbs
  (if exponent < 0 then "-" else "+") ++ (if digits.length < 2 then "0" else "") ++ digits

/-- A decimal in scientific form has one digit before the point. -/
def Number.scientific (decimal : Number) : String :=
  let exponent := writtenExponent (decimal.pointPlace - 1)
  match Nat.toDigits 10 decimal.coefficient with
  | [] => ""
  | [digit] => String.ofList [digit, 'e'] ++ exponent
  | digit :: digits => String.ofList (digit :: '.' :: digits ++ ['e']) ++ exponent

/-- This is the text of a float whose finite values are written by `write`. -/
def written (write : Number → String) (value : Float) : String :=
  let signed (negative : Bool) (text : String) : String := if negative then "-" ++ text else text
  match Binary64.ofFloat value with
  | .notANumber => "NaN"
  | .infinite negative => (if negative then "-" else "+") ++ "Inf"
  | .finite negative mantissa exponent =>
      signed negative (write (shortest mantissa exponent Binary64.leastExponent))

/-- The positional text of a float never has an exponent. -/
def positionalText (value : Float) : String := written Number.positional value

/-- The compact text of a float is positional from a ten thousandth up to a million. -/
def compactText (value : Float) : String :=
  written (fun decimal =>
    let exponent := decimal.pointPlace - 1
    if exponent < -4 || exponent ≥ 6 then decimal.scientific else decimal.positional) value

end Reckon.Decimal
