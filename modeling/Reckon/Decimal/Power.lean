/-
This file defines the powers that bound and scale numbers.
-/

namespace Reckon.Decimal

def twoTo (exponent : Nat) : Nat := Nat.pow 2 exponent

def tenTo (exponent : Nat) : Nat := Nat.pow 10 exponent

end Reckon.Decimal
