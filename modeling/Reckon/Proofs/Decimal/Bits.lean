/-
This file shows that the bits of a float determine its finite value, and that the finite value determines the
bits.
-/

import Reckon.Proofs.Decimal.Rounding

namespace Reckon.Decimal.Binary64

open Float.Model Float.Model.UnpackedFloat

theorem toBitVec_sign (bit : BitVec 1) : (Sign.ofBitVec bit).toBitVec = bit := by
  revert bit
  decide

section Packing

variable (bits : BitVec Format.binary64.numBits)

theorem unpackSign_eq : unpackSign bits = BitVec.extractLsb 63 63 bits := rfl

/-- The bits of a float are its sign, its exponent and its mantissa one after the other. -/
theorem packComponents_unpack : packComponents .binary64 (Sign.ofBitVec (unpackSign bits))
    (unpackExponent bits) (unpackMantissa bits) = bits := by
  apply BitVec.eq_of_getLsbD_eq
  intro place inside
  change place < 64 at inside
  rw [packComponents, toBitVec_sign]
  simp only [BitVec.getLsbD_append, unpackSign_eq, unpackExponent, unpackMantissa, BitVec.getLsbD_cast,
    BitVec.getLsbD_extractLsb]
  by_cases low : place < 52
  · simp [low]
  · by_cases middle : place < 63
    · have first : place - 52 < 11 := by omega
      have back : 52 + (place - 52) = place := by omega
      simp [low, first, back]
    · obtain rfl : place = 63 := by omega
      simp

/-- A finite value is packed by its biased exponent, and by whether its mantissa has all its bits. -/
theorem pack_finite (sign : UnpackedFloat.Sign) (mantissa : Nat) (exponent : Int) (positive : 0 < mantissa) :
    UnpackedFloat.pack .binary64 (.finite sign mantissa exponent positive) =
      if 2 ^ 11 ≤ (exponent + (Format.binary64.exponentBias : Int) + (52 : Nat)).toNat + 1 then
        packedInfinity .binary64 sign
      else if mantissa.log2 + 1 = Format.binary64.mantissaBits then
        packComponents .binary64 sign
          (BitVec.ofNat 11 (exponent + (Format.binary64.exponentBias : Int) + (52 : Nat)).toNat)
          (BitVec.ofNat 52 mantissa)
      else packComponents .binary64 sign 0#11 (BitVec.ofNat 52 mantissa) := rfl

variable (sign : UnpackedFloat.Sign) (mantissa : BitVec 52)

/-- A mantissa without its first bit is packed with the least exponent. -/
theorem pack_subnormal (positive : 0 < mantissa.toNat) :
    UnpackedFloat.pack .binary64 (.finite sign mantissa.toNat (-1074) positive) =
      packComponents .binary64 sign 0#11 mantissa := by
  have short : mantissa.toNat.log2 < 52 := (Nat.log2_lt positive.ne').2 mantissa.isLt
  have least : (-1074 + (Format.binary64.exponentBias : Int) + (52 : Nat)).toNat = 1 := by decide
  have notNormal : mantissa.toNat.log2 + 1 ≠ Format.binary64.mantissaBits := by
    change _ ≠ 53
    omega
  rw [pack_finite, least, if_neg (by decide), if_neg notNormal, BitVec.ofNat_toNat, BitVec.setWidth_eq]

/-- A mantissa with its first bit is packed without it. -/
theorem pack_normal (exponent : BitVec 11) (ordinary : exponent.toNat < 2047)
    (positive : 0 < (1#1 ++ mantissa).toNat) :
    UnpackedFloat.pack .binary64 (.finite sign (1#1 ++ mantissa).toNat (exponent.toNat - 1075) positive) =
      packComponents .binary64 sign exponent mantissa := by
  have whole : (1#1 ++ mantissa).toNat = 2 ^ 52 + mantissa.toNat := by
    rw [BitVec.toNat_append, ← Nat.shiftLeft_add_eq_or_of_lt mantissa.isLt]
    rfl
  have length : (1#1 ++ mantissa).toNat.log2 = 52 := by
    have room := mantissa.isLt
    rw [whole, Nat.log2_eq_iff (by omega)]
    omega
  have biased : ((exponent.toNat - 1075 : Int) + (Format.binary64.exponentBias : Int) + (52 : Nat)).toNat =
      exponent.toNat := by
    have bias : (Format.binary64.exponentBias : Int) = 1023 := by decide
    omega
  rw [pack_finite, biased, length, if_neg (by omega), if_pos (by decide)]
  have implicit : BitVec.ofNat 52 (1#1 ++ mantissa).toNat = mantissa := by
    apply BitVec.eq_of_toNat_eq
    rw [BitVec.toNat_ofNat, whole, Nat.add_mod_left, Nat.mod_eq_of_lt mantissa.isLt]
  rw [BitVec.ofNat_toNat, BitVec.setWidth_eq, implicit]

/-- What is packed again after it was unpacked is the same, unless it is not finite. -/
theorem pack_unpack_finite (ordinary : unpackExponent bits ≠ -1#11) :
    UnpackedFloat.pack .binary64 (UnpackedFloat.unpack .binary64 bits) = bits := by
  have below : (unpackExponent bits).toNat < 2047 := by
    have inside : (unpackExponent bits).toNat < 2048 := (unpackExponent bits).isLt
    have other : (unpackExponent bits).toNat ≠ 2047 := fun same =>
      ordinary (BitVec.eq_of_toNat_eq same)
    omega
  have whole := packComponents_unpack bits
  by_cases least : unpackExponent bits = 0#11
  · rw [least] at whole
    by_cases zero : unpackMantissa bits = 0#52
    · have unpacked : UnpackedFloat.unpack .binary64 bits = .zero (Sign.ofBitVec (unpackSign bits)) :=
        (if_neg ordinary).trans ((if_pos least).trans (dif_pos zero))
      rw [zero] at whole
      rw [unpacked]
      exact whole
    · have positive : 0 < (unpackMantissa bits).toNat :=
        Nat.pos_of_ne_zero fun none => zero (BitVec.eq_of_toNat_eq none)
      have unpacked : UnpackedFloat.unpack .binary64 bits = .finite (Sign.ofBitVec (unpackSign bits))
          (unpackMantissa bits).toNat (-1074) positive := by
        refine (if_neg ordinary).trans ((if_pos least).trans ((dif_neg zero).trans ?_))
        rw [least]
        rfl
      rw [unpacked, pack_subnormal]
      exact whole
  · have unpacked : UnpackedFloat.unpack .binary64 bits = _ := (if_neg ordinary).trans (if_neg least)
    rw [unpacked]
    exact (pack_normal _ _ _ below _).trans whole

end Packing

/-- The biased exponent of a float is greatest for the values that are not finite. -/
theorem ofBits_eq (bits : Nat) : ofBits bits =
    if bits / twoTo 52 % twoTo 11 = 2047 then
      if bits % twoTo 52 = 0 then infinite (bits / twoTo 63 % 2 == 1) else notANumber
    else if bits / twoTo 52 % twoTo 11 = 0 then
      finite (bits / twoTo 63 % 2 == 1) (bits % twoTo 52) leastExponent
    else finite (bits / twoTo 63 % 2 == 1) (twoTo 52 + bits % twoTo 52)
      ((bits / twoTo 52 % twoTo 11 : Nat) - 1075) := by
  simp only [ofBits, beq_iff_eq]

section Finite

variable {bits mantissa : Nat} {exponent : Int} {negative : Bool}

/-- Finite bits have a canonical mantissa. -/
theorem ofBits_canonical (found : ofBits bits = finite negative mantissa exponent) :
    IsCanonical mantissa exponent := by
  have fraction : bits % 4503599627370496 < 4503599627370496 := Nat.mod_lt _ (by decide)
  have powers : twoTo 52 = 4503599627370496 ∧ twoTo 53 = 9007199254740992 ∧ twoTo 11 = 2048 :=
    ⟨rfl, rfl, rfl⟩
  have exponents : leastExponent = -1074 ∧ greatestExponent = 971 := ⟨rfl, rfl⟩
  rw [ofBits_eq] at found
  rw [IsCanonical]
  simp only [powers, exponents] at found ⊢
  split at found
  · split at found <;> cases found
  · split at found
    · cases found
      omega
    · cases found
      omega

/-- A finite float is written back to its bits. -/
theorem toBits_ofBits (small : bits < twoTo 64)
    (found : ofBits bits = finite negative mantissa exponent) :
    (finite negative mantissa exponent).toBits = bits := by
  have powers : twoTo 52 = 4503599627370496 ∧ twoTo 11 = 2048 ∧ twoTo 63 = 9223372036854775808 ∧
      twoTo 64 = 18446744073709551616 := ⟨rfl, rfl, rfl, rfl⟩
  rw [ofBits_eq] at found
  rw [toBits]
  simp only [powers] at found small ⊢
  split at found
  · split at found <;> cases found
  · split at found
    · cases found
      simp only [beq_iff_eq]
      split <;> split <;> omega
    · cases found
      simp only [beq_iff_eq]
      split <;> split <;> omega

/-- A canonical float fits into its bits. -/
theorem toBits_lt (canonical : IsCanonical mantissa exponent) :
    (finite negative mantissa exponent).toBits < twoTo 64 := by
  obtain ⟨small, least, greatest, _⟩ := canonical
  have powers : twoTo 52 = 4503599627370496 ∧ twoTo 53 = 9007199254740992 ∧
      twoTo 63 = 9223372036854775808 ∧ twoTo 64 = 18446744073709551616 := ⟨rfl, rfl, rfl, rfl⟩
  have exponents : leastExponent = -1074 ∧ greatestExponent = 971 := ⟨rfl, rfl⟩
  rw [toBits]
  simp only [powers, exponents] at small least greatest ⊢
  split <;> split <;> omega

/-- The bits of a float are read back as its mantissa and its exponent. -/
theorem ofBits_toBits (canonical : IsCanonical mantissa exponent) :
    ofBits (finite negative mantissa exponent).toBits = finite negative mantissa exponent := by
  obtain ⟨small, least, greatest, subnormal⟩ := canonical
  have powers : twoTo 52 = 4503599627370496 ∧ twoTo 53 = 9007199254740992 ∧ twoTo 11 = 2048 ∧
      twoTo 63 = 9223372036854775808 := ⟨rfl, rfl, rfl, rfl⟩
  have exponents : leastExponent = -1074 ∧ greatestExponent = 971 := ⟨rfl, rfl⟩
  have fields (sign biased fraction : Nat) (bit : sign ≤ 1) (low : biased < 2048)
      (short : fraction < 4503599627370496) :
      (sign * 9223372036854775808 + biased * 4503599627370496 + fraction) / 4503599627370496 % 2048 =
          biased ∧
        (sign * 9223372036854775808 + biased * 4503599627370496 + fraction) % 4503599627370496 =
          fraction ∧
        (sign * 9223372036854775808 + biased * 4503599627370496 + fraction) /
          9223372036854775808 % 2 = sign := by omega
  have sign : (if negative = true then 9223372036854775808 else 0) =
      negative.toNat * 9223372036854775808 := by cases negative <;> rfl
  have back : (negative.toNat == 1) = negative := by cases negative <;> rfl
  rw [ofBits_eq, toBits]
  simp only [powers, exponents, sign] at small least greatest subnormal ⊢
  by_cases less : mantissa < 4503599627370496
  · obtain ⟨first, second, third⟩ := fields negative.toNat 0 mantissa (Bool.toNat_le _) (by decide) less
    rw [Nat.zero_mul, Nat.add_zero] at first second third
    simp only [less, if_true, first, second, third, back, subnormal less]
    rfl
  · obtain ⟨first, second, third⟩ := fields negative.toNat (exponent + 1075).toNat
      (mantissa - 4503599627370496) (Bool.toNat_le _) (by omega) (by omega)
    have notGreatest : (exponent + 1075).toNat ≠ 2047 := by omega
    have notLeast : (exponent + 1075).toNat ≠ 0 := by omega
    have whole : 4503599627370496 + (mantissa - 4503599627370496) = mantissa := by omega
    have unbiased : ((exponent + 1075).toNat : Int) - 1075 = exponent := by omega
    simp only [less, if_false, first, second, third, back, notGreatest, notLeast, whole, unbiased]

/-- Only the bits of a value that is not a number are changed. -/
theorem toBits_float (bits : UInt64) (ordinary : bits.toNat / twoTo 52 % twoTo 11 ≠ 2047) :
    (Float.ofBits bits).toBits = bits := by
  have other : @unpackExponent .binary64 bits.toBitVec ≠ -1#11 := by
    intro greatest
    have biased := congrArg BitVec.toNat greatest
    rw [unpackExponent, BitVec.toNat_cast, BitVec.extractLsb_toNat, Nat.shiftRight_eq_div_pow] at biased
    exact absurd biased ordinary
  exact UInt64.toBitVec_inj.1 (pack_unpack_finite bits.toBitVec other)

/-- Floats of the same bits are the same. -/
theorem toBits_injective {value value' : Float} (same : value.toBits = value'.toBits) : value = value' := by
  obtain ⟨⟨bits, valid⟩⟩ := value
  obtain ⟨⟨bits', valid'⟩⟩ := value'
  obtain rfl : bits = bits' := same
  rfl

/-- Only what is not finite has the greatest exponent. -/
theorem exponent_of_finite (found : ofBits bits = finite negative mantissa exponent) :
    bits / twoTo 52 % twoTo 11 ≠ 2047 := by
  intro greatest
  rw [ofBits_eq, if_pos greatest] at found
  split at found <;> cases found

/-- A finite float has the bits of its mantissa and its exponent. -/
theorem toFloat_ofFloat {value : Float} (found : ofFloat value = finite negative mantissa exponent) :
    (finite negative mantissa exponent).toFloat = value := by
  rw [toFloat, toBits_ofBits (UInt64.toNat_lt _) found, UInt64.ofNat_toNat]
  exact toBits_injective (toBits_float _ (exponent_of_finite found))

/-- A canonical number is that of its float. -/
theorem ofFloat_toFloat (canonical : IsCanonical mantissa exponent) :
    ofFloat (finite negative mantissa exponent).toFloat = finite negative mantissa exponent := by
  have small : (finite negative mantissa exponent).toBits < twoTo 64 := toBits_lt canonical
  have bits : (UInt64.ofNat (finite negative mantissa exponent).toBits).toNat =
      (finite negative mantissa exponent).toBits := UInt64.toNat_ofNat_of_lt' small
  have back : ofBits (finite negative mantissa exponent).toBits = finite negative mantissa exponent :=
    ofBits_toBits canonical
  rw [ofFloat, toFloat, toBits_float _ (by rw [bits]; exact exponent_of_finite back), bits, back]

end Finite

end Reckon.Decimal.Binary64
