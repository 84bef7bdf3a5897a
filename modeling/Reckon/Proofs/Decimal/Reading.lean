/-
This file shows what float the digits of a numeral are read as, and that a numeral in the neighbourhood of a
float is read as this float.
-/

import Reckon.Decimal.Reading
import Reckon.Proofs.Decimal.Shortest

namespace Reckon.Decimal

/-- A third of the binary digits are slightly fewer than the decimal ones. -/
theorem twoTo_le_tenTo {binary decimal : Nat} (fewer : 28 * binary ≤ 93 * decimal) :
    twoTo binary ≤ tenTo decimal := by
  have step : twoTo 93 ≤ tenTo 28 := by decide
  rw [← Nat.pow_le_pow_iff_left (show (93 : Nat) ≠ 0 by decide)]
  calc twoTo binary ^ 93 = twoTo 93 ^ binary := by simp only [twoTo, ← Nat.pow_mul, Nat.pow_eq, Nat.mul_comm]
    _ ≤ tenTo 28 ^ binary := Nat.pow_le_pow_left step _
    _ = 10 ^ (28 * binary) := by simp only [tenTo, ← Nat.pow_mul, Nat.pow_eq]
    _ ≤ 10 ^ (93 * decimal) := Nat.pow_le_pow_right (by decide) fewer
    _ = tenTo decimal ^ 93 := by simp only [tenTo, ← Nat.pow_mul, Nat.pow_eq, Nat.mul_comm]

/-- A power of ten is below a power of two with enough bits. -/
theorem tenTo_le_twoTo {binary decimal : Nat} (more : 196 * decimal ≤ 59 * binary) :
    tenTo decimal ≤ twoTo binary := by
  have step : tenTo 59 ≤ twoTo 196 := by decide
  rw [← Nat.pow_le_pow_iff_left (show (59 : Nat) ≠ 0 by decide)]
  calc tenTo decimal ^ 59 = tenTo 59 ^ decimal := by simp only [tenTo, ← Nat.pow_mul, Nat.pow_eq, Nat.mul_comm]
    _ ≤ twoTo 196 ^ decimal := Nat.pow_le_pow_left step _
    _ = 2 ^ (196 * decimal) := by simp only [twoTo, ← Nat.pow_mul, Nat.pow_eq]
    _ ≤ 2 ^ (59 * binary) := Nat.pow_le_pow_right (by decide) more
    _ = twoTo binary ^ 59 := by simp only [twoTo, ← Nat.pow_mul, Nat.pow_eq, Nat.mul_comm]

/-- A power of two is below a power of ten with enough digits. -/
theorem two_zpow_le {binary decimal : Nat} (fewer : 28 * binary ≤ 93 * decimal) :
    (2 : ℚ) ^ (binary : Int) ≤ 10 ^ (decimal : Int) := by
  have cast : ((twoTo binary : Nat) : ℚ) ≤ (tenTo decimal : Nat) := by
    exact_mod_cast twoTo_le_tenTo fewer
  rwa [twoTo_cast, tenTo_cast, ← zpow_natCast, ← zpow_natCast] at cast

/-- Among the rationals, a power of ten is below a power of two with enough bits. -/
theorem ten_zpow_le {binary decimal : Nat} (more : 196 * decimal ≤ 59 * binary) :
    (10 : ℚ) ^ (decimal : Int) ≤ 2 ^ (binary : Int) := by
  have cast : ((tenTo decimal : Nat) : ℚ) ≤ (twoTo binary : Nat) := by
    exact_mod_cast tenTo_le_twoTo more
  rwa [twoTo_cast, tenTo_cast, ← zpow_natCast, ← zpow_natCast] at cast

/-- Floats are not near the ends of the range that is tested before a power is computed. -/
theorem Neighbourhood.Holds.bounds {mantissa : Nat} {exponent : Int} {number : ℚ}
    (solid : mantissa ≠ 0) (canonical : Binary64.IsCanonical mantissa exponent)
    (holds : (ofFinite mantissa exponent Binary64.leastExponent).Holds number) :
    (2 : ℚ) ^ (-1075 : Int) ≤ number ∧ number < 2 ^ (1024 : Int) := by
  obtain ⟨small, least, greatest, _⟩ := canonical
  have exponents : Binary64.leastExponent = -1074 ∧ Binary64.greatestExponent = 971 := ⟨rfl, rfl⟩
  obtain ⟨low, high⟩ := holds.roundsTo.within
  have unit : (0 : ℚ) < 2 ^ exponent := by positivity
  have one : (1 : ℚ) ≤ mantissa := by exact_mod_cast Nat.one_le_iff_ne_zero.2 solid
  have short : (mantissa : ℚ) + 1 ≤ 2 ^ (53 : Int) := by
    have small' : (mantissa : ℚ) + 1 ≤ twoTo 53 := by exact_mod_cast small
    rwa [twoTo_cast, ← zpow_natCast] at small'
  constructor
  · have half : (2 : ℚ) ^ (-1 : Int) ≤ number / 2 ^ exponent := by
      norm_num
      linarith
    rw [le_div_iff₀ unit, ← zpow_add₀ two_ne_zero] at half
    exact (zpow_le_zpow_right₀ one_le_two (by omega)).trans half
  · have above : number / 2 ^ exponent < 2 ^ (53 : Int) := by linarith
    rw [div_lt_iff₀ unit, ← zpow_add₀ two_ne_zero] at above
    exact above.trans_le (zpow_le_zpow_right₀ one_le_two (by omega))

/-- The digits of a number in the range of floats are not too many. -/
theorem Number.log_lt (decimal : Number) (least : -1100 ≤ decimal.exponent)
    (solid : decimal.coefficient ≠ 0) (below : decimal.value < 2 ^ (1024 : Int)) :
    decimal.coefficient.log2 < 5424 := by
  have fewer : (10 : ℚ) ^ (1100 : Int) ≤ 2 ^ (4400 : Int) := by
    exact_mod_cast @ten_zpow_le 4400 1100 (by decide)
  have scale : (10 : ℚ) ^ (-decimal.exponent) ≤ 2 ^ (4400 : Int) := by
    calc (10 : ℚ) ^ (-decimal.exponent) ≤ 10 ^ (1100 : Int) :=
          zpow_le_zpow_right₀ (by norm_num) (by omega)
      _ ≤ 2 ^ (4400 : Int) := fewer
  have coefficient : (decimal.coefficient : ℚ) = decimal.value * 10 ^ (-decimal.exponent) := by
    rw [value, mul_assoc, ← zpow_add₀ (by norm_num), add_neg_cancel, zpow_zero, mul_one]
  have small : (decimal.coefficient : ℚ) < 2 ^ (5424 : Int) := by
    have tens : (0 : ℚ) < 10 ^ (-decimal.exponent) := by positivity
    calc (decimal.coefficient : ℚ) = decimal.value * 10 ^ (-decimal.exponent) := coefficient
      _ < 2 ^ (1024 : Int) * 10 ^ (-decimal.exponent) := mul_lt_mul_of_pos_right below tens
      _ ≤ 2 ^ (1024 : Int) * 2 ^ (4400 : Int) := mul_le_mul_of_nonneg_left scale (by positivity)
      _ = 2 ^ (5424 : Int) := by rw [← zpow_add₀ two_ne_zero]; norm_num
  rw [Nat.log2_lt solid]
  have small' : (decimal.coefficient : ℚ) < (2 : ℚ) ^ (5424 : Nat) := by
    rwa [← zpow_natCast]
  exact_mod_cast small'

/-- The estimate of the decimal scale of a number is no less than its logarithm, nearly. -/
theorem Number.not_tiny (decimal : Number)
    (short : decimal.coefficient.log2 < 5424) (above : (2 : ℚ) ^ (-1075 : Int) ≤ decimal.value) :
    -340 ≤ (decimal.coefficient.log2 : Int) * 30103 / 100000 + decimal.exponent := by
  by_contra tiny
  obtain ⟨places, same⟩ : ∃ places : Nat, (places : Int) = -339 - decimal.exponent :=
    ⟨(-339 - decimal.exponent).toNat, by omega⟩
  have fewer : twoTo decimal.coefficient.log2 ≤ tenTo places := twoTo_le_tenTo (by omega)
  have below : decimal.value < 2 ^ (-1075 : Int) := by
    have tens : (0 : ℚ) < 10 ^ decimal.exponent := by positivity
    have coefficient : (decimal.coefficient : ℚ) < 2 * 10 ^ (places : Int) := by
      have doubled : decimal.coefficient < 2 * tenTo places := by
        have less : decimal.coefficient < twoTo (decimal.coefficient.log2 + 1) := Nat.lt_log2_self
        have step : twoTo (decimal.coefficient.log2 + 1) = 2 * twoTo decimal.coefficient.log2 := by
          simp only [twoTo, Nat.pow_eq, Nat.pow_succ, Nat.mul_comm]
        omega
      have doubled' : (decimal.coefficient : ℚ) < 2 * (tenTo places : Nat) := by exact_mod_cast doubled
      rwa [tenTo_cast, ← zpow_natCast] at doubled'
    have last : (2 : ℚ) * 10 ^ (-339 : Int) ≤ 2 ^ (-1075 : Int) := by
      have fewer : (2 : ℚ) ^ (1076 : Int) ≤ 10 ^ (339 : Int) := by
        exact_mod_cast @two_zpow_le 1076 339 (by decide)
      rw [zpow_neg, ← div_eq_mul_inv, div_le_iff₀ (by positivity)]
      calc (2 : ℚ) = 2 ^ (-1075 : Int) * 2 ^ (1076 : Int) := by
            rw [← zpow_add₀ two_ne_zero]
            norm_num
        _ ≤ 2 ^ (-1075 : Int) * 10 ^ (339 : Int) := mul_le_mul_of_nonneg_left fewer (by positivity)
    calc decimal.value < 2 * 10 ^ (places : Int) * 10 ^ decimal.exponent :=
          mul_lt_mul_of_pos_right coefficient tens
      _ = 2 * 10 ^ (-339 : Int) := by
          rw [mul_assoc, ← zpow_add₀ (by norm_num), same, sub_add_cancel]
      _ ≤ 2 ^ (-1075 : Int) := last
  exact absurd above (not_le.2 below)

/-- The estimate of the decimal scale of a number is no more than its logarithm, nearly. -/
theorem Number.not_huge (decimal : Number) (solid : decimal.coefficient ≠ 0)
    (short : decimal.coefficient.log2 < 5424) (below : decimal.value < 2 ^ (1024 : Int)) :
    (decimal.coefficient.log2 : Int) * 30103 / 100000 + decimal.exponent ≤ 320 := by
  by_contra huge
  have above : (10 : ℚ) ^ (320 : Int) ≤ decimal.value := by
    have tens : (0 : ℚ) < 10 ^ decimal.exponent := by positivity
    have coefficient : (10 : ℚ) ^ (320 - decimal.exponent) ≤ decimal.coefficient := by
      have more : tenTo (320 - decimal.exponent).toNat ≤ twoTo decimal.coefficient.log2 :=
        tenTo_le_twoTo (by omega)
      have least : tenTo (320 - decimal.exponent).toNat ≤ decimal.coefficient :=
        more.trans (Nat.log2_self_le solid)
      calc (10 : ℚ) ^ (320 - decimal.exponent) ≤ 10 ^ ((320 - decimal.exponent).toNat : Int) :=
            zpow_le_zpow_right₀ (by norm_num) (by omega)
        _ = (tenTo (320 - decimal.exponent).toNat : Nat) := by rw [tenTo_cast, zpow_natCast]
        _ ≤ decimal.coefficient := by exact_mod_cast least
    calc (10 : ℚ) ^ (320 : Int) = 10 ^ (320 - decimal.exponent) * 10 ^ decimal.exponent := by
          rw [← zpow_add₀ (by norm_num), sub_add_cancel]
      _ ≤ decimal.value := mul_le_mul_of_nonneg_right coefficient tens.le
  have more : (2 : ℚ) ^ (1024 : Int) ≤ 10 ^ (320 : Int) := by
    exact_mod_cast @two_zpow_le 1024 320 (by decide)
  exact absurd (more.trans above) (not_le.2 below)

/-- A decimal in the neighbourhood of a float is read as this float. -/
theorem ofDecimal_eq (negative : Bool) (decimal : Number) {mantissa : Nat} {exponent : Int}
    (solid : mantissa ≠ 0) (canonical : Binary64.IsCanonical mantissa exponent)
    (holds : (Neighbourhood.ofFinite mantissa exponent Binary64.leastExponent).Holds decimal.value)
    (least : -1100 ≤ decimal.exponent) :
    ofDecimal negative decimal.coefficient decimal.exponent = .finite negative mantissa exponent := by
  obtain ⟨above, below⟩ := holds.bounds solid canonical
  have coefficient : decimal.coefficient ≠ 0 := by
    intro zero
    have positive := holds.positive solid
    rw [Number.value, zero, Nat.cast_zero, zero_mul] at positive
    exact lt_irrefl _ positive
  have short := decimal.log_lt least coefficient below
  have notTiny := decimal.not_tiny short above
  have notHuge := decimal.not_huge coefficient short below
  have fraction : ((decimal.coefficient * tenTo decimal.exponent.toNat : Nat) : ℚ) /
      (tenTo (-decimal.exponent).toNat : Nat) = decimal.value := by
    rw [Number.value, ← zpow_split (show (0 : ℚ) < 10 by norm_num)]
    push_cast
    rw [tenTo_cast, tenTo_cast, mul_div_assoc]
  rw [ofDecimal, if_neg (by simp [coefficient, notTiny]), if_neg (not_lt.2 notHuge)]
  exact Binary64.ofFraction_eq negative (tenTo_pos _) solid canonical (by rwa [fraction])

/-- Every decimal is read as a float or lies beyond all of them. -/
theorem ofDecimal_canonical (negative : Bool) (coefficient : Nat) (exponent : Int) :
    ofDecimal negative coefficient exponent = .infinite negative ∨
      ∃ mantissa scale, ofDecimal negative coefficient exponent = .finite negative mantissa scale ∧
        Binary64.IsCanonical mantissa scale := by
  unfold ofDecimal
  dsimp only
  split
  · exact .inr ⟨0, _, rfl, Binary64.zero_canonical⟩
  · split
    · exact .inl rfl
    · exact Binary64.ofFraction_canonical negative _ (tenTo_pos _)

/-- A hexadecimal number is read as a canonical float, or as infinity. -/
theorem ofBinary_canonical (negative : Bool) (coefficient : Nat) (exponent : Int) :
    ofBinary negative coefficient exponent = .infinite negative ∨
      ∃ mantissa scale, ofBinary negative coefficient exponent = .finite negative mantissa scale ∧
        Binary64.IsCanonical mantissa scale := by
  unfold ofBinary
  dsimp only
  split
  · exact .inr ⟨0, _, rfl, Binary64.zero_canonical⟩
  · split
    · exact .inl rfl
    · exact Binary64.ofFraction_canonical negative _ (twoTo_pos _)

/-- A reading without a sign is a float without a sign. -/
def FloatReading.IsUnsigned (reading : FloatReading) : Prop :=
  ∀ value, reading = .value value →
    ∃ mantissa exponent, value = .finite false mantissa exponent ∧
      Binary64.IsCanonical mantissa exponent

/-- A canonical float without a sign is read without one. -/
theorem FloatReading.ofBinary64_unsigned {value : Binary64}
    (canonical : value = .infinite false ∨ ∃ mantissa exponent,
      value = .finite false mantissa exponent ∧ Binary64.IsCanonical mantissa exponent) :
    (ofBinary64 value).IsUnsigned := by
  intro read found
  rcases canonical with rfl | ⟨mantissa, exponent, rfl, canonical⟩
  · cases found
  · cases found
    exact ⟨mantissa, exponent, rfl, canonical⟩

theorem FloatReading.malformed_unsigned : malformed.IsUnsigned := by
  intro value found
  cases found

/-- Decimal digits without a sign are read without one. -/
theorem readDecimal_unsigned (characters : List Char) : (readDecimal false characters).IsUnsigned := by
  unfold readDecimal
  dsimp only
  split
  · split
    · exact FloatReading.ofBinary64_unsigned (ofDecimal_canonical false _ _)
    · exact FloatReading.malformed_unsigned
  · exact FloatReading.malformed_unsigned

/-- Hexadecimal digits without a sign are read without one. -/
theorem readHexadecimal_unsigned (characters : List Char) :
    (readHexadecimal false characters).IsUnsigned := by
  unfold readHexadecimal
  dsimp only
  split
  · split
    · exact FloatReading.ofBinary64_unsigned (ofBinary_canonical false _ _)
    · exact FloatReading.malformed_unsigned
  · exact FloatReading.malformed_unsigned

end Reckon.Decimal
