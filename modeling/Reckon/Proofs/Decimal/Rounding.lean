/-
This file shows that the float nearest to a fraction is the one whose neighbourhood holds the fraction.
-/

import Mathlib.Algebra.Order.Field.Power
import Mathlib.Algebra.Order.Floor.Semifield
import Mathlib.Data.Int.Log
import Mathlib.Data.Rat.Floor
import Mathlib.Tactic.FieldSimp
import Mathlib.Tactic.Linarith
import Mathlib.Tactic.NormNum
import Mathlib.Tactic.Positivity
import Mathlib.Tactic.Ring
import Reckon.Decimal.Binary64
import Reckon.Decimal.Shortest

namespace Reckon.Decimal

@[simp] theorem twoTo_cast (exponent : Nat) : (twoTo exponent : ℚ) = 2 ^ exponent := by
  simp [twoTo]

@[simp] theorem tenTo_cast (exponent : Nat) : (tenTo exponent : ℚ) = 10 ^ exponent := by
  simp [tenTo]

theorem twoTo_pos (exponent : Nat) : 0 < twoTo exponent := Nat.pow_pos (by decide)

theorem tenTo_pos (exponent : Nat) : 0 < tenTo exponent := Nat.pow_pos (by decide)

/-- A power is split into what multiplies the numerator and what multiplies the denominator. -/
theorem zpow_split {base : ℚ} (positive : 0 < base) (exponent : Int) :
    base ^ exponent.toNat / base ^ (-exponent).toNat = base ^ exponent := by
  rw [← zpow_natCast, ← zpow_natCast, ← zpow_sub₀ positive.ne']
  congr 1
  omega

namespace Binary64

/-- The quotient rounds to an integer when it is at most a half away from it. -/
def RoundsTo (integer : Nat) (quotient : ℚ) : Prop :=
  if integer % 2 = 0 then integer - 1 / 2 ≤ quotient ∧ quotient ≤ integer + 1 / 2
  else (integer : ℚ) - 1 / 2 < quotient ∧ quotient < integer + 1 / 2

/-- A number is at most one half away from what it rounds to. -/
theorem RoundsTo.within {integer : Nat} {quotient : ℚ} (rounds : RoundsTo integer quotient) :
    (integer : ℚ) - 1 / 2 ≤ quotient ∧ quotient ≤ integer + 1 / 2 := by
  rw [RoundsTo] at rounds
  split at rounds
  · exact rounds
  · exact ⟨rounds.1.le, rounds.2.le⟩

/-- A fraction is its whole part and the fraction of the remainder. -/
theorem div_add_mod_div (numerator : Nat) {denominator : Nat} (positive : (0 : ℚ) < denominator) :
    (numerator : ℚ) / denominator =
      (numerator / denominator : Nat) + (numerator % denominator : Nat) / denominator := by
  have whole : (numerator : ℚ) =
      denominator * (numerator / denominator : Nat) + (numerator % denominator : Nat) := by
    exact_mod_cast (Nat.div_add_mod numerator denominator).symm
  conv_lhs => rw [whole]
  field_simp

/-- The integer that a quotient rounds to is computed. -/
theorem roundedQuotient_eq {numerator denominator integer : Nat} (positive : 0 < denominator)
    (rounds : RoundsTo integer ((numerator : ℚ) / denominator)) :
    roundedQuotient numerator denominator = integer := by
  have positive' : (0 : ℚ) < denominator := by exact_mod_cast positive
  have split := div_add_mod_div numerator positive'
  have small : ((numerator % denominator : Nat) : ℚ) / denominator < 1 := by
    rw [div_lt_one positive']
    exact_mod_cast Nat.mod_lt _ positive
  have within := rounds.within
  unfold roundedQuotient
  generalize numerator / denominator = quotient at split ⊢
  generalize numerator % denominator = remainder at split small ⊢
  rw [split] at rounds within
  have fraction : (0 : ℚ) ≤ (remainder : ℚ) / denominator := by positivity
  dsimp only
  split
  · rename_i less
    rw [Nat.compare_eq_lt] at less
    have below : (remainder : ℚ) / denominator < 1 / 2 := by
      rw [div_lt_iff₀ positive']
      have doubled : (2 * remainder : ℚ) < denominator := by exact_mod_cast less
      linarith
    have low : (integer : ℚ) < quotient + 1 := by linarith
    have high : (quotient : ℚ) < integer + 1 := by linarith
    norm_cast at low high
    omega
  · rename_i more
    rw [Nat.compare_eq_gt] at more
    have above : 1 / 2 < (remainder : ℚ) / denominator := by
      rw [lt_div_iff₀ positive']
      have doubled : (denominator : ℚ) < 2 * remainder := by exact_mod_cast more
      linarith
    have low : (quotient : ℚ) < integer := by linarith
    have high : (integer : ℚ) < quotient + 1 + 1 := by linarith
    norm_cast at low high
    omega
  -- In the middle the quotient and its successor are both as near, and the even one is taken.
  · rename_i tie
    rw [Nat.compare_eq_eq] at tie
    have half : (remainder : ℚ) / denominator = 1 / 2 := by
      rw [div_eq_iff positive'.ne']
      have doubled : (2 * remainder : ℚ) = denominator := by exact_mod_cast tie
      linarith
    have low : (quotient : ℚ) ≤ integer := by linarith
    have high : (integer : ℚ) ≤ quotient + 1 := by linarith
    rw [half, RoundsTo] at rounds
    norm_cast at low high
    have even : integer % 2 = 0 := by
      by_contra odd
      rw [if_neg odd] at rounds
      have above : (quotient : ℚ) < integer := by linarith
      have below : (integer : ℚ) < quotient + 1 := by linarith
      norm_cast at above below
      omega
    omega

/-- A number between two adjacent powers of two has the exponent of the lower one as its
logarithm. -/
theorem log_eq {number : ℚ} {scale : Int} (low : (2 : ℚ) ^ scale ≤ number)
    (high : number < 2 ^ (scale + 1)) : Int.log 2 number = scale := by
  have positive : 0 < number := lt_of_lt_of_le (by positivity) low
  have above := (Int.zpow_le_iff_le_log one_lt_two positive).1 (by exact_mod_cast low)
  have below := (Int.lt_zpow_iff_log_lt one_lt_two positive).1 (by exact_mod_cast high)
  omega

/-- A positive number lies between two powers of two that are next to each other. -/
theorem log_bounds {number : ℚ} (positive : 0 < number) :
    (2 : ℚ) ^ Int.log 2 number ≤ number ∧ number < 2 ^ (Int.log 2 number + 1) := by
  have low := Int.zpow_log_le_self one_lt_two positive
  have high := Int.lt_zpow_succ_log_self one_lt_two number
  exact ⟨by exact_mod_cast low, by exact_mod_cast high⟩

/-- Scaling both parts of a fraction divides it by a power of two. -/
theorem scaled_fraction (numerator denominator : Nat) (scale : Int) :
    ((numerator * twoTo (-scale).toNat : Nat) : ℚ) / (denominator * twoTo scale.toNat : Nat) =
      (numerator : ℚ) / denominator / 2 ^ scale := by
  rw [← zpow_split two_pos scale]
  push_cast
  rw [twoTo_cast, twoTo_cast]
  field_simp

/-- The scale of a fraction is its binary logarithm. -/
theorem binaryScale_eq {numerator denominator : Nat} (solid : numerator ≠ 0)
    (positive : 0 < denominator) :
    binaryScale numerator denominator = Int.log 2 ((numerator : ℚ) / denominator) := by
  have positive' : (0 : ℚ) < denominator := by exact_mod_cast positive
  have bounds {number : Nat} (solid : number ≠ 0) :
      (2 : ℚ) ^ (number.log2 : Int) ≤ number ∧ (number : ℚ) < 2 ^ ((number.log2 : Int) + 1) := by
    rw [← Nat.cast_succ, zpow_natCast, zpow_natCast]
    exact ⟨by exact_mod_cast Nat.log2_self_le solid, by exact_mod_cast Nat.lt_log2_self⟩
  obtain ⟨low, high⟩ := bounds solid
  obtain ⟨low', high'⟩ := bounds positive.ne'
  have above : (2 : ℚ) ^ ((numerator.log2 : Int) - denominator.log2 - 1) ≤
      (numerator : ℚ) / denominator := by
    rw [sub_sub, zpow_sub₀ two_ne_zero]
    exact div_le_div₀ (Nat.cast_nonneg _) low positive' high'.le
  have below : (numerator : ℚ) / denominator <
      2 ^ ((numerator.log2 : Int) - denominator.log2 + 1) := by
    rw [sub_add_eq_add_sub, zpow_sub₀ two_ne_zero]
    exact div_lt_div₀ high low' (by positivity) (by positivity)
  have test (scale : Int) : numerator * twoTo (-scale).toNat < denominator * twoTo scale.toNat ↔
      (numerator : ℚ) / denominator < 2 ^ scale := by
    have scaled : (0 : ℚ) < (denominator * twoTo scale.toNat : Nat) := by
      exact_mod_cast Nat.mul_pos positive (twoTo_pos _)
    rw [← div_lt_one (by positivity : (0 : ℚ) < 2 ^ scale), ← scaled_fraction, div_lt_one scaled]
    exact Nat.cast_lt.symm
  unfold binaryScale
  dsimp only
  split
  · rename_i less
    exact (log_eq above (by rwa [sub_add_cancel, ← test])).symm
  · rename_i notLess
    exact (log_eq (not_lt.1 (mt (test _).2 notLess)) below).symm

/-- These are the mantissas and exponents of floats. Only below the least normal float there is a
mantissa of fewer bits. -/
def IsCanonical (mantissa : Nat) (exponent : Int) : Prop :=
  mantissa < twoTo 53 ∧ leastExponent ≤ exponent ∧ exponent ≤ greatestExponent ∧
    (mantissa < twoTo 52 → exponent = leastExponent)

theorem zero_canonical : IsCanonical 0 leastExponent :=
  ⟨twoTo_pos _, le_rfl, by decide, fun _ => rfl⟩

end Binary64

namespace Neighbourhood

open Binary64

/-- A neighbourhood holds the numbers between its ends. -/
def Holds (place : Neighbourhood) (number : ℚ) : Prop :=
  if place.closed then
    place.low * (2 : ℚ) ^ place.exponent ≤ number ∧ number ≤ place.high * 2 ^ place.exponent
  else place.low * (2 : ℚ) ^ place.exponent < number ∧ number < place.high * 2 ^ place.exponent

section Floats

variable {mantissa : Nat} {exponent : Int} {number : ℚ}

/-- The ends of a neighbourhood are quarters of the last bit of its float. -/
theorem holds_iff : (ofFinite mantissa exponent leastExponent).Holds number ↔
    if mantissa % 2 = 0 then
      ((ofFinite mantissa exponent leastExponent).low : ℚ) ≤ 4 * (number / 2 ^ exponent) ∧
        4 * (number / 2 ^ exponent) ≤ 4 * mantissa + 2
    else
      ((ofFinite mantissa exponent leastExponent).low : ℚ) < 4 * (number / 2 ^ exponent) ∧
        4 * (number / 2 ^ exponent) < 4 * mantissa + 2 := by
  have unit : (0 : ℚ) < 2 ^ (exponent - 2) := by positivity
  have quarter : 4 * (number / 2 ^ exponent) = number / 2 ^ (exponent - 2) := by
    rw [zpow_sub₀ two_ne_zero]
    norm_num
    ring
  have high : ((ofFinite mantissa exponent leastExponent).high : ℚ) = 4 * mantissa + 2 := by
    simp [ofFinite]
  rw [quarter, ← high, le_div_iff₀ unit, div_le_iff₀ unit, lt_div_iff₀ unit, div_lt_iff₀ unit]
  simp only [Holds, ofFinite, beq_iff_eq]

/-- The lower end of a neighbourhood is at most half a unit below the float. -/
theorem low_le : (4 * mantissa - 2 : ℚ) ≤ (ofFinite mantissa exponent leastExponent).low := by
  have first : 4 * mantissa ≤ (ofFinite mantissa exponent leastExponent).low + 2 := by
    unfold ofFinite
    dsimp only
    split <;> omega
  have first' : (4 * mantissa : ℚ) ≤ (ofFinite mantissa exponent leastExponent).low + 2 := by
    exact_mod_cast first
  linarith

/-- The neighbours of a float are not nearer than its last bit, apart from the one below a power of
two. -/
theorem Holds.roundsTo (holds : (ofFinite mantissa exponent leastExponent).Holds number) :
    RoundsTo mantissa (number / 2 ^ exponent) := by
  have low : (4 * mantissa - 2 : ℚ) ≤ (ofFinite mantissa exponent leastExponent).low := low_le
  rw [holds_iff] at holds
  rw [RoundsTo]
  split at holds
  · rename_i even
    rw [if_pos even]
    constructor <;> linarith
  · rename_i odd
    rw [if_neg odd]
    constructor <;> linarith

/-- The logarithm of a scaled number is below the scale and the exponent. -/
theorem log_lt {scale : Int} (positive : 0 < number) (below : number / 2 ^ exponent < 2 ^ scale) :
    Int.log 2 number < exponent + scale := by
  have unit : (0 : ℚ) < 2 ^ exponent := by positivity
  rw [div_lt_iff₀ unit, ← zpow_add₀ two_ne_zero, add_comm] at below
  exact (Int.lt_zpow_iff_log_lt one_lt_two positive).1 (by exact_mod_cast below)

/-- The logarithm of a scaled number is at least the scale and the exponent. -/
theorem le_log {scale : Int} (positive : 0 < number) (above : 2 ^ scale ≤ number / 2 ^ exponent) :
    exponent + scale ≤ Int.log 2 number := by
  have unit : (0 : ℚ) < 2 ^ exponent := by positivity
  rw [le_div_iff₀ unit, ← zpow_add₀ two_ne_zero, add_comm] at above
  exact (Int.zpow_le_iff_le_log one_lt_two positive).1 (by exact_mod_cast above)

/-- All numbers in the neighbourhood of a positive float are positive. -/
theorem Holds.positive (solid : mantissa ≠ 0)
    (holds : (ofFinite mantissa exponent leastExponent).Holds number) : 0 < number := by
  have unit : (0 : ℚ) < 2 ^ exponent := by positivity
  have low := holds.roundsTo.within.1
  have one : (1 : ℚ) ≤ mantissa := by exact_mod_cast Nat.one_le_iff_ne_zero.2 solid
  have quotient : 0 < number / 2 ^ exponent := by linarith
  exact (div_pos_iff_of_pos_right unit).1 quotient

/-- A number is scaled by the exponent of its float, unless it lies between a power of two and the
float below it. -/
theorem Holds.scale (solid : mantissa ≠ 0) (canonical : IsCanonical mantissa exponent)
    (holds : (ofFinite mantissa exponent leastExponent).Holds number) :
    max leastExponent (Int.log 2 number - 52) = exponent ∨
      mantissa = twoTo 52 ∧ leastExponent < exponent ∧
        max leastExponent (Int.log 2 number - 52) = exponent - 1 ∧
          RoundsTo (twoTo 53) (number / 2 ^ (exponent - 1)) := by
  obtain ⟨small, least, _, subnormal⟩ := canonical
  have positive := holds.positive solid
  have within := holds.roundsTo.within
  have power : twoTo 52 = 4503599627370496 := rfl
  have power' : twoTo 53 = 9007199254740992 := rfl
  rw [power'] at small
  rw [power] at subnormal
  have small' : (mantissa : ℚ) + 1 ≤ 9007199254740992 := by exact_mod_cast small
  have log : Int.log 2 number < exponent + 53 := log_lt positive (by norm_num; linarith)
  by_cases normal : 2 ^ (52 : Int) ≤ number / 2 ^ exponent
  · have log' := le_log positive normal
    left
    omega
  · rw [not_le] at normal
    have log' := log_lt positive normal
    by_cases lowest : exponent = leastExponent
    · left
      omega
    · right
      have same : mantissa = 4503599627370496 := by
        have below : (mantissa : ℚ) < 4503599627370496 + 1 := by
          norm_num at normal
          linarith
        norm_cast at below
        omega
      have low : (4 * 4503599627370496 - 1 : ℚ) ≤ 4 * (number / 2 ^ exponent) := by
        rw [holds_iff, if_pos (by omega)] at holds
        have low := holds.1
        have last : (ofFinite mantissa exponent leastExponent).low = 4 * mantissa - 1 := by
          have higher : leastExponent < exponent := by omega
          simp [ofFinite, same, power, higher]
        rw [last, same] at low
        norm_num at low ⊢
        exact low
      have log'' : exponent + 51 ≤ Int.log 2 number := le_log positive (by norm_num; linarith)
      have half : number / 2 ^ (exponent - 1) = 2 * (number / 2 ^ exponent) := by
        rw [zpow_sub₀ two_ne_zero]
        norm_num
        ring
      refine ⟨same, by omega, by omega, ?_⟩
      rw [RoundsTo, power', if_pos (by norm_num), half]
      norm_num at normal ⊢
      constructor <;> linarith

end Floats

end Neighbourhood

/-- Every number in the neighbourhood of a float rounds to this float. -/
theorem Binary64.ofFraction_eq {numerator denominator mantissa : Nat} {exponent : Int}
    (negative : Bool) (positive : 0 < denominator) (solid : mantissa ≠ 0)
    (canonical : IsCanonical mantissa exponent)
    (holds : (Neighbourhood.ofFinite mantissa exponent leastExponent).Holds
      ((numerator : ℚ) / denominator)) :
    ofFraction negative numerator denominator = finite negative mantissa exponent := by
  have numerator_ne : numerator ≠ 0 := by
    rintro rfl
    have above := holds.positive solid
    rw [Nat.cast_zero, zero_div] at above
    exact lt_irrefl _ above
  have scaled (scale : Int) : 0 < denominator * twoTo scale.toNat :=
    Nat.mul_pos positive (twoTo_pos _)
  have small : mantissa ≠ twoTo 53 := canonical.1.ne
  have greatest : ¬exponent > greatestExponent := not_lt.2 canonical.2.2.1
  unfold ofFraction
  rw [if_neg (by simpa using numerator_ne)]
  dsimp only
  rw [binaryScale_eq numerator_ne positive]
  rcases holds.scale solid canonical with same | ⟨same, least, less, rounds⟩
  · rw [same, roundedQuotient_eq (scaled _) (by rw [scaled_fraction]; exact holds.roundsTo)]
    simp only [beq_eq_false_iff_ne.2 small, Bool.false_eq_true, if_false, if_neg greatest]
  · rw [less, roundedQuotient_eq (scaled _) (by rw [scaled_fraction]; exact rounds)]
    simp only [beq_self_eq_true, if_true, sub_add_cancel, if_neg greatest, same]

/-- A rounded quotient is at most one above the quotient. -/
theorem Binary64.roundedQuotient_bounds (numerator denominator : Nat) :
    numerator / denominator ≤ roundedQuotient numerator denominator ∧
      roundedQuotient numerator denominator ≤ numerator / denominator + 1 := by
  unfold roundedQuotient
  dsimp only
  split <;> omega

/-- Every fraction rounds to a float or beyond all of them. -/
theorem Binary64.ofFraction_canonical (negative : Bool) (numerator : Nat) {denominator : Nat}
    (positive : 0 < denominator) :
    ofFraction negative numerator denominator = infinite negative ∨
      ∃ mantissa exponent, ofFraction negative numerator denominator =
        finite negative mantissa exponent ∧ IsCanonical mantissa exponent := by
  by_cases zero : numerator = 0
  · right
    exact ⟨0, leastExponent, by simp [ofFraction, zero], zero_canonical⟩
  have solid : (0 : ℚ) < (numerator : ℚ) / denominator := by
    have numerator_pos : (0 : ℚ) < numerator := by exact_mod_cast Nat.pos_of_ne_zero zero
    positivity
  unfold ofFraction
  rw [if_neg (by simpa using zero)]
  dsimp only
  rw [binaryScale_eq zero positive]
  obtain ⟨low, high⟩ := log_bounds solid
  generalize chosen : max leastExponent (Int.log 2 ((numerator : ℚ) / denominator) - 52) = exponent
  have unit : (0 : ℚ) < 2 ^ exponent := by positivity
  have floor : numerator * twoTo (-exponent).toNat / (denominator * twoTo exponent.toNat) =
      ⌊(numerator : ℚ) / denominator / 2 ^ exponent⌋₊ := by
    rw [← scaled_fraction, Nat.floor_div_eq_div]
  obtain ⟨above, below⟩ := roundedQuotient_bounds (numerator * twoTo (-exponent).toNat)
    (denominator * twoTo exponent.toNat)
  rw [floor] at above below
  have small : ⌊(numerator : ℚ) / denominator / 2 ^ exponent⌋₊ < twoTo 53 := by
    rw [Nat.floor_lt (by positivity), div_lt_iff₀ unit, twoTo_cast, ← zpow_natCast,
      ← zpow_add₀ two_ne_zero]
    exact high.trans_le (zpow_le_zpow_right₀ one_le_two (by omega))
  have large : leastExponent < exponent →
      twoTo 52 ≤ ⌊(numerator : ℚ) / denominator / 2 ^ exponent⌋₊ := by
    intro higher
    rw [Nat.le_floor_iff (by positivity), le_div_iff₀ unit, twoTo_cast, ← zpow_natCast,
      ← zpow_add₀ two_ne_zero]
    exact (zpow_le_zpow_right₀ one_le_two (by omega)).trans low
  generalize ⌊(numerator : ℚ) / denominator / 2 ^ exponent⌋₊ = quotient at above below small large
  generalize roundedQuotient (numerator * twoTo (-exponent).toNat)
    (denominator * twoTo exponent.toNat) = mantissa at above below ⊢
  have powers : twoTo 52 < twoTo 53 := by decide
  by_cases overflow : mantissa = twoTo 53
  · simp only [overflow, beq_self_eq_true, if_true]
    split
    · exact .inl rfl
    · exact .inr ⟨_, _, rfl, powers, by omega, by omega, fun less => absurd less (lt_irrefl _)⟩
  · simp only [beq_eq_false_iff_ne.2 overflow, Bool.false_eq_true, if_false]
    split
    · exact .inl rfl
    · refine .inr ⟨_, _, rfl, by omega, by omega, by omega, fun less => ?_⟩
      by_contra higher
      have normal := large (by omega)
      omega

end Reckon.Decimal
