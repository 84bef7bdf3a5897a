/-
This file shows that the shortest decimal of a float lies in the neighbourhood of the float.
-/

import Mathlib.Data.Nat.Cast.Field
import Reckon.Proofs.Decimal.Rounding

namespace Reckon.Decimal

/-- This is the number that a decimal stands for. -/
def Number.value (decimal : Number) : ℚ := decimal.coefficient * 10 ^ decimal.exponent

theorem commonScale_pos (decimal binary : Int) :
    0 < (commonScale decimal binary).1 ∧ 0 < (commonScale decimal binary).2 :=
  ⟨Nat.mul_pos (tenTo_pos _) (twoTo_pos _), Nat.mul_pos (tenTo_pos _) (twoTo_pos _)⟩

/-- The units of the common scale are as far apart as the powers are. -/
theorem commonScale_eq (decimal binary : Int) :
    ((commonScale decimal binary).1 : ℚ) * 2 ^ binary =
      (commonScale decimal binary).2 * 10 ^ decimal := by
  have tens := zpow_split (show (0 : ℚ) < 10 by norm_num) decimal
  have twos := zpow_split (show (0 : ℚ) < 2 by norm_num) binary
  simp only [commonScale, Nat.cast_mul, tenTo_cast, twoTo_cast]
  rw [← tens, ← twos]
  field_simp

/-- Numbers are compared after scaling as they are before it. -/
theorem commonScale_le (coefficient bound : Nat) (decimal binary : Int) :
    (coefficient * (commonScale decimal binary).1 ≤ bound * (commonScale decimal binary).2 ↔
      (coefficient : ℚ) * 10 ^ decimal ≤ bound * 2 ^ binary) ∧
    (bound * (commonScale decimal binary).2 ≤ coefficient * (commonScale decimal binary).1 ↔
      (bound : ℚ) * 2 ^ binary ≤ coefficient * 10 ^ decimal) := by
  have scale := commonScale_eq decimal binary
  obtain ⟨_, positive⟩ := commonScale_pos decimal binary
  generalize (commonScale decimal binary).1 = decimalUnit at scale ⊢
  generalize (commonScale decimal binary).2 = binaryUnit at scale positive ⊢
  have unit : (0 : ℚ) < 2 ^ binary := by positivity
  have binaryUnit_pos : (0 : ℚ) < binaryUnit := by exact_mod_cast positive
  have left : (coefficient * decimalUnit : ℚ) * 2 ^ binary =
      coefficient * 10 ^ decimal * binaryUnit := by
    rw [mul_assoc, scale]
    ring
  have right : (bound * binaryUnit : ℚ) * 2 ^ binary = bound * 2 ^ binary * binaryUnit := by ring
  constructor
  · rw [← @Nat.cast_le ℚ, ← mul_le_mul_iff_left₀ unit]
    push_cast
    rw [left, right, mul_le_mul_iff_left₀ binaryUnit_pos]
  · rw [← @Nat.cast_le ℚ, ← mul_le_mul_iff_left₀ unit]
    push_cast
    rw [left, right, mul_le_mul_iff_left₀ binaryUnit_pos]

/-- A power of two divides every power of ten that is at least as high. -/
theorem twoTo_dvd_tenTo {low high : Nat} (less : low ≤ high) : twoTo low ∣ tenTo high :=
  (pow_dvd_pow 2 less).trans (pow_dvd_pow_of_dvd (by decide) high)

namespace Neighbourhood

variable {place : Neighbourhood}

/-- The test on whole numbers finds exactly the decimals whose values lie in the neighbourhood. -/
theorem contains_iff (decimal : Number) : place.contains decimal = true ↔ place.Holds decimal.value := by
  have low := (commonScale_le decimal.coefficient place.low decimal.exponent place.exponent).2
  have high := (commonScale_le decimal.coefficient place.high decimal.exponent place.exponent).1
  have low' := (commonScale_le decimal.coefficient place.low decimal.exponent place.exponent).1
  have high' := (commonScale_le decimal.coefficient place.high decimal.exponent place.exponent).2
  unfold contains Holds Number.value
  dsimp only
  split
  · simp only [Bool.and_eq_true, decide_eq_true_eq, low, high]
  · simp only [Bool.and_eq_true, decide_eq_true_eq, ← not_le, low', high']

/-- A decimal is chosen among those of the given exponent in the neighbourhood. -/
theorem nearest?_eq {exponent : Int} {decimal : Number}
    (found : place.nearest? exponent = some decimal) :
    decimal.exponent = exponent ∧ place.contains decimal = true := by
  unfold nearest? at found
  dsimp only at found
  split at found
  · rename_i first second
    split at found
    · cases found
      exact ⟨rfl, second⟩
    · cases found
      exact ⟨rfl, first⟩
  · rename_i first _
    cases found
    exact ⟨rfl, first⟩
  · rename_i _ second
    cases found
    exact ⟨rfl, second⟩
  · cases found

/-- A float has no more decimal places than binary ones. -/
theorem exact_value (places : Nat) (least : -(places : Int) ≤ place.exponent) :
    (⟨place.value * (commonScale (-places) place.exponent).2 / twoTo (-place.exponent).toNat,
      -places⟩ : Number).value = place.value * 2 ^ place.exponent := by
  have divides : twoTo (-place.exponent).toNat ∣ tenTo places := twoTo_dvd_tenTo (by omega)
  have unit : (twoTo (-place.exponent).toNat : ℚ) ≠ 0 := by exact_mod_cast (twoTo_pos _).ne'
  have twos := zpow_split (show (0 : ℚ) < 2 by norm_num) place.exponent
  have scale : (commonScale (-places) place.exponent).2 = tenTo places * twoTo place.exponent.toNat := by
    simp only [commonScale, neg_neg, Int.toNat_natCast]
  rw [Number.value, scale]
  dsimp only
  rw [Nat.cast_div (Dvd.dvd.mul_left (Dvd.dvd.mul_right divides _) _) unit]
  push_cast
  rw [tenTo_cast, twoTo_cast, twoTo_cast, zpow_neg, zpow_natCast, ← twos]
  field_simp

/-- The search ends in the neighbourhood, within its bounds. -/
theorem search_holds (scale : Int) (digits more : Nat) (least : -1100 ≤ place.exponent)
    (inside : place.low < place.value ∧ place.value < place.high)
    (enough : -1100 ≤ scale - (digits + more : Nat)) :
    place.Holds (place.search scale digits more).value ∧
      -1100 ≤ (place.search scale digits more).exponent := by
  induction more generalizing digits with
  | zero =>
      rw [search]
      dsimp only
      refine ⟨?_, le_rfl⟩
      have exact : _ = place.value * (2 : ℚ) ^ place.exponent := exact_value 1100 least
      rw [Nat.cast_ofNat] at exact
      rw [exact]
      have unit : (0 : ℚ) < 2 ^ place.exponent := by positivity
      have low : (place.low : ℚ) < place.value := by exact_mod_cast inside.1
      have high : (place.value : ℚ) < place.high := by exact_mod_cast inside.2
      rw [Holds]
      have above := mul_lt_mul_of_pos_right low unit
      have below := mul_lt_mul_of_pos_right high unit
      split
      · exact ⟨above.le, below.le⟩
      · exact ⟨above, below⟩
  | succ more ih =>
      rw [search]
      cases found : place.nearest? (scale - digits) with
      | some decimal =>
          obtain ⟨exponent, contained⟩ := nearest?_eq found
          refine ⟨(contains_iff decimal).1 contained, ?_⟩
          dsimp only
          omega
      | none =>
          dsimp only
          exact ih (digits + 1) (by omega)

end Neighbourhood

/-- The zeros that are moved into the exponent change neither the number nor its sign. -/
theorem Number.stripped_value (decimal : Number) (bound : Nat) :
    (decimal.stripped bound).value = decimal.value ∧
      decimal.exponent ≤ (decimal.stripped bound).exponent := by
  induction bound generalizing decimal with
  | zero => exact ⟨rfl, le_rfl⟩
  | succ bound ih =>
      rw [stripped]
      split
      · rename_i zeros
        simp only [Bool.and_eq_true, beq_iff_eq] at zeros
        obtain ⟨same, further⟩ := ih ⟨decimal.coefficient / 10, decimal.exponent + 1⟩
        refine ⟨?_, by dsimp only at further; omega⟩
        have whole : decimal.coefficient = 10 * (decimal.coefficient / 10) := by omega
        have whole' : (decimal.coefficient : ℚ) = 10 * (decimal.coefficient / 10 : Nat) := by
          exact_mod_cast whole
        rw [same, value, value, whole']
        dsimp only
        rw [zpow_add₀ (by norm_num), zpow_one]
        ring
      · exact ⟨rfl, le_rfl⟩

/-- The shortest decimal of a float above zero lies in its neighbourhood. -/
theorem shortest_holds {mantissa : Nat} {exponent : Int} (solid : mantissa ≠ 0)
    (canonical : Binary64.IsCanonical mantissa exponent) :
    (Neighbourhood.ofFinite mantissa exponent Binary64.leastExponent).Holds
        (shortest mantissa exponent Binary64.leastExponent).value ∧
      -1100 ≤ (shortest mantissa exponent Binary64.leastExponent).exponent := by
  have lowest : -1074 ≤ exponent := canonical.2.1
  rw [shortest, if_neg (by simpa using solid)]
  dsimp only
  generalize found : Neighbourhood.search
    (Neighbourhood.ofFinite mantissa exponent Binary64.leastExponent) _ 1 17 = decimal
  have searched : (Neighbourhood.ofFinite mantissa exponent Binary64.leastExponent).Holds
      decimal.value ∧ -1100 ≤ decimal.exponent := by
    rw [← found]
    refine Neighbourhood.search_holds _ 1 17 ?_ ?_ ?_
    · simp only [Neighbourhood.ofFinite]
      omega
    · unfold Neighbourhood.ofFinite
      dsimp only
      refine ⟨?_, by omega⟩
      split <;> omega
    · unfold Neighbourhood.decimalScale
      dsimp only
      omega
  obtain ⟨same, further⟩ := decimal.stripped_value (digitCount decimal.coefficient)
  rw [same]
  exact ⟨searched.1, by omega⟩

end Reckon.Decimal
