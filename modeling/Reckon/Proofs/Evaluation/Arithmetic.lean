/-
This file compares the arithmetic of an evaluation, which wraps around at sixty-four bits at every step, with
the arithmetic of the integers. Only the value at the end has to be reduced.
-/

import Mathlib.Algebra.Order.Group.Abs
import Mathlib.Data.Int.ModEq
import Reckon.Proofs.Evaluation.Sequence

namespace Reckon

/-- An expression of integers, names of integers, signs, sums, differences and products denotes the integer
that it has without any bound on the size. -/
inductive Expression.Denotes (globals : Bindings) (scope : Scope) : Expression → Int → Prop where
  | literal {span : Span} (number : Int64) : Denotes globals scope (.literal span (.int number)) number.toInt
  | name {span : Span} {name : String} {number : Int64}
      (bound : scope.get? globals name = some (.int number)) :
      Denotes globals scope (.ident span name) number.toInt
  | plus {span : Span} {operand : Expression} {exact : Int} (inner : Denotes globals scope operand exact) :
      Denotes globals scope (.unary span .add operand) exact
  | minus {span : Span} {operand : Expression} {exact : Int} (inner : Denotes globals scope operand exact) :
      Denotes globals scope (.unary span .sub operand) (-exact)
  | sum {span : Span} {left right : Expression} {first second : Int}
      (before : Denotes globals scope left first) (after : Denotes globals scope right second) :
      Denotes globals scope (.binary span .add left right) (first + second)
  | difference {span : Span} {left right : Expression} {first second : Int}
      (before : Denotes globals scope left first) (after : Denotes globals scope right second) :
      Denotes globals scope (.binary span .sub left right) (first - second)
  | product {span : Span} {left right : Expression} {first second : Int}
      (before : Denotes globals scope left first) (after : Denotes globals scope right second) :
      Denotes globals scope (.binary span .mul left right) (first * second)

/-- An integer of sixty-four bits reduces the integers that it differs from by a multiple of two to the power
of sixty-four. -/
def Reduces (value : Int64) (exact : Int) : Prop := value.toInt ≡ exact [ZMOD 2 ^ 64]

namespace Reduces

variable {value value' : Int64} {exact exact' : Int}

theorem of_bmod (same : value.toInt = exact.bmod (2 ^ 64)) : Reduces value exact := by
  rw [Reduces, same]
  exact Int.bmod_emod

theorem refl (value : Int64) : Reduces value value.toInt := Int.ModEq.refl _

theorem neg (reduces : Reduces value exact) : Reduces (-value) (-exact) :=
  (of_bmod (Int64.toInt_neg value)).trans (Int.ModEq.neg reduces)

theorem add (first : Reduces value exact) (second : Reduces value' exact') :
    Reduces (value + value') (exact + exact') :=
  (of_bmod (Int64.toInt_add value value')).trans (Int.ModEq.add first second)

theorem sub (first : Reduces value exact) (second : Reduces value' exact') :
    Reduces (value - value') (exact - exact') :=
  (of_bmod (Int64.toInt_sub value value')).trans (Int.ModEq.sub first second)

theorem mul (first : Reduces value exact) (second : Reduces value' exact') :
    Reduces (value * value') (exact * exact') :=
  (of_bmod (Int64.toInt_mul value value')).trans (Int.ModEq.mul first second)

end Reduces

/-- A quotient and a remainder are truncated when the quotient goes toward zero. Only one quotient is too
great for sixty-four bits, and it wraps around. -/
structure Truncated (dividend divisor quotient remainder : Int64) : Prop where
  smaller : |remainder.toInt| < |divisor.toInt|
  sign : remainder = 0 ∨ remainder.toInt.sign = dividend.toInt.sign
  whole : Reduces dividend (quotient.toInt * divisor.toInt + remainder.toInt)
  quotient : quotient.toInt =
    if dividend.toInt = -2 ^ 63 ∧ divisor.toInt = -1 then -2 ^ 63
    else dividend.toInt.tdiv divisor.toInt

section Division

variable {dividend divisor : Int64}

/-- A divisor that is not zero is no zero integer. -/
theorem toInt_ne_zero (solid : divisor ≠ 0) : divisor.toInt ≠ 0 := by
  intro zero
  apply solid
  rw [← Int64.toInt_inj, zero]
  rfl

/-- A remainder is smaller than its divisor. -/
theorem abs_toInt_mod_lt (solid : divisor ≠ 0) : |(dividend % divisor).toInt| < |divisor.toInt| := by
  rw [Int64.toInt_mod, Int.abs_eq_natAbs, Int.abs_eq_natAbs, Int.natAbs_tmod]
  have positive : 0 < divisor.toInt.natAbs := Int.natAbs_pos.2 (toInt_ne_zero solid)
  exact_mod_cast Nat.mod_lt _ positive

/-- A remainder has the sign of the dividend, unless it is zero. -/
theorem mod_sign (dividend divisor : Int64) :
    dividend % divisor = 0 ∨ (dividend % divisor).toInt.sign = dividend.toInt.sign := by
  by_cases divides : divisor.toInt ∣ dividend.toInt
  · left
    rw [← Int64.toInt_inj, Int64.toInt_mod, Int.tmod_eq_zero_of_dvd divides]
    rfl
  · right
    rw [Int64.toInt_mod, Int.sign_tmod, if_neg divides]

/-- The quotient of the least integer by minus one wraps around to the least integer. -/
theorem toInt_div_eq (dividend divisor : Int64) : (dividend / divisor).toInt =
    if dividend.toInt = -2 ^ 63 ∧ divisor.toInt = -1 then -2 ^ 63
    else dividend.toInt.tdiv divisor.toInt := by
  split
  · rename_i corner
    rw [Int64.toInt_div, corner.1, corner.2]
    decide
  · rename_i other
    by_cases least : dividend = Int64.minValue
    · apply Int64.toInt_div_of_ne_right
      intro minusOne
      apply other
      rw [least, minusOne]
      decide
    · exact Int64.toInt_div_of_ne_left dividend divisor least

/-- The quotient and the remainder are those of a truncated division. -/
theorem truncated_div_mod (solid : divisor ≠ 0) :
    Truncated dividend divisor (dividend / divisor) (dividend % divisor) where
  smaller := abs_toInt_mod_lt solid
  sign := mod_sign dividend divisor
  quotient := toInt_div_eq dividend divisor
  whole := by
    have quotient : Reduces (dividend / divisor) (dividend.toInt.tdiv divisor.toInt) :=
      .of_bmod (Int64.toInt_div dividend divisor)
    have whole := (Int.ModEq.mul_right divisor.toInt quotient).add_right (dividend % divisor).toInt
    rw [Int64.toInt_mod, Int.tdiv_mul_add_tmod] at whole
    rw [Reduces, Int64.toInt_mod]
    exact whole.symm

end Division

namespace Expression

variable {globals : Bindings} {call : Span → Scope → Expression → Result Value} {scope : Scope}

/-- A sign is applied to the value of its operand. -/
theorem evalWith_unary_ok {operand : Expression} {value : Value}
    (found : operand.evalWith globals call scope = .ok value) (span : Span) (operator : Operator) :
    (unary span operator operand).evalWith globals call scope = operator.applyUnary span value := by
  rw [evalWith_unary, found]
  rfl

/-- An operator is applied to the values of both operands. -/
theorem evalWith_binary_ok {left right : Expression} {first second : Value}
    (before : left.evalWith globals call scope = .ok first)
    (after : right.evalWith globals call scope = .ok second) (span : Span) (operator : Operator) :
    (binary span operator left right).evalWith globals call scope =
      operator.applyBinary span first second := by
  rw [evalWith_binary, before, after]
  rfl

/-- What an expression denotes is reduced to its value, however the steps on the way wrap around. -/
theorem Denotes.reduces {expression : Expression} {exact : Int}
    (denotes : expression.Denotes globals scope exact) :
    ∃ value, expression.evalWith globals call scope = .ok (.int value) ∧ Reduces value exact := by
  induction denotes with
  | literal number => exact ⟨number, rfl, .refl number⟩
  | @name span name number bound =>
      refine ⟨number, ?_, .refl number⟩
      rw [evalWith, bound]
  | plus inner ih =>
      obtain ⟨value, found, reduces⟩ := ih
      exact ⟨value, evalWith_unary_ok found _ _, reduces⟩
  | minus inner ih =>
      obtain ⟨value, found, reduces⟩ := ih
      exact ⟨-value, evalWith_unary_ok found _ _, reduces.neg⟩
  | sum before after ih ih' =>
      obtain ⟨first, found, reduces⟩ := ih
      obtain ⟨second, found', reduces'⟩ := ih'
      exact ⟨first + second, evalWith_binary_ok found found' _ _, reduces.add reduces'⟩
  | difference before after ih ih' =>
      obtain ⟨first, found, reduces⟩ := ih
      obtain ⟨second, found', reduces'⟩ := ih'
      exact ⟨first - second, evalWith_binary_ok found found' _ _, reduces.sub reduces'⟩
  | product before after ih ih' =>
      obtain ⟨first, found, reduces⟩ := ih
      obtain ⟨second, found', reduces'⟩ := ih'
      exact ⟨first * second, evalWith_binary_ok found found' _ _, reduces.mul reduces'⟩

end Expression

/-- An expression of integers has a value, and this is what the expression denotes, reduced to sixty-four
bits. Division gives the truncated quotient and remainder of the two values, and a division by zero is
reported at its span. -/
theorem arithmetic_reduced (globals : Bindings) (scope : Scope) (limit depth : Nat) :
    (∀ (expression : Expression) (exact : Int), expression.Denotes globals scope exact →
      ∃ value, expression.evalWithin globals limit depth scope = .ok (.int value) ∧
        value.toInt ≡ exact [ZMOD 2 ^ 64] ∧ -2 ^ 63 ≤ value.toInt ∧ value.toInt < 2 ^ 63) ∧
    (∀ (span : Span) (left right : Expression) (dividend divisor : Int64),
      left.evalWithin globals limit depth scope = .ok (.int dividend) →
      right.evalWithin globals limit depth scope = .ok (.int divisor) →
      let quotient := (Expression.binary span .div left right).evalWithin globals limit depth scope
      let remainder := (Expression.binary span .mod left right).evalWithin globals limit depth scope
      (divisor ≠ 0 → ∃ value rest, quotient = .ok (.int value) ∧ remainder = .ok (.int rest) ∧
        Truncated dividend divisor value rest) ∧
      (divisor = 0 → quotient = reportAt span .divisionByZero ∧
        remainder = reportAt span .divisionByZero)) := by
  simp only [Expression.evalWithin_eq]
  constructor
  · intro expression exact denotes
    obtain ⟨value, found, reduces⟩ := denotes.reduces
    exact ⟨value, found, reduces, value.le_toInt, value.toInt_lt⟩
  · intro span left right dividend divisor before after
    have quotient := Expression.evalWith_binary_ok before after span .div
    have remainder := Expression.evalWith_binary_ok before after span .mod
    rw [quotient, remainder]
    constructor
    · intro solid
      refine ⟨dividend / divisor, dividend % divisor, ?_, ?_, truncated_div_mod solid⟩
      · exact if_neg solid
      · exact if_neg solid
    · intro zero
      exact ⟨if_pos zero, if_pos zero⟩

/-- The name `n` is bound to the least integer of sixty-four bits. -/
def leastBound : Bindings := [("n", .int Int64.minValue)]

/-- The least integer is its own negation, and its own quotient by minus one. -/
theorem least_reduced :
    let name := Expression.ident ⟨.start, .start⟩ "n"
    let number (value : Int64) := Expression.literal ⟨.start, .start⟩ (.int value)
    let operation (operator : Operator) (value : Int64) :=
      (Expression.binary ⟨.start, .start⟩ operator name (number value)).eval leastBound
    (Expression.unary ⟨.start, .start⟩ .sub name).Denotes leastBound .global (2 ^ 63) ∧
    (∃ value, (Expression.unary ⟨.start, .start⟩ .sub name).eval leastBound = .ok (.int value) ∧
      value.toInt = -2 ^ 63) ∧
    name.eval leastBound = .ok (.int Int64.minValue) ∧ (number (-1)).eval leastBound = .ok (.int (-1)) ∧
    (∃ value rest, operation .div (-1) = .ok (.int value) ∧ operation .mod (-1) = .ok (.int rest) ∧
      value.toInt = -2 ^ 63 ∧ Truncated Int64.minValue (-1) value rest) ∧
    operation .mod 0 = reportAt ⟨.start, .start⟩ .divisionByZero := by
  intro name number operation
  have denotes : (Expression.unary ⟨.start, .start⟩ .sub name).Denotes leastBound .global (2 ^ 63) :=
    .minus (@Expression.Denotes.name leastBound .global ⟨.start, .start⟩ "n" Int64.minValue rfl)
  have found (value : Int64) : (number value).eval leastBound = .ok (.int value) := rfl
  obtain ⟨exact, division⟩ := arithmetic_reduced leastBound .global maxCallDepth maxCallDepth
  obtain ⟨value, negated, reduces, least, greatest⟩ := exact _ _ denotes
  obtain ⟨quotient, rest, divided, left, truncated⟩ :=
    (division ⟨.start, .start⟩ name (number (-1)) _ _ rfl (found (-1))).1 (by decide)
  obtain ⟨_, reported⟩ := (division ⟨.start, .start⟩ name (number 0) Int64.minValue 0 rfl (found 0)).2 rfl
  refine ⟨denotes, ⟨value, negated, ?_⟩, rfl, found (-1), ⟨quotient, rest, divided, left, ?_, truncated⟩,
    reported⟩
  · rw [Int.ModEq] at reduces
    omega
  · rw [truncated.quotient]
    exact if_pos (by decide)

end Reckon
