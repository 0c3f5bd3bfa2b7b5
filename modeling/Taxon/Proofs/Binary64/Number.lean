import Mathlib.Algebra.Order.Field.Rat
import Mathlib.Algebra.Order.Ring.Abs
import Mathlib.Tactic.NormNum
import Mathlib.Tactic.Ring
import Taxon.Complex

/-!
Doubles as numbers. A finite double is a whole number of units of `2 ^ -1074`, and apart from the
two zeros no two patterns of bits count the same units. So to compare bits, with the zeros made one
and every not-a-number set apart, is to compare numbers.
-/

set_option autoImplicit false

namespace Taxon

namespace Binary64

def toRat (x : Binary64) : ℚ :=
  (if x.isNegative then -1 else 1) * (x.significand * 2 ^ x.scale)

/-- Two doubles that stand for one number: finite ones of one value, or infinities of one sign. -/
inductive SameNumber : Binary64 → Binary64 → Prop where
  | finite {x y : Binary64} (left : x.isFinite = true) (right : y.isFinite = true)
      (same : x.toRat = y.toRat) : SameNumber x y
  | infinite {x y : Binary64} (left : x.isInfinite = true) (right : y.isInfinite = true)
      (same : x.isNegative = y.isNegative) : SameNumber x y

/-- The magnitude of a finite double, counted in the least there is. -/
def units (x : Binary64) : Nat := x.significand * 2 ^ (x.exponentField - 1)

theorem word_lt (x : Binary64) : x.word < 2 ^ 64 := x.bits.toNat_lt

theorem word_injective {x y : Binary64} (same : x.word = y.word) : x = y := by
  cases x
  cases y
  exact congrArg Binary64.mk (UInt64.toNat_inj.mp same)

theorem fraction_lt (x : Binary64) : x.fraction < 2 ^ 52 := Nat.mod_lt _ (by decide)

theorem word_fields (x : Binary64) :
    x.word = (if x.isNegative then 2 ^ 63 else 0) + x.exponentField * 2 ^ 52 + x.fraction := by
  have bound := x.word_lt
  simp only [isNegative, exponentField, fraction, Nat.pow_eq, decide_eq_true_eq]
  split_ifs <;> omega

theorem fields_injective {x y : Binary64} (sign : x.isNegative = y.isNegative)
    (exponent : x.exponentField = y.exponentField) (fraction : x.fraction = y.fraction) :
    x = y := by
  apply word_injective
  rw [x.word_fields, y.word_fields, sign, exponent, fraction]

theorem is_zero_iff (x : Binary64) : x.isZero = true ↔ x.exponentField = 0 ∧ x.fraction = 0 := by
  have bound := x.word_lt
  simp only [isZero, exponentField, fraction, Nat.pow_eq, beq_iff_eq]
  omega

theorem is_finite_iff (x : Binary64) :
    x.isFinite = true ↔ x.isNaN = false ∧ x.isInfinite = false := by
  have bound : x.exponentField < 2048 := Nat.mod_lt _ (by decide)
  rw [isFinite, decide_eq_true_eq, isNaN, isInfinite, Bool.and_eq_false_iff,
    Bool.and_eq_false_iff, beq_eq_false_iff_ne, beq_eq_false_iff_ne, bne_eq_false_iff_eq]
  omega

theorem units_eq_zero_iff (x : Binary64) : x.units = 0 ↔ x.isZero = true := by
  rw [is_zero_iff, units, significand]
  have positive : 0 < 2 ^ (x.exponentField - 1) := Nat.two_pow_pos _
  split_ifs with subnormal
  · simp [subnormal]
  · simp [subnormal, Nat.pow_eq]

theorem units_lt {x y : Binary64} (less : x.exponentField < y.exponentField) :
    x.units < y.units := by
  have below : x.significand * 2 ^ (x.exponentField - 1) < 2 ^ 52 * 2 ^ x.exponentField := by
    have bound := x.fraction_lt
    rw [significand]
    split_ifs with subnormal
    · simpa [subnormal] using bound
    · have half : 2 ^ x.exponentField = 2 * 2 ^ (x.exponentField - 1) := by
        rw [← Nat.pow_succ']
        congr 1
        omega
      rw [half, Nat.pow_eq, ← Nat.mul_assoc]
      exact Nat.mul_lt_mul_of_pos_right (by omega) (Nat.two_pow_pos _)
  have above : 2 ^ 52 * 2 ^ (y.exponentField - 1) ≤ y.units := by
    rw [units, significand, if_neg (by omega), Nat.pow_eq]
    exact Nat.mul_le_mul_right _ (Nat.le_add_right _ _)
  have steps : 2 ^ x.exponentField ≤ 2 ^ (y.exponentField - 1) :=
    Nat.pow_le_pow_right (by decide) (by omega)
  calc x.units < 2 ^ 52 * 2 ^ x.exponentField := below
    _ ≤ 2 ^ 52 * 2 ^ (y.exponentField - 1) := Nat.mul_le_mul_left _ steps
    _ ≤ y.units := above

theorem fields_of_units {x y : Binary64} (same : x.units = y.units) :
    x.exponentField = y.exponentField ∧ x.fraction = y.fraction := by
  have exponent : x.exponentField = y.exponentField := by
    rcases Nat.lt_trichotomy x.exponentField y.exponentField with less | equal | greater
    · exact absurd same (units_lt less).ne
    · exact equal
    · exact absurd same (units_lt greater).ne'
  refine ⟨exponent, ?_⟩
  rw [units, units, exponent] at same
  have significands := Nat.eq_of_mul_eq_mul_right (Nat.two_pow_pos _) same
  rw [significand, significand, exponent] at significands
  split_ifs at significands
  · exact significands
  · exact Nat.add_left_cancel significands

def leastMagnitude : ℚ := 2 ^ (-1074 : ℤ)

theorem least_magnitude_ne_zero : leastMagnitude ≠ 0 := zpow_ne_zero _ two_ne_zero

theorem two_pow_scale (x : Binary64) :
    (2 : ℚ) ^ x.scale = 2 ^ (x.exponentField - 1) * leastMagnitude := by
  have split : x.scale = ((x.exponentField - 1 : ℕ) : ℤ) + -1074 := by
    unfold scale
    omega
  rw [split, zpow_add₀ two_ne_zero, zpow_natCast, leastMagnitude]

theorem to_rat_eq_units (x : Binary64) :
    x.toRat = (if x.isNegative then -1 else 1) * x.units * leastMagnitude := by
  rw [toRat, units, two_pow_scale]
  push_cast
  ring

theorem to_rat_eq_zero_iff (x : Binary64) : x.toRat = 0 ↔ x.isZero = true := by
  rw [to_rat_eq_units, ← units_eq_zero_iff]
  split_ifs <;> simp [least_magnitude_ne_zero]

theorem units_of_to_rat {x y : Binary64} (same : x.toRat = y.toRat) : x.units = y.units := by
  rw [to_rat_eq_units, to_rat_eq_units] at same
  have magnitudes := congrArg abs (mul_right_cancel₀ least_magnitude_ne_zero same)
  have unsigned (negative : Bool) : |(if negative then -1 else 1 : ℚ)| = 1 := by
    cases negative <;> simp
  rw [abs_mul, abs_mul, unsigned, unsigned, one_mul, one_mul, Nat.abs_cast,
    Nat.abs_cast] at magnitudes
  exact Nat.cast_injective magnitudes

/-- Of a number that is not zero the sign shows. -/
theorem sign_of_to_rat {x y : Binary64} (same : x.toRat = y.toRat) (nonzero : x.isZero = false) :
    x.isNegative = y.isNegative := by
  have counted := units_of_to_rat same
  have counts : (x.units : ℚ) ≠ 0 := by
    rw [Nat.cast_ne_zero, Ne, units_eq_zero_iff, nonzero]
    decide
  rw [to_rat_eq_units, to_rat_eq_units, ← counted] at same
  have signs := mul_right_cancel₀ counts (mul_right_cancel₀ least_magnitude_ne_zero same)
  cases left : x.isNegative <;> cases right : y.isNegative
  · rfl
  · rw [left, right] at signs
    norm_num at signs
  · rw [left, right] at signs
    norm_num at signs
  · rfl

/-- Doubles are equal when they stand for one number. -/
theorem equal_iff (x y : Binary64) : x.equal y = true ↔ SameNumber x y := by
  simp only [equal, Bool.and_eq_true, Bool.not_eq_eq_eq_not, Bool.not_true, Bool.or_eq_true,
    beq_iff_eq]
  constructor
  · rintro ⟨⟨left, right⟩, words | ⟨zero, zero'⟩⟩
    · obtain rfl := word_injective words
      cases infinite : x.isInfinite with
      | true => exact .infinite infinite infinite rfl
      | false =>
          have finite := x.is_finite_iff.mpr ⟨left, infinite⟩
          exact .finite finite finite rfl
    · have finite {z : Binary64} (isZero : z.isZero = true) : z.isFinite = true := by
        rw [isFinite, (z.is_zero_iff.mp isZero).1]
        decide
      refine .finite (finite zero) (finite zero') ?_
      rw [x.to_rat_eq_zero_iff.mpr zero, y.to_rat_eq_zero_iff.mpr zero']
  · intro same
    cases same with
    | finite left right same =>
        refine ⟨⟨(x.is_finite_iff.mp left).1, (y.is_finite_iff.mp right).1⟩, ?_⟩
        cases zero : x.isZero with
        | true =>
            have vanishes := x.to_rat_eq_zero_iff.mpr zero
            exact .inr ⟨rfl, y.to_rat_eq_zero_iff.mp (same ▸ vanishes)⟩
        | false =>
            obtain ⟨exponent, fraction⟩ := fields_of_units (units_of_to_rat same)
            exact .inl (congrArg word
              (fields_injective (sign_of_to_rat same zero) exponent fraction))
    | infinite left right same =>
        simp only [isInfinite, Bool.and_eq_true, beq_iff_eq] at left right
        have one : x = y := by
          apply fields_injective same
          · rw [left.1, right.1]
          · rw [left.2, right.2]
        subst one
        simp [isNaN, left.2]

end Binary64

namespace Binary64.SameNumber

variable {x y z : Binary64}

theorem symm (same : SameNumber x y) : SameNumber y x := by
  cases same with
  | finite left right same => exact .finite right left same.symm
  | infinite left right same => exact .infinite right left same.symm

theorem trans (first : SameNumber x y) (second : SameNumber y z) : SameNumber x z := by
  have apart : ¬(y.isFinite = true ∧ y.isInfinite = true) := by
    rw [y.is_finite_iff]
    simp
  cases first with
  | finite left middle same =>
      cases second with
      | finite _ right same' => exact .finite left right (same.trans same')
      | infinite middle' _ _ => exact absurd ⟨middle, middle'⟩ apart
  | infinite left middle same =>
      cases second with
      | finite middle' _ _ => exact absurd ⟨middle', middle⟩ apart
      | infinite _ right same' => exact .infinite left right (same.trans same')

theorem self_iff (x : Binary64) : SameNumber x x ↔ ¬x.isNaN = true := by
  rw [← equal_iff]
  simp [equal]

end Binary64.SameNumber

structure Complex.SameNumber (z w : Complex) : Prop where
  re : z.re.SameNumber w.re
  im : z.im.SameNumber w.im

namespace Complex.SameNumber

variable {u v w : Complex}

theorem symm (same : SameNumber u v) : SameNumber v u := ⟨same.re.symm, same.im.symm⟩

theorem trans (first : SameNumber u v) (second : SameNumber v w) : SameNumber u w :=
  ⟨first.re.trans second.re, first.im.trans second.im⟩

theorem equal_iff (z w : Complex) : z.equal w = true ↔ SameNumber z w := by
  rw [equal, Bool.and_eq_true, Binary64.equal_iff, Binary64.equal_iff]
  exact ⟨fun both => ⟨both.1, both.2⟩, fun same => ⟨same.re, same.im⟩⟩

theorem self_iff (z : Complex) : SameNumber z z ↔ ¬(z.re.isNaN = true ∨ z.im.isNaN = true) := by
  rw [not_or, ← Binary64.SameNumber.self_iff, ← Binary64.SameNumber.self_iff]
  exact ⟨fun same => ⟨same.re, same.im⟩, fun both => ⟨both.1, both.2⟩⟩

end Complex.SameNumber

end Taxon
