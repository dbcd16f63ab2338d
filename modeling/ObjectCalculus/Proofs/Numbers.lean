import ObjectCalculus.Binary64
import Mathlib.Algebra.Order.Field.Basic
import Mathlib.Algebra.Order.Field.Rat
import Mathlib.Tactic.Ring

/-!
# Numbers of words

Every word but a NaN stands for a rational number or for an infinity. Apart from the two zeros,
different words stand for different numbers, so that comparing words is comparing numbers.
-/

set_option autoImplicit false

namespace ObjectCalculus

/-- What a floating value stands for, whatever its encoding. -/
inductive Number where
  | finite (value : ℚ)
  | infinite (isNegative : Bool)

namespace Binary64

def magnitude (word : Binary64) : ℚ :=
  word.significand * 2 ^ word.scale

def signed (word : Binary64) : ℚ :=
  if word.isNegative then -word.magnitude else word.magnitude

/-- A NaN stands for no number, and both zeros for the same. -/
def number? (word : Binary64) : Option Number :=
  if word.isNaN then none
  else if word.isInfinite then some (.infinite word.isNegative)
  else some (.finite word.signed)

/-- The magnitude as a multiple of the smallest positive number. -/
def units (word : Binary64) : Nat :=
  word.significand * 2 ^ (word.exponentField - 1)

section Fields

variable {left right word : Binary64}

theorem fraction_lt (word : Binary64) : word.fraction < 2 ^ 52 :=
  Nat.mod_lt _ (by decide)

theorem fields_injective (signs : left.isNegative = right.isNegative)
    (exponents : left.exponentField = right.exponentField)
    (fractions : left.fraction = right.fraction) : left = right := by
  have leftBound := left.bits.toNat_lt
  have rightBound := right.bits.toNat_lt
  simp only [isNegative, exponentField, fraction, Nat.pow_eq, decide_eq_decide] at *
  have bits : left.bits = right.bits := by
    apply UInt64.toNat.inj
    omega
  cases left
  cases right
  exact congrArg Binary64.mk bits

theorem magnitude_units (word : Binary64) :
    word.magnitude = word.units * (2 : ℚ) ^ (-1074 : ℤ) := by
  unfold magnitude units
  rw [Nat.cast_mul, Nat.cast_pow, mul_assoc, ← zpow_natCast, Nat.cast_ofNat,
    ← zpow_add₀ two_ne_zero]
  congr 2
  unfold scale
  split <;> omega

theorem units_lt (word : Binary64) : word.units < 2 ^ 52 * 2 ^ word.exponentField := by
  have stored := word.fraction_lt
  unfold units significand
  cases exponent : word.exponentField with
  | zero => simpa using stored
  | succ smaller =>
      simp only [Nat.succ_ne_zero, if_false, Nat.add_sub_cancel, Nat.pow_eq]
      calc
        (2 ^ 52 + word.fraction) * 2 ^ smaller < (2 ^ 52 * 2) * 2 ^ smaller := by
          apply Nat.mul_lt_mul_of_pos_right _ (Nat.two_pow_pos smaller)
          omega
        _ = 2 ^ 52 * 2 ^ (smaller + 1) := by ring

theorem units_apart (exponents : left.exponentField < right.exponentField) :
    left.units < right.units := by
  calc
    left.units < 2 ^ 52 * 2 ^ left.exponentField := left.units_lt
    _ ≤ 2 ^ 52 * 2 ^ (right.exponentField - 1) := by
        apply Nat.mul_le_mul_left
        exact Nat.pow_le_pow_right Nat.zero_lt_two (Nat.le_sub_one_of_lt exponents)
    _ ≤ right.units := by
        unfold units significand
        rw [if_neg (Nat.ne_zero_of_lt exponents)]
        exact Nat.mul_le_mul_right _ (Nat.le_add_right _ _)

theorem units_injective (same : left.units = right.units) :
    left.exponentField = right.exponentField ∧ left.fraction = right.fraction := by
  have exponents : left.exponentField = right.exponentField := by
    rcases Nat.lt_trichotomy left.exponentField right.exponentField with below | equal | above
    · exact absurd same (Nat.ne_of_lt (units_apart below))
    · exact equal
    · exact absurd same (Nat.ne_of_gt (units_apart above))
  have significands : left.significand = right.significand := by
    apply Nat.eq_of_mul_eq_mul_right (Nat.two_pow_pos (left.exponentField - 1))
    unfold units at same
    rwa [← exponents] at same
  refine ⟨exponents, ?_⟩
  unfold significand at significands
  rw [← exponents] at significands
  split at significands <;> omega

theorem magnitude_injective (same : left.magnitude = right.magnitude) :
    left.exponentField = right.exponentField ∧ left.fraction = right.fraction := by
  have unit : (2 : ℚ) ^ (-1074 : ℤ) ≠ 0 := zpow_ne_zero _ two_ne_zero
  rw [magnitude_units, magnitude_units] at same
  exact units_injective (Nat.cast_injective (mul_right_cancel₀ unit same))

theorem magnitude_nonneg (word : Binary64) : 0 ≤ word.magnitude :=
  mul_nonneg (Nat.cast_nonneg _) (zpow_nonneg zero_le_two _)

theorem magnitude_zero_iff (word : Binary64) : word.magnitude = 0 ↔ word.isZero = true := by
  simp only [magnitude, significand, isZero, mul_eq_zero, Nat.cast_eq_zero, Bool.and_eq_true,
    beq_iff_eq, Nat.pow_eq]
  have power : (2 : ℚ) ^ word.scale ≠ 0 := zpow_ne_zero _ two_ne_zero
  split
  case isTrue exponent => simp [power, exponent]
  case isFalse exponent => simp [power, exponent]

theorem abs_signed (word : Binary64) : |word.signed| = word.magnitude := by
  unfold signed
  split
  · rw [abs_neg, abs_of_nonneg word.magnitude_nonneg]
  · exact abs_of_nonneg word.magnitude_nonneg

/-- Zero is the one number that two words stand for. -/
theorem signed_injective (same : left.signed = right.signed) :
    left = right ∨ left.isZero = true ∧ right.isZero = true := by
  have magnitudes : left.magnitude = right.magnitude := by
    rw [← abs_signed, same, abs_signed]
  obtain ⟨exponents, fractions⟩ := magnitude_injective magnitudes
  rcases Bool.eq_or_eq_not left.isNegative right.isNegative with signs | opposite
  · exact .inl (fields_injective signs exponents fractions)
  · -- One magnitude with both signs leaves zero only.
    have zero : right.magnitude = 0 := by
      unfold signed at same
      rw [opposite, magnitudes] at same
      cases sign : right.isNegative with
      | false =>
          rw [sign] at same
          exact neg_eq_self.mp same
      | true =>
          rw [sign] at same
          exact neg_eq_self.mp same.symm
    exact .inr ⟨left.magnitude_zero_iff.mp (magnitudes.trans zero),
      right.magnitude_zero_iff.mp zero⟩

theorem number_exists_iff (word : Binary64) :
    (∃ number, word.number? = some number) ↔ word.isNaN = false := by
  unfold number?
  cases word.isNaN <;> simp
  split <;> simp

theorem number_zero (zero : word.isZero = true) : word.number? = some (.finite 0) := by
  have magnitude := word.magnitude_zero_iff.mpr zero
  simp_all [number?, isZero, isNaN, isInfinite, signed]

theorem number_infinite {isNegative : Bool}
    (number : word.number? = some (.infinite isNegative)) :
    word.exponentField = 2047 ∧ word.fraction = 0 ∧ word.isNegative = isNegative := by
  unfold number? at number
  split_ifs at number with notNumber infinite
  · simp only [isInfinite, Bool.and_eq_true, beq_iff_eq] at infinite
    cases number
    exact ⟨infinite.1, infinite.2, rfl⟩
  · cases number

theorem number_finite {value : ℚ} (number : word.number? = some (.finite value)) :
    word.signed = value := by
  unfold number? at number
  split_ifs at number with notNumber infinite
  · cases number
  · cases number
    rfl

theorem number_injective {number : Number} (leftNumber : left.number? = some number)
    (rightNumber : right.number? = some number) :
    left = right ∨ left.isZero = true ∧ right.isZero = true := by
  cases number with
  | finite value =>
      exact signed_injective ((number_finite leftNumber).trans (number_finite rightNumber).symm)
  | infinite isNegative =>
      obtain ⟨leftExponent, leftFraction, leftSign⟩ := number_infinite leftNumber
      obtain ⟨rightExponent, rightFraction, rightSign⟩ := number_infinite rightNumber
      exact .inl (fields_injective (leftSign.trans rightSign.symm)
        (leftExponent.trans rightExponent.symm) (leftFraction.trans rightFraction.symm))

theorem equal_iff (left right : Binary64) :
    left.equal right = true ↔
      ∃ number, left.number? = some number ∧ right.number? = some number := by
  simp only [equal, Bool.and_eq_true, Bool.or_eq_true, Bool.not_eq_true', beq_iff_eq, and_assoc]
  constructor
  · rintro ⟨leftNumber, rightNumber, bits | ⟨leftZero, rightZero⟩⟩
    · obtain ⟨number, stands⟩ := left.number_exists_iff.mpr leftNumber
      cases left
      cases right
      cases bits
      exact ⟨number, stands, stands⟩
    · exact ⟨.finite 0, number_zero leftZero, number_zero rightZero⟩
  · rintro ⟨number, leftNumber, rightNumber⟩
    refine ⟨left.number_exists_iff.mp ⟨number, leftNumber⟩,
      right.number_exists_iff.mp ⟨number, rightNumber⟩, ?_⟩
    rcases number_injective leftNumber rightNumber with rfl | zeros
    · exact .inl rfl
    · exact .inr zeros

end Fields

end Binary64

end ObjectCalculus
