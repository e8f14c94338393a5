import LinearAxis.Kinematics
import Mathlib

/-!
# Signs of floating-point numbers

Rounding may change the size of a product or a quotient but never its sign, so that a square is
never less than zero, nor is its quotient by something positive.  It follows that a braking distance
is never negative if the acceleration limit is positive, whatever the velocity
(`LinearAxis.Kinematics.brakingDistance_nonneg`).
-/

namespace LinearAxis

open Float.Model Float.Model.UnpackedFloat

/-- Not a number, or a number with a plus sign, taken apart. -/
def HasPlus : UnpackedFloat → Prop
  | .notANumber => True
  | .infinity sign | .zero sign | .finite sign _ _ _ => sign = .positive

section Unpacked

variable {format : Format} {left right value : UnpackedFloat}

theorem hasPlus_unpack_packComponents (exponent : BitVec format.exponentBits)
    (mantissa : BitVec format.mantissaBitsWithoutImplicit) :
    HasPlus (UnpackedFloat.unpack format
      (packComponents format .positive exponent mantissa)) := by
  simp only [UnpackedFloat.unpack, unpackSign_packComponents, Sign.ofBitVec_toBitVec]
  split
  · split <;> simp only [HasPlus]
  · split
    · split <;> simp only [HasPlus]
    · simp only [HasPlus]

/-- Packing a number keeps its sign. -/
theorem HasPlus.unpack_pack (plus : HasPlus value) :
    HasPlus (UnpackedFloat.unpack format (UnpackedFloat.pack format value)) := by
  cases value with
  | notANumber => exact hasPlus_unpack_packComponents _ _
  | infinity sign =>
    obtain rfl : sign = .positive := plus
    exact hasPlus_unpack_packComponents _ _
  | zero sign =>
    obtain rfl : sign = .positive := plus
    exact hasPlus_unpack_packComponents _ _
  | finite sign mantissa exponent some =>
    obtain rfl : sign = .positive := plus
    dsimp only [UnpackedFloat.pack]
    split
    · exact hasPlus_unpack_packComponents _ _
    · split <;> exact hasPlus_unpack_packComponents _ _

/-- Rounding keeps the sign. -/
theorem hasPlus_roundWithAccuracy (mantissa : Nat) (exponent : Int) (accuracy : Accuracy) :
    HasPlus (roundWithAccuracy format .positive mantissa exponent accuracy) := by
  dsimp only [roundWithAccuracy]
  split <;> simp only [HasPlus]

theorem HasPlus.mul (first : HasPlus left) (second : HasPlus right) :
    HasPlus (UnpackedFloat.mul format left right) := by
  have plus : Sign.positive * Sign.positive = Sign.positive := rfl
  cases left <;> cases right <;> simp only [HasPlus] at first second <;> subst_vars <;>
    simp only [UnpackedFloat.mul, plus]
  case finite.finite => exact hasPlus_roundWithAccuracy _ _ _
  all_goals simp only [HasPlus]

theorem hasPlus_mul_self : HasPlus (UnpackedFloat.mul format value value) := by
  cases value with
  | notANumber => trivial
  | infinity sign | zero sign => cases sign <;> rfl
  | finite sign mantissa exponent some =>
    cases sign <;> exact hasPlus_roundWithAccuracy _ _ _

theorem HasPlus.div (first : HasPlus left) (second : HasPlus right) :
    HasPlus (UnpackedFloat.div format left right) := by
  have plus : Sign.positive / Sign.positive = Sign.positive := rfl
  cases left <;> cases right <;> simp only [HasPlus] at first second <;> subst_vars <;>
    simp only [UnpackedFloat.div, plus]
  case finite.finite => exact hasPlus_roundWithAccuracy _ _ _
  all_goals simp only [HasPlus]

end Unpacked

section Floats

/-- Not a number, or a number with a plus sign. -/
def Unsigned (value : Float) : Prop := HasPlus value.toModel.unpack

variable {left right value : Float}

theorem Unsigned.mul (first : Unsigned left) (second : Unsigned right) :
    Unsigned (left * right) :=
  (HasPlus.mul first second).unpack_pack

theorem unsigned_mul_self : Unsigned (value * value) := hasPlus_mul_self.unpack_pack

theorem Unsigned.div (first : Unsigned left) (second : Unsigned right) :
    Unsigned (left / right) :=
  (HasPlus.div first second).unpack_pack

theorem lt_iff_unpacked : left < right ↔ left.toModel.unpack.lt right.toModel.unpack = true := by
  change Float.lt left right = true ↔ _
  rw [Float.lt, decide_eq_true_eq]
  exact Iff.rfl

theorem unpack_zero : (0.0 : Float).toModel.unpack = .zero .positive := rfl

theorem unsigned_of_pos (positive : 0.0 < value) : Unsigned value := by
  rw [lt_iff_unpacked, unpack_zero] at positive
  rw [Unsigned]
  generalize value.toModel.unpack = unpacked at positive
  cases unpacked with
  | notANumber => trivial
  | infinity sign | zero sign | finite sign _ _ _ =>
    cases sign with
    | positive => rfl
    | negative => cases positive

theorem Unsigned.not_lt_zero (unsigned : Unsigned value) : ¬ value < 0.0 := by
  rw [lt_iff_unpacked, unpack_zero]
  rw [Unsigned] at unsigned
  generalize value.toModel.unpack = unpacked at unsigned
  cases unpacked <;> simp only [HasPlus] at unsigned <;> subst_vars <;> exact Bool.false_ne_true

end Floats

/-! ## Braking distances -/

/-- A number that is not less than zero is cut to a distance that is not negative. -/
theorem Millimeters.truncate_nonneg {value : Float} (least : ¬ value < 0.0) :
    0 ≤ (truncate value).toInt := by
  rw [truncate, if_neg least, toInt_clamp]
  omega

namespace Kinematics

variable {limits : Kinematics}

/-- With a positive acceleration limit no braking distance is negative. -/
theorem brakingDistance_nonneg (travel : 0 < limits.distancePerStep.toInt)
    (acceleration : 0.0 < limits.maxAcceleration) (velocity : Float) :
    0 ≤ (limits.brakingDistance velocity).toInt := by
  have two : Unsigned 2.0 := unsigned_of_pos (by decide +kernel)
  have thousand : Unsigned 1000.0 := unsigned_of_pos (by decide +kernel)
  have meters : Unsigned (velocity * velocity / (2.0 * limits.maxAcceleration)) :=
    unsigned_mul_self.div (two.mul (unsigned_of_pos acceleration))
  have braking := Millimeters.truncate_nonneg (meters.mul thousand).not_lt_zero
  rw [brakingDistance, Millimeters.toInt_saturatingAdd, Millimeters.ofMeters]
  omega

end Kinematics

end LinearAxis
