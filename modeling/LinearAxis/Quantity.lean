/-!
# Distances and intervals

Positions and distances are whole millimeters in the signed 32-bit range, step intervals are whole
microseconds in the unsigned 32-bit range.  Arithmetic on both saturates at the ends of the range.
Kinematics run in floating-point meters and seconds; the conversions between the two live here.
-/

namespace LinearAxis

/-- A position or a distance in whole millimeters, in the signed 32-bit range. -/
@[ext] structure Millimeters where
  toInt : Int
  least_le : -2147483648 ≤ toInt
  le_greatest : toInt ≤ 2147483647
deriving DecidableEq

namespace Millimeters

/-- The value in range that is nearest to an integer. -/
def clamp (value : Int) : Millimeters where
  toInt := max (-2147483648) (min value 2147483647)
  least_le := by omega
  le_greatest := by omega

theorem toInt_clamp (value : Int) :
    (clamp value).toInt = max (-2147483648) (min value 2147483647) :=
  rfl

theorem toInt_clamp_of_inRange {value : Int} (least_le : -2147483648 ≤ value)
    (le_greatest : value ≤ 2147483647) : (clamp value).toInt = value := by
  rw [toInt_clamp]
  omega

/-- A value in range is its own nearest value. -/
@[simp] theorem clamp_toInt (distance : Millimeters) : clamp distance.toInt = distance :=
  Millimeters.ext (toInt_clamp_of_inRange distance.least_le distance.le_greatest)

instance : OfNat Millimeters 0 := ⟨clamp 0⟩

instance : Inhabited Millimeters := ⟨0⟩

@[simp] theorem toInt_zero : (0 : Millimeters).toInt = 0 := rfl

instance : LT Millimeters := ⟨fun left right => left.toInt < right.toInt⟩

instance : LE Millimeters := ⟨fun left right => left.toInt ≤ right.toInt⟩

theorem lt_iff {left right : Millimeters} : left < right ↔ left.toInt < right.toInt := Iff.rfl

theorem le_iff {left right : Millimeters} : left ≤ right ↔ left.toInt ≤ right.toInt := Iff.rfl

instance (left right : Millimeters) : Decidable (left < right) :=
  inferInstanceAs (Decidable (left.toInt < right.toInt))

instance (left right : Millimeters) : Decidable (left ≤ right) :=
  inferInstanceAs (Decidable (left.toInt ≤ right.toInt))

/-- The sum, clamped to the range. -/
def saturatingAdd (left right : Millimeters) : Millimeters :=
  clamp (left.toInt + right.toInt)

/-- The difference, clamped to the range. -/
def saturatingSub (left right : Millimeters) : Millimeters :=
  clamp (left.toInt - right.toInt)

theorem toInt_saturatingAdd (left right : Millimeters) :
    (left.saturatingAdd right).toInt =
      max (-2147483648) (min (left.toInt + right.toInt) 2147483647) :=
  rfl

theorem toInt_saturatingSub (left right : Millimeters) :
    (left.saturatingSub right).toInt =
      max (-2147483648) (min (left.toInt - right.toInt) 2147483647) :=
  rfl

/-- The distance with its sign turned; the least value, which has no opposite in range, is kept. -/
def opposite (distance : Millimeters) : Millimeters where
  toInt := if distance.toInt = -2147483648 then -2147483648 else -distance.toInt
  least_le := by have := distance.le_greatest; split <;> omega
  le_greatest := by have := distance.least_le; split <;> omega

theorem toInt_opposite_of_pos {distance : Millimeters} (positive : 0 < distance.toInt) :
    distance.opposite.toInt = -distance.toInt := by
  simp only [opposite]
  omega

/-- The distance in meters. -/
def inMeters (distance : Millimeters) : Float :=
  Float.ofInt distance.toInt / 1000.0

/-- A floating-point number of millimeters cut to a whole one, saturating; not-a-number gives
zero. -/
def truncate (value : Float) : Millimeters :=
  if value < 0.0 then clamp (-(-value).toUInt32.toNat) else clamp value.toUInt32.toNat

/-- A distance in meters, truncated toward zero to whole millimeters. -/
def ofMeters (meters : Float) : Millimeters :=
  truncate (meters * 1000.0)

end Millimeters

/-- A step interval in whole microseconds.  Zero means that no step is scheduled. -/
@[ext] structure Micros where
  count : UInt32
deriving DecidableEq

namespace Micros

/-- The interval of an axis at rest. -/
def zero : Micros := ⟨0⟩

instance : Inhabited Micros := ⟨zero⟩

/-- The longest interval. -/
def longest : Micros := ⟨4294967295⟩

/-- Whether the interval stands for rest. -/
def isZero (interval : Micros) : Bool :=
  interval.count == 0

@[simp] theorem isZero_iff {interval : Micros} : interval.isZero = true ↔ interval = zero := by
  simp [isZero, zero, Micros.ext_iff]

/-- The interval in seconds. -/
def inSeconds (interval : Micros) : Float :=
  interval.count.toFloat / 1000000.0

/-- Seconds to microseconds, a half rounding up.  Negative values and not-a-number give zero. -/
def ofSeconds (seconds : Float) : Micros :=
  ⟨(seconds * 1000000.0 + 0.5).toUInt32⟩

/-- The least whole number of microseconds that is not below a floating-point count, saturating. -/
def roundUp (microseconds : Float) : Micros :=
  let whole := microseconds.toUInt32
  if whole.toFloat < microseconds && whole != 4294967295 then ⟨whole + 1⟩ else ⟨whole⟩

/-- Seconds to microseconds, rounding up.  A millionth of a microsecond is taken off first, so
that a whole number of microseconds is kept in spite of rounding noise. -/
def ofSecondsUp (seconds : Float) : Micros :=
  roundUp (seconds * 1000000.0 - 1e-6)

/-- The interval one microsecond longer; the longest interval is kept. -/
def lengthen (interval : Micros) : Micros :=
  if interval = longest then interval else ⟨interval.count + 1⟩

/-- Only the longest interval cannot be made longer. -/
theorem lengthen_eq_self_iff {interval : Micros} :
    interval.lengthen = interval ↔ interval = longest := by
  unfold lengthen
  split
  · next same => simp [same]
  · next differs =>
    refine ⟨fun same => ?_, fun same => absurd same differs⟩
    have := congrArg Micros.count same
    simp at this

/-- A longer interval is never the interval of rest. -/
theorem lengthen_ne_zero (interval : Micros) : interval.lengthen ≠ zero := by
  unfold lengthen
  split
  · next same => rw [same]; decide
  · next differs =>
    intro rest
    apply differs
    have counts := congrArg Micros.count rest
    simp only [zero] at counts
    apply Micros.ext
    simp only [longest]
    have values := congrArg UInt32.toNat counts
    rw [UInt32.toNat_add] at values
    have := interval.count.toNat_lt
    apply UInt32.toNat_inj.mp
    simp only [UInt32.reduceToNat] at values ⊢
    omega

/-- The longer of two intervals. -/
def longer (left right : Micros) : Micros :=
  if left.count ≤ right.count then right else left

end Micros

end LinearAxis
