import LinearAxis.Quantity

/-!
# Direction of travel

Forward travel leads to greater positions, backward travel to lesser ones.
-/

namespace LinearAxis

/-- A direction of travel along the axis. -/
inductive Direction where
  | forward
  | backward
deriving DecidableEq, Repr

namespace Direction

instance : Inhabited Direction := ⟨forward⟩

/-- The direction from one position to another; a move of length zero counts as backward. -/
def towards (position target : Millimeters) : Direction :=
  if position < target then forward else backward

/-- The opposite direction. -/
def reverse : Direction → Direction
  | forward => backward
  | backward => forward

/-- Plus one forward, minus one backward. -/
def sign : Direction → Int
  | forward => 1
  | backward => -1

/-- Whether the direction is forward. -/
def isForward : Direction → Bool
  | forward => true
  | backward => false

/-- Whether a target lies ahead of a position in the direction. -/
def continues (direction : Direction) (position target : Millimeters) : Bool :=
  match direction with
  | forward => position < target
  | backward => target < position

/-- The position after a distance travelled in the direction, clamped to the range. -/
def move (direction : Direction) (position distance : Millimeters) : Millimeters :=
  match direction with
  | forward => position.saturatingAdd distance
  | backward => position.saturatingAdd distance.opposite

/-- A positive distance is added along the direction, clamped to the range. -/
theorem toInt_move {direction : Direction} {position distance : Millimeters}
    (positive : 0 < distance.toInt) :
    (direction.move position distance).toInt =
      max (-2147483648) (min (position.toInt + direction.sign * distance.toInt) 2147483647) := by
  cases direction <;>
    simp only [move, sign, Millimeters.toInt_saturatingAdd,
      Millimeters.toInt_opposite_of_pos positive] <;> omega

/-- A step that does not lead past a position in range is not clamped. -/
theorem toInt_move_of_le {direction : Direction} {position distance bound : Millimeters}
    (positive : 0 < distance.toInt)
    (within : distance.toInt ≤ direction.sign * (bound.toInt - position.toInt)) :
    (direction.move position distance).toInt =
      position.toInt + direction.sign * distance.toInt := by
  rw [toInt_move positive]
  have := position.least_le
  have := position.le_greatest
  have := bound.least_le
  have := bound.le_greatest
  cases direction <;> simp only [sign] at * <;> omega

/-- A target ahead of a position lies as far along the direction as the signed distance says. -/
theorem continues_iff {direction : Direction} {position target : Millimeters} :
    direction.continues position target = true ↔
      0 < direction.sign * (target.toInt - position.toInt) := by
  cases direction <;> simp only [continues, sign, Millimeters.lt_iff, decide_eq_true_eq] <;> omega

/-- Unless the target has been reached, it lies ahead in the direction towards it. -/
theorem towards_continues {position target : Millimeters} (apart : position ≠ target) :
    (towards position target).continues position target = true := by
  have apart : position.toInt ≠ target.toInt := fun equal => apart (Millimeters.ext equal)
  rw [continues_iff, towards]
  split
  · next ahead => rw [Millimeters.lt_iff] at ahead; simp only [sign]; omega
  · next ahead => rw [Millimeters.lt_iff] at ahead; simp only [sign]; omega

/-- The direction from a position to whatever lies ahead of it is the direction of travel. -/
theorem towards_eq {direction : Direction} {position target : Millimeters}
    (ahead : direction.continues position target = true) :
    towards position target = direction := by
  rw [continues_iff] at ahead
  rw [towards]
  cases direction with
  | forward =>
    simp only [sign] at ahead
    rw [if_pos (Millimeters.lt_iff.mpr (by omega))]
  | backward =>
    simp only [sign] at ahead
    rw [if_neg (fun less => by have := Millimeters.lt_iff.mp less; omega)]

/-- What lies ahead of something ahead lies ahead. -/
theorem continues_trans {direction : Direction} {first second third : Millimeters}
    (ahead : direction.continues first second = true)
    (beyond : direction.continues second third = true) :
    direction.continues first third = true := by
  rw [continues_iff] at *
  cases direction <;> simp only [sign] at * <;> omega

/-- Whatever lies ahead lies elsewhere. -/
theorem ne_of_continues {direction : Direction} {position target : Millimeters}
    (ahead : direction.continues position target = true) : position ≠ target := by
  rintro rfl
  rw [continues_iff] at ahead
  simp at ahead

end Direction

end LinearAxis
