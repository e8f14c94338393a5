import LinearAxis.Proofs.Arrival

/-!
# How far an advance moves the axis

An advance may make many passes, take waypoints off the route, turn the axis and set it in motion
again.  All the same it counts the step in flight once, in the direction in which the axis was going
(`LinearAxis.Sequencer.moves_at_most_one_step`).  What a pass adds to the position is the travel of
a step times the sign of the direction.  This product is the only arithmetic on positions in an
advance that does not saturate, and it is always in range.
-/

namespace LinearAxis

/-- The distance of so many millimeters, unless it is out of range. -/
def Millimeters.ofInt? (value : Int) : Option Millimeters :=
  if outside : value < -2147483648 ∨ 2147483647 < value then none
  else some ⟨value, by omega, by omega⟩

theorem Millimeters.ofInt?_eq_some_iff {value : Int} {distance : Millimeters} :
    ofInt? value = some distance ↔ distance.toInt = value := by
  unfold ofInt?
  split
  · next outside =>
    refine iff_of_false (Option.some_ne_none distance).symm ?_
    rintro rfl
    have least := distance.least_le
    have greatest := distance.le_greatest
    omega
  · rw [Option.some.injEq, Millimeters.ext_iff]
    exact eq_comm

namespace Direction

variable {direction : Direction} {travel : Millimeters}

/-- The travel of a step with the sign of the direction, unless the product overflows. -/
def stride? (direction : Direction) (travel : Millimeters) : Option Millimeters :=
  Millimeters.ofInt? (direction.sign * travel.toInt)

/-- A step adds its travel, with the sign of the direction, to the position. -/
theorem exists_stride (positive : 0 < travel.toInt) :
    ∃ stride, direction.stride? travel = some stride ∧
      ∀ position, direction.move position travel = position.saturatingAdd stride := by
  cases direction with
  | forward =>
    refine ⟨travel, Millimeters.ofInt?_eq_some_iff.mpr ?_, fun position => rfl⟩
    rw [sign, Int.one_mul]
  | backward =>
    refine ⟨travel.opposite, Millimeters.ofInt?_eq_some_iff.mpr ?_, fun position => rfl⟩
    rw [sign, Int.neg_one_mul]
    exact Millimeters.toInt_opposite_of_pos positive

end Direction

namespace Sequencer

variable {capacity : Nat} {sequencer : Sequencer capacity}

/-- A pass moves the axis by the step in flight, and at rest not at all. -/
theorem exists_stride_pass (travel : 0 < sequencer.limits.distancePerStep.toInt) :
    ∃ stride, sequencer.direction.stride? sequencer.limits.distancePerStep = some stride ∧
      sequencer.pass.sequencer.position =
        if sequencer.interval = .zero then sequencer.position
        else sequencer.position.saturatingAdd stride := by
  obtain ⟨stride, exact, moves⟩ := Direction.exists_stride travel
  refine ⟨stride, exact, ?_⟩
  rw [position_pass]
  split
  · next resting => rw [completeStep_of_resting resting]
  · next moving =>
    rw [completeStep_of_moving moving]
    exact moves sequencer.position

/-- **At most one step.** An advance leaves an axis at rest where it is, and moves a moving axis by
one step in the direction in which it is going, clamped to the range, however many passes it makes:
only the first of them finds a step in flight.  In no pass does the signed travel overflow. -/
theorem moves_at_most_one_step (cruise : sequencer.limits.cruiseInterval ≠ .zero)
    (travel : 0 < sequencer.limits.distancePerStep.toInt) :
    let later := sequencer.advance.1
    (sequencer.interval = .zero → later.position = sequencer.position) ∧
    (sequencer.interval ≠ .zero → later.position.toInt = max (-2147483648)
      (min (sequencer.position.toInt +
        sequencer.direction.sign * sequencer.limits.distancePerStep.toInt) 2147483647)) ∧
    ∀ passing, Passing sequencer passing →
      (passing = sequencer ∨ passing.interval = .zero) ∧
      ∃ stride, passing.direction.stride? passing.limits.distancePerStep = some stride ∧
        passing.pass.sequencer.position =
          if passing.interval = .zero then passing.position
          else passing.position.saturatingAdd stride := by
  intro later
  refine ⟨?_, ?_, ?_⟩
  · intro resting
    exact position_advance.trans (by rw [completeStep_of_resting resting])
  · intro moving
    rw [show later.position = _ from position_advance, completeStep_of_moving moving]
    exact Direction.toInt_move travel
  · intro passing reaches
    have same := reaches.limits_eq cruise
    exact ⟨reaches.eq_or_resting cruise, exists_stride_pass (by rw [same]; exact travel)⟩

/-- A slow axis that is sent forward and back makes its last step forward in the advance that turns
it. -/
theorem moves_at_most_one_step_at_turn :
    let reached := (initial .slow : Sequencer 8).run
      [.enqueue ⟨0, .clamp 3, true⟩, .enqueue ⟨1, 0, true⟩, .advance, .advance, .advance]
    let later := reached.advance.1
    (reached.limits.cruiseInterval ≠ .zero ∧ 0 < reached.limits.distancePerStep.toInt ∧
      reached.interval ≠ .zero ∧ later.direction = .backward ∧ later.interval ≠ .zero) ∧
    reached.position.toInt = 2 ∧ later.position.toInt = 3 ∧
    ∀ passing, Passing reached passing → passing = reached ∨ passing.interval = .zero := by
  intro reached later
  have cruise : reached.limits.cruiseInterval ≠ .zero := by decide +kernel
  have travel : 0 < reached.limits.distancePerStep.toInt := by decide +kernel
  have turns : reached.interval ≠ .zero ∧ later.direction = .backward ∧ later.interval ≠ .zero := by
    decide +kernel
  have start : reached.direction = .forward ∧ reached.position.toInt = 2 := by decide +kernel
  obtain ⟨-, moved, passes⟩ := moves_at_most_one_step cruise travel
  refine ⟨⟨cruise, travel, turns⟩, start.2, ?_, fun passing reaches => (passes passing reaches).1⟩
  rw [moved turns.1, start.1, start.2]
  decide +kernel

end Sequencer

end LinearAxis
