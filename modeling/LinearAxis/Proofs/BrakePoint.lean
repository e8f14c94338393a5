import LinearAxis.Proofs.Timing

/-!
# The way to the brake point

Positions saturate at the ends of their range, and so do brake points.  Planning is not misled by
that: with a margin that is not negative, the phase depends only on the exact distance that is left
to the target and on the margin (`LinearAxis.Kinematics.nextPhase_eq`), wherever on the axis the two
lie.  It follows that a target further away never makes the axis slower, and neither does the
look-ahead (`LinearAxis.Kinematics.nextPhase_of_way`).
-/

namespace LinearAxis

/-- How far ahead of a position a target lies in a direction; behind it the way is negative. -/
def Direction.way (direction : Direction) (position target : Millimeters) : Int :=
  direction.sign * (target.toInt - position.toInt)

/-- Further along the direction the way is longer. -/
theorem Direction.way_lt_of_continues {direction : Direction}
    {position target farther : Millimeters} (beyond : direction.continues target farther = true) :
    direction.way position target < direction.way position farther := by
  rw [continues_iff] at beyond
  cases direction <;> simp only [way, sign] at * <;> omega

/-- The phases in the order of their speed. -/
def Phase.pace : Phase → Nat
  | .stop => 0
  | .decelerate => 1
  | .move => 2
  | .accelerate => 3

namespace Kinematics

variable {limits : Kinematics} {snapshot : Snapshot} {target : Millimeters}

theorem brakeMargin_nonneg (travel : 0 < limits.distancePerStep.toInt) {velocity : Float}
    (braking : 0 ≤ (limits.brakingDistance velocity).toInt) :
    0 ≤ (limits.brakeMargin velocity).toInt := by
  rw [brakeMargin, Millimeters.toInt_saturatingAdd]
  omega

/-- The margin is a step and the braking distance, cut to the greatest distance. -/
theorem toInt_brakeMargin (travel : 0 < limits.distancePerStep.toInt) {velocity : Float}
    (braking : 0 ≤ (limits.brakingDistance velocity).toInt) :
    (limits.brakeMargin velocity).toInt =
      min (limits.distancePerStep.toInt + (limits.brakingDistance velocity).toInt) 2147483647 := by
  rw [brakeMargin, Millimeters.toInt_saturatingAdd]
  omega

/-- The axis is before the brake point exactly where more than the margin is left to the target. -/
theorem continues_brakePoint_iff (margin : 0 ≤ (limits.brakeMargin snapshot.velocity).toInt) :
    snapshot.direction.continues snapshot.position (limits.brakePoint snapshot target) = true ↔
      (limits.brakeMargin snapshot.velocity).toInt <
        snapshot.direction.way snapshot.position target := by
  have := snapshot.position.least_le
  have := snapshot.position.le_greatest
  have := target.least_le
  have := target.le_greatest
  rw [brakePoint]
  cases snapshot.direction <;>
    simp only [Direction.continues, Direction.way, Direction.sign, Millimeters.lt_iff,
      Millimeters.toInt_saturatingAdd, Millimeters.toInt_saturatingSub, decide_eq_true_eq] <;>
    omega

variable (limits snapshot target) in
/-- The position a step before the brake point. -/
def lastStep : Millimeters :=
  match snapshot.direction with
  | .forward => (limits.brakePoint snapshot target).saturatingSub limits.distancePerStep
  | .backward => (limits.brakePoint snapshot target).saturatingAdd limits.distancePerStep

/-- A saturated position a step before the brake point is beyond reach, as the exact one is. -/
theorem continues_lastStep_iff (travel : 0 < limits.distancePerStep.toInt)
    (margin : 0 ≤ (limits.brakeMargin snapshot.velocity).toInt) :
    snapshot.direction.continues snapshot.position (limits.lastStep snapshot target) = true ↔
      (limits.brakeMargin snapshot.velocity).toInt + limits.distancePerStep.toInt <
        snapshot.direction.way snapshot.position target := by
  have := snapshot.position.least_le
  have := snapshot.position.le_greatest
  have := target.least_le
  have := target.le_greatest
  rw [lastStep, brakePoint]
  cases snapshot.direction <;>
    simp only [Direction.continues, Direction.way, Direction.sign, Millimeters.lt_iff,
      Millimeters.toInt_saturatingAdd, Millimeters.toInt_saturatingSub, decide_eq_true_eq] <;>
    omega

/-- The phase follows from the way that is left to the target: the axis speeds up while more than a
step is left to the brake point, and cruises while any way is left to it. -/
theorem nextPhase_eq (travel : 0 < limits.distancePerStep.toInt)
    (margin : 0 ≤ (limits.brakeMargin snapshot.velocity).toInt) :
    limits.nextPhase snapshot target =
      let way := snapshot.direction.way snapshot.position target
      if (limits.brakeMargin snapshot.velocity).toInt + limits.distancePerStep.toInt < way then
        .accelerate
      else if (limits.brakeMargin snapshot.velocity).toInt < way then .move
      else if snapshot.moving then .decelerate
      else .stop := by
  have unfolded : limits.nextPhase snapshot target =
      if snapshot.direction.continues snapshot.position (limits.brakePoint snapshot target) then
        if snapshot.direction.continues snapshot.position (limits.lastStep snapshot target) then
          .accelerate
        else .move
      else if snapshot.moving then .decelerate
      else .stop := rfl
  rw [unfolded]
  simp only [continues_brakePoint_iff margin, continues_lastStep_iff travel margin]
  by_cases near : (limits.brakeMargin snapshot.velocity).toInt <
      snapshot.direction.way snapshot.position target
  · rw [if_pos near, if_pos near]
  · have far : ¬ (limits.brakeMargin snapshot.velocity).toInt + limits.distancePerStep.toInt <
        snapshot.direction.way snapshot.position target := by omega
    rw [if_neg near, if_neg far, if_neg near]

/-- The phase depends on nothing but the way, the velocity and whether the axis moves. -/
theorem nextPhase_congr {other : Snapshot} {goal : Millimeters}
    (travel : 0 < limits.distancePerStep.toInt)
    (margin : 0 ≤ (limits.brakeMargin snapshot.velocity).toInt)
    (velocity : other.velocity = snapshot.velocity) (moving : other.moving = snapshot.moving)
    (way : other.direction.way other.position goal =
      snapshot.direction.way snapshot.position target) :
    limits.nextPhase other goal = limits.nextPhase snapshot target := by
  rw [nextPhase_eq travel margin, nextPhase_eq travel (by rw [velocity]; exact margin), velocity,
    moving, way]

/-- Whatever the axis speeds up or cruises for lies ahead of it. -/
theorem continues_of_nextPhase (margin : 0 ≤ (limits.brakeMargin snapshot.velocity).toInt)
    (powered : limits.nextPhase snapshot target = .accelerate ∨
      limits.nextPhase snapshot target = .move) :
    snapshot.direction.continues snapshot.position target = true := by
  by_cases before : snapshot.direction.continues snapshot.position
    (limits.brakePoint snapshot target)
  · have near := (continues_brakePoint_iff margin).mp before
    exact Direction.continues_iff.mpr (Int.lt_of_le_of_lt margin near)
  · rw [nextPhase_of_not_before before] at powered
    split at powered <;> rcases powered with phase | phase <;> cases phase

/-! ## Targets further away -/

/-- The longer the way, the faster the phase. -/
theorem pace_nextPhase_le {farther : Millimeters} (travel : 0 < limits.distancePerStep.toInt)
    (margin : 0 ≤ (limits.brakeMargin snapshot.velocity).toInt)
    (way : snapshot.direction.way snapshot.position target ≤
      snapshot.direction.way snapshot.position farther) :
    (limits.nextPhase snapshot target).pace ≤ (limits.nextPhase snapshot farther).pace := by
  rw [nextPhase_eq travel margin, nextPhase_eq travel margin]
  dsimp only
  by_cases far : (limits.brakeMargin snapshot.velocity).toInt + limits.distancePerStep.toInt <
      snapshot.direction.way snapshot.position target
  · have further := Int.lt_of_lt_of_le far way
    exact Nat.le_of_eq (by rw [if_pos far, if_pos further])
  by_cases near : (limits.brakeMargin snapshot.velocity).toInt <
      snapshot.direction.way snapshot.position target
  · rw [if_neg far, if_pos near, if_pos (Int.lt_of_lt_of_le near way)]
    split <;> decide
  · rw [if_neg far, if_neg near]
    have slow : (if snapshot.moving then Phase.decelerate else .stop).pace ≤ 1 := by
      split <;> decide
    generalize (if snapshot.moving then Phase.decelerate else .stop) = slowest at slow
    split
    · exact Nat.le_trans slow (by decide)
    · split
      · exact Nat.le_trans slow (by decide)
      · exact Nat.le_refl _

/-- Looking ahead never makes the axis slower. -/
theorem pace_nextPhase_le_plan (travel : 0 < limits.distancePerStep.toInt)
    (margin : 0 ≤ (limits.brakeMargin snapshot.velocity).toInt) (following : Option Millimeters) :
    (limits.nextPhase snapshot target).pace ≤ (limits.plan snapshot target following).pace := by
  rw [plan]
  cases following with
  | none => exact Nat.le_refl _
  | some next =>
    by_cases beyond : snapshot.direction.continues target next = true
    · rw [goal, if_pos beyond]
      exact pace_nextPhase_le travel margin (Int.le_of_lt (Direction.way_lt_of_continues beyond))
    · exact Nat.le_of_eq (by rw [goal, if_neg beyond])

/-- **Saturation does not mislead planning.** With a braking distance that is not negative, the
phase is the one that the exact way to the target asks for, whether or not the brake point is in
range: the axis speeds up while more than a step is left to the brake point, cruises while any way
is left to it, and from there on brakes, or stays at rest.  So a target further along the direction
of travel never makes the axis slower, and neither does the waypoint that the look-ahead chooses. -/
theorem nextPhase_of_way (travel : 0 < limits.distancePerStep.toInt)
    (braking : 0 ≤ (limits.brakingDistance snapshot.velocity).toInt) (target : Millimeters) :
    let margin := min
      (limits.distancePerStep.toInt + (limits.brakingDistance snapshot.velocity).toInt) 2147483647
    let way := snapshot.direction.sign * (target.toInt - snapshot.position.toInt)
    (limits.nextPhase snapshot target =
      if margin + limits.distancePerStep.toInt < way then .accelerate
      else if margin < way then .move
      else if snapshot.moving then .decelerate
      else .stop) ∧
    (∀ farther, snapshot.direction.continues target farther = true →
      (limits.nextPhase snapshot target).pace ≤ (limits.nextPhase snapshot farther).pace) ∧
    ∀ following,
      (limits.nextPhase snapshot target).pace ≤ (limits.plan snapshot target following).pace := by
  have room := brakeMargin_nonneg travel braking
  refine ⟨?_, fun farther beyond => ?_, pace_nextPhase_le_plan travel room⟩
  · rw [← toInt_brakeMargin travel braking]
    exact nextPhase_eq travel room
  · exact pace_nextPhase_le travel room (Int.le_of_lt (Direction.way_lt_of_continues beyond))

/-- A slow axis at the least position, where the exact brake point is out of range, brakes for a
target that is near and speeds up for one behind it. -/
theorem nextPhase_of_way_at_end :
    let snapshot : Snapshot := ⟨.clamp (-2147483648), .forward, 0.01, true⟩
    let target := Millimeters.clamp (-2147483600)
    (0 < slow.distancePerStep.toInt ∧ 0 ≤ (slow.brakingDistance snapshot.velocity).toInt ∧
      target.toInt - (slow.brakeMargin snapshot.velocity).toInt < -2147483648) ∧
    slow.nextPhase snapshot target = .decelerate ∧
    slow.plan snapshot target (some 0) = .accelerate ∧
    ∀ following,
      (slow.nextPhase snapshot target).pace ≤ (slow.plan snapshot target following).pace := by
  intro snapshot target
  have travel : 0 < slow.distancePerStep.toInt := by decide
  have braking : 0 ≤ (slow.brakingDistance snapshot.velocity).toInt := by decide +kernel
  obtain ⟨phase, -, ahead⟩ := @nextPhase_of_way slow snapshot travel braking target
  refine ⟨⟨travel, braking, by decide +kernel⟩, ?_, by decide +kernel, ahead⟩
  rw [phase]
  decide +kernel

end Kinematics

end LinearAxis
