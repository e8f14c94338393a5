import LinearAxis.Plan

/-!
# Timings and phases

What the kinematics promise of every velocity, not-a-number and the infinities included: a step that
accelerates or cruises takes time as long as the cruise interval does, a braking step that takes no
time ends at rest, and planning stops an axis at rest only and brakes a moving axis only.
-/

namespace LinearAxis

theorem Micros.longer_ne_zero {left right : Micros} (timed : right ≠ zero) :
    left.longer right ≠ zero := by
  rw [longer]
  split
  · exact timed
  · next longer =>
    intro rest
    apply longer
    rw [rest]
    exact UInt32.zero_le

namespace Kinematics

/-- The limits of a slow axis: one millimeter per step, at most one millimeter per second squared
and ten millimeters per second. -/
def slow : Kinematics := ofLimits (.clamp 1) 0.001 0.01

variable {limits : Kinematics}

theorem accelerating_ne_zero (cruise : limits.cruiseInterval ≠ .zero) (startVelocity : Float) :
    (limits.accelerating startVelocity).interval ≠ .zero := by
  dsimp only [accelerating]
  split
  · exact cruise
  · next solved =>
    simp only [Bool.or_eq_true, Micros.isZero_iff, not_or] at solved
    exact solved.1

theorem linear_ne_zero (cruise : limits.cruiseInterval ≠ .zero) (startVelocity : Float) :
    (limits.linear startVelocity).interval ≠ .zero := by
  rw [linear]
  split
  · exact accelerating_ne_zero cruise 0.0
  · exact Micros.longer_ne_zero cruise

/-- Cruising from rest is accelerating from rest. -/
theorem linear_zero : limits.linear 0.0 = limits.accelerating 0.0 := by
  have still : (0.0 : Float) <= 0.0 := by decide +kernel
  rw [linear, if_pos still]

/-- A uniformly accelerated step that takes no time ends at rest. -/
theorem acceleratedSpeed_zero (startVelocity : Float) :
    limits.acceleratedSpeed Micros.zero.inSeconds startVelocity = 0.0 := by
  have none : (Micros.zero.inSeconds == 0.0) = true := by decide
  rw [acceleratedSpeed, if_pos none]

/-- A braking step that takes no time ends at rest. -/
theorem velocity_of_decelerating {startVelocity : Float} {previous : Micros} {timing : StepTiming}
    (solved : limits.decelerating? startVelocity previous = some timing)
    (rest : timing.interval = .zero) : timing.velocity = 0.0 := by
  dsimp only [decelerating?] at solved
  split at solved
  · exact absurd solved (by simp)
  · split at solved
    · cases Option.some.inj solved
      exact absurd rest (Micros.lengthen_ne_zero _)
    · cases Option.some.inj solved
      change Micros.ofSeconds _ = .zero at rest
      dsimp only
      rw [rest]
      exact acceleratedSpeed_zero startVelocity

/-- Before the brake point the axis speeds up or cruises. -/
theorem nextPhase_of_before {snapshot : Snapshot} {target : Millimeters}
    (before : snapshot.direction.continues snapshot.position (limits.brakePoint snapshot target)) :
    limits.nextPhase snapshot target = .accelerate ∨ limits.nextPhase snapshot target = .move := by
  rw [nextPhase, if_pos before]
  cases snapshot.direction <;> dsimp only <;> split <;> simp

/-- From the brake point on a moving axis brakes, and an axis at rest stays there. -/
theorem nextPhase_of_not_before {snapshot : Snapshot} {target : Millimeters}
    (beyond : ¬ snapshot.direction.continues snapshot.position
      (limits.brakePoint snapshot target)) :
    limits.nextPhase snapshot target = if snapshot.moving then .decelerate else .stop := by
  rw [nextPhase, if_neg beyond]

/-- A moving axis is never told to stop at once. -/
theorem plan_ne_stop {snapshot : Snapshot} (moving : snapshot.moving = true)
    (head : Millimeters) (following : Option Millimeters) :
    limits.plan snapshot head following ≠ .stop := by
  rw [plan]
  by_cases before : snapshot.direction.continues snapshot.position
    (limits.brakePoint snapshot (goal snapshot.direction head following))
  · rcases nextPhase_of_before before with phase | phase <;> rw [phase] <;> decide
  · rw [nextPhase_of_not_before before, moving]
    decide

theorem plan_ne_decelerate {snapshot : Snapshot} (resting : snapshot.moving = false)
    (head : Millimeters) (following : Option Millimeters) :
    limits.plan snapshot head following ≠ .decelerate := by
  rw [plan]
  by_cases before : snapshot.direction.continues snapshot.position
    (limits.brakePoint snapshot (goal snapshot.direction head following))
  · rcases nextPhase_of_before before with phase | phase <;> rw [phase] <;> decide
  · rw [nextPhase_of_not_before before, resting]
    decide

end Kinematics

end LinearAxis
