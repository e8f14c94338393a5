import LinearAxis.Proofs.LookAhead

/-!
# The velocity limit

An axis that speeds up or cruises keeps to its velocity limit: a step that would lead past the limit
is replaced by the cruise step, and no cruising step is shorter than that one.  Braking steps aside,
this holds of every velocity that an axis may have come to, not-a-number and the infinities included
(`LinearAxis.Sequencer.permits_of_isPowered`).
-/

namespace LinearAxis

namespace Micros

theorem le_longer (left right : Micros) : right.count ≤ (left.longer right).count := by
  rw [longer]
  split
  · exact UInt32.le_refl _
  · next further => exact UInt32.le_of_lt (UInt32.not_le.mp further)

end Micros

namespace Kinematics

/-- A step takes time, and either it ends at no more than the velocity limit, or it is no shorter
than the cruise step and its velocity is the average over just that step. -/
def Permits (limits : Kinematics) (timing : StepTiming) : Prop :=
  timing.interval ≠ .zero ∧
    (¬ timing.velocity > limits.maxVelocity ∨
      limits.cruiseInterval.count ≤ timing.interval.count ∧
        timing.velocity = limits.speedForInterval timing.interval)

variable {limits : Kinematics}

theorem permits_cruise (cruise : limits.cruiseInterval ≠ .zero) : limits.Permits limits.cruise :=
  ⟨cruise, .inr ⟨UInt32.le_refl _, rfl⟩⟩

/-- A step that speeds up is the cruise step wherever it would end above the limit; a velocity that
is not a number is above nothing. -/
theorem permits_accelerating (cruise : limits.cruiseInterval ≠ .zero) (startVelocity : Float) :
    limits.Permits (limits.accelerating startVelocity) := by
  dsimp only [accelerating]
  split
  · exact permits_cruise cruise
  · next solved =>
    simp only [Bool.or_eq_true, Micros.isZero_iff, decide_eq_true_eq, not_or] at solved
    exact ⟨solved.1, .inl solved.2⟩

theorem permits_linear (cruise : limits.cruiseInterval ≠ .zero) (startVelocity : Float) :
    limits.Permits (limits.linear startVelocity) := by
  refine ⟨linear_ne_zero cruise startVelocity, ?_⟩
  rw [linear]
  split
  · exact (permits_accelerating cruise 0.0).2
  · exact .inr ⟨Micros.le_longer _ _, rfl⟩

/-- The limits of a brisk axis: it is as slow as `LinearAxis.Kinematics.slow`, but reaches its
velocity limit within a single step. -/
def brisk : Kinematics := ofLimits (.clamp 1) 1.0 0.01

end Kinematics

namespace Sequencer

variable {capacity : Nat} {sequencer : Sequencer capacity}

/-- The timing of a step that was scheduled to speed up or to cruise is the one that its phase asks
for: neither stretching nor stopping ever replaces it. -/
theorem timing_pass_of_isPowered (cruise : sequencer.limits.cruiseInterval ≠ .zero)
    (powered : sequencer.pass.sequencer.IsPowered) :
    let timing : StepTiming :=
      ⟨sequencer.pass.sequencer.interval, sequencer.pass.sequencer.velocity⟩
    timing = sequencer.limits.accelerating sequencer.velocity ∨
      timing = sequencer.limits.linear sequencer.velocity := by
  obtain ⟨target, timing, pursued, same⟩ := exists_planned_of_isPowered cruise powered
  have timed := cruise_onward cruise
  rw [same] at powered
  rw [pass_of_target pursued]
  rcases powered with planned | planned
  · left
    rw [planStep_of_accelerate timed planned, limits_onward, velocity_onward]
    rfl
  · right
    rw [planStep_of_move timed planned, limits_onward, velocity_onward]
    rfl

theorem permits_pass (cruise : sequencer.limits.cruiseInterval ≠ .zero)
    (powered : sequencer.pass.sequencer.IsPowered) :
    sequencer.limits.Permits
      ⟨sequencer.pass.sequencer.interval, sequencer.pass.sequencer.velocity⟩ := by
  rcases timing_pass_of_isPowered cruise powered with timing | timing
  · rw [timing]
    exact Kinematics.permits_accelerating cruise _
  · rw [timing]
    exact Kinematics.permits_linear cruise _

/-- **The velocity limit.** An advance that leaves the axis speeding up or cruising has scheduled a
step that takes time.  Its velocity does not exceed the limit, or it is no shorter than the cruise
step and its velocity is the average over just that step. -/
theorem permits_of_isPowered (cruise : sequencer.limits.cruiseInterval ≠ .zero)
    (powered : sequencer.advance.1.IsPowered) :
    sequencer.limits.Permits ⟨sequencer.advance.1.interval, sequencer.advance.1.velocity⟩ := by
  obtain ⟨passing, reaches, -, same⟩ := (settles_advance cruise).exists_passing
  have limits := reaches.limits_eq cruise
  rw [← same] at powered ⊢
  rw [← limits] at cruise ⊢
  exact permits_pass cruise powered

/-- A brisk axis that sets out would be too fast after its first step, and cruises from there on. -/
theorem permits_of_isPowered_from_rest :
    let start := (initial .brisk : Sequencer 8).run [.enqueue ⟨0, .clamp 9, true⟩]
    (start.limits.cruiseInterval ≠ .zero ∧ start.advance.1.IsPowered) ∧
      start.advance.1.interval = start.limits.cruiseInterval ∧
      start.limits.Permits ⟨start.advance.1.interval, start.advance.1.velocity⟩ := by
  intro start
  have cruise : start.limits.cruiseInterval ≠ .zero := by decide +kernel
  have powered : start.advance.1.IsPowered := by decide +kernel
  exact ⟨⟨cruise, powered⟩, by decide +kernel, permits_of_isPowered cruise powered⟩

end Sequencer

end LinearAxis
