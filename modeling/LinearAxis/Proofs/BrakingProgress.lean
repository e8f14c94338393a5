import LinearAxis.Proofs.ComingToRest

/-!
# Braking makes progress

An axis that kept braking at one interval might never come to rest.  Two mechanisms keep it from
doing so: a braking step that would repeat the interval before it is made a microsecond longer, and
so is the interval itself where braking has no solution.  Between them they cover every advance that
ends with the axis braking (`LinearAxis.Sequencer.interval_ne_of_braking`).
-/

namespace LinearAxis

/-- A braking step repeats the interval before it only where that cannot be made longer. -/
theorem Kinematics.decelerating_ne {limits : Kinematics} {startVelocity : Float} {previous : Micros}
    {timing : StepTiming} (solved : limits.decelerating? startVelocity previous = some timing)
    (lengthens : previous ≠ .longest) : timing.interval ≠ previous := by
  dsimp only [decelerating?] at solved
  split at solved
  · cases solved
  · split at solved
    · next tie =>
      cases Option.some.inj solved
      rw [tie]
      exact Micros.lengthen_eq_self_iff.not.mpr lengthens
    · next differs =>
      cases Option.some.inj solved
      exact differs

namespace Sequencer

variable {capacity : Nat} {sequencer : Sequencer capacity}

theorem braking_ne (moving : sequencer.interval ≠ .zero)
    (lengthens : sequencer.interval ≠ .longest) :
    sequencer.braking.interval ≠ sequencer.interval := by
  rw [braking]
  cases solution : sequencer.limits.decelerating? sequencer.velocity sequencer.interval with
  | none => exact moving.symm
  | some timing => exact Kinematics.decelerating_ne solution lengthens

@[simp] theorem stretched_onward : sequencer.onward.stretched = sequencer.stretched := by
  rw [stretched, stretched, interval_onward, limits_onward]

variable (sequencer) in
/-- The timing of a step that brakes: the solution of the braking step, or else the interval of the
step before and a microsecond. -/
def brakingOrStretched : StepTiming :=
  if sequencer.braking.interval = .zero then sequencer.stretched else sequencer.braking

theorem brakingOrStretched_ne_zero : sequencer.brakingOrStretched.interval ≠ .zero := by
  rw [brakingOrStretched]
  split
  · exact Micros.lengthen_ne_zero sequencer.interval
  · next solved => exact solved

theorem brakingOrStretched_ne (moving : sequencer.interval ≠ .zero)
    (lengthens : sequencer.interval ≠ .longest) :
    sequencer.brakingOrStretched.interval ≠ sequencer.interval := by
  rw [brakingOrStretched]
  split
  · exact Micros.lengthen_eq_self_iff.not.mpr lengthens
  · exact braking_ne moving lengthens

/-- A planning step that leaves the axis braking has a braking step for a timing, and stretches the
interval where braking has no solution. -/
theorem planStep_of_braked {arrived : Bool} {target : Millimeters}
    (cruise : sequencer.limits.cruiseInterval ≠ .zero)
    (brakes : (sequencer.planStep arrived target).phase = .decelerate)
    (timed : (sequencer.planStep arrived target).interval ≠ .zero) :
    sequencer.interval ≠ .zero ∧
      (⟨(sequencer.planStep arrived target).interval,
        (sequencer.planStep arrived target).velocity⟩ : StepTiming) =
        sequencer.brakingOrStretched := by
  cases planned : sequencer.plannedPhase target with
  | stop =>
    rw [planStep_of_stop planned] at brakes
    cases brakes
  | accelerate =>
    rw [planStep_of_accelerate cruise planned] at brakes
    cases brakes
  | move =>
    rw [planStep_of_move cruise planned] at brakes
    cases brakes
  | decelerate =>
    refine ⟨moving_of_plannedPhase planned, ?_⟩
    rw [brakingOrStretched]
    split
    · next unsolved =>
      by_cases there : arrived = true ∨
          sequencer.direction.continues sequencer.position target = false
      · rw [planStep_of_unsolved planned unsolved there] at timed
        exact absurd rfl timed
      · simp only [not_or, Bool.not_eq_true, Bool.not_eq_false] at there
        obtain ⟨rfl, ahead⟩ := there
        rw [planStep_of_unsolved_ahead planned unsolved ahead]
        rfl
    · next solved =>
      rw [planStep_of_braking planned solved]
      rfl

@[simp] theorem brakingOrStretched_onward :
    sequencer.onward.brakingOrStretched = sequencer.brakingOrStretched := by
  rw [brakingOrStretched, brakingOrStretched, braking_onward, stretched_onward]

theorem pass_of_braked (cruise : sequencer.limits.cruiseInterval ≠ .zero)
    (settled : sequencer.pass.isSettled = true)
    (brakes : sequencer.pass.sequencer.phase = .decelerate) :
    sequencer.interval ≠ .zero ∧
      (⟨sequencer.pass.sequencer.interval, sequencer.pass.sequencer.velocity⟩ : StepTiming) =
        sequencer.brakingOrStretched := by
  cases pursued : sequencer.onward.target? with
  | none =>
    rw [pass_eq, pursued] at brakes
    dsimp only at brakes
    split at brakes
    · next stop =>
      rw [stop] at brakes
      cases brakes
    · cases brakes
  | some target =>
    have timed := (isSettled_pass_iff pursued).mp settled
    rw [pass_of_target pursued] at timed brakes ⊢
    rw [← interval_onward, ← brakingOrStretched_onward]
    exact planStep_of_braked (cruise_onward cruise) brakes timed

/-- **Braking makes progress.** An advance that ends with the axis braking has a step scheduled, at
another interval than the one before unless that was the longest there is.  It is the braking step
where braking has a solution that takes time, and otherwise the step before it stretched. -/
theorem interval_ne_of_braking (cruise : sequencer.limits.cruiseInterval ≠ .zero)
    (brakes : sequencer.advance.1.phase = .decelerate) :
    let later := sequencer.advance.1
    later.interval ≠ .zero ∧
    (later.interval ≠ sequencer.interval ∨ sequencer.interval = .longest) ∧
    (¬ sequencer.CannotBrake → ⟨later.interval, later.velocity⟩ = sequencer.braking) ∧
    (sequencer.CannotBrake → ⟨later.interval, later.velocity⟩ = sequencer.stretched) := by
  intro later
  cases settled : sequencer.pass.isSettled with
  | false =>
    -- The passes after this one start at rest, and no axis starts to brake there.
    have resting := interval_pass_of_unsettled settled
    have settles := settles_advance (cruise_pass cruise)
    rw [advance_of_unsettled cruise settled] at brakes
    exact absurd brakes (settles.phase_ne_decelerate (cruise_pass cruise) resting)
  | true =>
    have same : later = sequencer.pass.sequencer := by
      rw [show later = sequencer.advance.1 from rfl, advance_of_settled cruise settled]
    rw [advance_of_settled cruise settled] at brakes
    obtain ⟨moving, timing⟩ := pass_of_braked cruise settled brakes
    rw [← same] at timing
    have interval : later.interval = sequencer.brakingOrStretched.interval :=
      congrArg StepTiming.interval timing
    rw [timing, interval, cannotBrake_iff]
    refine ⟨brakingOrStretched_ne_zero, ?_, fun solved => if_neg solved,
      fun unsolved => if_pos unsolved⟩
    by_cases lengthens : sequencer.interval = .longest
    · exact .inr lengthens
    · exact .inl (brakingOrStretched_ne moving lengthens)

/-- A slow axis that finds itself near its target while it speeds up brakes with a step that would
repeat the interval before it, and has it made longer. -/
theorem interval_ne_of_braking_at_tie :
    let reached := (initial .slow : Sequencer 8).run
      [.enqueue ⟨0, .clamp 6, true⟩, .advance, .advance, .setPosition (.clamp 3)]
    let later := reached.advance.1
    (reached.limits.cruiseInterval ≠ .zero ∧ later.phase = .decelerate) ∧
    (reached.interval = ⟨585787⟩ ∧ later.interval = ⟨585788⟩) ∧
    later.interval ≠ .zero ∧
    (later.interval ≠ reached.interval ∨ reached.interval = .longest) ∧
    (¬ reached.CannotBrake → ⟨later.interval, later.velocity⟩ = reached.braking) ∧
    (reached.CannotBrake → ⟨later.interval, later.velocity⟩ = reached.stretched) := by
  intro reached later
  have cruise : reached.limits.cruiseInterval ≠ .zero := by decide +kernel
  have brakes : later.phase = .decelerate := by decide +kernel
  exact ⟨⟨cruise, brakes⟩, by decide +kernel, interval_ne_of_braking cruise brakes⟩

end Sequencer

end LinearAxis
