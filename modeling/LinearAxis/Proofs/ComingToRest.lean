import LinearAxis.Proofs.Arrival
import LinearAxis.Proofs.Rest

/-!
# Coming to rest

A moving axis comes to rest in one way only: it is to brake, braking has no solution that takes
time, and it stands at a waypoint or has its target no longer ahead.  As long as it does not come to
rest it keeps its direction, and once it has, it sets out as from a standstill, even in the same
advance (`LinearAxis.Sequencer.comes_to_rest_iff`).
-/

namespace LinearAxis.Sequencer

variable {capacity : Nat} {sequencer : Sequencer capacity}

/-- Some pass of an advance leaves no step scheduled. -/
def ComesToRest (sequencer : Sequencer capacity) : Prop :=
  ∃ passing, Passing sequencer passing ∧ passing.pass.sequencer.interval = .zero

/-- Braking from the step in flight has no solution, or none that takes time. -/
def CannotBrake (sequencer : Sequencer capacity) : Prop :=
  ∀ timing, sequencer.limits.decelerating? sequencer.velocity sequencer.interval = some timing →
    timing.interval = .zero

theorem cannotBrake_iff : sequencer.CannotBrake ↔ sequencer.braking.interval = .zero := by
  rw [CannotBrake, braking]
  cases sequencer.limits.decelerating? sequencer.velocity sequencer.interval with
  | none => exact iff_of_true nofun rfl
  | some timing => simp only [Option.some.injEq, forall_eq', Option.getD_some]

/-- An axis that comes to rest does so in the first pass, for only such a pass is followed by
another. -/
theorem comesToRest_iff_pass :
    sequencer.ComesToRest ↔ sequencer.pass.sequencer.interval = .zero := by
  constructor
  · rintro ⟨passing, reaches, rests⟩
    cases reaches with
    | first => exact rests
    | again unsettled _ => exact interval_pass_of_unsettled unsettled
  · exact fun rests => ⟨sequencer, .first, rests⟩

/-! ## The first pass -/

section Moving

variable {target : Millimeters}

@[simp] theorem braking_onward : sequencer.onward.braking = sequencer.braking := by
  rw [braking, braking, limits_onward, velocity_onward, interval_onward]

/-- An axis that is to brake and cannot comes to rest at a waypoint or beyond the target. -/
theorem pass_of_cannotBrake (pursued : sequencer.onward.target? = some target)
    (brakes : sequencer.onward.plannedPhase target = .decelerate)
    (cannot : sequencer.CannotBrake)
    (there : sequencer.arrives = true ∨
      sequencer.direction.continues sequencer.completeStep.position target = false) :
    sequencer.pass =
      ⟨({ sequencer.onward with phase := .decelerate }).schedule .stopped, sequencer.arrival?,
        false⟩ := by
  have unsolved : sequencer.onward.braking.interval = .zero := by
    rw [braking_onward]
    exact cannotBrake_iff.mp cannot
  rw [← direction_onward, ← position_onward] at there
  rw [pass_of_target pursued, planStep_of_unsolved brakes unsolved there]
  rfl

/-- In every other case a moving axis goes on in its direction. -/
theorem pass_of_going_on (cruise : sequencer.limits.cruiseInterval ≠ .zero)
    (moving : sequencer.interval ≠ .zero) (pursued : sequencer.onward.target? = some target)
    (goesOn : ¬ (sequencer.onward.plannedPhase target = .decelerate ∧ sequencer.CannotBrake ∧
      (sequencer.arrives = true ∨
        sequencer.direction.continues sequencer.completeStep.position target = false))) :
    sequencer.pass.isSettled = true ∧ sequencer.pass.sequencer.interval ≠ .zero ∧
      sequencer.pass.sequencer.direction = sequencer.direction := by
  rw [cannotBrake_iff, ← braking_onward, ← direction_onward, ← position_onward] at goesOn
  rw [← interval_onward] at moving
  rw [← limits_onward] at cruise
  have going : sequencer.onward.plannedPhase target ≠ .stop :=
    fun stop => moving (resting_of_plannedPhase stop)
  obtain ⟨timing, timed, planned⟩ := planStep_of_going_on cruise going goesOn
  rw [face_of_moving moving] at planned
  rw [isSettled_pass_iff pursued, pass_of_target pursued, planned]
  exact ⟨timed, timed, direction_onward⟩

end Moving

/-! ## The passes after it -/

/-- A step that is scheduled at rest is the first one of an acceleration from a standstill. -/
theorem Settling.timing_pass (settling : sequencer.Settling)
    (cruise : sequencer.limits.cruiseInterval ≠ .zero) (resting : sequencer.interval = .zero)
    (timed : sequencer.pass.sequencer.interval ≠ .zero) :
    (⟨sequencer.pass.sequencer.interval, sequencer.pass.sequencer.velocity⟩ : StepTiming) =
      sequencer.limits.accelerating 0.0 := by
  have still : sequencer.onward.velocity = 0.0 := by
    rw [velocity_onward]
    exact settling.still_of_rest resting
  have resting : sequencer.onward.interval = .zero := by rw [interval_onward]; exact resting
  have cruise := cruise_onward cruise
  cases pursued : sequencer.onward.target? with
  | none =>
    rw [pass_eq, pursued] at timed
    dsimp only at timed
    split at timed
    · exact absurd resting timed
    · exact absurd rfl timed
  | some target =>
    rw [pass_of_target pursued] at timed ⊢
    dsimp only at timed ⊢
    cases planned : sequencer.onward.plannedPhase target with
    | stop =>
      rw [planStep_of_stop planned] at timed
      exact absurd rfl timed
    | decelerate => exact absurd resting (moving_of_plannedPhase planned)
    | accelerate =>
      rw [planStep_of_accelerate cruise planned, still, limits_onward]
      rfl
    | move =>
      rw [planStep_of_move cruise planned, still, limits_onward, Kinematics.linear_zero]
      rfl

/-- An axis at rest that is moving after a series of passes has set out from a standstill. -/
theorem Settles.timing_eq {final : Sequencer capacity} {announcements : List Announcement}
    (settles : Settles sequencer final announcements) (settling : sequencer.Settling)
    (cruise : sequencer.limits.cruiseInterval ≠ .zero) (resting : sequencer.interval = .zero)
    (timed : final.interval ≠ .zero) :
    (⟨final.interval, final.velocity⟩ : StepTiming) = sequencer.limits.accelerating 0.0 := by
  induction settles with
  | done _ => exact settling.timing_pass cruise resting timed
  | again unsettled _ ih =>
    rw [← limits_pass cruise]
    have resting := interval_pass_of_unsettled unsettled
    exact ih (settling.pass cruise) (cruise_pass cruise) resting timed

/-! ## An advance of a moving axis -/

/-- **No abrupt stop or turn.** A moving axis with something to visit comes to rest in an advance
exactly if the phase planned for its target is to brake, braking has no solution that takes time,
and the axis stands at the head of the route or does not have its target ahead.  Otherwise it keeps
its direction and has a step scheduled.  Where it comes to rest and is moving again afterwards, that
step is the first one from a standstill. -/
theorem comes_to_rest_iff (cruise : sequencer.limits.cruiseInterval ≠ .zero)
    (moving : sequencer.interval ≠ .zero) {head : Waypoint}
    (pending : sequencer.route.head? = some head) :
    let later := sequencer.advance.1
    ∃ target, sequencer.onward.target? = some target ∧
      (sequencer.ComesToRest ↔ sequencer.onward.plannedPhase target = .decelerate ∧
        sequencer.CannotBrake ∧ (later.position = head.position ∨
          sequencer.direction.continues later.position target = false)) ∧
      (¬ sequencer.ComesToRest →
        later.direction = sequencer.direction ∧ later.interval ≠ .zero) ∧
      (sequencer.ComesToRest → later.interval ≠ .zero →
        ⟨later.interval, later.velocity⟩ = sequencer.limits.accelerating 0.0) := by
  obtain ⟨rest, route⟩ := List.head?_eq_some_iff.mp pending
  obtain ⟨target, pursued⟩ := exists_target (List.ne_nil_of_mem (route ▸ List.mem_cons_self))
  refine ⟨target, pursued, ?_⟩
  rw [position_advance, ← arrives_iff route, comesToRest_iff_pass]
  by_cases rests : sequencer.onward.plannedPhase target = .decelerate ∧ sequencer.CannotBrake ∧
      (sequencer.arrives = true ∨
        sequencer.direction.continues sequencer.completeStep.position target = false)
  · have braked := pass_of_cannotBrake pursued rests.1 rests.2.1 rests.2.2
    have resting : sequencer.pass.sequencer.interval = .zero := by rw [braked]; rfl
    refine ⟨iff_of_true resting rests, absurd resting, fun _ timed => ?_⟩
    have settling : sequencer.pass.sequencer.Settling := by
      rw [braked]
      exact ⟨nofun, fun _ => rfl⟩
    rw [advance_of_unsettled cruise (by rw [braked])] at timed ⊢
    rw [← limits_pass cruise]
    exact (settles_advance (cruise_pass cruise)).timing_eq settling (cruise_pass cruise) resting
      timed
  · obtain ⟨settled, timed, heading⟩ := pass_of_going_on cruise moving pursued rests
    rw [advance_of_settled cruise settled]
    exact ⟨iff_of_false timed rests, fun _ => ⟨heading, timed⟩, fun resting => absurd resting timed⟩

/-- A slow axis that is sent forward and back comes to rest at the first waypoint and turns there,
all in one advance. -/
theorem comes_to_rest_iff_at_turn :
    let reached := (initial .slow : Sequencer 8).run
      [.enqueue ⟨0, .clamp 3, true⟩, .enqueue ⟨1, 0, true⟩, .advance, .advance, .advance]
    let later := reached.advance.1
    (reached.limits.cruiseInterval ≠ .zero ∧ reached.interval ≠ .zero ∧
      reached.route.head? = some ⟨0, .clamp 3, true⟩ ∧ reached.direction = .forward ∧
      later.direction = .backward ∧ later.interval ≠ .zero) ∧
    ∃ target, reached.onward.target? = some target ∧
      (reached.ComesToRest ↔ reached.onward.plannedPhase target = .decelerate ∧
        reached.CannotBrake ∧ (later.position = .clamp 3 ∨
          reached.direction.continues later.position target = false)) ∧
      (¬ reached.ComesToRest → later.direction = reached.direction ∧ later.interval ≠ .zero) ∧
      (reached.ComesToRest → later.interval ≠ .zero →
        ⟨later.interval, later.velocity⟩ = reached.limits.accelerating 0.0) := by
  intro reached later
  have cruise : reached.limits.cruiseInterval ≠ .zero := by decide +kernel
  have moving : reached.interval ≠ .zero := by decide +kernel
  have pending : reached.route.head? = some ⟨0, .clamp 3, true⟩ := by decide +kernel
  have turns : reached.direction = .forward ∧ later.direction = .backward ∧
      later.interval ≠ .zero := by decide +kernel
  exact ⟨⟨cruise, moving, pending, turns⟩, comes_to_rest_iff cruise moving pending⟩

end LinearAxis.Sequencer
