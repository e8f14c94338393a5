import LinearAxis.Proofs.Command

/-!
# Rest

Between commands an axis is in the stop phase exactly when no step is scheduled, and then it has no
velocity (`LinearAxis.Sequencer.Steady`).  Inside an advance this fails for a moment: a braking step
without a solution brings the axis to rest in the phase of deceleration.  What every pass keeps is
`LinearAxis.Sequencer.Settling`, and the pass that settles makes the axis steady again.
-/

namespace LinearAxis.Sequencer

variable {capacity : Nat} {sequencer : Sequencer capacity}

/-- No step is scheduled exactly in the stop phase, and then there is no velocity. -/
structure Steady (sequencer : Sequencer capacity) : Prop where
  rest_iff_stop : sequencer.interval = .zero ↔ sequencer.phase = .stop
  still_of_rest : sequencer.interval = .zero → sequencer.velocity = 0.0

/-- In the stop phase no step is scheduled, and without a step there is no velocity. -/
structure Settling (sequencer : Sequencer capacity) : Prop where
  rest_of_stop : sequencer.phase = .stop → sequencer.interval = .zero
  still_of_rest : sequencer.interval = .zero → sequencer.velocity = 0.0

theorem Steady.settling (steady : sequencer.Steady) : sequencer.Settling :=
  ⟨steady.rest_iff_stop.mpr, steady.still_of_rest⟩

theorem steady_of_resting (stop : sequencer.phase = .stop) (rest : sequencer.interval = .zero)
    (still : sequencer.velocity = 0.0) : sequencer.Steady :=
  ⟨⟨fun _ => stop, fun _ => rest⟩, fun _ => still⟩

theorem steady_halt : sequencer.halt.Steady :=
  steady_of_resting rfl rfl rfl

theorem Steady.halt_eq (steady : sequencer.Steady) (resting : sequencer.interval = .zero) :
    sequencer.halt = sequencer := by
  rw [halt, ← steady.rest_iff_stop.mp resting, ← steady.still_of_rest resting, ← resting]

theorem Steady.congr {other : Sequencer capacity} (steady : sequencer.Steady)
    (phase : other.phase = sequencer.phase) (interval : other.interval = sequencer.interval)
    (velocity : other.velocity = sequencer.velocity) : other.Steady := by
  constructor
  · rw [phase, interval]
    exact steady.rest_iff_stop
  · rw [interval, velocity]
    exact steady.still_of_rest

theorem steady_of_moving (going : sequencer.phase ≠ .stop) (timed : sequencer.interval ≠ .zero) :
    sequencer.Steady :=
  ⟨⟨fun rest => absurd rest timed, fun stop => absurd stop going⟩, fun rest => absurd rest timed⟩

theorem Settling.pass (settling : sequencer.Settling)
    (cruise : sequencer.limits.cruiseInterval ≠ .zero) : sequencer.pass.sequencer.Settling := by
  have outcome := pass_outcome cruise
  generalize sequencer.pass = pass at outcome
  cases outcome with
  | idle idle =>
    dsimp only
    split
    · next stop =>
      constructor
      · intro _
        rw [interval_completeStep]
        exact settling.rest_of_stop stop
      · rw [interval_completeStep, velocity_completeStep]
        exact settling.still_of_rest
    · exact steady_halt.settling
  | scheduled target pursued going timing timed =>
    exact (steady_of_moving going timed).settling
  | braked target pursued moving =>
    exact ⟨nofun, fun _ => rfl⟩
  | gaveUp target pursued resting =>
    exact Steady.settling (steady_of_resting rfl rfl rfl)

/-- The pass that settles leaves a steady axis with a step scheduled or nothing to visit. -/
theorem Settling.pass_settled (settling : sequencer.Settling)
    (cruise : sequencer.limits.cruiseInterval ≠ .zero)
    (settled : sequencer.pass.isSettled = true) :
    sequencer.pass.sequencer.Steady ∧ (sequencer.pass.sequencer.interval ≠ .zero ∨
      sequencer.pass.sequencer.route.waypoints = []) := by
  have outcome := pass_outcome cruise
  generalize sequencer.pass = pass at outcome settled
  cases outcome with
  | idle idle =>
    dsimp only
    split
    · next stop =>
      have rest := settling.rest_of_stop stop
      refine ⟨⟨?_, ?_⟩, .inr (by rw [route_completeStep]; exact idle)⟩
      · rw [interval_completeStep, phase_completeStep]
        exact ⟨fun _ => stop, fun _ => rest⟩
      · rw [interval_completeStep, velocity_completeStep]
        exact settling.still_of_rest
    · exact ⟨steady_halt, .inr (by rw [← route_completeStep] at idle; exact idle)⟩
  | scheduled target pursued going timing timed =>
    exact ⟨steady_of_moving going timed, .inl timed⟩
  | braked target pursued moving => cases settled
  | gaveUp target pursued resting => cases settled

/-- A series of passes ends with a steady axis that has a step scheduled or nothing to visit. -/
theorem Settling.settles {final : Sequencer capacity} {announcements : List Announcement}
    (settling : sequencer.Settling) (cruise : sequencer.limits.cruiseInterval ≠ .zero)
    (settles : Settles sequencer final announcements) :
    final.Steady ∧ (final.interval ≠ .zero ∨ final.route.waypoints = []) := by
  induction settles with
  | done settled => exact settling.pass_settled cruise settled
  | again unsettled _ ih =>
    exact ih (settling.pass cruise) (cruise_pass cruise)

/-- An advance leaves a steady axis that has a step scheduled or nothing to visit. -/
theorem Steady.advance (steady : sequencer.Steady)
    (cruise : sequencer.limits.cruiseInterval ≠ .zero) :
    sequencer.advance.1.Steady ∧
      (sequencer.advance.1.interval ≠ .zero ∨ sequencer.advance.1.route.waypoints = []) :=
  steady.settling.settles cruise (settles_advance cruise)

theorem Steady.after (steady : sequencer.Steady)
    (cruise : sequencer.limits.cruiseInterval ≠ .zero) (command : Command) :
    (sequencer.after command).Steady := by
  cases command with
  | enqueue waypoint =>
    obtain ⟨route, same⟩ := sequencer.after_enqueue_eq waypoint
    rw [same]
    exact steady.congr rfl rfl rfl
  | advance => exact (steady.advance cruise).1
  | halt => exact steady_halt
  | withdrawLast | setPosition | clearRoute => exact steady.congr rfl rfl rfl

/-- A new sequencer is steady, and so is every one that a run leads to. -/
theorem steady_run {limits : Kinematics} (cruise : limits.cruiseInterval ≠ .zero)
    (commands : List Command) :
    ((initial limits : Sequencer capacity).run commands).Steady ∧
      ((initial limits : Sequencer capacity).run commands).limits = limits := by
  refine run_invariant (fun reached => reached.Steady ∧ reached.limits = limits) ?_
    ⟨steady_of_resting rfl rfl rfl, rfl⟩ commands
  rintro sequencer command ⟨steady, rfl⟩
  exact ⟨steady.after cruise command, limits_after cruise command⟩

/-- **Rest is the stop phase.** After every run of commands no step is scheduled exactly in the stop
phase, and then there is no velocity; and every advance either leaves a step scheduled or leaves
nothing to visit, in the stop phase. -/
theorem rest_iff_stop_after_run {limits : Kinematics} (cruise : limits.cruiseInterval ≠ .zero)
    (commands : List Command) :
    let reached := (initial limits : Sequencer capacity).run commands
    (reached.interval = .zero ↔ reached.phase = .stop) ∧
      (reached.interval = .zero → reached.velocity = 0.0) ∧
      (reached.advance.1.interval ≠ .zero ∨
        reached.advance.1.route = .empty ∧ reached.advance.1.phase = .stop) := by
  intro reached
  obtain ⟨steady, same⟩ := steady_run cruise commands
  obtain ⟨later, settled⟩ := steady.advance (by rw [same]; exact cruise)
  refine ⟨steady.rest_iff_stop, steady.still_of_rest, ?_⟩
  by_cases rest : reached.advance.1.interval = .zero
  · exact .inr ⟨Route.ext (settled.resolve_left (fun timed => timed rest)),
      later.rest_iff_stop.mp rest⟩
  · exact .inl rest

/-- A slow axis that was sent three millimeters away is such an axis. -/
theorem rest_iff_stop_after_move :
    Kinematics.slow.cruiseInterval ≠ .zero ∧
      let reached := (initial .slow : Sequencer 8).run [.enqueue ⟨0, .clamp 3, true⟩, .advance]
      (reached.interval = .zero ↔ reached.phase = .stop) ∧
        (reached.interval = .zero → reached.velocity = 0.0) ∧
        (reached.advance.1.interval ≠ .zero ∨
          reached.advance.1.route = .empty ∧ reached.advance.1.phase = .stop) :=
  have cruise : Kinematics.slow.cruiseInterval ≠ .zero := by decide +kernel
  ⟨cruise, rest_iff_stop_after_run cruise [.enqueue ⟨0, .clamp 3, true⟩, .advance]⟩

end LinearAxis.Sequencer
