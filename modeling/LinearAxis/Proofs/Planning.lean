import LinearAxis.Proofs.Timing
import LinearAxis.Sequencer

/-!
# What a planning step can do

A planning step for a target schedules a step, brings a moving axis to rest because its braking step
has no solution, or gives the waypoint at the head of the route up at rest
(`LinearAxis.Sequencer.planStep_cases`).  The equations before that say which of these happens, and
with which timing, for each planned phase.
-/

namespace LinearAxis.Sequencer

variable {capacity : Nat} {sequencer : Sequencer capacity}

theorem isStopped_iff : sequencer.isStopped = true ↔ sequencer.interval = .zero :=
  Micros.isZero_iff

theorem isStopped_eq_false_iff : sequencer.isStopped = false ↔ sequencer.interval ≠ .zero := by
  rw [← Bool.not_eq_true, isStopped_iff]

theorem target?_eq_none_iff : sequencer.target? = none ↔ sequencer.route.waypoints = [] := by
  rw [target?, Option.map_eq_none_iff, Route.head?, List.head?_eq_none_iff]

/-! ## The step in flight -/

theorem completeStep_of_moving (moving : sequencer.interval ≠ .zero) :
    sequencer.completeStep = { sequencer with
      position :=
        sequencer.direction.move sequencer.position sequencer.limits.distancePerStep } := by
  rw [completeStep, isStopped_eq_false_iff.mpr moving, if_neg Bool.false_ne_true]

theorem completeStep_of_resting (resting : sequencer.interval = .zero) :
    sequencer.completeStep = sequencer := by
  rw [completeStep, isStopped_iff.mpr resting, if_pos rfl]

theorem completeStep_eq : ∃ position, sequencer.completeStep = { sequencer with position } := by
  by_cases resting : sequencer.interval = .zero
  · exact ⟨_, completeStep_of_resting resting⟩
  · exact ⟨_, completeStep_of_moving resting⟩

@[simp] theorem limits_completeStep : sequencer.completeStep.limits = sequencer.limits := by
  obtain ⟨_, same⟩ := sequencer.completeStep_eq; rw [same]

theorem cruise_completeStep (cruise : sequencer.limits.cruiseInterval ≠ .zero) :
    sequencer.completeStep.limits.cruiseInterval ≠ .zero := by
  rw [limits_completeStep]
  exact cruise

@[simp] theorem phase_completeStep : sequencer.completeStep.phase = sequencer.phase := by
  obtain ⟨_, same⟩ := sequencer.completeStep_eq; rw [same]

@[simp] theorem interval_completeStep : sequencer.completeStep.interval = sequencer.interval := by
  obtain ⟨_, same⟩ := sequencer.completeStep_eq; rw [same]

@[simp] theorem velocity_completeStep : sequencer.completeStep.velocity = sequencer.velocity := by
  obtain ⟨_, same⟩ := sequencer.completeStep_eq; rw [same]

@[simp] theorem direction_completeStep :
    sequencer.completeStep.direction = sequencer.direction := by
  obtain ⟨_, same⟩ := sequencer.completeStep_eq; rw [same]

@[simp] theorem route_completeStep : sequencer.completeStep.route = sequencer.route := by
  obtain ⟨_, same⟩ := sequencer.completeStep_eq; rw [same]

/-! ## The direction of travel -/

theorem face_of_moving (moving : sequencer.interval ≠ .zero) (target : Millimeters) :
    sequencer.face target = sequencer := by
  rw [face, isStopped_eq_false_iff.mpr moving, if_neg Bool.false_ne_true]

theorem face_of_resting (resting : sequencer.interval = .zero) (target : Millimeters) :
    sequencer.face target =
      { sequencer with direction := .towards sequencer.position target } := by
  rw [face, isStopped_iff.mpr resting, if_pos rfl]

theorem face_eq (target : Millimeters) :
    ∃ direction, sequencer.face target = { sequencer with direction } := by
  by_cases resting : sequencer.interval = .zero
  · exact ⟨_, face_of_resting resting target⟩
  · exact ⟨_, face_of_moving resting target⟩

variable {target : Millimeters}

@[simp] theorem limits_face : (sequencer.face target).limits = sequencer.limits := by
  obtain ⟨_, same⟩ := sequencer.face_eq target; rw [same]

@[simp] theorem interval_face : (sequencer.face target).interval = sequencer.interval := by
  obtain ⟨_, same⟩ := sequencer.face_eq target; rw [same]

@[simp] theorem velocity_face : (sequencer.face target).velocity = sequencer.velocity := by
  obtain ⟨_, same⟩ := sequencer.face_eq target; rw [same]

@[simp] theorem position_face : (sequencer.face target).position = sequencer.position := by
  obtain ⟨_, same⟩ := sequencer.face_eq target; rw [same]

@[simp] theorem route_face : (sequencer.face target).route = sequencer.route := by
  obtain ⟨_, same⟩ := sequencer.face_eq target; rw [same]

/-! ## Scheduling -/

section Schedule

variable {arrived : Bool}

theorem scheduleNext_of_timed (timed : sequencer.nextTiming.interval ≠ .zero) :
    sequencer.scheduleNext arrived target = sequencer.schedule sequencer.nextTiming := by
  have timed : sequencer.nextTiming.interval.isZero = false := by
    rwa [← Bool.not_eq_true, Micros.isZero_iff]
  simp only [scheduleNext, timed, Bool.not_false, Bool.true_or, ↓reduceIte]

/-- At a waypoint the timing is taken over even where it is a stop. -/
theorem scheduleNext_of_arrived :
    sequencer.scheduleNext true target = sequencer.schedule sequencer.nextTiming := by
  simp only [scheduleNext, Bool.or_true, ↓reduceIte]

theorem scheduleNext_of_ahead (untimed : sequencer.nextTiming.interval = .zero)
    (ahead : sequencer.direction.continues sequencer.position target = true) :
    sequencer.scheduleNext false target = sequencer.schedule sequencer.stretched := by
  have untimed : sequencer.nextTiming.interval.isZero = true := Micros.isZero_iff.mpr untimed
  simp only [scheduleNext, untimed, ahead, Bool.not_true, Bool.or_false, Bool.false_eq_true,
    ↓reduceIte]

theorem scheduleNext_of_beyond (untimed : sequencer.nextTiming.interval = .zero)
    (beyond : sequencer.direction.continues sequencer.position target = false) :
    sequencer.scheduleNext false target = sequencer.schedule .stopped := by
  have untimed : sequencer.nextTiming.interval.isZero = true := Micros.isZero_iff.mpr untimed
  simp only [scheduleNext, untimed, beyond, Bool.not_true, Bool.or_false, Bool.false_eq_true,
    ↓reduceIte]

end Schedule

/-! ## Planning -/

variable (sequencer target) in
/-- The phase planned for a target. -/
def plannedPhase : Phase :=
  sequencer.limits.plan (sequencer.face target).snapshot target
    (sequencer.route.following?.map Waypoint.position)

variable (sequencer) in
/-- The timing of the next braking step; a stop where braking has no solution. -/
def braking : StepTiming :=
  (sequencer.limits.decelerating? sequencer.velocity sequencer.interval).getD .stopped

/-- A braking step that takes no time is a stop. -/
theorem braking_eq_stopped (unsolved : sequencer.braking.interval = .zero) :
    sequencer.braking = .stopped := by
  unfold braking at unsolved ⊢
  cases solution : sequencer.limits.decelerating? sequencer.velocity sequencer.interval with
  | none => rfl
  | some timing =>
    rw [solution] at unsolved
    change timing.interval = .zero at unsolved
    have still := Kinematics.velocity_of_decelerating solution unsolved
    change timing = .stopped
    rw [show timing = ⟨timing.interval, timing.velocity⟩ from rfl, unsolved, still]
    rfl

/-- An axis at rest is never told to brake, and a moving axis is never told to stop at once. -/
theorem moving_of_plannedPhase (planned : sequencer.plannedPhase target = .decelerate) :
    sequencer.interval ≠ .zero := by
  intro resting
  refine Kinematics.plan_ne_decelerate ?_ _ _ planned
  change (!(sequencer.face target).isStopped) = false
  rw [isStopped_iff.mpr (by rw [interval_face]; exact resting)]
  rfl

theorem resting_of_plannedPhase (planned : sequencer.plannedPhase target = .stop) :
    sequencer.interval = .zero := by
  apply Decidable.byContradiction
  intro moving
  refine Kinematics.plan_ne_stop ?_ _ _ planned
  change (!(sequencer.face target).isStopped) = true
  rw [isStopped_eq_false_iff.mpr (by rw [interval_face]; exact moving)]
  rfl

variable {arrived : Bool}

theorem planStep_eq : sequencer.planStep arrived target =
    (({ sequencer.face target with phase := sequencer.plannedPhase target }).scheduleNext arrived
      target).settle := by
  simp only [planStep, plannedPhase, limits_face, route_face]

@[simp] theorem position_planStep :
    (sequencer.planStep arrived target).position = sequencer.position := by
  have settled (sequencer : Sequencer capacity) :
      sequencer.settle.position = sequencer.position := by
    rw [settle]
    split <;> rfl
  have scheduled (sequencer : Sequencer capacity) :
      (sequencer.scheduleNext arrived target).position = sequencer.position := by
    rw [scheduleNext]
    split
    · rfl
    · split <;> rfl
  rw [planStep_eq, settled, scheduled]
  exact position_face

/-- A timing that the planned phase asks for is taken over, unless it is a stop. -/
theorem planStep_of_timed {phase : Phase} {timing : StepTiming}
    (planned : sequencer.plannedPhase target = phase) (going : phase ≠ .stop)
    (asked : ({ sequencer.face target with phase }).nextTiming = timing)
    (timed : timing.interval ≠ .zero) :
    sequencer.planStep arrived target =
      ({ sequencer.face target with phase }).schedule timing := by
  rw [planStep_eq, planned, scheduleNext_of_timed (by rw [asked]; exact timed), asked]
  cases phase with
  | stop => exact absurd rfl going
  | accelerate | move | decelerate => rfl

theorem planStep_of_accelerate (cruise : sequencer.limits.cruiseInterval ≠ .zero)
    (planned : sequencer.plannedPhase target = .accelerate) :
    sequencer.planStep arrived target =
      ({ sequencer.face target with phase := .accelerate }).schedule
        (sequencer.limits.accelerating sequencer.velocity) := by
  refine planStep_of_timed planned nofun ?_ (Kinematics.accelerating_ne_zero cruise _)
  simp only [nextTiming, limits_face, velocity_face]

theorem planStep_of_move (cruise : sequencer.limits.cruiseInterval ≠ .zero)
    (planned : sequencer.plannedPhase target = .move) :
    sequencer.planStep arrived target =
      ({ sequencer.face target with phase := .move }).schedule
        (sequencer.limits.linear sequencer.velocity) := by
  refine planStep_of_timed planned nofun ?_ (Kinematics.linear_ne_zero cruise _)
  simp only [nextTiming, limits_face, velocity_face]

theorem planStep_of_braking (planned : sequencer.plannedPhase target = .decelerate)
    (solved : sequencer.braking.interval ≠ .zero) :
    sequencer.planStep arrived target =
      ({ sequencer with phase := .decelerate }).schedule sequencer.braking := by
  have moving := moving_of_plannedPhase planned
  rw [planStep_of_timed planned nofun _ solved, face_of_moving moving]
  rw [face_of_moving moving]
  rfl

/-- Short of the target, braking that has no solution yet is put off by a longer interval. -/
theorem planStep_of_unsolved_ahead (planned : sequencer.plannedPhase target = .decelerate)
    (unsolved : sequencer.braking.interval = .zero)
    (ahead : sequencer.direction.continues sequencer.position target = true) :
    sequencer.planStep false target =
      ({ sequencer with phase := .decelerate }).schedule sequencer.stretched := by
  have moving := moving_of_plannedPhase planned
  have untimed : ({ sequencer with phase := .decelerate }).nextTiming.interval = .zero := unsolved
  rw [planStep_eq, planned, face_of_moving moving]
  exact congrArg settle (scheduleNext_of_ahead untimed ahead)

/-- At a waypoint or beyond the target, braking that has no solution is a stop. -/
theorem planStep_of_unsolved (planned : sequencer.plannedPhase target = .decelerate)
    (unsolved : sequencer.braking.interval = .zero)
    (there : arrived = true ∨
      sequencer.direction.continues sequencer.position target = false) :
    sequencer.planStep arrived target =
      ({ sequencer with phase := .decelerate }).schedule .stopped := by
  have moving := moving_of_plannedPhase planned
  have timing : ({ sequencer with phase := .decelerate }).nextTiming = .stopped :=
    braking_eq_stopped unsolved
  rw [planStep_eq, planned, face_of_moving moving]
  cases arrived with
  | true =>
    have scheduled : ({ sequencer with phase := .decelerate }).scheduleNext true target =
        ({ sequencer with phase := .decelerate }).schedule .stopped := by
      rw [scheduleNext_of_arrived, timing]
    exact congrArg settle scheduled
  | false =>
    have untimed := congrArg StepTiming.interval timing
    exact congrArg settle
      (scheduleNext_of_beyond untimed (there.resolve_left Bool.false_ne_true))

theorem planStep_of_stop (planned : sequencer.plannedPhase target = .stop) :
    sequencer.planStep arrived target =
      { (sequencer.face target).halt with route := sequencer.route.pop } := by
  have scheduled (timing : StepTiming) :
      (({ sequencer.face target with phase := .stop }).schedule timing).settle =
        { (sequencer.face target).halt with route := sequencer.route.pop } := by
    simp only [settle, schedule, halt, route_face]
  rw [planStep_eq, planned, scheduleNext]
  split
  · exact scheduled _
  · split
    · exact scheduled _
    · exact scheduled _

/-- Whatever does not keep an axis at rest, nor is a braking step without a solution, schedules a
step, and whether the axis has arrived makes no difference to it. -/
theorem planStep_of_solvable (cruise : sequencer.limits.cruiseInterval ≠ .zero)
    (going : sequencer.plannedPhase target ≠ .stop)
    (solvable : ¬ (sequencer.plannedPhase target = .decelerate ∧
      sequencer.braking.interval = .zero)) :
    ∃ timing, timing.interval ≠ .zero ∧ ∀ arrived, sequencer.planStep arrived target =
      ({ sequencer.face target with phase := sequencer.plannedPhase target }).schedule timing := by
  cases planned : sequencer.plannedPhase target with
  | stop => exact absurd planned going
  | accelerate =>
    exact ⟨_, Kinematics.accelerating_ne_zero cruise _, fun _ =>
      planStep_of_accelerate cruise planned⟩
  | move => exact ⟨_, Kinematics.linear_ne_zero cruise _, fun _ => planStep_of_move cruise planned⟩
  | decelerate =>
    have solved : sequencer.braking.interval ≠ .zero := fun unsolved =>
      solvable ⟨planned, unsolved⟩
    rw [face_of_moving (moving_of_plannedPhase planned)]
    exact ⟨sequencer.braking, solved, fun _ => planStep_of_braking planned solved⟩

/-- Whatever does not keep an axis at rest schedules a step, unless it is a braking step without a
solution at a waypoint or beyond the target. -/
theorem planStep_of_going_on {arrived : Bool} (cruise : sequencer.limits.cruiseInterval ≠ .zero)
    (going : sequencer.plannedPhase target ≠ .stop)
    (goesOn : ¬ (sequencer.plannedPhase target = .decelerate ∧ sequencer.braking.interval = .zero ∧
      (arrived = true ∨ sequencer.direction.continues sequencer.position target = false))) :
    ∃ timing, timing.interval ≠ .zero ∧ sequencer.planStep arrived target =
      ({ sequencer.face target with phase := sequencer.plannedPhase target }).schedule timing := by
  by_cases vain : sequencer.plannedPhase target = .decelerate ∧ sequencer.braking.interval = .zero
  · obtain ⟨planned, unsolved⟩ := vain
    have short : ¬ (arrived = true ∨
        sequencer.direction.continues sequencer.position target = false) :=
      fun there => goesOn ⟨planned, unsolved, there⟩
    simp only [not_or, Bool.not_eq_true, Bool.not_eq_false] at short
    obtain ⟨rfl, ahead⟩ := short
    rw [face_of_moving (moving_of_plannedPhase planned), planned]
    exact ⟨sequencer.stretched, Micros.lengthen_ne_zero _,
      planStep_of_unsolved_ahead planned unsolved ahead⟩
  · obtain ⟨timing, timed, scheduled⟩ := planStep_of_solvable cruise going vain
    exact ⟨timing, timed, scheduled arrived⟩

/-- Between waypoints and short of the target, a braking step without a solution schedules a step as
well. -/
theorem planStep_of_ahead (cruise : sequencer.limits.cruiseInterval ≠ .zero)
    (going : sequencer.plannedPhase target ≠ .stop)
    (ahead : (sequencer.face target).direction.continues sequencer.position target = true) :
    ∃ timing, timing.interval ≠ .zero ∧ sequencer.planStep false target =
      ({ sequencer.face target with phase := sequencer.plannedPhase target }).schedule timing := by
  apply planStep_of_going_on cruise going
  rintro ⟨planned, -, there⟩
  rw [face_of_moving (moving_of_plannedPhase planned)] at ahead
  have beyond := there.resolve_left Bool.false_ne_true
  rw [ahead] at beyond
  cases beyond

/-- A planning step schedules a step, brings a moving axis to rest with its route kept, or gives the
head of the route up at rest. -/
theorem planStep_cases (cruise : sequencer.limits.cruiseInterval ≠ .zero) (arrived : Bool)
    (target : Millimeters) :
    (∃ timing, sequencer.plannedPhase target ≠ .stop ∧ timing.interval ≠ .zero ∧
      sequencer.planStep arrived target =
        ({ sequencer.face target with phase := sequencer.plannedPhase target }).schedule timing) ∨
    (sequencer.interval ≠ .zero ∧ sequencer.planStep arrived target =
      ({ sequencer with phase := .decelerate }).schedule .stopped) ∨
    (sequencer.interval = .zero ∧ sequencer.planStep arrived target =
      { (sequencer.face target).halt with route := sequencer.route.pop }) := by
  by_cases going : sequencer.plannedPhase target = .stop
  · exact .inr (.inr ⟨resting_of_plannedPhase going, planStep_of_stop going⟩)
  by_cases rests : sequencer.plannedPhase target = .decelerate ∧
      sequencer.braking.interval = .zero ∧
      (arrived = true ∨ sequencer.direction.continues sequencer.position target = false)
  · obtain ⟨planned, unsolved, there⟩ := rests
    exact .inr (.inl ⟨moving_of_plannedPhase planned, planStep_of_unsolved planned unsolved there⟩)
  · obtain ⟨timing, timed, scheduled⟩ := planStep_of_going_on cruise going rests
    exact .inl ⟨timing, going, timed, scheduled⟩

theorem face_face (position : Millimeters) :
    (sequencer.face position).face position = sequencer.face position := by
  by_cases resting : sequencer.interval = .zero
  · have still : (sequencer.face position).interval = .zero := by rw [interval_face]; exact resting
    rw [face_of_resting still, position_face, face_of_resting resting]
  · rw [face_of_moving resting, face_of_moving resting]

theorem planStep_face (arrived : Bool) (position : Millimeters) :
    (sequencer.face position).planStep arrived position = sequencer.planStep arrived position := by
  have phase : (sequencer.face position).plannedPhase position =
      sequencer.plannedPhase position := by
    rw [plannedPhase, plannedPhase, face_face, limits_face, route_face]
  rw [planStep_eq, planStep_eq, face_face, phase]

end LinearAxis.Sequencer
