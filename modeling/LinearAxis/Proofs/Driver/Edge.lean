import LinearAxis.Proofs.Driver.Count
import LinearAxis.Proofs.Driver.Lines

/-!
# Steps that are made

Writes and requests may be refused at any point of a tick, and in the clean-up after it.  Whatever
was refused before, the step line is put high only in a tick that counts a step, while the chip is
awake and while the direction line shows the way of that step (`LinearAxis.Driver.step_of_raised`).
-/

namespace LinearAxis.Driver

open History

variable {capacity : Nat}

/-- A driver with the limits and the polarity of its axis, which knows the level of its direction
line. -/
structure Aligned (limits : Kinematics) (inverted : Bool) (driver : Driver .ready capacity) :
    Prop where
  limits_eq : driver.sequencer.limits = limits
  inverted_eq : driver.invertDirection = inverted
  shows : driver.ShowsDirection

/-- The chip of a moving axis is awake. -/
def IsAwake (driver : Driver .ready capacity) : Prop :=
  driver.sequencer.interval ≠ .zero → level? .standby driver.hardware.history = some true

/-- In a tick that starts from a driver, the step line is put high only if a step is in flight and
none is half done, while the chip is awake and the direction of travel is shown. -/
def Powered (ticking : Driver .ready capacity) : Event → List Event → Prop
  | .drove .step true true, earlier =>
    ticking.sequencer.interval ≠ .zero ∧ ticking.halfStep = false ∧
      level? .standby earlier = some true ∧
      level? .direction earlier = some (ticking.directionLevel ticking.sequencer.direction)
  | _, _ => True

theorem powered_of_silent {ticking : Driver .ready capacity} {event : Event}
    (silent : isSilent event = true) (earlier : List Event) : Powered ticking event earlier := by
  cases event with
  | drove line level accepted => cases silent
  | requested | noted | slept | announced => trivial

theorem powered_of_ne {ticking : Driver .ready capacity} {line : Line} {level : Bool}
    (harmless : line ≠ .step ∨ level = false) (accepted : Bool) (earlier : List Event) :
    Powered ticking (.drove line level accepted) earlier := by
  rcases harmless with apart | rfl
  · cases line with
    | step => exact absurd rfl apart
    | direction | standby | mode1 | mode2 => trivial
  · cases line <;> trivial

/-! ## Inside a tick -/

/-- A driver in a tick, or in the clean-up after it: aligned, and with no step made that was not
powered. -/
structure Trailing (limits : Kinematics) (inverted : Bool)
    (ticking driver : Driver .ready capacity) : Prop where
  aligned : driver.Aligned limits inverted
  grown : Grown (Powered ticking) ticking.hardware.history driver.hardware.history

section Trailing

variable {limits : Kinematics} {inverted : Bool} {ticking driver : Driver .ready capacity}

theorem Trailing.driven (trailing : Trailing limits inverted ticking driver) (line : Line)
    (level : Bool) (harmless : line ≠ .step ∨ level = false)
    (unturned : line ≠ .direction ∨ driver.accepts line level = false) :
    Trailing limits inverted ticking (driver.driven line level) where
  aligned := ⟨trailing.aligned.limits_eq, trailing.aligned.inverted_eq,
    trailing.aligned.shows.driven unturned⟩
  grown := grown_driven trailing.grown (powered_of_ne harmless _ _)

theorem Trailing.halved (trailing : Trailing limits inverted ticking driver) (halfStep : Bool) :
    Trailing limits inverted ticking (driver.halved halfStep) :=
  ⟨⟨trailing.aligned.limits_eq, trailing.aligned.inverted_eq, trailing.aligned.shows⟩,
    trailing.grown⟩

theorem Trailing.turned (trailing : Trailing limits inverted ticking driver) {direction : Direction}
    (accepted : driver.accepts .direction (driver.directionLevel direction) = true) :
    Trailing limits inverted ticking (driver.turned direction) where
  aligned := ⟨trailing.aligned.limits_eq, trailing.aligned.inverted_eq,
    showsDirection_turned accepted⟩
  grown := grown_driven trailing.grown (powered_of_ne (.inl (by decide)) _ _)

theorem Trailing.requested (trailing : Trailing limits inverted ticking driver)
    (request : AlarmRequest) : Trailing limits inverted ticking (driver.requested request) where
  aligned := ⟨trailing.aligned.limits_eq, trailing.aligned.inverted_eq,
    trailing.aligned.shows.requested request⟩
  grown := grown_requested trailing.grown fun _ silent => powered_of_silent silent _

theorem Trailing.advanced (trailing : Trailing limits inverted ticking driver)
    (cruise : limits.cruiseInterval ≠ .zero) :
    Trailing limits inverted ticking driver.advanced where
  aligned := by
    have timed : driver.sequencer.limits.cruiseInterval ≠ .zero := by
      rw [trailing.aligned.limits_eq]
      exact cruise
    exact ⟨((Sequencer.settles_advance timed).limits_eq timed).trans trailing.aligned.limits_eq,
      trailing.aligned.inverted_eq, trailing.aligned.shows.advanced⟩
  grown := grown_announcing trailing.grown (fun _ _ => trivial) _

theorem Trailing.fault (trailing : Trailing limits inverted ticking driver) :
    Trailing limits inverted ticking driver.fault ∧ driver.fault.IsAwake := by
  have step := trailing.driven .step false (.inr rfl) (.inl (by decide))
  have standby := step.driven .standby false (.inl (by decide)) (.inl (by decide))
  refine ⟨⟨⟨trailing.aligned.limits_eq, trailing.aligned.inverted_eq,
    trailing.aligned.shows.fault⟩, ?_⟩, fun moving => absurd rfl moving⟩
  rw [hardware_fault]
  exact standby.grown

/-- A step is powered while the chip is awake and the direction of travel is shown. -/
theorem Trailing.raised (trailing : Trailing limits inverted ticking driver)
    (polarity : ticking.invertDirection = inverted) (moving : ticking.sequencer.interval ≠ .zero)
    (low : ticking.halfStep = false) (awake : level? .standby driver.hardware.history = some true)
    (shown : driver.shownDirection = some ticking.sequencer.direction) :
    Trailing limits inverted ticking (driver.driven .step true) := by
  have facing : level? .direction driver.hardware.history =
      some (ticking.directionLevel ticking.sequencer.direction) := by
    rw [trailing.aligned.shows.level_eq shown, directionLevel, directionLevel, polarity,
      trailing.aligned.inverted_eq]
  refine ⟨⟨trailing.aligned.limits_eq, trailing.aligned.inverted_eq,
    trailing.aligned.shows.driven (.inl (by decide))⟩, grown_driven trailing.grown ?_⟩
  cases driver.accepts .step true with
  | true => exact ⟨moving, low, awake, facing⟩
  | false => trivial

/-- The tick of a moving axis makes no step that is not powered, wherever it fails. -/
theorem Aligned.toggleStep (aligned : driver.Aligned limits inverted)
    (cruise : limits.cruiseInterval ≠ .zero) (awake : driver.IsAwake)
    (moving : driver.sequencer.interval ≠ .zero) :
    Ensures toggleStep driver (fun _ later => Trailing limits inverted driver later)
      fun _ later => Trailing limits inverted driver later := by
  have trailing : Trailing limits inverted driver driver := ⟨aligned, .refl⟩
  apply ensures_toggleStep
  · intro _
    have lowered := trailing.driven .step false (.inr rfl) (.inl (by decide))
    have fallen := lowered.halved false
    apply ensures_bind
    apply ensures_drive ?_ fun _ => lowered
    intro _
    refine ensures_bind (ensures_modify ?_)
    apply ensures_showDirection
    · intro _
      exact fallen
    · intro _ accepted
      exact fallen.turned accepted
    · intro _ refused
      exact fallen.driven .direction _ (.inl (by decide)) (.inr refused)
  · intro low
    have advanced := trailing.advanced cruise
    have powered : level? .standby driver.advanced.hardware.history = some true :=
      (driver.read_announcing (level? .standby) (fun _ _ => rfl) _).trans (awake moving)
    apply ensures_raise fun later => Trailing limits inverted driver later ∧
      level? .standby later.hardware.history = some true ∧
      later.shownDirection = some driver.sequencer.direction
    · exact fun shown => ⟨advanced, powered, shown⟩
    · intro _ accepted
      have apart : Line.direction ≠ .standby := by decide
      exact ⟨advanced.turned accepted,
        (driver.advanced.level?_driven_of_ne apart _).trans powered, rfl⟩
    · exact fun _ refused => advanced.driven .direction _ (.inl (by decide)) (.inr refused)
    · intro later ⟨trailing, awake, shown⟩ _
      exact (trailing.raised aligned.inverted_eq moving low awake shown).halved true
    · intro later ⟨trailing, awake, shown⟩ _
      exact trailing.raised aligned.inverted_eq moving low awake shown

/-- Whether or not it is done, rescheduling makes no step; once it is done, the chip of a moving
axis is awake. -/
theorem Trailing.reschedule (trailing : Trailing limits inverted ticking driver) :
    Ensures reschedule driver
      (fun _ later => Trailing limits inverted ticking later ∧ later.IsAwake)
      fun _ later => Trailing limits inverted ticking later := by
  apply ensures_reschedule
  · intro resting
    have asleep {later : Driver .ready capacity}
        (trailing : Trailing limits inverted ticking later) :
        Trailing limits inverted ticking (later.driven .standby false) :=
      trailing.driven .standby false (.inl (by decide)) (.inl (by decide))
    have lowered := trailing.driven .step false (.inr rfl) (.inl (by decide))
    apply ensures_rest fun later => Trailing limits inverted ticking later
    · exact fun _ => trailing
    · exact fun _ _ => lowered.halved false
    · exact fun _ _ => lowered
    · intro later same trailing _
      exact ⟨asleep trailing, fun moving => absurd (same ▸ resting) moving⟩
    · exact fun _ _ trailing _ => asleep trailing
  · intro _
    have awake := trailing.driven .standby true (.inl (by decide)) (.inl (by decide))
    apply ensures_bind
    apply ensures_drive ?_ fun _ => awake
    intro accepted
    have requested := awake.requested (.arm driver.sequencer.interval)
    apply ensures_request ?_ fun _ => requested
    intro _
    refine ⟨requested, fun _ => ?_⟩
    exact (level?_requested _ _ _).trans (driver.level?_driven rfl accepted)

/-- A tick keeps a driver aligned and the chip of a moving axis awake, and makes no step that is not
powered, wherever it fails. -/
theorem Aligned.tick (aligned : driver.Aligned limits inverted)
    (cruise : limits.cruiseInterval ≠ .zero) (awake : driver.IsAwake) :
    Trailing limits inverted driver (driver.afterwards tick) ∧
      (driver.afterwards tick).IsAwake := by
  have ensures : Ensures Driver.tick driver
      (fun _ later => Trailing limits inverted driver later ∧ later.IsAwake)
      fun _ later => Trailing limits inverted driver later ∧ later.IsAwake := by
    have works : Ensures work driver (fun _ later => Trailing limits inverted driver later)
        fun _ later => Trailing limits inverted driver later :=
      ensures_work (fun _ => Trailing.advanced ⟨aligned, .refl⟩ cruise)
        (aligned.toggleStep cruise awake)
    exact ensures_tick_of_parts works (fun _ trailing => trailing.reschedule)
      fun _ _ failed => failed.fault
  exact ensures.afterwards

end Trailing

/-! ## Runs -/

theorem Aligned.congr {limits : Kinematics} {inverted : Bool}
    {driver later : Driver .ready capacity} (aligned : driver.Aligned limits inverted)
    (sameLimits : later.sequencer.limits = driver.sequencer.limits)
    (sameInverted : later.invertDirection = driver.invertDirection)
    (sameShown : later.shownDirection = driver.shownDirection)
    (sameLevel : level? .direction later.hardware.history =
      level? .direction driver.hardware.history) : later.Aligned limits inverted :=
  ⟨sameLimits.trans aligned.limits_eq, sameInverted.trans aligned.inverted_eq,
    aligned.shows.congr sameShown sameInverted sameLevel⟩

/-- The step line was put high in one of some ticks, while the chip was awake and the direction line
showed the way of the step that the tick counted. -/
def MadeIn (limits : Kinematics) (inverted : Bool) (ticked : List (Driver .ready capacity)) :
    Event → List Event → Prop
  | .drove .step true true, earlier => ∃ ticking ∈ ticked,
    ticking.hardware.history <:+ earlier ∧
      .drove .step true true :: earlier <:+ (ticking.afterwards tick).hardware.history ∧
      level? .standby earlier = some true ∧
      level? .direction earlier = some (ticking.sequencer.direction.isForward != inverted) ∧
      (ticking.afterwards tick).sequencer.position =
        ticking.sequencer.direction.move ticking.sequencer.position limits.distancePerStep
  | _, _ => True

theorem madeIn_of_not_raised {limits : Kinematics} {inverted : Bool}
    {ticked : List (Driver .ready capacity)} {event : Event}
    (other : event ≠ .drove .step true true) (earlier : List Event) :
    MadeIn limits inverted ticked event earlier := by
  unfold MadeIn
  split
  · exact absurd rfl other
  · trivial

theorem MadeIn.append {limits : Kinematics} {inverted : Bool}
    {ticked more : List (Driver .ready capacity)} {event : Event} {earlier : List Event}
    (made : MadeIn limits inverted ticked event earlier) :
    MadeIn limits inverted (ticked ++ more) event earlier := by
  unfold MadeIn at made ⊢
  split
  · obtain ⟨ticking, member, rest⟩ := made
    exact ⟨ticking, List.mem_append_left _ member, rest⟩
  · trivial

/-- What is powered in a tick was made in it. -/
theorem Trailing.madeIn {limits : Kinematics} {inverted : Bool} {driver : Driver .ready capacity}
    {ticked : List (Driver .ready capacity)}
    (trailing : Trailing limits inverted driver (driver.afterwards tick))
    (aligned : driver.Aligned limits inverted) :
    Grown (MadeIn limits inverted (ticked ++ [driver])) driver.hardware.history
      (driver.afterwards tick).hardware.history := by
  apply trailing.grown.weaken
  intro event earlier since gained powered
  by_cases raised : event = .drove .step true true
  · subst raised
    obtain ⟨moving, low, awake, facing⟩ := powered
    rw [directionLevel, aligned.inverted_eq] at facing
    have counted := driver.position_afterwards_tick
    rw [if_pos ⟨moving, low⟩, aligned.limits_eq] at counted
    exact ⟨driver, List.mem_append_right _ (.head _), since, gained, awake, facing, counted⟩
  · exact madeIn_of_not_raised raised earlier

theorem Started.aligned {limits : Kinematics} {driver : Driver .ready capacity}
    (started : driver.Started limits) :
    driver.Aligned limits driver.invertDirection ∧ driver.IsAwake := by
  obtain ⟨unconfigured, ⟨origin, new⟩, outcome⟩ := started
  have spec := unconfigured.start_spec
  rw [outcome] at spec
  obtain ⟨same, -, shown, -, forward, -⟩ := spec
  refine ⟨⟨by rw [same, new]; rfl, rfl, .forward, shown, forward⟩, fun moving => ?_⟩
  rw [same, new] at moving
  exact absurd rfl moving

/-- After a run, whatever was refused in it, a driver is aligned and the chip of a moving axis
awake, and every step since the start was made in one of the ticks. -/
theorem Started.run_aligned {limits : Kinematics} {driver : Driver .ready capacity}
    (started : driver.Started limits) (cruise : limits.cruiseInterval ≠ .zero)
    (calls : List Call) :
    (driver.run calls).Aligned limits driver.invertDirection ∧ (driver.run calls).IsAwake ∧
      Grown (MadeIn limits driver.invertDirection (driver.ticks calls)) driver.hardware.history
        (driver.run calls).hardware.history := by
  obtain ⟨aligned, awake⟩ := started.aligned
  refine run_of_moves (fun reached ticked =>
    reached.Aligned limits driver.invertDirection ∧ reached.IsAwake ∧
      Grown (MadeIn limits driver.invertDirection ticked) driver.hardware.history
        reached.hardware.history) ?_ ?_ ?_ ?_ ?_ ⟨aligned, awake, .refl⟩ calls
  · rintro reached ticked route ⟨aligned, awake, grown⟩
    exact ⟨aligned.congr rfl rfl rfl rfl, awake, grown⟩
  · rintro reached ticked position ⟨aligned, awake, grown⟩
    exact ⟨aligned.congr rfl rfl rfl rfl, awake, grown⟩
  · rintro reached ticked ⟨aligned, awake, grown⟩
    refine ⟨aligned.congr rfl rfl rfl (reached.level?_requested .now .direction), ?_, ?_⟩
    · intro moving
      exact (reached.level?_requested .now .standby).trans (awake moving)
    · refine grown_requested grown fun event silent => madeIn_of_not_raised ?_ _
      rintro rfl
      cases silent
  · rintro reached ticked ⟨aligned, awake, grown⟩
    have still (line : Line) : level? line reached.waited.hardware.history =
        level? line reached.hardware.history := read_waited (level? line) fun _ _ => rfl
    refine ⟨aligned.congr rfl rfl rfl (still .direction), ?_, ?_⟩
    · intro moving
      exact (still .standby).trans (awake moving)
    · exact grown_waited grown fun _ _ => trivial
  · rintro reached ticked ⟨aligned, awake, grown⟩
    obtain ⟨trailing, awakened⟩ := aligned.tick cruise awake
    refine ⟨trailing.aligned, awakened, ?_⟩
    exact (grown.weaken fun _ _ _ _ made => made.append).trans (trailing.madeIn aligned)

/-- **Steps are safe under faults.** Whichever writes and requests are refused, the step line is put
high only in a tick, while the chip is awake and the direction line shows the direction of travel
from before the tick; and that tick moves the position by one step in that direction, clamped to the
range. -/
theorem step_of_raised {limits : Kinematics} (cruise : limits.cruiseInterval ≠ .zero)
    (travel : 0 < limits.distancePerStep.toInt) {driver : Driver .ready capacity}
    (started : driver.Started limits) (calls : List Call) {earlier : List Event}
    (raised : .drove .step true true :: earlier <:+ (driver.run calls).hardware.history)
    (since : driver.hardware.history <:+ earlier) :
    ∃ ticking ∈ driver.ticks calls,
      ticking.hardware.history <:+ earlier ∧
      .drove .step true true :: earlier <:+ (ticking.afterwards tick).hardware.history ∧
      level? .standby earlier = some true ∧
      level? .direction earlier =
        some (ticking.sequencer.direction.isForward != driver.invertDirection) ∧
      (ticking.afterwards tick).sequencer.position.toInt =
        max (-2147483648) (min (ticking.sequencer.position.toInt +
          ticking.sequencer.direction.sign * limits.distancePerStep.toInt) 2147483647) := by
  obtain ⟨-, -, grown⟩ := started.run_aligned cruise calls
  obtain ⟨ticking, member, before, within, awake, facing, counted⟩ :=
    grown.allowed_of_suffix raised since
  refine ⟨ticking, member, before, within, awake, facing, ?_⟩
  rw [counted, Direction.toInt_move travel]

/-- The last step of a run that was resumed after its first rising edge had been refused. -/
theorem step_of_raised_on_bench :
    let driver := benchStarted { refuses := fun call => call == 1 }
    let calls : List Call :=
      [.enqueue ⟨0, .clamp 5, true⟩, .runUntilIdle 20, .resume, .runUntilIdle 20]
    let earlier := ((driver.run calls).hardware.history.dropWhile
      fun event => event != .drove .step true true).tail
    refusals (driver.run calls).hardware.history = 1 ∧
      .drove .step true true :: earlier <:+ (driver.run calls).hardware.history ∧
      ∃ ticking ∈ driver.ticks calls,
        ticking.hardware.history <:+ earlier ∧
        .drove .step true true :: earlier <:+ (ticking.afterwards tick).hardware.history ∧
        level? .standby earlier = some true ∧
        level? .direction earlier =
          some (ticking.sequencer.direction.isForward != driver.invertDirection) ∧
        (ticking.afterwards tick).sequencer.position.toInt =
          max (-2147483648) (min (ticking.sequencer.position.toInt +
            ticking.sequencer.direction.sign *
              Kinematics.slow.distancePerStep.toInt) 2147483647) := by
  intro driver calls earlier
  have started : driver.Started .slow :=
    ⟨bench { refuses := fun call => call == 1 }, ⟨0, rfl⟩, rfl⟩
  have raised : .drove .step true true :: earlier <:+ (driver.run calls).hardware.history := by
    decide +kernel
  have since : driver.hardware.history <:+ earlier := by decide +kernel
  exact ⟨by decide +kernel, raised,
    step_of_raised (by decide +kernel) (by decide) started calls raised since⟩

end LinearAxis.Driver
