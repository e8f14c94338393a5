import LinearAxis.Proofs.Advance
import LinearAxis.Proofs.Driver.Call
import LinearAxis.Proofs.Driver.Start

/-!
# The odometer

As long as nothing is refused, the step line tells where the axis is: every rising edge moves it by
one step, in the direction that the direction line shows at that moment
(`LinearAxis.Driver.position_eq_edges`).  The sequencer counts a step before the lines make it, so
that the account is off by one step inside a tick; between calls it is right.
-/

namespace LinearAxis.Driver

open History

variable {capacity : Nat}

/-- The rising edges made so far while the direction line showed forward, less those made while it
showed backward.  A high level shows forward, unless the line is inverted. -/
def netEdges (driver : Driver .ready capacity) : Int :=
  risingEdges (!driver.invertDirection) driver.hardware.history -
    risingEdges driver.invertDirection driver.hardware.history

/-- The edges are told apart by the levels that the driver puts on the direction line. -/
theorem netEdges_eq (driver : Driver .ready capacity) :
    driver.netEdges = risingEdges (driver.directionLevel .forward) driver.hardware.history -
      risingEdges (driver.directionLevel .backward) driver.hardware.history := by
  rw [netEdges, directionLevel, directionLevel]
  cases driver.invertDirection <;> rfl

theorem netEdges_congr {earlier later : Driver .ready capacity}
    (sameInverted : later.invertDirection = earlier.invertDirection)
    (sameEdges : ∀ shown, risingEdges shown later.hardware.history =
      risingEdges shown earlier.hardware.history) : later.netEdges = earlier.netEdges := by
  rw [netEdges, netEdges, sameEdges, sameEdges, sameInverted]

/-- The step that the next tick counts, if it counts one, does not lead out of the range of
positions. -/
def StaysInRange (driver : Driver .ready capacity) : Prop :=
  let position := driver.sequencer.position.toInt +
    driver.sequencer.direction.sign * driver.sequencer.limits.distancePerStep.toInt
  driver.sequencer.interval ≠ .zero → driver.halfStep = false →
    -2147483648 ≤ position ∧ position ≤ 2147483647

instance (driver : Driver .ready capacity) : Decidable driver.StaysInRange :=
  inferInstanceAs (Decidable (_ → _ → _ ∧ _))

/-- The position is an origin and the way that the edges went, and the driver knows the levels of
the step and direction lines; so many writes and requests have been refused so far. -/
structure Metered (limits : Kinematics) (refused : Nat) (origin : Int)
    (driver : Driver .ready capacity) : Prop where
  limits_eq : driver.sequencer.limits = limits
  refusals_eq : refusals driver.hardware.history = refused
  position_eq : driver.sequencer.position.toInt =
    origin + limits.distancePerStep.toInt * driver.netEdges
  step_known : level? .step driver.hardware.history = some driver.halfStep
  direction_known : ∃ direction, driver.shownDirection = some direction ∧
    level? .direction driver.hardware.history = some (driver.directionLevel direction)

section Metered

variable {limits : Kinematics} {refused : Nat} {origin : Int} {driver : Driver .ready capacity}

theorem Metered.congr (metered : driver.Metered limits refused origin)
    {later : Driver .ready capacity}
    (sameLimits : later.sequencer.limits = driver.sequencer.limits)
    (samePosition : later.sequencer.position = driver.sequencer.position)
    (sameHalf : later.halfStep = driver.halfStep)
    (sameShown : later.shownDirection = driver.shownDirection)
    (sameInverted : later.invertDirection = driver.invertDirection)
    (sameLevel : ∀ line, line = .step ∨ line = .direction →
      level? line later.hardware.history = level? line driver.hardware.history)
    (sameEdges : ∀ shown, risingEdges shown later.hardware.history =
      risingEdges shown driver.hardware.history)
    (sameRefusals : refusals later.hardware.history = refusals driver.hardware.history) :
    later.Metered limits refused origin where
  limits_eq := sameLimits.trans metered.limits_eq
  refusals_eq := sameRefusals.trans metered.refusals_eq
  position_eq := by
    rw [samePosition, metered.position_eq, netEdges_congr sameInverted sameEdges]
  step_known := by rw [sameLevel _ (.inl rfl), sameHalf, metered.step_known]
  direction_known := by
    obtain ⟨direction, shown, known⟩ := metered.direction_known
    refine ⟨direction, sameShown.trans shown, ?_⟩
    rw [sameLevel _ (.inr rfl), known, directionLevel, directionLevel, sameInverted]

theorem Metered.refused_lt_driven (metered : driver.Metered limits refused origin) {line : Line}
    {level : Bool} (refusal : driver.accepts line level = false) :
    refused < refusals (driver.driven line level).hardware.history :=
  metered.refusals_eq ▸ refusals_lt_driven refusal

theorem Metered.refused_lt_requested (metered : driver.Metered limits refused origin)
    {request : AlarmRequest} (refusal : driver.grants request = false) :
    refused < refusals (driver.requested request).hardware.history :=
  metered.refusals_eq ▸ refusals_lt_requested refusal

theorem Metered.requested (metered : driver.Metered limits refused origin)
    {request : AlarmRequest} (granted : driver.grants request = true) :
    (driver.requested request).Metered limits refused origin :=
  metered.congr rfl rfl rfl rfl rfl (fun line _ => driver.level?_requested request line)
    (driver.risingEdges_requested request) (refusals_requested_of_granted granted)

theorem Metered.standby (metered : driver.Metered limits refused origin) {level : Bool}
    (accepted : driver.accepts .standby level = true) :
    (driver.driven .standby level).Metered limits refused origin := by
  refine metered.congr rfl rfl rfl rfl rfl (fun line motion => ?_)
    (fun shown => driver.risingEdges_driven_of_ne (by decide) level shown)
    (refusals_driven_of_accepted accepted)
  refine driver.level?_driven_of_ne ?_ level
  rcases motion with rfl | rfl <;> decide

theorem Metered.announcing (metered : driver.Metered limits refused origin)
    (announcements : List Announcement) :
    (driver.announcing announcements).Metered limits refused origin :=
  metered.congr rfl rfl rfl rfl rfl
    (fun line _ => driver.read_announcing (level? line) (fun _ _ => rfl) announcements)
    (fun shown => driver.read_announcing (risingEdges shown) (fun _ _ => rfl) announcements)
    (driver.refusals_announcing announcements)

theorem Metered.rerouted (metered : driver.Metered limits refused origin) (route : Route capacity) :
    ({ driver with sequencer := { driver.sequencer with route } }).Metered limits refused origin :=
  metered.congr rfl rfl rfl rfl rfl (fun _ _ => rfl) (fun _ => rfl) rfl

theorem Metered.setPosition (metered : driver.Metered limits refused origin)
    (position : Millimeters) :
    (driver.setPosition position).Metered limits refused
      (origin + (position.toInt - driver.sequencer.position.toInt)) := by
  refine ⟨metered.limits_eq, metered.refusals_eq, ?_, metered.step_known, metered.direction_known⟩
  have account := metered.position_eq
  change position.toInt = _ + limits.distancePerStep.toInt * driver.netEdges
  omega

/-- An advance sets the account off by the way that it counts. -/
theorem Metered.advanced (metered : driver.Metered limits refused origin)
    (cruise : limits.cruiseInterval ≠ .zero) {way : Int}
    (moved : driver.sequencer.completeStep.position.toInt =
      driver.sequencer.position.toInt + way) :
    driver.advanced.Metered limits refused (origin + way) := by
  have announced := metered.announcing driver.sequencer.advance.2
  have timed : driver.sequencer.limits.cruiseInterval ≠ .zero := by
    rw [metered.limits_eq]; exact cruise
  have settles := Sequencer.settles_advance timed
  have position : driver.sequencer.position.toInt = origin + limits.distancePerStep.toInt *
      (driver.announcing driver.sequencer.advance.2).netEdges := announced.position_eq
  refine ⟨(settles.limits_eq timed).trans metered.limits_eq, announced.refusals_eq, ?_,
    announced.step_known, announced.direction_known⟩
  change driver.sequencer.advance.1.position.toInt = origin + way +
    limits.distancePerStep.toInt * (driver.announcing driver.sequencer.advance.2).netEdges
  rw [settles.position_eq, moved, position]
  omega

theorem Metered.lowered (metered : driver.Metered limits refused origin)
    (accepted : driver.accepts .step false = true) :
    ((driver.driven .step false).halved false).Metered limits refused origin where
  limits_eq := metered.limits_eq
  refusals_eq := (refusals_driven_of_accepted accepted).trans metered.refusals_eq
  position_eq := by
    have edges : ((driver.driven .step false).halved false).netEdges = driver.netEdges :=
      netEdges_congr rfl driver.risingEdges_driven_of_falling
    rw [edges]
    exact metered.position_eq
  step_known := driver.level?_driven rfl accepted
  direction_known := by
    obtain ⟨direction, shown, known⟩ := metered.direction_known
    exact ⟨direction, shown, (driver.level?_driven_of_ne (by decide) false).trans known⟩

theorem Metered.turned (metered : driver.Metered limits refused origin) {direction : Direction}
    (accepted : driver.accepts .direction (driver.directionLevel direction) = true) :
    (driver.turned direction).Metered limits refused origin where
  limits_eq := metered.limits_eq
  refusals_eq := (refusals_driven_of_accepted accepted).trans metered.refusals_eq
  position_eq := by
    have edges : (driver.turned direction).netEdges = driver.netEdges :=
      netEdges_congr rfl fun shown => driver.risingEdges_driven_of_ne (by decide) _ shown
    rw [edges]
    exact metered.position_eq
  step_known := (driver.level?_driven_of_ne (by decide) _).trans metered.step_known
  direction_known := ⟨direction, rfl, driver.level?_driven rfl accepted⟩

/-- A rising edge sets the account off by a step in the direction that is shown. -/
theorem Metered.raised (metered : driver.Metered limits refused origin)
    (low : driver.halfStep = false) {direction : Direction}
    (shown : driver.shownDirection = some direction) (accepted : driver.accepts .step true = true) :
    ((driver.driven .step true).halved true).Metered limits refused
      (origin - direction.sign * limits.distancePerStep.toInt) := by
  obtain ⟨known, same, level⟩ := metered.direction_known
  obtain rfl : known = direction := Option.some.inj (same.symm.trans shown)
  have found := metered.step_known
  rw [low] at found
  have edges : ((driver.driven .step true).halved true).netEdges =
      driver.netEdges + known.sign := by
    rw [netEdges_eq, netEdges_eq]
    change (risingEdges (driver.directionLevel .forward) (driver.driven .step true).hardware.history
      : Int) - risingEdges (driver.directionLevel .backward)
        (driver.driven .step true).hardware.history = _
    rw [driver.risingEdges_driven_of_rising found level accepted,
      driver.risingEdges_driven_of_rising found level accepted, directionLevel,
      directionLevel, directionLevel]
    cases known <;> cases driver.invertDirection <;>
      simp only [Direction.isForward, Direction.sign] <;> simp <;> omega
  refine ⟨metered.limits_eq, (refusals_driven_of_accepted accepted).trans metered.refusals_eq, ?_,
    driver.level?_driven rfl accepted, known, shown,
    (driver.level?_driven_of_ne (by decide) true).trans level⟩
  change driver.sequencer.position.toInt = _
  rw [edges, metered.position_eq, Int.mul_add, Int.mul_comm _ known.sign]
  omega

/-- A moving axis that stays in range counts as many steps as it makes edges. -/
theorem Metered.toggleStep (metered : driver.Metered limits refused origin)
    (cruise : limits.cruiseInterval ≠ .zero) (travel : 0 < limits.distancePerStep.toInt)
    (moving : driver.sequencer.interval ≠ .zero) (inRange : driver.StaysInRange) :
    Ensures toggleStep driver (fun _ later => later.Metered limits refused origin)
      fun _ later => refused < refusals later.hardware.history := by
  refine ensures_toggleStep (fun half => ?_) fun low => ?_
  · refine ensures_bind (ensures_drive (fun accepted => ?_) metered.refused_lt_driven)
    have lowered := metered.lowered accepted
    refine ensures_bind (ensures_modify ?_)
    exact ensures_showDirection (fun _ => lowered) (fun _ => lowered.turned)
      fun _ => lowered.refused_lt_driven
  · obtain ⟨least_le, le_greatest⟩ := inRange moving low
    have moved : driver.sequencer.completeStep.position.toInt = driver.sequencer.position.toInt +
        driver.sequencer.direction.sign * limits.distancePerStep.toInt := by
      rw [Sequencer.completeStep_of_moving moving]
      rw [metered.limits_eq] at least_le le_greatest ⊢
      rw [Direction.toInt_move travel]
      omega
    -- The step is counted before the line makes it: the account is off until the edge below.
    have advanced := metered.advanced cruise moved
    apply ensures_raise fun later =>
      later.Metered limits refused
          (origin + driver.sequencer.direction.sign * limits.distancePerStep.toInt) ∧
        later.halfStep = false ∧ later.shownDirection = some driver.sequencer.direction
    · exact fun shown => ⟨advanced, low, shown⟩
    · exact fun _ accepted => ⟨advanced.turned accepted, low, rfl⟩
    · exact fun _ => advanced.refused_lt_driven
    · intro later ⟨metered, low, shown⟩ accepted
      have raised := metered.raised low shown accepted
      rwa [Int.add_sub_cancel] at raised
    · exact fun _ ⟨metered, _⟩ => metered.refused_lt_driven

theorem Metered.work (metered : driver.Metered limits refused origin)
    (cruise : limits.cruiseInterval ≠ .zero) (travel : 0 < limits.distancePerStep.toInt)
    (inRange : driver.StaysInRange) :
    Ensures work driver (fun _ later => later.Metered limits refused origin)
      fun _ later => refused < refusals later.hardware.history := by
  refine ensures_work (fun resting => ?_) fun moving => ?_
  · have still : driver.sequencer.completeStep.position.toInt =
        driver.sequencer.position.toInt + 0 := by
      rw [Sequencer.completeStep_of_resting resting, Int.add_zero]
    have advanced := metered.advanced cruise still
    rwa [Int.add_zero] at advanced
  · exact metered.toggleStep cruise travel moving inRange

theorem Metered.reschedule (metered : driver.Metered limits refused origin) :
    Ensures reschedule driver (fun _ later => later.Metered limits refused origin)
      fun _ later => refused < refusals later.hardware.history := by
  refine ensures_reschedule (fun _ => ?_) fun _ => ?_
  · apply ensures_rest fun later => later.Metered limits refused origin
    · exact fun _ => metered
    · exact fun _ accepted => metered.lowered accepted
    · exact fun _ => metered.refused_lt_driven
    · exact fun _ _ metered => metered.standby
    · exact fun _ _ metered => metered.refused_lt_driven
  · refine ensures_bind (ensures_drive (fun accepted => ?_) metered.refused_lt_driven)
    have awake := metered.standby accepted
    exact ensures_request awake.requested awake.refused_lt_requested

/-- A tick in which nothing is refused keeps the account. -/
theorem Metered.tick (metered : driver.Metered limits refused origin)
    (cruise : limits.cruiseInterval ≠ .zero) (travel : 0 < limits.distancePerStep.toInt)
    (inRange : driver.StaysInRange) :
    Ensures tick driver (fun _ later => later.Metered limits refused origin)
      fun _ later => refused < refusals later.hardware.history :=
  ensures_tick_of_parts (metered.work cruise travel inRange) (fun _ worked => worked.reschedule)
    fun _ failed more => Nat.lt_of_lt_of_le more failed.remembers_fault.refusals_le

end Metered

/-! ## Runs -/

/-- Unless something more has been refused or a step has led out of range, the account is right. -/
structure Accounted (limits : Kinematics) (refused : Nat) (origin : Int)
    (driver : Driver .ready capacity) (ticked : List (Driver .ready capacity)) : Prop where
  refused_le : refused ≤ refusals driver.hardware.history
  metered : refusals driver.hardware.history = refused →
    (∀ ticking ∈ ticked, ticking.StaysInRange) → driver.Metered limits refused origin

section Accounted

variable {limits : Kinematics} {refused : Nat} {origin : Int} {driver : Driver .ready capacity}
  {ticked : List (Driver .ready capacity)}

/-- What keeps an account that is right, and forgets no refusal, keeps one that may be off. -/
theorem Accounted.of_metered (accounted : Accounted limits refused origin driver ticked)
    {later : Driver .ready capacity} {ticked' : List (Driver .ready capacity)} {origin' : Int}
    (remembers : refusals driver.hardware.history ≤ refusals later.hardware.history)
    (more : ∀ ticking ∈ ticked, ticking ∈ ticked')
    (kept : driver.Metered limits refused origin → refusals later.hardware.history = refused →
      (∀ ticking ∈ ticked', ticking.StaysInRange) → later.Metered limits refused origin') :
    Accounted limits refused origin' later ticked' where
  refused_le := Nat.le_trans accounted.refused_le remembers
  metered clean inRange := by
    -- Refusals only add up, so that none was made before either.
    have before : refusals driver.hardware.history = refused :=
      Nat.le_antisymm (clean ▸ remembers) accounted.refused_le
    exact kept (accounted.metered before fun ticking member => inRange ticking (more _ member))
      clean inRange

theorem Accounted.tick (accounted : Accounted limits refused origin driver ticked)
    (cruise : limits.cruiseInterval ≠ .zero) (travel : 0 < limits.distancePerStep.toInt) :
    Accounted limits refused origin (driver.afterwards tick) (ticked ++ [driver]) := by
  refine accounted.of_metered (keepsHistory_tick driver).refusals_le
    (fun _ member => List.mem_append_left _ member) fun metered => ?_
  intro clean inRange
  have here : driver.StaysInRange := inRange driver (List.mem_append_right _ (.head _))
  have ensures := metered.tick cruise travel here
  have kept : Ensures Driver.tick driver
      (fun _ later => refusals later.hardware.history = refused →
        later.Metered limits refused origin)
      fun _ later => refusals later.hardware.history = refused →
        later.Metered limits refused origin :=
    ensures.weaken (fun _ _ metered _ => metered) fun _ _ more same =>
      absurd same (Nat.ne_of_gt more)
  exact kept.afterwards clean

theorem Accounted.waited (accounted : Accounted limits refused origin driver ticked) :
    Accounted limits refused origin driver.waited ticked := by
  have same : refusals driver.waited.hardware.history = refusals driver.hardware.history :=
    read_waited refusals fun _ _ => List.countP_cons_of_neg (by exact Bool.false_ne_true)
  refine accounted.of_metered (Nat.le_of_eq same.symm) (fun _ member => member)
    fun metered _ _ => ?_
  exact metered.congr rfl rfl rfl rfl rfl
    (fun line _ => read_waited (level? line) fun _ _ => rfl)
    (fun shown => read_waited (risingEdges shown) fun _ _ => rfl) same

theorem Accounted.requested_now (accounted : Accounted limits refused origin driver ticked) :
    Accounted limits refused origin (driver.requested .now) ticked := by
  refine accounted.of_metered (driver.remembers_requested .now).refusals_le
    (fun _ member => member) fun metered clean _ => ?_
  cases granted : driver.grants .now with
  | true => exact metered.requested granted
  | false => exact absurd clean (Nat.ne_of_gt (metered.refused_lt_requested granted))

theorem Accounted.after_command (accounted : Accounted limits refused origin driver ticked)
    {call : Call} (command : call.isCommand = true) :
    Accounted limits refused (origin + driver.jump call) (driver.after call) ticked := by
  cases call with
  | enqueue waypoint =>
    change Accounted limits refused (origin + 0) _ _
    rw [Int.add_zero]
    apply after_enqueue fun reached => Accounted limits refused origin reached ticked
    · exact accounted
    · intro route _
      exact accounted.of_metered (Nat.le_refl _) (fun _ member => member)
        fun metered _ _ => metered.rerouted route
    · intro route _ granted
      exact accounted.of_metered (driver.remembers_requested .now).refusals_le
        (fun _ member => member) fun metered _ _ => (metered.requested granted).rerouted route
    · exact fun _ _ => accounted.requested_now
  | resume =>
    change Accounted limits refused (origin + 0) _ _
    rw [Int.add_zero]
    rcases driver.after_resume_cases with ⟨same, -⟩ | ⟨-, -, same⟩ <;> rw [same]
    · exact accounted
    · exact accounted.requested_now
  | clearRoute =>
    change Accounted limits refused (origin + 0) _ _
    rw [Int.add_zero]
    exact accounted.of_metered (Nat.le_refl _) (fun _ member => member)
      fun metered _ _ => metered.rerouted .empty
  | setPosition position =>
    exact accounted.of_metered (Nat.le_refl _) (fun _ member => member)
      fun metered _ _ => metered.setPosition position
  | service | tick | runUntilIdle => cases command

/-- Every call keeps the account, up to the jump that it makes. -/
theorem Accounted.after (accounted : Accounted limits refused origin driver ticked)
    (cruise : limits.cruiseInterval ≠ .zero) (travel : 0 < limits.distancePerStep.toInt)
    (call : Call) :
    Accounted limits refused (origin + driver.jump call) (driver.after call)
      (ticked ++ driver.ticksOf call) := by
  cases command : call.isCommand with
  | true =>
    rw [ticksOf_of_command command, List.append_nil]
    exact accounted.after_command command
  | false =>
    cases call with
    | service signal =>
      change Accounted limits refused (origin + 0) _
        (ticked ++ if signal.isPending then [driver] else [])
      rw [Int.add_zero, after_service]
      split
      · exact accounted.tick cruise travel
      · rw [List.append_nil]
        exact accounted
    | tick =>
      change Accounted limits refused (origin + 0) _ _
      rw [Int.add_zero]
      exact accounted.tick cruise travel
    | runUntilIdle limit =>
      change Accounted limits refused (origin + 0) _ _
      rw [Int.add_zero]
      exact runFrom_induction (Accounted limits refused origin)
        (fun _ _ accounted _ => accounted.waited)
        (fun _ _ accounted _ => accounted.waited.tick cruise travel) limit 0 accounted
    | enqueue | resume | clearRoute | setPosition => cases command

end Accounted

theorem Started.metered {limits : Kinematics} {driver : Driver .ready capacity}
    (started : driver.Started limits) :
    driver.Metered limits (refusals driver.hardware.history)
      (driver.sequencer.position.toInt - limits.distancePerStep.toInt * driver.netEdges) := by
  obtain ⟨unconfigured, ⟨origin, new⟩, outcome⟩ := started
  have spec := unconfigured.start_spec
  rw [outcome] at spec
  obtain ⟨same, half, shown, low, forward, -⟩ := spec
  exact ⟨by rw [same, new]; rfl, rfl, by omega, by rw [half]; exact low, .forward, shown, forward⟩

/-- **The odometer law.** As long as nothing is refused and no step leads out of range, the axis has
come, apart from the jumps, as far as the edges went that were made. -/
theorem position_eq_edges {limits : Kinematics} (cruise : limits.cruiseInterval ≠ .zero)
    (travel : 0 < limits.distancePerStep.toInt) {driver : Driver .ready capacity}
    (started : driver.Started limits) (calls : List Call)
    (clean : refusals (driver.run calls).hardware.history = refusals driver.hardware.history)
    (inRange : ∀ ticking ∈ driver.ticks calls, ticking.StaysInRange) :
    (driver.run calls).sequencer.position.toInt =
      driver.sequencer.position.toInt + driver.jumps calls +
        limits.distancePerStep.toInt * ((driver.run calls).netEdges - driver.netEdges) := by
  generalize origin_eq : driver.sequencer.position.toInt -
    limits.distancePerStep.toInt * driver.netEdges = origin
  have begun : Accounted limits (refusals driver.hardware.history) (origin + 0) driver [] := by
    rw [Int.add_zero, ← origin_eq]
    exact ⟨Nat.le_refl _, fun _ _ => started.metered⟩
  have accounted := run_induction
    (fun reached ticked jumped =>
      Accounted limits (refusals driver.hardware.history) (origin + jumped) reached ticked)
    (fun _ _ _ call accounted => by
      rw [← Int.add_assoc]
      exact accounted.after cruise travel call)
    begun calls
  have metered := accounted.metered clean inRange
  rw [metered.position_eq, Int.mul_sub]
  omega

/-- A jump to seven and four steps backward to three. -/
theorem position_eq_edges_on_bench :
    let driver := benchStarted {}
    let calls : List Call :=
      [.setPosition (.clamp 7), .enqueue ⟨0, .clamp 3, true⟩, .runUntilIdle 20]
    driver.jumps calls = 7 ∧ (driver.run calls).netEdges = -4 ∧
      (driver.run calls).sequencer.position.toInt =
        driver.sequencer.position.toInt + driver.jumps calls +
          Kinematics.slow.distancePerStep.toInt *
            ((driver.run calls).netEdges - driver.netEdges) := by
  intro driver calls
  have started : driver.Started .slow := ⟨bench {}, ⟨0, rfl⟩, rfl⟩
  have clean : refusals (driver.run calls).hardware.history = refusals driver.hardware.history := by
    decide +kernel
  have inRange : ∀ ticking ∈ driver.ticks calls, ticking.StaysInRange := by decide +kernel
  exact ⟨by decide +kernel, by decide +kernel,
    position_eq_edges (by decide +kernel) (by decide) started calls clean inRange⟩

end LinearAxis.Driver
