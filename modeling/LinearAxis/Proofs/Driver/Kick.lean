import LinearAxis.Proofs.Driver.Call
import LinearAxis.Proofs.Driver.Start
import LinearAxis.Proofs.Rest

/-!
# No start is lost

A delay alarm expires once and has to be armed again on every way through a tick.  Between calls an
axis with an alarm that is not armed is at rest, and has waypoints pending only where some tick has
failed since the last request for one (`LinearAxis.Driver.idle_or_failed_of_unarmed`).
-/

namespace LinearAxis.Driver

open History

variable {capacity : Nat}

/-- Whether the delay alarm of a driver is armed. -/
def isArmed (driver : Driver .ready capacity) : Bool :=
  match driver.hardware.alarm with
  | .delay alarm => alarm.isArmed
  | .hardware .. => false

/-- A driver on a delay alarm, with a steady axis, that has made so many requests for a tick. -/
structure Paced (limits : Kinematics) (count : Nat) (driver : Driver .ready capacity) : Prop where
  limits_eq : driver.sequencer.limits = limits
  steady : driver.sequencer.Steady
  delay : ∃ alarm, driver.hardware.alarm = .delay alarm
  requests_eq : requests driver.hardware.history = count

/-- The alarm is armed, or nothing is left to do. -/
def IsServed (driver : Driver .ready capacity) : Prop :=
  driver.isArmed = true ∨
    driver.sequencer.interval = .zero ∧ driver.sequencer.route.waypoints = []

/-- The axis has a step scheduled or nothing to visit. -/
def IsSettled (driver : Driver .ready capacity) : Prop :=
  driver.sequencer.interval ≠ .zero ∨ driver.sequencer.route.waypoints = []

section Paced

variable {limits : Kinematics} {count : Nat} {driver : Driver .ready capacity}

theorem Paced.congr (paced : driver.Paced limits count) {later : Driver .ready capacity}
    (sameSequencer : later.sequencer = driver.sequencer)
    (sameAlarm : later.hardware.alarm = driver.hardware.alarm)
    (sameRequests : requests later.hardware.history = requests driver.hardware.history) :
    later.Paced limits count := by
  refine ⟨?_, ?_, ?_, sameRequests.trans paced.requests_eq⟩
  · rw [sameSequencer]; exact paced.limits_eq
  · rw [sameSequencer]; exact paced.steady
  · rw [sameAlarm]; exact paced.delay

theorem Paced.recounted (paced : driver.Paced limits count) :
    driver.Paced limits (requests driver.hardware.history) :=
  ⟨paced.limits_eq, paced.steady, paced.delay, rfl⟩

theorem Paced.driven (paced : driver.Paced limits count) (line : Line) (level : Bool) :
    (driver.driven line level).Paced limits count :=
  paced.congr rfl (driver.alarm_driven line level) (driver.requests_driven line level)

theorem Paced.turned (paced : driver.Paced limits count) (direction : Direction) :
    (driver.turned direction).Paced limits count :=
  (paced.driven .direction (driver.directionLevel direction)).congr rfl rfl rfl

theorem Paced.halved (paced : driver.Paced limits count) (halfStep : Bool) :
    (driver.halved halfStep).Paced limits count :=
  paced.congr rfl rfl rfl

theorem Paced.rerouted (paced : driver.Paced limits count) (route : Route capacity) :
    ({ driver with sequencer := { driver.sequencer with route } }).Paced limits count :=
  ⟨paced.limits_eq, paced.steady.congr rfl rfl rfl, paced.delay, paced.requests_eq⟩

/-- An advance keeps the pace, and settles the axis. -/
theorem Paced.advanced (paced : driver.Paced limits count)
    (cruise : limits.cruiseInterval ≠ .zero) :
    driver.advanced.Paced limits count ∧ driver.advanced.IsSettled := by
  have timed : driver.sequencer.limits.cruiseInterval ≠ .zero := by
    rw [paced.limits_eq]; exact cruise
  obtain ⟨steady, settled⟩ := paced.steady.advance timed
  have announced : (driver.announcing driver.sequencer.advance.2).Paced limits count :=
    paced.congr rfl (driver.alarm_announcing _) (driver.requests_announcing _)
  exact ⟨⟨((Sequencer.settles_advance timed).limits_eq timed).trans paced.limits_eq, steady,
    announced.delay, announced.requests_eq⟩, settled⟩

theorem Paced.fault (paced : driver.Paced limits count) :
    driver.fault.Paced limits count ∧ driver.fault.sequencer.interval = .zero := by
  refine ⟨⟨paced.limits_eq, Sequencer.steady_halt, ?_, requests_fault.trans paced.requests_eq⟩, rfl⟩
  rw [alarm_fault]
  exact paced.delay

theorem Paced.granted (paced : driver.Paced limits count) (request : AlarmRequest) :
    driver.grants request = true := by
  obtain ⟨alarm, delay⟩ := paced.delay
  simp only [grants, Hardware.request, delay]

theorem Paced.requested (paced : driver.Paced limits count) (request : AlarmRequest) :
    (driver.requested request).Paced limits
      (requests (driver.requested request).hardware.history) := by
  obtain ⟨alarm, delay⟩ := paced.delay
  exact ⟨paced.limits_eq, paced.steady, ⟨_, alarm_requested delay request⟩, rfl⟩

theorem Paced.isArmed_requested (paced : driver.Paced limits count) {request : AlarmRequest}
    (tick : request ≠ .start) : (driver.requested request).isArmed = true := by
  obtain ⟨alarm, delay⟩ := paced.delay
  rw [isArmed, alarm_requested delay]
  cases request with
  | start => exact absurd rfl tick
  | arm interval => rfl
  | now => rfl

theorem Paced.toggleStep (paced : driver.Paced limits count)
    (cruise : limits.cruiseInterval ≠ .zero) (moving : driver.sequencer.interval ≠ .zero) :
    Ensures toggleStep driver (fun _ later => later.Paced limits count ∧ later.IsSettled)
      fun _ later => later.Paced limits count := by
  refine ensures_toggleStep (fun _ => ?_) fun _ => ?_
  · have fallen := (paced.driven .step false).halved false
    refine ensures_bind (ensures_drive (fun _ => ensures_bind (ensures_modify ?_))
      fun _ => paced.driven .step false)
    exact ensures_showDirection (fun _ => ⟨fallen, .inl moving⟩)
      (fun _ _ => ⟨fallen.turned _, .inl moving⟩) fun _ _ => fallen.driven .direction _
  · obtain ⟨advanced, settled⟩ := paced.advanced cruise
    apply ensures_raise fun later => later.Paced limits count ∧ later.IsSettled
    · exact fun _ => ⟨advanced, settled⟩
    · exact fun _ _ => ⟨advanced.turned _, settled⟩
    · exact fun _ _ => advanced.driven .direction _
    · exact fun _ ⟨paced, settled⟩ _ => ⟨(paced.driven .step true).halved true, settled⟩
    · exact fun _ ⟨paced, _⟩ _ => paced.driven .step true

theorem Paced.work (paced : driver.Paced limits count) (cruise : limits.cruiseInterval ≠ .zero) :
    Ensures work driver (fun _ later => later.Paced limits count ∧ later.IsSettled)
      fun _ later => later.Paced limits count :=
  ensures_work (fun _ => paced.advanced cruise) (paced.toggleStep cruise)

/-- A settled axis has its alarm armed again, or has nothing left to do; only a refused line keeps
it from that, and then no request is made. -/
theorem Paced.reschedule (paced : driver.Paced limits count) (settled : driver.IsSettled) :
    Ensures reschedule driver
      (fun _ later => later.Paced limits (requests later.hardware.history) ∧ later.IsServed)
      fun _ later => later.Paced limits count := by
  refine ensures_reschedule (fun resting => ?_) fun _ => ?_
  · have idle := settled.resolve_left (fun moving => moving resting)
    apply ensures_rest fun later => later.Paced limits count
    · exact fun _ => paced
    · exact fun _ _ => (paced.driven .step false).halved false
    · exact fun _ _ => paced.driven .step false
    · intro later same paced _
      have rests : later.sequencer.interval = .zero ∧ later.sequencer.route.waypoints = [] :=
        same ▸ ⟨resting, idle⟩
      exact ⟨(paced.driven .standby false).recounted, .inr rests⟩
    · exact fun _ _ paced _ => paced.driven .standby false
  · refine ensures_bind (ensures_drive (fun _ => ?_) fun _ => paced.driven .standby true)
    have awake := paced.driven .standby true
    have granted := awake.granted (.arm driver.sequencer.interval)
    refine ensures_request (fun _ => ⟨awake.requested _, .inl ?_⟩) fun refused => ?_
    · exact awake.isArmed_requested nofun
    · rw [granted] at refused
      cases refused

/-- A tick arms the alarm again or leaves nothing to do; one that fails makes no request and stops
the axis. -/
theorem Paced.tick (paced : driver.Paced limits count) (cruise : limits.cruiseInterval ≠ .zero) :
    Ensures tick driver
      (fun _ later => later.Paced limits (requests later.hardware.history) ∧ later.IsServed)
      fun _ later => later.Paced limits count ∧ later.sequencer.interval = .zero :=
  ensures_tick_of_parts (paced.work cruise)
    (fun _ ⟨paced, settled⟩ => paced.reschedule settled) fun _ _ failed => failed.fault

end Paced

/-! ## Runs -/

/-- Some tick has failed since the last request for one. -/
def IsStranded (driver : Driver .ready capacity) (ticked : List (Driver .ready capacity)) : Prop :=
  ∃ ticking ∈ ticked, ticking.fails tick = true ∧
    requests driver.hardware.history = requests ticking.hardware.history

/-- An axis whose alarm is not armed is at rest, and either it has nothing to visit or some tick has
failed since the last request for one. -/
structure Attended (limits : Kinematics) (driver : Driver .ready capacity)
    (ticked : List (Driver .ready capacity)) : Prop where
  paced : driver.Paced limits (requests driver.hardware.history)
  rests : driver.isArmed = false → driver.sequencer.interval = .zero
  idle_or_stranded : driver.isArmed = false →
    driver.sequencer.route.waypoints = [] ∨ driver.IsStranded ticked

section Attended

variable {limits : Kinematics} {driver : Driver .ready capacity}
  {ticked : List (Driver .ready capacity)}

theorem attended_of_armed (paced : driver.Paced limits (requests driver.hardware.history))
    (armed : driver.isArmed = true) : Attended limits driver ticked :=
  ⟨paced, fun unarmed => absurd (armed.symm.trans unarmed) nofun,
    fun unarmed => absurd (armed.symm.trans unarmed) nofun⟩

/-- After a tick an axis is attended, whatever it was before. -/
theorem Paced.attended_tick (paced : driver.Paced limits (requests driver.hardware.history))
    (cruise : limits.cruiseInterval ≠ .zero) :
    Attended limits (driver.afterwards Driver.tick) (ticked ++ [driver]) := by
  have ensures := paced.tick cruise
  unfold Ensures at ensures
  unfold afterwards
  cases outcome : Driver.tick driver with
  | ok result later =>
    rw [outcome] at ensures
    obtain ⟨paced, armed | ⟨resting, idle⟩⟩ := ensures
    · exact attended_of_armed paced armed
    · exact ⟨paced, fun _ => resting, fun _ => .inl idle⟩
  | error error later =>
    rw [outcome] at ensures
    obtain ⟨halted, resting⟩ := ensures
    refine ⟨halted.recounted, fun _ => resting, fun _ => .inr ⟨driver, ?_, ?_, halted.requests_eq⟩⟩
    · exact List.mem_append_right _ (.head _)
    · rw [fails, outcome]

theorem Attended.requested_now (attended : Attended limits driver ticked) :
    Attended limits (driver.requested .now) ticked :=
  attended_of_armed (attended.paced.requested .now) (attended.paced.isArmed_requested (by decide))

/-- What leaves the hardware alone keeps an axis attended, unless it gives an axis with nothing to
visit something to do. -/
theorem Attended.congr (attended : Attended limits driver ticked) {later : Driver .ready capacity}
    (sameHardware : later.hardware = driver.hardware)
    (sameLimits : later.sequencer.limits = driver.sequencer.limits)
    (steady : later.sequencer.Steady)
    (sameInterval : later.sequencer.interval = driver.sequencer.interval)
    (idle : driver.sequencer.interval = .zero → driver.sequencer.route.waypoints = [] →
      later.sequencer.route.waypoints = []) : Attended limits later ticked := by
  have armed : later.isArmed = driver.isArmed := by rw [isArmed, isArmed, sameHardware]
  constructor
  · rw [sameHardware]
    refine ⟨sameLimits.trans attended.paced.limits_eq, steady, ?_, by rw [sameHardware]⟩
    rw [sameHardware]
    exact attended.paced.delay
  · rw [armed, sameInterval]
    exact attended.rests
  · intro unarmed
    rw [armed] at unarmed
    rcases attended.idle_or_stranded unarmed with nothing | ⟨ticking, member, failed, same⟩
    · exact .inl (idle (attended.rests unarmed) nothing)
    · exact .inr ⟨ticking, member, failed, by rw [sameHardware]; exact same⟩

/-- A delay alarm that is waited for expires if it was armed, and keeps its pace. -/
theorem Paced.waited (paced : driver.Paced limits (requests driver.hardware.history)) :
    driver.hardware.wait.1 = driver.isArmed ∧ driver.waited.isArmed = false ∧
      driver.waited.Paced limits (requests driver.hardware.history) := by
  obtain ⟨alarm, delay⟩ := paced.delay
  have same : requests driver.waited.hardware.history = requests driver.hardware.history :=
    read_waited requests fun _ _ => List.countP_cons_of_neg (by exact Bool.false_ne_true)
  have expired : driver.waited.hardware.alarm = .delay alarm.expired := by
    simp only [Driver.waited, Hardware.wait, delay]
    split <;> rfl
  refine ⟨?_, ?_, paced.limits_eq, paced.steady, ⟨_, expired⟩, same⟩
  · simp only [Hardware.wait, isArmed, delay]
  · rw [isArmed, expired]
    rfl

theorem Attended.waited (attended : Attended limits driver ticked)
    (expired : driver.hardware.wait.1 = false) : Attended limits driver.waited ticked := by
  obtain ⟨armed, -, paced⟩ := attended.paced.waited
  rw [expired] at armed
  refine ⟨paced.recounted, fun _ => attended.rests armed.symm, fun _ => ?_⟩
  rcases attended.idle_or_stranded armed.symm with nothing | ⟨ticking, member, failed, same⟩
  · exact .inl nothing
  · exact .inr ⟨ticking, member, failed, paced.requests_eq.trans same⟩

/-- A command keeps an axis attended: it kicks an idle axis that it gives something to do. -/
theorem Attended.after_command (attended : Attended limits driver ticked) {call : Call}
    (command : call.isCommand = true) : Attended limits (driver.after call) ticked := by
  have steady := attended.paced.steady
  cases call with
  | enqueue waypoint =>
    apply after_enqueue fun reached => Attended limits reached ticked
    · exact attended
    · -- An axis at rest with nothing to visit would have been kicked.
      intro route busy
      refine attended.congr rfl rfl (steady.congr rfl rfl rfl) rfl fun resting nothing => ?_
      have stopped := Sequencer.isStopped_iff.mpr resting
      rw [stopped, Route.isEmpty, nothing] at busy
      cases busy
    · intro route _ _
      exact attended_of_armed ((attended.paced.requested .now).rerouted route)
        (attended.paced.isArmed_requested (by decide))
    · exact fun _ _ => attended.requested_now
  | resume =>
    rcases driver.after_resume_cases with ⟨same, -⟩ | ⟨-, -, same⟩ <;> rw [same]
    · exact attended
    · exact attended.requested_now
  | clearRoute => exact attended.congr rfl rfl (steady.congr rfl rfl rfl) rfl fun _ _ => rfl
  | setPosition position =>
    exact attended.congr rfl rfl (steady.congr rfl rfl rfl) rfl fun _ nothing => nothing
  | service | tick | runUntilIdle => cases command

theorem Attended.after (attended : Attended limits driver ticked)
    (cruise : limits.cruiseInterval ≠ .zero) (call : Call) :
    Attended limits (driver.after call) (ticked ++ driver.ticksOf call) := by
  cases command : call.isCommand with
  | true =>
    rw [ticksOf_of_command command, List.append_nil]
    exact attended.after_command command
  | false =>
    cases call with
    | service signal =>
      change Attended limits _ (ticked ++ if signal.isPending then [driver] else [])
      rw [after_service]
      split
      · exact attended.paced.attended_tick cruise
      · rw [List.append_nil]
        exact attended
    | tick => exact attended.paced.attended_tick cruise
    | runUntilIdle limit =>
      refine runFrom_induction (Attended limits) (fun driver ticked attended expired => ?_)
        (fun driver ticked attended _ => ?_) limit 0 attended
      · exact attended.waited expired
      · obtain ⟨-, -, paced⟩ := attended.paced.waited
        exact paced.recounted.attended_tick cruise
    | enqueue | resume | clearRoute | setPosition => cases command

end Attended

theorem Started.attended {limits : Kinematics} {driver : Driver .ready capacity}
    (started : driver.Started limits) {alarm : DelayAlarm}
    (delay : driver.hardware.alarm = .delay alarm) : Attended limits driver [] := by
  obtain ⟨unconfigured, ⟨origin, new⟩, outcome⟩ := started
  have spec := unconfigured.start_spec
  rw [outcome] at spec
  have same : driver.sequencer = (Sequencer.initial limits).setPosition origin := spec.1.trans new
  refine ⟨⟨by rw [same]; rfl, ?_, ⟨alarm, delay⟩, rfl⟩, fun _ => by rw [same]; rfl,
    fun _ => .inl (by rw [same]; rfl)⟩
  rw [same]
  exact Sequencer.steady_of_resting rfl rfl rfl

theorem hardware_after_command {driver : Driver .ready capacity}
    (moving : driver.sequencer.interval ≠ .zero) {call : Call} (command : call.isCommand = true) :
    (driver.after call).hardware = driver.hardware := by
  have going := Sequencer.isStopped_eq_false_iff.mpr moving
  cases call with
  | enqueue waypoint =>
    have busy : (driver.sequencer.route.isEmpty && driver.sequencer.isStopped) = false := by
      rw [going, Bool.and_false]
    apply after_enqueue fun reached => reached.hardware = driver.hardware
    · rfl
    · exact fun _ _ => rfl
    · exact fun _ idle _ => absurd (busy.symm.trans idle) nofun
    · exact fun idle _ => absurd (busy.symm.trans idle) nofun
  | resume =>
    rcases driver.after_resume_cases with ⟨same, -⟩ | ⟨resting, -, -⟩
    · rw [same]
    · exact absurd resting moving
  | clearRoute | setPosition => rfl
  | service | tick | runUntilIdle => cases command

/-- **No start is lost.** Between calls, an axis whose delay alarm is not armed is at rest, and has
nothing to visit unless some tick has failed since the last request for one; and a moving axis makes
no request when there is more or less to do. -/
theorem idle_or_failed_of_unarmed {limits : Kinematics} (cruise : limits.cruiseInterval ≠ .zero)
    {driver : Driver .ready capacity} (started : driver.Started limits) {alarm : DelayAlarm}
    (delay : driver.hardware.alarm = .delay alarm) (calls : List Call) :
    let reached := driver.run calls
    (reached.isArmed = false → reached.sequencer.interval = .zero ∧
      (reached.sequencer.route = .empty ∨
        ∃ ticking ∈ driver.ticks calls, ticking.fails tick = true ∧
          requests reached.hardware.history = requests ticking.hardware.history)) ∧
    (reached.sequencer.interval ≠ .zero → ∀ call : Call, call.isCommand = true →
      (reached.after call).hardware = reached.hardware) := by
  intro reached
  have attended := run_induction (fun reached ticked _ => Attended limits reached ticked)
    (fun _ _ _ call attended => attended.after cruise call) (started.attended delay) calls
  refine ⟨fun unarmed => ⟨attended.rests unarmed, ?_⟩,
    fun moving _ => hardware_after_command moving⟩
  rcases attended.idle_or_stranded unarmed with nothing | stranded
  · exact .inl (Route.ext nothing)
  · exact .inr stranded

/-- Where the first rising edge is refused, the run that it ends leaves a waypoint behind, and the
alarm is not armed. -/
theorem idle_or_failed_on_bench :
    let driver := benchStarted { refuses := fun call => call == 1 }
    let calls : List Call := [.enqueue ⟨0, .clamp 3, true⟩, .runUntilIdle 20]
    (driver.run calls).isArmed = false ∧ (driver.run calls).sequencer.interval = .zero ∧
      ∃ ticking ∈ driver.ticks calls, ticking.fails tick = true ∧
        requests (driver.run calls).hardware.history = requests ticking.hardware.history := by
  intro driver calls
  have started : driver.Started .slow :=
    ⟨bench { refuses := fun call => call == 1 }, ⟨0, rfl⟩, rfl⟩
  have cruise : Kinematics.slow.cruiseInterval ≠ .zero := by decide +kernel
  have delay : driver.hardware.alarm = .delay {} := rfl
  have unarmed : (driver.run calls).isArmed = false := by decide +kernel
  have pending : (driver.run calls).sequencer.route ≠ .empty := by decide +kernel
  obtain ⟨resting, idle | stranded⟩ :=
    (idle_or_failed_of_unarmed cruise started delay calls).1 unarmed
  · exact absurd idle pending
  · exact ⟨unarmed, resting, stranded⟩

end LinearAxis.Driver
