import LinearAxis.Proofs.Driver.Blind

/-!
# Enqueuing is all or nothing

A waypoint is pushed onto the route before an idle axis is kicked, and is taken back if the kick is
refused.  An enqueuing that fails leaves nothing behind but the state of the alarm and the refusal
that made it fail, and no caller can tell afterwards that it was tried.  One that succeeds appends
the waypoint, and kicks the axis exactly if it was idle
(`LinearAxis.Driver.enqueue_all_or_nothing`).
-/

namespace LinearAxis.Driver

open History

variable {capacity : Nat}

/-! ## Drivers that cannot be told apart -/

/-- The driver with its alarm in another state. -/
def withAlarm (driver : Driver .ready capacity) (alarm : Alarm) : Driver .ready capacity :=
  { driver with hardware := { driver.hardware with alarm } }

/-- Two drivers cannot be told apart from now on.  With their alarms in the same state, whatever
else is called gets the same replies and has the same effect on both, on top of what either of them
remembers. -/
def Indistinguishable (first second : Driver .ready capacity) : Prop :=
  ∀ alarm calls,
    (first.withAlarm alarm).replies calls = (second.withAlarm alarm).replies calls ∧
    ∃ reached : Driver .ready capacity,
      (first.withAlarm alarm).run calls = reached.recalling first.hardware.history ∧
      (second.withAlarm alarm).run calls = reached.recalling second.hardware.history

/-- Drivers that differ in the state of the alarm and in what they remember cannot be told apart. -/
theorem indistinguishable_of_hardware_eq {driver later : Driver .ready capacity}
    (same : later = { driver with hardware := later.hardware })
    (sameLines : later.hardware = { driver.hardware with
      alarm := later.hardware.alarm, history := later.hardware.history }) :
    later.Indistinguishable driver := by
  intro alarm calls
  -- Both are what this driver would be, if it remembered something.
  let fresh : Driver .ready capacity :=
    { driver with hardware := { driver.hardware with alarm, history := [] } }
  have first : later.withAlarm alarm = fresh.recalling later.hardware.history := by
    rw [same, sameLines]
    rfl
  have second : driver.withAlarm alarm = fresh.recalling driver.hardware.history := rfl
  rw [first, second]
  obtain ⟨replies, reached⟩ := fresh.run_recalling later.hardware.history calls
  obtain ⟨replies', reached'⟩ := fresh.run_recalling driver.hardware.history calls
  exact ⟨replies.trans replies'.symm, fresh.run calls, reached, reached'⟩

/-! ## Enqueuing -/

section Enqueue

variable (driver : Driver .ready capacity)

/-- A call has left nothing behind: route, motion, step and lines are as before, nothing was
announced, and the driver cannot be told apart from the one before. -/
structure Unaffected (later : Driver .ready capacity) : Prop where
  sequencer_eq : later.sequencer = driver.sequencer
  halfStep_eq : later.halfStep = driver.halfStep
  shownDirection_eq : later.shownDirection = driver.shownDirection
  level_eq : ∀ line, level? line later.hardware.history = level? line driver.hardware.history
  /-- Nothing has happened but, perhaps, that a kick was refused. -/
  gained : ∃ gained, later.hardware.history = gained ++ driver.hardware.history ∧
    ∀ event ∈ gained, event = .requested .now false
  indistinguishable : later.Indistinguishable driver

/-- A waypoint has been appended, and the axis has been kicked exactly if it was idle. -/
structure Appended (waypoint : Waypoint) (later : Driver .ready capacity) : Prop where
  waypoints_eq : later.sequencer.route.waypoints = driver.sequencer.route.waypoints ++ [waypoint]
  /-- Nothing has changed but the route, the alarm and what is remembered. -/
  rest_eq : later = { driver.rerouted later.sequencer.route with hardware := later.hardware }
  kicked : driver.sequencer.route = .empty ∧ driver.sequencer.interval = .zero →
    ∃ event, later.hardware.history = event :: driver.hardware.history ∧ Kicks event ∧
      isRefusal event = false
  unkicked : ¬ (driver.sequencer.route = .empty ∧ driver.sequencer.interval = .zero) →
    later.hardware = driver.hardware

variable {driver}

theorem isIdle_iff : (driver.sequencer.route.isEmpty && driver.sequencer.isStopped) = true ↔
    driver.sequencer.route = .empty ∧ driver.sequencer.interval = .zero := by
  rw [Bool.and_eq_true, Sequencer.isStopped_iff, Route.isEmpty, List.isEmpty_iff]
  refine and_congr_left' ⟨fun nothing => Route.ext nothing, fun nothing => ?_⟩
  rw [nothing]
  rfl

theorem unaffected_refl : driver.Unaffected driver where
  sequencer_eq := rfl
  halfStep_eq := rfl
  shownDirection_eq := rfl
  level_eq _ := rfl
  gained := ⟨[], rfl, fun _ none => absurd none List.not_mem_nil⟩
  indistinguishable := indistinguishable_of_hardware_eq rfl rfl

theorem unaffected_requested (denied : driver.grants .now = false) :
    driver.Unaffected (driver.requested .now) where
  sequencer_eq := rfl
  halfStep_eq := rfl
  shownDirection_eq := rfl
  level_eq := driver.level?_requested .now
  gained := by
    rcases driver.history_requested .now with same | ⟨granted, -⟩
    · rw [denied] at same
      exact ⟨[_], same, fun _ => List.eq_of_mem_singleton⟩
    · exact absurd (denied.symm.trans granted) nofun
  indistinguishable := by
    apply indistinguishable_of_hardware_eq rfl
    simp only [requested, Hardware.request]
    cases driver.hardware.alarm <;> rfl

theorem appended_rerouted {waypoint : Waypoint} {route : Route capacity}
    (pushed : driver.sequencer.route.push waypoint = .ok route)
    (busy : (driver.sequencer.route.isEmpty && driver.sequencer.isStopped) = false) :
    driver.Appended waypoint (driver.rerouted route) where
  waypoints_eq := (driver.sequencer.route.push_eq_ok_iff.mp pushed).2.2
  rest_eq := rfl
  kicked idle := absurd (busy.symm.trans (isIdle_iff.mpr idle)) nofun
  unkicked _ := rfl

theorem appended_requested {waypoint : Waypoint} {route : Route capacity}
    (pushed : driver.sequencer.route.push waypoint = .ok route)
    (idle : (driver.sequencer.route.isEmpty && driver.sequencer.isStopped) = true)
    (granted : driver.grants .now = true) :
    driver.Appended waypoint ((driver.requested .now).rerouted route) where
  waypoints_eq := (driver.sequencer.route.push_eq_ok_iff.mp pushed).2.2
  rest_eq := rfl
  kicked _ := by
    rcases driver.history_requested .now with same | ⟨-, same⟩
    · rw [granted] at same
      exact ⟨_, same, .inr ⟨true, rfl⟩, rfl⟩
    · exact ⟨_, same, .inl rfl, rfl⟩
  unkicked busy := absurd (isIdle_iff.mp idle) busy

/-- **Enqueuing is all or nothing.** An enqueuing that is done has appended the waypoint, left the
rest of the route and the motion as they were, and kicked the axis exactly if it was idle.  One that
fails has left nothing behind: either the route refused the waypoint, and nothing has happened at
all, or the alarm refused the kick. -/
theorem enqueue_all_or_nothing (waypoint : Waypoint) :
    Ensures (enqueue waypoint) driver
      (fun _ later => driver.Appended waypoint later)
      fun error later => driver.Unaffected later ∧
        (later = driver ∧ (error = .route (.alreadyQueued waypoint.key) ∨ error = .route .full) ∨
          error = .motor .timer) := by
  apply ensures_enqueue
  · intro cause refused
    refine ⟨unaffected_refl, .inl ⟨rfl, ?_⟩⟩
    rcases driver.sequencer.route.push_eq_error_iff.mp refused with ⟨-, rfl⟩ | ⟨-, -, rfl⟩
    · exact .inl rfl
    · exact .inr rfl
  · intro route pushed busy
    exact appended_rerouted pushed busy
  · intro route pushed idle granted
    exact appended_requested pushed idle granted
  · intro route _ _ denied
    exact ⟨unaffected_requested denied, .inr rfl⟩

end Enqueue

end LinearAxis.Driver
