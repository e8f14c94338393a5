import LinearAxis.Proofs.Driver.Clean
import LinearAxis.Proofs.Driver.Lines
import LinearAxis.Proofs.Driver.Start

/-!
# The protocol of ticks

As long as nothing is refused, the lines follow the axis.  Between calls the chip is awake exactly
while a step is scheduled and the step line is high exactly while a step is half done.  The step
line is put high and low in turn, the direction line changes only under a low step line, and a tick
asks for the next one, with its last event, exactly if the axis goes on
(`LinearAxis.Driver.lines_follow_axis`).
-/

namespace LinearAxis

namespace History

/-- The levels that a line was put at, the latest first. -/
def levels (line : Line) (history : List Event) : List Bool :=
  history.filterMap fun
    | .drove other level _ => if other = line then some level else none
    | _ => none

/-- A write to the step line changes its level and is accepted; a write to the direction line
changes its level while the step line is low. -/
def Orderly : Event → List Event → Prop
  | .drove .step level accepted, earlier =>
    accepted = true ∧ level? .step earlier = some (!level)
  | .drove .direction level _, earlier =>
    level? .step earlier = some false ∧ level? .direction earlier = some (!level)
  | _, _ => True

/-- An orderly event that is no request for a tick. -/
def Quiet (event : Event) (earlier : List Event) : Prop :=
  Orderly event earlier ∧ isRequest event = false

theorem orderly_of_silent {event : Event} (silent : isSilent event = true) (earlier : List Event) :
    Orderly event earlier := by
  cases event with
  | drove line level accepted => cases silent
  | requested | noted | slept | announced => trivial

/-- An event that arms the alarm for an interval. -/
def Arms (interval : Micros) (event : Event) : Prop :=
  event = .noted (.arm interval) ∨ event = .requested (.arm interval) true

theorem odd_eq_not_even (count : Nat) : (count % 2 == 1) = !(count % 2 == 0) := by
  rcases Nat.mod_two_eq_zero_or_one count with even | odd
  · rw [even]
    rfl
  · rw [odd]
    rfl

theorem odd_succ (count : Nat) : ((count + 1) % 2 == 1) = (count % 2 == 0) := by
  rcases Nat.mod_two_eq_zero_or_one count with even | odd
  · have next : (count + 1) % 2 = 1 := by omega
    rw [even, next]
    rfl
  · have next : (count + 1) % 2 = 0 := by omega
    rw [odd, next]
    rfl

/-- From a low step line on, orderly writes put it high and low in turn. -/
theorem Grown.levels_step {begun history : List Event} (grown : Grown Orderly begun history)
    (low : level? .step begun = some false) :
    ∃ since count, history = since ++ begun ∧
      (levels .step since).reverse = (List.range count).map (fun index => index % 2 == 0) ∧
      level? .step history = some (count % 2 == 1) := by
  induction grown with
  | refl => exact ⟨[], 0, rfl, rfl, low⟩
  | @gain event history _ proper ih =>
    obtain ⟨since, count, rfl, turns, level⟩ := ih
    have other (same : levels .step (event :: since) = levels .step since)
        (still : level? .step (event :: (since ++ begun)) = level? .step (since ++ begun)) :
        ∃ since' count', event :: (since ++ begun) = since' ++ begun ∧
          (levels .step since').reverse = (List.range count').map (fun index => index % 2 == 0) ∧
          level? .step (event :: (since ++ begun)) = some (count' % 2 == 1) :=
      ⟨event :: since, count, rfl, by rw [same, turns], still.trans level⟩
    cases event with
    | drove line new accepted =>
      by_cases apart : line = .step
      · subst apart
        obtain ⟨rfl, found⟩ := proper
        have parity : new = (count % 2 == 0) := by
          rw [level, Option.some.injEq, odd_eq_not_even, Bool.not_inj_iff] at found
          exact found.symm
        refine ⟨.drove .step new true :: since, count + 1, rfl, ?_, ?_⟩
        · have gained : levels .step (.drove .step new true :: since) =
              new :: levels .step since := rfl
          rw [gained, List.reverse_cons, turns, List.range_succ, List.map_append, parity]
          rfl
        · rw [level?_cons_of_accepted, parity, odd_succ]
      · apply other
        · simp only [levels, List.filterMap_cons, apart, ↓reduceIte]
        · exact level?_cons_of_ne apart new accepted
    | requested | noted | slept | announced => exact other rfl rfl

theorem requests_eq_zero_of_quiet {begun history : List Event}
    (grown : Grown Quiet begun history) :
    ∃ since, history = since ++ begun ∧ requests since = 0 := by
  have silent : Grown (fun event _ => isRequest event = false) begun history :=
    grown.weaken fun _ _ _ _ quiet => quiet.2
  obtain ⟨since, split, none⟩ := silent.exists_append
  refine ⟨since, split, ?_⟩
  rw [requests, List.countP_eq_zero]
  exact fun event member => Bool.eq_false_iff.mp (none event member)

end History

namespace Driver

open History

variable {capacity : Nat}

/-! ## Inside a tick -/

/-- A driver that knows the levels of its step and direction lines and has been quiet since some
moment. -/
structure Tracked (begun : List Event) (driver : Driver .ready capacity) : Prop where
  step_known : level? .step driver.hardware.history = some driver.halfStep
  shows : driver.ShowsDirection
  grown : Grown Quiet begun driver.hardware.history

/-- The lines of a driver between calls. -/
structure InStep (driver : Driver .ready capacity) : Prop where
  step_known : level? .step driver.hardware.history = some driver.halfStep
  shows : driver.ShowsDirection
  standby_known : level? .standby driver.hardware.history = some (!driver.sequencer.isStopped)
  low_of_rest : driver.sequencer.interval = .zero → driver.halfStep = false

/-- A driver that has been quiet since some moment, except that it has just armed its alarm for the
step that is scheduled, if there is one. -/
def ArmedOnce (begun : List Event) (driver : Driver .ready capacity) : Prop :=
  (driver.sequencer.interval = .zero → Grown Quiet begun driver.hardware.history) ∧
    (driver.sequencer.interval ≠ .zero → ∃ event earlier,
      driver.hardware.history = event :: earlier ∧ Arms driver.sequencer.interval event ∧
        Grown Quiet begun earlier)

section Tick

variable {begun : List Event} {driver : Driver .ready capacity}

/-- A write that changes the level of the step line is one half of a step. -/
theorem Tracked.stepped (tracked : driver.Tracked begun) (level : Bool)
    (other : driver.halfStep = !level) (accepted : driver.accepts .step level = true) :
    ((driver.driven .step level).halved level).Tracked begun where
  step_known := driver.level?_driven rfl accepted
  shows := tracked.shows.driven (.inl (by decide))
  grown := by
    have known := tracked.step_known
    rw [other] at known
    exact grown_driven tracked.grown ⟨⟨accepted, known⟩, rfl⟩

theorem Tracked.turned (tracked : driver.Tracked begun) {direction : Direction}
    (low : driver.halfStep = false) (other : driver.shownDirection ≠ some direction)
    (accepted : driver.accepts .direction (driver.directionLevel direction) = true) :
    (driver.turned direction).Tracked begun where
  step_known := (driver.level?_driven_of_ne (by decide) _).trans tracked.step_known
  shows := showsDirection_turned accepted
  grown := by
    have known := tracked.step_known
    rw [low] at known
    exact grown_driven tracked.grown ⟨⟨known, tracked.shows.level_of_ne other⟩, rfl⟩

theorem Tracked.standby (tracked : driver.Tracked begun) (level : Bool) :
    (driver.driven .standby level).Tracked begun where
  step_known := (driver.level?_driven_of_ne (by decide) _).trans tracked.step_known
  shows := tracked.shows.driven (.inl (by decide))
  grown := grown_driven tracked.grown ⟨trivial, rfl⟩

theorem Tracked.advanced (tracked : driver.Tracked begun) : driver.advanced.Tracked begun where
  step_known :=
    (driver.read_announcing (level? .step) (fun _ _ => rfl) _).trans tracked.step_known
  shows := tracked.shows.advanced
  grown := grown_announcing tracked.grown (fun _ _ => ⟨trivial, rfl⟩) _

theorem Tracked.toggleStep (tracked : driver.Tracked begun) :
    Ensures toggleStep driver (fun _ later => later.Tracked begun) fun _ _ => True := by
  apply ensures_toggleStep
  · intro half
    apply ensures_bind
    apply ensures_drive ?_ fun _ => trivial
    intro accepted
    have fallen := tracked.stepped false half accepted
    refine ensures_bind (ensures_modify ?_)
    apply ensures_showDirection
    · intro _
      exact fallen
    · intro other accepted
      exact fallen.turned rfl other accepted
    · intro _ _
      trivial
  · intro low
    apply ensures_raise fun later => later.Tracked begun ∧ later.halfStep = false
    · exact fun _ => ⟨tracked.advanced, low⟩
    · exact fun other accepted => ⟨tracked.advanced.turned low other accepted, low⟩
    · exact fun _ _ => trivial
    · exact fun _ ⟨tracked, low⟩ accepted => tracked.stepped true low accepted
    · exact fun _ _ _ => trivial

theorem Tracked.work (tracked : driver.Tracked begun) :
    Ensures work driver (fun _ later => later.Tracked begun) fun _ _ => True :=
  ensures_work (fun _ => tracked.advanced) fun _ => tracked.toggleStep

/-- An axis at rest lowers its lines and stays quiet, and a moving one wakes the chip and arms its
alarm. -/
theorem Tracked.reschedule (tracked : driver.Tracked begun) :
    Ensures reschedule driver (fun _ later => later.InStep ∧ later.ArmedOnce begun)
      fun _ _ => True := by
  apply ensures_reschedule
  · intro resting
    apply ensures_rest fun later => later.Tracked begun ∧ later.halfStep = false
    · exact fun low => ⟨tracked, low⟩
    · exact fun half accepted => ⟨tracked.stepped false half accepted, rfl⟩
    · exact fun _ _ => trivial
    · intro later same ⟨tracked, low⟩ accepted
      have rests : later.sequencer.interval = .zero := same ▸ resting
      have asleep := tracked.standby false
      refine ⟨⟨asleep.step_known, asleep.shows, ?_, fun _ => low⟩, fun _ => asleep.grown,
        fun moving => absurd rests moving⟩
      have stopped : (later.driven .standby false).sequencer.isStopped = true :=
        Sequencer.isStopped_iff.mpr rests
      rw [stopped]
      exact later.level?_driven rfl accepted
    · exact fun _ _ _ _ => trivial
  · intro moving
    apply ensures_bind
    apply ensures_drive ?_ fun _ => trivial
    intro accepted
    have awake := tracked.standby true
    apply ensures_request ?_ fun _ => trivial
    intro granted
    have going : driver.sequencer.isStopped = false := Sequencer.isStopped_eq_false_iff.mpr moving
    refine ⟨⟨(level?_requested _ _ _).trans awake.step_known, awake.shows.requested _, ?_,
      fun resting => absurd resting moving⟩, fun resting => absurd resting moving, fun _ => ?_⟩
    · refine (level?_requested _ _ _).trans ((driver.level?_driven rfl accepted).trans ?_)
      change some true = some (!driver.sequencer.isStopped)
      rw [going]
      rfl
    · rcases history_requested (driver.driven .standby true) (.arm driver.sequencer.interval) with
        same | ⟨-, same⟩
      · rw [granted] at same
        exact ⟨_, _, same, .inr rfl, awake.grown⟩
      · exact ⟨_, _, same, .inl rfl, awake.grown⟩

/-- A tick that is done leaves the lines in step with the axis, and arms the alarm at most once. -/
theorem InStep.tick (inStep : driver.InStep) :
    Ensures tick driver
      (fun _ later => later.InStep ∧ later.ArmedOnce driver.hardware.history)
      fun _ _ => True := by
  have tracked : driver.Tracked driver.hardware.history :=
    ⟨inStep.step_known, inStep.shows, .refl⟩
  exact ensures_tick_of_parts tracked.work (fun _ tracked => tracked.reschedule)
    fun _ _ _ => trivial

theorem ArmedOnce.grown (armed : driver.ArmedOnce begun) :
    Grown Orderly begun driver.hardware.history := by
  have orderly {history : List Event} (quiet : Grown Quiet begun history) :
      Grown Orderly begun history :=
    quiet.weaken fun _ _ _ _ proper => proper.1
  by_cases resting : driver.sequencer.interval = .zero
  · exact orderly (armed.1 resting)
  · obtain ⟨event, earlier, same, arms, quiet⟩ := armed.2 resting
    rw [same]
    refine (orderly quiet).gain ?_
    rcases arms with rfl | rfl <;> trivial

end Tick

/-! ## Runs -/

theorem InStep.congr {driver later : Driver .ready capacity} (inStep : driver.InStep)
    (sameInterval : later.sequencer.interval = driver.sequencer.interval)
    (sameHalf : later.halfStep = driver.halfStep)
    (sameShown : later.shownDirection = driver.shownDirection)
    (sameInverted : later.invertDirection = driver.invertDirection)
    (sameLevel : ∀ line, level? line later.hardware.history =
      level? line driver.hardware.history) : later.InStep where
  step_known := by rw [sameLevel, sameHalf, inStep.step_known]
  shows := inStep.shows.congr sameShown sameInverted (sameLevel .direction)
  standby_known := by
    rw [sameLevel, inStep.standby_known, Sequencer.isStopped, Sequencer.isStopped, sameInterval]
  low_of_rest := by
    rw [sameInterval, sameHalf]
    exact inStep.low_of_rest

theorem Started.inStep {limits : Kinematics} {driver : Driver .ready capacity}
    (started : driver.Started limits) :
    driver.InStep ∧ level? .step driver.hardware.history = some false := by
  obtain ⟨unconfigured, ⟨origin, new⟩, outcome⟩ := started
  have spec := unconfigured.start_spec
  rw [outcome] at spec
  obtain ⟨same, half, shown, low, forward, -⟩ := spec
  have stopped : driver.sequencer.isStopped = true := by rw [same, new]; rfl
  refine ⟨⟨by rw [half]; exact low, ⟨.forward, shown, forward⟩, ?_, fun _ => half⟩, low⟩
  rw [stopped]
  exact standby_low_of_start outcome

/-- A run in which nothing is refused leaves the lines in step with the axis and is orderly, and
each of its ticks arms the alarm at most once. -/
theorem InStep.run {driver : Driver .ready capacity} (inStep : driver.InStep) (calls : List Call)
    (clean : refusals (driver.run calls).hardware.history = refusals driver.hardware.history) :
    (driver.run calls).InStep ∧
      Grown Orderly driver.hardware.history (driver.run calls).hardware.history ∧
      ∀ ticking ∈ driver.ticks calls,
        (ticking.afterwards Driver.tick).ArmedOnce ticking.hardware.history := by
  refine run_of_clean_moves (fun reached ticked => reached.InStep ∧
    Grown Orderly driver.hardware.history reached.hardware.history ∧ ∀ ticking ∈ ticked,
      (ticking.afterwards Driver.tick).ArmedOnce ticking.hardware.history) ?_ ?_ ?_ ?_ ?_
    ⟨inStep, .refl, fun _ none => absurd none List.not_mem_nil⟩ calls clean
  · rintro reached ticked route ⟨inStep, rest⟩
    exact ⟨inStep.congr rfl rfl rfl rfl fun _ => rfl, rest⟩
  · rintro reached ticked position ⟨inStep, rest⟩
    exact ⟨inStep.congr rfl rfl rfl rfl fun _ => rfl, rest⟩
  · rintro reached ticked ⟨inStep, grown, armed⟩
    refine ⟨inStep.congr rfl rfl rfl rfl (reached.level?_requested .now), ?_, armed⟩
    exact grown_requested grown fun _ silent => orderly_of_silent silent _
  · rintro reached ticked ⟨inStep, grown, armed⟩
    refine ⟨inStep.congr rfl rfl rfl rfl fun line => ?_, ?_, armed⟩
    · exact read_waited (level? line) fun _ _ => rfl
    · exact grown_waited grown fun _ _ => trivial
  · rintro reached ticked ⟨inStep, grown, armed⟩ done
    obtain ⟨kept, once⟩ := inStep.tick.afterwards_of_done done
    refine ⟨kept, grown.trans once.grown, ?_⟩
    intro ticking member
    rcases List.mem_append.mp member with before | here
    · exact armed ticking before
    · cases List.mem_singleton.mp here
      exact once

/-- **The lines follow the axis.** As long as nothing is refused, between calls the chip is awake
exactly while a step is scheduled, the step line is high exactly while a step is half done, and it
is low at rest.  Since the start the step line was put high, low, high, low, and so on, and the
direction line was written to only under a low step line and only to change it.  A tick that leaves
the axis moving makes one request, with its last event, for the interval that is scheduled, and a
tick that leaves it at rest makes none. -/
theorem lines_follow_axis {limits : Kinematics} {driver : Driver .ready capacity}
    (started : driver.Started limits) (calls : List Call)
    (clean : refusals (driver.run calls).hardware.history = refusals driver.hardware.history) :
    let reached := driver.run calls
    level? .standby reached.hardware.history =
        some (decide (reached.sequencer.interval ≠ .zero)) ∧
      level? .step reached.hardware.history = some reached.halfStep ∧
      (reached.sequencer.interval = .zero → level? .step reached.hardware.history = some false) ∧
      (∃ since count, reached.hardware.history = since ++ driver.hardware.history ∧
        (levels .step since).reverse =
          (List.range count).map (fun index => index % 2 == 0)) ∧
      (∀ level accepted earlier,
        .drove .direction level accepted :: earlier <:+ reached.hardware.history →
          driver.hardware.history <:+ earlier →
            level? .step earlier = some false ∧ level? .direction earlier = some (!level)) ∧
      ∀ ticking ∈ driver.ticks calls, ∃ during,
        (ticking.afterwards tick).hardware.history = during ++ ticking.hardware.history ∧
          ((ticking.afterwards tick).sequencer.interval = .zero → requests during = 0) ∧
          ((ticking.afterwards tick).sequencer.interval ≠ .zero → ∃ event others,
            during = event :: others ∧
              Arms (ticking.afterwards tick).sequencer.interval event ∧ requests others = 0) := by
  intro reached
  obtain ⟨begun, low⟩ := started.inStep
  obtain ⟨inStep, grown, armed⟩ := begun.run calls clean
  refine ⟨?_, inStep.step_known, ?_, ?_, ?_, ?_⟩
  · rw [inStep.standby_known]
    by_cases resting : reached.sequencer.interval = .zero
    · rw [Sequencer.isStopped_iff.mpr resting]
      simp [resting]
    · rw [Sequencer.isStopped_eq_false_iff.mpr resting]
      simp [resting]
  · intro resting
    rw [inStep.step_known, inStep.low_of_rest resting]
  · obtain ⟨since, count, same, turns, -⟩ := grown.levels_step low
    exact ⟨since, count, same, turns⟩
  · intro level accepted earlier gained since
    exact grown.allowed_of_suffix gained since
  · intro ticking member
    obtain ⟨rests, goes⟩ := armed ticking member
    by_cases resting : (ticking.afterwards tick).sequencer.interval = .zero
    · obtain ⟨during, same, none⟩ := requests_eq_zero_of_quiet (rests resting)
      exact ⟨during, same, fun _ => none, fun moving => absurd resting moving⟩
    · obtain ⟨event, earlier, same, arms, quiet⟩ := goes resting
      obtain ⟨others, split, none⟩ := requests_eq_zero_of_quiet quiet
      refine ⟨event :: others, ?_, fun still => absurd still resting,
        fun _ => ⟨event, others, rfl, arms, none⟩⟩
      rw [same, split, List.cons_append]

/-- Two ticks after a start the step line of a moving axis is high. -/
theorem lines_follow_axis_on_bench :
    let driver := benchStarted {}
    let calls : List Call := [.enqueue ⟨0, .clamp 3, true⟩, .tick, .tick]
    (driver.run calls).sequencer.interval ≠ .zero ∧
      level? .standby (driver.run calls).hardware.history = some true ∧
      level? .step (driver.run calls).hardware.history = some true := by
  intro driver calls
  have started : driver.Started .slow := ⟨bench {}, ⟨0, rfl⟩, rfl⟩
  have clean : refusals (driver.run calls).hardware.history = refusals driver.hardware.history := by
    decide +kernel
  have moving : (driver.run calls).sequencer.interval ≠ .zero := by decide +kernel
  have half : (driver.run calls).halfStep = true := by decide +kernel
  obtain ⟨standby, step, -⟩ := lines_follow_axis started calls clean
  refine ⟨moving, ?_, ?_⟩
  · rw [standby, decide_eq_true moving]
  · rw [step, half]

end Driver

end LinearAxis
