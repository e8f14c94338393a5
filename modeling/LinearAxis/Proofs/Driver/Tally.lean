import LinearAxis.Proofs.Driver.Count

/-!
# Edges and alarms of single ticks

A tick that is done makes a rising edge if a step was due, and none if not, and leaves a step half
done if it made one and the axis goes on (`LinearAxis.Driver.Tallied.tick`).  It arms a delay alarm
for the step that is scheduled, if there is one, and leaves the alarm alone if the axis rests; it
never sleeps (`LinearAxis.Driver.Timed.tick`).
-/

namespace LinearAxis

namespace History

/-- The rising edges of the step line, whatever the direction line showed. -/
def edges (history : List Event) : Nat := risingEdges true history + risingEdges false history

/-- The interval that an event slept out. -/
def sleptFor? : Event → Option Micros
  | .slept interval => some interval
  | _ => none

theorem edges_congr {earlier later : List Event}
    (same : ∀ shown, risingEdges shown later = risingEdges shown earlier) :
    edges later = edges earlier := by
  rw [edges, edges, same, same]

end History

namespace Driver

open History

variable {capacity : Nat}

/-! ## Edges -/

/-- A driver that has made so many rising edges, with a step half done or not, and knows the levels
of its lines. -/
structure Tallied (made : Nat) (half : Bool) (driver : Driver .ready capacity) : Prop where
  half_eq : driver.halfStep = half
  step_known : level? .step driver.hardware.history = some half
  direction_known : ∃ level, level? .direction driver.hardware.history = some level
  edges_eq : edges driver.hardware.history = made

section Tallied

variable {made : Nat} {half : Bool} {driver : Driver .ready capacity}

theorem Tallied.lowered (tallied : driver.Tallied made half)
    (accepted : driver.accepts .step false = true) :
    ((driver.driven .step false).halved false).Tallied made false where
  half_eq := rfl
  step_known := driver.level?_driven rfl accepted
  direction_known := by
    obtain ⟨level, known⟩ := tallied.direction_known
    exact ⟨level, (driver.level?_driven_of_ne (by decide) false).trans known⟩
  edges_eq := (edges_congr driver.risingEdges_driven_of_falling).trans tallied.edges_eq

theorem Tallied.raised (tallied : driver.Tallied made false)
    (accepted : driver.accepts .step true = true) :
    ((driver.driven .step true).halved true).Tallied (made + 1) true where
  half_eq := rfl
  step_known := driver.level?_driven rfl accepted
  direction_known := by
    obtain ⟨level, known⟩ := tallied.direction_known
    exact ⟨level, (driver.level?_driven_of_ne (by decide) true).trans known⟩
  edges_eq := by
    obtain ⟨level, known⟩ := tallied.direction_known
    have raised := driver.risingEdges_driven_of_rising tallied.step_known known accepted
    change edges (driver.driven .step true).hardware.history = _
    rw [← tallied.edges_eq, edges, edges, raised, raised]
    cases level <;> simp only [Bool.false_eq_true, ↓reduceIte, reduceCtorEq] <;> omega

theorem Tallied.turned (tallied : driver.Tallied made half) {direction : Direction}
    (accepted : driver.accepts .direction (driver.directionLevel direction) = true) :
    (driver.turned direction).Tallied made half where
  half_eq := tallied.half_eq
  step_known := (driver.level?_driven_of_ne (by decide) _).trans tallied.step_known
  direction_known := ⟨_, driver.level?_driven rfl accepted⟩
  edges_eq := (edges_congr fun shown => driver.risingEdges_driven_of_ne (by decide) _ shown).trans
    tallied.edges_eq

theorem Tallied.standby (tallied : driver.Tallied made half) (level : Bool) :
    (driver.driven .standby level).Tallied made half where
  half_eq := tallied.half_eq
  step_known := (driver.level?_driven_of_ne (by decide) _).trans tallied.step_known
  direction_known := by
    obtain ⟨shown, known⟩ := tallied.direction_known
    exact ⟨shown, (driver.level?_driven_of_ne (by decide) level).trans known⟩
  edges_eq := (edges_congr fun shown => driver.risingEdges_driven_of_ne (by decide) _ shown).trans
    tallied.edges_eq

theorem Tallied.advanced (tallied : driver.Tallied made half) :
    driver.advanced.Tallied made half where
  half_eq := tallied.half_eq
  step_known :=
    (driver.read_announcing (level? .step) (fun _ _ => rfl) _).trans tallied.step_known
  direction_known := by
    obtain ⟨level, known⟩ := tallied.direction_known
    exact ⟨level, (driver.read_announcing (level? .direction) (fun _ _ => rfl) _).trans known⟩
  edges_eq := (driver.read_announcing edges (fun _ _ => rfl) _).trans tallied.edges_eq

theorem Tallied.requested (tallied : driver.Tallied made half) (request : AlarmRequest) :
    (driver.requested request).Tallied made half where
  half_eq := tallied.half_eq
  step_known := (driver.level?_requested request .step).trans tallied.step_known
  direction_known := by
    obtain ⟨level, known⟩ := tallied.direction_known
    exact ⟨level, (driver.level?_requested request .direction).trans known⟩
  edges_eq := (edges_congr (driver.risingEdges_requested request)).trans tallied.edges_eq

/-- The work of a tick makes a rising edge if a step is due, which is then half done, and lowers the
step line otherwise. -/
theorem Tallied.work (tallied : driver.Tallied made half)
    (low : driver.sequencer.interval = .zero → half = false) :
    Ensures work driver
      (fun _ later => later.Tallied (if driver.IsDue then made + 1 else made) (decide driver.IsDue))
      fun _ _ => True := by
  apply ensures_work
  · intro resting
    have undue : ¬ driver.IsDue := fun due => due.1 resting
    rw [if_neg undue, decide_eq_false undue, ← low resting]
    exact tallied.advanced
  · intro moving
    apply ensures_toggleStep
    · intro finishing
      have undue : ¬ driver.IsDue := fun due => Bool.false_ne_true (due.2.symm.trans finishing)
      rw [if_neg undue, decide_eq_false undue]
      apply ensures_bind
      apply ensures_drive ?_ fun _ => trivial
      intro accepted
      have fallen := tallied.lowered accepted
      refine ensures_bind (ensures_modify ?_)
      apply ensures_showDirection
      · exact fun _ => fallen
      · exact fun _ => fallen.turned
      · exact fun _ _ => trivial
    · intro ready
      have due : driver.IsDue := ⟨moving, ready⟩
      rw [if_pos due, decide_eq_true due]
      have advanced := tallied.advanced
      rw [← tallied.half_eq, ready] at advanced
      apply ensures_raise fun later => later.Tallied made false
      · exact fun _ => advanced
      · exact fun _ => advanced.turned
      · exact fun _ _ => trivial
      · exact fun _ tallied => tallied.raised
      · exact fun _ _ _ => trivial

/-- Rescheduling makes no rising edge, and finishes the step that is half done if the axis rests. -/
theorem Tallied.reschedule (tallied : driver.Tallied made half) :
    Ensures reschedule driver
      (fun _ later => later.Tallied made (half && !later.sequencer.isStopped)) fun _ _ => True := by
  apply ensures_reschedule
  · intro resting
    apply ensures_rest fun later => later.Tallied made false
    · intro low
      rwa [← tallied.half_eq, low] at tallied
    · exact fun _ accepted => tallied.lowered accepted
    · exact fun _ _ => trivial
    · intro later same tallied _
      have stopped : (later.driven .standby false).sequencer.isStopped = true :=
        Sequencer.isStopped_iff.mpr (same ▸ resting)
      rw [stopped, Bool.not_true, Bool.and_false]
      exact tallied.standby false
    · exact fun _ _ _ _ => trivial
  · intro moving
    have going : ((driver.driven .standby true).requested
        (.arm driver.sequencer.interval)).sequencer.isStopped = false :=
      Sequencer.isStopped_eq_false_iff.mpr moving
    apply ensures_bind
    apply ensures_drive ?_ fun _ => trivial
    intro _
    apply ensures_request ?_ fun _ => trivial
    intro _
    rw [going, Bool.not_false, Bool.and_true]
    exact (tallied.standby true).requested _

/-- A tick that is done makes a rising edge exactly if a step is due, and leaves a step half done
exactly if it has made one and the axis goes on. -/
theorem Tallied.tick (tallied : driver.Tallied made half)
    (low : driver.sequencer.interval = .zero → half = false) :
    Ensures tick driver
      (fun _ later => later.Tallied (if driver.IsDue then made + 1 else made)
        (decide driver.IsDue && !later.sequencer.isStopped))
      fun _ _ => True :=
  ensures_tick_of_parts (tallied.work low) (fun _ worked => worked.reschedule) fun _ _ _ => trivial

end Tallied

/-! ## Alarms -/

/-- A driver on a delay alarm in some state, with the intervals that it was armed for and that were
slept out so far, the latest first. -/
structure Timed (pending : Option Micros) (armed slept : List Micros)
    (driver : Driver .ready capacity) : Prop where
  alarm_eq : driver.hardware.alarm = .delay ⟨pending⟩
  armed_eq : driver.hardware.history.filterMap armedFor? = armed
  slept_eq : driver.hardware.history.filterMap sleptFor? = slept

section Timed

variable {pending : Option Micros} {armed slept : List Micros} {driver : Driver .ready capacity}

theorem Timed.congr (timed : driver.Timed pending armed slept) {later : Driver .ready capacity}
    (sameAlarm : later.hardware.alarm = driver.hardware.alarm)
    (sameArmed : later.hardware.history.filterMap armedFor? =
      driver.hardware.history.filterMap armedFor?)
    (sameSlept : later.hardware.history.filterMap sleptFor? =
      driver.hardware.history.filterMap sleptFor?) : later.Timed pending armed slept :=
  ⟨sameAlarm.trans timed.alarm_eq, sameArmed.trans timed.armed_eq, sameSlept.trans timed.slept_eq⟩

theorem Timed.driven (timed : driver.Timed pending armed slept) (line : Line) (level : Bool) :
    (driver.driven line level).Timed pending armed slept :=
  timed.congr (driver.alarm_driven line level)
    (driver.read_driven (List.filterMap armedFor?) fun _ _ => rfl)
    (driver.read_driven (List.filterMap sleptFor?) fun _ _ => rfl)

theorem Timed.advanced (timed : driver.Timed pending armed slept) :
    driver.advanced.Timed pending armed slept :=
  timed.congr (driver.alarm_announcing _)
    (driver.read_announcing (List.filterMap armedFor?) (fun _ _ => rfl) _)
    (driver.read_announcing (List.filterMap sleptFor?) (fun _ _ => rfl) _)

theorem Timed.halved (timed : driver.Timed pending armed slept) (halfStep : Bool) :
    (driver.halved halfStep).Timed pending armed slept :=
  timed.congr rfl rfl rfl

/-- Arming a delay alarm is remembered, and replaces what it was armed for before. -/
theorem Timed.armed_requested (timed : driver.Timed pending armed slept) (interval : Micros) :
    (driver.requested (.arm interval)).Timed (some interval) (interval :: armed) slept := by
  have noted : (driver.requested (.arm interval)).hardware.history =
      .noted (.arm interval) :: driver.hardware.history := by
    simp only [Driver.requested, Hardware.request, timed.alarm_eq, Hardware.record]
  refine ⟨alarm_requested timed.alarm_eq _, ?_, ?_⟩
  · rw [noted]
    exact congrArg (interval :: ·) timed.armed_eq
  · rw [noted]
    exact timed.slept_eq

/-- Waiting for a delay alarm sleeps out what it was armed for, and leaves it unarmed. -/
theorem Timed.waited (timed : driver.Timed pending armed slept) :
    driver.hardware.wait.1 = pending.isSome ∧
      driver.waited.Timed none armed ((DelayAlarm.mk pending).sleep?.toList ++ slept) := by
  simp only [Driver.waited, Hardware.wait, timed.alarm_eq]
  refine ⟨rfl, ?_⟩
  cases (DelayAlarm.mk pending).sleep? with
  | none => exact ⟨rfl, timed.armed_eq, timed.slept_eq⟩
  | some interval => exact ⟨rfl, timed.armed_eq, congrArg (interval :: ·) timed.slept_eq⟩

/-- The parts of a tick that make no request leave the alarm alone. -/
theorem composes_timed : Composes fun α (action : Action .ready capacity α) =>
    ∀ driver, driver.Timed pending armed slept →
      Ensures action driver (fun _ later => later.Timed pending armed slept) fun _ _ => True where
  pure _ _ timed := timed
  bind one two driver timed :=
    ensures_bind ((one driver timed).weaken (fun result later => two result later)
      fun _ _ _ => trivial)
  get_bind _ every driver := every driver driver
  drive _ _ _ timed := ensures_drive (fun _ => timed.driven _ _) fun _ => trivial
  advance _ timed := timed.advanced
  noteDirection _ _ timed := timed.congr rfl rfl rfl
  setHalfStep halfStep _ timed := timed.halved halfStep

/-- The alarm is armed for the step that is scheduled, or left alone if there is none. -/
theorem Timed.reschedule (timed : driver.Timed pending armed slept) :
    Ensures reschedule driver
      (fun _ later => if later.sequencer.interval = .zero then later.Timed pending armed slept
        else later.Timed (some later.sequencer.interval) (later.sequencer.interval :: armed) slept)
      fun _ _ => True := by
  apply ensures_reschedule
  · intro resting
    apply ensures_rest fun later => later.Timed pending armed slept
    · exact fun _ => timed
    · exact fun _ _ => (timed.driven .step false).halved false
    · exact fun _ _ => trivial
    · intro later same timed _
      have still : (later.driven .standby false).sequencer.interval = .zero := same ▸ resting
      rw [if_pos still]
      exact timed.driven .standby false
    · exact fun _ _ _ _ => trivial
  · intro moving
    apply ensures_bind
    apply ensures_drive ?_ fun _ => trivial
    intro _
    apply ensures_request ?_ fun _ => trivial
    intro _
    have going : ((driver.driven .standby true).requested
        (.arm driver.sequencer.interval)).sequencer.interval ≠ .zero := moving
    rw [if_neg going]
    exact (timed.driven .standby true).armed_requested _

theorem Timed.tick (timed : driver.Timed pending armed slept) :
    Ensures tick driver
      (fun _ later => if later.sequencer.interval = .zero then later.Timed pending armed slept
        else later.Timed (some later.sequencer.interval) (later.sequencer.interval :: armed) slept)
      fun _ _ => True :=
  ensures_tick_of_parts (composes_timed.work driver timed) (fun _ worked => worked.reschedule)
    fun _ _ _ => trivial

end Timed

end Driver

end LinearAxis
