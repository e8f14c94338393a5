import LinearAxis.Kit
import LinearAxis.Proofs.Driver.SetUp
import LinearAxis.Proofs.Timing

/-!
# Drivers that were started

A driver is assembled around a new sequencer, which stays new but for its position until the driver
has been started (`LinearAxis.Driver.IsNew`).  A start that succeeds leaves the step line low and
the direction line at forward, as the driver remembers them.
-/

namespace LinearAxis.Driver

open History

variable {stage stage' : Stage} {capacity : Nat}

/-- The sequencer of a driver is new, at a position that was set. -/
def IsNew (limits : Kinematics) (driver : Driver stage capacity) : Prop :=
  ∃ origin, driver.sequencer = (Sequencer.initial limits).setPosition origin

/-! ## Starting -/

/-- A start leaves the sequencer as it was, whether or not it succeeds; one that succeeds leaves the
lines at known levels, no step half done and a delay alarm unarmed. -/
theorem start_spec (driver : Driver .unconfigured capacity) :
    match driver.start with
    | .ok started => started.sequencer = driver.sequencer ∧ started.halfStep = false ∧
        started.shownDirection = some .forward ∧
        level? .step started.hardware.history = some false ∧
        level? .direction started.hardware.history = some (started.directionLevel .forward) ∧
        ∀ alarm, started.hardware.alarm = .delay alarm → alarm = ⟨none⟩
    | .error (_, failed) => failed.sequencer = driver.sequencer := by
  cases outcome : driver.start with
  | ok started =>
    have homed := homed_of_start outcome
    refine ⟨homed.sequencer_eq, homed.whole, homed.shows_forward, homed.level_eq .step rfl, ?_,
      homed.unarmed⟩
    rw [homed.level_eq .direction rfl, ← homed.homeLevel_eq]
    rfl
  | error refusal => exact (unstarted_of_start outcome).sequencer_eq

/-- A start that succeeds leaves the chip in standby. -/
theorem standby_low_of_start {driver : Driver .unconfigured capacity}
    {started : Driver .ready capacity} (outcome : driver.start = .ok started) :
    level? .standby started.hardware.history = some false :=
  (homed_of_start outcome).level_eq .standby rfl

/-- A driver that was started from a new one. -/
def Started (limits : Kinematics) (driver : Driver .ready capacity) : Prop :=
  ∃ unconfigured : Driver .unconfigured capacity,
    unconfigured.IsNew limits ∧ unconfigured.start = .ok driver

/-- An assembled driver is new, with the limits of its axis. -/
theorem isNew_of_assemble {kit : Kit} {driver : Driver .unconfigured capacity}
    (assembled : kit.assemble capacity = .ok driver) :
    ∃ axis, kit.axis = some axis ∧ driver.IsNew (.ofAxis axis) := by
  obtain ⟨stepPin, directionPin, standbyPin, modePins, timer, axis⟩ := kit
  simp only [Kit.assemble, bind, Except.bind] at assembled
  cases stepPin <;> cases directionPin <;> cases standbyPin <;> cases modePins <;> cases timer <;>
    cases axis <;> simp only [Kit.require, reduceCtorEq] at assembled
  next axis =>
    split at assembled
    · cases assembled
    · cases Except.ok.inj assembled
      exact ⟨axis, rfl, 0, rfl⟩

theorem IsNew.setPosition {limits : Kinematics} {driver : Driver stage capacity}
    (new : driver.IsNew limits) (position : Millimeters) :
    (driver.setPosition position).IsNew limits := by
  obtain ⟨origin, same⟩ := new
  exact ⟨position, by rw [Driver.setPosition, same]; rfl⟩

theorem IsNew.of_persists {limits : Kinematics} {driver : Driver stage capacity}
    {later : Driver stage' capacity} (new : driver.IsNew limits)
    (persists : driver.Persists later) : later.IsNew limits := by
  obtain ⟨origin, same⟩ := new
  exact ⟨origin, persists.sequencer_eq.trans same⟩

/-! ## A driver on the bench -/

/-- The driver of a slow axis with a delay alarm, on lines of which the step line alone may refuse
anything. -/
def bench (stepPin : Channel) : Driver .unconfigured 8 where
  name := .ofStringOrEmpty "bench"
  microstepMode := .full
  invertDirection := true
  hardware := {
    stepPin
    directionPin := {}
    standbyPin := {}
    modePins := .strapped
    alarm := .delay {} }
  sequencer := .initial .slow

/-- The driver on the bench once it was started. -/
def benchStarted (stepPin : Channel) : Driver .ready 8 :=
  match (bench stepPin).start with
  | .ok started => started
  | .error (_, failed) => failed.toReady

end LinearAxis.Driver
