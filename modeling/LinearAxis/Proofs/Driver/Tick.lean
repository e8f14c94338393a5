import LinearAxis.Proofs.Driver.History
import LinearAxis.Proofs.Planning

/-!
# What ticks ensure

The rules for a tick and its parts.  A tick works, which is an advance at rest and one half of a
step in motion, and then arms its alarm again or lets the chip go to standby; if anything in it is
refused the axis is halted.
-/

namespace LinearAxis.Driver

open History

variable {capacity : Nat} {driver : Driver .ready capacity}

section Rules

variable {done : Unit → Driver .ready capacity → Prop}
  {failed : Error → Driver .ready capacity → Prop}

/-- A moving axis finishes the step that is half done, or advances and begins the step that this
counts. -/
theorem ensures_toggleStep
    (falling : driver.halfStep = true →
      Ensures (do drive .step false; setHalfStep false; showDirection driver.sequencer.direction)
        driver done failed)
    (rising : driver.halfStep = false →
      Ensures (do showDirection driver.sequencer.direction; drive .step true; setHalfStep true)
        driver.advanced done failed) :
    Ensures toggleStep driver done failed := by
  refine ensures_get ?_
  cases half : driver.halfStep with
  | true => exact falling half
  | false => exact ensures_bind (ensures_advance (rising half))

theorem ensures_work (resting : driver.sequencer.interval = .zero → done () driver.advanced)
    (moving : driver.sequencer.interval ≠ .zero → Ensures toggleStep driver done failed) :
    Ensures work driver done failed := by
  refine ensures_get ?_
  cases stopped : driver.sequencer.isStopped with
  | true => exact ensures_advance (resting (Sequencer.isStopped_iff.mp stopped))
  | false => exact moving (Sequencer.isStopped_eq_false_iff.mp stopped)

/-- A moving axis asks for the next tick, and an axis at rest goes to standby. -/
theorem ensures_reschedule
    (resting : driver.sequencer.interval = .zero →
      Ensures (do finishStep; drive .standby false) driver done failed)
    (moving : driver.sequencer.interval ≠ .zero →
      Ensures (do drive .standby true; request (.arm driver.sequencer.interval) .timer)
        driver done failed) :
    Ensures reschedule driver done failed := by
  refine ensures_get ?_
  dsimp only
  cases stopped : driver.sequencer.interval.isZero with
  | true => exact resting (Sequencer.isStopped_iff.mp stopped)
  | false => exact moving (Sequencer.isStopped_eq_false_iff.mp stopped)

/-- A rising edge follows once the direction line shows the direction of travel. -/
theorem ensures_raise {direction : Direction} (showing : Driver .ready capacity → Prop)
    (shown : driver.shownDirection = some direction → showing driver)
    (turned : driver.shownDirection ≠ some direction →
      driver.accepts .direction (driver.directionLevel direction) = true →
      showing (driver.turned direction))
    (unturned : driver.shownDirection ≠ some direction →
      driver.accepts .direction (driver.directionLevel direction) = false →
      failed MotorError.pin (driver.driven .direction (driver.directionLevel direction)))
    (raised : ∀ later, showing later → later.accepts .step true = true →
      done () ((later.driven .step true).halved true))
    (unraised : ∀ later, showing later → later.accepts .step true = false →
      failed MotorError.pin (later.driven .step true)) :
    Ensures (do showDirection direction; drive .step true; setHalfStep true) driver
      done failed := by
  have raise {later : Driver .ready capacity} (showing : showing later) :
      Ensures (do drive .step true; setHalfStep true) later done failed :=
    ensures_bind (ensures_drive (fun accepted => ensures_modify (raised later showing accepted))
      (unraised later showing))
  apply ensures_bind
  apply ensures_showDirection
  · exact fun same => raise (shown same)
  · exact fun other accepted => raise (turned other accepted)
  · exact unturned

/-- An axis at rest finishes the step that is half done, if there is one, and then lets the chip go
to standby; its sequencer has no part in that. -/
theorem ensures_rest (finished : Driver .ready capacity → Prop)
    (low : driver.halfStep = false → finished driver)
    (lowered : driver.halfStep = true → driver.accepts .step false = true →
      finished ((driver.driven .step false).halved false))
    (unlowered : driver.halfStep = true → driver.accepts .step false = false →
      failed MotorError.pin (driver.driven .step false))
    (asleep : ∀ later, later.sequencer = driver.sequencer → finished later →
      later.accepts .standby false = true → done () (later.driven .standby false))
    (awake : ∀ later, later.sequencer = driver.sequencer → finished later →
      later.accepts .standby false = false → failed MotorError.pin (later.driven .standby false)) :
    Ensures (do finishStep; drive .standby false) driver done failed := by
  apply ensures_bind
  apply ensures_finishStep
  · intro still
    have finished := low still
    exact ensures_drive (asleep _ rfl finished) (awake _ rfl finished)
  · intro half accepted
    have finished := lowered half accepted
    exact ensures_drive (asleep _ rfl finished) (awake _ rfl finished)
  · exact unlowered

theorem ensures_tick (ensures : Ensures (do work; reschedule) driver done
    fun error later => failed error later.fault) : Ensures tick driver done failed := by
  unfold Ensures at *
  rw [tick]
  split at ensures <;> next outcome => rw [outcome]; exact ensures

/-- A tick goes from its work to rescheduling, and cleans up wherever it fails. -/
theorem ensures_tick_of_parts {worked failing : Driver .ready capacity → Prop}
    (works : Ensures work driver (fun _ => worked) fun _ => failing)
    (reschedules : ∀ later, worked later → Ensures reschedule later done fun _ => failing)
    (cleansUp : ∀ error later, failing later → failed error later.fault) :
    Ensures tick driver done failed := by
  refine ensures_tick (ensures_bind (works.weaken (fun _ later held => ?_) cleansUp))
  exact (reschedules later held).weaken (fun _ _ kept => kept) cleansUp

end Rules

/-! ## Faults -/

theorem hardware_fault :
    driver.fault.hardware = ((driver.driven .step false).driven .standby false).hardware := rfl

@[simp] theorem alarm_fault : driver.fault.hardware.alarm = driver.hardware.alarm := by
  rw [hardware_fault, alarm_driven, alarm_driven]

@[simp] theorem requests_fault :
    requests driver.fault.hardware.history = requests driver.hardware.history := by
  rw [hardware_fault, requests_driven, requests_driven]

end LinearAxis.Driver
