import LinearAxis.Proofs.Advance
import LinearAxis.Proofs.Driver.Call
import LinearAxis.Proofs.Driver.Start

/-!
# The steps that ticks count

Whatever is refused in it, a tick lets the sequencer advance once, unless it only finishes a step
that is half done, and it halts the sequencer if it fails
(`LinearAxis.Driver.sequencer_afterwards_tick`).  A step is counted by that advance, before the
writes that make its rising edge.  Where one of those is refused, the position is a step ahead of
the motor, and the tick is the only kind of tick without an edge that does not keep the position
(`LinearAxis.Driver.position_kept_iff_not_due`).
-/

namespace LinearAxis.Driver

open History

variable {capacity : Nat}

/-- A step is in flight and none is half done, so that the next tick counts a step. -/
def IsDue (driver : Driver .ready capacity) : Prop :=
  driver.sequencer.interval ≠ .zero ∧ driver.halfStep = false

instance (driver : Driver .ready capacity) : Decidable driver.IsDue :=
  inferInstanceAs (Decidable (_ ∧ _))

/-- The sequencer after the work of a tick: advanced, unless the tick finishes a step. -/
def worked (driver : Driver .ready capacity) : Sequencer capacity :=
  if driver.sequencer.interval ≠ .zero ∧ driver.halfStep = true then driver.sequencer
  else driver.sequencer.advance.1

/-! ## The sequencer after a tick -/

section Sequencer

variable {driver : Driver .ready capacity} {sequencer : Sequencer capacity}

theorem worked_of_half (moving : driver.sequencer.interval ≠ .zero)
    (half : driver.halfStep = true) : driver.worked = driver.sequencer :=
  if_pos ⟨moving, half⟩

theorem worked_of_resting (resting : driver.sequencer.interval = .zero) :
    driver.worked = driver.sequencer.advance.1 :=
  if_neg fun finishing => finishing.1 resting

theorem worked_of_low (low : driver.halfStep = false) :
    driver.worked = driver.sequencer.advance.1 :=
  if_neg fun finishing => Bool.false_ne_true (low.symm.trans finishing.2)

theorem showDirection_sequencer (same : driver.sequencer = sequencer) (direction : Direction) :
    Ensures (showDirection direction) driver (fun _ later => later.sequencer = sequencer)
      fun _ later => later.sequencer = sequencer :=
  ensures_showDirection (fun _ => same) (fun _ _ => same) fun _ _ => same

theorem reschedule_sequencer (same : driver.sequencer = sequencer) :
    Ensures reschedule driver (fun _ later => later.sequencer = sequencer)
      fun _ later => later.sequencer = sequencer := by
  apply ensures_reschedule
  · intro _
    exact ensures_rest (fun later => later.sequencer = sequencer) (fun _ => same) (fun _ _ => same)
      (fun _ _ => same) (fun _ _ same _ => same) fun _ _ same _ => same
  · intro _
    refine ensures_bind (ensures_drive (fun _ => ?_) fun _ => same)
    exact ensures_request (fun _ => same) fun _ => same

theorem work_sequencer (driver : Driver .ready capacity) :
    Ensures work driver (fun _ later => later.sequencer = driver.worked)
      fun _ later => later.sequencer = driver.worked := by
  apply ensures_work
  · intro resting
    exact (worked_of_resting resting).symm
  · intro moving
    apply ensures_toggleStep
    · intro half
      have same := (worked_of_half moving half).symm
      have fallen : ((driver.driven .step false).halved false).sequencer = driver.worked := same
      refine ensures_bind (ensures_drive (fun _ => ?_) fun _ => same)
      exact ensures_bind (ensures_modify (showDirection_sequencer fallen _))
    · intro low
      have same : driver.advanced.sequencer = driver.worked := (worked_of_low low).symm
      exact ensures_raise (fun later => later.sequencer = driver.worked) (fun _ => same)
        (fun _ _ => same) (fun _ _ => same) (fun _ same _ => same) fun _ same _ => same

/-- **The sequencer after a tick.** A tick leaves the sequencer as its work does, and halts it if it
fails. -/
theorem sequencer_afterwards_tick (driver : Driver .ready capacity) :
    (driver.afterwards tick).sequencer =
      if driver.fails tick then driver.worked.halt else driver.worked := by
  have ensures : Ensures tick driver (fun _ later => later.sequencer = driver.worked)
      fun _ later => later.sequencer = driver.worked.halt :=
    ensures_tick_of_parts driver.work_sequencer (fun _ same => reschedule_sequencer same)
      fun _ _ same => congrArg Sequencer.halt same
  have outcome := ensures.afterwards_cases
  split at outcome <;> next failed => simp only [failed, ↓reduceIte, Bool.false_eq_true, outcome]

theorem position_worked (driver : Driver .ready capacity) :
    driver.worked.position = if driver.IsDue then
      driver.sequencer.direction.move driver.sequencer.position
        driver.sequencer.limits.distancePerStep
    else driver.sequencer.position := by
  by_cases moving : driver.sequencer.interval ≠ .zero
  · cases half : driver.halfStep with
    | true =>
      have finishing : ¬ driver.IsDue := fun due => Bool.false_ne_true (due.2.symm.trans half)
      rw [worked_of_half moving half, if_neg finishing]
    | false =>
      rw [worked_of_low half, if_pos ⟨moving, half⟩, Sequencer.position_advance,
        Sequencer.completeStep_of_moving moving]
  · have resting := Decidable.not_not.mp moving
    rw [worked_of_resting resting, if_neg fun due => due.1 resting, Sequencer.position_advance,
      Sequencer.completeStep_of_resting resting]

/-- Whether or not it fails, a tick counts the step that is due, or else keeps the position. -/
theorem position_afterwards_tick (driver : Driver .ready capacity) :
    (driver.afterwards tick).sequencer.position = if driver.IsDue then
      driver.sequencer.direction.move driver.sequencer.position
        driver.sequencer.limits.distancePerStep
    else driver.sequencer.position := by
  rw [sequencer_afterwards_tick, ← position_worked]
  split <;> rfl

end Sequencer

/-! ## The edge of a step that is due -/

/-- A driver has gained an event since some history. -/
def Gained (begun : List Event) (event : Event) (driver : Driver .ready capacity) : Prop :=
  ∃ earlier, begun <:+ earlier ∧ event :: earlier <:+ driver.hardware.history

section Gained

variable {begun : List Event} {event : Event} {driver : Driver .ready capacity}

theorem Gained.remembered {later : Driver .ready capacity} (gained : driver.Gained begun event)
    (remembers : Remembers driver later) : later.Gained begun event := by
  obtain ⟨earlier, since, held⟩ := gained
  exact ⟨earlier, since, held.trans remembers⟩

theorem gained_driven (since : begun <:+ driver.hardware.history) (line : Line) (level : Bool)
    (wired : (driver.hardware.channel? line).isSome = true) :
    (driver.driven line level).Gained begun (.drove line level (driver.accepts line level)) :=
  ⟨driver.hardware.history, since, [], (driver.history_driven wired level).symm⟩

theorem Gained.mem {during : List Event} (gained : driver.Gained begun event)
    (split : driver.hardware.history = during ++ begun) : event ∈ during := by
  obtain ⟨_, ⟨between, rfl⟩, ⟨after, held⟩⟩ := gained
  have joined : after ++ event :: between ++ begun = during ++ begun := by
    rw [← split, ← held, List.append_assoc, List.cons_append]
  rw [← List.append_cancel_right joined]
  exact List.mem_append_right _ (.head _)

end Gained

/-- The edge of a step was refused, or the turn of the direction line before it. -/
def EdgeRefused (begun : List Event) (driver : Driver .ready capacity) : Prop :=
  (∃ level, driver.Gained begun (.drove .direction level false)) ∨
    driver.Gained begun (.drove .step true false)

theorem EdgeRefused.remembered {begun : List Event} {driver later : Driver .ready capacity}
    (refused : driver.EdgeRefused begun) (remembers : Remembers driver later) :
    later.EdgeRefused begun := by
  rcases refused with ⟨level, gained⟩ | gained
  · exact .inl ⟨level, gained.remembered remembers⟩
  · exact .inr (gained.remembered remembers)

section Due

variable {driver : Driver .ready capacity}

/-- The work of a tick with a step due makes the rising edge or fails because that was refused. -/
theorem IsDue.work (due : driver.IsDue) :
    Ensures work driver
      (fun _ later => later.Gained driver.hardware.history (.drove .step true true))
      fun _ later => later.EdgeRefused driver.hardware.history := by
  apply ensures_work fun resting => absurd resting due.1
  intro _
  apply ensures_toggleStep fun half => absurd (half.symm.trans due.2) nofun
  intro _
  have advanced : driver.hardware.history <:+ driver.advanced.hardware.history :=
    driver.remembers_announcing driver.sequencer.advance.2
  apply ensures_raise fun later => driver.hardware.history <:+ later.hardware.history
  · exact fun _ => advanced
  · exact fun _ _ => advanced.trans (driver.advanced.remembers_driven _ _)
  · intro _ refused
    have gained := gained_driven advanced .direction
      (driver.advanced.directionLevel driver.sequencer.direction) rfl
    rw [refused] at gained
    exact .inl ⟨_, gained⟩
  · intro later since accepted
    have gained := gained_driven since .step true rfl
    rw [accepted] at gained
    exact gained
  · intro later since refused
    have gained := gained_driven since .step true rfl
    rw [refused] at gained
    exact .inr gained

/-- A tick with a step due that does not make the rising edge fails because that was refused. -/
theorem IsDue.tick (due : driver.IsDue) :
    (driver.afterwards tick).Gained driver.hardware.history (.drove .step true true) ∨
      driver.fails tick = true ∧
        (driver.afterwards tick).EdgeRefused driver.hardware.history := by
  have ensures : Ensures Driver.tick driver
      (fun _ later => later.Gained driver.hardware.history (.drove .step true true))
      fun _ later => later.Gained driver.hardware.history (.drove .step true true) ∨
        later.EdgeRefused driver.hardware.history := by
    have works : Ensures Driver.work driver
        (fun _ later => later.Gained driver.hardware.history (.drove .step true true))
        fun _ later => later.Gained driver.hardware.history (.drove .step true true) ∨
          later.EdgeRefused driver.hardware.history :=
      due.work.weaken (fun _ _ raised => raised) fun _ _ refused => .inr refused
    refine ensures_tick_of_parts works (fun later raised => ?_) fun _ failed outcome => ?_
    · apply (keepsHistory_reschedule.ensures later).weaken
      · intro _ _ remembers
        exact raised.remembered remembers
      · intro _ _ remembers
        exact .inl (raised.remembered remembers)
    · have remembers := failed.remembers_fault
      exact outcome.imp (fun raised => raised.remembered remembers) fun refused =>
        refused.remembered remembers
  have outcome := ensures.afterwards_cases
  split at outcome
  · next failed => exact outcome.imp_right fun refused => ⟨failed, refused⟩
  · exact .inl outcome

end Due

/-- **The position without an edge.** A tick that makes no rising edge keeps the position exactly if
no step is due, or the step that is due leads beyond the range.  Where a step is due, such a tick
fails because the edge was refused, or the turn of the direction line before it. -/
theorem position_kept_iff_not_due {driver : Driver .ready capacity} {during : List Event}
    (split : (driver.afterwards tick).hardware.history = during ++ driver.hardware.history)
    (unraised : .drove .step true true ∉ during) :
    ((driver.afterwards tick).sequencer.position = driver.sequencer.position ↔
      ¬ driver.IsDue ∨ driver.sequencer.direction.move driver.sequencer.position
        driver.sequencer.limits.distancePerStep = driver.sequencer.position) ∧
      (driver.IsDue → driver.fails tick = true ∧
        ((∃ level, .drove .direction level false ∈ during) ∨
          .drove .step true false ∈ during)) := by
  constructor
  · rw [position_afterwards_tick]
    by_cases due : driver.IsDue
    · simp only [due, ↓reduceIte, not_true_eq_false, false_or]
    · simp only [due, ↓reduceIte, not_false_eq_true, true_or]
  · intro due
    rcases due.tick with raised | ⟨failed, ⟨level, refused⟩ | refused⟩
    · exact absurd (raised.mem split) unraised
    · exact ⟨failed, .inl ⟨level, refused.mem split⟩⟩
    · exact ⟨failed, .inr (refused.mem split)⟩

/-- A tick whose falling edge is refused keeps the position. -/
theorem position_kept_at_falling_edge :
    let driver := (benchStarted { refuses := fun call => call == 2 }).run
      [.enqueue ⟨0, .clamp 5, true⟩, .tick, .tick]
    let during := (driver.afterwards tick).hardware.history.take 3
    (driver.afterwards tick).hardware.history = during ++ driver.hardware.history ∧
      .drove .step true true ∉ during ∧ driver.fails tick = true ∧
      (driver.afterwards tick).sequencer.position = driver.sequencer.position := by
  intro driver during
  have split : (driver.afterwards tick).hardware.history = during ++ driver.hardware.history := by
    decide +kernel
  have unraised : .drove .step true true ∉ during := by decide +kernel
  have finishing : ¬ driver.IsDue := by decide +kernel
  exact ⟨split, unraised, by decide +kernel,
    (position_kept_iff_not_due split unraised).1.mpr (.inl finishing)⟩

/-- A tick whose rising edge is refused counts the step that the motor does not make. -/
theorem step_counted_without_edge :
    let driver := (benchStarted { refuses := fun call => call == 1 }).run
      [.enqueue ⟨0, .clamp 3, true⟩, .tick]
    let during := (driver.afterwards tick).hardware.history.take 3
    (driver.afterwards tick).hardware.history = during ++ driver.hardware.history ∧
      .drove .step true true ∉ during ∧ driver.fails tick = true ∧
      driver.sequencer.position = 0 ∧
      (driver.afterwards tick).sequencer.position = .clamp 1 := by
  decide +kernel

end LinearAxis.Driver
