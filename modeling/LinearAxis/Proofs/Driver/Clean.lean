import LinearAxis.Proofs.Driver.Lines

/-!
# Runs in which nothing is refused

A tick fails at the first write or request that is refused, and the history remembers that
(`LinearAxis.Driver.exists_hindered_of_fails`).  In a run that ends with no more refusals than it
began with, every tick was therefore done, and what moves and ticks that are done keep holds after
the run (`LinearAxis.Driver.run_of_clean_moves`).
-/

namespace LinearAxis.Driver

open History

variable {capacity : Nat} {α : Type}

/-! ## The first refusal -/

/-- Since some time nothing has been refused and no alarm armed. -/
def Unhindered (begun : List Event) (driver : Driver .ready capacity) : Prop :=
  Grown (fun event _ => isRefusal event = false ∧ armedFor? event = none) begun
    driver.hardware.history

/-- A driver was unhindered until a refusal, which is the latest that happened. -/
def Hindered (begun : List Event) (driver : Driver .ready capacity) : Prop :=
  ∃ refusal earlier, driver.hardware.history = refusal :: earlier ∧ isRefusal refusal = true ∧
    Grown (fun event _ => isRefusal event = false ∧ armedFor? event = none) begun earlier

section Hindered

variable {begun : List Event} {driver : Driver .ready capacity}

theorem Unhindered.driven (unhindered : driver.Unhindered begun) {line : Line} {level : Bool}
    (accepted : driver.accepts line level = true) :
    (driver.driven line level).Unhindered begun := by
  apply grown_driven unhindered
  rw [accepted]
  exact ⟨rfl, rfl⟩

theorem Unhindered.hindered_driven (unhindered : driver.Unhindered begun) {line : Line}
    {level : Bool} (refused : driver.accepts line level = false) :
    (driver.driven line level).Hindered begun := by
  cases wired : driver.hardware.channel? line with
  | none =>
    rw [(driver.driven_of_unwired wired level).2] at refused
    cases refused
  | some channel =>
    refine ⟨_, _, driver.history_driven (by rw [wired]; rfl) level, ?_, unhindered⟩
    rw [refused]
    rfl

theorem Unhindered.hindered_requested (unhindered : driver.Unhindered begun)
    {request : AlarmRequest} (refused : driver.grants request = false) :
    (driver.requested request).Hindered begun := by
  rcases driver.history_requested request with same | ⟨granted, -⟩
  · refine ⟨_, _, same, ?_, unhindered⟩
    rw [refused]
    rfl
  · rw [refused] at granted
    cases granted

/-- What hinders a driver is a refusal more. -/
theorem Hindered.refusals_lt (hindered : driver.Hindered begun) :
    refusals begun < refusals driver.hardware.history := by
  obtain ⟨refusal, earlier, same, refused, unhindered⟩ := hindered
  rw [same, refusals, refusals, List.countP_cons_of_pos refused]
  exact Nat.lt_succ_of_le unhindered.suffix.sublist.countP_le

end Hindered

/-- An action is done without a hindrance, or fails at the first one. -/
def StopsAtRefusal (action : Action .ready capacity α) : Prop :=
  ∀ begun (driver : Driver .ready capacity), driver.Unhindered begun →
    Ensures action driver (fun _ later => later.Unhindered begun)
      fun _ later => later.Hindered begun

/-- Every part of a tick but the last fails at the first refusal and arms no alarm. -/
theorem composes_stopsAtRefusal :
    Composes fun α (action : Action .ready capacity α) => StopsAtRefusal action where
  pure _ _ _ unhindered := unhindered
  bind one two begun driver unhindered := by
    apply ensures_bind
    exact (one begun driver unhindered).weaken (fun result later => two result begun later)
      fun _ _ hindered => hindered
  get_bind _ every begun driver := every driver begun driver
  drive _ _ _ _ unhindered := ensures_drive unhindered.driven unhindered.hindered_driven
  advance _ driver unhindered := grown_announcing unhindered (fun _ _ => ⟨rfl, rfl⟩) _
  noteDirection _ _ _ unhindered := unhindered
  setHalfStep _ _ _ unhindered := unhindered

/-- What ends a tick fails at the first refusal as well, and arms the alarm with its last event. -/
theorem Unhindered.reschedule {begun : List Event} {driver : Driver .ready capacity}
    (unhindered : driver.Unhindered begun) :
    Ensures reschedule driver (fun _ _ => True) fun _ later => later.Hindered begun := by
  apply ensures_reschedule
  · intro _
    have lowered := composes_stopsAtRefusal.bind composes_stopsAtRefusal.finishStep
      (fun _ => composes_stopsAtRefusal.drive .standby false) begun driver unhindered
    exact lowered.weaken (fun _ _ _ => trivial) fun _ _ hindered => hindered
  · intro _
    refine ensures_bind (ensures_drive (fun accepted => ?_) unhindered.hindered_driven)
    have awake := unhindered.driven accepted
    exact ensures_request (fun _ => trivial) awake.hindered_requested

/-- A tick that fails has been unhindered up to a refusal, and nothing but the clean-up follows. -/
theorem exists_hindered_of_fails {driver : Driver .ready capacity}
    (failed : driver.fails tick = true) : ∃ failing : Driver .ready capacity,
      driver.afterwards tick = failing.fault ∧ failing.Hindered driver.hardware.history := by
  have ensures : Ensures tick driver (fun _ _ => True) fun _ later =>
      ∃ failing : Driver .ready capacity,
        later = failing.fault ∧ failing.Hindered driver.hardware.history :=
    ensures_tick_of_parts (composes_stopsAtRefusal.work driver.hardware.history driver .refl)
      (fun _ unhindered => unhindered.reschedule)
      fun _ failing hindered => ⟨failing, rfl, hindered⟩
  have outcome := ensures.afterwards_cases
  rwa [if_pos failed] at outcome

/-- A tick after which nothing more has been refused was done. -/
theorem tick_done_of_clean {driver : Driver .ready capacity}
    (clean : refusals (driver.afterwards tick).hardware.history ≤
      refusals driver.hardware.history) : driver.fails tick = false := by
  rw [← Bool.not_eq_true]
  intro failed
  obtain ⟨failing, same, hindered⟩ := exists_hindered_of_fails failed
  rw [same] at clean
  have more := Nat.lt_of_lt_of_le hindered.refusals_lt failing.remembers_fault.refusals_le
  exact absurd clean (Nat.not_le.mpr more)

/-! ## Runs -/

/-- In a run in which nothing is refused, what moves keep, and what ticks that are done keep, holds
at its end, of the drivers that its ticks started from. -/
theorem run_of_clean_moves
    (holds : Driver .ready capacity → List (Driver .ready capacity) → Prop)
    (routed : ∀ driver ticked route, holds driver ticked → holds (driver.rerouted route) ticked)
    (placed : ∀ driver ticked position, holds driver ticked →
      holds (driver.setPosition position) ticked)
    (kicked : ∀ driver ticked, holds driver ticked → holds (driver.requested .now) ticked)
    (rested : ∀ driver ticked, holds driver ticked → holds driver.waited ticked)
    (served : ∀ driver ticked, holds driver ticked → driver.fails tick = false →
      holds (driver.afterwards tick) (ticked ++ [driver]))
    {driver : Driver .ready capacity} (begun : holds driver []) (calls : List Call)
    (clean : refusals (driver.run calls).hardware.history = refusals driver.hardware.history) :
    holds (driver.run calls) (driver.ticks calls) := by
  -- Refusals only add up: a driver with as many as in the beginning was always such a driver.
  suffices counted : refusals driver.hardware.history ≤
        refusals (driver.run calls).hardware.history ∧
      (refusals (driver.run calls).hardware.history ≤ refusals driver.hardware.history →
        holds (driver.run calls) (driver.ticks calls)) from counted.2 (Nat.le_of_eq clean)
  have grows {earlier later : Driver .ready capacity} (remembers : Remembers earlier later)
      {ticked ticked' : List (Driver .ready capacity)}
      (kept : holds earlier ticked →
        refusals later.hardware.history ≤ refusals earlier.hardware.history →
          holds later ticked')
      (counted : refusals driver.hardware.history ≤ refusals earlier.hardware.history ∧
        (refusals earlier.hardware.history ≤ refusals driver.hardware.history →
          holds earlier ticked)) :
      refusals driver.hardware.history ≤ refusals later.hardware.history ∧
        (refusals later.hardware.history ≤ refusals driver.hardware.history →
          holds later ticked') := by
    obtain ⟨least, held⟩ := counted
    have more := remembers.refusals_le
    refine ⟨Nat.le_trans least more, ?_⟩
    intro clean
    exact kept (held (Nat.le_trans more clean)) (Nat.le_trans clean least)
  refine run_of_moves (fun reached ticked =>
    refusals driver.hardware.history ≤ refusals reached.hardware.history ∧
      (refusals reached.hardware.history ≤ refusals driver.hardware.history →
        holds reached ticked)) ?_ ?_ ?_ ?_ ?_ ⟨Nat.le_refl _, fun _ => begun⟩ calls
  · intro reached ticked route
    have same : Remembers reached (reached.rerouted route) := .refl reached
    exact grows same fun held _ => routed _ _ route held
  · intro reached ticked position
    have same : Remembers reached (reached.setPosition position) := .refl reached
    exact grows same fun held _ => placed _ _ position held
  · intro reached ticked
    exact grows (remembers_requested reached .now) fun held _ => kicked _ _ held
  · intro reached ticked
    exact grows (remembers_waited reached) fun held _ => rested _ _ held
  · intro reached ticked
    refine grows (keepsHistory_tick reached) fun held clean => ?_
    exact served _ _ held (tick_done_of_clean clean)

end LinearAxis.Driver
