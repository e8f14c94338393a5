import LinearAxis.Proofs.ComingToRest
import LinearAxis.Proofs.Driver.Clean
import LinearAxis.Proofs.Driver.Count

/-!
# Ticks that fail

A tick that fails halts the axis where it is.  Whatever it had done before the refusal, no step is
left half done and none is scheduled, the alarm has not been armed, and the clean-up has tried to
lower the step and standby lines.  The route is what the tick had made of it, so that the axis can
be resumed, and the next tick that is done plans from rest
(`LinearAxis.Driver.halted_of_failed`).
-/

namespace LinearAxis.Driver

open History

variable {capacity : Nat} {driver : Driver .ready capacity}

/-- The axis rests in the stop phase, without velocity and with no step half done. -/
structure IsHalted (driver : Driver .ready capacity) : Prop where
  stop : driver.sequencer.phase = .stop
  resting : driver.sequencer.interval = .zero
  still : driver.sequencer.velocity = 0.0
  whole : driver.halfStep = false

/-! ## The clean-up -/

theorem isHalted_fault : driver.fault.IsHalted := ⟨rfl, rfl, rfl, rfl⟩

theorem isHalted_of_failed (failed : driver.fails tick = true) :
    (driver.afterwards tick).IsHalted := by
  obtain ⟨failing, same, -⟩ := exists_hindered_of_fails failed
  rw [same]
  exact isHalted_fault

/-- The clean-up tries to lower the step line, and then the standby line. -/
theorem history_fault : driver.fault.hardware.history =
    .drove .standby false ((driver.driven .step false).accepts .standby false) ::
      .drove .step false (driver.accepts .step false) :: driver.hardware.history := by
  rw [hardware_fault, history_driven _ rfl, driver.history_driven rfl]

/-- What happened in a tick that failed: nothing was refused and no alarm armed until the refusal,
and only the clean-up followed. -/
theorem exists_history_of_failed (failed : driver.fails tick = true) :
    ∃ standby step refusal before,
      (driver.afterwards tick).hardware.history =
        .drove .standby false standby :: .drove .step false step :: refusal ::
          (before ++ driver.hardware.history) ∧
      isRefusal refusal = true ∧ armedFor? refusal = none ∧
      ∀ event ∈ before, isRefusal event = false ∧ armedFor? event = none := by
  obtain ⟨failing, same, refusal, earlier, gained, refused, unhindered⟩ :=
    exists_hindered_of_fails failed
  obtain ⟨before, rfl, smooth⟩ := unhindered.exists_append
  rw [same, history_fault, gained]
  exact ⟨_, _, refusal, before, rfl, refused, armedFor?_of_refusal refused, smooth⟩

/-! ## Halted axes -/

theorem IsHalted.of_tick (halted : driver.IsHalted) :
    driver.worked = driver.sequencer.advance.1 ∧
      (driver.afterwards tick).sequencer.position = driver.sequencer.position := by
  refine ⟨worked_of_resting halted.resting, ?_⟩
  rw [position_afterwards_tick, if_neg fun due => due.1 halted.resting]

/-- The step that a halted axis sets out with is the first of an acceleration from a standstill. -/
theorem IsHalted.timing_eq (halted : driver.IsHalted)
    (cruise : driver.sequencer.limits.cruiseInterval ≠ .zero)
    (timed : driver.sequencer.advance.1.interval ≠ .zero) :
    (⟨driver.sequencer.advance.1.interval, driver.sequencer.advance.1.velocity⟩ : StepTiming) =
      driver.sequencer.limits.accelerating 0.0 := by
  have settling : driver.sequencer.Settling := ⟨fun _ => halted.resting, fun _ => halted.still⟩
  exact (Sequencer.settles_advance cruise).timing_eq settling cruise halted.resting timed

theorem IsHalted.congr (halted : driver.IsHalted) {later : Driver .ready capacity}
    (samePhase : later.sequencer.phase = driver.sequencer.phase)
    (sameInterval : later.sequencer.interval = driver.sequencer.interval)
    (sameVelocity : later.sequencer.velocity = driver.sequencer.velocity)
    (sameHalf : later.halfStep = driver.halfStep) : later.IsHalted where
  stop := samePhase.trans halted.stop
  resting := sameInterval.trans halted.resting
  still := sameVelocity.trans halted.still
  whole := sameHalf.trans halted.whole

/-- Until a tick is done an axis stays halted, whatever else is called. -/
theorem IsHalted.run (halted : driver.IsHalted) (calls : List Call)
    (failing : ∀ ticking ∈ driver.ticks calls, ticking.fails tick = true) :
    (driver.run calls).IsHalted := by
  refine run_of_moves (fun reached ticked => (∀ ticking ∈ ticked, ticking.fails tick = true) →
    reached.IsHalted) ?_ ?_ ?_ ?_ ?_ (fun _ => halted) calls failing
  · exact fun _ _ _ held failing => (held failing).congr rfl rfl rfl rfl
  · exact fun _ _ _ held failing => (held failing).congr rfl rfl rfl rfl
  · exact fun _ _ held failing => (held failing).congr rfl rfl rfl rfl
  · exact fun _ _ held failing => (held failing).congr rfl rfl rfl rfl
  · intro reached ticked _ failing
    exact isHalted_of_failed (failing reached (List.mem_append_right _ (.head _)))

/-- An axis at rest is kicked with one request exactly if it has something to visit. -/
theorem resume_of_resting (resting : driver.sequencer.interval = .zero) :
    (driver.sequencer.route = .empty → driver.after .resume = driver) ∧
      (driver.sequencer.route ≠ .empty →
        (driver.after .resume).sequencer = driver.sequencer ∧
          ∃ event, (driver.after .resume).hardware.history = event :: driver.hardware.history ∧
            Kicks event) := by
  rcases driver.after_resume_cases with ⟨same, moving | idle⟩ | ⟨-, pending, same⟩
  · exact absurd resting moving
  · exact ⟨fun _ => same, fun pending => absurd (Route.ext idle) pending⟩
  · refine ⟨fun idle => absurd (congrArg Route.waypoints idle) pending, fun _ => ?_⟩
    rw [same]
    refine ⟨rfl, ?_⟩
    rcases driver.history_requested .now with gained | ⟨-, gained⟩
    · exact ⟨_, gained, .inr ⟨_, rfl⟩⟩
    · exact ⟨_, gained, .inl rfl⟩

/-- **A tick that fails is a clean halt.** It leaves the axis halted, with the route as the tick had
made it by then.  No alarm was armed in it, and after the refusal the step and standby lines were
asked to go low.  The axis is kicked by a resumption exactly if it has something to visit.  Whatever
is called until the next tick that is done, the axis stays halted, and that tick plans from rest: it
counts no step and sets out, if at all, as from a standstill. -/
theorem halted_of_failed (failed : driver.fails tick = true) :
    let halted := driver.afterwards tick
    halted.IsHalted ∧
    halted.sequencer.route = driver.worked.route ∧
    (∃ standby step refusal before,
      halted.hardware.history =
        .drove .standby false standby :: .drove .step false step :: refusal ::
          (before ++ driver.hardware.history) ∧
      isRefusal refusal = true ∧ armedFor? refusal = none ∧
      ∀ event ∈ before, isRefusal event = false ∧ armedFor? event = none) ∧
    (halted.sequencer.route = .empty → halted.after .resume = halted) ∧
    (halted.sequencer.route ≠ .empty →
      (halted.after .resume).sequencer = halted.sequencer ∧
        ∃ event, (halted.after .resume).hardware.history = event :: halted.hardware.history ∧
          Kicks event) ∧
    ∀ calls : List Call, (∀ ticking ∈ halted.ticks calls, ticking.fails tick = true) →
      let resumed := halted.run calls
      let ticked := resumed.afterwards tick
      resumed.IsHalted ∧
      (resumed.fails tick = false →
        ticked.sequencer = resumed.sequencer.advance.1 ∧
        ticked.sequencer.position = resumed.sequencer.position ∧
        (resumed.sequencer.limits.cruiseInterval ≠ .zero → ticked.sequencer.interval ≠ .zero →
          ⟨ticked.sequencer.interval, ticked.sequencer.velocity⟩ =
            resumed.sequencer.limits.accelerating 0.0)) := by
  intro halted
  have rests : halted.IsHalted := isHalted_of_failed failed
  obtain ⟨idle, pending⟩ := resume_of_resting rests.resting
  refine ⟨rests, ?_, exists_history_of_failed failed, idle, pending, ?_⟩
  · change (driver.afterwards tick).sequencer.route = _
    rw [sequencer_afterwards_tick, if_pos failed]
    rfl
  · intro calls failing resumed ticked
    have still : resumed.IsHalted := rests.run calls failing
    refine ⟨still, fun done => ?_⟩
    obtain ⟨worked, kept⟩ := still.of_tick
    have same : ticked.sequencer = resumed.sequencer.advance.1 := by
      have left := resumed.sequencer_afterwards_tick
      rwa [if_neg (by rw [done]; exact Bool.false_ne_true), worked] at left
    refine ⟨same, kept, ?_⟩
    rw [same]
    exact still.timing_eq

/-- Where the first rising edge is refused, the axis halts with its waypoint, and the tick that
follows a resumption sets out as from a standstill. -/
theorem halted_of_failed_on_bench :
    let driver := (benchStarted { refuses := fun call => call == 1 }).run
      [.enqueue ⟨0, .clamp 5, true⟩, .tick]
    let halted := driver.afterwards tick
    let resumed := halted.run [.resume]
    let ticked := resumed.afterwards tick
    driver.fails tick = true ∧ halted.IsHalted ∧ halted.sequencer.route ≠ .empty ∧
      (∃ event, resumed.hardware.history = event :: halted.hardware.history ∧ Kicks event) ∧
      resumed.IsHalted ∧ resumed.fails tick = false ∧ ticked.sequencer.interval ≠ .zero ∧
      (⟨ticked.sequencer.interval, ticked.sequencer.velocity⟩ : StepTiming) =
        resumed.sequencer.limits.accelerating 0.0 := by
  intro driver halted resumed ticked
  have failed : driver.fails tick = true := by decide +kernel
  have pending : halted.sequencer.route ≠ .empty := by decide +kernel
  have unticked : ∀ ticking ∈ halted.ticks [.resume], ticking.fails tick = true := by
    intro ticking none
    cases none
  have done : resumed.fails tick = false := by decide +kernel
  have cruise : resumed.sequencer.limits.cruiseInterval ≠ .zero := by decide +kernel
  have moving : ticked.sequencer.interval ≠ .zero := by decide +kernel
  clear_value driver
  obtain ⟨rests, -, -, -, kicked, onward⟩ := halted_of_failed failed
  obtain ⟨still, planned⟩ := onward [.resume] unticked
  exact ⟨failed, rests, pending, (kicked pending).2, still, done, moving,
    (planned done).2.2 cruise moving⟩

end LinearAxis.Driver
