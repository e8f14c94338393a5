import LinearAxis.Proofs.Driver.Blind
import LinearAxis.Proofs.Driver.Kick
import LinearAxis.Proofs.Driver.Protocol
import LinearAxis.Proofs.Driver.Tally

/-!
# The account of a blocking run

A blocking run begins with a tick that plans, ticks twice for every step that goes on and once for
the step that it ends with; stops and reversals on the way cost nothing.  It sleeps whatever it
armed its alarm for, and leaves nothing to do behind (`LinearAxis.Driver.ticks_eq_of_runUntilIdle`).
-/

namespace LinearAxis.Driver

open History

variable {capacity : Nat}

/-- The sleep that waiting for the alarm takes. -/
def sleep? (driver : Driver .ready capacity) : Option Micros :=
  match driver.hardware.alarm with
  | .delay alarm => alarm.sleep?
  | .hardware .. => none

/-- The number of ticks that a blocking run takes to make so many rising edges. -/
def ticksFor (made : Nat) : Nat := if made = 0 then 1 else 2 * made

/-- The ticks of a blocking run and the rising edges that they made, at a driver that it has come
to.  It has not ticked yet, or it is moving, or it is about to end. -/
structure Balanced (ticks made : Nat) (driver : Driver .ready capacity) : Prop where
  waiting : driver.sequencer.interval = .zero → driver.isArmed = true → ticks = 0 ∧ made = 0
  moving : driver.sequencer.interval ≠ .zero →
    ticks = 2 * made + if driver.halfStep then 0 else 1
  ending : driver.sequencer.interval = .zero → driver.isArmed = false → ticks = ticksFor made

/-- A blocking run that began with one driver has come to another one, without a refusal. -/
structure Running (limits : Kinematics) (begun : Driver .ready capacity) (ticks : Nat)
    (driver : Driver .ready capacity) : Prop where
  paced : driver.Paced limits (requests driver.hardware.history)
  inStep : driver.InStep
  remembers : Remembers begun driver
  served : driver.IsServed
  balanced : ∃ made, edges driver.hardware.history = edges begun.hardware.history + made ∧
    driver.Balanced ticks made
  /-- The sleep that the run began with, and what was armed for since, has been slept out, up to the
  sleep that is to come. -/
  timed : ∃ pending armed slept,
    driver.Timed pending (armed ++ begun.hardware.history.filterMap armedFor?)
      (slept ++ begun.hardware.history.filterMap sleptFor?) ∧
    (DelayAlarm.mk pending).sleep?.toList ++ slept = armed ++ begun.sleep?.toList

section Running

variable {limits : Kinematics} {begun driver : Driver .ready capacity} {ticks : Nat}

theorem Timed.isArmed_eq {pending : Option Micros} {armed slept : List Micros}
    (timed : driver.Timed pending armed slept) : driver.isArmed = pending.isSome := by
  rw [isArmed, timed.alarm_eq]
  rfl

theorem InStep.tallied (inStep : driver.InStep) :
    driver.Tallied (edges driver.hardware.history) driver.halfStep := by
  obtain ⟨direction, -, level⟩ := inStep.shows
  exact ⟨rfl, inStep.step_known, ⟨_, level⟩, rfl⟩

/-- Waiting for a delay alarm that is not armed changes nothing. -/
theorem waited_of_unarmed (delay : ∃ alarm, driver.hardware.alarm = .delay alarm)
    (unarmed : driver.isArmed = false) : driver.waited = driver := by
  obtain ⟨⟨pending⟩, delay⟩ := delay
  cases pending with
  | none =>
    obtain ⟨name, mode, inverted, ⟨step, direction, standby, modes, alarm, history⟩, rest⟩ := driver
    cases delay
    rfl
  | some interval =>
    rw [isArmed, delay] at unarmed
    cases unarmed

theorem InStep.waited (inStep : driver.InStep) : driver.waited.InStep :=
  inStep.congr rfl rfl rfl rfl fun line => read_waited (level? line) fun _ _ => rfl

/-- A driver at rest with its alarm armed can begin a blocking run. -/
theorem running_refl (paced : driver.Paced limits (requests driver.hardware.history))
    (inStep : driver.InStep) (resting : driver.sequencer.interval = .zero)
    (armed : driver.isArmed = true) : Running limits driver 0 driver where
  paced := paced
  inStep := inStep
  remembers := .refl driver
  served := .inl armed
  balanced := by
    refine ⟨0, rfl, fun _ _ => ⟨rfl, rfl⟩, fun moving => absurd resting moving, ?_⟩
    exact fun _ unarmed => absurd (armed.symm.trans unarmed) nofun
  timed := by
    obtain ⟨⟨pending⟩, delay⟩ := paced.delay
    refine ⟨pending, [], [], ⟨delay, rfl, rfl⟩, ?_⟩
    rw [sleep?, delay, List.append_nil, List.nil_append]

/-- A tick that finishes a step that is half done leaves the axis moving. -/
theorem interval_of_finishing (moving : driver.sequencer.interval ≠ .zero)
    (half : driver.halfStep = true) (done : driver.fails tick = false) :
    (driver.afterwards tick).sequencer.interval ≠ .zero := by
  rw [sequencer_afterwards_tick, if_neg (by rw [done]; exact Bool.false_ne_true),
    worked_of_half moving half]
  exact moving

/-- A tick keeps the balance, if it leaves the alarm armed exactly if the axis moves, and a step
half done exactly if one was due and the axis moves on. -/
theorem Balanced.tick {made : Nat} (balanced : driver.Balanced ticks made)
    (armed : driver.isArmed = true) {later : Driver .ready capacity}
    (halfAgain : later.halfStep = (decide driver.IsDue && !later.sequencer.isStopped))
    (armedAgain : later.isArmed = !later.sequencer.isStopped)
    (onward : driver.sequencer.interval ≠ .zero → driver.halfStep = true →
      later.sequencer.interval ≠ .zero) :
    later.Balanced (ticks + 1) (if driver.IsDue then made + 1 else made) := by
  have unarmed (resting : later.sequencer.interval = .zero) : later.isArmed ≠ true := by
    rw [armedAgain, Sequencer.isStopped_iff.mpr resting]
    exact Bool.false_ne_true
  by_cases moving : driver.sequencer.interval ≠ .zero
  · have ticked := balanced.moving moving
    cases half : driver.halfStep with
    | false =>
      -- The step that is due makes an edge, and is half done unless the axis ends with it.
      have due : driver.IsDue := ⟨moving, half⟩
      rw [half, if_neg Bool.false_ne_true] at ticked
      rw [decide_eq_true due, Bool.true_and] at halfAgain
      rw [if_pos due]
      refine ⟨fun resting armed => absurd armed (unarmed resting), fun going => ?_, fun _ _ => ?_⟩
      · rw [halfAgain, Sequencer.isStopped_eq_false_iff.mpr going, ticked]
        rfl
      · rw [ticksFor, if_neg (Nat.succ_ne_zero made), ticked]
        rfl
    | true =>
      have undue : ¬ driver.IsDue := fun due => Bool.false_ne_true (due.2.symm.trans half)
      have going := onward moving half
      rw [half, if_pos rfl] at ticked
      rw [decide_eq_false undue, Bool.false_and] at halfAgain
      rw [if_neg undue]
      refine ⟨fun resting => absurd resting going, fun _ => ?_, fun resting => absurd resting going⟩
      rw [halfAgain, ticked]
      rfl
  · -- Only the first tick starts from rest, and it makes no edge.
    have resting := Decidable.not_not.mp moving
    have undue : ¬ driver.IsDue := fun due => due.1 resting
    obtain ⟨rfl, rfl⟩ := balanced.waiting resting armed
    rw [decide_eq_false undue, Bool.false_and] at halfAgain
    rw [if_neg undue]
    refine ⟨fun resting armed => absurd armed (unarmed resting), fun _ => ?_, fun _ _ => rfl⟩
    rw [halfAgain]
    rfl

theorem sleep?_of_ne_zero {interval : Micros} (timed : interval ≠ .zero) :
    (DelayAlarm.mk (some interval)).sleep? = some interval := by
  rw [DelayAlarm.sleep?, Option.filter_some, if_pos]
  rw [Bool.not_eq_true', ← Bool.not_eq_true, Micros.isZero_iff]
  exact timed

/-- After a tick that is done, an alarm that was not armed is armed exactly if the axis moves, and
the sleep that is to come is what the tick has armed it for. -/
theorem Timed.tick_done {armed slept : List Micros} (timed : driver.Timed none armed slept)
    (done : driver.fails Driver.tick = false) :
    ∃ pending gained, (driver.afterwards Driver.tick).Timed pending (gained ++ armed) slept ∧
      (DelayAlarm.mk pending).sleep?.toList = gained ∧
      (driver.afterwards Driver.tick).isArmed =
        !(driver.afterwards Driver.tick).sequencer.isStopped := by
  have ticked := timed.tick.afterwards_of_done done
  generalize driver.afterwards Driver.tick = later at ticked
  by_cases resting : later.sequencer.interval = .zero
  · rw [if_pos resting] at ticked
    refine ⟨none, [], ticked, rfl, ?_⟩
    rw [ticked.isArmed_eq, Sequencer.isStopped_iff.mpr resting]
    rfl
  · rw [if_neg resting] at ticked
    refine ⟨_, [_], ticked, congrArg Option.toList (sleep?_of_ne_zero resting), ?_⟩
    rw [ticked.isArmed_eq, Sequencer.isStopped_eq_false_iff.mpr resting]
    rfl

/-- A blocking run goes on with each tick that is done. -/
theorem Running.tick (running : Running limits begun ticks driver)
    (cruise : limits.cruiseInterval ≠ .zero) (expired : driver.hardware.wait.1 = true)
    (done : driver.waited.fails tick = false) :
    Running limits begun (ticks + 1) (driver.waited.afterwards tick) := by
  obtain ⟨sameArmed, -, paced⟩ := running.paced.waited
  have inStep := running.inStep.waited
  obtain ⟨pending, armed, slept, timed, account⟩ := running.timed
  obtain ⟨pending', gained, timedAgain, coming, armedAgain⟩ := timed.waited.2.tick_done done
  obtain ⟨pacedAgain, served⟩ := (paced.tick cruise).afterwards_of_done done
  exact {
    paced := pacedAgain
    inStep := (inStep.tick.afterwards_of_done done).1
    remembers := running.remembers.trans ((remembers_waited driver).trans (keepsHistory_tick _))
    served := served
    balanced := by
      have tallied := (inStep.tallied.tick inStep.low_of_rest).afterwards_of_done done
      obtain ⟨made, edged, balanced⟩ := running.balanced
      have same : edges driver.waited.hardware.history = edges driver.hardware.history :=
        read_waited edges fun _ _ => rfl
      refine ⟨if driver.IsDue then made + 1 else made, ?_, ?_⟩
      · rw [tallied.edges_eq, same, edged]
        change (if driver.IsDue then _ else _) = _
        split <;> rfl
      · exact balanced.tick (sameArmed.symm.trans expired) tallied.half_eq armedAgain
          fun moving half => interval_of_finishing moving half done
    timed := by
      refine ⟨pending', gained ++ armed, (DelayAlarm.mk pending).sleep?.toList ++ slept, ?_, ?_⟩
      · rw [List.append_assoc, List.append_assoc]
        exact timedAgain
      · rw [coming, account, List.append_assoc] }

/-- Where a blocking run ends, the axis rests with nothing to visit, the ticks are as many as the
edges take, and all that was armed for has been slept out. -/
theorem Running.ending (running : Running limits begun ticks driver)
    (unarmed : driver.isArmed = false) :
    driver.sequencer.interval = .zero ∧ driver.sequencer.route = .empty ∧
      (∃ made, edges driver.hardware.history = edges begun.hardware.history + made ∧
        ticks = ticksFor made) ∧
      ∃ during, driver.hardware.history = during ++ begun.hardware.history ∧
        during.filterMap sleptFor? = during.filterMap armedFor? ++ begun.sleep?.toList := by
  obtain ⟨resting, idle⟩ := running.served.resolve_left (by rw [unarmed]; exact Bool.false_ne_true)
  refine ⟨resting, Route.ext idle, ?_, ?_⟩
  · obtain ⟨made, edged, balanced⟩ := running.balanced
    exact ⟨made, edged, balanced.ending resting unarmed⟩
  · obtain ⟨pending, armed, slept, timed, account⟩ := running.timed
    obtain ⟨during, split⟩ := running.remembers
    have none : pending = none := by
      rw [timed.isArmed_eq] at unarmed
      exact Option.isNone_iff_eq_none.mp (Option.isSome_eq_false_iff.mp unarmed)
    have armings := timed.armed_eq
    have sleeps := timed.slept_eq
    rw [← split, List.filterMap_append] at armings sleeps
    refine ⟨during, split.symm, ?_⟩
    rw [List.append_cancel_right armings, List.append_cancel_right sleeps, ← account, none]
    rfl

end Running

/-- **The account of a blocking run.** Started at rest with the alarm armed, after a past without
refusals, a blocking run that ends with a number of ticks has ticked once if it made no rising edge,
and twice for each edge otherwise.  It has slept out, in their order, the sleep that was pending and
then each interval that it armed the alarm for.  The alarm is not armed afterwards, the axis is
stopped with nothing to visit, and the step and standby lines are low. -/
theorem ticks_eq_of_runUntilIdle {limits : Kinematics} (cruise : limits.cruiseInterval ≠ .zero)
    {driver : Driver .ready capacity} (started : driver.Started limits) {alarm : DelayAlarm}
    (delay : driver.hardware.alarm = .delay alarm) (calls : List Call)
    (clean : refusals (driver.run calls).hardware.history = refusals driver.hardware.history)
    (resting : (driver.run calls).sequencer.interval = .zero)
    (armed : (driver.run calls).isArmed = true) {limit ticks : Nat} {later : Driver .ready capacity}
    (outcome : runUntilIdle limit (driver.run calls) = .ok (some ticks) later) :
    let begun := driver.run calls
    (∃ made, edges later.hardware.history = edges begun.hardware.history + made ∧
      ticks = if made = 0 then 1 else 2 * made) ∧
    (∃ during, later.hardware.history = during ++ begun.hardware.history ∧
      during.reverse.filterMap sleptFor? =
        begun.sleep?.toList ++ during.reverse.filterMap armedFor?) ∧
    later.isArmed = false ∧
    later.sequencer.phase = .stop ∧ later.sequencer.interval = .zero ∧
    later.sequencer.route = .empty ∧
    level? .step later.hardware.history = some false ∧
    level? .standby later.hardware.history = some false := by
  intro begun
  have attended := run_induction (fun reached ticked _ => Attended limits reached ticked)
    (fun _ _ _ call attended => attended.after cruise call) (started.attended delay) calls
  have inStep := (started.inStep.1.run calls clean).1
  have running := running_refl attended.paced inStep resting armed
  obtain ⟨last, ended, unexpired, rfl⟩ := runFrom_counted (Running limits begun)
    (fun _ _ running => running.tick cruise) running outcome
  have unarmed : last.isArmed = false := ended.paced.waited.1.symm.trans unexpired
  rw [waited_of_unarmed ended.paced.delay unarmed]
  obtain ⟨rests, idle, account, during, split, slept⟩ := ended.ending unarmed
  have stopped := ended.paced.steady.rest_iff_stop.mp rests
  refine ⟨account, ⟨during, split, ?_⟩, unarmed, stopped, rests, idle, ?_, ?_⟩
  · rw [List.filterMap_reverse, List.filterMap_reverse, slept, List.reverse_append]
    cases begun.sleep? <;> rfl
  · rw [ended.inStep.step_known, ended.inStep.low_of_rest rests]
  · rw [ended.inStep.standby_known, Sequencer.isStopped_iff.mpr rests]
    rfl

theorem runUntilIdle_of_reply {driver : Driver .ready capacity} {limit : Nat} {ticks : Option Nat}
    (replied : driver.reply (.runUntilIdle limit) = .counted ticks) :
    runUntilIdle limit driver = .ok ticks (driver.after (.runUntilIdle limit)) := by
  change driver.told .counted (runUntilIdle limit) = _ at replied
  change _ = EStateM.Result.ok ticks (driver.afterwards (runUntilIdle limit))
  unfold told at replied
  unfold afterwards
  cases outcome : runUntilIdle limit driver with
  | ok result later =>
    rw [outcome] at replied
    cases replied
    rfl
  | error error later =>
    rw [outcome] at replied
    cases replied

/-- Three steps forward and five back take sixteen ticks, the reversal included. -/
theorem ticks_eq_of_reversal :
    let driver := benchStarted {}
    let calls : List Call := [.enqueue ⟨0, .clamp 3, true⟩, .enqueue ⟨1, .clamp (-2), true⟩]
    let begun := driver.run calls
    let later := begun.after (.runUntilIdle 60)
    refusals begun.hardware.history = refusals driver.hardware.history ∧
      begun.sequencer.interval = .zero ∧ begun.isArmed = true ∧
      begun.reply (.runUntilIdle 60) = .counted (some 16) ∧
      edges later.hardware.history = edges begun.hardware.history + 8 ∧
      later.isArmed = false ∧ later.sequencer.route = .empty := by
  intro driver calls begun later
  have started : driver.Started .slow := ⟨bench {}, ⟨0, rfl⟩, rfl⟩
  have cruise : Kinematics.slow.cruiseInterval ≠ .zero := by decide +kernel
  have delay : driver.hardware.alarm = .delay {} := rfl
  have clean : refusals begun.hardware.history = refusals driver.hardware.history := by
    decide +kernel
  have resting : begun.sequencer.interval = .zero := by decide +kernel
  have armed : begun.isArmed = true := by decide +kernel
  have replied : begun.reply (.runUntilIdle 60) = .counted (some 16) := by decide +kernel
  clear_value driver calls
  obtain ⟨⟨made, edged, counted⟩, -, unarmed, -, -, idle, -⟩ :=
    ticks_eq_of_runUntilIdle cruise started delay calls clean resting armed
      (runUntilIdle_of_reply replied)
  have eight : made = 8 := by
    split at counted <;> omega
  exact ⟨clean, resting, armed, replied, eight ▸ edged, unarmed, idle⟩

end LinearAxis.Driver
