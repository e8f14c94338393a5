import LinearAxis.Proofs.Driver.Tick

/-!
# Runs of a driver

Everything that a caller can do with a driver that has been started is a call.  A run is a list of
calls, and what every call keeps holds after every run.  A call can tick several times; the drivers
that its ticks start from are listed.
-/

namespace LinearAxis.Driver

open History

variable {capacity : Nat}

/-- Something that a caller does with a driver. -/
inductive Call where
  | enqueue (waypoint : Waypoint)
  | resume
  | clearRoute
  | setPosition (position : Millimeters)
  | service (signal : TickSignal)
  | tick
  | runUntilIdle (limit : Nat)
deriving DecidableEq

/-- Whether a call only changes what there is to do, and never ticks. -/
def Call.isCommand : Call → Bool
  | .enqueue _ | .resume | .clearRoute | .setPosition _ => true
  | .service _ | .tick | .runUntilIdle _ => false

variable (driver : Driver .ready capacity)

/-- The driver after a call, whether or not it fails. -/
def after : Call → Driver .ready capacity
  | .enqueue waypoint => driver.afterwards (enqueue waypoint)
  | .resume => driver.afterwards resume
  | .clearRoute => driver.clearRoute
  | .setPosition position => driver.setPosition position
  | .service signal => driver.afterwards (service signal)
  | .tick => driver.afterwards tick
  | .runUntilIdle limit => driver.afterwards (runUntilIdle limit)

/-- The driver after its delay alarm has been waited for. -/
def waited : Driver .ready capacity := { driver with hardware := driver.hardware.wait.2 }

/-- The driver with another route. -/
def rerouted (route : Route capacity) : Driver .ready capacity :=
  { driver with sequencer := { driver.sequencer with route } }

/-- The drivers that the ticks of a blocking run start from. -/
def idleTicks : Nat → Driver .ready capacity → List (Driver .ready capacity)
  | 0, _ => []
  | limit + 1, driver =>
    if driver.hardware.wait.1 then
      driver.waited ::
        if driver.waited.fails tick then [] else idleTicks limit (driver.waited.afterwards tick)
    else []

/-- The drivers that the ticks of a call start from. -/
def ticksOf : Call → List (Driver .ready capacity)
  | .service signal => if signal.isPending then [driver] else []
  | .tick => [driver]
  | .runUntilIdle limit => idleTicks limit driver
  | _ => []

/-- How far a call sets the position off. -/
def jump : Call → Int
  | .setPosition position => position.toInt - driver.sequencer.position.toInt
  | _ => 0

/-- The driver after a run of calls. -/
def run (calls : List Call) : Driver .ready capacity := calls.foldl after driver

/-- The drivers that the ticks of a run start from, in their order. -/
def ticks (driver : Driver .ready capacity) : List Call → List (Driver .ready capacity)
  | [] => []
  | call :: later => driver.ticksOf call ++ (driver.after call).ticks later

/-- How far the calls of a run set the position off, altogether. -/
def jumps (driver : Driver .ready capacity) : List Call → Int
  | [] => 0
  | call :: later => driver.jump call + (driver.after call).jumps later

@[simp] theorem run_nil : driver.run [] = driver := rfl

@[simp] theorem run_cons (call : Call) (calls : List Call) :
    driver.run (call :: calls) = (driver.after call).run calls := rfl

/-- What every call keeps holds after every run, of the drivers that its ticks started from and of
the distance that its calls set the position off. -/
theorem run_induction
    (holds : Driver .ready capacity → List (Driver .ready capacity) → Int → Prop)
    (kept : ∀ driver ticked jumped call, holds driver ticked jumped →
      holds (driver.after call) (ticked ++ driver.ticksOf call) (jumped + driver.jump call))
    {driver : Driver .ready capacity} (begun : holds driver [] 0) (calls : List Call) :
    holds (driver.run calls) (driver.ticks calls) (driver.jumps calls) := by
  suffices onward : ∀ ticked jumped, holds driver ticked jumped →
      holds (driver.run calls) (ticked ++ driver.ticks calls) (jumped + driver.jumps calls) by
    have done := onward [] 0 begun
    rwa [List.nil_append, Int.zero_add] at done
  clear begun
  induction calls generalizing driver with
  | nil =>
    intro ticked jumped begun
    rw [ticks, jumps, List.append_nil, Int.add_zero]
    exact begun
  | cons call calls ih =>
    intro ticked jumped begun
    rw [ticks, jumps, ← List.append_assoc, ← Int.add_assoc]
    exact ih _ _ (kept driver ticked jumped call begun)

/-! ## Single calls -/

section Calls

variable {driver}

/-- A waypoint goes to the end of the route, if the route takes it, and an idle axis is kicked; if
the kick is refused, the waypoint is taken back and only the refusal is remembered. -/
theorem ensures_enqueue {waypoint : Waypoint} {done : Unit → Driver .ready capacity → Prop}
    {failed : Error → Driver .ready capacity → Prop}
    (refused : ∀ cause, driver.sequencer.route.push waypoint = .error cause →
      failed (.route cause) driver)
    (queued : ∀ route, driver.sequencer.route.push waypoint = .ok route →
      (driver.sequencer.route.isEmpty && driver.sequencer.isStopped) = false →
      done () (driver.rerouted route))
    (kicked : ∀ route, driver.sequencer.route.push waypoint = .ok route →
      (driver.sequencer.route.isEmpty && driver.sequencer.isStopped) = true →
      driver.grants .now = true → done () ((driver.requested .now).rerouted route))
    (withdrawn : ∀ route, driver.sequencer.route.push waypoint = .ok route →
      (driver.sequencer.route.isEmpty && driver.sequencer.isStopped) = true →
      driver.grants .now = false → failed MotorError.timer (driver.requested .now)) :
    Ensures (enqueue waypoint) driver done failed := by
  have enqueued : driver.sequencer.enqueue waypoint =
      match driver.sequencer.route.push waypoint with
      | .error cause => .error cause
      | .ok route => .ok (driver.sequencer.route.isEmpty && driver.sequencer.isStopped,
          { driver.sequencer with route }) := by
    rw [Sequencer.enqueue]
    cases driver.sequencer.route.push waypoint <;> rfl
  unfold Ensures
  rw [enqueue, enqueued]
  cases pushed : driver.sequencer.route.push waypoint with
  | error cause => exact refused cause pushed
  | ok route =>
    cases idle : driver.sequencer.route.isEmpty && driver.sequencer.isStopped with
    | false => exact queued route pushed idle
    | true =>
      simp only [request]
      cases granted : driver.grants .now with
      | true =>
        have done := kicked route pushed idle granted
        rw [grants] at granted
        simp only [granted, ↓reduceIte]
        exact done
      | false =>
        have failed := withdrawn route pushed idle granted
        rw [grants] at granted
        have restored : ({ driver.sequencer with route } : Sequencer capacity).withdrawLast =
            driver.sequencer := by
          rw [Sequencer.withdrawLast, Route.popBack_of_push _ pushed]
        simp only [granted, Bool.false_eq_true, ↓reduceIte, restored]
        exact failed

/-- What holds however the enqueuing of a waypoint ends holds after it. -/
theorem after_enqueue {waypoint : Waypoint} (holds : Driver .ready capacity → Prop)
    (refused : holds driver)
    (queued : ∀ route, (driver.sequencer.route.isEmpty && driver.sequencer.isStopped) = false →
      holds (driver.rerouted route))
    (kicked : ∀ route, (driver.sequencer.route.isEmpty && driver.sequencer.isStopped) = true →
      driver.grants .now = true → holds ((driver.requested .now).rerouted route))
    (withdrawn : (driver.sequencer.route.isEmpty && driver.sequencer.isStopped) = true →
      driver.grants .now = false → holds (driver.requested .now)) :
    holds (driver.after (.enqueue waypoint)) := by
  have ensures : Ensures (enqueue waypoint) driver (fun _ => holds) fun _ => holds :=
    ensures_enqueue (fun _ _ => refused) (fun route _ => queued route)
      (fun route _ => kicked route) fun _ _ => withdrawn
  exact ensures.afterwards

/-- An axis at rest with waypoints pending is kicked, and nothing else happens. -/
theorem after_resume_cases :
    driver.after .resume = driver ∧
        (driver.sequencer.interval ≠ .zero ∨ driver.sequencer.route.waypoints = []) ∨
      driver.sequencer.interval = .zero ∧ driver.sequencer.route.waypoints ≠ [] ∧
        driver.after .resume = driver.requested .now := by
  have resumed : driver.after .resume = driver.afterwards
      (if !driver.sequencer.isStopped || driver.sequencer.route.isEmpty then return false
        else (do request .now .timer; return true)) := rfl
  rw [resumed]
  by_cases resting : driver.sequencer.interval = .zero
  · by_cases idle : driver.sequencer.route.waypoints = []
    · rw [if_pos (by simp [Route.isEmpty, idle])]
      exact .inl ⟨rfl, .inr idle⟩
    · rw [if_neg (by simp [Route.isEmpty, idle, Sequencer.isStopped_iff.mpr resting])]
      exact .inr ⟨resting, idle,
        (afterwards_bind_pure _ _ driver).trans (afterwards_request .now .timer)⟩
  · rw [if_pos (by simp [Sequencer.isStopped_eq_false_iff.mpr resting])]
    exact .inl ⟨rfl, .inl resting⟩

theorem ticksOf_of_command {call : Call} (command : call.isCommand = true) :
    driver.ticksOf call = [] := by
  cases call with
  | enqueue | resume | clearRoute | setPosition => rfl
  | service | tick | runUntilIdle => cases command

theorem after_service (signal : TickSignal) :
    driver.after (.service signal) =
      if signal.isPending then driver.afterwards tick else driver := by
  rw [after, service]
  split
  · exact afterwards_bind_pure _ _ driver
  · rfl

end Calls

/-! ## Blocking runs -/

section BlockingRuns

variable {driver}

theorem read_waited {γ : Type} (read : List Event → γ)
    (blind : ∀ interval earlier, read (.slept interval :: earlier) = read earlier) :
    read driver.waited.hardware.history = read driver.hardware.history := by
  simp only [waited, Hardware.wait]
  split
  · rfl
  · split
    · exact blind _ _
    · rfl

theorem remembers_waited (driver : Driver .ready capacity) : Remembers driver driver.waited := by
  simp only [Remembers, waited, Hardware.wait]
  split
  · exact List.suffix_refl _
  · split
    · exact List.suffix_cons _ _
    · exact List.suffix_refl _

/-- A blocking run whose alarm is not armed ends, and one whose alarm is goes on with a tick. -/
theorem runFrom_succ (count limit : Nat) :
    runFrom count (limit + 1) driver =
      if driver.hardware.wait.1 then
        (do tick; runFrom (count + 1) limit : Action .ready capacity (Option Nat)) driver.waited
      else .ok (some count) driver.waited := by
  change (if driver.hardware.wait.1 then (do tick; runFrom (count + 1) limit) else
    return some count : Action .ready capacity (Option Nat)) driver.waited = _
  split <;> rfl

theorem afterwards_runFrom_succ (count limit : Nat) :
    driver.afterwards (runFrom count (limit + 1)) =
      if driver.hardware.wait.1 then
        if driver.waited.fails tick then driver.waited.afterwards tick
        else (driver.waited.afterwards tick).afterwards (runFrom (count + 1) limit)
      else driver.waited := by
  have next : driver.afterwards (runFrom count (limit + 1)) =
      if driver.hardware.wait.1 then
        driver.waited.afterwards (do tick; runFrom (count + 1) limit)
      else driver.waited := by
    unfold afterwards
    rw [runFrom_succ]
    cases driver.hardware.wait.1 <;> rfl
  rw [next, afterwards_bind]
  unfold fails
  congr 1
  unfold afterwards
  cases tick driver.waited <;> rfl

/-- What every tick that is done keeps, with the count of the ticks, holds where a blocking run ends
that gives a number of ticks; the alarm has not expired there. -/
theorem runFrom_counted (holds : Nat → Driver .ready capacity → Prop)
    (kept : ∀ count driver, holds count driver → driver.hardware.wait.1 = true →
      driver.waited.fails tick = false → holds (count + 1) (driver.waited.afterwards tick))
    {count limit ticks : Nat} {later : Driver .ready capacity} (begun : holds count driver)
    (outcome : runFrom count limit driver = .ok (some ticks) later) :
    ∃ last, holds ticks last ∧ last.hardware.wait.1 = false ∧ later = last.waited := by
  induction limit generalizing driver count with
  | zero => cases outcome
  | succ limit ih =>
    rw [runFrom_succ] at outcome
    split at outcome
    · next expired =>
      change EStateM.bind tick (fun _ => runFrom (count + 1) limit) driver.waited = _ at outcome
      unfold EStateM.bind at outcome
      have onward := kept count driver begun expired
      unfold fails afterwards at onward
      cases ticked : tick driver.waited with
      | ok result next =>
        rw [ticked] at outcome onward
        exact ih (onward rfl) outcome
      | error error next =>
        rw [ticked] at outcome
        cases outcome
    · next unarmed =>
      cases outcome
      exact ⟨driver, begun, Bool.eq_false_iff.mpr unarmed, rfl⟩

/-- What every tick of a blocking run keeps, started from an expiry, holds after the run. -/
theorem runFrom_induction
    (holds : Driver .ready capacity → List (Driver .ready capacity) → Prop)
    (rested : ∀ driver ticked, holds driver ticked → driver.hardware.wait.1 = false →
      holds driver.waited ticked)
    (kept : ∀ driver ticked, holds driver ticked → driver.hardware.wait.1 = true →
      holds (driver.waited.afterwards tick) (ticked ++ [driver.waited]))
    (limit count : Nat) {ticked : List (Driver .ready capacity)} (begun : holds driver ticked) :
    holds (driver.afterwards (runFrom count limit)) (ticked ++ idleTicks limit driver) := by
  induction limit generalizing driver count ticked with
  | zero =>
    rw [idleTicks, List.append_nil]
    exact begun
  | succ limit ih =>
    rw [afterwards_runFrom_succ, idleTicks]
    cases expired : driver.hardware.wait.1 with
    | false =>
      simp only [Bool.false_eq_true, ↓reduceIte, List.append_nil]
      exact rested driver ticked begun expired
    | true =>
      have ticks := kept driver ticked begun expired
      simp only [↓reduceIte]
      split
      · exact ticks
      · rw [List.append_cons]
        exact ih (count + 1) ticks

end BlockingRuns

/-! ## Moves -/

/-- What changes of the route, jumps, requests for a tick, waits and ticks keep holds after every
run, of the drivers that its ticks started from. -/
theorem run_of_moves (holds : Driver .ready capacity → List (Driver .ready capacity) → Prop)
    (routed : ∀ driver ticked route, holds driver ticked → holds (driver.rerouted route) ticked)
    (placed : ∀ driver ticked position, holds driver ticked →
      holds (driver.setPosition position) ticked)
    (kicked : ∀ driver ticked, holds driver ticked → holds (driver.requested .now) ticked)
    (rested : ∀ driver ticked, holds driver ticked → holds driver.waited ticked)
    (served : ∀ driver ticked, holds driver ticked →
      holds (driver.afterwards Driver.tick) (ticked ++ [driver]))
    {driver : Driver .ready capacity} (begun : holds driver []) (calls : List Call) :
    holds (driver.run calls) (driver.ticks calls) := by
  apply run_induction (fun reached ticked _ => holds reached ticked) ?_ begun
  intro driver ticked _ call begun
  cases call with
  | enqueue waypoint =>
    rw [ticksOf_of_command rfl, List.append_nil]
    apply after_enqueue fun reached => holds reached ticked
    · exact begun
    · exact fun route _ => routed _ _ route begun
    · exact fun route _ _ => routed _ _ route (kicked _ _ begun)
    · exact fun _ _ => kicked _ _ begun
  | resume =>
    rw [ticksOf_of_command rfl, List.append_nil]
    rcases driver.after_resume_cases with ⟨same, -⟩ | ⟨-, -, same⟩ <;> rw [same]
    · exact begun
    · exact kicked _ _ begun
  | clearRoute =>
    rw [ticksOf_of_command rfl, List.append_nil]
    exact routed _ _ .empty begun
  | setPosition position =>
    rw [ticksOf_of_command rfl, List.append_nil]
    exact placed _ _ position begun
  | service signal =>
    rw [after_service, ticksOf]
    split
    · exact served _ _ begun
    · rw [List.append_nil]
      exact begun
  | tick => exact served _ _ begun
  | runUntilIdle limit =>
    apply runFrom_induction holds ?_ ?_ limit 0 begun
    · intro driver ticked begun _
      exact rested _ _ begun
    · intro driver ticked begun _
      exact served _ _ (rested _ _ begun)

end LinearAxis.Driver
