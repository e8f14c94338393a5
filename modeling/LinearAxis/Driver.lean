import LinearAxis.Hardware
import LinearAxis.Sequencer

/-!
# The driver of an axis

The driver carries the steps of the sequencer out on the lines of a driver chip.  Each expiry of the
alarm is a tick, and a step spans two of them: the step line rises on the first, which is when the
sequencer advances, and falls on the second.  An operation that the hardware refuses fails with the
cause and leaves the driver as it was at that point.
-/

namespace LinearAxis

/-- How far a driver has come.  Motion can be commanded only once it is ready. -/
inductive Stage where
  /-- Lines and alarm are in an unknown state. -/
  | unconfigured
  /-- Lines are at known levels and the alarm is running. -/
  | ready
deriving DecidableEq, Repr

/-- The name of a stage. -/
def Stage.name : Stage → String
  | unconfigured => "Unconfigured"
  | ready => "Ready"

/-- The driver of one axis, in a stage. -/
structure Driver (stage : Stage) (capacity : Nat) where
  name : BoundedText 32
  microstepMode : MicrostepMode
  /-- Whether a low level on the direction line means forward. -/
  invertDirection : Bool
  hardware : Hardware
  sequencer : Sequencer capacity
  /-- The direction that the direction line shows, where it is known. -/
  shownDirection : Option Direction := none
  /-- Whether a step is half done: the step line has risen and not yet fallen. -/
  halfStep : Bool := false

/-- An operation on a driver that the hardware or the route can refuse. -/
abbrev Action (stage : Stage) (capacity : Nat) := EStateM Error (Driver stage capacity)

namespace Driver

variable {stage : Stage} {capacity : Nat}

/-! ## Steps that operations are made of -/

/-- Puts a level on a line. -/
def drive (line : Line) (level : Bool) : Action stage capacity Unit := fun driver =>
  let (accepted, hardware) := driver.hardware.drive line level
  if accepted then .ok () { driver with hardware }
  else .error MotorError.pin { driver with hardware }

/-- Makes a request to the alarm, and fails with a cause of its own if it is refused. -/
def request (request : AlarmRequest) (refused : MotorError) : Action stage capacity Unit :=
  fun driver =>
    let (accepted, hardware) := driver.hardware.request request
    if accepted then .ok () { driver with hardware } else .error refused { driver with hardware }

/-- The level of the direction line that shows a direction. -/
def directionLevel (driver : Driver stage capacity) (direction : Direction) : Bool :=
  direction.isForward != driver.invertDirection

/-- Remembers what the direction line shows. -/
def noteDirection (direction : Direction) : Action stage capacity Unit :=
  modify fun driver => { driver with shownDirection := some direction }

/-- Shows a direction on the direction line, unless it shows it already. -/
def showDirection (direction : Direction) : Action stage capacity Unit := do
  let driver ← get
  unless driver.shownDirection = some direction do
    drive .direction (driver.directionLevel direction)
    noteDirection direction

/-- Marks a step as half done, or as done. -/
def setHalfStep (halfStep : Bool) : Action stage capacity Unit :=
  modify fun driver => { driver with halfStep }

/-- Lets the sequencer advance, and makes its announcements. -/
def advance : Action stage capacity Unit :=
  modify fun driver =>
    let (sequencer, announcements) := driver.sequencer.advance
    { driver with
      sequencer
      hardware := announcements.foldl (fun hardware announcement =>
        hardware.record (.announced announcement)) driver.hardware }

/-! ## Coming up -/

/-- Puts the mode-select lines at the pattern of a mode. -/
def selectMode (mode : MicrostepMode) : Action stage capacity Unit := do
  if (← get).hardware.lacksLineFor mode then
    throw (.motor (.unsupportedMicrostep mode))
  drive .mode1 mode.firstLine
  drive .mode2 mode.secondLine

/-- Puts every line at a known level: step low, direction forward, the mode selected and the chip in
standby. -/
def configureLines : Action stage capacity Unit := do
  let driver ← get
  drive .step false
  drive .direction (driver.directionLevel .forward)
  noteDirection .forward
  selectMode driver.microstepMode
  drive .standby false

/-- A driver whose lines and alarm have been set up. -/
def toReady (driver : Driver .unconfigured capacity) : Driver .ready capacity :=
  { driver with halfStep := false }

/-- Sets the lines and the alarm up.  A driver that fails stays unconfigured and can try again. -/
def start (driver : Driver .unconfigured capacity) :
    Except (Error × Driver .unconfigured capacity) (Driver .ready capacity) :=
  match (do configureLines; request .start .timerNotReady :
      Action .unconfigured capacity Unit) driver with
  | .ok () started => .ok started.toReady
  | .error error failed => .error (error, failed)

/-! ## Commands -/

/-- Overwrites the position. -/
def setPosition (driver : Driver stage capacity) (position : Millimeters) :
    Driver stage capacity :=
  { driver with sequencer := driver.sequencer.setPosition position }

/-- Abandons the route.  A moving axis stops at its next step. -/
def clearRoute (driver : Driver .ready capacity) : Driver .ready capacity :=
  { driver with sequencer := driver.sequencer.clearRoute }

/-- Appends a waypoint to the route, and asks for a tick if the axis was idle.  If that request is
refused, the waypoint is taken back. -/
def enqueue (waypoint : Waypoint) : Action .ready capacity Unit := fun driver =>
  match driver.sequencer.enqueue waypoint with
  | .error refusal => .error refusal driver
  | .ok (false, sequencer) => .ok () { driver with sequencer }
  | .ok (true, sequencer) =>
    match request .now .timer { driver with sequencer } with
    | .ok () kicked => .ok () kicked
    | .error error failed =>
      .error error { failed with sequencer := failed.sequencer.withdrawLast }

/-- Asks for a tick if the axis rests with waypoints pending, and tells whether it did. -/
def resume : Action .ready capacity Bool := do
  let driver ← get
  if !driver.sequencer.isStopped || driver.sequencer.route.isEmpty then
    return false
  else
    request .now .timer
    return true

/-! ## Ticks -/

/-- The tick of a moving axis.  A step that is half done is finished by the falling edge, after
which a reversal may show.  Otherwise the sequencer advances and the rising edge of the step that
it counted follows, in the direction from before. -/
def toggleStep : Action .ready capacity Unit := do
  let driver ← get
  if driver.halfStep then
    drive .step false
    setHalfStep false
    showDirection driver.sequencer.direction
  else
    advance
    showDirection driver.sequencer.direction
    drive .step true
    setHalfStep true

/-- Finishes a step that is half done. -/
def finishStep : Action .ready capacity Unit := do
  if (← get).halfStep then
    drive .step false
    setHalfStep false

/-- Arms the alarm for the next tick of a moving axis, and puts an axis at rest into standby. -/
def reschedule : Action .ready capacity Unit := do
  let interval := (← get).sequencer.interval
  if interval.isZero then
    finishStep
    drive .standby false
  else
    drive .standby true
    request (.arm interval) .timer

/-- Halts after a failure: step and standby go low as far as the hardware lets them, and the route
is kept. -/
def fault (driver : Driver .ready capacity) : Driver .ready capacity :=
  let lowered := (driver.hardware.drive .step false).2
  { driver with
    sequencer := driver.sequencer.halt
    halfStep := false
    hardware := (lowered.drive .standby false).2 }

/-- What a tick does before its alarm is armed again. -/
def work : Action .ready capacity Unit := do
  if (← get).sequencer.isStopped then advance else toggleStep

/-- Serves one expiry of the alarm.  A tick that fails halts the axis. -/
def tick : Action .ready capacity Unit := fun driver =>
  match (do work; reschedule : Action .ready capacity Unit) driver with
  | .ok () ticked => .ok () ticked
  | .error error failed => .error error failed.fault

/-- Serves a tick signal that is pending, and tells whether there was one. -/
def service (signal : TickSignal) : Action .ready capacity Bool := do
  if signal.isPending then
    tick
    return true
  else
    return false

/-! ## Blocking runs -/

/-- Waits for the delay alarm, and tells whether it expired. -/
def wait : Action .ready capacity Bool := fun driver =>
  let (expired, hardware) := driver.hardware.wait
  .ok expired { driver with hardware }

/-- Sleeps and ticks until the alarm is left idle, at most so many times on top of the ticks counted
before.  The result is the number of ticks, or none where the alarm is still armed. -/
def runFrom (ticks : Nat) : Nat → Action .ready capacity (Option Nat)
  | 0 => return none
  | limit + 1 => do
    if ← wait then
      tick
      runFrom (ticks + 1) limit
    else
      return some ticks

/-- Sleeps and ticks until the alarm is left idle, for fewer ticks than a limit. -/
def runUntilIdle (limit : Nat) : Action .ready capacity (Option Nat) :=
  runFrom 0 limit

end Driver

end LinearAxis
