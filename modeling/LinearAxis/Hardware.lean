import LinearAxis.Alarm
import LinearAxis.Route

/-!
# Output lines and alarm of a driver chip

A driver chip is reached through output lines and paced by an alarm.  Every call on one of them is
made through a channel, which may refuse it; a refused call leaves the line at its level.  The
history keeps all that happened, the latest first.
-/

namespace LinearAxis

/-- An output line to the driver chip. -/
inductive Line where
  | step
  | direction
  | standby
  | mode1
  | mode2
deriving DecidableEq, Repr

/-- Something that happens while an axis is driven. -/
inductive Event where
  /-- A level was put on a line, or refused. -/
  | drove (line : Line) (level accepted : Bool)
  /-- A request was made to a hardware alarm, or refused. -/
  | requested (request : AlarmRequest) (accepted : Bool)
  /-- A request was noted by a delay alarm. -/
  | noted (request : AlarmRequest)
  /-- The delay alarm slept an interval out. -/
  | slept (interval : Micros)
  /-- An arrival was announced. -/
  | announced (announcement : Announcement)
deriving DecidableEq

/-- A way to a device: the calls made so far, and which calls, counted from zero, it refuses. -/
structure Channel where
  refuses : Nat → Bool := fun _ => false
  calls : Nat := 0

namespace Channel

variable (channel : Channel)

/-- Whether the next call is accepted. -/
def accepts : Bool := !channel.refuses channel.calls

/-- The channel after one more call. -/
def next : Channel := { channel with calls := channel.calls + 1 }

end Channel

/-- The wiring of the mode-select lines. -/
inductive ModePins where
  /-- The mode is strapped at the chip. -/
  | strapped
  /-- The first line alone. -/
  | single (first : Channel)
  /-- Both lines. -/
  | pair (first second : Channel)

/-- The alarm that paces the steps. -/
inductive Alarm where
  /-- An alarm in hardware, with a channel for each kind of request. -/
  | hardware (start arm now : Channel)
  /-- A delay alarm. -/
  | delay (alarm : DelayAlarm)

/-- The lines and the alarm of a driver, with the history of what happened on them. -/
structure Hardware where
  stepPin : Channel
  directionPin : Channel
  standbyPin : Channel
  modePins : ModePins
  alarm : Alarm
  /-- All events, the latest first. -/
  history : List Event := []

namespace Hardware

variable (hardware : Hardware)

/-- The channel of a line, if the line is wired. -/
def channel? : Line → Option Channel
  | .step => some hardware.stepPin
  | .direction => some hardware.directionPin
  | .standby => some hardware.standbyPin
  | .mode1 => match hardware.modePins with
    | .strapped => none
    | .single first => some first
    | .pair first _ => some first
  | .mode2 => match hardware.modePins with
    | .strapped | .single _ => none
    | .pair _ second => some second

/-- Replaces the channel of a wired line. -/
def setChannel (line : Line) (channel : Channel) : Hardware :=
  match line, hardware.modePins with
  | .step, _ => { hardware with stepPin := channel }
  | .direction, _ => { hardware with directionPin := channel }
  | .standby, _ => { hardware with standbyPin := channel }
  | .mode1, .single _ => { hardware with modePins := .single channel }
  | .mode1, .pair _ second => { hardware with modePins := .pair channel second }
  | .mode2, .pair first _ => { hardware with modePins := .pair first channel }
  | _, _ => hardware

/-- Adds an event to the history. -/
def record (event : Event) : Hardware :=
  { hardware with history := event :: hardware.history }

/-- Puts a level on a line and tells whether it was accepted.  A line that is not wired takes every
level without a trace. -/
def drive (line : Line) (level : Bool) : Bool × Hardware :=
  match hardware.channel? line with
  | none => (true, hardware)
  | some channel =>
    let event := Event.drove line level channel.accepts
    (channel.accepts, (hardware.setChannel line channel.next).record event)

/-- A write to a wired line is remembered with its outcome, and nothing else is. -/
theorem history_drive {line : Line} {level : Bool} {channel : Channel}
    (wired : hardware.channel? line = some channel) :
    (hardware.drive line level).2.history =
      .drove line level (hardware.drive line level).1 :: hardware.history := by
  simp only [drive, wired, record]
  cases line <;> simp only [setChannel] <;> split <;> rfl

/-- Makes a request to the alarm and tells whether it was accepted. -/
def request (request : AlarmRequest) : Bool × Hardware :=
  match hardware.alarm with
  | .delay alarm =>
    (true, { hardware with alarm := .delay (alarm.request request) }.record (.noted request))
  | .hardware start arm now =>
    let (accepted, alarm) := match request with
      | .start => (start.accepts, Alarm.hardware start.next arm now)
      | .arm _ => (arm.accepts, Alarm.hardware start arm.next now)
      | .now => (now.accepts, Alarm.hardware start arm now.next)
    (accepted, { hardware with alarm }.record (.requested request accepted))

/-- Whether the mode needs a mode-select line that is not wired. -/
def lacksLineFor (mode : MicrostepMode) : Bool :=
  match hardware.modePins with
  | .single _ => mode.secondLine
  | .strapped | .pair _ _ => false

/-- Waits for the delay alarm, and tells whether it expired.  A hardware alarm cannot be waited
for. -/
def wait : Bool × Hardware :=
  match hardware.alarm with
  | .hardware .. => (false, hardware)
  | .delay alarm =>
    let rested := { hardware with alarm := .delay alarm.expired }
    (alarm.isArmed, match alarm.sleep? with
      | some interval => rested.record (.slept interval)
      | none => rested)

end Hardware

end LinearAxis
