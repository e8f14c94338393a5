import LinearAxis.Decimal.Positional
import LinearAxis.Microstep
import LinearAxis.Quantity
import LinearAxis.Text.Bounded

/-!
# Causes of failure

Each way in which a configuration, the hardware or the route can refuse an operation is a cause of
its own.  The wording of a cause is in one place, its message.
-/

namespace LinearAxis

/-- The parts that a driver is assembled from, in the order in which they are asked for. -/
inductive Part where
  | stepPin
  | directionPin
  | standbyPin
  | modePins
  | timer
  | axis
deriving DecidableEq, Repr

/-- The name of the field that holds a part. -/
def Part.field : Part → String
  | stepPin => "step_pin"
  | directionPin => "dir_pin"
  | standbyPin => "standby_pin"
  | modePins => "mode_pins"
  | timer => "timer"
  | axis => "axis"

/-- Why a configuration is refused. -/
inductive ConfigError where
  /-- The text is not a TOML document. -/
  | malformed
  /-- The document does not describe a system. -/
  | unreadable (message : BoundedText 128)
  /-- No axis has the name. -/
  | axisNotFound (name : BoundedText 32)
  /-- The travel of a step is not positive. -/
  | invalidDistancePerStep (distance : Millimeters)
  /-- The velocity limit is not positive and finite. -/
  | invalidMaxVelocity (velocity : Float)
  /-- The acceleration limit is not positive and finite. -/
  | invalidMaxAcceleration (acceleration : Float)
  /-- The step interval at the velocity limit does not fit the timer. -/
  | stepIntervalOutOfRange (microseconds : Float) (shortest : UInt32)
  /-- A part of the driver is missing. -/
  | missing (part : Part)
  /-- The configuration file cannot be read. -/
  | file (message : BoundedText 128)
deriving DecidableEq

/-- Why the hardware refuses an operation. -/
inductive MotorError where
  /-- An output line refused a level. -/
  | pin
  /-- The alarm timer did not start. -/
  | timerNotReady
  /-- The alarm timer refused a request. -/
  | timer
  /-- The mode needs a mode-select line that is not wired. -/
  | unsupportedMicrostep (mode : MicrostepMode)
deriving DecidableEq

/-- Why a route refuses a waypoint. -/
inductive RouteError where
  /-- A waypoint with the key is pending. -/
  | alreadyQueued (key : UInt16)
  /-- There is no room left. -/
  | full
deriving DecidableEq

/-- Why an operation fails. -/
inductive Error where
  | config (cause : ConfigError)
  | motor (cause : MotorError)
  | route (cause : RouteError)
deriving DecidableEq

instance : Coe ConfigError Error := ⟨.config⟩

instance : Coe MotorError Error := ⟨.motor⟩

instance : Coe RouteError Error := ⟨.route⟩

/-- The wording of a configuration error. -/
def ConfigError.message : ConfigError → String
  | malformed => "Parse error: not a TOML document"
  | unreadable message => "Parse error: " ++ message.text
  | axisNotFound name => "Axis '" ++ name.text ++ "' not found"
  | invalidDistancePerStep distance =>
    "Invalid distance per step: " ++ toString distance.toInt ++ " mm. Must be > 0"
  | invalidMaxVelocity velocity =>
    "Invalid max velocity: " ++ floatText velocity ++ ". Must be > 0"
  | invalidMaxAcceleration acceleration =>
    "Invalid max acceleration: " ++ floatText acceleration ++ ". Must be > 0"
  | stepIntervalOutOfRange microseconds shortest =>
    "Step interval " ++ floatText microseconds ++ " us at max velocity is outside [" ++
      toString shortest.toNat ++ ", 4294967295] us"
  | missing part => "Missing required field: " ++ part.field
  | file message => "I/O error: " ++ message.text

/-- The wording of a hardware error. -/
def MotorError.message : MotorError → String
  | pin => "GPIO pin operation failed"
  | timerNotReady => "Alarm timer not ready"
  | timer => "Alarm timer operation failed"
  | unsupportedMicrostep mode =>
    "Microstep mode " ++ mode.title ++ " needs more mode-select lines"

/-- The wording of a route error. -/
def RouteError.message : RouteError → String
  | alreadyQueued key => "Waypoint " ++ toString key.toNat ++ " is already queued"
  | full => "Path queue is full"

/-- The wording of the cause alone. -/
def Error.causeMessage : Error → String
  | config cause => cause.message
  | motor cause => cause.message
  | route cause => cause.message

/-- The wording of an error: the area that it belongs to, and its cause. -/
def Error.message (error : Error) : String :=
  let area := match error with
    | config _ => "Configuration error: "
    | motor _ => "Motor error: "
    | route _ => "Path error: "
  area ++ error.causeMessage

end LinearAxis
