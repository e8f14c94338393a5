import LinearAxis.Error

/-!
# The configuration of an axis

An axis has a name, the travel of one step, limits on its motion and the wiring choices of its
driver chip.  It is valid if a driver can run it.
-/

namespace LinearAxis

/-- The configuration of one linear axis. -/
structure Axis where
  /-- A name for people. -/
  name : BoundedText 32
  /-- Travel of a step. -/
  distancePerStep : Millimeters
  /-- Acceleration limit in meters per second squared. -/
  maxAcceleration : Float
  /-- Velocity limit in meters per second. -/
  maxVelocity : Float
  /-- Microstepping mode. -/
  microstepMode : MicrostepMode := .full
  /-- Whether a low level on the direction line means forward. -/
  invertDirection : Bool := false
deriving DecidableEq

namespace Axis

/-- The shortest step interval in microseconds at which an axis may cruise: below it, whole
microseconds are too coarse for braking. -/
def shortestInterval : UInt32 := 100

variable (axis : Axis)

/-- The step interval at the velocity limit in microseconds, not rounded. -/
def cruiseMicroseconds : Float :=
  axis.distancePerStep.inMeters / axis.maxVelocity * 1000000.0

/-- The shortest step interval that is ever scheduled. -/
def minStepInterval : Micros :=
  .ofSecondsUp (axis.distancePerStep.inMeters / axis.maxVelocity)

/-- Whether a limit is positive and finite. -/
def isLimit (value : Float) : Bool :=
  value.isFinite && decide (value > 0.0)

/-- Accepts a valid axis: positive travel, limits that are positive and finite, and a step interval
at the velocity limit that fits the timer. -/
def validate : Except ConfigError Unit :=
  if axis.distancePerStep ≤ 0 then
    .error (.invalidDistancePerStep axis.distancePerStep)
  else if !isLimit axis.maxVelocity then
    .error (.invalidMaxVelocity axis.maxVelocity)
  else if !isLimit axis.maxAcceleration then
    .error (.invalidMaxAcceleration axis.maxAcceleration)
  else if axis.cruiseMicroseconds < shortestInterval.toFloat ||
      axis.cruiseMicroseconds > Micros.longest.count.toFloat then
    .error (.stepIntervalOutOfRange axis.cruiseMicroseconds shortestInterval)
  else
    .ok ()

end Axis

end LinearAxis
