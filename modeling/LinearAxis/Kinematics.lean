import LinearAxis.Axis

/-!
# Kinematics of a single step

Each function answers one question: given the velocity reached on the step before, how long should
the next step take, and which velocity does that imply?  Distances are whole millimeters and
intervals whole microseconds at the boundary; the computation in between is in floating-point
meters and seconds.
-/

namespace LinearAxis

/-- The interval of a step and the velocity at its end, in meters per second. -/
structure StepTiming where
  interval : Micros
  velocity : Float
deriving DecidableEq

/-- No step is scheduled. -/
def StepTiming.stopped : StepTiming := ⟨.zero, 0.0⟩

/-- The kinematic limits of an axis. -/
structure Kinematics where
  /-- Travel of a step. -/
  distancePerStep : Millimeters
  /-- Travel of a step in meters. -/
  stepLength : Float
  /-- Acceleration limit in meters per second squared. -/
  maxAcceleration : Float
  /-- Velocity limit in meters per second. -/
  maxVelocity : Float
  /-- Shortest interval between steps. -/
  cruiseInterval : Micros
deriving DecidableEq

namespace Kinematics

/-- The limits of an axis.  The cruise interval is rounded up, and once more if the velocity that it
implies is still above the limit. -/
def ofLimits (distancePerStep : Millimeters) (maxAcceleration maxVelocity : Float) : Kinematics :=
  let stepLength := distancePerStep.inMeters
  let cruise := Micros.ofSecondsUp (stepLength / maxVelocity)
  { distancePerStep
    stepLength
    maxAcceleration
    maxVelocity
    cruiseInterval :=
      if stepLength / cruise.inSeconds > maxVelocity then cruise.lengthen else cruise }

/-- The limits that an axis configuration sets. -/
def ofAxis (axis : Axis) : Kinematics :=
  ofLimits axis.distancePerStep axis.maxAcceleration axis.maxVelocity

variable (limits : Kinematics)

/-- The average velocity of one step per interval; zero at rest. -/
def speedForInterval (interval : Micros) : Float :=
  if interval.isZero then 0.0 else limits.stepLength / interval.inSeconds

/-- The velocity at the end of a uniformly accelerated step of so many seconds that started with a
velocity. -/
def acceleratedSpeed (seconds startVelocity : Float) : Float :=
  if seconds == 0.0 then 0.0
  else 2.0 * (limits.stepLength / seconds - startVelocity) + startVelocity

/-- One step per cruise interval. -/
def cruise : StepTiming :=
  ⟨limits.cruiseInterval, limits.speedForInterval limits.cruiseInterval⟩

/-- The next step at the acceleration limit: the positive root `t` of `a·t²/2 + v·t = d`, or the
cruise step where that would be faster than the velocity limit. -/
def accelerating (startVelocity : Float) : StepTiming :=
  let acceleration := limits.maxAcceleration
  let root := (startVelocity * startVelocity + 2.0 * acceleration * limits.stepLength).sqrt
  let interval := Micros.ofSeconds ((root - startVelocity) / acceleration)
  let velocity := limits.acceleratedSpeed interval.inSeconds startVelocity
  if interval.isZero || decide (velocity > limits.maxVelocity) then limits.cruise
  else ⟨interval, velocity⟩

/-- The next step at the deceleration limit: the lesser root `t` of `v·t - a·t²/2 = d`, or none
where the velocity is too low for a solution.  An interval equal to the one before is made a
microsecond longer, so that braking always makes progress. -/
def decelerating? (startVelocity : Float) (previous : Micros) : Option StepTiming :=
  let acceleration := limits.maxAcceleration
  let discriminant := startVelocity * startVelocity - 2.0 * acceleration * limits.stepLength
  if discriminant < 0.0 then none
  else
    let interval := Micros.ofSeconds ((startVelocity - discriminant.sqrt) / acceleration)
    if interval = previous then some ⟨interval.lengthen, limits.speedForInterval interval.lengthen⟩
    else some ⟨interval, limits.acceleratedSpeed interval.inSeconds startVelocity⟩

/-- The next step at the same velocity, never shorter than the cruise interval.  Cruising from rest
is meaningless, so it starts to accelerate instead. -/
def linear (startVelocity : Float) : StepTiming :=
  if startVelocity <= 0.0 then limits.accelerating 0.0
  else
    let interval :=
      (Micros.ofSeconds (limits.stepLength / startVelocity)).longer limits.cruiseInterval
    ⟨interval, limits.speedForInterval interval⟩

/-- The distance needed to stop from a velocity, with one step of margin. -/
def brakingDistance (velocity : Float) : Millimeters :=
  (Millimeters.ofMeters (velocity * velocity / (2.0 * limits.maxAcceleration))).saturatingAdd
    limits.distancePerStep

end Kinematics

end LinearAxis
