import LinearAxis.Direction
import LinearAxis.Kinematics

/-!
# Planning the phase of motion

The phase of the next step follows from the distance that is left to the brake point of the target,
the position at which deceleration has to begin.
-/

namespace LinearAxis

/-- The kinematic regime of an axis. -/
inductive Phase where
  /-- No step is scheduled. -/
  | stop
  /-- Speeding up toward the velocity limit. -/
  | accelerate
  /-- Cruising at the velocity reached. -/
  | move
  /-- Slowing down toward a stop or a turn. -/
  | decelerate
deriving DecidableEq, Repr

/-- The part of the motion that planning looks at. -/
structure Snapshot where
  position : Millimeters
  direction : Direction
  /-- Velocity in meters per second. -/
  velocity : Float
  /-- Whether a step is scheduled. -/
  moving : Bool
deriving DecidableEq

namespace Kinematics

variable (limits : Kinematics)

/-- The distance from a target at which braking begins: one step and the braking distance. -/
def brakeMargin (velocity : Float) : Millimeters :=
  limits.distancePerStep.saturatingAdd (limits.brakingDistance velocity)

/-- The position at which deceleration toward a target has to begin. -/
def brakePoint (snapshot : Snapshot) (target : Millimeters) : Millimeters :=
  match snapshot.direction with
  | .forward => target.saturatingSub (limits.brakeMargin snapshot.velocity)
  | .backward => target.saturatingAdd (limits.brakeMargin snapshot.velocity)

/-- The phase for approaching a target and stopping there.  Before the brake point the axis speeds
up while a whole step is left, and cruises otherwise. -/
def nextPhase (snapshot : Snapshot) (target : Millimeters) : Phase :=
  let brake := limits.brakePoint snapshot target
  let lastStep := match snapshot.direction with
    | .forward => brake.saturatingSub limits.distancePerStep
    | .backward => brake.saturatingAdd limits.distancePerStep
  if snapshot.direction.continues snapshot.position brake then
    if snapshot.direction.continues snapshot.position lastStep then .accelerate else .move
  else if snapshot.moving then .decelerate
  else .stop

/-- The target that the axis brakes for: the waypoint after the head where it lies further along the
direction of travel, and the head otherwise. -/
def goal (direction : Direction) (head : Millimeters) (following : Option Millimeters) :
    Millimeters :=
  match following with
  | some next => if direction.continues head next then next else head
  | none => head

/-- The phase for the head of the route, looking one waypoint ahead: the axis passes through the
head where its goal is the waypoint after it. -/
def plan (snapshot : Snapshot) (head : Millimeters) (following : Option Millimeters) : Phase :=
  limits.nextPhase snapshot (goal snapshot.direction head following)

end Kinematics

end LinearAxis
