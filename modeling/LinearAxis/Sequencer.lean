import LinearAxis.Plan
import LinearAxis.Route

/-!
# The step sequencer

The sequencer turns the route of an axis into step timings.  It holds the state of motion and the
route, touches no hardware and reads no clock: the caller lets it advance once for each step.
-/

namespace LinearAxis

/-- The motion and the route of one axis. -/
structure Sequencer (capacity : Nat) where
  limits : Kinematics
  phase : Phase
  /-- Time until the next step, zero at rest. -/
  interval : Micros
  /-- Velocity in meters per second. -/
  velocity : Float
  direction : Direction
  position : Millimeters
  route : Route capacity
deriving DecidableEq

namespace Sequencer

variable {capacity : Nat}

/-- At rest at position zero, with nothing to visit. -/
def initial (limits : Kinematics) : Sequencer capacity where
  limits
  phase := .stop
  interval := .zero
  velocity := 0.0
  direction := .forward
  position := 0
  route := .empty

variable (sequencer : Sequencer capacity)

/-- Whether no step is scheduled. -/
def isStopped : Bool := sequencer.interval.isZero

/-- The number of waypoints still to visit. -/
def pending : Nat := sequencer.route.size

/-- The position of the waypoint being pursued. -/
def target? : Option Millimeters := sequencer.route.head?.map Waypoint.position

/-! ## Commands -/

/-- Appends a waypoint to the route.  The flag tells whether the axis needs a kick: it was at rest
with nothing to visit, so that the caller has to let it advance once. -/
def enqueue (waypoint : Waypoint) : Except RouteError (Bool × Sequencer capacity) := do
  let route ← sequencer.route.push waypoint
  return (sequencer.route.isEmpty && sequencer.isStopped, { sequencer with route })

/-- Overwrites the position. -/
def setPosition (position : Millimeters) : Sequencer capacity :=
  { sequencer with position }

/-- Takes back the waypoint enqueued last. -/
def withdrawLast : Sequencer capacity :=
  { sequencer with route := sequencer.route.popBack }

/-- Abandons the route without announcements.  A moving axis stops at its next step. -/
def clearRoute : Sequencer capacity :=
  { sequencer with route := .empty }

/-- Comes to rest where it is, with the route kept. -/
def halt : Sequencer capacity :=
  { sequencer with phase := .stop, interval := .zero, velocity := 0.0 }

/-! ## Advancing -/

/-- The part of the motion that planning looks at. -/
def snapshot : Snapshot where
  position := sequencer.position
  direction := sequencer.direction
  velocity := sequencer.velocity
  moving := !sequencer.isStopped

/-- Counts the step in flight, if there is one. -/
def completeStep : Sequencer capacity :=
  if sequencer.isStopped then sequencer
  else { sequencer with
    position := sequencer.direction.move sequencer.position sequencer.limits.distancePerStep }

/-- Whether the axis stands at the waypoint being pursued. -/
def hasArrived : Bool := sequencer.target? == some sequencer.position

/-- At rest, turns toward a target. -/
def face (target : Millimeters) : Sequencer capacity :=
  if sequencer.isStopped then
    { sequencer with direction := .towards sequencer.position target }
  else sequencer

/-- The timing that the current phase asks for; braking from a velocity that is too low to solve for
asks for a stop. -/
def nextTiming : StepTiming :=
  match sequencer.phase with
  | .accelerate => sequencer.limits.accelerating sequencer.velocity
  | .move => sequencer.limits.linear sequencer.velocity
  | .decelerate =>
    (sequencer.limits.decelerating? sequencer.velocity sequencer.interval).getD .stopped
  | .stop => .stopped

/-- Takes over a timing. -/
def schedule (timing : StepTiming) : Sequencer capacity :=
  { sequencer with interval := timing.interval, velocity := timing.velocity }

/-- The timing that is a microsecond longer than the current one. -/
def stretched : StepTiming :=
  ⟨sequencer.interval.lengthen, sequencer.limits.speedForInterval sequencer.interval.lengthen⟩

/-- Schedules the next step toward a target.  Where the phase asks for a stop the axis does stop
at a waypoint or beyond the target; short of the target it stretches the interval instead. -/
def scheduleNext (arrived : Bool) (target : Millimeters) : Sequencer capacity :=
  let timing := sequencer.nextTiming
  if !timing.interval.isZero || arrived then sequencer.schedule timing
  else if sequencer.direction.continues sequencer.position target then
    sequencer.schedule sequencer.stretched
  else sequencer.schedule .stopped

/-- In the stop phase, comes to rest and gives the head of the route up. -/
def settle : Sequencer capacity :=
  match sequencer.phase with
  | .stop => { sequencer.halt with route := sequencer.route.pop }
  | _ => sequencer

/-- Plans the phase for a target and schedules the next step. -/
def planStep (arrived : Bool) (target : Millimeters) : Sequencer capacity :=
  let facing := sequencer.face target
  let phase := facing.limits.plan facing.snapshot target
    (facing.route.following?.map Waypoint.position)
  (({ facing with phase }).scheduleNext arrived target).settle

/-- What one pass of planning leaves behind. -/
structure Pass (capacity : Nat) where
  sequencer : Sequencer capacity
  /-- The announcement of the arrival in this pass. -/
  announcement? : Option Announcement
  /-- Whether a step is scheduled or nothing is left to visit. -/
  isSettled : Bool
deriving DecidableEq

/-- One pass of planning: counts the step in flight, announces the arrival at the head of the route,
and plans the next step.  With nothing left to visit, a moving axis stops at once. -/
def pass : Pass capacity :=
  let stepped := sequencer.completeStep
  let arrived := stepped.hasArrived
  let onward :=
    if arrived then { stepped with route := stepped.route.arrive } else stepped
  match onward.target? with
  | none =>
    { sequencer := if onward.phase = .stop then onward else onward.halt
      announcement? := none
      isSettled := true }
  | some target =>
    let planned := onward.planStep arrived target
    { sequencer := planned
      announcement? := if arrived then stepped.route.announcement? else none
      isSettled := !planned.isStopped }

/-- Passes until one settles, at most so many of them. -/
def advanceWithin : Nat → Sequencer capacity → Sequencer capacity × List Announcement
  | 0, sequencer => (sequencer, [])
  | passes + 1, sequencer =>
    let pass := sequencer.pass
    if pass.isSettled then (pass.sequencer, pass.announcement?.toList)
    else
      let (settled, later) := advanceWithin passes pass.sequencer
      (settled, pass.announcement?.toList ++ later)

/-- Completes the step in flight and plans the next one: either a step is scheduled afterwards, or
nothing is left to visit.  Unless the cruise interval is zero, a pass that does not settle takes a
waypoint off the route or brings a moving axis to rest, so that two more passes than waypoints are
enough. -/
def advance : Sequencer capacity × List Announcement :=
  advanceWithin (sequencer.pending + 2) sequencer

end Sequencer

end LinearAxis
