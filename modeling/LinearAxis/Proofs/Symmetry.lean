import LinearAxis.Proofs.Command
import LinearAxis.Proofs.Floating
import LinearAxis.Proofs.Relocation

/-!
# Symmetry of runs

Relocating every position in a run of commands relocates what a caller sees after each of them, and
changes nothing else.  Mirrored commands make a new axis move the same way in the opposite direction
(`LinearAxis.Sequencer.observations_mirrored`), and where an axis starts makes no difference to how
it moves (`LinearAxis.Sequencer.observations_shifted`).  Both hold also where the points at which
braking has to begin lie beyond the range of positions and are clamped.
-/

namespace LinearAxis

namespace Sequencer

variable {capacity : Nat}

/-- What a command tells its caller.  Waypoints and arrivals are told by key and position. -/
inductive Reply where
  /-- The waypoint is accepted.  The flag tells whether the axis needs a kick. -/
  | accepted (kick : Bool)
  | refused (refusal : RouteError)
  | withdrawn (waypoint? : Option (UInt16 × Int))
  | arrived (arrivals : List (UInt16 × Int))
  | done
deriving DecidableEq

/-- The reply with other positions. -/
def Reply.carried (carry : Int → Int) : Reply → Reply
  | .accepted kick => .accepted kick
  | .refused refusal => .refused refusal
  | .withdrawn waypoint? => .withdrawn (waypoint?.map (Prod.map id carry))
  | .arrived arrivals => .arrived (arrivals.map (Prod.map id carry))
  | .done => .done

/-- The reply to a command. -/
def reply (sequencer : Sequencer capacity) : Command → Reply
  | .enqueue waypoint =>
    match sequencer.enqueue waypoint with
    | .ok (kick, _) => .accepted kick
    | .error refusal => .refused refusal
  | .withdrawLast => .withdrawn
      (sequencer.route.last?.map fun waypoint => (waypoint.key, waypoint.position.toInt))
  | .advance => .arrived
      (sequencer.advance.2.map fun arrival => (arrival.key, arrival.position.toInt))
  | .setPosition _ | .clearRoute | .halt => .done

/-- A command's reply and what it leaves behind. -/
structure Observation (capacity : Nat) where
  reply : Reply
  sequencer : Sequencer capacity

/-- What is observed along a run of commands. -/
def observations (sequencer : Sequencer capacity) : List Command → List (Observation capacity)
  | [] => []
  | command :: commands =>
    ⟨sequencer.reply command, sequencer.after command⟩ ::
      (sequencer.after command).observations commands

namespace Observation

/-- One axis is seen to do what another does, at other positions. -/
structure Carried (carry : Int → Int) (left right : Observation capacity) : Prop where
  reply : right.reply = left.reply.carried carry
  pending : right.sequencer.pending = left.sequencer.pending
  phase : right.sequencer.phase = left.sequencer.phase
  interval : right.sequencer.interval = left.sequencer.interval
  velocity : right.sequencer.velocity = left.sequencer.velocity
  position : right.sequencer.position.toInt = carry left.sequencer.position.toInt
  target : right.sequencer.target?.map Millimeters.toInt =
    left.sequencer.target?.map fun target => carry target.toInt

/-- One axis is seen to do what another does on the other side of zero, and wherever a step is
scheduled, in the opposite direction. -/
structure Mirrors (left right : Observation capacity) : Prop
    extends Carried (fun position => -position) left right where
  direction : left.sequencer.interval ≠ .zero →
    right.sequencer.direction = left.sequencer.direction.reverse

/-- One axis is seen to do what another does at an offset, in the same direction. -/
structure Shifts (offset : Int) (left right : Observation capacity) : Prop
    extends Carried (fun position => position + offset) left right where
  direction : right.sequencer.direction = left.sequencer.direction

end Observation

end Sequencer

namespace Relocation

open Sequencer

variable {capacity : Nat} {left right : Sequencer capacity}

/-! ## Relocated commands -/

section Commands

variable (relocation : Relocation)

/-- A command to the relocated axis. -/
def command : Command → Command
  | .enqueue waypoint => .enqueue (relocation.waypoint waypoint)
  | .setPosition position => .setPosition (relocation.place position)
  | .withdrawLast => .withdrawLast
  | .clearRoute => .clearRoute
  | .halt => .halt
  | .advance => .advance

theorem keys_waypoints (waypoints : List Waypoint) :
    (waypoints.map relocation.waypoint).map Waypoint.key = waypoints.map Waypoint.key := by
  rw [List.map_map]
  rfl

/-- The route of the relocated axis. -/
def route (route : Route capacity) : Route capacity where
  waypoints := route.waypoints.map relocation.waypoint
  length_le := by
    rw [List.length_map]
    exact route.length_le
  keys_nodup := by
    rw [keys_waypoints]
    exact route.keys_nodup

/-- The counterpart of a sequencer. -/
def sequencer (sequencer : Sequencer capacity) : Sequencer capacity :=
  { sequencer with
    direction := relocation.turn sequencer.direction
    position := relocation.place sequencer.position
    route := relocation.route sequencer.route }

theorem placed_sequencer (left : Sequencer capacity) :
    relocation.Placed left (relocation.sequencer left) :=
  ⟨rfl, rfl, rfl, rfl, rfl, rfl, fun _ => rfl⟩

instance (sequencer : Sequencer capacity) : Decidable (relocation.Admits sequencer) :=
  decidable_of_iff (relocation.Keeps sequencer.position ∧
      (∀ position ∈ sequencer.route.positions, relocation.Keeps position) ∧
      (relocation.reverses = true → sequencer.route.positions.IsChain (· ≠ ·)))
    ⟨fun ⟨here, route, spaced⟩ => ⟨here, route, spaced⟩,
      fun admits => ⟨admits.here, admits.route, admits.spaced⟩⟩

/-- All along a run the relocation admits the sequencer, and no step leads out of range. -/
def Allows (sequencer : Sequencer capacity) : List Command → Prop
  | [] => relocation.Admits sequencer
  | command :: commands =>
    relocation.Admits sequencer ∧ (command = .advance → sequencer.StaysInRange) ∧
      Allows (sequencer.after command) commands

instance decidableAllows : (sequencer : Sequencer capacity) → (commands : List Command) →
    Decidable (relocation.Allows sequencer commands)
  | sequencer, [] => inferInstanceAs (Decidable (relocation.Admits sequencer))
  | sequencer, command :: commands =>
    have := decidableAllows (sequencer.after command) commands
    inferInstanceAs (Decidable (_ ∧ _ ∧ _))

end Commands

variable {relocation : Relocation}

theorem Allows.admits {commands : List Command} (allowed : relocation.Allows left commands) :
    relocation.Admits left := by
  cases commands with
  | nil => exact allowed
  | cons command commands => exact allowed.1

/-- Counterparts accept the same waypoints. -/
theorem push_waypoint {route other : Route capacity} (waypoint : Waypoint)
    (same : other.waypoints = route.waypoints.map relocation.waypoint) :
    (∃ refusal, route.push waypoint = .error refusal ∧
        other.push (relocation.waypoint waypoint) = .error refusal) ∨
      ∃ longer further, route.push waypoint = .ok longer ∧
        other.push (relocation.waypoint waypoint) = .ok further ∧
        further.waypoints = longer.waypoints.map relocation.waypoint := by
  have keys : other.waypoints.map Waypoint.key = route.waypoints.map Waypoint.key := by
    rw [same, keys_waypoints]
  have length : other.waypoints.length = route.waypoints.length := by
    rw [same, List.length_map]
  cases pushed : route.push waypoint with
  | error refusal =>
    have refused := route.push_eq_error_iff.mp pushed
    rw [← keys, ← length] at refused
    exact .inl ⟨refusal, rfl, other.push_eq_error_iff.mpr refused⟩
  | ok longer =>
    obtain ⟨fresh, room, appended⟩ := route.push_eq_ok_iff.mp pushed
    rw [← keys] at fresh
    rw [← length] at room
    cases repeated : other.push (relocation.waypoint waypoint) with
    | error refusal =>
      rcases other.push_eq_error_iff.mp repeated with ⟨pending, -⟩ | ⟨-, full, -⟩
      · exact absurd pending fresh
      · exact absurd room (Nat.not_lt.mpr full)
    | ok further =>
      have extended := (other.push_eq_ok_iff.mp repeated).2.2
      refine .inr ⟨longer, further, rfl, rfl, ?_⟩
      rw [extended, same, appended, List.map_append, List.map_singleton]

theorem Placed.isEmpty (placed : relocation.Placed left right) :
    right.route.isEmpty = left.route.isEmpty := by
  rw [Route.isEmpty, placed.waypoints, List.isEmpty_map, Route.isEmpty]

/-- Counterparts stay counterparts, and reply alike. -/
theorem Placed.after (placed : relocation.Placed left right)
    (cruise : left.limits.cruiseInterval ≠ .zero)
    (travel : 0 < left.limits.distancePerStep.toInt)
    (margin : ∀ velocity, 0 ≤ (left.limits.brakeMargin velocity).toInt) {command : Command}
    (admitted : relocation.Admits left) (inRange : command = .advance → left.StaysInRange)
    (later : relocation.Admits (left.after command)) :
    relocation.Placed (left.after command) (right.after (relocation.command command)) ∧
      right.reply (relocation.command command) =
        (left.reply command).carried relocation.carry := by
  cases command with
  | enqueue waypoint =>
    rw [Relocation.command, reply, reply, Sequencer.after, Sequencer.after, enqueue, enqueue]
    rcases push_waypoint waypoint placed.waypoints with
      ⟨refusal, refused, alike⟩ | ⟨longer, further, pushed, alike, waypoints⟩
    · rw [refused, alike]
      exact ⟨placed, rfl⟩
    · rw [pushed, alike]
      refine ⟨placed.rerouted waypoints, congrArg Reply.accepted ?_⟩
      rw [placed.isEmpty, isStopped, placed.interval, isStopped]
  | withdrawLast =>
    refine ⟨placed.rerouted ?_, congrArg Reply.withdrawn ?_⟩
    · rw [Route.waypoints_popBack, placed.waypoints, Route.waypoints_popBack, List.map_dropLast]
    · rw [Route.last?, placed.waypoints, List.getLast?_map, Option.map_map, Route.last?,
        Option.map_map]
      apply Option.map_congr
      intro waypoint last
      have kept := admitted.route _ (List.mem_map_of_mem (List.mem_of_getLast? last))
      exact congrArg (Prod.mk waypoint.key) (toInt_place kept)
  | setPosition position =>
    exact ⟨⟨placed.limits, placed.phase, placed.interval, placed.velocity, rfl, placed.waypoints,
      placed.direction⟩, rfl⟩
  | clearRoute => exact ⟨placed.rerouted rfl, rfl⟩
  | halt => exact ⟨placed.halted, rfl⟩
  | advance =>
    obtain ⟨advanced, announced⟩ :=
      placed.advance cruise travel margin admitted later.here (inRange rfl)
    refine ⟨advanced, congrArg Reply.arrived ?_⟩
    rw [announced, List.map_map, List.map_map]
    apply List.map_congr_left
    intro arrival member
    have there := (settles_advance cruise).position_of_announced member
    exact congrArg (Prod.mk arrival.key) (toInt_place (there ▸ later.here))

/-- Counterparts are seen to do the same. -/
theorem Placed.carried {reply answer : Reply} (placed : relocation.Placed left right)
    (admitted : relocation.Admits left) (same : answer = reply.carried relocation.carry) :
    Observation.Carried relocation.carry ⟨reply, left⟩ ⟨answer, right⟩ where
  reply := same
  pending := placed.pending
  phase := placed.phase
  interval := placed.interval
  velocity := placed.velocity
  position := by
    rw [placed.position]
    exact toInt_place admitted.here
  target := by
    rw [placed.target?, Option.map_map]
    apply Option.map_congr
    intro target pursued
    exact toInt_place (keeps_of_target? admitted.route pursued)

/-- Counterparts are seen to do the same all along relocated runs. -/
theorem Placed.observations (placed : relocation.Placed left right)
    (cruise : left.limits.cruiseInterval ≠ .zero)
    (travel : 0 < left.limits.distancePerStep.toInt)
    (margin : ∀ velocity, 0 ≤ (left.limits.brakeMargin velocity).toInt) {commands : List Command}
    (allowed : relocation.Allows left commands) :
    List.Forall₂ (fun one other => Observation.Carried relocation.carry one other ∧
        relocation.Placed one.sequencer other.sequencer)
      (left.observations commands)
      (right.observations (commands.map relocation.command)) := by
  induction commands generalizing left right with
  | nil => exact .nil
  | cons command commands ih =>
    obtain ⟨admitted, inRange, rest⟩ := allowed
    have limits := limits_after cruise command
    obtain ⟨later, replied⟩ := placed.after cruise travel margin admitted inRange rest.admits
    refine .cons ⟨later.carried rest.admits replied, later⟩ (ih later ?_ ?_ ?_ rest)
    · rw [limits]; exact cruise
    · rw [limits]; exact travel
    · rw [limits]; exact margin

/-- A new axis is its own mirror image. -/
theorem placed_initial (limits : Kinematics) :
    mirror.Placed (initial limits : Sequencer capacity) (initial limits) :=
  ⟨rfl, rfl, rfl, rfl, Millimeters.ext rfl, rfl, fun straight => nomatch straight rfl⟩

end Relocation

namespace Sequencer

open Relocation

variable {capacity : Nat}

/-- **Mirrored runs.** Commands with every position negated make a new axis move as the commands
themselves do, on the other side of zero and in the opposite direction. -/
theorem observations_mirrored {limits : Kinematics} (cruise : limits.cruiseInterval ≠ .zero)
    (travel : 0 < limits.distancePerStep.toInt)
    (braking : ∀ velocity, 0 ≤ (limits.brakingDistance velocity).toInt) {commands : List Command}
    (allowed : mirror.Allows (initial limits : Sequencer capacity) commands) :
    List.Forall₂ Observation.Mirrors ((initial limits : Sequencer capacity).observations commands)
      ((initial limits).observations (commands.map mirror.command)) := by
  have margin (velocity : Float) := Kinematics.brakeMargin_nonneg travel (braking velocity)
  have alike := (placed_initial limits).observations cruise travel margin allowed
  exact alike.imp fun _ _ ⟨carried, placed⟩ =>
    ⟨carried, fun moving => placed.direction fun rest => absurd rest moving⟩

/-- A slow axis goes there and back on either side of zero. -/
theorem observations_mirrored_there_and_back :
    let commands := [.enqueue ⟨0, .clamp 3, true⟩, .advance, .advance,
      .enqueue ⟨1, .clamp (-2), true⟩, .enqueue ⟨1, .clamp 5, false⟩, .advance, .advance,
      .setPosition (.clamp 7), .advance, .withdrawLast, .clearRoute, .advance]
    mirror.Allows (initial .slow : Sequencer 8) commands ∧
      List.Forall₂ Observation.Mirrors ((initial .slow : Sequencer 8).observations commands)
        ((initial .slow).observations (commands.map mirror.command)) := by
  intro commands
  have allowed : mirror.Allows (initial .slow : Sequencer 8) commands := by decide +kernel
  exact ⟨allowed, observations_mirrored (by decide +kernel) (by decide)
    (Kinematics.brakingDistance_nonneg (by decide) (by decide +kernel)) allowed⟩

/-- **Shifted runs.** Commands with an offset to every position make an axis that starts at the same
offset move as the commands themselves do, at that offset and in the same direction. -/
theorem observations_shifted {start : Sequencer capacity} {offset : Int}
    (cruise : start.limits.cruiseInterval ≠ .zero)
    (travel : 0 < start.limits.distancePerStep.toInt)
    (braking : ∀ velocity, 0 ≤ (start.limits.brakingDistance velocity).toInt)
    {commands : List Command} (allowed : (shift offset).Allows start commands) :
    List.Forall₂ (Observation.Shifts offset) (start.observations commands)
      (((shift offset).sequencer start).observations (commands.map (shift offset).command)) := by
  have margin (velocity : Float) := Kinematics.brakeMargin_nonneg travel (braking velocity)
  have alike := ((shift offset).placed_sequencer start).observations cruise travel margin allowed
  exact alike.imp fun _ _ ⟨carried, placed⟩ => ⟨carried, placed.direction fun _ => rfl⟩

/-- A slow axis moves up to the end of the range and back as it moves up to zero and back. -/
theorem observations_shifted_to_the_end :
    let commands := [.enqueue ⟨0, .clamp (-1), true⟩, .enqueue ⟨1, 0, true⟩, .advance, .advance,
      .advance, .advance, .enqueue ⟨2, .clamp (-4), true⟩, .advance, .advance, .withdrawLast,
      .advance]
    let start := (initial .slow : Sequencer 8).setPosition (.clamp (-5))
    (shift 2147483647).Allows start commands ∧
      List.Forall₂ (Observation.Shifts 2147483647) (start.observations commands)
        (((shift 2147483647).sequencer start).observations
          (commands.map (shift 2147483647).command)) := by
  intro commands start
  have allowed : (shift 2147483647).Allows start commands := by decide +kernel
  exact ⟨allowed, observations_shifted (by decide +kernel) (by decide)
    (Kinematics.brakingDistance_nonneg (by decide) (by decide +kernel)) allowed⟩

end Sequencer

end LinearAxis
