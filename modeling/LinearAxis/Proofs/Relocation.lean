import LinearAxis.Proofs.Arrival
import LinearAxis.Proofs.BrakePoint

/-!
# Relocated axes

A relocation shifts the positions of an axis or mirrors them, so that distances are kept wherever
positions stay in range.  A sequencer and its relocated counterpart stay counterparts: planning
looks at distances only, although it computes with saturating positions
(`LinearAxis.Relocation.Placed.advance`).  A mirror turns directions around, but a move of length
zero counts as backward on both sides; that makes no difference as long as no two neighbours on the
route have the same position, and an axis at rest may face either way.
-/

namespace LinearAxis

/-- A shift or a mirroring of positions. -/
structure Relocation where
  carry : Int → Int
  /-- Whether forward becomes backward. -/
  reverses : Bool
  /-- Distances are kept, with their signs turned by a mirror. -/
  distance : ∀ first second : Int,
    carry second - carry first = if reverses then first - second else second - first

namespace Relocation

/-- The relocation that turns the sign of every position. -/
def mirror : Relocation where
  carry position := -position
  reverses := true
  distance first second := by
    simp only [↓reduceIte]
    omega

/-- The relocation that adds an offset to every position. -/
def shift (offset : Int) : Relocation where
  carry position := position + offset
  reverses := false
  distance first second := by
    simp only [Bool.false_eq_true, ↓reduceIte]
    omega

variable (relocation : Relocation)

/-- A position on the relocated axis. -/
def place (position : Millimeters) : Millimeters := .clamp (relocation.carry position.toInt)

/-- Whether a position stays in range. -/
def Keeps (position : Millimeters) : Prop :=
  -2147483648 ≤ relocation.carry position.toInt ∧ relocation.carry position.toInt ≤ 2147483647

instance (position : Millimeters) : Decidable (relocation.Keeps position) :=
  inferInstanceAs (Decidable (_ ∧ _))

/-- The direction of travel on the relocated axis. -/
def turn (direction : Direction) : Direction :=
  if relocation.reverses then direction.reverse else direction

/-- A waypoint on the relocated axis. -/
def waypoint (waypoint : Waypoint) : Waypoint :=
  { waypoint with position := relocation.place waypoint.position }

/-- An announcement on the relocated axis. -/
def announcement (announcement : Announcement) : Announcement :=
  { announcement with position := relocation.place announcement.position }

variable {relocation}

/-! ## Distances and directions -/

section Distances

variable {direction : Direction} {first second : Millimeters}

theorem toInt_place (here : relocation.Keeps first) :
    (relocation.place first).toInt = relocation.carry first.toInt :=
  Millimeters.toInt_clamp_of_inRange here.1 here.2

/-- The way from one position to another is as long on the relocated axis. -/
theorem way_place (here : relocation.Keeps first) (there : relocation.Keeps second) :
    (relocation.turn direction).way (relocation.place first) (relocation.place second) =
      direction.way first second := by
  rw [Direction.way, toInt_place here, toInt_place there, relocation.distance, turn]
  cases relocation.reverses <;> cases direction <;>
    simp only [Direction.way, Direction.reverse, Direction.sign, Bool.false_eq_true, ↓reduceIte] <;>
    omega

theorem continues_place (here : relocation.Keeps first) (there : relocation.Keeps second) :
    (relocation.turn direction).continues (relocation.place first) (relocation.place second) =
      direction.continues first second := by
  have way := @way_place relocation direction first second here there
  rw [Bool.eq_iff_iff, Direction.continues_iff, Direction.continues_iff]
  exact iff_of_eq (congrArg (0 < ·) way)

theorem place_inj (here : relocation.Keeps first) (there : relocation.Keeps second) :
    relocation.place first = relocation.place second ↔ first = second := by
  refine ⟨fun same => ?_, fun same => by rw [same]⟩
  have distance := relocation.distance first.toInt second.toInt
  rw [← toInt_place here, ← toInt_place there, same] at distance
  apply Millimeters.ext
  split at distance <;> omega

theorem towards_self (position : Millimeters) : Direction.towards position position = .backward :=
  if_neg (Int.lt_irrefl _)

theorem towards_place (here : relocation.Keeps first) (there : relocation.Keeps second)
    (apart : relocation.reverses = true → first ≠ second) :
    Direction.towards (relocation.place first) (relocation.place second) =
      relocation.turn (.towards first second) := by
  by_cases same : first = second
  · have straight : relocation.reverses = false := by
      rw [← Bool.not_eq_true]
      exact fun reverses => apart reverses same
    subst same
    rw [turn, straight, if_neg Bool.false_ne_true, towards_self, towards_self]
  · apply Direction.towards_eq
    rw [continues_place here there]
    exact Direction.towards_continues same

/-- A step that is not clamped leads to the relocated position. -/
theorem move_place {step : Millimeters} (travel : 0 < step.toInt) (here : relocation.Keeps first)
    (there : relocation.Keeps (direction.move first step))
    (exact : (direction.move first step).toInt = first.toInt + direction.sign * step.toInt) :
    (relocation.turn direction).move (relocation.place first) step =
      relocation.place (direction.move first step) := by
  have distance := relocation.distance first.toInt (direction.move first step).toInt
  have := (relocation.place (direction.move first step)).least_le
  have := (relocation.place (direction.move first step)).le_greatest
  apply Millimeters.ext
  rw [Direction.toInt_move travel]
  rw [← toInt_place here, ← toInt_place there, exact] at distance
  rw [turn]
  cases reverses : relocation.reverses <;> rw [reverses] at distance <;>
    cases direction <;>
    simp only [Direction.reverse, Direction.sign, Bool.false_eq_true, ↓reduceIte] at distance ⊢ <;>
    omega

end Distances

/-! ## Counterparts -/

/-- One sequencer is the counterpart of another on the relocated axis.  At rest a mirror says
nothing about the direction of travel. -/
structure Placed (relocation : Relocation) {capacity : Nat} (left right : Sequencer capacity) :
    Prop where
  limits : right.limits = left.limits
  phase : right.phase = left.phase
  interval : right.interval = left.interval
  velocity : right.velocity = left.velocity
  position : right.position = relocation.place left.position
  waypoints : right.route.waypoints = left.route.waypoints.map relocation.waypoint
  direction : (left.interval = .zero → relocation.reverses = false) →
    right.direction = relocation.turn left.direction

/-- The positions that a sequencer refers to stay in range, and for a mirror no two neighbours on
its route have the same position. -/
structure Admits (relocation : Relocation) {capacity : Nat} (sequencer : Sequencer capacity) :
    Prop where
  here : relocation.Keeps sequencer.position
  route : ∀ position ∈ sequencer.route.positions, relocation.Keeps position
  spaced : relocation.reverses = true → sequencer.route.positions.IsChain (· ≠ ·)

end Relocation

namespace Sequencer

variable {capacity : Nat}

/-- The step in flight, if there is one, does not lead out of the range of positions. -/
def StaysInRange (sequencer : Sequencer capacity) : Prop :=
  let position := sequencer.position.toInt +
    sequencer.direction.sign * sequencer.limits.distancePerStep.toInt
  sequencer.interval ≠ .zero → -2147483648 ≤ position ∧ position ≤ 2147483647

instance (sequencer : Sequencer capacity) : Decidable sequencer.StaysInRange :=
  inferInstanceAs (Decidable (_ → _ ∧ _))

variable {sequencer : Sequencer capacity}

theorem settle_of_stop (stop : sequencer.phase = .stop) :
    sequencer.settle = { sequencer.halt with route := sequencer.route.pop } := by
  rw [settle, stop]

theorem settle_of_going (going : sequencer.phase ≠ .stop) : sequencer.settle = sequencer := by
  rw [settle]
  cases phase : sequencer.phase with
  | stop => exact absurd phase going
  | accelerate | move | decelerate => rfl

/-- What is scheduled depends on the direction and the positions only by whether the target lies
ahead. -/
theorem scheduleNext_congr {other : Sequencer capacity} {target goal : Millimeters}
    (limits : other.limits = sequencer.limits) (phase : other.phase = sequencer.phase)
    (interval : other.interval = sequencer.interval)
    (velocity : other.velocity = sequencer.velocity)
    (ahead : other.direction.continues other.position goal =
      sequencer.direction.continues sequencer.position target) (arrived : Bool) :
    ∃ timing, sequencer.scheduleNext arrived target = sequencer.schedule timing ∧
      other.scheduleNext arrived goal = other.schedule timing := by
  have timing : other.nextTiming = sequencer.nextTiming := by
    rw [nextTiming, phase, limits, velocity, interval, nextTiming]
  have stretched : other.stretched = sequencer.stretched := by
    rw [Sequencer.stretched, limits, interval, Sequencer.stretched]
  rw [scheduleNext, scheduleNext, timing, ahead, stretched]
  split
  · exact ⟨_, rfl, rfl⟩
  · split
    · exact ⟨_, rfl, rfl⟩
    · exact ⟨_, rfl, rfl⟩

end Sequencer

namespace Relocation

open Sequencer

variable {relocation : Relocation} {capacity : Nat} {left right : Sequencer capacity}

theorem Placed.moving_iff (placed : relocation.Placed left right) :
    right.interval = .zero ↔ left.interval = .zero := by
  rw [placed.interval]

/-- Counterparts stay counterparts on relocated routes. -/
theorem Placed.rerouted (placed : relocation.Placed left right) {route other : Route capacity}
    (waypoints : other.waypoints = route.waypoints.map relocation.waypoint) :
    relocation.Placed { left with route } { right with route := other } :=
  ⟨placed.limits, placed.phase, placed.interval, placed.velocity, placed.position, waypoints,
    placed.direction⟩

/-- Counterparts come to rest as counterparts. -/
theorem Placed.halted (placed : relocation.Placed left right) :
    relocation.Placed left.halt right.halt :=
  ⟨placed.limits, rfl, rfl, rfl, placed.position, placed.waypoints,
    fun straight => placed.direction fun _ => straight rfl⟩

theorem Placed.pending (placed : relocation.Placed left right) :
    right.pending = left.pending := by
  rw [Sequencer.pending, Route.size, placed.waypoints, List.length_map, Sequencer.pending,
    Route.size]

/-- The step in flight ends at the relocated position. -/
theorem Placed.completeStep (placed : relocation.Placed left right)
    (travel : 0 < left.limits.distancePerStep.toInt) (here : relocation.Keeps left.position)
    (there : relocation.Keeps left.completeStep.position) (inRange : left.StaysInRange) :
    relocation.Placed left.completeStep right.completeStep := by
  by_cases resting : left.interval = .zero
  · rw [completeStep_of_resting resting, completeStep_of_resting (placed.moving_iff.mpr resting)]
    exact placed
  · have heading := placed.direction fun rest => absurd rest resting
    have within := inRange resting
    rw [completeStep_of_moving resting] at there ⊢
    rw [completeStep_of_moving (placed.moving_iff.not.mpr resting)]
    have exactly : (left.direction.move left.position left.limits.distancePerStep).toInt =
        left.position.toInt + left.direction.sign * left.limits.distancePerStep.toInt := by
      rw [Direction.toInt_move travel]
      omega
    refine ⟨placed.limits, placed.phase, placed.interval, placed.velocity, ?_, placed.waypoints,
      placed.direction⟩
    change right.direction.move right.position right.limits.distancePerStep = _
    rw [heading, placed.position, placed.limits]
    exact move_place travel here there exactly

theorem Placed.target? (placed : relocation.Placed left right) :
    right.target? = left.target?.map relocation.place := by
  rw [Sequencer.target?, Route.head?, placed.waypoints, List.head?_map, Option.map_map,
    Sequencer.target?, Route.head?, Option.map_map]
  rfl

theorem Placed.following? (placed : relocation.Placed left right) :
    right.route.following?.map Waypoint.position =
      (left.route.following?.map Waypoint.position).map relocation.place := by
  rw [Route.following?, placed.waypoints, List.getElem?_map, Option.map_map, Route.following?,
    Option.map_map]
  rfl

theorem keeps_of_target? {target : Millimeters}
    (route : ∀ position ∈ left.route.positions, relocation.Keeps position)
    (pursued : left.target? = some target) : relocation.Keeps target := by
  obtain ⟨head, first, rfl⟩ := Option.map_eq_some_iff.mp pursued
  exact route _ (List.mem_map_of_mem (List.mem_of_mem_head? first))

/-- Counterparts arrive together. -/
theorem Placed.hasArrived (placed : relocation.Placed left right)
    (here : relocation.Keeps left.position)
    (route : ∀ position ∈ left.route.positions, relocation.Keeps position) :
    right.hasArrived = left.hasArrived := by
  rw [Sequencer.hasArrived, Sequencer.hasArrived, placed.target?, placed.position]
  cases pursued : left.target? with
  | none => rfl
  | some target =>
    rw [Option.map_some, Bool.eq_iff_iff]
    simp only [beq_iff_eq, Option.some.injEq]
    exact place_inj (keeps_of_target? route pursued) here

theorem waypoints_arrive {route other : Route capacity}
    (same : other.waypoints = route.waypoints.map relocation.waypoint) :
    other.arrive.waypoints = route.arrive.waypoints.map relocation.waypoint := by
  have size : other.size = route.size := by rw [Route.size, same, List.length_map, Route.size]
  by_cases several : 1 < route.size
  · rw [other.waypoints_arrive_of_several (by rw [size]; exact several),
      route.waypoints_arrive_of_several several, same, List.map_tail]
  · rw [Route.arrive, if_neg (by rw [size]; exact several), Route.arrive, if_neg several]
    cases pending : route.waypoints with
    | nil =>
      rw [pending, List.map_nil] at same
      simp only [Route.silenceHead, pending, same, List.map_nil]
    | cons head rest =>
      rw [pending, List.map_cons] at same
      rw [other.silenceHead_of_cons same, route.silenceHead_of_cons pending]
      rfl

/-- Counterparts find the same arrival, and go on as counterparts. -/
theorem Placed.onward (placed : relocation.Placed left.completeStep right.completeStep)
    (there : relocation.Keeps left.completeStep.position)
    (route : ∀ position ∈ left.route.positions, relocation.Keeps position) :
    right.arrives = left.arrives ∧ relocation.Placed left.onward right.onward := by
  have same : right.arrives = left.arrives :=
    placed.hasArrived there (by rw [route_completeStep]; exact route)
  refine ⟨same, ?_⟩
  cases arrives : left.arrives with
  | false =>
    rw [onward_of_not_arrives arrives, onward_of_not_arrives (same.trans arrives)]
    exact placed
  | true =>
    rw [onward_of_arrives arrives, onward_of_arrives (same.trans arrives)]
    have waypoints := placed.waypoints
    rw [route_completeStep, route_completeStep] at waypoints
    exact placed.rerouted (waypoints_arrive waypoints)

/-! ## Planning -/

section Planning

variable {target : Millimeters}

/-- Unless a mirrored axis stands at its target, counterparts face alike. -/
theorem Placed.direction_face (placed : relocation.Placed left right)
    (here : relocation.Keeps left.position) (there : relocation.Keeps target)
    (apart : left.interval = .zero → relocation.reverses = true → left.position ≠ target) :
    (right.face (relocation.place target)).direction =
      relocation.turn (left.face target).direction := by
  by_cases resting : left.interval = .zero
  · rw [face_of_resting resting, face_of_resting (placed.moving_iff.mpr resting)]
    change Direction.towards right.position _ = relocation.turn (.towards left.position target)
    rw [placed.position]
    exact towards_place here there (apart resting)
  · rw [face_of_moving resting, face_of_moving (placed.moving_iff.not.mpr resting)]
    exact placed.direction fun rest => absurd rest resting

theorem goal_place {direction : Direction} {following : Option Millimeters}
    (there : relocation.Keeps target) (kept : ∀ next ∈ following, relocation.Keeps next) :
    Kinematics.goal (relocation.turn direction) (relocation.place target)
        (following.map relocation.place) =
      relocation.place (Kinematics.goal direction target following) := by
  cases following with
  | none => rfl
  | some next =>
    have ahead := @continues_place relocation direction _ _ there (kept next rfl)
    simp only [Option.map_some, Kinematics.goal, ahead]
    split <;> rfl

theorem keeps_goal {direction : Direction} {following : Option Millimeters}
    (there : relocation.Keeps target) (kept : ∀ next ∈ following, relocation.Keeps next) :
    relocation.Keeps (Kinematics.goal direction target following) := by
  cases following with
  | none => exact there
  | some next =>
    rw [Kinematics.goal]
    split
    · exact kept next rfl
    · exact there

theorem keeps_following (route : ∀ position ∈ left.route.positions, relocation.Keeps position)
    {next : Millimeters} (second : next ∈ left.route.following?.map Waypoint.position) :
    relocation.Keeps next := by
  obtain ⟨waypoint, known, rfl⟩ := Option.map_eq_some_iff.mp second
  exact route _ (List.mem_map_of_mem (List.mem_of_getElem? known))

/-- Counterparts that face alike plan the same phase, since the way to the goal is the same. -/
theorem Placed.plannedPhase (placed : relocation.Placed left right)
    (travel : 0 < left.limits.distancePerStep.toInt)
    (margin : ∀ velocity, 0 ≤ (left.limits.brakeMargin velocity).toInt)
    (here : relocation.Keeps left.position)
    (route : ∀ position ∈ left.route.positions, relocation.Keeps position)
    (there : relocation.Keeps target)
    (facing : (right.face (relocation.place target)).direction =
      relocation.turn (left.face target).direction) :
    right.plannedPhase (relocation.place target) = left.plannedPhase target := by
  have kept : ∀ next ∈ left.route.following?.map Waypoint.position, relocation.Keeps next :=
    fun _ second => keeps_following route second
  have moving : (right.face (relocation.place target)).isStopped =
      (left.face target).isStopped := by
    rw [isStopped, isStopped, interval_face, interval_face, placed.interval]
  have way : (right.face (relocation.place target)).direction.way
        (right.face (relocation.place target)).position
        (Kinematics.goal (right.face (relocation.place target)).direction
          (relocation.place target) (right.route.following?.map Waypoint.position)) =
      (left.face target).direction.way (left.face target).position
        (Kinematics.goal (left.face target).direction target
          (left.route.following?.map Waypoint.position)) := by
    rw [facing, placed.following?, goal_place there kept, position_face, position_face,
      placed.position]
    exact way_place here (keeps_goal there kept)
  rw [Sequencer.plannedPhase, Sequencer.plannedPhase, Kinematics.plan, Kinematics.plan,
    placed.limits]
  refine Kinematics.nextPhase_congr travel (margin _) ?_ (congrArg not moving) way
  change (right.face (relocation.place target)).velocity = (left.face target).velocity
  rw [velocity_face, velocity_face, placed.velocity]

/-- Counterparts that face alike stay counterparts, whatever is scheduled. -/
theorem Placed.settle_schedule (placed : relocation.Placed left right)
    (heading : right.direction = relocation.turn left.direction) (timing : StepTiming) :
    relocation.Placed (left.schedule timing).settle (right.schedule timing).settle := by
  have scheduled : relocation.Placed (left.schedule timing) (right.schedule timing) :=
    ⟨placed.limits, placed.phase, rfl, rfl, placed.position, placed.waypoints, fun _ => heading⟩
  by_cases stop : left.phase = .stop
  · have popped : right.route.pop.waypoints =
        left.route.pop.waypoints.map relocation.waypoint := by
      rw [Route.waypoints_pop, placed.waypoints, Route.waypoints_pop, List.map_tail]
    rw [@settle_of_stop _ (left.schedule timing) stop,
      @settle_of_stop _ (right.schedule timing) (placed.phase.trans stop)]
    exact scheduled.halted.rerouted popped
  · rw [@settle_of_going _ (left.schedule timing) stop,
      @settle_of_going _ (right.schedule timing) (placed.phase ▸ stop)]
    exact scheduled

/-- A mirrored axis at rest at its only waypoint plans to stay there, as its counterpart does. -/
theorem plannedPhase_of_there (travel : 0 < left.limits.distancePerStep.toInt)
    (margin : ∀ velocity, 0 ≤ (left.limits.brakeMargin velocity).toInt)
    (resting : left.interval = .zero) (there : left.position = target)
    (lone : left.route.following? = none) : left.plannedPhase target = .stop := by
  have still : (left.face target).isStopped = true :=
    isStopped_iff.mpr (by rw [interval_face]; exact resting)
  have none : (left.face target).direction.way (left.face target).position target = 0 := by
    rw [position_face, there, Direction.way]
    omega
  have room := margin (left.face target).velocity
  rw [Sequencer.plannedPhase, lone]
  change left.limits.nextPhase (left.face target).snapshot target = .stop
  rw [Kinematics.nextPhase_eq travel (margin _)]
  simp only [snapshot, none, still]
  rw [if_neg (by omega), if_neg (by omega)]
  rfl

theorem Placed.planStep (placed : relocation.Placed left right)
    (travel : 0 < left.limits.distancePerStep.toInt)
    (margin : ∀ velocity, 0 ≤ (left.limits.brakeMargin velocity).toInt)
    (here : relocation.Keeps left.position)
    (route : ∀ position ∈ left.route.positions, relocation.Keeps position)
    (there : relocation.Keeps target)
    (apart : relocation.reverses = true → left.position = target →
      left.route.following? = none) (arrived : Bool) :
    relocation.Placed (left.planStep arrived target)
      (right.planStep arrived (relocation.place target)) := by
  by_cases headed : left.interval = .zero → relocation.reverses = true → left.position ≠ target
  · have facing := placed.direction_face here there headed
    have planned := placed.plannedPhase travel margin here route there facing
    have turned : relocation.Placed
        { left.face target with phase := left.plannedPhase target }
        { right.face (relocation.place target) with phase := left.plannedPhase target } := by
      refine ⟨?_, rfl, ?_, ?_, ?_, ?_, fun _ => facing⟩
      · simp only [limits_face, placed.limits]
      · simp only [interval_face, placed.interval]
      · simp only [velocity_face, placed.velocity]
      · simp only [position_face, placed.position]
      · simp only [route_face, placed.waypoints]
    have ahead : (right.face (relocation.place target)).direction.continues
          (right.face (relocation.place target)).position (relocation.place target) =
        (left.face target).direction.continues (left.face target).position target := by
      rw [facing, position_face, position_face, placed.position]
      exact continues_place here there
    obtain ⟨timing, one, other⟩ := scheduleNext_congr turned.limits turned.phase turned.interval
      turned.velocity ahead arrived
    rw [planStep_eq, planStep_eq, planned, one, other]
    exact turned.settle_schedule facing timing
  · -- The counterparts both face backward, but at their only waypoint both give it up.
    push Not at headed
    obtain ⟨resting, reverses, same⟩ := headed
    have lone := apart reverses same
    have last : right.route.following? = none := by
      have second := placed.following?
      rw [lone] at second
      exact Option.map_eq_none_iff.mp second
    have still : right.interval = .zero := placed.moving_iff.mpr resting
    have alike : right.position = relocation.place target := by rw [placed.position, same]
    rw [planStep_of_stop (plannedPhase_of_there travel margin resting same lone),
      planStep_of_stop (plannedPhase_of_there (by rw [placed.limits]; exact travel)
        (by rw [placed.limits]; exact margin) still alike last)]
    refine ⟨?_, rfl, rfl, rfl, ?_, ?_, fun straight => ?_⟩
    · simp only [halt, limits_face, placed.limits]
    · simp only [halt, position_face, placed.position]
    · rw [Route.waypoints_pop, placed.waypoints, Route.waypoints_pop, List.map_tail]
    · rw [straight rfl] at reverses
      cases reverses

end Planning

/-! ## Passes and advances -/

theorem announcement?_place {route other : Route capacity}
    (same : other.waypoints = route.waypoints.map relocation.waypoint) :
    other.announcement? = route.announcement?.map relocation.announcement := by
  cases pending : route.waypoints with
  | nil =>
    rw [pending, List.map_nil] at same
    rw [Route.announcement?, Route.head?, same, Route.announcement?, Route.head?, pending]
    rfl
  | cons head rest =>
    rw [pending, List.map_cons] at same
    rw [other.announcement?_of_cons same, route.announcement?_of_cons pending,
      Waypoint.announcement?, Waypoint.announcement?]
    change (if head.announces then _ else _) = _
    split <;> rfl

/-- Passes of counterparts are counterparts, and settle together. -/
theorem Placed.pass (placed : relocation.Placed left right)
    (travel : 0 < left.limits.distancePerStep.toInt)
    (margin : ∀ velocity, 0 ≤ (left.limits.brakeMargin velocity).toInt)
    (admitted : relocation.Admits left) (there : relocation.Keeps left.completeStep.position)
    (inRange : left.StaysInRange) :
    relocation.Placed left.pass.sequencer right.pass.sequencer ∧
      right.pass.announcement? = left.pass.announcement?.map relocation.announcement ∧
      right.pass.isSettled = left.pass.isSettled := by
  have stepped := placed.completeStep travel admitted.here there inRange
  obtain ⟨arrives, onward⟩ := stepped.onward there admitted.route
  cases pursued : left.onward.target? with
  | none =>
    have alike : right.onward.target? = none := by rw [onward.target?, pursued]; rfl
    rw [pass_eq, pursued, pass_eq, alike]
    refine ⟨?_, rfl, rfl⟩
    dsimp only
    rw [onward.phase]
    split
    · exact onward
    · exact onward.halted
  | some target =>
    have alike : right.onward.target? = some (relocation.place target) := by
      rw [onward.target?, pursued]
      rfl
    have route : ∀ position ∈ left.onward.route.positions, relocation.Keeps position := by
      obtain ⟨count, taken⟩ := left.waypoints_onward
      intro position member
      rw [Route.positions, taken, List.map_drop, map_noted fun _ => rfl] at member
      exact admitted.route position (List.mem_of_mem_drop member)
    have here : relocation.Keeps left.onward.position := by rw [position_onward]; exact there
    have last (reverses : relocation.reverses = true) (same : left.onward.position = target) :
        left.onward.route.following? = none :=
      (last_or_repeated pursued same).resolve_right
        (not_not_intro (admitted.spaced reverses))
    have planned := onward.planStep (by rw [limits_onward]; exact travel)
      (by rw [limits_onward]; exact margin) here route (keeps_of_target? route pursued) last
      left.arrives
    rw [pass_of_target pursued, pass_of_target alike, arrives]
    refine ⟨planned, ?_, ?_⟩
    · have waypoints := stepped.waypoints
      change right.arrival? = left.arrival?.map _
      rw [arrival?, arrives, arrival?, announcement?_place waypoints]
      split <;> rfl
    · dsimp only
      rw [isStopped, planned.interval, isStopped]

/-- What a relocation admits at the start of an advance it admits at the start of every pass. -/
theorem Admits.pass (admitted : relocation.Admits left)
    (cruise : left.limits.cruiseInterval ≠ .zero)
    (there : relocation.Keeps left.completeStep.position) :
    relocation.Admits left.pass.sequencer where
  here := by rw [position_pass]; exact there
  route position member := by
    rw [positions_pass cruise] at member
    exact admitted.route position (List.mem_of_mem_drop member)
  spaced reverses := by
    rw [positions_pass cruise]
    exact (admitted.spaced reverses).drop _

theorem Placed.advanceWithin (placed : relocation.Placed left right)
    (cruise : left.limits.cruiseInterval ≠ .zero)
    (travel : 0 < left.limits.distancePerStep.toInt)
    (margin : ∀ velocity, 0 ≤ (left.limits.brakeMargin velocity).toInt)
    (admitted : relocation.Admits left) (there : relocation.Keeps left.completeStep.position)
    (inRange : left.StaysInRange) (passes : Nat) :
    relocation.Placed (Sequencer.advanceWithin passes left).1
        (Sequencer.advanceWithin passes right).1 ∧
      (Sequencer.advanceWithin passes right).2 =
        (Sequencer.advanceWithin passes left).2.map relocation.announcement := by
  induction passes generalizing left right with
  | zero => exact ⟨placed, rfl⟩
  | succ passes ih =>
    obtain ⟨passed, announced, settled⟩ := placed.pass travel margin admitted there inRange
    have announcements : right.pass.announcement?.toList =
        left.pass.announcement?.toList.map relocation.announcement := by
      rw [announced]
      cases left.pass.announcement? <;> rfl
    rw [Sequencer.advanceWithin, Sequencer.advanceWithin, settled]
    cases unsettled : left.pass.isSettled with
    | true => exact ⟨passed, announcements⟩
    | false =>
      have resting := interval_pass_of_unsettled unsettled
      have same := limits_pass cruise
      obtain ⟨final, later⟩ := ih passed (by rw [same]; exact cruise) (by rw [same]; exact travel)
        (by rw [same]; exact margin) (admitted.pass cruise there)
        (by rw [completeStep_of_resting resting, position_pass]; exact there)
        (fun moving => absurd resting moving)
      simp only [Bool.false_eq_true, ↓reduceIte]
      exact ⟨final, by rw [announcements, later, List.map_append]⟩

/-- **Relocated advances.** Counterparts advance as counterparts, and make the same announcements at
relocated positions. -/
theorem Placed.advance (placed : relocation.Placed left right)
    (cruise : left.limits.cruiseInterval ≠ .zero)
    (travel : 0 < left.limits.distancePerStep.toInt)
    (margin : ∀ velocity, 0 ≤ (left.limits.brakeMargin velocity).toInt)
    (admitted : relocation.Admits left) (there : relocation.Keeps left.advance.1.position)
    (inRange : left.StaysInRange) :
    relocation.Placed left.advance.1 right.advance.1 ∧
      right.advance.2 = left.advance.2.map relocation.announcement := by
  rw [position_advance] at there
  rw [Sequencer.advance, Sequencer.advance, placed.pending]
  exact placed.advanceWithin cruise travel margin admitted there inRange _

end Relocation

end LinearAxis
