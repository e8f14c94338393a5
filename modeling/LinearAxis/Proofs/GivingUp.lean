import LinearAxis.Proofs.Arrival
import LinearAxis.Proofs.BrakePoint
import LinearAxis.Proofs.Rest

/-!
# When a waypoint is given up

An advance takes a waypoint off the route in two cases only.  Either the axis stands there and
another waypoint follows, or the axis is at rest and the goal of planning lies so near that there
is no room to speed up and brake again (`LinearAxis.Sequencer.removed_on_arrival_or_near`).  At rest
with its goal further away the axis gives nothing up and sets out toward it.
-/

namespace LinearAxis

/-- A step and the braking distance at rest, cut to the greatest distance. -/
def Kinematics.restMargin (limits : Kinematics) : Int :=
  min (limits.distancePerStep.toInt + (limits.brakingDistance 0.0).toInt) 2147483647

variable {capacity : Nat}

namespace Route

variable (route : Route capacity)

/-- The waypoints in the order of visit, whether or not their arrivals have been announced. -/
def itinerary : List Waypoint := route.waypoints.map Waypoint.silenced

variable {route}

theorem itinerary_nodup : route.itinerary.Nodup := by
  have keys : route.itinerary.map Waypoint.key = route.waypoints.map Waypoint.key := by
    rw [itinerary, List.map_map]
    rfl
  refine List.Pairwise.of_map Waypoint.key ?_ (keys ▸ route.keys_nodup)
  exact fun _ _ apart same => apart (congrArg Waypoint.key same)

theorem itinerary_pop : route.pop.itinerary = route.itinerary.tail := by
  rw [itinerary, waypoints_pop, List.map_tail, itinerary]

/-- An arrival takes the head off where another waypoint follows. -/
theorem itinerary_arrive :
    route.arrive.itinerary =
      if 1 < route.size then route.itinerary.tail else route.itinerary := by
  rw [arrive]
  split
  · exact itinerary_pop
  · cases pending : route.waypoints with
    | nil => simp only [itinerary, silenceHead, pending]
    | cons head rest =>
      rw [itinerary, route.silenceHead_of_cons pending, itinerary, pending]
      rfl

/-- Giving the head up takes the head off and no other waypoint. -/
theorem not_mem_itinerary_tail_iff {waypoint : Waypoint} (pending : waypoint ∈ route.itinerary) :
    waypoint ∉ route.itinerary.tail ↔ route.itinerary.head? = some waypoint := by
  have distinct := route.itinerary_nodup
  cases same : route.itinerary with
  | nil =>
    rw [same] at pending
    cases pending
  | cons first rest =>
    rw [same] at pending distinct
    rw [List.tail_cons, List.head?_cons, Option.some.injEq]
    constructor
    · intro gone
      exact ((List.mem_cons.mp pending).resolve_right gone).symm
    · rintro rfl
      exact (List.nodup_cons.mp distinct).1

end Route

namespace Sequencer

variable {sequencer : Sequencer capacity} {target : Millimeters}

/-- The waypoint is on the route, whether or not its arrival has been announced. -/
def Awaits (sequencer : Sequencer capacity) (waypoint : Waypoint) : Prop :=
  waypoint.silenced ∈ sequencer.route.itinerary

instance (waypoint : Waypoint) : Decidable (sequencer.Awaits waypoint) :=
  inferInstanceAs (Decidable (_ ∈ _))

/-- How far the goal of planning for a target lies ahead, in the direction toward the target.  The
goal is the waypoint after the head where that one lies beyond the target, and the target
otherwise. -/
def remaining (sequencer : Sequencer capacity) (target : Millimeters) : Int :=
  let direction := Direction.towards sequencer.position target
  let left := direction.sign * (target.toInt - sequencer.position.toInt)
  match sequencer.route.following? with
  | none => left
  | some next =>
    if 0 < direction.sign * (next.position.toInt - target.toInt) then
      direction.sign * (next.position.toInt - sequencer.position.toInt)
    else left

/-- What remains is the way to the goal that planning brakes for. -/
theorem remaining_eq_way_goal :
    sequencer.remaining target =
      (Direction.towards sequencer.position target).way sequencer.position
        (Kinematics.goal (.towards sequencer.position target) target
          (sequencer.route.following?.map Waypoint.position)) := by
  rw [remaining]
  cases sequencer.route.following? with
  | none => rfl
  | some next =>
    simp only [Option.map_some, Kinematics.goal, Direction.continues_iff]
    split <;> rfl

/-- The pass takes the waypoint off because the axis stands there, with another one behind it. -/
structure Visits (sequencer : Sequencer capacity) (waypoint : Waypoint) : Prop where
  first : sequencer.route.itinerary.head? = some waypoint.silenced
  there : sequencer.completeStep.position = waypoint.position
  followed : 1 < sequencer.pending

/-- The pass finds the axis at rest and takes the waypoint off because no more is left to the goal
of planning than a step and the braking distance at rest. -/
structure GivesUp (sequencer : Sequencer capacity) (waypoint : Waypoint) : Prop where
  resting : sequencer.interval = .zero
  first : sequencer.onward.route.itinerary.head? = some waypoint.silenced
  near : sequencer.onward.remaining waypoint.position ≤ sequencer.limits.restMargin

/-! ## What a pass leaves of the route -/

theorem target?_eq_of_first {waypoint : Waypoint}
    (first : sequencer.route.itinerary.head? = some waypoint.silenced) :
    sequencer.target? = some waypoint.position := by
  rw [Route.itinerary, List.head?_map, Option.map_eq_some_iff] at first
  obtain ⟨head, found, same⟩ := first
  have there : head.silenced.position = waypoint.silenced.position := congrArg _ same
  rw [target?, Route.head?, found, Option.map_some]
  exact congrArg some there

theorem itinerary_onward :
    sequencer.onward.route.itinerary =
      if sequencer.arrives = true ∧ 1 < sequencer.pending then sequencer.route.itinerary.tail
      else sequencer.route.itinerary := by
  cases arrives : sequencer.arrives with
  | false =>
    rw [onward_of_not_arrives arrives, route_completeStep,
      if_neg fun taken => Bool.false_ne_true taken.1]
  | true =>
    rw [onward_of_arrives arrives, Route.itinerary_arrive]
    simp only [true_and]
    rfl

theorem arrives_iff_of_first {waypoint : Waypoint}
    (first : sequencer.route.itinerary.head? = some waypoint.silenced) :
    sequencer.arrives = true ↔ sequencer.completeStep.position = waypoint.position := by
  rw [← route_completeStep] at first
  rw [arrives, hasArrived, target?_eq_of_first first, beq_iff_eq, Option.some.injEq]
  exact eq_comm

/-- Making the arrival takes off the waypoint at which the axis stands, if another one follows. -/
theorem not_awaits_onward_iff {waypoint : Waypoint} (awaited : sequencer.Awaits waypoint) :
    ¬ sequencer.onward.Awaits waypoint ↔ sequencer.Visits waypoint := by
  rw [Awaits, itinerary_onward]
  split
  · next taken =>
    rw [Route.not_mem_itinerary_tail_iff awaited]
    constructor
    · exact fun first => ⟨first, (arrives_iff_of_first first).mp taken.1, taken.2⟩
    · exact fun visits => visits.first
  · next kept =>
    refine iff_of_false (not_not_intro awaited) fun visits => kept ?_
    exact ⟨(arrives_iff_of_first visits.first).mpr visits.there, visits.followed⟩

/-- Planning takes the head of the route off exactly where it keeps the axis at rest. -/
theorem route_planStep (cruise : sequencer.limits.cruiseInterval ≠ .zero) {arrived : Bool} :
    (sequencer.planStep arrived target).route =
      if sequencer.plannedPhase target = .stop then sequencer.route.pop else sequencer.route := by
  split
  · next stop => rw [planStep_of_stop stop]
  · next going =>
    by_cases rests : sequencer.plannedPhase target = .decelerate ∧
        sequencer.braking.interval = .zero ∧
        (arrived = true ∨ sequencer.direction.continues sequencer.position target = false)
    · obtain ⟨planned, unsolved, there⟩ := rests
      rw [planStep_of_unsolved planned unsolved there]
      rfl
    · obtain ⟨timing, -, planned⟩ := planStep_of_going_on cruise going rests
      rw [planned]
      exact route_face

theorem route_pass (cruise : sequencer.limits.cruiseInterval ≠ .zero)
    (pursued : sequencer.onward.target? = some target) :
    sequencer.pass.sequencer.route =
      if sequencer.onward.plannedPhase target = .stop then sequencer.onward.route.pop
      else sequencer.onward.route := by
  rw [pass_of_target pursued]
  exact route_planStep (cruise_onward cruise)

/-! ## Planning at rest -/

section Rest

variable (travel : 0 < sequencer.limits.distancePerStep.toInt)
  (braking : 0 ≤ (sequencer.limits.brakingDistance 0.0).toInt)
  (resting : sequencer.interval = .zero)

include travel braking resting

/-- At rest the axis stays there exactly where no more is left than the margin. -/
theorem plannedPhase_eq_stop_iff (still : sequencer.velocity = 0.0) :
    sequencer.plannedPhase target = .stop ↔
      sequencer.remaining target ≤ sequencer.limits.restMargin := by
  have position : (sequencer.face target).snapshot.position = sequencer.position := position_face
  have velocity : (sequencer.face target).snapshot.velocity = 0.0 := velocity_face.trans still
  have rests : (sequencer.face target).snapshot.moving = false := by
    rw [snapshot, isStopped_iff.mpr (interval_face.trans resting)]
    rfl
  have heading : (sequencer.face target).snapshot.direction =
      .towards sequencer.position target := by
    rw [face_of_resting resting]
    rfl
  rw [Kinematics.restMargin, ← Kinematics.toInt_brakeMargin travel braking, plannedPhase,
    remaining_eq_way_goal]
  generalize (sequencer.face target).snapshot = facing at position velocity rests heading
  have margin : 0 ≤ (sequencer.limits.brakeMargin facing.velocity).toInt := by
    rw [velocity]
    exact Kinematics.brakeMargin_nonneg travel braking
  rw [Kinematics.plan, Kinematics.nextPhase_eq travel margin, position, velocity, rests, heading]
  dsimp only
  split
  · next far => exact iff_of_false (by decide) (by omega)
  · split
    · next before => exact iff_of_false (by decide) (Int.not_le.mpr before)
    · next beyond => exact iff_of_true rfl (Int.not_lt.mp beyond)

/-- With more left than the margin an axis at rest sets out toward the target. -/
theorem planStep_of_far (cruise : sequencer.limits.cruiseInterval ≠ .zero)
    (still : sequencer.velocity = 0.0) {arrived : Bool}
    (far : sequencer.limits.restMargin < sequencer.remaining target) :
    (sequencer.planStep arrived target).route = sequencer.route ∧
      (sequencer.planStep arrived target).interval ≠ .zero ∧
      (sequencer.planStep arrived target).direction = .towards sequencer.position target := by
  have going : sequencer.plannedPhase target ≠ .stop :=
    (plannedPhase_eq_stop_iff travel braking resting still).not.mpr (Int.not_le.mpr far)
  have drives : ¬ (sequencer.plannedPhase target = .decelerate ∧
      sequencer.braking.interval = .zero) :=
    fun brakes => moving_of_plannedPhase brakes.1 resting
  obtain ⟨timing, timed, planned⟩ := planStep_of_solvable cruise going drives
  rw [planned, face_of_resting resting]
  exact ⟨rfl, timed, rfl⟩

end Rest

/-! ## What a pass takes off -/

theorem Passing.settling {passing : Sequencer capacity} (reaches : Passing sequencer passing)
    (cruise : sequencer.limits.cruiseInterval ≠ .zero) (settling : sequencer.Settling) :
    passing.Settling := by
  induction reaches with
  | first => exact settling
  | again _ _ ih => exact ih (cruise_pass cruise) (settling.pass cruise)

section Pass

variable (travel : 0 < sequencer.limits.distancePerStep.toInt)
  (braking : 0 ≤ (sequencer.limits.brakingDistance 0.0).toInt) (settling : sequencer.Settling)

include travel braking settling

/-- A pass that finds the axis at rest keeps it there exactly where no more is left than the
margin. -/
theorem plannedPhase_onward_eq_stop_iff (resting : sequencer.interval = .zero) :
    sequencer.onward.plannedPhase target = .stop ↔
      sequencer.onward.remaining target ≤ sequencer.limits.restMargin := by
  rw [← limits_onward] at travel braking ⊢
  exact plannedPhase_eq_stop_iff travel braking (interval_onward.trans resting)
    (velocity_onward.trans (settling.still_of_rest resting))

variable (cruise : sequencer.limits.cruiseInterval ≠ .zero)

include cruise

/-- A pass takes off the waypoint at which the axis stands, with another one behind it, and the one
that it gives up, and no other. -/
theorem not_awaits_pass_iff {waypoint : Waypoint} (awaited : sequencer.Awaits waypoint) :
    ¬ sequencer.pass.sequencer.Awaits waypoint ↔
      sequencer.Visits waypoint ∨ sequencer.GivesUp waypoint := by
  have pending : sequencer.route.waypoints ≠ [] :=
    fun idle => by simp [Awaits, Route.itinerary, idle] at awaited
  obtain ⟨target, pursued⟩ := exists_target pending
  rw [Awaits, route_pass cruise pursued]
  by_cases kept : sequencer.onward.Awaits waypoint
  · have unvisited : ¬ sequencer.Visits waypoint :=
      fun visits => (not_awaits_onward_iff awaited).mpr visits kept
    have target_eq (first : sequencer.onward.route.itinerary.head? = some waypoint.silenced) :
        target = waypoint.position :=
      Option.some.inj (pursued.symm.trans (target?_eq_of_first first))
    rw [or_iff_right unvisited]
    split
    · next stop =>
      have resting := interval_onward.symm.trans (resting_of_plannedPhase stop)
      have near := (plannedPhase_onward_eq_stop_iff travel braking settling resting).mp stop
      rw [Route.itinerary_pop, Route.not_mem_itinerary_tail_iff kept]
      constructor
      · intro first
        exact ⟨resting, first, target_eq first ▸ near⟩
      · exact fun givesUp => givesUp.first
    · next going =>
      refine iff_of_false (not_not_intro kept) fun givesUp => going ?_
      rw [target_eq givesUp.first]
      exact (plannedPhase_onward_eq_stop_iff travel braking settling givesUp.resting).mpr
        givesUp.near
  · refine iff_of_true (fun member => kept ?_) (.inl ((not_awaits_onward_iff awaited).mp kept))
    split at member
    · rw [Route.itinerary_pop] at member
      exact List.mem_of_mem_tail member
    · exact member

/-- A pass that finds the axis at rest with more left than the margin gives nothing up and sets out
toward the waypoint being pursued. -/
theorem pass_of_far (resting : sequencer.interval = .zero)
    (pursued : sequencer.onward.target? = some target)
    (far : sequencer.limits.restMargin < sequencer.onward.remaining target) :
    sequencer.pass.sequencer.route = sequencer.onward.route ∧
      sequencer.pass.isSettled = true ∧ sequencer.pass.sequencer.interval ≠ .zero ∧
      sequencer.pass.sequencer.direction = .towards sequencer.position target := by
  have still : sequencer.onward.velocity = 0.0 :=
    velocity_onward.trans (settling.still_of_rest resting)
  have position : sequencer.onward.position = sequencer.position := by
    rw [position_onward, completeStep_of_resting resting]
  rw [← limits_onward] at travel braking cruise far
  obtain ⟨route, timed, heading⟩ :=
    planStep_of_far travel braking (interval_onward.trans resting) cruise still far
  rw [position] at heading
  rw [isSettled_pass_iff pursued, pass_of_target pursued]
  exact ⟨route, timed, timed, heading⟩

end Pass

/-! ## What an advance takes off -/

/-- A waypoint that a series of passes takes off is taken off by one of them. -/
theorem Settles.exists_removing {final : Sequencer capacity} {announcements : List Announcement}
    {waypoint : Waypoint} (settles : Settles sequencer final announcements)
    (awaited : sequencer.Awaits waypoint) (removed : ¬ final.Awaits waypoint) :
    ∃ passing, Passing sequencer passing ∧ passing.Awaits waypoint ∧
      ¬ passing.pass.sequencer.Awaits waypoint := by
  induction settles with
  | done settled => exact ⟨_, .first, awaited, removed⟩
  | @again sequencer final later unsettled rest ih =>
    by_cases kept : sequencer.pass.sequencer.Awaits waypoint
    · obtain ⟨passing, reaches, removes⟩ := ih kept removed
      exact ⟨passing, .again unsettled reaches, removes⟩
    · exact ⟨sequencer, .first, awaited, kept⟩

/-- **When a waypoint is given up.** After every run of commands, each waypoint that an advance
takes off the route is taken off by a pass that finds the axis there, with another waypoint behind
it, or by one that finds the axis at rest with no more left to the goal of planning than a step and
the braking distance at rest.  A pass that finds the axis at rest with more left gives nothing up
and schedules a step toward the waypoint being pursued. -/
theorem removed_on_arrival_or_near {limits : Kinematics} (cruise : limits.cruiseInterval ≠ .zero)
    (travel : 0 < limits.distancePerStep.toInt)
    (braking : 0 ≤ (limits.brakingDistance 0.0).toInt) (commands : List Command) :
    let reached := (initial limits : Sequencer capacity).run commands
    (∀ waypoint, reached.Awaits waypoint → ¬ reached.advance.1.Awaits waypoint →
      ∃ passing, Passing reached passing ∧ passing.Awaits waypoint ∧
        ¬ passing.pass.sequencer.Awaits waypoint ∧
        (passing.Visits waypoint ∨ passing.GivesUp waypoint)) ∧
    ∀ passing target, Passing reached passing → passing.interval = .zero →
      passing.onward.target? = some target →
      limits.restMargin < passing.onward.remaining target →
      passing.pass.sequencer.route = passing.onward.route ∧ passing.pass.isSettled = true ∧
        passing.pass.sequencer.interval ≠ .zero ∧
        passing.pass.sequencer.direction = .towards passing.position target := by
  intro reached
  obtain ⟨steady, same⟩ := steady_run cruise commands
  rw [← same] at cruise
  -- What a pass needs to know holds where every pass of the advance starts.
  have known {passing : Sequencer capacity} (reaches : Passing reached passing) :
      passing.limits = limits ∧ passing.Settling :=
    ⟨(reaches.limits_eq cruise).trans same, reaches.settling cruise steady.settling⟩
  refine ⟨?_, ?_⟩
  · intro waypoint awaited removed
    obtain ⟨passing, reaches, waits, leaves⟩ :=
      (settles_advance cruise).exists_removing awaited removed
    obtain ⟨rfl, settling⟩ := known reaches
    exact ⟨passing, reaches, waits, leaves,
      (not_awaits_pass_iff travel braking settling (same ▸ cruise) waits).mp leaves⟩
  · intro passing target reaches resting pursued far
    obtain ⟨rfl, settling⟩ := known reaches
    exact pass_of_far travel braking settling (same ▸ cruise) resting pursued far

/-- A slow axis at the first of three waypoints takes it off on arrival, gives up the second, which
is a step away, and sets out toward the third, all in one advance. -/
theorem removed_on_arrival_or_near_of_three :
    let reached := (initial .slow : Sequencer 8).run
      [.enqueue ⟨0, 0, true⟩, .enqueue ⟨1, .clamp 1, true⟩, .enqueue ⟨2, .clamp (-9), true⟩]
    let second := reached.pass.sequencer
    (Kinematics.slow.cruiseInterval ≠ .zero ∧ 0 < Kinematics.slow.distancePerStep.toInt ∧
      0 ≤ (Kinematics.slow.brakingDistance 0.0).toInt) ∧
    (∀ waypoint ∈ [⟨0, 0, true⟩, ⟨1, .clamp 1, true⟩],
      (reached.Awaits waypoint ∧ ¬ reached.advance.1.Awaits waypoint) ∧
      ∃ passing, Passing reached passing ∧ passing.Awaits waypoint ∧
        ¬ passing.pass.sequencer.Awaits waypoint ∧
        (passing.Visits waypoint ∨ passing.GivesUp waypoint)) ∧
    (Passing reached second ∧ second.interval = .zero ∧
      second.onward.target? = some (.clamp (-9)) ∧
      Kinematics.slow.restMargin < second.onward.remaining (.clamp (-9))) ∧
    second.pass.sequencer.route = second.onward.route ∧ second.pass.isSettled = true ∧
      second.pass.sequencer.interval ≠ .zero ∧
      second.pass.sequencer.direction = .towards second.position (.clamp (-9)) := by
  intro reached second
  have cruise : Kinematics.slow.cruiseInterval ≠ .zero := by decide +kernel
  have travel : 0 < Kinematics.slow.distancePerStep.toInt := by decide
  have braking : 0 ≤ (Kinematics.slow.brakingDistance 0.0).toInt := by decide +kernel
  have gone : ∀ waypoint ∈ [⟨0, 0, true⟩, ⟨1, .clamp 1, true⟩],
      reached.Awaits waypoint ∧ ¬ reached.advance.1.Awaits waypoint := by decide +kernel
  have passes : Passing reached second := .again (by decide +kernel) .first
  have resting : second.interval = .zero := by decide +kernel
  have pursued : second.onward.target? = some (.clamp (-9)) := by decide +kernel
  have far : Kinematics.slow.restMargin < second.onward.remaining (.clamp (-9)) := by
    decide +kernel
  obtain ⟨removed, setsOut⟩ := removed_on_arrival_or_near cruise travel braking
    [.enqueue ⟨0, 0, true⟩, .enqueue ⟨1, .clamp 1, true⟩, .enqueue ⟨2, .clamp (-9), true⟩]
  refine ⟨⟨cruise, travel, braking⟩, ?_, ⟨passes, resting, pursued, far⟩,
    setsOut second _ passes resting pursued far⟩
  intro waypoint member
  exact ⟨gone waypoint member, removed waypoint (gone waypoint member).1 (gone waypoint member).2⟩

end Sequencer

end LinearAxis
