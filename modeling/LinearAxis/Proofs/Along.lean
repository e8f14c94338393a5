import LinearAxis.Proofs.Rest

/-!
# The same motion along another route

A milestone is a waypoint between an axis and the target behind it.  Planning looks one waypoint
ahead, so short of the milestone an advance over milestone and target is an advance to the target
alone, along its own route (`LinearAxis.Sequencer.advance_along`).  At the milestone itself it is so
exactly where the step planned there is not a braking step without a solution.
-/

namespace LinearAxis.Sequencer

variable {capacity : Nat}

/-! ## The same motion along another route -/

/-- The same motion along another route. -/
def along (sequencer : Sequencer capacity) (path : Route capacity) : Sequencer capacity :=
  { sequencer with route := path }

section Along

variable {sequencer : Sequencer capacity} {path : Route capacity} {milestone target : Waypoint}

theorem completeStep_along :
    (sequencer.along path).completeStep = sequencer.completeStep.along path := by
  by_cases resting : sequencer.interval = .zero
  · have alike : (sequencer.along path).interval = .zero := resting
    rw [completeStep_of_resting resting, completeStep_of_resting alike]
  · have alike : (sequencer.along path).interval ≠ .zero := resting
    rw [completeStep_of_moving resting, completeStep_of_moving alike]
    rfl

theorem face_along (position : Millimeters) :
    (sequencer.along path).face position = (sequencer.face position).along path := by
  by_cases resting : sequencer.interval = .zero
  · have alike : (sequencer.along path).interval = .zero := resting
    rw [face_of_resting resting, face_of_resting alike]
    rfl
  · have alike : (sequencer.along path).interval ≠ .zero := resting
    rw [face_of_moving resting, face_of_moving alike]

/-- Looking one waypoint ahead, the phase planned for a milestone is the one planned for the target
behind it. -/
theorem plannedPhase_along (lone : sequencer.route.waypoints = [target])
    (both : path.waypoints = [milestone, target])
    (facing : sequencer.face milestone.position = sequencer.face target.position)
    (beyond : (sequencer.face target.position).direction.continues milestone.position
      target.position = true) :
    (sequencer.along path).plannedPhase milestone.position =
      sequencer.plannedPhase target.position := by
  have following : (sequencer.along path).route.following? = some target := by
    change path.waypoints[1]? = some target
    rw [both]
    rfl
  have last : sequencer.route.following? = none := by
    rw [Route.following?, lone]
    rfl
  rw [plannedPhase, plannedPhase, following, last, face_along, facing]
  change sequencer.limits.plan (sequencer.face target.position).snapshot milestone.position
    (some target.position) = sequencer.limits.plan _ target.position none
  have passed : Kinematics.goal (sequencer.face target.position).snapshot.direction
      milestone.position (some target.position) = target.position := if_pos beyond
  rw [Kinematics.plan, Kinematics.plan, passed]
  rfl

/-- So is the step that is planned, unless the axis is to stay at rest: at the milestone's side of
the target the two are ahead alike. -/
theorem planStep_along (cruise : sequencer.limits.cruiseInterval ≠ .zero)
    (lone : sequencer.route.waypoints = [target]) (both : path.waypoints = [milestone, target])
    (facing : sequencer.face milestone.position = sequencer.face target.position)
    (ahead : (sequencer.face target.position).direction.continues sequencer.position
      milestone.position = true)
    (beyond : (sequencer.face target.position).direction.continues milestone.position
      target.position = true)
    (going : sequencer.plannedPhase target.position ≠ .stop) :
    (sequencer.along path).planStep false milestone.position =
      (sequencer.planStep false target.position).along path := by
  have same := plannedPhase_along lone both facing beyond
  have timed : (sequencer.along path).limits.cruiseInterval ≠ .zero := cruise
  have turned : (sequencer.along path).face milestone.position =
      (sequencer.face target.position).along path := by rw [face_along, facing]
  cases planned : sequencer.plannedPhase target.position with
  | stop => exact absurd planned going
  | accelerate =>
    rw [planStep_of_accelerate cruise planned, planStep_of_accelerate timed (same.trans planned),
      turned]
    rfl
  | move =>
    rw [planStep_of_move cruise planned, planStep_of_move timed (same.trans planned), turned]
    rfl
  | decelerate =>
    have moving := moving_of_plannedPhase planned
    rw [face_of_moving moving] at ahead beyond
    by_cases solved : sequencer.braking.interval = .zero
    · rw [planStep_of_unsolved_ahead planned solved (Direction.continues_trans ahead beyond)]
      exact planStep_of_unsolved_ahead (same.trans planned) solved ahead
    · rw [planStep_of_braking planned solved]
      exact planStep_of_braking (same.trans planned) solved

end Along

/-! ## The advances of the two runs -/

section Advances

variable {direct : Sequencer capacity} {path : Route capacity} {milestone target : Waypoint}

theorem face_milestone {direction : Direction}
    (ahead : direction.continues direct.position milestone.position = true)
    (beyond : direction.continues milestone.position target.position = true) :
    direct.face milestone.position = direct.face target.position := by
  have further := Direction.continues_trans ahead beyond
  by_cases resting : direct.interval = .zero
  · rw [face_of_resting resting, face_of_resting resting, Direction.towards_eq ahead,
      Direction.towards_eq further]
  · rw [face_of_moving resting, face_of_moving resting]

/-- Where the axis is to stay at rest, the run to the target gives it up at once. -/
theorem advance_of_stop (cruise : direct.limits.cruiseInterval ≠ .zero)
    (lone : direct.route.waypoints = [target]) (resting : direct.interval = .zero)
    (apart : direct.position ≠ target.position)
    (staying : direct.plannedPhase target.position = .stop) :
    direct.advance =
      ({ (direct.face target.position).halt with route := direct.route.pop }, []) := by
  have gaveUp := pass_of_stop lone resting apart staying
  have idle : direct.route.pop.waypoints = [] := by rw [Route.waypoints_pop, lone]; rfl
  have timed : ({ (direct.face target.position).halt with
      route := direct.route.pop }).limits.cruiseInterval ≠ .zero := by
    change (direct.face target.position).limits.cruiseInterval ≠ .zero
    rw [limits_face]
    exact cruise
  rw [advance_of_unsettled cruise (by rw [gaveUp]), gaveUp, advance_of_idle timed idle rfl rfl]
  rfl

/-- The run over the milestone gives both up, and turns toward the target in between. -/
theorem advance_of_stop_along {direction : Direction}
    (cruise : direct.limits.cruiseInterval ≠ .zero) (halted : direct.halt = direct)
    (lone : direct.route.waypoints = [target]) (both : path.waypoints = [milestone, target])
    (ahead : direction.continues direct.position milestone.position = true)
    (beyond : direction.continues milestone.position target.position = true)
    (staying : direct.plannedPhase target.position = .stop) :
    (direct.along path).advance = direct.advance := by
  have resting : direct.interval = .zero := by rw [← halted]; rfl
  have facing := face_milestone ahead beyond
  have further := Direction.continues_trans ahead beyond
  have turned : (direct.face target.position).direction = direction := by
    rw [face_of_resting resting]
    exact Direction.towards_eq further
  have still : (direct.along path).interval = .zero := resting
  have elsewhere : (direct.along path).position ≠ milestone.position :=
    Direction.ne_of_continues ahead
  have queued : (direct.along path).route.waypoints = [milestone, target] := both
  have alike : (direct.along path).plannedPhase milestone.position = .stop := by
    rw [plannedPhase_along lone both facing (by rw [turned]; exact beyond), staying]
  -- Without the milestone it stands where the other run started, turned toward the target.
  have kept : path.pop = direct.route := by
    apply Route.ext
    rw [Route.waypoints_pop, both, lone]
    rfl
  have pass : (direct.along path).pass = ⟨direct.face target.position, none, false⟩ := by
    rw [pass_of_stop queued still elsewhere alike, face_along, facing]
    change Pass.mk { (direct.face target.position).halt with route := path.pop } none false = _
    rw [kept, face_of_resting resting]
    exact congrArg (fun resting => Pass.mk
      { resting with direction := .towards direct.position target.position } none false) halted
  have unhurried : (direct.along path).limits.cruiseInterval ≠ .zero := cruise
  rw [advance_of_unsettled unhurried (by rw [pass]), pass,
    advance_face cruise lone resting (Direction.ne_of_continues further)]
  rfl

/-- Short of the milestone, an advance of one run is the advance of the other along its own route:
the axis goes on in the direction of travel, and nothing is announced. -/
theorem advance_along {direction : Direction} (cruise : direct.limits.cruiseInterval ≠ .zero)
    (lone : direct.route.waypoints = [target]) (both : path.waypoints = [milestone, target])
    (heading : (direct.completeStep.face target.position).direction = direction)
    (ahead : direction.continues direct.completeStep.position milestone.position = true)
    (beyond : direction.continues milestone.position target.position = true)
    (going : direct.completeStep.plannedPhase target.position ≠ .stop) :
    (direct.along path).advance = (direct.advance.1.along path, []) ∧ direct.advance.2 = [] ∧
      ∃ phase timing, timing.interval ≠ .zero ∧ direct.advance.1 =
        ({ direct.completeStep with phase, direction }).schedule timing := by
  subst heading
  have facing := face_milestone ahead beyond
  have timed := cruise_completeStep cruise
  have lonely : direct.completeStep.route.waypoints = [target] := by
    rw [route_completeStep]; exact lone
  obtain ⟨alone, timing, goes, planned⟩ :=
    advance_of_between cruise lone (Direction.continues_trans ahead beyond) going
  have unhurried : (direct.along path).limits.cruiseInterval ≠ .zero := cruise
  have queued : (direct.along path).route.waypoints = [milestone, target] := both
  have nearer : ((direct.along path).completeStep.face milestone.position).direction.continues
      (direct.along path).completeStep.position milestone.position = true := by
    rw [completeStep_along, face_along, facing]
    exact ahead
  have onward : (direct.along path).completeStep.plannedPhase milestone.position ≠ .stop := by
    rw [completeStep_along, plannedPhase_along lonely both facing beyond]
    exact going
  obtain ⟨accompanied, -⟩ := advance_of_between unhurried queued nearer onward
  rw [accompanied, alone, completeStep_along,
    planStep_along timed lonely both facing ahead beyond going, planned]
  refine ⟨rfl, rfl, direct.completeStep.plannedPhase target.position, timing, goes, ?_⟩
  obtain ⟨turned, same⟩ := direct.completeStep.face_eq target.position
  rw [same]

/-- Whether the step planned after the step in flight is a braking step without a solution. -/
def BrakesInVain (sequencer : Sequencer capacity) (position : Millimeters) : Prop :=
  sequencer.completeStep.plannedPhase position = .decelerate ∧
    sequencer.completeStep.braking.interval = .zero

instance (position : Millimeters) : Decidable (direct.BrakesInVain position) :=
  inferInstanceAs (Decidable (_ ∧ _))

/-- At the milestone one run plans what the other does, as after an arrival. -/
theorem pass_at_milestone (lone : direct.route.waypoints = [target])
    (both : path.waypoints = [milestone, target])
    (there : direct.completeStep.position = milestone.position) :
    (direct.along path).pass = {
      sequencer := direct.completeStep.planStep true target.position
      announcement? := milestone.announcement?
      isSettled := !(direct.completeStep.planStep true target.position).isStopped } := by
  have queued : (direct.along path).route.waypoints = [milestone, target] := both
  have arrives : (direct.along path).arrives = true := by
    rw [arrives_iff queued, completeStep_along]
    exact there
  have left : path.arrive = direct.route := by
    apply Route.ext
    have several : 1 < path.size := by rw [Route.size, both]; exact Nat.lt_add_one 1
    rw [path.waypoints_arrive_of_several several, both, lone]
    rfl
  have onward : (direct.along path).onward = direct.completeStep := by
    rw [onward_of_arrives arrives, completeStep_along]
    change { direct.completeStep with route := path.arrive } = direct.completeStep
    rw [left, ← route_completeStep]
  have pursued : (direct.along path).onward.target? = some target.position := by
    rw [onward, target?, Route.head?, route_completeStep, lone]
    rfl
  have arrival : (direct.along path).arrival? = milestone.announcement? := by
    rw [arrival?, if_pos arrives, route_completeStep]
    change path.announcement? = milestone.announcement?
    rw [Route.announcement?, Route.head?, both]
    rfl
  rw [pass_of_target pursued, onward, arrives, arrival]

variable {direction : Direction}

/-- Where the step planned at the milestone can be made, the runs are one from there on. -/
theorem advance_at_milestone (cruise : direct.limits.cruiseInterval ≠ .zero)
    (moving : direct.interval ≠ .zero) (lone : direct.route.waypoints = [target])
    (both : path.waypoints = [milestone, target])
    (there : direct.completeStep.position = milestone.position)
    (beyond : direct.direction.continues milestone.position target.position = true)
    (solvable : ¬ direct.BrakesInVain target.position) :
    (direct.along path).advance = (direct.advance.1, milestone.announcement?.toList) ∧
      direct.advance.2 = [] := by
  have stillMoving : direct.completeStep.interval ≠ .zero := by
    rw [interval_completeStep]; exact moving
  have ahead : (direct.completeStep.face target.position).direction.continues
      direct.completeStep.position target.position = true := by
    rw [face_of_moving stillMoving, direction_completeStep, there]
    exact beyond
  have timed := cruise_completeStep cruise
  have going : direct.completeStep.plannedPhase target.position ≠ .stop := fun stop =>
    stillMoving (resting_of_plannedPhase stop)
  have unhurried : (direct.along path).limits.cruiseInterval ≠ .zero := cruise
  obtain ⟨alone, timing, goes, planned⟩ := advance_of_between cruise lone ahead going
  have pass := pass_at_milestone lone both there
  obtain ⟨_, -, scheduled⟩ := planStep_of_solvable timed going solvable
  rw [(scheduled true).trans (scheduled false).symm] at pass
  have moves : (direct.completeStep.planStep false target.position).isStopped = false := by
    rw [planned]
    exact isStopped_eq_false_iff.mpr goes
  rw [advance_of_settled unhurried (by rw [pass, moves]; rfl), pass, alone]
  exact ⟨rfl, rfl⟩

/-- Where it is a braking step without a solution, one run stretches its interval and the other
stops: they end the advance in different phases. -/
theorem phase_at_milestone (cruise : direct.limits.cruiseInterval ≠ .zero)
    (lone : direct.route.waypoints = [target]) (both : path.waypoints = [milestone, target])
    (there : direct.completeStep.position = milestone.position)
    (beyond : direct.direction.continues milestone.position target.position = true)
    (vain : direct.BrakesInVain target.position) :
    direct.advance.1.phase = .decelerate ∧
      (direct.along path).advance.1.phase ≠ .decelerate := by
  obtain ⟨planned, unsolved⟩ := vain
  have timed := cruise_completeStep cruise
  have ahead : direct.completeStep.direction.continues direct.completeStep.position
      target.position = true := by
    rw [direction_completeStep, there]
    exact beyond
  have apart := Direction.ne_of_continues ahead
  constructor
  · have pass := pass_of_between lone apart
    rw [planStep_of_unsolved_ahead planned unsolved ahead] at pass
    have moves : (({ direct.completeStep with phase := .decelerate }).schedule
        direct.completeStep.stretched).isStopped = false :=
      isStopped_eq_false_iff.mpr (Micros.lengthen_ne_zero _)
    rw [advance_of_settled cruise (by rw [pass, moves]; rfl), pass]
    rfl
  · have unhurried : (direct.along path).limits.cruiseInterval ≠ .zero := cruise
    have pass := pass_at_milestone lone both there
    rw [planStep_of_unsolved planned unsolved (.inl rfl)] at pass
    have rests : (({ direct.completeStep with phase := .decelerate }).schedule
        .stopped).isStopped = true := isStopped_iff.mpr rfl
    have unsettled : (direct.along path).pass.isSettled = false := by rw [pass, rests]; rfl
    rw [advance_of_unsettled unhurried unsettled, pass]
    refine Settles.phase_ne_decelerate (settles_advance ?_) ?_ rfl
    · exact timed
    · exact timed

end Advances

end LinearAxis.Sequencer
