import LinearAxis.Proofs.Along

/-!
# Waypoints on the way

The run over a milestone and the target behind it is meant to be the run to the target alone with
one more arrival in it.  It is, up to the arrival at the milestone; there the timing that the phase
asks for is taken over even where it is a stop, while the run to the target alone stretches its
interval.  So the two runs agree for ever exactly when the step planned at the milestone is not a
braking step without a solution (`LinearAxis.Sequencer.accompanies_iff`).
-/

namespace LinearAxis.Sequencer

variable {capacity : Nat}

/-- The sequencer after so many advances, with the announcements that they made. -/
def advances (sequencer : Sequencer capacity) : Nat → Sequencer capacity × List Announcement
  | 0 => (sequencer, [])
  | count + 1 =>
    let reached := sequencer.advances count
    (reached.1.advance.1, reached.2 ++ reached.1.advance.2)

theorem advances_succ (sequencer : Sequencer capacity) (count : Nat) :
    sequencer.advances (count + 1) = ((sequencer.advances count).1.advance.1,
      (sequencer.advances count).2 ++ (sequencer.advances count).1.advance.2) :=
  rfl

/-- Two axes move alike. -/
structure SameMotion (left right : Sequencer capacity) : Prop where
  position : left.position = right.position
  phase : left.phase = right.phase
  interval : left.interval = right.interval
  velocity : left.velocity = right.velocity
  direction : left.direction = right.direction

/-- One run moves as the other does, and differs from it in the arrival at a milestone alone: until
it is passed the milestone is still to be visited, and from then on its arrival has been announced
first of all.  Both runs may instead have given everything up. -/
structure Accompanies (milestone : Waypoint) (passed : Prop)
    (through direct : Sequencer capacity × List Announcement) : Prop where
  motion : SameMotion through.1 direct.1
  journey :
    (¬ passed ∧ through.1.route.waypoints = milestone :: direct.1.route.waypoints ∧
      through.2 = direct.2) ∨
    (passed ∧ through.1.route.waypoints = direct.1.route.waypoints ∧
      through.2 = milestone.announcement?.toList ++ direct.2) ∨
    (through.1.route.waypoints = [] ∧ direct.1.route.waypoints = [] ∧
      through.2 = [] ∧ direct.2 = [])

/-- An axis on the way to a target, with so many steps left to a milestone before it. -/
structure Underway (limits : Kinematics) (direction : Direction) (milestone target : Waypoint)
    (left : Nat) (sequencer : Sequencer capacity) : Prop where
  limits_eq : sequencer.limits = limits
  moving : sequencer.interval ≠ .zero
  heading : sequencer.direction = direction
  route : sequencer.route.waypoints = [target]
  distance : direction.sign * (milestone.position.toInt - sequencer.position.toInt) =
    left * limits.distancePerStep.toInt

section Underway

variable {limits : Kinematics} {direction : Direction} {milestone target : Waypoint} {left : Nat}
  {sequencer : Sequencer capacity}

/-- The step in flight brings the milestone one step nearer. -/
theorem Underway.distance_completeStep
    (underway : sequencer.Underway limits direction milestone target (left + 1))
    (travel : 0 < limits.distancePerStep.toInt) :
    direction.sign * (milestone.position.toInt - sequencer.completeStep.position.toInt) =
      left * limits.distancePerStep.toInt := by
  have distance := underway.distance
  have nonnegative : 0 ≤ (left : Int) * limits.distancePerStep.toInt :=
    Int.mul_nonneg (Int.natCast_nonneg left) (Int.le_of_lt travel)
  rw [Int.natCast_add, Int.natCast_one, Int.add_mul, Int.one_mul] at distance
  have moved : sequencer.completeStep.position.toInt =
      sequencer.position.toInt + direction.sign * limits.distancePerStep.toInt := by
    have within : limits.distancePerStep.toInt ≤
        direction.sign * (milestone.position.toInt - sequencer.position.toInt) := by omega
    rw [completeStep_of_moving underway.moving, underway.heading, underway.limits_eq]
    exact Direction.toInt_move_of_le travel within
  rw [moved]
  cases direction <;> simp only [Direction.sign] at * <;> omega

theorem continues_of_distance {position : Millimeters} (travel : 0 < limits.distancePerStep.toInt)
    (some : 0 < left) (distance : direction.sign * (milestone.position.toInt - position.toInt) =
      left * limits.distancePerStep.toInt) :
    direction.continues position milestone.position = true := by
  rw [Direction.continues_iff, distance]
  exact Int.mul_pos (Int.natCast_pos.mpr some) travel

theorem eq_of_distance {position : Millimeters}
    (distance : direction.sign * (milestone.position.toInt - position.toInt) =
      (0 : Nat) * limits.distancePerStep.toInt) : position = milestone.position := by
  apply Millimeters.ext
  rw [Int.natCast_zero, Int.zero_mul] at distance
  cases direction <;> simp only [Direction.sign] at distance <;> omega

end Underway

/-! ## The two runs -/

section Runs

variable {limits : Kinematics} {direct : Sequencer capacity} {path : Route capacity}
  {milestone target : Waypoint} {direction : Direction} {steps : Nat}

/-- Runs that have become one stay one. -/
theorem advances_of_joined {through : Sequencer capacity} {first : List Announcement} {count : Nat}
    (joined : through.advances count =
      ((direct.advances count).1, first ++ (direct.advances count).2)) (more : Nat) :
    through.advances (count + more) =
      ((direct.advances (count + more)).1, first ++ (direct.advances (count + more)).2) := by
  induction more with
  | zero => exact joined
  | succ more ih =>
    rw [← Nat.add_assoc, advances, ih, advances]
    simp only [List.append_assoc]

theorem advances_of_done {final : Sequencer capacity} (done : direct.advance = (final, []))
    (stays : final.advance = (final, [])) (count : Nat) :
    direct.advances (count + 1) = (final, []) := by
  induction count with
  | zero => rw [advances, advances, done]; rfl
  | succ count ih => rw [advances, ih, stays]; rfl

/-- Short of the milestone the run over both waypoints is the run to the target along a route of its
own, with nothing announced. -/
theorem advances_along (cruise : direct.limits.cruiseInterval ≠ .zero)
    (travel : 0 < direct.limits.distancePerStep.toInt) (resting : direct.interval = .zero)
    (lone : direct.route.waypoints = [target]) (both : path.waypoints = [milestone, target])
    (ahead : direction.continues direct.position milestone.position = true)
    (beyond : direction.continues milestone.position target.position = true)
    (going : direct.plannedPhase target.position ≠ .stop)
    (distance : direction.sign * (milestone.position.toInt - direct.position.toInt) =
      steps * direct.limits.distancePerStep.toInt)
    {count left : Nat} (total : count + left = steps) (some : 0 < left) :
    (direct.along path).advances (count + 1) = ((direct.advances (count + 1)).1.along path, []) ∧
      (direct.advances (count + 1)).2 = [] ∧
      (direct.advances (count + 1)).1.Underway direct.limits direction milestone target left := by
  induction count generalizing left with
  | zero =>
    rw [Nat.zero_add] at total
    subst total
    have still := completeStep_of_resting resting
    have heading : (direct.completeStep.face target.position).direction = direction := by
      rw [still, face_of_resting resting]
      exact Direction.towards_eq (Direction.continues_trans ahead beyond)
    obtain ⟨alike, silent, phase, timing, goes, planned⟩ := advance_along cruise lone both heading
      (by rw [still]; exact ahead) beyond (by rw [still]; exact going)
    rw [still] at planned
    refine ⟨?_, ?_, ?_⟩
    · rw [advances, advances, alike]; rfl
    · rw [advances, advances, silent]; rfl
    · change direct.advance.1.Underway _ _ _ _ _
      rw [planned]
      exact ⟨rfl, goes, rfl, lone, distance⟩
  | succ count ih =>
    obtain ⟨same, quiet, underway⟩ := ih (by omega : count + (left + 1) = steps)
      (Nat.succ_pos left)
    rw [advances_succ direct (count + 1), advances_succ (direct.along path) (count + 1), same,
      quiet]
    have nearer := underway.distance_completeStep travel
    generalize (direct.advances (count + 1)).1 = reached at underway nearer
    have moving : reached.completeStep.interval ≠ .zero := by
      rw [interval_completeStep]; exact underway.moving
    have heading : (reached.completeStep.face target.position).direction = direction := by
      rw [face_of_moving moving, direction_completeStep, underway.heading]
    have onward : reached.completeStep.plannedPhase target.position ≠ .stop := fun stop =>
      moving (resting_of_plannedPhase stop)
    have timed : reached.limits.cruiseInterval ≠ .zero := by rw [underway.limits_eq]; exact cruise
    obtain ⟨alike, silent, phase, timing, goes, planned⟩ := advance_along timed underway.route both
      heading (continues_of_distance travel some nearer) beyond onward
    dsimp only
    rw [alike, silent]
    refine ⟨rfl, rfl, ?_⟩
    rw [planned]
    exact ⟨limits_completeStep.trans underway.limits_eq, goes, rfl,
      by change reached.completeStep.route.waypoints = _; rw [route_completeStep, underway.route],
      nearer⟩

theorem sameMotion_along : SameMotion (direct.along path) direct := ⟨rfl, rfl, rfl, rfl, rfl⟩

theorem accompanies_of_along {passed : Prop}
    {through direct : Sequencer capacity × List Announcement} (before : ¬ passed)
    (lone : direct.1.route.waypoints = [target]) (both : path.waypoints = [milestone, target])
    (same : through = (direct.1.along path, [])) (silent : direct.2 = []) :
    Accompanies milestone passed through direct := by
  subst same
  refine ⟨sameMotion_along, .inl ⟨before, ?_, silent.symm⟩⟩
  rw [lone]
  exact both

/-- An axis that is to stay at rest gives both routes up. -/
theorem accompanies_of_stop (cruise : direct.limits.cruiseInterval ≠ .zero)
    (halted : direct.halt = direct) (lone : direct.route.waypoints = [target])
    (both : path.waypoints = [milestone, target])
    (ahead : direction.continues direct.position milestone.position = true)
    (beyond : direction.continues milestone.position target.position = true)
    (staying : direct.plannedPhase target.position = .stop) (count : Nat) :
    Accompanies milestone (steps < count) ((direct.along path).advances count)
        (direct.advances count) ∧
      (0 < count → (direct.advances count).1.interval = .zero) := by
  have resting : direct.interval = .zero := by rw [← halted]; rfl
  have apart := Direction.ne_of_continues (Direction.continues_trans ahead beyond)
  have done := advance_of_stop cruise lone resting apart staying
  have alike := advance_of_stop_along cruise halted lone both ahead beyond staying
  have idle : direct.route.pop.waypoints = [] := by rw [Route.waypoints_pop, lone]; rfl
  generalize final : { (direct.face target.position).halt with route := direct.route.pop } = rests
    at done
  have stays : rests.advance = (rests, []) := by
    subst final
    refine advance_of_idle ?_ idle rfl rfl
    change (direct.face target.position).limits.cruiseInterval ≠ .zero
    rw [limits_face]
    exact cruise
  cases count with
  | zero =>
    exact ⟨accompanies_of_along (Nat.not_lt_zero _) lone both rfl rfl,
      fun some => absurd some (Nat.lt_irrefl 0)⟩
  | succ count =>
    rw [advances_of_done (alike.trans done) stays, advances_of_done done stays]
    subst final
    exact ⟨⟨⟨rfl, rfl, rfl, rfl, rfl⟩, .inr (.inr ⟨idle, idle, rfl, rfl⟩)⟩, fun _ => rfl⟩

/-- The run along the route with the milestone accompanies the other exactly when the step planned
at the milestone is not a braking step without a solution. -/
theorem accompanies_along_iff (cruise : direct.limits.cruiseInterval ≠ .zero)
    (travel : 0 < direct.limits.distancePerStep.toInt) (halted : direct.halt = direct)
    (lone : direct.route.waypoints = [target]) (both : path.waypoints = [milestone, target])
    (ahead : direction.continues direct.position milestone.position = true)
    (beyond : direction.continues milestone.position target.position = true)
    (distance : direction.sign * (milestone.position.toInt - direct.position.toInt) =
      steps * direct.limits.distancePerStep.toInt) :
    (∀ count, Accompanies milestone (steps < count) ((direct.along path).advances count)
      (direct.advances count)) ↔ ¬ (direct.advances steps).1.BrakesInVain target.position := by
  have resting : direct.interval = .zero := by rw [← halted]; rfl
  obtain ⟨before, rfl⟩ : ∃ before, steps = before + 1 := by
    cases steps with
    | zero => exact absurd (eq_of_distance distance) (Direction.ne_of_continues ahead)
    | succ before => exact ⟨before, rfl⟩
  by_cases staying : direct.plannedPhase target.position = .stop
  · have gaveUp (count : Nat) : Accompanies milestone (before + 1 < count)
          ((direct.along path).advances count) (direct.advances count) ∧
        (0 < count → (direct.advances count).1.interval = .zero) :=
      accompanies_of_stop cruise halted lone both ahead beyond staying count
    refine ⟨fun _ vain => ?_, fun _ count => (gaveUp count).1⟩
    apply moving_of_plannedPhase vain.1
    rw [interval_completeStep]
    exact (gaveUp (before + 1)).2 (Nat.succ_pos before)
  · -- Up to the milestone the runs are one, and the advance after it decides whether they stay so.
    have short (count left : Nat) (total : count + left = before + 1) (some : 0 < left) :=
      advances_along cruise travel resting lone both ahead beyond staying distance total some
    obtain ⟨same, silent, underway⟩ := short before 1 rfl Nat.one_pos
    have there := eq_of_distance (underway.distance_completeStep travel)
    have timed : (direct.advances (before + 1)).1.limits.cruiseInterval ≠ .zero := by
      rw [underway.limits_eq]; exact cruise
    have further : (direct.advances (before + 1)).1.direction.continues milestone.position
        target.position = true := by rw [underway.heading]; exact beyond
    constructor
    · intro accompanied vain
      obtain ⟨braking, going⟩ := phase_at_milestone timed underway.route both there further vain
      have phase := (accompanied (before + 1 + 1)).motion.phase
      rw [advances_succ direct, advances_succ (direct.along path), same] at phase
      exact going (phase.trans braking)
    · intro solvable count
      by_cases passed : before + 1 < count
      · obtain ⟨more, rfl⟩ := Nat.exists_eq_add_of_lt passed
        obtain ⟨arrived, quiet⟩ := advance_at_milestone timed underway.moving underway.route both
          there further solvable
        have joined : (direct.along path).advances (before + 1 + 1) =
            ((direct.advances (before + 1 + 1)).1,
              milestone.announcement?.toList ++ (direct.advances (before + 1 + 1)).2) := by
          rw [advances_succ direct, advances_succ (direct.along path), same, silent, arrived, quiet]
          simp only [List.nil_append, List.append_nil]
        have onward := advances_of_joined joined more
        rw [Nat.add_right_comm] at onward
        rw [onward]
        exact ⟨⟨rfl, rfl, rfl, rfl, rfl⟩, .inr (.inl ⟨passed, rfl, rfl⟩)⟩
      · cases count with
        | zero => exact accompanies_of_along passed lone both rfl rfl
        | succ count =>
          obtain ⟨alike, quiet, nearing⟩ := short count (before + 1 - count) (by omega) (by omega)
          exact accompanies_of_along passed nearing.route both alike quiet

theorem after_enqueue_along {waypoint : Waypoint} {longer : Route capacity}
    (pushed : direct.route.push waypoint = .ok longer) :
    direct.after (.enqueue waypoint) = direct.along longer := by
  rw [after, enqueue, pushed]
  rfl

/-- With room for two waypoints of distinct keys, the two runs start as one along two routes. -/
theorem run_enqueue_along {start : Sequencer capacity} (idle : start.route.waypoints = [])
    (room : 2 ≤ capacity) (distinct : milestone.key ≠ target.key) :
    ∃ path lone : Route capacity, path.waypoints = [milestone, target] ∧
      lone.waypoints = [target] ∧
      start.run [.enqueue target] = start.along lone ∧
      start.run [.enqueue milestone, .enqueue target] = (start.along lone).along path := by
  let alone (waypoint : Waypoint) : Route capacity :=
    ⟨[waypoint], Nat.le_of_succ_le room, List.nodup_cons.mpr ⟨by simp, List.nodup_nil⟩⟩
  let both : Route capacity := ⟨[milestone, target], room, by simp [distinct]⟩
  have taken (waypoint : Waypoint) : start.route.push waypoint = .ok (alone waypoint) := by
    rw [Route.push_eq_ok_iff, idle]
    exact ⟨by simp, Nat.lt_of_lt_of_le Nat.two_pos room, rfl⟩
  have second : (alone milestone).push target = .ok both := by
    rw [Route.push_eq_ok_iff]
    exact ⟨by simpa [alone] using distinct.symm, room, rfl⟩
  refine ⟨both, alone target, rfl, rfl, after_enqueue_along (taken target), ?_⟩
  rw [run_cons, run_cons, after_enqueue_along (taken milestone)]
  exact after_enqueue_along second

end Runs

/-- **Passing through a milestone.** From rest, the run over a milestone on the way and the target
behind it accompanies the run to the target alone, over any number of advances, exactly when the
step that the latter plans at the milestone is not a braking step without a solution. -/
theorem accompanies_iff {limits : Kinematics} (cruise : limits.cruiseInterval ≠ .zero)
    (travel : 0 < limits.distancePerStep.toInt) (commands : List Command)
    {start : Sequencer capacity} (reached : start = (initial limits).run commands)
    (resting : start.interval = .zero) (idle : start.route.waypoints = []) (room : 2 ≤ capacity)
    {milestone target : Waypoint} (distinct : milestone.key ≠ target.key) {direction : Direction}
    (ahead : direction.continues start.position milestone.position = true)
    (beyond : direction.continues milestone.position target.position = true) {steps : Nat}
    (distance : direction.sign * (milestone.position.toInt - start.position.toInt) =
      steps * limits.distancePerStep.toInt) :
    (∀ count, Accompanies milestone (steps < count)
      ((start.run [.enqueue milestone, .enqueue target]).advances count)
      ((start.run [.enqueue target]).advances count)) ↔
    ¬ ((start.run [.enqueue target]).advances steps).1.BrakesInVain target.position := by
  obtain ⟨steady, same⟩ := steady_run cruise commands
  rw [← reached] at steady same
  subst same
  obtain ⟨path, lone, both, alone, direct, through⟩ := run_enqueue_along idle room distinct
  rw [direct, through]
  have halted : (start.along lone).halt = start.along lone :=
    congrArg (fun rests => along rests lone) (steady.halt_eq resting)
  exact accompanies_along_iff cruise travel halted alone both ahead beyond distance

/-- A slow axis on the way to five millimeters passes through a milestone at two. -/
theorem accompanies_at_two_of_five :
    ¬ (((initial .slow : Sequencer 8).run [.enqueue ⟨1, .clamp 5, true⟩]).advances 2).1.BrakesInVain
        (.clamp 5) ∧
      ∀ count, Accompanies ⟨0, .clamp 2, true⟩ (2 < count)
        (((initial .slow : Sequencer 8).run
          [.enqueue ⟨0, .clamp 2, true⟩, .enqueue ⟨1, .clamp 5, true⟩]).advances count)
        (((initial .slow : Sequencer 8).run [.enqueue ⟨1, .clamp 5, true⟩]).advances count) := by
  have solvable : ¬ (((initial .slow : Sequencer 8).run
      [.enqueue ⟨1, .clamp 5, true⟩]).advances 2).1.BrakesInVain (.clamp 5) := by decide +kernel
  have forward : Direction.forward.continues (0 : Millimeters) (.clamp 2) = true := rfl
  exact ⟨solvable, (accompanies_iff (by decide +kernel) (by decide) [] rfl rfl rfl (by decide)
    (by decide) forward rfl rfl).mpr solvable⟩

/-- On the way to three millimeters it does not: at the milestone it gives its target up. -/
theorem target_lost_at_milestone :
    let through := ((initial .slow : Sequencer 8).run
      [.enqueue ⟨0, .clamp 2, true⟩, .enqueue ⟨1, .clamp 3, true⟩]).advances 4
    let direct := ((initial .slow : Sequencer 8).run [.enqueue ⟨1, .clamp 3, true⟩]).advances 4
    (through.1.position = .clamp 2 ∧ through.1.route = .empty ∧ through.2 = [⟨0, .clamp 2⟩]) ∧
      direct.1.position = .clamp 3 ∧ direct.1.route = .empty ∧ direct.2 = [⟨1, .clamp 3⟩] := by
  decide +kernel

end LinearAxis.Sequencer
