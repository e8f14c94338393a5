import LinearAxis.Proofs.Arrival
import LinearAxis.Proofs.BrakePoint
import LinearAxis.Proofs.Floating

/-!
# Where the look-ahead leads

An axis that speeds up or cruises goes toward the goal of planning.  That is the waypoint being
pursued, or the one behind it where that lies further along the direction of travel.  Planning
compares the two with each other and not with the position, so the waypoint being pursued may lie
behind the axis: then the axis powers away from it
(`LinearAxis.Sequencer.leads_to_target_iff`).  From rest that takes neighbours at one position.
-/

namespace LinearAxis.Sequencer

variable {capacity : Nat} {sequencer : Sequencer capacity}

/-- The axis speeds up or cruises. -/
def IsPowered (sequencer : Sequencer capacity) : Prop :=
  sequencer.phase = .accelerate ∨ sequencer.phase = .move

instance : Decidable sequencer.IsPowered := inferInstanceAs (Decidable (_ ∨ _))

/-- The waypoint being pursued does not lie ahead, but the one behind it lies further along the
direction of travel. -/
def Bypasses (sequencer : Sequencer capacity) : Prop :=
  ∃ head next, sequencer.route.head? = some head ∧ sequencer.route.following? = some next ∧
    sequencer.direction.continues sequencer.position head.position = false ∧
    sequencer.direction.continues head.position next.position = true

/-- The target that planning brakes for, looking one waypoint ahead. -/
def goal? (sequencer : Sequencer capacity) : Option Millimeters :=
  sequencer.target?.map fun target =>
    Kinematics.goal sequencer.direction target
      (sequencer.route.following?.map Waypoint.position)

/-! ## Passes that leave the axis powered -/

/-- A pass that leaves the axis powered has planned that phase for the waypoint being pursued, from
where the axis stands. -/
theorem exists_planned_of_isPowered (cruise : sequencer.limits.cruiseInterval ≠ .zero)
    (powered : sequencer.pass.sequencer.IsPowered) :
    ∃ target timing, sequencer.onward.target? = some target ∧
      sequencer.pass.sequencer = ({ sequencer.onward.face target with
        phase := sequencer.onward.plannedPhase target }).schedule timing := by
  have outcome := pass_outcome cruise
  generalize sequencer.pass = pass at outcome powered
  cases outcome with
  | idle idle =>
    have stop : (if sequencer.phase = .stop then sequencer.completeStep
        else sequencer.completeStep.halt).phase = .stop := by
      split
      · next stop => rw [phase_completeStep, stop]
      · rfl
    rcases powered with phase | phase <;> rw [stop] at phase <;> cases phase
  | scheduled target pursued going timing timed => exact ⟨target, timing, pursued, rfl⟩
  | braked target pursued moving => rcases powered with phase | phase <;> cases phase
  | gaveUp target pursued resting => rcases powered with phase | phase <;> cases phase

/-- An axis that speeds up or cruises goes toward the goal of planning. -/
theorem continues_goal_pass (cruise : sequencer.limits.cruiseInterval ≠ .zero)
    (margin : ∀ velocity, 0 ≤ (sequencer.limits.brakeMargin velocity).toInt)
    (powered : sequencer.pass.sequencer.IsPowered) :
    ∃ goal, sequencer.pass.sequencer.goal? = some goal ∧
      sequencer.pass.sequencer.direction.continues sequencer.pass.sequencer.position goal =
        true := by
  obtain ⟨target, timing, pursued, planned⟩ := exists_planned_of_isPowered cruise powered
  rw [planned] at powered ⊢
  have phase : sequencer.onward.plannedPhase target =
      (sequencer.onward.face target).limits.plan (sequencer.onward.face target).snapshot target
        ((sequencer.onward.face target).route.following?.map Waypoint.position) := by
    rw [plannedPhase, limits_face, route_face]
  have route : (sequencer.onward.face target).target? = some target := by
    rw [target?, route_face]
    exact pursued
  have room : 0 ≤ ((sequencer.onward.face target).limits.brakeMargin
      (sequencer.onward.face target).snapshot.velocity).toInt := by
    rw [limits_face, limits_onward]
    exact margin _
  change sequencer.onward.plannedPhase target = .accelerate ∨
    sequencer.onward.plannedPhase target = .move at powered
  rw [phase] at powered
  refine ⟨_, ?_, Kinematics.continues_of_nextPhase room powered⟩
  change (sequencer.onward.face target).target?.map _ = _
  rw [route]
  rfl

/-! ## The goal and the waypoint being pursued -/

/-- With the goal ahead, the waypoint being pursued lies ahead as well unless it is bypassed. -/
theorem continues_target_iff {goal : Millimeters} (found : sequencer.goal? = some goal)
    (ahead : sequencer.direction.continues sequencer.position goal = true) :
    ∃ target, sequencer.target? = some target ∧
      (sequencer.direction.continues sequencer.position target = true ↔ ¬ sequencer.Bypasses) := by
  obtain ⟨target, pursued, rfl⟩ := Option.map_eq_some_iff.mp found
  refine ⟨target, pursued, ?_⟩
  obtain ⟨head, first, rfl⟩ := Option.map_eq_some_iff.mp pursued
  constructor
  · rintro nearer ⟨same, next, known, second, behind, further⟩
    obtain rfl : head = same := Option.some.inj (first.symm.trans known)
    rw [nearer] at behind
    cases behind
  · intro onCourse
    cases second : sequencer.route.following? with
    | none =>
      rw [second] at ahead
      exact ahead
    | some next =>
      rw [second] at ahead
      by_cases further : sequencer.direction.continues head.position next.position = true
      · rw [← Bool.not_eq_false]
        exact fun behind => onCourse ⟨head, next, first, second, behind, further⟩
      · have nearest : Kinematics.goal sequencer.direction head.position
            (Option.map Waypoint.position (some next)) = head.position := if_neg further
        rw [nearest] at ahead
        exact ahead

/-- A pass from rest turns the axis toward the waypoint being pursued, so that it bypasses that one
only where the axis stands at it already, after an arrival at the same position. -/
theorem repeated_of_bypasses (cruise : sequencer.limits.cruiseInterval ≠ .zero)
    (resting : sequencer.interval = .zero) (powered : sequencer.pass.sequencer.IsPowered)
    (bypasses : sequencer.pass.sequencer.Bypasses) :
    ¬ sequencer.route.positions.IsChain (· ≠ ·) := by
  obtain ⟨target, timing, pursued, planned⟩ := exists_planned_of_isPowered cruise powered
  rw [planned] at bypasses
  obtain ⟨head, next, first, second, behind, -⟩ := bypasses
  change (sequencer.onward.face target).route.head? = some head at first
  change (sequencer.onward.face target).route.following? = some next at second
  change (sequencer.onward.face target).direction.continues
    (sequencer.onward.face target).position head.position = false at behind
  rw [route_face] at first second
  obtain rfl : head.position = target := by
    rw [target?, first] at pursued
    exact Option.some.inj pursued
  have still : sequencer.onward.interval = .zero := by rw [interval_onward]; exact resting
  have there : sequencer.onward.position = head.position := by
    by_contra apart
    rw [face_of_resting still] at behind
    dsimp only at behind
    rw [Direction.towards_continues apart] at behind
    cases behind
  refine (last_or_repeated pursued there).resolve_left ?_
  rw [second]
  exact Option.some_ne_none next

/-- **Toward the waypoint being pursued.** Where an advance leaves the axis speeding up or cruising,
the axis goes toward the goal of planning, and toward the waypoint being pursued exactly if it does
not bypass that one, which an axis that the advance finds at rest does only along a route with
neighbours at one position. -/
theorem leads_to_target_iff (cruise : sequencer.limits.cruiseInterval ≠ .zero)
    (travel : 0 < sequencer.limits.distancePerStep.toInt)
    (braking : ∀ velocity, 0 ≤ (sequencer.limits.brakingDistance velocity).toInt)
    (powered : sequencer.advance.1.IsPowered) :
    let later := sequencer.advance.1
    (∃ goal, later.goal? = some goal ∧ later.direction.continues later.position goal = true) ∧
      (∃ target, later.target? = some target ∧
        (later.direction.continues later.position target = true ↔ ¬ later.Bypasses)) ∧
      (later.Bypasses →
        sequencer.interval ≠ .zero ∨ ¬ sequencer.route.positions.IsChain (· ≠ ·)) := by
  intro later
  obtain ⟨passing, reaches, settled, same⟩ := (settles_advance cruise).exists_passing
  have limits := reaches.limits_eq cruise
  have timed : passing.limits.cruiseInterval ≠ .zero := by rw [limits]; exact cruise
  have margin (velocity : Float) : 0 ≤ (passing.limits.brakeMargin velocity).toInt := by
    rw [limits]
    exact Kinematics.brakeMargin_nonneg travel (braking velocity)
  rw [← same] at powered
  obtain ⟨goal, found, ahead⟩ := continues_goal_pass timed margin powered
  rw [same] at found ahead
  refine ⟨⟨goal, found, ahead⟩, continues_target_iff found ahead, ?_⟩
  intro bypasses
  by_cases moving : sequencer.interval ≠ .zero
  · exact .inl moving
  · have resting : passing.interval = .zero := by
      rcases reaches.eq_or_resting cruise with first | resting
      · rw [first]
        exact Decidable.not_not.mp moving
      · exact resting
    right
    intro spaced
    exact repeated_of_bypasses timed resting powered (by rw [same]; exact bypasses)
      (reaches.spaced cruise spaced)

/-- A slow axis that is sent forward, back and forward again sets out toward the first target. -/
theorem leads_to_target_from_rest :
    let start := (initial .slow : Sequencer 8).run
      [.enqueue ⟨0, .clamp 3, true⟩, .enqueue ⟨1, 0, true⟩, .enqueue ⟨2, .clamp 9, true⟩]
    start.advance.1.IsPowered ∧ ∃ target, start.advance.1.target? = some target ∧
      start.advance.1.direction.continues start.advance.1.position target = true := by
  intro start
  have powered : start.advance.1.IsPowered := by decide +kernel
  have spaced : start.route.positions.IsChain (· ≠ ·) := by decide
  obtain ⟨-, ⟨target, pursued, leads⟩, turned⟩ := leads_to_target_iff (by decide +kernel)
    (by decide) (Kinematics.brakingDistance_nonneg (by decide) (by decide +kernel)) powered
  have onCourse : ¬ start.advance.1.Bypasses := fun bypasses =>
    (turned bypasses).elim (fun moving => moving rfl) (fun repeated => repeated spaced)
  exact ⟨powered, target, pursued, leads.mpr onCourse⟩

/-- Where it should turn back it speeds up toward the last target instead. -/
theorem target_left_behind :
    let reached := (initial .slow : Sequencer 8).run
      [.enqueue ⟨0, .clamp 3, true⟩, .enqueue ⟨1, 0, true⟩, .enqueue ⟨2, .clamp 9, true⟩,
        .advance, .advance, .advance, .advance]
    (0 < reached.limits.distancePerStep.toInt ∧ reached.limits.cruiseInterval ≠ .zero) ∧
      reached.phase = .accelerate ∧ reached.direction = .forward ∧ reached.position = .clamp 3 ∧
      reached.target? = some 0 ∧
      reached.direction.continues reached.position 0 = false := by
  decide +kernel

end LinearAxis.Sequencer
