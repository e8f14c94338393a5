import LinearAxis.Proofs.Planning

/-!
# Passes and advances

An advance makes passes of planning until one settles.  `LinearAxis.Sequencer.Settles` describes
such a series of passes without a bound on their number; with a cruise interval that takes time
every series ends, within the bound that the advance sets itself
(`LinearAxis.Sequencer.settles_advance`), so that facts about advances follow by induction on
`Settles`.
-/

namespace LinearAxis.Sequencer

variable {capacity : Nat} (sequencer : Sequencer capacity)

/-! ## One pass -/

/-- Whether the step in flight ends at the waypoint being pursued. -/
def arrives : Bool := sequencer.completeStep.hasArrived

/-- The sequencer with the step in flight counted and the arrival at the head of the route made, as
planning finds it. -/
def onward : Sequencer capacity :=
  if sequencer.arrives then
    { sequencer.completeStep with route := sequencer.completeStep.route.arrive }
  else sequencer.completeStep

/-- The route with the arrival in this pass made and the head still on it. -/
def noted : Route capacity :=
  if sequencer.arrives then sequencer.route.silenceHead else sequencer.route

/-- The announcement that the arrival in this pass makes. -/
def arrival? : Option Announcement :=
  if sequencer.arrives then sequencer.completeStep.route.announcement? else none

variable {sequencer}

theorem onward_of_arrives (arrives : sequencer.arrives = true) :
    sequencer.onward = { sequencer.completeStep with route := sequencer.route.arrive } := by
  rw [onward, if_pos arrives, route_completeStep]

theorem onward_of_not_arrives (between : sequencer.arrives = false) :
    sequencer.onward = sequencer.completeStep := by
  rw [onward, between, if_neg Bool.false_ne_true]

theorem onward_eq : ∃ route, sequencer.onward = { sequencer.completeStep with route } := by
  cases arrives : sequencer.arrives with
  | true => exact ⟨_, onward_of_arrives arrives⟩
  | false => exact ⟨_, onward_of_not_arrives arrives⟩

@[simp] theorem limits_onward : sequencer.onward.limits = sequencer.limits := by
  obtain ⟨_, same⟩ := sequencer.onward_eq; rw [same]; exact limits_completeStep

theorem cruise_onward (cruise : sequencer.limits.cruiseInterval ≠ .zero) :
    sequencer.onward.limits.cruiseInterval ≠ .zero := by
  rw [limits_onward]
  exact cruise

@[simp] theorem phase_onward : sequencer.onward.phase = sequencer.phase := by
  obtain ⟨_, same⟩ := sequencer.onward_eq; rw [same]; exact phase_completeStep

@[simp] theorem interval_onward : sequencer.onward.interval = sequencer.interval := by
  obtain ⟨_, same⟩ := sequencer.onward_eq; rw [same]; exact interval_completeStep

@[simp] theorem velocity_onward : sequencer.onward.velocity = sequencer.velocity := by
  obtain ⟨_, same⟩ := sequencer.onward_eq; rw [same]; exact velocity_completeStep

@[simp] theorem direction_onward : sequencer.onward.direction = sequencer.direction := by
  obtain ⟨_, same⟩ := sequencer.onward_eq; rw [same]; exact direction_completeStep

@[simp] theorem position_onward :
    sequencer.onward.position = sequencer.completeStep.position := by
  obtain ⟨_, same⟩ := sequencer.onward_eq; rw [same]

/-- An arrival keeps the route from running out. -/
theorem onward_pending (pending : sequencer.route.waypoints ≠ []) :
    sequencer.onward.route.waypoints ≠ [] := by
  cases arrives : sequencer.arrives with
  | true => rw [onward_of_arrives arrives]; exact sequencer.route.arrive_ne_nil pending
  | false => rw [onward_of_not_arrives arrives, route_completeStep]; exact pending

theorem onward_of_idle (idle : sequencer.route.waypoints = []) :
    sequencer.onward = sequencer.completeStep := by
  apply onward_of_not_arrives
  rw [arrives, hasArrived, target?_eq_none_iff.mpr (by rw [route_completeStep]; exact idle)]
  rfl

/-- An axis arrives where the step in flight ends at the head of the route. -/
theorem arrives_iff {head : Waypoint} {rest : List Waypoint}
    (route : sequencer.route.waypoints = head :: rest) :
    sequencer.arrives = true ↔ sequencer.completeStep.position = head.position := by
  rw [arrives, hasArrived, target?, Route.head?, route_completeStep, route]
  simp only [List.head?_cons, Option.map_some, beq_iff_eq, Option.some.injEq]
  exact eq_comm

theorem target?_onward_of_between {head : Waypoint} {rest : List Waypoint}
    (route : sequencer.route.waypoints = head :: rest) (between : sequencer.arrives = false) :
    sequencer.onward.target? = some head.position := by
  rw [onward_of_not_arrives between, target?, Route.head?, route_completeStep, route]
  rfl

/-- A pass makes the arrival and then plans a step for the waypoint being pursued. -/
theorem pass_eq : sequencer.pass = match sequencer.onward.target? with
    | none => {
        sequencer := if sequencer.onward.phase = .stop then sequencer.onward
          else sequencer.onward.halt
        announcement? := none
        isSettled := true }
    | some target => {
        sequencer := sequencer.onward.planStep sequencer.arrives target
        announcement? := sequencer.arrival?
        isSettled := !(sequencer.onward.planStep sequencer.arrives target).isStopped } :=
  rfl

/-- A pass with nothing to visit brings the axis to rest. -/
theorem pass_of_idle (idle : sequencer.route.waypoints = []) :
    sequencer.pass = {
      sequencer := if sequencer.phase = .stop then sequencer.completeStep
        else sequencer.completeStep.halt
      announcement? := none
      isSettled := true } := by
  have nothing : sequencer.onward.target? = none := by
    rw [target?_eq_none_iff, onward_of_idle idle, route_completeStep]
    exact idle
  rw [pass_eq, nothing]
  simp only [onward_of_idle idle, phase_completeStep]

theorem pass_of_target {target : Millimeters} (pursued : sequencer.onward.target? = some target) :
    sequencer.pass = {
      sequencer := sequencer.onward.planStep sequencer.arrives target
      announcement? := sequencer.arrival?
      isSettled := !(sequencer.onward.planStep sequencer.arrives target).isStopped } := by
  rw [pass_eq, pursued]

/-- While a waypoint is being pursued, the passes end as soon as a step is scheduled. -/
theorem isSettled_pass_iff {target : Millimeters}
    (pursued : sequencer.onward.target? = some target) :
    sequencer.pass.isSettled = true ↔ sequencer.pass.sequencer.interval ≠ .zero := by
  rw [pass_of_target pursued, Bool.not_eq_true', isStopped_eq_false_iff]

theorem exists_target (pending : sequencer.route.waypoints ≠ []) :
    ∃ target, sequencer.onward.target? = some target := by
  rw [← Option.ne_none_iff_exists', ne_eq, target?_eq_none_iff]
  exact onward_pending pending

/-- What a pass can leave behind. -/
inductive Outcome (sequencer : Sequencer capacity) : Pass capacity → Prop
  /-- Nothing is left to visit, and the axis rests. -/
  | idle (idle : sequencer.route.waypoints = []) :
      Outcome sequencer
        ⟨if sequencer.phase = .stop then sequencer.completeStep else sequencer.completeStep.halt,
          none, true⟩
  /-- A step is scheduled. -/
  | scheduled (target : Millimeters) (pursued : sequencer.onward.target? = some target)
      (going : sequencer.onward.plannedPhase target ≠ .stop) (timing : StepTiming)
      (timed : timing.interval ≠ .zero) :
      Outcome sequencer
        ⟨({ sequencer.onward.face target with
            phase := sequencer.onward.plannedPhase target }).schedule timing,
          sequencer.arrival?, true⟩
  /-- A moving axis comes to rest because its braking has no solution. -/
  | braked (target : Millimeters) (pursued : sequencer.onward.target? = some target)
      (moving : sequencer.interval ≠ .zero) :
      Outcome sequencer
        ⟨({ sequencer.onward with phase := .decelerate }).schedule .stopped, sequencer.arrival?,
          false⟩
  /-- An axis at rest gives the head of the route up. -/
  | gaveUp (target : Millimeters) (pursued : sequencer.onward.target? = some target)
      (resting : sequencer.interval = .zero) :
      Outcome sequencer
        ⟨{ (sequencer.onward.face target).halt with route := sequencer.onward.route.pop },
          sequencer.arrival?, false⟩

/-- With a cruise interval that takes time, a pass does nothing else. -/
theorem pass_outcome (cruise : sequencer.limits.cruiseInterval ≠ .zero) :
    Outcome sequencer sequencer.pass := by
  by_cases idle : sequencer.route.waypoints = []
  · rw [pass_of_idle idle]
    exact .idle idle
  · obtain ⟨target, pursued⟩ := exists_target idle
    rw [pass_of_target pursued]
    rcases planStep_cases (cruise_onward cruise) sequencer.arrives target with
      ⟨timing, going, timed, planned⟩ | ⟨moving, planned⟩ | ⟨resting, planned⟩
    · have settled : (({ sequencer.onward.face target with
          phase := sequencer.onward.plannedPhase target }).schedule timing).isStopped = false :=
        isStopped_eq_false_iff.mpr timed
      rw [planned, settled]
      exact .scheduled target pursued going timing timed
    · rw [planned]
      exact .braked target pursued (interval_onward ▸ moving)
    · rw [planned]
      exact .gaveUp target pursued (interval_onward ▸ resting)

theorem length_noted : sequencer.noted.waypoints.length = sequencer.pending := by
  rw [noted]
  split
  · exact sequencer.route.length_silenceHead
  · rfl

theorem waypoints_onward : ∃ count,
    sequencer.onward.route.waypoints = sequencer.noted.waypoints.drop count := by
  cases arrives : sequencer.arrives with
  | true =>
    rw [onward_of_arrives arrives, noted, if_pos arrives]
    exact sequencer.route.waypoints_arrive
  | false =>
    rw [onward_of_not_arrives arrives, route_completeStep, noted, arrives]
    exact ⟨0, rfl⟩

theorem exists_waypoints_pass (cruise : sequencer.limits.cruiseInterval ≠ .zero) : ∃ count,
    sequencer.pass.sequencer.route.waypoints = sequencer.noted.waypoints.drop count := by
  obtain ⟨count, taken⟩ := sequencer.waypoints_onward
  have outcome := pass_outcome cruise
  generalize sequencer.pass = pass at outcome
  cases outcome with
  | idle idle =>
    refine ⟨sequencer.pending, ?_⟩
    rw [← length_noted, List.drop_length]
    dsimp only
    split <;> exact (congrArg Route.waypoints route_completeStep).trans idle
  | scheduled target pursued going timing timed =>
    refine ⟨count, ?_⟩
    rw [← taken]
    exact congrArg Route.waypoints route_face
  | braked target pursued moving => exact ⟨count, taken⟩
  | gaveUp target pursued resting =>
    refine ⟨count + 1, ?_⟩
    rw [← List.tail_drop, ← taken]
    rfl

/-- A pass makes the arrival at the head of the route and takes waypoints off the front. -/
theorem waypoints_pass (cruise : sequencer.limits.cruiseInterval ≠ .zero) :
    sequencer.pass.sequencer.route.waypoints =
      sequencer.noted.waypoints.drop (sequencer.pending - sequencer.pass.sequencer.pending) := by
  obtain ⟨count, taken⟩ := exists_waypoints_pass cruise
  have left : sequencer.pass.sequencer.pending = sequencer.pending - count := by
    rw [pending, Route.size, taken, List.length_drop, length_noted]
  rw [taken, left]
  by_cases few : count ≤ sequencer.pending
  · rw [Nat.sub_sub_self few]
  · have short : sequencer.noted.waypoints.length = sequencer.pending := length_noted
    rw [List.drop_eq_nil_of_le (by omega), List.drop_eq_nil_of_le (by omega)]

theorem announcement?_pass : sequencer.pass.announcement? = sequencer.arrival? := by
  by_cases idle : sequencer.route.waypoints = []
  · have silent : sequencer.completeStep.route.announcement? = none := by
      rw [route_completeStep, Route.announcement?, Route.head?, idle]
      rfl
    rw [pass_of_idle idle, arrival?, silent, ite_self]
  · obtain ⟨target, pursued⟩ := exists_target idle
    rw [pass_of_target pursued]

theorem waypoints_noted_of_silent (silent : sequencer.pass.announcement? = none) :
    sequencer.noted.waypoints = sequencer.route.waypoints := by
  rw [announcement?_pass, arrival?, route_completeStep] at silent
  rw [noted]
  split at silent
  · next arrives =>
    rw [if_pos arrives]
    exact sequencer.route.silenceHead_of_silent silent
  · next between => rw [if_neg between]

@[simp] theorem limits_pass (cruise : sequencer.limits.cruiseInterval ≠ .zero) :
    sequencer.pass.sequencer.limits = sequencer.limits := by
  have outcome := pass_outcome cruise
  generalize sequencer.pass = pass at outcome
  cases outcome with
  | idle idle => dsimp only; split <;> simp [halt]
  | scheduled target pursued going timing timed => simp [schedule]
  | braked target pursued moving => simp [schedule]
  | gaveUp target pursued resting => simp [halt]

theorem cruise_pass (cruise : sequencer.limits.cruiseInterval ≠ .zero) :
    sequencer.pass.sequencer.limits.cruiseInterval ≠ .zero := by
  rw [limits_pass cruise]
  exact cruise

/-! ## Series of passes -/

/-- The passes from a sequencer end, after these announcements, with one that settles. -/
inductive Settles : Sequencer capacity → Sequencer capacity → List Announcement → Prop
  | done {sequencer : Sequencer capacity} (settled : sequencer.pass.isSettled = true) :
      Settles sequencer sequencer.pass.sequencer sequencer.pass.announcement?.toList
  | again {sequencer final : Sequencer capacity} {later : List Announcement}
      (unsettled : sequencer.pass.isSettled = false)
      (rest : Settles sequencer.pass.sequencer final later) :
      Settles sequencer final (sequencer.pass.announcement?.toList ++ later)

variable (sequencer) in
/-- The most passes that can fail to settle from here on. -/
def unsettledPasses : Nat := sequencer.pending + if sequencer.isStopped then 0 else 1

theorem pending_onward_le : sequencer.onward.pending ≤ sequencer.pending := by
  cases arrives : sequencer.arrives with
  | false => rw [onward_of_not_arrives arrives, pending, route_completeStep]; exact Nat.le_refl _
  | true =>
    rw [onward_of_arrives arrives]
    exact sequencer.route.size_arrive_le

/-- A pass that does not settle takes a waypoint off the route or brings a moving axis to rest. -/
theorem unsettledPasses_pass_lt (cruise : sequencer.limits.cruiseInterval ≠ .zero)
    (unsettled : sequencer.pass.isSettled = false) :
    sequencer.pass.sequencer.unsettledPasses < sequencer.unsettledPasses := by
  have outcome := pass_outcome cruise
  have fewer := sequencer.pending_onward_le
  generalize sequencer.pass = pass at outcome unsettled
  cases outcome with
  | idle idle => cases unsettled
  | scheduled target pursued going timing timed => cases unsettled
  | braked target pursued moving =>
    have going := isStopped_eq_false_iff.mpr moving
    have rests : (({ sequencer.onward with phase := .decelerate }).schedule .stopped).isStopped =
        true := isStopped_iff.mpr rfl
    simp only [unsettledPasses, going, rests, ↓reduceIte, Bool.false_eq_true]
    exact Nat.lt_succ_of_le fewer
  | gaveUp target pursued resting =>
    have rests := isStopped_iff.mpr resting
    have still : ({ (sequencer.onward.face target).halt with
        route := sequencer.onward.route.pop }).isStopped = true := isStopped_iff.mpr rfl
    simp only [unsettledPasses, rests, still, ↓reduceIte, Nat.add_zero]
    refine Nat.lt_of_lt_of_le ?_ fewer
    apply sequencer.onward.route.size_pop_lt
    intro idle
    rw [target?_eq_none_iff.mpr idle] at pursued
    cases pursued

/-- As many passes as can fail to settle, and one more, are enough. -/
theorem settles_advanceWithin {passes : Nat} (cruise : sequencer.limits.cruiseInterval ≠ .zero)
    (enough : sequencer.unsettledPasses < passes) :
    Settles sequencer (advanceWithin passes sequencer).1 (advanceWithin passes sequencer).2 := by
  induction passes generalizing sequencer with
  | zero => exact absurd enough (Nat.not_lt_zero _)
  | succ passes ih =>
    rw [advanceWithin]
    cases settled : sequencer.pass.isSettled with
    | true =>
      simp only [↓reduceIte]
      exact .done settled
    | false =>
      simp only [Bool.false_eq_true, ↓reduceIte]
      have fewer := unsettledPasses_pass_lt cruise settled
      exact .again settled (ih (cruise_pass cruise) (by omega))

/-- **Advances end.** With a cruise interval that takes time, the passes of an advance go on until
one settles. -/
theorem settles_advance (cruise : sequencer.limits.cruiseInterval ≠ .zero) :
    Settles sequencer sequencer.advance.1 sequencer.advance.2 := by
  apply settles_advanceWithin cruise
  rw [unsettledPasses]
  split <;> omega

theorem Settles.limits_eq {final : Sequencer capacity} {announcements : List Announcement}
    (settles : Settles sequencer final announcements)
    (cruise : sequencer.limits.cruiseInterval ≠ .zero) : final.limits = sequencer.limits := by
  induction settles with
  | done _ => exact limits_pass cruise
  | again _ _ ih => rw [ih (cruise_pass cruise), limits_pass cruise]

/-- A pass counts the step in flight and moves the axis no further. -/
theorem position_pass :
    sequencer.pass.sequencer.position = sequencer.completeStep.position := by
  cases pursued : sequencer.onward.target? with
  | none =>
    rw [pass_eq, pursued]
    dsimp only
    split
    · exact position_onward
    · exact position_onward
  | some target => rw [pass_of_target pursued, position_planStep, position_onward]

/-- A pass that does not settle leaves no step in flight. -/
theorem interval_pass_of_unsettled (unsettled : sequencer.pass.isSettled = false) :
    sequencer.pass.sequencer.interval = .zero := by
  cases pursued : sequencer.onward.target? with
  | none =>
    rw [pass_eq, pursued] at unsettled
    cases unsettled
  | some target =>
    rw [pass_of_target pursued] at unsettled ⊢
    exact isStopped_iff.mp (by simpa using unsettled)

theorem position_advanceWithin {passes : Nat} :
    (advanceWithin (passes + 1) sequencer).1.position = sequencer.completeStep.position := by
  induction passes generalizing sequencer with
  | zero =>
    rw [advanceWithin]
    split <;> exact position_pass
  | succ passes ih =>
    rw [advanceWithin]
    cases settled : sequencer.pass.isSettled with
    | true => exact position_pass
    | false =>
      have resting := interval_pass_of_unsettled settled
      exact ih.trans (by rw [completeStep_of_resting resting, position_pass])

/-- However many passes an advance takes, it counts the step in flight and moves the axis no
further. -/
theorem position_advance : sequencer.advance.1.position = sequencer.completeStep.position :=
  position_advanceWithin

/-- A series of passes counts the step in flight and moves the axis no further. -/
theorem Settles.position_eq {final : Sequencer capacity} {announcements : List Announcement}
    (settles : Settles sequencer final announcements) :
    final.position = sequencer.completeStep.position := by
  induction settles with
  | done _ => exact position_pass
  | again unsettled _ ih =>
    -- A pass that does not settle leaves no step in flight for the next one to count.
    have resting := interval_pass_of_unsettled unsettled
    rw [ih, completeStep_of_resting resting, position_pass]

theorem Settles.unique {left right : Sequencer capacity} {first second : List Announcement}
    (this : Settles sequencer left first) (that : Settles sequencer right second) :
    left = right ∧ first = second := by
  induction this generalizing right second with
  | done settled =>
    cases that with
    | done _ => exact ⟨rfl, rfl⟩
    | again unsettled _ => rw [settled] at unsettled; cases unsettled
  | again unsettled _ ih =>
    cases that with
    | done settled => rw [settled] at unsettled; cases unsettled
    | again _ rest =>
      obtain ⟨rfl, rfl⟩ := ih rest
      exact ⟨rfl, rfl⟩

theorem Settles.advance_eq {final : Sequencer capacity} {announcements : List Announcement}
    (cruise : sequencer.limits.cruiseInterval ≠ .zero)
    (settles : Settles sequencer final announcements) :
    sequencer.advance = (final, announcements) := by
  obtain ⟨same, alike⟩ := (settles_advance cruise).unique settles
  exact Prod.ext same alike

theorem advance_of_settled (cruise : sequencer.limits.cruiseInterval ≠ .zero)
    (settled : sequencer.pass.isSettled = true) :
    sequencer.advance = (sequencer.pass.sequencer, sequencer.pass.announcement?.toList) :=
  (Settles.done settled).advance_eq cruise

theorem advance_of_unsettled (cruise : sequencer.limits.cruiseInterval ≠ .zero)
    (unsettled : sequencer.pass.isSettled = false) :
    sequencer.advance = (sequencer.pass.sequencer.advance.1,
      sequencer.pass.announcement?.toList ++ sequencer.pass.sequencer.advance.2) :=
  (Settles.again unsettled (settles_advance (cruise_pass cruise))).advance_eq
    cruise

/-- An axis that starts a series of passes at rest does not end it braking. -/
theorem Settles.phase_ne_decelerate {final : Sequencer capacity}
    {announcements : List Announcement} (settles : Settles sequencer final announcements)
    (cruise : sequencer.limits.cruiseInterval ≠ .zero) (resting : sequencer.interval = .zero) :
    final.phase ≠ .decelerate := by
  induction settles with
  | @done sequencer settled =>
    have outcome := pass_outcome cruise
    generalize sequencer.pass = pass at outcome settled
    cases outcome with
    | idle idle =>
      dsimp only
      split
      · next stop => rw [phase_completeStep, stop]; decide
      · change Phase.stop ≠ .decelerate; decide
    | scheduled target pursued going timing timed =>
      intro braking
      exact moving_of_plannedPhase braking (interval_onward.trans resting)
    | braked target pursued moving => cases settled
    | gaveUp target pursued resting => cases settled
  | @again sequencer final later unsettled rest ih =>
    exact ih (cruise_pass cruise) (interval_pass_of_unsettled unsettled)

/-! ## Between waypoints and at rest -/

/-- Between waypoints an advance plans a step for the head of the route. -/
theorem pass_of_between {head : Waypoint} {rest : List Waypoint}
    (route : sequencer.route.waypoints = head :: rest)
    (apart : sequencer.completeStep.position ≠ head.position) :
    sequencer.pass = {
      sequencer := sequencer.completeStep.planStep false head.position
      announcement? := none
      isSettled := !(sequencer.completeStep.planStep false head.position).isStopped } := by
  have between : sequencer.arrives = false := by
    rw [← Bool.not_eq_true, arrives_iff route]
    exact apart
  rw [pass_of_target (target?_onward_of_between route between), onward_of_not_arrives between,
    between, arrival?, between]
  rfl

/-- What an advance does between waypoints when the axis is to go on. -/
theorem advance_of_between {head : Waypoint} {rest : List Waypoint}
    (cruise : sequencer.limits.cruiseInterval ≠ .zero)
    (route : sequencer.route.waypoints = head :: rest)
    (ahead : (sequencer.completeStep.face head.position).direction.continues
      sequencer.completeStep.position head.position = true)
    (going : sequencer.completeStep.plannedPhase head.position ≠ .stop) :
    sequencer.advance = (sequencer.completeStep.planStep false head.position, []) ∧
      ∃ timing, timing.interval ≠ .zero ∧ sequencer.completeStep.planStep false head.position =
        ({ sequencer.completeStep.face head.position with
          phase := sequencer.completeStep.plannedPhase head.position }).schedule timing := by
  have apart := Direction.ne_of_continues ahead
  obtain ⟨timing, goes, planned⟩ := planStep_of_ahead (cruise_completeStep cruise) going ahead
  have pass := pass_of_between route apart
  have moves : (sequencer.completeStep.planStep false head.position).isStopped = false := by
    rw [planned]
    exact isStopped_eq_false_iff.mpr goes
  refine ⟨?_, timing, goes, planned⟩
  rw [advance_of_settled cruise (by rw [pass, moves]; rfl), pass]
  rfl

theorem advance_of_idle (cruise : sequencer.limits.cruiseInterval ≠ .zero)
    (idle : sequencer.route.waypoints = []) (resting : sequencer.interval = .zero)
    (stop : sequencer.phase = .stop) : sequencer.advance = (sequencer, []) := by
  have pass := pass_of_idle idle
  rw [if_pos stop, completeStep_of_resting resting] at pass
  rw [advance_of_settled cruise (by rw [pass]), pass]
  rfl

theorem pass_of_stop {head : Waypoint} {rest : List Waypoint}
    (route : sequencer.route.waypoints = head :: rest) (resting : sequencer.interval = .zero)
    (apart : sequencer.position ≠ head.position)
    (staying : sequencer.plannedPhase head.position = .stop) :
    sequencer.pass =
      ⟨{ (sequencer.face head.position).halt with route := sequencer.route.pop }, none, false⟩ := by
  rw [pass_of_between route (by rw [completeStep_of_resting resting]; exact apart),
    completeStep_of_resting resting, planStep_of_stop staying]
  rfl

/-- Turning an axis at rest toward the head of its route makes no difference to an advance. -/
theorem advance_face {head : Waypoint} {rest : List Waypoint}
    (cruise : sequencer.limits.cruiseInterval ≠ .zero)
    (route : sequencer.route.waypoints = head :: rest) (resting : sequencer.interval = .zero)
    (apart : sequencer.position ≠ head.position) :
    (sequencer.face head.position).advance = sequencer.advance := by
  have still : (sequencer.face head.position).interval = .zero := by
    rw [interval_face]; exact resting
  have away : (sequencer.face head.position).completeStep.position ≠ head.position := by
    rw [completeStep_of_resting still, position_face]; exact apart
  have same : (sequencer.face head.position).pass = sequencer.pass := by
    rw [pass_of_between (by rw [route_face]; exact route) away,
      pass_of_between route (by rwa [completeStep_of_resting resting]),
      completeStep_of_resting still, completeStep_of_resting resting, planStep_face]
  have timed : (sequencer.face head.position).limits.cruiseInterval ≠ .zero := by
    rw [limits_face]; exact cruise
  cases settled : sequencer.pass.isSettled with
  | true =>
    rw [advance_of_settled timed (by rw [same, settled]), advance_of_settled cruise settled, same]
  | false =>
    rw [advance_of_unsettled timed (by rw [same, settled]), advance_of_unsettled cruise settled,
      same]

end LinearAxis.Sequencer
