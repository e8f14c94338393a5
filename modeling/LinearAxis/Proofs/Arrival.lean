import LinearAxis.Proofs.Command
import LinearAxis.Proofs.Timing
import Mathlib.Data.List.Chain

/-!
# Arrivals that are overlooked

An advance looks once a pass whether the axis stands at the head of the route.  A pass that starts
at rest may take two waypoints off: the head, where the axis arrives, and the one behind it, which
it gives up.  If the axis stands at that one too, its arrival is overlooked.  It is the only way to
lose an announcement (`LinearAxis.Sequencer.announced_iff_not_overlooked`), and it needs neighbours
at one position (`LinearAxis.Sequencer.announced_of_spaced`).
-/

namespace LinearAxis.Sequencer

variable {capacity : Nat} {sequencer : Sequencer capacity}

/-- The sequencers that the passes of an advance start from. -/
inductive Passing : Sequencer capacity → Sequencer capacity → Prop
  | first {sequencer : Sequencer capacity} : Passing sequencer sequencer
  | again {sequencer passing : Sequencer capacity}
      (unsettled : sequencer.pass.isSettled = false)
      (rest : Passing sequencer.pass.sequencer passing) : Passing sequencer passing

/-- The axis stands at rest at the head of the route, with the waypoint right behind. -/
structure Skips (sequencer : Sequencer capacity) (waypoint : Waypoint) : Prop where
  resting : sequencer.interval = .zero
  arrives : sequencer.arrives = true
  second : sequencer.route.following? = some waypoint

/-- Some pass of an advance skips the waypoint. -/
def Overlooks (sequencer : Sequencer capacity) (waypoint : Waypoint) : Prop :=
  ∃ passing, Passing sequencer passing ∧ passing.Skips waypoint

/-! ## The passes of an advance -/

/-- An advance ends with a pass that settles. -/
theorem Settles.exists_passing {final : Sequencer capacity} {announcements : List Announcement}
    (settles : Settles sequencer final announcements) :
    ∃ passing, Passing sequencer passing ∧ passing.pass.isSettled = true ∧
      passing.pass.sequencer = final := by
  induction settles with
  | done settled => exact ⟨_, .first, settled, rfl⟩
  | again unsettled _ ih =>
    obtain ⟨passing, reaches, settled, same⟩ := ih
    exact ⟨passing, .again unsettled reaches, settled, same⟩

theorem Passing.limits_eq {passing : Sequencer capacity} (reaches : Passing sequencer passing)
    (cruise : sequencer.limits.cruiseInterval ≠ .zero) : passing.limits = sequencer.limits := by
  induction reaches with
  | first => rfl
  | again _ _ ih => rw [ih (cruise_pass cruise), limits_pass cruise]

/-- Every pass but the first starts at rest. -/
theorem Passing.eq_or_resting {passing : Sequencer capacity} (reaches : Passing sequencer passing)
    (cruise : sequencer.limits.cruiseInterval ≠ .zero) :
    passing = sequencer ∨ passing.interval = .zero := by
  induction reaches with
  | first => exact .inl rfl
  | again unsettled _ ih =>
    rcases ih (cruise_pass cruise) with same | resting
    · rw [same]
      exact .inr (interval_pass_of_unsettled unsettled)
    · exact .inr resting

/-! ## What is left of the route -/

/-- An arrival changes no key and no position. -/
theorem map_noted {α : Type} {part : Waypoint → α}
    (blind : ∀ waypoint : Waypoint, part waypoint.silenced = part waypoint) :
    sequencer.noted.waypoints.map part = sequencer.route.waypoints.map part := by
  rw [noted]
  split
  · cases pending : sequencer.route.waypoints with
    | nil => simp only [Route.silenceHead, pending]
    | cons head rest =>
      rw [sequencer.route.silenceHead_of_cons pending, List.map_cons, List.map_cons, blind]
  · rfl

theorem mem_of_mem_noted {waypoint : Waypoint} (member : waypoint ∈ sequencer.noted.waypoints)
    (announces : waypoint.announces = true) : waypoint ∈ sequencer.route.waypoints := by
  rw [noted] at member
  split at member
  · cases pending : sequencer.route.waypoints with
    | nil => simp [Route.silenceHead, pending] at member
    | cons head rest =>
      rw [sequencer.route.silenceHead_of_cons pending] at member
      rcases List.mem_cons.mp member with rfl | behind
      · cases announces
      · exact .tail _ behind
  · exact member

theorem keys_pass_subset (cruise : sequencer.limits.cruiseInterval ≠ .zero) :
    sequencer.pass.sequencer.route.waypoints.map Waypoint.key ⊆
      sequencer.route.waypoints.map Waypoint.key := by
  rw [waypoints_pass cruise, List.map_drop, map_noted fun _ => rfl]
  exact List.drop_subset _ _

theorem mem_of_mem_pass {waypoint : Waypoint}
    (cruise : sequencer.limits.cruiseInterval ≠ .zero)
    (member : waypoint ∈ sequencer.pass.sequencer.route.waypoints)
    (announces : waypoint.announces = true) : waypoint ∈ sequencer.route.waypoints := by
  rw [waypoints_pass cruise] at member
  exact mem_of_mem_noted (List.mem_of_mem_drop member) announces

theorem Passing.mem {passing : Sequencer capacity} {waypoint : Waypoint}
    (reaches : Passing sequencer passing) (cruise : sequencer.limits.cruiseInterval ≠ .zero)
    (member : waypoint ∈ passing.route.waypoints) (announces : waypoint.announces = true) :
    waypoint ∈ sequencer.route.waypoints := by
  induction reaches with
  | first => exact member
  | again _ _ ih => exact mem_of_mem_pass cruise (ih (cruise_pass cruise) member) announces

theorem announcement?_pass_of_cons {head : Waypoint} {rest : List Waypoint}
    (route : sequencer.route.waypoints = head :: rest) :
    sequencer.pass.announcement? = if sequencer.arrives then head.announcement? else none := by
  rw [announcement?_pass, arrival?, route_completeStep,
    sequencer.route.announcement?_of_cons route]

theorem key_of_announced {announcement : Announcement}
    (announced : sequencer.pass.announcement? = some announcement) :
    sequencer.route.waypoints.head?.map Waypoint.key = some announcement.key := by
  cases route : sequencer.route.waypoints with
  | nil =>
    rw [pass_of_idle route] at announced
    cases announced
  | cons head rest =>
    rw [announcement?_pass_of_cons route] at announced
    split at announced
    · rw [Waypoint.announcement?] at announced
      split at announced
      · cases announced
        rfl
      · cases announced
    · cases announced

/-- The arrival that a pass announces is where the axis is. -/
theorem position_of_announced {announcement : Announcement}
    (announced : sequencer.pass.announcement? = some announcement) :
    announcement.position = sequencer.completeStep.position := by
  cases route : sequencer.route.waypoints with
  | nil =>
    rw [pass_of_idle route] at announced
    cases announced
  | cons head rest =>
    rw [announcement?_pass_of_cons route] at announced
    split at announced
    · next arrives =>
      rw [Waypoint.announcement?] at announced
      split at announced
      · cases announced
        exact ((arrives_iff route).mp arrives).symm
      · cases announced
    · cases announced

theorem Settles.position_of_announced {final : Sequencer capacity}
    {announcements : List Announcement} (settles : Settles sequencer final announcements)
    {announcement : Announcement} (announced : announcement ∈ announcements) :
    announcement.position = final.position := by
  induction settles with
  | done _ =>
    rw [position_pass]
    exact Sequencer.position_of_announced (Option.mem_toList.mp announced)
  | @again sequencer final later unsettled rest ih =>
    rcases List.mem_append.mp announced with first | later
    · rw [rest.position_eq,
        completeStep_of_resting (interval_pass_of_unsettled unsettled),
        position_pass]
      exact Sequencer.position_of_announced (Option.mem_toList.mp first)
    · exact ih later

theorem Settles.key_mem {final : Sequencer capacity} {announcements : List Announcement}
    (settles : Settles sequencer final announcements)
    (cruise : sequencer.limits.cruiseInterval ≠ .zero) {announcement : Announcement}
    (announced : announcement ∈ announcements) :
    announcement.key ∈ sequencer.route.waypoints.map Waypoint.key := by
  have now {sequencer : Sequencer capacity}
      (announced : announcement ∈ sequencer.pass.announcement?.toList) :
      announcement.key ∈ sequencer.route.waypoints.map Waypoint.key := by
    have head := key_of_announced (Option.mem_toList.mp announced)
    rw [← List.head?_map] at head
    exact List.mem_of_mem_head? head
  induction settles with
  | done _ => exact now announced
  | again _ _ ih =>
    rcases List.mem_append.mp announced with first | later
    · exact now first
    · exact keys_pass_subset cruise (ih (cruise_pass cruise) later)

theorem waypoints_onward_of_arrives {head next : Waypoint} {later : List Waypoint}
    (route : sequencer.route.waypoints = head :: next :: later)
    (arrives : sequencer.arrives = true) : sequencer.onward.route.waypoints = next :: later := by
  rw [onward_of_arrives arrives]
  have several : 1 < sequencer.route.size := by simp [Route.size, route]
  rw [sequencer.route.waypoints_arrive_of_several several, route, List.tail_cons]

theorem waypoints_onward_of_between (between : sequencer.arrives = false) :
    sequencer.onward.route.waypoints = sequencer.route.waypoints := by
  rw [onward_of_not_arrives between, route_completeStep]

/-- A pass keeps every waypoint behind the head but the one that it overlooks. -/
theorem mem_pass_of_behind {head : Waypoint} {rest : List Waypoint} {waypoint : Waypoint}
    (cruise : sequencer.limits.cruiseInterval ≠ .zero)
    (route : sequencer.route.waypoints = head :: rest) (behind : waypoint ∈ rest)
    (seen : ¬ sequencer.Skips waypoint) :
    waypoint ∈ sequencer.pass.sequencer.route.waypoints := by
  obtain ⟨next, later, rfl⟩ := List.exists_cons_of_ne_nil (List.ne_nil_of_mem behind)
  have onward : waypoint ∈ sequencer.onward.route.waypoints := by
    cases arrives : sequencer.arrives with
    | true =>
      rw [waypoints_onward_of_arrives route arrives]
      exact behind
    | false =>
      rw [waypoints_onward_of_between arrives, route]
      exact .tail _ behind
  have outcome := pass_outcome cruise
  generalize sequencer.pass = pass at outcome
  cases outcome with
  | idle idle =>
    rw [idle] at route
    cases route
  | scheduled target pursued going timing timed =>
    change waypoint ∈ (sequencer.onward.face target).route.waypoints
    rw [route_face]
    exact onward
  | braked target pursued moving => exact onward
  | gaveUp target pursued resting =>
    rw [Route.waypoints_pop]
    cases arrives : sequencer.arrives with
    | true =>
      rw [waypoints_onward_of_arrives route arrives, List.tail_cons]
      rcases List.mem_cons.mp behind with rfl | further
      · have second : sequencer.route.following? = some waypoint := by
          rw [Route.following?, route]
          rfl
        exact absurd ⟨resting, arrives, second⟩ seen
      · exact further
    | false =>
      rw [waypoints_onward_of_between arrives, route]
      exact behind

theorem Skips.waypoints_eq {waypoint : Waypoint} (skips : sequencer.Skips waypoint) :
    ∃ head later, sequencer.route.waypoints = head :: waypoint :: later := by
  have second := skips.second
  rw [Route.following?] at second
  cases route : sequencer.route.waypoints with
  | nil => simp [route] at second
  | cons head rest =>
    cases rest with
    | nil => simp [route] at second
    | cons next later =>
      rw [route] at second
      cases second
      exact ⟨head, later, rfl⟩

/-- A pass that skips a waypoint and does not settle takes it off the route. -/
theorem Skips.key_not_mem_pass {waypoint : Waypoint} (skips : sequencer.Skips waypoint)
    (cruise : sequencer.limits.cruiseInterval ≠ .zero)
    (unsettled : sequencer.pass.isSettled = false) :
    waypoint.key ∉ sequencer.pass.sequencer.route.waypoints.map Waypoint.key := by
  obtain ⟨head, later, route⟩ := skips.waypoints_eq
  have distinct := sequencer.route.keys_nodup
  rw [route] at distinct
  have outcome := pass_outcome cruise
  generalize sequencer.pass = pass at outcome unsettled
  cases outcome with
  | idle idle => cases unsettled
  | scheduled target pursued going timing timed => cases unsettled
  | braked target pursued moving => exact absurd skips.resting moving
  | gaveUp target pursued resting =>
    rw [Route.waypoints_pop, waypoints_onward_of_arrives route skips.arrives, List.tail_cons]
    exact (List.nodup_cons.mp (List.nodup_cons.mp distinct).2).1

theorem key_ne_of_behind {head : Waypoint} {rest : List Waypoint} {waypoint : Waypoint}
    (route : sequencer.route.waypoints = head :: rest) (behind : waypoint ∈ rest) :
    waypoint.key ≠ head.key := by
  have distinct := sequencer.route.keys_nodup
  rw [route, List.map_cons, List.nodup_cons] at distinct
  intro same
  exact distinct.1 (same ▸ List.mem_map_of_mem behind)

theorem not_announced_of_behind {head : Waypoint} {rest : List Waypoint} {waypoint : Waypoint}
    (route : sequencer.route.waypoints = head :: rest) (behind : waypoint ∈ rest) :
    ⟨waypoint.key, waypoint.position⟩ ∉ sequencer.pass.announcement?.toList := by
  intro announced
  have first := key_of_announced (Option.mem_toList.mp announced)
  rw [route, List.head?_cons, Option.map_some, Option.some.injEq] at first
  exact key_ne_of_behind route behind first.symm

/-- An arrival at the head of the route is announced, and the head is not behind a waypoint then or
later. -/
theorem announced_of_head {waypoint : Waypoint} {rest : List Waypoint}
    (cruise : sequencer.limits.cruiseInterval ≠ .zero)
    (route : sequencer.route.waypoints = waypoint :: rest) (announces : waypoint.announces = true)
    (arrives : sequencer.arrives = true) :
    ⟨waypoint.key, waypoint.position⟩ ∈ sequencer.pass.announcement?.toList ∧
      ¬ sequencer.Overlooks waypoint := by
  have single : waypoint ∉ rest := fun behind => key_ne_of_behind route behind rfl
  refine ⟨?_, ?_⟩
  · rw [announcement?_pass_of_cons route, if_pos arrives, Waypoint.announcement?, if_pos announces]
    exact .head _
  · rintro ⟨passing, reaches, skips⟩
    have second := skips.second
    cases reaches with
    | first =>
      rw [Route.following?, route, List.getElem?_cons_succ] at second
      exact single (List.mem_of_getElem? second)
    | again unsettled later =>
      have member := later.mem (cruise_pass cruise) (List.mem_of_getElem? second) announces
      rw [waypoints_pass cruise, noted, if_pos arrives,
        sequencer.route.silenceHead_of_cons route] at member
      rcases List.mem_cons.mp (List.mem_of_mem_drop member) with same | behind
      · rw [same] at announces
        cases announces
      · exact single behind

/-- What a pass that does not settle leaves seen is overlooked by the passes after it or not at
all. -/
theorem overlooks_iff_of_seen {waypoint : Waypoint} (unsettled : sequencer.pass.isSettled = false)
    (seen : ¬ sequencer.Skips waypoint) :
    sequencer.Overlooks waypoint ↔ sequencer.pass.sequencer.Overlooks waypoint := by
  constructor
  · rintro ⟨passing, reaches, overlooked⟩
    cases reaches with
    | first => exact absurd overlooked seen
    | again _ later => exact ⟨passing, later, overlooked⟩
  · rintro ⟨passing, reaches, overlooked⟩
    exact ⟨passing, .again unsettled reaches, overlooked⟩

theorem Settles.announced_iff {final : Sequencer capacity} {announcements : List Announcement}
    (settles : Settles sequencer final announcements)
    (cruise : sequencer.limits.cruiseInterval ≠ .zero) {waypoint : Waypoint}
    (pending : waypoint ∈ sequencer.route.waypoints) (announces : waypoint.announces = true)
    (removed : waypoint.key ∉ final.route.waypoints.map Waypoint.key)
    (there : final.position = waypoint.position) :
    ⟨waypoint.key, waypoint.position⟩ ∈ announcements ↔ ¬ sequencer.Overlooks waypoint := by
  -- The axis stands at one place in all passes, so that each of them arrives at the waypoint if it
  -- is the head, and otherwise skips it or keeps it.
  rw [settles.position_eq] at there
  induction settles with
  | @done sequencer settled =>
    obtain ⟨head, rest, route⟩ := List.exists_cons_of_ne_nil (List.ne_nil_of_mem pending)
    rcases List.mem_cons.mp (route ▸ pending) with rfl | behind
    · obtain ⟨announced, seen⟩ :=
        announced_of_head cruise route announces ((arrives_iff route).mpr there)
      exact iff_of_true announced seen
    · by_cases skipped : sequencer.Skips waypoint
      · have overlooked : sequencer.Overlooks waypoint := ⟨sequencer, .first, skipped⟩
        exact iff_of_false (not_announced_of_behind route behind) (not_not_intro overlooked)
      · have stays := mem_pass_of_behind cruise route behind skipped
        exact absurd (List.mem_map_of_mem stays) removed
  | @again sequencer final later unsettled rest ih =>
    obtain ⟨head, others, route⟩ := List.exists_cons_of_ne_nil (List.ne_nil_of_mem pending)
    rcases List.mem_cons.mp (route ▸ pending) with rfl | behind
    · obtain ⟨announced, seen⟩ :=
        announced_of_head cruise route announces ((arrives_iff route).mpr there)
      exact iff_of_true (List.mem_append_left _ announced) seen
    · have silent := not_announced_of_behind route behind
      by_cases skipped : sequencer.Skips waypoint
      · have overlooked : sequencer.Overlooks waypoint := ⟨sequencer, .first, skipped⟩
        refine iff_of_false ?_ (not_not_intro overlooked)
        intro announced
        rcases List.mem_append.mp announced with now | after
        · exact silent now
        · exact skipped.key_not_mem_pass cruise unsettled (rest.key_mem (cruise_pass cruise) after)
      · have stays := mem_pass_of_behind cruise route behind skipped
        have still := interval_pass_of_unsettled unsettled
        have here : sequencer.pass.sequencer.completeStep.position = waypoint.position := by
          rw [completeStep_of_resting still, position_pass, there]
        rw [overlooks_iff_of_seen unsettled skipped, List.mem_append, or_iff_right silent]
        exact ih (cruise_pass cruise) stays removed here

/-- **Lost announcements.** Where an advance takes a waypoint off the route at which the axis stands
and which is still to be announced, the arrival is announced in that advance exactly when it is not
overlooked. -/
theorem announced_iff_not_overlooked (cruise : sequencer.limits.cruiseInterval ≠ .zero)
    {waypoint : Waypoint} (pending : waypoint ∈ sequencer.route.waypoints)
    (announces : waypoint.announces = true)
    (removed : waypoint.key ∉ sequencer.advance.1.route.waypoints.map Waypoint.key)
    (there : sequencer.advance.1.position = waypoint.position) :
    ⟨waypoint.key, waypoint.position⟩ ∈ sequencer.advance.2 ↔ ¬ sequencer.Overlooks waypoint :=
  (settles_advance cruise).announced_iff cruise pending announces removed there

/-- The last of three waypoints where the axis stands is announced. -/
theorem announced_iff_not_overlooked_in_a_row :
    let start := (initial .slow : Sequencer 8).run
      [.enqueue ⟨0, 0, true⟩, .enqueue ⟨1, 0, true⟩, .enqueue ⟨2, 0, true⟩]
    (start.limits.cruiseInterval ≠ .zero ∧ ⟨2, 0, true⟩ ∈ start.route.waypoints ∧
      2 ∉ start.advance.1.route.waypoints.map Waypoint.key ∧ start.advance.1.position = 0) ∧
    start.advance.2 = [⟨0, 0⟩, ⟨2, 0⟩] ∧
    (⟨2, 0⟩ ∈ start.advance.2 ↔ ¬ start.Overlooks ⟨2, 0, true⟩) := by
  intro start
  have cruise : start.limits.cruiseInterval ≠ .zero := by decide +kernel
  have pending : ⟨2, 0, true⟩ ∈ start.route.waypoints := by decide +kernel
  have removed : 2 ∉ start.advance.1.route.waypoints.map Waypoint.key := by decide +kernel
  have there : start.advance.1.position = 0 := by decide +kernel
  exact ⟨⟨cruise, pending, removed, there⟩, by decide +kernel,
    announced_iff_not_overlooked cruise pending rfl removed there⟩

/-- The second of two is not. -/
theorem arrival_lost_at_rest :
    let start := (initial .slow : Sequencer 8).run [.enqueue ⟨0, 0, true⟩, .enqueue ⟨1, 0, true⟩]
    (0 < start.limits.distancePerStep.toInt ∧ start.limits.cruiseInterval ≠ .zero) ∧
      start.route.waypoints = [⟨0, 0, true⟩, ⟨1, 0, true⟩] ∧
      start.advance.1.route = .empty ∧ start.advance.1.position = 0 ∧
      start.advance.2 = [⟨0, 0⟩] := by
  decide +kernel

/-! ## Routes whose neighbours lie apart -/

theorem Passing.spaced {passing : Sequencer capacity} (reaches : Passing sequencer passing)
    (cruise : sequencer.limits.cruiseInterval ≠ .zero)
    (spaced : sequencer.route.positions.IsChain (· ≠ ·)) :
    passing.route.positions.IsChain (· ≠ ·) := by
  induction reaches with
  | first => exact spaced
  | again _ _ ih =>
    apply ih (cruise_pass cruise)
    rw [Route.positions, waypoints_pass cruise, List.map_drop, map_noted fun _ => rfl]
    exact spaced.drop _

theorem Passing.position_eq {passing : Sequencer capacity}
    (reaches : Passing sequencer passing) :
    passing.completeStep.position = sequencer.completeStep.position := by
  induction reaches with
  | first => rfl
  | again unsettled _ ih =>
    have still := interval_pass_of_unsettled unsettled
    rw [ih, completeStep_of_resting still, position_pass]

/-- A pass takes positions off the front of the route. -/
theorem positions_pass (cruise : sequencer.limits.cruiseInterval ≠ .zero) :
    sequencer.pass.sequencer.route.positions =
      sequencer.route.positions.drop (sequencer.pending - sequencer.pass.sequencer.pending) := by
  rw [Route.positions, waypoints_pass cruise, List.map_drop, map_noted fun _ => rfl,
    Route.positions]

/-- Where an arrival leaves the axis at its next target as well, that is the last one, or it has the
position of the one before. -/
theorem last_or_repeated {target : Millimeters}
    (pursued : sequencer.onward.target? = some target)
    (there : sequencer.onward.position = target) :
    sequencer.onward.route.following? = none ∨
      ¬ sequencer.route.positions.IsChain (· ≠ ·) := by
  rw [position_onward] at there
  cases route : sequencer.route.waypoints with
  | nil =>
    rw [onward_of_idle route, target?_eq_none_iff.mpr (by rw [route_completeStep]; exact route)]
      at pursued
    cases pursued
  | cons head rest =>
    cases arrives : sequencer.arrives with
    | false =>
      have apart := (arrives_iff route).not.mp (by rw [arrives]; exact Bool.false_ne_true)
      rw [target?_onward_of_between route arrives] at pursued
      exact absurd (there.trans (Option.some.inj pursued).symm) apart
    | true =>
      cases rest with
      | nil =>
        have single : ¬ 1 < sequencer.route.size := by simp [Route.size, route]
        left
        rw [onward_of_arrives arrives, Route.following?, Route.arrive, if_neg single,
          sequencer.route.silenceHead_of_cons route]
        rfl
      | cons next later =>
        rw [target?, Route.head?, waypoints_onward_of_arrives route arrives] at pursued
        have same : next.position = target := Option.some.inj pursued
        right
        rw [Route.positions, route, List.map_cons, List.map_cons, List.isChain_cons_cons]
        exact fun spaced =>
          spaced.1 (((arrives_iff route).mp arrives).symm.trans (there.trans same.symm))

/-- Where no two neighbours on the route have the same position, an advance announces every arrival
at a waypoint that it takes off. -/
theorem announced_of_spaced (cruise : sequencer.limits.cruiseInterval ≠ .zero)
    (spaced : sequencer.route.positions.IsChain (· ≠ ·)) {waypoint : Waypoint}
    (pending : waypoint ∈ sequencer.route.waypoints) (announces : waypoint.announces = true)
    (removed : waypoint.key ∉ sequencer.advance.1.route.waypoints.map Waypoint.key)
    (there : sequencer.advance.1.position = waypoint.position) :
    ⟨waypoint.key, waypoint.position⟩ ∈ sequencer.advance.2 := by
  have settles := settles_advance cruise
  apply (settles.announced_iff cruise pending announces removed there).mpr
  rintro ⟨passing, reaches, skips⟩
  obtain ⟨head, later, route⟩ := skips.waypoints_eq
  have apart := reaches.spaced cruise spaced
  rw [Route.positions, route, List.map_cons, List.map_cons, List.isChain_cons_cons] at apart
  apply apart.1
  calc head.position
      = passing.completeStep.position := ((arrives_iff route).mp skips.arrives).symm
    _ = sequencer.completeStep.position := reaches.position_eq
    _ = sequencer.advance.1.position := (settles.position_eq).symm
    _ = waypoint.position := there

end LinearAxis.Sequencer
