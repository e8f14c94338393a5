import LinearAxis.Proofs.Command
import Mathlib.Data.List.Sort

/-!
# The ledger of a route

A ledger follows a sequencer and numbers the waypoints that it accepts.  For each of them it tells
whether it is still pending, has left the route at the front, or was retracted, and when its arrival
was announced.  Keys may be used again and a waypoint may outlive its announcement, but numbers are
never confused: arrivals are announced in the order of acceptance, once each at most, where the axis
stands at the waypoint (`LinearAxis.Ledger.fired_in_order`).
-/

namespace LinearAxis

/-- The announcement of an arrival at the waypoint with a number, and where the axis stood then. -/
structure Firing where
  number : Nat
  announcement : Announcement
  position : Millimeters
deriving DecidableEq

/-- A sequencer with an account of the waypoints that it has accepted, each numbered by its place
among them. -/
structure Ledger (capacity : Nat) where
  sequencer : Sequencer capacity
  /-- The accepted waypoints, in their order. -/
  accepted : List Waypoint := []
  /-- The numbers of the pending waypoints, in the order of visit. -/
  pending : List Nat := []
  /-- The numbers of the waypoints that left the route at its front, in their order. -/
  left : List Nat := []
  /-- The numbers of the waypoints that were taken back or abandoned. -/
  retracted : List Nat := []
  /-- The announcements, in their order. -/
  fired : List Firing := []
deriving DecidableEq

namespace Ledger

open Sequencer

variable {capacity : Nat}

/-- The ledger of a new sequencer. -/
def opened (limits : Kinematics) : Ledger capacity := { sequencer := .initial limits }

variable (ledger : Ledger capacity)

/-- The ledger after one pass of planning: an announcement is that of the first pending waypoint,
and as many waypoints left as the route is shorter. -/
def pass : Ledger capacity :=
  let pass := ledger.sequencer.pass
  let gone := ledger.sequencer.pending - pass.sequencer.pending
  { ledger with
    sequencer := pass.sequencer
    pending := ledger.pending.drop gone
    left := ledger.left ++ ledger.pending.take gone
    fired := ledger.fired ++ match pass.announcement?, ledger.pending with
      | some announcement, number :: _ =>
        [⟨number, announcement, ledger.sequencer.completeStep.position⟩]
      | _, _ => [] }

/-- Passes until one settles, at most so many of them. -/
def advanceWithin : Nat → Ledger capacity → Ledger capacity
  | 0, ledger => ledger
  | passes + 1, ledger =>
    if ledger.sequencer.pass.isSettled then ledger.pass else advanceWithin passes ledger.pass

/-- The ledger after an advance. -/
def advance : Ledger capacity := advanceWithin (ledger.sequencer.pending + 2) ledger

/-- The ledger after a command. -/
def after : Command → Ledger capacity
  | .enqueue waypoint =>
    match ledger.sequencer.enqueue waypoint with
    | .ok (_, sequencer) =>
      { ledger with
        sequencer
        accepted := ledger.accepted ++ [waypoint]
        pending := ledger.pending ++ [ledger.accepted.length] }
    | .error _ => ledger
  | .withdrawLast =>
    { ledger with
      sequencer := ledger.sequencer.withdrawLast
      pending := ledger.pending.dropLast
      retracted := ledger.retracted ++ ledger.pending.getLast?.toList }
  | .clearRoute =>
    { ledger with
      sequencer := ledger.sequencer.clearRoute
      pending := []
      retracted := ledger.retracted ++ ledger.pending }
  | .setPosition position =>
    { ledger with sequencer := ledger.sequencer.setPosition position }
  | .halt => { ledger with sequencer := ledger.sequencer.halt }
  | .advance => ledger.advance

/-- The ledger after a run of commands. -/
def run (commands : List Command) : Ledger capacity := commands.foldl after ledger

/-- The numbers of the waypoints whose arrival was announced. -/
def firedNumbers : List Nat := ledger.fired.map Firing.number

/-- The accepted waypoint with a number as the route has it: silenced once its arrival was
announced. -/
def current? (number : Nat) : Option Waypoint :=
  ledger.accepted[number]?.map fun waypoint =>
    if number ∈ ledger.firedNumbers then waypoint.silenced else waypoint

/-- The account is right. -/
structure Kept (limits : Kinematics) (ledger : Ledger capacity) : Prop where
  limits_eq : ledger.sequencer.limits = limits
  /-- The pending numbers are those of the waypoints on the route. -/
  routed : ledger.pending.map ledger.current? = ledger.sequencer.route.waypoints.map some
  /-- Every waypoint that was not retracted has left or is pending, in the order of acceptance. -/
  numbered : ledger.left ++ ledger.pending =
    (List.range ledger.accepted.length).filter (· ∉ ledger.retracted)
  retracted_lt : ∀ number ∈ ledger.retracted, number < ledger.accepted.length
  increasing : ledger.firedNumbers.Pairwise (· < ·)
  fired_le : ∀ number ∈ ledger.firedNumbers, ∀ waiting ∈ ledger.pending, number ≤ waiting
  /-- An announcement is that of the waypoint, at its position. -/
  genuine : ∀ firing ∈ ledger.fired, ∃ waypoint,
    ledger.accepted[firing.number]? = some waypoint ∧
      waypoint.announcement? = some firing.announcement ∧
      firing.announcement.position = firing.position

section Kept

variable {ledger} {limits : Kinematics}

theorem Kept.lt_of_pending (kept : ledger.Kept limits) {number : Nat}
    (pending : number ∈ ledger.pending) :
    number < ledger.accepted.length ∧ number ∉ ledger.retracted := by
  have member : number ∈ ledger.left ++ ledger.pending := List.mem_append_right _ pending
  rw [kept.numbered, List.mem_filter, List.mem_range] at member
  exact ⟨member.1, of_decide_eq_true member.2⟩

theorem Kept.pairwise (kept : ledger.Kept limits) :
    (ledger.left ++ ledger.pending).Pairwise (· < ·) := by
  rw [kept.numbered]
  exact List.pairwise_lt_range.filter _

theorem Kept.pending_pairwise (kept : ledger.Kept limits) : ledger.pending.Pairwise (· < ·) :=
  (List.pairwise_append.mp kept.pairwise).2.1

theorem Kept.fired_lt (kept : ledger.Kept limits) {number : Nat}
    (fired : number ∈ ledger.firedNumbers) : number < ledger.accepted.length := by
  obtain ⟨firing, member, rfl⟩ := List.mem_map.mp fired
  obtain ⟨waypoint, known, -⟩ := kept.genuine firing member
  exact (List.getElem?_eq_some_iff.mp known).1

theorem Kept.length_pending (kept : ledger.Kept limits) :
    ledger.pending.length = ledger.sequencer.pending := by
  have routed := congrArg List.length kept.routed
  rw [List.length_map, List.length_map] at routed
  exact routed

theorem Kept.congr (kept : ledger.Kept limits) {sequencer : Sequencer capacity}
    (sameLimits : sequencer.limits = ledger.sequencer.limits)
    (sameRoute : sequencer.route = ledger.sequencer.route) :
    Kept limits { ledger with sequencer } := by
  refine ⟨sameLimits.trans kept.limits_eq, ?_, kept.numbered, kept.retracted_lt, kept.increasing,
    kept.fired_le, kept.genuine⟩
  rw [sameRoute]
  exact kept.routed

/-- Waypoints that leave the route at its front leave the account of those that are pending. -/
theorem Kept.leave (kept : ledger.Kept limits) {sequencer : Sequencer capacity} {count : Nat}
    (sameLimits : sequencer.limits = ledger.sequencer.limits)
    (left : sequencer.route.waypoints = ledger.sequencer.route.waypoints.drop count) :
    Kept limits { ledger with
      sequencer
      pending := ledger.pending.drop count
      left := ledger.left ++ ledger.pending.take count } := by
  refine ⟨sameLimits.trans kept.limits_eq, ?_, ?_, kept.retracted_lt, kept.increasing, ?_,
    kept.genuine⟩
  · have routed := congrArg (List.drop count) kept.routed
    rw [← List.map_drop, ← List.map_drop] at routed
    rw [left]
    exact routed
  · rw [List.append_assoc, List.take_append_drop]
    exact kept.numbered
  · intro number fired waiting pending
    exact kept.fired_le number fired waiting (List.mem_of_mem_drop pending)

/-- The head of the route is the first pending waypoint; if it still announces, its arrival was not
announced before, nor that of a later one. -/
theorem Kept.first_of_announced (kept : ledger.Kept limits) {number : Nat} {later : List Nat}
    (pending : ledger.pending = number :: later) {head : Waypoint} {rest : List Waypoint}
    (route : ledger.sequencer.route.waypoints = head :: rest) {announcement : Announcement}
    (announced : head.announcement? = some announcement) :
    ledger.accepted[number]? = some head ∧ ∀ earlier ∈ ledger.firedNumbers, earlier < number := by
  have routed := kept.routed
  rw [pending, route, List.map_cons, List.map_cons, List.cons.injEq] at routed
  obtain ⟨first, -⟩ := routed
  -- The route would have the waypoint silenced if its arrival had been announced.
  have fresh : number ∉ ledger.firedNumbers := by
    intro fired
    rw [current?, Option.map_eq_some_iff] at first
    obtain ⟨waypoint, -, same⟩ := first
    rw [if_pos fired] at same
    rw [← same] at announced
    cases announced
  refine ⟨?_, ?_⟩
  · simp only [current?, fresh, if_false, Option.map_id'] at first
    exact first
  · intro earlier fired
    have le := kept.fired_le earlier fired number (pending ▸ .head _)
    have ne : earlier ≠ number := fun same => fresh (same ▸ fired)
    omega

theorem Kept.fire (kept : ledger.Kept limits) {number : Nat} {later : List Nat}
    (pending : ledger.pending = number :: later) {head : Waypoint} {rest : List Waypoint}
    (route : ledger.sequencer.route.waypoints = head :: rest) {announcement : Announcement}
    (announced : head.announcement? = some announcement) :
    Kept limits { ledger with
      sequencer := { ledger.sequencer with route := ledger.sequencer.route.silenceHead }
      fired := ledger.fired ++ [⟨number, announcement, head.position⟩] } := by
  obtain ⟨known, fired_lt⟩ := kept.first_of_announced pending route announced
  have routed := kept.routed
  have sorted := kept.pending_pairwise
  rw [pending, route, List.map_cons, List.map_cons, List.cons.injEq] at routed
  rw [pending, List.pairwise_cons] at sorted
  refine ⟨kept.limits_eq, ?_, kept.numbered, kept.retracted_lt, ?_, ?_, ?_⟩
  · rw [pending, ledger.sequencer.route.silenceHead_of_cons route, List.map_cons, List.map_cons]
    congr 1
    · simp [current?, firedNumbers, known]
    · rw [← routed.2]
      apply List.map_congr_left
      intro waiting member
      have apart : waiting ≠ number := Nat.ne_of_gt (sorted.1 waiting member)
      simp [current?, firedNumbers, apart]
  · simp only [firedNumbers, List.map_append, List.map_cons, List.map_nil]
    refine List.pairwise_append.mpr ⟨kept.increasing, List.pairwise_singleton _ _, ?_⟩
    intro earlier fired last member
    rw [List.mem_singleton.mp member]
    exact fired_lt earlier fired
  · intro earlier fired waiting member
    simp only [firedNumbers, List.map_append, List.map_cons, List.map_nil, List.mem_append,
      List.mem_singleton] at fired
    rcases fired with before | rfl
    · exact kept.fired_le earlier before waiting member
    · change waiting ∈ ledger.pending at member
      rw [pending] at member
      rcases List.mem_cons.mp member with rfl | behind
      · exact Nat.le_refl _
      · exact Nat.le_of_lt (sorted.1 waiting behind)
  · intro firing member
    rcases List.mem_append.mp member with before | here
    · exact kept.genuine firing before
    · rw [List.mem_singleton.mp here]
      refine ⟨head, known, announced, ?_⟩
      rw [Waypoint.announcement?] at announced
      split at announced <;> cases announced
      rfl

theorem Kept.pass (kept : ledger.Kept limits) (cruise : limits.cruiseInterval ≠ .zero) :
    ledger.pass.Kept limits := by
  have timed : ledger.sequencer.limits.cruiseInterval ≠ .zero := by
    rw [kept.limits_eq]
    exact cruise
  have sameLimits := limits_pass timed
  have taken := waypoints_pass timed
  cases announced : ledger.sequencer.pass.announcement? with
  | none =>
    rw [waypoints_noted_of_silent announced] at taken
    have same : ledger.pass = { ledger with
        sequencer := ledger.sequencer.pass.sequencer
        pending := ledger.pending.drop
          (ledger.sequencer.pending - ledger.sequencer.pass.sequencer.pending)
        left := ledger.left ++ ledger.pending.take
          (ledger.sequencer.pending - ledger.sequencer.pass.sequencer.pending) } := by
      simp only [Ledger.pass, announced, List.append_nil]
    rw [same]
    exact kept.leave sameLimits taken
  | some announcement =>
    rw [announcement?_pass, arrival?, route_completeStep] at announced
    split at announced
    · next arrives =>
      cases route : ledger.sequencer.route.waypoints with
      | nil => simp [Route.announcement?, Route.head?, route] at announced
      | cons head rest =>
        rw [ledger.sequencer.route.announcement?_of_cons route] at announced
        have there := (arrives_iff route).mp arrives
        cases pending : ledger.pending with
        | nil =>
          have routed := kept.routed
          rw [pending, route] at routed
          cases routed
        | cons number later =>
          rw [noted, if_pos arrives] at taken
          have moved := (kept.fire pending route announced).leave sameLimits taken
          have fires : ledger.sequencer.pass.announcement? = some announcement := by
            rw [announcement?_pass, arrival?, if_pos arrives, route_completeStep,
              ledger.sequencer.route.announcement?_of_cons route, announced]
          have same : ledger.pass.fired =
              ledger.fired ++ [⟨number, announcement, head.position⟩] := by
            simp only [Ledger.pass, fires, pending, there]
          rw [← same] at moved
          exact moved
    · cases announced

theorem Kept.opened : (opened limits : Ledger capacity).Kept limits where
  limits_eq := rfl
  routed := rfl
  numbered := rfl
  retracted_lt := by simp [Ledger.opened]
  increasing := List.Pairwise.nil
  fired_le := by simp [Ledger.opened, firedNumbers]
  genuine := by simp [Ledger.opened]

/-- A waypoint that joins the route gets a number that was not given before. -/
theorem Kept.accept (kept : ledger.Kept limits) {waypoint : Waypoint} {route : Route capacity}
    (longer : route.waypoints = ledger.sequencer.route.waypoints ++ [waypoint]) :
    Kept limits { ledger with
      sequencer := { ledger.sequencer with route }
      accepted := ledger.accepted ++ [waypoint]
      pending := ledger.pending ++ [ledger.accepted.length] } := by
  have unretracted : ledger.accepted.length ∉ ledger.retracted :=
    fun member => Nat.lt_irrefl _ (kept.retracted_lt _ member)
  have unfired : ledger.accepted.length ∉ ledger.firedNumbers :=
    fun member => Nat.lt_irrefl _ (kept.fired_lt member)
  refine ⟨kept.limits_eq, ?_, ?_, ?_, kept.increasing, ?_, ?_⟩
  · rw [longer, List.map_append, List.map_append, ← kept.routed]
    congr 1
    · apply List.map_congr_left
      intro number pending
      simp only [current?, firedNumbers]
      rw [List.getElem?_append_left (kept.lt_of_pending pending).1]
      rfl
    · simp only [List.map_cons, List.map_nil, current?, List.getElem?_concat_length,
        Option.map_some]
      congr 2
      exact if_neg unfired
  · rw [← List.append_assoc, kept.numbered, List.length_append, List.length_singleton,
      List.range_succ, List.filter_append]
    simp [unretracted]
  · intro number member
    rw [List.length_append]
    exact Nat.lt_add_right _ (kept.retracted_lt number member)
  · intro number fired waiting pending
    rcases List.mem_append.mp pending with before | new
    · exact kept.fired_le number fired waiting before
    · rw [List.mem_singleton.mp new]
      exact Nat.le_of_lt (kept.fired_lt fired)
  · intro firing member
    obtain ⟨accepted, known, genuine⟩ := kept.genuine firing member
    refine ⟨accepted, ?_, genuine⟩
    rw [List.getElem?_append_left (List.getElem?_eq_some_iff.mp known).1]
    exact known

/-- Waypoints that are taken back at the end of the route stay out of the account for good. -/
theorem Kept.retract (kept : ledger.Kept limits) {route : Route capacity} {stay gone : List Nat}
    (parts : ledger.pending = stay ++ gone)
    (shorter : route.waypoints = ledger.sequencer.route.waypoints.take stay.length) :
    Kept limits { ledger with
      sequencer := { ledger.sequencer with route }
      pending := stay
      retracted := ledger.retracted ++ gone } := by
  refine ⟨kept.limits_eq, ?_, ?_, ?_, kept.increasing, ?_, kept.genuine⟩
  · have routed := congrArg (List.take stay.length) kept.routed
    rw [parts, List.map_append, ← List.map_take] at routed
    rw [List.take_left' (List.length_map _)] at routed
    rw [shorter]
    exact routed
  · -- The numbers that go are above all that stay, so filtering them out leaves those as they are.
    have sorted := kept.pairwise
    have numbered := congrArg (List.filter (· ∉ gone)) kept.numbered
    rw [parts, ← List.append_assoc] at sorted numbered
    obtain ⟨-, -, below⟩ := List.pairwise_append.mp sorted
    rw [List.filter_append, List.filter_filter] at numbered
    have staying : (ledger.left ++ stay).filter (· ∉ gone) = ledger.left ++ stay := by
      apply List.filter_eq_self.mpr
      intro number member
      rw [decide_eq_true_iff]
      exact fun same => Nat.lt_irrefl _ (below number member number same)
    have going : gone.filter (· ∉ gone) = [] := by simp
    rw [staying, going, List.append_nil] at numbered
    rw [numbered]
    apply List.filter_congr
    intro number _
    simp [not_or, and_comm]
  · intro number member
    rcases List.mem_append.mp member with before | new
    · exact kept.retracted_lt number before
    · exact (kept.lt_of_pending (parts ▸ List.mem_append_right _ new)).1
  · intro number fired waiting pending
    exact kept.fired_le number fired waiting (parts ▸ List.mem_append_left _ pending)

end Kept

/-! ## Advances -/

/-- The passes from a ledger lead to another, where one settles. -/
inductive Advances : Ledger capacity → Ledger capacity → Prop
  | done {ledger : Ledger capacity} (settled : ledger.sequencer.pass.isSettled = true) :
      Advances ledger ledger.pass
  | again {ledger final : Ledger capacity} (unsettled : ledger.sequencer.pass.isSettled = false)
      (rest : Advances ledger.pass final) : Advances ledger final

section Advances

variable {ledger} {final : Ledger capacity} {limits : Kinematics}

theorem advances_advanceWithin {passes : Nat}
    (cruise : ledger.sequencer.limits.cruiseInterval ≠ .zero)
    (enough : ledger.sequencer.unsettledPasses < passes) :
    Advances ledger (advanceWithin passes ledger) := by
  induction passes generalizing ledger with
  | zero => exact absurd enough (Nat.not_lt_zero _)
  | succ passes ih =>
    rw [advanceWithin]
    cases settled : ledger.sequencer.pass.isSettled with
    | true => exact .done settled
    | false =>
      have fewer := unsettledPasses_pass_lt cruise settled
      exact .again settled (ih (cruise_pass cruise) (Nat.lt_of_lt_of_le fewer (by omega)))

theorem advances_advance (cruise : ledger.sequencer.limits.cruiseInterval ≠ .zero) :
    Advances ledger ledger.advance := by
  apply advances_advanceWithin cruise
  rw [unsettledPasses]
  split <;> omega

theorem Advances.kept (advances : Advances ledger final) (kept : ledger.Kept limits)
    (cruise : limits.cruiseInterval ≠ .zero) : final.Kept limits := by
  induction advances with
  | done _ => exact kept.pass cruise
  | again _ _ ih => exact ih (kept.pass cruise)

/-- A pass announces the arrival at a pending waypoint, where the axis stands. -/
theorem fired_pass (kept : ledger.Kept limits) : ∃ new,
    ledger.pass.fired = ledger.fired ++ new ∧
      new.map Firing.announcement = ledger.sequencer.pass.announcement?.toList ∧
      ∀ firing ∈ new, firing.number ∈ ledger.pending ∧
        firing.position = ledger.sequencer.completeStep.position := by
  refine ⟨_, rfl, ?_⟩
  cases announced : ledger.sequencer.pass.announcement? with
  | none => simp
  | some announcement =>
    cases pending : ledger.pending with
    | cons number later => simp
    | nil =>
      -- An announcement needs a waypoint on the route, and the account has its number.
      have idle : ledger.sequencer.route.waypoints = [] := by
        have routed := kept.routed
        rw [pending, List.map_nil] at routed
        exact List.map_eq_nil_iff.mp routed.symm
      rw [pass_of_idle idle] at announced
      cases announced

/-- The new entries of an account are the announcements of the advance. -/
theorem Advances.fired (advances : Advances ledger final) (kept : ledger.Kept limits)
    (cruise : limits.cruiseInterval ≠ .zero) : ∃ new,
    final.fired = ledger.fired ++ new ∧
      Settles ledger.sequencer final.sequencer (new.map Firing.announcement) ∧
      ∀ firing ∈ new, firing.number ∈ ledger.pending ∧
        firing.position = final.sequencer.position := by
  induction advances with
  | @done ledger settled =>
    have timed := kept.limits_eq ▸ cruise
    obtain ⟨new, grown, announced, pending⟩ := fired_pass kept
    refine ⟨new, grown, ?_, ?_⟩
    · rw [announced]
      exact .done settled
    · intro firing member
      obtain ⟨waiting, there⟩ := pending firing member
      exact ⟨waiting, there.trans position_pass.symm⟩
  | @again ledger final unsettled rest ih =>
    have timed := kept.limits_eq ▸ cruise
    obtain ⟨first, grown, announced, pending⟩ := fired_pass kept
    obtain ⟨later, more, settles, waiting⟩ := ih (kept.pass cruise)
    have series := Settles.again unsettled settles
    refine ⟨first ++ later, ?_, ?_, ?_⟩
    · rw [more, grown, List.append_assoc]
    · rw [List.map_append, announced]
      exact series
    · intro firing member
      rcases List.mem_append.mp member with now | after
      · obtain ⟨waits, there⟩ := pending firing now
        exact ⟨waits, there.trans (series.position_eq).symm⟩
      · obtain ⟨waits, there⟩ := waiting firing after
        exact ⟨List.mem_of_mem_drop waits, there⟩

end Advances

/-! ## Runs -/

section Runs

variable {ledger} {limits : Kinematics}

theorem Kept.after (kept : ledger.Kept limits) (cruise : limits.cruiseInterval ≠ .zero)
    (command : Command) : (ledger.after command).Kept limits := by
  cases command with
  | enqueue waypoint =>
    rw [Ledger.after, enqueue]
    cases pushed : ledger.sequencer.route.push waypoint with
    | error refusal => exact kept
    | ok route => exact kept.accept (Route.push_eq_ok_iff _ |>.mp pushed).2.2
  | withdrawLast =>
    apply kept.retract
    · cases last : ledger.pending.getLast? with
      | none => simp [List.getLast?_eq_none_iff.mp last]
      | some number => exact (List.dropLast_append_getLast? number last).symm
    · rw [Route.waypoints_popBack, List.dropLast_eq_take, List.length_dropLast, kept.length_pending]
      rfl
  | clearRoute => exact kept.retract rfl rfl
  | setPosition position => exact kept.congr rfl rfl
  | halt => exact kept.congr rfl rfl
  | advance => exact (advances_advance (kept.limits_eq ▸ cruise)).kept kept cruise

theorem Kept.run (kept : ledger.Kept limits) (cruise : limits.cruiseInterval ≠ .zero)
    (commands : List Command) : (ledger.run commands).Kept limits := by
  induction commands generalizing ledger with
  | nil => exact kept
  | cons command commands ih => exact ih (kept.after cruise command)

theorem Kept.advance (kept : ledger.Kept limits) (cruise : limits.cruiseInterval ≠ .zero) :
    ledger.advance.sequencer = ledger.sequencer.advance.1 ∧ ∃ new,
      ledger.advance.fired = ledger.fired ++ new ∧
        new.map Firing.announcement = ledger.sequencer.advance.2 ∧
        ∀ firing ∈ new, firing.number ∈ ledger.pending ∧
          firing.position = ledger.advance.sequencer.position := by
  have timed := kept.limits_eq ▸ cruise
  obtain ⟨new, grown, settles, waiting⟩ := (advances_advance timed).fired kept cruise
  have same := settles.advance_eq timed
  rw [same]
  exact ⟨rfl, new, grown, rfl, waiting⟩

theorem Kept.sequencer_after (kept : ledger.Kept limits) (cruise : limits.cruiseInterval ≠ .zero)
    (command : Command) :
    (ledger.after command).sequencer = ledger.sequencer.after command := by
  cases command with
  | enqueue waypoint =>
    rw [Ledger.after, Sequencer.after]
    cases ledger.sequencer.enqueue waypoint <;> rfl
  | advance => exact (kept.advance cruise).1
  | withdrawLast | clearRoute | setPosition position | halt => rfl

theorem Kept.sequencer_run (kept : ledger.Kept limits) (cruise : limits.cruiseInterval ≠ .zero)
    (commands : List Command) :
    (ledger.run commands).sequencer = ledger.sequencer.run commands := by
  induction commands generalizing ledger with
  | nil => rfl
  | cons command commands ih =>
    rw [run_cons, ← kept.sequencer_after cruise command]
    exact ih (kept.after cruise command)

theorem fired_after {command : Command} (other : command ≠ .advance) :
    (ledger.after command).fired = ledger.fired := by
  cases command with
  | enqueue waypoint =>
    rw [Ledger.after]
    cases ledger.sequencer.enqueue waypoint <;> rfl
  | advance => exact absurd rfl other
  | withdrawLast | clearRoute | setPosition position | halt => rfl

/-- The announcements are those of some of the accepted waypoints, in the order of acceptance. -/
theorem Kept.announcements_sublist (kept : ledger.Kept limits) :
    (ledger.fired.map Firing.announcement).Sublist
      (ledger.accepted.filterMap Waypoint.announcement?) := by
  let announced (number : Nat) : Option Announcement :=
    ledger.accepted[number]?.bind Waypoint.announcement?
  have fired : ledger.fired.map Firing.announcement = ledger.firedNumbers.filterMap announced := by
    rw [firedNumbers, List.filterMap_map, ← List.filterMap_eq_map]
    apply List.filterMap_congr
    intro firing member
    obtain ⟨waypoint, known, genuine, -⟩ := kept.genuine firing member
    simp [announced, known, genuine]
  have accepted : ledger.accepted.filterMap Waypoint.announcement? =
      (List.range ledger.accepted.length).filterMap announced := by
    have numbered : (List.range ledger.accepted.length).map (ledger.accepted[·]?) =
        ledger.accepted.map some := by
      apply List.ext_getElem
      · simp
      · intro number inRange inAccepted
        rw [List.length_map] at inAccepted
        simp [inAccepted]
    have renumbered := congrArg (List.filterMap (Option.bind · Waypoint.announcement?)) numbered
    rw [List.filterMap_map, List.filterMap_map] at renumbered
    exact renumbered.symm
  have sorted : ledger.firedNumbers.Sublist (List.range ledger.accepted.length) := by
    refine List.sublist_of_subperm_of_pairwise ?_ kept.increasing List.pairwise_lt_range
    apply List.subperm_of_subset kept.increasing.nodup
    intro number fired
    exact List.mem_range.mpr (kept.fired_lt fired)
  rw [fired, accepted]
  exact sorted.filterMap announced

end Runs

/-- **Arrivals in order.** After any run of commands on a new sequencer the announcements belong to
accepted waypoints, in the order of acceptance and once each at most, made where the axis stood at
the waypoint.  Only an advance makes announcements, and only for waypoints that are pending.  The
waypoints that left at the front and the pending ones are those that were accepted and not
retracted. -/
theorem fired_in_order {limits : Kinematics} (cruise : limits.cruiseInterval ≠ .zero)
    (commands : List Command) (command : Command) :
    let ledger : Ledger capacity := (opened limits).run commands
    let later := ledger.after command
    ledger.sequencer = (Sequencer.initial limits).run commands ∧
    ledger.firedNumbers.Pairwise (· < ·) ∧
    (∀ firing ∈ ledger.fired, ∃ waypoint, ledger.accepted[firing.number]? = some waypoint ∧
      waypoint.announcement? = some firing.announcement ∧
      firing.announcement.position = firing.position) ∧
    (ledger.fired.map Firing.announcement).Sublist
      (ledger.accepted.filterMap Waypoint.announcement?) ∧
    (∃ new, later.fired = ledger.fired ++ new ∧
      new.map Firing.announcement =
        (if command = .advance then ledger.sequencer.advance.2 else []) ∧
      ∀ firing ∈ new, firing.number ∈ ledger.pending ∧ firing.number ∉ ledger.retracted ∧
        firing.position = later.sequencer.position) ∧
    ledger.left ++ ledger.pending =
      (List.range ledger.accepted.length).filter (· ∉ ledger.retracted) ∧
    ledger.pending.map ledger.current? = ledger.sequencer.route.waypoints.map some := by
  intro ledger later
  have start : (opened limits : Ledger capacity).Kept limits := .opened
  have kept : ledger.Kept limits := start.run cruise commands
  refine ⟨start.sequencer_run cruise commands, kept.increasing, kept.genuine,
    kept.announcements_sublist, ?_, kept.numbered, kept.routed⟩
  by_cases advance : command = .advance
  · subst advance
    obtain ⟨-, new, grown, announced, waiting⟩ := kept.advance cruise
    refine ⟨new, grown, announced, ?_⟩
    intro firing member
    obtain ⟨waits, there⟩ := waiting firing member
    exact ⟨waits, (kept.lt_of_pending waits).2, there⟩
  · refine ⟨[], ?_, ?_, ?_⟩
    · rw [List.append_nil]
      exact fired_after advance
    · rw [if_neg advance]
      rfl
    · simp

/-- A key that was taken back or has left may be accepted again, under a new number. -/
theorem fired_in_order_of_reused_keys :
    let commands : List Command :=
      [.enqueue ⟨0, 0, true⟩, .enqueue ⟨1, .clamp 3, true⟩, .enqueue ⟨2, .clamp 9, true⟩,
        .withdrawLast, .advance, .enqueue ⟨0, .clamp 5, true⟩, .enqueue ⟨2, .clamp 7, true⟩]
    let ledger : Ledger 8 := (opened .slow).run commands
    Kinematics.slow.cruiseInterval ≠ .zero ∧
      (ledger.firedNumbers = [0] ∧ ledger.left = [0] ∧ ledger.pending = [1, 3, 4] ∧
        ledger.retracted = [2]) ∧
      (ledger.fired.map Firing.announcement).Sublist
        (ledger.accepted.filterMap Waypoint.announcement?) ∧
      ledger.left ++ ledger.pending =
        (List.range ledger.accepted.length).filter (· ∉ ledger.retracted) := by
  intro commands ledger
  have cruise : Kinematics.slow.cruiseInterval ≠ .zero := by decide +kernel
  have ordered := @fired_in_order 8 _ cruise commands .advance
  obtain ⟨-, -, -, sublist, -, numbered, -⟩ := ordered
  exact ⟨cruise, by decide +kernel, sublist, numbered⟩

end Ledger

end LinearAxis
