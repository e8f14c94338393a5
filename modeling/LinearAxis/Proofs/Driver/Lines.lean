import LinearAxis.Proofs.Driver.Call

/-!
# The lines in the course of time

A history grows at its front.  `LinearAxis.History.Grown` says of every event gained since some
moment that it was allowed when it happened, in view of all that was remembered by then.  What a
driver remembers of its direction line stays true whichever writes are refused
(`LinearAxis.Driver.ShowsDirection`).
-/

namespace LinearAxis

namespace History

/-- A history that has gained events since an earlier one, each of them allowed when it happened. -/
inductive Grown (allowed : Event → List Event → Prop) (begun : List Event) : List Event → Prop
  | refl : Grown allowed begun begun
  | gain {event : Event} {history : List Event} (grown : Grown allowed begun history)
      (proper : allowed event history) : Grown allowed begun (event :: history)

section Grown

variable {allowed : Event → List Event → Prop} {begun history : List Event}

theorem Grown.suffix (grown : Grown allowed begun history) : begun <:+ history := by
  induction grown with
  | refl => exact List.suffix_refl _
  | gain _ _ ih => exact ih.trans (List.suffix_cons _ _)

theorem Grown.trans {middle : List Event} (first : Grown allowed begun middle)
    (second : Grown allowed middle history) : Grown allowed begun history := by
  induction second with
  | refl => exact first
  | gain _ proper ih => exact ih.gain proper

theorem Grown.weaken {allowed' : Event → List Event → Prop} (grown : Grown allowed begun history)
    (weaker : ∀ event earlier, begun <:+ earlier → event :: earlier <:+ history →
      allowed event earlier → allowed' event earlier) : Grown allowed' begun history := by
  induction grown with
  | refl => exact .refl
  | gain grown proper ih =>
    have before := ih fun event earlier since gained =>
      weaker event earlier since (gained.trans (List.suffix_cons _ _))
    exact before.gain (weaker _ _ grown.suffix (List.suffix_refl _) proper)

/-- Every event since the beginning was allowed when it happened. -/
theorem Grown.allowed_of_suffix (grown : Grown allowed begun history) {event : Event}
    {earlier : List Event} (gained : event :: earlier <:+ history) (since : begun <:+ earlier) :
    allowed event earlier := by
  induction grown with
  | refl =>
    have shorter := gained.length_le
    have longer := since.length_le
    rw [List.length_cons] at shorter
    omega
  | gain _ proper ih =>
    rcases List.suffix_cons_iff.mp gained with same | further
    · obtain ⟨rfl, rfl⟩ := List.cons.inj same
      exact proper
    · exact ih further

/-- What every event since the beginning satisfied, all the events gained since then satisfy. -/
theorem Grown.exists_append {proper : Event → Prop}
    (grown : Grown (fun event _ => proper event) begun history) :
    ∃ during, history = during ++ begun ∧ ∀ event ∈ during, proper event := by
  induction grown with
  | refl => exact ⟨[], rfl, fun _ none => absurd none List.not_mem_nil⟩
  | gain _ held ih =>
    obtain ⟨during, rfl, all⟩ := ih
    exact ⟨_ :: during, rfl, List.forall_mem_cons.mpr ⟨held, all⟩⟩

end Grown

end History

namespace Driver

open History

variable {stage : Stage} {capacity : Nat}

/-! ## Gaining events -/

section Grown

variable {allowed : Event → List Event → Prop} {begun : List Event}
  {driver : Driver stage capacity}

theorem grown_driven (grown : Grown allowed begun driver.hardware.history) {line : Line}
    {level : Bool}
    (proper : allowed (.drove line level (driver.accepts line level)) driver.hardware.history) :
    Grown allowed begun (driver.driven line level).hardware.history := by
  cases wired : driver.hardware.channel? line with
  | none =>
    rw [(driver.driven_of_unwired wired level).1]
    exact grown
  | some channel =>
    rw [driver.history_driven (by rw [wired]; rfl)]
    exact grown.gain proper

theorem grown_requested (grown : Grown allowed begun driver.hardware.history)
    {request : AlarmRequest}
    (proper : ∀ event, isSilent event = true → allowed event driver.hardware.history) :
    Grown allowed begun (driver.requested request).hardware.history := by
  rcases driver.history_requested request with same | ⟨-, same⟩ <;> rw [same] <;>
    exact grown.gain (proper _ rfl)

theorem grown_announcing (grown : Grown allowed begun driver.hardware.history)
    (proper : ∀ announcement earlier, allowed (.announced announcement) earlier)
    (announcements : List Announcement) :
    Grown allowed begun (driver.announcing announcements).hardware.history := by
  simp only [announcing]
  generalize driver.hardware = hardware at grown ⊢
  induction announcements generalizing hardware with
  | nil => exact grown
  | cons announcement later ih =>
    rw [List.foldl_cons]
    apply ih
    exact grown.gain (proper _ _)

theorem grown_waited {driver : Driver .ready capacity}
    (grown : Grown allowed begun driver.hardware.history)
    (proper : ∀ interval earlier, allowed (.slept interval) earlier) :
    Grown allowed begun driver.waited.hardware.history := by
  simp only [waited, Hardware.wait]
  split
  · exact grown
  · split
    · exact grown.gain (proper _ _)
    · exact grown

theorem level?_driven_of_refused {line other : Line} {level : Bool}
    (refused : driver.accepts other level = false) :
    level? line (driver.driven other level).hardware.history =
      level? line driver.hardware.history := by
  cases wired : driver.hardware.channel? other with
  | none => rw [(driver.driven_of_unwired wired level).1]
  | some channel =>
    rw [driver.history_driven (by rw [wired]; rfl), refused]
    rfl

end Grown

/-! ## The direction line -/

/-- The direction line is at the level of the direction that the driver remembers to show. -/
def ShowsDirection (driver : Driver .ready capacity) : Prop :=
  ∃ direction, driver.shownDirection = some direction ∧
    level? .direction driver.hardware.history = some (driver.directionLevel direction)

section ShowsDirection

variable {driver : Driver .ready capacity}

theorem directionLevel_of_ne {known direction : Direction} (other : known ≠ direction) :
    driver.directionLevel direction = !driver.directionLevel known := by
  unfold directionLevel
  cases known <;> cases direction <;> cases driver.invertDirection <;>
    first | rfl | exact absurd rfl other

theorem ShowsDirection.level_eq (shows : driver.ShowsDirection) {direction : Direction}
    (shown : driver.shownDirection = some direction) :
    level? .direction driver.hardware.history = some (driver.directionLevel direction) := by
  obtain ⟨known, same, level⟩ := shows
  cases Option.some.inj (same.symm.trans shown)
  exact level

/-- Where another direction is to be shown, the line is at the other level. -/
theorem ShowsDirection.level_of_ne (shows : driver.ShowsDirection) {direction : Direction}
    (other : driver.shownDirection ≠ some direction) :
    level? .direction driver.hardware.history = some (!driver.directionLevel direction) := by
  obtain ⟨known, shown, level⟩ := shows
  have apart : known ≠ direction := by
    rintro rfl
    exact other shown
  rw [level, directionLevel_of_ne apart, Bool.not_not]

theorem ShowsDirection.congr (shows : driver.ShowsDirection) {later : Driver .ready capacity}
    (sameShown : later.shownDirection = driver.shownDirection)
    (sameInverted : later.invertDirection = driver.invertDirection)
    (sameLevel : level? .direction later.hardware.history =
      level? .direction driver.hardware.history) : later.ShowsDirection := by
  obtain ⟨known, shown, level⟩ := shows
  refine ⟨known, sameShown.trans shown, ?_⟩
  rw [sameLevel, level, directionLevel, directionLevel, sameInverted]

theorem ShowsDirection.driven (shows : driver.ShowsDirection) {line : Line} {level : Bool}
    (unturned : line ≠ .direction ∨ driver.accepts line level = false) :
    (driver.driven line level).ShowsDirection := by
  refine shows.congr rfl rfl ?_
  rcases unturned with apart | refused
  · exact driver.level?_driven_of_ne apart level
  · exact level?_driven_of_refused refused

theorem ShowsDirection.requested (shows : driver.ShowsDirection) (request : AlarmRequest) :
    (driver.requested request).ShowsDirection :=
  shows.congr rfl rfl (driver.level?_requested request .direction)

theorem ShowsDirection.advanced (shows : driver.ShowsDirection) : driver.advanced.ShowsDirection :=
  shows.congr rfl rfl (driver.read_announcing (level? .direction) (fun _ _ => rfl) _)

theorem showsDirection_turned {direction : Direction}
    (accepted : driver.accepts .direction (driver.directionLevel direction) = true) :
    (driver.turned direction).ShowsDirection :=
  ⟨direction, rfl, level?_driven driver rfl accepted⟩

theorem ShowsDirection.fault (shows : driver.ShowsDirection) : driver.fault.ShowsDirection := by
  refine shows.congr rfl rfl ?_
  rw [hardware_fault]
  exact (level?_driven_of_ne _ (by decide) false).trans (level?_driven_of_ne _ (by decide) false)

end ShowsDirection

end Driver

end LinearAxis
