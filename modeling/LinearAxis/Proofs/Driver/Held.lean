import LinearAxis.Proofs.Driver.Lines
import LinearAxis.Proofs.Driver.Start

/-!
# A step line that is held high

A driver goes by the half of a step that it remembers and never asks for the level of the step line.
A fault makes it forget the half step and lowers the line only as far as the hardware lets it, so
that the line may be left high with no half step remembered: it is held
(`LinearAxis.History.isHeld`).  Nothing lowers a held line before the next step, whose rising edge
then is none, and an axis that rests leaves it high.  Whatever is refused, that is the only way for
either (`LinearAxis.Driver.edge_iff_not_held`).
-/

namespace LinearAxis

namespace History

/-- Whether the step line is held high: it was put high, and since then a low level was refused and
no level accepted. -/
def isHeld : List Event → Bool
  | [] => false
  | .drove .step _ true :: _ => false
  | .drove .step false false :: earlier => level? .step earlier == some true
  | _ :: earlier => isHeld earlier

section IsHeld

variable {event : Event} {earlier : List Event}

theorem isHeld_cons_of_silent (silent : isSilent event = true) :
    isHeld (event :: earlier) = isHeld earlier := by
  cases event with
  | drove line level accepted => cases silent
  | requested | noted | slept | announced => rfl

theorem isHeld_cons_of_ne {line : Line} (apart : line ≠ .step) (level accepted : Bool) :
    isHeld (.drove line level accepted :: earlier) = isHeld earlier := by
  cases line with
  | step => exact absurd rfl apart
  | direction | standby | mode1 | mode2 => rfl

/-- A line that is held is high. -/
theorem level?_of_isHeld {history : List Event} (held : isHeld history = true) :
    level? .step history = some true := by
  fun_induction isHeld history with
  | case1 | case2 => cases held
  | case3 earlier => exact beq_iff_eq.mp held
  | case4 event earlier notAccepted notLow ih =>
    cases event with
    | drove line level accepted =>
      by_cases step : line = .step
      · subst step
        cases accepted with
        | true => exact absurd rfl (notAccepted level)
        | false => exact ih held
      · rw [level?_cons_of_ne step]
        exact ih held
    | requested | noted | slept | announced => exact ih held

end IsHeld

/-- The step line is put high from low, unless it is held. -/
def RisesUnlessHeld : Event → List Event → Prop
  | .drove .step true true, earlier => level? .step earlier = some (isHeld earlier)
  | _, _ => True

theorem risesUnlessHeld_of_silent {event : Event} (silent : isSilent event = true)
    (earlier : List Event) : RisesUnlessHeld event earlier := by
  cases event with
  | drove line level accepted => cases silent
  | requested | noted | slept | announced => trivial

end History

namespace Driver

open History

variable {capacity : Nat}

/-- The step line is high exactly while a step is half done or the line is held, and since some
moment it was put high from low unless it was held. -/
structure Watched (begun : List Event) (driver : Driver .ready capacity) : Prop where
  level_eq : level? .step driver.hardware.history =
    some (driver.halfStep || isHeld driver.hardware.history)
  grown : Grown RisesUnlessHeld begun driver.hardware.history

/-- An axis at rest has its chip in standby and its step line low, unless that is held. -/
def RestsLow (driver : Driver .ready capacity) : Prop :=
  driver.sequencer.interval = .zero →
    level? .standby driver.hardware.history = some false ∧
      level? .step driver.hardware.history = some (isHeld driver.hardware.history)

section Watched

variable {begun : List Event} {driver : Driver .ready capacity}

/-! ## Writes and requests -/

theorem Watched.congr {later : Driver .ready capacity} (watched : driver.Watched begun)
    (sameHalf : later.halfStep = driver.halfStep)
    (sameLevel : level? .step later.hardware.history = level? .step driver.hardware.history)
    (sameHeld : isHeld later.hardware.history = isHeld driver.hardware.history)
    (grown : Grown RisesUnlessHeld begun later.hardware.history) : later.Watched begun where
  level_eq := by rw [sameLevel, sameHalf, sameHeld, watched.level_eq]
  grown := grown

theorem Watched.driven_of_ne (watched : driver.Watched begun) (line : Line) (apart : line ≠ .step)
    (level : Bool) : (driver.driven line level).Watched begun := by
  have sameLevel := driver.level?_driven_of_ne apart level
  refine watched.congr rfl sameLevel ?_ (grown_driven watched.grown ?_)
  · exact driver.read_driven isHeld fun _ _ => isHeld_cons_of_ne apart _ _
  · cases line with
    | step => exact absurd rfl apart
    | direction | standby | mode1 | mode2 => trivial

theorem Watched.requested (watched : driver.Watched begun) (request : AlarmRequest) :
    (driver.requested request).Watched begun := by
  refine watched.congr rfl (driver.level?_requested request .step) ?_
    (grown_requested watched.grown fun _ silent => risesUnlessHeld_of_silent silent _)
  exact driver.read_requested isHeld fun _ _ silent => isHeld_cons_of_silent silent

theorem Watched.advanced (watched : driver.Watched begun) : driver.advanced.Watched begun := by
  refine watched.congr rfl ?_ ?_ (grown_announcing watched.grown (fun _ _ => trivial) _)
  · exact driver.read_announcing (level? .step) (fun _ _ => rfl) _
  · exact driver.read_announcing isHeld (fun _ _ => rfl) _

theorem Watched.waited (watched : driver.Watched begun) : driver.waited.Watched begun := by
  refine watched.congr rfl ?_ ?_ (grown_waited watched.grown fun _ _ => trivial)
  · exact read_waited (level? .step) fun _ _ => rfl
  · exact read_waited isHeld fun _ _ => rfl

theorem Watched.turned (watched : driver.Watched begun) (direction : Direction) :
    (driver.turned direction).Watched begun :=
  have driven := watched.driven_of_ne .direction (by decide) (driver.directionLevel direction)
  driven.congr rfl rfl rfl driven.grown

/-- A low level on the step line is taken, or refused by a line that is high and held from then on.
Either way the half step may be forgotten. -/
theorem Watched.lowered (watched : driver.Watched begun) :
    ((driver.driven .step false).halved false).Watched begun where
  level_eq := by
    change level? .step (driver.driven .step false).hardware.history =
      some (false || isHeld (driver.driven .step false).hardware.history)
    rw [driver.history_driven rfl, Bool.false_or]
    cases driver.accepts .step false with
    | true => rfl
    | false =>
      change level? .step driver.hardware.history =
        some (level? .step driver.hardware.history == some true)
      rw [watched.level_eq]
      cases driver.halfStep || isHeld driver.hardware.history <;> rfl
  grown := grown_driven watched.grown trivial

theorem Watched.driven_of_refused (watched : driver.Watched begun) {level : Bool}
    (refused : driver.accepts .step level = false) :
    (driver.driven .step level).Watched begun where
  level_eq := by
    rw [level?_driven_of_refused refused, driver.history_driven rfl, refused, watched.level_eq]
    change _ = some (driver.halfStep || _)
    cases level with
    | true => rfl
    | false =>
      change _ = some (driver.halfStep || (level? .step driver.hardware.history == some true))
      rw [watched.level_eq]
      cases driver.halfStep <;> cases isHeld driver.hardware.history <;> rfl
  grown := by
    refine grown_driven watched.grown ?_
    rw [refused]
    cases level <;> trivial

/-- A high level that the step line takes begins a step. -/
theorem Watched.raised (watched : driver.Watched begun) (low : driver.halfStep = false)
    (accepted : driver.accepts .step true = true) :
    ((driver.driven .step true).halved true).Watched begun where
  level_eq := driver.level?_driven rfl accepted
  grown := by
    refine grown_driven watched.grown ?_
    rw [accepted]
    change level? .step driver.hardware.history = some (isHeld driver.hardware.history)
    rw [watched.level_eq, low, Bool.false_or]

theorem Watched.fault (watched : driver.Watched begun) : driver.fault.Watched begun :=
  have driven := watched.lowered.driven_of_ne .standby (by decide) false
  driven.congr rfl rfl rfl driven.grown

/-! ## Ticks -/

theorem Watched.toggleStep (watched : driver.Watched begun) :
    Ensures toggleStep driver (fun _ later => later.Watched begun)
      fun _ later => later.Watched begun := by
  apply ensures_toggleStep
  · intro _
    refine ensures_bind (ensures_drive (fun _ => ?_) watched.driven_of_refused)
    refine ensures_bind (ensures_modify ?_)
    have fallen := watched.lowered
    apply ensures_showDirection
    · intro _
      exact fallen
    · intro _ _
      exact fallen.turned _
    · intro _ _
      exact fallen.driven_of_ne .direction (by decide) _
  · intro low
    apply ensures_raise fun later => later.Watched begun ∧ later.halfStep = false
    · exact fun _ => ⟨watched.advanced, low⟩
    · exact fun _ _ => ⟨watched.advanced.turned _, low⟩
    · exact fun _ _ => watched.advanced.driven_of_ne .direction (by decide) _
    · exact fun _ ⟨watched, low⟩ accepted => watched.raised low accepted
    · exact fun _ ⟨watched, _⟩ => watched.driven_of_refused

theorem Watched.work (watched : driver.Watched begun) :
    Ensures work driver (fun _ later => later.Watched begun) fun _ later => later.Watched begun :=
  ensures_work (fun _ => watched.advanced) fun _ => watched.toggleStep

/-- Rescheduling lowers the lines of an axis at rest, but not a step line that is held. -/
theorem Watched.reschedule (watched : driver.Watched begun) :
    Ensures reschedule driver (fun _ later => later.Watched begun ∧ later.RestsLow)
      fun _ later => later.Watched begun := by
  apply ensures_reschedule
  · intro _
    apply ensures_rest fun later => later.Watched begun ∧ later.halfStep = false
    · exact fun low => ⟨watched, low⟩
    · exact fun _ _ => ⟨watched.lowered, rfl⟩
    · exact fun _ => watched.driven_of_refused
    · intro later _ ⟨watched, low⟩ accepted
      have asleep := watched.driven_of_ne .standby (by decide) false
      refine ⟨asleep, fun _ => ⟨later.level?_driven rfl accepted, ?_⟩⟩
      have level := asleep.level_eq
      change _ = some (later.halfStep || _) at level
      rw [level, low, Bool.false_or]
    · exact fun _ _ ⟨watched, _⟩ _ => watched.driven_of_ne .standby (by decide) false
  · intro moving
    have awake := watched.driven_of_ne .standby (by decide) true
    have requested := awake.requested (.arm driver.sequencer.interval)
    refine ensures_bind (ensures_drive (fun _ => ?_) fun _ => awake)
    exact ensures_request (fun _ => ⟨requested, fun resting => absurd resting moving⟩)
      fun _ => requested

theorem Watched.tick (watched : driver.Watched begun) :
    Ensures tick driver (fun _ later => later.Watched begun ∧ later.RestsLow)
      fun _ later => later.Watched begun :=
  ensures_tick_of_parts watched.work (fun _ worked => worked.reschedule)
    fun _ _ failed => failed.fault

end Watched

/-! ## Runs -/

theorem Started.watched {limits : Kinematics} {driver : Driver .ready capacity}
    (started : driver.Started limits) : driver.Watched driver.hardware.history := by
  obtain ⟨unconfigured, -, outcome⟩ := started
  have spec := unconfigured.start_spec
  rw [outcome] at spec
  obtain ⟨-, half, -, low, -⟩ := spec
  have free : isHeld driver.hardware.history = false := by
    rw [← Bool.not_eq_true]
    intro held
    rw [level?_of_isHeld held] at low
    cases low
  exact ⟨by rw [half, free]; exact low, .refl⟩

/-- After a run, whatever was refused in it, the step line is high exactly while a step is half done
or the line is held, and every tick that was done and left the axis at rest left its lines low but
for a step line that is held. -/
theorem Watched.run {driver : Driver .ready capacity}
    (watched : driver.Watched driver.hardware.history) (calls : List Call) :
    (driver.run calls).Watched driver.hardware.history ∧
      ∀ ticking ∈ driver.ticks calls, ticking.fails Driver.tick = false →
        (ticking.afterwards Driver.tick).RestsLow := by
  refine run_of_moves (fun reached ticked => reached.Watched driver.hardware.history ∧
    ∀ ticking ∈ ticked, ticking.fails Driver.tick = false →
      (ticking.afterwards Driver.tick).RestsLow) ?_ ?_ ?_ ?_ ?_
    ⟨watched, fun _ none => absurd none List.not_mem_nil⟩ calls
  · rintro reached ticked route ⟨watched, rests⟩
    exact ⟨watched.congr rfl rfl rfl watched.grown, rests⟩
  · rintro reached ticked position ⟨watched, rests⟩
    exact ⟨watched.congr rfl rfl rfl watched.grown, rests⟩
  · rintro reached ticked ⟨watched, rests⟩
    exact ⟨watched.requested .now, rests⟩
  · rintro reached ticked ⟨watched, rests⟩
    exact ⟨watched.waited, rests⟩
  · rintro reached ticked ⟨watched, rests⟩
    have ensures := watched.tick
    constructor
    · exact (ensures.weaken (fun _ _ kept => kept.1) fun _ _ kept => kept).afterwards
    · intro ticking member done
      rcases List.mem_append.mp member with before | here
      · exact rests ticking before done
      · cases List.mem_singleton.mp here
        exact (ensures.afterwards_of_done done).2

/-- **Edges and lines at rest.** Whichever writes and requests are refused, a step line that is put
high is found low exactly if it is not held, and after a tick that is done and leaves the axis at
rest the chip is in standby and the step line is low exactly if it is not held. -/
theorem edge_iff_not_held {limits : Kinematics} {driver : Driver .ready capacity}
    (started : driver.Started limits) (calls : List Call) :
    (∀ earlier, .drove .step true true :: earlier <:+ (driver.run calls).hardware.history →
      driver.hardware.history <:+ earlier →
        (level? .step earlier = some false ↔ isHeld earlier = false)) ∧
      ∀ ticking ∈ driver.ticks calls, ticking.fails tick = false →
        let rested := ticking.afterwards tick
        rested.sequencer.interval = .zero →
          level? .standby rested.hardware.history = some false ∧
            (level? .step rested.hardware.history = some false ↔
              isHeld rested.hardware.history = false) := by
  obtain ⟨watched, rests⟩ := started.watched.run calls
  constructor
  · intro earlier raised since
    have level : level? .step earlier = some (isHeld earlier) :=
      watched.grown.allowed_of_suffix raised since
    rw [level, Option.some.injEq]
  · intro ticking member done rested resting
    obtain ⟨standby, level⟩ := rests ticking member done resting
    rw [level, Option.some.injEq]
    exact ⟨standby, Iff.rfl⟩

/-- A run that was resumed after one falling edge had been refused, but not the one of the fault,
makes its last step from low. -/
theorem edge_iff_not_held_on_bench :
    let driver := benchStarted { refuses := fun call => call == 2 }
    let calls : List Call :=
      [.enqueue ⟨0, .clamp 5, true⟩, .runUntilIdle 20, .resume, .runUntilIdle 20]
    let earlier := ((driver.run calls).hardware.history.dropWhile
      fun event => event != .drove .step true true).tail
    refusals (driver.run calls).hardware.history = 1 ∧
      .drove .step true true :: earlier <:+ (driver.run calls).hardware.history ∧
      level? .step earlier = some false := by
  intro driver calls earlier
  have started : driver.Started .slow :=
    ⟨bench { refuses := fun call => call == 2 }, ⟨0, rfl⟩, rfl⟩
  have raised : .drove .step true true :: earlier <:+ (driver.run calls).hardware.history := by
    decide +kernel
  have since : driver.hardware.history <:+ earlier := by decide +kernel
  have free : isHeld earlier = false := by decide +kernel
  exact ⟨by decide +kernel, raised,
    ((edge_iff_not_held started calls).1 earlier raised since).mpr free⟩

/-- Where the fault is refused as well, the line is held: the first step after it is put high from
high, and an axis that is told to rest leaves the line high. -/
theorem edge_lost_on_held_line :
    let held := (benchStarted { refuses := fun call => call == 2 || call == 3 }).run
      [.enqueue ⟨0, .clamp 5, true⟩, .tick, .tick, .tick]
    let resumed := held.run [.resume, .tick, .tick]
    let earlier := (resumed.hardware.history.dropWhile
      fun event => event != .drove .step true true).tail
    let rested := held.run [.clearRoute, .tick]
    (.drove .step true true :: earlier <:+ resumed.hardware.history ∧
        held.hardware.history <:+ earlier ∧ level? .step earlier = some true) ∧
      (held.run [.clearRoute]).fails tick = false ∧ rested.sequencer.interval = .zero ∧
        level? .standby rested.hardware.history = some false ∧
        level? .step rested.hardware.history = some true := by
  decide +kernel

end Driver

end LinearAxis
