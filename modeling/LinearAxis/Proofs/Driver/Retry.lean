import LinearAxis.Proofs.Driver.Start

/-!
# Starting again

A start that failed can be tried again, any number of times and with the position set in between.
Whatever was refused in the meantime, the start that succeeds leaves the same driver that a first
start would have left (`LinearAxis.Driver.prepare_outcome`).  Nothing that happens on the way from a
kit to there uses the sequencer (`LinearAxis.Driver.started_of_assemble`).
-/

namespace LinearAxis

/-- Something that a caller does with a driver that is to be brought up. -/
inductive Preparation where
  | start
  | setPosition (position : Millimeters)
deriving DecidableEq

/-- A driver that is being brought up: it waits for a start that succeeds, or it has had one. -/
inductive Prepared (capacity : Nat) where
  | waiting (driver : Driver .unconfigured capacity)
  | ready (driver : Driver .ready capacity)

variable {capacity : Nat}

/-- A driver after one more preparation.  Once it is ready it is not started again. -/
def Prepared.after : Prepared capacity → Preparation → Prepared capacity
  | .waiting driver, .start => match driver.start with
    | .ok started => .ready started
    | .error (_, failed) => .waiting failed
  | .ready driver, .start => .ready driver
  | .waiting driver, .setPosition position => .waiting (driver.setPosition position)
  | .ready driver, .setPosition position => .ready (driver.setPosition position)

namespace Driver

open History

/-! ## Preparations -/

/-- An unconfigured driver after a preparation of which only a new position counts. -/
def placedBy (driver : Driver .unconfigured capacity) : Preparation → Driver .unconfigured capacity
  | .start => driver
  | .setPosition position => driver.setPosition position

/-- An unconfigured driver once the positions among some preparations were set. -/
def placed (driver : Driver .unconfigured capacity) (preparations : List Preparation) :
    Driver .unconfigured capacity :=
  preparations.foldl placedBy driver

/-- What some preparations make of an unconfigured driver. -/
def prepare (driver : Driver .unconfigured capacity) (preparations : List Preparation) :
    Prepared capacity :=
  preparations.foldl Prepared.after (.waiting driver)

/-- Two drivers that are ready cannot be told apart by their state, by the levels of their lines or
by what a delay alarm is armed for. -/
structure LooksLike (driver other : Driver .ready capacity) : Prop
    extends driver.Persists other where
  shownDirection_eq : other.shownDirection = driver.shownDirection
  halfStep_eq : other.halfStep = driver.halfStep
  level_eq : ∀ line, driver.wires line = true →
    level? line other.hardware.history = level? line driver.hardware.history
  delay_eq : ∀ alarm alarm', driver.hardware.alarm = .delay alarm →
    other.hardware.alarm = .delay alarm' → alarm' = alarm

section Homed

variable {stage stage' : Stage} {driver twin : Driver .unconfigured capacity}
  {started first : Driver .ready capacity}

theorem Persists.setPosition {driver : Driver stage capacity} {later : Driver stage' capacity}
    (persists : driver.Persists later) (position : Millimeters) :
    (driver.setPosition position).Persists (later.setPosition position) :=
  { persists with
    sequencer_eq := congrArg (Sequencer.setPosition · position) persists.sequencer_eq }

theorem Homed.of_persists (persists : driver.Persists twin) (homed : twin.Homed started) :
    driver.Homed started where
  toPersists := persists.trans homed.toPersists
  shows_forward := homed.shows_forward
  whole := homed.whole
  level_eq line wired := by
    rw [← persists.homeLevel_eq]
    exact homed.level_eq line (by rw [persists.wires_eq]; exact wired)
  unarmed := homed.unarmed

theorem Homed.setPosition (homed : driver.Homed started) (position : Millimeters) :
    (driver.setPosition position).Homed (started.setPosition position) where
  toPersists := homed.toPersists.setPosition position
  shows_forward := homed.shows_forward
  whole := homed.whole
  level_eq := homed.level_eq
  unarmed := homed.unarmed

/-- Axis, wiring and motion of a driver determine all that a start makes of it. -/
theorem Homed.looksLike (homed : driver.Homed started) (again : driver.Homed first) :
    started.LooksLike first where
  toPersists := homed.toPersists.symm.trans again.toPersists
  shownDirection_eq := again.shows_forward.trans homed.shows_forward.symm
  halfStep_eq := again.whole.trans homed.whole.symm
  level_eq line wired := by
    rw [homed.wires_eq] at wired
    rw [again.level_eq line wired, homed.level_eq line wired]
  delay_eq alarm alarm' delay delay' :=
    (again.unarmed alarm' delay').trans (homed.unarmed alarm delay).symm

end Homed

/-! ## All preparations -/

/-- What was prepared stems from a driver: while it waits for a start, axis, wiring and motion are
those of that driver, and once it is ready, that driver has been started. -/
def Yields (driver : Driver .unconfigured capacity) : Prepared capacity → Prop
  | .waiting waiting => driver.Persists waiting
  | .ready ready => driver.Homed ready

theorem Yields.after {driver : Driver .unconfigured capacity} {prepared : Prepared capacity}
    (yields : driver.Yields prepared) (preparation : Preparation) :
    (driver.placedBy preparation).Yields (prepared.after preparation) := by
  cases prepared with
  | waiting waiting =>
    cases preparation with
    | start =>
      simp only [Prepared.after]
      cases outcome : waiting.start with
      | ok started => exact (homed_of_start outcome).of_persists yields
      | error refusal => exact Persists.trans yields (unstarted_of_start outcome).toPersists
    | setPosition position => exact Persists.setPosition yields position
  | ready ready =>
    cases preparation with
    | start => exact yields
    | setPosition position => exact Homed.setPosition yields position

/-- A position that is set moves the driver that was only placed along with the prepared one. -/
theorem Yields.run {driver : Driver .unconfigured capacity} {prepared : Prepared capacity}
    (yields : driver.Yields prepared) (preparations : List Preparation) :
    (driver.placed preparations).Yields (preparations.foldl Prepared.after prepared) := by
  induction preparations generalizing driver prepared with
  | nil => exact yields
  | cons preparation later ih => exact ih (yields.after preparation)

theorem yields_prepare (driver : Driver .unconfigured capacity)
    (preparations : List Preparation) :
    (driver.placed preparations).Yields (driver.prepare preparations) := by
  have unprepared : driver.Yields (.waiting driver) := Persists.refl driver
  exact unprepared.run preparations

theorem IsNew.placed {limits : Kinematics} {driver : Driver .unconfigured capacity}
    (new : driver.IsNew limits) (preparations : List Preparation) :
    (driver.placed preparations).IsNew limits := by
  induction preparations generalizing driver with
  | nil => exact new
  | cons preparation later ih =>
    cases preparation with
    | start => exact ih new
    | setPosition position => exact ih (new.setPosition position)

/-- A driver that was assembled is started from a new one, however often it was placed and a start
failed before. -/
theorem started_of_assemble {kit : Kit} {driver waiting : Driver .unconfigured capacity}
    {started : Driver .ready capacity} (assembled : kit.assemble capacity = .ok driver)
    (preparations : List Preparation) (prepared : driver.prepare preparations = .waiting waiting)
    (outcome : waiting.start = .ok started) :
    ∃ axis, kit.axis = some axis ∧ started.Started (.ofAxis axis) := by
  obtain ⟨axis, chosen, new⟩ := isNew_of_assemble assembled
  have yields := driver.yields_prepare preparations
  rw [prepared] at yields
  exact ⟨axis, chosen, waiting, (new.placed preparations).of_persists yields, outcome⟩

/-- A driver that lacks a mode-select line still waits for its start, and since an earlier time only
the step and direction lines have been written to. -/
def Balks (begun : List Event) : Prepared capacity → Prop
  | .waiting waiting =>
    waiting.LacksLine ∧ Wrote [.direction, .step] begun waiting.hardware.history
  | .ready _ => False

theorem Balks.after {begun : List Event} {prepared : Prepared capacity}
    (balks : Balks begun prepared) (preparation : Preparation) :
    Balks begun (prepared.after preparation) := by
  cases prepared with
  | ready ready => exact balks.elim
  | waiting waiting =>
    obtain ⟨lacks, wrote⟩ := balks
    cases preparation with
    | start =>
      simp only [Prepared.after]
      cases outcome : waiting.start with
      | ok started => exact absurd lacks (exists_start_iff.mp ⟨started, outcome⟩).lines_suffice
      | error refusal =>
        have unstarted := unstarted_of_start outcome
        exact ⟨unstarted.lacksLine_iff.mpr lacks, wrote.trans (unstarted.wrote lacks)⟩
    | setPosition position => exact ⟨lacks, wrote⟩

theorem Balks.run {begun : List Event} {prepared : Prepared capacity}
    (balks : Balks begun prepared) (preparations : List Preparation) :
    Balks begun (preparations.foldl Prepared.after prepared) := by
  induction preparations generalizing prepared with
  | nil => exact balks
  | cons preparation later ih => exact ih (balks.after preparation)

/-- **A start can be tried again.** However often it was tried, with whatever refused, and wherever
the driver was placed in between, a driver that still waits for its start is but for its lines and
alarm the one that was only placed.  Another start that fails keeps it so, and one succeeds exactly
if nothing stands in its way by now.  A driver that is ready looks like any driver of the same axis,
wiring and motion whose first start succeeded.  If a mode-select line is lacking, the driver is
never ready, and only the step and direction lines are ever written to. -/
theorem prepare_outcome (driver : Driver .unconfigured capacity)
    (preparations : List Preparation) :
    (∀ waiting, driver.prepare preparations = .waiting waiting →
      (driver.placed preparations).Persists waiting ∧
      (∀ error failed, waiting.start = .error (error, failed) → waiting.Persists failed) ∧
      ((∃ started, waiting.start = .ok started) ↔ waiting.CanStart)) ∧
    (∀ ready, driver.prepare preparations = .ready ready →
      (driver.placed preparations).Homed ready ∧
      ∀ twin first, (driver.placed preparations).Persists twin → twin.start = .ok first →
        ready.LooksLike first) ∧
    (driver.LacksLine → ∃ waiting, driver.prepare preparations = .waiting waiting ∧
      Wrote [.direction, .step] driver.hardware.history waiting.hardware.history) := by
  have yields := driver.yields_prepare preparations
  refine ⟨fun waiting same => ?_, fun ready same => ?_, fun lacks => ?_⟩
  · rw [same] at yields
    exact ⟨yields, fun _ _ outcome => (unstarted_of_start outcome).toPersists, exists_start_iff⟩
  · rw [same] at yields
    exact ⟨yields, fun twin first alike outcome =>
      yields.looksLike ((homed_of_start outcome).of_persists alike)⟩
  · have unprepared : Balks driver.hardware.history (.waiting driver) := ⟨lacks, .refl⟩
    have balks : Balks driver.hardware.history (driver.prepare preparations) :=
      unprepared.run preparations
    cases same : driver.prepare preparations with
    | waiting waiting =>
      rw [same] at balks
      exact ⟨waiting, rfl, balks.2⟩
    | ready ready =>
      rw [same] at balks
      exact balks.elim

/-- The driver on the bench in eighth steps, with a hardware alarm and with one kind of channel to
all but the mode-select lines. -/
def eighthBench (channel : Channel) (modePins : ModePins) : Driver .unconfigured 8 :=
  { bench channel with
    microstepMode := .eighth
    hardware := {
      stepPin := channel
      directionPin := channel
      standbyPin := channel
      modePins
      alarm := .hardware channel channel channel } }

/-- Where step line, direction line, standby line and alarm each refuse their first call, the fifth
start leaves a driver that looks like one to which nothing was refused.  On the first mode-select
line alone all five of them fail. -/
theorem prepare_outcome_on_bench :
    let once : Channel := { refuses := fun call => call == 0 }
    let preparations := [.start, .start, .setPosition (.clamp 7), .start, .start, .start]
    (∃ ready first, (eighthBench once (.pair {} {})).prepare preparations = .ready ready ∧
      ((eighthBench {} (.pair {} {})).setPosition (.clamp 7)).start = .ok first ∧
      ready.LooksLike first) ∧
    ∃ waiting, (eighthBench once (.single {})).prepare preparations = .waiting waiting ∧
      Wrote [.direction, .step] [] waiting.hardware.history := by
  intro once preparations
  obtain ⟨-, converges, -⟩ := prepare_outcome (eighthBench once (.pair {} {})) preparations
  obtain ⟨-, -, balks⟩ := prepare_outcome (eighthBench once (.single {})) preparations
  have alike : ((eighthBench once (.pair {} {})).placed preparations).Persists
      ((eighthBench {} (.pair {} {})).setPosition (.clamp 7)) :=
    ⟨rfl, rfl, rfl, rfl, funext fun line => by cases line <;> rfl⟩
  exact ⟨⟨_, _, rfl, rfl, (converges _ rfl).2 _ _ alike rfl⟩, balks ⟨rfl, rfl, rfl⟩⟩

end Driver

end LinearAxis
