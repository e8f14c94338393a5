import LinearAxis.Proofs.Driver.Lines

/-!
# Setting lines and alarm up

A start puts every wired line at its level and then starts the counter behind the alarm.  It stops
at the first call that is refused, but whatever was done or left undone before, a start that
succeeds has set every line up itself.  It succeeds exactly if the mode-select lines suffice and
nothing refuses its next call (`LinearAxis.Driver.start_outcome`).
-/

namespace LinearAxis

namespace History

/-- Since an earlier time nothing has happened but writes to some lines, accepted or refused. -/
def Wrote (lines : List Line) (earlier later : List Event) : Prop :=
  Grown (fun event _ => ∃ line ∈ lines, ∃ level accepted, event = .drove line level accepted)
    earlier later

theorem Wrote.widen {lines more : List Line} {earlier later : List Event}
    (wrote : Wrote lines earlier later) (wider : lines ⊆ more) : Wrote more earlier later :=
  Grown.weaken wrote fun _ _ _ _ ⟨line, known, write⟩ => ⟨line, wider known, write⟩

end History

namespace Driver

open History

variable {stage stage' stage'' : Stage} {capacity : Nat}

/-! ## Lines -/

/-- Whether a line is wired. -/
def wires (driver : Driver stage capacity) (line : Line) : Bool :=
  (driver.hardware.channel? line).isSome

/-- The level that a line is set up at: step low, direction forward, the mode selected and the chip
in standby. -/
def homeLevel (driver : Driver stage capacity) : Line → Bool
  | .step | .standby => false
  | .direction => driver.directionLevel .forward
  | .mode1 => driver.microstepMode.firstLine
  | .mode2 => driver.microstepMode.secondLine

/-- Of the mode-select lines, the second one is needed and only the first one is wired. -/
def LacksLine (driver : Driver stage capacity) : Prop :=
  driver.wires .mode1 = true ∧ driver.wires .mode2 = false ∧
    driver.microstepMode.secondLine = true

theorem lacksLineFor_iff {driver : Driver stage capacity} :
    driver.hardware.lacksLineFor driver.microstepMode = true ↔ driver.LacksLine := by
  simp only [Hardware.lacksLineFor, LacksLine, wires, Hardware.channel?]
  cases driver.hardware.modePins <;> simp

theorem channel?_driven_of_ne (driver : Driver stage capacity) {line other : Line}
    (apart : other ≠ line) (level : Bool) :
    (driver.driven line level).hardware.channel? other = driver.hardware.channel? other := by
  obtain ⟨_, _, _, ⟨_, _, _, modePins, _, _⟩, _, _, _⟩ := driver
  cases modePins <;> cases line <;> cases other <;> first | rfl | exact absurd rfl apart

theorem wires_driven (driver : Driver stage capacity) (line other : Line) (level : Bool) :
    (driver.driven line level).wires other = driver.wires other := by
  obtain ⟨_, _, _, ⟨_, _, _, modePins, _, _⟩, _, _, _⟩ := driver
  cases modePins <;> cases line <;> cases other <;> rfl

theorem wires_requested (driver : Driver stage capacity) (request : AlarmRequest) :
    (driver.requested request).wires = driver.wires := by
  funext line
  simp only [wires, requested, Hardware.request]
  split <;> rfl

/-- Whether a line takes a level depends on its channel alone. -/
theorem accepts_congr {driver later : Driver stage capacity} {line : Line}
    (same : later.hardware.channel? line = driver.hardware.channel? line) (level : Bool) :
    later.accepts line level = driver.accepts line level := by
  simp only [accepts, Hardware.drive, same]
  split <;> rfl

/-! ## What a start keeps -/

/-- The axis and the wiring of a driver are those of another one, and so is its motion. -/
structure Persists (driver : Driver stage capacity) (later : Driver stage' capacity) : Prop where
  name_eq : later.name = driver.name
  microstepMode_eq : later.microstepMode = driver.microstepMode
  invertDirection_eq : later.invertDirection = driver.invertDirection
  sequencer_eq : later.sequencer = driver.sequencer
  wires_eq : later.wires = driver.wires

section Persists

variable {driver : Driver stage capacity} {later : Driver stage' capacity}

theorem Persists.refl (driver : Driver stage capacity) : driver.Persists driver :=
  ⟨rfl, rfl, rfl, rfl, rfl⟩

theorem Persists.symm (persists : driver.Persists later) : later.Persists driver :=
  ⟨persists.name_eq.symm, persists.microstepMode_eq.symm, persists.invertDirection_eq.symm,
    persists.sequencer_eq.symm, persists.wires_eq.symm⟩

theorem Persists.trans {latest : Driver stage'' capacity} (one : driver.Persists later)
    (two : later.Persists latest) : driver.Persists latest :=
  ⟨two.name_eq.trans one.name_eq, two.microstepMode_eq.trans one.microstepMode_eq,
    two.invertDirection_eq.trans one.invertDirection_eq, two.sequencer_eq.trans one.sequencer_eq,
    two.wires_eq.trans one.wires_eq⟩

theorem persists_driven (driver : Driver stage capacity) (line : Line) (level : Bool) :
    driver.Persists (driver.driven line level) :=
  ⟨rfl, rfl, rfl, rfl, funext fun other => driver.wires_driven line other level⟩

theorem persists_requested (driver : Driver stage capacity) (request : AlarmRequest) :
    driver.Persists (driver.requested request) :=
  ⟨rfl, rfl, rfl, rfl, driver.wires_requested request⟩

theorem persists_toReady (driver : Driver .unconfigured capacity) :
    driver.Persists driver.toReady :=
  ⟨rfl, rfl, rfl, rfl, rfl⟩

theorem Persists.lacksLine_iff (persists : driver.Persists later) :
    later.LacksLine ↔ driver.LacksLine := by
  rw [LacksLine, LacksLine, persists.wires_eq, persists.microstepMode_eq]

theorem Persists.lacksLineFor_iff (persists : driver.Persists later) :
    later.hardware.lacksLineFor driver.microstepMode = true ↔ driver.LacksLine := by
  rw [← persists.microstepMode_eq, Driver.lacksLineFor_iff, persists.lacksLine_iff]

/-- The level that a line is set up at depends on the axis alone. -/
theorem Persists.homeLevel_eq (persists : driver.Persists later) :
    later.homeLevel = driver.homeLevel := by
  funext line
  cases line with
  | step | standby => rfl
  | direction => rw [homeLevel, homeLevel, directionLevel, directionLevel,
      persists.invertDirection_eq]
  | mode1 | mode2 => rw [homeLevel, homeLevel, persists.microstepMode_eq]

end Persists

/-! ## Lines that are set up -/

/-- Nothing has happened to a driver but writes to some of its lines. -/
structure Touched (driver : Driver stage capacity) (lines : List Line)
    (later : Driver stage capacity) : Prop extends driver.Persists later where
  alarm_eq : later.hardware.alarm = driver.hardware.alarm
  channel_eq : ∀ line ∉ lines, later.hardware.channel? line = driver.hardware.channel? line
  wrote : Wrote lines driver.hardware.history later.hardware.history

/-- Nothing has happened to a driver but that some of its lines were set up. -/
structure SetUp (driver : Driver stage capacity) (lines : List Line)
    (later : Driver stage capacity) : Prop extends driver.Touched lines later where
  accepted : ∀ line ∈ lines, driver.accepts line (driver.homeLevel line) = true
  level_eq : ∀ line ∈ lines, driver.wires line = true →
    level? line later.hardware.history = some (driver.homeLevel line)

section SetUp

variable {driver later : Driver stage capacity} {lines : List Line} {line : Line}

theorem setUp_refl (driver : Driver stage capacity) : driver.SetUp [] driver where
  toPersists := .refl driver
  alarm_eq := rfl
  channel_eq _ _ := rfl
  wrote := .refl
  accepted _ none := nomatch none
  level_eq _ none := nomatch none

theorem Touched.driven (touched : driver.Touched lines later) (line : Line) (level : Bool) :
    driver.Touched (line :: lines) (later.driven line level) where
  toPersists := touched.toPersists.trans (later.persists_driven line level)
  alarm_eq := (later.alarm_driven line level).trans touched.alarm_eq
  channel_eq other untouched := by
    rw [List.mem_cons, not_or] at untouched
    exact (later.channel?_driven_of_ne untouched.1 level).trans
      (touched.channel_eq other untouched.2)
  wrote := grown_driven (touched.wrote.widen (List.subset_cons_self _ _))
    ⟨line, .head _, level, _, rfl⟩

theorem SetUp.driven (setUp : driver.SetUp lines later) (fresh : line ∉ lines)
    (accepted : later.accepts line (driver.homeLevel line) = true) :
    driver.SetUp (line :: lines) (later.driven line (driver.homeLevel line)) where
  toTouched := setUp.toTouched.driven line _
  accepted := List.forall_mem_cons.mpr
    ⟨(accepts_congr (setUp.channel_eq line fresh) _).symm.trans accepted, setUp.accepted⟩
  level_eq := by
    refine List.forall_mem_cons.mpr ⟨fun wired => ?_, fun other known wired => ?_⟩
    · rw [← setUp.wires_eq] at wired
      exact later.level?_driven wired accepted
    · have apart : line ≠ other := fun same => fresh (same ▸ known)
      exact (later.level?_driven_of_ne apart _).trans (setUp.level_eq other known wired)

end SetUp

/-! ## Starting -/

/-- Nothing stands in the way of a start: the mode-select lines suffice, and neither a line nor the
alarm refuses its next call. -/
structure CanStart (driver : Driver stage capacity) : Prop where
  lines_suffice : ¬ driver.LacksLine
  accepted : ∀ line, driver.accepts line (driver.homeLevel line) = true
  granted : driver.grants .start = true

/-- A driver has been started: its axis, wiring and motion are as they were, all its lines are at
known levels, of which it remembers that of the direction line, no step is half done, and a delay
alarm is not armed. -/
structure Homed (driver : Driver .unconfigured capacity) (started : Driver .ready capacity) : Prop
    extends driver.Persists started where
  shows_forward : started.shownDirection = some .forward
  whole : started.halfStep = false
  level_eq : ∀ line, driver.wires line = true →
    level? line started.hardware.history = some (driver.homeLevel line)
  unarmed : ∀ alarm, started.hardware.alarm = .delay alarm → alarm = ⟨none⟩

/-- A start has failed: something stood in its way, and axis, wiring and motion are as they were.
If a mode-select line is lacking, only the step and direction lines were written to. -/
structure Unstarted (driver failed : Driver .unconfigured capacity) : Prop
    extends driver.Persists failed where
  hindered : ¬ driver.CanStart
  wrote : driver.LacksLine →
    Wrote [.direction, .step] driver.hardware.history failed.hardware.history

section Start

variable {driver later : Driver .unconfigured capacity} {lines : List Line} {line : Line}

theorem Touched.unstarted (touched : driver.Touched lines later) (hindered : ¬ driver.CanStart)
    (few : driver.LacksLine → lines ⊆ [.direction, .step]) : driver.Unstarted later where
  toPersists := touched.toPersists
  hindered := hindered
  wrote lacks := touched.wrote.widen (few lacks)

/-- One more line is set up, unless it is in the way. -/
theorem SetUp.ensures_drive {done : Unit → Driver .unconfigured capacity → Prop}
    (setUp : driver.SetUp lines later) (fresh : line ∉ lines)
    (few : driver.LacksLine → line :: lines ⊆ [.direction, .step])
    (onDone : ∀ next, driver.SetUp (line :: lines) next →
      next.shownDirection = later.shownDirection → done () next) :
    Ensures (drive line (driver.homeLevel line)) later done
      fun _ failed => driver.Unstarted failed := by
  refine Driver.ensures_drive (fun accepted => onDone _ (setUp.driven fresh accepted) rfl)
    fun refused => (setUp.toTouched.driven line _).unstarted (fun can => ?_) few
  rw [accepts_congr (setUp.channel_eq line fresh), can.accepted line] at refused
  cases refused

theorem SetUp.noted (setUp : driver.SetUp lines later) (direction : Direction) :
    driver.SetUp lines { later with shownDirection := some direction } :=
  { setUp with }

/-- The lines of a driver are set up, unless something stands in the way. -/
theorem ensures_configureLines (driver : Driver .unconfigured capacity) :
    Ensures configureLines driver
      (fun _ later => driver.SetUp [.standby, .mode2, .mode1, .direction, .step] later ∧
        later.shownDirection = some .forward ∧ ¬ driver.LacksLine)
      fun _ failed => driver.Unstarted failed := by
  refine ensures_get (ensures_bind ?_)
  refine (setUp_refl driver).ensures_drive nofun (fun _ => by decide) fun _ setUp _ => ?_
  refine ensures_bind (setUp.ensures_drive (by decide) (fun _ => by decide) fun _ setUp _ => ?_)
  refine ensures_bind (ensures_modify (ensures_bind (ensures_get ?_)))
  have setUp := setUp.noted .forward
  split
  · next lacking =>
    have lacks := setUp.toPersists.lacksLineFor_iff.mp lacking
    exact setUp.toTouched.unstarted (fun can => can.lines_suffice lacks) fun _ => List.Subset.refl _
  · next sufficing =>
    have suffice : ¬ driver.LacksLine := fun lacks =>
      sufficing (setUp.toPersists.lacksLineFor_iff.mpr lacks)
    have many {lines : List Line} : driver.LacksLine → lines ⊆ [.direction, .step] :=
      fun lacks => absurd lacks suffice
    refine ensures_bind (setUp.ensures_drive (by decide) many fun _ setUp one => ?_)
    refine setUp.ensures_drive (by decide) many fun _ setUp two => ?_
    refine setUp.ensures_drive (by decide) many fun _ setUp three => ?_
    exact ⟨setUp, three.trans (two.trans one), suffice⟩

/-- A start succeeds exactly if nothing stands in its way.  Either outcome leaves axis, wiring and
motion as they were. -/
theorem start_outcome (driver : Driver .unconfigured capacity) :
    match driver.start with
    | .ok started => driver.Homed started ∧ driver.CanStart
    | .error (_, failed) => driver.Unstarted failed := by
  have outcome : Ensures (do configureLines; request .start .timerNotReady) driver
      (fun _ later => driver.Homed later.toReady ∧ driver.CanStart)
      fun _ failed => driver.Unstarted failed := by
    refine ensures_bind (driver.ensures_configureLines.weaken ?_ fun _ _ unstarted => unstarted)
    rintro - configured ⟨setUp, forward, suffice⟩
    have every (line : Line) : line ∈ [Line.standby, .mode2, .mode1, .direction, .step] := by
      cases line <;> decide
    have asks : configured.grants .start = driver.grants .start := by
      simp only [grants, Hardware.request, setUp.alarm_eq]
      split <;> rfl
    have persists := setUp.toPersists.trans (configured.persists_requested .start)
    refine ensures_request (fun granted => ⟨?_, ?_⟩) fun refused => ?_
    · exact {
        toPersists := persists.trans (persists_toReady _)
        shows_forward := forward
        whole := rfl
        level_eq := fun line wired =>
          (configured.level?_requested .start line).trans (setUp.level_eq line (every line) wired)
        unarmed := fun _ delay => alarm_of_requested_start delay }
    · exact ⟨suffice, fun line => setUp.accepted line (every line), asks ▸ granted⟩
    · exact {
        toPersists := persists
        hindered := fun can => by
          rw [asks, can.granted] at refused
          cases refused
        wrote := fun lacks => absurd lacks suffice }
  unfold Ensures at outcome
  unfold start
  split at outcome <;> next same => rw [same]; exact outcome

/-- What a start that succeeds has made of the driver. -/
theorem homed_of_start {started : Driver .ready capacity} (outcome : driver.start = .ok started) :
    driver.Homed started := by
  have homed := driver.start_outcome
  rw [outcome] at homed
  exact homed.1

theorem unstarted_of_start {error : Error} {failed : Driver .unconfigured capacity}
    (outcome : driver.start = .error (error, failed)) : driver.Unstarted failed := by
  have unstarted := driver.start_outcome
  rw [outcome] at unstarted
  exact unstarted

/-- A start succeeds exactly if nothing stands in its way. -/
theorem exists_start_iff : (∃ started, driver.start = .ok started) ↔ driver.CanStart := by
  have outcome := driver.start_outcome
  split at outcome
  · next started same => exact ⟨fun _ => outcome.2, fun _ => ⟨started, same⟩⟩
  · next same =>
    refine ⟨fun ⟨started, succeeded⟩ => ?_, fun can => absurd can outcome.hindered⟩
    rw [same] at succeeded
    cases succeeded

end Start

end Driver

end LinearAxis
