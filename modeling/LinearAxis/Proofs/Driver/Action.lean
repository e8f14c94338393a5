import LinearAxis.Driver

/-!
# What actions ensure

An action on a driver either is done, with a result, or fails, with an error; both leave a driver
behind.  `LinearAxis.Driver.Ensures` states what holds then, and each operation that actions are
made of has one rule for it, so that an action is gone through line by line.
-/

namespace LinearAxis.Driver

variable {stage : Stage} {capacity : Nat} {α β : Type}

/-- An action leaves a driver behind that satisfies one condition, together with the result, if it
is done, and another one, together with the error, if it fails. -/
def Ensures (action : Action stage capacity α) (driver : Driver stage capacity)
    (done : α → Driver stage capacity → Prop) (failed : Error → Driver stage capacity → Prop) :
    Prop :=
  match action driver with
  | .ok result later => done result later
  | .error error later => failed error later

/-- The driver that an action leaves behind. -/
def afterwards (action : Action stage capacity α) (driver : Driver stage capacity) :
    Driver stage capacity :=
  match action driver with
  | .ok _ later => later
  | .error _ later => later

/-- Whether an action fails. -/
def fails (action : Action stage capacity α) (driver : Driver stage capacity) : Bool :=
  match action driver with
  | .ok _ _ => false
  | .error _ _ => true

section Rules

variable {driver : Driver stage capacity} {done : α → Driver stage capacity → Prop}
  {failed : Error → Driver stage capacity → Prop}

theorem Ensures.weaken {action : Action stage capacity α}
    {done' : α → Driver stage capacity → Prop} {failed' : Error → Driver stage capacity → Prop}
    (ensures : Ensures action driver done failed)
    (onDone : ∀ result later, done result later → done' result later)
    (onFailed : ∀ error later, failed error later → failed' error later) :
    Ensures action driver done' failed' := by
  unfold Ensures at *
  split at ensures
  · exact onDone _ _ ensures
  · exact onFailed _ _ ensures

theorem Ensures.afterwards {action : Action stage capacity α} {holds : Driver stage capacity → Prop}
    (ensures : Ensures action driver (fun _ => holds) (fun _ => holds)) :
    holds (driver.afterwards action) := by
  unfold Ensures at ensures
  unfold Driver.afterwards
  split at ensures <;> simp_all

theorem Ensures.afterwards_of_done {action : Action stage capacity α}
    {holds : Driver stage capacity → Prop} (ensures : Ensures action driver (fun _ => holds) failed)
    (done : driver.fails action = false) : holds (driver.afterwards action) := by
  unfold Ensures at ensures
  unfold fails at done
  unfold Driver.afterwards
  split at ensures <;> simp_all

/-- Whether an action is done or fails decides which of the two conditions holds afterwards. -/
theorem Ensures.afterwards_cases {action : Action stage capacity α}
    {holds failing : Driver stage capacity → Prop}
    (ensures : Ensures action driver (fun _ => holds) (fun _ => failing)) :
    if driver.fails action then failing (driver.afterwards action)
    else holds (driver.afterwards action) := by
  unfold Ensures at ensures
  unfold fails Driver.afterwards
  split at ensures <;> simp_all

theorem afterwards_bind (first : Action stage capacity β) (second : β → Action stage capacity α)
    (driver : Driver stage capacity) :
    driver.afterwards (first >>= second) = match first driver with
      | .ok result later => later.afterwards (second result)
      | .error _ later => later := by
  change (match EStateM.bind first second driver with
    | .ok _ later => later
    | .error _ later => later) = _
  unfold EStateM.bind
  cases first driver <;> rfl

theorem afterwards_bind_pure (first : Action stage capacity β) (convert : β → α)
    (driver : Driver stage capacity) :
    driver.afterwards (first >>= fun result => pure (convert result)) =
      driver.afterwards first := by
  rw [afterwards_bind]
  unfold afterwards
  cases first driver <;> rfl

/-- The second of two actions starts from what the first one leaves behind. -/
theorem ensures_bind {first : Action stage capacity β} {second : β → Action stage capacity α}
    (ensures : Ensures first driver (fun result later => Ensures (second result) later done failed)
      failed) :
    Ensures (first >>= second) driver done failed := by
  unfold Ensures at *
  change match EStateM.bind first second driver with
    | .ok result later => done result later
    | .error error later => failed error later
  unfold EStateM.bind
  cases outcome : first driver <;> simp only [outcome] at ensures ⊢ <;> exact ensures

theorem ensures_get {next : Driver stage capacity → Action stage capacity α}
    (ensures : Ensures (next driver) driver done failed) :
    Ensures (get >>= next) driver done failed :=
  ensures

theorem ensures_modify {change : Driver stage capacity → Driver stage capacity}
    {done : Unit → Driver stage capacity → Prop} (holds : done () (change driver)) :
    Ensures (modify change) driver done failed :=
  holds

end Rules

/-! ## Lines and alarm -/

section Hardware

variable (driver : Driver stage capacity)

/-- Whether a level would be put on a line. -/
def accepts (line : Line) (level : Bool) : Bool := (driver.hardware.drive line level).1

/-- The driver after a level was put on a line, or refused. -/
def driven (line : Line) (level : Bool) : Driver stage capacity :=
  { driver with hardware := (driver.hardware.drive line level).2 }

/-- Whether the alarm would grant a request. -/
def grants (request : AlarmRequest) : Bool := (driver.hardware.request request).1

/-- The driver after a request was made to the alarm, or refused. -/
def requested (request : AlarmRequest) : Driver stage capacity :=
  { driver with hardware := (driver.hardware.request request).2 }

/-- The driver after the announcements of arrivals. -/
def announcing (announcements : List Announcement) : Driver stage capacity :=
  { driver with
    hardware := announcements.foldl (fun hardware announcement =>
      hardware.record (.announced announcement)) driver.hardware }

/-- The driver after its sequencer has advanced. -/
def advanced : Driver stage capacity :=
  { driver.announcing driver.sequencer.advance.2 with sequencer := driver.sequencer.advance.1 }

variable {driver} {done : Unit → Driver stage capacity → Prop}
  {failed : Error → Driver stage capacity → Prop}

/-- A line takes a level or refuses it, and either is remembered. -/
theorem ensures_drive {line : Line} {level : Bool}
    (accepted : driver.accepts line level = true → done () (driver.driven line level))
    (refused : driver.accepts line level = false →
      failed MotorError.pin (driver.driven line level)) :
    Ensures (drive line level) driver done failed := by
  unfold Ensures
  rw [drive]
  cases outcome : driver.accepts line level with
  | true =>
    rw [accepts] at outcome
    simp only [outcome, ↓reduceIte]
    exact accepted outcome
  | false =>
    rw [accepts] at outcome
    simp only [outcome, Bool.false_eq_true, ↓reduceIte]
    exact refused outcome

theorem ensures_request {request : AlarmRequest} {refusal : MotorError}
    (granted : driver.grants request = true → done () (driver.requested request))
    (refused : driver.grants request = false → failed refusal (driver.requested request)) :
    Ensures (Driver.request request refusal) driver done failed := by
  unfold Ensures
  rw [Driver.request]
  cases outcome : driver.grants request with
  | true =>
    rw [grants] at outcome
    simp only [outcome, ↓reduceIte]
    exact granted outcome
  | false =>
    rw [grants] at outcome
    simp only [outcome, Bool.false_eq_true, ↓reduceIte]
    exact refused outcome

theorem afterwards_request (request : AlarmRequest) (refusal : MotorError) :
    driver.afterwards (Driver.request request refusal) = driver.requested request := by
  have made : Ensures (Driver.request request refusal) driver
      (fun _ later => later = driver.requested request)
      fun _ later => later = driver.requested request :=
    ensures_request (fun _ => rfl) fun _ => rfl
  exact made.afterwards

theorem ensures_advance (holds : done () driver.advanced) :
    Ensures advance driver done failed :=
  holds

end Hardware

/-! ## Direction and half steps -/

section Motion

/-- The driver after the direction line was made to show a direction. -/
def turned (driver : Driver stage capacity) (direction : Direction) : Driver stage capacity :=
  { driver.driven .direction (driver.directionLevel direction) with
    shownDirection := some direction }

/-- The driver with a step half done, or done. -/
def halved (driver : Driver .ready capacity) (halfStep : Bool) : Driver .ready capacity :=
  { driver with halfStep }

variable {done : Unit → Driver .ready capacity → Prop}
  {failed : Error → Driver .ready capacity → Prop}

/-- Showing a direction writes to the line only where the line does not show it already. -/
theorem ensures_showDirection {driver : Driver .ready capacity} {direction : Direction}
    (shown : driver.shownDirection = some direction → done () driver)
    (accepted : driver.shownDirection ≠ some direction →
      driver.accepts .direction (driver.directionLevel direction) = true →
      done () (driver.turned direction))
    (refused : driver.shownDirection ≠ some direction →
      driver.accepts .direction (driver.directionLevel direction) = false →
      failed MotorError.pin (driver.driven .direction (driver.directionLevel direction))) :
    Ensures (showDirection direction) driver done failed := by
  refine ensures_get ?_
  by_cases same : driver.shownDirection = some direction
  · rw [if_pos same]
    exact shown same
  · rw [if_neg same]
    exact ensures_bind (ensures_drive (accepted same) (refused same))

theorem ensures_finishStep {driver : Driver .ready capacity}
    (finished : driver.halfStep = false → done () driver)
    (accepted : driver.halfStep = true → driver.accepts .step false = true →
      done () ((driver.driven .step false).halved false))
    (refused : driver.halfStep = true → driver.accepts .step false = false →
      failed MotorError.pin (driver.driven .step false)) :
    Ensures finishStep driver done failed := by
  refine ensures_get ?_
  cases half : driver.halfStep with
  | true => exact ensures_bind (ensures_drive (accepted half) (refused half))
  | false => exact finished half

end Motion

end LinearAxis.Driver
