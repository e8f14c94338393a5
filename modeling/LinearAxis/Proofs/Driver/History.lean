import LinearAxis.Proofs.Driver.Compose

/-!
# What the history tells

The history of a driver keeps every write to a line and every request to the alarm, the latest
first.  The level of a line, the rising edges of the step line and the numbers of refusals and of
requests are read off it, and nothing that an action does takes anything back.
-/

namespace LinearAxis

namespace History

/-- The level that a line was put at last. -/
def level? (line : Line) : List Event → Option Bool
  | [] => none
  | .drove other level true :: earlier => if other = line then some level else level? line earlier
  | _ :: earlier => level? line earlier

/-- The rising edges of the step line that were made while the direction line was at a level: the
times that the step line, found low, was put high. -/
def risingEdges (shown : Bool) : List Event → Nat
  | [] => 0
  | .drove .step true true :: earlier =>
    (if level? .step earlier = some false ∧ level? .direction earlier = some shown then 1 else 0) +
      risingEdges shown earlier
  | _ :: earlier => risingEdges shown earlier

/-- Whether an event is a write or a request that was refused. -/
def isRefusal : Event → Bool
  | .drove _ _ accepted | .requested _ accepted => !accepted
  | _ => false

/-- Whether an event is a request for a tick. -/
def isRequest : Event → Bool
  | .requested request _ | .noted request => request != .start
  | _ => false

/-- An event that is a request for a tick at once, granted or not. -/
def Kicks (event : Event) : Prop :=
  event = .noted .now ∨ ∃ granted, event = .requested .now granted

/-- The interval that an event armed an alarm for. -/
def armedFor? : Event → Option Micros
  | .noted (.arm interval) | .requested (.arm interval) true => some interval
  | _ => none

/-- A request that was refused arms no alarm. -/
theorem armedFor?_of_refusal {event : Event} (refused : isRefusal event = true) :
    armedFor? event = none := by
  cases event with
  | drove | slept | announced => rfl
  | noted => cases refused
  | requested request granted =>
    cases granted with
    | true => cases refused
    | false => cases request <;> rfl

/-- The number of writes and requests that were refused. -/
def refusals (history : List Event) : Nat := history.countP isRefusal

/-- The number of requests for a tick. -/
def requests (history : List Event) : Nat := history.countP isRequest

/-- Whether an event is no write to a line. -/
def isSilent : Event → Bool
  | .drove .. => false
  | _ => true

section Silent

variable {event : Event} {earlier : List Event}

theorem level?_cons_of_silent (silent : isSilent event = true) (line : Line) :
    level? line (event :: earlier) = level? line earlier := by
  cases event <;> first | rfl | cases silent

theorem risingEdges_cons_of_silent (silent : isSilent event = true) (shown : Bool) :
    risingEdges shown (event :: earlier) = risingEdges shown earlier := by
  cases event <;> first | rfl | cases silent

theorem level?_cons_of_accepted (line : Line) (level : Bool) :
    level? line (.drove line level true :: earlier) = some level :=
  if_pos rfl

theorem level?_cons_of_ne {line other : Line} (apart : other ≠ line) (level accepted : Bool) :
    level? line (.drove other level accepted :: earlier) = level? line earlier := by
  cases accepted with
  | true => exact if_neg apart
  | false => rfl

theorem risingEdges_cons_of_ne {other : Line} (apart : other ≠ .step) (level accepted : Bool)
    (shown : Bool) :
    risingEdges shown (.drove other level accepted :: earlier) = risingEdges shown earlier := by
  cases other <;> first | rfl | exact absurd rfl apart

theorem risingEdges_cons_of_falling (accepted : Bool) (shown : Bool) :
    risingEdges shown (.drove .step false accepted :: earlier) = risingEdges shown earlier := rfl

end Silent

end History

namespace Driver

open History

variable {stage : Stage} {capacity : Nat} (driver : Driver stage capacity)

/-! ## Writes -/

/-- A write to a wired line is remembered with its outcome. -/
theorem history_driven {line : Line} (wired : (driver.hardware.channel? line).isSome = true)
    (level : Bool) :
    (driver.driven line level).hardware.history =
      .drove line level (driver.accepts line level) :: driver.hardware.history := by
  obtain ⟨channel, wired⟩ := Option.isSome_iff_exists.mp wired
  exact driver.hardware.history_drive wired

theorem driven_of_unwired {line : Line} (unwired : driver.hardware.channel? line = none)
    (level : Bool) :
    driver.driven line level = driver ∧ driver.accepts line level = true := by
  simp only [driven, accepts, Hardware.drive, unwired, and_self]

/-- What does not depend on a write is read off the history as before. -/
theorem read_driven {γ : Type} (read : List Event → γ) {line : Line} {level : Bool}
    (blind : ∀ accepted earlier, read (.drove line level accepted :: earlier) = read earlier) :
    read (driver.driven line level).hardware.history = read driver.hardware.history := by
  cases wired : driver.hardware.channel? line with
  | none => rw [(driver.driven_of_unwired wired level).1]
  | some channel =>
    rw [driver.history_driven (by rw [wired]; rfl) level]
    exact blind _ _

@[simp] theorem alarm_driven (line : Line) (level : Bool) :
    (driver.driven line level).hardware.alarm = driver.hardware.alarm := by
  simp only [driven, Hardware.drive]
  split
  · rfl
  · simp only [Hardware.record]
    cases line <;> simp only [Hardware.setChannel] <;> split <;> rfl

theorem refusals_driven (line : Line) (level : Bool) :
    refusals (driver.driven line level).hardware.history =
      refusals driver.hardware.history + if driver.accepts line level then 0 else 1 := by
  cases wired : driver.hardware.channel? line with
  | none =>
    rw [(driver.driven_of_unwired wired level).1, (driver.driven_of_unwired wired level).2]
    rfl
  | some channel =>
    rw [driver.history_driven (by rw [wired]; rfl) level, refusals, List.countP_cons]
    cases driver.accepts line level <;> rfl

theorem refusals_driven_of_accepted {driver : Driver stage capacity} {line : Line} {level : Bool}
    (accepted : driver.accepts line level = true) :
    refusals (driver.driven line level).hardware.history = refusals driver.hardware.history := by
  rw [refusals_driven, accepted]
  rfl

theorem refusals_lt_driven {driver : Driver stage capacity} {line : Line} {level : Bool}
    (refused : driver.accepts line level = false) :
    refusals driver.hardware.history < refusals (driver.driven line level).hardware.history := by
  rw [refusals_driven, refused]
  exact Nat.lt_succ_self _

theorem level?_driven_of_ne {line other : Line} (apart : other ≠ line) (level : Bool) :
    level? line (driver.driven other level).hardware.history =
      level? line driver.hardware.history :=
  driver.read_driven (level? line) fun _ _ => level?_cons_of_ne apart _ _

theorem level?_driven {line : Line} {level : Bool}
    (wired : (driver.hardware.channel? line).isSome = true)
    (accepted : driver.accepts line level = true) :
    level? line (driver.driven line level).hardware.history = some level := by
  rw [driver.history_driven wired, accepted]
  exact level?_cons_of_accepted line level

theorem risingEdges_driven_of_ne {other : Line} (apart : other ≠ .step) (level shown : Bool) :
    risingEdges shown (driver.driven other level).hardware.history =
      risingEdges shown driver.hardware.history :=
  driver.read_driven (risingEdges shown) fun _ _ => risingEdges_cons_of_ne apart _ _ _

theorem risingEdges_driven_of_falling (shown : Bool) :
    risingEdges shown (driver.driven .step false).hardware.history =
      risingEdges shown driver.hardware.history :=
  driver.read_driven (risingEdges shown) fun _ _ => risingEdges_cons_of_falling _ _

/-- A low step line that is put high makes an edge at the level of the direction line. -/
theorem risingEdges_driven_of_rising {level : Bool}
    (low : level? .step driver.hardware.history = some false)
    (known : level? .direction driver.hardware.history = some level)
    (accepted : driver.accepts .step true = true) (shown : Bool) :
    risingEdges shown (driver.driven .step true).hardware.history =
      risingEdges shown driver.hardware.history + if level = shown then 1 else 0 := by
  rw [driver.history_driven rfl, accepted, risingEdges, low, known, Nat.add_comm]
  simp only [true_and, Option.some.injEq]

@[simp] theorem requests_driven (line : Line) (level : Bool) :
    requests (driver.driven line level).hardware.history = requests driver.hardware.history :=
  driver.read_driven requests fun _ _ => List.countP_cons_of_neg (by exact Bool.false_ne_true)

/-! ## Requests -/

/-- A request is remembered with its outcome, and a delay alarm grants all of them. -/
theorem history_requested (request : AlarmRequest) :
    (driver.requested request).hardware.history =
        .requested request (driver.grants request) :: driver.hardware.history ∨
      driver.grants request = true ∧
        (driver.requested request).hardware.history =
          .noted request :: driver.hardware.history := by
  simp only [requested, grants, Hardware.request]
  split
  · exact .inr ⟨rfl, rfl⟩
  · exact .inl rfl

theorem alarm_requested {driver : Driver stage capacity} {alarm : DelayAlarm}
    (delay : driver.hardware.alarm = .delay alarm) (request : AlarmRequest) :
    (driver.requested request).hardware.alarm = .delay (alarm.request request) := by
  simp only [requested, Hardware.request, delay, Hardware.record]

/-- A delay alarm that has just been started is not armed. -/
theorem alarm_of_requested_start {driver : Driver stage capacity} {alarm : DelayAlarm}
    (delay : (driver.requested .start).hardware.alarm = .delay alarm) : alarm = ⟨none⟩ := by
  simp only [requested, Hardware.request] at delay
  split at delay
  · exact (Alarm.delay.inj delay).symm
  · cases delay

theorem read_requested {γ : Type} (read : List Event → γ) {request : AlarmRequest}
    (blind : ∀ event earlier, isSilent event = true → read (event :: earlier) = read earlier) :
    read (driver.requested request).hardware.history = read driver.hardware.history := by
  rcases driver.history_requested request with same | ⟨-, same⟩ <;> rw [same] <;>
    exact blind _ _ rfl

theorem refusals_requested (request : AlarmRequest) :
    refusals (driver.requested request).hardware.history =
      refusals driver.hardware.history + if driver.grants request then 0 else 1 := by
  rcases driver.history_requested request with same | ⟨granted, same⟩
  · rw [same, refusals, List.countP_cons]
    cases driver.grants request <;> rfl
  · rw [same, granted, refusals, List.countP_cons]
    rfl

theorem refusals_requested_of_granted {driver : Driver stage capacity} {request : AlarmRequest}
    (granted : driver.grants request = true) :
    refusals (driver.requested request).hardware.history = refusals driver.hardware.history := by
  rw [refusals_requested, granted]
  rfl

theorem refusals_lt_requested {driver : Driver stage capacity} {request : AlarmRequest}
    (refused : driver.grants request = false) :
    refusals driver.hardware.history < refusals (driver.requested request).hardware.history := by
  rw [refusals_requested, refused]
  exact Nat.lt_succ_self _

theorem level?_requested (request : AlarmRequest) (line : Line) :
    level? line (driver.requested request).hardware.history =
      level? line driver.hardware.history :=
  driver.read_requested (level? line) fun _ _ silent => level?_cons_of_silent silent line

theorem risingEdges_requested (request : AlarmRequest) (shown : Bool) :
    risingEdges shown (driver.requested request).hardware.history =
      risingEdges shown driver.hardware.history :=
  driver.read_requested (risingEdges shown) fun _ _ silent =>
    risingEdges_cons_of_silent silent shown

/-! ## Announcements -/

theorem read_announcing {γ : Type} (read : List Event → γ)
    (blind : ∀ announcement earlier, read (.announced announcement :: earlier) = read earlier)
    (announcements : List Announcement) :
    read (driver.announcing announcements).hardware.history = read driver.hardware.history := by
  simp only [announcing]
  generalize driver.hardware = hardware
  induction announcements generalizing hardware with
  | nil => rfl
  | cons announcement later ih =>
    rw [List.foldl_cons, ih]
    exact blind announcement hardware.history

theorem refusals_announcing (announcements : List Announcement) :
    refusals (driver.announcing announcements).hardware.history =
      refusals driver.hardware.history :=
  driver.read_announcing refusals (fun _ _ => List.countP_cons_of_neg (by exact Bool.false_ne_true))
    announcements

@[simp] theorem requests_announcing (announcements : List Announcement) :
    requests (driver.announcing announcements).hardware.history =
      requests driver.hardware.history :=
  driver.read_announcing requests (fun _ _ => List.countP_cons_of_neg (by exact Bool.false_ne_true))
    announcements

@[simp] theorem alarm_announcing (announcements : List Announcement) :
    (driver.announcing announcements).hardware.alarm = driver.hardware.alarm := by
  simp only [announcing]
  generalize driver.hardware = hardware
  induction announcements generalizing hardware with
  | nil => rfl
  | cons announcement later ih => rw [List.foldl_cons, ih]; rfl

/-! ## Nothing is forgotten -/

/-- One driver remembers all that another one does. -/
def Remembers (earlier later : Driver stage capacity) : Prop :=
  earlier.hardware.history <:+ later.hardware.history

section Remembers

variable {driver}

theorem Remembers.refl (driver : Driver stage capacity) : Remembers driver driver :=
  List.suffix_refl _

theorem Remembers.trans {first second third : Driver stage capacity}
    (one : Remembers first second) (two : Remembers second third) : Remembers first third :=
  List.IsSuffix.trans one two

theorem Remembers.refusals_le {earlier later : Driver stage capacity}
    (remembers : Remembers earlier later) :
    refusals earlier.hardware.history ≤ refusals later.hardware.history :=
  remembers.sublist.countP_le

theorem remembers_driven (driver : Driver stage capacity) (line : Line) (level : Bool) :
    Remembers driver (driver.driven line level) := by
  cases wired : driver.hardware.channel? line with
  | none => rw [(driver.driven_of_unwired wired level).1]; exact .refl driver
  | some channel =>
    rw [Remembers, driver.history_driven (by rw [wired]; rfl) level]
    exact List.suffix_cons _ _

theorem remembers_requested (driver : Driver stage capacity) (request : AlarmRequest) :
    Remembers driver (driver.requested request) := by
  rw [Remembers]
  rcases driver.history_requested request with same | ⟨-, same⟩ <;> rw [same] <;>
    exact List.suffix_cons _ _

theorem remembers_announcing (driver : Driver stage capacity) (announcements : List Announcement) :
    Remembers driver (driver.announcing announcements) := by
  simp only [Remembers, announcing]
  generalize driver.hardware = hardware
  induction announcements generalizing hardware with
  | nil => exact List.suffix_refl _
  | cons announcement later ih =>
    have one : hardware.history <:+ (hardware.record (.announced announcement)).history :=
      List.suffix_cons _ _
    exact one.trans (ih _)

theorem remembers_fault (driver : Driver .ready capacity) : Remembers driver driver.fault :=
  (driver.remembers_driven .step false).trans (remembers_driven _ .standby false)

end Remembers

/-- An action forgets nothing, whether or not it fails. -/
def KeepsHistory {α : Type} (action : Action stage capacity α) : Prop :=
  ∀ driver : Driver stage capacity, Remembers driver (driver.afterwards action)

section KeepsHistory

variable {α : Type}

theorem KeepsHistory.ensures {action : Action stage capacity α} (keeps : KeepsHistory action)
    (driver : Driver stage capacity) :
    Ensures action driver (fun _ => Remembers driver) fun _ => Remembers driver := by
  have remembers := keeps driver
  unfold afterwards at remembers
  unfold Ensures
  split at remembers <;> simp_all

/-- No part of a tick forgets anything. -/
theorem composes_keepsHistory :
    Composes fun α (action : Action .ready capacity α) => KeepsHistory action where
  pure _ := Remembers.refl
  bind {_ _ first second} one two driver := by
    have begun := one driver
    rw [afterwards_bind]
    unfold afterwards at begun
    cases outcome : first driver with
    | ok result later =>
      rw [outcome] at begun
      exact begun.trans (two result later)
    | error error later =>
      rw [outcome] at begun
      exact begun
  get_bind _ every driver := every driver driver
  drive line level driver :=
    (ensures_drive (fun _ => driver.remembers_driven line level)
      fun _ => driver.remembers_driven line level).afterwards
  advance driver := driver.remembers_announcing driver.sequencer.advance.2
  noteDirection _ := Remembers.refl
  setHalfStep _ := Remembers.refl

theorem keepsHistory_request (request : AlarmRequest) (refusal : MotorError) :
    KeepsHistory (Driver.request request refusal : Action stage capacity Unit) := fun driver =>
  (ensures_request (fun _ => driver.remembers_requested request)
    fun _ => driver.remembers_requested request).afterwards

theorem keepsHistory_reschedule : KeepsHistory (reschedule : Action .ready capacity Unit) :=
  composes_keepsHistory.reschedule fun _ => keepsHistory_request _ _

theorem keepsHistory_tick : KeepsHistory (tick : Action .ready capacity Unit) := by
  intro driver
  have worked := composes_keepsHistory.bind composes_keepsHistory.work
    (fun _ => keepsHistory_reschedule) driver
  unfold afterwards at worked ⊢
  rw [tick]
  split at worked
  · next outcome =>
    rw [outcome]
    exact worked
  · next failed outcome =>
    rw [outcome]
    exact worked.trans failed.remembers_fault

end KeepsHistory

end Driver

end LinearAxis
