import LinearAxis.Proofs.Driver.Call

/-!
# Nothing is looked up

The history of a driver is written and never read.  Whatever more is remembered, an action has the
same outcome and leaves the same driver behind, with that much more remembered
(`LinearAxis.Driver.Blind`).  So do whole runs: what a caller is told in a run, and what happens in
it, does not depend on what happened before (`LinearAxis.Driver.run_recalling`).
-/

namespace LinearAxis

/-! ## Lines and alarm -/

namespace Hardware

variable (hardware : Hardware) (past : List Event)

theorem setChannel_recalling (line : Line) (channel : Channel) :
    (hardware.recalling past).setChannel line channel =
      (hardware.setChannel line channel).recalling past := by
  obtain ⟨_, _, _, modePins, _, _⟩ := hardware
  cases line <;> cases modePins <;> rfl

theorem drive_recalling (line : Line) (level : Bool) :
    (hardware.recalling past).drive line level =
      ((hardware.drive line level).1, (hardware.drive line level).2.recalling past) := by
  have same : (hardware.recalling past).channel? line = hardware.channel? line := by
    cases line <;> rfl
  simp only [drive, same]
  cases hardware.channel? line with
  | none => rfl
  | some channel =>
    simp only [setChannel_recalling]
    rfl

theorem request_recalling (request : AlarmRequest) :
    (hardware.recalling past).request request =
      ((hardware.request request).1, (hardware.request request).2.recalling past) := by
  obtain ⟨_, _, _, _, alarm, _⟩ := hardware
  cases alarm with
  | delay alarm => rfl
  | hardware start arm now => cases request <;> rfl

theorem wait_recalling :
    (hardware.recalling past).wait = (hardware.wait.1, hardware.wait.2.recalling past) := by
  obtain ⟨_, _, _, _, alarm, _⟩ := hardware
  cases alarm with
  | delay alarm =>
    simp only [Hardware.wait, recalling]
    cases alarm.sleep? <;> rfl
  | hardware start arm now => rfl

end Hardware

namespace Driver

variable {stage : Stage} {capacity : Nat} {α β : Type}

/-! ## Actions -/

/-- The outcome of an action with more to remember, from before all that is remembered. -/
def outcomeRecalling (past : List Event) :
    EStateM.Result Error (Driver stage capacity) α → EStateM.Result Error (Driver stage capacity) α
  | .ok result later => .ok result (later.recalling past)
  | .error error later => .error error (later.recalling past)

/-- An action takes no notice of what is remembered. -/
def Blind (action : Action stage capacity α) : Prop :=
  ∀ driver past, action (driver.recalling past) = outcomeRecalling past (action driver)

section Blind

variable {action : Action stage capacity α}

theorem Blind.afterwards_recalling (blind : Blind action) (driver : Driver stage capacity)
    (past : List Event) :
    (driver.recalling past).afterwards action = (driver.afterwards action).recalling past := by
  unfold afterwards
  rw [blind driver past]
  cases action driver <;> rfl

theorem Blind.bind {first : Action stage capacity β} {second : β → Action stage capacity α}
    (one : Blind first) (two : ∀ result, Blind (second result)) : Blind (first >>= second) := by
  intro driver past
  change EStateM.bind first second _ = outcomeRecalling past (EStateM.bind first second driver)
  unfold EStateM.bind
  rw [one driver past]
  cases first driver with
  | ok result later => exact two result later past
  | error error later => rfl

theorem blind_pure (result : α) : Blind (pure result : Action stage capacity α) :=
  fun _ _ => rfl

theorem blind_drive (line : Line) (level : Bool) :
    Blind (drive line level : Action stage capacity Unit) := by
  intro driver past
  simp only [drive, recalling, Hardware.drive_recalling]
  split <;> rfl

theorem blind_request (request : AlarmRequest) (refused : MotorError) :
    Blind (Driver.request request refused : Action stage capacity Unit) := by
  intro driver past
  simp only [Driver.request, recalling, Hardware.request_recalling]
  split <;> rfl

theorem recalling_announcing (driver : Driver stage capacity) (past : List Event)
    (announcements : List Announcement) :
    (driver.recalling past).announcing announcements =
      (driver.announcing announcements).recalling past := by
  simp only [announcing, recalling]
  congr 1
  generalize driver.hardware = hardware
  induction announcements generalizing hardware with
  | nil => rfl
  | cons announcement later ih => exact ih (hardware.record (.announced announcement))

theorem blind_advance : Blind (advance : Action stage capacity Unit) := by
  intro driver past
  have announced := driver.recalling_announcing past driver.sequencer.advance.2
  have advanced : (driver.recalling past).advanced = driver.advanced.recalling past := by
    unfold Driver.advanced
    exact congrArg (fun told : Driver stage capacity =>
      { told with sequencer := driver.sequencer.advance.1 }) announced
  exact congrArg (EStateM.Result.ok ()) advanced

/-- No part of a tick takes notice of what is remembered. -/
theorem composes_blind :
    Composes fun α (action : Action .ready capacity α) => Blind action where
  pure := blind_pure
  bind := Blind.bind
  get_bind {_ next} blind every driver past := by
    change next (driver.recalling past) (driver.recalling past) = _
    rw [blind]
    exact every driver driver past
  drive := blind_drive
  advance := blind_advance
  noteDirection _ _ _ := rfl
  setHalfStep _ _ _ := rfl

theorem fault_recalling (driver : Driver .ready capacity) (past : List Event) :
    (driver.recalling past).fault = driver.fault.recalling past := by
  simp only [fault, recalling, Hardware.drive_recalling]

theorem blind_tick : Blind (tick : Action .ready capacity Unit) := by
  intro driver past
  have works : Blind (do work; reschedule : Action .ready capacity Unit) :=
    composes_blind.work.bind fun _ => composes_blind.reschedule fun _ => blind_request _ _
  rw [tick, tick, works driver past]
  cases (do work; reschedule : Action .ready capacity Unit) driver with
  | ok result later => rfl
  | error error failed => exact congrArg (EStateM.Result.error error) (failed.fault_recalling past)

theorem blind_enqueue (waypoint : Waypoint) :
    Blind (enqueue waypoint : Action .ready capacity Unit) := by
  intro driver past
  have same : (driver.recalling past).sequencer = driver.sequencer := rfl
  simp only [enqueue, same]
  cases driver.sequencer.enqueue waypoint with
  | error refusal => rfl
  | ok decided =>
    obtain ⟨_ | _, sequencer⟩ := decided
    · rfl
    · let asking : Driver .ready capacity := { driver with sequencer }
      have asked : request .now .timer { driver.recalling past with sequencer } =
          outcomeRecalling past (request .now .timer asking) :=
        blind_request .now .timer asking past
      dsimp only
      rw [asked]
      cases request .now .timer asking <;> rfl

theorem blind_resume : Blind (resume : Action .ready capacity Bool) := by
  apply composes_blind.get_bind fun _ _ => rfl
  intro driver
  split
  · exact blind_pure false
  · exact (blind_request .now .timer).bind fun _ => blind_pure true

theorem blind_service (signal : TickSignal) :
    Blind (service signal : Action .ready capacity Bool) := by
  unfold service
  split
  · exact blind_tick.bind fun _ => blind_pure true
  · exact blind_pure false

theorem blind_wait : Blind (wait : Action .ready capacity Bool) := by
  intro driver past
  simp only [wait, recalling, Hardware.wait_recalling]
  rfl

theorem blind_runFrom (ticks limit : Nat) :
    Blind (runFrom ticks limit : Action .ready capacity (Option Nat)) := by
  induction limit generalizing ticks with
  | zero => exact blind_pure none
  | succ limit ih =>
    apply blind_wait.bind
    intro expired
    split
    · exact blind_tick.bind fun _ => ih (ticks + 1)
    · exact blind_pure (some ticks)

end Blind

/-! ## Calls and runs -/

/-- What a caller is told by a call. -/
inductive Reply where
  /-- The call was carried out. -/
  | done
  /-- Whether there was something to do. -/
  | acted (acted : Bool)
  /-- The number of ticks, or none where the alarm was left armed. -/
  | counted (ticks : Option Nat)
  /-- Why the call failed. -/
  | failed (error : Error)
deriving DecidableEq

/-- What a caller is told by an action, with its result put into a reply. -/
def told (convert : α → Reply) (action : Action .ready capacity α)
    (driver : Driver .ready capacity) : Reply :=
  match action driver with
  | .ok result _ => convert result
  | .error error _ => .failed error

/-- The reply to a call. -/
def reply (driver : Driver .ready capacity) : Call → Reply
  | .enqueue waypoint => driver.told (fun _ => .done) (enqueue waypoint)
  | .resume => driver.told .acted resume
  | .clearRoute | .setPosition _ => .done
  | .service signal => driver.told .acted (service signal)
  | .tick => driver.told (fun _ => .done) tick
  | .runUntilIdle limit => driver.told .counted (runUntilIdle limit)

/-- The replies to the calls of a run, in their order. -/
def replies (driver : Driver .ready capacity) : List Call → List Reply
  | [] => []
  | call :: later => driver.reply call :: (driver.after call).replies later

theorem Blind.told_recalling {action : Action .ready capacity α} (blind : Blind action)
    (convert : α → Reply) (driver : Driver .ready capacity) (past : List Event) :
    (driver.recalling past).told convert action = driver.told convert action := by
  unfold told
  rw [blind driver past]
  cases action driver <;> rfl

/-- A call does the same and gets the same reply, whatever more is remembered. -/
theorem call_recalling (driver : Driver .ready capacity) (past : List Event) (call : Call) :
    (driver.recalling past).reply call = driver.reply call ∧
      (driver.recalling past).after call = (driver.after call).recalling past := by
  have both {α : Type} {action : Action .ready capacity α} (blind : Blind action)
      (convert : α → Reply) :
      (driver.recalling past).told convert action = driver.told convert action ∧
        (driver.recalling past).afterwards action = (driver.afterwards action).recalling past :=
    ⟨blind.told_recalling convert driver past, blind.afterwards_recalling driver past⟩
  cases call with
  | enqueue waypoint => exact both (blind_enqueue waypoint) _
  | resume => exact both blind_resume _
  | clearRoute | setPosition => exact ⟨rfl, rfl⟩
  | service signal => exact both (blind_service signal) _
  | tick => exact both blind_tick _
  | runUntilIdle limit => exact both (blind_runFrom 0 limit) _

/-- **Nothing is looked up.** In a run, the same happens and the caller is told the same, whatever
more is remembered. -/
theorem run_recalling (driver : Driver .ready capacity) (past : List Event) (calls : List Call) :
    (driver.recalling past).replies calls = driver.replies calls ∧
      (driver.recalling past).run calls = (driver.run calls).recalling past := by
  induction calls generalizing driver with
  | nil => exact ⟨rfl, rfl⟩
  | cons call calls ih =>
    obtain ⟨reply, later⟩ := driver.call_recalling past call
    rw [replies, replies, run_cons, run_cons, reply, later]
    exact ⟨congrArg (driver.reply call :: ·) (ih _).1, (ih _).2⟩

end Driver

end LinearAxis
