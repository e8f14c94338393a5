import LinearAxis.Proofs.Advance

/-!
# Runs of a sequencer

Everything that a caller can do with a sequencer is a command.  A run is a list of them, and what
every command keeps holds after every run (`LinearAxis.Sequencer.run_invariant`).
-/

namespace LinearAxis.Sequencer

variable {capacity : Nat}

/-- Something that a caller does with a sequencer. -/
inductive Command where
  | enqueue (waypoint : Waypoint)
  | withdrawLast
  | setPosition (position : Millimeters)
  | clearRoute
  | halt
  | advance
deriving DecidableEq

/-- The sequencer after a command.  A waypoint that is refused changes nothing. -/
def after (sequencer : Sequencer capacity) : Command → Sequencer capacity
  | .enqueue waypoint =>
    match sequencer.enqueue waypoint with
    | .ok (_, later) => later
    | .error _ => sequencer
  | .withdrawLast => sequencer.withdrawLast
  | .setPosition position => sequencer.setPosition position
  | .clearRoute => sequencer.clearRoute
  | .halt => sequencer.halt
  | .advance => sequencer.advance.1

/-- The sequencer after a run of commands. -/
def run (sequencer : Sequencer capacity) (commands : List Command) : Sequencer capacity :=
  commands.foldl after sequencer

@[simp] theorem run_nil (sequencer : Sequencer capacity) : sequencer.run [] = sequencer := rfl

@[simp] theorem run_cons (sequencer : Sequencer capacity) (command : Command)
    (commands : List Command) :
    sequencer.run (command :: commands) = (sequencer.after command).run commands := rfl

/-- What every command keeps holds after every run. -/
theorem run_invariant (invariant : Sequencer capacity → Prop)
    (kept : ∀ sequencer command, invariant sequencer → invariant (sequencer.after command))
    {sequencer : Sequencer capacity} (holds : invariant sequencer) (commands : List Command) :
    invariant (sequencer.run commands) := by
  induction commands generalizing sequencer with
  | nil => exact holds
  | cons command commands ih => exact ih (kept sequencer command holds)

theorem after_enqueue_eq (sequencer : Sequencer capacity) (waypoint : Waypoint) :
    ∃ route, sequencer.after (.enqueue waypoint) = { sequencer with route } := by
  rw [after, enqueue]
  cases sequencer.route.push waypoint with
  | ok route => exact ⟨route, rfl⟩
  | error refusal => exact ⟨sequencer.route, rfl⟩

theorem limits_after {sequencer : Sequencer capacity}
    (cruise : sequencer.limits.cruiseInterval ≠ .zero) (command : Command) :
    (sequencer.after command).limits = sequencer.limits := by
  cases command with
  | enqueue waypoint =>
    obtain ⟨route, same⟩ := sequencer.after_enqueue_eq waypoint
    rw [same]
  | advance => exact (settles_advance cruise).limits_eq cruise
  | withdrawLast | setPosition | clearRoute | halt => rfl

end LinearAxis.Sequencer
