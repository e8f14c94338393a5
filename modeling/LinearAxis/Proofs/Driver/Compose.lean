import LinearAxis.Proofs.Driver.Action

/-!
# What all parts of a tick have in common

A tick is made of a few operations on the lines, the alarm and the driver's own notes, done one
after the other.  What holds of each of these operations, and of two actions in a row if it holds of
both, holds of all that ticks are made of (`LinearAxis.Driver.Composes`).  No part of a tick looks
at what is remembered: more that is remembered from earlier times makes no difference to it.
-/

namespace LinearAxis

/-- The lines and the alarm with more to remember, from before all that they remember. -/
def Hardware.recalling (hardware : Hardware) (past : List Event) : Hardware :=
  { hardware with history := hardware.history ++ past }

namespace Driver

variable {stage : Stage} {capacity : Nat}

/-- The driver with more to remember, from before all that it remembers. -/
def recalling (driver : Driver stage capacity) (past : List Event) : Driver stage capacity :=
  { driver with hardware := driver.hardware.recalling past }

/-- A property that the operations of a driver have, and that is kept by doing one action after
another and by looking at the driver before deciding what to do. -/
structure Composes (holds : (α : Type) → Action .ready capacity α → Prop) : Prop where
  pure {α : Type} (result : α) : holds α (pure result)
  bind {α β : Type} {first : Action .ready capacity β} {second : β → Action .ready capacity α}
    (one : holds β first) (two : ∀ result, holds α (second result)) : holds α (first >>= second)
  /-- What is done next may depend on anything but what is remembered. -/
  get_bind {α : Type} {next : Driver .ready capacity → Action .ready capacity α}
    (blind : ∀ driver past, next (driver.recalling past) = next driver)
    (every : ∀ driver, holds α (next driver)) : holds α (get >>= next)
  drive (line : Line) (level : Bool) : holds Unit (drive line level)
  advance : holds Unit advance
  noteDirection (direction : Direction) : holds Unit (noteDirection direction)
  setHalfStep (halfStep : Bool) : holds Unit (setHalfStep halfStep)

namespace Composes

variable {holds : (α : Type) → Action .ready capacity α → Prop}

theorem showDirection (composes : Composes holds) (direction : Direction) :
    holds Unit (showDirection direction) := by
  apply composes.get_bind fun _ _ => rfl
  intro driver
  split
  · exact composes.pure ()
  · exact composes.bind (composes.drive _ _) fun _ => composes.noteDirection _

theorem toggleStep (composes : Composes holds) : holds Unit toggleStep := by
  apply composes.get_bind fun _ _ => rfl
  intro driver
  split
  · apply composes.bind (composes.drive _ _)
    intro _
    exact composes.bind (composes.setHalfStep _) fun _ => composes.showDirection _
  · apply composes.bind composes.advance
    intro _
    apply composes.bind (composes.showDirection _)
    intro _
    exact composes.bind (composes.drive _ _) fun _ => composes.setHalfStep _

theorem work (composes : Composes holds) : holds Unit work := by
  apply composes.get_bind fun _ _ => rfl
  intro driver
  split
  · exact composes.advance
  · exact composes.toggleStep

theorem finishStep (composes : Composes holds) : holds Unit finishStep := by
  apply composes.get_bind fun _ _ => rfl
  intro driver
  split
  · exact composes.bind (composes.drive _ _) fun _ => composes.setHalfStep _
  · exact composes.pure ()

/-- What ends a tick holds too if it holds of the request that arms the alarm. -/
theorem reschedule (composes : Composes holds)
    (arms : ∀ interval, holds Unit (request (.arm interval) .timer)) : holds Unit reschedule := by
  apply composes.get_bind fun _ _ => rfl
  intro driver
  dsimp only
  split
  · exact composes.bind composes.finishStep fun _ => composes.drive _ _
  · exact composes.bind (composes.drive _ _) fun _ => arms _

end Composes

end Driver

end LinearAxis
