import LinearAxis.Driver
import LinearAxis.Machine

/-!
# Assembling a driver

A kit collects the parts of a driver.  It can be assembled once no part is missing and the axis is
valid.
-/

namespace LinearAxis

/-- The parts of a driver collected so far. -/
structure Kit where
  stepPin : Option Channel := none
  directionPin : Option Channel := none
  standbyPin : Option Channel := none
  modePins : Option ModePins := none
  timer : Option Alarm := none
  axis : Option Axis := none

namespace Kit

/-- Takes the axis of a machine that is stored under a name. -/
def ofMachine (kit : Kit) (machine : Machine) (name : String) : Except ConfigError Kit := do
  let axis ← machine.requireAxis name
  return { kit with axis := some axis }

/-- A part, or the error that it is missing. -/
def require {α : Type} (part : Part) (choice : Option α) : Except ConfigError α :=
  match choice with
  | some chosen => .ok chosen
  | none => .error (.missing part)

/-- Assembles the driver.  The parts are asked for in their order, the first missing one is the
error, and the axis is validated last. -/
def assemble (kit : Kit) (capacity : Nat) :
    Except ConfigError (Driver .unconfigured capacity) := do
  let stepPin ← require .stepPin kit.stepPin
  let directionPin ← require .directionPin kit.directionPin
  let standbyPin ← require .standbyPin kit.standbyPin
  let modePins ← require .modePins kit.modePins
  let alarm ← require .timer kit.timer
  let axis ← require .axis kit.axis
  axis.validate
  return {
    name := axis.name
    microstepMode := axis.microstepMode
    invertDirection := axis.invertDirection
    hardware := { stepPin, directionPin, standbyPin, modePins, alarm }
    sequencer := .initial (.ofAxis axis) }

end Kit

end LinearAxis
