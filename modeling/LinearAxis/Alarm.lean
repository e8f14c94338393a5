import LinearAxis.Quantity

/-!
# Alarms and tick signals

A one-shot alarm paces the steps.  Its expiry only raises a tick signal; the axis moves when the
signal is served.  Where there is no hardware alarm, a delay alarm remembers the interval that was
asked for and sleeps it out when it is waited for.
-/

namespace LinearAxis

/-- A request to an alarm. -/
inductive AlarmRequest where
  /-- Start the counter behind the alarm. -/
  | start
  /-- Expire once, so many microseconds from now. -/
  | arm (interval : Micros)
  /-- Expire as soon as possible. -/
  | now
deriving DecidableEq

/-- A blocking alarm on top of a delay. -/
structure DelayAlarm where
  /-- The interval to sleep out, if the alarm is armed. -/
  pending : Option Micros := none
deriving DecidableEq

namespace DelayAlarm

variable (alarm : DelayAlarm)

/-- Whether an expiry is still to come. -/
def isArmed : Bool := alarm.pending.isSome

/-- The alarm after a request, none of which it refuses. -/
def request (_alarm : DelayAlarm) : AlarmRequest → DelayAlarm
  | .start => ⟨none⟩
  | .arm interval => ⟨some interval⟩
  | .now => ⟨some .zero⟩

/-- The alarm after it has been waited for. -/
def expired (_alarm : DelayAlarm) : DelayAlarm := ⟨none⟩

/-- The sleep that waiting takes; an expiry that is due at once takes none. -/
def sleep? : Option Micros := alarm.pending.filter fun interval => !interval.isZero

end DelayAlarm

/-- A flag between the expiry of an alarm and the task that serves it.  Several expiries before a
service count once. -/
structure TickSignal where
  isPending : Bool := false
deriving DecidableEq

namespace TickSignal

/-- The signal after an expiry. -/
def notify (_signal : TickSignal) : TickSignal := ⟨true⟩

/-- The signal after it has been taken. -/
def taken (_signal : TickSignal) : TickSignal := ⟨false⟩

end TickSignal

end LinearAxis
