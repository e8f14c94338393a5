/-!
# Microstepping

A driver chip divides the full step of its motor.  Two mode-select lines choose the division.
-/

namespace LinearAxis

/-- The division of a full step. -/
inductive MicrostepMode where
  | full
  | half
  | quarter
  | eighth
deriving DecidableEq, Repr

namespace MicrostepMode

instance : Inhabited MicrostepMode := ⟨full⟩

/-- Every mode, in the order in which a configuration lists them. -/
def all : List MicrostepMode := [full, half, quarter, eighth]

/-- The word for the mode in a configuration. -/
def word : MicrostepMode → String
  | full => "full"
  | half => "half"
  | quarter => "quarter"
  | eighth => "eighth"

/-- The name of the mode in a message. -/
def title : MicrostepMode → String
  | full => "Full"
  | half => "Half"
  | quarter => "Quarter"
  | eighth => "Eighth"

/-- The mode that a configuration word stands for. -/
def ofWord? (word : String) : Option MicrostepMode :=
  all.find? fun mode => mode.word == word

@[simp] theorem ofWord?_word (mode : MicrostepMode) : ofWord? mode.word = some mode := by
  cases mode <;> rfl

/-- The level of the first mode-select line. -/
def firstLine : MicrostepMode → Bool
  | full | quarter => false
  | half | eighth => true

/-- The level of the second mode-select line. -/
def secondLine : MicrostepMode → Bool
  | full | half => false
  | quarter | eighth => true

/-- The two mode-select lines tell the modes apart. -/
theorem eq_of_lines_eq {left right : MicrostepMode} (first : left.firstLine = right.firstLine)
    (second : left.secondLine = right.secondLine) : left = right := by
  cases left <;> cases right <;> simp_all [firstLine, secondLine]

end MicrostepMode

end LinearAxis
