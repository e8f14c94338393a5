import LinearAxis.Axis

/-!
# The axes of a machine

A machine has up to eight axes, each stored under a key of its own.
-/

namespace LinearAxis

/-- The axes of a machine by key, in the order in which they were added. -/
@[ext] structure Machine where
  axes : List (BoundedText 32 × Axis)
  length_le : axes.length ≤ 8
  keys_nodup : (axes.map Prod.fst).Nodup
deriving DecidableEq

namespace Machine

/-- The machine without axes. -/
def empty : Machine := ⟨[], Nat.zero_le _, List.nodup_nil⟩

instance : Inhabited Machine := ⟨empty⟩

variable (machine : Machine)

/-- Stores an axis under a key: over the axis stored there before, or behind all others.  A ninth
key is refused. -/
def insert? (key : BoundedText 32) (axis : Axis) : Option Machine :=
  if known : key ∈ machine.axes.map Prod.fst then
    let axes := machine.axes.map fun entry => if entry.1 = key then (key, axis) else entry
    have keys : axes.map Prod.fst = machine.axes.map Prod.fst := by
      rw [List.map_map]
      exact List.map_congr_left fun entry _ => by
        by_cases same : entry.1 = key <;> simp [same]
    some ⟨axes, by rw [List.length_map]; exact machine.length_le, keys ▸ machine.keys_nodup⟩
  else if room : machine.axes.length < 8 then
    some ⟨machine.axes ++ [(key, axis)], by rw [List.length_append]; exact room, by
      rw [List.map_append]
      exact List.nodup_append.mpr ⟨machine.keys_nodup,
        List.nodup_cons.mpr ⟨by simp, List.nodup_nil⟩,
        fun left member right last equal => by
          simp only [List.map_cons, List.map_nil, List.mem_singleton] at last
          exact known (last ▸ equal ▸ member)⟩⟩
  else none

/-- The axis stored under a name. -/
def axis? (name : String) : Option Axis :=
  (machine.axes.find? fun entry => entry.1.text == name).map Prod.snd

/-- The axis stored under a name, or the error that there is none.  The error keeps the name if it
fits. -/
def requireAxis (name : String) : Except ConfigError Axis :=
  match machine.axis? name with
  | some axis => .ok axis
  | none => .error (.axisNotFound (.ofStringOrEmpty name))

/-- Accepts a machine whose axes are all valid, and refuses it for the first that is not. -/
def validate : Except ConfigError Unit :=
  machine.axes.forM fun entry => entry.2.validate

end Machine

end LinearAxis
