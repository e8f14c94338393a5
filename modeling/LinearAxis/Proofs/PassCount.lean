import LinearAxis.Proofs.Command

/-!
# How many passes an advance makes

An advance makes passes until one settles, and sets itself a bound on their number.  Without that
bound the passes would end as well: `LinearAxis.Sequencer.EndsAfter` counts them, there are at most
two more than waypoints, and every bound that allows for so many gives the same advance
(`LinearAxis.Sequencer.advance_ends`).
-/

namespace LinearAxis.Sequencer

variable {capacity : Nat} {sequencer : Sequencer capacity}

/-- The passes from a sequencer end with the one of a number, counted from one: it settles, and none
before it does. -/
inductive EndsAfter : Sequencer capacity → Nat → Prop
  | done {sequencer : Sequencer capacity} (settled : sequencer.pass.isSettled = true) :
      EndsAfter sequencer 1
  | again {sequencer : Sequencer capacity} {passes : Nat}
      (unsettled : sequencer.pass.isSettled = false)
      (rest : EndsAfter sequencer.pass.sequencer passes) : EndsAfter sequencer (passes + 1)

/-- The passes end once as many have been made as can fail to settle, and one more. -/
theorem exists_endsAfter (cruise : sequencer.limits.cruiseInterval ≠ .zero) :
    ∃ passes, EndsAfter sequencer passes ∧ passes ≤ sequencer.unsettledPasses + 1 := by
  generalize bound : sequencer.unsettledPasses = most
  induction most using Nat.strongRecOn generalizing sequencer with
  | ind most ih =>
    cases settled : sequencer.pass.isSettled with
    | true => exact ⟨1, .done settled, Nat.le_add_left _ _⟩
    | false =>
      have fewer := unsettledPasses_pass_lt cruise settled
      rw [bound] at fewer
      obtain ⟨passes, ends, within⟩ := ih _ fewer (cruise_pass cruise) rfl
      exact ⟨passes + 1, .again settled ends, by omega⟩

/-- A bound that allows for all passes makes no difference. -/
theorem EndsAfter.advanceWithin_eq {passes limit : Nat} (ends : EndsAfter sequencer passes)
    (enough : passes ≤ limit) : advanceWithin limit sequencer = advanceWithin passes sequencer := by
  induction ends generalizing limit with
  | done settled =>
    obtain ⟨further, rfl⟩ := Nat.exists_eq_add_of_le' enough
    simp only [advanceWithin, settled, ↓reduceIte]
  | again unsettled _ ih =>
    obtain ⟨further, rfl⟩ := Nat.exists_eq_add_of_le' enough
    rw [← Nat.add_assoc, advanceWithin, advanceWithin, ih (Nat.le_add_left _ further)]

/-- **An advance ends.** With a cruise interval that takes time, the passes of an advance end after
at most two more than waypoints are pending, or one more if the axis is at rest, and every bound on
their number that allows for them gives the same advance. -/
theorem advance_ends (cruise : sequencer.limits.cruiseInterval ≠ .zero) :
    ∃ passes, EndsAfter sequencer passes ∧ passes ≤ sequencer.pending + 2 ∧
      (sequencer.interval = .zero → passes ≤ sequencer.pending + 1) ∧
      ∀ limit, passes ≤ limit → advanceWithin limit sequencer = sequencer.advance := by
  obtain ⟨passes, ends, within⟩ := exists_endsAfter cruise
  have most : passes ≤ sequencer.pending + 2 := by
    rw [unsettledPasses] at within
    split at within <;> omega
  refine ⟨passes, ends, most, ?_, ?_⟩
  · intro resting
    rw [unsettledPasses, if_pos (isStopped_iff.mpr resting)] at within
    exact within
  · intro limit enough
    rw [advance, ends.advanceWithin_eq enough, ends.advanceWithin_eq most]

/-- A slow axis that reaches its last waypoint makes all of them: it comes to rest, gives the
waypoint up and finds nothing left to visit. -/
theorem advance_ends_at_last_waypoint :
    let reached := (initial .slow : Sequencer 8).run
      [.enqueue ⟨0, .clamp 3, true⟩, .advance, .advance, .advance]
    reached.limits.cruiseInterval ≠ .zero ∧ reached.pending = 1 ∧ EndsAfter reached 3 ∧
      ∃ passes, EndsAfter reached passes ∧ passes ≤ reached.pending + 2 ∧
        (reached.interval = .zero → passes ≤ reached.pending + 1) ∧
        ∀ limit, passes ≤ limit → advanceWithin limit reached = reached.advance := by
  intro reached
  have cruise : reached.limits.cruiseInterval ≠ .zero := by decide +kernel
  have first : reached.pass.isSettled = false := by decide +kernel
  have second : reached.pass.sequencer.pass.isSettled = false := by decide +kernel
  have third : reached.pass.sequencer.pass.sequencer.pass.isSettled = true := by decide +kernel
  exact ⟨cruise, by decide +kernel, .again first (.again second (.done third)),
    advance_ends cruise⟩

end LinearAxis.Sequencer
