import LinearAxis.Reading.Axis
import Mathlib.Data.List.Perm.Basic

/-!
# The two forms of an axis

An axis is written as a table of its fields or as an array of them.  Either reader takes values for
fields one after the other, and what comes of them depends on which value is given for which field,
but not on their order.  So a table is read like the array of its values
(`LinearAxis.Axis.ofToml_table_iff_array`).
-/

namespace LinearAxis

/-! ## Fields and slots -/

namespace AxisField

@[simp] theorem ofKey?_key (field : AxisField) : ofKey? field.key = some field := by
  cases field <;> rfl

/-- What the value of a field is read as. -/
def Content : AxisField → Type
  | name => BoundedText 32
  | distancePerStep => Millimeters
  | maxAcceleration | maxVelocity => Float
  | microstepMode => MicrostepMode
  | invertDirection => Bool

/-- Reads a value as the content of a field. -/
def read : (field : AxisField) → Toml → Except ReadError field.Content
  | name => readName
  | distancePerStep => readDistance
  | maxAcceleration | maxVelocity => readLimit
  | microstepMode => readMode
  | invertDirection => readFlag

/-- The content of a field that no value is given for, if there may be none. -/
def default? : (field : AxisField) → Option field.Content
  | name | distancePerStep | maxAcceleration | maxVelocity => none
  | microstepMode => some MicrostepMode.full
  | invertDirection => some false

end AxisField

/-- The content of a field of an axis. -/
def Axis.content (axis : Axis) : (field : AxisField) → field.Content
  | .name => axis.name
  | .distancePerStep => axis.distancePerStep
  | .maxAcceleration => axis.maxAcceleration
  | .maxVelocity => axis.maxVelocity
  | .microstepMode => axis.microstepMode
  | .invertDirection => axis.invertDirection

/-- A value that is given for a field. -/
abbrev GivenValue := AxisField × Toml

/-- Some values make an axis up: each of them is read as the content of its field, and every other
field has its default. -/
def Axis.MadeUpOf (axis : Axis) (given : List GivenValue) : Prop :=
  ∀ field, (∀ value, (field, value) ∈ given → field.read value = .ok (axis.content field)) ∧
    (field ∉ given.map Prod.fst → field.default? = some (axis.content field))

namespace AxisDraft

variable {draft later : AxisDraft} {field : AxisField} {given : List GivenValue}

/-- The content of a field that was read so far. -/
def slot (draft : AxisDraft) : (field : AxisField) → Option field.Content
  | .name => draft.name
  | .distancePerStep => draft.distancePerStep
  | .maxAcceleration => draft.maxAcceleration
  | .maxVelocity => draft.maxVelocity
  | .microstepMode => draft.microstepMode
  | .invertDirection => draft.invertDirection

/-- The draft with given slots. -/
def ofSlots (slots : (field : AxisField) → Option field.Content) : AxisDraft where
  name := slots .name
  distancePerStep := slots .distancePerStep
  maxAcceleration := slots .maxAcceleration
  maxVelocity := slots .maxVelocity
  microstepMode := slots .microstepMode
  invertDirection := slots .invertDirection

/-- Puts content into the slot of a field. -/
def put (draft : AxisDraft) : (field : AxisField) → field.Content → AxisDraft
  | .name, content => { draft with name := some content }
  | .distancePerStep, content => { draft with distancePerStep := some content }
  | .maxAcceleration, content => { draft with maxAcceleration := some content }
  | .maxVelocity, content => { draft with maxVelocity := some content }
  | .microstepMode, content => { draft with microstepMode := some content }
  | .invertDirection, content => { draft with invertDirection := some content }

@[simp] theorem slot_empty (field : AxisField) : ({} : AxisDraft).slot field = none := by
  cases field <;> rfl

@[simp] theorem slot_ofSlots (slots : (field : AxisField) → Option field.Content)
    (field : AxisField) : (ofSlots slots).slot field = slots field := by
  cases field <;> rfl

@[simp] theorem slot_put (draft : AxisDraft) (field : AxisField) (content : field.Content) :
    (draft.put field content).slot field = some content := by
  cases field <;> rfl

theorem slot_put_of_ne {other : AxisField} (apart : other ≠ field) (content : field.Content) :
    (draft.put field content).slot other = draft.slot other := by
  cases field <;> cases other <;> first | rfl | exact absurd rfl apart

theorem eq_of_slots (same : ∀ field, draft.slot field = later.slot field) : draft = later := by
  obtain ⟨name, distance, acceleration, velocity, mode, flag⟩ := draft
  cases same .name
  cases same .distancePerStep
  cases same .maxAcceleration
  cases same .maxVelocity
  cases same .microstepMode
  cases same .invertDirection
  rfl

/-- A value is read as the content of its field and put into its slot. -/
theorem set_eq (draft : AxisDraft) (field : AxisField) (value : Toml) :
    draft.set field value = draft.put field <$> field.read value := by
  cases field <;> exact (map_eq_pure_bind _ _).symm

/-- A draft is complete if every slot is filled or has a default, whatever the faults are
otherwise. -/
theorem complete_eq_ok_iff {lacking : AxisField → ReadError} {axis : Axis} :
    draft.complete lacking = .ok axis ↔
      ∀ field, (draft.slot field).or field.default? = some (axis.content field) := by
  unfold complete
  constructor
  · intro completed
    split at completed <;> cases completed
    next name distance acceleration velocity =>
      intro field
      cases field with
      | name => exact congrArg (Option.or · none) name
      | distancePerStep => exact congrArg (Option.or · none) distance
      | maxAcceleration => exact congrArg (Option.or · none) acceleration
      | maxVelocity => exact congrArg (Option.or · none) velocity
      | microstepMode | invertDirection => exact Option.or_some
  · intro filled
    have required {field : AxisField} (bare : field.default? = none) :
        draft.slot field = some (axis.content field) := by
      rw [← filled field, bare, Option.or_none]
    have name : draft.name = some axis.name := @required .name rfl
    have distance : draft.distancePerStep = some axis.distancePerStep :=
      @required .distancePerStep rfl
    have acceleration : draft.maxAcceleration = some axis.maxAcceleration :=
      @required .maxAcceleration rfl
    have velocity : draft.maxVelocity = some axis.maxVelocity := @required .maxVelocity rfl
    have mode : draft.microstepMode.getD .full = axis.microstepMode :=
      Option.some.inj (Option.or_some.symm.trans (filled .microstepMode))
    have flag : draft.invertDirection.getD false = axis.invertDirection :=
      Option.some.inj (Option.or_some.symm.trans (filled .invertDirection))
    rw [name, distance, acceleration, velocity, mode, flag]

/-! ## Taking values -/

/-- Takes values for their fields, one after the other. -/
def setAll (given : List GivenValue) (draft : AxisDraft) : Except ReadError AxisDraft :=
  given.foldlM (fun draft entry => draft.set entry.1 entry.2) draft

/-- The value that an entry of a table gives, if its key names a field. -/
def given? (entry : String × Toml) : Option GivenValue :=
  (AxisField.ofKey? entry.1).map (·, entry.2)

/-- The values that the entries of a table give for fields. -/
def givenBy (entries : List (String × Toml)) : List GivenValue :=
  entries.filterMap given?

theorem setEntries_eq (entries : List (String × Toml)) (draft : AxisDraft) :
    setEntries entries draft = setAll (givenBy entries) draft := by
  induction entries generalizing draft with
  | nil => rfl
  | cons entry rest ih =>
    obtain ⟨key, value⟩ := entry
    rw [setEntries, givenBy, List.filterMap_cons, given?]
    cases AxisField.ofKey? key with
    | none => exact ih draft
    | some field => exact congrArg (draft.set field value >>= ·) (funext ih)

theorem setItems_eq (fields : List AxisField) (items : List Toml) (draft : AxisDraft) :
    setItems fields items draft = setAll (fields.zip items) draft := by
  induction fields generalizing items draft with
  | nil => rfl
  | cons field fields ih =>
    cases items with
    | nil => rfl
    | cons value values => exact congrArg (draft.set field value >>= ·) (funext (ih values))

/-- A later draft has the contents that some values are read as in the slots of their fields, and
the other slots as they were. -/
def Takes (draft : AxisDraft) (given : List GivenValue) (later : AxisDraft) : Prop :=
  ∀ field, (∀ value, (field, value) ∈ given →
      ∃ content, field.read value = .ok content ∧ later.slot field = some content) ∧
    (field ∉ given.map Prod.fst → later.slot field = draft.slot field)

theorem takes_nil_iff : draft.Takes [] later ↔ draft = later :=
  ⟨fun takes => eq_of_slots fun field => ((takes field).2 List.not_mem_nil).symm,
    fun same _ => ⟨nofun, fun _ => same ▸ rfl⟩⟩

/-- One more value fills its slot, which the later ones leave as it is. -/
theorem takes_cons_iff {value : Toml} {content : field.Content} (fresh : field ∉ given.map Prod.fst)
    (reads : field.read value = .ok content) :
    draft.Takes ((field, value) :: given) later ↔ (draft.put field content).Takes given later := by
  constructor
  · intro takes other
    by_cases same : other = field
    · subst same
      obtain ⟨content', reads', filled⟩ := (takes other).1 value (.head _)
      rw [reads] at reads'
      cases reads'
      refine ⟨fun _ member => absurd (List.mem_map_of_mem member) fresh, fun _ => ?_⟩
      rw [filled, slot_put]
    · refine ⟨fun other' member => (takes other).1 other' (.tail _ member), fun absent => ?_⟩
      rw [slot_put_of_ne same]
      exact (takes other).2 fun member => (List.mem_cons.mp member).elim same absent
  · intro takes other
    by_cases same : other = field
    · subst same
      refine ⟨fun value' member => ?_, fun absent => absurd (.head _) absent⟩
      rcases List.mem_cons.mp member with first | further
      · cases first
        exact ⟨content, reads, ((takes other).2 fresh).trans (slot_put _ _ _)⟩
      · exact absurd (List.mem_map_of_mem further) fresh
    · refine ⟨fun value' member => ?_, fun absent => ?_⟩
      · rcases List.mem_cons.mp member with first | further
        · exact absurd (congrArg Prod.fst first) same
        · exact (takes other).1 value' further
      · rw [(takes other).2 fun member => absent (.tail _ member), slot_put_of_ne same]

/-- Where values for distinct fields are taken one after the other, the order is forgotten. -/
theorem setAll_eq_ok_iff (once : (given.map Prod.fst).Nodup) :
    setAll given draft = .ok later ↔ draft.Takes given later := by
  induction given generalizing draft with
  | nil => rw [takes_nil_iff]; exact ⟨Except.ok.inj, congrArg Except.ok⟩
  | cons entry rest ih =>
    obtain ⟨field, value⟩ := entry
    rw [List.map_cons, List.nodup_cons] at once
    rw [setAll, List.foldlM_cons, set_eq]
    cases reads : field.read value with
    | error fault =>
      -- Both sides fail: the rest is not read, and no draft has taken this value.
      refine ⟨nofun, fun takes => ?_⟩
      obtain ⟨content, same, -⟩ := (takes field).1 value (.head _)
      rw [reads] at same
      cases same
    | ok content =>
      rw [takes_cons_iff once.1 reads]
      exact ih once.2

/-- The draft of an axis in which only the fields are filled that values are given for. -/
def ofAxis (axis : Axis) (given : List GivenValue) : AxisDraft :=
  ofSlots fun field => if field ∈ given.map Prod.fst then some (axis.content field) else none

theorem slot_ofAxis_of_mem (axis : Axis) (known : field ∈ given.map Prod.fst) :
    (ofAxis axis given).slot field = some (axis.content field) := by
  rw [ofAxis, slot_ofSlots, if_pos known]

theorem slot_ofAxis_of_not_mem (axis : Axis) (absent : field ∉ given.map Prod.fst) :
    (ofAxis axis given).slot field = none := by
  rw [ofAxis, slot_ofSlots, if_neg absent]

theorem takes_ofAxis {axis : Axis} (madeUp : axis.MadeUpOf given) :
    ({} : AxisDraft).Takes given (ofAxis axis given) := by
  refine fun field => ⟨fun value member => ?_, fun absent => ?_⟩
  · exact ⟨_, (madeUp field).1 value member,
      slot_ofAxis_of_mem axis (List.mem_map_of_mem member)⟩
  · rw [slot_ofAxis_of_not_mem axis absent, slot_empty]

theorem complete_ofAxis {axis : Axis} (madeUp : axis.MadeUpOf given)
    (lacking : AxisField → ReadError) : (ofAxis axis given).complete lacking = .ok axis := by
  refine complete_eq_ok_iff.mpr fun field => ?_
  by_cases known : field ∈ given.map Prod.fst
  · rw [slot_ofAxis_of_mem axis known, Option.some_or]
  · rw [slot_ofAxis_of_not_mem axis known, Option.none_or, (madeUp field).2 known]

theorem madeUpOf_of_complete {axis : Axis} {lacking : AxisField → ReadError}
    (takes : ({} : AxisDraft).Takes given draft) (completed : draft.complete lacking = .ok axis) :
    axis.MadeUpOf given := by
  have filled := complete_eq_ok_iff.mp completed
  refine fun field => ⟨fun value member => ?_, fun absent => ?_⟩
  · obtain ⟨content, reads, slot⟩ := (takes field).1 value member
    have same := filled field
    rw [slot] at same
    rw [reads]
    exact congrArg Except.ok (Option.some.inj same)
  · rw [← filled field, (takes field).2 absent, slot_empty, Option.none_or]

/-- Taking values for distinct fields leads to an axis exactly if they make it up. -/
theorem complete_setAll_eq_ok_iff {axis : Axis} {lacking : AxisField → ReadError}
    (once : (given.map Prod.fst).Nodup) :
    (do (← setAll given {}).complete lacking) = .ok axis ↔ axis.MadeUpOf given := by
  constructor
  · intro completed
    cases taken : setAll given {} with
    | error fault =>
      rw [taken] at completed
      cases completed
    | ok draft =>
      rw [taken] at completed
      exact madeUpOf_of_complete ((setAll_eq_ok_iff once).mp taken) completed
  · intro madeUp
    rw [(setAll_eq_ok_iff once).mpr (takes_ofAxis madeUp)]
    exact complete_ofAxis madeUp lacking

end AxisDraft

/-! ## Tables and arrays -/

/-- A table holds the items of an array under the keys of their fields, in any order and with any
further entries in between.  Items beyond the sixth belong to no field. -/
def Writes (entries : List (String × Toml)) (items : List Toml) : Prop :=
  (entries.filter fun entry => (AxisField.ofKey? entry.1).isSome).Perm
    ((AxisField.all.zip items).map fun given => (given.1.key, given.2))

section Writes

variable {entries : List (String × Toml)} {items : List Toml} {given given' : List GivenValue}
  {axis : Axis}

theorem Writes.perm (writes : Writes entries items) :
    (AxisDraft.givenBy entries).Perm (AxisField.all.zip items) := by
  have known : (fun entry => if (AxisField.ofKey? entry.1).isSome then AxisDraft.given? entry
      else none) = AxisDraft.given? := by
    funext entry
    rw [AxisDraft.given?]
    cases AxisField.ofKey? entry.1 <;> rfl
  have keyed : (AxisDraft.given? ∘ fun given : GivenValue => (given.1.key, given.2)) = some :=
    funext fun given => congrArg (Option.map (·, given.2)) given.1.ofKey?_key
  have same := List.Perm.filterMap AxisDraft.given? writes
  rw [List.filterMap_filter, List.filterMap_map, known, keyed, List.filterMap_some] at same
  exact same

/-- No two items of an array are taken for the same field. -/
theorem nodup_zip (items : List Toml) : ((AxisField.all.zip items).map Prod.fst).Nodup := by
  rw [List.zip_eq_zip_take_min, List.map_fst_zip (by simp)]
  exact (List.take_sublist _ _).nodup (by decide)

/-- The order in which the values are given does not matter. -/
theorem Axis.madeUpOf_perm_iff (same : given.Perm given') :
    axis.MadeUpOf given ↔ axis.MadeUpOf given' := by
  simp only [MadeUpOf, same.mem_iff, (same.map Prod.fst).mem_iff]

/-- An array is read as the axis that its items make up, taken for the fields in their order. -/
theorem Axis.ofToml_array_eq_ok_iff :
    Axis.ofToml (.array items) = .ok axis ↔ axis.MadeUpOf (AxisField.all.zip items) := by
  have once := nodup_zip items
  rw [← AxisDraft.complete_setAll_eq_ok_iff once, ← AxisDraft.setItems_eq]
  rfl

/-- A table is read as the axis that its values for fields make up, if there is one for each field
at most. -/
theorem Axis.ofToml_table_eq_ok_iff
    (once : ((AxisDraft.givenBy entries).map Prod.fst).Nodup) :
    Axis.ofToml (.table entries) = .ok axis ↔ axis.MadeUpOf (AxisDraft.givenBy entries) := by
  rw [← AxisDraft.complete_setAll_eq_ok_iff once, ← AxisDraft.setEntries_eq]
  rfl

/-- **The two forms of an axis.** A table is read as an axis exactly if the array of its values is,
and as the same one: the axis that the values make up. -/
theorem Axis.ofToml_table_iff_array (writes : Writes entries items) :
    (Axis.ofToml (.table entries) = .ok axis ↔ Axis.ofToml (.array items) = .ok axis) ∧
      (Axis.ofToml (.array items) = .ok axis ↔ axis.MadeUpOf (AxisField.all.zip items)) := by
  have same := writes.perm
  have once := (same.map Prod.fst).nodup_iff.mpr (nodup_zip items)
  refine ⟨?_, ofToml_array_eq_ok_iff⟩
  rw [ofToml_table_eq_ok_iff once, ofToml_array_eq_ok_iff, madeUpOf_perm_iff same]

/-- A lift is the same axis as an array with an item too many and as a table of its fields from the
last to the first, with its color in between. -/
theorem Axis.ofToml_table_iff_array_of_lift :
    let items : List Toml := [.string "Lift", .integer 2, .float 0.1, .integer 1, .string "half",
      .boolean true, .string "Hall"]
    let entries : List (String × Toml) := [("invert_direction", .boolean true),
      ("microstep_mode", .string "half"), ("color", .string "red"),
      ("max_velocity_m_per_s", .integer 1), ("max_acceleration_m_per_s2", .float 0.1),
      ("distance_per_step_mm", .integer 2), ("name", .string "Lift")]
    Writes entries items ∧ ∃ axis, Axis.ofToml (.table entries) = .ok axis ∧
      Axis.ofToml (.array items) = .ok axis := by
  intro items entries
  have backwards : entries.filter (fun entry => (AxisField.ofKey? entry.1).isSome) =
      ((AxisField.all.zip items).map fun given => (given.1.key, given.2)).reverse := rfl
  have writes : Writes entries items := by
    rw [Writes, backwards]
    exact List.reverse_perm _
  refine ⟨writes, ?_⟩
  have accepts : (Axis.ofToml (.array items)).isOk = true := by decide +kernel
  cases read : Axis.ofToml (.array items) with
  | error fault =>
    rw [read] at accepts
    cases accepts
  | ok axis => exact ⟨axis, (ofToml_table_iff_array writes).1.mpr read, rfl⟩

end Writes

end LinearAxis
