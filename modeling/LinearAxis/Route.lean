import LinearAxis.Error

/-!
# The route of an axis

A route holds the waypoints still to be visited, in the order of visit.  Its room is bounded and no
key is pending twice.  The waypoint at its head is the one being pursued.
-/

namespace LinearAxis

/-- A target position with an optional announcement of the arrival there. -/
structure Waypoint where
  /-- The caller's name for the waypoint. -/
  key : UInt16
  position : Millimeters
  /-- Whether the arrival is still to be announced. -/
  announces : Bool
deriving DecidableEq

namespace Waypoint

/-- The waypoint after its arrival has been announced. -/
def silenced (waypoint : Waypoint) : Waypoint :=
  { waypoint with announces := false }

/-- The waypoint in words, for diagnosis. -/
def describe (waypoint : Waypoint) : String :=
  "Waypoint \x7b key: WaypointKey(" ++ toString waypoint.key.toNat ++ "), position: " ++
    toString waypoint.position.toInt ++ ", callback: " ++ toString waypoint.announces ++ " \x7d"

end Waypoint

/-- The announcement of an arrival. -/
structure Announcement where
  key : UInt16
  position : Millimeters
deriving DecidableEq

/-- The announcement that an arrival at a waypoint makes, unless it has been made before. -/
def Waypoint.announcement? (waypoint : Waypoint) : Option Announcement :=
  if waypoint.announces then some ⟨waypoint.key, waypoint.position⟩ else none

/-- The waypoints still to be visited, at most `capacity`, with distinct keys. -/
@[ext] structure Route (capacity : Nat) where
  waypoints : List Waypoint
  length_le : waypoints.length ≤ capacity
  keys_nodup : (waypoints.map Waypoint.key).Nodup
deriving DecidableEq

namespace Route

variable {capacity : Nat}

/-- The route with nothing to visit. -/
def empty : Route capacity := ⟨[], Nat.zero_le _, List.nodup_nil⟩

instance : Inhabited (Route capacity) := ⟨empty⟩

variable (route : Route capacity)

/-- The waypoint being pursued. -/
def head? : Option Waypoint := route.waypoints.head?

/-- The waypoint after the head. -/
def following? : Option Waypoint := route.waypoints[1]?

/-- The number of pending waypoints. -/
def size : Nat := route.waypoints.length

/-- Whether nothing is pending. -/
def isEmpty : Bool := route.waypoints.isEmpty

/-- Whether there is no room left. -/
def isFull : Bool := route.size == capacity

/-- Whether a waypoint with the key is pending. -/
def contains (key : UInt16) : Bool := route.waypoints.any fun waypoint => waypoint.key == key

/-- The target positions in the order of visit. -/
def positions : List Millimeters := route.waypoints.map Waypoint.position

/-- A shorter list of the same waypoints is a route too. -/
def restrict (waypoints : List Waypoint) (kept : waypoints.Sublist route.waypoints) :
    Route capacity where
  waypoints
  length_le := Nat.le_trans kept.length_le route.length_le
  keys_nodup := route.keys_nodup.sublist (kept.map _)

/-- Appends a waypoint.  A pending key is refused also when there is no room. -/
def push (waypoint : Waypoint) : Except RouteError (Route capacity) :=
  if pending : waypoint.key ∈ route.waypoints.map Waypoint.key then
    .error (.alreadyQueued waypoint.key)
  else if room : route.waypoints.length < capacity then
    .ok {
      waypoints := route.waypoints ++ [waypoint]
      length_le := by rw [List.length_append]; exact room
      keys_nodup := by
        rw [List.map_append]
        exact List.nodup_append.mpr ⟨route.keys_nodup,
          List.nodup_cons.mpr ⟨by simp, List.nodup_nil⟩,
          fun left member right last equal => by
            simp only [List.map_cons, List.map_nil, List.mem_singleton] at last
            exact pending (last ▸ equal ▸ member)⟩ }
  else
    .error .full

/-- The route without its head. -/
def pop : Route capacity :=
  route.restrict route.waypoints.tail (List.tail_sublist _)

/-- The waypoint pushed last. -/
def last? : Option Waypoint := route.waypoints.getLast?

/-- The route without the waypoint pushed last. -/
def popBack : Route capacity :=
  route.restrict route.waypoints.dropLast (List.dropLast_sublist _)

/-- The route after the arrival at its head has been announced. -/
def silenceHead : Route capacity where
  waypoints := match route.waypoints with
    | [] => []
    | head :: rest => head.silenced :: rest
  length_le := by
    have := route.length_le
    split <;> simp_all
  keys_nodup := by
    have := route.keys_nodup
    split <;> simp_all [Waypoint.silenced]

/-- The announcement that an arrival at the head makes. -/
def announcement? : Option Announcement :=
  route.head?.bind Waypoint.announcement?

/-- The route after the arrival at its head: the head gives way to the waypoint behind it, and
stays, silenced, if there is none. -/
def arrive : Route capacity :=
  if 1 < route.size then route.pop else route.silenceHead

/-- Whether an arrival at the head makes it give way. -/
def givesWay : Bool := decide (1 < route.size)

/-- A key is pending exactly when one of the waypoints has it. -/
theorem contains_iff {key : UInt16} :
    route.contains key = true ↔ key ∈ route.waypoints.map Waypoint.key := by
  simp [contains]

/-- A waypoint is accepted exactly when its key is not pending and there is room, and then it is the
last one. -/
theorem push_eq_ok_iff {waypoint : Waypoint} {longer : Route capacity} :
    route.push waypoint = .ok longer ↔
      waypoint.key ∉ route.waypoints.map Waypoint.key ∧ route.waypoints.length < capacity ∧
        longer.waypoints = route.waypoints ++ [waypoint] := by
  unfold push
  split
  · next pending => simp [pending]
  · next fresh =>
    split
    · next room =>
      refine ⟨fun same => ⟨fresh, room, ?_⟩, fun same => ?_⟩
      · rw [← Except.ok.inj same]
      · exact congrArg Except.ok (Route.ext same.2.2.symm)
    · next noRoom => simp [noRoom]

/-- A refusal says whether the key is pending or there is no room. -/
theorem push_eq_error_iff {waypoint : Waypoint} {refusal : RouteError} :
    route.push waypoint = .error refusal ↔
      (waypoint.key ∈ route.waypoints.map Waypoint.key ∧ refusal = .alreadyQueued waypoint.key) ∨
        (waypoint.key ∉ route.waypoints.map Waypoint.key ∧ capacity ≤ route.waypoints.length ∧
          refusal = .full) := by
  unfold push
  split
  · next pending => simp [pending, eq_comm]
  · next fresh =>
    split
    · next room => simp [fresh, Nat.not_le.mpr room]
    · next noRoom => simp [fresh, Nat.not_lt.mp noRoom, eq_comm]

theorem waypoints_pop : route.pop.waypoints = route.waypoints.tail := rfl

theorem waypoints_popBack : route.popBack.waypoints = route.waypoints.dropLast := rfl

/-- Taking back the waypoint that has just been pushed restores the route. -/
theorem popBack_of_push {waypoint : Waypoint} {longer : Route capacity}
    (pushed : route.push waypoint = .ok longer) : longer.popBack = route := by
  apply Route.ext
  rw [waypoints_popBack, (route.push_eq_ok_iff.mp pushed).2.2, List.dropLast_concat]

theorem waypoints_arrive_of_several (several : 1 < route.size) :
    route.arrive.waypoints = route.waypoints.tail := by
  rw [arrive, if_pos several, waypoints_pop]

theorem length_silenceHead : route.silenceHead.waypoints.length = route.waypoints.length := by
  simp only [silenceHead]
  split <;> simp_all

theorem silenceHead_of_cons {head : Waypoint} {rest : List Waypoint}
    (pending : route.waypoints = head :: rest) :
    route.silenceHead.waypoints = head.silenced :: rest := by
  simp only [silenceHead, pending]

theorem announcement?_of_cons {head : Waypoint} {rest : List Waypoint}
    (pending : route.waypoints = head :: rest) : route.announcement? = head.announcement? := by
  simp only [announcement?, head?, pending, List.head?_cons, Option.bind_some]

/-- Silencing a route without an announcement to make changes nothing. -/
theorem silenceHead_of_silent (silent : route.announcement? = none) :
    route.silenceHead.waypoints = route.waypoints := by
  cases pending : route.waypoints with
  | nil => simp only [silenceHead, pending]
  | cons head rest =>
    rw [route.silenceHead_of_cons pending]
    rw [route.announcement?_of_cons pending] at silent
    have quiet : head.announces = false := by
      cases announces : head.announces with
      | true => simp [Waypoint.announcement?, announces] at silent
      | false => rfl
    rw [Waypoint.silenced, ← quiet]

/-- An arrival silences the head and takes no waypoint but the head off. -/
theorem waypoints_arrive :
    ∃ count, route.arrive.waypoints = route.silenceHead.waypoints.drop count := by
  by_cases several : 1 < route.size
  · refine ⟨1, ?_⟩
    rw [route.waypoints_arrive_of_several several]
    cases pending : route.waypoints with
    | nil => simp [silenceHead, pending]
    | cons head rest =>
      rw [route.silenceHead_of_cons pending]
      rfl
  · refine ⟨0, ?_⟩
    rw [arrive, if_neg several]
    rfl

/-- An arrival adds no waypoint. -/
theorem size_arrive_le : route.arrive.size ≤ route.size := by
  rw [arrive]
  split
  · rw [size, waypoints_pop, List.length_tail]
    exact Nat.sub_le _ _
  · simp only [size, silenceHead]
    split <;> simp_all

/-- Giving the head up takes a waypoint off a route that has one. -/
theorem size_pop_lt (pending : route.waypoints ≠ []) : route.pop.size < route.size := by
  rw [size, waypoints_pop, List.length_tail]
  exact Nat.sub_lt (List.length_pos_iff.mpr pending) Nat.one_pos

/-- An arrival keeps at least one waypoint. -/
theorem arrive_ne_nil (pending : route.waypoints ≠ []) : route.arrive.waypoints ≠ [] := by
  rw [arrive]
  split
  · next several =>
    rw [waypoints_pop, ← List.length_pos_iff, List.length_tail]
    exact Nat.sub_pos_of_lt several
  · simp only [silenceHead]
    split <;> simp_all

end Route

end LinearAxis
