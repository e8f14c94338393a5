import LinearAxis.Route

/-!
# Routes as lists

A route is used through five operations.  Each of them does to it what it does to a plain list of
waypoints for which there is limited room: from a new route on, the same is told about every
operation of a run, and in the end the route shows what the list holds, which never outgrows the
room and never holds a key twice (`LinearAxis.Route.lists_of_run`).
-/

namespace LinearAxis.Route

variable {capacity : Nat}

/-- Something that is done with a route. -/
inductive Operation where
  | push (waypoint : Waypoint)
  | arrive
  | pop
  | popBack
  | clear
deriving DecidableEq

/-- What an operation returns. -/
inductive Reply where
  | pushed
  | refused (cause : RouteError)
  /-- Whether the head has given way to the waypoint behind it. -/
  | arrived (gaveWay : Bool)
  | removed (waypoint? : Option Waypoint)
  | cleared
deriving DecidableEq

/-- What an operation tells: what it returns, and the announcement that it makes, if any. -/
structure Told where
  reply : Reply
  announcement? : Option Announcement := none
deriving DecidableEq

/-- An operation on a route.  A waypoint that is refused changes nothing. -/
def perform (route : Route capacity) : Operation → Told × Route capacity
  | .push waypoint =>
    match route.push waypoint with
    | .ok longer => (⟨.pushed, none⟩, longer)
    | .error cause => (⟨.refused cause, none⟩, route)
  | .arrive => (⟨.arrived route.givesWay, route.announcement?⟩, route.arrive)
  | .pop => (⟨.removed route.head?, none⟩, route.pop)
  | .popBack => (⟨.removed route.last?, none⟩, route.popBack)
  | .clear => (⟨.cleared, none⟩, .empty)

/-- An operation on a plain list of waypoints, for which there is room for so many.  A pending key
is refused whether or not there is room.  The arrival at the head announces it unless that has been
done; the head leaves if another waypoint follows, and otherwise stays with nothing to announce. -/
def performOnList (room : Nat) (waypoints : List Waypoint) : Operation → Told × List Waypoint
  | .push waypoint =>
    if waypoint.key ∈ waypoints.map Waypoint.key then
      (⟨.refused (.alreadyQueued waypoint.key), none⟩, waypoints)
    else if waypoints.length = room then (⟨.refused .full, none⟩, waypoints)
    else (⟨.pushed, none⟩, waypoints ++ [waypoint])
  | .arrive =>
    match waypoints with
    | [] => (⟨.arrived false, none⟩, [])
    | [last] => (⟨.arrived false, last.announcement?⟩, [last.silenced])
    | head :: next :: rest => (⟨.arrived true, head.announcement?⟩, next :: rest)
  | .pop => (⟨.removed waypoints.head?, none⟩, waypoints.tail)
  | .popBack => (⟨.removed waypoints.getLast?, none⟩, waypoints.dropLast)
  | .clear => (⟨.cleared, none⟩, [])

/-- What is told in a run of operations, in order, and where it ends, for operations that are
carried out in a given way. -/
def runBy {State : Type} (carryOut : State → Operation → Told × State) (state : State) :
    List Operation → List Told × State
  | [] => ([], state)
  | operation :: later =>
    let (told, next) := carryOut state operation
    let (others, last) := runBy carryOut next later
    (told :: others, last)

/-- A route shows what a list of waypoints holds. -/
structure Lists (route : Route capacity) (waypoints : List Waypoint) : Prop where
  waypoints_eq : route.waypoints = waypoints
  head : route.head? = waypoints.head?
  following : route.following? = waypoints.tail.head?
  contains (key : UInt16) : route.contains key = true ↔ ∃ waypoint ∈ waypoints, waypoint.key = key
  positions : route.positions = waypoints.map Waypoint.position
  size : route.size = waypoints.length
  isEmpty : route.isEmpty = true ↔ waypoints = []
  isFull : route.isFull = true ↔ waypoints.length = capacity

/-! ## Single operations -/

variable (route : Route capacity)

theorem lists_waypoints : route.Lists route.waypoints where
  waypoints_eq := rfl
  head := rfl
  following := by
    rw [following?, List.head?_tail]
  contains key := by
    rw [contains_iff, List.mem_map]
  positions := rfl
  size := rfl
  isEmpty := List.isEmpty_iff
  isFull := by
    rw [isFull, beq_iff_eq, Route.size]

theorem perform_push (waypoint : Waypoint) :
    ((route.perform (.push waypoint)).1, (route.perform (.push waypoint)).2.waypoints) =
      performOnList capacity route.waypoints (.push waypoint) := by
  rw [perform, performOnList]
  cases pushed : route.push waypoint with
  | ok longer =>
    obtain ⟨fresh, room, same⟩ := route.push_eq_ok_iff.mp pushed
    rw [if_neg fresh, if_neg (Nat.ne_of_lt room), same]
  | error cause =>
    rcases route.push_eq_error_iff.mp pushed with ⟨pending, rfl⟩ | ⟨fresh, full, rfl⟩
    · rw [if_pos pending]
    · rw [if_neg fresh, if_pos (Nat.le_antisymm route.length_le full)]

theorem perform_arrive :
    ((route.perform .arrive).1, (route.perform .arrive).2.waypoints) =
      performOnList capacity route.waypoints .arrive := by
  change ((⟨.arrived route.givesWay, route.announcement?⟩ : Told), route.arrive.waypoints) = _
  rw [givesWay]
  match pending : route.waypoints with
  | [] =>
    have few : ¬ 1 < route.size := by rw [size, pending]; exact Nat.not_lt_zero 1
    have silent : route.announcement? = none := by rw [announcement?, head?, pending]; rfl
    rw [decide_eq_false few, silent, arrive, if_neg few, route.silenceHead_of_silent silent,
      pending]
    rfl
  | [last] =>
    have few : ¬ 1 < route.size := by rw [size, pending]; exact Nat.lt_irrefl 1
    rw [decide_eq_false few, route.announcement?_of_cons pending, arrive, if_neg few,
      route.silenceHead_of_cons pending]
    rfl
  | head :: next :: rest =>
    have several : 1 < route.size := by
      rw [size, pending]
      exact Nat.succ_lt_succ (Nat.succ_pos _)
    rw [decide_eq_true several, route.announcement?_of_cons pending,
      route.waypoints_arrive_of_several several, pending]
    rfl

/-- An operation tells the same about a route and about the list of its waypoints, and does the same
to both. -/
theorem perform_waypoints (operation : Operation) :
    ((route.perform operation).1, (route.perform operation).2.waypoints) =
      performOnList capacity route.waypoints operation := by
  cases operation with
  | push waypoint => exact route.perform_push waypoint
  | arrive => exact route.perform_arrive
  | pop | popBack | clear => rfl

/-! ## Runs -/

theorem runBy_perform (operations : List Operation) :
    ((runBy perform route operations).1, (runBy perform route operations).2.waypoints) =
      runBy (performOnList capacity) route.waypoints operations := by
  induction operations generalizing route with
  | nil => rfl
  | cons operation later ih =>
    rw [runBy, runBy, ← route.perform_waypoints operation]
    dsimp only
    rw [← ih]

/-- **A route behaves as a list.** In every run from a new route, the same is told about each
operation as for a plain list with the same room, and in the end the route shows what the list
holds.  The list has never more waypoints than there is room for, and no two of them have the same
key. -/
theorem lists_of_run (operations : List Operation) :
    let route := runBy perform (empty : Route capacity) operations
    let list := runBy (performOnList capacity) [] operations
    route.1 = list.1 ∧ route.2.Lists list.2 ∧ list.2.length ≤ capacity ∧
      (list.2.map Waypoint.key).Nodup := by
  intro route list
  have same : (route.1, route.2.waypoints) = list := runBy_perform empty operations
  have told : route.1 = list.1 := congrArg Prod.fst same
  have held : route.2.waypoints = list.2 := congrArg Prod.snd same
  rw [← held]
  exact ⟨told, route.2.lists_waypoints, route.2.length_le, route.2.keys_nodup⟩

/-- The last waypoint stays after its announcement, and its key is pending until it is removed. -/
example :
    (runBy perform (empty : Route 2) [.push ⟨1, .clamp 5, true⟩, .arrive, .arrive,
      .push ⟨1, .clamp 7, true⟩, .pop, .push ⟨1, .clamp 7, true⟩]).1.map Told.reply =
      [.pushed, .arrived false, .arrived false, .refused (.alreadyQueued 1),
        .removed (some ⟨1, .clamp 5, false⟩), .pushed] := by decide

end LinearAxis.Route
