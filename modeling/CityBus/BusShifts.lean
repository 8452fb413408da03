import CityBus.TrackingRuns

/-!
The shift of a bus: everything that was sent for it since its driver registered. The
server keeps the newest fixes and the last word on everything else, and this is all that
it can tell of the bus.
-/

namespace CityBus.BusShifts

open AuthService GeoUtils GuardedRuns KeyedMaps LiveTracking RingBuffers Store TrackingHandler
open TrackingRuns

inductive Entry (K : Type) where
  | located (fix : TimedPoint K) (accuracy : Option K) (visible : Option Bool)
  | reported (occupancy : Occupancy)
  | switched (visible : Bool)

variable {K : Type}

def Entry.fix : Entry K → Option (TimedPoint K)
  | .located fix _ _ => some fix
  | _ => none

def Entry.accuracy : Entry K → Option K
  | .located _ accuracy _ => accuracy
  | _ => none

def Entry.visible : Entry K → Option Bool
  | .located _ _ visible => visible
  | .switched visible => some visible
  | _ => none

def Entry.occupancy : Entry K → Option Occupancy
  | .reported occupancy => some occupancy
  | _ => none

/-- A shift with all its entries, the oldest first. -/
structure Shift (K : Type) where
  driverId : String
  routeNumber : Option Int
  routeColor : Option String
  begun : Int
  entries : List (Entry K)

namespace Shift

def add (shift : Shift K) (entry : Entry K) : Shift K :=
  { shift with entries := shift.entries ++ [entry] }

def fixes (shift : Shift K) : List (TimedPoint K) := shift.entries.filterMap Entry.fix

def last {Word : Type} (shift : Shift K) (word : Entry K → Option Word) : Option Word :=
  (shift.entries.filterMap word).getLast?

def live (code : String) (shift : Shift K) : LiveBusState K where
  busCode := code
  driverId := shift.driverId
  routeNumber := shift.routeNumber
  routeColor := shift.routeColor
  recent := ⟨shift.fixes.rtake RING_BUFFER_SIZE, by
    rw [List.rtake, List.length_drop]
    omega⟩
  visible := (shift.last Entry.visible).getD true
  accuracy := shift.last Entry.accuracy
  lastSeen := (shift.fixes.getLast?.map (·.timestamp)).getD shift.begun
  occupancy := shift.last Entry.occupancy

theorem fixes_add (shift : Shift K) (entry : Entry K) :
    (shift.add entry).fixes = shift.fixes ++ entry.fix.toList := by
  cases told : entry.fix with
  | none => simp [fixes, add, told]
  | some fix => simp [fixes, add, told]

theorem last_add {Word : Type} (shift : Shift K) (entry : Entry K) (word : Entry K → Option Word) :
    (shift.add entry).last word = (word entry).or (shift.last word) := by
  cases told : word entry with
  | none => simp [last, add, told]
  | some said => simp [last, add, told]

theorem live_new (code driverId : String) (routeNumber : Option Int) (routeColor : Option String)
    (now : Int) : live code (⟨driverId, routeNumber, routeColor, now, []⟩ : Shift K) =
      newLiveBus code driverId routeNumber routeColor now := rfl

end Shift

theorem buffer_eq {size : Nat} {Item : Type} {buffer other : Buffer size Item}
    (same : buffer.items = other.items) : buffer = other := by
  cases buffer
  cases other
  cases same
  rfl

namespace Shift
variable (code : String) (shift : Shift K)

/-- The ring buffer drops what the newest fixes do without. -/
theorem live_located (lat lng : K) (accuracy : Option K) (visible : Option Bool) (now : Int) :
    (shift.add (.located ⟨lat, lng, now⟩ accuracy visible)).live code =
      (shift.live code).locate lat lng accuracy visible now := by
  have fixes := shift.fixes_add (.located ⟨lat, lng, now⟩ accuracy visible)
  simp only [live, LiveBusState.locate, LiveBusState.mk.injEq]
  refine ⟨trivial, rfl, rfl, rfl, ?_, ?_, ?_, ?_, ?_⟩
  · apply buffer_eq
    rw [items_push]
    exact (congrArg (List.rtake · RING_BUFFER_SIZE) fixes).trans
      (rtake_append_rtake RING_BUFFER_SIZE shift.fixes [⟨lat, lng, now⟩]).symm
  · rw [last_add]
    cases visible with
    | none => rfl
    | some seen => rfl
  · rw [last_add]
    cases accuracy with
    | none => rfl
    | some metres => rfl
  · rw [fixes, Entry.fix, Option.toList_some, List.getLast?_concat, Option.map_some,
      Option.getD_some]
  · rw [last_add]
    rfl

theorem live_reported (occupancy : Occupancy) :
    (shift.add (.reported occupancy)).live code =
      { shift.live code with occupancy := some occupancy } := by
  simp only [live, LiveBusState.mk.injEq, fixes_add, last_add, Entry.fix, Entry.visible,
    Entry.accuracy, Entry.occupancy, Option.toList_none, List.append_nil, Option.none_or,
    Option.some_or]
  exact ⟨trivial, rfl, rfl, rfl, trivial, trivial, trivial, rfl, trivial⟩

theorem live_switched (visible : Bool) :
    (shift.add (.switched visible)).live code = { shift.live code with visible := visible } := by
  simp only [live, LiveBusState.mk.injEq, fixes_add, last_add, Entry.fix, Entry.visible,
    Entry.accuracy, Entry.occupancy, Option.toList_none, List.append_nil, Option.none_or,
    Option.some_or, Option.getD_some]
  exact ⟨trivial, rfl, rfl, rfl, trivial, trivial, trivial, rfl, trivial⟩

end Shift

/-! ## The log of a run -/

section Log
variable [Field K] [LinearOrder K]

def driverOf (tracking : Tracking K) (code id : String) : Option String :=
  ((getSession tracking id).filter fun session => session.role = .DRIVER code).map (·.clientId)

def logged (tracking : Tracking K) (now : Int) (code : String) (shift : Option (Shift K)) :
    Call K → Option (Shift K)
  | .registerDriver _ driverId busCode routeNumber routeColor =>
      if code = busCode then some ⟨driverId, routeNumber, routeColor, now, []⟩ else shift
  | .updateDriverLocation id lat lng accuracy visible =>
      match driverOf tracking code id with
      | none => shift
      | some driverId =>
          if isValidLatitude lat && isValidLongitude lng then
            -- A bus that was retired under its driver starts again without a route.
            some ((shift.getD ⟨driverId, none, none, now, []⟩).add
              (.located ⟨lat, lng, now⟩ accuracy visible))
          else shift
  | .setOccupancy id occupancy =>
      if driverBus tracking id = some code then shift.map (·.add (.reported occupancy)) else shift
  | .setDriverVisibility driverId visible =>
      shift.map fun shift =>
        if shift.driverId = driverId then shift.add (.switched visible) else shift
  | .removeSession id => if driverBus tracking id = some code then none else shift
  | .evictStaleSessions timeoutMs =>
      if (staleSessions tracking now timeoutMs).any fun session =>
          driverBus tracking session.sessionId = some code then none
      else shift
  | .registerUser .. | .updateUserLocation .. | .trackBus .. | .subscribeRoute .. => shift
  | .touch _ | .pendingProximityAlerts => shift

variable [FloorRing K] (geo : GeoDistance K)

def shiftFrom (code : String) (tracking : Tracking K) (shift : Option (Shift K)) :
    List (Int × Event K) → Option (Shift K)
  | [] => shift
  | (now, event) :: rest =>
      shiftFrom code (serve tracking now geo event)
        ((eventCall tracking now event).elim shift (logged tracking now code shift)) rest

end Log

/-! ## The server keeps what the log says -/

section Refines
variable [Field K] [LinearOrder K] {tracking : Tracking K} {shift : Option (Shift K)}
  {code : String}

omit [Field K] [LinearOrder K] in
theorem driver_of_some {id driverId : String} (drives : driverOf tracking code id = some driverId) :
    ∃ session, getSession tracking id = some session ∧ session.role = .DRIVER code ∧
      session.clientId = driverId := by
  obtain ⟨session, kept, named⟩ := Option.map_eq_some_iff.mp drives
  obtain ⟨found, role⟩ := Option.filter_eq_some_iff.mp kept
  exact ⟨session, found, of_decide_eq_true role, named⟩

omit [Field K] [LinearOrder K] in
theorem driver_of_none {id : String} (drives : driverOf tracking code id = none) :
    driverBus tracking id ≠ some code := by
  intro driven
  obtain ⟨session, found, role⟩ := driver_role driven
  simp [driverOf, found, role] at drives

theorem location_logged (refines : tracking.liveBuses.lookup code = shift.map (Shift.live code))
    (now : Int) (id : String) (lat lng : K) (accuracy : Option K) (visible : Option Bool) :
    (updateDriverLocation tracking now id lat lng accuracy visible).liveBuses.lookup code =
      (logged tracking now code shift (.updateDriverLocation id lat lng accuracy visible)).map
        (Shift.live code) := by
  rw [location_lookup, logged]
  cases drives : driverOf tracking code id with
  | none => rw [if_neg (driver_of_none drives), refines]
  | some driverId =>
      obtain ⟨session, found, role, rfl⟩ := driver_of_some drives
      have driven : driverBus tracking id = some code := by
        rw [driver_bus_role found, role]
        rfl
      rw [if_pos driven, located_valid found role]
      by_cases valid : (isValidLatitude lat && isValidLongitude lng) = true
      · simp only [if_pos valid, Option.some_or, Option.map_some, Option.some.injEq]
        rw [Shift.live_located, computeIfAbsent, refines]
        cases shift with
        | none => rfl
        | some shift => rfl
      · simp only [if_neg valid, Option.none_or, refines]

theorem perform_logged (geo : GeoDistance K)
    (refines : tracking.liveBuses.lookup code = shift.map (Shift.live code)) (now : Int)
    (call : Call K) : (perform geo tracking now call).liveBuses.lookup code =
      (logged tracking now code shift call).map (Shift.live code) := by
  cases call with
  | registerDriver id driverId busCode routeNumber routeColor =>
      rw [perform, register_driver_lookup, logged]
      by_cases same : code = busCode
      · rw [if_pos same, if_pos same, Option.map_some, Shift.live_new, same]
      · rw [if_neg same, if_neg same, refines]
  | updateDriverLocation id lat lng accuracy visible =>
      exact location_logged refines now id lat lng accuracy visible
  | setOccupancy id occupancy =>
      rw [perform, occupancy_lookup, logged, refines]
      split
      · rw [Option.map_map, Option.map_map]
        congr 1
        funext shift
        exact (shift.live_reported code occupancy).symm
      · rfl
  | setDriverVisibility driverId visible =>
      rw [perform, visibility_lookup, logged, refines, Option.map_map, Option.map_map]
      congr 1
      funext shift
      by_cases own : shift.driverId = driverId
      · simp only [Function.comp_apply, if_pos own, Shift.live_switched]
        exact if_pos own
      · simp only [Function.comp_apply, if_neg own]
        exact if_neg own
  | removeSession id =>
      rw [perform, remove_session_lookup, logged]
      split
      · rfl
      · exact refines
  | evictStaleSessions timeoutMs =>
      have gone : (∃ id ∈ (staleSessions tracking now timeoutMs).map (·.sessionId),
          driverBus tracking id = some code) ↔
          ((staleSessions tracking now timeoutMs).any fun session =>
            driverBus tracking session.sessionId = some code) = true := by
        simp
      rw [perform, LiveTracking.evictStaleSessions, remove_all_lookup, logged]
      simp only [gone]
      split
      · rfl
      · exact refines
  | registerUser | updateUserLocation | trackBus | subscribeRoute | touch
  | pendingProximityAlerts =>
      rw [leaves_buses_eq tracking now geo rfl]
      exact refines

variable [FloorRing K] (geo : GeoDistance K)

theorem serve_logged (refines : tracking.liveBuses.lookup code = shift.map (Shift.live code))
    (now : Int) (event : Event K) :
    (serve tracking now geo event).liveBuses.lookup code =
      ((eventCall tracking now event).elim shift (logged tracking now code shift)).map
        (Shift.live code) := by
  rw [serve_eq]
  cases eventCall tracking now event with
  | none => exact refines
  | some call => exact perform_logged geo refines now call

theorem run_logged {actions : List (Int × Event K)} {after : Tracking K}
    (refines : tracking.liveBuses.lookup code = shift.map (Shift.live code))
    (run : Run (serves geo) tracking actions after) :
    after.liveBuses.lookup code =
      (shiftFrom geo code tracking shift actions).map (Shift.live code) := by
  induction run generalizing shift with
  | refl => exact refines
  | next head tail ih =>
      subst head
      exact ih (serve_logged geo refines _ _)

/-- Whatever was sent in whatever order, the trace of a bus is the newest fixes of its
shift, and what else the server tells of it is the last word of the shift. -/
theorem shift_told {actions : List (Int × Event K)}
    (run : Run (serves geo) Tracking.empty actions tracking) (code : String) :
    history tracking code =
        ((shiftFrom geo code Tracking.empty none actions).elim [] Shift.fixes).rtake
          RING_BUFFER_SIZE ∧
      liveBus geo tracking code =
        (shiftFrom geo code Tracking.empty none actions).map fun shift =>
          toDto geo (shift.live code) := by
  have kept : tracking.liveBuses.lookup code =
      (shiftFrom geo code Tracking.empty none actions).map (Shift.live code) :=
    run_logged geo rfl run
  constructor
  · rw [history, kept]
    cases shiftFrom geo code Tracking.empty none actions with
    | none => rfl
    | some shift => rfl
  · rw [liveBus, kept, Option.map_map]
    rfl

end Refines

def meeraToken : Claims := ⟨"meera", "DRIVER", "Meera", some "bus-4", 0, 10000⟩

def morningShift : List (Int × Event ℚ) :=
  [(0, .message Database.empty "s1" (.driverRegister (some meeraToken))),
    (1000, .message Database.empty "s1" (.driverLocation (some (1, 2)) (some 5) none)),
    (2000, .message Database.empty "s1" (.driverOccupancy "full")),
    (3000, .message Database.empty "s1" (.driverLocation (some (1, 3)) none (some false)))]

theorem morning_told : ∃ tracking : Tracking ℚ,
    Run (serves taxicab) Tracking.empty morningShift tracking ∧
      history tracking "bus-4" = [⟨1, 2, 1000⟩, ⟨1, 3, 3000⟩] ∧
      history tracking "bus-4" =
        ((shiftFrom taxicab "bus-4" Tracking.empty none morningShift).elim [] Shift.fixes).rtake
          RING_BUFFER_SIZE ∧
      liveBus taxicab tracking "bus-4" =
        (shiftFrom taxicab "bus-4" Tracking.empty none morningShift).map fun shift =>
          toDto taxicab (shift.live "bus-4") := by
  have run : ∃ tracking : Tracking ℚ,
      Run (serves taxicab) Tracking.empty morningShift tracking ∧
        history tracking "bus-4" = [⟨1, 2, 1000⟩, ⟨1, 3, 3000⟩] :=
    ⟨_, Run.next rfl (Run.next rfl (Run.next rfl (Run.next rfl (Run.refl _)))), by decide +kernel⟩
  obtain ⟨tracking, run, trace⟩ := run
  exact ⟨tracking, run, trace, shift_told taxicab run "bus-4"⟩

end CityBus.BusShifts
