import CityBus.RiderMap
import CityBus.TrackingRuns

/-!
How long a driver stays hidden. The visibility of a bus lives in its live state:
a registration replaces it, a ping after a removal makes a new one, and the toggle
finds it by the driver and not by the bus. A run keeps beside the registry which
buses their drivers have hidden.
-/

namespace CityBus.LastingHiding

open AuthService GeoUtils GuardedRuns KeyedMaps LiveTracking RiderMap RiderProtocol RingBuffers
  Store TrackingHandler TrackingRuns

variable {K : Type}

structure World (K : Type) where
  tracking : Tracking K
  hidden : String → Bool

def World.start : World K := ⟨Tracking.empty, fun _ => false⟩

def ordered (tracking : Tracking K) : Event K → Option (String × Bool)
  | .message _ sessionId (.driverVisibility (some visible)) =>
      (driverBus tracking sessionId).map fun code => (code, visible)
  | .message _ sessionId (.driverLocation _ _ (some true)) =>
      (driverBus tracking sessionId).map fun code => (code, true)
  | _ => none

def marks (world : World K) (event : Event K) : String → Bool :=
  match ordered world.tracking event with
  | none => world.hidden
  | some (code, visible) => Function.update world.hidden code (!visible)

variable [Field K] [LinearOrder K]

/-- A bus that its driver has hidden and not shown again stays hidden with this event. -/
def staysHidden (world : World K) : Event K → Prop
  -- Hiding goes by the driver's id, so the bus has to carry it.
  | .message _ sessionId (.driverVisibility (some false)) =>
      ∀ session code bus, getSession world.tracking sessionId = some session →
        session.role = .DRIVER code → world.tracking.liveBuses.lookup code = some bus →
        bus.visible = true → bus.recent.latest.isSome → bus.driverId = session.clientId
  -- Showing brings up every bus with the driver's id, hidden ones as well.
  | .message db sessionId (.driverVisibility visible) =>
      ∀ session, getSession world.tracking sessionId = some session → session.role ≠ .USER →
        ∀ code bus, marks world (.message db sessionId (.driverVisibility visible)) code = true →
          world.tracking.liveBuses.lookup code = some bus →
          bus.driverId = session.clientId → bus.recent.latest = none
  -- A ping keeps the visibility of the live bus; a bus that it makes is visible.
  | .message _ sessionId (.driverLocation (some coords) _ none) =>
      (isValidLatitude coords.1 && isValidLongitude coords.2) = true →
        ∀ code, driverBus world.tracking sessionId = some code → world.hidden code = true →
          ∃ bus, world.tracking.liveBuses.lookup code = some bus ∧ bus.visible = false
  | _ => True

variable [FloorRing K] (geo : GeoDistance K)

def step (world : World K) (action : Int × Event K) (after : World K) : Prop :=
  after = ⟨serve world.tracking action.1 geo action.2, marks world action.2⟩

def HidingLasts (world : World K) : Prop :=
  ∀ code, world.hidden code = true →
    ∀ dto ∈ snapshotVisibleBuses geo world.tracking, dto.busId ≠ code

/-! ## The snapshot -/

theorem snapshot_ids (tracking : Tracking K) :
    (snapshotVisibleBuses geo tracking).map (·.busId) = mapped tracking := by
  simp only [snapshotVisibleBuses, mapped, List.map_map]
  rfl

theorem lasts_iff {world : World K} :
    HidingLasts geo world ↔ ∀ code, world.hidden code = true → ¬ onMap world.tracking code := by
  have shows (code : String) : onMap world.tracking code ↔
      ∃ dto ∈ snapshotVisibleBuses geo world.tracking, dto.busId = code := by
    rw [← mem_mapped, ← snapshot_ids geo, List.mem_map]
  constructor
  · intro lasts code hidden there
    obtain ⟨dto, listed, same⟩ := (shows code).mp there
    exact lasts code hidden dto listed same
  · intro lasts code hidden dto listed same
    exact lasts code hidden ((shows code).mpr ⟨dto, listed, same⟩)

/-! ## Calls that put no bus on the map -/

def putsOnMap : Call K → Bool
  | .updateDriverLocation .. | .setDriverVisibility .. => true
  | _ => false

section Calls
variable {tracking : Tracking K} {now : Int} {code : String}

omit [FloorRing K] in
theorem calm_call {call : Call K} (calm : putsOnMap call = false)
    (there : onMap (perform geo tracking now call) code) : onMap tracking code := by
  obtain ⟨bus, found, visible, fixed⟩ := there
  cases call with
  | updateDriverLocation | setDriverVisibility => simp [putsOnMap] at calm
  | registerDriver sessionId driverId busCode routeNumber routeColor =>
      simp only [perform, register_driver_lookup] at found
      by_cases same : code = busCode
      · rw [if_pos same] at found
        cases found
        -- The new bus is visible, but has no fix yet.
        simp [newLiveBus, Buffer.empty, Buffer.latest] at fixed
      · rw [if_neg same] at found
        exact ⟨bus, found, visible, fixed⟩
  | setOccupancy sessionId occupancy =>
      simp only [perform, occupancy_lookup] at found
      by_cases drives : driverBus tracking sessionId = some code
      · rw [if_pos drives] at found
        obtain ⟨old, before, rfl⟩ := Option.map_eq_some_iff.mp found
        exact ⟨old, before, visible, fixed⟩
      · rw [if_neg drives] at found
        exact ⟨bus, found, visible, fixed⟩
  | registerUser | updateUserLocation | trackBus | subscribeRoute | touch
  | pendingProximityAlerts =>
      rw [leaves_buses_eq tracking now geo rfl] at found
      exact ⟨bus, found, visible, fixed⟩
  | removeSession sessionId =>
      exact ⟨bus, removed_lookup tracking [sessionId] found, visible, fixed⟩
  | evictStaleSessions timeoutMs =>
      exact ⟨bus, removed_lookup tracking _ found, visible, fixed⟩

theorem calm_event {event : Event K}
    (calm : ∀ call, eventCall tracking now event = some call → putsOnMap call = false)
    (there : onMap (serve tracking now geo event) code) : onMap tracking code := by
  rw [serve_eq] at there
  cases made : eventCall tracking now event with
  | none => rwa [made] at there
  | some call =>
      rw [made] at there
      exact calm_call geo (calm call made) there

/-! ## Toggles and pings -/

omit [Field K] [LinearOrder K] [FloorRing K] in
theorem toggle_on_map {driverId : String} {visible : Bool} :
    onMap (setDriverVisibility tracking driverId visible) code ↔
      ∃ bus, tracking.liveBuses.lookup code = some bus ∧
        (if bus.driverId = driverId then visible else bus.visible) = true ∧
        bus.recent.latest.isSome := by
  simp only [onMap, visibility_lookup, Option.map_eq_some_iff]
  constructor
  · rintro ⟨_, ⟨bus, found, rfl⟩, seen, fixed⟩
    by_cases mine : bus.driverId = driverId
    · rw [if_pos mine] at seen fixed
      exact ⟨bus, found, by rwa [if_pos mine], fixed⟩
    · rw [if_neg mine] at seen fixed
      exact ⟨bus, found, by rwa [if_neg mine], fixed⟩
  · rintro ⟨bus, found, seen, fixed⟩
    refine ⟨_, ⟨bus, found, rfl⟩, ?_⟩
    by_cases mine : bus.driverId = driverId
    · rw [if_pos mine] at seen ⊢
      exact ⟨seen, fixed⟩
    · rw [if_neg mine] at seen ⊢
      exact ⟨seen, fixed⟩

omit [FloorRing K] in
theorem ping_elsewhere {id : String} {lat lng : K} {accuracy : Option K} {visible : Option Bool}
    (other : driverBus tracking id ≠ some code) :
    onMap (updateDriverLocation tracking now id lat lng accuracy visible) code ↔
      onMap tracking code := by
  simp only [onMap, location_lookup, if_neg other]

omit [FloorRing K] in
theorem ping_on_map {id : String} {session : ClientSession K} {lat lng : K} {accuracy : Option K}
    {visible : Option Bool} (found : getSession tracking id = some session)
    (role : session.role = .DRIVER code)
    (valid : (isValidLatitude lat && isValidLongitude lng) = true) :
    onMap (updateDriverLocation tracking now id lat lng accuracy visible) code ↔
      visible.getD (computeIfAbsent tracking now code session.clientId).visible = true := by
  have drives : driverBus tracking id = some code := by
    simp [driver_bus_role found, role, ClientRole.busCode]
  simp only [onMap, location_lookup, if_pos drives, located_valid found role, if_pos valid,
    Option.some_or, Option.some.injEq, exists_eq_left', LiveBusState.locate, latest_push,
    Option.isSome_some, and_true]

omit [FloorRing K] in
theorem ping_refused {id : String} {lat lng : K} {accuracy : Option K} {visible : Option Bool}
    (refused : ¬ ((isValidLatitude lat && isValidLongitude lng) = true ∧
      driverBus tracking id = some code)) :
    onMap (updateDriverLocation tracking now id lat lng accuracy visible) code ↔
      onMap tracking code := by
  by_cases drives : driverBus tracking id = some code
  · have invalid : (isValidLatitude lat && isValidLongitude lng) = false := by
      simpa [drives] using refused
    have rejected := located_some tracking now id lat lng accuracy visible
    rw [invalid, Bool.and_false, Option.isSome_eq_false_iff, Option.isNone_iff_eq_none] at rejected
    simp only [onMap, location_lookup, if_pos drives, rejected, Option.none_or]
  · exact ping_elsewhere drives

end Calls

/-! ## One event -/

section Events
variable {geo} {world : World K} {now : Int} {db : Database K} {id : String}

theorem lasts_kept {after : World K} (lasts : HidingLasts geo world)
    (fewer : ∀ code, after.hidden code = true → world.hidden code = true ∧
      (onMap after.tracking code → onMap world.tracking code)) : HidingLasts geo after := by
  rw [lasts_iff] at lasts ⊢
  intro code hidden there
  obtain ⟨before, back⟩ := fewer code hidden
  exact lasts code before (back there)

theorem calm_lasts {event : Event K} (lasts : HidingLasts geo world)
    (silent : ordered world.tracking event = none)
    (calm : ∀ call, eventCall world.tracking now event = some call → putsOnMap call = false) :
    HidingLasts geo ⟨serve world.tracking now geo event, marks world event⟩ := by
  refine lasts_kept lasts fun code hidden => ⟨?_, calm_event geo calm⟩
  simpa [marks, silent] using hidden

section Toggle
variable {visible : Option Bool}

theorem toggle_serve {session : ClientSession K} {code : String}
    (found : getSession world.tracking id = some session) (role : session.role = .DRIVER code) :
    serve world.tracking now geo (.message db id (.driverVisibility visible)) =
      setDriverVisibility world.tracking session.clientId (visible.getD true) := by
  simp [serve, handleMessage, handleDriverVisibility, found, role, Option.filter_some]

theorem toggle_ignored (rider : driverBus world.tracking id = none) :
    serve world.tracking now geo (.message db id (.driverVisibility visible)) =
      world.tracking := by
  simp only [serve, handleMessage, handleDriverVisibility]
  cases found : getSession world.tracking id with
  | none => rfl
  | some session =>
      have role : session.role = .USER := by
        cases role : session.role with
        | USER => rfl
        | DRIVER code => simp [driver_bus_role found, role, ClientRole.busCode] at rider
      simp [Option.filter_some, role]

omit [Field K] [LinearOrder K] [FloorRing K] in
theorem no_driver {session : ClientSession K} {code : String}
    (rider : driverBus world.tracking id = none)
    (found : getSession world.tracking id = some session) : session.role ≠ .DRIVER code := by
  intro role
  simp [driver_bus_role found, role, ClientRole.busCode] at rider

end Toggle

theorem hide_lasts_iff (lasts : HidingLasts geo world) :
    HidingLasts geo ⟨serve world.tracking now geo (.message db id (.driverVisibility (some false))),
        marks world (.message db id (.driverVisibility (some false)))⟩ ↔
      staysHidden world (.message db id (.driverVisibility (some false))) := by
  cases drives : driverBus world.tracking id with
  | none =>
      have same : marks world (.message db id (.driverVisibility (some false))) = world.hidden := by
        simp [marks, ordered, drives]
      rw [toggle_ignored drives, same]
      refine iff_of_true lasts ?_
      intro session code bus found role
      exact absurd role (no_driver drives found)
  | some code =>
      obtain ⟨session, found, role⟩ := driver_role drives
      have marked : marks world (.message db id (.driverVisibility (some false))) =
          Function.update world.hidden code true := by
        simp [marks, ordered, drives]
      rw [toggle_serve found role, marked]
      rw [lasts_iff] at lasts ⊢
      constructor
      · intro after other named bus found' role' stored visible fixed
        cases found.symm.trans found'
        cases role.symm.trans role'
        by_contra foreign
        refine after code (Function.update_self ..) (toggle_on_map.mpr ⟨bus, stored, ?_, fixed⟩)
        rw [if_neg foreign]
        exact visible
      · intro carried other hidden there
        obtain ⟨bus, stored, seen, fixed⟩ := toggle_on_map.mp there
        by_cases mine : bus.driverId = session.clientId
        · simp [mine] at seen
        · rw [if_neg mine] at seen
          by_cases same : other = code
          · subst same
            exact mine (carried session other bus found role stored seen fixed)
          · simp only [Function.update_of_ne same] at hidden
            exact lasts other hidden ⟨bus, stored, seen, fixed⟩

omit [Field K] [LinearOrder K] [FloorRing K] in
theorem shown_marks {event : Event K} {code : String}
    (shows : ∀ order, ordered world.tracking event = some order → order.2 = true)
    (marked : marks world event code = true) : world.hidden code = true := by
  unfold marks at marked
  cases given : ordered world.tracking event with
  | none => rwa [given] at marked
  | some order =>
      have visible := shows order given
      simp only [given, visible, Bool.not_true, Function.update_apply] at marked
      split at marked
      · cases marked
      · exact marked

omit [Field K] [LinearOrder K] [FloorRing K] in
theorem show_order {visible : Option Bool} (shows : visible.getD true = true)
    {order : String × Bool}
    (given : ordered world.tracking (.message db id (.driverVisibility visible)) = some order) :
    order.2 = true := by
  cases visible with
  | none => cases given
  | some value =>
      cases shows
      obtain ⟨code, _, rfl⟩ := Option.map_eq_some_iff.mp given
      rfl

omit [Field K] [LinearOrder K] [FloorRing K] in
theorem ping_order {coords : Option (K × K)} {accuracy : Option K} {visible : Option Bool}
    {order : String × Bool}
    (given : ordered world.tracking (.message db id (.driverLocation coords accuracy visible)) =
      some order) : order.2 = true := by
  rcases visible with _ | _ | _
  · cases given
  · cases given
  · obtain ⟨code, _, rfl⟩ := Option.map_eq_some_iff.mp given
    rfl

theorem show_lasts_iff {visible : Option Bool} (shows : visible.getD true = true)
    (lasts : HidingLasts geo world) :
    HidingLasts geo ⟨serve world.tracking now geo (.message db id (.driverVisibility visible)),
        marks world (.message db id (.driverVisibility visible))⟩ ↔
      ∀ session, getSession world.tracking id = some session → session.role ≠ .USER →
        ∀ code bus, marks world (.message db id (.driverVisibility visible)) code = true →
          world.tracking.liveBuses.lookup code = some bus →
          bus.driverId = session.clientId → bus.recent.latest = none := by
  cases drives : driverBus world.tracking id with
  | none =>
      rw [toggle_ignored drives]
      refine iff_of_true (lasts_kept lasts fun code marked => ?_) ?_
      · exact ⟨shown_marks (fun _ => show_order shows) marked, fun there => there⟩
      intro session found driver
      cases role : session.role with
      | USER => exact absurd role driver
      | DRIVER code => exact absurd role (no_driver drives found)
  | some own =>
      obtain ⟨session, found, role⟩ := driver_role drives
      rw [toggle_serve found role, shows]
      rw [lasts_iff] at lasts ⊢
      constructor
      · intro after other found' _ code bus marked stored mine
        cases found.symm.trans found'
        by_contra fixed
        refine after code marked (toggle_on_map.mpr ⟨bus, stored, ?_, ?_⟩)
        · rw [if_pos mine]
        · exact Option.isSome_iff_ne_none.mpr fixed
      · intro carried code marked there
        obtain ⟨bus, stored, seen, fixed⟩ := toggle_on_map.mp there
        by_cases mine : bus.driverId = session.clientId
        · have unfixed := carried session found (by simp [role]) code bus marked stored mine
          simp [unfixed] at fixed
        · rw [if_neg mine] at seen
          exact lasts code (shown_marks (fun _ => show_order shows) marked) ⟨bus, stored, seen, fixed⟩

/-- A ping that names no visibility keeps a hidden bus hidden exactly if it finds it. -/
theorem ping_lasts_iff {coords : K × K} {accuracy : Option K} (lasts : HidingLasts geo world) :
    HidingLasts geo
        ⟨serve world.tracking now geo (.message db id (.driverLocation (some coords) accuracy none)),
          world.hidden⟩ ↔
      staysHidden world (.message db id (.driverLocation (some coords) accuracy none)) := by
  rw [serve_eq, lasts_iff]
  simp only [eventCall, messageCall, Option.map_some, settle, perform]
  rw [lasts_iff] at lasts
  constructor
  · intro after valid code drives hidden
    obtain ⟨session, found, role⟩ := driver_role drives
    have away := after code hidden
    rw [ping_on_map found role valid, Option.getD_none, computeIfAbsent] at away
    cases stored : world.tracking.liveBuses.lookup code with
    | none => simp [stored, newLiveBus] at away
    | some bus => exact ⟨bus, rfl, by simpa [stored] using away⟩
  · intro finds code hidden there
    by_cases taken : (isValidLatitude coords.1 && isValidLongitude coords.2) = true ∧
        driverBus world.tracking id = some code
    · obtain ⟨session, found, role⟩ := driver_role taken.2
      obtain ⟨bus, stored, invisible⟩ := finds taken.1 code taken.2 hidden
      have seen := (ping_on_map found role taken.1).mp there
      simp [computeIfAbsent, stored, invisible] at seen
    · exact lasts code hidden ((ping_refused taken).mp there)

theorem ordered_ping_lasts {coords : K × K} {accuracy : Option K} {visible : Bool}
    (lasts : HidingLasts geo world) :
    HidingLasts geo
      ⟨serve world.tracking now geo
          (.message db id (.driverLocation (some coords) accuracy (some visible))),
        marks world (.message db id (.driverLocation (some coords) accuracy (some visible)))⟩ := by
  rw [serve_eq]
  simp only [eventCall, messageCall, Option.map_some, settle, perform]
  refine lasts_kept lasts fun code marked => ⟨shown_marks (fun _ => ping_order) marked, ?_⟩
  intro there
  by_cases drives : driverBus world.tracking id = some code
  · cases visible with
    | true => simp [marks, ordered, drives] at marked
    | false =>
        obtain ⟨session, found, role⟩ := driver_role drives
        by_cases valid : (isValidLatitude coords.1 && isValidLongitude coords.2) = true
        · have seen := (ping_on_map found role valid).mp there
          cases seen
        · exact (ping_refused fun taken => valid taken.1).mp there
  · exact (ping_elsewhere drives).mp there

theorem step_lasts_iff {action : Int × Event K} {after : World K} (lasts : HidingLasts geo world)
    (taken : step geo world action after) :
    HidingLasts geo after ↔ staysHidden world action.2 := by
  obtain ⟨time, event⟩ := action
  subst taken
  cases event with
  | message db id message =>
      cases message with
      | driverVisibility visible =>
          rcases visible with _ | _ | _
          · exact show_lasts_iff rfl lasts
          · exact hide_lasts_iff lasts
          · exact show_lasts_iff rfl lasts
      | driverLocation coords accuracy visible =>
          cases coords with
          | none =>
              refine iff_of_true (lasts_kept lasts fun code marked => ?_) trivial
              exact ⟨shown_marks (fun _ => ping_order) marked, fun there => there⟩
          | some coords =>
              cases visible with
              | none => exact ping_lasts_iff lasts
              | some visible => exact iff_of_true (ordered_ping_lasts lasts) trivial
      | driverRegister | driverOccupancy | userLocation | trackBus =>
          refine iff_of_true (calm_lasts lasts rfl fun call made => ?_) trivial
          obtain ⟨value, _, rfl⟩ := Option.map_eq_some_iff.mp made
          rfl
      | userRegister | subscribeRoute | ping =>
          refine iff_of_true (calm_lasts lasts rfl fun call made => ?_) trivial
          cases made
          rfl
      | getActiveBuses | getOtherDrivers | unknown =>
          refine iff_of_true (calm_lasts lasts rfl fun call made => ?_) trivial
          cases made
  | closed id =>
      refine iff_of_true (calm_lasts lasts rfl fun call made => ?_) trivial
      cases made
      rfl
  | broadcastActiveBuses =>
      refine iff_of_true (calm_lasts lasts rfl fun call made => ?_) trivial
      simp only [eventCall] at made
      split at made
      · cases made
      · cases made
        rfl
  | evictStaleSessions timeoutMs =>
      refine iff_of_true (calm_lasts lasts rfl fun call made => ?_) trivial
      cases made
      rfl

end Events

/-! ## Runs -/

/-- While every event keeps the buses that drivers have hidden away, no snapshot shows
one of them; the next event breaks this exactly if it does not. -/
theorem hidden_stays_hidden {world : World K} {actions : List (Int × Event K)}
    (run : Run (guarded (fun world action => staysHidden world action.2) (step geo)) World.start
      actions world) :
    HidingLasts geo world ∧ ∀ action after, step geo world action after →
      (HidingLasts geo after ↔ staysHidden world action.2) := by
  have lasts : HidingLasts geo world := by
    refine run_invariant (HidingLasts geo) (fun before action after taken lasts => ?_) run ?_
    · exact (step_lasts_iff lasts taken.2).mpr taken.1
    · intro code hidden
      cases hidden
  exact ⟨lasts, fun action after taken => step_lasts_iff lasts taken⟩

def ashaHides : List (Int × Event ℚ) :=
  [(1, .message Database.empty "s1" (.driverRegister (some ashaToken))),
    (2, .message Database.empty "s1" (.driverLocation (some (10, 20)) none none)),
    (3, .message Database.empty "s1" (.driverVisibility (some false)))]

theorem asha_hidden :
    ∃ world : World ℚ, world.hidden "bus-1" = true ∧
      (HidingLasts taxicab world ∧ ∀ action after, step taxicab world action after →
        (HidingLasts taxicab after ↔ staysHidden world action.2)) := by
  have run : ∃ world, Run (guarded (fun world action => staysHidden world action.2)
      (step (taxicab : GeoDistance ℚ))) World.start ashaHides world ∧
        world.hidden "bus-1" = true := by
    refine ⟨_, Run.next ⟨trivial, rfl⟩ (Run.next ⟨?_, rfl⟩
      (Run.next ⟨?_, rfl⟩ (Run.refl _))), by decide +kernel⟩
    · intro _ code _ hidden
      cases hidden
    · intro session code bus found role stored _ _
      have client : some "asha" = some session.clientId :=
        congrArg (Option.map ClientSession.clientId) found
      have drives : some (ClientRole.DRIVER "bus-1") = some session.role :=
        congrArg (Option.map ClientSession.role) found
      cases (Option.some.inj drives).trans role
      have carried : some "asha" = some bus.driverId :=
        congrArg (Option.map LiveBusState.driverId) stored
      exact (Option.some.inj carried).symm.trans (Option.some.inj client)
  obtain ⟨world, taken, hidden⟩ := run
  exact ⟨world, hidden, hidden_stays_hidden taxicab taken⟩

/-- A driver who hides reconnects: the new registration shows the bus again. -/
theorem reconnected_bus_shown :
    ∃ world : World ℚ, Run (step taxicab) World.start
        (ashaHides ++
          [(4, .message Database.empty "s2" (.driverRegister (some ashaToken))),
            (5, .message Database.empty "s2" (.driverLocation (some (11, 20)) none none))]) world ∧
      world.hidden "bus-1" = true ∧
      (snapshotVisibleBuses taxicab world.tracking).map (·.busId) = ["bus-1"] := by
  refine ⟨_, Run.next rfl (Run.next rfl (Run.next rfl (Run.next rfl (Run.next rfl
    (Run.refl _))))), ?_, ?_⟩
  · decide +kernel
  · decide +kernel

end CityBus.LastingHiding
