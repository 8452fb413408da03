import CityBus.TrackingRuns
import CityBus.VehicleIdentity

/-!
Which live buses a message can reach. Locations and crowding reports go to the bus
that the session drives; a toggle goes to every bus that carries the driver's id, so
it stays at home as long as a driver's id is on no bus but the driver's own.
-/

namespace CityBus.FrameLaw

open AuthService GeoUtils GuardedRuns KeyedMaps LiveTracking RingBuffers Store TrackingHandler
  TrackingRuns

variable {K : Type}

def isRegistration : Incoming K → Bool
  | .driverRegister _ | .userRegister _ => true
  | _ => false

def OwnBuses (tracking : Tracking K) : Prop :=
  ∀ id session own code bus, getSession tracking id = some session → session.role = .DRIVER own →
    tracking.liveBuses.lookup code = some bus → bus.driverId = session.clientId → code = own

def OneBus (tracking : Tracking K) : Prop :=
  ∀ id other session session' own own', getSession tracking id = some session →
    getSession tracking other = some session' → session.role = .DRIVER own →
    session'.role = .DRIVER own' → session.clientId = session'.clientId → own = own'

/-- A driver who registers does so for the bus that its id and its other sessions are on. -/
def staysWithBus (tracking : Tracking K) (action : Int × Event K) : Prop :=
  ∀ id driverId busCode routeNumber routeColor,
    eventCall tracking action.1 action.2 =
      some (.registerDriver id driverId busCode routeNumber routeColor) →
    (∀ code bus, tracking.liveBuses.lookup code = some bus → bus.driverId = driverId →
      code = busCode) ∧
    ∀ other session own, other ≠ id → getSession tracking other = some session →
      session.role = .DRIVER own → session.clientId = driverId → own = busCode

variable [Field K] [LinearOrder K] [FloorRing K] (geo : GeoDistance K)

/-- No message but a registration changes a live bus that its session does not drive. -/
def Framed (tracking : Tracking K) : Prop :=
  ∀ (db : Database K) now id message, isRegistration message = false →
    (∀ code, driverBus tracking id ≠ some code →
      (handleMessage db tracking now id geo message).1.liveBuses.lookup code =
        tracking.liveBuses.lookup code) ∧
    (driverBus tracking id = none →
      (handleMessage db tracking now id geo message).1.liveBuses = tracking.liveBuses)

/-! ## One state -/

section States
variable {geo} {tracking : Tracking K} {now : Int} {id : String}

omit [Field K] [LinearOrder K] [FloorRing K] in
theorem message_call_cases {db : Database K} {message : Incoming K} {call : Call K}
    (other : isRegistration message = false)
    (made : messageCall tracking now db id message = some call) :
    leavesBuses call = true ∨
      (∃ lat lng accuracy visible, call = .updateDriverLocation id lat lng accuracy visible) ∨
      (∃ occupancy, call = .setOccupancy id occupancy) ∨
      ∃ session visible, getSession tracking id = some session ∧ session.role ≠ .USER ∧
        call = .setDriverVisibility session.clientId visible := by
  cases message with
  | driverRegister | userRegister => cases other
  | driverLocation coords accuracy visible =>
      obtain ⟨c, _, rfl⟩ := Option.map_eq_some_iff.mp made
      exact Or.inr (Or.inl ⟨c.1, c.2, accuracy, visible, rfl⟩)
  | driverOccupancy level =>
      obtain ⟨occupancy, _, rfl⟩ := Option.map_eq_some_iff.mp made
      exact Or.inr (Or.inr (Or.inl ⟨occupancy, rfl⟩))
  | driverVisibility visible =>
      obtain ⟨session, kept, rfl⟩ := Option.map_eq_some_iff.mp made
      obtain ⟨found, driver⟩ := Option.filter_eq_some_iff.mp kept
      exact Or.inr (Or.inr (Or.inr ⟨session, _, found, by simpa using driver, rfl⟩))
  | userLocation coords =>
      obtain ⟨c, _, rfl⟩ := Option.map_eq_some_iff.mp made
      exact Or.inl rfl
  | trackBus busId =>
      obtain ⟨busCode, _, rfl⟩ := Option.map_eq_some_iff.mp made
      exact Or.inl rfl
  | subscribeRoute | ping =>
      cases made
      exact Or.inl rfl
  | getActiveBuses | getOtherDrivers | unknown => cases made

omit [Field K] [LinearOrder K] [FloorRing K] in
theorem toggle_framed (own : OwnBuses tracking) {session : ClientSession K} {visible : Bool}
    (found : getSession tracking id = some session) (driver : session.role ≠ .USER) {code : String}
    (foreign : driverBus tracking id ≠ some code) :
    (setDriverVisibility tracking session.clientId visible).liveBuses.lookup code =
      tracking.liveBuses.lookup code := by
  rw [visibility_lookup]
  cases stored : tracking.liveBuses.lookup code with
  | none => rfl
  | some bus =>
      have other : bus.driverId ≠ session.clientId := by
        intro mine
        cases role : session.role with
        | USER => exact driver role
        | DRIVER drives =>
            apply foreign
            rw [driver_bus_role found, role, own id session drives code bus found role stored mine]
            rfl
      simp [other]

theorem own_framed (own : OwnBuses tracking) : Framed geo tracking := by
  intro db now id message other
  rw [handle_message_call]
  cases made : messageCall tracking now db id message with
  | none => exact ⟨fun _ _ => rfl, fun _ => rfl⟩
  | some call =>
      rcases message_call_cases other made with leaves | ⟨lat, lng, accuracy, visible, rfl⟩ |
        ⟨occupancy, rfl⟩ | ⟨session, visible, found, driver, rfl⟩
      · have same := leaves_buses_eq tracking now geo leaves
        exact ⟨fun code _ => congrArg (AList.lookup code) same, fun _ => same⟩
      · constructor
        · intro code foreign
          simp only [settle, perform, location_lookup, if_neg foreign]
        · intro rider
          have refused := located_some tracking now id lat lng accuracy visible
          rw [rider, Option.isSome_none, Bool.false_and, Option.isSome_eq_false_iff,
            Option.isNone_iff_eq_none] at refused
          simp only [settle, perform, updateDriverLocation, refused]
      · constructor
        · intro code foreign
          simp only [settle, perform, occupancy_lookup, if_neg foreign]
        · intro rider
          simp only [settle, perform, setOccupancy, crowdedBus, rider, Option.bind_none]
      · constructor
        · intro code foreign
          exact toggle_framed own found driver foreign
        · intro rider
          cases role : session.role with
          | USER => exact absurd role driver
          | DRIVER drives => simp [driver_bus_role found, role, ClientRole.busCode] at rider

theorem framed_own (framed : Framed geo tracking) : OwnBuses tracking := by
  intro id session own code bus found role stored mine
  by_contra different
  have foreign : driverBus tracking id ≠ some code := by
    rw [driver_bus_role found, role]
    intro same
    exact different (Option.some.inj same).symm
  have kept := (framed Database.empty 0 id (.driverVisibility (some !bus.visible)) rfl).1 code foreign
  rw [handle_message_call] at kept
  simp only [messageCall, found, role, Option.filter_some, ne_eq, reduceCtorEq, not_false_eq_true,
    decide_true, if_true, Option.map_some, Option.getD_some, settle, perform, visibility_lookup,
    stored, mine, Option.some.injEq] at kept
  have toggled := congrArg LiveBusState.visible kept
  simp at toggled

theorem framed_iff : Framed geo tracking ↔ OwnBuses tracking := ⟨framed_own, own_framed⟩

end States

/-! ## Calls -/

section Calls
variable {geo} {tracking : Tracking K} {now : Int} {call : Call K}

def registersDriver : Call K → Bool
  | .registerDriver .. => true
  | _ => false

omit [FloorRing K] in
theorem driver_back {id own : String} {session : ClientSession K}
    (other : registersDriver call = false)
    (found : getSession (perform geo tracking now call) id = some session)
    (role : session.role = .DRIVER own) :
    ∃ old, getSession tracking id = some old ∧ old.role = .DRIVER own ∧
      old.clientId = session.clientId := by
  have quiet (telemetry : call.isTelemetry = true) : ∃ old, getSession tracking id = some old ∧
      old.role = .DRIVER own ∧ old.clientId = session.clientId := by
    obtain ⟨old, before, continues⟩ := telemetry_session telemetry found
    exact ⟨old, before, continues.role.symm.trans role, continues.clientId.symm⟩
  cases call with
  | registerDriver => cases other
  | registerUser sender userId =>
      simp only [perform, get_registered_user] at found
      split at found
      · cases found
        cases role
      · exact ⟨session, found, role, rfl⟩
  | removeSession sender => exact ⟨session, removed_session [sender] found, role, rfl⟩
  | evictStaleSessions timeoutMs => exact ⟨session, removed_session _ found, role, rfl⟩
  | updateDriverLocation | updateUserLocation | trackBus | subscribeRoute | setOccupancy
  | setDriverVisibility | touch | pendingProximityAlerts => exact quiet rfl

omit [FloorRing K] in
theorem bus_back {code : String} {bus : LiveBusState K} (other : registersDriver call = false)
    (found : (perform geo tracking now call).liveBuses.lookup code = some bus) :
    (∃ old, tracking.liveBuses.lookup code = some old ∧ old.driverId = bus.driverId) ∨
      ∃ id session, getSession tracking id = some session ∧ session.role = .DRIVER code ∧
        session.clientId = bus.driverId := by
  cases call with
  | registerDriver => cases other
  | registerUser | updateUserLocation | trackBus | subscribeRoute | touch
  | pendingProximityAlerts =>
      rw [leaves_buses_eq tracking now geo rfl] at found
      exact Or.inl ⟨bus, found, rfl⟩
  | updateDriverLocation id lat lng accuracy visible =>
      simp only [perform, location_lookup] at found
      split at found
      · rename_i drives
        obtain ⟨session, known, role⟩ := driver_role drives
        rw [located_valid known role] at found
        by_cases valid : (isValidLatitude lat && isValidLongitude lng) = true
        · rw [if_pos valid, Option.some_or, Option.some.injEq] at found
          subst found
          cases stored : tracking.liveBuses.lookup code with
          | none =>
              -- `computeIfAbsent` makes the bus anew, with the id of the session's driver.
              refine Or.inr ⟨id, session, known, role, ?_⟩
              simp [computeIfAbsent, stored, LiveBusState.locate, newLiveBus]
          | some old =>
              refine Or.inl ⟨old, rfl, ?_⟩
              simp [computeIfAbsent, stored, LiveBusState.locate]
        · rw [if_neg valid, Option.none_or] at found
          exact Or.inl ⟨bus, found, rfl⟩
      · exact Or.inl ⟨bus, found, rfl⟩
  | setOccupancy id occupancy =>
      simp only [perform, occupancy_lookup] at found
      split at found
      · obtain ⟨old, before, rfl⟩ := Option.map_eq_some_iff.mp found
        exact Or.inl ⟨old, before, rfl⟩
      · exact Or.inl ⟨bus, found, rfl⟩
  | setDriverVisibility driverId visible =>
      simp only [perform, visibility_lookup] at found
      obtain ⟨old, before, rfl⟩ := Option.map_eq_some_iff.mp found
      refine Or.inl ⟨old, before, ?_⟩
      split <;> rfl
  | removeSession id =>
      exact Or.inl ⟨bus, removed_lookup tracking [id] found, rfl⟩
  | evictStaleSessions timeoutMs => exact Or.inl ⟨bus, removed_lookup tracking _ found, rfl⟩

omit [FloorRing K] in
variable (geo now) in
theorem call_keeps (own : OwnBuses tracking) (one : OneBus tracking)
    (other : registersDriver call = false) :
    OwnBuses (perform geo tracking now call) ∧ OneBus (perform geo tracking now call) := by
  constructor
  · intro id session drives code bus found role stored mine
    obtain ⟨old, before, role', same⟩ := driver_back other found role
    rcases bus_back other stored with ⟨older, live, kept⟩ | ⟨maker, session', known, makes, made⟩
    · apply own id old drives code older before role' live
      rw [kept, mine, same]
    · apply one maker id session' old code drives known before makes role'
      rw [made, mine, same]
  · intro id id' session session' drives drives' found found' role role' same
    obtain ⟨old, before, held, client⟩ := driver_back other found role
    obtain ⟨old', before', held', client'⟩ := driver_back other found' role'
    apply one id id' old old' drives drives' before before' held held'
    rw [client, client', same]

end Calls

/-! ## Registrations and runs -/

section Registration
variable {tracking : Tracking K} {now : Int} {id driverId busCode : String}
  {routeNumber : Option Int} {routeColor : Option String}

omit [Field K] [LinearOrder K] [FloorRing K] in
theorem registered_own
    (own : OwnBuses (registerDriver tracking now id driverId busCode routeNumber routeColor)) :
    (∀ code bus, tracking.liveBuses.lookup code = some bus → bus.driverId = driverId →
      code = busCode) ∧
    ∀ other session drives, other ≠ id → getSession tracking other = some session →
      session.role = .DRIVER drives → session.clientId = driverId → drives = busCode := by
  constructor
  · intro code bus stored mine
    by_contra different
    apply different
    refine own id (newSession id (.DRIVER busCode) driverId now) busCode code bus ?_ rfl ?_ mine
    · rw [get_registered_driver, if_pos rfl]
    · rw [register_driver_lookup, if_neg different]
      exact stored
  · intro other session drives away found role same
    symm
    refine own other session drives busCode
      (newLiveBus busCode driverId routeNumber routeColor now) ?_ role ?_ same.symm
    · rw [get_registered_driver, if_neg away]
      exact found
    · rw [register_driver_lookup, if_pos rfl]

omit [Field K] [LinearOrder K] [FloorRing K] in
theorem register_keeps (own : OwnBuses tracking) (one : OneBus tracking)
    (buses : ∀ code bus, tracking.liveBuses.lookup code = some bus → bus.driverId = driverId →
      code = busCode)
    (sessions : ∀ other session drives, other ≠ id → getSession tracking other = some session →
      session.role = .DRIVER drives → session.clientId = driverId → drives = busCode) :
    OwnBuses (registerDriver tracking now id driverId busCode routeNumber routeColor) ∧
      OneBus (registerDriver tracking now id driverId busCode routeNumber routeColor) := by
  constructor
  · intro other session drives code bus found role stored mine
    rw [get_registered_driver] at found
    rw [register_driver_lookup] at stored
    by_cases here : other = id
    · rw [if_pos here] at found
      cases found
      cases role
      by_cases same : code = busCode
      · exact same
      · rw [if_neg same] at stored
        exact buses code bus stored mine
    · rw [if_neg here] at found
      by_cases same : code = busCode
      · rw [if_pos same] at stored
        cases stored
        rw [same, sessions other session drives here found role mine.symm]
      · rw [if_neg same] at stored
        exact own other session drives code bus found role stored mine
  · intro other other' session session' drives drives' found found' role role' same
    rw [get_registered_driver] at found found'
    by_cases here : other = id
    · rw [if_pos here] at found
      cases found
      cases role
      by_cases here' : other' = id
      · rw [if_pos here'] at found'
        cases found'
        cases role'
        rfl
      · rw [if_neg here'] at found'
        exact (sessions other' session' drives' here' found' role' same.symm).symm
    · rw [if_neg here] at found
      by_cases here' : other' = id
      · rw [if_pos here'] at found'
        cases found'
        cases role'
        exact sessions other session drives here found role same
      · rw [if_neg here'] at found'
        exact one other other' session session' drives drives' found found' role role' same

end Registration

section Runs
variable {geo} {tracking after : Tracking K} {action : Int × Event K}

/-- Only registrations can take a driver's id to a foreign bus. -/
theorem step_own_iff (own : OwnBuses tracking) (one : OneBus tracking)
    (taken : serves geo tracking action after) :
    (OwnBuses after ↔ staysWithBus tracking action) ∧
      (staysWithBus tracking action → OneBus after) := by
  unfold serves at taken
  rw [serve_eq] at taken
  subst taken
  cases made : eventCall tracking action.1 action.2 with
  | none =>
      have stays : staysWithBus tracking action := by
        intro id driverId busCode routeNumber routeColor registers
        cases made.symm.trans registers
      exact ⟨iff_of_true own stays, fun _ => one⟩
  | some call =>
      cases registers : registersDriver call with
      | false =>
          have stays : staysWithBus tracking action := by
            intro id driverId busCode routeNumber routeColor called
            cases made.symm.trans called
            cases registers
          have kept := call_keeps geo action.1 own one registers
          exact ⟨iff_of_true kept.1 stays, fun _ => kept.2⟩
      | true =>
          cases call with
          | registerDriver id driverId busCode routeNumber routeColor =>
              refine ⟨⟨fun own' => ?_, fun stays => ?_⟩, fun stays => ?_⟩
              · intro id' driverId' busCode' routeNumber' routeColor' called
                cases made.symm.trans called
                exact registered_own own'
              · obtain ⟨buses, sessions⟩ := stays id driverId busCode routeNumber routeColor made
                exact (register_keeps own one buses sessions).1
              · obtain ⟨buses, sessions⟩ := stays id driverId busCode routeNumber routeColor made
                exact (register_keeps own one buses sessions).2
          | registerUser | updateDriverLocation | updateUserLocation | trackBus | subscribeRoute
          | setOccupancy | setDriverVisibility | touch | pendingProximityAlerts | removeSession
          | evictStaleSessions => cases registers

variable (geo) in
/-- While drivers register for the bus they are on, every message is framed; the next
event breaks the law exactly if it registers a driver for another bus. -/
theorem messages_framed {actions : List (Int × Event K)}
    (run : Run (guarded staysWithBus (serves geo)) Tracking.empty actions tracking) :
    Framed geo tracking ∧ ∀ action after, serves geo tracking action after →
      (Framed geo after ↔ staysWithBus tracking action) := by
  have kept : OwnBuses tracking ∧ OneBus tracking := by
    refine run_invariant (fun tracking => OwnBuses tracking ∧ OneBus tracking)
      (fun before action after taken held => ?_) run ?_
    · obtain ⟨stays, one⟩ := step_own_iff held.1 held.2 taken.2
      exact ⟨stays.mpr taken.1, one taken.1⟩
    · constructor
      · intro id session own code bus found
        cases found
      · intro id other session session' own own' found
        cases found
  refine ⟨framed_iff.mpr kept.1, fun action after taken => ?_⟩
  rw [framed_iff]
  exact (step_own_iff kept.1 kept.2 taken).1

end Runs

/-! ## A driver of two vehicles -/

open VehicleIdentity (asha twoBuses renameTo)

def ashaOnTheRoad : List (Int × Event ℚ) :=
  [(2000, .message twoBuses "s1" (.driverRegister (some (issueToken twoBuses 100000 1000 asha)))),
    (3000, .message twoBuses "s1" (.driverLocation (some (10, 20)) none none))]

theorem asha_framed :
    ∃ tracking : Tracking ℚ, driverBus tracking "s1" = some "bus-1" ∧
      (Framed taxicab tracking ∧ ∀ action after, serves taxicab tracking action after →
        (Framed taxicab after ↔ staysWithBus tracking action)) := by
  have run : ∃ tracking, Run (guarded staysWithBus (serves (taxicab : GeoDistance ℚ)))
      Tracking.empty ashaOnTheRoad tracking ∧ driverBus tracking "s1" = some "bus-1" := by
    refine ⟨_, Run.next ⟨?_, rfl⟩ (Run.next ⟨?_, rfl⟩ (Run.refl _)), by decide +kernel⟩
    · intro id driverId busCode routeNumber routeColor called
      constructor
      · intro code bus stored
        cases stored
      · intro other session own away found
        cases found
    · intro id driverId busCode routeNumber routeColor called
      cases called
  obtain ⟨tracking, taken, drives⟩ := run
  exact ⟨tracking, drives, messages_framed taxicab taken⟩

def renumbered : Database ℚ :=
  match BusService.update twoBuses 3500 1 (renameTo "bus-9") with
  | .ok db => db
  | .error _ => twoBuses

/-- Asha's new token is for bus-9; her toggle hides what is left of bus-1, too. -/
theorem toggle_reaches_old_bus :
    ∃ tracking : Tracking ℚ, Run (serves taxicab) Tracking.empty
        (ashaOnTheRoad ++ [(5000, .message renumbered "s2"
          (.driverRegister (some (issueToken renumbered 100000 4000 asha))))]) tracking ∧
      driverBus tracking "s2" = some "bus-9" ∧
      (tracking.liveBuses.lookup "bus-1").map (·.visible) = some true ∧
      ((handleMessage renumbered tracking 6000 "s2" taxicab
        (.driverVisibility (some false))).1.liveBuses.lookup "bus-1").map (·.visible) =
          some false := by
  refine ⟨_, Run.next rfl (Run.next rfl (Run.next rfl (Run.refl _))), ?_, ?_, ?_⟩
  · decide +kernel
  · decide +kernel
  · decide +kernel

end CityBus.FrameLaw
