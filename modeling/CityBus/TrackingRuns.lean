import CityBus.GuardedRuns
import CityBus.TrackingHandler

/-!
Runs of the server as its clients drive it: messages of any session, sockets that
close and the scheduled passes, in any order. Each of them makes at most one call
of the registry, and what a call does to one session and to one live bus is said
here once.
-/

namespace CityBus.TrackingRuns

open AuthService BusService GeoUtils GuardedRuns KeyedMaps LiveTracking RingBuffers Store
  TrackingHandler

/-- What the server reacts to. The store is the one at that moment. -/
inductive Event (K : Type) where
  | message (db : Database K) (sessionId : String) (message : Incoming K)
  | closed (sessionId : String)
  | broadcastActiveBuses
  | evictStaleSessions (timeoutMs : Int)

variable {K : Type}

/-- The account and the bus of a token that registers a driver. -/
def driverToken (now : Int) (token : Option Claims) : Option (String × String) :=
  ((token.bind (parse now)).filter fun claims => claims.role = "DRIVER").bind fun claims =>
    claims.busCode.map fun busCode => (claims.subject, busCode)

section Calls
variable (tracking : Tracking K) (now : Int)

def messageCall (db : Database K) (sessionId : String) : Incoming K → Option (Call K)
  | .driverRegister token =>
      (driverToken now token).map fun driver =>
        let route := (findByCode db driver.2).bind (busRoute db)
        .registerDriver sessionId driver.1 driver.2 (route.map fun r => (r.routeNumber : Int))
          (route.map (·.color))
  | .driverLocation coords accuracy visible =>
      coords.map fun c => .updateDriverLocation sessionId c.1 c.2 accuracy visible
  | .driverOccupancy level => (valueOf level.toUpper).map (.setOccupancy sessionId)
  | .userRegister userId => some (.registerUser sessionId userId)
  | .userLocation coords => coords.map fun c => .updateUserLocation sessionId c.1 c.2
  | .driverVisibility visible =>
      ((getSession tracking sessionId).filter fun session => session.role ≠ .USER).map
        fun session => .setDriverVisibility session.clientId (visible.getD true)
  | .trackBus busId => busId.map (.trackBus sessionId)
  | .subscribeRoute routeNumber => some (.subscribeRoute sessionId routeNumber)
  | .ping => some (.touch sessionId)
  | .getActiveBuses | .getOtherDrivers | .unknown _ => none

def eventCall : Event K → Option (Call K)
  | .message db sessionId message => messageCall tracking now db sessionId message
  | .closed sessionId => some (.removeSession sessionId)
  | .broadcastActiveBuses =>
      if (userSessions tracking).isEmpty then none else some .pendingProximityAlerts
  | .evictStaleSessions timeoutMs => some (.evictStaleSessions timeoutMs)

variable [Field K] [LinearOrder K] (geo : GeoDistance K)

def settle : Option (Call K) → Tracking K
  | none => tracking
  | some call => perform geo tracking now call

variable [FloorRing K]

def serve : Event K → Tracking K
  | .message db sessionId message => (handleMessage db tracking now sessionId geo message).1
  | .closed sessionId => (cleanup tracking sessionId).1
  | .broadcastActiveBuses => (TrackingHandler.broadcastActiveBuses tracking now geo).1
  | .evictStaleSessions timeoutMs => LiveTracking.evictStaleSessions tracking now timeoutMs

omit [FloorRing K] in
theorem driver_register_call (db : Database K) (sessionId : String) (token : Option Claims) :
    (handleDriverRegister db tracking now sessionId token).1 =
      settle tracking now geo (messageCall tracking now db sessionId (.driverRegister token)) := by
  simp only [handleDriverRegister, messageCall, driverToken]
  cases (token.bind (parse now)).filter fun claims => claims.role = "DRIVER" with
  | none => rfl
  | some claims =>
      cases bus : claims.busCode with
      | none => simp [bus, settle]
      | some busCode => simp [bus, settle, perform]

/-- Every handler leaves the registry to one call, or leaves it alone. -/
theorem handle_message_call (db : Database K) (sessionId : String) (message : Incoming K) :
    (handleMessage db tracking now sessionId geo message).1 =
      settle tracking now geo (messageCall tracking now db sessionId message) := by
  cases message with
  | driverRegister token => exact driver_register_call tracking now geo db sessionId token
  | driverLocation coords accuracy visible =>
      cases coords with
      | none => rfl
      | some c =>
          simp only [handleMessage, handleDriverLocation, messageCall, Option.map_some, settle,
            perform, updateDriverLocation]
          cases locatedBus tracking now sessionId c.1 c.2 accuracy visible with
          | none => rfl
          | some bus => rfl
  | driverOccupancy level =>
      simp only [handleMessage, handleDriverOccupancy, messageCall]
      cases valueOf level.toUpper with
      | none => rfl
      | some occupancy =>
          simp only [Option.map_some, settle, perform, setOccupancy]
          cases crowdedBus tracking sessionId occupancy with
          | none => rfl
          | some bus => rfl
  | driverVisibility visible =>
      simp only [handleMessage, handleDriverVisibility, messageCall]
      cases (getSession tracking sessionId).filter fun session => session.role ≠ .USER with
      | none => rfl
      | some session => rfl
  | userLocation coords =>
      cases coords with
      | none => rfl
      | some c => rfl
  | trackBus busId =>
      cases busId with
      | none => rfl
      | some busCode => rfl
  | userRegister | subscribeRoute | ping | getActiveBuses | getOtherDrivers | unknown => rfl

theorem serve_eq (event : Event K) :
    serve tracking now geo event = settle tracking now geo (eventCall tracking now event) := by
  cases event with
  | message db sessionId message =>
      exact handle_message_call tracking now geo db sessionId message
  | closed sessionId =>
      simp only [serve, cleanup, eventCall, settle, perform]
      cases getSession tracking sessionId with
      | none => rfl
      | some client => rfl
  | broadcastActiveBuses =>
      -- Without riders the pass returns before it asks for the alerts that are due.
      simp only [serve, TrackingHandler.broadcastActiveBuses, eventCall]
      by_cases nobody : (userSessions tracking).isEmpty
      · simp [nobody, settle]
      · simp [nobody, settle, perform]
  | evictStaleSessions timeoutMs => rfl

def serves (before : Tracking K) (action : Int × Event K) (after : Tracking K) : Prop :=
  serve before action.1 geo action.2 = after

end Calls

/-! ## What a call does to one session -/

/-- The call is traffic of the session that its `lastSeen` follows. -/
def refreshes [Field K] [LinearOrder K] (tracking : Tracking K) (id : String) : Call K → Bool
  | .registerDriver sessionId .. | .registerUser sessionId _ => id = sessionId
  | .trackBus sessionId _ | .touch sessionId => id = sessionId
  | .updateDriverLocation sessionId lat lng _ _ =>
      id = sessionId && ((driverBus tracking sessionId).isSome &&
        (isValidLatitude lat && isValidLongitude lng))
  | .updateUserLocation sessionId lat lng =>
      id = sessionId && (isValidLatitude lat && isValidLongitude lng)
  | .subscribeRoute sessionId _ => id = sessionId && (driverBus tracking sessionId).isNone
  | .setOccupancy sessionId _ =>
      id = sessionId && ((driverBus tracking sessionId).bind tracking.liveBuses.lookup).isSome
  | .setDriverVisibility .. | .pendingProximityAlerts => false
  | .removeSession _ | .evictStaleSessions _ => false

/-- The session goes on under the same registration, last seen at a time. -/
structure Continues (old session : ClientSession K) (lastSeen : Int) : Prop where
  role : session.role = old.role
  clientId : session.clientId = old.clientId
  lastSeen : session.lastSeen = lastSeen

section Sessions
variable {tracking : Tracking K} {now : Int} {id : String} {session : ClientSession K}

theorem changed_session (now : Int) (seen : Bool) {sender : String}
    {change : ClientSession K → ClientSession K}
    {keeps : ∀ session, (change session).sessionId = session.sessionId}
    (found : getSession (tracking.changeSession sender change keeps) id = some session)
    (continues : ∀ old, getSession tracking sender = some old →
      Continues old (change old) (if seen then now else old.lastSeen)) :
    ∃ old, getSession tracking id = some old ∧
      Continues old session (if id = sender && seen then now else old.lastSeen) := by
  rw [get_change_session] at found
  by_cases same : id = sender
  · subst same
    rw [if_pos rfl] at found
    obtain ⟨old, before, rfl⟩ := Option.map_eq_some_iff.mp found
    refine ⟨old, before, ?_⟩
    simpa using continues old before
  · rw [if_neg same] at found
    refine ⟨session, found, rfl, rfl, ?_⟩
    simp [same]

theorem driver_bus_role (found : getSession tracking id = some session) :
    driverBus tracking id = session.role.busCode := by
  simp [driverBus, found]

theorem removed_session (gone : List String)
    (found : getSession (gone.foldl removeSession tracking) id = some session) :
    getSession tracking id = some session := by
  rw [remove_all_sessions] at found
  split at found
  · exact absurd found.symm (Option.some_ne_none session)
  · exact found

theorem alerted_session [Field K] [LinearOrder K] {geo : GeoDistance K}
    (found : getSession (markAlerted geo tracking now) id = some session) :
    ∃ old, getSession tracking id = some old ∧ Continues old session old.lastSeen := by
  rw [marked_session] at found
  split at found
  · obtain ⟨old, before, rfl⟩ := Option.map_eq_some_iff.mp found
    exact ⟨old, before, rfl, rfl, rfl⟩
  · exact ⟨session, found, rfl, rfl, rfl⟩

variable [Field K] [LinearOrder K] {geo : GeoDistance K}

theorem located_valid {lat lng : K} {accuracy : Option K} {visible : Option Bool} {code : String}
    (found : getSession tracking id = some session) (role : session.role = .DRIVER code) :
    locatedBus tracking now id lat lng accuracy visible =
      if isValidLatitude lat && isValidLongitude lng then
        some ((computeIfAbsent tracking now code session.clientId).locate
          lat lng accuracy visible now)
      else none := by
  simp [locatedBus, found, role, ClientRole.busCode]

variable (tracking now id) in
theorem located_some (lat lng : K) (accuracy : Option K) (visible : Option Bool) :
    (locatedBus tracking now id lat lng accuracy visible).isSome =
      ((driverBus tracking id).isSome && (isValidLatitude lat && isValidLongitude lng)) := by
  unfold locatedBus driverBus
  cases getSession tracking id with
  | none => rfl
  | some session =>
      cases role : session.role with
      | USER => simp [role, ClientRole.busCode]
      | DRIVER code =>
          by_cases valid : (isValidLatitude lat && isValidLongitude lng) = true
          · simp [role, ClientRole.busCode, valid]
          · simp [role, ClientRole.busCode, valid]

omit [Field K] [LinearOrder K] in
variable (tracking id) in
theorem crowded_some (occupancy : Occupancy) :
    (crowdedBus tracking id occupancy).isSome =
      ((driverBus tracking id).bind tracking.liveBuses.lookup).isSome := by
  unfold crowdedBus
  cases driverBus tracking id with
  | none => rfl
  | some code => simp

/-- A session that telemetry leaves registered is seen now exactly if it is refreshed. -/
theorem telemetry_session {call : Call K} (quiet : call.isTelemetry = true)
    (found : getSession (perform geo tracking now call) id = some session) :
    ∃ old, getSession tracking id = some old ∧
      Continues old session (if refreshes tracking id call then now else old.lastSeen) := by
  cases call with
  | registerDriver | registerUser | removeSession | evictStaleSessions =>
      simp [Call.isTelemetry] at quiet
  | updateDriverLocation sender lat lng accuracy visible =>
      simp only [refreshes, ← located_some tracking now sender lat lng accuracy visible]
      simp only [perform, updateDriverLocation] at found
      cases located : locatedBus tracking now sender lat lng accuracy visible with
      | none =>
          rw [located] at found
          exact ⟨session, found, rfl, rfl, by simp⟩
      | some bus =>
          simp only [located, get_put_bus] at found
          exact changed_session now true found fun _ _ => ⟨rfl, rfl, rfl⟩
  | updateUserLocation sender lat lng =>
      simp only [perform, updateUserLocation] at found
      simp only [refreshes]
      by_cases valid : (isValidLatitude lat && isValidLongitude lng) = true
      · rw [if_pos valid] at found
        simp only [valid]
        exact changed_session now true found fun _ _ => ⟨rfl, rfl, rfl⟩
      · rw [if_neg valid] at found
        exact ⟨session, found, rfl, rfl, by simp [valid]⟩
  | trackBus sender busCode =>
      simp only [perform, trackBus] at found
      obtain ⟨old, before, continues⟩ := changed_session now true found
        fun _ _ => ⟨rfl, rfl, rfl⟩
      exact ⟨old, before, by simpa [refreshes] using continues⟩
  | subscribeRoute sender routeNumber =>
      simp only [perform, subscribeRoute] at found
      refine changed_session now (driverBus tracking sender).isNone found fun old before => ?_
      by_cases user : old.role = .USER
      · have rider : (driverBus tracking sender).isNone = true := by
          simp [driver_bus_role before, user, ClientRole.busCode]
        rw [if_pos user, if_pos rider]
        exact ⟨rfl, rfl, rfl⟩
      · have driver : (driverBus tracking sender).isNone = false := by
          cases role : old.role with
          | USER => exact absurd role user
          | DRIVER code => simp [driver_bus_role before, role, ClientRole.busCode]
        rw [if_neg user, driver]
        exact ⟨rfl, rfl, rfl⟩
  | setOccupancy sender occupancy =>
      simp only [refreshes, ← crowded_some tracking sender occupancy]
      simp only [perform, setOccupancy] at found
      cases crowded : crowdedBus tracking sender occupancy with
      | none =>
          rw [crowded] at found
          exact ⟨session, found, rfl, rfl, by simp⟩
      | some bus =>
          simp only [crowded] at found
          obtain ⟨old, before, continues⟩ := changed_session now true found
            fun _ _ => ⟨rfl, rfl, rfl⟩
          exact ⟨old, before, continues⟩
  | setDriverVisibility driverId visible => exact ⟨session, found, rfl, rfl, rfl⟩
  | touch sender =>
      simp only [perform, touch] at found
      obtain ⟨old, before, continues⟩ := changed_session now true found
        fun _ _ => ⟨rfl, rfl, rfl⟩
      exact ⟨old, before, by simpa [refreshes] using continues⟩
  | pendingProximityAlerts => exact alerted_session found

omit [Field K] [LinearOrder K] in
theorem changed_some {sender : String} {change : ClientSession K → ClientSession K}
    {keeps : ∀ session, (change session).sessionId = session.sessionId} :
    (getSession (tracking.changeSession sender change keeps) id).isSome =
      (getSession tracking id).isSome := by
  rw [get_change_session]
  by_cases same : id = sender
  · simp [same]
  · simp [same]

theorem telemetry_kept (geo : GeoDistance K) (tracking : Tracking K) (now : Int) (id : String)
    {call : Call K} (quiet : call.isTelemetry = true) :
    (getSession (perform geo tracking now call) id).isSome = (getSession tracking id).isSome := by
  cases call with
  | registerDriver | registerUser | removeSession | evictStaleSessions =>
      simp [Call.isTelemetry] at quiet
  | updateDriverLocation sender lat lng accuracy visible =>
      simp only [perform, updateDriverLocation]
      cases locatedBus tracking now sender lat lng accuracy visible with
      | none => rfl
      | some bus => rw [get_put_bus, changed_some]
  | updateUserLocation sender lat lng =>
      simp only [perform, updateUserLocation]
      split
      · rw [changed_some]
      · rfl
  | trackBus | subscribeRoute | touch =>
      simp only [perform, trackBus, subscribeRoute, touch, changed_some]
  | setOccupancy sender occupancy =>
      simp only [perform, setOccupancy]
      cases crowdedBus tracking sender occupancy with
      | none => rfl
      | some bus => rw [changed_some, get_put_bus]
  | setDriverVisibility => rfl
  | pendingProximityAlerts =>
      simp only [perform, marked_session]
      split
      · rw [Option.isSome_map]
      · rfl

omit [Field K] [LinearOrder K] in
theorem get_registered_driver {driverId busCode : String} {routeNumber : Option Int}
    {routeColor : Option String} (other : String) :
    getSession (registerDriver tracking now id driverId busCode routeNumber routeColor) other =
      if other = id then some (newSession id (.DRIVER busCode) driverId now)
      else getSession tracking other := by
  simp only [registerDriver, get_put_bus, get_put_session]
  rfl

omit [Field K] [LinearOrder K] in
theorem get_registered_user {userId : String} (other : String) :
    getSession (registerUser tracking now id userId) other =
      if other = id then some (newSession id .USER userId now) else getSession tracking other := by
  simp only [registerUser, get_put_session]
  rfl

end Sessions

/-! ## What a call does to one live bus -/

section Buses
variable (tracking : Tracking K) (now : Int)

def leavesBuses : Call K → Bool
  | .registerUser .. | .updateUserLocation .. | .trackBus .. | .subscribeRoute .. => true
  | .touch _ | .pendingProximityAlerts => true
  | _ => false

theorem register_driver_lookup (sessionId driverId busCode code : String)
    (routeNumber : Option Int) (routeColor : Option String) :
    (registerDriver tracking now sessionId driverId busCode routeNumber
        routeColor).liveBuses.lookup code =
      if code = busCode then some (newLiveBus busCode driverId routeNumber routeColor now)
      else tracking.liveBuses.lookup code := by
  simp only [registerDriver, put_bus_lookup, put_session_buses]
  rfl

theorem visibility_lookup (driverId code : String) (visible : Bool) :
    (setDriverVisibility tracking driverId visible).liveBuses.lookup code =
      (tracking.liveBuses.lookup code).map fun bus =>
        if bus.driverId = driverId then { bus with visible := visible } else bus :=
  lookup_mapValues tracking.liveBuses code _

theorem occupancy_lookup (sessionId code : String) (occupancy : Occupancy) :
    (setOccupancy tracking now sessionId occupancy).liveBuses.lookup code =
      if driverBus tracking sessionId = some code then
        (tracking.liveBuses.lookup code).map fun bus => { bus with occupancy := some occupancy }
      else tracking.liveBuses.lookup code := by
  unfold setOccupancy
  cases crowded : crowdedBus tracking sessionId occupancy with
  | none =>
      by_cases drives : driverBus tracking sessionId = some code
      · have absent : tracking.liveBuses.lookup code = none := by
          simpa [crowdedBus, drives] using crowded
        simp [absent]
      · simp [drives]
  | some bus =>
      obtain ⟨drives, old, found, rfl⟩ := crowded_bus_spec crowded
      simp only [change_session_buses, put_bus_lookup, drives, Option.some.injEq,
        eq_comm (a := code)]
      by_cases same : old.busCode = code
      · subst same
        simp [found]
      · simp [same]

variable [Field K] [LinearOrder K]

theorem location_lookup (sessionId code : String) (lat lng : K) (accuracy : Option K)
    (visible : Option Bool) :
    (updateDriverLocation tracking now sessionId lat lng accuracy visible).liveBuses.lookup code =
      if driverBus tracking sessionId = some code then
        (locatedBus tracking now sessionId lat lng accuracy visible).or
          (tracking.liveBuses.lookup code)
      else tracking.liveBuses.lookup code := by
  unfold updateDriverLocation
  cases located : locatedBus tracking now sessionId lat lng accuracy visible with
  | none => simp
  | some bus =>
      obtain ⟨drives, -⟩ := located_bus_spec located
      simp only [put_bus_lookup, change_session_buses, drives, Option.some.injEq,
        eq_comm (a := code)]
      by_cases same : bus.busCode = code
      · simp [same]
      · simp [same]

theorem leaves_buses_eq (geo : GeoDistance K) {call : Call K} (leaves : leavesBuses call) :
    (perform geo tracking now call).liveBuses = tracking.liveBuses := by
  cases call with
  | registerDriver | updateDriverLocation | setOccupancy | setDriverVisibility | removeSession
  | evictStaleSessions =>
      simp [leavesBuses] at leaves
  | registerUser | trackBus | subscribeRoute | touch => rfl
  | updateUserLocation =>
      simp only [perform, updateUserLocation]
      split <;> rfl
  | pendingProximityAlerts => exact alerted_buses tracking geo now

omit [Field K] [LinearOrder K] in
theorem removed_lookup (gone : List String) {code : String} {bus : LiveBusState K}
    (found : (gone.foldl removeSession tracking).liveBuses.lookup code = some bus) :
    tracking.liveBuses.lookup code = some bus := by
  rw [remove_all_lookup] at found
  split at found
  · exact absurd found.symm (Option.some_ne_none bus)
  · exact found

end Buses

end CityBus.TrackingRuns
