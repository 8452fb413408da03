import CityBus.GeoUtils
import CityBus.KeyedMaps
import CityBus.RingBuffers
import Mathlib

/-!
`LiveTrackingService`: who is connected and where every bus is. The clock is an
argument. A `Tracking` keeps each session under its id and each live bus under
its code; a driver always has a bus code and a rider never has one.
-/

namespace CityBus.LiveTracking

open GeoUtils KeyedMaps RingBuffers

def RING_BUFFER_SIZE : Nat := 60
def PROXIMITY_COOLDOWN_MS : Int := 2 * 60 * 1000
def MIN_SAMPLE_GAP_MS : Int := 500

instance : NeZero RING_BUFFER_SIZE := ⟨by decide⟩

inductive Occupancy where
  | LOW
  | MEDIUM
  | FULL
  deriving DecidableEq

structure TimedPoint (K : Type) where
  lat : K
  lng : K
  timestamp : Int
  deriving DecidableEq

/-- `ClientType` with the bus a driver operates. -/
inductive ClientRole where
  | USER
  | DRIVER (busCode : String)
  deriving DecidableEq

def ClientRole.busCode : ClientRole → Option String
  | .USER => none
  | .DRIVER busCode => some busCode

structure ClientSession (K : Type) where
  sessionId : String
  role : ClientRole
  clientId : String
  trackingBusCode : Option String
  subscribedRouteNumber : Option Int
  coords : Option (K × K)
  lastSeen : Int
  lastProximityAlert : Int

structure LiveBusState (K : Type) where
  busCode : String
  driverId : String
  routeNumber : Option Int
  routeColor : Option String
  recent : Buffer RING_BUFFER_SIZE (TimedPoint K)
  visible : Bool
  accuracy : Option K
  lastSeen : Int
  occupancy : Option Occupancy

structure LiveBusDto (K : Type) where
  busId : String
  driverId : String
  coords : Option (K × K)
  speedKmh : Option K
  accuracy : Option K
  visible : Bool
  lastSeen : Int
  occupancy : Option Occupancy
  routeNumber : Option Int
  routeColor : Option String
  deriving DecidableEq

structure Tracking (K : Type) where
  sessions : KeyedMap String (ClientSession K)
  liveBuses : KeyedMap String (LiveBusState K)
  sessionKeys : ∀ id session, sessions.lookup id = some session → session.sessionId = id
  busKeys : ∀ code bus, liveBuses.lookup code = some bus → bus.busCode = code

variable {K : Type}

def Tracking.empty : Tracking K := ⟨∅, ∅, by simp, by simp⟩

/-! ## Map steps -/

def Tracking.putSession (tracking : Tracking K) (session : ClientSession K) : Tracking K :=
  { tracking with
    sessions := tracking.sessions.insert session.sessionId session
    sessionKeys := by
      intro id other found
      rw [lookup_insert_eq] at found
      split at found
      · rename_i same
        rw [same, Option.some.inj found]
      · exact tracking.sessionKeys id other found }

def Tracking.dropSession (tracking : Tracking K) (id : String) : Tracking K :=
  { tracking with
    sessions := tracking.sessions.erase id
    sessionKeys := by
      intro other session found
      rw [lookup_erase_eq] at found
      split at found
      · exact absurd found.symm (Option.some_ne_none session)
      · exact tracking.sessionKeys other session found }

def Tracking.changeSession (tracking : Tracking K) (id : String)
    (change : ClientSession K → ClientSession K)
    (keeps : ∀ session, (change session).sessionId = session.sessionId := by intro; rfl) :
    Tracking K :=
  { tracking with
    sessions := modify tracking.sessions id change
    sessionKeys := by
      intro other session found
      rw [lookup_modify_eq] at found
      split at found
      · obtain ⟨old, before, same⟩ := Option.map_eq_some_iff.mp found
        rw [← same, keeps, tracking.sessionKeys other old before]
      · exact tracking.sessionKeys other session found }

def Tracking.putBus (tracking : Tracking K) (bus : LiveBusState K) : Tracking K :=
  { tracking with
    liveBuses := tracking.liveBuses.insert bus.busCode bus
    busKeys := by
      intro code other found
      rw [lookup_insert_eq] at found
      split at found
      · rename_i same
        rw [same, Option.some.inj found]
      · exact tracking.busKeys code other found }

def Tracking.dropBus (tracking : Tracking K) (code : String) : Tracking K :=
  { tracking with
    liveBuses := tracking.liveBuses.erase code
    busKeys := by
      intro other bus found
      rw [lookup_erase_eq] at found
      split at found
      · exact absurd found.symm (Option.some_ne_none bus)
      · exact tracking.busKeys other bus found }

/-! ## Telemetry of one bus -/

def newSession (sessionId : String) (role : ClientRole) (clientId : String) (now : Int) :
    ClientSession K :=
  ⟨sessionId, role, clientId, none, none, none, now, 0⟩

def newLiveBus (busCode driverId : String) (routeNumber : Option Int) (routeColor : Option String)
    (now : Int) : LiveBusState K :=
  ⟨busCode, driverId, routeNumber, routeColor, Buffer.empty, true, none, now, none⟩

/-- `addPoint` and what `updateDriverLocation` sets besides. -/
def LiveBusState.locate (bus : LiveBusState K) (lat lng : K) (accuracy : Option K)
    (visible : Option Bool) (now : Int) : LiveBusState K :=
  { bus with
    recent := bus.recent.push ⟨lat, lng, now⟩
    lastSeen := now
    accuracy := accuracy.orElse fun _ => bus.accuracy
    visible := visible.getD bus.visible }

section Speed
variable [Field K] [LinearOrder K] (geo : GeoDistance K)

/-- Kilometres and milliseconds over the gaps that count. -/
def measured : List (TimedPoint K) → K × Int
  | prev :: p :: rest =>
      let (totalKm, totalMs) := measured (p :: rest)
      let dt := p.timestamp - prev.timestamp
      -- A gap that is too short leaves its distance out as well.
      if MIN_SAMPLE_GAP_MS ≤ dt then
        (geo.distanceKm prev.lat prev.lng p.lat p.lng + totalKm, dt + totalMs)
      else (totalKm, totalMs)
  | _ => (0, 0)

def LiveBusState.speedKmh (bus : LiveBusState K) : Option K :=
  if bus.recent.items.length < 2 then none else
    let (totalKm, totalMs) := measured geo bus.recent.items
    if totalMs < 3000 then none
    else some (min (totalKm / (totalMs / (3600000 : Nat))) (120 : Nat))

variable [FloorRing K]

def toTenths (v : K) : K := ⌊v * (10 : Nat) + 1 / (2 : Nat)⌋ / (10 : Nat)

def toDto (bus : LiveBusState K) : LiveBusDto K where
  busId := bus.busCode
  driverId := bus.driverId
  coords := bus.recent.latest.map fun p => (p.lat, p.lng)
  speedKmh := (bus.speedKmh geo).map toTenths
  accuracy := bus.accuracy
  visible := bus.visible
  lastSeen := bus.lastSeen
  occupancy := bus.occupancy
  routeNumber := bus.routeNumber
  routeColor := bus.routeColor

end Speed

/-! ## Session lifecycle -/

section Lifecycle
variable (tracking : Tracking K) (now : Int)

def registerDriver (sessionId driverId busCode : String) (routeNumber : Option Int)
    (routeColor : Option String) : Tracking K :=
  (tracking.putSession (newSession sessionId (.DRIVER busCode) driverId now)).putBus
    (newLiveBus busCode driverId routeNumber routeColor now)

def registerUser (sessionId userId : String) : Tracking K :=
  tracking.putSession (newSession sessionId .USER userId now)

def getSession (sessionId : String) : Option (ClientSession K) :=
  tracking.sessions.lookup sessionId

def driverBus (sessionId : String) : Option String :=
  (getSession tracking sessionId).bind fun session => session.role.busCode

/-- The second half of `removeSession`: a driver's bus is retired. -/
def retireBus (session : ClientSession K) : Tracking K :=
  match session.role.busCode with
  | none => tracking
  | some busCode => tracking.dropBus busCode

def removeSession (sessionId : String) : Tracking K :=
  match getSession tracking sessionId with
  | none => tracking
  | some session => retireBus (tracking.dropSession sessionId) session

def staleSessions (timeoutMs : Int) : List (ClientSession K) :=
  (values tracking.sessions).filter fun session => session.lastSeen < now - timeoutMs

def evictStaleSessions (timeoutMs : Int) : Tracking K :=
  ((staleSessions tracking now timeoutMs).map (·.sessionId)).foldl removeSession tracking

end Lifecycle

/-! ## Telemetry -/

section Telemetry
variable [Field K] [LinearOrder K] (geo : GeoDistance K) (tracking : Tracking K) (now : Int)

/-- The live state of a bus, created without route identity where there is none. -/
def computeIfAbsent (busCode driverId : String) : LiveBusState K :=
  (tracking.liveBuses.lookup busCode).getD (newLiveBus busCode driverId none none now)

def locatedBus (sessionId : String) (lat lng : K) (accuracy : Option K) (visible : Option Bool) :
    Option (LiveBusState K) :=
  (getSession tracking sessionId).bind fun session =>
    session.role.busCode.bind fun busCode =>
      if isValidLatitude lat && isValidLongitude lng then
        some ((computeIfAbsent tracking now busCode session.clientId).locate
          lat lng accuracy visible now)
      else none

def updateDriverLocation (sessionId : String) (lat lng : K) (accuracy : Option K)
    (visible : Option Bool) : Tracking K :=
  match locatedBus tracking now sessionId lat lng accuracy visible with
  | none => tracking
  | some bus =>
      (tracking.changeSession sessionId fun session =>
        { session with coords := some (lat, lng), lastSeen := now }).putBus bus

def updateUserLocation (sessionId : String) (lat lng : K) : Tracking K :=
  if isValidLatitude lat && isValidLongitude lng then
    tracking.changeSession sessionId fun session =>
      { session with coords := some (lat, lng), lastSeen := now }
  else tracking

omit [Field K] [LinearOrder K] in
def trackBus (sessionId busCode : String) : Tracking K :=
  tracking.changeSession sessionId fun session =>
    { session with trackingBusCode := some busCode, lastSeen := now }

omit [Field K] [LinearOrder K] in
def subscribeRoute (sessionId : String) (routeNumber : Option Int) : Tracking K :=
  tracking.changeSession sessionId (fun session =>
    -- A driver's subscription changes nothing, not even `lastSeen`.
    if session.role = .USER then
      { session with subscribedRouteNumber := routeNumber, lastSeen := now }
    else session) (by intro session; split <;> rfl)

omit [Field K] [LinearOrder K] in
def crowdedBus (sessionId : String) (occupancy : Occupancy) : Option (LiveBusState K) :=
  (driverBus tracking sessionId).bind fun busCode =>
    (tracking.liveBuses.lookup busCode).map fun bus => { bus with occupancy := some occupancy }

omit [Field K] [LinearOrder K] in
def setOccupancy (sessionId : String) (occupancy : Occupancy) : Tracking K :=
  match crowdedBus tracking sessionId occupancy with
  | none => tracking
  | some bus =>
      (tracking.putBus bus).changeSession sessionId fun session => { session with lastSeen := now }

omit [Field K] [LinearOrder K] in
def setDriverVisibility (driverId : String) (visible : Bool) : Tracking K :=
  { tracking with
    liveBuses := mapValues (fun bus =>
      if bus.driverId = driverId then { bus with visible := visible } else bus) tracking.liveBuses
    busKeys := by
      intro code bus found
      rw [lookup_mapValues] at found
      obtain ⟨old, before, same⟩ := Option.map_eq_some_iff.mp found
      have kept := tracking.busKeys code old before
      rw [← same]
      split
      · exact kept
      · exact kept }

omit [Field K] [LinearOrder K] in
def touch (sessionId : String) : Tracking K :=
  tracking.changeSession sessionId fun session => { session with lastSeen := now }

end Telemetry

/-! ## Queries -/

section Queries
variable [Field K] [LinearOrder K] [FloorRing K] (geo : GeoDistance K) (tracking : Tracking K)

def snapshotVisibleBuses : List (LiveBusDto K) :=
  (((values tracking.liveBuses).filter (·.visible)).filter fun bus =>
    bus.recent.latest.isSome).map (toDto geo)

def liveBus (busCode : String) : Option (LiveBusDto K) :=
  (tracking.liveBuses.lookup busCode).map (toDto geo)

omit [Field K] [LinearOrder K] [FloorRing K] in
def history (busCode : String) : List (TimedPoint K) :=
  match tracking.liveBuses.lookup busCode with
  | none => []
  | some bus => bus.recent.items

omit [Field K] [LinearOrder K] [FloorRing K] in
def userSessions : List (ClientSession K) :=
  (values tracking.sessions).filter fun session => session.role = .USER

omit [Field K] [LinearOrder K] [FloorRing K] in
def driverSessions : List (ClientSession K) :=
  (values tracking.sessions).filter fun session => session.role ≠ .USER

structure ProximityAlert (K : Type) where
  sessionId : String
  busCode : String
  distanceKm : K
  deriving DecidableEq

omit [FloorRing K] in
def proximityAlert (now : Int) (session : ClientSession K) : Option (ProximityAlert K) :=
  match session.role, session.coords, session.trackingBusCode with
  | .USER, some (lat, lng), some busCode =>
      if now - session.lastProximityAlert < PROXIMITY_COOLDOWN_MS then none else
        match tracking.liveBuses.lookup busCode with
        | none => none
        | some bus =>
            if !bus.visible then none else
              match bus.recent.latest with
              | none => none
              | some latest =>
                  let distance := geo.distanceKm lat lng latest.lat latest.lng
                  if distance ≤ 1 / (2 : Nat) then some ⟨session.sessionId, busCode, distance⟩
                  else none
  | _, _, _ => none

omit [FloorRing K] in
def pendingProximityAlerts (now : Int) : List (ProximityAlert K) :=
  (values tracking.sessions).filterMap (proximityAlert geo tracking now)

omit [FloorRing K] in
def markAlerted (now : Int) : Tracking K :=
  ((pendingProximityAlerts geo tracking now).map (·.sessionId)).foldl
    (fun marked sessionId => marked.changeSession sessionId fun session =>
      { session with lastProximityAlert := now }) tracking

end Queries

/-! ## Runs of the service -/

inductive Call (K : Type) where
  | registerDriver (sessionId driverId busCode : String) (routeNumber : Option Int)
      (routeColor : Option String)
  | registerUser (sessionId userId : String)
  | updateDriverLocation (sessionId : String) (lat lng : K) (accuracy : Option K)
      (visible : Option Bool)
  | updateUserLocation (sessionId : String) (lat lng : K)
  | trackBus (sessionId busCode : String)
  | subscribeRoute (sessionId : String) (routeNumber : Option Int)
  | setOccupancy (sessionId : String) (occupancy : Occupancy)
  | setDriverVisibility (driverId : String) (visible : Bool)
  | touch (sessionId : String)
  | pendingProximityAlerts
  | removeSession (sessionId : String)
  | evictStaleSessions (timeoutMs : Int)

section Calls
variable [Field K] [LinearOrder K] (geo : GeoDistance K) (tracking : Tracking K) (now : Int)

def perform : Call K → Tracking K
  | .registerDriver sessionId driverId busCode routeNumber routeColor =>
      registerDriver tracking now sessionId driverId busCode routeNumber routeColor
  | .registerUser sessionId userId => registerUser tracking now sessionId userId
  | .updateDriverLocation sessionId lat lng accuracy visible =>
      updateDriverLocation tracking now sessionId lat lng accuracy visible
  | .updateUserLocation sessionId lat lng => updateUserLocation tracking now sessionId lat lng
  | .trackBus sessionId busCode => trackBus tracking now sessionId busCode
  | .subscribeRoute sessionId routeNumber => subscribeRoute tracking now sessionId routeNumber
  | .setOccupancy sessionId occupancy => setOccupancy tracking now sessionId occupancy
  | .setDriverVisibility driverId visible => setDriverVisibility tracking driverId visible
  | .touch sessionId => touch tracking now sessionId
  | .pendingProximityAlerts => markAlerted geo tracking now
  | .removeSession sessionId => removeSession tracking sessionId
  | .evictStaleSessions timeoutMs => evictStaleSessions tracking now timeoutMs

end Calls

/-! ## What the calls do to drivers and to live buses -/

section Lookups
variable (tracking : Tracking K)

@[simp] theorem put_session_lookup (session : ClientSession K) (id : String) :
    (tracking.putSession session).sessions.lookup id =
      if id = session.sessionId then some session else tracking.sessions.lookup id :=
  lookup_insert_eq tracking.sessions session.sessionId id session

@[simp] theorem drop_session_lookup (gone id : String) :
    (tracking.dropSession gone).sessions.lookup id =
      if id = gone then none else tracking.sessions.lookup id :=
  lookup_erase_eq tracking.sessions gone id

@[simp] theorem change_session_lookup (changed id : String)
    (change : ClientSession K → ClientSession K)
    (keeps : ∀ session, (change session).sessionId = session.sessionId) :
    (tracking.changeSession changed change keeps).sessions.lookup id =
      if id = changed then (tracking.sessions.lookup id).map change
      else tracking.sessions.lookup id :=
  lookup_modify_eq tracking.sessions changed id change

@[simp] theorem put_bus_lookup (bus : LiveBusState K) (code : String) :
    (tracking.putBus bus).liveBuses.lookup code =
      if code = bus.busCode then some bus else tracking.liveBuses.lookup code :=
  lookup_insert_eq tracking.liveBuses bus.busCode code bus

@[simp] theorem drop_bus_lookup (gone code : String) :
    (tracking.dropBus gone).liveBuses.lookup code =
      if code = gone then none else tracking.liveBuses.lookup code :=
  lookup_erase_eq tracking.liveBuses gone code

@[simp] theorem put_session_buses (session : ClientSession K) :
    (tracking.putSession session).liveBuses = tracking.liveBuses := rfl

@[simp] theorem drop_session_buses (gone : String) :
    (tracking.dropSession gone).liveBuses = tracking.liveBuses := rfl

@[simp] theorem change_session_buses (changed : String)
    (change : ClientSession K → ClientSession K)
    (keeps : ∀ session, (change session).sessionId = session.sessionId) :
    (tracking.changeSession changed change keeps).liveBuses = tracking.liveBuses := rfl

@[simp] theorem get_put_session (session : ClientSession K) (id : String) :
    getSession (tracking.putSession session) id =
      if id = session.sessionId then some session else getSession tracking id :=
  put_session_lookup tracking session id

@[simp] theorem get_change_session {change : ClientSession K → ClientSession K}
    {keeps : ∀ session, (change session).sessionId = session.sessionId} (changed id : String) :
    getSession (tracking.changeSession changed change keeps) id =
      if id = changed then (getSession tracking id).map change else getSession tracking id :=
  change_session_lookup tracking changed id change keeps

@[simp] theorem get_put_bus (bus : LiveBusState K) (id : String) :
    getSession (tracking.putBus bus) id = getSession tracking id := rfl

theorem marked_session [Field K] [LinearOrder K] (geo : GeoDistance K) (now : Int) (id : String) :
    getSession (markAlerted geo tracking now) id =
      if id ∈ (pendingProximityAlerts geo tracking now).map (·.sessionId) then
        (getSession tracking id).map fun session => { session with lastProximityAlert := now }
      else getSession tracking id := by
  unfold markAlerted
  generalize (pendingProximityAlerts geo tracking now).map (·.sessionId) = alerted
  induction alerted generalizing tracking with
  | nil => simp
  | cons first rest ih =>
      rw [List.foldl_cons, ih, get_change_session]
      by_cases here : id = first
      · subst here
        cases getSession tracking id <;> simp
      · simp [here]

theorem session_ids_nodup :
    ((values tracking.sessions).map (·.sessionId)).Nodup := by
  have keyed : (values tracking.sessions).map (·.sessionId) = tracking.sessions.keys := by
    simp only [values, List.map_map, AList.keys, List.keys]
    apply List.map_congr_left
    intro entry member
    exact tracking.sessionKeys entry.1 entry.2 (AList.mem_lookup_iff.mpr member)
  rw [keyed]
  exact tracking.sessions.keys_nodup

theorem get_remove_session (gone id : String) :
    getSession (removeSession tracking gone) id =
      if id = gone then none else getSession tracking id := by
  unfold removeSession
  cases found : getSession tracking gone with
  | none =>
      by_cases same : id = gone
      · simp [same, found]
      · simp [same]
  | some session =>
      have kept : getSession (retireBus (tracking.dropSession gone) session) id =
          getSession (tracking.dropSession gone) id := by
        unfold retireBus
        split <;> rfl
      rw [kept]
      exact drop_session_lookup tracking gone id

theorem remove_all_sessions (gone : List String) (id : String) :
    getSession (gone.foldl removeSession tracking) id =
      if id ∈ gone then none else getSession tracking id := by
  induction gone generalizing tracking with
  | nil => simp
  | cons first rest ih =>
      rw [List.foldl_cons, ih, get_remove_session]
      by_cases same : id = first
      · simp [same]
      · simp [same]

@[simp] theorem driver_put_session (session : ClientSession K) (id : String) :
    driverBus (tracking.putSession session) id =
      if id = session.sessionId then session.role.busCode else driverBus tracking id := by
  simp only [driverBus, get_put_session]
  split <;> rfl

@[simp] theorem driver_drop_session (gone id : String) :
    driverBus (tracking.dropSession gone) id =
      if id = gone then none else driverBus tracking id := by
  simp only [driverBus, getSession, drop_session_lookup]
  split <;> rfl

@[simp] theorem driver_put_bus (bus : LiveBusState K) (id : String) :
    driverBus (tracking.putBus bus) id = driverBus tracking id := rfl

@[simp] theorem driver_drop_bus (gone id : String) :
    driverBus (tracking.dropBus gone) id = driverBus tracking id := rfl

theorem driver_change_session {change : ClientSession K → ClientSession K}
    {keeps : ∀ session, (change session).sessionId = session.sessionId}
    (changed id : String)
    (role : ∀ session, (change session).role = session.role := by intro; rfl) :
    driverBus (tracking.changeSession changed change keeps) id = driverBus tracking id := by
  simp only [driverBus, get_change_session]
  split
  · cases getSession tracking id with
    | none => rfl
    | some session => simp [role]
  · rfl

theorem driver_remove_session (gone id : String) :
    driverBus (removeSession tracking gone) id =
      if id = gone then none else driverBus tracking id := by
  simp only [driverBus, get_remove_session]
  split <;> rfl

theorem driver_remove_all (gone : List String) (id : String) :
    driverBus (gone.foldl removeSession tracking) id =
      if id ∈ gone then none else driverBus tracking id := by
  simp only [driverBus, remove_all_sessions]
  split <;> rfl

theorem remove_session_lookup (gone code : String) :
    (removeSession tracking gone).liveBuses.lookup code =
      if driverBus tracking gone = some code then none else tracking.liveBuses.lookup code := by
  unfold removeSession
  split
  · rename_i absent
    simp [driverBus, absent]
  · rename_i session found
    unfold retireBus
    cases role : session.role.busCode with
    | none => simp [driverBus, found, role]
    | some busCode =>
        simp only [driverBus, found, Option.bind_some, role, drop_bus_lookup,
          drop_session_buses, Option.some.injEq, eq_comm (a := code)]

theorem remove_all_lookup (gone : List String) (code : String) :
    (gone.foldl removeSession tracking).liveBuses.lookup code =
      if ∃ id ∈ gone, driverBus tracking id = some code then none
      else tracking.liveBuses.lookup code := by
  induction gone generalizing tracking with
  | nil => simp
  | cons id rest ih =>
      rw [List.foldl_cons, ih, remove_session_lookup]
      by_cases here : driverBus tracking id = some code
      · simp [here]
      · have later : (∃ other ∈ rest, driverBus (removeSession tracking id) other = some code) ↔
            ∃ other ∈ id :: rest, driverBus tracking other = some code := by
          constructor
          · rintro ⟨other, member, drives⟩
            rw [driver_remove_session] at drives
            split at drives
            · exact absurd drives.symm (Option.some_ne_none code)
            · exact ⟨other, List.mem_cons_of_mem id member, drives⟩
          · rintro ⟨other, member, drives⟩
            rcases List.mem_cons.mp member with rfl | tail
            · exact absurd drives here
            -- `id` itself may come again, but it does not drive this bus.
            · refine ⟨other, tail, ?_⟩
              rw [driver_remove_session, if_neg ?_]
              · exact drives
              · rintro rfl
                exact here drives
        simp only [later, here, if_false]

theorem alerted_buses [Field K] [LinearOrder K] (geo : GeoDistance K) (now : Int) :
    (markAlerted geo tracking now).liveBuses = tracking.liveBuses := by
  unfold markAlerted
  generalize (pendingProximityAlerts geo tracking now).map (·.sessionId) = alerted
  induction alerted generalizing tracking with
  | nil => rfl
  | cons id rest ih => rw [List.foldl_cons, ih, change_session_buses]

theorem driver_alerted [Field K] [LinearOrder K] (geo : GeoDistance K) (now : Int) (id : String) :
    driverBus (markAlerted geo tracking now) id = driverBus tracking id := by
  simp only [driverBus, marked_session]
  split
  · cases getSession tracking id with
    | none => rfl
    | some session => rfl
  · rfl

theorem compute_if_absent_code (now : Int) (busCode driverId : String) :
    (computeIfAbsent tracking now busCode driverId).busCode = busCode := by
  unfold computeIfAbsent
  cases found : tracking.liveBuses.lookup busCode with
  | none => rfl
  | some bus => exact tracking.busKeys busCode bus found

variable {tracking}

theorem driver_role {id code : String} (drives : driverBus tracking id = some code) :
    ∃ session, getSession tracking id = some session ∧ session.role = .DRIVER code := by
  obtain ⟨session, found, carries⟩ := Option.bind_eq_some_iff.mp drives
  refine ⟨session, found, ?_⟩
  cases role : session.role with
  | USER => simp [role, ClientRole.busCode] at carries
  | DRIVER busCode => simpa [role, ClientRole.busCode] using carries

theorem located_bus_spec [Field K] [LinearOrder K] {now : Int} {id : String} {lat lng : K}
    {accuracy : Option K} {visible : Option Bool} {bus : LiveBusState K}
    (located : locatedBus tracking now id lat lng accuracy visible = some bus) :
    driverBus tracking id = some bus.busCode ∧ ∃ session, getSession tracking id = some session ∧
      bus = (computeIfAbsent tracking now bus.busCode session.clientId).locate
        lat lng accuracy visible now := by
  obtain ⟨session, found, located⟩ := Option.bind_eq_some_iff.mp located
  obtain ⟨busCode, role, located⟩ := Option.bind_eq_some_iff.mp located
  split at located
  · have same := Option.some.inj located
    have code : bus.busCode = busCode := by
      rw [← same]
      exact compute_if_absent_code tracking now busCode session.clientId
    rw [code]
    exact ⟨by simp [driverBus, found, role], session, found, same.symm⟩
  · exact absurd located.symm (Option.some_ne_none bus)

theorem crowded_bus_spec {id : String} {occupancy : Occupancy} {bus : LiveBusState K}
    (crowded : crowdedBus tracking id occupancy = some bus) :
    driverBus tracking id = some bus.busCode ∧
      ∃ old, tracking.liveBuses.lookup bus.busCode = some old ∧
        bus = { old with occupancy := some occupancy } := by
  obtain ⟨busCode, drives, crowded⟩ := Option.bind_eq_some_iff.mp crowded
  obtain ⟨old, found, same⟩ := Option.map_eq_some_iff.mp crowded
  have code : bus.busCode = busCode := by
    rw [← same]
    exact tracking.busKeys busCode old found
  rw [code]
  exact ⟨drives, old, found, same.symm⟩

end Lookups

/-! ## Calls that neither register nor remove -/

section Telemetry
variable [Field K] [LinearOrder K] (geo : GeoDistance K) (tracking : Tracking K) (now : Int)

/-- The calls of a session that leave everybody's registration alone. -/
def Call.isTelemetry : Call K → Bool
  | .registerDriver .. | .registerUser .. | .removeSession .. | .evictStaleSessions .. => false
  | _ => true

/-- Telemetry registers and removes nobody; the only bus it can make live is one
that a registered driver drives. -/
theorem telemetry_spec {call : Call K} (quiet : call.isTelemetry = true) :
    (∀ id, driverBus (perform geo tracking now call) id = driverBus tracking id) ∧
      ∀ code, ((tracking.liveBuses.lookup code).isSome →
          ((perform geo tracking now call).liveBuses.lookup code).isSome) ∧
        (((perform geo tracking now call).liveBuses.lookup code).isSome →
          (tracking.liveBuses.lookup code).isSome ∨ ∃ id, driverBus tracking id = some code) := by
  cases call with
  | registerDriver => exact absurd quiet (by simp [Call.isTelemetry])
  | registerUser => exact absurd quiet (by simp [Call.isTelemetry])
  | removeSession => exact absurd quiet (by simp [Call.isTelemetry])
  | evictStaleSessions => exact absurd quiet (by simp [Call.isTelemetry])
  | updateDriverLocation id lat lng accuracy visible =>
      simp only [perform, updateDriverLocation]
      split
      · exact ⟨fun _ => rfl, fun _ => ⟨fun live => live, Or.inl⟩⟩
      · rename_i bus located
        have drives := (located_bus_spec located).1
        refine ⟨fun other => ?_, fun code => ?_⟩
        · rw [driver_put_bus]
          exact driver_change_session tracking id other
        · simp only [put_bus_lookup, change_session_buses]
          split
          · rename_i same
            exact ⟨fun _ => rfl, fun _ => Or.inr ⟨id, by rw [drives, same]⟩⟩
          · exact ⟨fun live => live, Or.inl⟩
  | updateUserLocation id lat lng =>
      simp only [perform, updateUserLocation]
      split
      · refine ⟨fun other => driver_change_session tracking id other, fun code => ?_⟩
        exact ⟨fun live => live, Or.inl⟩
      · exact ⟨fun _ => rfl, fun _ => ⟨fun live => live, Or.inl⟩⟩
  | trackBus id busCode =>
      simp only [perform, trackBus]
      refine ⟨fun other => driver_change_session tracking id other, fun code => ?_⟩
      exact ⟨fun live => live, Or.inl⟩
  | subscribeRoute id routeNumber =>
      simp only [perform, subscribeRoute]
      refine ⟨fun other => driver_change_session tracking id other ?_, fun code => ?_⟩
      · intro session
        split <;> rfl
      · exact ⟨fun live => live, Or.inl⟩
  | setOccupancy id occupancy =>
      simp only [perform, setOccupancy]
      split
      · exact ⟨fun _ => rfl, fun _ => ⟨fun live => live, Or.inl⟩⟩
      · rename_i bus crowded
        obtain ⟨_, old, found, _⟩ := crowded_bus_spec crowded
        refine ⟨fun other => ?_, fun code => ?_⟩
        · rw [driver_change_session, driver_put_bus]
        · simp only [change_session_buses, put_bus_lookup]
          split
          · rename_i same
            exact ⟨fun _ => rfl, fun _ => Or.inl (by rw [same, found]; rfl)⟩
          · exact ⟨fun live => live, Or.inl⟩
  | setDriverVisibility driverId visible =>
      refine ⟨fun _ => rfl, fun code => ?_⟩
      simp [perform, setDriverVisibility, lookup_mapValues]
      exact Or.inl
  | touch id =>
      simp only [perform, touch]
      refine ⟨fun other => driver_change_session tracking id other, fun code => ?_⟩
      exact ⟨fun live => live, Or.inl⟩
  | pendingProximityAlerts =>
      simp only [perform, alerted_buses]
      refine ⟨fun other => driver_alerted tracking geo now other, fun code => ?_⟩
      exact ⟨fun live => live, Or.inl⟩

end Telemetry

end CityBus.LiveTracking
