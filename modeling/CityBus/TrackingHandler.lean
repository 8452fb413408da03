import CityBus.AuthService
import CityBus.BusService
import CityBus.LiveTracking
import Mathlib

/-!
`BusTrackingWebSocketHandler`: what a message of a client does to the registry and
which messages go out for it. A message is taken as the values that its handler
reads from the JSON, with `none` where the handler finds no usable one. Handlers
address sessions; what is sent to a socket that is not open is dropped.
-/

namespace CityBus.TrackingHandler

open AuthService GeoUtils KeyedMaps LiveTracking Store

def STALE_SESSION_TIMEOUT_MS : Int := 2 * 60 * 1000

inductive Incoming (K : Type) where
  | driverRegister (token : Option Claims)
  | driverLocation (coords : Option (K × K)) (accuracy : Option K) (visible : Option Bool)
  | driverOccupancy (level : String)
  | userRegister (userId : String)
  | userLocation (coords : Option (K × K))
  | getActiveBuses
  | getOtherDrivers
  | driverVisibility (visible : Option Bool)
  | trackBus (busId : Option String)
  | subscribeRoute (routeNumber : Option Int)
  | ping
  | unknown (type : String)

inductive Outgoing (K : Type) where
  | driverRegistered (driverId busId : String)
  | newDriverAvailable (driverId busId : String)
  | locationAcknowledged (busId : String)
  | busLocationUpdate (bus : LiveBusDto K)
  | driverLocationUpdate (bus : LiveBusDto K)
  | occupancyAcknowledged (level : Occupancy)
  | busOccupancyUpdate (bus : LiveBusDto K)
  | routeSubscribed (routeNumber : Option Int)
  | userRegistered (userId : String)
  | activeBuses (buses : List (LiveBusDto K))
  | otherDrivers (buses : List (LiveBusDto K))
  | trackingStarted (busId : String)
  | driverLeft (driverId busId : String)
  | proximityAlert (busId : String) (distanceKm : K) (metres : Int)
  | pong
  | error (message : String)
  deriving DecidableEq

/-- Messages in the order in which they are sent, each with its session. -/
abbrev Sends (K : Type) := List (String × Outgoing K)

variable {K : Type}

/-! ## Delivery -/

section Delivery
variable (tracking : Tracking K)

def wantsRoute (session : ClientSession K) (routeNumber : Option Int) : Bool :=
  session.subscribedRouteNumber.isNone || routeNumber.isNone ||
    session.subscribedRouteNumber = routeNumber

def broadcastToUsers (message : Outgoing K) : Sends K :=
  (userSessions tracking).map fun user => (user.sessionId, message)

def broadcastToSubscribedUsers (message : Outgoing K) (bus : LiveBusDto K) : Sends K :=
  ((userSessions tracking).filter fun user => wantsRoute user bus.routeNumber).map fun user =>
    (user.sessionId, message)

def broadcastToOtherDrivers (message : Outgoing K) (excludeSessionId : String) : Sends K :=
  ((driverSessions tracking).filter fun driver => driver.sessionId ≠ excludeSessionId).map
    fun driver => (driver.sessionId, message)

def announceDeparture (client : ClientSession K) : Sends K :=
  match client.role with
  | .USER => []
  | .DRIVER busCode => broadcastToUsers tracking (.driverLeft client.clientId busCode)

end Delivery

/-! ## Inbound messages -/

def valueOf : String → Option Occupancy
  | "LOW" => some .LOW
  | "MEDIUM" => some .MEDIUM
  | "FULL" => some .FULL
  | _ => none

section Handlers
variable (db : Database K) (tracking : Tracking K) (now : Int) (sessionId : String)

def handleDriverRegister (token : Option Claims) : Tracking K × Sends K :=
  match (token.bind (parse now)).filter fun claims => claims.role = "DRIVER" with
  | none => (tracking, [(sessionId, .error "Driver authentication failed. Log in again.")])
  | some claims =>
      match claims.busCode with
      | none => (tracking, [(sessionId, .error "No bus is assigned to this driver account.")])
      | some busCode =>
          -- A bus code without a row, or without a route, registers with no route number.
          let route := (findByCode db busCode).bind (BusService.busRoute db)
          let registered := registerDriver tracking now sessionId claims.subject busCode
            (route.map fun r => (r.routeNumber : Int)) (route.map (·.color))
          (registered, (sessionId, .driverRegistered claims.subject busCode) ::
            broadcastToUsers registered (.newDriverAvailable claims.subject busCode))

variable [Field K] [LinearOrder K] [FloorRing K] (geo : GeoDistance K)

def handleDriverLocation (coords : Option (K × K)) (accuracy : Option K) (visible : Option Bool) :
    Tracking K × Sends K :=
  match coords with
  | none => (tracking, [])
  | some (lat, lng) =>
      match locatedBus tracking now sessionId lat lng accuracy visible with
      | none =>
          (tracking, [(sessionId, .error "Register as a driver before sending locations")])
      | some bus =>
          let located := updateDriverLocation tracking now sessionId lat lng accuracy visible
          let dto := toDto geo bus
          (located, (sessionId, .locationAcknowledged dto.busId) ::
            if dto.visible then
              broadcastToSubscribedUsers located (.busLocationUpdate dto) dto ++
                broadcastToOtherDrivers located (.driverLocationUpdate dto) sessionId
            else [])

def handleDriverOccupancy (level : String) : Tracking K × Sends K :=
  match valueOf level.toUpper with
  | none => (tracking, [(sessionId, .error "Occupancy level must be LOW, MEDIUM or FULL")])
  | some occupancy =>
      match crowdedBus tracking sessionId occupancy with
      | none =>
          (tracking, [(sessionId, .error "Register as a driver before reporting occupancy")])
      | some bus =>
          let crowded := setOccupancy tracking now sessionId occupancy
          let dto := toDto geo bus
          (crowded, (sessionId, .occupancyAcknowledged occupancy) ::
            if dto.visible then broadcastToSubscribedUsers crowded (.busOccupancyUpdate dto) dto
            else [])

omit [Field K] [LinearOrder K] [FloorRing K] in
def handleSubscribeRoute (routeNumber : Option Int) : Tracking K × Sends K :=
  (subscribeRoute tracking now sessionId routeNumber, [(sessionId, .routeSubscribed routeNumber)])

def handleUserRegister (userId : String) : Tracking K × Sends K :=
  let registered := registerUser tracking now sessionId userId
  (registered, [(sessionId, .userRegistered userId),
    (sessionId, .activeBuses (snapshotVisibleBuses geo registered))])

omit [FloorRing K] in
def handleUserLocation (coords : Option (K × K)) : Tracking K × Sends K :=
  match coords with
  | none => (tracking, [])
  | some (lat, lng) => (updateUserLocation tracking now sessionId lat lng, [])

def handleGetOtherDrivers : Tracking K × Sends K :=
  let others := (snapshotVisibleBuses geo tracking).filter fun dto =>
    match getSession tracking sessionId with
    | none => true
    | some session => session.role.busCode ≠ some dto.busId
  (tracking, [(sessionId, .otherDrivers others)])

omit [Field K] [LinearOrder K] [FloorRing K] in
def handleDriverVisibility (visible : Option Bool) : Tracking K × Sends K :=
  match (getSession tracking sessionId).filter fun session => session.role ≠ .USER with
  | none => (tracking, [])
  -- The toggle is passed on under the driver's id, not under the bus of the session.
  | some session => (setDriverVisibility tracking session.clientId (visible.getD true), [])

omit [Field K] [LinearOrder K] [FloorRing K] in
def handleTrackBus (busId : Option String) : Tracking K × Sends K :=
  match busId with
  | none => (tracking, [])
  | some busCode =>
      (trackBus tracking now sessionId busCode, [(sessionId, .trackingStarted busCode)])

omit [Field K] [LinearOrder K] [FloorRing K] in
def handlePing : Tracking K × Sends K := (touch tracking now sessionId, [(sessionId, .pong)])

def handleMessage : Incoming K → Tracking K × Sends K
  | .driverRegister token => handleDriverRegister db tracking now sessionId token
  | .driverLocation coords accuracy visible =>
      handleDriverLocation tracking now sessionId geo coords accuracy visible
  | .driverOccupancy level => handleDriverOccupancy tracking now sessionId geo level
  | .userRegister userId => handleUserRegister tracking now sessionId geo userId
  | .userLocation coords => handleUserLocation tracking now sessionId coords
  | .getActiveBuses => (tracking, [(sessionId, .activeBuses (snapshotVisibleBuses geo tracking))])
  | .getOtherDrivers => handleGetOtherDrivers tracking sessionId geo
  | .driverVisibility visible => handleDriverVisibility tracking sessionId visible
  | .trackBus busId => handleTrackBus tracking now sessionId busId
  | .subscribeRoute routeNumber => handleSubscribeRoute tracking now sessionId routeNumber
  | .ping => handlePing tracking now sessionId
  | .unknown type => (tracking, [(sessionId, .error ("Unknown message type: " ++ type))])

/-! ## Departures and scheduled maintenance -/

omit [Field K] [LinearOrder K] [FloorRing K] in
def cleanup : Tracking K × Sends K :=
  let removed := removeSession tracking sessionId
  match getSession tracking sessionId with
  | none => (removed, [])
  | some client => (removed, announceDeparture removed client)

def alertMessage (alert : ProximityAlert K) : String × Outgoing K :=
  (alert.sessionId, .proximityAlert alert.busCode
    (⌊alert.distanceKm * (100 : Nat) + 1 / (2 : Nat)⌋ / (100 : Nat))
    ⌊alert.distanceKm * (1000 : Nat) + 1 / (2 : Nat)⌋)

def broadcastActiveBuses : Tracking K × Sends K :=
  let users := userSessions tracking
  if users.isEmpty then (tracking, [])
  else
    -- The alerts are due also when no bus is visible and no snapshot goes out.
    let snapshot := snapshotVisibleBuses geo tracking
    let shown : Sends K :=
      if snapshot.isEmpty then [] else users.map fun user => (user.sessionId, .activeBuses snapshot)
    (markAlerted geo tracking now,
      shown ++ (pendingProximityAlerts geo tracking now).map alertMessage)

omit [Field K] [LinearOrder K] [FloorRing K] in
/-- The whole sweep ran before the first departure is announced. -/
def evictStale : Tracking K × Sends K :=
  let stale := staleSessions tracking now STALE_SESSION_TIMEOUT_MS
  let swept := evictStaleSessions tracking now STALE_SESSION_TIMEOUT_MS
  (swept, stale.flatMap (announceDeparture swept))

end Handlers

theorem cleanup_eq (tracking : Tracking K) (id : String) :
    cleanup tracking id = ([id].foldl removeSession tracking,
      (getSession tracking id).toList.flatMap
        (announceDeparture ([id].foldl removeSession tracking))) := by
  unfold cleanup
  cases getSession tracking id with
  | none => rfl
  | some client => simp

end CityBus.TrackingHandler
