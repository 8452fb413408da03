import CityBus.GeoUtils
import CityBus.Store
import Mathlib

/-!
`RouteService`: the bodies of its transactions. A body reads the committed store
and leaves the row its transaction flushes at commit. The bean validation of
`RouteRequest` ran before: times are times and the frequency is positive.
-/

namespace CityBus.RouteService

open GeoUtils KeyedMaps Store

structure StopDto (K : Type) where
  id : Option Nat
  name : String
  lat : K
  lng : K
  deriving DecidableEq

structure RouteRequest (K : Type) where
  routeNumber : Nat
  name : String
  color : String
  firstBus : LocalTime
  lastBus : LocalTime
  frequencyMinutes : Nat
  active : Option Bool
  path : List (List K)
  stops : List (StopDto K)
  frequency_pos : 0 < frequencyMinutes := by decide

structure RouteResponse (K : Type) where
  id : Nat
  routeNumber : Nat
  name : String
  color : String
  firstBus : LocalTime
  lastBus : LocalTime
  frequencyMinutes : Nat
  active : Bool
  path : List (K × K)
  stops : List (StopDto K)
  busCount : Nat
  updatedAt : Int
  deriving DecidableEq

/-- `String.trim` of Java: the characters up to the blank are cut at both ends. -/
def trim (text : String) : String :=
  String.ofList (((text.toList.dropWhile (· ≤ ' ')).reverse.dropWhile (· ≤ ' ')).reverse)

variable {K : Type} [Field K] [LinearOrder K] [ToString K]

def pathPoint : List K → Except ServiceException (GeoPoint K)
  | [lat, lng] =>
      if isValidLatitude lat && isValidLongitude lng then .ok ⟨lat, lng⟩
      else .error (.BadRequestException
        ("Path point out of range: [" ++ toString lat ++ ", " ++ toString lng ++ "]"))
  | _ => .error (.BadRequestException "Each path point must be a [lat, lng] pair")

/-- The entity after `applyRequest`; what the request does not carry stays. -/
def applyRequest (route : Route K) (request : RouteRequest K) :
    Except ServiceException (Route K) :=
  match request.path.mapM pathPoint with
  | .error problem => .error problem
  | .ok path => .ok
      { route with
        routeNumber := request.routeNumber
        name := trim request.name
        color := request.color.toLower
        firstBus := request.firstBus
        lastBus := request.lastBus
        frequencyMinutes := request.frequencyMinutes
        -- A request without `active` switches the route on, also on an update.
        active := request.active.getD true
        path := path
        stops := request.stops.map fun s => ⟨none, trim s.name, s.lat, s.lng⟩
        frequency_pos := request.frequency_pos }

omit [Field K] [LinearOrder K] [ToString K] in
def toResponse (db : Database K) (route : Route K) : RouteResponse K where
  id := route.id
  routeNumber := route.routeNumber
  name := route.name
  color := route.color
  firstBus := route.firstBus
  lastBus := route.lastBus
  frequencyMinutes := route.frequencyMinutes
  active := route.active
  path := route.path.map fun p => (p.lat, p.lng)
  stops := route.stops.map fun s => ⟨s.id, s.name, s.lat, s.lng⟩
  busCount := countByRouteId db route.id
  updatedAt := route.updatedAt

def numberTaken (routeNumber : Nat) : ServiceException :=
  .ConflictException ("Route number " ++ toString routeNumber ++ " already exists")

def getEntity (db : Database K) (id : Nat) : Except ServiceException (Route K) :=
  match db.routes.lookup id with
  | none => .error (.ResourceNotFoundException ("Route not found: " ++ toString id))
  | some route => .ok route

omit [Field K] [LinearOrder K] [ToString K] in
def findAll (db : Database K) : List (RouteResponse K) :=
  ((values db.routes).mergeSort fun route other => route.routeNumber ≤ other.routeNumber).map
    (toResponse db)

omit [Field K] [LinearOrder K] [ToString K] in
def findById (db : Database K) (id : Nat) : Except ServiceException (RouteResponse K) :=
  (getEntity db id).map (toResponse db)

def create (db : Database K) (request : RouteRequest K) : Except ServiceException (RowWrite K) :=
  if existsByRouteNumber db request.routeNumber then .error (numberTaken request.routeNumber)
  else (applyRequest newRoute request).map .insert

def update (db : Database K) (id : Nat) (request : RouteRequest K) :
    Except ServiceException (RowWrite K) :=
  match getEntity db id with
  | .error problem => .error problem
  | .ok route =>
      if ((findByRouteNumber db request.routeNumber).filter fun other => other.id ≠ id).isSome then
        .error (numberTaken request.routeNumber)
      else (applyRequest route request).map .update

def delete (db : Database K) (id : Nat) : Except ServiceException (RowWrite K) :=
  match getEntity db id with
  | .error problem => .error problem
  | .ok route =>
      let assignedBuses := countByRouteId db id
      if 0 < assignedBuses then
        .error (.ConflictException ("Cannot delete route " ++ toString route.routeNumber ++ ": " ++
          toString assignedBuses ++ " bus(es) are still assigned to it"))
      else .ok (.delete id route.version)

inductive Mutation (K : Type) where
  | create (request : RouteRequest K)
  | update (id : Nat) (request : RouteRequest K)
  | delete (id : Nat)

def Mutation.body (db : Database K) : Mutation K → Except ServiceException (RowWrite K)
  | .create request => RouteService.create db request
  | .update id request => RouteService.update db id request
  | .delete id => RouteService.delete db id

end CityBus.RouteService
