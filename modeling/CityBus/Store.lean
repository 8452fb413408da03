import CityBus.Domain
import CityBus.KeyedMaps

/-!
The relational store as keyed tables, and the row a transaction writes back when
it commits. A versioned row is only written over the version its transaction
loaded; `route_number` and `code` are unique columns.
-/

namespace CityBus.Store

open KeyedMaps

variable {K : Type}

/-- Rows are kept under their identity column. -/
structure Database (K : Type) where
  routes : KeyedMap Nat (Route K)
  buses : KeyedMap Nat Bus
  users : KeyedMap Nat UserAccount
  nextRouteId : Nat
  nextBusId : Nat
  nextStopId : Nat
  routeKeys : ∀ id route, routes.lookup id = some route → route.id = id
  busKeys : ∀ id bus, buses.lookup id = some bus → bus.id = id

def Database.empty : Database K where
  routes := ∅
  buses := ∅
  users := ∅
  nextRouteId := 1
  nextBusId := 1
  nextStopId := 1
  routeKeys := by simp
  busKeys := by simp

def Database.putRoute (db : Database K) (route : Route K) : Database K :=
  { db with
    routes := db.routes.insert route.id route
    routeKeys := by
      intro id other found
      rw [lookup_insert_eq] at found
      split at found
      · rename_i same
        rw [same, Option.some.inj found]
      · exact db.routeKeys id other found }

def Database.removeRoute (db : Database K) (id : Nat) : Database K :=
  { db with
    routes := db.routes.erase id
    routeKeys := by
      intro other route found
      rw [lookup_erase_eq] at found
      split at found
      · exact absurd found.symm (Option.some_ne_none route)
      · exact db.routeKeys other route found }

def Database.putBus (db : Database K) (bus : Bus) : Database K :=
  { db with
    buses := db.buses.insert bus.id bus
    busKeys := by
      intro id other found
      rw [lookup_insert_eq] at found
      split at found
      · rename_i same
        rw [same, Option.some.inj found]
      · exact db.busKeys id other found }

def Database.removeBus (db : Database K) (id : Nat) : Database K :=
  { db with
    buses := db.buses.erase id
    busKeys := by
      intro other bus found
      rw [lookup_erase_eq] at found
      split at found
      · exact absurd found.symm (Option.some_ne_none bus)
      · exact db.busKeys other bus found }

/-- The tables the services share: those of `Database` and `service_alerts`. -/
structure Tables (K : Type) where
  db : Database K
  alerts : KeyedMap Nat ServiceAlert
  nextAlertId : Nat
  alertKeys : ∀ id alert, alerts.lookup id = some alert → alert.id = id

def Tables.of (db : Database K) : Tables K := ⟨db, ∅, 1, by simp⟩

def Tables.putAlert (tables : Tables K) (alert : ServiceAlert) : Tables K :=
  { tables with
    alerts := tables.alerts.insert alert.id alert
    alertKeys := by
      intro id other found
      rw [lookup_insert_eq] at found
      split at found
      · rename_i same
        rw [same, Option.some.inj found]
      · exact tables.alertKeys id other found }

def Tables.removeAlert (tables : Tables K) (id : Nat) : Tables K :=
  { tables with
    alerts := tables.alerts.erase id
    alertKeys := by
      intro other alert found
      rw [lookup_erase_eq] at found
      split at found
      · exact absurd found.symm (Option.some_ne_none alert)
      · exact tables.alertKeys other alert found }

/-! ## Queries of the repositories -/

def findByRouteNumber (db : Database K) (routeNumber : Nat) : Option (Route K) :=
  (values db.routes).find? fun route => route.routeNumber = routeNumber

def existsByRouteNumber (db : Database K) (routeNumber : Nat) : Bool :=
  (findByRouteNumber db routeNumber).isSome

def findByCode (db : Database K) (code : String) : Option Bus :=
  (values db.buses).find? fun bus => bus.code = code

def existsByCode (db : Database K) (code : String) : Bool := (findByCode db code).isSome

def countByRouteId (db : Database K) (routeId : Nat) : Nat :=
  ((values db.buses).filter fun bus => bus.routeId = some routeId).length

def findByUsername (db : Database K) (username : String) : Option UserAccount :=
  (values db.users).find? fun user => user.username = username

def newestFirst (alerts : List ServiceAlert) : List ServiceAlert :=
  alerts.mergeSort fun alert other => other.createdAt ≤ alert.createdAt

def findAllByOrderByCreatedAtDesc (tables : Tables K) : List ServiceAlert :=
  newestFirst (values tables.alerts)

def findByActiveTrueOrderByCreatedAtDesc (tables : Tables K) : List ServiceAlert :=
  newestFirst ((values tables.alerts).filter (·.active))

def existsByBusId (db : Database K) (busId : Nat) : Bool :=
  (values db.users).any fun user => user.busId = some busId

/-! ## Commits -/

/-- What a transaction on routes flushes: the row as the entity has it, under the
version the entity was loaded with. -/
inductive RowWrite (K : Type) where
  | insert (row : Route K)
  | update (row : Route K)
  | delete (id loaded : Nat)
  deriving DecidableEq

def routeNumberTaken (db : Database K) (id : Option Nat) (routeNumber : Nat) : Bool :=
  (values db.routes).any fun other => other.routeNumber = routeNumber && !(some other.id = id)

/-- `applyRequest` makes every stop of a written route anew, so each gets the next key. -/
def numberStops (next : Nat) (stops : List (Stop K)) : List (Stop K) :=
  stops.mapIdx fun i stop => { stop with id := some (next + i) }

theorem mem_number_stops {next : Nat} {stops : List (Stop K)} {stop : Stop K} :
    stop ∈ numberStops next stops ↔
      ∃ (i : Nat) (bound : i < stops.length), { stops[i] with id := some (next + i) } = stop := by
  rw [numberStops, List.mem_mapIdx]

@[simp] theorem length_number_stops (next : Nat) (stops : List (Stop K)) :
    (numberStops next stops).length = stops.length := by
  rw [numberStops, List.length_mapIdx]

def Database.saveRoute (db : Database K) (row : Route K) : Database K :=
  { db.putRoute { row with stops := numberStops db.nextStopId row.stops } with
    nextStopId := db.nextStopId + row.stops.length }

def commit (db : Database K) (now : Int) : RowWrite K → Except ServiceException (Database K)
  | .insert row =>
      if routeNumberTaken db none row.routeNumber then
        .error .DataIntegrityViolationException
      else
        let stored := { row with id := db.nextRouteId, version := 0, updatedAt := now }
        .ok { db.saveRoute stored with nextRouteId := db.nextRouteId + 1 }
  | .update row =>
      match db.routes.lookup row.id with
      -- A row that is gone updates nothing, which counts as a lost race.
      | none => .error .OptimisticLockingFailureException
      | some current =>
          if current.version ≠ row.version then .error .OptimisticLockingFailureException
          else if routeNumberTaken db (some row.id) row.routeNumber then
            .error .DataIntegrityViolationException
          else .ok (db.saveRoute { row with version := row.version + 1, updatedAt := now })
  | .delete id loaded =>
      match db.routes.lookup id with
      | none => .error .OptimisticLockingFailureException
      | some current =>
          if current.version ≠ loaded then .error .OptimisticLockingFailureException
          else .ok (db.removeRoute id)

end CityBus.Store
