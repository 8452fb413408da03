import CityBus.LiveTracking
import CityBus.Store
import Mathlib

/-!
`BusService`: the fleet, with live telemetry merged into its responses. The
transactions on buses carry no version; each is one step on the store. The bean
validation of `BusRequest` ran before.
-/

namespace CityBus.BusService

open GeoUtils KeyedMaps Store LiveTracking

def isCodeLetter (letter : Char) : Bool :=
  ('a' ≤ letter && letter ≤ 'z') || ('0' ≤ letter && letter ≤ '9')

/-- `^[a-z0-9][a-z0-9-]{1,31}$` -/
def isBusCode (code : String) : Bool :=
  match code.toList with
  | [] => false
  | first :: rest =>
      isCodeLetter first && 1 ≤ rest.length && rest.length ≤ 31 &&
        rest.all fun letter => isCodeLetter letter || letter = '-'

structure BusRequest where
  code : String
  routeId : Nat
  active : Option Bool
  code_valid : isBusCode code = true := by decide

structure BusResponse (K : Type) where
  id : Nat
  code : String
  routeId : Option Nat
  routeNumber : Option Nat
  routeName : Option String
  routeColor : Option String
  active : Bool
  live : Option (LiveBusDto K)
  updatedAt : Int
  deriving DecidableEq

variable {K : Type}

def busNotFound (key : String) : ServiceException :=
  .ResourceNotFoundException ("Bus not found: " ++ key)

def codeTaken (code : String) : ServiceException :=
  .ConflictException ("Bus code '" ++ code ++ "' already exists")

def getEntity (db : Database K) (id : Nat) : Except ServiceException Bus :=
  match db.buses.lookup id with
  | none => .error (busNotFound (toString id))
  | some bus => .ok bus

def getRoute (db : Database K) (routeId : Nat) : Except ServiceException (Route K) :=
  match db.routes.lookup routeId with
  | none => .error (.ResourceNotFoundException ("Route not found: " ++ toString routeId))
  | some route => .ok route

def busRoute (db : Database K) (bus : Bus) : Option (Route K) := bus.routeId.bind db.routes.lookup

/-! ## Mutations -/

def create (db : Database K) (now : Int) (request : BusRequest) :
    Except ServiceException (Database K) :=
  if existsByCode db request.code then .error (codeTaken request.code)
  else
    match getRoute db request.routeId with
    | .error problem => .error problem
    | .ok route =>
        let bus : Bus := ⟨db.nextBusId, request.code, some route.id, request.active.getD true, now⟩
        .ok { db.putBus bus with nextBusId := db.nextBusId + 1 }

def update (db : Database K) (now : Int) (id : Nat) (request : BusRequest) :
    Except ServiceException (Database K) :=
  match getEntity db id with
  | .error problem => .error problem
  | .ok bus =>
      if ((findByCode db request.code).filter fun other => other.id ≠ id).isSome then
        .error (codeTaken request.code)
      else
        match getRoute db request.routeId with
        | .error problem => .error problem
        | .ok route => .ok (db.putBus
            { bus with
              code := request.code
              routeId := some route.id
              -- Unlike a route, a bus keeps its state when the request names none.
              active := request.active.getD bus.active
              updatedAt := now })

def delete (db : Database K) (id : Nat) : Except ServiceException (Database K) :=
  match getEntity db id with
  | .error problem => .error problem
  | .ok bus =>
      if existsByBusId db id then
        .error (.ConflictException ("Cannot delete bus '" ++ bus.code ++
          "': a driver account is still assigned to it"))
      else .ok (db.removeBus id)

/-! ## What a mutation that goes through leaves -/

section Specs
variable {db after : Database K} {now : Int}

theorem get_entity_ok {id : Nat} {bus : Bus} (loaded : getEntity db id = .ok bus) :
    db.buses.lookup id = some bus := by
  unfold getEntity at loaded
  split at loaded
  · cases loaded
  · rename_i found
    rw [found, Except.ok.inj loaded]

theorem get_route_ok {routeId : Nat} {route : Route K} (loaded : getRoute db routeId = .ok route) :
    db.routes.lookup routeId = some route := by
  unfold getRoute at loaded
  split at loaded
  · cases loaded
  · rename_i found
    rw [found, Except.ok.inj loaded]

theorem create_ok {request : BusRequest} (done : create db now request = .ok after) :
    ∃ bus, bus.id = db.nextBusId ∧ bus.code = request.code ∧ bus.routeId = some request.routeId ∧
      (db.routes.lookup request.routeId).isSome ∧
      after = { db.putBus bus with nextBusId := db.nextBusId + 1 } := by
  unfold create at done
  split at done
  · cases done
  · split at done
    · cases done
    · rename_i route loaded
      have found := get_route_ok loaded
      cases done
      refine ⟨_, rfl, rfl, ?_, by rw [found]; rfl, rfl⟩
      rw [db.routeKeys request.routeId route found]

theorem update_ok {id : Nat} {request : BusRequest} (done : update db now id request = .ok after) :
    ∃ old bus, db.buses.lookup id = some old ∧ bus.id = id ∧ bus.code = request.code ∧
      bus.routeId = some request.routeId ∧ (db.routes.lookup request.routeId).isSome ∧
      after = db.putBus bus := by
  unfold update at done
  split at done
  · cases done
  · rename_i old loaded
    have stored := get_entity_ok loaded
    split at done
    · cases done
    · split at done
      · cases done
      · rename_i route arrived
        have found := get_route_ok arrived
        cases done
        refine ⟨old, _, stored, ?_, rfl, ?_, by rw [found]; rfl, rfl⟩
        · exact db.busKeys id old stored
        · rw [db.routeKeys request.routeId route found]

theorem delete_ok {id : Nat} (done : delete db id = .ok after) :
    (db.buses.lookup id).isSome ∧ existsByBusId db id = false ∧ after = db.removeBus id := by
  unfold delete at done
  split at done
  · cases done
  · rename_i bus loaded
    split at done
    · cases done
    · rename_i free
      cases done
      exact ⟨by rw [get_entity_ok loaded]; rfl, eq_false_of_ne_true free, rfl⟩

end Specs

/-! ## Queries -/

section Responses
variable [Field K] [LinearOrder K] [FloorRing K] (geo : GeoDistance K) (db : Database K)
  (tracking : Tracking K)

def toResponse (bus : Bus) : BusResponse K where
  id := bus.id
  code := bus.code
  routeId := (busRoute db bus).map (·.id)
  routeNumber := (busRoute db bus).map (·.routeNumber)
  routeName := (busRoute db bus).map (·.name)
  routeColor := (busRoute db bus).map (·.color)
  active := bus.active
  live := liveBus geo tracking bus.code
  updatedAt := bus.updatedAt

def findAll : List (BusResponse K) :=
  ((values db.buses).mergeSort fun bus other => bus.code ≤ other.code).map
    (toResponse geo db tracking)

/-- `page` under the bounds that the controller puts on its parameters. -/
def page (page size : Int) : List (BusResponse K) :=
  let pageSize := (min (max 1 size) 100).toNat
  ((findAll geo db tracking).drop ((max 0 page).toNat * pageSize)).take pageSize

def findById (id : Nat) : Except ServiceException (BusResponse K) :=
  (getEntity db id).map (toResponse geo db tracking)

def findByCode (code : String) : Except ServiceException (BusResponse K) :=
  match Store.findByCode db code with
  | none => .error (busNotFound code)
  | some bus => .ok (toResponse geo db tracking bus)

end Responses

end CityBus.BusService
