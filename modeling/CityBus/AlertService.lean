import CityBus.RouteService
import CityBus.Store
import Mathlib

/-!
`AlertService`: notices to riders, each with the route it is about. The bean
validation of `AlertRequest` ran before.
-/

namespace CityBus.AlertService

open KeyedMaps Store

structure AlertRequest where
  title : String
  message : String
  severity : Severity
  routeId : Option Nat
  active : Option Bool
  expiresAt : Option Int

structure AlertResponse where
  id : Nat
  title : String
  message : String
  severity : Severity
  routeId : Option Nat
  routeNumber : Option Nat
  routeName : Option String
  routeColor : Option String
  active : Bool
  live : Bool
  createdAt : Int
  expiresAt : Option Int
  deriving DecidableEq

def unexpired (now : Int) (expiresAt : Option Int) : Bool := expiresAt.all fun expiry => now < expiry

def isLive (now : Int) (alert : ServiceAlert) : Bool := alert.active && unexpired now alert.expiresAt

variable {K : Type}

def responseFrom (now : Int) (alert : ServiceAlert) (route : Option (Route K)) : AlertResponse where
  id := alert.id
  title := alert.title
  message := alert.message
  severity := alert.severity
  routeId := route.map (·.id)
  routeNumber := route.map (·.routeNumber)
  routeName := route.map (·.name)
  routeColor := route.map (·.color)
  active := alert.active
  live := isLive now alert
  createdAt := alert.createdAt
  expiresAt := alert.expiresAt

/-- `getRoute` of a stored alert. There is none to read where the row it names is
gone: loading it throws. -/
def alertRoute (db : Database K) (alert : ServiceAlert) : Option (Option (Route K)) :=
  match alert.routeId with
  | none => some none
  | some routeId => (db.routes.lookup routeId).map some

def respond (db : Database K) (now : Int) (alert : ServiceAlert) : Option AlertResponse :=
  (alertRoute db alert).map (responseFrom now alert)

/-! ## Queries -/

def liveFeed (tables : Tables K) (now : Int) : Option (List AlertResponse) :=
  ((findByActiveTrueOrderByCreatedAtDesc tables).filter (isLive now)).mapM (respond tables.db now)

def findAll (tables : Tables K) (now : Int) : Option (List AlertResponse) :=
  (findAllByOrderByCreatedAtDesc tables).mapM (respond tables.db now)

def shown (tables : Tables K) (now : Int) : List ServiceAlert :=
  (findByActiveTrueOrderByCreatedAtDesc tables).filter (isLive now)

theorem feed_iff (tables : Tables K) (now : Int) (feed : List AlertResponse) :
    liveFeed tables now = some feed ↔
      (shown tables now).map (respond tables.db now) = feed.map some :=
  mapM_some_iff _ _ _

/-! ## Mutations -/

def getEntity (tables : Tables K) (id : Nat) : Except ServiceException ServiceAlert :=
  match tables.alerts.lookup id with
  | none => .error (.ResourceNotFoundException ("Alert not found: " ++ toString id))
  | some alert => .ok alert

/-- `new ServiceAlert()`; the identity column and the creation time come with the insert. -/
def newAlert : ServiceAlert := ⟨0, "", "", .INFO, none, true, 0, none⟩

def apply (db : Database K) (alert : ServiceAlert) (request : AlertRequest) :
    Except ServiceException (ServiceAlert × Option (Route K)) :=
  let filled : ServiceAlert :=
    { alert with
      title := RouteService.trim request.title
      message := RouteService.trim request.message
      severity := request.severity
      active := request.active.getD true
      -- An expiry that the request leaves out is cleared.
      expiresAt := request.expiresAt }
  match request.routeId with
  | none => .ok ({ filled with routeId := none }, none)
  | some routeId =>
      match db.routes.lookup routeId with
      | none => .error (.ResourceNotFoundException ("Route not found: " ++ toString routeId))
      | some route => .ok ({ filled with routeId := some route.id }, some route)

def create (tables : Tables K) (now : Int) (request : AlertRequest) :
    Except ServiceException (Tables K × AlertResponse) :=
  match apply tables.db newAlert request with
  | .error problem => .error problem
  | .ok (alert, route) =>
      let saved := { alert with id := tables.nextAlertId, createdAt := now }
      .ok ({ tables.putAlert saved with nextAlertId := tables.nextAlertId + 1 },
        responseFrom now saved route)

def update (tables : Tables K) (now : Int) (id : Nat) (request : AlertRequest) :
    Except ServiceException (Tables K × AlertResponse) :=
  match getEntity tables id with
  | .error problem => .error problem
  | .ok alert =>
      match apply tables.db alert request with
      | .error problem => .error problem
      | .ok (changed, route) => .ok (tables.putAlert changed, responseFrom now changed route)

def delete (tables : Tables K) (id : Nat) : Except ServiceException (Tables K) :=
  match getEntity tables id with
  | .error problem => .error problem
  | .ok alert => .ok (tables.removeAlert alert.id)

/-! ## What a mutation that goes through leaves -/

section Specs
variable {tables after : Tables K} {now : Int} {request : AlertRequest} {response : AlertResponse}

theorem apply_ok {db : Database K} {alert changed : ServiceAlert} {route : Option (Route K)}
    (applied : apply db alert request = .ok (changed, route)) :
    changed.id = alert.id ∧ changed.routeId = request.routeId ∧
      ∀ routeId ∈ request.routeId, (db.routes.lookup routeId).isSome := by
  unfold apply at applied
  cases named : request.routeId with
  | none =>
      rw [named] at applied
      cases applied
      exact ⟨rfl, rfl, by simp⟩
  | some routeId =>
      rw [named] at applied
      simp only at applied
      split at applied
      · cases applied
      · rename_i row found
        cases applied
        refine ⟨rfl, congrArg some (db.routeKeys routeId row found), ?_⟩
        intro other same
        rw [← Option.some.inj same, found]
        rfl

theorem create_ok (done : create tables now request = .ok (after, response)) :
    ∃ alert, alert.routeId = request.routeId ∧
      (∀ routeId ∈ request.routeId, (tables.db.routes.lookup routeId).isSome) ∧
      after = { tables.putAlert alert with nextAlertId := tables.nextAlertId + 1 } := by
  unfold create at done
  split at done
  · cases done
  · rename_i alert route applied
    obtain ⟨_, names, exist⟩ := apply_ok applied
    cases done
    exact ⟨{ alert with id := tables.nextAlertId, createdAt := now }, names, exist, rfl⟩

theorem update_ok {id : Nat} (done : update tables now id request = .ok (after, response)) :
    ∃ alert, alert.routeId = request.routeId ∧
      (∀ routeId ∈ request.routeId, (tables.db.routes.lookup routeId).isSome) ∧
      after = tables.putAlert alert := by
  unfold update at done
  split at done
  · cases done
  · split at done
    · cases done
    · rename_i alert route applied
      obtain ⟨_, names, exist⟩ := apply_ok applied
      cases done
      exact ⟨_, names, exist, rfl⟩

theorem delete_ok {id : Nat} (done : delete tables id = .ok after) :
    ∃ gone, after = tables.removeAlert gone := by
  unfold delete at done
  split at done
  · cases done
  · rename_i alert loaded
    exact ⟨alert.id, (Except.ok.inj done).symm⟩

end Specs

end CityBus.AlertService
