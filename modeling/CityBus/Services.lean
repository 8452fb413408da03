import CityBus.AlertService
import CityBus.BusService
import Mathlib

/-!
One write of a service over the tables, from the body of its transaction to the
commit. Whether the schema carries foreign keys is a parameter: where it does, the
store itself refuses to delete a route that a row still names.
-/

namespace CityBus.Services

open AlertService BusService KeyedMaps RouteService Store

inductive Operation (K : Type) where
  | createRoute (request : RouteRequest K)
  | updateRoute (id : Nat) (request : RouteRequest K)
  | deleteRoute (id : Nat)
  | createBus (request : BusRequest)
  | updateBus (id : Nat) (request : BusRequest)
  | deleteBus (id : Nat)
  | createAlert (request : AlertRequest)
  | updateAlert (id : Nat) (request : AlertRequest)
  | deleteAlert (id : Nat)

variable {K : Type}

def namedByBus (tables : Tables K) (routeId : Nat) : Prop :=
  ∃ id bus, tables.db.buses.lookup id = some bus ∧ bus.routeId = some routeId

def namedByAlert (tables : Tables K) (routeId : Nat) : Prop :=
  ∃ id alert, tables.alerts.lookup id = some alert ∧ alert.routeId = some routeId

def namedByAccount (tables : Tables K) (busId : Nat) : Prop :=
  ∃ id user, tables.db.users.lookup id = some user ∧ user.busId = some busId

/-- The foreign keys on a route are violated without it. -/
def heldByKey (tables : Tables K) (routeId : Nat) : Bool :=
  0 < countByRouteId tables.db routeId ||
    (values tables.alerts).any fun alert => alert.routeId = some routeId

def deletedRoute : RowWrite K → Option Nat
  | .delete id _ => some id
  | _ => none

def flush (foreignKeys : Bool) (tables : Tables K) (now : Int) (write : RowWrite K) :
    Except ServiceException (Tables K) :=
  if foreignKeys && (deletedRoute write).any (heldByKey tables) then
    .error .DataIntegrityViolationException
  else (commit tables.db now write).map fun db => { tables with db := db }

section Writes
variable [Field K] [LinearOrder K] [ToString K] (foreignKeys : Bool) (tables : Tables K) (now : Int)

def writeRoute (mutation : RouteService.Mutation K) : Except ServiceException (Tables K) :=
  match mutation.body tables.db with
  | .error problem => .error problem
  | .ok write => flush foreignKeys tables now write

omit [Field K] [LinearOrder K] [ToString K] in
def writeFleet (result : Except ServiceException (Database K)) :
    Except ServiceException (Tables K) :=
  result.map fun db => { tables with db := db }

def attempt : Operation K → Except ServiceException (Tables K)
  | .createRoute request => writeRoute foreignKeys tables now (.create request)
  | .updateRoute id request => writeRoute foreignKeys tables now (.update id request)
  | .deleteRoute id => writeRoute foreignKeys tables now (.delete id)
  | .createBus request => writeFleet tables (BusService.create tables.db now request)
  | .updateBus id request => writeFleet tables (BusService.update tables.db now id request)
  | .deleteBus id => writeFleet tables (BusService.delete tables.db id)
  | .createAlert request => (AlertService.create tables now request).map Prod.fst
  | .updateAlert id request => (AlertService.update tables now id request).map Prod.fst
  | .deleteAlert id => AlertService.delete tables id

/-- An operation that throws is rolled back. -/
def perform (operation : Operation K) : Tables K :=
  match attempt foreignKeys tables now operation with
  | .error _ => tables
  | .ok after => after

end Writes

/-- Identity columns hand out ids that no row has. -/
structure Numbered (tables : Tables K) : Prop where
  routes : ∀ id route, tables.db.routes.lookup id = some route → id < tables.db.nextRouteId
  buses : ∀ id bus, tables.db.buses.lookup id = some bus → id < tables.db.nextBusId

/-! ## What a write that goes through leaves -/

section Specs
variable [Field K] [LinearOrder K] [ToString K] {foreignKeys : Bool} {tables after : Tables K}
  {now : Int}

omit [Field K] [LinearOrder K] [ToString K] in
theorem count_zero_iff (tables : Tables K) (routeId : Nat) :
    countByRouteId tables.db routeId = 0 ↔ ¬ namedByBus tables routeId := by
  simp only [countByRouteId, List.length_eq_zero_iff, List.filter_eq_nil_iff, decide_eq_true_eq]
  constructor
  · rintro none ⟨id, bus, found, names⟩
    exact none bus (mem_values.mpr ⟨id, found⟩) names
  · intro unnamed bus member names
    obtain ⟨id, found⟩ := mem_values.mp member
    exact unnamed ⟨id, bus, found, names⟩

omit [Field K] [LinearOrder K] [ToString K] in
theorem flush_ok {write : RowWrite K} (done : flush foreignKeys tables now write = .ok after) :
    ∃ db, commit tables.db now write = .ok db ∧ after = { tables with db := db } := by
  unfold flush at done
  split at done
  · cases done
  · cases committed : commit tables.db now write with
    | error problem =>
        rw [committed] at done
        cases done
    | ok db =>
        rw [committed] at done
        exact ⟨db, rfl, (Except.ok.inj done).symm⟩

theorem apply_request_ok {route row : Route K} {request : RouteRequest K}
    (applied : applyRequest route request = .ok row) :
    row.id = route.id ∧ row.version = route.version ∧ row.routeNumber = request.routeNumber ∧
      row.name = trim request.name ∧ row.color = request.color.toLower := by
  unfold applyRequest at applied
  split at applied
  · cases applied
  · cases applied
    exact ⟨rfl, rfl, rfl, rfl, rfl⟩

theorem create_route_ok {request : RouteRequest K}
    (done : attempt foreignKeys tables now (.createRoute request) = .ok after) :
    ∃ row nextStop, row.id = tables.db.nextRouteId ∧
      after = { tables with
        db := { tables.db.putRoute row with
          nextRouteId := tables.db.nextRouteId + 1
          nextStopId := nextStop } } := by
  simp only [attempt, writeRoute, Mutation.body] at done
  cases body : RouteService.create tables.db request with
  | error problem =>
      rw [body] at done
      cases done
  | ok write =>
      rw [body] at done
      obtain ⟨db, committed, rfl⟩ := flush_ok done
      unfold RouteService.create at body
      split at body
      · cases body
      · cases applied : applyRequest newRoute request with
        | error problem =>
            rw [applied] at body
            cases body
        | ok row =>
            rw [applied] at body
            cases body
            simp only [commit] at committed
            split at committed
            · cases committed
            · cases committed
              exact ⟨_, _, rfl, rfl⟩

theorem update_route_ok {id : Nat} {request : RouteRequest K}
    (done : attempt foreignKeys tables now (.updateRoute id request) = .ok after) :
    ∃ route row nextStop, tables.db.routes.lookup id = some route ∧ row.id = id ∧
      row.routeNumber = request.routeNumber ∧ row.name = trim request.name ∧
      row.color = request.color.toLower ∧
      after = { tables with
        db := { tables.db.putRoute row with nextStopId := nextStop } } := by
  simp only [attempt, writeRoute, Mutation.body, RouteService.update, RouteService.getEntity] at done
  cases found : tables.db.routes.lookup id with
  | none =>
      rw [found] at done
      cases done
  | some route =>
      rw [found] at done
      simp only at done
      split at done
      · cases done
      · rename_i write body
        obtain ⟨db, committed, rfl⟩ := flush_ok done
        split at body
        · cases body
        · cases applied : applyRequest route request with
          | error problem =>
              rw [applied] at body
              cases body
          | ok row =>
              rw [applied] at body
              cases body
              obtain ⟨same, version, number, name, color⟩ := apply_request_ok applied
              simp only [commit] at committed
              split at committed
              · cases committed
              · split at committed
                · cases committed
                · split at committed
                  · cases committed
                  · cases committed
                    let written : Route K := { row with
                      version := row.version + 1
                      updatedAt := now
                      stops := numberStops tables.db.nextStopId row.stops }
                    refine ⟨route, written, _, rfl, ?_, number, name, color, rfl⟩
                    exact same.trans (tables.db.routeKeys id route found)

/-- A route is deleted while no bus names it, whatever alerts name it. -/
theorem delete_route_ok {id : Nat}
    (done : attempt foreignKeys tables now (.deleteRoute id) = .ok after) :
    ¬ namedByBus tables id ∧ (foreignKeys = true → heldByKey tables id = false) ∧
      (tables.db.routes.lookup id).isSome ∧
      after = { tables with db := tables.db.removeRoute id } := by
  simp only [attempt, writeRoute, Mutation.body, RouteService.delete, RouteService.getEntity] at done
  cases found : tables.db.routes.lookup id with
  | none =>
      rw [found] at done
      cases done
  | some route =>
      rw [found] at done
      simp only at done
      split at done
      · cases done
      · rename_i write body
        split at body
        · cases body
        · rename_i unassigned
          cases body
          obtain ⟨db, committed, rfl⟩ := flush_ok done
          simp only [commit, found, ne_eq, not_true_eq_false, if_false] at committed
          cases committed
          refine ⟨(count_zero_iff tables id).mp (by omega), fun keyed => ?_, rfl, rfl⟩
          simp only [flush, deletedRoute, keyed, Bool.true_and, Option.any_some] at done
          split at done
          · cases done
          · rename_i free
            exact eq_false_of_ne_true free

theorem create_bus_ok {request : BusRequest}
    (done : attempt foreignKeys tables now (.createBus request) = .ok after) :
    ∃ bus, bus.id = tables.db.nextBusId ∧ bus.routeId = some request.routeId ∧
      (tables.db.routes.lookup request.routeId).isSome ∧
      after = { tables with
        db := { tables.db.putBus bus with nextBusId := tables.db.nextBusId + 1 } } := by
  simp only [attempt, writeFleet] at done
  cases result : BusService.create tables.db now request with
  | error problem =>
      rw [result] at done
      cases done
  | ok db =>
      rw [result] at done
      obtain ⟨bus, fresh, _, assigned, found, rfl⟩ := BusService.create_ok result
      exact ⟨bus, fresh, assigned, found, (Except.ok.inj done).symm⟩

theorem update_bus_ok {id : Nat} {request : BusRequest}
    (done : attempt foreignKeys tables now (.updateBus id request) = .ok after) :
    ∃ old bus, tables.db.buses.lookup id = some old ∧ bus.id = id ∧
      bus.routeId = some request.routeId ∧ (tables.db.routes.lookup request.routeId).isSome ∧
      after = { tables with db := tables.db.putBus bus } := by
  simp only [attempt, writeFleet] at done
  cases result : BusService.update tables.db now id request with
  | error problem =>
      rw [result] at done
      cases done
  | ok db =>
      rw [result] at done
      obtain ⟨old, bus, stored, same, _, assigned, found, rfl⟩ := BusService.update_ok result
      exact ⟨old, bus, stored, same, assigned, found, (Except.ok.inj done).symm⟩

omit [Field K] [LinearOrder K] [ToString K] in
theorem exists_by_bus_iff (tables : Tables K) (busId : Nat) :
    existsByBusId tables.db busId = true ↔ namedByAccount tables busId := by
  simp only [existsByBusId, List.any_eq_true, decide_eq_true_eq]
  constructor
  · rintro ⟨user, member, assigned⟩
    obtain ⟨id, found⟩ := mem_values.mp member
    exact ⟨id, user, found, assigned⟩
  · rintro ⟨id, user, found, assigned⟩
    exact ⟨user, mem_values.mpr ⟨id, found⟩, assigned⟩

theorem delete_bus_ok {id : Nat}
    (done : attempt foreignKeys tables now (.deleteBus id) = .ok after) :
    (tables.db.buses.lookup id).isSome ∧ ¬ namedByAccount tables id ∧
      after = { tables with db := tables.db.removeBus id } := by
  simp only [attempt, writeFleet] at done
  cases result : BusService.delete tables.db id with
  | error problem =>
      rw [result] at done
      cases done
  | ok db =>
      rw [result] at done
      obtain ⟨stored, free, rfl⟩ := BusService.delete_ok result
      refine ⟨stored, fun named => ?_, (Except.ok.inj done).symm⟩
      rw [(exists_by_bus_iff tables id).mpr named] at free
      cases free

theorem write_alert_ok {operation : Operation K} {request : AlertRequest}
    (writes : operation = .createAlert request ∨ ∃ id, operation = .updateAlert id request)
    (done : attempt foreignKeys tables now operation = .ok after) :
    ∃ alert, alert.routeId = request.routeId ∧
      (∀ routeId ∈ request.routeId, (tables.db.routes.lookup routeId).isSome) ∧
      after.db = tables.db ∧ after.alerts = tables.alerts.insert alert.id alert := by
  rcases writes with rfl | ⟨id, rfl⟩
  · simp only [attempt] at done
    cases result : AlertService.create tables now request with
    | error problem =>
        rw [result] at done
        cases done
    | ok written =>
        rw [result] at done
        obtain ⟨alert, names, exist, same⟩ := AlertService.create_ok result
        cases done
        exact ⟨alert, names, exist, by rw [same]; exact ⟨rfl, rfl⟩⟩
  · simp only [attempt] at done
    cases result : AlertService.update tables now id request with
    | error problem =>
        rw [result] at done
        cases done
    | ok written =>
        rw [result] at done
        obtain ⟨alert, names, exist, same⟩ := AlertService.update_ok result
        cases done
        exact ⟨alert, names, exist, by rw [same]; exact ⟨rfl, rfl⟩⟩

omit [Field K] [LinearOrder K] [ToString K] in
theorem put_route_numbered (numbered : Numbered tables) {row : Route K} {next nextStop : Nat}
    (below : row.id < next) (grows : tables.db.nextRouteId ≤ next) :
    Numbered { tables with
      db := { tables.db.putRoute row with nextRouteId := next, nextStopId := nextStop } } := by
  constructor
  · intro id route found
    simp only [Database.putRoute, lookup_insert_eq] at found
    split at found
    · rename_i same
      rw [same]
      exact below
    · exact Nat.lt_of_lt_of_le (numbered.routes id route found) grows
  · exact numbered.buses

omit [Field K] [LinearOrder K] [ToString K] in
theorem put_bus_numbered (numbered : Numbered tables) {bus : Bus} {next : Nat}
    (below : bus.id < next) (grows : tables.db.nextBusId ≤ next) :
    Numbered { tables with db := { tables.db.putBus bus with nextBusId := next } } := by
  constructor
  · exact numbered.routes
  · intro id other found
    simp only [Database.putBus, lookup_insert_eq] at found
    split at found
    · rename_i same
      rw [same]
      exact below
    · exact Nat.lt_of_lt_of_le (numbered.buses id other found) grows

theorem attempt_numbered {operation : Operation K} (numbered : Numbered tables)
    (done : attempt foreignKeys tables now operation = .ok after) : Numbered after := by
  cases operation with
  | createRoute request =>
      obtain ⟨row, _, fresh, rfl⟩ := create_route_ok done
      exact put_route_numbered numbered (by omega) (Nat.le_succ _)
  | updateRoute id request =>
      obtain ⟨route, row, _, found, same, _, _, _, rfl⟩ := update_route_ok done
      refine put_route_numbered numbered ?_ (Nat.le_refl _)
      rw [same]
      exact numbered.routes id route found
  | deleteRoute id =>
      obtain ⟨_, _, _, rfl⟩ := delete_route_ok done
      constructor
      · intro other route found
        simp only [Database.removeRoute, lookup_erase_eq] at found
        split at found
        · cases found
        · exact numbered.routes other route found
      · exact numbered.buses
  | createBus request =>
      obtain ⟨bus, fresh, _, _, rfl⟩ := create_bus_ok done
      exact put_bus_numbered numbered (by omega) (Nat.le_succ _)
  | updateBus id request =>
      obtain ⟨old, bus, found, same, _, _, rfl⟩ := update_bus_ok done
      refine put_bus_numbered numbered ?_ (Nat.le_refl _)
      rw [same]
      exact numbered.buses id old found
  | deleteBus id =>
      obtain ⟨_, _, rfl⟩ := delete_bus_ok done
      constructor
      · exact numbered.routes
      · intro other bus found
        simp only [Database.removeBus, lookup_erase_eq] at found
        split at found
        · cases found
        · exact numbered.buses other bus found
  | createAlert request =>
      obtain ⟨_, _, _, db, _⟩ := write_alert_ok (Or.inl rfl) done
      exact ⟨by rw [db]; exact numbered.routes, by rw [db]; exact numbered.buses⟩
  | updateAlert id request =>
      obtain ⟨_, _, _, db, _⟩ := write_alert_ok (Or.inr ⟨id, rfl⟩) done
      exact ⟨by rw [db]; exact numbered.routes, by rw [db]; exact numbered.buses⟩
  | deleteAlert id =>
      obtain ⟨_, rfl⟩ := AlertService.delete_ok done
      exact ⟨numbered.routes, numbered.buses⟩

end Specs

/-! ## A route and an alert about it -/

def pierLine : RouteRequest ℚ where
  routeNumber := 7
  name := "Pier"
  color := "#34d399"
  firstBus := LocalTime.of 6 0
  lastBus := LocalTime.of 22 0
  frequencyMinutes := 12
  active := none
  path := [[1, 2], [1, 3]]
  stops := [⟨none, "Pier", 1, 2⟩, ⟨none, "Lighthouse", 1, 3⟩]
  frequency_pos := Nat.succ_pos 11

def pierClosed : AlertService.AlertRequest :=
  ⟨"Pier closed", "Works until noon", .WARNING, some 1, none, none⟩

end CityBus.Services
