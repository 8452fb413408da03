import CityBus.GuardedRuns
import CityBus.Services

/-!
What the services keep of the references between rows when the store is plain
tables. The deletion of a route counts the buses assigned to it; the alerts about
it are left out, although their repository has the same count.
-/

namespace CityBus.ReferentialIntegrity

open BusService GuardedRuns KeyedMaps RouteService Services Store

variable {K : Type}

/-- Every row that names a route or a bus names one that exists. -/
structure Intact (tables : Tables K) : Prop where
  buses : ∀ routeId, namedByBus tables routeId → (tables.db.routes.lookup routeId).isSome
  alerts : ∀ routeId, namedByAlert tables routeId → (tables.db.routes.lookup routeId).isSome
  accounts : ∀ busId, namedByAccount tables busId → (tables.db.buses.lookup busId).isSome

def referenced (tables : Tables K) : Operation K → Prop
  | .deleteRoute id => namedByBus tables id ∨ namedByAlert tables id
  | .deleteBus id => namedByAccount tables id
  | _ => False

/-- A route that an alert names is deleted only where a bus is assigned to it as well. -/
def busesCover (tables : Tables K) : Operation K → Prop
  | .deleteRoute id => namedByAlert tables id → namedByBus tables id
  | _ => True

section Runs
variable [Field K] [LinearOrder K] [ToString K]

/-- One operation at its time, on tables without foreign keys. -/
def operates (tables : Tables K) (call : Int × Operation K) (after : Tables K) : Prop :=
  perform false tables call.1 call.2 = after

def Refused (tables : Tables K) (now : Int) (operation : Operation K) : Prop :=
  (∃ message, attempt false tables now operation = .error (.ConflictException message)) ∧
    perform false tables now operation = tables

/-! ## Deletions -/

variable {tables after : Tables K} {now : Int} {operation : Operation K}

theorem refused_of_error {problem : String}
    (fails : attempt false tables now operation = .error (.ConflictException problem)) :
    Refused tables now operation := by
  constructor
  · exact ⟨problem, fails⟩
  · simp [perform, fails]

theorem assigned_route_refused {id : Nat} (intact : Intact tables) (named : namedByBus tables id) :
    Refused tables now (.deleteRoute id) := by
  obtain ⟨route, found⟩ := Option.isSome_iff_exists.mp (intact.buses id named)
  have counted : 0 < countByRouteId tables.db id := by
    by_contra none
    exact (count_zero_iff tables id).mp (by omega) named
  apply refused_of_error
  simp only [attempt, writeRoute, Mutation.body, RouteService.delete, RouteService.getEntity, found,
    if_pos counted]
  rfl

theorem driven_bus_refused {id : Nat} (intact : Intact tables) (named : namedByAccount tables id) :
    Refused tables now (.deleteBus id) := by
  obtain ⟨bus, found⟩ := Option.isSome_iff_exists.mp (intact.accounts id named)
  apply refused_of_error
  simp only [attempt, writeFleet, BusService.delete, BusService.getEntity, found,
    (exists_by_bus_iff tables id).mpr named, if_true]
  rfl

theorem unassigned_route_deleted {id : Nat} {route : Route K}
    (found : tables.db.routes.lookup id = some route) (free : ¬ namedByBus tables id) :
    attempt false tables now (.deleteRoute id) =
      .ok { tables with db := tables.db.removeRoute id } := by
  have none : countByRouteId tables.db id = 0 := (count_zero_iff tables id).mpr free
  simp [attempt, writeRoute, Mutation.body, RouteService.delete, RouteService.getEntity, found, none,
    flush, commit, Except.map]

/-! ## One operation -/

omit [Field K] [LinearOrder K] [ToString K] in
theorem intact_grows (intact : Intact tables)
    (routes : ∀ id, (tables.db.routes.lookup id).isSome → (after.db.routes.lookup id).isSome)
    (buses : ∀ id, (tables.db.buses.lookup id).isSome → (after.db.buses.lookup id).isSome)
    (byBus : ∀ id, namedByBus after id →
      namedByBus tables id ∨ (tables.db.routes.lookup id).isSome)
    (byAlert : ∀ id, namedByAlert after id →
      namedByAlert tables id ∨ (tables.db.routes.lookup id).isSome)
    (users : after.db.users = tables.db.users) : Intact after := by
  constructor
  · intro routeId named
    apply routes
    rcases byBus routeId named with before | found
    · exact intact.buses routeId before
    · exact found
  · intro routeId named
    apply routes
    rcases byAlert routeId named with before | found
    · exact intact.alerts routeId before
    · exact found
  · intro busId named
    apply buses
    apply intact.accounts busId
    simpa only [namedByAccount, users] using named

omit [Field K] [LinearOrder K] [ToString K] in
theorem lookup_insert_some {Value : Type} {map : KeyedMap Nat Value} {id : Nat} (key : Nat)
    (value : Value) (found : (map.lookup id).isSome) : ((map.insert key value).lookup id).isSome := by
  rw [lookup_insert_eq]
  split
  · rfl
  · exact found

omit [Field K] [LinearOrder K] [ToString K] in
theorem put_route_intact (intact : Intact tables) (row : Route K) (next nextStop : Nat) :
    Intact { tables with
      db := { tables.db.putRoute row with nextRouteId := next, nextStopId := nextStop } } := by
  apply intact_grows intact
  · intro id found
    exact lookup_insert_some row.id row found
  · exact fun _ found => found
  · exact fun _ named => Or.inl named
  · exact fun _ named => Or.inl named
  · rfl

omit [Field K] [LinearOrder K] [ToString K] in
theorem put_bus_intact (intact : Intact tables) (bus : Bus) (next routeId : Nat)
    (assigned : bus.routeId = some routeId) (found : (tables.db.routes.lookup routeId).isSome) :
    Intact { tables with db := { tables.db.putBus bus with nextBusId := next } } := by
  apply intact_grows intact
  · exact fun _ found => found
  · intro id stored
    exact lookup_insert_some bus.id bus stored
  · rintro id ⟨key, other, stored, names⟩
    simp only [Database.putBus, lookup_insert_eq] at stored
    split at stored
    · rw [← Option.some.inj stored, assigned] at names
      rw [← Option.some.inj names]
      exact Or.inr found
    · exact Or.inl ⟨key, other, stored, names⟩
  · exact fun _ named => Or.inl named
  · rfl

theorem write_alert_intact (intact : Intact tables) {request : AlertService.AlertRequest}
    (writes : operation = .createAlert request ∨ ∃ id, operation = .updateAlert id request)
    (done : attempt false tables now operation = .ok after) : Intact after := by
  obtain ⟨alert, names, exist, db, alerts⟩ := write_alert_ok writes done
  apply intact_grows intact
  · rw [db]
    exact fun _ found => found
  · rw [db]
    exact fun _ found => found
  · intro id named
    left
    simpa only [namedByBus, db] using named
  · rintro id ⟨key, other, stored, mentions⟩
    rw [alerts, lookup_insert_eq] at stored
    split at stored
    · right
      apply exist
      rw [← names, Option.some.inj stored, mentions]
      rfl
    · exact Or.inl ⟨key, other, stored, mentions⟩
  · rw [db]

theorem step_intact (intact : Intact tables) (covered : busesCover tables operation)
    (done : attempt false tables now operation = .ok after) : Intact after := by
  cases operation with
  | createRoute request =>
      obtain ⟨row, nextStop, _, rfl⟩ := create_route_ok done
      exact put_route_intact intact row (tables.db.nextRouteId + 1) nextStop
  | updateRoute id request =>
      obtain ⟨_, row, nextStop, _, _, _, _, _, rfl⟩ := update_route_ok done
      exact put_route_intact intact row tables.db.nextRouteId nextStop
  | deleteRoute id =>
      obtain ⟨unassigned, _, _, rfl⟩ := delete_route_ok done
      constructor
      · intro routeId named
        have other : routeId ≠ id := by
          rintro rfl
          exact unassigned named
        simpa [Database.removeRoute, lookup_erase_eq, other] using intact.buses routeId named
      · intro routeId named
        have other : routeId ≠ id := by
          rintro rfl
          exact unassigned (covered named)
        simpa [Database.removeRoute, lookup_erase_eq, other] using intact.alerts routeId named
      · exact intact.accounts
  | createBus request =>
      obtain ⟨bus, _, assigned, found, rfl⟩ := create_bus_ok done
      exact put_bus_intact intact bus (tables.db.nextBusId + 1) request.routeId assigned found
  | updateBus id request =>
      obtain ⟨_, bus, _, _, assigned, found, rfl⟩ := update_bus_ok done
      exact put_bus_intact intact bus tables.db.nextBusId request.routeId assigned found
  | deleteBus id =>
      obtain ⟨_, free, rfl⟩ := delete_bus_ok done
      constructor
      · rintro routeId ⟨key, bus, stored, names⟩
        simp only [Database.removeBus, lookup_erase_eq] at stored
        split at stored
        · cases stored
        · exact intact.buses routeId ⟨key, bus, stored, names⟩
      · exact intact.alerts
      · intro busId named
        have other : busId ≠ id := by
          rintro rfl
          exact free named
        simpa [Database.removeBus, lookup_erase_eq, other] using intact.accounts busId named
  | createAlert request => exact write_alert_intact intact (Or.inl rfl) done
  | updateAlert id request => exact write_alert_intact intact (Or.inr ⟨id, rfl⟩) done
  | deleteAlert id =>
      obtain ⟨gone, rfl⟩ := AlertService.delete_ok done
      constructor
      · exact intact.buses
      · rintro routeId ⟨key, alert, stored, names⟩
        simp only [Tables.removeAlert, lookup_erase_eq] at stored
        split at stored
        · cases stored
        · exact intact.alerts routeId ⟨key, alert, stored, names⟩
      · exact intact.accounts

theorem perform_intact (intact : Intact tables) (covered : busesCover tables operation) :
    Intact (perform false tables now operation) := by
  unfold perform
  split
  · exact intact
  · rename_i after done
    exact step_intact intact covered done

/-- An operation is safe exactly where no alert is the only thing left to name its target. -/
theorem safe_iff (intact : Intact tables) :
    (Intact (perform false tables now operation) ∧
        (referenced tables operation → Refused tables now operation)) ↔
      busesCover tables operation := by
  constructor
  · rintro ⟨_, refuses⟩
    cases operation with
    | deleteRoute id =>
        intro mentioned
        by_contra free
        obtain ⟨route, found⟩ := Option.isSome_iff_exists.mp (intact.alerts id mentioned)
        obtain ⟨⟨message, fails⟩, _⟩ := refuses (Or.inr mentioned)
        rw [unassigned_route_deleted found free] at fails
        cases fails
    | _ => trivial
  · intro covered
    refine ⟨perform_intact intact covered, fun named => ?_⟩
    cases operation with
    | deleteRoute id =>
        apply assigned_route_refused intact
        rcases named with assigned | mentioned
        · exact assigned
        · exact covered mentioned
    | deleteBus id => exact driven_bus_refused intact named
    | _ => exact named.elim

/-! ## Runs -/

/-- The references hold in every state of a run whose route deletions are covered by
a bus, and the next operation keeps them and is refused where its target is still
named exactly if it is covered too. -/
theorem covered_runs_intact {start after : Tables K} {calls : List (Int × Operation K)}
    (intact : Intact start)
    (run : Run (guarded (fun tables call => busesCover tables call.2) operates) start calls after) :
    Intact after ∧ ∀ now operation,
      (Intact (perform false after now operation) ∧
          (referenced after operation → Refused after now operation)) ↔
        busesCover after operation := by
  have kept : Intact after := by
    refine run_invariant Intact ?_ run intact
    rintro before call next ⟨covered, rfl⟩ held
    exact perform_intact held covered
  exact ⟨kept, fun now operation => safe_iff kept⟩

end Runs

/-! ## An alert about a route without buses -/

theorem empty_intact : Intact (Tables.of (Database.empty : Database ℚ)) := by
  constructor
  · rintro routeId ⟨_, _, stored, _⟩
    cases stored
  · rintro routeId ⟨_, _, stored, _⟩
    cases stored
  · rintro busId ⟨_, _, stored, _⟩
    cases stored

theorem pier_line_refused :
    ∃ after : Tables ℚ, Intact after ∧ Refused after 5 (.deleteRoute 1) := by
  have run : ∃ after : Tables ℚ,
      Run (guarded (fun tables call => busesCover tables call.2) operates) (Tables.of Database.empty)
        [(1, .createRoute pierLine), (2, .createAlert pierClosed),
          (3, .createBus { code := "bus-1", routeId := 1, active := none }), (4, .deleteRoute 1)] after ∧
        referenced after (.deleteRoute 1) ∧ busesCover after (.deleteRoute 1) := by
    apply Exists.intro
    constructor
    · apply Run.next ⟨trivial, rfl⟩
      apply Run.next ⟨trivial, rfl⟩
      apply Run.next ⟨trivial, rfl⟩
      apply Run.next ⟨fun _ => ⟨1, _, rfl, rfl⟩, rfl⟩
      exact Run.refl _
    · exact ⟨Or.inl ⟨1, _, rfl, rfl⟩, fun _ => ⟨1, _, rfl, rfl⟩⟩
  obtain ⟨after, taken, named, covered⟩ := run
  obtain ⟨intact, safe⟩ := covered_runs_intact empty_intact taken
  exact ⟨after, intact, ((safe 5 (.deleteRoute 1)).mpr covered).2 named⟩

/-- The route has an alert and no bus: it is deleted, and the alert names no row. -/
theorem alerted_route_deleted :
    ∃ before after : Tables ℚ, Intact (Tables.of (Database.empty : Database ℚ)) ∧
      Run operates (Tables.of Database.empty)
        [(1, .createRoute pierLine), (2, .createAlert pierClosed)] before ∧
      referenced before (.deleteRoute 1) ∧ ¬ Refused before 3 (.deleteRoute 1) ∧
      Run operates before [(3, .deleteRoute 1)] after ∧
      namedByAlert after 1 ∧ after.db.routes.lookup 1 = none ∧ ¬ Intact after := by
  have run : ∃ before after : Tables ℚ,
      Run operates (Tables.of Database.empty)
        [(1, .createRoute pierLine), (2, .createAlert pierClosed)] before ∧
      namedByAlert before 1 ∧ (attempt false before 3 (.deleteRoute 1)).isOk = true ∧
      Run operates before [(3, .deleteRoute 1)] after ∧
      namedByAlert after 1 ∧ after.db.routes.lookup 1 = none := by
    apply Exists.intro
    apply Exists.intro
    constructor
    · apply Run.next rfl
      apply Run.next rfl
      exact Run.refl _
    · refine ⟨⟨1, _, rfl, rfl⟩, rfl, ?_, ?_⟩
      · apply Run.next rfl
        exact Run.refl _
      · exact ⟨⟨1, _, rfl, rfl⟩, rfl⟩
  obtain ⟨before, after, taken, named, goes, gone, dangles, missing⟩ := run
  refine ⟨before, after, empty_intact, taken, Or.inr named, ?_, gone, dangles, missing, ?_⟩
  · rintro ⟨⟨message, fails⟩, _⟩
    rw [fails] at goes
    cases goes
  · intro intact
    have found := intact.alerts 1 dangles
    rw [missing] at found
    cases found

end CityBus.ReferentialIntegrity
