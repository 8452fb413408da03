import CityBus.Services

/-!
Which rows a write adds to the tables and which it takes away. An identity column hands
out each id once, so a row that is gone does not come back.
-/

namespace CityBus.TableRows

open AlertService BusService KeyedMaps RouteService Services Store

inductive Item where
  | route (id : Nat)
  | bus (id : Nat)
  | alert (id : Nat)
  deriving DecidableEq

variable {K : Type}

def standing (tables : Tables K) : Item → Prop
  | .route id => (tables.db.routes.lookup id).isSome
  | .bus id => (tables.db.buses.lookup id).isSome
  | .alert id => (tables.alerts.lookup id).isSome

def given (tables : Tables K) : Item → Prop
  | .route id => id < tables.db.nextRouteId
  | .bus id => id < tables.db.nextBusId
  | .alert id => id < tables.nextAlertId

def created (tables : Tables K) : Operation K → Option Item
  | .createRoute _ => some (.route tables.db.nextRouteId)
  | .createBus _ => some (.bus tables.db.nextBusId)
  | .createAlert _ => some (.alert tables.nextAlertId)
  | _ => none

def deleted : Operation K → Option Item
  | .deleteRoute id => some (.route id)
  | .deleteBus id => some (.bus id)
  | .deleteAlert id => some (.alert id)
  | _ => none

section Tables
variable (tables : Tables K) (item : Item)

theorem there_insert {Value : Type} (map : KeyedMap Nat Value) (key other : Nat) (value : Value) :
    ((map.insert key value).lookup other).isSome ↔ other = key ∨ (map.lookup other).isSome := by
  rw [lookup_insert_eq]
  split
  · rename_i same
    exact iff_of_true rfl (Or.inl same)
  · rename_i other
    exact (or_iff_right other).symm

theorem there_erase {Value : Type} (map : KeyedMap Nat Value) (key other : Nat) :
    ((map.erase key).lookup other).isSome ↔ other ≠ key ∧ (map.lookup other).isSome := by
  rw [lookup_erase_eq]
  split
  · rename_i same
    exact iff_of_false nofun fun there => there.1 same
  · rename_i other
    exact (and_iff_right other).symm

theorem standing_put_route (row : Route K) (next nextStop : Nat) :
    standing { tables with
        db := { tables.db.putRoute row with nextRouteId := next, nextStopId := nextStop } } item ↔
      item = .route row.id ∨ standing tables item := by
  cases item with
  | route id =>
      rw [Item.route.injEq]
      exact there_insert tables.db.routes row.id id row
  | bus | alert => simp [standing, Database.putRoute]

theorem standing_put_bus (bus : Bus) (next : Nat) :
    standing { tables with db := { tables.db.putBus bus with nextBusId := next } } item ↔
      item = .bus bus.id ∨ standing tables item := by
  cases item with
  | bus id =>
      rw [Item.bus.injEq]
      exact there_insert tables.db.buses bus.id id bus
  | route | alert => simp [standing, Database.putBus]

theorem standing_put_alert (alert : ServiceAlert) (next : Nat) :
    standing { tables.putAlert alert with nextAlertId := next } item ↔
      item = .alert alert.id ∨ standing tables item := by
  cases item with
  | alert id =>
      rw [Item.alert.injEq]
      exact there_insert tables.alerts alert.id id alert
  | route | bus => simp [standing, Tables.putAlert]

theorem standing_remove_route (id : Nat) :
    standing { tables with db := tables.db.removeRoute id } item ↔
      item ≠ .route id ∧ standing tables item := by
  cases item with
  | route other =>
      rw [ne_eq, Item.route.injEq]
      exact there_erase tables.db.routes id other
  | bus | alert => simp [standing, Database.removeRoute]

theorem standing_remove_bus (id : Nat) :
    standing { tables with db := tables.db.removeBus id } item ↔
      item ≠ .bus id ∧ standing tables item := by
  cases item with
  | bus other =>
      rw [ne_eq, Item.bus.injEq]
      exact there_erase tables.db.buses id other
  | route | alert => simp [standing, Database.removeBus]

theorem standing_remove_alert (id : Nat) :
    standing (tables.removeAlert id) item ↔ item ≠ .alert id ∧ standing tables item := by
  cases item with
  | alert other =>
      rw [ne_eq, Item.alert.injEq]
      exact there_erase tables.alerts id other
  | route | bus => simp [standing, Tables.removeAlert]

end Tables

section Writes
variable {foreignKeys : Bool} {tables after : Tables K} {now : Int}

theorem mapped_ok {Problem Value Result : Type} {result : Except Problem Value}
    {f : Value → Result} {final : Result} (done : result.map f = .ok final) :
    ∃ value, result = .ok value ∧ f value = final := by
  cases result with
  | error problem => cases done
  | ok value => exact ⟨value, rfl, Except.ok.inj done⟩

theorem created_alert {request : AlertRequest} {response : AlertResponse}
    (done : AlertService.create tables now request = .ok (after, response)) :
    response.id = tables.nextAlertId ∧ ∃ alert : ServiceAlert, alert.id = tables.nextAlertId ∧
      after = { tables.putAlert alert with nextAlertId := tables.nextAlertId + 1 } := by
  unfold AlertService.create at done
  split at done
  · cases done
  · cases done
    exact ⟨rfl, _, rfl, rfl⟩

theorem loaded_alert {id : Nat} {alert : ServiceAlert}
    (loaded : AlertService.getEntity tables id = .ok alert) :
    tables.alerts.lookup id = some alert := by
  unfold AlertService.getEntity at loaded
  split at loaded
  · cases loaded
  · rename_i found
    rw [found, Except.ok.inj loaded]

theorem updated_alert {id : Nat} {request : AlertRequest} {response : AlertResponse}
    (done : AlertService.update tables now id request = .ok (after, response)) :
    standing tables (.alert id) ∧ ∃ alert : ServiceAlert, alert.id = id ∧
      after = tables.putAlert alert := by
  unfold AlertService.update at done
  split at done
  · cases done
  · rename_i alert loaded
    have stored := loaded_alert loaded
    split at done
    · cases done
    · rename_i changed route applied
      cases done
      refine ⟨by rw [standing, stored]; rfl, changed, ?_, rfl⟩
      rw [(AlertService.apply_ok applied).1]
      exact tables.alertKeys id alert stored

theorem deleted_alert {id : Nat} (done : AlertService.delete tables id = .ok after) :
    after = tables.removeAlert id := by
  unfold AlertService.delete at done
  split at done
  · cases done
  · rename_i alert loaded
    rw [← tables.alertKeys id alert (loaded_alert loaded)]
    exact (Except.ok.inj done).symm

variable [Field K] [LinearOrder K] [ToString K] {operation : Operation K}

theorem attempt_standing (done : attempt foreignKeys tables now operation = .ok after)
    (item : Item) : standing after item ↔
      created tables operation = some item ∨ deleted operation ≠ some item ∧ standing tables item := by
  -- A row that is put back in its place was there.
  have kept {own : Item} (there : standing tables own) (adds : created tables operation = none)
      (spares : deleted operation = none)
      (put : standing after item ↔ item = own ∨ standing tables item) :
      standing after item ↔
        created tables operation = some item ∨
          deleted operation ≠ some item ∧ standing tables item := by
    rw [put, adds, spares]
    simp only [reduceCtorEq, false_or, ne_eq, not_false_eq_true, true_and]
    exact or_iff_right_of_imp fun same => same ▸ there
  cases operation with
  | createRoute request =>
      obtain ⟨row, _, fresh, rfl⟩ := create_route_ok done
      rw [standing_put_route, fresh]
      simp [created, deleted, eq_comm]
  | updateRoute id request =>
      obtain ⟨route, row, nextStop, found, key, _, _, _, rfl⟩ := update_route_ok done
      have there : standing tables (.route row.id) := by
        rw [key, standing, found]
        rfl
      exact kept there rfl rfl (standing_put_route tables item row tables.db.nextRouteId nextStop)
  | deleteRoute id =>
      obtain ⟨_, _, _, rfl⟩ := delete_route_ok done
      rw [standing_remove_route]
      simp [created, deleted, eq_comm]
  | createBus request =>
      obtain ⟨bus, fresh, _, _, rfl⟩ := create_bus_ok done
      rw [standing_put_bus, fresh]
      simp [created, deleted, eq_comm]
  | updateBus id request =>
      obtain ⟨old, bus, found, key, _, _, rfl⟩ := update_bus_ok done
      have there : standing tables (.bus bus.id) := by
        rw [key, standing, found]
        rfl
      exact kept there rfl rfl (standing_put_bus tables item bus tables.db.nextBusId)
  | deleteBus id =>
      obtain ⟨_, _, rfl⟩ := delete_bus_ok done
      rw [standing_remove_bus]
      simp [created, deleted, eq_comm]
  | createAlert request =>
      obtain ⟨⟨_, response⟩, result, rfl⟩ := mapped_ok done
      obtain ⟨_, alert, fresh, same⟩ := created_alert result
      rw [same, standing_put_alert, fresh]
      simp [created, deleted, eq_comm]
  | updateAlert id request =>
      obtain ⟨⟨_, response⟩, result, rfl⟩ := mapped_ok done
      obtain ⟨there, alert, key, rfl⟩ := updated_alert result
      subst key
      exact kept there rfl rfl (standing_put_alert tables item alert tables.nextAlertId)
  | deleteAlert id =>
      rw [deleted_alert done, standing_remove_alert]
      simp [created, deleted, eq_comm]

theorem attempt_given (done : attempt foreignKeys tables now operation = .ok after)
    (item : Item) :
    given after item ↔ created tables operation = some item ∨ given tables item := by
  have stays (same : given after item ↔ given tables item)
      (none : created tables operation = none) :
      given after item ↔ created tables operation = some item ∨ given tables item := by
    rw [none, same]
    exact (or_iff_right nofun).symm
  cases operation with
  | createRoute request =>
      obtain ⟨row, _, _, rfl⟩ := create_route_ok done
      cases item with
      | route id =>
          rw [given, created, Option.some_inj, Item.route.injEq, given]
          exact Nat.lt_succ_iff_lt_or_eq.trans (by rw [or_comm, eq_comm])
      | bus | alert => simp [given, created, Database.putRoute]
  | updateRoute id request =>
      obtain ⟨_, row, _, _, _, _, _, _, rfl⟩ := update_route_ok done
      exact stays (by cases item <;> rfl) rfl
  | deleteRoute id =>
      obtain ⟨_, _, _, rfl⟩ := delete_route_ok done
      exact stays (by cases item <;> rfl) rfl
  | createBus request =>
      obtain ⟨bus, _, _, _, rfl⟩ := create_bus_ok done
      cases item with
      | bus id =>
          rw [given, created, Option.some_inj, Item.bus.injEq, given]
          exact Nat.lt_succ_iff_lt_or_eq.trans (by rw [or_comm, eq_comm])
      | route | alert => simp [given, created, Database.putBus]
  | updateBus id request =>
      obtain ⟨_, bus, _, _, _, _, rfl⟩ := update_bus_ok done
      exact stays (by cases item <;> rfl) rfl
  | deleteBus id =>
      obtain ⟨_, _, rfl⟩ := delete_bus_ok done
      exact stays (by cases item <;> rfl) rfl
  | createAlert request =>
      obtain ⟨⟨_, response⟩, result, rfl⟩ := mapped_ok done
      obtain ⟨_, alert, _, rfl⟩ := created_alert result
      cases item with
      | alert id =>
          rw [given, created, Option.some_inj, Item.alert.injEq, given]
          exact Nat.lt_succ_iff_lt_or_eq.trans (by rw [or_comm, eq_comm])
      | route | bus => simp [given, created, Tables.putAlert]
  | updateAlert id request =>
      obtain ⟨⟨_, response⟩, result, rfl⟩ := mapped_ok done
      obtain ⟨_, alert, _, rfl⟩ := updated_alert result
      exact stays (by cases item <;> rfl) rfl
  | deleteAlert id =>
      rw [deleted_alert done] at stays ⊢
      exact stays (by cases item <;> rfl) rfl

variable (foreignKeys tables now operation)

/-- A write may do nothing to the rows, create one or delete one. -/
theorem perform_cases :
    perform foreignKeys tables now operation = tables ∨
      ∃ after, attempt foreignKeys tables now operation = .ok after ∧
        perform foreignKeys tables now operation = after := by
  unfold perform
  split
  · exact Or.inl rfl
  · rename_i after done
    exact Or.inr ⟨after, done, rfl⟩

variable {foreignKeys tables now operation}

omit [Field K] [LinearOrder K] [ToString K] in
theorem created_given {item : Item} (new : created tables operation = some item) :
    ¬ given tables item := by
  cases operation with
  | createRoute request =>
      cases new
      exact Nat.lt_irrefl tables.db.nextRouteId
  | createBus request =>
      cases new
      exact Nat.lt_irrefl tables.db.nextBusId
  | createAlert request =>
      cases new
      exact Nat.lt_irrefl tables.nextAlertId
  | _ => cases new

theorem perform_given {item : Item} (was : given tables item) :
    given (perform foreignKeys tables now operation) item := by
  rcases perform_cases foreignKeys tables now operation with same | ⟨after, done, same⟩
  · rw [same]
    exact was
  · rw [same]
    exact (attempt_given done item).mpr (Or.inr was)

theorem perform_rows {item : Item} (rows : standing tables item → given tables item)
    (there : standing (perform foreignKeys tables now operation) item) :
    given (perform foreignKeys tables now operation) item := by
  rcases perform_cases foreignKeys tables now operation with same | ⟨after, done, same⟩
  · rw [same] at there ⊢
    exact rows there
  · rw [same] at there ⊢
    rcases (attempt_standing done item).mp there with new | ⟨_, before⟩
    · exact (attempt_given done item).mpr (Or.inl new)
    · exact (attempt_given done item).mpr (Or.inr (rows before))

/-- A row whose id was handed out comes from nowhere but the tables before. -/
theorem perform_standing {item : Item} (was : given tables item)
    (there : standing (perform foreignKeys tables now operation) item) : standing tables item := by
  rcases perform_cases foreignKeys tables now operation with same | ⟨after, done, same⟩
  · rwa [same] at there
  · rw [same] at there
    rcases (attempt_standing done item).mp there with new | ⟨_, before⟩
    · exact absurd was (created_given new)
    · exact before

/-- What a write takes away is what it deletes. -/
theorem perform_gone {item : Item} (there : standing tables item)
    (gone : ¬ standing (perform foreignKeys tables now operation) item) :
    deleted operation = some item := by
  rcases perform_cases foreignKeys tables now operation with same | ⟨after, done, same⟩
  · rw [same] at gone
    exact absurd there gone
  · rw [same] at gone
    by_contra other
    exact gone ((attempt_standing done item).mpr (Or.inr ⟨other, there⟩))

end Writes

end CityBus.TableRows
