import CityBus.ReferentialIntegrity

/-!
`DataSeeder`, which runs whenever the application starts and writes the first network,
fleet and accounts where there are no routes. A start and the operations of the
administrators follow each other in any order; the store outlives the application.
-/

namespace CityBus.DataSeeder

open GuardedRuns KeyedMaps ReferentialIntegrity Services Store

/-! ## What is seeded -/

section Seeds
variable {K : Type} [Field K]

def degrees (micro : Nat) : K := (micro : K) / ((1000000 : Nat) : K)

def path (points : List (Nat × Nat)) : List (GeoPoint K) :=
  points.map fun p => ⟨degrees p.1, degrees p.2⟩

def stops (places : List (String × Nat × Nat)) : List (Stop K) :=
  places.map fun s => ⟨none, s.1, degrees s.2.1, degrees s.2.2⟩

def route (routeNumber : Nat) (name color : String) (firstBus lastBus : LocalTime)
    (frequencyMinutes : Nat) (path : List (GeoPoint K)) (stops : List (Stop K))
    (runs : frequencyMinutes ≠ 0 := by decide) : Route K :=
  { (newRoute : Route K) with
    routeNumber, name, color, firstBus, lastBus, frequencyMinutes, path, stops
    active := true
    frequency_pos := Nat.pos_of_ne_zero runs }

def r1 : Route K :=
  route 1 "Ranjangaon Phata" "#1d4ed8" (LocalTime.of 6 0) (LocalTime.of 22 0) 15
    (path [(19851408, 75209897), (19840466, 75232433), (19845526, 75240380),
      (19838546, 75251527), (19837301, 75253563), (19847091, 75265890),
      (19832842, 75270292), (19827377, 75289950), (19832516, 75290357)])
    (stops [("Ranjangaon Phata", 19851408, 75209897), ("Alphonsa", 19840466, 75232433),
      ("Pratap Chowk", 19839425, 75241251), ("MIDC Road", 19838546, 75251527),
      ("Gollwadi Chowk", 19847091, 75265890), ("Paithan Road", 19827377, 75289950),
      ("CSMSS", 19832516, 75290357)])

def r2 : Route K :=
  route 2 "Fame Tapadia Signal" "#0f766e" (LocalTime.of 5 30) (LocalTime.of 22 30) 20
    (path [(19876796, 75366045), (19883883, 75365047), (19895284, 75364767),
      (19904718, 75357021), (19909854, 75353163), (19914915, 75352384),
      (19906784, 75343839), (19904839, 75342060), (19894397, 75337078),
      (19892250, 75327619), (19884206, 75317144), (19861054, 75310145),
      (19832545, 75290382)])
    (stops [("Fame Tapadia Signal", 19876796, 75366045), ("N1 Ganpati", 19883883, 75365047),
      ("Wokhardt", 19895284, 75364767), ("Ambedkar Chowk", 19898180, 75362212),
      ("Jaiswal Hall", 19904718, 75357021), ("Railway Station", 19861054, 75310145),
      ("CSMSS", 19832545, 75290382)])

def r3 : Route K :=
  route 3 "Chikalthana" "#7c3aed" (LocalTime.of 5 30) (LocalTime.of 22 30) 20
    (path [(19873573, 75394782), (19869982, 75394397), (19871974, 75385324),
      (19873522, 75370390), (19874840, 75355761), (19875275, 75352356),
      (19876049, 75341475), (19873642, 75328705), (19872266, 75322000),
      (19860902, 75310143), (19861369, 75306988), (19847678, 75296336),
      (19833201, 75290463)])
    (stops [("Chikalthana", 19873573, 75394782), ("Dhoot Hospital", 19869982, 75394397),
      ("Akashwani", 19876049, 75341475), ("Jai Tower", 19861369, 75306988),
      ("CSMSS", 19833201, 75290463)])

def r4 : Route K :=
  route 4 "Baliram Patil High School" "#d97706" (LocalTime.of 6 30) (LocalTime.of 21 30) 18
    (path [(19895877, 75358173), (19888110, 75360340), (19879980, 75360448),
      (19875295, 75353286), (19869060, 75350870), (19858987, 75344975),
      (19857757, 75334539), (19850451, 75333036), (19854130, 75305745),
      (19841854, 75293056), (19832519, 75290360)])
    (stops [("Baliram Patil High School", 19895877, 75358173),
      ("Seven Hills Signal", 19875295, 75353286), ("Shivaji Nagar", 19857757, 75334539),
      ("CSMSS", 19832519, 75290360)])

end Seeds

/-- `new Bus(code, route)`, with the route as its place in the saved network. -/
def fleet : List (String × Nat) :=
  [("bus-1", 0), ("bus-2", 1), ("bus-3", 2), ("bus-4", 3), ("bus-5", 0)]

/-- `new UserAccount(..)`, with the bus as its place in the saved fleet. -/
structure NewAccount where
  username : String
  password : String
  displayName : String
  role : UserRole
  bus : Option Nat

def accounts : List NewAccount :=
  [⟨"admin", "admin123", "Fleet Administrator", .ADMIN, none⟩,
    ⟨"driver1", "password123", "Driver One", .DRIVER, some 0⟩,
    ⟨"driver2", "password123", "Driver Two", .DRIVER, some 1⟩,
    ⟨"driver3", "password123", "Driver Three", .DRIVER, some 2⟩,
    ⟨"driver4", "password123", "Driver Four", .DRIVER, some 3⟩,
    ⟨"driver5", "password123", "Driver Five", .DRIVER, some 4⟩]

/-! ## The runner -/

section Runner
-- The encoder salts, so accounts of one password have different hashes.
variable {K : Type} (encode : NewAccount → String)

def saveRoute (now : Int) (db : Database K) (row : Route K) :
    Except ServiceException (Database K) :=
  commit db now (.insert row)

def saveBus (now : Int) (firstRoute : Nat) (db : Database K) (bus : String × Nat) :
    Except ServiceException (Database K) :=
  if existsByCode db bus.1 then .error .DataIntegrityViolationException
  else
    let row : Bus := ⟨db.nextBusId, bus.1, some (firstRoute + bus.2), true, now⟩
    .ok { db.putBus row with nextBusId := db.nextBusId + 1 }

/-- No account is ever deleted. -/
def nextUserId (db : Database K) : Nat := db.users.keys.foldr max 0 + 1

def saveUser (firstBus : Nat) (db : Database K) (account : NewAccount) :
    Except ServiceException (Database K) :=
  if (findByUsername db account.username).isSome then .error .DataIntegrityViolationException
  else
    let row : UserAccount :=
      ⟨nextUserId db, account.username, encode account, account.displayName, account.role,
        account.bus.map (firstBus + ·), true⟩
    .ok { db with users := db.users.insert row.id row }

/-- `run`, one transaction. -/
def run [Field K] (tables : Tables K) (now : Int) : Except ServiceException (Tables K) :=
  if 0 < (values tables.db.routes).length then .ok tables
  else do
    let routed ← [r1, r2, r3, r4].foldlM (saveRoute now) tables.db
    let manned ← fleet.foldlM (saveBus now tables.db.nextRouteId) routed
    let db ← accounts.foldlM (saveUser encode tables.db.nextBusId) manned
    return { tables with db := db }

inductive Event (K : Type) where
  | boot (now : Int)
  | call (now : Int) (operation : Operation K)

def lives [Field K] [LinearOrder K] [ToString K] (tables : Tables K) :
    Event K → Tables K → Prop
  | .boot now, after => (run encode tables now).toOption.getD tables = after
  | .call now operation, after => operates tables (now, operation) after

end Runner

/-! ## What a start saves -/

section Saved
variable {K : Type} {encode : NewAccount → String}

theorem saves_keep {Item : Type} (inv : Database K → Prop)
    {save : Database K → Item → Except ServiceException (Database K)} {items : List Item}
    (keeps : ∀ db item after, item ∈ items → inv db → save db item = .ok after → inv after)
    {db after : Database K} (start : inv db) (done : items.foldlM save db = .ok after) :
    inv after := by
  induction items generalizing db with
  | nil =>
      cases done
      exact start
  | cons item rest ih =>
      rw [List.foldlM_cons] at done
      cases saved : save db item with
      | error problem =>
          rw [saved] at done
          cases done
      | ok next =>
          rw [saved] at done
          refine ih (fun db other after member => ?_) ?_ done
          · exact keeps db other after (List.mem_cons_of_mem item member)
          · exact keeps db item next List.mem_cons_self start saved

theorem number_taken_iff (db : Database K) (number : Nat) :
    routeNumberTaken db none number = true ↔
      ∃ id row, db.routes.lookup id = some row ∧ row.routeNumber = number := by
  simp only [routeNumberTaken, List.any_eq_true, reduceCtorEq, decide_false, Bool.not_false,
    Bool.and_true, decide_eq_true_eq]
  constructor
  · rintro ⟨row, member, same⟩
    obtain ⟨id, found⟩ := mem_values.mp member
    exact ⟨id, row, found, same⟩
  · rintro ⟨id, row, found, same⟩
    exact ⟨row, mem_values.mpr ⟨id, found⟩, same⟩

theorem routes_saved (now : Int) {rows : List (Route K)} {db : Database K}
    (distinct : rows.Pairwise fun row other => row.routeNumber ≠ other.routeNumber)
    (free : ∀ row ∈ rows, routeNumberTaken db none row.routeNumber = false) :
    ∃ after, rows.foldlM (saveRoute now) db = .ok after ∧ after.buses = db.buses ∧
      after.users = db.users ∧ after.nextBusId = db.nextBusId ∧
      (∀ id, (db.routes.lookup id).isSome → (after.routes.lookup id).isSome) ∧
      ∀ i < rows.length, (after.routes.lookup (db.nextRouteId + i)).isSome := by
  induction rows generalizing db with
  | nil => exact ⟨db, rfl, rfl, rfl, rfl, fun _ found => found, nofun⟩
  | cons row rest ih =>
      obtain ⟨apart, others⟩ := List.pairwise_cons.mp distinct
      have untaken := free row List.mem_cons_self
      let stored : Route K := { row with id := db.nextRouteId, version := 0, updatedAt := now }
      let next : Database K := { db.saveRoute stored with nextRouteId := db.nextRouteId + 1 }
      have saved : saveRoute now db row = .ok next := by
        simp [saveRoute, commit, untaken, next, stored]
      have free' : ∀ other ∈ rest, routeNumberTaken next none other.routeNumber = false := by
        intro other member
        rw [← Bool.not_eq_true, number_taken_iff]
        rintro ⟨id, holder, found, same⟩
        simp only [next, Database.saveRoute, Database.putRoute, lookup_insert_eq] at found
        split at found
        · cases found
          exact apart other member same
        · have taken := (number_taken_iff db _).mpr ⟨id, holder, found, same⟩
          rw [free other (List.mem_cons_of_mem row member)] at taken
          cases taken
      obtain ⟨after, done, buses, users, nextBusId, kept, ids⟩ := ih others free'
      refine ⟨after, ?_, buses, users, nextBusId, ?_, ?_⟩
      · rw [List.foldlM_cons, saved]
        exact done
      · intro id found
        exact kept id (lookup_insert_some stored.id _ found)
      · intro i below
        cases i with
        | zero =>
            apply kept
            simp [next, Database.saveRoute, Database.putRoute, stored]
        | succ i =>
            have there := ids i (Nat.lt_of_succ_lt_succ below)
            rwa [show db.nextRouteId + (i + 1) = next.nextRouteId + i by simp only [next]; omega]

theorem code_free_iff (db : Database K) (code : String) :
    existsByCode db code = false ↔ ∀ id bus, db.buses.lookup id = some bus → bus.code ≠ code := by
  simp only [existsByCode, findByCode, Option.isSome_eq_false_iff, Option.isNone_iff_eq_none,
    List.find?_eq_none, decide_eq_true_eq]
  constructor
  · exact fun free id bus found => free bus (mem_values.mpr ⟨id, found⟩)
  · intro free bus member
    obtain ⟨id, found⟩ := mem_values.mp member
    exact free id bus found

theorem buses_saved (now : Int) (firstRoute : Nat) {rows : List (String × Nat)} {db : Database K}
    (distinct : rows.Pairwise fun row other => row.1 ≠ other.1)
    (free : ∀ row ∈ rows, existsByCode db row.1 = false) :
    ∃ after, rows.foldlM (saveBus now firstRoute) db = .ok after ∧ after.routes = db.routes ∧
      after.users = db.users ∧ (∀ id < db.nextBusId, after.buses.lookup id = db.buses.lookup id) ∧
      ∀ i row, rows[i]? = some row → ∃ bus, after.buses.lookup (db.nextBusId + i) = some bus ∧
        bus.routeId = some (firstRoute + row.2) := by
  induction rows generalizing db with
  | nil => exact ⟨db, rfl, rfl, rfl, fun _ _ => rfl, nofun⟩
  | cons row rest ih =>
      obtain ⟨apart, others⟩ := List.pairwise_cons.mp distinct
      let stored : Bus := ⟨db.nextBusId, row.1, some (firstRoute + row.2), true, now⟩
      let next : Database K := { db.putBus stored with nextBusId := db.nextBusId + 1 }
      have saved : saveBus now firstRoute db row = .ok next := by
        simp [saveBus, free row List.mem_cons_self, next, stored]
      have free' : ∀ other ∈ rest, existsByCode next other.1 = false := by
        intro other member
        rw [code_free_iff]
        intro id bus found
        simp only [next, Database.putBus, lookup_insert_eq] at found
        split at found
        · cases found
          exact apart other member
        · have before := free other (List.mem_cons_of_mem row member)
          exact (code_free_iff db other.1).mp before id bus found
      obtain ⟨after, done, routes, users, kept, ids⟩ := ih others free'
      refine ⟨after, ?_, routes, users, ?_, ?_⟩
      · rw [List.foldlM_cons, saved]
        exact done
      · intro id below
        rw [kept id (Nat.lt_succ_of_lt below)]
        simp only [next, Database.putBus, lookup_insert_eq]
        exact if_neg (Nat.ne_of_lt below)
      · intro i other found
        cases i with
        | zero =>
            cases found
            refine ⟨stored, ?_, rfl⟩
            rw [Nat.add_zero, kept db.nextBusId (Nat.lt_succ_self _)]
            simp [next, Database.putBus, stored]
        | succ i =>
            obtain ⟨bus, there, named⟩ := ids i other found
            refine ⟨bus, ?_, named⟩
            rwa [show db.nextBusId + (i + 1) = next.nextBusId + i by simp only [next]; omega]

theorem user_id_fresh {db : Database K} {id : Nat} {user : UserAccount}
    (found : db.users.lookup id = some user) : id < nextUserId db := by
  have member : id ∈ db.users.keys := by
    rw [← AList.mem_keys, ← AList.lookup_isSome, found]
    rfl
  have below : ∀ keys : List Nat, id ∈ keys → id ≤ keys.foldr max 0 := by
    intro keys
    induction keys with
    | nil => exact nofun
    | cons key rest ih =>
        intro listed
        rcases List.mem_cons.mp listed with rfl | later
        · exact le_max_left _ _
        · exact (ih later).trans (le_max_right _ _)
  exact Nat.lt_succ_of_le (below _ member)

theorem name_free_iff (db : Database K) (username : String) :
    (findByUsername db username).isSome = false ↔
      ∀ id user, db.users.lookup id = some user → user.username ≠ username := by
  simp only [findByUsername, Option.isSome_eq_false_iff, Option.isNone_iff_eq_none,
    List.find?_eq_none, decide_eq_true_eq]
  constructor
  · exact fun free id user found => free user (mem_values.mpr ⟨id, found⟩)
  · intro free user member
    obtain ⟨id, found⟩ := mem_values.mp member
    exact free id user found

theorem users_saved (firstBus : Nat) {rows : List NewAccount} {db : Database K}
    (distinct : rows.Pairwise fun row other => row.username ≠ other.username)
    (free : ∀ row ∈ rows, (findByUsername db row.username).isSome = false) :
    ∃ after, rows.foldlM (saveUser encode firstBus) db = .ok after ∧ after.routes = db.routes ∧
      after.buses = db.buses ∧
      (∀ id user, db.users.lookup id = some user → after.users.lookup id = some user) ∧
      (∀ row ∈ rows, ∃ id user, after.users.lookup id = some user ∧
        user.busId = row.bus.map (firstBus + ·)) ∧
      ∀ id user, after.users.lookup id = some user → db.users.lookup id = some user ∨
        ∃ row ∈ rows, user.busId = row.bus.map (firstBus + ·) := by
  induction rows generalizing db with
  | nil => exact ⟨db, rfl, rfl, rfl, fun _ _ found => found, nofun, fun _ _ found => Or.inl found⟩
  | cons row rest ih =>
      obtain ⟨apart, others⟩ := List.pairwise_cons.mp distinct
      let stored : UserAccount := ⟨nextUserId db, row.username, encode row,
        row.displayName, row.role, row.bus.map (firstBus + ·), true⟩
      let next : Database K := { db with users := db.users.insert stored.id stored }
      have saved : saveUser encode firstBus db row = .ok next := by
        simp [saveUser, free row List.mem_cons_self, next, stored]
      have free' : ∀ other ∈ rest, (findByUsername next other.username).isSome = false := by
        intro other member
        rw [name_free_iff]
        intro id user found
        simp only [next, lookup_insert_eq] at found
        split at found
        · cases found
          exact apart other member
        · have before := free other (List.mem_cons_of_mem row member)
          exact (name_free_iff db other.username).mp before id user found
      obtain ⟨after, done, routes, buses, kept, new, old⟩ := ih others free'
      refine ⟨after, ?_, routes, buses, ?_, ?_, ?_⟩
      · rw [List.foldlM_cons, saved]
        exact done
      · intro id user found
        apply kept
        simp only [next, lookup_insert_eq]
        rw [if_neg (Nat.ne_of_lt (user_id_fresh found)), found]
      · intro other member
        rcases List.mem_cons.mp member with rfl | later
        · exact ⟨stored.id, stored, kept _ _ (by simp [next]), rfl⟩
        · exact new other later
      · intro id user found
        rcases old id user found with before | ⟨other, later, named⟩
        · simp only [next, lookup_insert_eq] at before
          split at before
          · cases before
            exact Or.inr ⟨row, List.mem_cons_self, rfl⟩
          · exact Or.inl before
        · exact Or.inr ⟨other, List.mem_cons_of_mem row later, named⟩

end Saved

/-! ## Accounts and their buses -/

section Staff
variable {K : Type}

def OnRoute (tables : Tables K) (busId : Nat) : Prop :=
  ∃ bus routeId, tables.db.buses.lookup busId = some bus ∧ bus.routeId = some routeId ∧
    (tables.db.routes.lookup routeId).isSome

structure Staffed (tables : Tables K) : Prop where
  driven : ∃ busId, namedByAccount tables busId
  onRoute : ∀ busId, namedByAccount tables busId → OnRoute tables busId

variable {tables after : Tables K}

theorem staffed_routes (staffed : Staffed tables) : 0 < (values tables.db.routes).length := by
  obtain ⟨busId, named⟩ := staffed.driven
  obtain ⟨bus, routeId, _, _, there⟩ := staffed.onRoute busId named
  obtain ⟨route, found⟩ := Option.isSome_iff_exists.mp there
  exact List.length_pos_of_mem (mem_values.mpr ⟨routeId, found⟩)

theorem staffed_after (staffed : Staffed tables) (users : after.db.users = tables.db.users)
    (onRoute : ∀ busId, namedByAccount tables busId → OnRoute tables busId →
      OnRoute after busId) : Staffed after := by
  have named (busId : Nat) : namedByAccount after busId ↔ namedByAccount tables busId := by
    simp only [namedByAccount, users]
  constructor
  · obtain ⟨busId, driven⟩ := staffed.driven
    exact ⟨busId, (named busId).mpr driven⟩
  · intro busId driven
    have before := (named busId).mp driven
    exact onRoute busId before (staffed.onRoute busId before)

variable [Field K] [LinearOrder K] [ToString K] {now : Int} {operation : Operation K}

structure RunsOn (tables after : Tables K) : Prop where
  users : after.db.users = tables.db.users
  driven : ∀ busId, namedByAccount tables busId → (tables.db.buses.lookup busId).isSome →
    (after.db.buses.lookup busId).isSome
  onRoute : ∀ busId, (after.db.buses.lookup busId).isSome →
    ((tables.db.buses.lookup busId).isSome → OnRoute tables busId) → OnRoute after busId

omit [Field K] [LinearOrder K] [ToString K] in
theorem same_fleet_runs (users : after.db.users = tables.db.users)
    (buses : after.db.buses = tables.db.buses)
    (routes : ∀ routeId, namedByBus tables routeId → (tables.db.routes.lookup routeId).isSome →
      (after.db.routes.lookup routeId).isSome) : RunsOn tables after := by
  refine ⟨users, fun busId _ found => by rw [buses]; exact found, fun busId found before => ?_⟩
  rw [buses] at found
  obtain ⟨bus, routeId, stored, named, there⟩ := before found
  exact ⟨bus, routeId, by rw [buses]; exact stored, named,
    routes routeId ⟨busId, bus, stored, named⟩ there⟩

omit [Field K] [LinearOrder K] [ToString K] in
theorem put_bus_runs {bus : Bus} {routeId : Nat} (assigned : bus.routeId = some routeId)
    (found : (tables.db.routes.lookup routeId).isSome) (next : Nat) :
    RunsOn tables { tables with db := { tables.db.putBus bus with nextBusId := next } } := by
  refine ⟨rfl, fun busId _ there => lookup_insert_some bus.id bus there, ?_⟩
  intro busId there before
  by_cases same : busId = bus.id
  · exact ⟨bus, routeId, by simp only [Database.putBus, lookup_insert_eq, if_pos same], assigned, found⟩
  · simp only [Database.putBus, lookup_insert_eq, if_neg same] at there
    obtain ⟨old, oldRoute, stored, named, served⟩ := before there
    exact ⟨old, oldRoute, by simp [Database.putBus, same, stored], named, served⟩

theorem attempt_runs (done : attempt false tables now operation = .ok after) :
    RunsOn tables after := by
  cases operation with
  | createRoute request =>
      obtain ⟨row, _, _, rfl⟩ := create_route_ok done
      exact same_fleet_runs rfl rfl fun _ _ there => lookup_insert_some row.id row there
  | updateRoute id request =>
      obtain ⟨_, row, _, _, _, _, _, _, rfl⟩ := update_route_ok done
      exact same_fleet_runs rfl rfl fun _ _ there => lookup_insert_some row.id row there
  | deleteRoute id =>
      obtain ⟨unassigned, _, _, rfl⟩ := delete_route_ok done
      refine same_fleet_runs rfl rfl fun routeId named there => ?_
      have other : routeId ≠ id := fun same => unassigned (same ▸ named)
      simpa [Database.removeRoute, lookup_erase_eq, other] using there
  | createBus request =>
      obtain ⟨bus, _, assigned, found, rfl⟩ := create_bus_ok done
      exact put_bus_runs assigned found _
  | updateBus id request =>
      obtain ⟨_, bus, _, _, assigned, found, rfl⟩ := update_bus_ok done
      exact put_bus_runs assigned found _
  | deleteBus id =>
      obtain ⟨_, free, rfl⟩ := delete_bus_ok done
      refine ⟨rfl, fun busId named there => ?_, fun busId there before => ?_⟩
      · have other : busId ≠ id := fun same => free (same ▸ named)
        simpa [Database.removeBus, lookup_erase_eq, other] using there
      · simp only [Database.removeBus, lookup_erase_eq] at there
        split at there
        · cases there
        · rename_i other
          obtain ⟨bus, routeId, stored, named, served⟩ := before there
          exact ⟨bus, routeId, by simp [Database.removeBus, other, stored], named, served⟩
  | createAlert request =>
      obtain ⟨_, _, _, db, _⟩ := write_alert_ok (Or.inl rfl) done
      exact same_fleet_runs (by rw [db]) (by rw [db]) fun _ _ there => by rw [db]; exact there
  | updateAlert id request =>
      obtain ⟨_, _, _, db, _⟩ := write_alert_ok (Or.inr ⟨id, rfl⟩) done
      exact same_fleet_runs (by rw [db]) (by rw [db]) fun _ _ there => by rw [db]; exact there
  | deleteAlert id =>
      obtain ⟨_, rfl⟩ := AlertService.delete_ok done
      exact same_fleet_runs rfl rfl fun _ _ there => there

omit [Field K] [LinearOrder K] [ToString K] in
theorem on_route_there {busId : Nat} (onRoute : OnRoute tables busId) :
    (tables.db.buses.lookup busId).isSome := by
  obtain ⟨bus, _, stored, _⟩ := onRoute
  rw [stored]
  rfl

theorem attempt_staffed (staffed : Staffed tables)
    (done : attempt false tables now operation = .ok after) : Staffed after := by
  have runs := attempt_runs done
  refine staffed_after staffed runs.users fun busId named onRoute => ?_
  exact runs.onRoute busId (runs.driven busId named (on_route_there onRoute)) fun _ => onRoute

variable (encode : NewAccount → String)

omit [LinearOrder K] [ToString K] in
/-- A start does nothing or saves the routes, then the buses, then the accounts. -/
theorem run_ok (done : run encode tables now = .ok after) :
    after = tables ∨ (values tables.db.routes).length = 0 ∧ ∃ routed manned db,
      [r1, r2, r3, r4].foldlM (saveRoute now) tables.db = .ok routed ∧
      fleet.foldlM (saveBus now tables.db.nextRouteId) routed = .ok manned ∧
      accounts.foldlM (saveUser encode tables.db.nextBusId) manned = .ok db ∧
      after = { tables with db := db } := by
  unfold run at done
  split at done
  · exact Or.inl (Except.ok.inj done).symm
  · rename_i empty
    refine Or.inr ⟨by omega, ?_⟩
    cases routes : ([r1, r2, r3, r4] : List (Route K)).foldlM (saveRoute now) tables.db with
    | error problem =>
        rw [routes] at done
        cases done
    | ok routed =>
        cases buses : fleet.foldlM (saveBus now tables.db.nextRouteId) routed with
        | error problem =>
            simp only [routes, buses, bind, Except.bind] at done
            cases done
        | ok manned =>
            cases users : accounts.foldlM (saveUser encode tables.db.nextBusId) manned with
            | error problem =>
                simp only [routes, buses, users, bind, Except.bind] at done
                cases done
            | ok db =>
                simp only [routes, buses, users, bind, Except.bind] at done
                exact ⟨routed, manned, db, rfl, buses, users, (Except.ok.inj done).symm⟩

omit [LinearOrder K] [ToString K] in
theorem staffed_boot (staffed : Staffed tables) (now : Int) : run encode tables now = .ok tables :=
  if_pos (staffed_routes staffed)

theorem step_staffed {event : Event K} (staffed : Staffed tables)
    (taken : lives encode tables event after) : Staffed after := by
  cases event with
  | boot now =>
      have same : tables = after := by
        rw [← taken, staffed_boot encode staffed]
        rfl
      exact same ▸ staffed
  | call now operation =>
      have same : perform false tables now operation = after := taken
      unfold perform at same
      split at same
      · exact same ▸ staffed
      · rename_i done
        exact same ▸ attempt_staffed staffed done

omit [Field K] [LinearOrder K] [ToString K] in
theorem seeds_numbered [Field K] : ([r1, r2, r3, r4] : List (Route K)).Pairwise fun row other =>
    row.routeNumber ≠ other.routeNumber :=
  List.pairwise_map.mp (show [1, 2, 3, 4].Pairwise (· ≠ ·) by decide)

theorem accounts_placed : ∀ row ∈ accounts, ∀ place, row.bus = some place →
    ∃ bus, fleet[place]? = some bus ∧ bus.2 < 4 := by
  have placed : (accounts.all fun row => row.bus.all fun place =>
      (fleet[place]?).any fun bus => bus.2 < 4) = true := by decide
  intro row member place named
  have known := List.all_eq_true.mp placed row member
  rw [named, Option.all_some] at known
  obtain ⟨bus, found, below⟩ := (Option.any_eq_true _ _).mp known
  exact ⟨bus, found, of_decide_eq_true below⟩

omit [LinearOrder K] [ToString K] in
theorem first_boot (now : Int) : ∃ after : Tables K,
    run encode (Tables.of Database.empty) now = .ok after ∧ Staffed after := by
  obtain ⟨routed, routes, noBuses, noUsers, nextBusId, _, routeIds⟩ :=
    @routes_saved K now [r1, r2, r3, r4] Database.empty seeds_numbered fun _ _ => rfl
  have codes : ∀ row ∈ fleet, existsByCode routed row.1 = false := by
    intro row _
    rw [code_free_iff, noBuses]
    exact nofun
  obtain ⟨manned, buses, sameRoutes, sameUsers, _, busIds⟩ :=
    buses_saved now (Database.empty : Database K).nextRouteId (by decide) codes
  have names : ∀ row ∈ accounts, (findByUsername manned row.username).isSome = false := by
    intro row _
    rw [name_free_iff, sameUsers, noUsers]
    exact nofun
  obtain ⟨db, users, sameRoutes', sameBuses, _, new, old⟩ :=
    @users_saved K encode (Database.empty : Database K).nextBusId accounts manned (by decide) names
  refine ⟨{ Tables.of (Database.empty : Database K) with db := db }, ?_, ?_, ?_⟩
  · have empty : ¬ 0 < (values (Tables.of (Database.empty : Database K)).db.routes).length := nofun
    rw [run, if_neg empty]
    simp only [Tables.of, routes, buses, users, bind, Except.bind]
    rfl
  · have driver : (⟨"driver1", "password123", "Driver One", .DRIVER, some 0⟩ : NewAccount) ∈
        accounts := List.mem_cons_of_mem _ List.mem_cons_self
    obtain ⟨id, user, found, named⟩ := new _ driver
    exact ⟨_, id, user, found, named⟩
  · rintro busId ⟨id, user, found, named⟩
    rcases old id user found with before | ⟨row, member, assigned⟩
    · rw [sameUsers, noUsers] at before
      cases before
    · rw [named] at assigned
      obtain ⟨place, placed, rfl⟩ := Option.map_eq_some_iff.mp assigned.symm
      obtain ⟨entry, inFleet, below⟩ := accounts_placed row member place placed
      obtain ⟨bus, stored, runs⟩ := busIds place entry inFleet
      refine ⟨bus, _, ?_, runs, ?_⟩
      · rw [nextBusId] at stored
        rw [sameBuses]
        exact stored
      · rw [sameRoutes', sameRoutes]
        exact routeIds entry.2 below

/-- Once a start has seeded the store no start seeds again or fails, whatever was written in
between: the network cannot be emptied, since every driver account keeps its bus and
every bus that an account has keeps to a route. -/
theorem restart_keeps {events : List (Event K)} {first : Int}
    (history : Run (lives encode) (Tables.of Database.empty) (.boot first :: events) tables)
    (now : Int) :
    run encode tables now = .ok tables ∧
      ∀ busId, namedByAccount tables busId → OnRoute tables busId := by
  have staffed : Staffed tables := by
    cases history with
    | next head tail =>
        obtain ⟨seeded, done, staffed⟩ := first_boot encode (K := K) first
        rw [lives, done] at head
        exact run_invariant Staffed (fun _ _ _ taken staffed => step_staffed encode staffed taken)
          tail (head ▸ staffed)
  exact ⟨staffed_boot encode staffed now, staffed.onRoute⟩

end Staff

theorem route_one_kept : ∃ tables : Tables ℚ,
    Run (lives fun account => "hash of " ++ account.username) (Tables.of Database.empty)
        [.boot 0, .call 1 (.deleteBus 1), .call 2 (.deleteRoute 1)] tables ∧
      run (fun account => "hash of " ++ account.username) tables 3 = .ok tables ∧
      ∀ busId, namedByAccount tables busId → OnRoute tables busId := by
  have history : ∃ tables : Tables ℚ,
      Run (lives fun account => "hash of " ++ account.username) (Tables.of Database.empty)
        [.boot 0, .call 1 (.deleteBus 1), .call 2 (.deleteRoute 1)] tables :=
    ⟨_, Run.next rfl (Run.next rfl (Run.next rfl (Run.refl _)))⟩
  obtain ⟨tables, history⟩ := history
  exact ⟨tables, history, restart_keeps _ history 3⟩

end CityBus.DataSeeder
