import CityBus.GuardedRuns
import CityBus.Services

/-!
The caches in front of the reads. A response is computed from several tables and
cached; the writers of one of these tables evict it. `@Cacheable` keeps the first
result of a key and no exception, `@CacheEvict` empties a cache after a write that
went through. Nothing expires; a full cache may drop an entry at any time.
-/

namespace CityBus.ReadCaches

open AlertService GuardedRuns KeyedMaps RouteService Services Store

variable {K : Type}

/-- The tables, the clock, and the caches "routes" (under 'all' and under ids) and "alerts". -/
structure Served (K : Type) where
  tables : Tables K
  clock : Int
  allRoutes : Option (List (RouteResponse K))
  routeById : KeyedMap Nat (RouteResponse K)
  liveAlerts : Option (List AlertResponse)

def Served.start (tables : Tables K) (clock : Int) : Served K := ⟨tables, clock, none, ∅, none⟩

inductive Action (K : Type) where
  | findAll
  | findById (id : Nat)
  | liveFeed
  | write (operation : Operation K)
  | wait (millis : Nat)
  | dropAllRoutes
  | dropRoute (id : Nat)
  | dropFeed

/-! ## Reads through the cache -/

section Reads
variable (served : Served K)

def cachedFindAll : List (RouteResponse K) × Served K :=
  match served.allRoutes with
  | some responses => (responses, served)
  | none =>
      let responses := RouteService.findAll served.tables.db
      (responses, { served with allRoutes := some responses })

def cachedFindById (id : Nat) : Except ServiceException (RouteResponse K) × Served K :=
  match served.routeById.lookup id with
  | some response => (.ok response, served)
  | none =>
      match RouteService.findById served.tables.db id with
      -- An exception is not cached.
      | .error problem => (.error problem, served)
      | .ok response => (.ok response, { served with routeById := served.routeById.insert id response })

def cachedLiveFeed : Option (List AlertResponse) × Served K :=
  match served.liveAlerts with
  | some feed => (some feed, served)
  | none =>
      match AlertService.liveFeed served.tables served.clock with
      | none => (none, served)
      | some feed => (some feed, { served with liveAlerts := some feed })

end Reads

/-! ## Writes and their evictions -/

/-- The `@CacheEvict` of each write; those of `BusService` have none. -/
def evict (served : Served K) : Operation K → Served K
  | .createRoute _ | .updateRoute _ _ | .deleteRoute _ =>
      { served with allRoutes := none, routeById := ∅ }
  | .createAlert _ | .updateAlert _ _ | .deleteAlert _ => { served with liveAlerts := none }
  | .createBus _ | .updateBus _ _ | .deleteBus _ => served

section Steps
variable [Field K] [LinearOrder K] [ToString K] (foreignKeys : Bool) (served : Served K)

def write (operation : Operation K) : Served K :=
  match attempt foreignKeys served.tables served.clock operation with
  | .error _ => served
  | .ok after => evict { served with tables := after } operation

def act : Action K → Served K
  | .findAll => (cachedFindAll served).2
  | .findById id => (cachedFindById served id).2
  | .liveFeed => (cachedLiveFeed served).2
  | .write operation => write foreignKeys served operation
  | .wait millis => { served with clock := served.clock + millis }
  | .dropAllRoutes => { served with allRoutes := none }
  | .dropRoute id => { served with routeById := served.routeById.erase id }
  | .dropFeed => { served with liveAlerts := none }

def acts (action : Action K) (after : Served K) : Prop := act foreignKeys served action = after

end Steps

/-! ## Exact reads -/

def current (now : Int) (feed : List AlertResponse) : List AlertResponse :=
  feed.filter fun response => unexpired now response.expiresAt

/-- Every cached read returns what its body computes from the store now; an alert that
expired in the cache is the only difference. -/
structure Exact (served : Served K) : Prop where
  routes : (cachedFindAll served).1 = RouteService.findAll served.tables.db
  route : ∀ id, (cachedFindById served id).1 = RouteService.findById served.tables.db id
  alerts : (cachedLiveFeed served).1.map (current served.clock) =
    AlertService.liveFeed served.tables served.clock

def counts (served : Served K) (routeId : Nat) : Prop :=
  (∃ responses, served.allRoutes = some responses ∧
    ∃ response ∈ responses, response.id = routeId) ∨ (served.routeById.lookup routeId).isSome

def mentions (served : Served K) (routeId : Nat) : Prop :=
  ∃ feed, served.liveAlerts = some feed ∧
    ∃ response ∈ current served.clock feed, response.routeId = some routeId

def relabels (route : Route K) (request : RouteRequest K) : Prop :=
  request.routeNumber ≠ route.routeNumber ∨ trim request.name ≠ route.name ∨
    request.color.toLower ≠ route.color

/-- What a write changes is in no response that it leaves in a cache. -/
def undercuts (served : Served K) : Operation K → Prop
  | .createBus request => counts served request.routeId
  | .updateBus id request => ∃ bus, served.tables.db.buses.lookup id = some bus ∧
      bus.routeId ≠ some request.routeId ∧
      (counts served request.routeId ∨ ∃ routeId, bus.routeId = some routeId ∧ counts served routeId)
  | .deleteBus id => ∃ bus, served.tables.db.buses.lookup id = some bus ∧
      ∃ routeId, bus.routeId = some routeId ∧ counts served routeId
  | .updateRoute id request => ∃ route, served.tables.db.routes.lookup id = some route ∧
      relabels route request ∧ mentions served id
  | .deleteRoute id => mentions served id
  | _ => False

def quiet [Field K] [LinearOrder K] [ToString K] (foreignKeys : Bool) (served : Served K) :
    Action K → Prop
  | .write operation =>
      (attempt foreignKeys served.tables served.clock operation).isOk = true →
        ¬ undercuts served operation
  | _ => True

/-! ## The feed -/

section Feed
variable {tables after : Tables K} {now later : Int} {feed : List AlertResponse}

theorem respond_spec {db : Database K} {alert : ServiceAlert} {response : AlertResponse}
    (responds : respond db now alert = some response) :
    response.expiresAt = alert.expiresAt ∧ response.live = isLive now alert ∧
      response.routeId = alert.routeId := by
  obtain ⟨route, found, rfl⟩ := Option.map_eq_some_iff.mp responds
  refine ⟨rfl, rfl, ?_⟩
  unfold alertRoute at found
  cases named : alert.routeId with
  | none =>
      rw [named] at found
      cases found
      rfl
  | some routeId =>
      rw [named] at found
      obtain ⟨row, stored, rfl⟩ := Option.map_eq_some_iff.mp found
      exact congrArg some (db.routeKeys routeId row stored)

theorem mem_feed (reads : liveFeed tables now = some feed) {response : AlertResponse} :
    response ∈ feed ↔ ∃ alert ∈ shown tables now, respond tables.db now alert = some response := by
  have mapped := (feed_iff tables now feed).mp reads
  have moved : some response ∈ feed.map some ↔ response ∈ feed := by simp
  rw [← moved, ← mapped, List.mem_map]

theorem shown_live {alert : ServiceAlert} (member : alert ∈ shown tables now) :
    alert.active = true ∧ unexpired now alert.expiresAt = true := by
  have live := (List.mem_filter.mp member).2
  simpa [isLive] using live

theorem current_feed (reads : liveFeed tables now = some feed) : current now feed = feed := by
  apply List.filter_eq_self.mpr
  intro response member
  obtain ⟨alert, listed, responds⟩ := (mem_feed reads).mp member
  rw [(respond_spec responds).1]
  exact (shown_live listed).2

theorem unexpired_before {expiresAt : Option Int} (passes : now ≤ later)
    (ahead : unexpired later expiresAt = true) : unexpired now expiresAt = true := by
  cases expiresAt with
  | none => rfl
  | some expiry =>
      simp only [unexpired, Option.all_some, decide_eq_true_eq] at ahead ⊢
      omega

theorem shown_later (passes : now ≤ later) :
    shown tables later = (shown tables now).filter (isLive later) := by
  simp only [shown, List.filter_filter]
  apply List.filter_congr
  intro alert _
  cases ahead : isLive later alert with
  | false => rfl
  | true =>
      simp only [isLive, Bool.and_eq_true] at ahead
      simp [isLive, ahead.1, unexpired_before passes ahead.2]

theorem feed_later (reads : liveFeed tables now = some feed) (passes : now ≤ later) :
    liveFeed tables later = some (current later feed) := by
  rw [feed_iff] at reads ⊢
  rw [shown_later passes]
  have live : ∀ alert ∈ shown tables now, isLive now alert = true := fun alert member =>
    (List.mem_filter.mp member).2
  revert reads live
  generalize shown tables now = alerts
  intro reads live
  induction alerts generalizing feed with
  | nil =>
      cases feed with
      | nil => rfl
      | cons head tail => cases reads
  | cons alert rest ih =>
      cases feed with
      | nil => cases reads
      | cons response tail =>
          simp only [List.map_cons, List.cons.injEq] at reads
          obtain ⟨responds, others⟩ := reads
          have kept := ih others fun other member => live other (List.mem_cons_of_mem alert member)
          obtain ⟨expiry, _, _⟩ := respond_spec responds
          have active : alert.active = true := by
            have here := live alert (by simp)
            simp only [isLive, Bool.and_eq_true] at here
            exact here.1
          have same : isLive later alert = unexpired later response.expiresAt := by
            rw [expiry]
            simp [isLive, active]
          simp only [current, List.filter_cons] at kept ⊢
          rw [same]
          split
          · rename_i ahead
            have again : respond tables.db later alert = some response := by
              obtain ⟨route, found, shape⟩ := Option.map_eq_some_iff.mp responds
              apply Option.map_eq_some_iff.mpr
              refine ⟨route, found, ?_⟩
              rw [← shape]
              simp only [responseFrom, same, ahead, live alert (by simp)]
            simp only [List.map_cons, again, kept]
          · exact kept

theorem feed_same_iff (alerts : after.alerts = tables.alerts)
    (reads : liveFeed tables now = some feed) :
    liveFeed after now = some feed ↔
      ∀ alert ∈ shown tables now, respond after.db now alert = respond tables.db now alert := by
  have same : shown after now = shown tables now := by
    simp only [shown, findByActiveTrueOrderByCreatedAtDesc, alerts]
  rw [feed_iff, same, ← (feed_iff tables now feed).mp reads, List.map_inj_left]

end Feed

/-! ## What the caches hold -/

def RoutesExact (served : Served K) : Prop :=
  (∀ responses, served.allRoutes = some responses →
    responses = RouteService.findAll served.tables.db) ∧
  ∀ id response, served.routeById.lookup id = some response →
    RouteService.findById served.tables.db id = .ok response

def FeedExact (served : Served K) : Prop :=
  ∀ feed, served.liveAlerts = some feed →
    AlertService.liveFeed served.tables served.clock = some (current served.clock feed)

theorem exact_iff (served : Served K) : Exact served ↔ RoutesExact served ∧ FeedExact served := by
  constructor
  · intro exact
    refine ⟨⟨fun responses cached => ?_, fun id response cached => ?_⟩, fun feed cached => ?_⟩
    · have read := exact.routes
      simpa only [cachedFindAll, cached] using read
    · have read := exact.route id
      simp only [cachedFindById, cached] at read
      exact read.symm
    · have read := exact.alerts
      simp only [cachedLiveFeed, cached, Option.map_some] at read
      exact read.symm
  · rintro ⟨⟨all, one⟩, alerts⟩
    constructor
    · unfold cachedFindAll
      split
      · rename_i responses cached
        exact all responses cached
      · rfl
    · intro id
      unfold cachedFindById
      split
      · rename_i response cached
        exact (one id response cached).symm
      · split
        · rename_i problem fails
          exact fails.symm
        · rename_i response computed
          exact computed.symm
    · unfold cachedLiveFeed
      split
      · rename_i feed cached
        exact (alerts feed cached).symm
      · split
        · rename_i fails
          exact fails.symm
        · rename_i feed computed
          rw [Option.map_some, current_feed computed, computed]

theorem find_by_id_ok {db : Database K} {id : Nat} {response : RouteResponse K} :
    RouteService.findById db id = .ok response ↔
      ∃ route, db.routes.lookup id = some route ∧ toResponse db route = response := by
  unfold RouteService.findById RouteService.getEntity
  cases found : db.routes.lookup id with
  | none => simp [Except.map]
  | some route => simp [Except.map]

theorem to_response_eq_iff (db next : Database K) (route : Route K) :
    toResponse next route = toResponse db route ↔
      countByRouteId next route.id = countByRouteId db route.id := by
  constructor
  · intro same
    exact congrArg (·.busCount) same
  · intro same
    simp only [toResponse, same]

theorem routes_exact_iff {served : Served K} {after : Tables K} (exact : RoutesExact served)
    (routes : after.db.routes = served.tables.db.routes) :
    RoutesExact { served with tables := after } ↔ ∀ routeId, counts served routeId →
      countByRouteId after.db routeId = countByRouteId served.tables.db routeId := by
  obtain ⟨all, one⟩ := exact
  constructor
  · rintro ⟨allNow, oneNow⟩ routeId (⟨responses, cached, response, member, names⟩ | cached)
    · have same := (allNow responses cached).symm.trans (all responses cached)
      rw [all responses cached] at member
      obtain ⟨route, listed, rfl⟩ := List.mem_map.mp member
      simp only [RouteService.findAll, routes] at same
      have here := List.map_inj_left.mp same route listed
      rw [← names]
      exact (to_response_eq_iff _ _ route).mp here
    · obtain ⟨response, cached⟩ := Option.isSome_iff_exists.mp cached
      obtain ⟨route, found, shape⟩ := find_by_id_ok.mp (one routeId response cached)
      obtain ⟨again, foundNow, shapeNow⟩ := find_by_id_ok.mp (oneNow routeId response cached)
      have same : again = route := Option.some.inj (foundNow.symm.trans (by rw [routes, found]))
      rw [← served.tables.db.routeKeys routeId route found]
      apply (to_response_eq_iff _ _ route).mp
      rw [shape, ← same]
      exact shapeNow
  · intro same
    constructor
    · intro responses cached
      have listed := all responses cached
      rw [listed]
      simp only [RouteService.findAll, routes]
      apply List.map_congr_left
      intro route member
      apply ((to_response_eq_iff _ _ route).mpr _).symm
      refine same route.id (Or.inl ⟨responses, cached, toResponse served.tables.db route, ?_, rfl⟩)
      rw [listed]
      exact List.mem_map_of_mem member
    · intro id response cached
      obtain ⟨route, found, shape⟩ := find_by_id_ok.mp (one id response cached)
      apply find_by_id_ok.mpr
      refine ⟨route, by rw [routes, found], ?_⟩
      rw [← shape]
      apply (to_response_eq_iff _ _ route).mpr
      apply same
      rw [served.tables.db.routeKeys id route found]
      exact Or.inr (by rw [cached]; rfl)

/-! ## How a write of a bus changes the counts -/

theorem count_put_bus (db : Database K) (bus : Bus) (routeId : Nat) :
    countByRouteId (db.putBus bus) routeId +
        ((db.buses.lookup bus.id).toList.filter fun old => old.routeId = some routeId).length =
      countByRouteId db routeId + ([bus].filter fun new => new.routeId = some routeId).length :=
  count_insert (fun other : Bus => other.routeId = some routeId) db.buses bus.id bus

theorem count_remove_bus (db : Database K) (id routeId : Nat) :
    countByRouteId (db.removeBus id) routeId +
        ((db.buses.lookup id).toList.filter fun old => old.routeId = some routeId).length =
      countByRouteId db routeId :=
  count_erase (fun other : Bus => other.routeId = some routeId) db.buses id

theorem created_bus_counts {db : Database K} (fresh : db.buses.lookup db.nextBusId = none)
    {bus : Bus} (same : bus.id = db.nextBusId) {target : Nat} (assigned : bus.routeId = some target)
    (routeId : Nat) :
    countByRouteId (db.putBus bus) routeId = countByRouteId db routeId ↔ target ≠ routeId := by
  have counted := count_put_bus db bus routeId
  rw [same, fresh] at counted
  by_cases here : target = routeId
  · simp [assigned, here] at counted
    constructor
    · intro unchanged
      omega
    · intro other
      exact absurd here other
  · simp [assigned, here] at counted
    simp [counted, here]

theorem moved_bus_counts {db : Database K} {old bus : Bus}
    (stored : db.buses.lookup bus.id = some old) {target : Nat}
    (assigned : bus.routeId = some target) (routeId : Nat) :
    countByRouteId (db.putBus bus) routeId = countByRouteId db routeId ↔
      (old.routeId = some routeId ↔ target = routeId) := by
  have counted := count_put_bus db bus routeId
  rw [stored] at counted
  by_cases left : old.routeId = some routeId
  · by_cases joined : target = routeId
    · simp [assigned, left, joined] at counted
      simp [counted, left, joined]
    · simp [assigned, left, joined] at counted
      simp only [left, joined, iff_false, not_true_eq_false]
      omega
  · by_cases joined : target = routeId
    · simp [assigned, left, joined] at counted
      simp only [left, joined, false_iff, not_true_eq_false, iff_false]
      omega
    · simp [assigned, left, joined] at counted
      simp [counted, left, joined]

theorem removed_bus_counts {db : Database K} {id : Nat} {old : Bus}
    (stored : db.buses.lookup id = some old) (routeId : Nat) :
    countByRouteId (db.removeBus id) routeId = countByRouteId db routeId ↔
      old.routeId ≠ some routeId := by
  have counted := count_remove_bus db id routeId
  rw [stored] at counted
  by_cases left : old.routeId = some routeId
  · simp [left] at counted
    simp only [left, ne_eq, not_true_eq_false, iff_false]
    omega
  · simp [left] at counted
    simp [counted, left]

/-! ## How a write of a route changes the feed -/

section Routes
variable {served : Served K} {after : Tables K}

theorem respond_same {db next : Database K} {alert : ServiceAlert} (now : Int)
    (same : ∀ routeId, alert.routeId = some routeId →
      next.routes.lookup routeId = db.routes.lookup routeId) :
    respond next now alert = respond db now alert := by
  unfold respond alertRoute
  cases named : alert.routeId with
  | none => rfl
  | some routeId => simp only [same routeId named]

theorem feed_exact_iff (exact : FeedExact served) (alerts : after.alerts = served.tables.alerts)
    {allRoutes : Option (List (RouteResponse K))} {routeById : KeyedMap Nat (RouteResponse K)} :
    FeedExact { served with tables := after, allRoutes := allRoutes, routeById := routeById } ↔
      ∀ feed, served.liveAlerts = some feed → ∀ alert ∈ shown served.tables served.clock,
        respond after.db served.clock alert = respond served.tables.db served.clock alert := by
  constructor
  · intro now feed cached
    exact (feed_same_iff alerts (exact feed cached)).mp (now feed cached)
  · intro same feed cached
    exact (feed_same_iff alerts (exact feed cached)).mpr (same feed cached)

theorem mentions_iff (exact : FeedExact served) (routeId : Nat) :
    mentions served routeId ↔ ∃ feed, served.liveAlerts = some feed ∧
      ∃ alert ∈ shown served.tables served.clock, alert.routeId = some routeId := by
  constructor
  · rintro ⟨feed, cached, response, member, names⟩
    obtain ⟨alert, listed, responds⟩ := (mem_feed (exact feed cached)).mp member
    exact ⟨feed, cached, alert, listed, by rw [← (respond_spec responds).2.2, names]⟩
  · rintro ⟨feed, cached, alert, listed, names⟩
    have mapped := (feed_iff _ _ _).mp (exact feed cached)
    have read : respond served.tables.db served.clock alert ∈
        (shown served.tables served.clock).map (respond served.tables.db served.clock) :=
      List.mem_map_of_mem listed
    rw [mapped] at read
    obtain ⟨response, member, responds⟩ := List.mem_map.mp read
    exact ⟨feed, cached, response, member, by rw [(respond_spec responds.symm).2.2, names]⟩

theorem shown_route (exact : FeedExact served) {feed : List AlertResponse}
    (cached : served.liveAlerts = some feed) {alert : ServiceAlert}
    (listed : alert ∈ shown served.tables served.clock) {routeId : Nat}
    (names : alert.routeId = some routeId) :
    ∃ route, served.tables.db.routes.lookup routeId = some route := by
  have mapped := (feed_iff _ _ _).mp (exact feed cached)
  have read : respond served.tables.db served.clock alert ∈
      (shown served.tables served.clock).map (respond served.tables.db served.clock) :=
    List.mem_map_of_mem listed
  rw [mapped] at read
  obtain ⟨response, _, responds⟩ := List.mem_map.mp read
  obtain ⟨route, found, _⟩ := Option.map_eq_some_iff.mp responds.symm
  simp only [alertRoute, names, Option.map_eq_some_iff] at found
  obtain ⟨row, stored, _⟩ := found
  exact ⟨row, stored⟩

theorem created_route_feed (numbered : Numbered served.tables) (exact : FeedExact served)
    {row : Route K} (fresh : row.id = served.tables.db.nextRouteId) {feed : List AlertResponse}
    (cached : served.liveAlerts = some feed) {alert : ServiceAlert}
    (listed : alert ∈ shown served.tables served.clock) :
    respond (served.tables.db.putRoute row) served.clock alert =
      respond served.tables.db served.clock alert := by
  apply respond_same
  intro routeId names
  obtain ⟨route, found⟩ := shown_route exact cached listed names
  have older := numbered.routes routeId route found
  have other : routeId ≠ row.id := by omega
  simp [Database.putRoute, other]

/-- An edited route reads differently in an alert exactly if the edit relabels it. -/
theorem updated_route_feed {row route : Route K} {request : RouteRequest K}
    (found : served.tables.db.routes.lookup row.id = some route)
    (number : row.routeNumber = request.routeNumber) (name : row.name = trim request.name)
    (color : row.color = request.color.toLower) (now : Int) (alert : ServiceAlert) :
    respond (served.tables.db.putRoute row) now alert = respond served.tables.db now alert ↔
      (relabels route request → alert.routeId ≠ some row.id) := by
  by_cases named : alert.routeId = some row.id
  · have same := served.tables.db.routeKeys row.id route found
    have here : (served.tables.db.putRoute row).routes.lookup row.id = some row := by
      simp [Database.putRoute]
    simp only [respond, alertRoute, named, here, found, Option.map_some, Option.some.injEq, ne_eq,
      not_true_eq_false, imp_false, relabels, ← number, ← name, ← color, responseFrom,
      AlertResponse.mk.injEq, same, true_and, and_true]
    tauto
  · have other : respond (served.tables.db.putRoute row) now alert =
        respond served.tables.db now alert := by
      apply respond_same
      intro routeId names
      have different : routeId ≠ row.id := by
        rintro rfl
        exact named names
      simp [Database.putRoute, different]
    simp [other, named]

theorem deleted_route_feed (exact : FeedExact served) {id : Nat} {feed : List AlertResponse}
    (cached : served.liveAlerts = some feed) {alert : ServiceAlert}
    (listed : alert ∈ shown served.tables served.clock) :
    respond (served.tables.db.removeRoute id) served.clock alert =
        respond served.tables.db served.clock alert ↔ alert.routeId ≠ some id := by
  constructor
  · intro same named
    obtain ⟨route, found⟩ := shown_route exact cached listed named
    have gone : (served.tables.db.removeRoute id).routes.lookup id = none := by
      simp [Database.removeRoute]
    simp only [respond, alertRoute, named, found, gone, Option.map_some, Option.map_none,
      reduceCtorEq] at same
  · intro unnamed
    apply respond_same
    intro routeId names
    have different : routeId ≠ id := by
      rintro rfl
      exact unnamed names
    simp [Database.removeRoute, different]

end Routes

/-! ## One step -/

section Steps
variable [Field K] [LinearOrder K] [ToString K] {foreignKeys : Bool} {served : Served K}
  {after : Tables K} {operation : Operation K}

omit [Field K] [LinearOrder K] [ToString K] in
theorem fleet_exact_iff (exact : Exact served) (routes : after.db.routes = served.tables.db.routes)
    (alerts : after.alerts = served.tables.alerts) :
    Exact { served with tables := after } ↔ ∀ routeId, counts served routeId →
      countByRouteId after.db routeId = countByRouteId served.tables.db routeId := by
  obtain ⟨cached, feed⟩ := (exact_iff served).mp exact
  rw [exact_iff, routes_exact_iff cached routes]
  have kept : FeedExact { served with tables := after } := by
    apply (feed_exact_iff feed alerts).mpr
    intro _ _ alert _
    apply respond_same
    intro routeId _
    rw [routes]
  exact ⟨And.left, fun same => ⟨same, kept⟩⟩

omit [Field K] [LinearOrder K] [ToString K] in
/-- A write of a route empties "routes"; what the feed shows decides. -/
theorem network_exact_iff (exact : Exact served) (alerts : after.alerts = served.tables.alerts) :
    Exact { served with tables := after, allRoutes := none, routeById := ∅ } ↔
      ∀ feed, served.liveAlerts = some feed → ∀ alert ∈ shown served.tables served.clock,
        respond after.db served.clock alert = respond served.tables.db served.clock alert := by
  obtain ⟨_, feed⟩ := (exact_iff served).mp exact
  rw [exact_iff, feed_exact_iff feed alerts]
  have emptied : RoutesExact
      { served with tables := after, allRoutes := none, routeById := (∅ : KeyedMap Nat _) } := by
    constructor
    · intro responses cached
      cases cached
    · intro id response cached
      cases cached
  exact ⟨And.right, fun same => ⟨emptied, same⟩⟩

omit [Field K] [LinearOrder K] [ToString K] in
theorem notice_exact (exact : Exact served) (same : after.db = served.tables.db) :
    Exact { served with tables := after, liveAlerts := none } := by
  obtain ⟨⟨all, one⟩, _⟩ := (exact_iff served).mp exact
  apply (exact_iff _).mpr
  refine ⟨⟨?_, ?_⟩, ?_⟩
  · rw [same]
    exact all
  · rw [same]
    exact one
  · intro feed cached
    cases cached

theorem updated_route_exact_iff {id : Nat} {request : RouteRequest K} (exact : Exact served)
    (done : attempt foreignKeys served.tables served.clock (.updateRoute id request) = .ok after) :
    Exact (evict { served with tables := after } (.updateRoute id request)) ↔
      ¬ undercuts served (.updateRoute id request) := by
  have feed := ((exact_iff served).mp exact).2
  obtain ⟨route, row, _, found, rfl, number, name, color, shape⟩ := update_route_ok done
  refine (network_exact_iff exact (congrArg (·.alerts) shape)).trans ?_
  subst shape
  constructor
  · rintro same ⟨other, stored, relabeled, mentioned⟩
    obtain ⟨entries, cached, alert, listed, names⟩ := (mentions_iff feed row.id).mp mentioned
    have read := (updated_route_feed found number name color _ _).mp
      (same entries cached alert listed)
    rw [Option.some.inj (found.symm.trans stored)] at read
    exact read relabeled names
  · intro quiet entries cached alert listed
    refine (updated_route_feed found number name color _ _).mpr fun relabeled names => ?_
    apply quiet
    refine ⟨route, found, relabeled, ?_⟩
    exact (mentions_iff feed row.id).mpr ⟨entries, cached, alert, listed, names⟩

theorem deleted_route_exact_iff {id : Nat} (exact : Exact served)
    (done : attempt foreignKeys served.tables served.clock (.deleteRoute id) = .ok after) :
    Exact (evict { served with tables := after } (.deleteRoute id)) ↔
      ¬ undercuts served (.deleteRoute id) := by
  have feed := ((exact_iff served).mp exact).2
  obtain ⟨_, _, _, shape⟩ := delete_route_ok done
  refine (network_exact_iff exact (congrArg (·.alerts) shape)).trans ?_
  subst shape
  constructor
  · intro same mentioned
    obtain ⟨entries, cached, alert, listed, names⟩ := (mentions_iff feed id).mp mentioned
    exact (deleted_route_feed feed cached listed).mp (same entries cached alert listed) names
  · intro quiet entries cached alert listed
    apply (deleted_route_feed feed cached listed).mpr
    intro names
    exact quiet ((mentions_iff feed id).mpr ⟨entries, cached, alert, listed, names⟩)

omit [Field K] [LinearOrder K] [ToString K] in
theorem next_bus_free {tables : Tables K} (numbered : Numbered tables) :
    tables.db.buses.lookup tables.db.nextBusId = none := by
  cases stored : tables.db.buses.lookup tables.db.nextBusId with
  | none => rfl
  | some other => exact absurd (numbered.buses _ other stored) (Nat.lt_irrefl _)

theorem created_bus_exact_iff {request : BusService.BusRequest} (numbered : Numbered served.tables)
    (exact : Exact served)
    (done : attempt foreignKeys served.tables served.clock (.createBus request) = .ok after) :
    Exact (evict { served with tables := after } (.createBus request)) ↔
      ¬ undercuts served (.createBus request) := by
  obtain ⟨bus, fresh, assigned, _, shape⟩ := create_bus_ok done
  have free := next_bus_free numbered
  refine (fleet_exact_iff exact (congrArg (·.db.routes) shape)
    (congrArg (·.alerts) shape)).trans ?_
  subst shape
  constructor
  · intro same counted
    exact (created_bus_counts free fresh assigned _).mp (same request.routeId counted) rfl
  · intro quiet routeId counted
    apply (created_bus_counts free fresh assigned routeId).mpr
    rintro rfl
    exact quiet counted

/-- A bus that moves is felt where a cached response is of the route it leaves or joins. -/
theorem moved_bus_exact_iff {id : Nat} {request : BusService.BusRequest} (exact : Exact served)
    (done : attempt foreignKeys served.tables served.clock (.updateBus id request) = .ok after) :
    Exact (evict { served with tables := after } (.updateBus id request)) ↔
      ¬ undercuts served (.updateBus id request) := by
  obtain ⟨old, bus, stored, rfl, assigned, _, shape⟩ := update_bus_ok done
  refine (fleet_exact_iff exact (congrArg (·.db.routes) shape)
    (congrArg (·.alerts) shape)).trans ?_
  subst shape
  constructor
  · rintro same ⟨held, here, moves, counted | ⟨routeId, left, counted⟩⟩
    · have unmoved := (moved_bus_counts stored assigned _).mp (same request.routeId counted)
      rw [Option.some.inj (stored.symm.trans here)] at unmoved
      exact moves (unmoved.mpr rfl)
    · have unmoved := (moved_bus_counts stored assigned _).mp (same routeId counted)
      rw [Option.some.inj (stored.symm.trans here)] at unmoved
      rw [unmoved.mp left] at moves
      exact moves left
  · intro quiet routeId counted
    apply (moved_bus_counts stored assigned routeId).mpr
    by_cases moves : old.routeId = some request.routeId
    · rw [moves, Option.some.injEq]
    · have joined : request.routeId ≠ routeId := by
        rintro rfl
        exact quiet ⟨old, stored, moves, Or.inl counted⟩
      have left : old.routeId ≠ some routeId := by
        intro here
        exact quiet ⟨old, stored, moves, Or.inr ⟨routeId, here, counted⟩⟩
      exact iff_of_false left joined

theorem removed_bus_exact_iff {id : Nat} (exact : Exact served)
    (done : attempt foreignKeys served.tables served.clock (.deleteBus id) = .ok after) :
    Exact (evict { served with tables := after } (.deleteBus id)) ↔
      ¬ undercuts served (.deleteBus id) := by
  obtain ⟨found, _, shape⟩ := delete_bus_ok done
  obtain ⟨old, stored⟩ := Option.isSome_iff_exists.mp found
  refine (fleet_exact_iff exact (congrArg (·.db.routes) shape)
    (congrArg (·.alerts) shape)).trans ?_
  subst shape
  constructor
  · rintro same ⟨held, here, routeId, left, counted⟩
    have unmoved := (removed_bus_counts stored routeId).mp (same routeId counted)
    rw [Option.some.inj (stored.symm.trans here)] at unmoved
    exact unmoved left
  · intro quiet routeId counted
    apply (removed_bus_counts stored routeId).mpr
    intro left
    exact quiet ⟨old, stored, routeId, left, counted⟩

theorem write_exact_iff (numbered : Numbered served.tables) (exact : Exact served)
    (done : attempt foreignKeys served.tables served.clock operation = .ok after) :
    Exact (evict { served with tables := after } operation) ↔ ¬ undercuts served operation := by
  have feed := ((exact_iff served).mp exact).2
  cases operation with
  | createRoute request =>
      obtain ⟨row, _, fresh, shape⟩ := create_route_ok done
      refine (network_exact_iff exact (congrArg (·.alerts) shape)).trans (iff_of_true ?_ not_false)
      subst shape
      intro entries cached alert listed
      exact created_route_feed numbered feed fresh cached listed
  | updateRoute id request => exact updated_route_exact_iff exact done
  | deleteRoute id => exact deleted_route_exact_iff exact done
  | createBus request => exact created_bus_exact_iff numbered exact done
  | updateBus id request => exact moved_bus_exact_iff exact done
  | deleteBus id => exact removed_bus_exact_iff exact done
  | createAlert request =>
      obtain ⟨_, _, _, same, _⟩ := write_alert_ok (Or.inl rfl) done
      have kept := notice_exact exact same
      exact iff_of_true kept not_false
  | updateAlert id request =>
      obtain ⟨_, _, _, same, _⟩ := write_alert_ok (Or.inr ⟨id, rfl⟩) done
      have kept := notice_exact exact same
      exact iff_of_true kept not_false
  | deleteAlert id =>
      obtain ⟨_, shape⟩ := AlertService.delete_ok done
      have kept := notice_exact exact (congrArg (·.db) shape)
      exact iff_of_true kept not_false

omit [Field K] [LinearOrder K] [ToString K] in
theorem find_all_exact (exact : Exact served) : Exact (cachedFindAll served).2 := by
  obtain ⟨⟨all, one⟩, feed⟩ := (exact_iff served).mp exact
  unfold cachedFindAll
  split
  · exact exact
  · apply (exact_iff _).mpr
    refine ⟨⟨fun responses cached => ?_, one⟩, feed⟩
    exact (Option.some.inj cached).symm

omit [Field K] [LinearOrder K] [ToString K] in
theorem find_by_id_exact (exact : Exact served) (id : Nat) : Exact (cachedFindById served id).2 := by
  obtain ⟨⟨all, one⟩, feed⟩ := (exact_iff served).mp exact
  unfold cachedFindById
  split
  · exact exact
  · split
    · exact exact
    · rename_i response computed
      apply (exact_iff _).mpr
      refine ⟨⟨all, fun other entry cached => ?_⟩, feed⟩
      simp only [lookup_insert_eq] at cached
      split at cached
      · rename_i same
        rw [same, ← Option.some.inj cached]
        exact computed
      · exact one other entry cached

omit [Field K] [LinearOrder K] [ToString K] in
theorem live_feed_exact (exact : Exact served) : Exact (cachedLiveFeed served).2 := by
  obtain ⟨routes, feed⟩ := (exact_iff served).mp exact
  unfold cachedLiveFeed
  split
  · exact exact
  · split
    · exact exact
    · rename_i entries computed
      apply (exact_iff _).mpr
      refine ⟨routes, fun other cached => ?_⟩
      cases cached
      rw [current_feed computed]
      exact computed

omit [Field K] [LinearOrder K] [ToString K] in
theorem wait_exact (exact : Exact served) (millis : Nat) :
    Exact { served with clock := served.clock + millis } := by
  obtain ⟨routes, feed⟩ := (exact_iff served).mp exact
  apply (exact_iff _).mpr
  refine ⟨routes, fun entries cached => ?_⟩
  have passes : served.clock ≤ served.clock + millis := by omega
  rw [feed_later (feed entries cached) passes]
  -- What has expired by then includes what had expired before.
  simp only [current, List.filter_filter, Option.some.injEq]
  apply List.filter_congr
  intro entry _
  cases ahead : unexpired (served.clock + millis) entry.expiresAt with
  | false => rfl
  | true => simp [unexpired_before passes ahead]

theorem act_exact_iff (numbered : Numbered served.tables) (exact : Exact served)
    (action : Action K) : Exact (act foreignKeys served action) ↔ quiet foreignKeys served action := by
  obtain ⟨⟨all, one⟩, feed⟩ := (exact_iff served).mp exact
  cases action with
  | findAll => exact iff_of_true (find_all_exact exact) trivial
  | findById id => exact iff_of_true (find_by_id_exact exact id) trivial
  | liveFeed => exact iff_of_true (live_feed_exact exact) trivial
  | write operation =>
      simp only [act, write, quiet]
      cases done : attempt foreignKeys served.tables served.clock operation with
      | error problem => exact iff_of_true exact fun goes => by cases goes
      | ok after =>
          rw [write_exact_iff numbered exact done]
          simp [Except.isOk, Except.toBool]
  | wait millis => exact iff_of_true (wait_exact exact millis) trivial
  | dropAllRoutes =>
      refine iff_of_true ((exact_iff _).mpr ⟨⟨?_, one⟩, feed⟩) trivial
      intro responses cached
      cases cached
  | dropRoute id =>
      refine iff_of_true ((exact_iff _).mpr ⟨⟨all, ?_⟩, feed⟩) trivial
      intro other response cached
      simp only [act, lookup_erase_eq] at cached
      split at cached
      · cases cached
      · exact one other response cached
  | dropFeed =>
      refine iff_of_true ((exact_iff _).mpr ⟨⟨all, one⟩, ?_⟩) trivial
      intro entries cached
      cases cached

theorem act_numbered (numbered : Numbered served.tables) (action : Action K) :
    Numbered (act foreignKeys served action).tables := by
  cases action with
  | findAll =>
      simp only [act, cachedFindAll]
      split <;> exact numbered
  | findById id =>
      simp only [act, cachedFindById]
      split
      · exact numbered
      · split <;> exact numbered
  | liveFeed =>
      simp only [act, cachedLiveFeed]
      split
      · exact numbered
      · split <;> exact numbered
  | write operation =>
      simp only [act, write]
      split
      · exact numbered
      · rename_i after done
        have kept := attempt_numbered numbered done
        cases operation <;> exact kept
  | wait millis => exact numbered
  | dropAllRoutes => exact numbered
  | dropRoute id => exact numbered
  | dropFeed => exact numbered

omit [Field K] [LinearOrder K] [ToString K] in
theorem start_exact (tables : Tables K) (clock : Int) : Exact (Served.start tables clock) := by
  apply (exact_iff _).mpr
  refine ⟨⟨?_, ?_⟩, ?_⟩
  · intro responses cached
    cases cached
  · intro id response cached
    cases cached
  · intro feed cached
    cases cached

/-! ## Runs -/

/-- In a run whose writes change nothing that a cached response shows, every cached read
is exact; and after the next action it still is exactly if that one is quiet too. -/
theorem quiet_runs_exact {start : Tables K} {clock : Int} {actions : List (Action K)}
    {after : Served K} (numbered : Numbered start)
    (run : Run (guarded (quiet foreignKeys) (acts foreignKeys)) (Served.start start clock) actions
      after) :
    Exact after ∧ ∀ action, Exact (act foreignKeys after action) ↔ quiet foreignKeys after action := by
  have kept : Numbered after.tables ∧ Exact after := by
    refine run_invariant (fun served => Numbered served.tables ∧ Exact served) ?_ run
      ⟨numbered, start_exact start clock⟩
    rintro before action next ⟨calm, rfl⟩ ⟨ids, exact⟩
    exact ⟨act_numbered ids action, (act_exact_iff ids exact action).mpr calm⟩
  exact ⟨kept.2, fun action => act_exact_iff kept.1 kept.2 action⟩

end Steps

/-! ## A fleet and a network that change behind the caches -/

theorem empty_numbered : Numbered (Tables.of (Database.empty : Database ℚ)) := by
  constructor
  · intro id route found
    cases found
  · intro id bus found
    cases found

def pierBus : BusService.BusRequest := { code := "bus-1", routeId := 1, active := none }

def quayLine : RouteRequest ℚ := { pierLine with name := "Quay" }

def carefulDay : List (Action ℚ) :=
  [.write (.createRoute pierLine), .write (.createBus pierBus), .findAll, .findById 1,
    .write (.updateRoute 1 quayLine), .write (.createAlert pierClosed), .liveFeed, .wait 5, .findAll]

/-- The bus comes before the first read, the alert after the edit. -/
theorem careful_day_exact :
    Exact (carefulDay.foldl (act true) (Served.start (Tables.of Database.empty) 0)) := by
  have run : Run (guarded (quiet true) (acts true)) (Served.start (Tables.of Database.empty) 0)
      carefulDay (carefulDay.foldl (act true) (Served.start (Tables.of Database.empty) 0)) := by
    apply Run.next ⟨fun _ => not_false, rfl⟩
    refine Run.next ⟨fun _ => ?_, rfl⟩ ?_
    · rintro (⟨responses, cached, _⟩ | cached)
      · cases cached
      · cases cached
    · apply Run.next ⟨trivial, rfl⟩
      apply Run.next ⟨trivial, rfl⟩
      refine Run.next ⟨fun _ => ?_, rfl⟩ ?_
      · rintro ⟨route, found, relabeled, feed, cached, shows⟩
        cases cached
      · apply Run.next ⟨fun _ => not_false, rfl⟩
        apply Run.next ⟨trivial, rfl⟩
        apply Run.next ⟨trivial, rfl⟩
        apply Run.next ⟨trivial, rfl⟩
        exact Run.refl _
  exact (quiet_runs_exact empty_numbered run).1

/-- A bus is created behind the cached list, and the route of a cached alert is renamed. -/
theorem stale_count_and_name :
    ∃ counted named : Served ℚ,
      Run (acts true) (Served.start (Tables.of Database.empty) 0)
        [.write (.createRoute pierLine), .findAll, .write (.createBus pierBus)] counted ∧
      (cachedFindAll counted).1.map (·.busCount) = [0] ∧
      (RouteService.findAll counted.tables.db).map (·.busCount) = [1] ∧
      Run (acts true) (Served.start (Tables.of Database.empty) 0)
        [.write (.createRoute pierLine), .write (.createAlert pierClosed), .liveFeed,
          .write (.updateRoute 1 quayLine)] named ∧
      (cachedLiveFeed named).1.map (·.map (·.routeName)) = some [some "Pier"] ∧
      (AlertService.liveFeed named.tables named.clock).map (·.map (·.routeName)) =
        some [some "Quay"] ∧ ¬ Exact counted ∧ ¬ Exact named := by
  have first : ∃ counted : Served ℚ,
      Run (acts true) (Served.start (Tables.of Database.empty) 0)
        [.write (.createRoute pierLine), .findAll, .write (.createBus pierBus)] counted ∧
      (cachedFindAll counted).1.map (·.busCount) = [0] ∧
      (RouteService.findAll counted.tables.db).map (·.busCount) = [1] := by
    apply Exists.intro
    constructor
    · apply Run.next rfl
      apply Run.next rfl
      apply Run.next rfl
      exact Run.refl _
    · exact ⟨by decide +kernel, by decide +kernel⟩
  have second : ∃ named : Served ℚ,
      Run (acts true) (Served.start (Tables.of Database.empty) 0)
        [.write (.createRoute pierLine), .write (.createAlert pierClosed), .liveFeed,
          .write (.updateRoute 1 quayLine)] named ∧
      (cachedLiveFeed named).1.map (·.map (·.routeName)) = some [some "Pier"] ∧
      (AlertService.liveFeed named.tables named.clock).map (·.map (·.routeName)) =
        some [some "Quay"] ∧
      (cachedLiveFeed named).1.map (current named.clock) = (cachedLiveFeed named).1 := by
    apply Exists.intro
    constructor
    · apply Run.next rfl
      apply Run.next rfl
      apply Run.next rfl
      apply Run.next rfl
      exact Run.refl _
    · exact ⟨by decide +kernel, by decide +kernel, by decide +kernel⟩
  obtain ⟨counted, reads, cachedCount, count⟩ := first
  obtain ⟨named, shows, cachedName, name, unexpired⟩ := second
  refine ⟨counted, named, reads, cachedCount, count, shows, cachedName, name, ?_, ?_⟩
  · intro exact
    rw [exact.routes, count] at cachedCount
    exact absurd cachedCount (by decide)
  · intro exact
    have same := exact.alerts
    rw [unexpired] at same
    rw [same, name] at cachedName
    exact absurd cachedName (by decide)

end CityBus.ReadCaches
