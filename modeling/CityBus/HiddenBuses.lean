import CityBus.DriverDepartures
import CityBus.TrackingHandler

/-!
What riders and the public can tell about a hidden bus. Two registries are alike
if they differ only in the fixes and the accuracy of buses that are not visible,
so they are equal once these are blotted out; a view leaks nothing if it agrees on
registries that are alike.
-/

namespace CityBus.HiddenBuses

open BusService DriverDepartures GeoUtils GuardedRuns KeyedMaps LiveTracking RingBuffers Store
  TrackingHandler

variable {K : Type}

/-! ## Blotting out -/

/-- The coordinates of a driver's session repeat the last fix; nothing shows them. -/
def hideSession (session : ClientSession K) : ClientSession K :=
  if session.role = .USER then session else { session with coords := none }

def hideBus (bus : LiveBusState K) : LiveBusState K :=
  if bus.visible then bus else { bus with recent := Buffer.empty, accuracy := none }

theorem hide_session_id (session : ClientSession K) :
    (hideSession session).sessionId = session.sessionId := by
  unfold hideSession
  split <;> rfl

theorem hide_bus_code (bus : LiveBusState K) : (hideBus bus).busCode = bus.busCode := by
  unfold hideBus
  split <;> rfl

def hide (tracking : Tracking K) : Tracking K where
  sessions := mapValues hideSession tracking.sessions
  liveBuses := mapValues hideBus tracking.liveBuses
  sessionKeys := by
    intro id session found
    rw [lookup_mapValues] at found
    obtain ⟨old, before, same⟩ := Option.map_eq_some_iff.mp found
    rw [← same, hide_session_id]
    exact tracking.sessionKeys id old before
  busKeys := by
    intro code bus found
    rw [lookup_mapValues] at found
    obtain ⟨old, before, same⟩ := Option.map_eq_some_iff.mp found
    rw [← same, hide_bus_code]
    exact tracking.busKeys code old before

def Alike (left right : Tracking K) : Prop := hide left = hide right

/-! ## Views -/

def isUpdate : Outgoing K → Bool
  | .busLocationUpdate _ | .busOccupancyUpdate _ => true
  | _ => false

def updates (sends : Sends K) : Sends K := sends.filter fun send => isUpdate send.2

inductive View (K : Type) where
  | snapshot
  | locationUpdate (now : Int) (sessionId : String) (coords : Option (K × K))
      (accuracy : Option K) (visible : Option Bool)
  | occupancyUpdate (now : Int) (sessionId level : String)
  | proximity (now : Int)
  | list (page size : Int)
  | get (id : Nat)
  | history (code : String)

inductive Shown (K : Type) where
  | buses (buses : List (LiveBusDto K))
  | sends (sends : Sends K)
  | alerts (alerts : List (ProximityAlert K))
  | responses (responses : List (BusResponse K))
  | response (response : Except ServiceException (BusResponse K))
  | trace (trace : List (TimedPoint K))

section Views
variable [Field K] [LinearOrder K] [FloorRing K] (geo : GeoDistance K) (db : Database K)
  (tracking : Tracking K)

def shown : View K → Shown K
  | .snapshot => .buses (snapshotVisibleBuses geo tracking)
  | .locationUpdate now sessionId coords accuracy visible =>
      .sends (updates
        (handleDriverLocation tracking now sessionId geo coords accuracy visible).2)
  | .occupancyUpdate now sessionId level =>
      .sends (updates (handleDriverOccupancy tracking now sessionId geo level).2)
  | .proximity now => .alerts (pendingProximityAlerts geo tracking now)
  | .list pageIndex size => .responses (page geo db tracking pageIndex size)
  | .get id => .response (findById geo db tracking id)
  | .history code => .trace (history tracking code)

end Views

/-- The views that look at `visible`; a ping may make its bus visible. -/
def View.filters : View K → Bool
  | .snapshot | .occupancyUpdate .. | .proximity _ => true
  | .locationUpdate _ _ _ _ visible => visible ≠ some true
  | .list .. | .get _ | .history _ => false

/-- The accuracy of a hidden bus is on view: its row is listed, or its driver may
ping and be seen again by a rider. -/
def exposed (db : Database K) (tracking : Tracking K) (bus : LiveBusState K) : Prop :=
  (∃ row ∈ values db.buses, row.code = bus.busCode) ∨
    (∃ id, driverBus tracking id = some bus.busCode) ∧
      ∃ rider ∈ userSessions tracking, wantsRoute rider bus.routeNumber = true

def NoSecrets (db : Database K) (left right : Tracking K) : Prop :=
  ∀ code bus other, left.liveBuses.lookup code = some bus →
    right.liveBuses.lookup code = some other → bus.visible = false →
      bus.recent.items = other.recent.items ∧
        (exposed db left bus → bus.accuracy = other.accuracy)

/-! ## What blotting out keeps -/

section Blotted
variable (tracking : Tracking K)

theorem filter_map_fixed {Item : Type} {keep : Item → Bool} {change : Item → Item}
    (kept : ∀ item, keep (change item) = keep item)
    (fixed : ∀ item, keep item = true → change item = item) (items : List Item) :
    (items.map change).filter keep = items.filter keep := by
  induction items with
  | nil => rfl
  | cons item rest ih =>
      simp only [List.map_cons, List.filter_cons, kept, ih]
      split
      · rename_i passes
        rw [fixed item passes]
      · rfl

theorem hide_bus_visible (bus : LiveBusState K) : (hideBus bus).visible = bus.visible := by
  unfold hideBus
  split <;> rfl

theorem hide_session_role (session : ClientSession K) :
    (hideSession session).role = session.role := by
  unfold hideSession
  split <;> rfl

theorem hide_visible {bus : LiveBusState K} (visible : bus.visible = true) : hideBus bus = bus :=
  if_pos visible

theorem hide_rider {session : ClientSession K} (rider : session.role = .USER) :
    hideSession session = session :=
  if_pos rider

theorem hide_session_lookup (id : String) :
    (hide tracking).sessions.lookup id = (tracking.sessions.lookup id).map hideSession :=
  lookup_mapValues tracking.sessions id hideSession

theorem hide_bus_lookup (code : String) :
    (hide tracking).liveBuses.lookup code = (tracking.liveBuses.lookup code).map hideBus :=
  lookup_mapValues tracking.liveBuses code hideBus

theorem hide_users : userSessions (hide tracking) = userSessions tracking := by
  simp only [userSessions, hide, values_mapValues]
  apply filter_map_fixed
  · intro session
    rw [hide_session_role]
  · intro session rider
    exact hide_rider (of_decide_eq_true rider)

theorem hide_driver (id : String) : driverBus (hide tracking) id = driverBus tracking id := by
  simp only [driverBus, getSession, hide_session_lookup]
  cases tracking.sessions.lookup id with
  | none => rfl
  | some session => simp [hide_session_role]

variable [Field K] [LinearOrder K] [FloorRing K] (geo : GeoDistance K)

theorem hide_snapshot : snapshotVisibleBuses geo (hide tracking) = snapshotVisibleBuses geo tracking := by
  have same : (values (hide tracking).liveBuses).filter (·.visible) =
      (values tracking.liveBuses).filter (·.visible) := by
    simp only [hide, values_mapValues]
    exact filter_map_fixed hide_bus_visible (fun _ => hide_visible) _
  simp only [snapshotVisibleBuses, same]

omit [FloorRing K] in
theorem hide_alert (now : Int) (session : ClientSession K) :
    proximityAlert geo (hide tracking) now (hideSession session) =
      proximityAlert geo tracking now session := by
  cases role : session.role with
  | DRIVER busCode => simp [proximityAlert, hide_session_role, role]
  | USER =>
      rw [hide_rider role]
      simp only [proximityAlert, hide_bus_lookup]
      split
      · split
        · rfl
        · rename_i busCode _ _ _ _
          cases tracking.liveBuses.lookup busCode with
          | none => rfl
          | some bus =>
              simp only [Option.map_some, hide_bus_visible]
              cases visible : bus.visible with
              | false => rfl
              | true => rw [hide_visible visible]
      · rfl

omit [FloorRing K] in
theorem hide_alerts (now : Int) :
    pendingProximityAlerts geo (hide tracking) now = pendingProximityAlerts geo tracking now := by
  simp only [pendingProximityAlerts]
  rw [show values (hide tracking).sessions = (values tracking.sessions).map hideSession from
    values_mapValues hideSession tracking.sessions, List.filterMap_map]
  congr 1
  funext session
  exact hide_alert tracking geo now session

end Blotted

/-! ## Live updates -/

section Updates
variable (tracking : Tracking K) [Field K] [LinearOrder K] [FloorRing K] (geo : GeoDistance K)

omit [Field K] [LinearOrder K] [FloorRing K] in
theorem broadcast_updates (message : Outgoing K) (update : isUpdate message = true)
    (bus : LiveBusDto K) :
    updates (broadcastToSubscribedUsers tracking message bus) =
      broadcastToSubscribedUsers tracking message bus := by
  apply List.filter_eq_self.mpr
  intro send sent
  obtain ⟨user, _, rfl⟩ := List.mem_map.mp sent
  exact update

omit [Field K] [LinearOrder K] [FloorRing K] in
theorem users_put_bus (bus : LiveBusState K) :
    userSessions (tracking.putBus bus) = userSessions tracking := rfl

omit [Field K] [LinearOrder K] [FloorRing K] in
theorem users_change_session {change : ClientSession K → ClientSession K}
    {keeps : ∀ session, (change session).sessionId = session.sessionId} {id busCode : String}
    (drives : driverBus tracking id = some busCode)
    (role : ∀ session, (change session).role = session.role := by intro; rfl) :
    userSessions (tracking.changeSession id change keeps) = userSessions tracking := by
  apply filter_values_modify
  intro session found
  obtain ⟨driver, registered, drove⟩ := driver_role drives
  have same : session = driver := Option.some.inj (found.symm.trans registered)
  simp [role, same, drove]

def locationUpdate (bus : LiveBusState K) : Sends K :=
  if bus.visible then
    broadcastToSubscribedUsers tracking (.busLocationUpdate (toDto geo bus)) (toDto geo bus)
  else []

theorem location_updates (now : Int) (id : String) (coords : Option (K × K)) (accuracy : Option K)
    (visible : Option Bool) :
    updates (handleDriverLocation tracking now id geo coords accuracy visible).2 =
      match coords.bind fun point => locatedBus tracking now id point.1 point.2 accuracy visible with
      | none => []
      | some bus => locationUpdate tracking geo bus := by
  cases coords with
  | none => rfl
  | some coords =>
      obtain ⟨lat, lng⟩ := coords
      simp only [handleDriverLocation, Option.bind_some]
      cases located : locatedBus tracking now id lat lng accuracy visible with
      | none => rfl
      | some bus =>
          have users : userSessions (updateDriverLocation tracking now id lat lng accuracy visible) =
              userSessions tracking := by
            simp only [updateDriverLocation, located, users_put_bus]
            exact users_change_session tracking (located_bus_spec located).1
          have others : updates (broadcastToOtherDrivers
              (updateDriverLocation tracking now id lat lng accuracy visible)
              (.driverLocationUpdate (toDto geo bus)) id) = [] := by
            apply List.filter_eq_nil_iff.mpr
            intro send sent
            obtain ⟨driver, _, rfl⟩ := List.mem_map.mp sent
            simp [isUpdate]
          have same := broadcast_updates tracking (.busLocationUpdate (toDto geo bus)) rfl
            (toDto geo bus)
          simp only [updates, broadcastToSubscribedUsers] at same others
          cases seen : bus.visible with
          | false => simp [locationUpdate, updates, toDto, seen, isUpdate]
          | true =>
              simp only [locationUpdate, updates, toDto, seen, isUpdate] at same others ⊢
              simp [others, broadcastToSubscribedUsers, users, same]

theorem occupancy_updates (now : Int) (id level : String) :
    updates (handleDriverOccupancy tracking now id geo level).2 =
      match (valueOf level.toUpper).bind (crowdedBus tracking id) with
      | none => []
      | some bus =>
          if bus.visible then
            broadcastToSubscribedUsers tracking (.busOccupancyUpdate (toDto geo bus)) (toDto geo bus)
          else [] := by
  simp only [handleDriverOccupancy]
  cases valueOf level.toUpper with
  | none => rfl
  | some occupancy =>
      simp only [Option.bind_some]
      cases crowded : crowdedBus tracking id occupancy with
      | none => rfl
      | some bus =>
          have users : userSessions (setOccupancy tracking now id occupancy) =
              userSessions tracking := by
            simp only [setOccupancy, crowded]
            exact users_change_session (tracking.putBus bus) (crowded_bus_spec crowded).1
          have same := broadcast_updates tracking (.busOccupancyUpdate (toDto geo bus)) rfl
            (toDto geo bus)
          cases seen : bus.visible with
          | false => simp [updates, toDto, seen, isUpdate]
          | true =>
              simp only [updates, toDto, seen, isUpdate, broadcastToSubscribedUsers] at same ⊢
              simp [users, same]

end Updates

/-! ## Registries that are alike -/

section Alike
variable {left right : Tracking K}

theorem twin_visible {bus other : LiveBusState K} (twins : hideBus bus = hideBus other) :
    bus.visible = other.visible := by
  rw [← hide_bus_visible bus, twins, hide_bus_visible]

theorem twin_shown {bus other : LiveBusState K} (twins : hideBus bus = hideBus other)
    (visible : bus.visible = true) : other = bus := by
  have seen : other.visible = true := by rw [← twin_visible twins, visible]
  rw [← hide_visible seen, ← twins, hide_visible visible]

theorem twin_hidden {bus other : LiveBusState K} (twins : hideBus bus = hideBus other)
    (hidden : bus.visible = false) :
    other = { bus with recent := other.recent, accuracy := other.accuracy } := by
  have unseen : other.visible = false := by rw [← twin_visible twins, hidden]
  cases bus
  cases other
  simp only at hidden unseen
  subst hidden unseen
  simpa [hideBus] using twins.symm

theorem twin_equal {bus other : LiveBusState K} (twins : hideBus bus = hideBus other)
    (fixes : bus.recent.items = other.recent.items) (accuracy : bus.accuracy = other.accuracy) :
    bus = other := by
  have same : bus.recent = other.recent := by
    cases recent : bus.recent
    cases recent' : other.recent
    simp only [recent, recent'] at fixes
    simp [fixes]
  cases visible : bus.visible with
  | true => exact (twin_shown twins visible).symm
  | false => rw [twin_hidden twins visible, ← same, ← accuracy]

theorem alike_users (alike : Alike left right) : userSessions left = userSessions right := by
  rw [← hide_users left, alike, hide_users]

theorem alike_driver (alike : Alike left right) (id : String) :
    driverBus left id = driverBus right id := by
  rw [← hide_driver left, alike, hide_driver]

theorem alike_bus (alike : Alike left right) (code : String) :
    (left.liveBuses.lookup code).map hideBus = (right.liveBuses.lookup code).map hideBus := by
  rw [← hide_bus_lookup, alike, hide_bus_lookup]

theorem alike_session (alike : Alike left right) (id : String) :
    (getSession left id).map hideSession = (getSession right id).map hideSession := by
  simp only [getSession, ← hide_session_lookup]
  rw [alike]

theorem alike_bus_cases (alike : Alike left right) (code : String) :
    (left.liveBuses.lookup code = none ∧ right.liveBuses.lookup code = none) ∨
      ∃ bus other, left.liveBuses.lookup code = some bus ∧
        right.liveBuses.lookup code = some other ∧ hideBus bus = hideBus other := by
  have twins := alike_bus alike code
  cases before : left.liveBuses.lookup code with
  | none =>
      rw [before] at twins
      exact Or.inl ⟨rfl, Option.map_eq_none_iff.mp twins.symm⟩
  | some bus =>
      rw [before] at twins
      obtain ⟨other, found, same⟩ := Option.map_eq_some_iff.mp twins.symm
      exact Or.inr ⟨bus, other, rfl, found, same.symm⟩

theorem crowded_cases (alike : Alike left right) (id : String) (occupancy : Occupancy) :
    (crowdedBus left id occupancy = none ∧ crowdedBus right id occupancy = none) ∨
      ∃ bus other, crowdedBus left id occupancy = some bus ∧
        crowdedBus right id occupancy = some other ∧ hideBus bus = hideBus other := by
  simp only [crowdedBus, alike_driver alike id]
  cases driverBus right id with
  | none => exact Or.inl ⟨rfl, rfl⟩
  | some code =>
      rcases alike_bus_cases alike code with ⟨before, after⟩ | ⟨bus, other, before, after, twins⟩
      · exact Or.inl ⟨by simp [before], by simp [after]⟩
      · refine Or.inr ⟨{ bus with occupancy := some occupancy },
          { other with occupancy := some occupancy }, by simp [before], by simp [after], ?_⟩
        cases visible : bus.visible with
        | true => rw [← visible, twin_shown twins visible]
        | false =>
            rw [twin_hidden twins visible]
            simp [hideBus, visible]

theorem located_cases [Field K] [LinearOrder K] (alike : Alike left right) (now : Int)
    (id : String) (lat lng : K) (accuracy : Option K) (visible : Option Bool) :
    (locatedBus left now id lat lng accuracy visible = none ∧
        locatedBus right now id lat lng accuracy visible = none) ∨
      ∃ bus other, driverBus left id = some bus.busCode ∧
        locatedBus left now id lat lng accuracy visible =
          some (bus.locate lat lng accuracy visible now) ∧
        locatedBus right now id lat lng accuracy visible =
          some (other.locate lat lng accuracy visible now) ∧
        (bus = other ∨ left.liveBuses.lookup bus.busCode = some bus ∧
          right.liveBuses.lookup bus.busCode = some other ∧ hideBus bus = hideBus other) := by
  have twins := alike_session alike id
  cases before : getSession left id with
  | none =>
      rw [before] at twins
      have after := Option.map_eq_none_iff.mp twins.symm
      exact Or.inl ⟨by simp [locatedBus, before], by simp [locatedBus, after]⟩
  | some session =>
      rw [before] at twins
      obtain ⟨session', after, same⟩ := Option.map_eq_some_iff.mp twins.symm
      have role : session'.role = session.role := by
        rw [← hide_session_role, same, hide_session_role]
      have client : session'.clientId = session.clientId := by
        have kept : ∀ s : ClientSession K, (hideSession s).clientId = s.clientId := by
          intro s
          unfold hideSession
          split <;> rfl
        rw [← kept, same, kept]
      cases drives : session.role.busCode with
      | none =>
          exact Or.inl ⟨by simp [locatedBus, before, drives],
            by simp [locatedBus, after, role, drives]⟩
      | some code =>
          cases valid : isValidLatitude lat && isValidLongitude lng with
          | false =>
              exact Or.inl ⟨by simp [locatedBus, before, valid], by simp [locatedBus, after, valid]⟩
          | true =>
              have started := compute_if_absent_code left now code session.clientId
              refine Or.inr ⟨computeIfAbsent left now code session.clientId,
                computeIfAbsent right now code session.clientId, ?_, ?_, ?_, ?_⟩
              · rw [started]
                simp [driverBus, before, drives]
              · simp [locatedBus, before, drives, valid]
              · simp [locatedBus, after, role, client, drives, valid]
              · rw [started]
                rcases alike_bus_cases alike code with ⟨absent, absent'⟩ | ⟨bus, other, live, live', same⟩
                · exact Or.inl (by simp [computeIfAbsent, absent, absent'])
                · exact Or.inr (by simp [computeIfAbsent, live, live', same])

theorem alike_broadcast (alike : Alike left right) (message : Outgoing K) (bus : LiveBusDto K) :
    broadcastToSubscribedUsers left message bus = broadcastToSubscribedUsers right message bus := by
  simp only [broadcastToSubscribedUsers, alike_users alike]

end Alike

/-! ## Noninterference -/

section Views
variable [Field K] [LinearOrder K] [FloorRing K] {geo : GeoDistance K} {db : Database K}
  {left right : Tracking K}

theorem alike_location_update (alike : Alike left right) (bus : LiveBusState K) :
    locationUpdate left geo bus = locationUpdate right geo bus := by
  simp only [locationUpdate, alike_broadcast alike]

/-- A location update tells two registries apart only where a ping makes a hidden bus
visible, and then only if a rider is told and the states of the bus differ. -/
theorem location_view (alike : Alike left right) (now : Int) (id : String)
    (coords : Option (K × K)) (accuracy : Option K) (visible : Option Bool)
    (safe : visible = some true → ∀ bus other, driverBus left id = some bus.busCode →
      left.liveBuses.lookup bus.busCode = some bus →
      right.liveBuses.lookup bus.busCode = some other → bus.visible = false →
      hideBus bus = hideBus other → bus = other ∨
        ∀ rider ∈ userSessions left, wantsRoute rider bus.routeNumber = false) :
    shown geo db left (.locationUpdate now id coords accuracy visible) =
      shown geo db right (.locationUpdate now id coords accuracy visible) := by
  simp only [shown, location_updates]
  cases coords with
  | none => rfl
  | some point =>
      simp only [Option.bind_some]
      rcases located_cases alike now id point.1 point.2 accuracy visible with
        ⟨before, after⟩ | ⟨bus, other, drives, before, after, same⟩
      · rw [before, after]
      · rw [before, after]
        have equal : bus = other →
            locationUpdate left geo (bus.locate point.1 point.2 accuracy visible now) =
              locationUpdate right geo (other.locate point.1 point.2 accuracy visible now) := by
          rintro rfl
          exact alike_location_update alike _
        apply congrArg Shown.sends
        change locationUpdate left geo (bus.locate point.1 point.2 accuracy visible now) =
          locationUpdate right geo (other.locate point.1 point.2 accuracy visible now)
        -- Twins differ only while hidden, and stay untold unless the ping shows the bus.
        rcases same with rfl | ⟨live, live', twins⟩
        · exact equal rfl
        · cases seen : bus.visible with
          | true => exact equal (twin_shown twins seen).symm
          | false =>
              have unseen : other.visible = false := by rw [← twin_visible twins, seen]
              by_cases shows : visible = some true
              · rcases safe shows bus other drives live live' seen twins with same | unwanted
                · exact equal same
                · have nobody : ∀ start : LiveBusState K, start.routeNumber = bus.routeNumber →
                      locationUpdate left geo start = [] := by
                    intro start route
                    simp only [locationUpdate, broadcastToSubscribedUsers, toDto, route]
                    simpa using fun _ => unwanted
                  have route : other.routeNumber = bus.routeNumber := by
                    rw [twin_hidden twins seen]
                  rw [← alike_location_update alike,
                    nobody (bus.locate point.1 point.2 accuracy visible now) rfl,
                    nobody (other.locate point.1 point.2 accuracy visible now) route]
              · have kept : visible.getD false = false := by
                  rcases visible with _ | _ | _
                  · rfl
                  · rfl
                  · exact absurd rfl shows
                simp [locationUpdate, LiveBusState.locate, seen, unseen, kept]

/-- Snapshot, crowding reports and proximity alerts leak nothing, and neither do
location updates whose ping does not make its bus visible. -/
theorem filtering_view (alike : Alike left right) (view : View K) (filters : view.filters = true) :
    shown geo db left view = shown geo db right view := by
  cases view with
  | snapshot => simp only [shown, ← hide_snapshot left, alike.symm ▸ hide_snapshot right geo]
  | proximity now =>
      simp only [shown]
      rw [← hide_alerts left, alike, hide_alerts]
  | occupancyUpdate now id level =>
      simp only [shown, occupancy_updates]
      cases valueOf level.toUpper with
      | none => rfl
      | some occupancy =>
          simp only [Option.bind_some]
          rcases crowded_cases alike id occupancy with
            ⟨before, after⟩ | ⟨bus, other, before, after, twins⟩
          · rw [before, after]
          · rw [before, after]
            cases visible : bus.visible with
            | true => simp [twin_shown twins visible, visible, alike_broadcast alike]
            | false =>
                have unseen : other.visible = false := by rw [← twin_visible twins, visible]
                simp [visible, unseen]
  | locationUpdate now id coords accuracy visible =>
      apply location_view alike
      intro shows
      simp [View.filters, shows] at filters
  | list page size => exact absurd filters (by simp [View.filters])
  | get id => exact absurd filters (by simp [View.filters])
  | history code => exact absurd filters (by simp [View.filters])

theorem row_response (alike : Alike left right) (secrets : NoSecrets db left right) (row : Bus)
    (listed : row ∈ values db.buses) :
    toResponse geo db left row = toResponse geo db right row := by
  have live : liveBus geo left row.code = liveBus geo right row.code := by
    simp only [liveBus]
    rcases alike_bus_cases alike row.code with ⟨before, after⟩ | ⟨bus, other, before, after, twins⟩
    · rw [before, after]
    · have same : bus = other := by
        cases visible : bus.visible with
        | true => exact (twin_shown twins visible).symm
        | false =>
            obtain ⟨fixes, accuracy⟩ := secrets row.code bus other before after visible
            have code := left.busKeys row.code bus before
            exact twin_equal twins fixes (accuracy (Or.inl ⟨row, listed, code.symm⟩))
      rw [before, after, same]
  simp only [toResponse, live]

theorem views_of_no_secrets (alike : Alike left right) (secrets : NoSecrets db left right)
    (view : View K) : shown geo db left view = shown geo db right view := by
  cases view with
  | snapshot => exact filtering_view alike .snapshot rfl
  | proximity now => exact filtering_view alike (.proximity now) rfl
  | occupancyUpdate now id level => exact filtering_view alike (.occupancyUpdate now id level) rfl
  | locationUpdate now id coords accuracy visible =>
      apply location_view alike
      intro _ bus other drives live live' hidden twins
      obtain ⟨fixes, same⟩ := secrets bus.busCode bus other live live' hidden
      by_cases wanted : ∃ rider ∈ userSessions left, wantsRoute rider bus.routeNumber = true
      · exact Or.inl (twin_equal twins fixes (same (Or.inr ⟨⟨id, drives⟩, wanted⟩)))
      · refine Or.inr fun rider connected => ?_
        cases wants : wantsRoute rider bus.routeNumber with
        | false => rfl
        | true => exact absurd ⟨rider, connected, wants⟩ wanted
  | list pageIndex size =>
      have all : findAll geo db left = findAll geo db right :=
        List.map_congr_left fun row listed =>
          row_response alike secrets row (List.mem_mergeSort.mp listed)
      simp only [shown, page, all]
  | get id =>
      simp only [shown, findById, BusService.getEntity]
      cases found : db.buses.lookup id with
      | none => rfl
      | some row =>
          have same : toResponse geo db left row = toResponse geo db right row :=
            row_response alike secrets row (mem_values.mpr ⟨id, found⟩)
          simp only [Except.map, same]
  | history code =>
      simp only [shown, history]
      rcases alike_bus_cases alike code with ⟨before, after⟩ | ⟨bus, other, before, after, twins⟩
      · rw [before, after]
      · rw [before, after]
        cases visible : bus.visible with
        | true => rw [twin_shown twins visible]
        | false => exact congrArg Shown.trace (secrets code bus other before after visible).1

omit [FloorRing K] in
theorem located_live [IsStrictOrderedRing K] {tracking : Tracking K} {id code : String}
    {bus : LiveBusState K} (drives : driverBus tracking id = some code)
    (live : tracking.liveBuses.lookup code = some bus) :
    locatedBus tracking 0 id 0 0 none (some true) = some (bus.locate 0 0 none (some true) 0) := by
  obtain ⟨session, found, role⟩ := Option.bind_eq_some_iff.mp drives
  simp [locatedBus, found, role, computeIfAbsent, live, isValidLatitude, isValidLongitude]

/-- The history shows every fix of a hidden bus, and its row or the first ping that
makes it visible shows its accuracy. -/
theorem no_secrets_of_views [IsStrictOrderedRing K] (alike : Alike left right)
    (agree : ∀ view, shown geo db left view = shown geo db right view) :
    NoSecrets db left right := by
  intro code bus other before after hidden
  have fixes : bus.recent.items = other.recent.items := by
    have traces := agree (.history code)
    simpa [shown, history, before, after] using traces
  refine ⟨fixes, fun seen => ?_⟩
  have codeOf : bus.busCode = code := left.busKeys code bus before
  rcases seen with ⟨row, listed, named⟩ | ⟨⟨id, drives⟩, rider, connected, wants⟩
  · obtain ⟨key, found⟩ := mem_values.mp listed
    have responses := agree (.get key)
    rw [codeOf] at named
    subst named
    simp only [shown, findById, BusService.getEntity, found, Except.map, Shown.response.injEq,
      Except.ok.injEq, toResponse, BusResponse.mk.injEq] at responses
    have lives : liveBus geo left row.code = liveBus geo right row.code :=
      responses.2.2.2.2.2.2.2.1
    simp only [liveBus, before, after, Option.map_some, Option.some.injEq, toDto,
      LiveBusDto.mk.injEq] at lives
    exact lives.2.2.2.2.1
  -- The ping brings no accuracy of its own, so the update tells the one kept.
  · have sends := agree (.locationUpdate 0 id (some (0, 0)) none (some true))
    rw [codeOf] at drives
    have drives' : driverBus right id = some code := by rw [← alike_driver alike, drives]
    simp only [shown, location_updates, Option.bind_some, located_live drives before,
      located_live drives' after, Shown.sends.injEq, ← alike_location_update alike] at sends
    have shows : ∀ start : LiveBusState K, (start.locate 0 0 none (some true) 0).visible = true :=
      fun _ => rfl
    have told : (rider.sessionId, Outgoing.busLocationUpdate
        (toDto geo (bus.locate 0 0 none (some true) 0))) ∈
        locationUpdate left geo (bus.locate 0 0 none (some true) 0) := by
      rw [locationUpdate, if_pos (shows bus)]
      exact List.mem_map.mpr ⟨rider, List.mem_filter.mpr ⟨connected, wants⟩, rfl⟩
    rw [sends, locationUpdate, if_pos (shows other)] at told
    obtain ⟨_, _, same⟩ := List.mem_map.mp told
    simp only [Prod.mk.injEq, Outgoing.busLocationUpdate.injEq, toDto, LiveBusDto.mk.injEq] at same
    exact same.2.2.2.2.2.1.symm

/-- The views that look at `visible` agree on registries that are alike. All views
agree exactly when the hidden buses have nothing to hide: equal fixes, and equal
accuracy where it is exposed. -/
theorem hidden_buses_leak_iff [IsStrictOrderedRing K] (alike : Alike left right) :
    (∀ view, view.filters = true → shown geo db left view = shown geo db right view) ∧
      ((∀ view, shown geo db left view = shown geo db right view) ↔ NoSecrets db left right) :=
  ⟨filtering_view alike,
    no_secrets_of_views alike, views_of_no_secrets alike⟩

end Views

def oneBus : Database ℚ := Database.empty.putBus ⟨1, "bus-1", none, true, 0⟩

def parkedAt (lat lng : ℚ) : Tracking ℚ :=
  updateDriverLocation (registerDriver Tracking.empty 0 "s1" "asha" "bus-1" none none) 5 "s1"
    lat lng none (some false)

theorem parked_alike : Alike (parkedAt 1 2) (parkedAt 3 4) := rfl

theorem parked_views :
    (∀ view : View ℚ, view.filters = true →
      shown taxicab oneBus (parkedAt 1 2) view = shown taxicab oneBus (parkedAt 3 4) view) ∧
    ((∀ view, shown taxicab oneBus (parkedAt 1 2) view = shown taxicab oneBus (parkedAt 3 4) view) ↔
      NoSecrets oneBus (parkedAt 1 2) (parkedAt 3 4)) :=
  hidden_buses_leak_iff (parked_alike)

/-- Asha hides bus-1 with her first fix. -/
theorem parked_bus_leaks :
    Run (performs taxicab) Tracking.empty
        [(0, .registerDriver "s1" "asha" "bus-1" none none),
          (5, .updateDriverLocation "s1" 1 2 none (some false))] (parkedAt 1 2) ∧
      Run (performs taxicab) Tracking.empty
        [(0, .registerDriver "s1" "asha" "bus-1" none none),
          (5, .updateDriverLocation "s1" 3 4 none (some false))] (parkedAt 3 4) ∧
      Alike (parkedAt 1 2) (parkedAt 3 4) ∧
      shown taxicab oneBus (parkedAt 1 2) (.history "bus-1") ≠
        shown taxicab oneBus (parkedAt 3 4) (.history "bus-1") ∧
      shown taxicab oneBus (parkedAt 1 2) (.get 1) ≠
        shown taxicab oneBus (parkedAt 3 4) (.get 1) := by
  refine ⟨Run.next rfl (Run.next rfl (Run.refl _)), Run.next rfl (Run.next rfl (Run.refl _)),
    parked_alike, ?_, ?_⟩
  · intro same
    simp only [shown, Shown.trace.injEq] at same
    exact absurd same (by decide +kernel)
  · intro same
    simp only [shown, Shown.response.injEq] at same
    exact absurd same (by decide +kernel)

end CityBus.HiddenBuses
