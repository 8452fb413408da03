import CityBus.FrameLaw
import CityBus.RiderMap

/-!
Where the markers of the rider's map stand. A place comes on a marker only by a
location message of the driver of the bus, and from a snapshot on the marker of a
bus stands at its latest fix for as long as the rider hears of each new one.
-/

namespace CityBus.RiderPositions

open AuthService GeoUtils GuardedRuns KeyedMaps LiveTracking MessageQueues RingBuffers Store
  TrackingHandler TrackingRuns FrameLaw RiderProtocol RiderMap

variable {K : Type}

/-! ## What a message does to a place -/

def puts : Outgoing K → String → K × K → Prop
  | .activeBuses buses, code, place =>
      ∃ bus ∈ placed buses, bus.busId = code ∧ bus.coords = some place
  | .busLocationUpdate bus, code, place =>
      (bus.busId = code ∧ bus.coords = some place) ∧ inherited bus.busId = false
  | _, _, _ => False

theorem puts_adds {message : Outgoing K} {code : String} {place : K × K}
    (said : puts message code place) : adds message code := by
  cases message with
  | activeBuses buses =>
      obtain ⟨bus, listed, named, coords⟩ := said
      exact ⟨bus, listed, by rw [coords]; rfl, named⟩
  | busLocationUpdate bus => exact ⟨by rw [said.1.2]; rfl, said.1.1, said.2⟩
  | _ => exact said

section Markers
variable (busMarkers : KeyedMap String (K × K)) (code : String)

theorem update_place (buses : List (LiveBusDto K)) :
    (∃ place, (∃ bus ∈ placed buses, bus.busId = code ∧ bus.coords = some place) ∧
        (updateBusLocations busMarkers buses).lookup code = some place) ∨
      ((∀ place, ¬ ∃ bus ∈ placed buses, bus.busId = code ∧ bus.coords = some place) ∧
        (updateBusLocations busMarkers buses).lookup code = busMarkers.lookup code) := by
  induction buses generalizing busMarkers with
  | nil => exact Or.inr ⟨by simp [placed], rfl⟩
  | cons bus rest ih =>
      rw [updateBusLocations]
      cases coords : bus.coords with
      | none =>
          have handled : placed (bus :: rest) = bus :: placed rest := by simp [placed, coords]
          rw [handled]
          rcases ih busMarkers with ⟨place, ⟨other, listed, told⟩, stands⟩ | ⟨silent, same⟩
          · exact Or.inl ⟨place, ⟨other, List.mem_cons_of_mem bus listed, told⟩, stands⟩
          · refine Or.inr ⟨?_, same⟩
            rintro place ⟨other, listed, named, told⟩
            rcases List.mem_cons.mp listed with rfl | later
            · rw [coords] at told
              cases told
            · exact silent place ⟨other, later, named, told⟩
      | some place =>
          cases aborts : inherited bus.busId with
          | true => exact Or.inr ⟨by simp [placed, coords, aborts], rfl⟩
          | false =>
              have handled : placed (bus :: rest) = bus :: placed rest := by simp [placed, aborts]
              rw [handled]
              rcases ih (busMarkers.insert bus.busId place) with
                ⟨place, ⟨other, listed, told⟩, stands⟩ | ⟨silent, same⟩
              · exact Or.inl ⟨place, ⟨other, List.mem_cons_of_mem bus listed, told⟩, stands⟩
              · rw [lookup_insert_eq] at same
                by_cases named : code = bus.busId
                · refine Or.inl ⟨place, ⟨bus, List.mem_cons_self, named.symm, coords⟩, ?_⟩
                  exact same.trans (if_pos named)
                · refine Or.inr ⟨?_, same.trans (if_neg named)⟩
                  rintro other ⟨told, listed, called, there⟩
                  rcases List.mem_cons.mp listed with rfl | later
                  · exact named called.symm
                  · exact silent other ⟨told, later, called, there⟩

theorem single_place (bus : LiveBusDto K) :
    (∃ place, puts (.busLocationUpdate bus) code place ∧
        (updateSingleBusLocation busMarkers bus).lookup code = some place) ∨
      ((∀ place, ¬ puts (.busLocationUpdate bus) code place) ∧
        (updateSingleBusLocation busMarkers bus).lookup code = busMarkers.lookup code) := by
  have listed := update_place busMarkers code [bus]
  unfold updateSingleBusLocation
  cases coords : bus.coords with
  | none =>
      refine Or.inr ⟨fun place told => ?_, rfl⟩
      rw [told.1.2] at coords
      cases coords
  | some place =>
      cases aborts : inherited bus.busId with
      | true =>
          refine Or.inr ⟨fun place told => ?_, rfl⟩
          rw [told.2] at aborts
          cases aborts
      | false =>
          have handled : placed [bus] = [bus] := by simp [placed, aborts]
          rw [handled] at listed
          simp only [List.mem_singleton, exists_eq_left] at listed
          simp only [Bool.false_eq_true, if_false]
          split
          · by_cases named : bus.busId = code
            · refine Or.inl ⟨place, ⟨⟨named, coords⟩, aborts⟩, ?_⟩
              rw [lookup_insert_eq, if_pos named.symm]
            · refine Or.inr ⟨fun _ told => named told.1.1, ?_⟩
              rw [lookup_insert_eq, if_neg (Ne.symm named)]
          · rcases listed with ⟨there, told, stands⟩ | ⟨silent, same⟩
            · exact Or.inl ⟨there, ⟨told, aborts⟩, stands⟩
            · exact Or.inr ⟨fun there told => silent there told.1, same⟩

/-- What a message makes of a marker: a place that it names, nothing, or what it was. -/
theorem message_place (message : Outgoing K) :
    (∃ place, puts message code place ∧
        (handleWebSocketMessage busMarkers message).lookup code = some place) ∨
      ((∀ place, ¬ puts message code place) ∧
        ((removes message code ∧ (handleWebSocketMessage busMarkers message).lookup code = none) ∨
          (¬ removes message code ∧
            (handleWebSocketMessage busMarkers message).lookup code = busMarkers.lookup code))) := by
  cases message with
  | activeBuses buses =>
      rcases update_place busMarkers code buses with told | ⟨silent, same⟩
      · exact Or.inl told
      · exact Or.inr ⟨silent, Or.inr ⟨id, same⟩⟩
  | busLocationUpdate bus =>
      rcases single_place busMarkers code bus with told | ⟨silent, same⟩
      · exact Or.inl told
      · exact Or.inr ⟨silent, Or.inr ⟨id, same⟩⟩
  | driverLeft driverId busId =>
      refine Or.inr ⟨fun _ => id, ?_⟩
      simp only [handleWebSocketMessage, removeBusMarker, lookup_erase_eq, removes]
      by_cases named : busId = code
      · exact Or.inl ⟨named, by rw [if_pos named.symm]⟩
      · exact Or.inr ⟨named, by rw [if_neg (Ne.symm named)]⟩
  | _ => exact Or.inr ⟨fun _ => id, Or.inr ⟨id, rfl⟩⟩

variable {busMarkers code} {place : K × K}

/-- A marker stands where it stood or where a message of the queue puts it. -/
theorem settled_origin {queue : List (Outgoing K)}
    (stands : (settled handleWebSocketMessage busMarkers queue).lookup code = some place) :
    busMarkers.lookup code = some place ∨ ∃ message ∈ queue, puts message code place := by
  induction queue generalizing busMarkers with
  | nil => exact Or.inl stands
  | cons message rest ih =>
      rcases ih stands with before | ⟨later, sent, said⟩
      · rcases message_place busMarkers code message with
          ⟨other, said, there⟩ | ⟨_, ⟨_, gone⟩ | ⟨_, same⟩⟩
        · rw [there, Option.some_inj] at before
          exact Or.inr ⟨message, List.mem_cons_self, before ▸ said⟩
        · rw [gone] at before
          cases before
        · rw [same] at before
          exact Or.inl before
      · exact Or.inr ⟨later, List.mem_cons_of_mem message sent, said⟩

theorem settled_there {queue : List (Outgoing K)}
    (one : ∀ message ∈ queue, ∀ other, puts message code other → other = place)
    (kept : ∀ message ∈ queue, ¬ removes message code)
    (told : busMarkers.lookup code = some place ∨
      ∃ message ∈ queue, ∃ other, puts message code other) :
    (settled handleWebSocketMessage busMarkers queue).lookup code = some place := by
  have stays : ∀ message ∈ queue, ∀ before : KeyedMap String (K × K),
      before.lookup code = some place →
        (handleWebSocketMessage before message).lookup code = some place := by
    intro message sent before stands
    rcases message_place before code message with ⟨other, said, there⟩ | ⟨_, ⟨away, _⟩ | ⟨_, same⟩⟩
    · rw [there, one message sent other said]
    · exact absurd away (kept message sent)
    · rw [same, stands]
  rcases told with stands | ⟨message, sent, other, said⟩
  · exact settled_keeps (fun markers : KeyedMap String (K × K) => markers.lookup code = some place)
      stays stands
  · refine settled_gains (fun markers : KeyedMap String (K × K) => markers.lookup code = some place)
      sent ?_ stays busMarkers
    intro before
    rcases message_place before code message with ⟨there, said', stands⟩ | ⟨silent, _⟩
    · rw [stands, one message sent there said']
    · exact absurd said (silent other)

end Markers

/-! ## What the server tells -/

def fixed (tracking : Tracking K) (code : String) (place : K × K) : Prop :=
  ∃ bus fix, tracking.liveBuses.lookup code = some bus ∧ bus.recent.latest = some fix ∧
    place = (fix.lat, fix.lng)

def stands (tracking : Tracking K) (code : String) (place : K × K) : Prop :=
  ∃ bus fix, tracking.liveBuses.lookup code = some bus ∧ bus.visible = true ∧
    bus.recent.latest = some fix ∧ place = (fix.lat, fix.lng)

section Standing
variable {tracking after : Tracking K} {code : String} {place : K × K}

theorem stands_fixed (standing : stands tracking code place) : fixed tracking code place := by
  obtain ⟨bus, fix, found, _, latest, same⟩ := standing
  exact ⟨bus, fix, found, latest, same⟩

theorem stands_on_map (standing : stands tracking code place) : onMap tracking code := by
  obtain ⟨bus, fix, found, visible, latest, _⟩ := standing
  exact ⟨bus, found, visible, by rw [latest]; rfl⟩

theorem stands_one {other : K × K} (standing : stands tracking code place)
    (standing' : stands tracking code other) : other = place := by
  obtain ⟨bus, fix, found, _, latest, rfl⟩ := standing
  obtain ⟨bus', fix', found', _, latest', rfl⟩ := standing'
  rw [found, Option.some_inj] at found'
  subst found'
  rw [latest, Option.some_inj] at latest'
  rw [latest']

theorem same_stands (same : after.liveBuses = tracking.liveBuses) :
    stands after code place ↔ stands tracking code place := by
  unfold stands
  rw [same]

theorem same_fixed (same : after.liveBuses = tracking.liveBuses) :
    fixed after code place ↔ fixed tracking code place := by
  unfold fixed
  rw [same]

end Standing

/-- A step of the server names places of buses on the map only, where they then are,
and new fixes are `found`, new places on the map `moved`. -/
structure Speaks (before after : Tracking K) (sends : Sends K) (found : String → K × K → Prop)
    (moved : String → Prop) : Prop where
  said : ∀ send ∈ sends, ∀ code place, puts send.2 code place → stands after code place
  origin : ∀ code place, fixed after code place → fixed before code place ∨ found code place
  kept : ∀ code place, stands after code place → stands before code place ∨ moved code

section Handlers
variable [Field K] [LinearOrder K] [FloorRing K] {geo : GeoDistance K} {db : Database K}
  {tracking after : Tracking K} {now : Int} {id : String}

def pings (tracking : Tracking K) (id : String) (code : String) (place : K × K) :
    Incoming K → Prop
  | .driverLocation coords _ _ => coords = some place ∧ driverBus tracking id = some code ∧
      isValidLatitude place.1 = true ∧ isValidLongitude place.2 = true
  | _ => False

/-- The bus is at a new place for riders: a fix of a visible bus, or one that is shown
after it was hidden. -/
def moves (tracking : Tracking K) (now : Int) (id : String) (code : String) : Incoming K → Prop
  | .driverLocation (some (lat, lng)) accuracy visible =>
      ∃ bus, locatedBus tracking now id lat lng accuracy visible = some bus ∧
        bus.busCode = code ∧ bus.visible = true
  | .driverVisibility visible => visible ≠ some false ∧
      ∃ session bus, getSession tracking id = some session ∧ session.role ≠ .USER ∧
        tracking.liveBuses.lookup code = some bus ∧ bus.driverId = session.clientId ∧
        bus.visible = false
  | _ => False

theorem snapshot_stands (geo : GeoDistance K) (tracking : Tracking K) (code : String)
    (place : K × K) : (∃ bus ∈ snapshotVisibleBuses geo tracking, bus.busId = code ∧
      bus.coords = some place) ↔ stands tracking code place := by
  simp only [snapshotVisibleBuses, List.mem_map, List.mem_filter, mem_values]
  constructor
  · rintro ⟨_, ⟨bus, ⟨⟨⟨key, found⟩, visible⟩, _⟩, rfl⟩, named, coords⟩
    obtain ⟨fix, latest, rfl⟩ := Option.map_eq_some_iff.mp coords
    have same : key = code := (tracking.busKeys key bus found).symm.trans named
    exact ⟨bus, fix, same ▸ found, visible, latest, rfl⟩
  · rintro ⟨bus, fix, found, visible, latest, rfl⟩
    refine ⟨_, ⟨bus, ⟨⟨⟨code, found⟩, visible⟩, ?_⟩, rfl⟩, tracking.busKeys code bus found, ?_⟩
    · rw [latest]
      rfl
    · simp only [toDto, latest, Option.map_some]

theorem snapshot_puts {code : String} {place : K × K}
    (said : puts (.activeBuses (snapshotVisibleBuses geo tracking)) code place) :
    stands tracking code place := by
  obtain ⟨bus, handled, told⟩ := said
  refine (snapshot_stands geo tracking code place).mp ⟨bus, ?_, told⟩
  exact (List.takeWhile_sublist _).mem handled

theorem puts_snapshot (geo : GeoDistance K)
    (plain : ∀ other, onMap tracking other → inherited other = false) {code : String}
    {place : K × K} (standing : stands tracking code place) :
    puts (.activeBuses (snapshotVisibleBuses geo tracking)) code place := by
  rw [puts, snapshot_placed geo plain]
  exact (snapshot_stands geo tracking code place).mpr standing

omit [Field K] [LinearOrder K] [FloorRing K] in
theorem quiet_speaks {sends : Sends K} {found : String → K × K → Prop} {moved : String → Prop}
    (same : after.liveBuses = tracking.liveBuses)
    (said : ∀ send ∈ sends, ∀ code place, puts send.2 code place → stands after code place) :
    Speaks tracking after sends found moved where
  said := said
  origin := fun _ _ fix => Or.inl ((same_fixed same).mp fix)
  kept := fun _ _ standing => Or.inl ((same_stands same).mp standing)

omit [Field K] [LinearOrder K] [FloorRing K] in
theorem kept_speaks {sends : Sends K} {found : String → K × K → Prop} {moved : String → Prop}
    (same : ∀ code bus, after.liveBuses.lookup code = some bus → bus.recent.latest.isSome →
      ∃ old, tracking.liveBuses.lookup code = some old ∧ old.recent = bus.recent ∧
        old.visible = bus.visible)
    (said : ∀ send ∈ sends, ∀ code place, puts send.2 code place → stands after code place) :
    Speaks tracking after sends found moved where
  said := said
  origin := by
    rintro code place ⟨bus, fix, live, latest, there⟩
    obtain ⟨old, found, recent, _⟩ := same code bus live (by rw [latest]; rfl)
    exact Or.inl ⟨old, fix, found, by rw [recent, latest], there⟩
  kept := by
    rintro code place ⟨bus, fix, live, visible, latest, there⟩
    obtain ⟨old, found, recent, shows⟩ := same code bus live (by rw [latest]; rfl)
    exact Or.inl ⟨old, fix, found, by rw [shows, visible], by rw [recent, latest], there⟩

omit [Field K] [LinearOrder K] [FloorRing K] in
theorem register_buses (token : Option Claims) {code : String} {bus : LiveBusState K}
    (live : (handleDriverRegister db tracking now id token).1.liveBuses.lookup code = some bus)
    (fix : bus.recent.latest.isSome) : tracking.liveBuses.lookup code = some bus := by
  unfold handleDriverRegister at live
  split at live
  · exact live
  · split at live
    · exact live
    · simp only [registerDriver, put_bus_lookup, put_session_buses] at live
      split at live
      · rw [← Option.some.inj live] at fix
        simp [newLiveBus, Buffer.empty, Buffer.latest] at fix
      · exact live

section Located
variable {lat lng : K} {accuracy : Option K} {visible : Option Bool} {bus : LiveBusState K}
  (located : locatedBus tracking now id lat lng accuracy visible = some bus)
include located

omit [FloorRing K] in
theorem located_latest : bus.recent.latest = some ⟨lat, lng, now⟩ := by
  obtain ⟨_, session, _, same⟩ := located_bus_spec located
  rw [same]
  exact latest_push _ _

omit [FloorRing K] in
theorem located_range : isValidLatitude lat = true ∧ isValidLongitude lng = true := by
  obtain ⟨session, _, located⟩ := Option.bind_eq_some_iff.mp located
  obtain ⟨busCode, _, located⟩ := Option.bind_eq_some_iff.mp located
  split at located
  · rename_i valid
    exact Bool.and_eq_true_iff.mp valid
  · cases located

omit [FloorRing K] in
theorem located_fixed {code : String} {place : K × K}
    (fix : fixed (updateDriverLocation tracking now id lat lng accuracy visible) code place) :
    fixed tracking code place ∨
      pings tracking id code place (.driverLocation (some (lat, lng)) accuracy visible) := by
  obtain ⟨seen, last, found, latest, rfl⟩ := fix
  rw [located_lookup located] at found
  split at found
  · rename_i same
    obtain rfl := Option.some.inj found
    rw [located_latest located, Option.some_inj] at latest
    subst latest
    exact Or.inr ⟨rfl, same ▸ (located_bus_spec located).1, located_range located⟩
  · exact Or.inl ⟨seen, last, found, latest, rfl⟩

omit [FloorRing K] in
theorem located_stands {code : String} {place : K × K}
    (standing : stands (updateDriverLocation tracking now id lat lng accuracy visible) code place) :
    stands tracking code place ∨
      moves tracking now id code (.driverLocation (some (lat, lng)) accuracy visible) := by
  obtain ⟨seen, last, found, shows, latest, there⟩ := standing
  rw [located_lookup located] at found
  split at found
  · rename_i same
    obtain rfl := Option.some.inj found
    exact Or.inr ⟨bus, located, same.symm, shows⟩
  · exact Or.inl ⟨seen, last, found, shows, latest, there⟩

end Located

theorem location_speaks (coords : Option (K × K)) (accuracy : Option K) (visible : Option Bool) :
    Speaks tracking (handleDriverLocation tracking now id geo coords accuracy visible).1
      (handleDriverLocation tracking now id geo coords accuracy visible).2
      (fun code place => pings tracking id code place (.driverLocation coords accuracy visible))
      (fun code => moves tracking now id code (.driverLocation coords accuracy visible)) := by
  cases coords with
  | none => exact quiet_speaks rfl (by simp [handleDriverLocation])
  | some coords =>
      obtain ⟨lat, lng⟩ := coords
      simp only [handleDriverLocation]
      cases located : locatedBus tracking now id lat lng accuracy visible with
      | none => exact quiet_speaks rfl (by simp [puts])
      | some bus =>
          constructor
          case origin => exact fun code place fix => located_fixed located fix
          case kept => exact fun code place standing => located_stands located standing
          case said =>
            intro send sent code place said
            rcases List.mem_cons.mp sent with rfl | told
            · exact said.elim
            · split at told
              · rename_i shows
                rcases List.mem_append.mp told with riders | drivers
                · obtain ⟨_, _, rfl⟩ := List.mem_map.mp riders
                  obtain ⟨⟨named, coords⟩, _⟩ := said
                  obtain ⟨fix, latest, same⟩ := Option.map_eq_some_iff.mp coords
                  refine ⟨bus, fix, ?_, shows, latest, same.symm⟩
                  rw [located_lookup located, if_pos]
                  exact named.symm
                · obtain ⟨_, _, rfl⟩ := List.mem_map.mp drivers
                  exact said.elim
              · cases told

theorem occupancy_buses (level : String) {code : String} {bus : LiveBusState K}
    (live : (handleDriverOccupancy tracking now id geo level).1.liveBuses.lookup code = some bus) :
    ∃ old, tracking.liveBuses.lookup code = some old ∧ old.recent = bus.recent ∧
      old.visible = bus.visible := by
  unfold handleDriverOccupancy at live
  split at live
  · exact ⟨bus, live, rfl, rfl⟩
  · split at live
    · exact ⟨bus, live, rfl, rfl⟩
    · rename_i occupancy _ taken crowded
      obtain ⟨_, old, found, same⟩ := crowded_bus_spec crowded
      simp only [setOccupancy, crowded, change_session_buses, put_bus_lookup] at live
      split at live
      · rename_i here
        obtain rfl := Option.some.inj live
        exact ⟨old, here ▸ found, by rw [same], by rw [same]⟩
      · exact ⟨bus, live, rfl, rfl⟩

omit [FloorRing K] in
theorem visibility_speaks {found : String → K × K → Prop} (visible : Option Bool) :
    Speaks tracking (handleDriverVisibility tracking id visible).1
      (handleDriverVisibility tracking id visible).2 found
      (fun code => moves tracking now id code (.driverVisibility visible)) := by
  unfold handleDriverVisibility
  split
  · exact quiet_speaks rfl (by simp)
  · rename_i session taken
    obtain ⟨registered, driver⟩ := Option.filter_eq_some_iff.mp taken
    have lookups : ∀ code bus, (setDriverVisibility tracking session.clientId
        (visible.getD true)).liveBuses.lookup code = some bus →
        ∃ old, tracking.liveBuses.lookup code = some old ∧ old.recent = bus.recent ∧
          (old.visible = bus.visible ∨
            old.driverId = session.clientId ∧ bus.visible = visible.getD true) := by
      intro code bus live
      rw [setDriverVisibility, lookup_mapValues] at live
      obtain ⟨old, found, same⟩ := Option.map_eq_some_iff.mp live
      refine ⟨old, found, ?_⟩
      split at same
      · rename_i own
        rw [← same]
        exact ⟨rfl, Or.inr ⟨own, rfl⟩⟩
      · rw [same]
        exact ⟨rfl, Or.inl rfl⟩
    constructor
    case said => simp
    case origin =>
      rintro code place ⟨bus, fix, live, latest, there⟩
      obtain ⟨old, found, recent, _⟩ := lookups code bus live
      exact Or.inl ⟨old, fix, found, by rw [recent, latest], there⟩
    case kept =>
      rintro code place ⟨bus, fix, live, shows, latest, there⟩
      obtain ⟨old, found, recent, kept | ⟨own, toggled⟩⟩ := lookups code bus live
      · exact Or.inl ⟨old, fix, found, by rw [kept, shows], by rw [recent, latest], there⟩
      · cases seen : old.visible with
        | true => exact Or.inl ⟨old, fix, found, seen, by rw [recent, latest], there⟩
        | false =>
            refine Or.inr ⟨?_, session, old, registered, by simpa using driver, found, own, seen⟩
            rintro rfl
            rw [toggled] at shows
            exact Bool.false_ne_true shows

theorem message_speaks (geo : GeoDistance K) (db : Database K) (tracking : Tracking K) (now : Int)
    (id : String) (message : Incoming K) :
    Speaks tracking (handleMessage db tracking now id geo message).1
      (handleMessage db tracking now id geo message).2
      (fun code place => pings tracking id code place message)
      (fun code => moves tracking now id code message) := by
  cases message with
  | driverRegister token =>
      refine kept_speaks ?_ ?_
      · exact fun code bus live fix => ⟨bus, register_buses token live fix, rfl, rfl⟩
      · exact fun send sent code place said =>
          absurd (puts_adds said) (register_silent token send sent code).1
  | driverLocation coords accuracy visible => exact location_speaks coords accuracy visible
  | driverOccupancy level =>
      refine kept_speaks (fun code bus live _ => occupancy_buses level live) ?_
      exact fun send sent code place said =>
        absurd (puts_adds said) (occupancy_silent level send sent code).1
  | driverVisibility visible => exact visibility_speaks visible
  | userRegister userId =>
      refine quiet_speaks rfl ?_
      intro send sent code place said
      simp only [handleMessage, handleUserRegister, List.mem_cons, List.not_mem_nil, or_false]
        at sent
      rcases sent with rfl | rfl
      · exact said.elim
      · exact snapshot_puts said
  | getActiveBuses =>
      refine quiet_speaks rfl ?_
      intro send sent code place said
      rw [List.mem_singleton.mp sent] at said
      exact snapshot_puts said
  | userLocation coords =>
      simp only [handleMessage, handleUserLocation]
      split
      · exact quiet_speaks rfl (by simp)
      · refine quiet_speaks ?_ (by simp)
        unfold updateUserLocation
        split <;> rfl
  | trackBus busId =>
      simp only [handleMessage, handleTrackBus]
      split
      · exact quiet_speaks rfl (by simp)
      · exact quiet_speaks rfl (by simp [puts])
  | getOtherDrivers => exact quiet_speaks rfl (by simp [handleMessage, handleGetOtherDrivers, puts])
  | subscribeRoute routeNumber =>
      exact quiet_speaks rfl (by simp [handleMessage, handleSubscribeRoute, puts])
  | ping => exact quiet_speaks rfl (by simp [handleMessage, handlePing, puts])
  | unknown type => exact quiet_speaks rfl (by simp [handleMessage, puts])

omit [Field K] [LinearOrder K] [FloorRing K] in
theorem departures_speaks (tracking : Tracking K) (gone : List String)
    (clients : List (ClientSession K)) :
    Speaks tracking (gone.foldl removeSession tracking)
      (clients.flatMap (announceDeparture (gone.foldl removeSession tracking))) (fun _ _ => False)
      (fun _ => False) := by
  refine kept_speaks ?_ ?_
  · intro code bus live _
    rw [remove_all_lookup] at live
    split at live
    · cases live
    · exact ⟨bus, live, rfl, rfl⟩
  · intro send sent code place said
    obtain ⟨client, _, announced⟩ := List.mem_flatMap.mp sent
    obtain ⟨_, _, _, _, rfl⟩ := departure_sent announced
    exact said.elim

theorem tick_speaks (geo : GeoDistance K) (tracking : Tracking K) (now : Int) :
    Speaks tracking (broadcastActiveBuses tracking now geo).1
      (broadcastActiveBuses tracking now geo).2 (fun _ _ => False) (fun _ => False) := by
  have same := tick_buses geo tracking now
  refine quiet_speaks same ?_
  intro send sent code place said
  rcases tick_news geo tracking now send sent with snapshot | ⟨alert, other⟩
  · rw [snapshot] at said
    exact (same_stands same).mpr (snapshot_puts said)
  · rw [other] at said
    exact said.elim

end Handlers

/-! ## Where places come from -/

section Origins
variable {world : World K} {code : String} {place : K × K}

/-- The page, what is on its way to it, or the server has the bus at this place. -/
def known (world : World K) (code : String) (place : K × K) : Prop :=
  world.page.busMarkers.lookup code = some place ∨
    (∃ message ∈ pending world, puts message code place) ∨ fixed world.tracking code place

theorem known_congr {other : World K} (knows : known other code place)
    (tracking : other.tracking = world.tracking)
    (markers : other.page.busMarkers = world.page.busMarkers)
    (queue : ∀ message ∈ pending other, message ∈ pending world) : known world code place := by
  rcases knows with marks | ⟨message, sent, said⟩ | fix
  · exact Or.inl (markers ▸ marks)
  · exact Or.inr (Or.inl ⟨message, queue message sent, said⟩)
  · exact Or.inr (Or.inr (tracking ▸ fix))

theorem apply_known {after : Tracking K} {sends : Sends K} {found : String → K × K → Prop}
    {moved : String → Prop} (knows : known (world.apply (after, sends)) code place)
    (speaks : Speaks world.tracking after sends found moved) :
    known world code place ∨ found code place := by
  have fixes : fixed after code place → known world code place ∨ found code place := by
    intro fix
    rcases speaks.origin code place fix with before | new
    · exact Or.inl (Or.inr (Or.inr before))
    · exact Or.inr new
  rcases knows with marks | ⟨message, sent, said⟩ | fix
  · exact Or.inl (Or.inl marks)
  · rw [pending_apply, List.mem_append] at sent
    rcases sent with before | news
    · exact Or.inl (Or.inr (Or.inl ⟨message, before, said⟩))
    · obtain ⟨id, sent⟩ := posted_sent news
      exact fixes (stands_fixed (speaks.said _ sent code place said))
  · exact fixes fix

theorem departures_known {gone : List String} {clients : List (ClientSession K)}
    (knows : known ((world.forget gone).apply (gone.foldl removeSession world.tracking,
      clients.flatMap (announceDeparture (gone.foldl removeSession world.tracking)))) code place) :
    known world code place := by
  have told := apply_known knows (departures_speaks (world.forget gone).tracking gone clients)
  refine known_congr (told.resolve_right id) rfl rfl ?_
  intro message sent
  rwa [pending_forget] at sent

theorem process_known {link : Link K} {message : Outgoing K} {rest : List (Outgoing K)}
    (linked : world.link = some link) (down : link.down = message :: rest)
    (knows : known { world with
      link := some { link with down := rest }
      page := { world.page with
        busMarkers := handleWebSocketMessage world.page.busMarkers message } } code place) :
    known world code place := by
  have queue : pending world = message :: rest := by
    rw [pending, linked]
    exact down
  rcases knows with marks | ⟨other, sent, said⟩ | fix
  · have handled : (settled handleWebSocketMessage world.page.busMarkers [message]).lookup code =
        some place := marks
    rcases settled_origin handled with before | ⟨other, sent, said⟩
    · exact Or.inl before
    · rw [List.mem_singleton.mp sent] at said
      exact Or.inr (Or.inl ⟨message, by simp [queue], said⟩)
  · exact Or.inr (Or.inl ⟨other, by rw [queue]; exact List.mem_cons_of_mem message sent, said⟩)
  · exact Or.inr (Or.inr fix)

variable [Field K] [LinearOrder K] [FloorRing K] {geo : GeoDistance K} {after : World K}
  {action : Action K}

def reports (world : World K) (code : String) (place : K × K) : Action K → Prop
  | .inbound _ _ id message => pings world.tracking id code place message
  | _ => False

theorem step_known (taken : step geo world action = some after) (knows : known after code place) :
    known world code place ∨ reports world code place action := by
  cases action with
  | inbound db now id message =>
      rw [(inbound_spec taken).2] at knows
      exact apply_known knows (message_speaks geo db world.tracking now id message)
  | receive db now =>
      obtain ⟨link, request, rest, synced, linked, _, _, same, _⟩ := receive_spec taken
      rw [same] at knows
      have speaks := message_speaks geo db world.tracking now link.session request.incoming
      have quiet : ¬ pings world.tracking link.session code place request.incoming := by
        cases request <;> exact id
      have handled : known (World.apply { world with link := some { link with up := rest } }
          (handleMessage db world.tracking now link.session geo request.incoming)) code place :=
        known_congr knows rfl rfl (fun _ sent => sent)
      refine Or.inl (known_congr ((apply_known handled speaks).resolve_right quiet) rfl rfl ?_)
      intro message sent
      simpa only [pending, linked] using sent
  | close id =>
      rw [← Option.some.inj taken, cleanup_eq] at knows
      exact Or.inl (departures_known knows)
  | tick now =>
      rw [← Option.some.inj taken] at knows
      have told : known (world.apply (broadcastActiveBuses world.tracking now geo)) code place :=
        known_congr knows rfl rfl (fun _ sent => sent)
      exact Or.inl ((apply_known told (tick_speaks geo world.tracking now)).resolve_right id)
  | sweep now =>
      rw [← Option.some.inj taken] at knows
      exact Or.inl (departures_known knows)
  | connect session userId =>
      obtain ⟨unlinked, _, same⟩ := connect_spec taken
      rw [same] at knows
      refine Or.inl (known_congr knows rfl rfl ?_)
      intro message sent
      simp [pending, connect] at sent
  | drop =>
      obtain ⟨link, linked, same⟩ := Option.map_eq_some_iff.mp taken
      rw [← same] at knows
      refine Or.inl (known_congr knows rfl rfl ?_)
      intro message sent
      simp [pending] at sent
  | process =>
      obtain ⟨link, message, rest, linked, down, same⟩ := process_spec taken
      rw [same] at knows
      exact Or.inl (process_known linked down knows)
  | locate | loadBusRoutes | trackBus | selectBusRoute | clearRouteSelection =>
      obtain ⟨tracking, markers, queue, _⟩ := page_step taken trivial
      exact Or.inl (known_congr knows tracking markers (fun _ sent => queue ▸ sent))

def registers (id code : String) : Action K → Prop
  | .inbound _ now sender (.driverRegister token) =>
      sender = id ∧ ∃ driverId, driverToken now token = some (driverId, code)
  | _ => False

omit [FloorRing K] in
theorem settle_drives {tracking : Tracking K} {now : Int} {id : String} {call : Option (Call K)}
    (quiet : ∀ asked, call = some asked → registersDriver asked = false)
    (drives : driverBus (settle tracking now geo call) id = some code) :
    driverBus tracking id = some code := by
  cases asked : call with
  | none =>
      rw [asked] at drives
      exact drives
  | some call =>
      rw [asked] at drives
      obtain ⟨session, found, role⟩ := driver_role drives
      obtain ⟨old, before, same, _⟩ := driver_back (quiet call asked) found role
      rw [driver_bus_role before, same]
      rfl

omit [Field K] [LinearOrder K] [FloorRing K] in
theorem unregistered_call {db : Database K} {tracking : Tracking K} {now : Int} {sender : String}
    {message : Incoming K} {call : Call K} (other : ∀ token, message ≠ .driverRegister token)
    (made : messageCall tracking now db sender message = some call) :
    registersDriver call = false := by
  cases message with
  | driverRegister token => exact absurd rfl (other token)
  | userRegister userId =>
      cases made
      rfl
  | _ =>
      rcases message_call_cases rfl made with
        leaves | ⟨_, _, _, _, rfl⟩ | ⟨_, rfl⟩ | ⟨_, _, _, _, rfl⟩
      · cases call <;> first | rfl | cases leaves
      · rfl
      · rfl
      · rfl

theorem message_drives {db : Database K} {tracking : Tracking K} {now : Int} {id sender : String}
    {message : Incoming K}
    (drives : driverBus (handleMessage db tracking now sender geo message).1 id = some code) :
    driverBus tracking id = some code ∨ ∃ token driverId, message = .driverRegister token ∧
      sender = id ∧ driverToken now token = some (driverId, code) := by
  rw [handle_message_call] at drives
  cases message with
  | driverRegister token =>
      rw [messageCall] at drives
      cases granted : driverToken now token with
      | none =>
          rw [granted] at drives
          exact Or.inl drives
      | some driver =>
          obtain ⟨driverId, busCode⟩ := driver
          simp only [granted, Option.map_some, settle, perform, driverBus,
            get_registered_driver] at drives
          split at drives
          · rename_i same
            obtain rfl := Option.some.inj drives
            exact Or.inr ⟨token, driverId, rfl, same.symm, granted⟩
          · exact Or.inl drives
  | _ =>
      refine Or.inl (settle_drives (fun _ => unregistered_call ?_) drives)
      intro token same
      cases same

theorem step_drives {id : String} (taken : step geo world action = some after)
    (drives : driverBus after.tracking id = some code) :
    driverBus world.tracking id = some code ∨ registers id code action := by
  -- What the server does on its own registers no driver.
  have served : ∀ now event, (∀ call, eventCall world.tracking now event = some call →
      registersDriver call = false) →
      driverBus (serve world.tracking now geo event) id = some code →
        driverBus world.tracking id = some code := by
    intro now event quiet drives
    rw [serve_eq] at drives
    exact settle_drives quiet drives
  cases action with
  | inbound db now sender message =>
      rw [(inbound_spec taken).2] at drives
      rcases message_drives drives with before | ⟨token, driverId, rfl, same, granted⟩
      · exact Or.inl before
      · exact Or.inr ⟨same, driverId, granted⟩
  | receive db now =>
      obtain ⟨link, request, rest, synced, _, _, _, same, _⟩ := receive_spec taken
      rw [same] at drives
      rcases message_drives drives with before | ⟨token, _, registers, _⟩
      · exact Or.inl before
      · cases request <;> cases registers
  | close sender =>
      rw [← Option.some.inj taken] at drives
      refine Or.inl (served 0 (.closed sender) ?_ drives)
      intro call made
      cases made
      rfl
  | tick now =>
      rw [← Option.some.inj taken] at drives
      refine Or.inl (served now .broadcastActiveBuses ?_ drives)
      intro call made
      simp only [eventCall] at made
      split at made <;> cases made
      rfl
  | sweep now =>
      rw [← Option.some.inj taken] at drives
      refine Or.inl (served now (.evictStaleSessions STALE_SESSION_TIMEOUT_MS) ?_ drives)
      intro call made
      cases made
      rfl
  | connect session userId =>
      rw [(connect_spec taken).2.2] at drives
      exact Or.inl drives
  | drop =>
      obtain ⟨link, linked, same⟩ := Option.map_eq_some_iff.mp taken
      rw [← same] at drives
      exact Or.inl drives
  | process =>
      obtain ⟨link, message, rest, linked, down, same⟩ := process_spec taken
      rw [same] at drives
      exact Or.inl drives
  | locate | loadBusRoutes | trackBus | selectBusRoute | clearRouteSelection =>
      rw [(page_step taken trivial).1] at drives
      exact Or.inl drives

/-- A marker stands only where a driver of the bus has reported it, from a session that
had registered for the bus with a token that was still good. -/
theorem markers_reported {actions : List (Action K)}
    (run : Run (fires (step geo)) World.start actions world)
    (marks : world.page.busMarkers.lookup code = some place) :
    ∃ before db now id accuracy visible later middle, actions = before ++
        .inbound db now id (.driverLocation (some place) accuracy visible) :: later ∧
      Run (fires (step geo)) World.start before middle ∧
      driverBus middle.tracking id = some code ∧
      isValidLatitude place.1 = true ∧ isValidLongitude place.2 = true ∧
      ∃ db' now' token driverId, .inbound db' now' id (.driverRegister token) ∈ before ∧
        driverToken now' token = some (driverId, code) := by
  have bare : ¬ known (World.start : World K) code place := by
    rintro (marks | ⟨message, sent, _⟩ | ⟨bus, fix, found, _⟩)
    · cases marks
    · cases sent
    · cases found
  rcases run_origin (fun world => known world code place) (fun world => reports world code place)
    (fun _ _ _ taken => step_known taken) run (Or.inl marks) with
    start | ⟨before, action, later, middle, rfl, led, reported⟩
  · exact absurd start bare
  · cases action with
    | inbound db now id message =>
        cases message with
        | driverLocation coords accuracy visible =>
            obtain ⟨rfl, drives, latitude, longitude⟩ := reported
            refine ⟨before, db, now, id, accuracy, visible, later, middle, rfl, led, drives,
              latitude, longitude, ?_⟩
            rcases run_origin (fun world => driverBus world.tracking id = some code)
              (fun _ => registers id code) (fun _ _ _ taken => step_drives taken) led drives with
              start | ⟨earlier, action, _, _, rfl, _, registered⟩
            · cases start
            · cases action with
              | inbound db' now' sender message =>
                  cases message with
                  | driverRegister token =>
                      obtain ⟨rfl, driverId, granted⟩ := registered
                      exact ⟨db', now', token, driverId, by simp, granted⟩
                  | _ => exact registered.elim
              | _ => exact registered.elim
        | _ => exact reported.elim
    | _ => exact reported.elim

end Origins

/-! ## Where places go -/

section Following
variable {world : World K} {code : String}

/-- Once the page has handled what is on its way, the marker of the bus stands at the
latest fix, if riders are to see the bus. -/
def current (world : World K) (code : String) : Prop :=
  ∀ place, stands world.tracking code place →
    (settled handleWebSocketMessage world.page.busMarkers (pending world)).lookup code = some place

theorem current_congr (was : current world code) {other : World K}
    (tracking : other.tracking = world.tracking)
    (markers : other.page.busMarkers = world.page.busMarkers)
    (queue : pending other = pending world) : current other code := by
  intro place standing
  rw [markers, queue]
  exact was place (tracking ▸ standing)

section Applying
variable {after : Tracking K} {sends : Sends K} {found : String → K × K → Prop}
  {moved lost : String → Prop}

theorem apply_place (speaks : Speaks world.tracking after sends found moved)
    (tells : Tells world.tracking after sends lost) {place : K × K}
    (standing : stands after code place)
    (told : (settled handleWebSocketMessage world.page.busMarkers (pending world)).lookup code =
        some place ∨ ∃ message ∈ posted world sends, ∃ other, puts message code other) :
    (settled handleWebSocketMessage (world.apply (after, sends)).page.busMarkers
      (pending (world.apply (after, sends)))).lookup code = some place := by
  rw [pending_apply, settled_append]
  refine settled_there ?_ ?_ told
  · intro message sent other said
    obtain ⟨id, sent⟩ := posted_sent sent
    exact stands_one standing (speaks.said _ sent code other said)
  · intro message sent away
    obtain ⟨id, sent⟩ := posted_sent sent
    exact tells.removed _ sent code away (stands_on_map standing)

theorem apply_current (was : current world code)
    (speaks : Speaks world.tracking after sends found moved)
    (tells : Tells world.tracking after sends lost)
    (told : moved code → ∃ message ∈ posted world sends, ∃ other, puts message code other) :
    current (world.apply (after, sends)) code := by
  intro place standing
  apply apply_place speaks tells standing
  rcases speaks.kept code place standing with before | new
  · exact Or.inl (was place before)
  · exact Or.inr (told new)

theorem apply_synced (speaks : Speaks world.tracking after sends found moved)
    (tells : Tells world.tracking after sends lost)
    (snapshot : ∀ place, stands after code place →
      ∃ message ∈ posted world sends, puts message code place) :
    current (world.apply (after, sends)) code := by
  intro place standing
  obtain ⟨message, sent, said⟩ := snapshot place standing
  exact apply_place speaks tells standing (Or.inr ⟨message, sent, place, said⟩)

end Applying

def reaches (world : World K) (routeNumber : Option Int) : Prop :=
  ∃ link rider, world.link = some link ∧ link.served = true ∧
    getSession world.tracking link.session = some rider ∧ rider.role = .USER ∧
    wantsRoute rider routeNumber = true

variable [Field K] [LinearOrder K] [FloorRing K] {geo : GeoDistance K} {after : World K}
  {action : Action K}

/-- The rider is told of the new place of the bus: its fix reaches the rider, the bus is
not shown after it was hidden, and no socket drops with a message in it. -/
def followed (code : String) (world : World K) : Action K → Prop
  | .inbound _ now id (.driverLocation (some (lat, lng)) accuracy visible) =>
      ∀ bus, locatedBus world.tracking now id lat lng accuracy visible = some bus →
        bus.busCode = code → bus.visible = true → reaches world bus.routeNumber
  | .inbound _ now id (.driverVisibility visible) =>
      ¬ moves world.tracking now id code (.driverVisibility visible)
  | .drop => pending world = []
  | _ => True

theorem location_posted (db : Database K) {now : Int} {id : String} {lat lng : K}
    {accuracy : Option K} {visible : Option Bool} {bus : LiveBusState K}
    (other : world.link.map (·.session) ≠ some id)
    (located : locatedBus world.tracking now id lat lng accuracy visible = some bus)
    (shows : bus.visible = true) (wanted : reaches world bus.routeNumber) :
    .busLocationUpdate (toDto geo bus) ∈ posted world (handleMessage db world.tracking now id geo
      (.driverLocation (some (lat, lng)) accuracy visible)).2 := by
  obtain ⟨link, rider, linked, served, found, role, wants⟩ := wanted
  have named := world.tracking.sessionKeys link.session rider found
  have apart : link.session ≠ id := by
    rintro rfl
    exact other (by rw [linked]; rfl)
  have stays : rider ∈ userSessions
      (updateDriverLocation world.tracking now id lat lng accuracy visible) := by
    rw [user_session_iff, named]
    refine ⟨?_, role⟩
    simp only [updateDriverLocation, located, get_put_bus, get_change_session, if_neg apart, found]
  refine mem_posted.mpr ⟨link, linked, served, ?_⟩
  simp only [handleMessage, handleDriverLocation, located]
  rw [if_pos (show (toDto geo bus).visible = true from shows)]
  refine List.mem_cons_of_mem _ (List.mem_append_left _ ?_)
  exact List.mem_map.mpr ⟨rider, List.mem_filter.mpr ⟨stays, wants⟩, by rw [named]⟩

theorem message_current {db : Database K} {now : Int} {id : String} {message : Incoming K}
    (plain : inherited code = false) (was : current world code)
    (other : world.link.map (·.session) ≠ some id)
    (heard : followed code world (.inbound db now id message)) :
    current (world.apply (handleMessage db world.tracking now id geo message)) code := by
  refine apply_current was (message_speaks geo db world.tracking now id message)
    (message_tells geo db world.tracking now id message) ?_
  intro moved
  cases message with
  | driverLocation coords accuracy visible =>
      cases coords with
      | none => exact moved.elim
      | some coords =>
          obtain ⟨bus, located, named, shows⟩ := moved
          refine ⟨_, location_posted db other located shows (heard bus located named shows),
            (coords.1, coords.2), ⟨named, ?_⟩, ?_⟩
          · simp only [toDto, located_latest located, Option.map_some]
          · rw [show (toDto geo bus).busId = code from named, plain]
  | driverVisibility visible => exact absurd moved heard
  | _ => exact moved.elim

omit [Field K] [LinearOrder K] [FloorRing K] in
theorem departures_current (was : current world code) {gone : List String}
    {clients : List (ClientSession K)}
    (registered : ∀ client ∈ clients, client.sessionId ∈ gone ∧
      getSession world.tracking client.sessionId = some client) :
    current ((world.forget gone).apply (gone.foldl removeSession world.tracking,
      clients.flatMap (announceDeparture (gone.foldl removeSession world.tracking)))) code := by
  have was' : current (world.forget gone) code := current_congr was rfl rfl (pending_forget gone)
  exact apply_current was' (departures_speaks (world.forget gone).tracking gone clients)
    (departures_tells registered) False.elim

theorem request_current {db : Database K} {now : Int} {link : Link K} {request : Request K}
    {rest : List (Request K)} (linked : world.link = some link) (was : current world code) :
    current (World.apply { world with link := some { link with up := rest } }
      (handleMessage db world.tracking now link.session geo request.incoming)) code := by
  have taken : current { world with link := some { link with up := rest } } code := by
    refine current_congr was rfl rfl ?_
    simp only [pending, linked]
  refine apply_current taken
    (message_speaks geo db world.tracking now link.session request.incoming)
    (request_tells geo db world.tracking now link.session request) ?_
  intro moved
  cases request <;> exact moved.elim

theorem step_current (plain : inherited code = false) (was : current world code)
    (taken : step geo world action = some after) (heard : followed code world action) :
    current after code := by
  cases action with
  | inbound db now id message =>
      rw [(inbound_spec taken).2]
      exact message_current plain was (inbound_spec taken).1 heard
  | receive db now =>
      obtain ⟨link, request, rest, synced, linked, _, _, same, _⟩ := receive_spec taken
      rw [same]
      exact current_congr (request_current linked was) rfl rfl rfl
  | close id =>
      rw [← Option.some.inj taken, cleanup_eq]
      exact departures_current was (cleanup_registered world.tracking id)
  | tick now =>
      rw [← Option.some.inj taken]
      have told : current (world.apply (broadcastActiveBuses world.tracking now geo)) code :=
        apply_current was (tick_speaks geo world.tracking now) (tick_tells geo world.tracking now)
          False.elim
      exact current_congr told rfl rfl rfl
  | sweep now =>
      rw [← Option.some.inj taken]
      exact departures_current was (stale_registered world.tracking now)
  | connect session userId =>
      obtain ⟨unlinked, _, same⟩ := connect_spec taken
      rw [same]
      refine current_congr was rfl rfl ?_
      simp only [pending, connect, unlinked]
  | drop =>
      obtain ⟨link, linked, same⟩ := Option.map_eq_some_iff.mp taken
      rw [← same]
      exact current_congr was rfl rfl heard.symm
  | process =>
      obtain ⟨link, message, rest, linked, down, same⟩ := process_spec taken
      rw [same]
      intro place standing
      have settles := was place standing
      simp only [pending, linked, down, settled_cons] at settles
      exact settles
  | locate | loadBusRoutes | trackBus | selectBusRoute | clearRouteSelection =>
      obtain ⟨tracking, markers, queue, _⟩ := page_step taken trivial
      exact current_congr was tracking markers queue

variable (code) in
theorem snapshot_current (taken : step geo world action = some after)
    (sent : snapshots world action) (read : snapshotsRead world action) : current after code := by
  cases action with
  | tick now =>
      rw [← Option.some.inj taken]
      have same := tick_buses geo world.tracking now
      have told : current (world.apply (broadcastActiveBuses world.tracking now geo)) code := by
        refine apply_synced (tick_speaks geo world.tracking now)
          (tick_tells geo world.tracking now) ?_
        intro place standing
        have before := (same_stands same).mp standing
        exact ⟨_, tick_posts now sent (stands_on_map before),
          puts_snapshot geo (read sent) before⟩
      exact current_congr told rfl rfl rfl
  | receive db now =>
      obtain ⟨link, request, rest, synced, linked, up, served, same, _⟩ := receive_spec taken
      obtain ⟨link', userId, rest', linked', up'⟩ := id sent
      rw [linked, Option.some_inj] at linked'
      subst linked'
      rw [up] at up'
      obtain ⟨rfl, rfl⟩ := List.cons.inj up'
      rw [same]
      have speaks := message_speaks geo db world.tracking now link.session
        (Request.userRegister userId : Request K).incoming
      have told : current (World.apply { world with link := some { link with up := rest } }
          (handleMessage db world.tracking now link.session geo
            (Request.userRegister userId : Request K).incoming)) code := by
        refine apply_synced speaks
          (request_tells geo db world.tracking now link.session (.userRegister userId)) ?_
        intro place standing
        refine ⟨.activeBuses (snapshotVisibleBuses geo
          (registerUser world.tracking now link.session userId)), ?_, ?_⟩
        · exact @registration_posts K _ _ _ geo world db now link served userId rest
        · exact puts_snapshot geo (read ⟨link, userId, rest, linked, up⟩) standing
      exact current_congr told rfl rfl rfl
  | _ => exact sent.elim

/-- From a snapshot on that the page reads to its end, and as long as the rider is told of
each new place of the bus, its marker stands at the latest fix of the bus. -/
theorem markers_follow {before : World K} {actions : List (Action K)}
    (plain : inherited code = false) (taken : step geo before action = some world)
    (sent : snapshots before action) (read : snapshotsRead before action)
    (run : Run (guarded (followed code) (fires (step geo))) world actions after) :
    current after code :=
  run_invariant (fun world => current world code)
    (fun _ _ _ taken was => step_current plain was taken.2 taken.1) run
    (snapshot_current code taken sent read)

end Following

/-! ## One driver -/

theorem road_reported : ∃ world : World ℚ, world.page.busMarkers.lookup "bus-1" = some (1, 2) ∧
    ∃ before db now id accuracy visible later middle, onTheRoad = before ++
        .inbound db now id (.driverLocation (some (1, 2)) accuracy visible) :: later ∧
      Run (fires (step taxicab)) World.start before middle ∧
      driverBus middle.tracking id = some "bus-1" ∧
      isValidLatitude (1 : ℚ) = true ∧ isValidLongitude (2 : ℚ) = true ∧
      ∃ db' now' token driverId, .inbound db' now' id (.driverRegister token) ∈ before ∧
        driverToken now' token = some (driverId, "bus-1") := by
  have run : ∃ world, Run (fires (step (taxicab : GeoDistance ℚ))) World.start onTheRoad world ∧
      world.page.busMarkers.lookup "bus-1" = some (1, 2) :=
    ⟨_, exec_run _ _ _ _ rfl, rfl⟩
  obtain ⟨world, taken, marks⟩ := run
  exact ⟨world, marks, markers_reported taken marks⟩

def onTheWay : World ℚ := (exec (step taxicab) World.start (onTheRoad.take 3)).getD World.start

theorem road_followed : ∃ world after : World ℚ,
    step taxicab onTheWay (.receive Database.empty 2) = some world ∧
    snapshots onTheWay (.receive Database.empty 2) ∧
    snapshotsRead onTheWay (.receive Database.empty 2) ∧
    Run (guarded (followed "bus-1") (fires (step taxicab))) world
      [.inbound Database.empty 3 "s1" (.driverLocation (some (3, 4)) none none)] after ∧
    current after "bus-1" := by
  have registers : snapshots onTheWay (.receive Database.empty 2) := ⟨_, _, _, rfl, rfl⟩
  have read : snapshotsRead onTheWay (.receive Database.empty 2) := by
    apply read_of_mapped
    decide +kernel
  have run : ∃ world after : World ℚ,
      step taxicab onTheWay (.receive Database.empty 2) = some world ∧
      Run (guarded (followed "bus-1") (fires (step taxicab))) world
        [.inbound Database.empty 3 "s1" (.driverLocation (some (3, 4)) none none)] after := by
    refine ⟨_, _, rfl, Run.next ⟨?_, rfl⟩ (Run.refl _)⟩
    exact fun bus located named shows => ⟨_, _, rfl, rfl, rfl, rfl, rfl⟩
  obtain ⟨world, after, taken, run⟩ := run
  exact ⟨world, after, taken, registers, read, run,
    markers_follow (by decide) taken registers read run⟩

end CityBus.RiderPositions
