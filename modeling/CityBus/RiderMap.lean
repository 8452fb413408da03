import CityBus.RiderProtocol

/-!
Whether the rider's map agrees with the server. Markers come with snapshots and
location updates and go with `driver-left` only, so a bus has to leave the map by a
departure that the rider hears of. A snapshot is read up to the bus that no marker
can be kept for.
-/

namespace CityBus.RiderMap

open AuthService GeoUtils GuardedRuns KeyedMaps LiveTracking MessageQueues RingBuffers Store
  TrackingHandler RiderProtocol

variable {K : Type}

def onMap (tracking : Tracking K) (code : String) : Prop :=
  ∃ bus, tracking.liveBuses.lookup code = some bus ∧ bus.visible = true ∧
    bus.recent.latest.isSome

def marked (busMarkers : KeyedMap String (K × K)) (code : String) : Prop :=
  (busMarkers.lookup code).isSome

def pending (world : World K) : List (Outgoing K) :=
  match world.link with
  | none => []
  | some link => link.down

/-- The bus has a marker once the page has handled what is on its way. -/
def shown (world : World K) (code : String) : Prop :=
  marked (settled handleWebSocketMessage world.page.busMarkers (pending world)) code

def NoStale (world : World K) : Prop :=
  ∀ code, shown world code → onMap world.tracking code

def Complete (world : World K) : Prop :=
  world.synced = true → ∀ code, onMap world.tracking code → shown world code

/-! ## What a message does to the markers -/

/-- The buses that the loop over a snapshot comes to the end of. -/
def placed (buses : List (LiveBusDto K)) : List (LiveBusDto K) :=
  buses.takeWhile fun bus => !(bus.coords.isSome && inherited bus.busId)

def adds : Outgoing K → String → Prop
  | .activeBuses buses, code => ∃ bus ∈ placed buses, bus.coords.isSome ∧ bus.busId = code
  | .busLocationUpdate bus, code =>
      bus.coords.isSome ∧ bus.busId = code ∧ inherited bus.busId = false
  | _, _ => False

def removes : Outgoing K → String → Prop
  | .driverLeft _ busId, code => busId = code
  | _, _ => False

section Markers
variable (busMarkers : KeyedMap String (K × K)) (code : String)

theorem marked_insert (busId : String) (coords : K × K) :
    marked (busMarkers.insert busId coords) code ↔ busId = code ∨ marked busMarkers code := by
  unfold marked
  rw [lookup_insert_eq]
  by_cases same : code = busId
  · simp [same]
  · simp [same, Ne.symm same]

theorem marked_update (buses : List (LiveBusDto K)) :
    marked (updateBusLocations busMarkers buses) code ↔
      (∃ bus ∈ placed buses, bus.coords.isSome ∧ bus.busId = code) ∨ marked busMarkers code := by
  unfold placed
  induction buses generalizing busMarkers with
  | nil => simp [updateBusLocations]
  | cons bus rest ih =>
      rw [updateBusLocations]
      cases coords : bus.coords with
      | none => simp [ih, coords]
      | some place =>
          cases aborts : inherited bus.busId with
          | true => simp [coords, aborts]
          | false =>
              simp only [coords, aborts, ih, marked_insert, List.takeWhile_cons, Option.isSome_some,
                Bool.and_false, Bool.not_false, Bool.false_eq_true, if_false, if_true,
                List.mem_cons, exists_eq_or_imp]
              constructor
              · rintro (later | here | old)
                · exact Or.inl (Or.inr later)
                · exact Or.inl (Or.inl ⟨trivial, here⟩)
                · exact Or.inr old
              · rintro ((⟨_, here⟩ | later) | old)
                · exact Or.inr (Or.inl here)
                · exact Or.inl later
                · exact Or.inr (Or.inr old)

theorem marked_single (bus : LiveBusDto K) :
    marked (updateSingleBusLocation busMarkers bus) code ↔
      (bus.coords.isSome ∧ bus.busId = code ∧ inherited bus.busId = false) ∨
        marked busMarkers code := by
  unfold updateSingleBusLocation
  cases coords : bus.coords with
  | none => simp
  | some place =>
      cases aborts : inherited bus.busId with
      | true => simp
      | false =>
          by_cases present : (busMarkers.lookup bus.busId).isSome
          · simp [present, marked_insert]
          · simp [present, marked_update, placed, coords, aborts]

theorem marked_message (message : Outgoing K) :
    marked (handleWebSocketMessage busMarkers message) code ↔
      adds message code ∨ marked busMarkers code ∧ ¬ removes message code := by
  cases message with
  | activeBuses buses => simp [handleWebSocketMessage, marked_update, adds, removes]
  | busLocationUpdate bus => simp [handleWebSocketMessage, marked_single, adds, removes]
  | driverLeft driverId busId =>
      simp only [handleWebSocketMessage, removeBusMarker, marked, lookup_erase_eq, adds, removes]
      by_cases same : code = busId
      · simp [same]
      · simp [same, Ne.symm same]
  | _ => simp [handleWebSocketMessage, adds, removes]

variable {busMarkers code}

theorem adds_plain {message : Outgoing K} (added : adds message code) : inherited code = false := by
  cases message with
  | activeBuses buses =>
      obtain ⟨bus, handled, coords, rfl⟩ := added
      have passes := List.mem_takeWhile_imp handled
      simpa [coords] using passes
  | busLocationUpdate bus =>
      obtain ⟨_, rfl, plain⟩ := added
      exact plain
  | _ => exact added.elim

/-- A marker that is left was added by the queue, or was there and not removed. -/
theorem marked_settled {queue : List (Outgoing K)}
    (left : marked (settled handleWebSocketMessage busMarkers queue) code) :
    (∃ message ∈ queue, adds message code) ∨
      marked busMarkers code ∧ ∀ message ∈ queue, ¬ removes message code := by
  induction queue generalizing busMarkers with
  | nil => exact Or.inr ⟨left, by simp⟩
  | cons message rest ih =>
      rcases ih left with ⟨later, member, added⟩ | ⟨before, kept⟩
      · exact Or.inl ⟨later, List.mem_cons_of_mem message member, added⟩
      · rcases (marked_message busMarkers code message).mp before with added | ⟨old, stays⟩
        · exact Or.inl ⟨message, List.mem_cons_self .., added⟩
        · refine Or.inr ⟨old, ?_⟩
          intro other member
          rcases List.mem_cons.mp member with rfl | tail
          · exact stays
          · exact kept other tail

theorem settled_marked {queue : List (Outgoing K)} (kept : ∀ message ∈ queue, ¬ removes message code)
    (start : marked busMarkers code) :
    marked (settled handleWebSocketMessage busMarkers queue) code := by
  apply settled_keeps (fun markers => marked markers code) _ start
  intro message member before held
  exact (marked_message before code message).mpr (Or.inr ⟨held, kept message member⟩)

theorem settled_added {queue : List (Outgoing K)} (kept : ∀ message ∈ queue, ¬ removes message code)
    {message : Outgoing K} (sent : message ∈ queue) (added : adds message code) :
    marked (settled handleWebSocketMessage busMarkers queue) code := by
  apply settled_gains (fun markers => marked markers code) sent
  · intro before
    exact (marked_message before code message).mpr (Or.inl added)
  · intro other member before held
    exact (marked_message before code other).mpr (Or.inr ⟨held, kept other member⟩)

end Markers

/-! ## What the server tells -/

/-- A step of the server takes the buses `lost` off the map and sends snapshots and
updates of buses that are on the map and departures of buses that are not. -/
structure Tells (before after : Tracking K) (sends : Sends K) (lost : String → Prop) : Prop where
  kept : ∀ code, onMap before code → ¬ lost code → onMap after code
  gone : ∀ code, lost code → ¬ onMap after code
  added : ∀ send ∈ sends, ∀ code, adds send.2 code → onMap after code
  removed : ∀ send ∈ sends, ∀ code, removes send.2 code → ¬ onMap after code

def posted (world : World K) (sends : Sends K) : List (Outgoing K) :=
  match world.link with
  | none => []
  | some link =>
      if link.served then (sends.filter fun send => send.1 = link.session).map (·.2) else []

section Telling
variable {world : World K} {after : Tracking K} {sends : Sends K} {lost : String → Prop}

theorem pending_apply : pending (world.apply (after, sends)) = pending world ++ posted world sends := by
  unfold pending posted World.apply
  cases world.link with
  | none => rfl
  | some link =>
      simp only [Option.map_some, Link.post]
      split
      · rfl
      · simp

theorem mem_posted {message : Outgoing K} : message ∈ posted world sends ↔
    ∃ link, world.link = some link ∧ link.served = true ∧ (link.session, message) ∈ sends := by
  unfold posted
  cases world.link with
  | none => simp
  | some link =>
      by_cases served : link.served = true
      · simp only [served, if_true, List.mem_map, List.mem_filter, decide_eq_true_eq]
        constructor
        · rintro ⟨send, ⟨sent, addressed⟩, rfl⟩
          exact ⟨link, rfl, served, by rw [← addressed]; exact sent⟩
        · rintro ⟨other, same, _, sent⟩
          cases same
          exact ⟨(link.session, message), ⟨sent, rfl⟩, rfl⟩
      · simp [served]

theorem posted_sent {message : Outgoing K} (member : message ∈ posted world sends) :
    ∃ id, (id, message) ∈ sends := by
  obtain ⟨link, _, _, sent⟩ := mem_posted.mp member
  exact ⟨link.session, sent⟩

theorem shown_apply (code : String) : shown (world.apply (after, sends)) code ↔
    marked (settled handleWebSocketMessage
      (settled handleWebSocketMessage world.page.busMarkers (pending world))
      (posted world sends)) code := by
  unfold shown
  rw [pending_apply, settled_append]
  rfl

/-- A server step keeps stale markers out exactly if the rider hears of every bus
that it takes off the map under a marker. -/
theorem apply_no_stale (clean : NoStale world) (tells : Tells world.tracking after sends lost) :
    NoStale (world.apply (after, sends)) ↔
      ∀ code, shown world code → lost code → ∃ message ∈ posted world sends, removes message code := by
  constructor
  -- A marker that nothing takes away outlives its bus.
  · intro fresh code marks leaves
    by_contra silent
    apply tells.gone code leaves
    apply fresh code
    apply (shown_apply code).mpr
    apply settled_marked _ marks
    intro message member away
    exact silent ⟨message, member, away⟩
  · intro heard code marks
    rcases marked_settled ((shown_apply code).mp marks) with ⟨message, member, added⟩ | ⟨old, kept⟩
    · obtain ⟨id, sent⟩ := posted_sent member
      exact tells.added _ sent code added
    · by_cases leaves : lost code
      · obtain ⟨message, member, away⟩ := heard code old leaves
        exact absurd away (kept message member)
      · exact tells.kept code (clean code old) leaves

theorem mem_mapped (tracking : Tracking K) (code : String) :
    code ∈ mapped tracking ↔ onMap tracking code := by
  simp only [mapped, List.mem_map, List.mem_filter, mem_values]
  constructor
  · rintro ⟨bus, ⟨⟨⟨key, found⟩, visible⟩, fix⟩, rfl⟩
    rw [tracking.busKeys key bus found]
    exact ⟨bus, found, visible, fix⟩
  · rintro ⟨bus, found, visible, fix⟩
    exact ⟨bus, ⟨⟨⟨code, found⟩, visible⟩, fix⟩, tracking.busKeys code bus found⟩

theorem same_buses {before after : Tracking K} (same : sameBuses before after = true)
    (code : String) : onMap before code ↔ onMap after code := by
  simp only [sameBuses, Bool.and_eq_true, List.all_eq_true, decide_eq_true_eq, mem_mapped] at same
  exact ⟨same.1 code, same.2 code⟩

theorem apply_complete (complete : Complete world) (tells : Tells world.tracking after sends lost) :
    Complete (world.apply (after, sends)) := by
  intro synced code there
  simp only [World.apply, Bool.and_eq_true] at synced
  have before : onMap world.tracking code := (same_buses synced.2 code).mpr there
  apply (shown_apply code).mpr
  apply settled_marked _ (complete synced.1 code before)
  intro message member away
  obtain ⟨id, sent⟩ := posted_sent member
  exact tells.removed _ sent code away there

theorem apply_snapshot {snapshot : Outgoing K} (sent : snapshot ∈ posted world sends)
    (tells : Tells world.tracking after sends lost) (full : ∀ code, onMap after code → adds snapshot code)
    (code : String) (there : onMap after code) : shown (world.apply (after, sends)) code := by
  apply (shown_apply code).mpr
  apply settled_added _ sent (full code there)
  intro message member away
  obtain ⟨id, sent⟩ := posted_sent member
  exact tells.removed _ sent code away there

end Telling

/-! ## The handlers -/

section Handlers
variable [Field K] [LinearOrder K] [FloorRing K] {geo : GeoDistance K} {db : Database K}
  {tracking after : Tracking K} {now : Int} {id : String}

/-- The buses that a message takes off the map: a registration starts without a fix,
and a driver may hide its bus with a ping, or all its buses. -/
def hides (tracking : Tracking K) (now : Int) (id : String) (code : String) :
    Incoming K → Prop
  | .driverRegister token =>
      ∃ claims, (token.bind (parse now)).filter (fun claims => claims.role = "DRIVER") = some claims ∧
        claims.busCode = some code
  | .driverLocation (some (lat, lng)) accuracy (some false) =>
      ∃ bus, locatedBus tracking now id lat lng accuracy (some false) = some bus ∧
        bus.busCode = code
  | .driverVisibility (some false) =>
      ∃ session bus, getSession tracking id = some session ∧ session.role ≠ .USER ∧
        tracking.liveBuses.lookup code = some bus ∧ bus.driverId = session.clientId
  | _ => False

theorem snapshot_lists (geo : GeoDistance K) (tracking : Tracking K) (code : String) :
    (∃ bus ∈ snapshotVisibleBuses geo tracking, bus.coords.isSome ∧ bus.busId = code) ↔
      onMap tracking code := by
  rw [← mem_mapped]
  simp only [snapshotVisibleBuses, mapped, List.mem_map]
  constructor
  · rintro ⟨_, ⟨bus, seen, rfl⟩, _, rfl⟩
    exact ⟨bus, seen, rfl⟩
  · rintro ⟨bus, seen, rfl⟩
    refine ⟨_, ⟨bus, seen, rfl⟩, ?_, rfl⟩
    simpa [toDto] using (List.mem_filter.mp seen).2

theorem snapshot_adds {code : String}
    (added : adds (.activeBuses (snapshotVisibleBuses geo tracking)) code) :
    onMap tracking code := by
  obtain ⟨bus, handled, shows⟩ := added
  exact (snapshot_lists geo tracking code).mp ⟨bus, (List.takeWhile_sublist _).mem handled, shows⟩

theorem snapshot_placed (geo : GeoDistance K)
    (plain : ∀ code, onMap tracking code → inherited code = false) :
    placed (snapshotVisibleBuses geo tracking) = snapshotVisibleBuses geo tracking := by
  refine List.takeWhile_eq_self_iff.mpr fun bus listed => ?_
  cases coords : bus.coords.isSome with
  | false => rfl
  | true =>
      have shows := (snapshot_lists geo tracking bus.busId).mp ⟨bus, listed, coords, rfl⟩
      rw [plain bus.busId shows]
      rfl

theorem adds_snapshot (geo : GeoDistance K)
    (plain : ∀ code, onMap tracking code → inherited code = false) {code : String}
    (there : onMap tracking code) : adds (.activeBuses (snapshotVisibleBuses geo tracking)) code := by
  rw [adds, snapshot_placed geo plain]
  exact (snapshot_lists geo tracking code).mpr there

omit [Field K] [LinearOrder K] [FloorRing K] in
theorem same_on_map (same : after.liveBuses = tracking.liveBuses) (code : String) :
    onMap after code ↔ onMap tracking code := by
  unfold onMap
  rw [same]

omit [Field K] [LinearOrder K] [FloorRing K] in
theorem quiet_tells {sends : Sends K} (same : after.liveBuses = tracking.liveBuses)
    (added : ∀ send ∈ sends, ∀ code, adds send.2 code → onMap after code)
    (removed : ∀ send ∈ sends, ∀ code, ¬ removes send.2 code) :
    Tells tracking after sends (fun _ => False) where
  kept := fun code there _ => (same_on_map same code).mpr there
  gone := fun _ never => never.elim
  added := added
  removed := fun send sent code away => absurd away (removed send sent code)

def Silent (sends : Sends K) : Prop :=
  ∀ send ∈ sends, ∀ code, ¬ adds send.2 code ∧ ¬ removes send.2 code

omit [Field K] [LinearOrder K] [FloorRing K] in
theorem register_silent (token : Option Claims) :
    Silent (handleDriverRegister db tracking now id token).2 := by
  unfold handleDriverRegister
  split
  · simp [Silent, adds, removes]
  · split
    · simp [Silent, adds, removes]
    · intro send sent code
      rcases List.mem_cons.mp sent with rfl | told
      · exact ⟨fun never => never, fun never => never⟩
      · obtain ⟨_, _, rfl⟩ := List.mem_map.mp told
        exact ⟨fun never => never, fun never => never⟩

theorem occupancy_silent (level : String) :
    Silent (handleDriverOccupancy tracking now id geo level).2 := by
  unfold handleDriverOccupancy
  split
  · simp [Silent, adds, removes]
  · split
    · simp [Silent, adds, removes]
    · intro send sent code
      rcases List.mem_cons.mp sent with rfl | told
      · exact ⟨fun never => never, fun never => never⟩
      · split at told
        · obtain ⟨_, _, rfl⟩ := List.mem_map.mp told
          exact ⟨fun never => never, fun never => never⟩
        · cases told

theorem location_silent (coords : Option (K × K)) (accuracy : Option K) (visible : Option Bool) :
    ∀ send ∈ (handleDriverLocation tracking now id geo coords accuracy visible).2, ∀ code,
      ¬ removes send.2 code := by
  unfold handleDriverLocation
  split
  · simp
  · split
    · simp [removes]
    · intro send sent code away
      rcases List.mem_cons.mp sent with rfl | told
      · exact away
      · split at told
        · rcases List.mem_append.mp told with riders | drivers
          · obtain ⟨_, _, rfl⟩ := List.mem_map.mp riders
            exact away
          · obtain ⟨_, _, rfl⟩ := List.mem_map.mp drivers
            exact away
        · cases told

theorem message_keeps_markers (message : Incoming K) :
    ∀ send ∈ (handleMessage db tracking now id geo message).2, ∀ code, ¬ removes send.2 code := by
  cases message with
  | driverRegister token => exact fun send sent code => (register_silent token send sent code).2
  | driverLocation coords accuracy visible => exact location_silent coords accuracy visible
  | driverOccupancy level => exact fun send sent code => (occupancy_silent level send sent code).2
  | driverVisibility visible =>
      simp only [handleMessage, handleDriverVisibility]
      split
      · simp
      · simp
  | userLocation coords =>
      simp only [handleMessage, handleUserLocation]
      split
      · simp
      · simp
  | trackBus busId =>
      simp only [handleMessage, handleTrackBus]
      split
      · simp
      · simp [removes]
  | userRegister userId => simp [handleMessage, handleUserRegister, removes]
  | getActiveBuses => simp [handleMessage, removes]
  | getOtherDrivers => simp [handleMessage, handleGetOtherDrivers, removes]
  | subscribeRoute routeNumber => simp [handleMessage, handleSubscribeRoute, removes]
  | ping => simp [handleMessage, handlePing, removes]
  | unknown type => simp [handleMessage, removes]

omit [FloorRing K] in
theorem register_tells (token : Option Claims) :
    Tells tracking (handleDriverRegister db tracking now id token).1
      (handleDriverRegister db tracking now id token).2
      (fun code => hides tracking now id code (.driverRegister token)) := by
  refine ⟨?_, ?_, fun send sent code added => absurd added (register_silent token send sent code).1,
    fun send sent code away => absurd away (register_silent token send sent code).2⟩
  · rintro code ⟨seen, found, visible, fix⟩ stays
    refine ⟨seen, ?_, visible, fix⟩
    unfold handleDriverRegister
    cases granted : (token.bind (parse now)).filter fun claims => claims.role = "DRIVER" with
    | none => exact found
    | some claims =>
        cases bus : claims.busCode with
        | none =>
            simp only [bus]
            exact found
        | some busCode =>
            simp only [bus, registerDriver, put_bus_lookup, put_session_buses]
            rw [if_neg, found]
            rintro rfl
            exact stays ⟨claims, granted, bus⟩
  · rintro code ⟨claims, granted, bus⟩ ⟨seen, found, _, fix⟩
    simp only [handleDriverRegister, granted, bus, registerDriver, newLiveBus, put_bus_lookup,
      put_session_buses, if_true, Option.some.injEq] at found
    rw [← found] at fix
    simp [Buffer.empty, Buffer.latest] at fix

section Located
variable {lat lng : K} {accuracy : Option K} {visible : Option Bool} {bus : LiveBusState K}
  (located : locatedBus tracking now id lat lng accuracy visible = some bus)
include located

omit [FloorRing K] in
theorem located_lookup (code : String) :
    (updateDriverLocation tracking now id lat lng accuracy visible).liveBuses.lookup code =
      if code = bus.busCode then some bus else tracking.liveBuses.lookup code := by
  simp only [updateDriverLocation, located, put_bus_lookup, change_session_buses]

omit [FloorRing K] in
theorem located_fix : bus.recent.latest.isSome := by
  obtain ⟨_, session, _, fixed⟩ := located_bus_spec located
  rw [fixed]
  simp [LiveBusState.locate, latest_push]

omit [FloorRing K] in
theorem located_kept {code : String} (there : onMap tracking code)
    (stays : ¬ hides tracking now id code (.driverLocation (some (lat, lng)) accuracy visible)) :
    onMap (updateDriverLocation tracking now id lat lng accuracy visible) code := by
  obtain ⟨seen, found, shows, fix⟩ := there
  by_cases same : code = bus.busCode
  · subst same
    refine ⟨bus, by rw [located_lookup located, if_pos rfl], ?_, located_fix located⟩
    obtain ⟨_, session, _, fixed⟩ := located_bus_spec located
    have started : computeIfAbsent tracking now bus.busCode session.clientId = seen := by
      simp [computeIfAbsent, found]
    rw [fixed, started]
    rcases visible with _ | _ | _
    · simpa [LiveBusState.locate] using shows
    · exact absurd ⟨bus, located, rfl⟩ stays
    · rfl
  · exact ⟨seen, by rw [located_lookup located, if_neg same, found], shows, fix⟩

omit [FloorRing K] in
theorem located_hidden {code : String}
    (hidden : hides tracking now id code (.driverLocation (some (lat, lng)) accuracy visible)) :
    ¬ onMap (updateDriverLocation tracking now id lat lng accuracy visible) code := by
  rintro ⟨seen, found, shows, _⟩
  rcases visible with _ | _ | _
  · exact hidden
  · obtain ⟨other, taken, named⟩ := hidden
    obtain ⟨_, session, _, fixed⟩ := located_bus_spec located
    rw [located] at taken
    rw [located_lookup located, if_pos (by rw [← named, ← Option.some.inj taken])] at found
    rw [← Option.some.inj found, fixed] at shows
    simp [LiveBusState.locate] at shows
  · exact hidden

end Located

theorem location_tells (coords : Option (K × K)) (accuracy : Option K) (visible : Option Bool) :
    Tells tracking (handleDriverLocation tracking now id geo coords accuracy visible).1
      (handleDriverLocation tracking now id geo coords accuracy visible).2
      (fun code => hides tracking now id code (.driverLocation coords accuracy visible)) := by
  cases coords with
  | none =>
      refine ⟨fun _ there _ => there, fun _ hidden => ?_, ?_, ?_⟩
      · simp [hides] at hidden
      · simp [handleDriverLocation]
      · simp [handleDriverLocation]
  | some coords =>
      obtain ⟨lat, lng⟩ := coords
      have silent : ∀ send ∈ (handleDriverLocation tracking now id geo (some (lat, lng)) accuracy
          visible).2, ∀ code, ¬ removes send.2 code := location_silent _ _ _
      simp only [handleDriverLocation] at silent ⊢
      cases located : locatedBus tracking now id lat lng accuracy visible with
      | none =>
          refine ⟨fun _ there _ => there, fun code hidden => ?_, by simp [adds], by simp [removes]⟩
          rcases visible with _ | _ | _
          · simp [hides] at hidden
          · simp [hides, located] at hidden
          · simp [hides] at hidden
      | some bus =>
          constructor
          · exact fun code there stays => located_kept located there stays
          · exact fun code hidden => located_hidden located hidden
          · intro send sent code added
            rcases List.mem_cons.mp sent with rfl | told
            · exact added.elim
            · split at told
              · rename_i shows
                rcases List.mem_append.mp told with riders | drivers
                · obtain ⟨_, _, rfl⟩ := List.mem_map.mp riders
                  refine ⟨bus, ?_, shows, located_fix located⟩
                  rw [located_lookup located, if_pos]
                  exact added.2.1.symm
                · obtain ⟨_, _, rfl⟩ := List.mem_map.mp drivers
                  exact added.elim
              · cases told
          · rw [located] at silent
            exact fun send sent code away => absurd away (silent send sent code)

theorem occupancy_tells (level : String) :
    Tells tracking (handleDriverOccupancy tracking now id geo level).1
      (handleDriverOccupancy tracking now id geo level).2 (fun _ => False) := by
  refine ⟨?_, fun _ never => never.elim,
    fun send sent code added => absurd added (occupancy_silent level send sent code).1,
    fun send sent code away => absurd away (occupancy_silent level send sent code).2⟩
  rintro code ⟨seen, live, shows, fix⟩ _
  unfold handleDriverOccupancy
  cases valueOf level.toUpper with
  | none => exact ⟨seen, live, shows, fix⟩
  | some occupancy =>
      cases crowded : crowdedBus tracking id occupancy with
      | none =>
          simp only [crowded]
          exact ⟨seen, live, shows, fix⟩
      | some bus =>
          obtain ⟨_, old, found, same⟩ := crowded_bus_spec crowded
          simp only [onMap, crowded, setOccupancy, change_session_buses, put_bus_lookup]
          by_cases here : code = bus.busCode
          · rw [here, found] at live
            refine ⟨bus, if_pos here, ?_, ?_⟩
            · rw [same, Option.some.inj live]
              exact shows
            · rw [same, Option.some.inj live]
              exact fix
          · exact ⟨seen, by rw [if_neg here, live], shows, fix⟩

omit [Field K] [LinearOrder K] [FloorRing K] in
theorem quiet_lost {sends : Sends K} {lost : String → Prop}
    (tells : Tells tracking after sends (fun _ => False)) (never : ∀ code, ¬ lost code) :
    Tells tracking after sends lost where
  kept := fun code there _ => tells.kept code there id
  gone := fun code leaves => absurd leaves (never code)
  added := tells.added
  removed := tells.removed

omit [FloorRing K] in
theorem visibility_tells (visible : Option Bool) :
    Tells tracking (handleDriverVisibility tracking id visible).1
      (handleDriverVisibility tracking id visible).2
      (fun code => hides tracking now id code (.driverVisibility visible)) := by
  unfold handleDriverVisibility
  cases found : (getSession tracking id).filter fun session => session.role ≠ .USER with
  | none =>
      refine quiet_lost (quiet_tells rfl (by simp) (by simp)) ?_
      intro code hidden
      rcases visible with _ | _ | _
      · exact hidden
      · obtain ⟨session, _, registered, driver, _⟩ := hidden
        rw [registered, Option.filter_some, if_pos (by simpa using driver)] at found
        exact absurd found (Option.some_ne_none session)
      · exact hidden
  | some session =>
      obtain ⟨registered, driver⟩ := Option.filter_eq_some_iff.mp found
      have lookups : ∀ code, (setDriverVisibility tracking session.clientId
          (visible.getD true)).liveBuses.lookup code =
          (tracking.liveBuses.lookup code).map fun bus =>
            if bus.driverId = session.clientId then { bus with visible := visible.getD true }
            else bus := by
        intro code
        exact lookup_mapValues tracking.liveBuses code _
      refine ⟨?_, ?_, by simp, by simp⟩
      · rintro code ⟨bus, live, shows, fix⟩ stays
        by_cases own : bus.driverId = session.clientId
        · refine ⟨{ bus with visible := visible.getD true }, ?_, ?_, fix⟩
          · rw [lookups, live, Option.map_some, if_pos own]
          · rcases visible with _ | _ | _
            · rfl
            · exact absurd ⟨session, bus, registered, by simpa using driver, live, own⟩ stays
            · rfl
        · exact ⟨bus, by rw [lookups, live, Option.map_some, if_neg own], shows, fix⟩
      · rintro code hidden ⟨bus, live, shows, _⟩
        rcases visible with _ | _ | _
        · exact hidden
        · obtain ⟨other, old, same, _, before, own⟩ := hidden
          rw [registered] at same
          rw [lookups, before, Option.map_some, if_pos (by rw [own, Option.some.inj same])] at live
          rw [← Option.some.inj live] at shows
          exact absurd shows (by simp)
        · exact hidden

theorem unhidden_tells {message : Incoming K} (unhidden : ∀ code, ¬ hides tracking now id code message)
    (same : (handleMessage db tracking now id geo message).1.liveBuses = tracking.liveBuses)
    (added : ∀ send ∈ (handleMessage db tracking now id geo message).2, ∀ code,
      adds send.2 code → onMap (handleMessage db tracking now id geo message).1 code) :
    Tells tracking (handleMessage db tracking now id geo message).1
      (handleMessage db tracking now id geo message).2
      (fun code => hides tracking now id code message) :=
  quiet_lost (quiet_tells same added (message_keeps_markers message)) unhidden

theorem message_tells (geo : GeoDistance K) (db : Database K) (tracking : Tracking K) (now : Int)
    (id : String) (message : Incoming K) :
    Tells tracking (handleMessage db tracking now id geo message).1
      (handleMessage db tracking now id geo message).2
      (fun code => hides tracking now id code message) := by
  cases message with
  | driverRegister token => exact register_tells token
  | driverLocation coords accuracy visible => exact location_tells coords accuracy visible
  | driverOccupancy level => exact quiet_lost (occupancy_tells level) (fun _ never => never)
  | driverVisibility visible => exact visibility_tells visible
  | userRegister userId =>
      apply unhidden_tells
      · exact fun _ never => never
      · rfl
      · intro send sent code added
        simp only [handleMessage, handleUserRegister, List.mem_cons, List.not_mem_nil, or_false] at sent
        rcases sent with rfl | rfl
        · exact added.elim
        · exact snapshot_adds added
  | getActiveBuses =>
      apply unhidden_tells
      · exact fun _ never => never
      · rfl
      · intro send sent code added
        rw [List.mem_singleton.mp sent] at added
        exact snapshot_adds added
  | userLocation coords =>
      cases coords with
      | none =>
          apply unhidden_tells
          · exact fun _ never => never
          · rfl
          · simp [handleMessage, handleUserLocation]
      | some coords =>
          apply unhidden_tells
          · exact fun _ never => never
          · simp only [handleMessage, handleUserLocation, updateUserLocation]
            split
            · rfl
            · rfl
          · simp [handleMessage, handleUserLocation]
  | trackBus busId =>
      cases busId with
      | none =>
          apply unhidden_tells
          · exact fun _ never => never
          · rfl
          · simp [handleMessage, handleTrackBus]
      | some busCode =>
          apply unhidden_tells
          · exact fun _ never => never
          · rfl
          · simp [handleMessage, handleTrackBus, adds]
  | getOtherDrivers =>
      apply unhidden_tells
      · exact fun _ never => never
      · rfl
      · simp [handleMessage, handleGetOtherDrivers, adds]
  | subscribeRoute routeNumber =>
      apply unhidden_tells
      · exact fun _ never => never
      · rfl
      · simp [handleMessage, handleSubscribeRoute, adds]
  | ping =>
      apply unhidden_tells
      · exact fun _ never => never
      · rfl
      · simp [handleMessage, handlePing, adds]
  | unknown type =>
      apply unhidden_tells
      · exact fun _ never => never
      · rfl
      · simp [handleMessage, adds]

end Handlers

/-! ## Departures -/

section Departures
variable {tracking : Tracking K}

theorem user_session_iff (tracking : Tracking K) (session : ClientSession K) :
    session ∈ userSessions tracking ↔
      getSession tracking session.sessionId = some session ∧ session.role = .USER := by
  simp only [userSessions, List.mem_filter, decide_eq_true_eq, mem_values, getSession]
  constructor
  · rintro ⟨⟨id, found⟩, rider⟩
    rw [tracking.sessionKeys id session found]
    exact ⟨found, rider⟩
  · rintro ⟨found, rider⟩
    exact ⟨⟨_, found⟩, rider⟩

theorem hearing_iff (world : World K) : hearing world = true ↔
    ∃ link rider, world.link = some link ∧ link.served = true ∧
      getSession world.tracking link.session = some rider ∧ rider.role = .USER := by
  unfold hearing
  cases linked : world.link with
  | none => simp
  | some link =>
      simp only [Bool.and_eq_true, List.any_eq_true, decide_eq_true_eq, user_session_iff]
      constructor
      · rintro ⟨served, rider, ⟨found, role⟩, same⟩
        exact ⟨link, rider, rfl, served, same ▸ found, role⟩
      · rintro ⟨other, rider, same, served, found, role⟩
        cases same
        have named := world.tracking.sessionKeys link.session rider found
        exact ⟨served, rider, ⟨named.symm ▸ found, role⟩, named⟩

theorem departure_sent {client : ClientSession K} {send : String × Outgoing K}
    (sent : send ∈ announceDeparture tracking client) :
    ∃ busCode rider, client.role = .DRIVER busCode ∧ rider ∈ userSessions tracking ∧
      send = (rider.sessionId, .driverLeft client.clientId busCode) := by
  unfold announceDeparture at sent
  split at sent
  · cases sent
  · rename_i busCode role
    obtain ⟨rider, connected, same⟩ := List.mem_map.mp sent
    exact ⟨busCode, rider, role, connected, same.symm⟩

variable {gone : List String} {clients : List (ClientSession K)}

theorem departures_tells (registered : ∀ client ∈ clients, client.sessionId ∈ gone ∧
      getSession tracking client.sessionId = some client) :
    Tells tracking (gone.foldl removeSession tracking)
      (clients.flatMap (announceDeparture (gone.foldl removeSession tracking)))
      (fun code => ∃ id ∈ gone, driverBus tracking id = some code) := by
  have off : ∀ code, (∃ id ∈ gone, driverBus tracking id = some code) →
      ¬ onMap (gone.foldl removeSession tracking) code := by
    rintro code leaves ⟨bus, found, _⟩
    rw [remove_all_lookup, if_pos leaves] at found
    exact absurd found.symm (Option.some_ne_none bus)
  constructor
  · rintro code ⟨bus, found, visible, fix⟩ stays
    exact ⟨bus, by rw [remove_all_lookup, if_neg stays, found], visible, fix⟩
  · exact off
  · intro send sent code added
    obtain ⟨client, _, announced⟩ := List.mem_flatMap.mp sent
    obtain ⟨_, _, _, _, rfl⟩ := departure_sent announced
    exact added.elim
  · intro send sent code away
    obtain ⟨client, member, announced⟩ := List.mem_flatMap.mp sent
    obtain ⟨busCode, _, role, _, rfl⟩ := departure_sent announced
    obtain ⟨left, found⟩ := registered client member
    apply off code
    refine ⟨client.sessionId, left, ?_⟩
    rw [← show busCode = code from away]
    simp [driverBus, found, role, ClientRole.busCode]

/-- The rider hears of a departing driver exactly if it stays and is registered. -/
theorem departures_heard {world : World K}
    (announced : ∀ id ∈ gone, ∀ client, getSession world.tracking id = some client →
      client ∈ clients) {code : String}
    (leaves : ∃ id ∈ gone, driverBus world.tracking id = some code) :
    (∃ message ∈ posted (world.forget gone)
        (clients.flatMap (announceDeparture (gone.foldl removeSession world.tracking))),
      removes message code) ↔ hearing (world.forget gone) = true := by
  have staying : ∀ rider, rider ∈ userSessions (gone.foldl removeSession world.tracking) ↔
      rider.sessionId ∉ gone ∧ getSession world.tracking rider.sessionId = some rider ∧
        rider.role = .USER := by
    intro rider
    rw [user_session_iff, remove_all_sessions]
    by_cases left : rider.sessionId ∈ gone
    · simp [left]
    · simp [left]
  rw [hearing_iff]
  constructor
  · rintro ⟨message, member, _⟩
    obtain ⟨link, linked, served, sent⟩ := mem_posted.mp member
    obtain ⟨client, _, announced⟩ := List.mem_flatMap.mp sent
    obtain ⟨_, rider, _, connected, same⟩ := departure_sent announced
    obtain ⟨_, found, role⟩ := (staying rider).mp connected
    rw [← (Prod.mk.inj same).1] at found
    exact ⟨link, rider, linked, served, found, role⟩
  · rintro ⟨link, rider, linked, served, found, role⟩
    obtain ⟨id, member, drives⟩ := leaves
    obtain ⟨client, held, driver⟩ := driver_role drives
    have named := world.tracking.sessionKeys link.session rider found
    have stays : rider ∈ userSessions (gone.foldl removeSession world.tracking) := by
      rw [staying, named]
      exact ⟨(forget_link linked served).1, found, role⟩
    refine ⟨.driverLeft client.clientId code, mem_posted.mpr ⟨link, linked, served, ?_⟩, rfl⟩
    apply List.mem_flatMap.mpr
    refine ⟨client, announced id member client held, ?_⟩
    rw [← named]
    simp only [announceDeparture, driver]
    exact List.mem_map.mpr ⟨rider, stays, rfl⟩

def staleIds (tracking : Tracking K) (now : Int) : List String :=
  (staleSessions tracking now STALE_SESSION_TIMEOUT_MS).map (·.sessionId)

theorem stale_registered (tracking : Tracking K) (now : Int) :
    ∀ client ∈ staleSessions tracking now STALE_SESSION_TIMEOUT_MS,
      client.sessionId ∈ staleIds tracking now ∧
        getSession tracking client.sessionId = some client := by
  intro client member
  refine ⟨List.mem_map.mpr ⟨client, member, rfl⟩, ?_⟩
  obtain ⟨id, found⟩ := mem_values.mp (List.mem_filter.mp member).1
  rw [tracking.sessionKeys id client found]
  exact found

theorem stale_announced (tracking : Tracking K) (now : Int) :
    ∀ id ∈ staleIds tracking now, ∀ client, getSession tracking id = some client →
      client ∈ staleSessions tracking now STALE_SESSION_TIMEOUT_MS := by
  intro id member client found
  obtain ⟨stale, listed, same⟩ := List.mem_map.mp member
  have registered := (stale_registered tracking now stale listed).2
  rw [same, found] at registered
  rw [Option.some.inj registered]
  exact listed

theorem cleanup_registered (tracking : Tracking K) (id : String) :
    ∀ client ∈ (getSession tracking id).toList, client.sessionId ∈ [id] ∧
      getSession tracking client.sessionId = some client := by
  intro client member
  have found := Option.mem_toList.mp member
  rw [tracking.sessionKeys id client found]
  exact ⟨List.mem_singleton_self id, found⟩

end Departures

/-! ## Steps and runs -/

section Steps
variable [Field K] [LinearOrder K] [FloorRing K] {geo : GeoDistance K} {world after : World K}
  {action : Action K}

def takesOff (world : World K) (code : String) : Action K → Prop
  | .inbound _ now id message => hides world.tracking now id code message
  | .close id => ∃ gone ∈ [id], driverBus world.tracking gone = some code
  | .sweep now => ∃ gone ∈ staleIds world.tracking now, driverBus world.tracking gone = some code
  | _ => False

omit [Field K] [LinearOrder K] [FloorRing K] in
def announced (world : World K) : Action K → Bool
  | .close id => hearing (world.forget [id])
  | .sweep now => hearing (world.forget (staleIds world.tracking now))
  | _ => false

/-- A bus under a marker leaves the map by a departure that the rider hears of, and the
socket drops only when every marker is of a bus on the map. -/
def departuresHeard (world : World K) : Action K → Prop
  | .drop => ∀ code, marked world.page.busMarkers code → onMap world.tracking code
  | action => ∀ code, shown world code → takesOff world code action → announced world action = true

omit [Field K] [LinearOrder K] [FloorRing K] in
def snapshots (world : World K) : Action K → Prop
  | .tick _ => hearing world = true
  | .receive _ _ => ∃ link userId rest,
      world.link = some link ∧ link.up = .userRegister userId :: rest
  | _ => False

omit [Field K] [LinearOrder K] [FloorRing K] in
/-- The page reads every snapshot to its end. -/
def snapshotsRead (world : World K) (action : Action K) : Prop :=
  snapshots world action → ∀ code, onMap world.tracking code → inherited code = false

omit [Field K] [LinearOrder K] [FloorRing K] in
theorem read_of_mapped {action : Action K}
    (plain : ∀ code ∈ mapped world.tracking, inherited code = false) : snapshotsRead world action :=
  fun _ code there => plain code ((mem_mapped world.tracking code).mpr there)

omit [Field K] [LinearOrder K] [FloorRing K] in
theorem shown_process {link : Link K} {message : Outgoing K} {rest : List (Outgoing K)}
    (linked : world.link = some link) (down : link.down = message :: rest) (code : String) :
    shown { world with
      link := some { link with down := rest }
      page := { world.page with
        busMarkers := handleWebSocketMessage world.page.busMarkers message } } code ↔
      shown world code := by
  unfold shown pending
  rw [linked]
  simp only [down]
  rfl

omit [Field K] [LinearOrder K] [FloorRing K] in
theorem pending_send (requests : List (Request K)) : pending (world.send requests) = pending world := by
  unfold pending World.send
  cases world.link with
  | none => rfl
  | some link => rfl

omit [Field K] [LinearOrder K] [FloorRing K] in
theorem pending_forget (gone : List String) : pending (world.forget gone) = pending world := by
  unfold pending World.forget
  cases world.link with
  | none => rfl
  | some link => rfl

omit [Field K] [LinearOrder K] [FloorRing K] in
theorem shown_forget (gone : List String) (code : String) :
    shown (world.forget gone) code ↔ shown world code := by
  unfold shown
  rw [pending_forget]
  rfl

theorem tick_buses (geo : GeoDistance K) (tracking : Tracking K) (now : Int) :
    (broadcastActiveBuses tracking now geo).1.liveBuses = tracking.liveBuses := by
  simp only [broadcastActiveBuses]
  split
  · rfl
  · exact alerted_buses tracking geo now

theorem tick_news (geo : GeoDistance K) (tracking : Tracking K) (now : Int) :
    ∀ send ∈ (broadcastActiveBuses tracking now geo).2,
      send.2 = .activeBuses (snapshotVisibleBuses geo tracking) ∨
        ∃ alert, send.2 = (alertMessage alert).2 := by
  intro send sent
  simp only [broadcastActiveBuses] at sent
  split at sent
  · cases sent
  · rcases List.mem_append.mp sent with snapshots | alerts
    · split at snapshots
      · cases snapshots
      · obtain ⟨_, _, rfl⟩ := List.mem_map.mp snapshots
        exact Or.inl rfl
    · obtain ⟨alert, _, rfl⟩ := List.mem_map.mp alerts
      exact Or.inr ⟨alert, rfl⟩

theorem tick_tells (geo : GeoDistance K) (tracking : Tracking K) (now : Int) :
    Tells tracking (broadcastActiveBuses tracking now geo).1
      (broadcastActiveBuses tracking now geo).2 (fun _ => False) := by
  have same := tick_buses geo tracking now
  have news := tick_news geo tracking now
  apply quiet_tells same
  · intro send sent code added
    rcases news send sent with snapshot | ⟨alert, other⟩
    · rw [snapshot] at added
      exact (same_on_map same code).mpr (snapshot_adds added)
    · rw [other] at added
      exact added.elim
  · intro send sent code away
    rcases news send sent with snapshot | ⟨alert, other⟩
    · rw [snapshot] at away
      exact away
    · rw [other] at away
      exact away

/-- A tick sends a registered rider the snapshot, unless there is nothing to show. -/
theorem tick_posts (now : Int) (hears : hearing world = true) {code : String}
    (there : onMap world.tracking code) :
    .activeBuses (snapshotVisibleBuses geo world.tracking) ∈
      posted world (broadcastActiveBuses world.tracking now geo).2 := by
  obtain ⟨link, rider, linked, served, found, role⟩ := (hearing_iff world).mp hears
  have named := world.tracking.sessionKeys link.session rider found
  have connected : rider ∈ userSessions world.tracking :=
    (user_session_iff _ rider).mpr ⟨named.symm ▸ found, role⟩
  obtain ⟨dto, seen, _⟩ := (snapshot_lists geo world.tracking code).mpr there
  have full : (snapshotVisibleBuses geo world.tracking).isEmpty = false := by
    cases snapshot : snapshotVisibleBuses geo world.tracking with
    | nil =>
        rw [snapshot] at seen
        cases seen
    | cons => rfl
  have users : (userSessions world.tracking).isEmpty = false := by
    cases all : userSessions world.tracking with
    | nil =>
        rw [all] at connected
        cases connected
    | cons => rfl
  apply mem_posted.mpr
  refine ⟨link, linked, served, ?_⟩
  simp only [broadcastActiveBuses, users, full, Bool.false_eq_true, if_false]
  rw [← named]
  exact List.mem_append_left _ (List.mem_map.mpr ⟨rider, connected, rfl⟩)

omit [Field K] [LinearOrder K] [FloorRing K] in
theorem shown_congr {other : World K} (markers : other.page.busMarkers = world.page.busMarkers)
    (queue : pending other = pending world) (code : String) :
    shown other code ↔ shown world code := by
  unfold shown
  rw [markers, queue]

omit [Field K] [LinearOrder K] [FloorRing K] in
theorem no_stale_congr (clean : NoStale world) {other : World K}
    (tracking : other.tracking = world.tracking)
    (markers : other.page.busMarkers = world.page.busMarkers)
    (queue : pending other = pending world) : NoStale other := by
  intro code marks
  rw [tracking]
  exact clean code ((shown_congr markers queue code).mp marks)

theorem request_tells (geo : GeoDistance K) (db : Database K) (tracking : Tracking K) (now : Int)
    (id : String) (request : Request K) :
    Tells tracking (handleMessage db tracking now id geo request.incoming).1
      (handleMessage db tracking now id geo request.incoming).2 (fun _ => False) := by
  have tells := message_tells geo db tracking now id request.incoming
  cases request with
  | userRegister userId => exact tells
  | userLocation lat lng => exact tells
  | subscribeRoute routeNumber => exact tells
  | trackBus busId => exact tells

omit [Field K] [LinearOrder K] [FloorRing K] in
theorem select_page (world : World K) (routeId : Int) :
    (selectBusRoute world routeId).tracking = world.tracking ∧
      (selectBusRoute world routeId).page.busMarkers = world.page.busMarkers ∧
      pending (selectBusRoute world routeId) = pending world ∧
      (selectBusRoute world routeId).synced = world.synced := by
  unfold selectBusRoute showRoute clearRouteSelection subscribeToRoute
  split
  · exact ⟨rfl, rfl, by rw [pending_send]; exact pending_send _, rfl⟩
  · exact ⟨rfl, rfl, by rw [pending_send]; exact pending_send _, rfl⟩

omit [Field K] [LinearOrder K] [FloorRing K] in
theorem track_page (world : World K) (busId : String) (routeId : Int) :
    (RiderProtocol.trackBus world busId routeId).tracking = world.tracking ∧
      (RiderProtocol.trackBus world busId routeId).page.busMarkers = world.page.busMarkers ∧
      pending (RiderProtocol.trackBus world busId routeId) = pending world ∧
      (RiderProtocol.trackBus world busId routeId).synced = world.synced := by
  obtain ⟨tracking, markers, queue, synced⟩ := select_page world routeId
  unfold RiderProtocol.trackBus
  simp only
  split
  · exact ⟨tracking, markers, queue, synced⟩
  · exact ⟨tracking, markers, (pending_send _).trans queue, synced⟩

omit [Field K] [LinearOrder K] [FloorRing K] in
theorem departures_no_stale (clean : NoStale world) {gone : List String}
    {clients : List (ClientSession K)}
    (registered : ∀ client ∈ clients, client.sessionId ∈ gone ∧
      getSession world.tracking client.sessionId = some client)
    (told : ∀ id ∈ gone, ∀ client, getSession world.tracking id = some client →
      client ∈ clients) :
    NoStale ((world.forget gone).apply (gone.foldl removeSession world.tracking,
        clients.flatMap (announceDeparture (gone.foldl removeSession world.tracking)))) ↔
      ∀ code, shown world code → (∃ id ∈ gone, driverBus world.tracking id = some code) →
        hearing (world.forget gone) = true := by
  have clean' : NoStale (world.forget gone) :=
    fun code marks => clean code ((shown_forget gone code).mp marks)
  refine (apply_no_stale clean' (departures_tells registered)).trans ?_
  constructor
  · intro heard code marks leaves
    exact (departures_heard told leaves).mp (heard code ((shown_forget gone code).mpr marks) leaves)
  · intro hears code marks leaves
    exact (departures_heard told leaves).mpr
      (hears code ((shown_forget gone code).mp marks) leaves)

omit [Field K] [LinearOrder K] [FloorRing K] in
def onPage : Action K → Prop
  | .locate _ _ | .loadBusRoutes _ | .trackBus _ _ | .selectBusRoute _ | .clearRouteSelection => True
  | _ => False

/-- What the rider does on the page moves no marker and is no news of a bus. -/
theorem page_step (taken : step geo world action = some after) (rider : onPage action) :
    after.tracking = world.tracking ∧ after.page.busMarkers = world.page.busMarkers ∧
      pending after = pending world ∧ after.synced = world.synced := by
  cases action with
  | locate lat lng =>
      rw [← Option.some.inj taken]
      exact ⟨rfl, rfl, pending_send _, rfl⟩
  | loadBusRoutes routes =>
      rw [← Option.some.inj taken]
      exact ⟨rfl, rfl, rfl, rfl⟩
  | trackBus busId routeId =>
      rw [← Option.some.inj taken]
      exact track_page world busId routeId
  | selectBusRoute routeId =>
      rw [← Option.some.inj taken]
      exact select_page world routeId
  | clearRouteSelection =>
      rw [← Option.some.inj taken]
      exact ⟨rfl, rfl, pending_send _, rfl⟩
  | _ => exact rider.elim

/-- A step lets a marker go stale exactly if it takes its bus off the map unheard. -/
theorem step_no_stale (clean : NoStale world) (taken : step geo world action = some after) :
    NoStale after ↔ departuresHeard world action := by
  cases action with
  | inbound db now id message =>
      -- The rider never hears of a bus that a message hides.
      rw [(inbound_spec taken).2,
        apply_no_stale clean (message_tells geo db world.tracking now id message)]
      constructor
      · intro heard code marks hidden
        obtain ⟨told, member, away⟩ := heard code marks hidden
        obtain ⟨session, sent⟩ := posted_sent member
        exact absurd away (message_keeps_markers message _ sent code)
      · intro stays code marks hidden
        exact absurd (stays code marks hidden) Bool.false_ne_true
  | receive db now =>
      refine iff_of_true ?_ (fun _ _ never => never.elim)
      obtain ⟨link, request, rest, synced, linked, _, _, same, _⟩ := receive_spec taken
      have clean' : NoStale { world with link := some { link with up := rest } } := by
        refine no_stale_congr clean rfl rfl ?_
        simp only [pending, linked]
      rw [same]
      exact (apply_no_stale clean' (request_tells geo db world.tracking now link.session request)).mpr
        (fun _ _ never => never.elim)
  | close id =>
      rw [← Option.some.inj taken, cleanup_eq]
      apply departures_no_stale clean (cleanup_registered world.tracking id)
      · intro gone member client found
        rw [List.mem_singleton.mp member] at found
        exact Option.mem_toList.mpr found
  | tick now =>
      refine iff_of_true ?_ (fun _ _ never => never.elim)
      rw [← Option.some.inj taken]
      exact (apply_no_stale clean (tick_tells geo world.tracking now)).mpr
        (fun _ _ never => never.elim)
  | sweep now =>
      rw [← Option.some.inj taken]
      exact departures_no_stale clean (stale_registered world.tracking now)
        (stale_announced world.tracking now)
  | connect session userId =>
      refine iff_of_true ?_ (fun _ _ never => never.elim)
      obtain ⟨unlinked, _, same⟩ := connect_spec taken
      rw [same]
      refine no_stale_congr clean rfl rfl ?_
      simp only [pending, connect, unlinked]
  | drop =>
      obtain ⟨link, linked, same⟩ := Option.map_eq_some_iff.mp taken
      rw [← same]
      exact Iff.rfl
  | process =>
      refine iff_of_true ?_ (fun _ _ never => never.elim)
      obtain ⟨link, message, rest, linked, down, same⟩ := process_spec taken
      rw [same]
      intro code marks
      exact clean code ((shown_process linked down code).mp marks)
  | locate | loadBusRoutes | trackBus | selectBusRoute | clearRouteSelection =>
      refine iff_of_true ?_ (fun _ _ never => never.elim)
      obtain ⟨tracking, markers, queue, _⟩ := page_step taken trivial
      exact no_stale_congr clean tracking markers queue

omit [Field K] [LinearOrder K] [FloorRing K] in
theorem complete_congr (complete : Complete world) {other : World K}
    (tracking : other.tracking = world.tracking)
    (markers : other.page.busMarkers = world.page.busMarkers)
    (queue : pending other = pending world) (synced : other.synced = world.synced) :
    Complete other := by
  intro full code there
  rw [synced] at full
  rw [tracking] at there
  exact (shown_congr markers queue code).mpr (complete full code there)

theorem registration_posts {db : Database K} {now : Int} {link : Link K} (served : link.served = true)
    (userId : String) (rest : List (Request K)) :
    .activeBuses (snapshotVisibleBuses geo (registerUser world.tracking now link.session userId)) ∈
      posted { world with link := some { link with up := rest } }
        (handleMessage db world.tracking now link.session geo
          (Request.userRegister userId : Request K).incoming).2 := by
  apply mem_posted.mpr
  refine ⟨_, rfl, served, ?_⟩
  exact List.mem_cons_of_mem _ (List.mem_singleton_self _)

theorem tick_complete (complete : Complete world) (now : Int)
    (plain : hearing world = true → ∀ code, onMap world.tracking code → inherited code = false) :
    Complete { world.apply (broadcastActiveBuses world.tracking now geo) with
      synced := world.synced || hearing world } := by
  have tells := tick_tells geo world.tracking now
  have same := same_on_map (tick_buses geo world.tracking now)
  intro synced code there
  change shown (world.apply (broadcastActiveBuses world.tracking now geo)) code
  have before : onMap world.tracking code := (same code).mp there
  -- Without a rider to hear it, a tick is no snapshot.
  rcases Bool.or_eq_true_iff.mp synced with full | hears
  · apply (shown_apply code).mpr
    apply settled_marked _ (complete full code before)
    intro message member away
    obtain ⟨id, sent⟩ := posted_sent member
    exact tells.removed _ sent code away there
  · exact apply_snapshot (tick_posts now hears before) tells
      (fun code shows => adds_snapshot geo (plain hears) ((same code).mp shows)) code there

omit [Field K] [LinearOrder K] [FloorRing K] in
theorem departures_complete (complete : Complete world) {gone : List String}
    {clients : List (ClientSession K)}
    (registered : ∀ client ∈ clients, client.sessionId ∈ gone ∧
      getSession world.tracking client.sessionId = some client) :
    Complete ((world.forget gone).apply (gone.foldl removeSession world.tracking,
      clients.flatMap (announceDeparture (gone.foldl removeSession world.tracking)))) := by
  have complete' : Complete (world.forget gone) :=
    complete_congr complete rfl rfl (pending_forget gone) rfl
  exact apply_complete complete' (departures_tells registered)

/-- A synced page misses no bus as long as every snapshot is read to its end. -/
theorem step_complete (complete : Complete world) (taken : step geo world action = some after)
    (read : snapshotsRead world action) : Complete after := by
  cases action with
  | inbound db now id message =>
      rw [(inbound_spec taken).2]
      exact apply_complete complete (message_tells geo db world.tracking now id message)
  | receive db now =>
      obtain ⟨link, request, rest, synced, linked, up, served, same, kind⟩ := receive_spec taken
      have complete' : Complete { world with link := some { link with up := rest } } := by
        refine complete_congr complete rfl rfl ?_ rfl
        simp only [pending, linked]
      have tells := request_tells geo db world.tracking now link.session request
      rw [same]
      -- The reply to `user-register` is the other message that carries the whole map.
      rcases kind with kept | ⟨userId, registers⟩
      · rw [kept]
        exact apply_complete complete' tells
      · subst registers
        intro _ code there
        exact apply_snapshot (registration_posts served userId rest) tells
          (fun code shows => adds_snapshot geo (read ⟨link, userId, rest, linked, up⟩) shows)
          code there
  | close id =>
      rw [← Option.some.inj taken, cleanup_eq]
      exact departures_complete complete (cleanup_registered world.tracking id)
  | tick now =>
      rw [← Option.some.inj taken]
      exact tick_complete complete now read
  | sweep now =>
      rw [← Option.some.inj taken]
      exact departures_complete complete (stale_registered world.tracking now)
  | connect session userId =>
      rw [(connect_spec taken).2.2]
      intro synced
      cases synced
  | drop =>
      obtain ⟨link, linked, same⟩ := Option.map_eq_some_iff.mp taken
      rw [← same]
      intro synced
      cases synced
  | process =>
      obtain ⟨link, message, rest, linked, down, same⟩ := process_spec taken
      rw [same]
      intro synced code there
      exact (shown_process linked down code).mpr (complete synced code there)
  | locate | loadBusRoutes | trackBus | selectBusRoute | clearRouteSelection =>
      obtain ⟨tracking, markers, queue, synced⟩ := page_step taken trivial
      exact complete_congr complete tracking markers queue synced

omit [Field K] [LinearOrder K] [FloorRing K] in
theorem shown_plain (plain : ∀ code, marked world.page.busMarkers code → inherited code = false)
    {code : String} (shows : shown world code) : inherited code = false := by
  rcases marked_settled shows with ⟨message, _, added⟩ | ⟨marks, _⟩
  · exact adds_plain added
  · exact plain code marks

theorem step_plain (plain : ∀ code, marked world.page.busMarkers code → inherited code = false)
    (taken : step geo world action = some after) (code : String)
    (marks : marked after.page.busMarkers code) : inherited code = false := by
  cases action with
  | process =>
      obtain ⟨link, message, rest, _, _, same⟩ := process_spec taken
      rw [same] at marks
      rcases (marked_message _ code message).mp marks with added | ⟨old, _⟩
      · exact adds_plain added
      · exact plain code old
  | inbound db now id message =>
      rw [(inbound_spec taken).2] at marks
      exact plain code marks
  | receive db now =>
      obtain ⟨link, request, rest, synced, _, _, _, same, _⟩ := receive_spec taken
      rw [same] at marks
      exact plain code marks
  | connect session userId =>
      rw [(connect_spec taken).2.2] at marks
      exact plain code marks
  | drop =>
      obtain ⟨link, linked, same⟩ := Option.map_eq_some_iff.mp taken
      rw [← same] at marks
      exact plain code marks
  | locate | loadBusRoutes | trackBus | selectBusRoute | clearRouteSelection =>
      rw [(page_step taken trivial).2.1] at marks
      exact plain code marks
  | close | tick | sweep =>
      rw [← Option.some.inj taken] at marks
      exact plain code marks

theorem snapshot_syncs (taken : step geo world action = some after)
    (sent : snapshots world action) :
    after.synced = true ∧ ∀ code, onMap after.tracking code ↔ onMap world.tracking code := by
  cases action with
  | tick now =>
      rw [← Option.some.inj taken]
      refine ⟨?_, same_on_map (tick_buses geo world.tracking now)⟩
      rw [show hearing world = true from sent, Bool.or_true]
  | receive db now =>
      obtain ⟨link, userId, rest, linked, up⟩ := sent
      obtain ⟨link', linked', taken⟩ := Option.bind_eq_some_iff.mp taken
      rw [linked, Option.some_inj] at linked'
      subst linked'
      simp only [receive, up] at taken
      split at taken
      · rw [← Option.some.inj taken]
        exact ⟨rfl, fun _ => Iff.rfl⟩
      · cases taken
  | _ => exact sent.elim

/-- While every bus under a marker leaves the map by a departure that the rider hears
of and every snapshot is read to its end, a page that is synced and has handled every
message shows exactly the visible live buses with a fix. The next step keeps stale markers
out, and lets no bus be missed, exactly if it is of this kind. -/
theorem markers_converge {actions : List (Action K)}
    (run : Run (guarded (fun world action => departuresHeard world action ∧
      snapshotsRead world action) (fires (step geo))) World.start actions world) :
    (world.synced = true → pending world = [] → ∀ code,
        (marked world.page.busMarkers code ↔ onMap world.tracking code)) ∧
      ∀ action after, step geo world action = some after →
        (NoStale after ↔ departuresHeard world action) ∧
        (Complete after ↔ snapshotsRead world action) := by
  have kept : NoStale world ∧ Complete world ∧
      ∀ code, marked world.page.busMarkers code → inherited code = false := by
    refine run_invariant (fun world => NoStale world ∧ Complete world ∧
      ∀ code, marked world.page.busMarkers code → inherited code = false)
      (fun _ _ _ taken held => ?_) run ?_
    · exact ⟨(step_no_stale held.1 taken.2).mpr taken.1.1,
        step_complete held.2.1 taken.2 taken.1.2, step_plain held.2.2 taken.2⟩
    · refine ⟨?_, nofun, ?_⟩
      · intro code marks
        simp [shown, marked, pending, settled, World.start, Page.fresh] at marks
      · intro code marks
        simp [marked, World.start, Page.fresh] at marks
  obtain ⟨clean, complete, plain⟩ := kept
  refine ⟨?_, fun action after taken => ⟨step_no_stale clean taken, ?_, step_complete complete taken⟩⟩
  · intro synced settled code
    have shows : shown world code ↔ marked world.page.busMarkers code := by
      unfold shown
      rw [settled]
      rfl
    constructor
    · exact fun marks => clean code (shows.mpr marks)
    · exact fun there => shows.mp (complete synced code there)
  -- A bus that the page has no place for is on the map, and never shown.
  · intro full sent code there
    obtain ⟨synced, same⟩ := snapshot_syncs taken sent
    exact shown_plain (step_plain plain taken) (full synced code ((same code).mpr there))

end Steps

/-! ## One driver -/

def ashaToken : Claims := ⟨"asha", "DRIVER", "Asha", some "bus-1", 0, 1000⟩

def onTheRoad : List (Action ℚ) :=
  [.inbound Database.empty 0 "s1" (.driverRegister (some ashaToken)),
    .inbound Database.empty 1 "s1" (.driverLocation (some (1, 2)) none none),
    .connect "r1" "rider", .receive Database.empty 2, .process, .process]

theorem road_converges :
    ∃ world : World ℚ, world.synced = true ∧ pending world = [] ∧
      (world.synced = true → pending world = [] → ∀ code,
        (marked world.page.busMarkers code ↔ onMap world.tracking code)) ∧
      ∀ action after, step taxicab world action = some after →
        (NoStale after ↔ departuresHeard world action) ∧
        (Complete after ↔ snapshotsRead world action) := by
  have run : ∃ world, Run (guarded (fun world action => departuresHeard world action ∧
        snapshotsRead world action) (fires (step (taxicab : GeoDistance ℚ))))
      World.start onTheRoad world ∧ world.synced = true ∧ pending world = [] := by
    refine ⟨_, Run.next ⟨⟨?_, nofun⟩, rfl⟩ (Run.next ⟨⟨?_, nofun⟩, rfl⟩ (Run.next ⟨⟨?_, nofun⟩, rfl⟩
      (Run.next ⟨⟨?_, ?_⟩, rfl⟩ (Run.next ⟨⟨?_, nofun⟩, rfl⟩ (Run.next ⟨⟨?_, nofun⟩, rfl⟩
        (Run.refl _)))))), rfl, rfl⟩
    · intro code marks
      simp [shown, marked, pending, settled, World.start, Page.fresh] at marks
    case refine_5 =>
      -- The snapshot that the rider's registration asks for has the one bus.
      apply read_of_mapped
      decide +kernel
    all_goals exact fun _ _ never => never.elim
  obtain ⟨world, taken, synced, settled⟩ := run
  exact ⟨world, synced, settled, markers_converge taken⟩

def toriToken : Claims := ⟨"tori", "DRIVER", "Tori", some "constructor", 0, 1000⟩

/-- The driver hides the bus that is on the map; a driver leaves while the rider is
disconnected; and a bus has the code that `busMarkers` inherits. Each time the page has
handled a full snapshot since. -/
theorem off_map_bus_marked :
    (∃ world : World ℚ, Run (fires (step taxicab)) World.start
        (onTheRoad ++ [.inbound Database.empty 3 "s1" (.driverVisibility (some false)), .tick 4])
        world ∧ hearing world = true ∧ world.synced = true ∧ pending world = [] ∧
        marked world.page.busMarkers "bus-1" ∧ ¬ onMap world.tracking "bus-1") ∧
      (∃ world : World ℚ, Run (fires (step taxicab)) World.start
        (onTheRoad ++ [.drop, .close "s1", .connect "r2" "rider", .receive Database.empty 5,
          .process, .process])
        world ∧ hearing world = true ∧ world.synced = true ∧ pending world = [] ∧
        marked world.page.busMarkers "bus-1" ∧ ¬ onMap world.tracking "bus-1") ∧
      ∃ world : World ℚ, Run (fires (step taxicab)) World.start
        (onTheRoad ++ [.inbound Database.empty 3 "s2" (.driverRegister (some toriToken)),
          .inbound Database.empty 4 "s2" (.driverLocation (some (3, 4)) none none), .process,
          .process, .tick 5, .process])
        world ∧ hearing world = true ∧ world.synced = true ∧ pending world = [] ∧
        ¬ marked world.page.busMarkers "constructor" ∧ onMap world.tracking "constructor" := by
  refine ⟨?_, ?_, ?_⟩
  · refine ⟨_, exec_run _ _ _ _ rfl, rfl, rfl, rfl, rfl, ?_⟩
    rw [← mem_mapped]
    decide +kernel
  · refine ⟨_, exec_run _ _ _ _ rfl, rfl, rfl, rfl, rfl, ?_⟩
    rw [← mem_mapped]
    decide +kernel
  · refine ⟨_, exec_run _ _ _ _ rfl, rfl, rfl, rfl, ?_, ?_⟩
    · unfold marked
      decide +kernel
    rw [← mem_mapped]
    decide +kernel

end CityBus.RiderMap
