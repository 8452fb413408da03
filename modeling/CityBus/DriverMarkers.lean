import CityBus.DriverDashboard
import CityBus.RiderMap
import CityBus.RiderSubscription

/-!
Whether a dashboard forgets the drivers who left. `driver-left` is for riders, and a
dashboard is none: a marker stays until the dashboard hides the other drivers.
-/

namespace CityBus.DriverMarkers

open AuthService GeoUtils GuardedRuns KeyedMaps LiveTracking Store TrackingHandler DriverDashboard
open RiderSubscription (watch watch_congr watch_change_session watch_removed)

variable {K : Type}

def Marked (page : Page K) (driver : String) : Prop :=
  (page.otherDriverMarkers.lookup driver).isSome

def lists (page : Page K) : Outgoing K → String → Prop
  | .otherDrivers drivers, driver =>
      page.showOtherDrivers = true ∧ driver ≠ page.username ∧
        ∃ other ∈ drivers, other.coords.isSome ∧ other.driverId = driver
  | _, _ => False

def unmarks : Outgoing K → String → Prop
  | .driverLeft driverId _, driver => driverId = driver
  | _, _ => False

/-- No marker is of another driver who has departed. -/
def Forgotten (world : World K) : Prop :=
  ∀ driver ∈ world.departed, driver ≠ world.page.username → ¬ Marked world.page driver

/-- A dashboard that shows the other drivers and has handled every message has no
marker of a driver who has departed. -/
def Informed (world : World K) : Prop :=
  ∀ link, world.link = some link → link.down = [] → world.page.showOtherDrivers = true →
    ∀ driver ∈ world.departed, driver ≠ world.page.username →
      world.page.otherDriverMarkers.lookup driver = none

def leaves (world : World K) (driver : String) : Action K → Prop
  | .close id => driver ∈ lastSeenOff world.tracking (cleanup world.tracking id).1
  | .sweep now => driver ∈ lastSeenOff world.tracking (evictStale world.tracking now).1
  | _ => False

/-- Who leaves has no marker, and no list that the dashboard handles has a driver on it
who has departed. -/
def departuresUnmarked (world : World K) : Action K → Prop
  | .process => ∀ link message rest, world.link = some link → link.down = message :: rest →
      ∀ driver ∈ world.departed, ¬ lists world.page message driver
  | action => ∀ driver, leaves world driver action → driver ≠ world.page.username →
      ¬ Marked world.page driver

def handlesDeparture (world : World K) (driver : String) : Action K → Prop
  | .process => ∃ link busId rest, world.link = some link ∧
      link.down = .driverLeft driver busId :: rest
  | action => leaves world driver action

structure SparesOthers (driver : String) (before after : Page K) : Prop where
  markers : ∀ other, other ≠ driver →
    after.otherDriverMarkers.lookup other = before.otherDriverMarkers.lookup other
  list : after.otherDriversList.filter (·.driverId ≠ driver) =
    before.otherDriversList.filter (·.driverId ≠ driver)

/-! ## What a message does to the markers -/

section Markers
variable (page : Page K) (driver : String)

theorem marked_insert (markers : KeyedMap String (K × K)) (driverId : String) (coords : K × K) :
    ((markers.insert driverId coords).lookup driver).isSome ↔
      driverId = driver ∨ (markers.lookup driver).isSome := by
  rw [lookup_insert_eq]
  by_cases same : driver = driverId
  · simp [same]
  · simp [same, Ne.symm same]

theorem marked_update (drivers : List (LiveBusDto K)) :
    Marked (updateOtherDriversOnMap page drivers) driver ↔
      (driver ≠ page.username ∧ ∃ other ∈ drivers, other.coords.isSome ∧ other.driverId = driver) ∨
        Marked page driver := by
  unfold Marked updateOtherDriversOnMap
  generalize page.otherDriverMarkers = markers
  induction drivers generalizing markers with
  | nil => simp
  | cons other rest ih =>
      rw [List.foldl_cons, ih]
      simp only [List.mem_cons, exists_eq_or_imp]
      by_cases self : other.driverId = page.username
      · rw [if_pos self]
        have skipped : driver ≠ page.username → other.driverId ≠ driver := fun others same =>
          others (same.symm.trans self)
        constructor
        · rintro (⟨others, later⟩ | old)
          · exact Or.inl ⟨others, Or.inr later⟩
          · exact Or.inr old
        · rintro (⟨others, ⟨_, same⟩ | later⟩ | old)
          · exact absurd same (skipped others)
          · exact Or.inl ⟨others, later⟩
          · exact Or.inr old
      · rw [if_neg self]
        cases coords : other.coords with
        | none => simp
        | some place =>
            simp only [marked_insert, Option.isSome_some, true_and]
            constructor
            · rintro (⟨others, later⟩ | here | old)
              · exact Or.inl ⟨others, Or.inr later⟩
              · exact Or.inl ⟨here ▸ self, Or.inl here⟩
              · exact Or.inr old
            · rintro (⟨others, here | later⟩ | old)
              · exact Or.inr (Or.inl here)
              · exact Or.inl ⟨others, later⟩
              · exact Or.inr (Or.inr old)

theorem marked_single (other : LiveBusDto K) :
    Marked (updateSingleDriverLocation page other) driver ↔ Marked page driver := by
  unfold updateSingleDriverLocation
  split
  · rfl
  · split
    · rfl
    · split
      · rename_i present
        simp only [Marked, marked_insert]
        constructor
        · rintro (same | old)
          · rw [← same]
            exact present
          · exact old
        · exact Or.inr
      · rfl

theorem marked_message (message : Outgoing K) :
    Marked (handleWebSocketMessage page message) driver ↔
      lists page message driver ∨ Marked page driver ∧ ¬ unmarks message driver := by
  cases message with
  | otherDrivers drivers =>
      by_cases shows : page.showOtherDrivers = true
      · rw [handleWebSocketMessage, if_pos shows]
        exact (marked_update page driver drivers).trans (by simp [lists, unmarks, shows])
      · rw [handleWebSocketMessage, if_neg shows]
        simp [lists, unmarks, shows]
  | driverLocationUpdate other =>
      by_cases shows : page.showOtherDrivers = true
      · rw [handleWebSocketMessage, if_pos shows, marked_single]
        simp [lists, unmarks]
      · rw [handleWebSocketMessage, if_neg shows]
        simp [lists, unmarks]
  | driverLeft driverId busId =>
      simp only [handleWebSocketMessage, removeDriverMarker, lists, unmarks, false_or]
      split
      · simp only [Marked, updateOtherDriversList, lookup_erase_eq]
        by_cases same : driver = driverId
        · simp [same]
        · simp [same, Ne.symm same]
      · rename_i absent
        constructor
        · intro marks
          refine ⟨marks, fun same => absent ?_⟩
          rw [same]
          exact marks
        · exact And.left
  | _ => simp [handleWebSocketMessage, lists, unmarks]

theorem removal_spares_iff (busId : String) :
    SparesOthers driver page (handleWebSocketMessage page (.driverLeft driver busId)) ↔
      (Marked page driver → ∀ other ∈ page.otherDriversList, other.driverId = driver) := by
  simp only [handleWebSocketMessage, removeDriverMarker]
  split
  · rename_i present
    constructor
    · intro spares _ other member
      have gone := spares.list
      simp only [updateOtherDriversList, List.filter_nil] at gone
      by_contra different
      exact List.filter_eq_nil_iff.mp gone.symm other member (by simpa using different)
    · intro alone
      constructor
      · intro other different
        simp [updateOtherDriversList, different]
      · simp only [updateOtherDriversList, List.filter_nil]
        symm
        rw [List.filter_eq_nil_iff]
        intro other member
        simp [alone present other member]
  · rename_i absent
    exact iff_of_true ⟨fun _ _ => rfl, rfl⟩ fun marks => absurd marks absent

end Markers

/-! ## What the server tells a dashboard -/

/-- The dashboard's session is no rider's, and no departure is on its way to it. -/
def Apart (world : World K) : Prop :=
  ∀ link, world.link = some link →
    (link.served = true → watch world.tracking link.session = none) ∧
      ∀ message ∈ link.down, ∀ driver, ¬ unmarks message driver

section Audience
variable {world after : World K} {action : Action K}

theorem post_fields (link : Link K) (sends : Sends K) :
    (link.post sends).session = link.session ∧ (link.post sends).served = link.served := by
  unfold Link.post
  split
  · exact ⟨rfl, rfl⟩
  · exact ⟨rfl, rfl⟩

theorem post_down {link : Link K} {sends : Sends K} {message : Outgoing K}
    (member : message ∈ (link.post sends).down) :
    message ∈ link.down ∨ link.served = true ∧ (link.session, message) ∈ sends := by
  unfold Link.post at member
  split at member
  · rename_i served
    rcases List.mem_append.mp member with old | posted
    · exact Or.inl old
    · obtain ⟨send, sent, rfl⟩ := List.mem_map.mp posted
      obtain ⟨sent, addressed⟩ := List.mem_filter.mp sent
      exact Or.inr ⟨served, by rw [← of_decide_eq_true addressed]; exact sent⟩
  · exact Or.inl member

theorem apply_apart (apart : Apart world) {result : Tracking K × Sends K}
    (unwatched : ∀ link, world.link = some link → link.served = true →
      watch result.1 link.session = none)
    (silent : ∀ link, world.link = some link → link.served = true →
      ∀ message, (link.session, message) ∈ result.2 → ∀ driver, ¬ unmarks message driver) :
    Apart (world.apply result) := by
  intro link linked
  obtain ⟨old, before, same⟩ := Option.map_eq_some_iff.mp linked
  obtain ⟨session, served⟩ := post_fields old result.2
  rw [← same]
  constructor
  · intro holds
    rw [served] at holds
    rw [session]
    exact unwatched old before holds
  · intro message member
    rcases post_down member with waiting | ⟨served, sent⟩
    · exact (apart old before).2 message waiting
    · exact silent old before served message sent

theorem forget_apart (apart : Apart world) (gone : List String) : Apart (world.forget gone) := by
  intro link linked
  obtain ⟨old, before, same⟩ := Option.map_eq_some_iff.mp linked
  rw [← same]
  refine ⟨fun served => (apart old before).1 ?_, (apart old before).2⟩
  exact (Bool.and_eq_true_iff.mp served).1

theorem forget_stays {gone : List String} {link : Link K}
    (linked : (world.forget gone).link = some link) (served : link.served = true) :
    link.session ∉ gone := by
  obtain ⟨old, before, same⟩ := Option.map_eq_some_iff.mp linked
  rw [← same] at served
  have stays := (Bool.and_eq_true_iff.mp served).2
  rw [← same]
  simpa using stays

theorem leave_apart (apart : Apart world) (gone : List String)
    (clients : List (ClientSession K)) :
    Apart (world.leave gone (gone.foldl removeSession world.tracking,
      clients.flatMap (announceDeparture (gone.foldl removeSession world.tracking)))) := by
  have held := forget_apart apart gone
  have unwatched : ∀ link, (world.forget gone).link = some link → link.served = true →
      watch (gone.foldl removeSession world.tracking) link.session = none := by
    intro link linked served
    rw [watch_removed (forget_stays linked served)]
    exact (held link linked).1 served
  refine apply_apart held unwatched ?_
  intro link linked served message sent
  obtain ⟨client, _, announced⟩ := List.mem_flatMap.mp sent
  obtain ⟨_, rider, _, connected, same⟩ := RiderMap.departure_sent announced
  obtain ⟨found, role⟩ := (RiderMap.user_session_iff _ rider).mp connected
  have nobody := unwatched link linked served
  rw [(Prod.mk.inj same).1] at nobody
  simp [watch, found, role] at nobody

variable [Field K] [LinearOrder K] [FloorRing K] {geo : GeoDistance K}

omit [Field K] [LinearOrder K] [FloorRing K] in
theorem unmarks_removes {message : Outgoing K} {driver : String} (away : unmarks message driver) :
    ∃ code, RiderMap.removes message code := by
  cases message with
  | driverLeft driverId busId => exact ⟨busId, rfl⟩
  | _ => exact away.elim

theorem message_silent {db : Database K} {tracking : Tracking K} {now : Int} {id : String}
    {message : Incoming K} {send : String × Outgoing K}
    (sent : send ∈ (handleMessage db tracking now id geo message).2) (driver : String) :
    ¬ unmarks send.2 driver := by
  intro away
  obtain ⟨code, removed⟩ := unmarks_removes away
  exact RiderMap.message_keeps_markers message send sent code removed

theorem tick_silent {tracking : Tracking K} {now : Int} {send : String × Outgoing K}
    (sent : send ∈ (broadcastActiveBuses tracking now geo).2) (driver : String) :
    ¬ unmarks send.2 driver := by
  rcases RiderMap.tick_news geo tracking now send sent with snapshot | ⟨alert, other⟩
  · rw [snapshot]
    exact fun never => never
  · rw [other]
    exact fun never => never

theorem request_unwatched {db : Database K} {tracking : Tracking K} {now : Int} {id : String}
    (unwatched : watch tracking id = none) (request : Request K) :
    watch (handleMessage db tracking now id geo request.incoming).1 id = none := by
  cases request with
  | driverRegister token =>
      simp only [Request.incoming, handleMessage, handleDriverRegister]
      split
      · exact unwatched
      · split
        · exact unwatched
        · simp [watch, registerDriver, get_put_bus, get_put_session, newSession]
  | driverLocation coords accuracy visible =>
      simp only [Request.incoming, handleMessage, handleDriverLocation]
      split
      · exact unwatched
      · rename_i bus located
        simp only [updateDriverLocation, located]
        rw [watch_congr (get_put_bus ..), watch_change_session id id]
        exact unwatched
  | driverOccupancy level =>
      simp only [Request.incoming, handleMessage, handleDriverOccupancy]
      split
      · exact unwatched
      · split
        · exact unwatched
        · rename_i bus crowded
          simp only [setOccupancy, crowded]
          rw [watch_change_session id id, watch_congr (get_put_bus ..)]
          exact unwatched
  | driverVisibility visible =>
      simp only [Request.incoming, handleMessage, handleDriverVisibility]
      split
      · exact unwatched
      · exact unwatched
  | getOtherDrivers => exact unwatched

end Audience

/-! ## Steps and runs -/

section Steps
variable {world after : World K} {action : Action K} {driver : String}

theorem send_apart (apart : Apart world) (requests : List (Request K)) :
    Apart (world.send requests) := by
  intro link linked
  obtain ⟨old, before, same⟩ := Option.map_eq_some_iff.mp linked
  rw [← same]
  exact apart old before

theorem toggle_apart (apart : Apart world) : Apart (toggleOtherDrivers world) := by
  have toggled : ∀ page, Apart { world with page := page } := fun _ => apart
  unfold toggleOtherDrivers toggleOtherDriversDisplay
  split
  · exact send_apart (toggled _) _
  · exact toggled _

theorem apply_forgotten (forgotten : Forgotten world) (result : Tracking K × Sends K) :
    Forgotten (world.apply result) := fun driver departed others =>
  forgotten driver (List.mem_filter.mp departed).1 others

theorem leave_forgotten_iff (forgotten : Forgotten world) (gone : List String)
    (result : Tracking K × Sends K) :
    Forgotten (world.leave gone result) ↔ ∀ driver ∈ lastSeenOff world.tracking result.1,
      driver ≠ world.page.username → ¬ Marked world.page driver := by
  constructor
  · intro later driver left others
    exact later driver (List.mem_append_right _ left) others
  · intro unmarked driver departed others
    rcases List.mem_append.mp departed with before | left
    · exact forgotten driver (List.mem_filter.mp before).1 others
    · exact unmarked driver left others

theorem handle_username (page : Page K) (message : Outgoing K) :
    (handleWebSocketMessage page message).username = page.username := by
  cases message with
  | otherDrivers drivers =>
      simp only [handleWebSocketMessage]
      split
      · rfl
      · rfl
  | driverLocationUpdate other =>
      simp only [handleWebSocketMessage, updateSingleDriverLocation]
      repeat' split
      all_goals rfl
  | driverLeft driverId busId =>
      simp only [handleWebSocketMessage, removeDriverMarker]
      split
      · rfl
      · rfl
  | _ => rfl

theorem toggle_forgotten (forgotten : Forgotten world) : Forgotten (toggleOtherDrivers world) := by
  unfold toggleOtherDrivers toggleOtherDriversDisplay
  split
  · exact forgotten
  · intro driver _ _ marks
    simp [Marked] at marks

variable [Field K] [LinearOrder K] [FloorRing K] {geo : GeoDistance K}

theorem process_forgotten_iff (forgotten : Forgotten world)
    (taken : step geo world .process = some after) :
    Forgotten after ↔ departuresUnmarked world .process := by
  obtain ⟨link, message, rest, linked, down, same⟩ := process_spec taken
  have marks : ∀ driver, Marked after.page driver ↔
      lists world.page message driver ∨ Marked world.page driver ∧ ¬ unmarks message driver := by
    intro driver
    rw [same]
    exact marked_message world.page driver message
  have user : after.page.username = world.page.username := by
    rw [same]
    exact handle_username world.page message
  have departed : after.departed = world.departed := by rw [same]; rfl
  unfold Forgotten
  simp only [user, departed, marks]
  constructor
  · intro later other first tail linked' down' driver left listed
    rw [linked] at linked'
    cases linked'
    rw [down] at down'
    cases down'
    have others : driver ≠ world.page.username := by
      cases message with
      | otherDrivers drivers => exact listed.2.1
      | _ => exact listed.elim
    exact later driver left others (Or.inl listed)
  · intro unlisted driver left others
    rintro (listed | ⟨old, _⟩)
    · exact unlisted link message rest linked down driver left listed
    · exact forgotten driver left others old

/-- A step leaves a marker of a driver who has departed exactly if the driver departs
under a marker or is on a list that comes late. -/
theorem step_forgotten_iff (forgotten : Forgotten world)
    (taken : step geo world action = some after) :
    Forgotten after ↔ departuresUnmarked world action := by
  cases action with
  | inbound db now id message =>
      rw [(inbound_spec taken).2]
      exact iff_of_true (apply_forgotten forgotten _) fun _ never => never.elim
  | receive db now =>
      obtain ⟨link, request, rest, _, _, _, same⟩ := receive_spec taken
      rw [same]
      refine iff_of_true (apply_forgotten ?_ _) fun _ never => never.elim
      exact forgotten
  | close id =>
      rw [← Option.some.inj taken]
      exact leave_forgotten_iff forgotten _ _
  | tick now =>
      rw [← Option.some.inj taken]
      exact iff_of_true (apply_forgotten forgotten _) fun _ never => never.elim
  | sweep now =>
      rw [← Option.some.inj taken]
      exact leave_forgotten_iff forgotten _ _
  | connect session token =>
      rw [(connect_spec taken).2.2]
      exact iff_of_true forgotten fun _ never => never.elim
  | drop =>
      rw [drop_spec taken]
      exact iff_of_true forgotten fun _ never => never.elim
  | process => exact process_forgotten_iff forgotten taken
  | toggleOtherDrivers =>
      rw [← Option.some.inj taken]
      exact iff_of_true (toggle_forgotten forgotten) fun _ never => never.elim
  | refreshOtherDrivers | updateLocation | reportOccupancy | toggleVisibility =>
      rw [← Option.some.inj taken]
      exact iff_of_true forgotten fun _ never => never.elim
  | reload username =>
      rw [← Option.some.inj taken]
      refine iff_of_true ?_ fun _ never => never.elim
      intro driver _ _ marks
      simp [Marked, Page.fresh] at marks

theorem step_apart (apart : Apart world) (taken : step geo world action = some after) :
    Apart after := by
  cases action with
  | inbound db now id message =>
      obtain ⟨other, same⟩ := inbound_spec taken
      rw [same]
      apply apply_apart apart
      · intro link linked served
        rw [RiderSubscription.other_message]
        · exact (apart link linked).1 served
        · intro own
          exact other (by simp [linked, own])
      · exact fun _ _ _ _ sent driver => message_silent sent driver
  | receive db now =>
      obtain ⟨link, request, rest, linked, _, served, same⟩ := receive_spec taken
      have held : Apart { world with link := some { link with up := rest } } := by
        intro other current
        rw [← Option.some.inj current]
        exact apart link linked
      rw [same]
      apply apply_apart held
      · intro other current _
        rw [← Option.some.inj current]
        exact request_unwatched ((apart link linked).1 served) request
      · exact fun _ _ _ _ sent driver => message_silent sent driver
  | close id =>
      rw [← Option.some.inj taken, cleanup_eq]
      exact leave_apart apart [id] _
  | tick now =>
      rw [← Option.some.inj taken]
      apply apply_apart apart
      · intro link linked served
        rw [RiderSubscription.watch_tick]
        exact (apart link linked).1 served
      · exact fun _ _ _ _ sent driver => tick_silent sent driver
  | sweep now =>
      rw [← Option.some.inj taken]
      exact leave_apart apart _ _
  | connect session token =>
      obtain ⟨_, unknown, same⟩ := connect_spec taken
      rw [same]
      intro link current
      rw [← Option.some.inj current]
      refine ⟨fun _ => ?_, fun _ never => absurd never List.not_mem_nil⟩
      simp [watch, unknown]
  | drop =>
      rw [drop_spec taken]
      exact fun link never => absurd never.symm (Option.some_ne_none link)
  | process =>
      obtain ⟨link, message, rest, linked, down, same⟩ := process_spec taken
      rw [same]
      apply send_apart
      intro other current
      rw [← Option.some.inj current]
      refine ⟨(apart link linked).1, fun later member => (apart link linked).2 later ?_⟩
      rw [down]
      exact List.mem_cons_of_mem message member
  | toggleOtherDrivers =>
      rw [← Option.some.inj taken]
      exact toggle_apart apart
  | refreshOtherDrivers | updateLocation | reportOccupancy | toggleVisibility =>
      rw [← Option.some.inj taken]
      exact send_apart apart _
  | reload username =>
      rw [← Option.some.inj taken]
      exact fun link never => absurd never.symm (Option.some_ne_none link)

omit [Field K] [LinearOrder K] [FloorRing K] in
theorem apart_start (username : String) : Apart (World.start username : World K) :=
  fun link never => absurd never.symm (Option.some_ne_none link)

/-- Whatever the server and the other clients do, no dashboard is told of a departure. -/
theorem run_apart {username : String} {actions : List (Action K)}
    (run : Run (fires (step geo)) (World.start username) actions world) : Apart world :=
  run_invariant Apart (fun _ _ _ taken apart => step_apart apart taken) run (apart_start username)

omit [Field K] [LinearOrder K] [FloorRing K] in
def hides : Action K → Prop
  | .toggleOtherDrivers | .reload _ => True
  | _ => False

theorem marker_stays (apart : Apart world) (taken : step geo world action = some after)
    (kept : ¬ hides action) (marks : Marked world.page driver) : Marked after.page driver := by
  cases action with
  | inbound db now id message =>
      rw [(inbound_spec taken).2]
      exact marks
  | receive db now =>
      obtain ⟨link, request, rest, _, _, _, same⟩ := receive_spec taken
      rw [same]
      exact marks
  | connect session token =>
      rw [(connect_spec taken).2.2]
      exact marks
  | drop =>
      rw [drop_spec taken]
      exact marks
  | process =>
      obtain ⟨link, message, rest, linked, down, same⟩ := process_spec taken
      rw [same]
      apply (marked_message world.page driver message).mpr
      refine Or.inr ⟨marks, (apart link linked).2 message ?_ driver⟩
      rw [down]
      exact List.mem_cons_self ..
  | toggleOtherDrivers => exact absurd trivial kept
  | reload username => exact absurd trivial kept
  | close | tick | sweep | refreshOtherDrivers | updateLocation | reportOccupancy
  | toggleVisibility =>
      rw [← Option.some.inj taken]
      exact marks

/-- A marker stays as long as the dashboard does not clear its map, departed or not. -/
theorem departed_marker_lasts {username : String} {early late : List (Action K)}
    (reached : Run (fires (step geo)) (World.start username) early world)
    (run : Run (guarded (fun _ action => ¬ hides action) (fires (step geo))) world late after)
    (marks : Marked world.page driver) : Marked after.page driver := by
  have held : Apart after ∧ Marked after.page driver := by
    refine run_invariant (fun world => Apart world ∧ Marked world.page driver)
      (fun _ _ _ taken held => ?_) run ⟨run_apart reached, marks⟩
    exact ⟨step_apart held.1 taken.2, marker_stays held.1 taken.2 taken.1 held.2⟩
  exact held.2

theorem departure_spares (apart : Apart world) (taken : step geo world action = some after)
    (departure : handlesDeparture world driver action) :
    SparesOthers driver world.page after.page := by
  cases action with
  | close id =>
      rw [← Option.some.inj taken]
      exact ⟨fun _ _ => rfl, rfl⟩
  | sweep now =>
      rw [← Option.some.inj taken]
      exact ⟨fun _ _ => rfl, rfl⟩
  | process =>
      obtain ⟨link, busId, rest, linked, down⟩ := departure
      have never := (apart link linked).2 (.driverLeft driver busId)
        (by rw [down]; exact List.mem_cons_self ..) driver
      exact absurd rfl never
  | _ => exact departure.elim

/-- While every driver departs without a marker and no late list has a driver on it who
has departed, a dashboard that shows the other drivers has no marker of one who has
departed, and departures spare the markers and the list of the others. The next step
keeps it so exactly if it is of this kind. -/
theorem departures_forgotten {username : String} {actions : List (Action K)}
    (run : Run (guarded departuresUnmarked (fires (step geo))) (World.start username) actions
      world) :
    Informed world ∧ ∀ action after, step geo world action = some after →
      (∀ driver, handlesDeparture world driver action →
        SparesOthers driver world.page after.page) ∧
      (Forgotten after ↔ departuresUnmarked world action) := by
  have forgotten : Forgotten world := by
    refine run_invariant Forgotten (fun _ _ _ taken held => ?_) run ?_
    · exact (step_forgotten_iff held taken.2).mpr taken.1
    · exact fun driver never => absurd never List.not_mem_nil
  refine ⟨?_, fun action after taken => ⟨fun driver departure => ?_, ?_⟩⟩
  · intro link _ _ _ driver departed others
    exact Option.not_isSome_iff_eq_none.mp (forgotten driver departed others)
  · exact departure_spares (run_apart (guarded_run_forget run)) taken departure
  · exact step_forgotten_iff forgotten taken

end Steps

/-! ## Two drivers -/

def raviToken : Claims := ⟨"ravi", "DRIVER", "Ravi", some "bus-2", 0, 1000⟩

def bothDriving : List (Action ℚ) :=
  [.inbound Database.empty 0 "s2" (.driverRegister (some raviToken)),
    .inbound Database.empty 1 "s2" (.driverLocation (some (1, 2)) none none),
    .connect "s1" (some RiderMap.ashaToken), .receive Database.empty 2, .process]

/-- She shows the other drivers once he has left. -/
theorem left_before_shown :
    ∃ world : World ℚ, world.page.showOtherDrivers = true ∧ "ravi" ∈ world.departed ∧
      Informed world ∧ ∀ action after, step taxicab world action = some after →
        (∀ driver, handlesDeparture world driver action →
          SparesOthers driver world.page after.page) ∧
        (Forgotten after ↔ departuresUnmarked world action) := by
  have run : ∃ world, Run (guarded departuresUnmarked (fires (step (taxicab : GeoDistance ℚ))))
      (World.start "asha") (bothDriving ++ [.close "s2", .toggleOtherDrivers]) world ∧
      world.page.showOtherDrivers = true ∧ "ravi" ∈ world.departed := by
    refine ⟨_, Run.next ⟨?_, rfl⟩ (Run.next ⟨?_, rfl⟩ (Run.next ⟨?_, rfl⟩ (Run.next ⟨?_, rfl⟩
      (Run.next ⟨?_, rfl⟩ (Run.next ⟨?_, rfl⟩ (Run.next ⟨?_, rfl⟩ (Run.refl _))))))), rfl, ?_⟩
    · exact fun _ never => never.elim
    · exact fun _ never => never.elim
    · exact fun _ never => never.elim
    · exact fun _ never => never.elim
    · exact fun _ _ _ _ _ _ never => absurd never List.not_mem_nil
    · exact fun _ _ _ => Bool.false_ne_true
    · exact fun _ never => never.elim
    · decide +kernel
  obtain ⟨world, taken, shows, departed⟩ := run
  exact ⟨world, shows, departed, departures_forgotten taken⟩

/-- She shows the other drivers, and then he leaves. -/
theorem departed_driver_marked :
    ∃ world : World ℚ, Run (fires (step taxicab)) (World.start "asha")
        (bothDriving ++ [.toggleOtherDrivers, .receive Database.empty 3, .process, .close "s2"])
        world ∧ "ravi" ∈ world.departed ∧ ¬ Informed world := by
  refine ⟨_, exec_run _ _ _ _ rfl, ?_, ?_⟩
  · decide +kernel
  · intro informed
    have gone := informed _ rfl rfl rfl "ravi" (by decide +kernel) (by decide +kernel)
    exact absurd gone (by decide +kernel)

end CityBus.DriverMarkers
