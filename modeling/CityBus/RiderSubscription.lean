import CityBus.RiderProtocol

/-!
Whether the server knows what the rider watches. The page sends a subscription when
it is clicked and never again, and the server starts every session without one.
-/

namespace CityBus.RiderSubscription

open GeoUtils GuardedRuns KeyedMaps LiveTracking MessageQueues Store TrackingHandler RiderProtocol

variable {K : Type}

abbrev Watch := Option (Option Int × Option String)

def watch (tracking : Tracking K) (id : String) : Watch :=
  ((getSession tracking id).filter fun session => session.role = .USER).map fun session =>
    (session.subscribedRouteNumber, session.trackingBusCode)

def requestWatch : Watch → Request K → Watch
  | _, .userRegister _ => some (none, none)
  | watched, .userLocation _ _ => watched
  | watched, .subscribeRoute routeNumber => watched.map fun w => (routeNumber, w.2)
  | watched, .trackBus busId => watched.map fun w => (w.1, some busId)

/-- The server is about to know the route on show and the bus that is tracked. -/
def Agrees (world : World K) : Prop :=
  ∀ link, world.link = some link → link.served = true →
    settled requestWatch (watch world.tracking link.session) link.up =
      some (world.page.routeLayers, world.page.tracked)

def served (world : World K) : Prop := ∃ link, world.link = some link ∧ link.served = true

/-- A socket opens only while the page shows no route and has tracked no bus, the route
of a click is loaded where the click is sent, and the click does not fail at the marker
of a bus that is not tracked yet. -/
def clicksSent (world : World K) : Action K → Prop
  | .connect _ _ => world.page.routeLayers = none ∧ world.page.tracked = none
  | .trackBus busId routeId => served world →
      routeId ∈ world.page.busRoutes ∧
        (inherited busId = true → world.page.tracked = some busId)
  | .selectBusRoute routeId => served world → routeId ∈ world.page.busRoutes
  | _ => True

/-! ## What the server does to the watches -/

section Watches
variable {tracking : Tracking K}

theorem watch_congr {after : Tracking K} {id : String}
    (same : getSession after id = getSession tracking id) : watch after id = watch tracking id := by
  unfold watch
  rw [same]

theorem watch_change_session {change : ClientSession K → ClientSession K}
    {keeps : ∀ session, (change session).sessionId = session.sessionId} (changed id : String)
    (role : ∀ session, (change session).role = session.role := by intro; rfl)
    (route : ∀ session, (change session).subscribedRouteNumber = session.subscribedRouteNumber := by
      intro; rfl)
    (bus : ∀ session, (change session).trackingBusCode = session.trackingBusCode := by intro; rfl) :
    watch (tracking.changeSession changed change keeps) id = watch tracking id := by
  by_cases same : id = changed
  · subst same
    unfold watch
    rw [get_change_session, if_pos rfl]
    cases getSession tracking id with
    | none => rfl
    | some session => simp [Option.filter_some, role, route, bus]
  · apply watch_congr
    rw [get_change_session, if_neg same]

theorem watch_alerted [Field K] [LinearOrder K] (geo : GeoDistance K) (now : Int) (id : String) :
    watch (markAlerted geo tracking now) id = watch tracking id := by
  unfold watch
  rw [marked_session]
  split
  · cases getSession tracking id with
    | none => rfl
    | some session => simp [Option.filter_some]
  · rfl

theorem watch_tick [Field K] [LinearOrder K] [FloorRing K] (geo : GeoDistance K) (now : Int)
    (id : String) : watch (broadcastActiveBuses tracking now geo).1 id = watch tracking id := by
  simp only [broadcastActiveBuses]
  split
  · rfl
  · exact watch_alerted geo now id

theorem watch_removed {gone : List String} {id : String} (stays : id ∉ gone) :
    watch (gone.foldl removeSession tracking) id = watch tracking id := by
  apply watch_congr
  rw [remove_all_sessions, if_neg stays]

variable [Field K] [LinearOrder K] [FloorRing K] {geo : GeoDistance K} {db : Database K} {now : Int}

theorem other_message {sessionId id : String} (other : id ≠ sessionId) (message : Incoming K) :
    watch (handleMessage db tracking now sessionId geo message).1 id = watch tracking id := by
  apply watch_congr
  cases message with
  | driverRegister token =>
      simp only [handleMessage, handleDriverRegister]
      split
      · rfl
      · split
        · rfl
        · rw [registerDriver, get_put_bus, get_put_session, if_neg]
          exact other
  | driverLocation coords accuracy visible =>
      simp only [handleMessage, handleDriverLocation]
      split
      · rfl
      · split
        · rfl
        · rename_i bus located
          simp only [updateDriverLocation, located]
          rw [get_put_bus, get_change_session, if_neg other]
  | driverOccupancy level =>
      simp only [handleMessage, handleDriverOccupancy]
      split
      · rfl
      · split
        · rfl
        · rename_i bus crowded
          simp only [setOccupancy, crowded]
          rw [get_change_session, if_neg other, get_put_bus]
  | userLocation coords =>
      simp only [handleMessage, handleUserLocation]
      split
      · rfl
      · simp only [updateUserLocation]
        split
        · rw [get_change_session, if_neg other]
        · rfl
  | driverVisibility visible =>
      simp only [handleMessage, handleDriverVisibility]
      split
      · rfl
      · rfl
  | trackBus busId =>
      cases busId with
      | none => rfl
      | some busCode =>
          simp only [handleMessage, handleTrackBus, LiveTracking.trackBus]
          rw [get_change_session, if_neg other]
  | userRegister userId =>
      simp only [handleMessage, handleUserRegister, registerUser]
      rw [get_put_session, if_neg]
      exact other
  | subscribeRoute routeNumber =>
      simp only [handleMessage, handleSubscribeRoute, subscribeRoute]
      rw [get_change_session, if_neg other]
  | ping =>
      simp only [handleMessage, handlePing, touch]
      rw [get_change_session, if_neg other]
  | getActiveBuses => rfl
  | getOtherDrivers => rfl
  | unknown type => rfl

omit [Field K] [LinearOrder K] [FloorRing K] in
theorem watch_changed {change : ClientSession K → ClientSession K}
    {keeps : ∀ session, (change session).sessionId = session.sessionId} (id : String)
    (update : Option Int × Option String → Option Int × Option String)
    (role : ∀ session, (change session).role = session.role)
    (changed : ∀ session, session.role = .USER →
      ((change session).subscribedRouteNumber, (change session).trackingBusCode) =
        update (session.subscribedRouteNumber, session.trackingBusCode)) :
    watch (tracking.changeSession id change keeps) id = (watch tracking id).map update := by
  unfold watch
  rw [get_change_session, if_pos rfl]
  cases getSession tracking id with
  | none => rfl
  | some session =>
      by_cases rider : session.role = .USER
      · simp [Option.filter_some, role, rider, changed session rider]
      · simp [Option.filter_some, role, rider]

/-- A request of the page does to the watch of its session what it says. -/
theorem own_request (id : String) (request : Request K) :
    watch (handleMessage db tracking now id geo request.incoming).1 id =
      requestWatch (watch tracking id) request := by
  cases request with
  | userRegister userId =>
      simp only [Request.incoming, handleMessage, handleUserRegister, registerUser, watch,
        get_put_session, newSession, if_true]
      rfl
  | userLocation lat lng =>
      simp only [Request.incoming, handleMessage, handleUserLocation, updateUserLocation,
        requestWatch]
      split
      · exact watch_change_session id id
      · rfl
  | subscribeRoute routeNumber =>
      simp only [Request.incoming, handleMessage, handleSubscribeRoute, subscribeRoute, requestWatch]
      apply watch_changed
      · intro session
        split
        · rfl
        · rfl
      · intro session rider
        rw [if_pos rider]
  | trackBus busId =>
      simp only [Request.incoming, handleMessage, handleTrackBus, LiveTracking.trackBus, requestWatch]
      apply watch_changed
      · intro session
        rfl
      · intro session rider
        rfl

end Watches

/-! ## Steps and runs -/

section Agreement
variable {world after : World K} {action : Action K}

theorem apply_agrees {result : Tracking K × Sends K}
    (held : ∀ link, world.link = some link → link.served = true →
      settled requestWatch (watch result.1 link.session) link.up =
        some (world.page.routeLayers, world.page.tracked)) :
    Agrees (world.apply result) := by
  intro link linked served
  obtain ⟨old, before, same⟩ := Option.map_eq_some_iff.mp linked
  have fields : link.session = old.session ∧ link.served = old.served ∧ link.up = old.up := by
    rw [← same]
    unfold Link.post
    split
    · exact ⟨rfl, rfl, rfl⟩
    · exact ⟨rfl, rfl, rfl⟩
  -- What the server posts goes down the link; what is on its way up stays.
  obtain ⟨session, holds, up⟩ := fields
  rw [holds] at served
  rw [session, up]
  exact held old before served

theorem apply_keeps (agrees : Agrees world) {result : Tracking K × Sends K}
    (kept : ∀ link, world.link = some link → link.served = true →
      watch result.1 link.session = watch world.tracking link.session) :
    Agrees (world.apply result) := by
  apply apply_agrees
  intro link linked served
  rw [kept link linked served]
  exact agrees link linked served

theorem forget_agrees (agrees : Agrees world) (gone : List String) :
    Agrees (world.forget gone) := by
  intro link linked served
  obtain ⟨_, old, before, holds, session, up⟩ := forget_link linked served
  rw [session, up]
  exact agrees old before holds

theorem departures_agree (agrees : Agrees world) (gone : List String) (sends : Sends K) :
    Agrees ((world.forget gone).apply (gone.foldl removeSession world.tracking, sends)) := by
  apply apply_keeps (forget_agrees agrees gone)
  intro link linked served
  exact watch_removed (forget_link linked served).1

theorem send_agrees_iff (agrees : Agrees world) (requests : List (Request K)) (page : Page K) :
    Agrees { world.send requests with page := page } ↔ (served world →
      settled requestWatch (some (world.page.routeLayers, world.page.tracked)) requests =
        some (page.routeLayers, page.tracked)) := by
  constructor
  · rintro after ⟨link, linked, holds⟩
    have sent := after { link with up := link.up ++ requests }
      (by simp [World.send, linked]) holds
    rw [settled_append] at sent
    rw [← sent]
    congr 1
    exact (agrees link linked holds).symm
  · intro told link linked holds
    obtain ⟨old, before, same⟩ := Option.map_eq_some_iff.mp linked
    subst same
    rw [settled_append]
    have held := agrees old before holds
    change settled requestWatch (settled requestWatch (watch world.tracking old.session) old.up)
      requests = _
    rw [held]
    exact told ⟨old, before, holds⟩

theorem send_send (world : World K) (requests later : List (Request K)) :
    (world.send requests).send later = world.send (requests ++ later) := by
  unfold World.send
  cases world.link with
  | none => rfl
  | some link => simp

def routeShown (world : World K) (routeId : Int) : Option Int :=
  if routeId ∈ world.page.busRoutes then some routeId else none

theorem select_eq (world : World K) (routeId : Int) :
    selectBusRoute world routeId =
      { world.send [.subscribeRoute none, .subscribeRoute (some routeId)] with
        page := { world.page with routeLayers := routeShown world routeId } } := by
  have both := send_send world [.subscribeRoute none] [.subscribeRoute (some routeId)]
  simp only [List.cons_append, List.nil_append] at both
  rw [← both]
  unfold selectBusRoute showRoute clearRouteSelection subscribeToRoute routeShown
  by_cases loaded : routeId ∈ world.page.busRoutes
  · simp [World.send, loaded]
  · simp [World.send, loaded]

def trackSent (world : World K) (busId : String) (routeId : Int) : List (Request K) :=
  if inherited busId && routeId ∈ world.page.busRoutes then [] else [.trackBus busId]

theorem send_nothing (world : World K) : world.send [] = world := by
  unfold World.send
  cases world with
  | mk tracking link page synced => cases link <;> simp

theorem track_eq (world : World K) (busId : String) (routeId : Int) :
    RiderProtocol.trackBus world busId routeId =
      { world.send ([.subscribeRoute none, .subscribeRoute (some routeId)] ++
          trackSent world busId routeId) with
        page := { world.page with
          routeLayers := routeShown world routeId
          tracked := some busId } } := by
  have all := send_send world [.subscribeRoute none, .subscribeRoute (some routeId)]
    (trackSent world busId routeId)
  have selected := select_eq world routeId
  unfold selectBusRoute at selected
  rw [← all]
  unfold RiderProtocol.trackBus trackSent
  split
  · simp only [selected, send_nothing]
  · simp only [selected, World.send]

theorem route_shown_iff (world : World K) (routeId : Int) :
    routeShown world routeId = some routeId ↔ routeId ∈ world.page.busRoutes := by
  unfold routeShown
  by_cases loaded : routeId ∈ world.page.busRoutes
  · simp [loaded]
  · simp [loaded]

theorem select_agrees_iff (agrees : Agrees world) (routeId : Int) :
    Agrees (selectBusRoute world routeId) ↔ (served world → routeId ∈ world.page.busRoutes) := by
  rw [select_eq, send_agrees_iff agrees, ← route_shown_iff]
  constructor
  · intro told there
    exact (Prod.mk.inj (Option.some.inj (told there))).1.symm
  · intro shows there
    simp only [settled, List.foldl_cons, List.foldl_nil, requestWatch, Option.map_some, shows there]

theorem track_agrees_iff (agrees : Agrees world) (busId : String) (routeId : Int) :
    Agrees (RiderProtocol.trackBus world busId routeId) ↔
      clicksSent world (.trackBus busId routeId) := by
  rw [track_eq, send_agrees_iff agrees, clicksSent]
  refine forall_congr' fun _ => ?_
  by_cases loaded : routeId ∈ world.page.busRoutes
  · cases aborts : inherited busId with
    | true => simp [settled, requestWatch, routeShown, trackSent, loaded, aborts]
    | false => simp [settled, requestWatch, routeShown, trackSent, loaded, aborts]
  · simp [settled, requestWatch, routeShown, trackSent, loaded]

/-- A new socket is to carry a registration, and with it an empty watch. -/
theorem connect_agrees_iff (session userId : String) :
    Agrees (connect world session userId) ↔
      world.page.routeLayers = none ∧ world.page.tracked = none := by
  have opened : settled requestWatch (watch world.tracking session)
      (.userRegister userId ::
        (world.page.userLocation.map fun coords => Request.userLocation coords.1 coords.2).toList) =
      some (none, none) := by
    cases world.page.userLocation with
    | none => rfl
    | some coords => rfl
  constructor
  · intro agrees
    have told := (agrees _ rfl rfl).symm.trans opened
    exact ⟨(Prod.mk.inj (Option.some.inj told)).1, (Prod.mk.inj (Option.some.inj told)).2⟩
  · rintro ⟨bare, untracked⟩ link linked _
    rw [← Option.some.inj linked]
    refine opened.trans ?_
    simp only [connect, bare, untracked]

variable [Field K] [LinearOrder K] [FloorRing K] {geo : GeoDistance K}

theorem step_agrees_iff (agrees : Agrees world) (taken : step geo world action = some after) :
    Agrees after ↔ clicksSent world action := by
  cases action with
  | inbound db now id message =>
      refine iff_of_true ?_ trivial
      obtain ⟨other, same⟩ := inbound_spec taken
      rw [same]
      apply apply_keeps agrees
      intro link linked _
      apply other_message
      rintro rfl
      exact other (by rw [linked]; rfl)
  | receive db now =>
      refine iff_of_true ?_ trivial
      obtain ⟨link, request, rest, synced, linked, up, served, same, _⟩ := receive_spec taken
      have handled : Agrees (World.apply { world with link := some { link with up := rest } }
          (handleMessage db world.tracking now link.session geo request.incoming)) := by
        apply apply_agrees
        intro next opened _
        -- The request moves from the queue into the session; the outcome is the same.
        rw [← Option.some.inj opened, own_request, ← settled_cons, ← up]
        exact agrees link linked served
      rw [same]
      exact handled
  | close id =>
      refine iff_of_true ?_ trivial
      rw [← Option.some.inj taken, cleanup_eq]
      exact departures_agree agrees [id] _
  | tick now =>
      refine iff_of_true ?_ trivial
      rw [← Option.some.inj taken]
      exact apply_keeps agrees fun link _ _ => watch_tick geo now link.session
  | sweep now =>
      refine iff_of_true ?_ trivial
      rw [← Option.some.inj taken]
      exact departures_agree agrees _ _
  | connect session userId =>
      rw [(connect_spec taken).2.2]
      exact connect_agrees_iff session userId
  | drop =>
      refine iff_of_true ?_ trivial
      obtain ⟨_, _, same⟩ := Option.map_eq_some_iff.mp taken
      rw [← same]
      intro link linked
      cases linked
  | process =>
      refine iff_of_true ?_ trivial
      obtain ⟨link, message, rest, linked, _, same⟩ := process_spec taken
      rw [same]
      intro next post holds
      rw [← Option.some.inj post] at holds ⊢
      exact agrees link linked holds
  | locate lat lng =>
      rw [← Option.some.inj taken]
      exact iff_of_true ((send_agrees_iff agrees _ _).mpr fun _ => rfl) trivial
  | loadBusRoutes routes =>
      rw [← Option.some.inj taken]
      exact iff_of_true agrees trivial
  | trackBus busId routeId =>
      rw [← Option.some.inj taken]
      exact track_agrees_iff agrees busId routeId
  | selectBusRoute routeId =>
      rw [← Option.some.inj taken]
      exact select_agrees_iff agrees routeId
  | clearRouteSelection =>
      rw [← Option.some.inj taken]
      exact iff_of_true ((send_agrees_iff agrees _ _).mpr fun _ => rfl) trivial

/-- With no request of the page in flight the server has the rider's session, and it
is subscribed to the route on show and tracks the bus of the latest call. -/
def Subscribed (world : World K) : Prop :=
  ∀ link, world.link = some link → link.served = true → link.up = [] →
    ∃ session, getSession world.tracking link.session = some session ∧ session.role = .USER ∧
      session.subscribedRouteNumber = world.page.routeLayers ∧
      session.trackingBusCode = world.page.tracked

omit [Field K] [LinearOrder K] [FloorRing K] in
theorem agrees_subscribed (agrees : Agrees world) : Subscribed world := by
  intro link linked served handled
  have holds := agrees link linked served
  rw [handled] at holds
  obtain ⟨session, found, same⟩ := Option.map_eq_some_iff.mp holds
  obtain ⟨registered, rider⟩ := Option.filter_eq_some_iff.mp found
  obtain ⟨route, bus⟩ := Prod.mk.inj same
  exact ⟨session, registered, of_decide_eq_true rider, route, bus⟩

/-- While sockets open on a page without a selection and clicks are on loaded routes and
reach their end, the server's session agrees with the page whenever it has handled every
request. The next step keeps to that exactly if it is of this kind. -/
theorem subscriptions_agree {actions : List (Action K)}
    (run : Run (guarded clicksSent (fires (step geo))) World.start actions world) :
    Subscribed world ∧ ∀ action after, step geo world action = some after →
      (Agrees after ↔ clicksSent world action) := by
  have agrees : Agrees world := by
    apply run_invariant Agrees _ run
    · intro link linked
      cases linked
    · intro before action after taken held
      exact (step_agrees_iff held taken.2).mpr taken.1
  exact ⟨agrees_subscribed agrees, fun _ _ taken => step_agrees_iff agrees taken⟩

end Agreement

/-! ## One click -/

def oneClick : List (Action ℚ) :=
  [.loadBusRoutes [7], .connect "r1" "rider", .receive Database.empty 0, .process, .process,
    .trackBus "bus-1" 7, .receive Database.empty 1, .receive Database.empty 1,
    .receive Database.empty 1, .process, .process, .process]

theorem click_agrees :
    ∃ world : World ℚ, world.page.routeLayers = some 7 ∧ world.page.tracked = some "bus-1" ∧
      hearing world = true ∧ Subscribed world ∧
      ∀ action after, step taxicab world action = some after →
        (Agrees after ↔ clicksSent world action) := by
  have run : ∃ world, Run (guarded clicksSent (fires (step (taxicab : GeoDistance ℚ))))
      World.start oneClick world ∧ world.page.routeLayers = some 7 ∧
      world.page.tracked = some "bus-1" ∧ hearing world = true := by
    apply Exists.intro
    constructor
    · apply Run.next ⟨trivial, rfl⟩
      apply Run.next ⟨⟨rfl, rfl⟩, rfl⟩
      apply Run.next ⟨trivial, rfl⟩
      apply Run.next ⟨trivial, rfl⟩
      apply Run.next ⟨trivial, rfl⟩
      apply Run.next ⟨fun _ => ⟨List.mem_singleton_self 7, fun aborts => by cases aborts⟩, rfl⟩
      iterate 6 apply Run.next ⟨trivial, rfl⟩
      exact Run.refl _
    · exact ⟨rfl, rfl, rfl⟩
  obtain ⟨world, taken, route, tracked, hears⟩ := run
  exact ⟨world, route, tracked, hears, subscriptions_agree taken⟩

/-- The page reconnects by itself. It shows the route as before, and the server has
registered it without one. -/
theorem reconnect_forgets_subscription :
    ∃ (world : World ℚ) (link : Link ℚ) (session : ClientSession ℚ),
      Run (fires (step taxicab)) World.start
        (oneClick ++ [.drop, .close "r1", .connect "r2" "rider", .receive Database.empty 2,
          .process, .process]) world ∧
      world.link = some link ∧ link.served = true ∧ link.up = [] ∧ link.down = [] ∧
      getSession world.tracking link.session = some session ∧ session.role = .USER ∧
      world.page.routeLayers = some 7 ∧ session.subscribedRouteNumber = none ∧
      world.page.tracked = some "bus-1" ∧ session.trackingBusCode = none :=
  ⟨_, _, _, exec_run _ _ _ _ rfl, rfl, rfl, rfl, rfl, rfl, rfl, rfl, rfl, rfl, rfl⟩

end CityBus.RiderSubscription
