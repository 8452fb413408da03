import CityBus.DriverDashboard
import CityBus.FrameLaw
import CityBus.RiderMap

/-!
The visibility switch of the dashboard. A change of it goes out at once and every
location carries it, while the server starts each registration with a visible bus
and forgets the switch with the session. What the server lists for riders has to follow
the switch all the same.
-/

namespace CityBus.DriverSwitch

open AuthService GeoUtils GuardedRuns KeyedMaps LiveTracking RingBuffers Store TrackingHandler
  TrackingRuns DriverDashboard

variable {K : Type}

/-! ## The dashboard with its switch -/

structure Dashboard (K : Type) where
  world : World K
  /-- Whether `visibility-toggle` is checked. -/
  checked : Bool

def Dashboard.start (username : String) : Dashboard K := ⟨World.start username, true⟩

/-- The page comes with the switch on. -/
def switched (checked : Bool) : Action K → Bool
  | .toggleVisibility isVisible => isVisible
  | .reload _ => true
  | _ => checked

section Steps
variable [Field K] [LinearOrder K] [FloorRing K] (geo : GeoDistance K)

def step (dashboard : Dashboard K) (action : Action K) : Option (Dashboard K) :=
  let stepped := (DriverDashboard.step geo dashboard.world action).map fun world =>
    ⟨world, switched dashboard.checked action⟩
  match action with
  -- `updateLocation` reads the switch.
  | .updateLocation _ _ visible => if visible = dashboard.checked then stepped else none
  | _ => stepped

variable {geo} {dashboard after : Dashboard K} {action : Action K}

theorem step_spec (taken : step geo dashboard action = some after) :
    DriverDashboard.step geo dashboard.world action = some after.world ∧
      after.checked = switched dashboard.checked action ∧
      ∀ coords accuracy visible, action = .updateLocation coords accuracy visible →
        visible = dashboard.checked := by
  unfold step at taken
  split at taken
  · split at taken
    · rename_i reads
      obtain ⟨world, stepped, rfl⟩ := Option.map_eq_some_iff.mp taken
      refine ⟨stepped, rfl, ?_⟩
      intro coords accuracy visible same
      cases same
      exact reads
    · cases taken
  · rename_i other
    obtain ⟨world, stepped, rfl⟩ := Option.map_eq_some_iff.mp taken
    exact ⟨stepped, rfl, fun coords accuracy visible same => absurd same (other _ _ _)⟩

end Steps

/-! ## Sessions and their buses -/

section Seats
variable {tracking : Tracking K} {now : Int}

def seat (tracking : Tracking K) (id : String) : Option (ClientRole × String) :=
  (getSession tracking id).map fun session => (session.role, session.clientId)

structure SameBus (old bus : LiveBusState K) : Prop where
  driverId : bus.driverId = old.driverId
  visible : bus.visible = old.visible
  recent : bus.recent = old.recent

/-- The calls that decide whether riders see bus `code` of the driver. -/
def speaksFor (tracking : Tracking K) (code driver : String) : Call K → Prop
  | .registerDriver _ _ busCode _ _ => busCode = code
  | .updateDriverLocation id .. => driverBus tracking id = some code
  | .setDriverVisibility driverId _ => driverId = driver
  | _ => False

theorem seat_some {id : String} {role : ClientRole} {clientId : String} :
    seat tracking id = some (role, clientId) ↔
      ∃ session, getSession tracking id = some session ∧ session.role = role ∧
        session.clientId = clientId := by
  simp only [seat, Option.map_eq_some_iff, Prod.mk.injEq]

theorem seat_none {id : String} : seat tracking id = none ↔ getSession tracking id = none :=
  Option.map_eq_none_iff

theorem seat_driver {id code driver : String}
    (seated : seat tracking id = some (.DRIVER code, driver)) :
    driverBus tracking id = some code := by
  obtain ⟨session, found, role, _⟩ := seat_some.mp seated
  rw [driver_bus_role found, role]
  rfl

theorem same_bus_refl (bus : LiveBusState K) : SameBus bus bus := ⟨rfl, rfl, rfl⟩

theorem removed_seat {gone : List String} {id : String} (stays : id ∉ gone) :
    seat (gone.foldl removeSession tracking) id = seat tracking id := by
  rw [seat, remove_all_sessions, if_neg stays]
  rfl

variable [Field K] [LinearOrder K] {geo : GeoDistance K}

theorem telemetry_seat {call : Call K} (quiet : call.isTelemetry = true) (id : String) :
    seat (perform geo tracking now call) id = seat tracking id := by
  have kept := telemetry_kept geo tracking now id quiet
  cases found : getSession (perform geo tracking now call) id with
  | none =>
      rw [found, Option.isSome_none, eq_comm, Option.isSome_eq_false_iff,
        Option.isNone_iff_eq_none] at kept
      rw [seat_none.mpr found, seat_none.mpr kept]
  | some session =>
      obtain ⟨old, before, continues⟩ := telemetry_session quiet found
      rw [seat, seat, found, before, Option.map_some, Option.map_some, continues.role,
        continues.clientId]

theorem message_seat {db : Database K} {sender id : String} {message : Incoming K} {call : Call K}
    (made : messageCall tracking now db sender message = some call) (other : id ≠ sender) :
    seat (perform geo tracking now call) id = seat tracking id := by
  by_cases quiet : call.isTelemetry = true
  · exact telemetry_seat quiet id
  · cases message with
    | driverRegister token =>
        obtain ⟨driver, _, rfl⟩ := Option.map_eq_some_iff.mp made
        rw [seat, perform, get_registered_driver, if_neg other]
        rfl
    | userRegister userId =>
        cases made
        rw [seat, perform, get_registered_user, if_neg other]
        rfl
    | driverLocation | driverOccupancy | userLocation | driverVisibility | trackBus =>
        obtain ⟨_, _, rfl⟩ := Option.map_eq_some_iff.mp made
        exact absurd rfl quiet
    | subscribeRoute | ping =>
        cases made
        exact absurd rfl quiet
    | getActiveBuses | getOtherDrivers | unknown => cases made

theorem unspoken_bus {code driver : String} {call : Call K}
    (silent : ¬ speaksFor tracking code driver call)
    (mine : ∀ bus, tracking.liveBuses.lookup code = some bus → bus.driverId = driver)
    {bus : LiveBusState K}
    (found : (perform geo tracking now call).liveBuses.lookup code = some bus) :
    ∃ old, tracking.liveBuses.lookup code = some old ∧ SameBus old bus := by
  cases call with
  | registerDriver id driverId busCode routeNumber routeColor =>
      rw [perform, register_driver_lookup, if_neg (Ne.symm silent)] at found
      exact ⟨bus, found, same_bus_refl bus⟩
  | updateDriverLocation id lat lng accuracy visible =>
      rw [perform, location_lookup] at found
      exact ⟨bus, (if_neg silent).symm.trans found, same_bus_refl bus⟩
  | setOccupancy id occupancy =>
      rw [perform, occupancy_lookup] at found
      split at found
      · obtain ⟨old, before, rfl⟩ := Option.map_eq_some_iff.mp found
        exact ⟨old, before, rfl, rfl, rfl⟩
      · exact ⟨bus, found, same_bus_refl bus⟩
  | setDriverVisibility driverId visible =>
      rw [perform, visibility_lookup] at found
      obtain ⟨old, before, rfl⟩ := Option.map_eq_some_iff.mp found
      have other : ¬ old.driverId = driverId := by
        rw [mine old before]
        exact Ne.symm silent
      rw [if_neg other]
      exact ⟨old, before, same_bus_refl old⟩
  | removeSession id =>
      exact ⟨bus, removed_lookup tracking [id] found, same_bus_refl bus⟩
  | evictStaleSessions timeoutMs =>
      exact ⟨bus, removed_lookup tracking _ found, same_bus_refl bus⟩
  | registerUser | updateUserLocation | trackBus | subscribeRoute | touch
  | pendingProximityAlerts =>
      rw [leaves_buses_eq tracking now geo rfl] at found
      exact ⟨bus, found, same_bus_refl bus⟩

end Seats

/-! ## The messages under way -/

section Queue
variable [Field K] [LinearOrder K]

/-- What a message tells the server of the switch. A location off the globe is not
taken, and its switch with it. -/
def told : Request K → Option Bool
  | .driverLocation coords _ visible =>
      if isValidLatitude coords.1 && isValidLongitude coords.2 then some visible else none
  | .driverVisibility visible => some visible
  | _ => none

def lastTold : List (Request K) → Option Bool
  | [] => none
  | request :: rest => (lastTold rest).or (told request)

theorem last_told_append (up requests : List (Request K)) :
    lastTold (up ++ requests) = (lastTold requests).or (lastTold up) := by
  induction up with
  | nil => rw [List.nil_append, lastTold, Option.or_none]
  | cons request rest ih => rw [List.cons_append, lastTold, lastTold, ih, Option.or_assoc]

omit [Field K] [LinearOrder K] in
def Plain (up : List (Request K)) : Prop := ∀ token, .driverRegister token ∉ up

omit [Field K] [LinearOrder K] in
theorem plain_append {up requests : List (Request K)} (plain : Plain up)
    (plain' : Plain requests) : Plain (up ++ requests) := by
  intro token sent
  rcases List.mem_append.mp sent with first | second
  · exact plain token first
  · exact plain' token second

end Queue

/-! ## The switch and the server -/

section Tuned
variable [Field K] [LinearOrder K]

/-- The session drives the bus, which is shown as the switch says unless that is still
under way. -/
structure Driving (code driver : String) (tracking : Tracking K) (session : String)
    (checked : Bool) (up : List (Request K)) : Prop where
  plain : Plain up
  seated : seat tracking session = some (.DRIVER code, driver)
  mine : ∀ bus, tracking.liveBuses.lookup code = some bus → bus.driverId = driver
  shown : ∀ bus, tracking.liveBuses.lookup code = some bus → lastTold up = none →
    bus.recent.latest.isSome = true → bus.visible = checked

/-- The registration of the session is still to come, was refused, or holds. -/
inductive Registration (tracking : Tracking K) (session : String) (checked : Bool) :
    List (Request K) → Prop where
  | coming {token : Option Claims} {rest : List (Request K)}
      (vacant : seat tracking session = none) (plain : Plain rest) :
      Registration tracking session checked (.driverRegister token :: rest)
  | refused {up : List (Request K)} (vacant : seat tracking session = none) (plain : Plain up) :
      Registration tracking session checked up
  | driving {code driver : String} {up : List (Request K)}
      (drives : Driving code driver tracking session checked up) :
      Registration tracking session checked up

structure Tuned (tracking : Tracking K) (session : String) (checked : Bool)
    (up : List (Request K)) : Prop where
  tells : lastTold up = none ∨ lastTold up = some checked
  registration : Registration tracking session checked up

variable {session : String} {tracking after : Tracking K} {checked checked' : Bool}
  {up requests : List (Request K)}

theorem queue_tuned (tuned : Tuned tracking session checked up) (plain : Plain requests)
    (tells : lastTold requests = some checked' ∨ lastTold requests = none ∧ checked' = checked) :
    Tuned tracking session checked' (up ++ requests) := by
  constructor
  case tells =>
    rw [last_told_append]
    rcases tells with new | ⟨silent, same⟩
    · rw [new]
      exact Or.inr rfl
    · rw [silent, same, Option.none_or]
      exact tuned.tells
  case registration =>
    cases tuned.registration with
    | coming vacant plain' => exact .coming vacant (plain_append plain' plain)
    | refused vacant plain' => exact .refused vacant (plain_append plain' plain)
    | driving drives =>
        refine .driving ⟨plain_append drives.plain plain, drives.seated, drives.mine, ?_⟩
        intro bus found quiet fix
        rw [last_told_append] at quiet
        rcases tells with new | ⟨silent, same⟩
        · rw [new] at quiet
          cases quiet
        · rw [silent, Option.none_or] at quiet
          rw [same]
          exact drives.shown bus found quiet fix

theorem frame_tuned (tuned : Tuned tracking session checked up)
    (same : seat after session = seat tracking session)
    (kept : ∀ code driver, seat tracking session = some (.DRIVER code, driver) →
      (∀ bus, tracking.liveBuses.lookup code = some bus → bus.driverId = driver) →
      ∀ bus, after.liveBuses.lookup code = some bus →
        ∃ old, tracking.liveBuses.lookup code = some old ∧ SameBus old bus) :
    Tuned after session checked up := by
  refine ⟨tuned.tells, ?_⟩
  cases tuned.registration with
  | coming vacant plain => exact .coming (same.trans vacant) plain
  | refused vacant plain => exact .refused (same.trans vacant) plain
  | @driving code driver _ drives =>
      have back := kept code driver drives.seated drives.mine
      refine .driving ⟨drives.plain, same.trans drives.seated, ?_, ?_⟩
      · intro bus found
        obtain ⟨old, before, alike⟩ := back bus found
        rw [alike.driverId]
        exact drives.mine old before
      · intro bus found quiet fix
        obtain ⟨old, before, alike⟩ := back bus found
        rw [alike.recent] at fix
        rw [alike.visible]
        exact drives.shown old before quiet fix

/-! ### A message of the dashboard is handled -/

variable {db : Database K} {now : Int} {geo : GeoDistance K}

theorem tells_rest {request : Request K} {rest : List (Request K)}
    (tells : lastTold (request :: rest) = none ∨ lastTold (request :: rest) = some checked) :
    lastTold rest = none ∨ lastTold rest = some checked := by
  cases later : lastTold rest with
  | none => exact Or.inl rfl
  | some visible =>
      rw [lastTold, later, Option.some_or] at tells
      rcases tells with never | same
      · cases never
      · exact Or.inr same

/-- A registration starts with a visible bus that has no fix. -/
theorem registration_handled {token : Option Claims} {rest : List (Request K)}
    (vacant : seat tracking session = none) (plain : Plain rest) :
    Registration (settle tracking now geo
      (messageCall tracking now db session (.driverRegister token))) session checked rest := by
  simp only [messageCall]
  cases driverToken now token with
  | none => exact .refused vacant plain
  | some granted =>
      obtain ⟨driver, code⟩ := granted
      simp only [Option.map_some, settle, perform]
      have drives : Driving code driver (registerDriver tracking now session driver code
          (((findByCode db code).bind (BusService.busRoute db)).map fun r => (r.routeNumber : Int))
          (((findByCode db code).bind (BusService.busRoute db)).map (·.color)))
          session checked rest := by
        refine ⟨plain, ?_, ?_, ?_⟩
        · rw [seat, get_registered_driver, if_pos rfl]
          rfl
        · intro bus found
          rw [register_driver_lookup, if_pos rfl] at found
          cases found
          rfl
        · intro bus found _ fix
          rw [register_driver_lookup, if_pos rfl] at found
          cases found
          cases fix
      exact .driving drives

omit [Field K] [LinearOrder K] in
theorem request_telemetry {request : Request K} {call : Call K}
    (other : ∀ token, request ≠ .driverRegister token)
    (made : messageCall tracking now db session request.incoming = some call) :
    call.isTelemetry = true := by
  cases request with
  | driverRegister token => exact absurd rfl (other token)
  | driverLocation coords accuracy visible =>
      cases made
      rfl
  | driverOccupancy | driverVisibility =>
      obtain ⟨_, _, rfl⟩ := Option.map_eq_some_iff.mp made
      rfl
  | getOtherDrivers => cases made

theorem request_seat {request : Request K} (other : ∀ token, request ≠ .driverRegister token) :
    seat (settle tracking now geo (messageCall tracking now db session request.incoming)) session =
      seat tracking session := by
  cases made : messageCall tracking now db session request.incoming with
  | none => rfl
  | some call => exact telemetry_seat (request_telemetry other made) session

variable {code driver : String} {rest : List (Request K)}

theorem request_bus {request : Request K} (other : ∀ token, request ≠ .driverRegister token)
    (drives : Driving code driver tracking session checked (request :: rest))
    {bus : LiveBusState K}
    (found : (settle tracking now geo
      (messageCall tracking now db session request.incoming)).liveBuses.lookup code = some bus) :
    bus.driverId = driver ∧ (bus.visible = (told request).getD bus.visible) ∧
      (told request = none → ∃ old, tracking.liveBuses.lookup code = some old ∧
        SameBus old bus) := by
  obtain ⟨own, known, role, mine⟩ := seat_some.mp drives.seated
  have keeps (old : LiveBusState K) (before : tracking.liveBuses.lookup code = some old) :=
    drives.mine old before
  cases request with
  | driverRegister token => exact absurd rfl (other token)
  | driverLocation coords accuracy visible =>
      simp only [Request.incoming, messageCall, Option.map_some, settle, perform, location_lookup,
        seat_driver drives.seated, if_true, located_valid known role] at found
      by_cases valid : (isValidLatitude coords.1 && isValidLongitude coords.2) = true
      · rw [if_pos valid, Option.some_or, Option.some.injEq] at found
        subst found
        have switch : told (.driverLocation coords accuracy visible) = some visible := if_pos valid
        have switched : told (.driverLocation coords accuracy visible) ≠ none :=
          switch ▸ Option.some_ne_none visible
        refine ⟨?_, by rw [switch]; rfl, fun never => absurd never switched⟩
        simp only [LiveBusState.locate, computeIfAbsent]
        cases stored : tracking.liveBuses.lookup code with
        | none => exact mine
        | some old => exact keeps old stored
      · rw [if_neg valid, Option.none_or] at found
        have silent : told (.driverLocation coords accuracy visible) = none := if_neg valid
        exact ⟨keeps bus found, by rw [silent]; rfl, fun _ => ⟨bus, found, same_bus_refl bus⟩⟩
  | driverVisibility visible =>
      have toggles : (getSession tracking session).filter (fun session => session.role ≠ .USER) =
          some own := by
        rw [known, Option.filter_some, if_pos]
        simp [role]
      simp only [Request.incoming, messageCall, toggles, Option.map_some, settle, perform,
        visibility_lookup, Option.getD_some] at found
      obtain ⟨old, before, rfl⟩ := Option.map_eq_some_iff.mp found
      have same : old.driverId = own.clientId := (keeps old before).trans mine.symm
      rw [if_pos same]
      exact ⟨keeps old before, rfl, fun never => absurd never (Option.some_ne_none visible)⟩
  | driverOccupancy level =>
      have silent : ∀ call, messageCall tracking now db session (.driverOccupancy level) =
          some call → ¬ speaksFor tracking code driver call := by
        intro call made
        obtain ⟨_, _, rfl⟩ := Option.map_eq_some_iff.mp made
        exact id
      have same : ∃ old, tracking.liveBuses.lookup code = some old ∧ SameBus old bus := by
        cases made : messageCall tracking now db session (.driverOccupancy level) with
        | none =>
            rw [Request.incoming, made] at found
            exact ⟨bus, found, same_bus_refl bus⟩
        | some call =>
            rw [Request.incoming, made] at found
            exact unspoken_bus (silent call made) drives.mine found
      obtain ⟨old, before, alike⟩ := same
      exact ⟨alike.driverId.trans (keeps old before), rfl, fun _ => ⟨old, before, alike⟩⟩
  | getOtherDrivers =>
      exact ⟨keeps bus found, rfl, fun _ => ⟨bus, found, same_bus_refl bus⟩⟩

theorem handled_tuned {request : Request K}
    (tuned : Tuned tracking session checked (request :: rest)) [FloorRing K] :
    Tuned (handleMessage db tracking now session geo request.incoming).1 session checked rest := by
  rw [handle_message_call]
  refine ⟨tells_rest tuned.tells, ?_⟩
  generalize queued : request :: rest = up at tuned
  cases tuned.registration with
  | coming vacant plain =>
      cases queued
      exact registration_handled vacant plain
  | refused vacant plain =>
      subst queued
      have other : ∀ token, request ≠ .driverRegister token := by
        rintro token rfl
        exact plain token List.mem_cons_self
      refine .refused ((request_seat other).trans vacant) ?_
      exact fun token sent => plain token (List.mem_cons_of_mem request sent)
  | @driving code driver _ drives =>
      subst queued
      have other : ∀ token, request ≠ .driverRegister token := by
        rintro token rfl
        exact drives.plain token List.mem_cons_self
      refine .driving ⟨fun token sent => drives.plain token (List.mem_cons_of_mem request sent),
        (request_seat other).trans drives.seated, ?_, ?_⟩
      · intro bus found
        exact (request_bus other drives found).1
      · intro bus found quiet fix
        obtain ⟨_, taken, kept⟩ := request_bus other drives found
        have tells := tuned.tells
        rw [lastTold, quiet, Option.none_or] at tells
        rcases tells with silent | new
        · obtain ⟨old, before, alike⟩ := kept silent
          rw [alike.recent] at fix
          rw [alike.visible]
          refine drives.shown old before ?_ fix
          rw [lastTold, quiet, Option.none_or, silent]
        · rw [new] at taken
          exact taken

end Tuned

/-! ## Runs -/

section Runs
variable [Field K] [LinearOrder K]

/-- The server has the switch, or is about to be told of it. -/
def InStep (world : World K) (checked : Bool) : Prop :=
  ∀ link, world.link = some link → link.served = true →
    Tuned world.tracking link.session checked link.up

/-- No other session registers for the bus that the dashboard's session drives, locates it, or
switches the visibility under the same driver. -/
def leftAlone (dashboard : Dashboard K) : Action K → Prop
  | .inbound db now sessionId message =>
      ∀ link code driver, dashboard.world.link = some link →
        seat dashboard.world.tracking link.session = some (.DRIVER code, driver) →
        ∀ call, messageCall dashboard.world.tracking now db sessionId message = some call →
          ¬ speaksFor dashboard.world.tracking code driver call
  | _ => True

variable {world : World K} {checked checked' : Bool}

omit [Field K] [LinearOrder K] in
theorem post_up (link : Link K) (sends : Sends K) :
    (link.post sends).session = link.session ∧ (link.post sends).served = link.served ∧
      (link.post sends).up = link.up := by
  unfold Link.post
  split
  · exact ⟨rfl, rfl, rfl⟩
  · exact ⟨rfl, rfl, rfl⟩

theorem apply_in_step {result : Tracking K × Sends K}
    (kept : ∀ link, world.link = some link → link.served = true →
      Tuned result.1 link.session checked link.up) : InStep (world.apply result) checked := by
  intro link linked served
  obtain ⟨old, before, rfl⟩ := Option.map_eq_some_iff.mp linked
  obtain ⟨session, holds, up⟩ := post_up old result.2
  rw [session, up]
  exact kept old before (holds ▸ served)

theorem send_in_step (was : InStep world checked) {requests : List (Request K)}
    (plain : Plain requests)
    (tells : lastTold requests = some checked' ∨ lastTold requests = none ∧ checked' = checked) :
    InStep (world.send requests) checked' := by
  intro link linked served
  obtain ⟨old, before, rfl⟩ := Option.map_eq_some_iff.mp linked
  exact queue_tuned (was old before served) plain tells

theorem silent_in_step (was : InStep world checked) {requests : List (Request K)}
    (silent : ∀ request ∈ requests,
      told request = none ∧ ∀ token, request ≠ .driverRegister token) :
    InStep (world.send requests) checked := by
  refine send_in_step was (fun token sent => (silent _ sent).2 token rfl) (Or.inr ⟨?_, rfl⟩)
  induction requests with
  | nil => rfl
  | cons request rest ih =>
      rw [lastTold, ih fun other member => silent other (List.mem_cons_of_mem request member),
        Option.none_or]
      exact (silent request List.mem_cons_self).1

theorem leave_in_step (was : InStep world checked) {gone : List String}
    {result : Tracking K × Sends K} (same : result.1 = gone.foldl removeSession world.tracking) :
    InStep (world.leave gone result) checked := by
  have left : InStep ((world.forget gone).apply result) checked := by
    apply apply_in_step
    intro link linked served
    obtain ⟨old, before, rfl⟩ := Option.map_eq_some_iff.mp linked
    rw [Bool.and_eq_true, Bool.not_eq_true', decide_eq_false_iff_not] at served
    rw [same]
    refine frame_tuned (was old before served.1) (removed_seat served.2) ?_
    intro code driver _ _ bus found
    exact ⟨bus, removed_lookup world.tracking gone found, same_bus_refl bus⟩
  exact left

variable [FloorRing K] {geo : GeoDistance K}

theorem inbound_in_step (was : InStep world checked) {db : Database K} {now : Int}
    {sessionId : String} {message : Incoming K}
    (other : world.link.map (·.session) ≠ some sessionId)
    (silent : ∀ link code driver, world.link = some link →
      seat world.tracking link.session = some (.DRIVER code, driver) →
      ∀ call, messageCall world.tracking now db sessionId message = some call →
        ¬ speaksFor world.tracking code driver call) :
    InStep (world.apply (handleMessage db world.tracking now sessionId geo message)) checked := by
  apply apply_in_step
  intro link linked served
  have tuned := was link linked served
  rw [handle_message_call]
  cases made : messageCall world.tracking now db sessionId message with
  | none => exact tuned
  | some call =>
      have apart : link.session ≠ sessionId := by
        rintro rfl
        exact other (by rw [linked]; rfl)
      refine frame_tuned tuned (message_seat made apart) ?_
      intro code driver seated mine bus found
      exact unspoken_bus (silent link code driver linked seated call made) mine found

theorem tick_in_step (was : InStep world checked) (now : Int) :
    InStep (world.apply (broadcastActiveBuses world.tracking now geo)) checked := by
  apply apply_in_step
  intro link linked served
  have tuned := was link linked served
  rw [show (broadcastActiveBuses world.tracking now geo).1 =
    serve world.tracking now geo .broadcastActiveBuses from rfl, serve_eq, eventCall]
  split
  · exact tuned
  · refine frame_tuned tuned (telemetry_seat rfl link.session) ?_
    intro code driver _ mine bus found
    have silent : ¬ speaksFor world.tracking code driver .pendingProximityAlerts := id
    exact unspoken_bus silent mine found

omit [FloorRing K] in
theorem reply_silent (page : Page K) (message : Outgoing K) :
    ∀ request ∈ replies page message,
      told request = none ∧ ∀ token, request ≠ .driverRegister token := by
  intro request sent
  unfold replies at sent
  split at sent
  · split at sent
    · rw [refreshOtherDriversList, List.mem_singleton] at sent
      subst sent
      exact ⟨rfl, nofun⟩
    · cases sent
  · cases sent

variable (geo) in
theorem world_in_step {after : World K} {action : Action K}
    (taken : DriverDashboard.step geo world action = some after) (was : InStep world checked)
    (alone : leftAlone ⟨world, checked⟩ action)
    (reads : ∀ coords accuracy visible,
      action = .updateLocation coords accuracy visible → visible = checked) :
    InStep after (switched checked action) := by
  cases action with
  | inbound db now sessionId message =>
      obtain ⟨other, rfl⟩ := inbound_spec taken
      exact inbound_in_step was other alone
  | receive db now =>
      obtain ⟨link, request, rest, linked, up, served, rfl⟩ := receive_spec taken
      apply apply_in_step
      intro taken same _
      cases same
      have tuned := was link linked served
      rw [up] at tuned
      exact handled_tuned tuned
  | close sessionId =>
      rw [← Option.some.inj taken, cleanup_eq]
      exact leave_in_step was rfl
  | tick now =>
      rw [← Option.some.inj taken]
      exact tick_in_step was now
  | sweep now =>
      rw [← Option.some.inj taken]
      exact leave_in_step was rfl
  | connect session token =>
      obtain ⟨_, unknown, rfl⟩ := connect_spec taken
      intro link linked _
      cases linked
      exact ⟨Or.inl rfl, .coming (seat_none.mpr unknown) nofun⟩
  | drop =>
      rw [drop_spec taken]
      exact nofun
  | process =>
      obtain ⟨link, message, rest, linked, _, rfl⟩ := process_spec taken
      refine silent_in_step ?_ (reply_silent world.page message)
      intro same linked' served
      cases linked'
      exact was link linked served
  | toggleOtherDrivers =>
      rw [← Option.some.inj taken]
      unfold toggleOtherDrivers toggleOtherDriversDisplay
      split
      · refine silent_in_step was ?_
        intro request sent
        rw [List.mem_singleton] at sent
        subst sent
        exact ⟨rfl, nofun⟩
      · exact was
  | refreshOtherDrivers =>
      rw [← Option.some.inj taken]
      refine silent_in_step was ?_
      intro request sent
      rw [refreshOtherDriversList, List.mem_singleton] at sent
      subst sent
      exact ⟨rfl, nofun⟩
  | updateLocation coords accuracy visible =>
      rw [← Option.some.inj taken, reads coords accuracy visible rfl]
      refine send_in_step was (by simp [Plain]) ?_
      by_cases valid : (isValidLatitude coords.1 && isValidLongitude coords.2) = true
      · exact Or.inl (if_pos valid)
      · exact Or.inr ⟨if_neg valid, rfl⟩
  | reportOccupancy level =>
      rw [← Option.some.inj taken]
      refine silent_in_step was ?_
      intro request sent
      rw [List.mem_singleton] at sent
      subst sent
      exact ⟨rfl, nofun⟩
  | toggleVisibility isVisible =>
      rw [← Option.some.inj taken]
      exact send_in_step was (by simp [Plain]) (Or.inl rfl)
  | reload username =>
      rw [← Option.some.inj taken]
      exact nofun

theorem step_in_step {dashboard after : Dashboard K} {action : Action K}
    (taken : step geo dashboard action = some after) (alone : leftAlone dashboard action)
    (was : InStep dashboard.world dashboard.checked) : InStep after.world after.checked := by
  obtain ⟨stepped, switch, reads⟩ := step_spec taken
  rw [switch]
  exact world_in_step geo stepped was alone reads

/-- However often the connection drops and comes back, while no other session speaks for the
bus or its driver: once the server has handled what tells it of the switch, the bus is in the
snapshots for riders exactly if the switch is on and the bus has a fix. -/
theorem switch_obeyed {username code : String} {actions : List (Action K)}
    {dashboard : Dashboard K} {link : Link K}
    (run : Run (guarded leftAlone (fires (step geo))) (Dashboard.start username) actions dashboard)
    (linked : dashboard.world.link = some link) (served : link.served = true)
    (handled : lastTold link.up = none)
    (drives : driverBus dashboard.world.tracking link.session = some code) :
    RiderMap.onMap dashboard.world.tracking code ↔ dashboard.checked = true ∧
      ∃ bus, dashboard.world.tracking.liveBuses.lookup code = some bus ∧
        bus.recent.latest.isSome = true := by
  have inStep : InStep dashboard.world dashboard.checked :=
    run_invariant (fun dashboard : Dashboard K => InStep dashboard.world dashboard.checked)
      (fun _ _ _ taken was => step_in_step taken.2 taken.1 was) run nofun
  have shown : ∀ bus, dashboard.world.tracking.liveBuses.lookup code = some bus →
      bus.recent.latest.isSome = true → bus.visible = dashboard.checked := by
    have vacant (empty : seat dashboard.world.tracking link.session = none) : False := by
      rw [driverBus, seat_none.mp empty] at drives
      cases drives
    have registration := (inStep link linked served).registration
    generalize link.up = up at registration handled
    cases registration with
    | coming empty _ => exact (vacant empty).elim
    | refused empty _ => exact (vacant empty).elim
    | @driving own driver _ holds =>
        have same : code = own := Option.some.inj (drives.symm.trans (seat_driver holds.seated))
        rw [same]
        exact fun bus found fix => holds.shown bus found handled fix
  constructor
  · rintro ⟨bus, found, visible, fix⟩
    exact ⟨(shown bus found fix).symm.trans visible, bus, found, fix⟩
  · rintro ⟨on, bus, found, fix⟩
    exact ⟨bus, found, (shown bus found fix).trans on, fix⟩

end Runs

/-! ## A connection drops -/

def ashaToken : Claims := ⟨"asha", "DRIVER", "Asha", some "bus-1", 0, 100⟩

/-- Asha hides her bus, but the connection drops before the server is told. -/
def droppedToggle : List (Action ℚ) :=
  [.connect "s1" (some ashaToken), .receive Database.empty 1, .updateLocation (1, 2) 5 true,
    .receive Database.empty 2, .toggleVisibility false, .drop, .connect "s2" (some ashaToken),
    .receive Database.empty 3, .updateLocation (1, 3) 5 false, .receive Database.empty 4]

theorem dropped_toggle : ∃ dashboard : Dashboard ℚ,
    Run (guarded leftAlone (fires (step taxicab))) (Dashboard.start "asha") droppedToggle
        dashboard ∧
      (RiderMap.onMap dashboard.world.tracking "bus-1" ↔ dashboard.checked = true ∧
        ∃ bus, dashboard.world.tracking.liveBuses.lookup "bus-1" = some bus ∧
          bus.recent.latest.isSome = true) := by
  have run : ∃ (dashboard : Dashboard ℚ) (link : Link ℚ),
      Run (guarded leftAlone (fires (step taxicab))) (Dashboard.start "asha") droppedToggle
        dashboard ∧ dashboard.world.link = some link ∧ link.served = true ∧ link.up = [] ∧
      driverBus dashboard.world.tracking link.session = some "bus-1" :=
    ⟨_, _, Run.next ⟨trivial, rfl⟩ (Run.next ⟨trivial, rfl⟩ (Run.next ⟨trivial, rfl⟩
      (Run.next ⟨trivial, rfl⟩ (Run.next ⟨trivial, rfl⟩ (Run.next ⟨trivial, rfl⟩
      (Run.next ⟨trivial, rfl⟩ (Run.next ⟨trivial, rfl⟩ (Run.next ⟨trivial, rfl⟩
      (Run.next ⟨trivial, rfl⟩ (Run.refl _)))))))))), rfl, rfl, rfl, rfl⟩
  obtain ⟨dashboard, link, run, linked, served, up, drives⟩ := run
  exact ⟨dashboard, run, switch_obeyed run linked served (by rw [up]; rfl) drives⟩

end CityBus.DriverSwitch
