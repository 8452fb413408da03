import CityBus.MessageQueues
import CityBus.TrackingHandler

/-!
The server with one driver's dashboard (`driver_script.js`) on the other end of a
socket. The dashboard may show the other drivers: a marker for each, kept under the
driver's id, and a list. A socket carries messages in order both ways until it drops;
markers and list survive that. Messages of other sessions reach the server one at a
time, as they come.
-/

namespace CityBus.DriverDashboard

open AuthService GeoUtils KeyedMaps LiveTracking Store TrackingHandler

variable {K : Type}

inductive Request (K : Type) where
  | driverRegister (token : Option Claims)
  | driverLocation (coords : K × K) (accuracy : K) (visible : Bool)
  | driverOccupancy (level : String)
  | driverVisibility (visible : Bool)
  | getOtherDrivers

def Request.incoming : Request K → Incoming K
  | .driverRegister token => .driverRegister token
  | .driverLocation coords accuracy visible =>
      .driverLocation (some coords) (some accuracy) (some visible)
  | .driverOccupancy level => .driverOccupancy level
  | .driverVisibility visible => .driverVisibility (some visible)
  | .getOtherDrivers => .getOtherDrivers

/-- `served` as long as the handler has the socket. -/
structure Link (K : Type) where
  session : String
  served : Bool
  up : List (Request K)
  down : List (Outgoing K)

structure Page (K : Type) where
  username : String
  showOtherDrivers : Bool
  otherDriverMarkers : KeyedMap String (K × K)
  otherDriversList : List (LiveBusDto K)

/-- `departed` are the drivers whose last session has left the server by a close, a
transport error or an eviction, and who have not registered since. -/
structure World (K : Type) where
  tracking : Tracking K
  link : Option (Link K)
  page : Page K
  departed : List String

inductive Action (K : Type) where
  | inbound (db : Database K) (now : Int) (sessionId : String) (message : Incoming K)
  | receive (db : Database K) (now : Int)
  | close (sessionId : String)
  | tick (now : Int)
  | sweep (now : Int)
  | connect (session : String) (token : Option Claims)
  | drop
  | process
  | toggleOtherDrivers
  | refreshOtherDrivers
  | updateLocation (coords : K × K) (accuracy : K) (visible : Bool)
  | reportOccupancy (level : String)
  | toggleVisibility (isVisible : Bool)
  | reload (username : String)

def Page.fresh (username : String) : Page K := ⟨username, false, ∅, []⟩

def World.start (username : String) : World K := ⟨Tracking.empty, none, Page.fresh username, []⟩

/-! ## The dashboard -/

def updateOtherDriversOnMap (page : Page K) (drivers : List (LiveBusDto K)) : Page K :=
  { page with
    otherDriverMarkers := drivers.foldl (fun markers driver =>
      if driver.driverId = page.username then markers else
        match driver.coords with
        | none => markers
        | some coords => markers.insert driver.driverId coords) page.otherDriverMarkers }

def updateOtherDriversList (page : Page K) (drivers : List (LiveBusDto K)) : Page K :=
  { page with otherDriversList := drivers.filter fun driver => driver.driverId ≠ page.username }

def updateSingleDriverLocation (page : Page K) (driver : LiveBusDto K) : Page K :=
  if driver.driverId = page.username then page else
    match driver.coords with
    | none => page
    | some coords =>
        if (page.otherDriverMarkers.lookup driver.driverId).isSome then
          { page with
            otherDriverMarkers := page.otherDriverMarkers.insert driver.driverId coords }
        else page

def removeDriverMarker (page : Page K) (driverId : String) : Page K :=
  if (page.otherDriverMarkers.lookup driverId).isSome then
    updateOtherDriversList
      { page with otherDriverMarkers := page.otherDriverMarkers.erase driverId } []
  else page

def handleWebSocketMessage (page : Page K) : Outgoing K → Page K
  | .otherDrivers drivers =>
      if page.showOtherDrivers then
        updateOtherDriversList (updateOtherDriversOnMap page drivers) drivers
      else page
  | .driverLocationUpdate driver =>
      if page.showOtherDrivers then updateSingleDriverLocation page driver else page
  | .driverLeft driverId _ => removeDriverMarker page driverId
  | _ => page

def refreshOtherDriversList : List (Request K) := [.getOtherDrivers]

def replies (page : Page K) : Outgoing K → List (Request K)
  | .newDriverAvailable _ _ => if page.showOtherDrivers then refreshOtherDriversList else []
  | _ => []

/-- `ws.send` where the dashboard takes the socket for open; else nothing is sent. -/
def World.send (world : World K) (requests : List (Request K)) : World K :=
  { world with link := world.link.map fun link => { link with up := link.up ++ requests } }

def toggleOtherDriversDisplay (world : World K) : World K :=
  if world.page.showOtherDrivers then world.send [.getOtherDrivers]
  else { world with page := { world.page with otherDriverMarkers := ∅ } }

def toggleOtherDrivers (world : World K) : World K :=
  toggleOtherDriversDisplay
    { world with page := { world.page with showOtherDrivers := !world.page.showOtherDrivers } }

/-! ## The server -/

def drivers (tracking : Tracking K) : List String := (driverSessions tracking).map (·.clientId)

/-- Messages to a session reach its socket as long as the handler has it. -/
def Link.post (link : Link K) (sends : Sends K) : Link K :=
  if link.served then
    { link with down := link.down ++ (sends.filter fun send => send.1 = link.session).map (·.2) }
  else link

/-- A driver who registers has not departed. -/
def World.apply (world : World K) (result : Tracking K × Sends K) : World K :=
  { world with
    tracking := result.1
    link := world.link.map fun link => link.post result.2
    departed := world.departed.filter (· ∉ drivers result.1) }

/-- The handler forgets sockets before it announces who left. -/
def World.forget (world : World K) (gone : List String) : World K :=
  { world with link := world.link.map fun link =>
      { link with served := link.served && !(link.session ∈ gone) } }

def lastSeenOff (before after : Tracking K) : List String :=
  (drivers before).filter (· ∉ drivers after)

def World.leave (world : World K) (gone : List String) (result : Tracking K × Sends K) : World K :=
  let left := (world.forget gone).apply result
  { left with departed := left.departed ++ lastSeenOff world.tracking result.1 }

section Steps
variable [Field K] [LinearOrder K] [FloorRing K] (geo : GeoDistance K)

def receive (world : World K) (db : Database K) (now : Int) (link : Link K) : Option (World K) :=
  match link.up with
  | [] => none
  | request :: rest =>
      if link.served then
        let taken := { world with link := some { link with up := rest } }
        some (taken.apply (handleMessage db world.tracking now link.session geo request.incoming))
      else none

def step (world : World K) : Action K → Option (World K)
  | .inbound db now sessionId message =>
      if (world.link.map (·.session)) = some sessionId then none
      else some (world.apply (handleMessage db world.tracking now sessionId geo message))
  | .receive db now => world.link.bind fun link => receive geo world db now link
  -- `afterConnectionClosed` and `handleTransportError` alike.
  | .close sessionId => some (world.leave [sessionId] (cleanup world.tracking sessionId))
  | .tick now => some (world.apply (broadcastActiveBuses world.tracking now geo))
  | .sweep now =>
      let stale := (staleSessions world.tracking now STALE_SESSION_TIMEOUT_MS).map (·.sessionId)
      some (world.leave stale (evictStale world.tracking now))
  | .connect session token =>
      if world.link.isSome || (getSession world.tracking session).isSome then none
      else some { world with link := some ⟨session, true, [.driverRegister token], []⟩ }
  | .drop => world.link.map fun _ => { world with link := none }
  | .process =>
      world.link.bind fun link =>
        match link.down with
        | [] => none
        | message :: rest =>
            let taken : World K := { world with
              link := some { link with down := rest }
              page := handleWebSocketMessage world.page message }
            some (taken.send (replies world.page message))
  | .toggleOtherDrivers => some (toggleOtherDrivers world)
  | .refreshOtherDrivers => some (world.send refreshOtherDriversList)
  | .updateLocation coords accuracy visible =>
      some (world.send [.driverLocation coords accuracy visible])
  | .reportOccupancy level => some (world.send [.driverOccupancy level])
  | .toggleVisibility isVisible => some (world.send [.driverVisibility isVisible])
  -- Logging out or leaving the page closes the socket.
  | .reload username => some { world with link := none, page := Page.fresh username }

/-! ## What a step does -/

section Cases
variable {geo} {world after : World K}

theorem inbound_spec {db : Database K} {now : Int} {sessionId : String} {message : Incoming K}
    (taken : step geo world (.inbound db now sessionId message) = some after) :
    world.link.map (·.session) ≠ some sessionId ∧
      after = world.apply (handleMessage db world.tracking now sessionId geo message) := by
  simp only [step] at taken
  split at taken
  · cases taken
  · rename_i other
    exact ⟨other, (Option.some.inj taken).symm⟩

theorem receive_spec {db : Database K} {now : Int}
    (taken : step geo world (.receive db now) = some after) :
    ∃ (link : Link K) (request : Request K) (rest : List (Request K)),
      world.link = some link ∧ link.up = request :: rest ∧ link.served = true ∧
      after = World.apply { world with link := some { link with up := rest } }
        (handleMessage db world.tracking now link.session geo request.incoming) := by
  obtain ⟨link, linked, taken⟩ := Option.bind_eq_some_iff.mp taken
  unfold receive at taken
  split at taken
  · cases taken
  · rename_i request rest up
    split at taken
    · rename_i served
      exact ⟨link, request, rest, linked, up, served, (Option.some.inj taken).symm⟩
    · cases taken

theorem connect_spec {session : String} {token : Option Claims}
    (taken : step geo world (.connect session token) = some after) :
    world.link = none ∧ getSession world.tracking session = none ∧
      after = { world with link := some ⟨session, true, [.driverRegister token], []⟩ } := by
  simp only [step] at taken
  split at taken
  · cases taken
  · rename_i free
    rw [Bool.or_eq_true, not_or, Bool.not_eq_true, Bool.not_eq_true, Option.isSome_eq_false_iff,
      Option.isSome_eq_false_iff, Option.isNone_iff_eq_none, Option.isNone_iff_eq_none] at free
    exact ⟨free.1, free.2, (Option.some.inj taken).symm⟩

theorem drop_spec (taken : step geo world .drop = some after) :
    after = { world with link := none } := by
  obtain ⟨link, linked, same⟩ := Option.map_eq_some_iff.mp taken
  exact same.symm

theorem process_spec (taken : step geo world .process = some after) :
    ∃ (link : Link K) (message : Outgoing K) (rest : List (Outgoing K)),
      world.link = some link ∧ link.down = message :: rest ∧
      after = World.send { world with
        link := some { link with down := rest }
        page := handleWebSocketMessage world.page message } (replies world.page message) := by
  obtain ⟨link, linked, taken⟩ := Option.bind_eq_some_iff.mp taken
  split at taken
  · cases taken
  · rename_i message rest down
    exact ⟨link, message, rest, linked, down, (Option.some.inj taken).symm⟩

end Cases

end Steps

end CityBus.DriverDashboard
