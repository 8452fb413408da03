import CityBus.GuardedRuns
import CityBus.MessageQueues
import CityBus.TrackingHandler

/-!
The server with one rider's page (`script.js`) on the other end of a socket. A
socket carries messages in order both ways until it drops; what is under way then
is lost. The server may have closed a socket that the page still takes for open.
Messages of other sessions reach the server one at a time, as they come.
-/

namespace CityBus.RiderProtocol

open GeoUtils KeyedMaps LiveTracking MessageQueues Store TrackingHandler

variable {K : Type}

inductive Request (K : Type) where
  | userRegister (userId : String)
  | userLocation (lat lng : K)
  | subscribeRoute (routeNumber : Option Int)
  | trackBus (busId : String)

def Request.incoming : Request K → Incoming K
  | .userRegister userId => .userRegister userId
  | .userLocation lat lng => .userLocation (some (lat, lng))
  | .subscribeRoute routeNumber => .subscribeRoute routeNumber
  | .trackBus busId => .trackBus (some busId)

/-- `served` as long as the handler has the socket. -/
structure Link (K : Type) where
  session : String
  served : Bool
  up : List (Request K)
  down : List (Outgoing K)

/-- `routeLayers` as the route on show; `tracked` is the bus of the latest `trackBus`. -/
structure Page (K : Type) where
  busMarkers : KeyedMap String (K × K)
  busRoutes : List Int
  routeLayers : Option Int
  tracked : Option String
  userLocation : Option (K × K)

/-- `synced` tells whether the server has sent the rider a full snapshot and the
buses on the map have been the same since. -/
structure World (K : Type) where
  tracking : Tracking K
  link : Option (Link K)
  page : Page K
  synced : Bool

inductive Action (K : Type) where
  | inbound (db : Database K) (now : Int) (sessionId : String) (message : Incoming K)
  | receive (db : Database K) (now : Int)
  | close (sessionId : String)
  | tick (now : Int)
  | sweep (now : Int)
  | connect (session userId : String)
  | drop
  | process
  | locate (lat lng : K)
  | loadBusRoutes (routes : List Int)
  | trackBus (busId : String) (routeId : Int)
  | selectBusRoute (routeId : Int)
  | clearRouteSelection

def Page.fresh : Page K := ⟨∅, [], none, none, none⟩

def World.start : World K := ⟨Tracking.empty, none, Page.fresh, false⟩

/-! ## The page -/

/-- What the page finds in `busMarkers` under this bus code is no marker but a property that
every object inherits, and `setLatLng` and `getLatLng` of it fail. Of the names of such
properties no other is a bus code. -/
def inherited (busId : String) : Bool := busId = "constructor"

/-- Bus codes are not blank; a bus without a fix is skipped. -/
def updateBusLocations (busMarkers : KeyedMap String (K × K)) :
    List (LiveBusDto K) → KeyedMap String (K × K)
  | [] => busMarkers
  | bus :: rest =>
      match bus.coords with
      | none => updateBusLocations busMarkers rest
      | some coords =>
          -- The error leaves the loop; `onmessage` drops it.
          if inherited bus.busId then busMarkers
          else updateBusLocations (busMarkers.insert bus.busId coords) rest

def updateSingleBusLocation (busMarkers : KeyedMap String (K × K)) (bus : LiveBusDto K) :
    KeyedMap String (K × K) :=
  match bus.coords with
  | none => busMarkers
  | some coords =>
      if inherited bus.busId then busMarkers
      else if (busMarkers.lookup bus.busId).isSome then busMarkers.insert bus.busId coords
      else updateBusLocations busMarkers [bus]

def removeBusMarker (busMarkers : KeyedMap String (K × K)) (busId : String) :
    KeyedMap String (K × K) :=
  busMarkers.erase busId

def handleWebSocketMessage (busMarkers : KeyedMap String (K × K)) :
    Outgoing K → KeyedMap String (K × K)
  | .activeBuses buses => updateBusLocations busMarkers buses
  | .busLocationUpdate bus => updateSingleBusLocation busMarkers bus
  | .driverLeft _ busId => removeBusMarker busMarkers busId
  | _ => busMarkers

/-- `ws.send` where the page takes the socket for open; else nothing is sent. -/
def World.send (world : World K) (requests : List (Request K)) : World K :=
  { world with link := world.link.map fun link => { link with up := link.up ++ requests } }

def subscribeToRoute (world : World K) (routeId : Option Int) : World K :=
  world.send [.subscribeRoute routeId]

-- A route that is not loaded is not drawn; the caller subscribes all the same.
def showRoute (world : World K) (routeId : Int) : World K :=
  if routeId ∈ world.page.busRoutes then
    { world with page := { world.page with routeLayers := some routeId } }
  else world

def clearRouteSelection (world : World K) : World K :=
  subscribeToRoute { world with page := { world.page with routeLayers := none } } none

def selectBusRoute (world : World K) (routeId : Int) : World K :=
  subscribeToRoute (showRoute (clearRouteSelection world) routeId) (some routeId)

/-- `showRouteLadder` of a loaded route, which has stops, asks the marker of the bus for its
place; where that fails, the click ends before the bus is sent. -/
def trackBus (world : World K) (busId : String) (routeId : Int) : World K :=
  let subscribed := subscribeToRoute (showRoute (clearRouteSelection world) routeId) (some routeId)
  let sent :=
    if inherited busId && routeId ∈ world.page.busRoutes then subscribed
    else subscribed.send [.trackBus busId]
  { sent with page := { sent.page with tracked := some busId } }

def connect (world : World K) (session userId : String) : World K :=
  let located := world.page.userLocation.map fun coords => Request.userLocation coords.1 coords.2
  -- Of what the server forgot, only the location is told again.
  { world with
    link := some ⟨session, true, .userRegister userId :: located.toList, []⟩
    synced := false }

/-! ## The server -/

def mapped (tracking : Tracking K) : List String :=
  (((values tracking.liveBuses).filter (·.visible)).filter fun bus =>
    bus.recent.latest.isSome).map (·.busCode)

def sameBuses (before after : Tracking K) : Bool :=
  (mapped before).all (· ∈ mapped after) && (mapped after).all (· ∈ mapped before)

/-- Messages to a session reach its socket as long as the handler has it. -/
def Link.post (link : Link K) (sends : Sends K) : Link K :=
  if link.served then
    { link with down := link.down ++ (sends.filter fun send => send.1 = link.session).map (·.2) }
  else link

def World.apply (world : World K) (result : Tracking K × Sends K) : World K :=
  { world with
    tracking := result.1
    link := world.link.map fun link => link.post result.2
    synced := world.synced && sameBuses world.tracking result.1 }

/-- The handler forgets sockets before it announces who left. -/
def World.forget (world : World K) (gone : List String) : World K :=
  { world with link := world.link.map fun link =>
      { link with served := link.served && !(link.session ∈ gone) } }

theorem forget_link {world : World K} {gone : List String} {link : Link K}
    (linked : (world.forget gone).link = some link) (served : link.served = true) :
    link.session ∉ gone ∧ ∃ old, world.link = some old ∧ old.served = true ∧
      link.session = old.session ∧ link.up = old.up := by
  obtain ⟨old, before, same⟩ := Option.map_eq_some_iff.mp linked
  rw [← same] at served
  simp only [Bool.and_eq_true, Bool.not_eq_true', decide_eq_false_iff_not] at served
  rw [← same]
  exact ⟨served.2, old, before, served.1, rfl, rfl⟩

def hearing (world : World K) : Bool :=
  match world.link with
  | none => false
  | some link => link.served && (userSessions world.tracking).any fun s => s.sessionId = link.session

section Steps
variable [Field K] [LinearOrder K] [FloorRing K] (geo : GeoDistance K)

def receive (world : World K) (db : Database K) (now : Int) (link : Link K) : Option (World K) :=
  match link.up with
  | [] => none
  | request :: rest =>
      if link.served then
        let taken := { world with link := some { link with up := rest } }
        let after := taken.apply
          (handleMessage db world.tracking now link.session geo request.incoming)
        match request with
        | .userRegister _ => some { after with synced := true }
        | _ => some after
      else none

def step (world : World K) : Action K → Option (World K)
  | .inbound db now sessionId message =>
      if (world.link.map (·.session)) = some sessionId then none
      else some (world.apply (handleMessage db world.tracking now sessionId geo message))
  | .receive db now => world.link.bind fun link => receive geo world db now link
  | .close sessionId =>
      some ((world.forget [sessionId]).apply (cleanup world.tracking sessionId))
  | .tick now =>
      let after := world.apply (broadcastActiveBuses world.tracking now geo)
      some { after with synced := world.synced || hearing world }
  | .sweep now =>
      let stale := (staleSessions world.tracking now STALE_SESSION_TIMEOUT_MS).map (·.sessionId)
      some ((world.forget stale).apply (evictStale world.tracking now))
  | .connect session userId =>
      if world.link.isSome || (getSession world.tracking session).isSome then none
      else some (connect world session userId)
  | .drop => world.link.map fun _ => { world with link := none, synced := false }
  | .process =>
      world.link.bind fun link =>
        match link.down with
        | [] => none
        | message :: rest => some
            { world with
              link := some { link with down := rest }
              page := { world.page with
                busMarkers := handleWebSocketMessage world.page.busMarkers message } }
  | .locate lat lng => some
      ({ world with page := { world.page with userLocation := some (lat, lng) } }.send
        [.userLocation lat lng])
  | .loadBusRoutes routes =>
      some { world with page := { world.page with busRoutes := routes } }
  | .trackBus busId routeId => some (trackBus world busId routeId)
  | .selectBusRoute routeId => some (selectBusRoute world routeId)
  | .clearRouteSelection => some (clearRouteSelection world)

/-! ## What a step does -/

section Cases
variable {geo} {world after : World K}

theorem inbound_spec {db : Database K} {now : Int} {sessionId : String} {message : Incoming K}
    (taken : step geo world (.inbound db now sessionId message) = some after) :
    world.link.map (·.session) ≠ some sessionId ∧
      after = world.apply (handleMessage db world.tracking now sessionId geo message) := by
  simp only [step] at taken
  split at taken
  · cases taken
  · rename_i other
    exact ⟨other, (Option.some.inj taken).symm⟩

theorem receive_spec {db : Database K} {now : Int}
    (taken : step geo world (.receive db now) = some after) :
    ∃ (link : Link K) (request : Request K) (rest : List (Request K)) (synced : Bool),
      world.link = some link ∧ link.up = request :: rest ∧ link.served = true ∧
      after = { World.apply { world with link := some { link with up := rest } }
          (handleMessage db world.tracking now link.session geo request.incoming) with
        synced := synced } ∧
      (synced = (World.apply { world with link := some { link with up := rest } }
          (handleMessage db world.tracking now link.session geo request.incoming)).synced ∨
        ∃ userId, request = .userRegister userId) := by
  obtain ⟨link, linked, taken⟩ := Option.bind_eq_some_iff.mp taken
  unfold receive at taken
  split at taken
  · cases taken
  · rename_i request rest up
    split at taken
    · rename_i served
      cases request with
      | userRegister userId =>
          exact ⟨link, _, rest, true, linked, up, served, (Option.some.inj taken).symm,
            Or.inr ⟨userId, rfl⟩⟩
      | userLocation lat lng =>
          exact ⟨link, _, rest, _, linked, up, served, (Option.some.inj taken).symm, Or.inl rfl⟩
      | subscribeRoute routeNumber =>
          exact ⟨link, _, rest, _, linked, up, served, (Option.some.inj taken).symm, Or.inl rfl⟩
      | trackBus busId =>
          exact ⟨link, _, rest, _, linked, up, served, (Option.some.inj taken).symm, Or.inl rfl⟩
    · cases taken

theorem connect_spec {session userId : String}
    (taken : step geo world (.connect session userId) = some after) :
    world.link = none ∧ getSession world.tracking session = none ∧
      after = connect world session userId := by
  simp only [step] at taken
  split at taken
  · cases taken
  · rename_i free
    rw [Bool.or_eq_true, not_or, Bool.not_eq_true, Bool.not_eq_true, Option.isSome_eq_false_iff,
      Option.isSome_eq_false_iff, Option.isNone_iff_eq_none, Option.isNone_iff_eq_none] at free
    exact ⟨free.1, free.2, (Option.some.inj taken).symm⟩

theorem process_spec (taken : step geo world .process = some after) :
    ∃ (link : Link K) (message : Outgoing K) (rest : List (Outgoing K)),
      world.link = some link ∧ link.down = message :: rest ∧
      after = { world with
        link := some { link with down := rest }
        page := { world.page with
          busMarkers := handleWebSocketMessage world.page.busMarkers message } } := by
  obtain ⟨link, linked, taken⟩ := Option.bind_eq_some_iff.mp taken
  split at taken
  · cases taken
  · rename_i message rest down
    exact ⟨link, message, rest, linked, down, (Option.some.inj taken).symm⟩

end Cases

end Steps

end CityBus.RiderProtocol
