import CityBus.ArrivalAlert
import CityBus.RideGeometry
import CityBus.RiderProtocol

/-!
The arrival panel of the live map with all it stands beside: the highlighted line
from the bus to the rider, what the share button gives away, the markers and the
bell. Tracking a bus, closing the panel and every message from the server change
some of these, each in its own order.
-/

namespace CityBus.RiderEta

open GeoUtils JourneyGraph JourneyPlan Polylines PathProjection RideGeometry EtaEngine
  LineDiagram ArrivalAlert
open RiderProtocol (inherited)

variable {K : Type} [Field K] [LinearOrder K]

/-! ## The page -/

/-- `window.lastEtaInfo`, for the share button and the bell. -/
structure EtaInfo (K : Type) where
  busId : String
  routeName : String
  distKm : K
  etaMins : Int

structure RiderPage (K : Type) where
  eta : EtaPage K
  /-- Where the bus markers are. -/
  busMarkers : String → Option (K × K)
  /-- The points handed to the map, `undefined` among them if a list were too short. -/
  etaPolyline : Option (List (Option (K × K)))
  lastEtaInfo : Option (EtaInfo K)

def eta_subPath (path : List (K × K)) (busPos userPos : RoutePos K) : List (Option (K × K)) :=
  busPos.pt ::
    ((List.range' (busPos.seg + 1) (userPos.seg - busPos.seg)).map (path[·]?) ++
      [if userPos.seg < path.length - 1 then
        match path[userPos.seg]?, path[userPos.seg + 1]? with
        | some s, some e => some (along s e userPos.t)
        | _, _ => none
      else path[path.length - 1]?])

def drawETAPolyline (page : RiderPage K) (points : List (Option (K × K))) : RiderPage K :=
  if points.length < 2 then page else { page with etaPolyline := some points }

section Page
variable [FloorRing K] (geo : GeoDistance K)

/-- The panel and the alert are those of `ArrivalAlert`. -/
def calculateAndShowETA (page : RiderPage K) (busId routeId : String) (busCoords : K × K) :
    RiderPage K :=
  let shown :=
    { page with eta := ArrivalAlert.calculateAndShowETA geo page.eta busId routeId busCoords }
  match page.eta.busRoutes routeId, page.eta.userLocation with
  | some route, some user =>
      if route.path.length < 2 then shown else
        let path := etaPath route
        let distKm := toRider geo route user busCoords
        -- passed
        if distKm < -band then { shown with etaPolyline := none }
        -- arriving
        else if distKm < band then { shown with etaPolyline := none }
        else
          let sub := eta_subPath path (eta_routePos geo busCoords path) (eta_routePos geo user path)
          { drawETAPolyline shown sub with
            lastEtaInfo :=
              some ⟨busId, route.name, distKm, minutesFor distKm (etaSpeedFor page.eta busId).1⟩ }
  | _, _ => shown

def disarm (page : EtaPage K) : EtaPage K := { page with etaNotify := ⟨none, false⟩ }

def toggle (page : EtaPage K) (busId : String) : EtaPage K :=
  if page.etaNotify.busId = some busId then disarm page else arm page busId

def hideETAPanel (page : RiderPage K) : RiderPage K :=
  { page with
    eta := { disarm page.eta with panel := none, activeEtaBusId := none, activeEtaRouteId := none }
    etaPolyline := none
    lastEtaInfo := none }

def triggerETA (page : RiderPage K) (busId routeId : String) : RiderPage K :=
  match page.busMarkers busId with
  | some busCoords => calculateAndShowETA geo page busId routeId busCoords
  | none =>
      let routeName := match page.eta.busRoutes routeId with
        | some route => route.name
        | none => ""
      { page with
        eta := { page.eta with
          activeEtaBusId := some busId
          activeEtaRouteId := some routeId
          panel := some ⟨busId, routeName, none, none, "Bus is offline — waiting for live GPS"⟩ } }

/-- After `clearRouteSelection`, which closes the panel. The place of an inherited property
is asked for in vain, by the line diagram or by `triggerETA`. -/
def trackBus (page : RiderPage K) (busId routeId : String) : RiderPage K :=
  if inherited busId then hideETAPanel page
  else triggerETA geo (hideETAPanel page) busId routeId

def selectBusRoute (page : RiderPage K) (routeId : String) (busId : Option String) : RiderPage K :=
  match busId with
  | none => hideETAPanel page
  | some bus =>
      if bus = "" || inherited bus then hideETAPanel page
      else triggerETA geo (hideETAPanel page) bus routeId

structure BusFix (K : Type) where
  busId : String
  speedKmh : Option K
  coords : K × K

def placeBus (page : RiderPage K) (bus : BusFix K) : RiderPage K :=
  { page with
    eta := prepared page.eta (.update bus.busId bus.speedKmh bus.coords)
    busMarkers := fun id => if id = bus.busId then some bus.coords else page.busMarkers id }

def updateBusLocations (page : RiderPage K) : List (BusFix K) → RiderPage K
  | [] => page
  | bus :: rest =>
      -- The speed is written down before `setLatLng` fails.
      if inherited bus.busId then
        { page with eta := prepared page.eta (.update bus.busId bus.speedKmh bus.coords) }
      else updateBusLocations (placeBus page bus) rest

def removeBusMarker (page : RiderPage K) (busId : String) : RiderPage K :=
  { page with
    eta := { page.eta with
      liveBusSpeeds := fun id => if id = busId then none else page.eta.liveBusSpeeds id }
    busMarkers := fun id => if id = busId then none else page.busMarkers id }

def notifyClick (page : RiderPage K) : RiderPage K :=
  match page.lastEtaInfo with
  | none => page
  | some info => if info.busId = "" then page else { page with eta := toggle page.eta info.busId }

inductive PageEvent (K : Type) where
  | eta (event : EtaEvent K)
  | snapshot (buses : List (BusFix K))
  | left (busId : String)
  | loaded (busRoutes : String → Option (BusRoute K))
  | trackBus (busId routeId : String)
  | selectBusRoute (routeId : String) (busId : Option String)
  | close
  | notify

def fails : EtaEvent K → Bool
  | .update busId _ _ => inherited busId
  | _ => false

def received (page : RiderPage K) : EtaEvent K → RiderPage K
  | .update busId speedKmh coords => updateBusLocations page [⟨busId, speedKmh, coords⟩]
  | event => { page with eta := prepared page.eta event }

def asked (page : RiderPage K) (event : EtaEvent K) : Option (String × String × (K × K)) :=
  if fails event then none else calculation page.eta event

def step (page : RiderPage K) : PageEvent K → RiderPage K
  | .eta event =>
      match asked page event with
      | none => received page event
      | some (busId, routeId, coords) =>
          calculateAndShowETA geo (received page event) busId routeId coords
  | .snapshot buses => updateBusLocations page buses
  | .left busId => removeBusMarker page busId
  | .loaded busRoutes => { page with eta := { page.eta with busRoutes } }
  | .trackBus busId routeId => trackBus geo page busId routeId
  | .selectBusRoute routeId busId => selectBusRoute geo page routeId busId
  | .close => hideETAPanel page
  | .notify => notifyClick page

end Page

/-! ## The exits -/

section Exits

def Away (distKm : K) : Prop := -band ≤ distKm ∧ band ≤ distKm

/-- The exit with minutes: panel, line and share information are of one calculation. -/
structure Drawn (geo : GeoDistance K) (page : RiderPage K) (busId routeId : String)
    (busCoords : K × K) (route : BusRoute K) (user : K × K) (mins : Int) : Prop where
  served : page.eta.busRoutes routeId = some route
  long : 2 ≤ route.path.length
  located : page.eta.userLocation = some user
  away : Away (toRider geo route user busCoords)
  soon : 0 < mins
  panel : ∃ status, page.eta.panel =
    some ⟨busId, route.name, some (toRider geo route user busCoords), some mins, status⟩
  info : page.lastEtaInfo = some ⟨busId, route.name, toRider geo route user busCoords, mins⟩
  line : page.etaPolyline = some (eta_subPath (etaPath route)
    (eta_routePos geo busCoords (etaPath route)) (eta_routePos geo user (etaPath route)))

/-- The other exits: nothing known of the route, no location, passed or arriving. -/
inductive Blank (page after : RiderPage K) (busId : String) : Prop where
  | unserved (same : after = page)
  | unlocated (nowhere : page.eta.userLocation = none) (line : after.etaPolyline = page.etaPolyline)
      (info : after.lastEtaInfo = page.lastEtaInfo)
      (panel : ∃ name status, after.eta.panel = some ⟨busId, name, none, none, status⟩)
  | near (line : after.etaPolyline = none) (info : after.lastEtaInfo = page.lastEtaInfo)
      (panel : ∃ name km mins status, after.eta.panel = some ⟨busId, name, some km, mins, status⟩ ∧
        (mins = none ∨ mins = some 0))

variable [FloorRing K] (geo : GeoDistance K)

omit [LinearOrder K] [FloorRing K] in
theorem sub_path_points (path : List (K × K)) (busPos userPos : RoutePos K) :
    2 ≤ (eta_subPath path busPos userPos).length := by
  simp [eta_subPath]

omit [Field K] [LinearOrder K] in
theorem check_frame (page : EtaPage K) (busId : String) (etaMins : Int) :
    (check page busId etaMins).busRoutes = page.busRoutes ∧
      (check page busId etaMins).userLocation = page.userLocation ∧
      (check page busId etaMins).activeEtaBusId = page.activeEtaBusId ∧
      ((check page busId etaMins).etaNotify = page.etaNotify ∨
        (check page busId etaMins).etaNotify.busId = none) := by
  unfold check
  split
  · exact ⟨rfl, rfl, rfl, Or.inl rfl⟩
  · split
    · exact ⟨rfl, rfl, rfl, Or.inr rfl⟩
    · exact ⟨rfl, rfl, rfl, Or.inl rfl⟩

/-- What a calculation for `busId` never touches, and what it may. -/
structure Framed (page after : EtaPage K) (busId : String) : Prop where
  busRoutes : after.busRoutes = page.busRoutes
  userLocation : after.userLocation = page.userLocation
  notify : after.etaNotify = page.etaNotify ∨ after.etaNotify.busId = none
  active : after = page ∨ after.activeEtaBusId = some busId

def Serves (page : EtaPage K) (routeId : String) (route : BusRoute K) : Prop :=
  page.busRoutes routeId = some route ∧ 2 ≤ route.path.length

theorem panel_exits (page : EtaPage K) (busId routeId : String) (busCoords : K × K)
    (after : EtaPage K)
    (result : ArrivalAlert.calculateAndShowETA geo page busId routeId busCoords = after) :
    Framed page after busId ∧
      (((∀ route, ¬ Serves page routeId route) ∧ after = page) ∨
      (∃ route, Serves page routeId route ∧ page.userLocation = none ∧
        ∃ status, after.panel = some ⟨busId, route.name, none, none, status⟩) ∨
      ∃ route user, Serves page routeId route ∧ page.userLocation = some user ∧
        ((¬ Away (toRider geo route user busCoords) ∧ ∃ km mins status,
            after.panel = some ⟨busId, route.name, some km, mins, status⟩ ∧
              (mins = none ∨ mins = some 0)) ∨
          (Away (toRider geo route user busCoords) ∧ ∃ status, after.panel = some
            ⟨busId, route.name, some (toRider geo route user busCoords),
              some (minutesFor (toRider geo route user busCoords) (etaSpeedFor page busId).1),
              status⟩))) := by
  subst result
  unfold ArrivalAlert.calculateAndShowETA
  split
  · rename_i unknown
    refine ⟨⟨rfl, rfl, Or.inl rfl, Or.inl rfl⟩, Or.inl ⟨fun route serves => ?_, rfl⟩⟩
    rw [Serves, unknown] at serves
    cases serves.1
  · rename_i route served
    split
    · rename_i short
      refine ⟨⟨rfl, rfl, Or.inl rfl, Or.inl rfl⟩, Or.inl ⟨fun other serves => ?_, rfl⟩⟩
      obtain ⟨served', long⟩ := serves
      rw [served, Option.some_inj] at served'
      subst served'
      omega
    · rename_i long
      have serves : Serves page routeId route := ⟨served, not_lt.mp long⟩
      split
      · rename_i unlocated
        exact ⟨⟨rfl, rfl, Or.inl rfl, Or.inr rfl⟩,
          Or.inr (Or.inl ⟨route, serves, unlocated, _, rfl⟩)⟩
      · rename_i user located
        simp only
        split
        · rename_i behind
          exact ⟨⟨rfl, rfl, Or.inl rfl, Or.inr rfl⟩, Or.inr (Or.inr ⟨route, user, serves, located,
            Or.inl ⟨fun away => absurd away.1 (not_le.mpr behind), _, _, _, rfl, Or.inl rfl⟩⟩)⟩
        · rename_i ahead
          split
          · rename_i near
            exact ⟨⟨rfl, rfl, Or.inl rfl, Or.inr rfl⟩, Or.inr (Or.inr ⟨route, user, serves, located,
              Or.inl ⟨fun away => absurd away.2 (not_le.mpr near), _, _, _, rfl, Or.inr rfl⟩⟩)⟩
          · rename_i away
            obtain ⟨routes, location, active, notify⟩ := check_frame
              { page with
                activeEtaBusId := some busId
                activeEtaRouteId := some routeId
                panel := some ⟨busId, route.name, some (toRider geo route user busCoords),
                  some (minutesFor (toRider geo route user busCoords) (etaSpeedFor page busId).1),
                  if (etaSpeedFor page busId).2 then "Live GPS speed" else "Estimated speed"⟩
                etaSpeed := some (etaSpeedFor page busId).1 } busId
                (minutesFor (toRider geo route user busCoords) (etaSpeedFor page busId).1)
            exact ⟨⟨routes, location, notify, Or.inr active⟩, Or.inr (Or.inr ⟨route, user, serves,
              located, Or.inr ⟨⟨not_lt.mp ahead, not_lt.mp away⟩, _, check_panel _ _ _⟩⟩)⟩

theorem minutes_positive (distKm speed : K) : 0 < minutesFor distKm speed :=
  lt_of_lt_of_le Int.zero_lt_one (le_max_left _ _)

theorem unserved_same {page : RiderPage K} {busId routeId : String} {busCoords : K × K}
    (unserved : ∀ route, ¬ Serves page.eta routeId route)
    (same : ArrivalAlert.calculateAndShowETA geo page.eta busId routeId busCoords = page.eta) :
    calculateAndShowETA geo page busId routeId busCoords = page := by
  simp only [calculateAndShowETA, same]
  split
  · rename_i route user served located
    rw [if_pos (not_le.mp fun long => unserved route ⟨served, long⟩)]
  · rfl

theorem calculate_away {page : RiderPage K} {busId routeId : String} {busCoords user : K × K}
    {route : BusRoute K} (serves : Serves page.eta routeId route)
    (located : page.eta.userLocation = some user) (away : Away (toRider geo route user busCoords)) :
    calculateAndShowETA geo page busId routeId busCoords =
      { page with
        eta := ArrivalAlert.calculateAndShowETA geo page.eta busId routeId busCoords
        etaPolyline := some (eta_subPath (etaPath route)
          (eta_routePos geo busCoords (etaPath route)) (eta_routePos geo user (etaPath route)))
        lastEtaInfo := some ⟨busId, route.name, toRider geo route user busCoords,
          minutesFor (toRider geo route user busCoords) (etaSpeedFor page.eta busId).1⟩ } := by
  simp only [calculateAndShowETA, serves.1, located, if_neg (not_lt.mpr serves.2),
    if_neg (not_lt.mpr away.1), if_neg (not_lt.mpr away.2), drawETAPolyline,
    if_neg (not_lt.mpr (sub_path_points _ _ _))]

theorem calculate_eta (page : RiderPage K) (busId routeId : String) (busCoords : K × K) :
    (calculateAndShowETA geo page busId routeId busCoords).eta =
      ArrivalAlert.calculateAndShowETA geo page.eta busId routeId busCoords := by
  simp only [calculateAndShowETA, drawETAPolyline]
  repeat' split
  all_goals rfl

theorem calculate_exits (page : RiderPage K) (busId routeId : String) (busCoords : K × K)
    (after : RiderPage K) (result : calculateAndShowETA geo page busId routeId busCoords = after) :
    Framed page.eta after.eta busId ∧ after.busMarkers = page.busMarkers ∧
      (Blank page after busId ∨
        ∃ route user mins, Drawn geo after busId routeId busCoords route user mins) := by
  obtain ⟨framed, exits⟩ := panel_exits geo page.eta busId routeId busCoords _ rfl
  rcases exits with ⟨unserved, same⟩ | ⟨route, ⟨served, long⟩, unlocated, status, panel⟩ |
    ⟨route, user, ⟨served, long⟩, located, near | ⟨away, status, panel⟩⟩
  · rw [unserved_same geo unserved same] at result
    subst result
    rw [same] at framed
    exact ⟨framed, rfl, Or.inl (.unserved rfl)⟩
  · simp only [calculateAndShowETA, served, unlocated] at result
    subst result
    exact ⟨framed, rfl, Or.inl (.unlocated unlocated rfl rfl ⟨_, _, panel⟩)⟩
  · simp only [calculateAndShowETA, served, located, if_neg (not_lt.mpr long)] at result
    obtain ⟨near, km, mins, status, panel, silent⟩ := near
    have cleared : after = { page with
        eta := ArrivalAlert.calculateAndShowETA geo page.eta busId routeId busCoords
        etaPolyline := none } := by
      rw [← result]
      split
      · rfl
      · rename_i ahead
        exact if_pos (not_le.mp fun away => near ⟨not_lt.mp ahead, away⟩)
    subst cleared
    exact ⟨framed, rfl, Or.inl (.near rfl rfl ⟨_, _, _, _, panel, silent⟩)⟩
  · rw [calculate_away geo ⟨served, long⟩ located away] at result
    subst result
    refine ⟨framed, rfl, Or.inr ⟨route, user,
      minutesFor (toRider geo route user busCoords) (etaSpeedFor page.eta busId).1, ?_⟩⟩
    constructor
    case served => exact (congrFun framed.busRoutes routeId).trans served
    case long => exact long
    case located => exact framed.userLocation.trans located
    case away => exact away
    case soon => exact minutes_positive _ _
    case panel => exact ⟨status, panel⟩
    case info => rfl
    case line => rfl

end Exits

/-! ## Runs -/

section Runs

def opened : RiderPage K where
  eta :=
    { busRoutes := fun _ => none
      liveBusSpeeds := fun _ => none
      userLocation := none
      activeEtaBusId := none
      activeEtaRouteId := none
      panel := none
      etaSpeed := none
      etaNotify := ⟨none, false⟩
      alerts := [] }
  busMarkers := fun _ => none
  etaPolyline := none
  lastEtaInfo := none

/-- One bus for the panel, the line, the share information and the bell, and one
calculation for those of them that show its outcome. -/
structure Agrees (page : RiderPage K) : Prop where
  unlocated : page.eta.userLocation = none → page.etaPolyline = none
  panel : ∀ panel, page.eta.panel = some panel → page.eta.activeEtaBusId = some panel.busId
  info : ∀ info, page.lastEtaInfo = some info →
    page.eta.activeEtaBusId = some info.busId ∧ 0 < info.etaMins ∧ Away info.distKm
  bell : ∀ busId, page.eta.etaNotify.busId = some busId → page.eta.activeEtaBusId = some busId
  line : (∃ points, page.etaPolyline = some points) ↔
    ∃ panel mins, page.eta.panel = some panel ∧ panel.etaMins = some mins ∧ 0 < mins
  shared : ∀ points, page.etaPolyline = some points → ∃ info status, page.lastEtaInfo = some info ∧
    page.eta.panel = some ⟨info.busId, info.routeName, some info.distKm, some info.etaMins, status⟩

/-- Markers, speeds, routes and the location may have changed. -/
structure Kept (page after : RiderPage K) : Prop where
  located : after.eta.userLocation = none → page.eta.userLocation = none
  active : after.eta.activeEtaBusId = page.eta.activeEtaBusId
  panel : after.eta.panel = page.eta.panel
  notify : after.eta.etaNotify = page.eta.etaNotify
  line : after.etaPolyline = page.etaPolyline
  info : after.lastEtaInfo = page.lastEtaInfo

theorem kept_agrees {page after : RiderPage K} (kept : Kept page after) (agrees : Agrees page) :
    Agrees after := by
  constructor
  case unlocated =>
    intro nowhere
    rw [kept.line]
    exact agrees.unlocated (kept.located nowhere)
  case panel =>
    rw [kept.panel, kept.active]
    exact agrees.panel
  case info =>
    rw [kept.info, kept.active]
    exact agrees.info
  case bell =>
    rw [kept.notify, kept.active]
    exact agrees.bell
  case line =>
    rw [kept.line, kept.panel]
    exact agrees.line
  case shared =>
    rw [kept.line, kept.panel, kept.info]
    exact agrees.shared

omit [Field K] [LinearOrder K] in
theorem kept_trans {page middle after : RiderPage K} (first : Kept page middle)
    (second : Kept middle after) : Kept page after where
  located := fun nowhere => first.located (second.located nowhere)
  active := second.active.trans first.active
  panel := second.panel.trans first.panel
  notify := second.notify.trans first.notify
  line := second.line.trans first.line
  info := second.info.trans first.info

omit [Field K] [LinearOrder K] in
theorem place_bus_kept (page : RiderPage K) (bus : BusFix K)
    (busMarkers : String → Option (K × K)) : Kept page { page with
      eta := prepared page.eta (.update bus.busId bus.speedKmh bus.coords)
      busMarkers := busMarkers } := by
  unfold prepared
  cases bus.speedKmh <;> exact ⟨id, rfl, rfl, rfl, rfl, rfl⟩

omit [Field K] [LinearOrder K] in
theorem update_kept (page : RiderPage K) (buses : List (BusFix K)) :
    Kept page (updateBusLocations page buses) := by
  induction buses generalizing page with
  | nil => exact ⟨id, rfl, rfl, rfl, rfl, rfl⟩
  | cons bus rest ih =>
      rw [updateBusLocations]
      split
      · exact place_bus_kept page bus page.busMarkers
      · exact kept_trans (place_bus_kept page bus _) (ih (placeBus page bus))

omit [Field K] [LinearOrder K] in
theorem received_kept (page : RiderPage K) (event : EtaEvent K) :
    Kept page (received page event) := by
  cases event with
  | update busId speedKmh coords => exact update_kept page [⟨busId, speedKmh, coords⟩]
  | snapped routeId geom busId busCoords => exact ⟨id, rfl, rfl, rfl, rfl, rfl⟩
  | located coords =>
      refine ⟨fun nowhere => ?_, rfl, rfl, rfl, rfl, rfl⟩
      cases nowhere

def Ready (page : RiderPage K) (busId : String) : Prop :=
  page.eta.activeEtaBusId = some busId ∨
    (page.eta.etaNotify.busId = none ∧ page.lastEtaInfo = none)

theorem hidden_agrees (page : RiderPage K) : Agrees (hideETAPanel page) := by
  constructor <;> simp [hideETAPanel, disarm]

omit [Field K] [LinearOrder K] in
theorem hidden_ready (page : RiderPage K) (busId : String) : Ready (hideETAPanel page) busId :=
  Or.inr ⟨rfl, rfl⟩

theorem notify_agrees {page : RiderPage K} (agrees : Agrees page) : Agrees (notifyClick page) := by
  unfold notifyClick
  split
  · exact agrees
  · rename_i info shared
    split
    · exact agrees
    · unfold toggle
      split
      · exact ⟨agrees.unlocated, agrees.panel, agrees.info, by simp [disarm], agrees.line,
          agrees.shared⟩
      · refine ⟨agrees.unlocated, agrees.panel, agrees.info, ?_, agrees.line, agrees.shared⟩
        intro busId armed
        rw [arm, Option.some_inj] at armed
        rw [← armed]
        exact (agrees.info info shared).1

variable (geo : GeoDistance K)

section Frame
variable {page after : RiderPage K} {busId : String}

omit [Field K] [LinearOrder K] in
theorem shown_active (shown : page.eta.panel = after.eta.panel →
      page.eta.activeEtaBusId = some busId)
    (framed : Framed page.eta after.eta busId) : after.eta.activeEtaBusId = some busId := by
  rcases framed.active with same | active
  · rw [same]
    exact shown (congrArg EtaPage.panel same).symm
  · exact active

theorem bell_framed (agrees : Agrees page) (ready : Ready page busId)
    (framed : Framed page.eta after.eta busId) (b : String)
    (armed : after.eta.etaNotify.busId = some b) : after.eta.activeEtaBusId = some b := by
  rcases framed.notify with same | idle
  · rw [same] at armed
    have active := agrees.bell b armed
    rcases ready with mine | ⟨idle, _⟩
    · rw [active, Option.some_inj] at mine
      subst mine
      exact shown_active (fun _ => active) framed
    · rw [idle] at armed
      cases armed
  · rw [idle] at armed
    cases armed

theorem info_framed (agrees : Agrees page) (ready : Ready page busId)
    (framed : Framed page.eta after.eta busId) (kept : after.lastEtaInfo = page.lastEtaInfo)
    (info : EtaInfo K) (given : after.lastEtaInfo = some info) :
    after.eta.activeEtaBusId = some info.busId ∧ 0 < info.etaMins ∧ Away info.distKm := by
  rw [kept] at given
  obtain ⟨active, soon, away⟩ := agrees.info info given
  refine ⟨?_, soon, away⟩
  rcases ready with mine | ⟨_, bare⟩
  · rw [active, Option.some_inj] at mine
    exact shown_active (fun _ => active) (mine ▸ framed)
  · rw [bare] at given
    cases given

theorem panel_framed (agrees : Agrees page) (framed : Framed page.eta after.eta busId)
    {panel : EtaPanel K} (shows : after.eta.panel = some panel) (mine : panel.busId = busId) :
    after.eta.activeEtaBusId = some busId := by
  refine shown_active (fun same => ?_) framed
  rw [← mine]
  exact agrees.panel panel (same.trans shows)

end Frame

theorem blank_agrees {page after : RiderPage K} {busId : String} (agrees : Agrees page)
    (ready : Ready page busId) (framed : Framed page.eta after.eta busId)
    (blank : Blank page after busId) : Agrees after := by
  have bell := bell_framed agrees ready framed
  -- No line, and no minutes to go with one.
  have unlined : ∀ name km mins status, after.etaPolyline = none →
      after.lastEtaInfo = page.lastEtaInfo →
      after.eta.panel = some ⟨busId, name, km, mins, status⟩ → (mins = none ∨ mins = some 0) →
      Agrees after := by
    intro name km mins status line info shows silent
    have active := panel_framed agrees framed shows rfl
    constructor
    case unlocated => exact fun _ => line
    case panel =>
      intro panel shows'
      rw [shows, Option.some_inj] at shows'
      rw [active, ← shows']
    case info => exact info_framed agrees ready framed info
    case bell => exact bell
    case line =>
      rw [line]
      constructor
      · rintro ⟨_, impossible⟩
        cases impossible
      · rintro ⟨panel, m, shows', atMins, soon⟩
        rw [shows, Option.some_inj] at shows'
        subst shows'
        change mins = some m at atMins
        rcases silent with none | zero
        · rw [none] at atMins
          cases atMins
        · rw [zero, Option.some_inj] at atMins
          omega
    case shared =>
      intro points drawn
      rw [line] at drawn
      cases drawn
  cases blank with
  | unserved same =>
      rw [same]
      exact agrees
  | unlocated nowhere line info panel =>
      obtain ⟨name, status, shows⟩ := panel
      exact unlined name none none status (line.trans (agrees.unlocated nowhere)) info shows
        (Or.inl rfl)
  | near line info panel =>
      obtain ⟨name, km, mins, status, shows, silent⟩ := panel
      exact unlined name (some km) mins status line info shows silent

theorem drawn_agrees {page after : RiderPage K} {busId routeId : String} {busCoords user : K × K}
    {route : BusRoute K} {mins : Int} (agrees : Agrees page) (ready : Ready page busId)
    (framed : Framed page.eta after.eta busId)
    (drawn : Drawn geo after busId routeId busCoords route user mins) : Agrees after := by
  obtain ⟨status, shows⟩ := drawn.panel
  have active := panel_framed agrees framed shows rfl
  constructor
  case unlocated =>
    intro nowhere
    rw [drawn.located] at nowhere
    cases nowhere
  case panel =>
    intro panel shows'
    rw [shows, Option.some_inj] at shows'
    rw [active, ← shows']
  case info =>
    intro info given
    rw [drawn.info, Option.some_inj] at given
    subst given
    exact ⟨active, drawn.soon, drawn.away⟩
  case bell => exact bell_framed agrees ready framed
  case line => exact ⟨fun _ => ⟨_, mins, shows, rfl, drawn.soon⟩, fun _ => ⟨_, drawn.line⟩⟩
  case shared => exact fun _ _ => ⟨_, status, drawn.info, shows⟩

def reports : PageEvent K → String → K × K → Prop
  | .eta (.update busId _ coords), b, place => busId = b ∧ coords = place
  | .eta (.snapped _ _ busId coords), b, place => busId = b ∧ coords = place
  | .snapshot buses, b, place => ∃ bus ∈ buses, bus.busId = b ∧ bus.coords = place
  | _, _, _ => False

omit [Field K] [LinearOrder K] in
/-- A calculation that an event asks for is for the bus of the page, and where the
event tells. -/
theorem calculation_asked {page : RiderPage K} {event : EtaEvent K} {busId routeId : String}
    {coords : K × K} (call : asked page event = some (busId, routeId, coords)) :
    page.eta.activeEtaBusId = some busId ∧ reports (.eta event) busId coords := by
  unfold asked at call
  split at call
  · cases call
  cases event with
  | update id speedKmh place =>
      simp only [calculation] at call
      split at call
      · cases call
      · split at call
        · rename_i asked
          cases call
          exact ⟨asked.1, rfl, rfl⟩
        · cases call
  | snapped id geom bus place =>
      simp only [calculation] at call
      split at call
      · rename_i asked
        cases call
        exact ⟨asked.1, rfl, rfl⟩
      · cases call
  | located place => cases call

variable [FloorRing K]

theorem calculate_agrees {page : RiderPage K} {busId : String} (agrees : Agrees page)
    (ready : Ready page busId) (routeId : String) (busCoords : K × K) :
    Agrees (calculateAndShowETA geo page busId routeId busCoords) := by
  obtain ⟨framed, _, blank | ⟨route, user, mins, drawn⟩⟩ :=
    calculate_exits geo page busId routeId busCoords _ rfl
  · exact blank_agrees agrees ready framed blank
  · exact drawn_agrees geo agrees ready framed drawn

theorem select_cases (page : RiderPage K) (routeId : String) (busId : Option String) :
    selectBusRoute geo page routeId busId = hideETAPanel page ∨
      ∃ bus, selectBusRoute geo page routeId busId = trackBus geo page bus routeId := by
  unfold selectBusRoute
  split
  · exact Or.inl rfl
  · rename_i bus
    split
    · exact Or.inl rfl
    · rename_i plain
      rw [Bool.or_eq_true, not_or] at plain
      exact Or.inr ⟨bus, (if_neg plain.2).symm⟩

theorem track_agrees (page : RiderPage K) (busId routeId : String) :
    Agrees (trackBus geo page busId routeId) := by
  unfold trackBus triggerETA
  split
  · exact hidden_agrees page
  split
  · exact calculate_agrees geo (hidden_agrees page) (hidden_ready page busId) routeId _
  · constructor <;> simp [hideETAPanel, disarm]

theorem step_agrees {page : RiderPage K} (agrees : Agrees page) (event : PageEvent K) :
    Agrees (step geo page event) := by
  cases event with
  | eta event =>
      have kept := received_kept page event
      simp only [step]
      split
      · exact kept_agrees kept agrees
      · rename_i busId routeId coords call
        refine calculate_agrees geo (kept_agrees kept agrees) (Or.inl ?_) routeId coords
        rw [kept.active, (calculation_asked call).1]
  | snapshot buses => exact kept_agrees (update_kept page buses) agrees
  | left busId =>
      have kept : Kept page (removeBusMarker page busId) := ⟨id, rfl, rfl, rfl, rfl, rfl⟩
      exact kept_agrees kept agrees
  | loaded busRoutes =>
      have kept : Kept page { page with eta := { page.eta with busRoutes } } :=
        ⟨id, rfl, rfl, rfl, rfl, rfl⟩
      exact kept_agrees kept agrees
  | trackBus busId routeId => exact track_agrees geo page busId routeId
  | selectBusRoute routeId busId =>
      rcases select_cases geo page routeId busId with closed | ⟨bus, tracks⟩
      · rw [step, closed]
        exact hidden_agrees page
      · rw [step, tracks]
        exact track_agrees geo page bus routeId
  | close => exact hidden_agrees page
  | notify => exact notify_agrees agrees

/-- To the panel and the alert an event of the page is one of `ArrivalAlert`. -/
theorem eta_received (page : RiderPage K) {event : EtaEvent K} (plain : fails event = false) :
    (step geo page (.eta event)).eta = receive geo page.eta event := by
  have same : (received page event).eta = prepared page.eta event := by
    cases event with
    | update busId speedKmh coords =>
        have other : inherited busId = false := plain
        simp [received, updateBusLocations, placeBus, other]
    | snapped | located => rfl
  have call : asked page event = calculation page.eta event := by
    rw [asked, plain, if_neg Bool.false_ne_true]
  cases made : calculation page.eta event with
  | none => simp only [step, receive, call, made, same]
  | some calculated =>
      obtain ⟨busId, routeId, busCoords⟩ := calculated
      simp only [step, receive, call, made, calculate_eta, same]

omit [FloorRing K] in
theorem opened_agrees : Agrees (opened : RiderPage K) := by
  constructor <;> simp [opened]

theorem run_agrees {page : RiderPage K} (agrees : Agrees page) (events : List (PageEvent K)) :
    Agrees (events.foldl (step geo) page) := by
  induction events generalizing page with
  | nil => exact agrees
  | cons event rest ih => exact ih (step_agrees geo agrees event)

/-- Whatever happens on the page, and in whatever order. -/
theorem page_agrees (events : List (PageEvent K)) : Agrees (events.foldl (step geo) opened) :=
  run_agrees geo opened_agrees events

end Runs

/-! ## The highlighted line -/

section Line
variable (geo : GeoDistance ℝ) {path : List (ℝ × ℝ)}

end Line

end CityBus.RiderEta
