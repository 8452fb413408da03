import CityBus.LineDiagram

/-!
The arrival alert: `calculateAndShowETA` of eta.js puts minutes on the panel, and
the `etaNotify` of assist.js, once armed for a bus, is to tell the rider that the
bus is close. Only one of the four exits of the calculation tells it.
-/

namespace CityBus.ArrivalAlert

open GeoUtils EtaEngine LineDiagram

variable {K : Type} [Field K] [LinearOrder K]

/-! ## The page -/

structure EtaNotify where
  busId : Option String
  fired : Bool
  deriving DecidableEq

def thresholdMin : Int := 5

structure EtaPanel (K : Type) where
  busId : String
  routeName : String
  distKm : Option K
  etaMins : Option Int
  statusMsg : String

structure EtaPage (K : Type) where
  busRoutes : String → Option (BusRoute K)
  liveBusSpeeds : String → Option K
  userLocation : Option (K × K)
  activeEtaBusId : Option String
  activeEtaRouteId : Option String
  panel : Option (EtaPanel K)
  etaSpeed : Option K
  etaNotify : EtaNotify
  /-- The notifications of `check`, the latest last. -/
  alerts : List String

section Page

def arm (page : EtaPage K) (busId : String) : EtaPage K :=
  { page with etaNotify := ⟨some busId, false⟩ }

def check (page : EtaPage K) (busId : String) (etaMins : Int) : EtaPage K :=
  if page.etaNotify.fired ∨ page.etaNotify.busId = some "" ∨ page.etaNotify.busId ≠ some busId then
    page
  else if etaMins ≤ thresholdMin then
    { page with
      etaNotify := ⟨none, true⟩
      alerts := page.alerts ++
        [busId.toUpper ++ " is about " ++ toString etaMins ++ " min away — head to your stop!"] }
  else page

def ETA_FALLBACK_SPEED_KMH : K := (20 : Nat)

def ETA_MIN_LIVE_SPEED_KMH : K := (3 : Nat)

def etaSpeedFor (page : EtaPage K) (busId : String) : K × Bool :=
  match page.liveBusSpeeds busId with
  | none => (ETA_FALLBACK_SPEED_KMH, false)
  | some live =>
      if ETA_MIN_LIVE_SPEED_KMH ≤ live then (live, true) else (ETA_FALLBACK_SPEED_KMH, false)

def etaPath (route : BusRoute K) : List (K × K) :=
  match route.roadGeom with
  | none => route.path
  | some geom => if 2 ≤ geom.length then geom else route.path

def toRider (geo : GeoDistance K) (route : BusRoute K) (user busCoords : K × K) : K :=
  alongKm geo (etaPath route) user - alongKm geo (etaPath route) busCoords

/-- `Math.max(1, Math.round((distKm / speed) * 60))` -/
def minutesFor [FloorRing K] (distKm speed : K) : Int :=
  max 1 ⌊distKm / speed * (60 : Nat) + 1 / (2 : Nat)⌋

/-- Fifty metres, past which the bus is approaching or has passed. -/
def band : K := (5 : Nat) / (100 : Nat)

variable [FloorRing K] (geo : GeoDistance K)

def calculateAndShowETA (page : EtaPage K) (busId routeId : String) (busCoords : K × K) :
    EtaPage K :=
  match page.busRoutes routeId with
  | none => page
  | some route =>
      if route.path.length < 2 then page else
        let active := { page with activeEtaBusId := some busId, activeEtaRouteId := some routeId }
        match page.userLocation with
        | none =>
            { active with
              panel := some ⟨busId, route.name, none, none, "Enable location for ETA"⟩ }
        | some user =>
            let distKm := toRider geo route user busCoords
            if distKm < -band then
              { active with
                panel := some ⟨busId, route.name, some |distKm|, none, "Bus has passed your stop"⟩ }
            else if distKm < band then
              { active with panel := some ⟨busId, route.name, some 0, some 0, "Arriving now!"⟩ }
            else
              let (speed, measured) := etaSpeedFor page busId
              let etaMins := minutesFor distKm speed
              let status := if measured then "Live GPS speed" else "Estimated speed"
              check { active with
                  panel := some ⟨busId, route.name, some distKm, some etaMins, status⟩
                  etaSpeed := some speed }
                busId etaMins

/-! ## Updates -/

/-- What reaches the page. Until the road geometry of a route is there, every
calculation asks to be made again with it; `snapped` is one such time. -/
inductive EtaEvent (K : Type) where
  | update (busId : String) (speedKmh : Option K) (coords : K × K)
  | snapped (routeId : String) (geom : List (K × K)) (busId : String) (busCoords : K × K)
  | located (coords : K × K)

def prepared (page : EtaPage K) : EtaEvent K → EtaPage K
  | .update busId speedKmh _ =>
      match speedKmh with
      | none => page
      | some speed =>
          { page with
            liveBusSpeeds := fun id => if id = busId then some speed else page.liveBusSpeeds id }
  | .snapped routeId geom _ _ =>
      { page with
        busRoutes := fun id =>
          if id = routeId then (page.busRoutes id).map fun route => { route with roadGeom := some geom }
          else page.busRoutes id }
  | .located coords => { page with userLocation := some coords }

def calculation (page : EtaPage K) : EtaEvent K → Option (String × String × (K × K))
  -- `refreshETAIfActive`
  | .update busId _ coords =>
      match page.activeEtaRouteId with
      | none => none
      | some routeId =>
          if page.activeEtaBusId = some busId ∧ routeId ≠ "" then some (busId, routeId, coords)
          else none
  | .snapped routeId _ busId busCoords =>
      if page.activeEtaBusId = some busId ∧ page.activeEtaRouteId = some routeId then
        some (busId, routeId, busCoords)
      else none
  | .located _ => none

def receive (page : EtaPage K) (event : EtaEvent K) : EtaPage K :=
  match calculation page event with
  | none => prepared page event
  | some (busId, routeId, coords) =>
      calculateAndShowETA geo (prepared page event) busId routeId coords

end Page

/-! ## The exits of the calculation -/

section Exits
variable {page : EtaPage K} {busId routeId : String}

omit [Field K] [LinearOrder K] in
theorem check_armed (named : busId ≠ "") (armed : page.etaNotify = ⟨some busId, false⟩)
    (etaMins : Int) :
    (etaMins ≤ thresholdMin ∧ (check page busId etaMins).etaNotify = ⟨none, true⟩ ∧
      (check page busId etaMins).alerts.length = page.alerts.length + 1) ∨
    (thresholdMin < etaMins ∧ check page busId etaMins = page) := by
  have waiting : ¬ (page.etaNotify.fired ∨ page.etaNotify.busId = some "" ∨
      page.etaNotify.busId ≠ some busId) := by
    simp [armed, named]
  rw [check, if_neg waiting]
  split
  · rename_i close
    exact Or.inl ⟨close, rfl, by simp⟩
  · rename_i far
    exact Or.inr ⟨not_le.mp far, rfl⟩

omit [Field K] [LinearOrder K] in
theorem check_idle (idle : page.etaNotify.busId ≠ some busId) (etaMins : Int) :
    check page busId etaMins = page := if_pos (Or.inr (Or.inr idle))

omit [Field K] [LinearOrder K] in
theorem check_panel (page : EtaPage K) (busId : String) (etaMins : Int) :
    (check page busId etaMins).panel = page.panel := by
  unfold check
  split
  · rfl
  · split <;> rfl

variable [FloorRing K] (geo : GeoDistance K) {busCoords : K × K}

def InBand (geo : GeoDistance K) (page : EtaPage K) (routeId : String) (busCoords : K × K) : Prop :=
  ∃ route user, page.busRoutes routeId = some route ∧ page.userLocation = some user ∧
    2 ≤ route.path.length ∧ -band ≤ toRider geo route user busCoords ∧
    toRider geo route user busCoords < band

omit [FloorRing K] in
variable {geo} in
theorem in_band_iff {route : BusRoute K} {user : K × K}
    (served : page.busRoutes routeId = some route) (located : page.userLocation = some user)
    (long : 2 ≤ route.path.length) : InBand geo page routeId busCoords ↔
      -band ≤ toRider geo route user busCoords ∧ toRider geo route user busCoords < band := by
  constructor
  · rintro ⟨route', user', served', located', _, near⟩
    rw [served, Option.some_inj] at served'
    rw [located, Option.some_inj] at located'
    subst served' located'
    exact near
  · intro near
    exact ⟨route, user, served, located, long, near⟩

variable (page busId routeId busCoords) in
theorem calculate_cases (after : EtaPage K)
    (result : calculateAndShowETA geo page busId routeId busCoords = after) :
    ((page.busRoutes routeId = none ∨
        ∃ route, page.busRoutes routeId = some route ∧ route.path.length < 2) ∧ after = page) ∨
    (¬ InBand geo page routeId busCoords ∧ after.etaNotify = page.etaNotify ∧
      after.alerts = page.alerts ∧ ∃ panel, after.panel = some panel ∧ panel.etaMins = none) ∨
    (InBand geo page routeId busCoords ∧ after.etaNotify = page.etaNotify ∧
      after.alerts = page.alerts ∧
      ∃ panel, after.panel = some panel ∧ panel.busId = busId ∧ panel.etaMins = some 0) ∨
    (¬ InBand geo page routeId busCoords ∧ ∃ (shown : EtaPage K) (panel : EtaPanel K) (m : Int),
      after = check shown busId m ∧ shown.panel = some panel ∧ panel.busId = busId ∧
      panel.etaMins = some m ∧ shown.etaNotify = page.etaNotify ∧ shown.alerts = page.alerts) := by
  subst result
  unfold calculateAndShowETA
  split
  · rename_i unknown
    exact Or.inl ⟨Or.inl unknown, rfl⟩
  · rename_i route served
    split
    · rename_i short
      exact Or.inl ⟨Or.inr ⟨route, served, short⟩, rfl⟩
    · rename_i long
      right
      split
      · rename_i unlocated
        refine Or.inl ⟨?_, rfl, rfl, _, rfl, rfl⟩
        rintro ⟨_, user, _, located, _⟩
        rw [unlocated] at located
        cases located
      · rename_i user located
        rw [in_band_iff served located (not_lt.mp long)]
        simp only
        split
        · rename_i passed
          exact Or.inl ⟨fun near => absurd near.1 (not_le.mpr passed), rfl, rfl, _, rfl, rfl⟩
        · rename_i ahead
          split
          · rename_i near
            exact Or.inr (Or.inl ⟨⟨not_lt.mp ahead, near⟩, rfl, rfl, _, rfl, rfl, rfl⟩)
          · rename_i away
            exact Or.inr (Or.inr ⟨fun near => away near.2, _, _, _, rfl, rfl, rfl, rfl, rfl, rfl⟩)

end Exits

/-! ## Runs -/

section Runs
variable [FloorRing K] (geo : GeoDistance K)

def Processes (page : EtaPage K) (event : EtaEvent K) (b : String) : Prop :=
  ∃ routeId coords route, calculation page event = some (b, routeId, coords) ∧
    (prepared page event).busRoutes routeId = some route ∧ 2 ≤ route.path.length

/-- While the alert is still to come, no calculation finds the bus already there. -/
def Clear (page : EtaPage K) (event : EtaEvent K) : Prop :=
  page.etaNotify.fired = false → ∀ busId routeId coords,
    calculation page event = some (busId, routeId, coords) →
      ¬ InBand geo (prepared page event) routeId coords

def Alerted (b : String) (page : EtaPage K) : Prop :=
  ∀ panel m, page.panel = some panel → panel.busId = b → panel.etaMins = some m →
    m ≤ thresholdMin → page.etaNotify.fired = true

def Armed (b : String) (n : Nat) (page : EtaPage K) : Prop :=
  (page.etaNotify = ⟨some b, false⟩ ∧ page.alerts.length = n) ∨
    (page.etaNotify = ⟨none, true⟩ ∧ page.alerts.length = n + 1)

omit [Field K] [LinearOrder K] [FloorRing K] in
theorem prepared_notify (page : EtaPage K) (event : EtaEvent K) :
    (prepared page event).etaNotify = page.etaNotify ∧
      (prepared page event).alerts = page.alerts := by
  cases event with
  | update busId speedKmh coords => cases speedKmh <;> exact ⟨rfl, rfl⟩
  | snapped routeId geom busId busCoords => exact ⟨rfl, rfl⟩
  | located coords => exact ⟨rfl, rfl⟩

omit [Field K] [LinearOrder K] [FloorRing K] in
theorem armed_congr {b : String} {n : Nat} {page other : EtaPage K}
    (notify : other.etaNotify = page.etaNotify) (alerts : other.alerts = page.alerts)
    (armed : Armed b n page) : Armed b n other := by
  rw [Armed, notify, alerts]
  exact armed

omit [Field K] [LinearOrder K] [FloorRing K] in
theorem check_keeps_armed {b : String} (named : b ≠ "") {n : Nat} {page : EtaPage K}
    (armed : Armed b n page) (busId : String) (etaMins : Int) :
    Armed b n (check page busId etaMins) := by
  rcases armed with ⟨waiting, count⟩ | ⟨fired, count⟩
  · by_cases same : busId = b
    · subst same
      rcases check_armed named waiting etaMins with ⟨_, fired, more⟩ | ⟨_, still⟩
      · exact Or.inr ⟨fired, by rw [more, count]⟩
      · rw [still]
        exact Or.inl ⟨waiting, count⟩
    · rw [check_idle (by simpa [waiting] using Ne.symm same)]
      exact Or.inl ⟨waiting, count⟩
  · rw [check_idle (by simp [fired])]
    exact Or.inr ⟨fired, count⟩

theorem receive_keeps_armed {b : String} (named : b ≠ "") {n : Nat} {page : EtaPage K}
    (armed : Armed b n page) (event : EtaEvent K) : Armed b n (receive geo page event) := by
  obtain ⟨notify, alerts⟩ := prepared_notify page event
  have ready := armed_congr notify alerts armed
  unfold receive
  split
  · exact ready
  · rename_i busId routeId coords _
    rcases calculate_cases (prepared page event) busId routeId geo coords _ rfl with
      ⟨_, same⟩ | ⟨_, notify, alerts, _⟩ | ⟨_, notify, alerts, _⟩ |
        ⟨_, shown, _, m, checked, _, _, _, notify, alerts⟩
    · rw [same]
      exact ready
    · exact armed_congr notify alerts ready
    · exact armed_congr notify alerts ready
    · rw [checked]
      exact check_keeps_armed named (armed_congr notify alerts ready) busId m

omit [FloorRing K] in
variable {geo} in
theorem clear_iff {page : EtaPage K} {event : EtaEvent K} {busId routeId : String} {coords : K × K}
    (call : calculation page event = some (busId, routeId, coords)) :
    Clear geo page event ↔
      (page.etaNotify.fired = false → ¬ InBand geo (prepared page event) routeId coords) := by
  constructor
  · intro clear waiting
    exact clear waiting busId routeId coords call
  · intro clear waiting busId' routeId' coords' call'
    rw [call, Option.some_inj, Prod.mk.injEq, Prod.mk.injEq] at call'
    obtain ⟨rfl, rfl, rfl⟩ := call'
    exact clear waiting

theorem alerted_iff_clear {b : String} (named : b ≠ "") {n : Nat} {page : EtaPage K}
    (armed : Armed b n page) {event : EtaEvent K} (processes : Processes page event b) :
    Alerted b (receive geo page event) ↔ Clear geo page event := by
  obtain ⟨routeId, coords, route, call, served, long⟩ := processes
  obtain ⟨notify, alerts⟩ := prepared_notify page event
  have result : receive geo page event =
      calculateAndShowETA geo (prepared page event) b routeId coords := by
    rw [receive, call]
  rw [result, clear_iff call]
  rcases calculate_cases (prepared page event) b routeId geo coords _ rfl with
    ⟨unserved, _⟩ | ⟨away, _, _, panel, shows, silent⟩ |
      ⟨near, same, _, panel, shows, atBus, atMins⟩ |
      ⟨away, shown, panel, m, checked, shows, atBus, atMins, same, _⟩
  · rcases unserved with unknown | ⟨route', served', short⟩
    · rw [served] at unknown
      cases unknown
    · rw [served, Option.some_inj] at served'
      subst served'
      omega
  · constructor
    · exact fun _ _ => away
    · intro _ panel' m shows' _ atMins
      rw [shows, Option.some_inj] at shows'
      subst shows'
      rw [silent] at atMins
      cases atMins
  · constructor
    · intro alerted waiting
      have fired := alerted panel 0 shows atBus atMins (by decide)
      rw [same, notify, waiting] at fired
      cases fired
    · intro clear
      cases fired : page.etaNotify.fired with
      | false => exact absurd near (clear fired)
      | true =>
          intro _ _ _ _ _ _
          rw [same, notify, fired]
  · constructor
    · exact fun _ _ => away
    · intro _ panel' m' shows' _ atMins' close
      rw [checked, check_panel, shows, Option.some_inj] at shows'
      subst shows'
      rw [atMins, Option.some_inj] at atMins'
      subst atMins'
      rw [checked]
      rcases armed with ⟨waiting, _⟩ | ⟨fired, _⟩
      · rcases check_armed named (same.trans (notify.trans waiting)) m with ⟨_, fired, _⟩ | ⟨far, _⟩
        · rw [fired]
        · omega
      · have idle : shown.etaNotify = ⟨none, true⟩ := same.trans (notify.trans fired)
        rw [check_idle (by simp [idle]), idle]

def AtEach (b : String) (holds : EtaPage K → EtaEvent K → Prop) :
    EtaPage K → List (EtaEvent K) → Prop
  | _, [] => True
  | page, event :: rest =>
      (Processes page event b → holds page event) ∧ AtEach b holds (receive geo page event) rest

theorem at_each_iff {b : String} (named : b ≠ "") {n : Nat} {page : EtaPage K}
    (armed : Armed b n page) (events : List (EtaEvent K)) :
    AtEach geo b (fun page event => Alerted b (receive geo page event)) page events ↔
      AtEach geo b (Clear geo) page events := by
  induction events generalizing page with
  | nil => exact Iff.rfl
  | cons event rest ih =>
      have later := ih (receive_keeps_armed geo named armed event)
      have now : (Processes page event b → Alerted b (receive geo page event)) ↔
          (Processes page event b → Clear geo page event) :=
        forall_congr' fun processes => alerted_iff_clear geo named armed processes
      exact and_congr now later

theorem receive_all_armed {b : String} (named : b ≠ "") {n : Nat} {page : EtaPage K}
    (armed : Armed b n page) (events : List (EtaEvent K)) :
    Armed b n (events.foldl (receive geo) page) := by
  induction events generalizing page with
  | nil => exact armed
  | cons event rest ih => exact ih (receive_keeps_armed geo named armed event)

/-- After `arm` the alert comes at most once. It is in time at every calculation of a
run exactly when none finds the bus already there with the alert still to come. -/
theorem armed_alert {b : String} (named : b ≠ "") (start : EtaPage K)
    (events : List (EtaEvent K)) :
    (events.foldl (receive geo) (arm start b)).alerts.length ≤ start.alerts.length + 1 ∧
      (AtEach geo b (fun page event => Alerted b (receive geo page event)) (arm start b) events ↔
        AtEach geo b (Clear geo) (arm start b) events) := by
  have armed : Armed b start.alerts.length (arm start b) := Or.inl ⟨rfl, rfl⟩
  refine ⟨?_, at_each_iff geo named armed events⟩
  rcases receive_all_armed geo named armed events with ⟨_, count⟩ | ⟨_, count⟩ <;> omega

end Runs

/-! ## A bus that jumps -/

section Jump

noncomputable def street : BusRoute ℝ where
  name := "Street"
  path := [0, 10].map milestone
  stops := []
  roadGeom := none

noncomputable def waiting : EtaPage ℝ where
  busRoutes _ := some street
  liveBusSpeeds _ := none
  userLocation := some (milestone (5 : Nat))
  activeEtaBusId := none
  activeEtaRouteId := none
  panel := none
  etaSpeed := none
  etaNotify := ⟨none, false⟩
  alerts := []

noncomputable def tracking : EtaPage ℝ :=
  calculateAndShowETA haversine waiting "bus-1" "7" (milestone 0)

theorem street_km {km : ℝ} (start : 0 ≤ km) (within : km ≤ 10) :
    toRider haversine street (milestone 5) (milestone km) = 5 - km := by
  have known : ∀ km ∈ [(0 : ℝ), 10], 0 ≤ km ∧ km ≤ 9000 := by
    intro km member
    simp only [List.mem_cons, List.not_mem_nil, or_false] at member
    rcases member with rfl | rfl <;> norm_num
  have path : etaPath street = [0, 10].map milestone := rfl
  rw [toRider, path, first_leg_km known (by norm_num) (by norm_num) (by norm_num),
    first_leg_km known (by norm_num) start within]

theorem tracking_eq : tracking =
    { waiting with
      activeEtaBusId := some "bus-1"
      activeEtaRouteId := some "7"
      panel := some ⟨"bus-1", "Street", some 5, some 15, "Estimated speed"⟩
      etaSpeed := some 20 } := by
  have km := street_km (le_refl 0) (by norm_num)
  have quarter : minutesFor (5 - 0 : ℝ) 20 = 15 := by
    have floor : ⌊(5 - 0 : ℝ) / 20 * (60 : Nat) + 1 / (2 : Nat)⌋ = 15 := by
      rw [Int.floor_eq_iff]
      norm_num
    rw [minutesFor, floor]
    decide
  have far : ¬ (5 - 0 : ℝ) < -band := by norm_num [band]
  have away : ¬ (5 - 0 : ℝ) < band := by norm_num [band]
  simp only [tracking, calculateAndShowETA, waiting, km, far, away, etaSpeedFor,
    ETA_FALLBACK_SPEED_KMH, Nat.cast_ofNat, quarter]
  rw [check_idle (by simp)]
  norm_num [street]

theorem armed_alert_street : "bus-1" ≠ "" ∧
    ([EtaEvent.update "bus-1" none (milestone 4)].foldl (receive haversine)
      (arm tracking "bus-1")).alerts.length ≤ tracking.alerts.length + 1 ∧
    (AtEach haversine "bus-1" (fun page event => Alerted "bus-1" (receive haversine page event))
        (arm tracking "bus-1") [.update "bus-1" none (milestone 4)] ↔
      AtEach haversine "bus-1" (Clear haversine) (arm tracking "bus-1")
        [.update "bus-1" none (milestone 4)]) :=
  ⟨by decide, armed_alert haversine (by decide) tracking [.update "bus-1" none (milestone 4)]⟩

-- Armed at fifteen minutes; the next position is 20 m short of the rider. The panel says
-- "Arriving now!", and there is no alert.
theorem jump_unalerted : tracking.panel.bind (·.etaMins) = some 15 ∧
    (receive haversine (arm tracking "bus-1")
      (.update "bus-1" none (milestone (249 / 50)))).alerts = [] ∧
    ¬ AtEach haversine "bus-1" (fun page event => Alerted "bus-1" (receive haversine page event))
      (arm tracking "bus-1") [.update "bus-1" none (milestone (249 / 50))] := by
  have km : toRider haversine street (milestone 5) (milestone (249 / 50)) = 5 - 249 / 50 :=
    street_km (by norm_num) (by norm_num)
  have call : calculation (arm tracking "bus-1") (.update "bus-1" none (milestone (249 / 50))) =
      some ("bus-1", "7", milestone (249 / 50)) := by
    rw [tracking_eq]
    simp [calculation, arm]
  have near : InBand haversine (arm tracking "bus-1") "7" (milestone (249 / 50)) := by
    rw [tracking_eq]
    refine ⟨street, milestone 5, rfl, rfl, by simp [street], ?_, ?_⟩
    · rw [km]
      norm_num [band]
    · rw [km]
      norm_num [band]
  have processes : Processes (arm tracking "bus-1")
      (.update "bus-1" none (milestone (249 / 50))) "bus-1" := by
    refine ⟨"7", _, street, call, ?_, by simp [street]⟩
    rw [tracking_eq]
    rfl
  have quiet : (receive haversine (arm tracking "bus-1")
      (.update "bus-1" none (milestone (249 / 50)))).alerts = [] := by
    rw [receive, call]
    rcases calculate_cases (arm tracking "bus-1") "bus-1" "7" haversine (milestone (249 / 50)) _
      rfl with
      ⟨_, same⟩ | ⟨away, _⟩ | ⟨_, _, alerts, _⟩ | ⟨away, _⟩
    · exact (congrArg EtaPage.alerts same).trans (by rw [tracking_eq]; rfl)
    · exact absurd near away
    · exact alerts.trans (by rw [tracking_eq]; rfl)
    · exact absurd near away
  refine ⟨by rw [tracking_eq]; rfl, quiet, ?_⟩
  rintro ⟨alerted, _⟩
  have clear := (alerted_iff_clear haversine (by decide) (n := 0)
    (Or.inl ⟨rfl, by rw [tracking_eq]; rfl⟩) processes).mp (alerted processes)
  exact clear rfl _ _ _ call near

end Jump

end CityBus.ArrivalAlert
