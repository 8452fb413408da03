import CityBus.DrawnRides
import CityBus.EtaEngine

/-!
The line diagram of the live map: a row for each stop of a route, the bus bead
between two of them, and the stops it has passed. Rows stand in the order of the
stops; where a stop lies is asked of the path alone.
-/

namespace CityBus.LineDiagram

open GeoUtils DrawnRides EtaEngine

variable {K : Type} [Field K] [LinearOrder K]

/-! ## The page -/

structure BusRoute (K : Type) where
  name : String
  path : List (K × K)
  stops : List (ClientStop K)
  roadGeom : Option (List (K × K))

structure LadderState (K : Type) where
  routeId : String
  busId : Option String
  stopCumKm : List K

/-- The bead stands at fraction `t` between row `seg` and the next one. -/
structure LadderView (K : Type) where
  seg : Nat
  t : K
  passed : List Bool
  label : String
  next : Option String
  speed : Option K

structure LadderPage (K : Type) where
  busRoutes : String → Option (BusRoute K)
  liveBusSpeeds : String → Option K
  /-- Where the bus markers are. -/
  busMarkers : String → Option (K × K)
  ladderState : Option (LadderState K)
  /-- What the ladder shows of a bus; the bead is hidden before there is one. -/
  view : Option (LadderView K)

section Page
variable (geo : GeoDistance K)

def alongKm (path : List (K × K)) (coords : K × K) : K :=
  eta_cumKm geo (eta_routePos geo coords path) path

def stopCumKm (route : BusRoute K) : List K :=
  route.stops.map fun stop => alongKm geo route.path stop.coords

def kmAt (cum : List K) (i : Nat) : K := cum.getD i 0

/-- The search from segment `seg` on, which may step `left` times before the last
segment. -/
def ladderSeg (cum : List K) (busKm : K) : Nat → Nat → Nat
  | 0, seg => seg
  | left + 1, seg => if kmAt cum (seg + 1) < busKm then ladderSeg cum busKm left (seg + 1) else seg

def ladderView (route : BusRoute K) (cum : List K) (busId : String) (speed : Option K) (busKm : K) :
    LadderView K :=
  let seg := ladderSeg cum busKm (cum.length - 2) 0
  let span := kmAt cum (seg + 1) - kmAt cum seg
  { seg := seg
    t := if 0 < span then max 0 (min 1 ((busKm - kmAt cum seg) / span)) else 0
    passed := cum.map fun km => decide (km < busKm - (2 : Nat) / (100 : Nat))
    label := busId.toUpper
    next := (route.stops[min (seg + 1) (route.stops.length - 1)]?).map (·.name)
    speed := speed }

def updateLadderBusPosition (page : LadderPage K) (busId : String) (coords : K × K) :
    LadderPage K :=
  match page.ladderState with
  | none => page
  | some state =>
      -- A ladder without a bus follows any.
      if state.busId = none ∨ state.busId = some "" ∨ state.busId = some busId then
        match page.busRoutes state.routeId with
        | none => page
        | some route =>
            if state.stopCumKm = [] then page else
              { page with
                view := some (ladderView route state.stopCumKm busId (page.liveBusSpeeds busId)
                  (alongKm geo route.path coords)) }
      else page

def showRouteLadder (page : LadderPage K) (routeId : String) (busId : Option String) :
    LadderPage K :=
  match page.busRoutes routeId with
  | none => page
  | some route =>
      if route.stops = [] then page else
        let shown : LadderPage K :=
          { page with ladderState := some ⟨routeId, busId, stopCumKm geo route⟩, view := none }
        match busId with
        | none => shown
        | some busId =>
            match page.busMarkers busId with
            | none => shown
            | some coords => updateLadderBusPosition geo shown busId coords

end Page

/-! ## The search -/

section Search
variable {cum : List K} {busKm : K}

variable (cum busKm) in
theorem ladder_seg_spec (left seg : Nat) :
    seg ≤ ladderSeg cum busKm left seg ∧ ladderSeg cum busKm left seg ≤ seg + left ∧
      (∀ j, seg ≤ j → j < ladderSeg cum busKm left seg → kmAt cum (j + 1) < busKm) ∧
      (ladderSeg cum busKm left seg < seg + left →
        busKm ≤ kmAt cum (ladderSeg cum busKm left seg + 1)) := by
  induction left generalizing seg with
  | zero =>
      rw [ladderSeg]
      exact ⟨le_refl _, le_refl _, fun j reached before => by omega, fun before => by omega⟩
  | succ left ih =>
      rw [ladderSeg]
      split
      · rename_i passed
        obtain ⟨lower, upper, stepped, stopped⟩ := ih (seg + 1)
        refine ⟨by omega, by omega, ?_, ?_⟩
        · intro j reached before
          rcases Nat.eq_or_lt_of_le reached with rfl | later
          · exact passed
          · exact stepped j later before
        · intro before
          exact stopped (by omega)
      · rename_i ahead
        refine ⟨le_refl _, by omega, ?_, fun _ => not_lt.mp ahead⟩
        intro j reached before
        omega

/-- The bead stands between two rows that bracket the bus, and the rows marked as
passed are behind it. -/
structure Consistent (cum : List K) (busKm : K) (view : LadderView K) : Prop where
  lower : kmAt cum view.seg ≤ busKm
  upper : busKm ≤ kmAt cum (view.seg + 1)
  inside : view.seg + 1 < cum.length
  behind : ∀ i, view.passed[i]? = some true → i ≤ view.seg

def NoneBehind (cum : List K) (busKm : K) : Prop :=
  ∀ i j, 1 ≤ i → i < j → j < cum.length → busKm ≤ kmAt cum i →
    busKm - (2 : Nat) / (100 : Nat) ≤ kmAt cum j

structure InOrder (cum : List K) (busKm : K) : Prop where
  ahead : ∃ i, 1 ≤ i ∧ i < cum.length ∧ busKm ≤ kmAt cum i
  begun : busKm ≤ kmAt cum 1 → kmAt cum 0 ≤ busKm
  order : NoneBehind cum busKm

theorem passed_iff (route : BusRoute K) (busId : String) (speed : Option K) (i : Nat) :
    (ladderView route cum busId speed busKm).passed[i]? = some true ↔
      i < cum.length ∧ kmAt cum i < busKm - (2 : Nat) / (100 : Nat) := by
  rw [ladderView, List.getElem?_map, Option.map_eq_some_iff, kmAt, List.getD_eq_getElem?_getD]
  constructor
  · rintro ⟨km, found, isPassed⟩
    rw [found]
    exact ⟨(List.getElem?_eq_some_iff.mp found).1, of_decide_eq_true isPassed⟩
  · rintro ⟨inside, isPassed⟩
    have found : cum[i]? = some cum[i] := List.getElem?_eq_getElem inside
    rw [found] at isPassed
    exact ⟨cum[i], found, decide_eq_true isPassed⟩

/-- Every stop that the search went past lies behind the bus, and the search went past
no stop ahead of the bus. -/
theorem bead_spec (long : 2 ≤ cum.length) (route : BusRoute K) (busId : String)
    (speed : Option K) : ∃ seg, (ladderView route cum busId speed busKm).seg = seg ∧
      seg + 1 < cum.length ∧ (∀ i, 1 ≤ i → i ≤ seg → kmAt cum i < busKm) ∧
      ∀ i, 1 ≤ i → i < cum.length → busKm ≤ kmAt cum i → busKm ≤ kmAt cum (seg + 1) := by
  obtain ⟨_, upper, stepped, stopped⟩ := ladder_seg_spec cum busKm (cum.length - 2) 0
  have behind : ∀ i, 1 ≤ i → i ≤ ladderSeg cum busKm (cum.length - 2) 0 →
      kmAt cum i < busKm := by
    intro i first within
    have past := stepped (i - 1) (Nat.zero_le _) (by omega)
    rwa [Nat.sub_add_cancel first] at past
  refine ⟨ladderSeg cum busKm (cum.length - 2) 0, rfl, by omega, behind, ?_⟩
  intro i first inside ahead
  rcases Nat.lt_or_ge (ladderSeg cum busKm (cum.length - 2) 0) (0 + (cum.length - 2)) with
    early | full
  · exact stopped early
  · have notPassed : ladderSeg cum busKm (cum.length - 2) 0 < i := by
      by_contra within
      exact absurd (behind i first (by omega)) (not_lt.mpr ahead)
    have last : i = ladderSeg cum busKm (cum.length - 2) 0 + 1 := by omega
    rwa [last] at ahead

theorem view_consistent_iff [IsStrictOrderedRing K] (long : 2 ≤ cum.length) (route : BusRoute K)
    (busId : String) (speed : Option K) :
    Consistent cum busKm (ladderView route cum busId speed busKm) ↔ InOrder cum busKm := by
  obtain ⟨seg, atSeg, within, behind, bracket⟩ := bead_spec long route busId speed
  constructor
  · intro consistent
    have bracketed := consistent.upper
    rw [atSeg] at bracketed
    constructor
    case ahead => exact ⟨seg + 1, Nat.le_add_left 1 seg, within, bracketed⟩
    case begun =>
      intro notPassed
      have lower := consistent.lower
      have start : seg = 0 := by
        by_contra later
        exact absurd (behind 1 (le_refl 1) (by omega)) (not_lt.mpr notPassed)
      rwa [atSeg, start] at lower
    case order =>
      intro i j first before inside notBehind
      by_contra far
      have late := consistent.behind j
        ((passed_iff route busId speed j).mpr ⟨inside, not_le.mp far⟩)
      rw [atSeg] at late
      exact absurd (behind i first (by omega)) (not_lt.mpr notBehind)
  · rintro ⟨⟨i, first, inside, ahead⟩, begun, order⟩
    have bracketed := bracket i first inside ahead
    constructor
    case lower =>
      rw [atSeg]
      rcases Nat.eq_zero_or_pos seg with rfl | later
      · exact begun bracketed
      · exact (behind seg later (le_refl seg)).le
    case upper => rwa [atSeg]
    case inside => omega
    case behind =>
      intro j isPassed
      obtain ⟨within, far⟩ := (passed_iff route busId speed j).mp isPassed
      rw [atSeg]
      by_contra later
      rcases Nat.eq_or_lt_of_le (show seg + 1 ≤ j by omega) with rfl | beyond
      · have margin : (0 : K) ≤ (2 : Nat) / (100 : Nat) := by positivity
        linarith
      · exact absurd (order (seg + 1) j (Nat.le_add_left 1 seg) beyond within bracketed)
          (not_le.mpr far)

theorem in_order_between (long : 2 ≤ cum.length) (begun : kmAt cum 0 ≤ busKm)
    (ending : busKm ≤ kmAt cum (cum.length - 1)) : InOrder cum busKm ↔ NoneBehind cum busKm :=
  ⟨fun inOrder => inOrder.order,
    fun order => ⟨⟨cum.length - 1, by omega, by omega, ending⟩, fun _ => begun, order⟩⟩

end Search

/-! ## The ladder of a route -/

section Ladder
variable {geo : GeoDistance K} {page : LadderPage K} {routeId busId : String} {route : BusRoute K}

structure Follows (geo : GeoDistance K) (page : LadderPage K) (routeId busId : String)
    (route : BusRoute K) : Prop where
  served : page.busRoutes routeId = some route
  state : page.ladderState = some ⟨routeId, some busId, stopCumKm geo route⟩

theorem update_follows (follows : Follows geo page routeId busId route) (other : String)
    (coords : K × K) : Follows geo (updateLadderBusPosition geo page other coords) routeId busId
      route := by
  unfold updateLadderBusPosition
  split
  · exact follows
  · split
    · split
      · exact follows
      · split
        · exact follows
        · exact ⟨follows.served, follows.state⟩
    · exact follows

theorem updates_follow (follows : Follows geo page routeId busId route)
    (updates : List (String × (K × K))) :
    Follows geo (updates.foldl (fun page u => updateLadderBusPosition geo page u.1 u.2) page)
      routeId busId route := by
  induction updates generalizing page with
  | nil => exact follows
  | cons first rest ih => exact ih (update_follows follows first.1 first.2)

variable (geo) in
theorem show_follows (served : page.busRoutes routeId = some route) (stops : route.stops ≠ [])
    (busId : String) :
    Follows geo (showRouteLadder geo page routeId (some busId)) routeId busId route := by
  have shown : Follows geo
      { page with ladderState := some ⟨routeId, some busId, stopCumKm geo route⟩, view := none }
      routeId busId route := ⟨served, rfl⟩
  simp only [showRouteLadder, served]
  rw [if_neg stops]
  split
  · exact shown
  · exact update_follows shown busId _

theorem follows_view (follows : Follows geo page routeId busId route) (stops : route.stops ≠ [])
    (coords : K × K) :
    (updateLadderBusPosition geo page busId coords).view =
      some (ladderView route (stopCumKm geo route) busId
        ((updateLadderBusPosition geo page busId coords).liveBusSpeeds busId)
        (alongKm geo route.path coords)) := by
  have rows : stopCumKm geo route ≠ [] := by simpa [stopCumKm] using stops
  simp [updateLadderBusPosition, follows.state, follows.served, rows]

/-- Whatever was shown before, the ladder is right about the bus exactly when the stops
lie in order as seen from it. -/
theorem ladder_consistent_iff [IsStrictOrderedRing K] (geo : GeoDistance K) (page : LadderPage K)
    (routeId busId : String) (route : BusRoute K) (served : page.busRoutes routeId = some route)
    (stops : 2 ≤ route.stops.length) (before : List (String × (K × K))) (coords : K × K) :
    ∃ view, (updateLadderBusPosition geo
        (before.foldl (fun page u => updateLadderBusPosition geo page u.1 u.2)
          (showRouteLadder geo page routeId (some busId))) busId coords).view = some view ∧
      (Consistent (stopCumKm geo route) (alongKm geo route.path coords) view ↔
        InOrder (stopCumKm geo route) (alongKm geo route.path coords)) := by
  have some_stops : route.stops ≠ [] := by
    intro none
    simp [none] at stops
  have follows := updates_follow (show_follows geo served some_stops busId) before
  exact ⟨_, follows_view follows some_stops coords,
    view_consistent_iff (by simpa [stopCumKm] using stops) route busId _⟩

end Ladder

/-! ## A line with a spur -/

section Spur

theorem first_leg_km {stop km : ℝ} {rest : List ℝ}
    (known : ∀ km ∈ 0 :: stop :: rest, 0 ≤ km ∧ km ≤ 9000) (long : 0 < stop) (start : 0 ≤ km)
    (within : km ≤ stop) :
    alongKm haversine ((0 :: stop :: rest).map milestone) (milestone km) = km := by
  have place := milestone_pos known 0 (a := 0) (b := stop) (s := km / stop) rfl rfl long.ne
    (by positivity) (div_le_one_of_le₀ within long.le)
    (fun j before => absurd before (Nat.not_lt_zero j))
  have same : 0 + km / stop * (stop - 0) = km := by
    rw [sub_zero, zero_add, div_mul_cancel₀ _ long.ne']
  have upper := (known stop (by simp)).2
  have leg := milestone_distance (a := 0) (b := stop) (abs_le.mpr ⟨by linarith, by linarith⟩)
  rw [same] at place
  rw [alongKm, eta_cum_km_eq _ _ _ (by rw [place.1]; simp), place.1, place.2]
  simp only [List.map_cons, JourneyGraph.cumulative, leg]
  rw [sub_zero, abs_of_pos long, div_mul_cancel₀ _ long.ne']

/-- Out to the hospital at 5 km, back to the junction at 2 km and on to the depot at
8 km, all along one street. -/
noncomputable def spurRoute : BusRoute ℝ where
  name := "Spur"
  path := [milestone 0, milestone (5 : Nat), milestone (2 : Nat), milestone (8 : Nat)]
  stops := [⟨"Terminal", milestone 0⟩, ⟨"Hospital", milestone (5 : Nat)⟩,
    ⟨"Junction", milestone (2 : Nat)⟩, ⟨"Depot", milestone (8 : Nat)⟩]
  roadGeom := none

noncomputable def spurPage : LadderPage ℝ where
  busRoutes _ := some spurRoute
  liveBusSpeeds _ := none
  busMarkers _ := none
  ladderState := none
  view := none

theorem spur_known : ∀ km ∈ [(0 : ℝ), 5, 2, 8], 0 ≤ km ∧ km ≤ 9000 := by
  intro km member
  simp only [List.mem_cons, List.not_mem_nil, or_false] at member
  rcases member with rfl | rfl | rfl | rfl <;> norm_num

theorem spur_path : spurRoute.path = [0, 5, 2, 8].map milestone := rfl

theorem spur_out {km : ℝ} (start : 0 ≤ km) (within : km ≤ 5) :
    alongKm haversine spurRoute.path (milestone km) = km := by
  rw [spur_path]
  exact first_leg_km spur_known (by norm_num) start within

theorem spur_depot : alongKm haversine spurRoute.path (milestone 8) = 14 := by
  have place := milestone_pos spur_known 2 (a := 2) (b := 8) (s := 1) rfl rfl
    (by norm_num) zero_le_one (le_refl 1) (by
      intro j before c d starts ends t from_start to_end
      match j, before with
      | 0, _ =>
          simp only [List.getElem?_cons_zero, List.getElem?_cons_succ, Option.some.injEq]
            at starts ends
          subst starts ends
          linarith
      | 1, _ =>
          simp only [List.getElem?_cons_zero, List.getElem?_cons_succ, Option.some.injEq]
            at starts ends
          subst starts ends
          linarith)
  have same : (2 : ℝ) + 1 * (8 - 2) = 8 := by norm_num
  rw [same] at place
  have out := milestone_distance (a := 0) (b := 5) (by norm_num)
  have back := milestone_distance (a := 5) (b := 2) (by norm_num)
  have on := milestone_distance (a := 2) (b := 8) (by norm_num)
  rw [alongKm, spur_path, eta_cum_km_eq _ _ _ (by rw [place.1]; decide), place.1, place.2]
  simp only [List.map_cons, JourneyGraph.cumulative, out, back, on]
  norm_num

theorem spur_stops : stopCumKm haversine spurRoute = [0, 5, 2, 14] := by
  have places : stopCumKm haversine spurRoute =
      [alongKm haversine spurRoute.path (milestone 0), alongKm haversine spurRoute.path (milestone 5),
        alongKm haversine spurRoute.path (milestone 2),
        alongKm haversine spurRoute.path (milestone 8)] := rfl
  rw [places, spur_out (le_refl 0) (by norm_num), spur_out (by norm_num) (le_refl 5),
    spur_out (by norm_num) (by norm_num), spur_depot]

theorem ladder_consistent_spur : spurPage.busRoutes "7" = some spurRoute ∧
    2 ≤ spurRoute.stops.length ∧
    ∃ view, (updateLadderBusPosition haversine
        ([("bus-1", milestone 1)].foldl
          (fun page u => updateLadderBusPosition haversine page u.1 u.2)
          (showRouteLadder haversine spurPage "7" (some "bus-1"))) "bus-1" (milestone 2)).view =
        some view ∧
      (Consistent (stopCumKm haversine spurRoute)
          (alongKm haversine spurRoute.path (milestone 2)) view ↔
        InOrder (stopCumKm haversine spurRoute)
          (alongKm haversine spurRoute.path (milestone 2))) :=
  ⟨rfl, by simp [spurRoute], ladder_consistent_iff haversine spurPage "7" "bus-1" spurRoute rfl
    (by simp [spurRoute]) [("bus-1", milestone 1)] (milestone 2)⟩

-- On the way out at 3 km the junction is marked as passed, two rows below the bead.
theorem junction_passed : kmAt (stopCumKm haversine spurRoute) 0 ≤
      alongKm haversine spurRoute.path (milestone 3) ∧
    alongKm haversine spurRoute.path (milestone 3) ≤ kmAt (stopCumKm haversine spurRoute) 3 ∧
    ∀ view, (updateLadderBusPosition haversine (showRouteLadder haversine spurPage "7" (some "bus-1"))
        "bus-1" (milestone 3)).view = some view →
      ¬ Consistent (stopCumKm haversine spurRoute)
        (alongKm haversine spurRoute.path (milestone 3)) view := by
  have follows : Follows haversine (showRouteLadder haversine spurPage "7" (some "bus-1"))
      "7" "bus-1" spurRoute :=
    show_follows haversine rfl (by simp [spurRoute]) "bus-1"
  rw [spur_stops, spur_out (by norm_num) (by norm_num)]
  refine ⟨by norm_num [kmAt], by norm_num [kmAt], ?_⟩
  rw [follows_view follows (by simp [spurRoute]), spur_stops, spur_out (by norm_num) (by norm_num)]
  rintro view same consistent
  rw [Option.some_inj] at same
  rw [← same, view_consistent_iff (by decide)] at consistent
  have far := consistent.order 1 2 (le_refl 1) (by decide) (by decide) (by norm_num [kmAt])
  norm_num [kmAt] at far

end Spur

end CityBus.LineDiagram
