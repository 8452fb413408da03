import CityBus.RideGeometry

/-!
The kilometres of a RIDE edge against the way along the route. A stop is
projected to where the path passes it first, whichever pass the route stops at,
so on closed and self-crossing paths an edge can be too long or too short.
-/

namespace CityBus.RideDistance

open GeoUtils JourneyGraph JourneyPlan Polylines PathProjection CompiledGraph RideGeometry

/-! ## The way between stops -/

/-- The stops lie on the path in visiting order, stop `i` after the way `way i`. -/
structure StopsAlong (route : Route ℝ) (way : Nat → ℝ) : Prop where
  ordered : ∀ i, way i ≤ way (i + 1)
  passes : ∀ (i : Nat) (stop : Stop ℝ), route.stops[i]? = some stop →
    LiesAt plane (pathPoints route) (way i) (stop.lat, stop.lng)

def costsWay (graph : Graph ℝ) (route : Route ℝ) (way : Nat → ℝ) : Prop :=
  ∀ node ∈ graph.nodes, ∀ next ∈ graph.nodes, node.route = route → follows node next →
    1 / 1000 < way (node.stopIndex + 1) - way node.stopIndex →
    ∀ edge ∈ ridesTo graph node next ++ ridesTo graph next node,
      edge.km = way (node.stopIndex + 1) - way node.stopIndex

noncomputable def firstPass (route : Route ℝ) (stop : Stop ℝ) : ℝ :=
  sInf {s | LiesAt plane (pathPoints route) s (stop.lat, stop.lng)}

/-- Both stops are left behind by the same way at their first pass, or the way
happens to be the crow-flies figure that replaces a step back. -/
def keepsWay (route : Route ℝ) (way : Nat → ℝ) (i : Nat) (a b : Stop ℝ) : Prop :=
  way i - firstPass route a = way (i + 1) - firstPass route b ∨
    (firstPass route b - firstPass route a ≤ 1 / 1000 ∧
      stopDistance planar a b * INDIRECTNESS = way (i + 1) - way i)

section Ride
variable {rows : List (Route ℝ)}

theorem ride_edge_km (distinct : (rows.map Route.id).Nodup) {node next : Node ℝ}
    (known : node ∈ (build planar rows).nodes) (known' : next ∈ (build planar rows).nodes)
    (neighbours : follows node next) {edge : Edge ℝ}
    (ride : edge ∈ ridesTo (build planar rows) node next ++ ridesTo (build planar rows) next node) :
    edge.km = rideKm planar node next := by
  have place := (build planar rows).ids _ _ (follows_next distinct known known' neighbours).2
  simp only [ridesTo, List.mem_append, List.mem_filter, decide_eq_true_eq] at ride
  rcases ride with ⟨leaves, kind, target⟩ | ⟨leaves, kind, target⟩
  · obtain ⟨source, goal, atSource, atGoal, ride | walk⟩ := build_edge_cases planar rows leaves
    · obtain rfl := Option.some.inj (atSource.symm.trans (graph_node _ known))
      rw [target, graph_node _ known', Option.some.injEq] at atGoal
      subst atGoal
      rcases ride.2.2.1 with ⟨_, km⟩ | ⟨back, _⟩
      · exact km
      · omega
    · rw [walk.2] at kind
      exact absurd kind (by simp)
  · obtain ⟨source, goal, atSource, atGoal, ride | walk⟩ := build_edge_cases planar rows leaves
    · obtain rfl := Option.some.inj (atSource.symm.trans (graph_node _ known'))
      rw [target, graph_node _ known, Option.some.injEq] at atGoal
      subst atGoal
      rcases ride.2.2.1 with ⟨back, _⟩ | ⟨_, km⟩
      · omega
      · exact km
    · rw [walk.2] at kind
      exact absurd kind (by simp)

theorem stop_first_pass {node : Node ℝ} (known : node ∈ (build planar rows).nodes) {s : ℝ}
    (passes : LiesAt plane (pathPoints node.route) s (node.stop.lat, node.stop.lng)) :
    IsLeast {s | LiesAt plane (pathPoints node.route) s (node.stop.lat, node.stop.lng)}
      node.onPath.cumKm := by
  rw [lay_nodes_path planar 0 (servedRoutes rows) node known]
  exact project_first_pass passes

theorem ride_km_way {way : Nat → ℝ} {node next : Node ℝ}
    (known : node ∈ (build planar rows).nodes) (known' : next ∈ (build planar rows).nodes)
    (neighbours : follows node next) (stops : StopsAlong node.route way)
    (apart : 1 / 1000 < way (node.stopIndex + 1) - way node.stopIndex) :
    rideKm planar node next = way (node.stopIndex + 1) - way node.stopIndex ↔
      keepsWay node.route way node.stopIndex node.stop next.stop := by
  obtain ⟨line, index⟩ := neighbours
  have atStop := (lay_nodes_stop planar 0 (servedRoutes rows) node known).2
  have atNext := (lay_nodes_stop planar 0 (servedRoutes rows) next known').2
  rw [line, index] at atNext
  have first := (stop_first_pass known (stops.passes _ _ atStop)).csInf_eq
  have second := stop_first_pass known' (line ▸ stops.passes _ _ atNext)
  rw [line] at second
  have pass : firstPass node.route node.stop = node.onPath.cumKm := first
  have pass' : firstPass node.route next.stop = next.onPath.cumKm := second.csInf_eq
  rw [keepsWay, pass, pass', rideKm]
  have thousandth : (1 : ℝ) / ((1000 : Nat) : ℝ) = 1 / 1000 := by norm_num
  rw [thousandth]
  by_cases back : next.onPath.cumKm - node.onPath.cumKm ≤ 1 / 1000
  · rw [if_pos back]
    constructor
    · exact fun crow => Or.inr ⟨back, crow⟩
    · rintro (same | crow)
      · linarith
      · exact crow.2
  · rw [if_neg back]
    constructor
    · exact fun same => Or.inl (by linarith)
    · rintro (same | crow)
      · linarith
      · exact absurd crow.1 back

/-- Exactly when the rides of a route cost the way between its stops. -/
theorem rides_cost_way_iff (rows : List (Route ℝ)) (distinct : (rows.map Route.id).Nodup)
    (route : Route ℝ) (listed : route ∈ rows) (active : route.active = true)
    (way : Nat → ℝ) (stops : StopsAlong route way) :
    costsWay (build planar rows) route way ↔
      ∀ (i : Nat) (a b : Stop ℝ), route.stops[i]? = some a → route.stops[i + 1]? = some b →
        1 / 1000 < way (i + 1) - way i → keepsWay route way i a b := by
  constructor
  · intro costs i a b atStop atNext apart
    have inside := (List.getElem?_eq_some_iff.mp atNext).1
    have served := (served_iff rows route).mpr ⟨by omega, active, listed⟩
    obtain ⟨node, known, line, index⟩ := lay_nodes_found planar 0 _ served (show i < _ by omega)
    obtain ⟨next, known', line', index'⟩ := lay_nodes_found planar 0 _ served inside
    have stop := (lay_nodes_stop planar 0 _ node known).2
    have stop' := (lay_nodes_stop planar 0 _ next known').2
    rw [line, index, atStop, Option.some.injEq] at stop
    rw [line', index', atNext, Option.some.injEq] at stop'
    have neighbours : follows node next := ⟨line'.trans line.symm, by omega⟩
    obtain ⟨minutes, km, rides, _⟩ := follows_rides distinct known known' neighbours
    have edge : (⟨next.id, minutes, km, .RIDE⟩ : Edge ℝ) ∈
        ridesTo (build planar rows) node next ++ ridesTo (build planar rows) next node := by
      rw [rides]
      exact List.mem_cons_self
    have cost := costs node known next known' line neighbours (by rw [index]; exact apart) _ edge
    rw [ride_edge_km distinct known known' neighbours edge,
      ride_km_way known known' neighbours (line ▸ stops) (by rw [index]; exact apart)] at cost
    rw [stop, stop', ← index, ← line]
    exact cost
  · rintro keeps node known next known' rfl neighbours apart edge ride
    have atStop := (lay_nodes_stop planar 0 (servedRoutes rows) node known).2
    have atNext := (lay_nodes_stop planar 0 (servedRoutes rows) next known').2
    rw [neighbours.1, neighbours.2] at atNext
    rw [ride_edge_km distinct known known' neighbours ride,
      ride_km_way known known' neighbours stops apart]
    exact keeps _ _ _ atStop atNext apart

end Ride

/-! ## Round the triangle -/

section Loop

noncomputable def loopWay (i : Nat) : ℝ := if i = 0 then 0 else if i = 1 then (7 : Nat) else (12 : Nat)

theorem loop_sides :
    plane.dist (0, 0) (3, 0) = 3 ∧ plane.dist (3, 0) (3, 4) = 4 ∧ plane.dist (3, 4) (0, 0) = 5 := by
  refine ⟨?_, ?_, ?_⟩ <;> simp only [plane, planar]
  · rw [Real.sqrt_eq_iff_mul_self_eq_of_pos] <;> norm_num
  · rw [Real.sqrt_eq_iff_mul_self_eq_of_pos] <;> norm_num
  · rw [Real.sqrt_eq_iff_mul_self_eq_of_pos] <;> norm_num

theorem loop_stops : StopsAlong loopLine loopWay := by
  obtain ⟨first, second, third⟩ := loop_sides
  constructor
  case ordered =>
    intro i
    rcases Nat.lt_trichotomy i 1 with before | rfl | behind
    · obtain rfl : i = 0 := by omega
      norm_num [loopWay]
    · norm_num [loopWay]
    · norm_num [loopWay, show i ≠ 0 by omega, show i ≠ 1 by omega]
  case passes =>
    intro i stop found
    have path : pathPoints loopLine = [(0, 0), (3, 0), (3, 4), (0, 0)] := rfl
    rw [path]
    match i with
    | 0 =>
        obtain rfl := Option.some.inj found
        refine ⟨0, 0, le_refl 0, zero_le_one, ?_, ?_⟩
        · simp [spot, plane.start]
        · simp [travelled, loopWay]
    | 1 =>
        obtain rfl := Option.some.inj found
        refine ⟨1, 1, zero_le_one, le_refl 1, ?_, ?_⟩
        · simp [spot, plane.stop]
        · simp [travelled, loopWay, first, second]
          norm_num
    | 2 =>
        obtain rfl := Option.some.inj found
        refine ⟨2, 1, zero_le_one, le_refl 1, ?_, ?_⟩
        · simp [spot, plane.stop]
        · simp [travelled, loopWay, first, second, third]
          norm_num
    | i + 3 => exact absurd found (by simp [loopLine, lineAlong])

/-- The last side is 5 km long and costs 6.25 km. -/
theorem loop_ride_km :
    ∃ node ∈ (build planar [loopLine]).nodes, ∃ next ∈ (build planar [loopLine]).nodes,
      node.route = loopLine ∧ node.stopIndex = 1 ∧ follows node next ∧
        rideKm planar node next = 25 / 4 := by
  obtain ⟨node, known, line, index⟩ := loop_node (show 1 < 3 by omega)
  obtain ⟨next, known', line', index'⟩ := loop_node (show 2 < 3 by omega)
  have atStop := (lay_nodes_stop planar 0 (servedRoutes [loopLine]) node known).2
  have atNext := (lay_nodes_stop planar 0 (servedRoutes [loopLine]) next known').2
  rw [line, index] at atStop
  rw [line', index'] at atNext
  have first := stop_first_pass known' (line' ▸ loop_stops.passes 2 _ atNext)
  have start : LiesAt plane (pathPoints next.route) 0 (next.stop.lat, next.stop.lng) := by
    rw [← Option.some.inj atNext, line']
    exact loop_stops.passes 0 ⟨none, "Market", 0, 0⟩ rfl
  have zero : next.onPath.cumKm ≤ 0 := first.2 start
  have long : 2 ≤ (pathPoints loopLine).length := by simp [pathPoints, loopLine, lineAlong]
  obtain ⟨_, projected⟩ := project_projected node.stop.lat node.stop.lng long
  have nonneg : 0 ≤ node.onPath.cumKm := by
    rw [lay_nodes_path planar 0 (servedRoutes [loopLine]) node known, line, projected.cumKm]
    exact travelled_nonneg projected.start _ _
  refine ⟨node, known, next, known', line, index, ⟨line'.trans line.symm, by omega⟩, ?_⟩
  have crow : stopDistance planar node.stop next.stop = 5 := by
    rw [← Option.some.inj atStop, ← Option.some.inj atNext]
    exact loop_sides.2.2
  rw [rideKm, if_pos (by norm_num; linarith), crow]
  norm_num [INDIRECTNESS]

theorem loop_costs_more :
    StopsAlong loopLine loopWay ∧ ¬ costsWay (build planar [loopLine]) loopLine loopWay ∧
      ¬ ∀ (rows : List (Route ℝ)) (route : Route ℝ) (way : Nat → ℝ),
        (rows.map Route.id).Nodup → route ∈ rows → route.active = true → 2 ≤ route.path.length →
          StopsAlong route way → costsWay (build planar rows) route way := by
  have long : ¬ costsWay (build planar [loopLine]) loopLine loopWay := by
    intro costs
    obtain ⟨node, known, next, known', line, index, neighbours, km⟩ := loop_ride_km
    obtain ⟨minutes, shown, rides, _⟩ := follows_rides (by simp) known known' neighbours
    have edge : (⟨next.id, minutes, shown, .RIDE⟩ : Edge ℝ) ∈
        ridesTo (build planar [loopLine]) node next ++
          ridesTo (build planar [loopLine]) next node := by
      rw [rides]
      exact List.mem_cons_self
    have cost := costs node known next known' line neighbours
      (by rw [index]; norm_num [loopWay]) _ edge
    rw [ride_edge_km (by simp) known known' neighbours edge, km, index] at cost
    norm_num [loopWay] at cost
  refine ⟨loop_stops, long, fun always => long ?_⟩
  exact always [loopLine] loopLine loopWay (by simp) (List.mem_singleton_self _) rfl
    (by simp [loopLine, lineAlong]) loop_stops

theorem loop_costs_iff :
    costsWay (build planar [loopLine]) loopLine loopWay ↔
      ∀ (i : Nat) (a b : Stop ℝ), loopLine.stops[i]? = some a → loopLine.stops[i + 1]? = some b →
        1 / 1000 < loopWay (i + 1) - loopWay i → keepsWay loopLine loopWay i a b :=
  rides_cost_way_iff [loopLine] (by simp) loopLine (List.mem_singleton_self _) rfl loopWay loop_stops

end Loop

end CityBus.RideDistance
