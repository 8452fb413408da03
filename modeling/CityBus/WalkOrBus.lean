import CityBus.JourneyCompleteness
import CityBus.UnroundedFold

/-!
The fallback of `plan` to a walk. It compares the exact time of the walk with
the total of the bus journey, which `fold` has already rounded to a tenth of a
minute.
-/

namespace CityBus.WalkOrBus

open GeoUtils JourneyGraph CheapestPaths JourneySearch JourneyOptimality JourneyPlan
open JourneyCompleteness UnroundedFold

variable {K : Type} [Field K] [LinearOrder K] [FloorRing K]
variable (geo : GeoDistance K) (graph : Graph K) (fromLat fromLng toLat toLng : K)

def directMinutes : K := walkMinutes (directWalkKm geo fromLat fromLng toLat toLng)

def onFoot : Response K :=
  walkOnly fromLat fromLng toLat toLng (directWalkKm geo fromLat fromLng toLat toLng)
    (directMinutes geo fromLat fromLng toLat toLng)

/-- The answer of a planner that compares exact times. -/
def fasterOf (total : K) (response : Response K) : Response K :=
  if directMinutes geo fromLat fromLng toLat toLng ≤ total then
    onFoot geo fromLat fromLng toLat toLng
  else response

/-! ## The answer of plan -/

omit [Field K] [LinearOrder K] [FloorRing K] in
theorem has_ride_of_kept {legs : List (Leg K)} (kept : ¬ legs.all (fun leg => !isRide leg) = true) :
    hasRide legs := by
  simpa [hasRide, isRide] using kept

theorem fold_has_ride {arrivals : Nat → Option (Arrival K)} {lastNode : Nat}
    {totalMinutes egressKm : K} {response : Response K}
    (returned : fold geo graph arrivals lastNode totalMinutes egressKm fromLat fromLng toLat toLng =
      some response) : hasRide response.legs := by
  unfold fold foldWith at returned
  dsimp only at returned
  split at returned
  · split at returned
    · simp at returned
    · rename_i kept
      rw [← Option.some.inj returned]
      exact has_ride_of_kept kept
  · simp at returned

theorem transit_has_ride {order : QueueOrder K} {response : Response K}
    (bus : planTransit geo graph order fromLat fromLng toLat toLng = some response) :
    hasRide response.legs := by
  unfold planTransit planTransitWith at bus
  dsimp only at bus
  split at bus
  · simp at bus
  · exact fold_has_ride geo graph fromLat fromLng toLat toLng bus

theorem on_foot_ne {order : QueueOrder K} {response : Response K}
    (bus : planTransit geo graph order fromLat fromLng toLat toLng = some response) :
    onFoot geo fromLat fromLng toLat toLng ≠ response := by
  intro same
  have rides := transit_has_ride geo graph fromLat fromLng toLat toLng bus
  rw [← same] at rides
  simp [hasRide, onFoot, walkOnly, walkLeg, walkLegWith] at rides

section Choice
variable {geo graph fromLat fromLng toLat toLng} {order : QueueOrder K} {response : Response K}

variable (graph order) in
theorem plan_eq (valid : validEnds fromLat fromLng toLat toLng = true)
    (apart : (2 : Nat) / (100 : Nat) ≤ directWalkKm geo fromLat fromLng toLat toLng) :
    plan geo graph order fromLat fromLng toLat toLng =
      match planTransit geo graph order fromLat fromLng toLat toLng with
      | none =>
          if directWalkKm geo fromLat fromLng toLat toLng ≤ MAX_WALK_ONLY_KM then
            .ok (onFoot geo fromLat fromLng toLat toLng)
          else .error noJourney
      | some response =>
          if directWalkKm geo fromLat fromLng toLat toLng ≤ MAX_WALK_ONLY_KM ∧
              directMinutes geo fromLat fromLng toLat toLng ≤ response.totalMinutes then
            .ok (onFoot geo fromLat fromLng toLat toLng)
          else .ok response := by
  unfold plan
  simp only [valid, not_true_eq_false, if_false, not_lt.mpr apart, transit_tested]
  rfl

theorem plan_ok_ends (answered : plan geo graph order fromLat fromLng toLat toLng = .ok response) :
    validEnds fromLat fromLng toLat toLng = true ∧
      (2 : Nat) / (100 : Nat) ≤ directWalkKm geo fromLat fromLng toLat toLng := by
  unfold plan at answered
  dsimp only at answered
  split at answered
  · simp at answered
  · rename_i valid
    split at answered
    · simp at answered
    · rename_i apart
      exact ⟨not_not.mp valid, not_lt.mp apart⟩

/-- Where a walk is short enough, `plan` compares it with the rounded total. -/
theorem plan_choice (valid : validEnds fromLat fromLng toLat toLng = true)
    (apart : (2 : Nat) / (100 : Nat) ≤ directWalkKm geo fromLat fromLng toLat toLng)
    (near : directWalkKm geo fromLat fromLng toLat toLng ≤ MAX_WALK_ONLY_KM)
    (bus : planTransit geo graph order fromLat fromLng toLat toLng = some response) :
    plan geo graph order fromLat fromLng toLat toLng =
      .ok (fasterOf geo fromLat fromLng toLat toLng response.totalMinutes response) := by
  rw [plan_eq graph order valid apart, bus]
  simp only [near, true_and, fasterOf]
  split <;> rfl

theorem on_foot_near
    (answered : plan geo graph order fromLat fromLng toLat toLng =
      .ok (onFoot geo fromLat fromLng toLat toLng)) :
    directWalkKm geo fromLat fromLng toLat toLng ≤ MAX_WALK_ONLY_KM := by
  obtain ⟨valid, apart⟩ := plan_ok_ends answered
  rw [plan_eq graph order valid apart] at answered
  by_contra far
  cases bus : planTransit geo graph order fromLat fromLng toLat toLng with
  | none => simp [bus, far] at answered
  | some response =>
      simp only [bus, far, false_and, if_false, Except.ok.injEq] at answered
      exact on_foot_ne geo graph fromLat fromLng toLat toLng bus answered.symm

theorem response_total {exact : Response K}
    (bus : planTransit geo graph order fromLat fromLng toLat toLng = some response)
    (unrounded : planTransitWith .exact graph geo order fromLat fromLng toLat toLng = some exact) :
    response.totalMinutes = round1 exact.totalMinutes := by
  have same := plan_transit_minutes graph geo order fromLat fromLng toLat toLng
  rw [bus, unrounded] at same
  simpa using same

/-- Two totals lead to the same answer exactly when the walk compares alike. -/
theorem faster_of_eq_iff {total other : K}
    (bus : planTransit geo graph order fromLat fromLng toLat toLng = some response) :
    fasterOf geo fromLat fromLng toLat toLng other response =
        fasterOf geo fromLat fromLng toLat toLng total response ↔
      (directMinutes geo fromLat fromLng toLat toLng ≤ total ↔
        directMinutes geo fromLat fromLng toLat toLng ≤ other) := by
  have different := on_foot_ne geo graph fromLat fromLng toLat toLng bus
  unfold fasterOf
  by_cases before : directMinutes geo fromLat fromLng toLat toLng ≤ total <;>
    by_cases after : directMinutes geo fromLat fromLng toLat toLng ≤ other <;>
    simp [before, after, different, different.symm]

variable [IsStrictOrderedRing K]

omit [FloorRing K] in
theorem transit_total {exact : Response K}
    (positive : ∀ u, ∀ edge ∈ graph.edges u, 0 < edge.minutes)
    (unrounded : planTransitWith .exact graph geo order fromLat fromLng toLat toLng = some exact) :
    ∃ last cost, AlightingStop geo graph fromLat fromLng toLat toLng last cost ∧
      exact.totalMinutes = cost + egressMinutes geo toLat toLng last := by
  rcases transit_chain geo graph fromLat fromLng toLat toLng (order_unranked order) positive with
    ⟨none, _⟩ | ⟨last, cost, origin, edges, stop, _, _, _, _, _, chosen⟩
  · simp [planTransitWith, none] at unrounded
  · refine ⟨last, cost, stop, ?_⟩
    simp only [planTransitWith, chosen, WithTop.untopD_coe] at unrounded
    exact fold_total unrounded

omit [FloorRing K] in
theorem alighting_total {exact : Response K} {last : Node K} {cost : K}
    (positive : ∀ u, ∀ edge ∈ graph.edges u, 0 < edge.minutes)
    (stop : AlightingStop geo graph fromLat fromLng toLat toLng last cost)
    (unrounded : planTransitWith .exact graph geo order fromLat fromLng toLat toLng = some exact) :
    exact.totalMinutes = cost + egressMinutes geo toLat toLng last := by
  obtain ⟨other, least, stop', total⟩ := transit_total positive unrounded
  have same := alighting_unique geo graph fromLat fromLng toLat toLng stop stop'
  subst same
  rw [total, stop.cheapest.unique stop'.cheapest]

/-- `plan` answers with the faster of the walk and the bus exactly when rounding
the total does not move it past the time of the walk. -/
theorem faster_chosen_iff (rows : List (Route K)) {last : Node K} {cost : K} {exact : Response K}
    (valid : validEnds fromLat fromLng toLat toLng = true)
    (apart : (2 : Nat) / (100 : Nat) ≤ directWalkKm geo fromLat fromLng toLat toLng)
    (near : directWalkKm geo fromLat fromLng toLat toLng ≤ MAX_WALK_ONLY_KM)
    (stop : AlightingStop geo (build geo rows) fromLat fromLng toLat toLng last cost)
    (bus : planTransit geo (build geo rows) order fromLat fromLng toLat toLng = some response)
    (unrounded : planTransitWith .exact (build geo rows) geo order fromLat fromLng toLat toLng =
      some exact) :
    exact.totalMinutes = cost + egressMinutes geo toLat toLng last ∧
      (plan geo (build geo rows) order fromLat fromLng toLat toLng =
          .ok (fasterOf geo fromLat fromLng toLat toLng exact.totalMinutes response) ↔
        (directMinutes geo fromLat fromLng toLat toLng ≤ cost + egressMinutes geo toLat toLng last ↔
          directMinutes geo fromLat fromLng toLat toLng ≤
            round1 (cost + egressMinutes geo toLat toLng last))) := by
  have total := alighting_total (fun _ _ leaves => build_minutes_pos geo rows leaves) stop unrounded
  refine ⟨total, ?_⟩
  rw [plan_choice valid apart near bus, Except.ok.injEq, faster_of_eq_iff bus,
    response_total bus unrounded, total]

end Choice

/-! ## A bus that is faster by a hair

A line of two stops 1529.5 m apart along a meridian, every 41 minutes. From stop
to stop the bus takes 25.4885 minutes with the wait, and the walk 25.49166. -/

section Causeway
open Real

noncomputable def causewayLine : Route ℝ :=
  { lineAlong [⟨north 0, 0⟩, ⟨north (3059 / 2000), 0⟩]
      [⟨none, "Landing", north 0, 0⟩, ⟨none, "Mole", north (3059 / 2000), 0⟩] with
    frequencyMinutes := 41
    frequency_pos := Nat.succ_pos 40 }

noncomputable def causewayRows : List (Route ℝ) := [causewayLine]

noncomputable def causeway : Graph ℝ := build haversine causewayRows

noncomputable def landing : Node ℝ :=
  ⟨0, causewayLine, 0, ⟨none, "Landing", north 0, 0⟩,
    project haversine (north 0) 0 (pathPoints causewayLine)⟩

noncomputable def mole : Node ℝ :=
  ⟨1, causewayLine, 1, ⟨none, "Mole", north (3059 / 2000), 0⟩,
    project haversine (north (3059 / 2000)) 0 (pathPoints causewayLine)⟩

theorem causeway_nodes : causeway.nodes = [landing, mole] := by
  simp [causeway, causewayRows, build, servedRoutes, findAllByOrderByRouteNumberAsc, layNodes,
    stopNodes, causewayLine, lineAlong, landing, mole]

theorem north_lt : north 0 < north (3059 / 2000) := by
  have scale : (0 : ℝ) < EARTH_RADIUS_KM * π := by
    simp only [EARTH_RADIUS_KM]
    positivity
  have apart := north_sub 0 (3059 / 2000)
  have positive : (0 : ℝ) < (3059 / 2000 - 0) * 180 / (EARTH_RADIUS_KM * π) := by positivity
  linarith

-- Both stops lie on the path, the second at its end.
theorem causeway_ride_km : rideKm haversine landing mole = 3059 / 2000 := by
  have apart := north_lt
  have length : haversine.distanceKm (north 0) 0 (north (3059 / 2000)) 0 = 3059 / 2000 := by
    rw [haversine_north] <;> norm_num
  have span : (north (3059 / 2000) - north 0) * (north (3059 / 2000) - north 0) ≠ 0 := by
    have positive : 0 < north (3059 / 2000) - north 0 := by linarith
    positivity
  have here : landing.onPath.cumKm = 0 := by
    simp [landing, causewayLine, lineAlong, pathPoints, project, nearest, cumulative,
      segmentFraction]
  have there : mole.onPath.cumKm = 3059 / 2000 := by
    simp [mole, causewayLine, lineAlong, pathPoints, project, nearest, cumulative,
      segmentFraction, length, span]
  norm_num [rideKm, here, there]

theorem causeway_boarding : accessCandidates haversine causeway (north 0) 0 = [landing] := by
  have nearLanding : nodeDistance haversine (north 0) 0 landing = 0 := by
    rw [nodeDistance, landing, haversine_north] <;> norm_num
  have farMole : nodeDistance haversine (north 0) 0 mole = 3059 / 2000 := by
    rw [nodeDistance, mole, haversine_north] <;> norm_num
  norm_num [accessCandidates, causeway_nodes, nearLanding, farMole, MAX_ACCESS_WALK_KM,
    MAX_ACCESS_CANDIDATES]

theorem causeway_egress :
    nodeDistance haversine (north (3059 / 2000)) 0 landing = 3059 / 2000 ∧
      nodeDistance haversine (north (3059 / 2000)) 0 mole = 0 := by
  constructor
  · rw [nodeDistance, landing, haversine_north] <;> norm_num
  · rw [nodeDistance, mole, haversine_north] <;> norm_num

theorem causeway_alighting :
    accessCandidates haversine causeway (north (3059 / 2000)) 0 = [mole] := by
  obtain ⟨farLanding, nearMole⟩ := causeway_egress
  norm_num [accessCandidates, causeway_nodes, farLanding, nearMole, MAX_ACCESS_WALK_KM,
    MAX_ACCESS_CANDIDATES]

theorem causeway_hops : hops haversine causeway.nodes =
    [(0, ⟨1, 3059 / 2000 / 20 * 60 + 2 / 5, 3059 / 2000, .RIDE⟩),
      (1, ⟨0, 3059 / 2000 / 20 * 60 + 2 / 5, 3059 / 2000, .RIDE⟩)] := by
  have ids : landing.id = 0 ∧ mole.id = 1 := ⟨rfl, rfl⟩
  have indices : landing.stopIndex = 0 ∧ mole.stopIndex = 1 := ⟨rfl, rfl⟩
  have routes : landing.route = causewayLine ∧ mole.route = causewayLine := ⟨rfl, rfl⟩
  have stops : causewayLine.stops.length = 2 := rfl
  rw [causeway_nodes]
  simp [hops, rideHops, transferHop, ids, indices, routes, stops, causeway_ride_km, BUS_SPEED_KMH,
    DWELL_MINUTES_PER_STOP]

theorem causeway_edge {u : Nat} {edge : Edge ℝ} (leaves : edge ∈ causeway.edges u)
    (ends : edge.target = 1) : u = 0 ∧ edge.kind = .RIDE ∧ edge.minutes = 9977 / 2000 := by
  rw [causeway, build_edge_iff, ← causeway, causeway_hops] at leaves
  simp only [List.mem_cons, Prod.mk.injEq, List.not_mem_nil, or_false] at leaves
  rcases leaves.2 with ⟨atLanding, rfl⟩ | ⟨_, rfl⟩
  · norm_num [atLanding]
  · simp at ends

theorem causeway_ride : ∃ edge ∈ causeway.edges 0, edge.target = 1 := by
  refine ⟨⟨1, 3059 / 2000 / 20 * 60 + 2 / 5, 3059 / 2000, .RIDE⟩, ?_, rfl⟩
  rw [causeway, build_edge_iff, ← causeway, causeway_hops, causeway_nodes]
  simp

theorem causeway_minutes_pos (u : Nat) (edge : Edge ℝ) (leaves : edge ∈ causeway.edges u) :
    0 < edge.minutes :=
  build_minutes_pos haversine causewayRows leaves

theorem causeway_board_minutes : boardMinutes haversine (north 0) 0 landing = 41 / 2 := by
  have here : nodeDistance haversine (north 0) 0 landing = 0 := by
    rw [nodeDistance, landing, haversine_north] <;> norm_num
  have often : landing.route.frequencyMinutes = 41 := rfl
  norm_num [boardMinutes, walkMinutes, here, often]

theorem causeway_cheapest : IsLeast (originChains haversine causeway (north 0) 0 0) (41 / 2) := by
  rw [← causeway_board_minutes]
  constructor
  · exact entry_chain_cost ⟨landing, by simp [causeway_boarding], rfl, rfl⟩
  · intro total reached
    exact only_boarding_ge haversine causeway (north 0) 0 causeway_boarding causeway_minutes_pos
      reached

theorem causeway_reached : originChains haversine causeway (north 0) 0 1 ≠ ∅ := by
  obtain ⟨edge, leaves, ends⟩ := causeway_ride
  have rode := edge_chain_cost causeway_cheapest.1 leaves
  rw [ends] at rode
  exact Set.Nonempty.ne_empty ⟨_, rode⟩

theorem causeway_chain {rank : Nat → Nat} {origin : Nat} {edges : List (Edge ℝ)} {cost : ℝ}
    (kept : EarliestChain causeway (accessCandidates haversine causeway (north 0) 0)
      (boardMinutes haversine (north 0) 0) rank origin edges 1 cost) :
    boards edges ∧ cost = 50977 / 2000 := by
  generalize atMole : 1 = v at kept
  cases kept with
  | @board node member =>
      rw [causeway_boarding, List.mem_singleton] at member
      subst member
      exact absurd atMole (by simp [landing])
  | @hop _ u edges edge total front leaves =>
      obtain ⟨rfl, ride, minutes⟩ := causeway_edge leaves atMole.symm
      have start := (earliest_cheapest front).unique causeway_cheapest
      refine ⟨⟨edge, by simp, ride⟩, ?_⟩
      rw [start, minutes]
      norm_num

theorem causeway_direct :
    directWalkKm haversine (north 0) 0 (north (3059 / 2000)) 0 = 3059 / 1600 ∧
      directMinutes haversine (north 0) 0 (north (3059 / 2000)) 0 = 3059 / 120 := by
  have length : haversine.distanceKm (north 0) 0 (north (3059 / 2000)) 0 = 3059 / 2000 := by
    rw [haversine_north] <;> norm_num
  constructor
  · norm_num [directWalkKm, length, INDIRECTNESS]
  · norm_num [directMinutes, directWalkKm, walkMinutes, length, INDIRECTNESS, WALK_SPEED_KMH]

theorem north_ends_valid {a b : ℝ} (nearA : |a| ≤ 9000) (nearB : |b| ≤ 9000) :
    validEnds (north a) 0 (north b) 0 = true := by
  have meridian : isValidLongitude (0 : ℝ) = true := by norm_num [isValidLongitude]
  simp only [validEnds, north_valid a nearA, north_valid b nearB, meridian, Bool.and_self]

theorem causeway_ends_valid : validEnds (north 0) 0 (north (3059 / 2000)) 0 = true :=
  north_ends_valid (by norm_num) (by norm_num)

theorem causeway_alights {last : Node ℝ} {cost : ℝ}
    (stop : AlightingStop haversine causeway (north 0) 0 (north (3059 / 2000)) 0 last cost) :
    last = mole :=
  only_alighting haversine causeway (north 0) 0 (north (3059 / 2000)) 0 causeway_alighting stop

theorem causeway_journey (order : QueueOrder ℝ) : ∃ response exact,
    planTransit haversine causeway order (north 0) 0 (north (3059 / 2000)) 0 = some response ∧
    planTransitWith .exact causeway haversine order (north 0) 0 (north (3059 / 2000)) 0 =
      some exact ∧
    exact.totalMinutes = 50977 / 2000 := by
  rcases transit_cases haversine causeway (north 0) 0 (north (3059 / 2000)) 0
    (order_unranked order) causeway_minutes_pos with
    ⟨_, unreached⟩ | ⟨last, cost, origin, edges, stop, kept, dropped⟩
  · exact absurd (unreached mole (by simp [causeway_alighting])) causeway_reached
  · obtain rfl := causeway_alights stop
    obtain ⟨rides, paid⟩ := causeway_chain kept
    cases bus : planTransit haversine causeway order (north 0) 0 (north (3059 / 2000)) 0 with
    | none => exact absurd rides (dropped.mp bus)
    | some response =>
        cases unrounded : planTransitWith .exact causeway haversine order (north 0) 0
          (north (3059 / 2000)) 0 with
        | none =>
            rw [exact_none_iff, bus] at unrounded
            exact absurd unrounded (by simp)
        | some exact =>
            obtain ⟨other, least, stop', total⟩ := transit_total causeway_minutes_pos unrounded
            obtain rfl := causeway_alights stop'
            have egress : egressMinutes haversine (north (3059 / 2000)) 0 mole = 0 := by
              simp [egressMinutes, walkMinutes, causeway_egress.2]
            refine ⟨response, exact, rfl, rfl, ?_⟩
            rw [total, egress, stop'.cheapest.unique stop.cheapest, paid, add_zero]

theorem causeway_choice {order : QueueOrder ℝ} {response : Response ℝ}
    (bus : planTransit haversine causeway order (north 0) 0 (north (3059 / 2000)) 0 =
      some response) :
    plan haversine causeway order (north 0) 0 (north (3059 / 2000)) 0 =
      .ok (fasterOf haversine (north 0) 0 (north (3059 / 2000)) 0 response.totalMinutes
        response) := by
  obtain ⟨length, _⟩ := causeway_direct
  refine plan_choice causeway_ends_valid ?_ ?_ bus
  · rw [length]
    norm_num
  · rw [length]
    norm_num [MAX_WALK_ONLY_KM]

/-- The answer is the walk, although the bus takes 25.4885 minutes and the walk
more than 25.49. -/
theorem causeway_walks (order : QueueOrder ℝ) : ∃ response exact,
    planTransit haversine (build haversine causewayRows) order (north 0) 0
      (north (3059 / 2000)) 0 = some response ∧
    planTransitWith .exact (build haversine causewayRows) haversine order (north 0) 0
      (north (3059 / 2000)) 0 = some exact ∧
    exact.totalMinutes < directMinutes haversine (north 0) 0 (north (3059 / 2000)) 0 ∧
    plan haversine (build haversine causewayRows) order (north 0) 0 (north (3059 / 2000)) 0 =
      .ok (onFoot haversine (north 0) 0 (north (3059 / 2000)) 0) ∧
    onFoot haversine (north 0) 0 (north (3059 / 2000)) 0 ≠ response := by
  obtain ⟨response, exact, bus, unrounded, total⟩ := causeway_journey order
  have shown : response.totalMinutes = 51 / 2 := by
    rw [response_total bus unrounded, total]
    norm_num [round1]
  have walk := causeway_direct.2
  refine ⟨response, exact, bus, unrounded, ?_, ?_, on_foot_ne _ _ _ _ _ _ bus⟩
  · rw [total, walk]
    norm_num
  · rw [← causeway, causeway_choice bus, fasterOf, walk, shown, if_pos (by norm_num)]

theorem causeway_walk_chosen :
    ¬ ∀ order response exact,
      planTransit haversine (build haversine causewayRows) order (north 0) 0
        (north (3059 / 2000)) 0 = some response →
      planTransitWith .exact (build haversine causewayRows) haversine order (north 0) 0
        (north (3059 / 2000)) 0 = some exact →
      plan haversine (build haversine causewayRows) order (north 0) 0 (north (3059 / 2000)) 0 =
        .ok (fasterOf haversine (north 0) 0 (north (3059 / 2000)) 0 exact.totalMinutes
          response) := by
  intro faster
  obtain ⟨response, exact, bus, unrounded, less, walked, different⟩ :=
    causeway_walks (Polling.first Prod.snd)
  have right := faster _ response exact bus unrounded
  rw [walked, fasterOf, if_neg (not_le.mpr less)] at right
  exact different (Except.ok.inj right)

theorem causeway_faster_iff :
    ∃ cost, ∃ response exact : Response ℝ,
      exact.totalMinutes = cost + egressMinutes haversine (north (3059 / 2000)) 0 mole ∧
      (plan haversine (build haversine causewayRows) (Polling.first Prod.snd) (north 0) 0
          (north (3059 / 2000)) 0 =
          .ok (fasterOf haversine (north 0) 0 (north (3059 / 2000)) 0 exact.totalMinutes response) ↔
        (directMinutes haversine (north 0) 0 (north (3059 / 2000)) 0 ≤
            cost + egressMinutes haversine (north (3059 / 2000)) 0 mole ↔
          directMinutes haversine (north 0) 0 (north (3059 / 2000)) 0 ≤
            round1 (cost + egressMinutes haversine (north (3059 / 2000)) 0 mole))) := by
  obtain ⟨response, exact, bus, unrounded, _⟩ := causeway_journey (Polling.first Prod.snd)
  obtain ⟨last, cost, stop, _⟩ := transit_total causeway_minutes_pos unrounded
  obtain rfl := causeway_alights stop
  obtain ⟨length, _⟩ := causeway_direct
  refine ⟨cost, response, exact, faster_chosen_iff causewayRows causeway_ends_valid ?_ ?_ stop bus
    unrounded⟩
  · rw [length]
    norm_num
  · rw [length]
    norm_num [MAX_WALK_ONLY_KM]

end Causeway

end CityBus.WalkOrBus
