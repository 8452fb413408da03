import CityBus.AddedService
import CityBus.CompiledGraph
import CityBus.JourneyCompleteness
import CityBus.UnroundedFold
import CityBus.WalkOrBus

/-!
The minutes that `planTransit` finds from door to door, as the least of a set that
does not mention the search. Two consequences for the network as a whole: the way
back takes as long as the way there, and buses that run more often take nobody longer.
-/

namespace CityBus.DoorToDoor

open GeoUtils JourneyGraph CheapestPaths JourneySearch JourneyOptimality JourneyPlan
open JourneyCompleteness UnroundedFold WalkOrBus CompiledGraph AddedService

variable {K : Type} [Field K] [LinearOrder K]

/-! ## Journeys without the search -/

section Journeys
variable (geo : GeoDistance K) (graph : Graph K) (fromLat fromLng toLat toLng : K)

/-- What it takes to walk to a stop, follow edges and walk on from another stop. -/
def doorToDoor : Set K :=
  {total | ∃ origin ∈ accessCandidates geo graph fromLat fromLng,
    ∃ last ∈ accessCandidates geo graph toLat toLng, ∃ edges,
      Path graph.edges Edge.target origin.id edges last.id ∧
      total = boardMinutes geo fromLat fromLng origin + pathCost Edge.minutes edges +
        egressMinutes geo toLat toLng last}

def bestTotal (order : QueueOrder K) : WithTop K :=
  (alightBest geo graph toLat toLng (search geo graph order fromLat fromLng).dist).bestTotal

variable {geo graph fromLat fromLng toLat toLng}

theorem journey_iff {total : K} : total ∈ doorToDoor geo graph fromLat fromLng toLat toLng ↔
    ∃ last ∈ accessCandidates geo graph toLat toLng,
      ∃ cost ∈ originChains geo graph fromLat fromLng last.id,
        total = cost + egressMinutes geo toLat toLng last := by
  constructor
  · rintro ⟨origin, boards, last, alights, edges, path, rfl⟩
    exact ⟨last, alights, _, ⟨origin.id, _, edges, ⟨origin, boards, rfl, rfl⟩, path, rfl⟩, rfl⟩
  · rintro ⟨last, alights, cost, ⟨u, start, edges, ⟨origin, boards, rfl, rfl⟩, path, rfl⟩, rfl⟩
    exact ⟨origin, boards, last, alights, edges, path, rfl⟩

variable [IsStrictOrderedRing K] (positive : ∀ u, ∀ edge ∈ graph.edges u, 0 < edge.minutes)
include positive

/-- Whatever the queue does with ties, the total is the least of all journeys. -/
theorem best_total_spec (order : QueueOrder K) :
    (bestTotal geo graph fromLat fromLng toLat toLng order = ⊤ ∧
        doorToDoor geo graph fromLat fromLng toLat toLng = ∅) ∨
      ∃ total : K, bestTotal geo graph fromLat fromLng toLat toLng order = total ∧
        IsLeast (doorToDoor geo graph fromLat fromLng toLat toLng) total := by
  rcases transit_chain geo graph fromLat fromLng toLat toLng (order_unranked order) positive with
    ⟨none, unreached⟩ | ⟨last, cost, origin, edges, stop, _, spelled, _, _, paid, chosen⟩
  · refine Or.inl ⟨by rw [bestTotal, none], Set.eq_empty_of_forall_notMem ?_⟩
    intro total journey
    obtain ⟨goal, alights, cost, reached, _⟩ := journey_iff.mp journey
    rw [unreached goal alights] at reached
    exact reached
  · refine Or.inr ⟨_, by rw [bestTotal, chosen], ?_, ?_⟩
    · exact journey_iff.mpr ⟨last, alighting_mem stop, cost, stop.cheapest.1, rfl⟩
    · intro total journey
      obtain ⟨goal, alights, reached, chain, rfl⟩ := journey_iff.mp journey
      obtain ⟨least, nearest, below⟩ := reached_least graph positive chain
      calc cost + egressMinutes geo toLat toLng last
          ≤ least + egressMinutes geo toLat toLng goal := alighting_le stop alights nearest
        _ ≤ reached + egressMinutes geo toLat toLng goal := add_le_add_left below _

variable [FloorRing K] in
theorem transit_rounds {order : QueueOrder K} {response : Response K}
    (bus : planTransit geo graph order fromLat fromLng toLat toLng = some response) :
    ∃ total : K, bestTotal geo graph fromLat fromLng toLat toLng order = total ∧
      response.totalMinutes = round1 total := by
  rcases transit_chain geo graph fromLat fromLng toLat toLng (order_unranked order) positive with
    ⟨none, _⟩ | ⟨last, cost, origin, edges, _, _, _, _, _, _, chosen⟩
  · simp [planTransit, planTransitWith, none] at bus
  · simp only [planTransit, planTransitWith, chosen, WithTop.untopD_coe] at bus
    exact ⟨_, by rw [bestTotal, chosen], fold_total bus⟩

end Journeys

section Riding
variable [FloorRing K] {geo : GeoDistance K} {graph : Graph K} {order : QueueOrder K}
  {fromLat fromLng toLat toLng : K} {response : Response K}

theorem plan_bus_iff
    (bus : planTransit geo graph order fromLat fromLng toLat toLng = some response) :
    plan geo graph order fromLat fromLng toLat toLng = .ok response ↔
      validEnds fromLat fromLng toLat toLng = true ∧
        (2 : Nat) / (100 : Nat) ≤ directWalkKm geo fromLat fromLng toLat toLng ∧
        ¬ (directWalkKm geo fromLat fromLng toLat toLng ≤ MAX_WALK_ONLY_KM ∧
          directMinutes geo fromLat fromLng toLat toLng ≤ response.totalMinutes) := by
  have different := on_foot_ne geo graph fromLat fromLng toLat toLng bus
  constructor
  · intro answered
    obtain ⟨valid, apart⟩ := plan_ok_ends answered
    refine ⟨valid, apart, fun walks => different ?_⟩
    rw [plan_eq graph order valid apart, bus] at answered
    simpa only [if_pos walks, Except.ok.injEq] using answered
  · rintro ⟨valid, apart, rides⟩
    rw [plan_eq graph order valid apart, bus]
    simp only [if_neg rides]

end Riding

section Compare
variable [IsStrictOrderedRing K] {geo : GeoDistance K} {graph other : Graph K}
  {fromLat fromLng toLat toLng fromLat' fromLng' toLat' toLng' : K}

theorem best_total_le (positive : ∀ u, ∀ edge ∈ graph.edges u, 0 < edge.minutes)
    (positive' : ∀ u, ∀ edge ∈ other.edges u, 0 < edge.minutes) (order order' : QueueOrder K)
    (matched : ∀ total ∈ doorToDoor geo graph fromLat fromLng toLat toLng,
      ∃ total' ∈ doorToDoor geo other fromLat' fromLng' toLat' toLng', total' ≤ total) :
    bestTotal geo other fromLat' fromLng' toLat' toLng' order' ≤
      bestTotal geo graph fromLat fromLng toLat toLng order := by
  rcases best_total_spec positive order with ⟨top, _⟩ | ⟨total, best, least⟩
  · rw [top]
    exact le_top
  · obtain ⟨total', member, below⟩ := matched total least.1
    rcases best_total_spec positive' order' with ⟨_, empty⟩ | ⟨best', same, least'⟩
    · rw [empty] at member
      exact absurd member (Set.notMem_empty total')
    · rw [best, same, WithTop.coe_le_coe]
      exact (least'.2 member).trans below

end Compare

/-! ## The way back -/

section Return
variable {geo : GeoDistance K} {rows : List (Route K)}

/-- The expected wait for the bus that a node stands for. -/
def vertexWait (graph : Graph K) (u : Nat) : K :=
  (graph.nodes[u]?).elim 0 ItineraryArithmetic.waitAt

/-- The way back over an edge differs by the wait at its ends. -/
theorem edge_back (u : Nat) (edge : Edge K) (leaves : edge ∈ (build geo rows).edges u) :
    ∃ edge' ∈ (build geo rows).edges edge.target, edge'.target = u ∧
      edge.minutes + vertexWait (build geo rows) u =
        edge'.minutes + vertexWait (build geo rows) edge.target := by
  obtain ⟨_, hopped⟩ := (build_edge_iff geo rows u edge).mp leaves
  simp only [hops, List.mem_append, List.mem_flatMap, List.mem_filterMap] at hopped
  rcases hopped with ⟨node, known, ride⟩ | ⟨source, known, goal, known', walk⟩
  · obtain ⟨next, found, more, _, _, minutes, ends⟩ := ride_hop_cases geo ride
    obtain ⟨forth, back⟩ := ride_leaves known more found minutes
    have atNext := graph_node (build geo rows) (List.mem_of_getElem? found)
    have sameWait : vertexWait (build geo rows) node.id = vertexWait (build geo rows) next.id := by
      rw [vertexWait, vertexWait, graph_node _ known, atNext, Option.elim_some, Option.elim_some,
        ItineraryArithmetic.waitAt, ItineraryArithmetic.waitAt,
        (lay_nodes_next geo 0 node.id (servedRoutes rows) node next (graph_node _ known) more
          found).1]
    rcases ends with ⟨rfl, target⟩ | ⟨rfl, target⟩
    · rw [target, sameWait]
      exact ⟨_, back, rfl, rfl⟩
    · rw [target, sameWait]
      exact ⟨_, forth, rfl, rfl⟩
  · obtain ⟨different, close, shape⟩ := transfer_hop_cases geo walk
    obtain ⟨rfl, rfl⟩ := Prod.mk.inj shape
    have back : transferHop geo goal source = some (goal.id, ⟨source.id,
        stopDistance geo source.stop goal.stop / WALK_SPEED_KMH * (60 : Nat) +
          source.route.frequencyMinutes / (2 : Nat), stopDistance geo source.stop goal.stop,
        .TRANSFER⟩) := by
      have symm : stopDistance geo goal.stop source.stop = stopDistance geo source.stop goal.stop :=
        geo.symm _ _ _ _
      simp [transferHop, different.symm, symm, close]
    refine ⟨_, transfer_leaves known' known back, rfl, ?_⟩
    simp only [vertexWait, graph_node _ known, graph_node _ known', Option.elim_some,
      ItineraryArithmetic.waitAt]
    exact add_right_comm _ _ _

variable {fromLat fromLng toLat toLng : K}

theorem board_egress (lat lng : K) {node : Node K} (known : node ∈ (build geo rows).nodes) :
    boardMinutes geo lat lng node =
      egressMinutes geo lat lng node + vertexWait (build geo rows) node.id := by
  rw [vertexWait, graph_node _ known]
  rfl

theorem journey_back {total : K}
    (journey : total ∈ doorToDoor geo (build geo rows) fromLat fromLng toLat toLng) :
    total ∈ doorToDoor geo (build geo rows) toLat toLng fromLat fromLng := by
  obtain ⟨origin, boards, last, alights, edges, path, rfl⟩ := journey
  obtain ⟨edges', path', same⟩ := path_reversed edge_back path
  refine ⟨last, alights, origin, boards, edges', path', ?_⟩
  rw [board_egress _ _ (access_candidate_mem geo _ boards),
    board_egress _ _ (access_candidate_mem geo _ alights)]
  linear_combination same

variable [IsStrictOrderedRing K] (geo rows fromLat fromLng toLat toLng)

theorem best_total_back (order order' : QueueOrder K) :
    bestTotal geo (build geo rows) toLat toLng fromLat fromLng order' =
      bestTotal geo (build geo rows) fromLat fromLng toLat toLng order := by
  have positive : ∀ u, ∀ edge ∈ (build geo rows).edges u, 0 < edge.minutes :=
    fun _ _ leaves => build_minutes_pos geo rows leaves
  apply le_antisymm
  · exact best_total_le positive positive order order'
      fun total journey => ⟨total, journey_back journey, le_refl total⟩
  · exact best_total_le positive positive order' order
      fun total journey => ⟨total, journey_back journey, le_refl total⟩

variable [FloorRing K]

/-- On every network the way back takes as long as the way there, whatever order the
queue serves equal distances in: the totals are the same, and so are the minutes of
the plans where both ways have a bus to ride. -/
theorem return_trip_alike (order order' : QueueOrder K) :
    bestTotal geo (build geo rows) toLat toLng fromLat fromLng order' =
        bestTotal geo (build geo rows) fromLat fromLng toLat toLng order ∧
      ∀ there back,
        planTransit geo (build geo rows) order fromLat fromLng toLat toLng = some there →
        planTransit geo (build geo rows) order' toLat toLng fromLat fromLng = some back →
        back.totalMinutes = there.totalMinutes ∧
          ((plan geo (build geo rows) order fromLat fromLng toLat toLng = .ok there ↔
            plan geo (build geo rows) order' toLat toLng fromLat fromLng = .ok back)) := by
  have same := best_total_back geo rows fromLat fromLng toLat toLng order order'
  refine ⟨same, fun there back bus bus' => ?_⟩
  have positive : ∀ u, ∀ edge ∈ (build geo rows).edges u, 0 < edge.minutes :=
    fun _ _ leaves => build_minutes_pos geo rows leaves
  obtain ⟨total, best, rounded⟩ := transit_rounds positive bus
  obtain ⟨total', best', rounded'⟩ := transit_rounds positive bus'
  have minutes : back.totalMinutes = there.totalMinutes := by
    rw [rounded, rounded']
    rw [best, best', WithTop.coe_inj] at same
    rw [same]
  refine ⟨minutes, ?_⟩
  have length : directWalkKm geo toLat toLng fromLat fromLng =
      directWalkKm geo fromLat fromLng toLat toLng := by
    rw [directWalkKm, directWalkKm, geo.symm]
  have ends : validEnds toLat toLng fromLat fromLng = validEnds fromLat fromLng toLat toLng := by
    simp only [validEnds, Bool.and_assoc]
    grind
  rw [plan_bus_iff bus, plan_bus_iff bus', directMinutes, directMinutes, length, ends, minutes]

end Return

/-! ## Buses that run more often -/

section Frequency
variable (frequency : Route K → ℕ+)

theorem sort_map {Row Key : Type} [LinearOrder Key] (key : Row → Key) (f : Row → Row)
    (keeps : ∀ row, key (f row) = key row) (rows : List Row) :
    (rows.map f).insertionSort (fun a b => key a ≤ key b) =
      (rows.insertionSort fun a b => key a ≤ key b).map f := by
  symm
  apply List.map_insertionSort
  intro a _ b _
  rw [keeps, keeps]

def retime (route : Route K) : Route K :=
  { route with
    frequencyMinutes := frequency route
    frequency_pos := (frequency route).pos }

def retimeNode (node : Node K) : Node K := { node with route := retime frequency node.route }

variable {frequency} {geo : GeoDistance K} {rows : List (Route K)}

omit [Field K] [LinearOrder K] in
theorem served_retimed (rows : List (Route K)) :
    servedRoutes (rows.map (retime frequency)) = (servedRoutes rows).map (retime frequency) := by
  have sorted : findAllByOrderByRouteNumberAsc (rows.map (retime frequency)) =
      (findAllByOrderByRouteNumberAsc rows).map (retime frequency) := by
    exact sort_map Route.routeNumber (retime frequency) (fun _ => rfl) rows
  simp only [servedRoutes, sorted, List.filter_map]
  rfl

theorem stop_nodes_retimed (route : Route K) (id i : Nat) (stops : List (Stop K)) :
    stopNodes geo (retime frequency route) id i stops =
      (stopNodes geo route id i stops).map (retimeNode frequency) := by
  induction stops generalizing id i with
  | nil => rfl
  | cons stop rest ih => rw [stopNodes, stopNodes, List.map_cons, ih]; rfl

theorem lay_nodes_retimed (id : Nat) (routes : List (Route K)) :
    layNodes geo id (routes.map (retime frequency)) =
      (layNodes geo id routes).map (retimeNode frequency) := by
  induction routes generalizing id with
  | nil => rfl
  | cons route rest ih =>
      rw [List.map_cons, layNodes, layNodes, List.map_append, ih, ← stop_nodes_retimed]
      rfl

theorem build_retimed_nodes : (build geo (rows.map (retime frequency))).nodes =
    (build geo rows).nodes.map (retimeNode frequency) := by
  simp only [build, served_retimed, lay_nodes_retimed]

theorem candidates_retimed (lat lng : K) :
    accessCandidates geo (build geo (rows.map (retime frequency))) lat lng =
      (accessCandidates geo (build geo rows) lat lng).map (retimeNode frequency) := by
  simp only [accessCandidates, build_retimed_nodes, List.filter_map, List.map_take]
  congr 1
  exact sort_map (nodeDistance geo lat lng) (retimeNode frequency) (fun _ => rfl) _

theorem node_listed {node : Node K} (known : node ∈ (build geo rows).nodes) : node.route ∈ rows :=
  ((served_iff rows node.route).mp (lay_nodes_stop geo 0 (servedRoutes rows) node known).1).2.2

theorem retimed_known {node : Node K} (known : node ∈ (build geo rows).nodes) :
    retimeNode frequency node ∈ (build geo (rows.map (retime frequency))).nodes := by
  rw [build_retimed_nodes]
  exact List.mem_map_of_mem known

variable [IsStrictOrderedRing K]

theorem wait_retimed (sooner : ∀ route ∈ rows, (frequency route : Nat) ≤ route.frequencyMinutes)
    {node : Node K} (known : node ∈ (build geo rows).nodes) :
    ((retimeNode frequency node).route.frequencyMinutes : K) / (2 : Nat) ≤
      node.route.frequencyMinutes / (2 : Nat) := by
  have fewer : ((frequency node.route : Nat) : K) ≤ node.route.frequencyMinutes :=
    Nat.cast_le.mpr (sooner node.route (node_listed known))
  exact div_le_div_of_nonneg_right fewer (Nat.cast_nonneg 2)

theorem edge_retimed (sooner : ∀ route ∈ rows, (frequency route : Nat) ≤ route.frequencyMinutes)
    (u u' : Nat) (same : u = u') : ∀ edge ∈ (build geo rows).edges u,
      ∃ edge' ∈ (build geo (rows.map (retime frequency))).edges u',
        edge.target = edge'.target ∧ edge'.minutes ≤ edge.minutes := by
  subst same
  intro edge leaves
  obtain ⟨_, hopped⟩ := (build_edge_iff geo rows u edge).mp leaves
  simp only [hops, List.mem_append, List.mem_flatMap, List.mem_filterMap] at hopped
  rcases hopped with ⟨node, known, ride⟩ | ⟨source, known, goal, known', walk⟩
  · obtain ⟨next, found, more, _, _, minutes, ends⟩ := ride_hop_cases geo ride
    have found' : (build geo (rows.map (retime frequency))).nodes[node.id + 1]? =
        some (retimeNode frequency next) := by
      rw [build_retimed_nodes, List.getElem?_map, found]
      rfl
    have known' : retimeNode frequency node ∈ (build geo (rows.map (retime frequency))).nodes :=
      retimed_known known
    obtain ⟨forth, back⟩ := ride_leaves known' more found' rfl
    rcases ends with ⟨rfl, target⟩ | ⟨rfl, target⟩
    · exact ⟨_, forth, target, le_of_eq minutes.symm⟩
    · exact ⟨_, back, target, le_of_eq minutes.symm⟩
  · obtain ⟨different, close, shape⟩ := transfer_hop_cases geo walk
    obtain ⟨rfl, rfl⟩ := Prod.mk.inj shape
    have walk' : transferHop geo (retimeNode frequency source) (retimeNode frequency goal) =
        some ((retimeNode frequency source).id, ⟨goal.id, stopDistance geo source.stop goal.stop /
          WALK_SPEED_KMH * (60 : Nat) + (retimeNode frequency goal).route.frequencyMinutes /
          (2 : Nat), stopDistance geo source.stop goal.stop, .TRANSFER⟩) := by
      simp [transferHop, retimeNode, retime, different, close]
    have leaves' := transfer_leaves (retimed_known known) (retimed_known known') walk'
    exact ⟨_, leaves', rfl, add_le_add_right (wait_retimed sooner known') _⟩

variable {fromLat fromLng toLat toLng : K}

theorem journey_retimed
    (sooner : ∀ route ∈ rows, (frequency route : Nat) ≤ route.frequencyMinutes) {total : K}
    (journey : total ∈ doorToDoor geo (build geo rows) fromLat fromLng toLat toLng) :
    ∃ total' ∈ doorToDoor geo (build geo (rows.map (retime frequency))) fromLat fromLng toLat
      toLng, total' ≤ total := by
  obtain ⟨origin, boards, last, alights, edges, path, rfl⟩ := journey
  obtain ⟨edges', v, path', rfl, below⟩ :=
    path_dominated Edge.minutes Edge.minutes (edge_retimed sooner) path rfl
  refine ⟨_, ⟨retimeNode frequency origin, ?_, retimeNode frequency last, ?_, edges', path', rfl⟩,
    ?_⟩
  · rw [candidates_retimed]
    exact List.mem_map_of_mem boards
  · rw [candidates_retimed]
    exact List.mem_map_of_mem alights
  · have board : boardMinutes geo fromLat fromLng (retimeNode frequency origin) ≤
        boardMinutes geo fromLat fromLng origin :=
      add_le_add_right (wait_retimed sooner (access_candidate_mem geo _ boards)) _
    exact add_le_add_left (add_le_add board below) _

variable [FloorRing K]

/-- Where buses run more often, or some more often and none less, no rider is longer on
the way, however often each line ran before. -/
theorem frequent_buses_no_slower (fromLat fromLng toLat toLng : K)
    (sooner : ∀ route ∈ rows, (frequency route : Nat) ≤ route.frequencyMinutes)
    (order order' : QueueOrder K) :
    let often := build geo (rows.map (retime frequency))
    bestTotal geo often fromLat fromLng toLat toLng order' ≤
        bestTotal geo (build geo rows) fromLat fromLng toLat toLng order ∧
      ∀ before after,
        planTransit geo (build geo rows) order fromLat fromLng toLat toLng = some before →
        planTransit geo often order' fromLat fromLng toLat toLng = some after →
        after.totalMinutes ≤ before.totalMinutes := by
  intro often
  have below : bestTotal geo often fromLat fromLng toLat toLng order' ≤
      bestTotal geo (build geo rows) fromLat fromLng toLat toLng order :=
    best_total_le (fun _ _ leaves => build_minutes_pos geo rows leaves)
      (fun _ _ leaves => build_minutes_pos geo _ leaves) order order'
      fun _ journey => journey_retimed sooner journey
  refine ⟨below, fun before after bus bus' => ?_⟩
  obtain ⟨total, best, rounded⟩ :=
    transit_rounds (fun _ _ leaves => build_minutes_pos geo rows leaves) bus
  obtain ⟨total', best', rounded'⟩ :=
    transit_rounds (fun _ _ leaves => build_minutes_pos geo _ leaves) bus'
  rw [best, best', WithTop.coe_le_coe] at below
  rw [rounded, rounded']
  unfold round1
  gcongr

end Frequency

/-! ## Two lines with a walk between them -/

def ferryLine : Route ℚ :=
  { lineAlong [⟨1, 1 / 5⟩, ⟨4, 1 / 5⟩] [⟨none, "Quay", 1, 1 / 5⟩, ⟨none, "Island", 4, 1 / 5⟩] with
    id := 2
    routeNumber := 8
    frequencyMinutes := 30
    frequency_pos := by decide }

def harbour : List (Route ℚ) := [shortLine, ferryLine]

theorem island_and_back : ∃ there back : Response ℚ,
    planTransit taxicab (build taxicab harbour) (Polling.first Prod.snd) 0 0 4 (1 / 5) =
      some there ∧
    planTransit taxicab (build taxicab harbour) (Polling.first Prod.snd) 4 (1 / 5) 0 0 =
      some back ∧
    there.transfers = 1 ∧ back.totalMinutes = there.totalMinutes := by
  obtain ⟨there, bus, changes⟩ : ∃ there, planTransit taxicab (build taxicab harbour)
      (Polling.first Prod.snd) 0 0 4 (1 / 5) = some there ∧ there.transfers = 1 := by
    have found : ((planTransit taxicab (build taxicab harbour) (Polling.first Prod.snd) 0 0 4
        (1 / 5)).map (·.transfers)) = some 1 := by decide +kernel
    exact Option.map_eq_some_iff.mp found
  obtain ⟨back, bus'⟩ : ∃ back, planTransit taxicab (build taxicab harbour)
      (Polling.first Prod.snd) 4 (1 / 5) 0 0 = some back :=
    Option.isSome_iff_exists.mp (by decide +kernel)
  exact ⟨there, back, bus, bus', changes,
    ((return_trip_alike taxicab harbour 0 0 4 (1 / 5) (Polling.first Prod.snd)
      (Polling.first Prod.snd)).2 there back bus bus').1⟩

/-- Both lines every five minutes. -/
theorem island_sooner :
    bestTotal taxicab (build taxicab (harbour.map (retime fun _ => 5))) 0 0 4 (1 / 5)
        (Polling.first Prod.snd) ≤
      bestTotal taxicab (build taxicab harbour) 0 0 4 (1 / 5) (Polling.first Prod.snd) :=
  (frequent_buses_no_slower 0 0 4 (1 / 5) (by decide) (Polling.first Prod.snd)
    (Polling.first Prod.snd)).1

end CityBus.DoorToDoor
