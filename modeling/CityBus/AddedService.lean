import CityBus.CompiledGraph
import CityBus.ItineraryArithmetic
import CityBus.WalkOrBus

/-!
Two compilations of the network, over a table of routes and over one with a
route added. Every stop of the first has a twin in the second, with the same
rides and transfers, so no chain of the first gets lost. What can get lost is
its place among the ten access candidates.
-/

namespace CityBus.AddedService

open GeoUtils JourneyGraph CheapestPaths JourneySearch JourneyOptimality JourneyPlan
open JourneyCompleteness UnroundedFold WalkOrBus CompiledGraph

variable {K : Type} [Field K] [LinearOrder K] (geo : GeoDistance K)

/-! ## Twins -/

section Twins

/-- The same stop of the same route, compiled into two graphs. -/
structure SameStop (node twin : Node K) : Prop where
  route : twin.route = node.route
  stopIndex : twin.stopIndex = node.stopIndex
  stop : twin.stop = node.stop
  onPath : twin.onPath = node.onPath

def twins (graph other : Graph K) (u u' : Nat) : Prop :=
  ∃ node twin, graph.nodes[u]? = some node ∧ other.nodes[u']? = some twin ∧ SameStop node twin

variable {geo} {rows added : List (Route K)}

theorem build_same_stop {node twin : Node K} (known : node ∈ (build geo rows).nodes)
    (known' : twin ∈ (build geo added).nodes) (route : twin.route = node.route)
    (stopIndex : twin.stopIndex = node.stopIndex) : SameStop node twin := by
  have atStop := (lay_nodes_stop geo 0 (servedRoutes rows) node known).2
  have atStop' := (lay_nodes_stop geo 0 (servedRoutes added) twin known').2
  rw [route, stopIndex, atStop, Option.some.injEq] at atStop'
  constructor
  case route => exact route
  case stopIndex => exact stopIndex
  case stop => exact atStop'.symm
  case onPath =>
    rw [lay_nodes_path geo 0 (servedRoutes rows) node known,
      lay_nodes_path geo 0 (servedRoutes added) twin known', ← atStop', route]

theorem twin_exists (grown : ∀ route ∈ rows, route ∈ added) {node : Node K}
    (known : node ∈ (build geo rows).nodes) :
    ∃ twin ∈ (build geo added).nodes, SameStop node twin := by
  obtain ⟨served, atStop⟩ := lay_nodes_stop geo 0 (servedRoutes rows) node known
  have inside := (List.getElem?_eq_some_iff.mp atStop).1
  obtain ⟨stops, active, listed⟩ := (served_iff rows node.route).mp served
  have served' := (served_iff added node.route).mpr ⟨stops, active, grown _ listed⟩
  obtain ⟨twin, known', route, stopIndex⟩ := lay_nodes_found geo 0 (servedRoutes added) served' inside
  exact ⟨twin, known', build_same_stop known known' route stopIndex⟩

theorem same_stop_distance {node twin : Node K} (same : SameStop node twin) (lat lng : K) :
    nodeDistance geo lat lng twin = nodeDistance geo lat lng node := by
  rw [nodeDistance, nodeDistance, same.stop]

theorem same_stop_ride {node next twin nextTwin : Node K} (same : SameStop node twin)
    (sameNext : SameStop next nextTwin) : rideKm geo twin nextTwin = rideKm geo node next := by
  simp only [rideKm, same.onPath, same.stop, sameNext.onPath, sameNext.stop]

theorem next_twin {node next twin : Node K} (same : SameStop node twin)
    (known : node ∈ (build geo rows).nodes) (known' : twin ∈ (build geo added).nodes)
    (more : node.stopIndex + 1 < node.route.stops.length)
    (found : (build geo rows).nodes[node.id + 1]? = some next) :
    ∃ nextTwin, (build geo added).nodes[twin.id + 1]? = some nextTwin ∧ SameStop next nextTwin := by
  obtain ⟨route, stopIndex⟩ := lay_nodes_next geo 0 node.id (servedRoutes rows) node next
    (graph_node (build geo rows) known) more found
  have more' : twin.stopIndex + 1 < twin.route.stops.length := by
    rw [same.stopIndex, same.route]
    exact more
  have atTwin := graph_node (build geo added) known'
  obtain ⟨nextTwin, found'⟩ := lay_nodes_more geo 0 twin.id (servedRoutes added) atTwin more'
  obtain ⟨route', stopIndex'⟩ := lay_nodes_next geo 0 twin.id (servedRoutes added) twin nextTwin
    atTwin more' found'
  refine ⟨nextTwin, found', build_same_stop (List.mem_of_getElem? found)
    (List.mem_of_getElem? found') ?_ ?_⟩
  · rw [route', same.route, route]
  · rw [stopIndex', same.stopIndex, stopIndex]

theorem previous_twin {node next nextTwin : Node K} (same : SameStop next nextTwin)
    (known : node ∈ (build geo rows).nodes) (known' : nextTwin ∈ (build geo added).nodes)
    (more : node.stopIndex + 1 < node.route.stops.length)
    (found : (build geo rows).nodes[node.id + 1]? = some next) :
    ∃ twin ∈ (build geo added).nodes, SameStop node twin ∧
      (build geo added).nodes[twin.id + 1]? = some nextTwin := by
  obtain ⟨route, stopIndex⟩ := lay_nodes_next geo 0 node.id (servedRoutes rows) node next
    (graph_node (build geo rows) known) more found
  have atNext := graph_node (build geo added) known'
  have later : 0 < nextTwin.stopIndex := by
    rw [same.stopIndex, stopIndex]
    omega
  obtain ⟨j, twin, position, before, route', stopIndex'⟩ :=
    lay_nodes_before geo 0 nextTwin.id (servedRoutes added) atNext later
  have member : twin ∈ (build geo added).nodes := List.mem_of_getElem? before
  have atId : twin.id = j := (build geo added).ids j twin before
  refine ⟨twin, member, build_same_stop known member ?_ ?_, ?_⟩
  · rw [route', same.route, route]
  · have sameIndex := same.stopIndex
    omega
  · rw [atId, ← position]
    exact atNext

theorem edge_twin (grown : ∀ route ∈ rows, route ∈ added) (u u' : Nat)
    (related : twins (build geo rows) (build geo added) u u') :
    ∀ edge ∈ (build geo rows).edges u, ∃ edge' ∈ (build geo added).edges u',
      twins (build geo rows) (build geo added) edge.target edge'.target ∧
        edge'.minutes = edge.minutes := by
  intro edge leaves
  obtain ⟨node, twin, found, found', same⟩ := related
  have known := List.mem_of_getElem? found
  have known' := List.mem_of_getElem? found'
  obtain rfl := (build geo rows).ids u node found
  obtain rfl := (build geo added).ids u' twin found'
  obtain ⟨_, hopped⟩ := (build_edge_iff geo rows node.id edge).mp leaves
  simp only [hops, List.mem_append, List.mem_flatMap, List.mem_filterMap] at hopped
  -- A ride has its twin between the twins of its stops, whatever their ids have become.
  rcases hopped with ⟨first, member, ride⟩ | ⟨source, member, goal, memberGoal, walk⟩
  · obtain ⟨next, atNext, more, _, _, minutes, ⟨atFirst, target⟩ | ⟨atSecond, target⟩⟩ :=
      ride_hop_cases geo ride
    · obtain rfl := node_eq_of_id known member atFirst
      obtain ⟨nextTwin, atTwin, sameNext⟩ := next_twin same known known' more atNext
      have leaves' := ride_leaves known' (by rw [same.stopIndex, same.route]; exact more) atTwin
        (minutes.trans (by rw [same_stop_ride same sameNext]))
      refine ⟨_, leaves'.1, ⟨next, nextTwin, ?_, ?_, sameNext⟩, rfl⟩
      · rw [target]
        exact graph_node _ (List.mem_of_getElem? atNext)
      · exact graph_node _ (List.mem_of_getElem? atTwin)
    · obtain rfl := node_eq_of_id known (List.mem_of_getElem? atNext) atSecond
      obtain ⟨firstTwin, memberTwin, sameFirst, atTwin⟩ := previous_twin same member known' more atNext
      have leaves' := ride_leaves memberTwin (by rw [sameFirst.stopIndex, sameFirst.route]; exact more)
        atTwin (minutes.trans (by rw [same_stop_ride sameFirst same]))
      refine ⟨_, leaves'.2, ⟨first, firstTwin, ?_, graph_node _ memberTwin, sameFirst⟩, rfl⟩
      rw [target]
      exact graph_node _ member
  · obtain ⟨different, close, shape⟩ := transfer_hop_cases geo walk
    obtain ⟨atSource, rfl⟩ := Prod.mk.inj shape
    obtain rfl := node_eq_of_id known member atSource
    -- A transfer depends on the two stops and their routes alone.
    obtain ⟨goalTwin, memberTwin, sameGoal⟩ := twin_exists grown memberGoal
    have walk' : transferHop geo twin goalTwin = some (twin.id, ⟨goalTwin.id,
        stopDistance geo node.stop goal.stop / WALK_SPEED_KMH * (60 : Nat) +
          goal.route.frequencyMinutes / (2 : Nat), stopDistance geo node.stop goal.stop,
        .TRANSFER⟩) := by
      simp [transferHop, same.route, same.stop, sameGoal.route, sameGoal.stop, different, close]
    exact ⟨_, transfer_leaves known' memberTwin walk',
      ⟨goal, goalTwin, graph_node _ memberGoal, graph_node _ memberTwin, sameGoal⟩, rfl⟩

end Twins

/-! ## What a chain costs with more routes -/

section Totals
variable (fromLat fromLng toLat toLng : K)

/-- The ten nearest of the larger network still hold the stop. -/
def survives (added : List (Route K)) (lat lng : K) (node : Node K) : Prop :=
  ∀ twin ∈ (build geo added).nodes, SameStop node twin →
    twin ∈ accessCandidates geo (build geo added) lat lng

/-- Some cheapest journey of the smaller network boards and alights at stops that
the larger one still considers. -/
def spared (rows added : List (Route K)) : Prop :=
  ∃ last cost origin edges,
    AlightingStop geo (build geo rows) fromLat fromLng toLat toLng last cost ∧
    origin ∈ accessCandidates geo (build geo rows) fromLat fromLng ∧
    Path (build geo rows).edges Edge.target origin.id edges last.id ∧
    cost = boardMinutes geo fromLat fromLng origin + pathCost Edge.minutes edges ∧
    survives geo added fromLat fromLng origin ∧ survives geo added toLat toLng last

variable {geo fromLat fromLng toLat toLng} {rows added : List (Route K)}

theorem alighting_mem {graph : Graph K} {last : Node K} {cost : K}
    (stop : AlightingStop geo graph fromLat fromLng toLat toLng last cost) :
    last ∈ accessCandidates geo graph toLat toLng := by
  obtain ⟨before, after, split, _⟩ := stop.first
  simp [split]

theorem alighting_le {graph : Graph K} {last other : Node K} {cost near : K}
    (stop : AlightingStop geo graph fromLat fromLng toLat toLng last cost)
    (member : other ∈ accessCandidates geo graph toLat toLng)
    (nearest : IsLeast (originChains geo graph fromLat fromLng other.id) near) :
    cost + egressMinutes geo toLat toLng last ≤ near + egressMinutes geo toLat toLng other := by
  obtain ⟨before, after, split, above, notBelow⟩ := stop.first
  rw [split] at member
  rcases List.mem_append.mp member with front | rest
  · exact le_of_lt (above other front near nearest)
  · rcases List.mem_cons.mp rest with rfl | back
    · rw [stop.cheapest.unique nearest]
    · exact notBelow other back near nearest

variable [IsStrictOrderedRing K]

theorem reached_least (graph : Graph K) (positive : ∀ u, ∀ edge ∈ graph.edges u, 0 < edge.minutes)
    {v : Nat} {total : K} (reached : total ∈ originChains geo graph fromLat fromLng v) :
    ∃ near, IsLeast (originChains geo graph fromLat fromLng v) near ∧ near ≤ total := by
  have sound := search_sound (order_unranked (Polling.first Prod.snd)) positive geo fromLat fromLng
  have ended := search_ends graph geo (Polling.first Prod.snd) fromLat fromLng
  obtain ⟨unreached, least⟩ := sound_least sound ended v
  cases value : (search geo graph (Polling.first Prod.snd) fromLat fromLng).dist v with
  | top =>
      have empty := unreached.mp value
      rw [originChains, empty] at reached
      exact absurd reached (Set.notMem_empty total)
  | coe near => exact ⟨near, least near value, (least near value).2 reached⟩

omit [IsStrictOrderedRing K] in
theorem spared_reaches (grown : ∀ route ∈ rows, route ∈ added)
    (sparing : spared geo fromLat fromLng toLat toLng rows added) :
    ∃ last cost, AlightingStop geo (build geo rows) fromLat fromLng toLat toLng last cost ∧
      ∃ goal ∈ accessCandidates geo (build geo added) toLat toLng,
        cost ∈ originChains geo (build geo added) fromLat fromLng goal.id ∧
        egressMinutes geo toLat toLng goal = egressMinutes geo toLat toLng last := by
  obtain ⟨last, cost, origin, edges, stop, boards, path, paid, keptOrigin, keptLast⟩ := sparing
  have known := access_candidate_mem geo (build geo rows) boards
  have knownLast := access_candidate_mem geo (build geo rows) (alighting_mem stop)
  obtain ⟨originTwin, member, same⟩ := twin_exists grown known
  obtain ⟨edges', v, path', ⟨goal, goalTwin, atLast, atTwin, sameGoal⟩, total⟩ :=
    path_simulated Edge.minutes Edge.minutes (edge_twin grown) path
      ⟨origin, originTwin, graph_node _ known, graph_node _ member, same⟩
  obtain rfl : last = goal :=
    Option.some.inj ((graph_node (build geo rows) knownLast).symm.trans atLast)
  obtain rfl := (build geo added).ids v goalTwin atTwin
  refine ⟨last, cost, stop, goalTwin, keptLast goalTwin (List.mem_of_getElem? atTwin) sameGoal,
    ⟨originTwin.id, boardMinutes geo fromLat fromLng origin, edges', ?_, path', ?_⟩, ?_⟩
  · refine ⟨originTwin, keptOrigin originTwin member same, rfl, ?_⟩
    rw [boardMinutes, boardMinutes, same_stop_distance same, same.route]
  · rw [total, paid]
  · rw [egressMinutes, egressMinutes, same_stop_distance sameGoal]

theorem spared_total_le (grown : ∀ route ∈ rows, route ∈ added)
    (sparing : spared geo fromLat fromLng toLat toLng rows added) {last last' : Node K}
    {cost cost' : K}
    (stop : AlightingStop geo (build geo rows) fromLat fromLng toLat toLng last cost)
    (stop' : AlightingStop geo (build geo added) fromLat fromLng toLat toLng last' cost') :
    cost' + egressMinutes geo toLat toLng last' ≤ cost + egressMinutes geo toLat toLng last := by
  obtain ⟨other, near, sameStop, goal, member, reached, egress⟩ := spared_reaches grown sparing
  obtain rfl := alighting_unique geo (build geo rows) fromLat fromLng toLat toLng stop sameStop
  obtain rfl := stop.cheapest.unique sameStop.cheapest
  obtain ⟨least, nearest, below⟩ := reached_least (build geo added)
    (fun _ _ leaves => build_minutes_pos geo added leaves) reached
  calc cost' + egressMinutes geo toLat toLng last'
      ≤ least + egressMinutes geo toLat toLng goal := alighting_le stop' member nearest
    _ ≤ cost + egressMinutes geo toLat toLng last := by
        rw [egress]
        exact add_le_add_left below _

end Totals

/-! ## What plan answers with more routes -/

section Answers
variable [FloorRing K] (graph : Graph K) (order : QueueOrder K) (fromLat fromLng toLat toLng : K)

/-- `plan` answers with a journey of so many minutes, before they are rounded. -/
inductive Answers : K → Prop where
  | walk (answered : plan geo graph order fromLat fromLng toLat toLng =
      .ok (onFoot geo fromLat fromLng toLat toLng)) :
      Answers (directMinutes geo fromLat fromLng toLat toLng)
  | ride {response exact : Response K}
      (answered : plan geo graph order fromLat fromLng toLat toLng = .ok response)
      (bus : planTransit geo graph order fromLat fromLng toLat toLng = some response)
      (unrounded : planTransitWith .exact graph geo order fromLat fromLng toLat toLng =
        some exact) : Answers exact.totalMinutes

def roundsAlike : Prop :=
  ∀ last cost, AlightingStop geo graph fromLat fromLng toLat toLng last cost →
    (directMinutes geo fromLat fromLng toLat toLng ≤ cost + egressMinutes geo toLat toLng last ↔
      directMinutes geo fromLat fromLng toLat toLng ≤
        round1 (cost + egressMinutes geo toLat toLng last))

/-- Every chain the search can keep for the alighting stop takes a bus. -/
def chainsRide : Prop :=
  ∀ last cost origin edges, AlightingStop geo graph fromLat fromLng toLat toLng last cost →
    keptChain geo graph fromLat fromLng origin edges last cost → boards edges

variable {geo graph order fromLat fromLng toLat toLng} [IsStrictOrderedRing K]
variable {rows added : List (Route K)} {order' : QueueOrder K} {total : K}

theorem bus_answers {response : Response K}
    (valid : validEnds fromLat fromLng toLat toLng = true)
    (apart : (2 : Nat) / (100 : Nat) ≤ directWalkKm geo fromLat fromLng toLat toLng)
    (positive : ∀ u, ∀ edge ∈ graph.edges u, 0 < edge.minutes)
    (bus : planTransit geo graph order fromLat fromLng toLat toLng = some response) :
    ∃ last cost, AlightingStop geo graph fromLat fromLng toLat toLng last cost ∧
      ((directWalkKm geo fromLat fromLng toLat toLng ≤ MAX_WALK_ONLY_KM ∧
          directMinutes geo fromLat fromLng toLat toLng ≤
            round1 (cost + egressMinutes geo toLat toLng last) ∧
          Answers geo graph order fromLat fromLng toLat toLng
            (directMinutes geo fromLat fromLng toLat toLng)) ∨
        (¬ (directWalkKm geo fromLat fromLng toLat toLng ≤ MAX_WALK_ONLY_KM ∧
            directMinutes geo fromLat fromLng toLat toLng ≤
              round1 (cost + egressMinutes geo toLat toLng last)) ∧
          Answers geo graph order fromLat fromLng toLat toLng
            (cost + egressMinutes geo toLat toLng last))) := by
  cases unrounded : planTransitWith .exact graph geo order fromLat fromLng toLat toLng with
  | none =>
      rw [exact_none_iff, bus] at unrounded
      exact absurd unrounded (by simp)
  | some exact =>
      obtain ⟨last, cost, stop, total⟩ := transit_total positive unrounded
      have shown := response_total bus unrounded
      have choice := plan_eq graph order valid apart
      simp only [bus, shown, total] at choice
      refine ⟨last, cost, stop, ?_⟩
      by_cases walks : directWalkKm geo fromLat fromLng toLat toLng ≤ MAX_WALK_ONLY_KM ∧
          directMinutes geo fromLat fromLng toLat toLng ≤
            round1 (cost + egressMinutes geo toLat toLng last)
      · rw [if_pos walks] at choice
        exact Or.inl ⟨walks.1, walks.2, Answers.walk choice⟩
      · rw [if_neg walks] at choice
        rw [← total] at walks ⊢
        exact Or.inr ⟨walks, Answers.ride choice bus unrounded⟩

omit [IsStrictOrderedRing K] in
theorem walk_answers (valid : validEnds fromLat fromLng toLat toLng = true)
    (apart : (2 : Nat) / (100 : Nat) ≤ directWalkKm geo fromLat fromLng toLat toLng)
    (near : directWalkKm geo fromLat fromLng toLat toLng ≤ MAX_WALK_ONLY_KM)
    (none : planTransit geo graph order fromLat fromLng toLat toLng = none) :
    Answers geo graph order fromLat fromLng toLat toLng
      (directMinutes geo fromLat fromLng toLat toLng) := by
  have choice := plan_eq graph order valid apart
  simp only [none, near, if_true] at choice
  exact Answers.walk choice

theorem plan_answers_iff (positive : ∀ u, ∀ edge ∈ graph.edges u, 0 < edge.minutes) :
    (∃ response, plan geo graph order fromLat fromLng toLat toLng = .ok response) ↔
      ∃ total, Answers geo graph order fromLat fromLng toLat toLng total := by
  constructor
  · rintro ⟨answer, answered⟩
    obtain ⟨valid, apart⟩ := plan_ok_ends answered
    cases bus : planTransit geo graph order fromLat fromLng toLat toLng with
    | none =>
        by_cases near : directWalkKm geo fromLat fromLng toLat toLng ≤ MAX_WALK_ONLY_KM
        · exact ⟨_, walk_answers valid apart near bus⟩
        · rw [plan_eq graph order valid apart] at answered
          simp [bus, near] at answered
    | some response =>
        obtain ⟨last, cost, _, ⟨_, _, answers⟩ | ⟨_, answers⟩⟩ :=
          bus_answers valid apart positive bus
        · exact ⟨_, answers⟩
        · exact ⟨_, answers⟩
  · rintro ⟨total, answers⟩
    cases answers with
    | walk answered => exact ⟨_, answered⟩
    | ride answered => exact ⟨_, answered⟩

theorem walk_not_hurt (order : QueueOrder K)
    (valid : validEnds fromLat fromLng toLat toLng = true)
    (apart : (2 : Nat) / (100 : Nat) ≤ directWalkKm geo fromLat fromLng toLat toLng)
    (near : directWalkKm geo fromLat fromLng toLat toLng ≤ MAX_WALK_ONLY_KM)
    (positive : ∀ u, ∀ edge ∈ graph.edges u, 0 < edge.minutes)
    (alike : roundsAlike geo graph fromLat fromLng toLat toLng) :
    ∃ total, Answers geo graph order fromLat fromLng toLat toLng total ∧
      total ≤ directMinutes geo fromLat fromLng toLat toLng := by
  cases bus : planTransit geo graph order fromLat fromLng toLat toLng with
  | none => exact ⟨_, walk_answers valid apart near bus, le_refl _⟩
  | some response =>
      obtain ⟨last, cost, stop, ⟨_, _, answers⟩ | ⟨slower, answers⟩⟩ :=
        bus_answers valid apart positive bus
      · exact ⟨_, answers, le_refl _⟩
      · refine ⟨_, answers, ?_⟩
        by_contra longer
        exact slower ⟨near, (alike last cost stop).mp (le_of_lt (not_le.mp longer))⟩

theorem ride_not_hurt (order : QueueOrder K) {last : Node K} {cost : K}
    (grown : ∀ route ∈ rows, route ∈ added)
    (valid : validEnds fromLat fromLng toLat toLng = true)
    (apart : (2 : Nat) / (100 : Nat) ≤ directWalkKm geo fromLat fromLng toLat toLng)
    (stop : AlightingStop geo (build geo rows) fromLat fromLng toLat toLng last cost)
    (sparing : spared geo fromLat fromLng toLat toLng rows added)
    (riding : chainsRide geo (build geo added) fromLat fromLng toLat toLng)
    (alike : directWalkKm geo fromLat fromLng toLat toLng ≤ MAX_WALK_ONLY_KM →
      roundsAlike geo (build geo added) fromLat fromLng toLat toLng) :
    ∃ total, Answers geo (build geo added) order fromLat fromLng toLat toLng total ∧
      total ≤ cost + egressMinutes geo toLat toLng last := by
  have positive : ∀ u, ∀ edge ∈ (build geo added).edges u, 0 < edge.minutes :=
    fun _ _ leaves => build_minutes_pos geo added leaves
  cases bus : planTransit geo (build geo added) order fromLat fromLng toLat toLng with
  | none =>
      rcases transit_cases geo (build geo added) fromLat fromLng toLat toLng (order_unranked order)
        positive with ⟨_, unreached⟩ | ⟨last', cost', origin, edges, stop', kept, dropped⟩
      · obtain ⟨_, _, _, goal, member, reached, _⟩ := spared_reaches grown sparing
        rw [unreached goal member] at reached
        exact absurd reached (Set.notMem_empty _)
      · exact absurd (riding last' cost' origin edges stop' kept) (dropped.mp bus)
  | some response =>
      obtain ⟨last', cost', stop', ⟨near, shorter, answers⟩ | ⟨_, answers⟩⟩ :=
        bus_answers valid apart positive bus
      · refine ⟨_, answers, le_trans ((alike near last' cost' stop').mpr shorter) ?_⟩
        exact spared_total_le grown sparing stop stop'
      · exact ⟨_, answers, spared_total_le grown sparing stop stop'⟩

/-- More service does not hurt: if the walk answers the query over `rows`, or if
the ten nearest stops over `rows` and `route` spare a best journey over `rows` and
every best chain rides, then `plan` still answers, with a journey that takes no
longer, unless rounding moves the best total past the walk. -/
theorem more_service_not_hurts {route : Route K} (grown : added.Perm (route :: rows))
    (answered : Answers geo (build geo rows) order fromLat fromLng toLat toLng total)
    (unhindered : plan geo (build geo rows) order fromLat fromLng toLat toLng =
        .ok (onFoot geo fromLat fromLng toLat toLng) ∨
      spared geo fromLat fromLng toLat toLng rows added ∧
        chainsRide geo (build geo added) fromLat fromLng toLat toLng)
    (alike : directWalkKm geo fromLat fromLng toLat toLng ≤ MAX_WALK_ONLY_KM →
      roundsAlike geo (build geo added) fromLat fromLng toLat toLng)
    (order' : QueueOrder K) :
    ∃ total', Answers geo (build geo added) order' fromLat fromLng toLat toLng total' ∧
      total' ≤ total := by
  have listed : ∀ known ∈ rows, known ∈ added := fun known member =>
    grown.mem_iff.mpr (List.mem_cons_of_mem route member)
  have positive : ∀ u, ∀ edge ∈ (build geo added).edges u, 0 < edge.minutes :=
    fun _ _ leaves => build_minutes_pos geo added leaves
  cases answered with
  | walk answered =>
      obtain ⟨valid, apart⟩ := plan_ok_ends answered
      have near := on_foot_near answered
      exact walk_not_hurt order' valid apart near positive (alike near)
  | @ride response exact answered bus unrounded =>
      obtain ⟨valid, apart⟩ := plan_ok_ends answered
      rcases unhindered with walked | ⟨sparing, riding⟩
      · rw [answered] at walked
        exact absurd (Except.ok.inj walked).symm
          (on_foot_ne geo (build geo rows) fromLat fromLng toLat toLng bus)
      · obtain ⟨last, cost, stop, total⟩ :=
          transit_total (fun _ _ leaves => build_minutes_pos geo rows leaves) unrounded
        rw [total]
        exact ride_not_hurt order' listed valid apart stop sparing riding alike

end Answers

/-! ## Ten nearer stops -/

section Crowded
variable {geo}

theorem access_candidate_near {graph : Graph K} {lat lng : K} {node : Node K}
    (member : node ∈ accessCandidates geo graph lat lng) :
    nodeDistance geo lat lng node ≤ MAX_ACCESS_WALK_KM := by
  have sorted := List.mem_of_mem_take member
  rw [List.mem_insertionSort] at sorted
  simpa using (List.mem_filter.mp sorted).2

theorem crowded_out {graph : Graph K} {lat lng : K} {node : Node K}
    (nearer : MAX_ACCESS_CANDIDATES ≤ (graph.nodes.filter fun other =>
      nodeDistance geo lat lng other < nodeDistance geo lat lng node).length) :
    node ∉ accessCandidates geo graph lat lng := by
  intro member
  have near := access_candidate_near member
  let closer : Node K → Bool := fun other =>
    nodeDistance geo lat lng other < nodeDistance geo lat lng node
  change MAX_ACCESS_CANDIDATES ≤ (graph.nodes.filter closer).length at nearer
  let reachable := graph.nodes.filter fun other => nodeDistance geo lat lng other ≤ MAX_ACCESS_WALK_KM
  let sorted := reachable.insertionSort fun a b => nodeDistance geo lat lng a ≤ nodeDistance geo lat lng b
  have ordered : sorted.Pairwise fun a b => nodeDistance geo lat lng a ≤ nodeDistance geo lat lng b :=
    List.pairwise_insertionSort _ _
  have count : (sorted.filter closer).length = (graph.nodes.filter closer).length := by
    have perm := (List.perm_insertionSort (fun a b : Node K =>
      nodeDistance geo lat lng a ≤ nodeDistance geo lat lng b) reachable).filter closer
    rw [perm.length_eq, List.filter_filter]
    congr 1
    apply List.filter_congr
    intro other _
    by_cases less : nodeDistance geo lat lng other < nodeDistance geo lat lng node
    · simp [closer, less, le_trans (le_of_lt less) near]
    · simp [closer, less]
  -- What is nearer than `node` stands before it in the sorted list.
  obtain ⟨front, back, split⟩ := List.append_of_mem member
  have whole : sorted = front ++ node :: (back ++ sorted.drop MAX_ACCESS_CANDIDATES) := by
    have parts := (List.take_append_drop MAX_ACCESS_CANDIDATES sorted).symm
    rw [show sorted.take MAX_ACCESS_CANDIDATES = front ++ node :: back from split] at parts
    simpa using parts
  have short : front.length < MAX_ACCESS_CANDIDATES := by
    have bound := congrArg List.length split
    simp only [accessCandidates, List.length_take, List.length_append, List.length_cons] at bound
    omega
  rw [whole, List.pairwise_append, List.pairwise_cons] at ordered
  have behind : (node :: (back ++ sorted.drop MAX_ACCESS_CANDIDATES)).filter closer = [] := by
    apply List.filter_eq_nil_iff.mpr
    intro other after
    rcases List.mem_cons.mp after with rfl | later
    · simp [closer]
    · simpa [closer] using ordered.2.1.1 other later
  rw [whole, List.filter_append, behind, List.append_nil] at count
  have few := List.length_filter_le closer front
  omega

theorem transfer_close {rows : List (Route K)} {u : Nat} {edge : Edge K}
    (leaves : edge ∈ (build geo rows).edges u) (walk : edge.kind = .TRANSFER) :
    edge.km ≤ MAX_TRANSFER_WALK_KM := by
  obtain ⟨_, hopped⟩ := (build_edge_iff geo rows u edge).mp leaves
  simp only [hops, List.mem_append, List.mem_flatMap, List.mem_filterMap] at hopped
  rcases hopped with ⟨node, _, ride⟩ | ⟨source, _, goal, _, transfer⟩
  · obtain ⟨_, _, _, kind, _⟩ := ride_hop_cases geo ride
    rw [kind] at walk
    exact absurd walk (by simp)
  · obtain ⟨_, close, shape⟩ := transfer_hop_cases geo transfer
    obtain ⟨_, rfl⟩ := Prod.mk.inj shape
    exact close

end Crowded

/-! ## Ten bays at the door

Between the two ends of the terrace the quay is the only stop one can walk to. A
shuttle with ten stops on the way to it takes all ten places. -/

section Shuttle
open Real ItineraryArithmetic

noncomputable def bay (k : Nat) : Stop ℝ := ⟨none, "Bay", north (k / 20), 0⟩

noncomputable def shuttleLine : Route ℝ :=
  { lineAlong [⟨north 0, 0⟩, ⟨north (9 / 20), 0⟩] ((List.range 10).map bay) with
    id := 3
    routeNumber := 6 }

noncomputable def crowdedRows : List (Route ℝ) := shuttleLine :: terraceRows

theorem crowded_served : servedRoutes crowdedRows = [shuttleLine, quayLine, hillLine] := by
  simp [crowdedRows, terraceRows, servedRoutes, findAllByOrderByRouteNumberAsc, shuttleLine,
    quayLine, hillLine, lineAlong]

noncomputable def crowded : Graph ℝ := build haversine crowdedRows

theorem crowded_node {node : Node ℝ} (known : node ∈ crowded.nodes) :
    (node.route = shuttleLine ∧ ∃ k < 10, node.stop = bay k) ∨
      (node.route ≠ shuttleLine ∧ ∃ x : ℝ, node.stop.lat = north x ∧ node.stop.lng = 0 ∧
        (x = 7 / 5 ∨ x = -50 ∨ x = 8 / 5 ∨ x = 33 / 5)) := by
  obtain ⟨served, atStop⟩ := lay_nodes_stop haversine 0 (servedRoutes crowdedRows) node known
  have stop := List.mem_of_getElem? atStop
  have different : quayLine ≠ shuttleLine ∧ hillLine ≠ shuttleLine := by
    constructor
    · intro same
      exact absurd (congrArg Route.id same) (by simp [quayLine, shuttleLine, lineAlong])
    · intro same
      exact absurd (congrArg Route.id same) (by simp [hillLine, shuttleLine, lineAlong])
  rw [crowded_served] at served
  simp only [List.mem_cons, List.not_mem_nil, or_false] at served
  rcases served with route | route | route
  · left
    rw [route] at stop
    simp only [shuttleLine, lineAlong, List.mem_map, List.mem_range] at stop
    obtain ⟨k, inside, same⟩ := stop
    exact ⟨route, k, inside, same.symm⟩
  · right
    rw [route] at stop ⊢
    simp only [quayLine, lineAlong, List.mem_cons, List.not_mem_nil, or_false] at stop
    refine ⟨different.1, ?_⟩
    rcases stop with atQuay | atLighthouse
    · exact ⟨7 / 5, by rw [atQuay], by rw [atQuay], Or.inl rfl⟩
    · exact ⟨-50, by rw [atLighthouse], by rw [atLighthouse], Or.inr (Or.inl rfl)⟩
  · right
    rw [route] at stop ⊢
    simp only [hillLine, lineAlong, List.mem_cons, List.not_mem_nil, or_false] at stop
    refine ⟨different.2, ?_⟩
    rcases stop with atGate | atSummit
    · exact ⟨8 / 5, by rw [atGate], by rw [atGate], Or.inr (Or.inr (Or.inl rfl))⟩
    · exact ⟨33 / 5, by rw [atSummit], by rw [atSummit], Or.inr (Or.inr (Or.inr rfl))⟩

def onShuttle (v : Nat) : Prop :=
  ∃ node, crowded.nodes[v]? = some node ∧ node.route = shuttleLine

theorem shuttle_closed (v : Nat) (within : onShuttle v) :
    ∀ edge ∈ crowded.edges v, onShuttle edge.target := by
  intro edge leaves
  obtain ⟨node, found, route⟩ := within
  obtain ⟨source, goal, atSource, atGoal, ride | ⟨_, walk⟩⟩ :=
    build_edge_cases haversine crowdedRows leaves
  · obtain rfl : source = node := Option.some.inj (atSource.symm.trans found)
    exact ⟨goal, atGoal, ride.2.1.symm.trans route⟩
  · obtain rfl : source = node := Option.some.inj (atSource.symm.trans found)
    have close := transfer_close leaves (by rw [walk])
    rcases crowded_node (List.mem_of_getElem? atSource) with ⟨_, k, inside, here⟩ | ⟨other, _⟩
    · rcases crowded_node (List.mem_of_getElem? atGoal) with ⟨same, _⟩ | ⟨_, x, lat, lng, place⟩
      · exact ⟨goal, atGoal, same⟩
      · have last : (k : ℝ) ≤ 9 := by exact_mod_cast Nat.le_of_lt_succ inside
        have first : (0 : ℝ) ≤ k := Nat.cast_nonneg k
        have near : |x - k / 20| ≤ 19000 := by
          rw [abs_le]
          rcases place with rfl | rfl | rfl | rfl <;> constructor <;> linarith
        rw [walk, here] at close
        simp only [stopDistance, bay, lat, lng, haversine_north _ _ _ near,
          MAX_TRANSFER_WALK_KM] at close
        rw [abs_le] at close
        norm_num at close
        rcases place with rfl | rfl | rfl | rfl <;> linarith
    · exact absurd route other

theorem bay_distance {k : Nat} (inside : k < 10) {a : ℝ} (near : |a| ≤ 1000) {node : Node ℝ}
    (here : node.stop = bay k) : nodeDistance haversine (north a) 0 node = |k / 20 - a| := by
  have last : (k : ℝ) ≤ 9 := by exact_mod_cast Nat.le_of_lt_succ inside
  have first : (0 : ℝ) ≤ k := Nat.cast_nonneg k
  obtain ⟨lower, upper⟩ := abs_le.mp near
  rw [nodeDistance, here, bay]
  apply haversine_north
  rw [abs_le]
  constructor <;> linarith

theorem crowded_bays (node : Node ℝ) (far : 9 / 20 < nodeDistance haversine (north 0) 0 node) :
    MAX_ACCESS_CANDIDATES ≤ (crowded.nodes.filter fun other =>
      nodeDistance haversine (north 0) 0 other < nodeDistance haversine (north 0) 0 node).length := by
  have nodes : crowded.nodes = stopNodes haversine shuttleLine 0 0 shuttleLine.stops ++
      layNodes haversine 10 [quayLine, hillLine] := by
    rw [crowded, build]
    simp only [crowded_served]
    rfl
  have all : (stopNodes haversine shuttleLine 0 0 shuttleLine.stops).filter (fun other =>
      nodeDistance haversine (north 0) 0 other < nodeDistance haversine (north 0) 0 node) =
      stopNodes haversine shuttleLine 0 0 shuttleLine.stops := by
    apply List.filter_eq_self.mpr
    intro other member
    obtain ⟨i, found⟩ := List.mem_iff_getElem?.mp member
    have stop := List.mem_of_getElem? (stop_nodes_get haversine shuttleLine 0 0 i _ other found).2.2.2
    simp only [shuttleLine, lineAlong, List.mem_map, List.mem_range] at stop
    obtain ⟨k, inside, here⟩ := stop
    have last : (k : ℝ) ≤ 9 := by exact_mod_cast Nat.le_of_lt_succ inside
    have first : (0 : ℝ) ≤ k := Nat.cast_nonneg k
    rw [decide_eq_true_eq, bay_distance inside (by norm_num) here.symm, sub_zero,
      abs_of_nonneg (by positivity)]
    linarith
  have ten : shuttleLine.stops.length = 10 := rfl
  rw [nodes, List.filter_append, List.length_append, all, stop_nodes_length, ten]
  exact Nat.le_add_right 10 _

theorem crowded_boarding {node : Node ℝ}
    (member : node ∈ accessCandidates haversine crowded (north 0) 0) : node.route = shuttleLine := by
  rcases crowded_node (access_candidate_mem haversine crowded member) with
    ⟨route, _⟩ | ⟨_, x, lat, lng, place⟩
  · exact route
  · have distance : nodeDistance haversine (north 0) 0 node = |x| := by
      rw [nodeDistance, lat, lng, haversine_north, sub_zero]
      rcases place with rfl | rfl | rfl | rfl <;> norm_num
    refine absurd member (crowded_out (crowded_bays node ?_))
    rw [distance]
    rcases place with rfl | rfl | rfl | rfl <;> norm_num

theorem crowded_alighting {node : Node ℝ}
    (member : node ∈ accessCandidates haversine crowded (north (33 / 5)) 0) :
    node.route ≠ shuttleLine := by
  rcases crowded_node (access_candidate_mem haversine crowded member) with
    ⟨_, k, inside, here⟩ | ⟨other, _⟩
  · have near := access_candidate_near member
    have last : (k : ℝ) ≤ 9 := by exact_mod_cast Nat.le_of_lt_succ inside
    rw [bay_distance inside (by norm_num) here, MAX_ACCESS_WALK_KM, abs_le] at near
    norm_num at near
    linarith
  · exact other

theorem crowded_unreached {node : Node ℝ}
    (member : node ∈ accessCandidates haversine crowded (north (33 / 5)) 0) :
    originChains haversine crowded (north 0) 0 node.id = ∅ := by
  apply Set.eq_empty_of_forall_notMem
  rintro total ⟨v, start, edges, ⟨board, boards, rfl, rfl⟩, path, _⟩
  have known := graph_node crowded (access_candidate_mem haversine crowded boards)
  obtain ⟨last, found, route⟩ := path_closed shuttle_closed path
    ⟨board, known, crowded_boarding boards⟩
  rw [graph_node crowded (access_candidate_mem haversine crowded member)] at found
  obtain rfl := Option.some.inj found
  exact crowded_alighting member route

theorem crowded_not_found (order : QueueOrder ℝ) :
    plan haversine crowded order (north 0) 0 (north (33 / 5)) 0 = .error noJourney := by
  have length : directWalkKm haversine (north 0) 0 (north (33 / 5)) 0 = 33 / 4 := by
    rw [directWalkKm, haversine_north] <;> norm_num [INDIRECTNESS]
  have none : planTransit haversine crowded order (north 0) 0 (north (33 / 5)) 0 = none := by
    rcases transit_cases haversine crowded (north 0) 0 (north (33 / 5)) 0 (order_unranked order)
      (fun _ _ leaves => build_minutes_pos haversine crowdedRows leaves) with
      ⟨none, _⟩ | ⟨last, cost, _, _, stop, _⟩
    · exact none
    · have reached := stop.cheapest.1
      rw [crowded_unreached (alighting_mem stop)] at reached
      exact absurd reached (Set.notMem_empty cost)
  rw [plan_eq crowded order (north_ends_valid (by norm_num) (by norm_num))
    (by rw [length]; norm_num), none]
  norm_num [length, MAX_WALK_ONLY_KM]

theorem terrace_answered (order : QueueOrder ℝ) :
    ∃ total, Answers haversine terrace order (north 0) 0 (north (33 / 5)) 0 total := by
  have length : directWalkKm haversine (north 0) 0 (north (33 / 5)) 0 = 33 / 4 := by
    rw [directWalkKm, haversine_north] <;> norm_num [INDIRECTNESS]
  obtain ⟨response, bus⟩ := terrace_journey order
  obtain ⟨last, cost, _, ⟨_, _, answers⟩ | ⟨_, answers⟩⟩ :=
    bus_answers (north_ends_valid (by norm_num) (by norm_num)) (by rw [length]; norm_num)
      terrace_minutes_pos bus
  · exact ⟨_, answers⟩
  · exact ⟨_, answers⟩

/-- Over the terrace the query is answered, with the shuttle added it is not. -/
theorem shuttle_hurts :
    (∃ total, Answers haversine (build haversine terraceRows) (Polling.first Prod.snd) (north 0) 0
        (north (33 / 5)) 0 total) ∧
    (∀ order, plan haversine (build haversine (shuttleLine :: terraceRows)) order (north 0) 0
        (north (33 / 5)) 0 = .error noJourney) ∧
    ¬ ∀ (rows : List (Route ℝ)) (route : Route ℝ) (order : QueueOrder ℝ)
        (fromLat fromLng toLat toLng total : ℝ),
      (∀ other ∈ rows, other.active = true ∧ other.id ≠ route.id) → route.active = true →
      2 ≤ route.stops.length →
      Answers haversine (build haversine rows) order fromLat fromLng toLat toLng total →
      ∃ total', Answers haversine (build haversine (route :: rows)) order fromLat fromLng toLat toLng
        total' ∧ total' ≤ total := by
  have answered := terrace_answered (Polling.first Prod.snd)
  refine ⟨answered, crowded_not_found, fun never => ?_⟩
  obtain ⟨total, answers⟩ := answered
  have apart : ∀ other ∈ terraceRows, other.active = true ∧ other.id ≠ shuttleLine.id := by
    simp [terraceRows, quayLine, hillLine, shuttleLine, lineAlong]
  obtain ⟨total', answers', _⟩ := never terraceRows shuttleLine (Polling.first Prod.snd) _ _ _ _
    total apart rfl (by decide) answers
  have thrown := crowded_not_found (Polling.first Prod.snd)
  obtain ⟨answer, answered'⟩ := (plan_answers_iff
    (fun _ _ leaves => build_minutes_pos haversine crowdedRows leaves)).mpr ⟨total', answers'⟩
  exact absurd (answered'.symm.trans thrown) (by simp)

end Shuttle

/-! ## An express beside the line -/

section Few
variable {geo} {fromLat fromLng toLat toLng : K} {rows added : List (Route K)}

theorem few_survive (few : (build geo added).nodes.length ≤ MAX_ACCESS_CANDIDATES) {lat lng : K}
    {node : Node K} (member : node ∈ accessCandidates geo (build geo rows) lat lng) :
    survives geo added lat lng node := by
  intro twin known same
  have near : nodeDistance geo lat lng twin ≤ MAX_ACCESS_WALK_KM := by
    rw [same_stop_distance same]
    exact access_candidate_near member
  have count := List.length_filter_le
    (fun other => decide (nodeDistance geo lat lng other ≤ MAX_ACCESS_WALK_KM))
    (build geo added).nodes
  unfold accessCandidates
  rw [List.take_of_length_le (by rw [List.length_insertionSort]; omega), List.mem_insertionSort]
  exact List.mem_filter.mpr ⟨known, decide_eq_true near⟩

variable [FloorRing K] [IsStrictOrderedRing K] {order : QueueOrder K} {response : Response K}

theorem few_spared (few : (build geo added).nodes.length ≤ MAX_ACCESS_CANDIDATES)
    (bus : planTransit geo (build geo rows) order fromLat fromLng toLat toLng = some response) :
    spared geo fromLat fromLng toLat toLng rows added := by
  rcases transit_chain geo (build geo rows) fromLat fromLng toLat toLng (order_unranked order)
    (fun _ _ leaves => build_minutes_pos geo rows leaves) with
    ⟨none, _⟩ | ⟨last, cost, origin, edges, stop, _, spelled, _, _, paid, _⟩
  · rw [planTransit, planTransitWith, none] at bus
    cases bus
  · exact ⟨last, cost, origin, edges, stop, spelled.boards, spelled.path, paid,
      few_survive few spelled.boards, few_survive few (alighting_mem stop)⟩

omit [FloorRing K] [IsStrictOrderedRing K] in
/-- A chain that never rides does not leave what the transfers around its first stop join. -/
theorem unridden_stays {graph : Graph K} {candidates : List (Node K)} {boardCost : Node K → K}
    {rank : Nat → Nat} {within : Nat → Prop} {origin v : Nat} {edges : List (Edge K)} {total : K}
    (boarding : ∀ node ∈ candidates, within node.id)
    (stay : ∀ u, within u → ∀ edge ∈ graph.edges u, edge.kind ≠ .RIDE → within edge.target)
    (chain : EarliestChain graph candidates boardCost rank origin edges v total)
    (unridden : ¬ boards edges) : within v := by
  induction chain with
  | @board node member _ => exact boarding node member
  | @hop origin u edges edge total _ leaves _ _ _ ih =>
      have before : ¬ boards edges := fun ⟨other, member, rides⟩ =>
        unridden ⟨other, List.mem_append_left _ member, rides⟩
      exact stay u (ih before) edge leaves fun rides => unridden ⟨edge, by simp, rides⟩

end Few

def parkLine : Route ℚ := lineAlong [⟨0, 0⟩, ⟨8 / 5, 0⟩] [⟨none, "Gate", 0, 0⟩, ⟨none, "Park", 8 / 5, 0⟩]

def expressLine : Route ℚ :=
  { parkLine with
    id := 2
    routeNumber := 8
    frequencyMinutes := 4
    frequency_pos := by decide }

/-- An express every four minutes beside a line every ten: from gate to park the
bus took 10.2 minutes, and does not take longer now. -/
theorem express_not_hurts :
    Answers taxicab (build taxicab [parkLine]) (Polling.first Prod.snd) 0 0 (8 / 5) 0 (51 / 5) ∧
      ∃ total', Answers taxicab (build taxicab [parkLine, expressLine]) (Polling.first Prod.snd)
        0 0 (8 / 5) 0 total' ∧ total' ≤ 51 / 5 := by
  let order : QueueOrder ℚ := Polling.first Prod.snd
  have apart : (2 : Nat) / (100 : Nat) ≤ directWalkKm taxicab 0 0 (8 / 5 : ℚ) 0 := by decide +kernel
  have walk : directMinutes taxicab 0 0 (8 / 5 : ℚ) 0 = 80 / 3 := by decide +kernel
  obtain ⟨response, bus⟩ : ∃ response, planTransit taxicab (build taxicab [parkLine]) order
      0 0 (8 / 5) 0 = some response := Option.isSome_iff_exists.mp (by decide +kernel)
  obtain ⟨exact', unrounded, minutes⟩ := Option.map_eq_some_iff.mp
    (show (planTransitWith .exact (build taxicab [parkLine]) taxicab order 0 0 (8 / 5) 0).map
      (·.totalMinutes) = some (51 / 5) by decide +kernel)
  have answered : Answers taxicab (build taxicab [parkLine]) order 0 0 (8 / 5) 0 (51 / 5) := by
    obtain ⟨last, cost, stop, ⟨_, slower, _⟩ | ⟨_, answers⟩⟩ :=
      bus_answers (by decide +kernel) apart
        (fun _ _ leaves => build_minutes_pos taxicab [parkLine] leaves) bus
    · rw [← alighting_total (fun _ _ leaves => build_minutes_pos taxicab _ leaves) stop unrounded,
        minutes, walk] at slower
      exact absurd slower (by decide +kernel)
    · rwa [← alighting_total (fun _ _ leaves => build_minutes_pos taxicab _ leaves) stop unrounded,
        minutes] at answers
  refine ⟨answered, more_service_not_hurts (List.Perm.swap expressLine parkLine []) answered
    (Or.inr ⟨few_spared (by decide) bus, ?riding⟩) ?alike order⟩
  case riding =>
    -- Transfers join the two gates, so only a ride gets to the park.
    intro last cost origin edges stop kept
    by_contra unridden
    let gates : Nat → Prop := fun v => v = 0 ∨ v = 2
    have atGate : gates last.id := by
      refine unridden_stays ?_ ?_ kept unridden
      · show ∀ node ∈ accessCandidates taxicab (build taxicab [parkLine, expressLine]) 0 0,
          node.id = 0 ∨ node.id = 2
        decide +kernel
      · rintro u (rfl | rfl)
        · show ∀ edge ∈ (build taxicab [parkLine, expressLine]).edges 0, edge.kind ≠ .RIDE →
            edge.target = 0 ∨ edge.target = 2
          decide +kernel
        · show ∀ edge ∈ (build taxicab [parkLine, expressLine]).edges 2, edge.kind ≠ .RIDE →
            edge.target = 0 ∨ edge.target = 2
          decide +kernel
    have atPark : ∀ node ∈ accessCandidates taxicab (build taxicab [parkLine, expressLine])
        (8 / 5) 0, ¬ (node.id = 0 ∨ node.id = 2) := by decide +kernel
    exact atPark last (alighting_mem stop) atGate
  case alike =>
    intro _ last cost stop
    obtain ⟨exact', unrounded, minutes⟩ := Option.map_eq_some_iff.mp
      (show (planTransitWith .exact (build taxicab [parkLine, expressLine]) taxicab order 0 0
        (8 / 5) 0).map (·.totalMinutes) = some (36 / 5) by decide +kernel)
    rw [← alighting_total (fun _ _ leaves => build_minutes_pos taxicab _ leaves) stop unrounded,
      minutes, walk]
    decide +kernel

end CityBus.AddedService
