import CityBus.Domain
import CityBus.GeoUtils
import Mathlib

/-!
The graph model and `build` of `JourneyPlannerService`: one node for each
(route, stop), RIDE edges between consecutive stops in both directions, TRANSFER
walks between near stops of different routes. A `Graph` carries what the rest of
the planner relies on without checking it: ids are positions and every edge ends
at a node.
-/

namespace CityBus.JourneyGraph

open GeoUtils

variable {K : Type} [Field K] [LinearOrder K]

def BUS_SPEED_KMH : K := (20 : Nat)
def WALK_SPEED_KMH : K := (9 : Nat) / (2 : Nat)
def MAX_TRANSFER_WALK_KM : K := (2 : Nat) / (5 : Nat)
def MAX_ACCESS_WALK_KM : K := (3 : Nat) / (2 : Nat)
def MAX_WALK_ONLY_KM : K := (2 : Nat)
def DWELL_MINUTES_PER_STOP : K := (2 : Nat) / (5 : Nat)
def INDIRECTNESS : K := (5 : Nat) / (4 : Nat)
def MAX_ACCESS_CANDIDATES : Nat := 10

structure Projection (K : Type) where
  segment : Nat
  t : K
  cumKm : K
  deriving DecidableEq

structure Node (K : Type) where
  id : Nat
  route : Route K
  stopIndex : Nat
  stop : Stop K
  onPath : Projection K
  deriving DecidableEq

inductive EdgeKind where
  | RIDE
  | TRANSFER
  deriving DecidableEq

structure Edge (K : Type) where
  target : Nat
  minutes : K
  km : K
  kind : EdgeKind
  deriving DecidableEq

structure Graph (K : Type) where
  nodes : List (Node K)
  adjacency : List (List (Edge K))
  paths : List (List (K × K))
  ids : ∀ (i : Nat) (node : Node K), nodes[i]? = some node → node.id = i
  sized : adjacency.length = nodes.length
  targets : ∀ edges ∈ adjacency, ∀ edge ∈ edges, edge.target < nodes.length

def Graph.edges (graph : Graph K) (u : Nat) : List (Edge K) := graph.adjacency.getD u []

omit [Field K] [LinearOrder K] in
theorem graph_node (graph : Graph K) {node : Node K} (member : node ∈ graph.nodes) :
    graph.nodes[node.id]? = some node := by
  obtain ⟨i, found⟩ := List.mem_iff_getElem?.mp member
  rw [graph.ids i node found]
  exact found

omit [Field K] [LinearOrder K] in
theorem edge_target (graph : Graph K) (u : Nat) (edge : Edge K)
    (leaves : edge ∈ graph.edges u) : edge.target < graph.nodes.length := by
  rw [Graph.edges, List.getD_eq_getElem?_getD] at leaves
  cases found : graph.adjacency[u]? with
  | none => simp [found] at leaves
  | some edges =>
      rw [found] at leaves
      exact graph.targets edges (List.mem_of_getElem? found) edge leaves

/-! ## Polyline projection -/

section Projection
variable (geo : GeoDistance K)

/-- The running best of the loop in `project`. -/
structure Nearest (K : Type) where
  bestSeg : Nat
  bestT : K
  bestDist : WithTop K

def segmentFraction (lat lng : K) (a b : K × K) : K :=
  let dx := b.1 - a.1
  let dy := b.2 - a.2
  let len2 := dx * dx + dy * dy
  if len2 = 0 then 0 else max 0 (min 1 (((lat - a.1) * dx + (lng - a.2) * dy) / len2))

def segmentDistance (lat lng : K) (a b : K × K) : K :=
  let t := segmentFraction lat lng a b
  geo.distanceKm lat lng (a.1 + t * (b.1 - a.1)) (a.2 + t * (b.2 - a.2))

def nearest (lat lng : K) : Nat → Nearest K → List (K × K) → Nearest K
  | i, best, a :: b :: rest =>
      let d := segmentDistance geo lat lng a b
      nearest lat lng (i + 1)
        (if (d : WithTop K) < best.bestDist then ⟨i, segmentFraction lat lng a b, d⟩ else best) (b :: rest)
  | _, best, _ => best

/-- Kilometres from the start of the path to fraction `t` of its segment `seg`. -/
def cumulative (t : K) : Nat → List (K × K) → K
  | 0, a :: b :: _ => t * geo.distanceKm a.1 a.2 b.1 b.2
  | seg + 1, a :: b :: rest => geo.distanceKm a.1 a.2 b.1 b.2 + cumulative t seg (b :: rest)
  | _, _ => 0

def project (lat lng : K) (path : List (K × K)) : Projection K :=
  if path.length < 2 then ⟨0, 0, 0⟩ else
    let best := nearest geo lat lng 0 ⟨0, 0, ⊤⟩ path
    ⟨best.bestSeg, best.bestT, cumulative geo best.bestT best.bestSeg path⟩

end Projection

/-! ## Graph construction -/

section Build
variable (geo : GeoDistance K)

def stopDistance (a b : Stop K) : K := geo.distanceKm a.lat a.lng b.lat b.lng

def findAllByOrderByRouteNumberAsc (rows : List (Route K)) : List (Route K) :=
  rows.insertionSort fun a b => a.routeNumber ≤ b.routeNumber

def servedRoutes (rows : List (Route K)) : List (Route K) :=
  ((findAllByOrderByRouteNumberAsc rows).filter (·.active)).filter fun route =>
    2 ≤ route.stops.length

def pathPoints (route : Route K) : List (K × K) := route.path.map fun p => (p.lat, p.lng)

def stopNodes (route : Route K) : Nat → Nat → List (Stop K) → List (Node K)
  | _, _, [] => []
  | id, i, stop :: rest =>
      ⟨id, route, i, stop, project geo stop.lat stop.lng (pathPoints route)⟩ ::
        stopNodes route (id + 1) (i + 1) rest

def layNodes : Nat → List (Route K) → List (Node K)
  | _, [] => []
  | id, route :: rest =>
      stopNodes geo route id 0 route.stops ++ layNodes (id + route.stops.length) rest

def rideKm (node next : Node K) : K :=
  let km := next.onPath.cumKm - node.onPath.cumKm
  if km ≤ 1 / (1000 : Nat) then stopDistance geo node.stop next.stop * INDIRECTNESS else km

/-- The edges one iteration of the RIDE loop adds, each with the node it is added to. -/
def rideHops (nodes : List (Node K)) (node : Node K) : List (Nat × Edge K) :=
  -- The stops of a route are contiguous, so past its last stop comes another route.
  if node.route.stops.length ≤ node.stopIndex + 1 then [] else
    match nodes[node.id + 1]? with
    | none => []
    | some next =>
        let km := rideKm geo node next
        let minutes := km / BUS_SPEED_KMH * (60 : Nat) + DWELL_MINUTES_PER_STOP
        [(node.id, ⟨next.id, minutes, km, .RIDE⟩), (next.id, ⟨node.id, minutes, km, .RIDE⟩)]

def transferHop (a b : Node K) : Option (Nat × Edge K) :=
  if a.route.id = b.route.id then none else
    let walkKm := stopDistance geo a.stop b.stop
    if walkKm ≤ MAX_TRANSFER_WALK_KM then
      some (a.id, ⟨b.id, walkKm / WALK_SPEED_KMH * (60 : Nat) + b.route.frequencyMinutes / (2 : Nat), walkKm,
        .TRANSFER⟩)
    else none

def hops (nodes : List (Node K)) : List (Nat × Edge K) :=
  nodes.flatMap (rideHops geo nodes) ++ nodes.flatMap fun a => nodes.filterMap (transferHop geo a)

/-- The list at `adjacency.get(u)` after the edges were added in order. -/
def adjacent (added : List (Nat × Edge K)) (u : Nat) : List (Edge K) :=
  added.filterMap fun hop => if hop.1 = u then some hop.2 else none

/-! The ids a `Graph` promises: the nodes of one route are numbered on from the
nodes before it, so an id is a position in the whole list. -/

theorem stop_nodes_get (route : Route K) (id i k : Nat) (stops : List (Stop K)) (node : Node K)
    (found : (stopNodes geo route id i stops)[k]? = some node) :
    node.id = id + k ∧ node.stopIndex = i + k ∧ node.route = route ∧
      stops[k]? = some node.stop := by
  induction stops generalizing id i k with
  | nil => simp [stopNodes] at found
  | cons stop rest ih =>
      cases k with
      | zero =>
          simp only [stopNodes, List.getElem?_cons_zero, Option.some.injEq] at found
          subst found
          simp
      | succ k =>
          simp only [stopNodes, List.getElem?_cons_succ] at found
          obtain ⟨atId, atIndex, sameRoute, atStop⟩ := ih (id + 1) (i + 1) k found
          exact ⟨by omega, by omega, sameRoute, by simpa using atStop⟩

theorem stop_nodes_length (route : Route K) (id i : Nat) (stops : List (Stop K)) :
    (stopNodes geo route id i stops).length = stops.length := by
  induction stops generalizing id i with
  | nil => rfl
  | cons stop rest ih => simp [stopNodes, ih]

theorem lay_nodes_id (id k : Nat) (routes : List (Route K)) (node : Node K)
    (found : (layNodes geo id routes)[k]? = some node) : node.id = id + k := by
  induction routes generalizing id k with
  | nil => simp [layNodes] at found
  | cons route rest ih =>
      rw [layNodes, List.getElem?_append, stop_nodes_length] at found
      split at found
      · exact (stop_nodes_get geo route id 0 k route.stops node found).1
      · have shifted := ih (id + route.stops.length) (k - route.stops.length) found
        omega

omit [Field K] [LinearOrder K] in
theorem node_id_lt {nodes : List (Node K)} {node : Node K}
    (ids : ∀ (i : Nat) (node : Node K), nodes[i]? = some node → node.id = i)
    (member : node ∈ nodes) : node.id < nodes.length := by
  obtain ⟨i, found⟩ := List.mem_iff_getElem?.mp member
  rw [ids i node found]
  exact (List.getElem?_eq_some_iff.mp found).1

theorem ride_hop_cases {nodes : List (Node K)} {node : Node K} {hop : Nat × Edge K}
    (added : hop ∈ rideHops geo nodes node) :
    ∃ next, nodes[node.id + 1]? = some next ∧
      node.stopIndex + 1 < node.route.stops.length ∧
      hop.2.kind = .RIDE ∧ hop.2.km = rideKm geo node next ∧
      hop.2.minutes = rideKm geo node next / BUS_SPEED_KMH * (60 : Nat) + DWELL_MINUTES_PER_STOP ∧
      ((hop.1 = node.id ∧ hop.2.target = next.id) ∨ (hop.1 = next.id ∧ hop.2.target = node.id)) := by
  unfold rideHops at added
  split at added
  · simp at added
  · rename_i more
    split at added
    · simp at added
    · rename_i next found
      refine ⟨next, found, by omega, ?_⟩
      simp only [List.mem_cons, List.not_mem_nil, or_false] at added
      rcases added with rfl | rfl <;> simp

theorem transfer_hop_cases {a b : Node K} {hop : Nat × Edge K}
    (added : transferHop geo a b = some hop) :
    a.route.id ≠ b.route.id ∧ stopDistance geo a.stop b.stop ≤ MAX_TRANSFER_WALK_KM ∧
      hop = (a.id, ⟨b.id, stopDistance geo a.stop b.stop / WALK_SPEED_KMH * (60 : Nat) +
        b.route.frequencyMinutes / (2 : Nat), stopDistance geo a.stop b.stop, .TRANSFER⟩) := by
  unfold transferHop at added
  split at added
  · simp at added
  · rename_i different
    dsimp only at added
    split at added
    · rename_i close
      exact ⟨different, close, (Option.some.inj added).symm⟩
    · simp at added

theorem hop_target_lt {nodes : List (Node K)}
    (ids : ∀ (i : Nat) (node : Node K), nodes[i]? = some node → node.id = i)
    {hop : Nat × Edge K} (added : hop ∈ hops geo nodes) : hop.2.target < nodes.length := by
  simp only [hops, List.mem_append, List.mem_flatMap, List.mem_filterMap] at added
  rcases added with ⟨node, member, ride⟩ | ⟨a, _, b, member, walk⟩
  · obtain ⟨next, found, _, _, _, _, forward | backward⟩ := ride_hop_cases geo ride
    · rw [forward.2]
      exact node_id_lt ids (List.mem_of_getElem? found)
    · rw [backward.2]
      exact node_id_lt ids member
  · obtain ⟨_, _, rfl⟩ := transfer_hop_cases geo walk
    exact node_id_lt ids member

omit [Field K] [LinearOrder K] in
theorem mem_adjacent (added : List (Nat × Edge K)) (u : Nat) (edge : Edge K) :
    edge ∈ adjacent added u ↔ (u, edge) ∈ added := by
  simp only [adjacent, List.mem_filterMap, Option.ite_none_right_eq_some, Option.some.injEq]
  constructor
  · rintro ⟨⟨source, found⟩, member, rfl, rfl⟩
    exact member
  · intro member
    exact ⟨(u, edge), member, rfl, rfl⟩

def build (rows : List (Route K)) : Graph K :=
  let routes := servedRoutes rows
  let nodes := layNodes geo 0 routes
  let added := hops geo nodes
  { nodes := nodes
    adjacency := nodes.map fun node => adjacent added node.id
    paths := routes.map pathPoints
    ids := fun i node found => by simpa using lay_nodes_id geo 0 i routes node found
    sized := by simp
    targets := by
      intro edges member edge leaves
      obtain ⟨node, _, rfl⟩ := List.mem_map.mp member
      refine hop_target_lt geo ?_ ((mem_adjacent added node.id edge).mp leaves)
      exact fun i node found => by simpa using lay_nodes_id geo 0 i routes node found }

theorem build_edge_iff (rows : List (Route K)) (u : Nat) (edge : Edge K) :
    edge ∈ (build geo rows).edges u ↔
      u < (build geo rows).nodes.length ∧ (u, edge) ∈ hops geo (build geo rows).nodes := by
  rw [Graph.edges, List.getD_eq_getElem?_getD, ← mem_adjacent]
  simp only [build, List.getElem?_map]
  cases found : (layNodes geo 0 (servedRoutes rows))[u]? with
  | none =>
      have outside := List.getElem?_eq_none_iff.mp found
      simp [Nat.not_lt.mpr outside]
  | some node =>
      have inside := (List.getElem?_eq_some_iff.mp found).1
      have atId : node.id = u := by simpa using lay_nodes_id geo 0 u _ node found
      simp [inside, atId]

theorem lay_nodes_next (id k : Nat) (routes : List (Route K)) (node next : Node K)
    (found : (layNodes geo id routes)[k]? = some node)
    (more : node.stopIndex + 1 < node.route.stops.length)
    (foundNext : (layNodes geo id routes)[k + 1]? = some next) :
    next.route = node.route ∧ next.stopIndex = node.stopIndex + 1 := by
  induction routes generalizing id k with
  | nil => simp [layNodes] at found
  | cons route rest ih =>
      rw [layNodes, List.getElem?_append, stop_nodes_length] at found foundNext
      split at found
      · obtain ⟨_, atIndex, sameRoute, _⟩ := stop_nodes_get geo route id 0 k route.stops node found
        rw [sameRoute] at more
        rw [if_pos (by omega)] at foundNext
        obtain ⟨_, nextIndex, nextRoute, _⟩ :=
          stop_nodes_get geo route id 0 (k + 1) route.stops next foundNext
        exact ⟨nextRoute.trans sameRoute.symm, by omega⟩
      · rename_i later
        rw [if_neg (by omega), show k + 1 - route.stops.length = k - route.stops.length + 1 by omega]
          at foundNext
        exact ih _ _ found foundNext

theorem build_edge_cases (rows : List (Route K)) {u : Nat} {edge : Edge K}
    (leaves : edge ∈ (build geo rows).edges u) :
    ∃ source goal, (build geo rows).nodes[u]? = some source ∧
      (build geo rows).nodes[edge.target]? = some goal ∧
      ((edge.kind = .RIDE ∧ source.route = goal.route ∧
          ((goal.id = source.id + 1 ∧ edge.km = rideKm geo source goal) ∨
            (source.id = goal.id + 1 ∧ edge.km = rideKm geo goal source)) ∧
          edge.minutes = edge.km / BUS_SPEED_KMH * (60 : Nat) + DWELL_MINUTES_PER_STOP) ∨
        (source.route.id ≠ goal.route.id ∧
          edge = ⟨goal.id, stopDistance geo source.stop goal.stop / WALK_SPEED_KMH * (60 : Nat) +
            goal.route.frequencyMinutes / (2 : Nat), stopDistance geo source.stop goal.stop, .TRANSFER⟩)) := by
  obtain ⟨_, added⟩ := (build_edge_iff geo rows u edge).mp leaves
  simp only [hops, List.mem_append, List.mem_flatMap, List.mem_filterMap] at added
  rcases added with ⟨node, member, ride⟩ | ⟨a, memberA, b, memberB, walk⟩
  · obtain ⟨next, found, more, kind, km, minutes, ends⟩ := ride_hop_cases geo ride
    have atNode := graph_node (build geo rows) member
    have atNext : (build geo rows).nodes[next.id]? = some next := by
      rw [(build geo rows).ids (node.id + 1) next found]
      exact found
    have consecutive : next.id = node.id + 1 := (build geo rows).ids (node.id + 1) next found
    have sameRoute : next.route = node.route :=
      (lay_nodes_next geo 0 node.id (servedRoutes rows) node next atNode more found).1
    rcases ends with ⟨rfl, forward⟩ | ⟨rfl, backward⟩
    · exact ⟨node, next, atNode, by rw [forward]; exact atNext,
        Or.inl ⟨kind, sameRoute.symm, Or.inl ⟨consecutive, km⟩, by rw [minutes, km]⟩⟩
    · exact ⟨next, node, atNext, by rw [backward]; exact atNode,
        Or.inl ⟨kind, sameRoute, Or.inr ⟨consecutive, km⟩, by rw [minutes, km]⟩⟩
  · obtain ⟨different, _, same⟩ := transfer_hop_cases geo walk
    obtain ⟨rfl, rfl⟩ := Prod.mk.inj same
    exact ⟨a, b, graph_node (build geo rows) memberA, graph_node (build geo rows) memberB,
      Or.inr ⟨different, rfl⟩⟩

theorem build_edge_unique (rows : List (Route K)) {u : Nat} {left right : Edge K}
    (leavesLeft : left ∈ (build geo rows).edges u) (leavesRight : right ∈ (build geo rows).edges u)
    (ends : left.target = right.target) : left = right := by
  obtain ⟨source, goal, atSource, atGoal, one⟩ := build_edge_cases geo rows leavesLeft
  obtain ⟨source', goal', atSource', atGoal', other⟩ := build_edge_cases geo rows leavesRight
  have sameSource : source' = source := Option.some.inj (atSource'.symm.trans atSource)
  have sameGoal : goal' = goal := by
    rw [← ends] at atGoal'
    exact Option.some.inj (atGoal'.symm.trans atGoal)
  subst sameSource sameGoal
  -- A ride stays on its route and a transfer leaves it; of two rides the ids fix the direction.
  rcases one with ⟨kind, sameRoute, hop, minutes⟩ | ⟨different, walk⟩ <;>
    rcases other with ⟨kind', sameRoute', hop', minutes'⟩ | ⟨different', walk'⟩
  · have km : left.km = right.km := by
      rcases hop with ⟨next, km⟩ | ⟨next, km⟩ <;> rcases hop' with ⟨next', km'⟩ | ⟨next', km'⟩
      · rw [km, km']
      · omega
      · omega
      · rw [km, km']
    cases left
    cases right
    simp_all
  · exact absurd (congrArg Route.id sameRoute) different'
  · exact absurd (congrArg Route.id sameRoute') different
  · rw [walk, walk']

theorem ride_km_nonneg [IsStrictOrderedRing K] (node next : Node K) :
    0 ≤ rideKm geo node next := by
  unfold rideKm
  dsimp only
  split
  · exact mul_nonneg (geo.nonneg _ _ _ _) (by norm_num [INDIRECTNESS])
  · rename_i long
    exact le_of_lt (lt_trans (by norm_num) (not_le.mp long))

theorem build_minutes_pos [IsStrictOrderedRing K] (rows : List (Route K)) {u : Nat} {edge : Edge K}
    (leaves : edge ∈ (build geo rows).edges u) : 0 < edge.minutes := by
  obtain ⟨source, goal, _, _, ride | walk⟩ := build_edge_cases geo rows leaves
  · obtain ⟨_, _, hop, minutes⟩ := ride
    have km : 0 ≤ edge.km := by
      rcases hop with ⟨_, km⟩ | ⟨_, km⟩ <;> rw [km] <;> exact ride_km_nonneg geo _ _
    rw [minutes]
    simp only [BUS_SPEED_KMH, DWELL_MINUTES_PER_STOP]
    positivity
  · have far := geo.nonneg source.stop.lat source.stop.lng goal.stop.lat goal.stop.lng
    have often : (0 : K) < goal.route.frequencyMinutes := Nat.cast_pos.mpr goal.route.frequency_pos
    rw [walk.2]
    simp only [stopDistance, WALK_SPEED_KMH]
    positivity

end Build

def lineAlong (path : List (GeoPoint K)) (stops : List (Stop K)) : Route K where
  id := 1
  routeNumber := 7
  name := "Line"
  color := "#2563eb"
  firstBus := LocalTime.of 6 0
  lastBus := LocalTime.of 22 0
  frequencyMinutes := 10
  active := true
  path := path
  stops := stops
  version := 0
  updatedAt := 0

def shortLine : Route ℚ := lineAlong [⟨0, 0⟩, ⟨1, 0⟩] [⟨none, "Market", 0, 0⟩, ⟨none, "Station", 1, 0⟩]

end CityBus.JourneyGraph
