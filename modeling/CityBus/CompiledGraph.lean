import CityBus.JourneyPlan

/-!
The compiled graph is the network: the served stops in order of their routes,
two equal RIDE edges between neighbouring stops, and a TRANSFER edge where stops
of different routes are near. `routeIndexOf` counts route boundaries over the
nodes and agrees with `paths`, which is filled per route.
-/

namespace CityBus.CompiledGraph

open GeoUtils JourneyGraph JourneyPlan

variable {K : Type} [Field K] [LinearOrder K] (geo : GeoDistance K)

/-! ## The nodes of a route -/

section Nodes

theorem stop_nodes_path (route : Route K) (id i : Nat) (stops : List (Stop K)) :
    ∀ node ∈ stopNodes geo route id i stops,
      node.onPath = project geo node.stop.lat node.stop.lng (pathPoints node.route) := by
  induction stops generalizing id i with
  | nil => simp [stopNodes]
  | cons stop rest ih =>
      intro node member
      rcases List.mem_cons.mp member with rfl | later
      · rfl
      · exact ih _ _ node later

theorem lay_nodes_path (id : Nat) (routes : List (Route K)) :
    ∀ node ∈ layNodes geo id routes,
      node.onPath = project geo node.stop.lat node.stop.lng (pathPoints node.route) := by
  induction routes generalizing id with
  | nil => simp [layNodes]
  | cons route rest ih =>
      intro node member
      rcases List.mem_append.mp member with first | later
      · exact stop_nodes_path geo route id 0 route.stops node first
      · exact ih _ node later

theorem lay_nodes_stop (id : Nat) (routes : List (Route K)) :
    ∀ node ∈ layNodes geo id routes,
      node.route ∈ routes ∧ node.route.stops[node.stopIndex]? = some node.stop := by
  induction routes generalizing id with
  | nil => simp [layNodes]
  | cons route rest ih =>
      intro node member
      rcases List.mem_append.mp member with first | later
      · obtain ⟨k, found⟩ := List.mem_iff_getElem?.mp first
        obtain ⟨_, atIndex, sameRoute, atStop⟩ :=
          stop_nodes_get geo route id 0 k route.stops node found
        rw [sameRoute, atIndex, Nat.zero_add]
        exact ⟨List.mem_cons_self, atStop⟩
      · obtain ⟨known, atStop⟩ := ih _ node later
        exact ⟨List.mem_cons_of_mem route known, atStop⟩

theorem lay_nodes_found (id : Nat) (routes : List (Route K)) {route : Route K} {i : Nat}
    (known : route ∈ routes) (inside : i < route.stops.length) :
    ∃ node ∈ layNodes geo id routes, node.route = route ∧ node.stopIndex = i := by
  induction routes generalizing id with
  | nil => simp at known
  | cons first rest ih =>
      rcases List.mem_cons.mp known with rfl | later
      · have bound : i < (stopNodes geo route id 0 route.stops).length := by
          rw [stop_nodes_length]
          exact inside
        have found := List.getElem?_eq_getElem bound
        obtain ⟨_, atIndex, sameRoute, _⟩ := stop_nodes_get geo route id 0 i route.stops _ found
        exact ⟨_, List.mem_append_left _ (List.mem_of_getElem? found), sameRoute, by omega⟩
      · obtain ⟨node, member, sameRoute, atIndex⟩ := ih (id + first.stops.length) later
        exact ⟨node, List.mem_append_right _ member, sameRoute, atIndex⟩

theorem lay_nodes_more (id k : Nat) (routes : List (Route K)) {node : Node K}
    (found : (layNodes geo id routes)[k]? = some node)
    (more : node.stopIndex + 1 < node.route.stops.length) :
    ∃ next, (layNodes geo id routes)[k + 1]? = some next := by
  induction routes generalizing id k with
  | nil => simp [layNodes] at found
  | cons route rest ih =>
      rw [layNodes, List.getElem?_append, stop_nodes_length] at found
      split at found
      · obtain ⟨_, atIndex, sameRoute, _⟩ := stop_nodes_get geo route id 0 k route.stops node found
        rw [sameRoute] at more
        have bound : k + 1 < (layNodes geo id (route :: rest)).length := by
          rw [layNodes, List.length_append, stop_nodes_length]
          omega
        exact ⟨_, List.getElem?_eq_getElem bound⟩
      · rename_i later
        obtain ⟨next, foundNext⟩ := ih _ _ found
        refine ⟨next, ?_⟩
        rw [layNodes, List.getElem?_append, stop_nodes_length, if_neg (by omega)]
        rw [show k + 1 - route.stops.length = k - route.stops.length + 1 by omega]
        exact foundNext

theorem lay_nodes_before (id k : Nat) (routes : List (Route K)) {node : Node K}
    (found : (layNodes geo id routes)[k]? = some node) (later : 0 < node.stopIndex) :
    ∃ j previous, k = j + 1 ∧ (layNodes geo id routes)[j]? = some previous ∧
      previous.route = node.route ∧ node.stopIndex = previous.stopIndex + 1 := by
  induction routes generalizing id k with
  | nil => simp [layNodes] at found
  | cons route rest ih =>
      rw [layNodes, List.getElem?_append, stop_nodes_length] at found
      split at found
      · rename_i inside
        obtain ⟨_, atIndex, sameRoute, _⟩ := stop_nodes_get geo route id 0 k route.stops node found
        have bound : k - 1 < (stopNodes geo route id 0 route.stops).length := by
          rw [stop_nodes_length]
          omega
        have before := List.getElem?_eq_getElem bound
        obtain ⟨_, atPrevious, previousRoute, _⟩ :=
          stop_nodes_get geo route id 0 (k - 1) route.stops _ before
        refine ⟨k - 1, _, by omega, ?_, previousRoute.trans sameRoute.symm, by omega⟩
        rw [layNodes, List.getElem?_append_left bound]
        exact before
      · rename_i outside
        obtain ⟨j, previous, atK, before, sameRoute, atIndex⟩ := ih _ _ found
        refine ⟨j + route.stops.length, previous, by omega, ?_, sameRoute, atIndex⟩
        rw [layNodes, List.getElem?_append, stop_nodes_length, if_neg (by omega)]
        simpa using before

end Nodes

omit [Field K] [LinearOrder K] in
theorem served_iff (rows : List (Route K)) (route : Route K) :
    route ∈ servedRoutes rows ↔ 2 ≤ route.stops.length ∧ route.active = true ∧ route ∈ rows := by
  simp only [servedRoutes, findAllByOrderByRouteNumberAsc, List.mem_filter,
    List.mem_insertionSort, decide_eq_true_eq]
  tauto

/-! ## The edges of a node -/

section Edges
variable {geo} {rows : List (Route K)}

omit [Field K] [LinearOrder K] in
theorem node_eq_of_id {graph : Graph K} {node other : Node K} (known : node ∈ graph.nodes)
    (known' : other ∈ graph.nodes) (same : node.id = other.id) : node = other := by
  have found := graph_node graph known
  rw [same, graph_node graph known'] at found
  exact (Option.some.inj found).symm

theorem hop_leaves {node : Node K} {edge : Edge K} (known : node ∈ (build geo rows).nodes)
    (hopped : (node.id, edge) ∈ hops geo (build geo rows).nodes) :
    edge ∈ (build geo rows).edges node.id :=
  (build_edge_iff geo rows node.id edge).mpr ⟨node_id_lt (build geo rows).ids known, hopped⟩

theorem ride_leaves {node next : Node K} (known : node ∈ (build geo rows).nodes)
    (more : node.stopIndex + 1 < node.route.stops.length)
    (found : (build geo rows).nodes[node.id + 1]? = some next) {minutes : K}
    (time : minutes = rideKm geo node next / BUS_SPEED_KMH * (60 : Nat) + DWELL_MINUTES_PER_STOP) :
    ⟨next.id, minutes, rideKm geo node next, .RIDE⟩ ∈ (build geo rows).edges node.id ∧
      ⟨node.id, minutes, rideKm geo node next, .RIDE⟩ ∈ (build geo rows).edges next.id := by
  have both : rideHops geo (build geo rows).nodes node =
      [(node.id, ⟨next.id, minutes, rideKm geo node next, .RIDE⟩),
        (next.id, ⟨node.id, minutes, rideKm geo node next, .RIDE⟩)] := by
    rw [time]
    simp only [rideHops, found]
    rw [if_neg (by omega)]
  have member : ∀ hop ∈ rideHops geo (build geo rows).nodes node,
      hop ∈ hops geo (build geo rows).nodes := fun hop added =>
    List.mem_append_left _ (List.mem_flatMap.mpr ⟨node, known, added⟩)
  constructor
  · exact hop_leaves known (member _ (by simp [both]))
  · exact hop_leaves (List.mem_of_getElem? found) (member _ (by simp [both]))

theorem transfer_leaves {source goal : Node K} {edge : Edge K}
    (known : source ∈ (build geo rows).nodes) (known' : goal ∈ (build geo rows).nodes)
    (walk : transferHop geo source goal = some (source.id, edge)) :
    edge ∈ (build geo rows).edges source.id := by
  refine hop_leaves known (List.mem_append_right _ (List.mem_flatMap.mpr ⟨source, known, ?_⟩))
  exact List.mem_filterMap.mpr ⟨goal, known', walk⟩

end Edges

/-! ## The list of the nodes -/

section Listed

/-- What a node says of the network. -/
def shown (node : Node K) : Route K × Nat × Stop K := (node.route, node.stopIndex, node.stop)

def numbered (route : Route K) : List (Route K × Nat × Stop K) :=
  route.stops.zipIdx.map fun (stop, i) => (route, i, stop)

theorem stop_nodes_shown (route : Route K) (id i : Nat) (stops : List (Stop K)) :
    (stopNodes geo route id i stops).map shown =
      (stops.zipIdx i).map fun (stop, i) => (route, i, stop) := by
  induction stops generalizing id i with
  | nil => rfl
  | cons stop rest ih =>
      rw [stopNodes, List.map_cons, ih, List.zipIdx_cons, List.map_cons]
      rfl

theorem lay_nodes_shown (id : Nat) (routes : List (Route K)) :
    (layNodes geo id routes).map shown = routes.flatMap numbered := by
  induction routes generalizing id with
  | nil => rfl
  | cons route rest ih =>
      rw [layNodes, List.map_append, ih, stop_nodes_shown, List.flatMap_cons]
      rfl

omit [Field K] [LinearOrder K] in
theorem nodes_nodup (graph : Graph K) : graph.nodes.Nodup := by
  rw [List.nodup_iff_getElem?_ne_getElem?]
  intro i j before inside same
  obtain ⟨node, found⟩ : ∃ node, graph.nodes[j]? = some node :=
    ⟨_, List.getElem?_eq_getElem inside⟩
  have atI := graph.ids i node (same.trans found)
  have atJ := graph.ids j node found
  omega

omit [Field K] [LinearOrder K] in
theorem served_perm (rows : List (Route K)) :
    (servedRoutes rows).Perm (rows.filter fun route => route.active && 2 ≤ route.stops.length) := by
  rw [servedRoutes, List.filter_filter]
  have sorted := List.perm_insertionSort (fun a b : Route K => a.routeNumber ≤ b.routeNumber) rows
  refine List.Perm.trans (List.Perm.of_eq ?_) (sorted.filter _)
  exact List.filter_congr fun route _ => Bool.and_comm _ _

end Listed

/-! ## routeIndexOf -/

section RouteIndex

/-- Over the nodes of another route the count moves on once, at the first. -/
theorem route_index_skip (first route : Route K) (other : first.id ≠ route.id) (idx : Nat)
    (prev : Option Nat) (id i : Nat) (stops : List (Stop K)) (some_stop : stops ≠ [])
    (tail : List (Node K)) :
    routeIndexOf route idx prev (stopNodes geo first id i stops ++ tail) =
      routeIndexOf route (if prev = none ∨ prev = some first.id then idx else idx + 1)
        (some first.id) tail := by
  induction stops generalizing idx prev id i with
  | nil => exact absurd rfl some_stop
  | cons stop rest ih =>
      simp only [stopNodes, List.cons_append, routeIndexOf, if_neg other]
      cases rest with
      | nil => rfl
      | cons next more =>
          rw [ih _ (some first.id) (id + 1) (i + 1) (by simp)]
          simp

theorem route_index_here (route : Route K) (idx : Nat) (prev : Option Nat) (id i : Nat)
    (stops : List (Stop K)) (some_stop : stops ≠ []) (tail : List (Node K)) :
    routeIndexOf route idx prev (stopNodes geo route id i stops ++ tail) =
      if prev = none ∨ prev = some route.id then idx else idx + 1 := by
  cases stops with
  | nil => exact absurd rfl some_stop
  | cons stop rest => simp [stopNodes, routeIndexOf]

/-- The count that `routeIndexOf` starts a block of nodes with. -/
theorem route_index_lay (routes : List (Route K)) (distinct : (routes.map Route.id).Nodup)
    (stopped : ∀ route ∈ routes, route.stops ≠ []) (idx : Nat) (prev : Option Nat)
    (fresh : ∀ route ∈ routes, prev ≠ some route.id) (id k : Nat) {route : Route K}
    (found : routes[k]? = some route) :
    routeIndexOf route idx prev (layNodes geo id routes) =
      (if prev = none then idx else idx + 1) + k := by
  induction routes generalizing idx prev id k with
  | nil => simp at found
  | cons first rest ih =>
      have stops := stopped first List.mem_cons_self
      rw [List.map_cons, List.nodup_cons] at distinct
      cases k with
      | zero =>
          obtain rfl : first = route := by simpa using found
          rw [layNodes, route_index_here geo first idx prev id 0 first.stops stops]
          simp [fresh first List.mem_cons_self]
      | succ k =>
          rw [List.getElem?_cons_succ] at found
          have apart : ∀ other ∈ rest, some first.id ≠ some other.id := by
            intro other member same
            exact distinct.1 (Option.some.inj same ▸ List.mem_map_of_mem member)
          have other : first.id ≠ route.id := fun same =>
            apart route (List.mem_of_getElem? found) (congrArg some same)
          rw [layNodes, route_index_skip geo first route other idx prev id 0 first.stops stops,
            ih distinct.2 (fun route member => stopped route (List.mem_cons_of_mem first member))
              _ (some first.id) apart _ k found]
          simp [fresh first List.mem_cons_self]
          omega

end RouteIndex

/-! ## One RIDE edge each way -/

section Rides
variable {geo} {rows : List (Route K)}

def follows (node next : Node K) : Prop :=
  next.route = node.route ∧ next.stopIndex = node.stopIndex + 1

def ridesTo (graph : Graph K) (node next : Node K) : List (Edge K) :=
  (graph.edges node.id).filter fun edge => edge.kind = .RIDE ∧ edge.target = next.id

def rideBetween (u v : Nat) (hop : Nat × Edge K) : Bool :=
  hop.1 = u ∧ hop.2.kind = .RIDE ∧ hop.2.target = v

theorem flat_map_only {α β : Type} {xs : List α} {f : α → List β} {only : α} (distinct : xs.Nodup)
    (member : only ∈ xs) (others : ∀ x ∈ xs, x ≠ only → f x = []) : xs.flatMap f = f only := by
  obtain ⟨front, back, rfl⟩ := List.append_of_mem member
  rw [List.nodup_append, List.nodup_cons] at distinct
  have before : front.flatMap f = [] := by
    rw [List.flatMap_eq_nil_iff]
    intro x inFront
    refine others x (List.mem_append_left _ inFront) ?_
    exact distinct.2.2 x inFront only List.mem_cons_self
  have after : back.flatMap f = [] := by
    rw [List.flatMap_eq_nil_iff]
    intro x inBack
    refine others x (List.mem_append_right _ (List.mem_cons_of_mem only inBack)) ?_
    rintro rfl
    exact distinct.2.1.1 inBack
  rw [List.flatMap_append, List.flatMap_cons, before, after, List.nil_append, List.append_nil]

omit [Field K] [LinearOrder K] in
theorem adjacent_filter (added : List (Nat × Edge K)) (u v : Nat) :
    (adjacent added u).filter (fun edge => edge.kind = .RIDE ∧ edge.target = v) =
      (added.filter (rideBetween u v)).map Prod.snd := by
  induction added with
  | nil => rfl
  | cons hop rest ih =>
      by_cases here : hop.1 = u
      · by_cases ride : hop.2.kind = .RIDE ∧ hop.2.target = v
        · simp_all [adjacent, rideBetween]
        · simp_all [adjacent, rideBetween]
      · simp_all [adjacent, rideBetween]

theorem rides_to_eq {node next : Node K} (known : node ∈ (build geo rows).nodes) :
    ridesTo (build geo rows) node next =
      (((build geo rows).nodes.flatMap fun first =>
        (rideHops geo (build geo rows).nodes first).filter (rideBetween node.id next.id))).map
          Prod.snd := by
  have edges : (build geo rows).edges node.id =
      adjacent (hops geo (build geo rows).nodes) node.id := by
    have found := graph_node (build geo rows) known
    rw [Graph.edges, List.getD_eq_getElem?_getD]
    have laid : (layNodes geo 0 (servedRoutes rows))[node.id]? = some node := found
    simp only [build, List.getElem?_map, laid]
    rfl
  have walks : ((build geo rows).nodes.flatMap fun a =>
      (build geo rows).nodes.filterMap (transferHop geo a)).filter
        (rideBetween node.id next.id) = [] := by
    rw [List.filter_eq_nil_iff]
    intro hop added
    simp only [List.mem_flatMap, List.mem_filterMap] at added
    obtain ⟨a, _, b, _, walk⟩ := added
    obtain ⟨_, _, rfl⟩ := transfer_hop_cases geo walk
    simp [rideBetween]
  rw [ridesTo, edges, adjacent_filter, hops, List.filter_append, walks, List.append_nil,
    List.filter_flatMap]

omit [Field K] [LinearOrder K] in
theorem served_ids_nodup (distinct : (rows.map Route.id).Nodup) :
    ((servedRoutes rows).map Route.id).Nodup := by
  rw [((served_perm rows).map Route.id).nodup_iff]
  exact distinct.sublist (List.filter_sublist.map Route.id)

omit [Field K] [LinearOrder K] in
theorem numbered_nodup (route : Route K) : (numbered route).Nodup := by
  refine List.Nodup.of_map (fun entry => entry.2.1) ?_
  have indexes : (numbered route).map (fun entry => entry.2.1) = List.range route.stops.length := by
    rw [numbered, List.map_map, List.range_eq_range']
    exact List.zipIdx_map_snd 0 route.stops
  rw [indexes]
  exact List.nodup_range

theorem node_of_stop (distinct : (rows.map Route.id).Nodup) {node other : Node K}
    (known : node ∈ (build geo rows).nodes) (known' : other ∈ (build geo rows).nodes)
    (route : other.route = node.route) (stopIndex : other.stopIndex = node.stopIndex) :
    other = node := by
  have listed : ((build geo rows).nodes.map shown).Nodup := by
    have shownAll : (build geo rows).nodes.map shown = (servedRoutes rows).flatMap numbered :=
      lay_nodes_shown geo 0 (servedRoutes rows)
    rw [shownAll, List.nodup_flatMap]
    refine ⟨fun route _ => numbered_nodup route, ?_⟩
    refine (List.Nodup.of_map Route.id (served_ids_nodup distinct)).imp ?_
    intro first second different entry inFirst inSecond
    simp only [numbered, List.mem_map] at inFirst inSecond
    obtain ⟨_, _, rfl⟩ := inFirst
    obtain ⟨_, _, same⟩ := inSecond
    exact different (congrArg Prod.fst same).symm
  refine List.inj_on_of_nodup_map listed known' known ?_
  have atStop := (lay_nodes_stop geo 0 (servedRoutes rows) node known).2
  have atStop' := (lay_nodes_stop geo 0 (servedRoutes rows) other known').2
  rw [route, stopIndex, atStop, Option.some.injEq] at atStop'
  simp [shown, route, stopIndex, atStop']

theorem follows_next (distinct : (rows.map Route.id).Nodup) {node next : Node K}
    (known : node ∈ (build geo rows).nodes) (known' : next ∈ (build geo rows).nodes)
    (neighbours : follows node next) :
    node.stopIndex + 1 < node.route.stops.length ∧
      (build geo rows).nodes[node.id + 1]? = some next := by
  obtain ⟨route, stopIndex⟩ := neighbours
  have atStop := (lay_nodes_stop geo 0 (servedRoutes rows) next known').2
  have more : node.stopIndex + 1 < node.route.stops.length := by
    rw [← route, ← stopIndex]
    exact (List.getElem?_eq_some_iff.mp atStop).1
  have atNode := graph_node (build geo rows) known
  obtain ⟨after, found⟩ := lay_nodes_more geo 0 node.id (servedRoutes rows) atNode more
  obtain ⟨route', stopIndex'⟩ :=
    lay_nodes_next geo 0 node.id (servedRoutes rows) node after atNode more found
  obtain rfl : after = next := node_of_stop distinct known' (List.mem_of_getElem? found)
    (route'.trans route.symm) (stopIndex'.trans stopIndex.symm)
  exact ⟨more, found⟩

theorem follows_rides (distinct : (rows.map Route.id).Nodup) {node next : Node K}
    (known : node ∈ (build geo rows).nodes) (known' : next ∈ (build geo rows).nodes)
    (neighbours : follows node next) :
    ∃ minutes km, ridesTo (build geo rows) node next = [⟨next.id, minutes, km, .RIDE⟩] ∧
      ridesTo (build geo rows) next node = [⟨node.id, minutes, km, .RIDE⟩] := by
  obtain ⟨more, found⟩ := follows_next distinct known known' neighbours
  have place : next.id = node.id + 1 := (build geo rows).ids _ _ found
  -- Only the turn of `node` in the RIDE loop adds edges between the two.
  have others : ∀ first ∈ (build geo rows).nodes, first ≠ node → ∀ u v : Nat,
      (u = node.id ∧ v = next.id) ∨ (u = next.id ∧ v = node.id) →
      (rideHops geo (build geo rows).nodes first).filter (rideBetween u v) = [] := by
    intro first member different u v ends
    rw [List.filter_eq_nil_iff]
    intro hop added between
    obtain ⟨second, after, _, _, _, _, sides⟩ := ride_hop_cases geo added
    have afterId : second.id = first.id + 1 := (build geo rows).ids _ _ after
    have apart : first.id ≠ node.id := fun same => different (node_eq_of_id member known same)
    simp only [rideBetween, decide_eq_true_eq] at between
    omega
  refine ⟨rideKm geo node next / BUS_SPEED_KMH * (60 : Nat) + DWELL_MINUTES_PER_STOP,
    rideKm geo node next, ?_, ?_⟩
  · rw [rides_to_eq known, flat_map_only (nodes_nodup _) known fun first member different =>
      others first member different _ _ (Or.inl ⟨rfl, rfl⟩)]
    simp only [rideHops, found, if_neg (Nat.not_le.mpr more)]
    simp [rideBetween, place]
  · rw [rides_to_eq known', flat_map_only (nodes_nodup _) known fun first member different =>
      others first member different _ _ (Or.inr ⟨rfl, rfl⟩)]
    simp only [rideHops, found, if_neg (Nat.not_le.mpr more)]
    simp [rideBetween, place]

end Rides

/-! ## The network, exactly -/

section Exactly
variable {geo} {rows : List (Route K)}

structure ExactNetwork (geo : GeoDistance K) (rows : List (Route K)) (graph : Graph K) : Prop where
  ids : ∀ (i : Nat) (node : Node K), graph.nodes[i]? = some node → node.id = i
  served : (servedRoutes rows).Perm
    (rows.filter fun route => route.active && 2 ≤ route.stops.length)
  stops : graph.nodes.map shown = (servedRoutes rows).flatMap numbered
  rides : ∀ node ∈ graph.nodes, ∀ next ∈ graph.nodes, follows node next → ∃ minutes km,
    ridesTo graph node next = [⟨next.id, minutes, km, .RIDE⟩] ∧
      ridesTo graph next node = [⟨node.id, minutes, km, .RIDE⟩]
  noOtherRide : ∀ node ∈ graph.nodes, ∀ edge ∈ graph.edges node.id, edge.kind = .RIDE →
    ∃ other ∈ graph.nodes, edge.target = other.id ∧ (follows node other ∨ follows other node)
  transfers : ∀ a ∈ graph.nodes, ∀ b ∈ graph.nodes,
    (∃ edge ∈ graph.edges a.id, edge.kind = .TRANSFER ∧ edge.target = b.id) ↔
      a.route ≠ b.route ∧ stopDistance geo a.stop b.stop ≤ MAX_TRANSFER_WALK_KM
  targets : ∀ u, ∀ edge ∈ graph.edges u, edge.target < graph.nodes.length
  positive : ∀ u, ∀ edge ∈ graph.edges u, 0 < edge.minutes
  paths : ∀ node ∈ graph.nodes,
    graph.paths[routeIndexOf node.route 0 none graph.nodes]? = some (pathPoints node.route)

theorem build_ride_ends {node : Node K} {edge : Edge K} (known : node ∈ (build geo rows).nodes)
    (leaves : edge ∈ (build geo rows).edges node.id) (ride : edge.kind = .RIDE) :
    ∃ other ∈ (build geo rows).nodes, edge.target = other.id ∧
      ((follows node other ∧ other.id = node.id + 1) ∨
        (follows other node ∧ node.id = other.id + 1)) := by
  obtain ⟨_, added⟩ := (build_edge_iff geo rows node.id edge).mp leaves
  simp only [hops, List.mem_append, List.mem_flatMap, List.mem_filterMap] at added
  rcases added with ⟨first, member, hop⟩ | ⟨a, _, b, _, walk⟩
  · obtain ⟨next, found, more, _, _, _, ends⟩ := ride_hop_cases geo hop
    have after : follows first next := lay_nodes_next geo 0 first.id (servedRoutes rows) first next
      (graph_node (build geo rows) member) more found
    have memberNext := List.mem_of_getElem? found
    have place := (build geo rows).ids _ _ found
    rcases ends with ⟨atFirst, target⟩ | ⟨atNext, target⟩
    · obtain rfl := node_eq_of_id known member atFirst
      exact ⟨next, memberNext, target, Or.inl ⟨after, place⟩⟩
    · obtain rfl := node_eq_of_id known memberNext atNext
      exact ⟨first, member, target, Or.inr ⟨after, place⟩⟩
  · obtain ⟨_, _, same⟩ := transfer_hop_cases geo walk
    obtain ⟨_, rfl⟩ := Prod.mk.inj same
    exact absurd ride (by simp)

theorem build_transfer_iff (distinct : (rows.map Route.id).Nodup) {a b : Node K}
    (known : a ∈ (build geo rows).nodes) (known' : b ∈ (build geo rows).nodes) :
    (∃ edge ∈ (build geo rows).edges a.id, edge.kind = .TRANSFER ∧ edge.target = b.id) ↔
      a.route ≠ b.route ∧ stopDistance geo a.stop b.stop ≤ MAX_TRANSFER_WALK_KM := by
  constructor
  · rintro ⟨edge, leaves, transfer, target⟩
    obtain ⟨_, added⟩ := (build_edge_iff geo rows a.id edge).mp leaves
    simp only [hops, List.mem_append, List.mem_flatMap, List.mem_filterMap] at added
    rcases added with ⟨first, _, hop⟩ | ⟨source, member, goal, memberGoal, walk⟩
    · obtain ⟨_, _, _, kind, _⟩ := ride_hop_cases geo hop
      exact absurd (kind.symm.trans transfer) (by simp)
    · obtain ⟨different, near, same⟩ := transfer_hop_cases geo walk
      obtain ⟨atSource, rfl⟩ := Prod.mk.inj same
      obtain rfl := node_eq_of_id known member atSource
      obtain rfl := node_eq_of_id memberGoal known' target
      exact ⟨fun alike => different (congrArg Route.id alike), near⟩
  · rintro ⟨different, near⟩
    -- Routes of one id are one route of the table.
    have apart : a.route.id ≠ b.route.id := by
      intro same
      have listed := (lay_nodes_stop geo 0 (servedRoutes rows) a known).1
      have listed' := (lay_nodes_stop geo 0 (servedRoutes rows) b known').1
      exact different (List.inj_on_of_nodup_map (served_ids_nodup distinct) listed listed' same)
    have walk : transferHop geo a b = some (a.id, ⟨b.id, stopDistance geo a.stop b.stop /
        WALK_SPEED_KMH * (60 : Nat) + b.route.frequencyMinutes / (2 : Nat),
        stopDistance geo a.stop b.stop, .TRANSFER⟩) := by
      rw [transferHop, if_neg apart]
      exact if_pos near
    exact ⟨_, transfer_leaves known known' walk, rfl, rfl⟩

theorem build_route_path (distinct : (rows.map Route.id).Nodup) {node : Node K}
    (known : node ∈ (build geo rows).nodes) :
    (build geo rows).paths[routeIndexOf node.route 0 none (build geo rows).nodes]? =
      some (pathPoints node.route) := by
  have listed := (lay_nodes_stop geo 0 (servedRoutes rows) node known).1
  obtain ⟨k, found⟩ := List.mem_iff_getElem?.mp listed
  have stopped : ∀ route ∈ servedRoutes rows, route.stops ≠ [] := by
    rintro route member none
    have enough := ((served_iff rows route).mp member).1
    simp [none] at enough
  have index : routeIndexOf node.route 0 none (build geo rows).nodes = k := by
    have counted := route_index_lay geo (servedRoutes rows) (served_ids_nodup distinct) stopped 0
      none (by simp) 0 k found
    simpa [build] using counted
  rw [index]
  simp [build, found]

theorem build_exact [IsStrictOrderedRing K] (geo : GeoDistance K) (rows : List (Route K))
    (distinct : (rows.map Route.id).Nodup) : ExactNetwork geo rows (build geo rows) := by
  constructor
  case ids => exact (build geo rows).ids
  case served => exact served_perm rows
  case stops => exact lay_nodes_shown geo 0 (servedRoutes rows)
  case rides => exact fun node known next known' => follows_rides distinct known known'
  case noOtherRide =>
    intro node known edge leaves ride
    obtain ⟨other, listed, target, next | previous⟩ := build_ride_ends known leaves ride
    · exact ⟨other, listed, target, Or.inl next.1⟩
    · exact ⟨other, listed, target, Or.inr previous.1⟩
  case transfers => exact fun a known b known' => build_transfer_iff distinct known known'
  case targets => exact edge_target (build geo rows)
  case positive => exact fun u edge => build_minutes_pos geo rows
  case paths => exact fun node known => build_route_path distinct known

def corridor : List (Route ℚ) :=
  [shortLine, { shortLine with id := 2, routeNumber := 3 },
    { shortLine with id := 3, active := false }]

/-- Two lines along one corridor, a third out of service. -/
theorem corridor_exact :
    ExactNetwork taxicab corridor (build taxicab corridor) ∧
      (build taxicab corridor).nodes.length = 4 :=
  ⟨build_exact taxicab corridor (by decide), by decide⟩

end Exactly

end CityBus.CompiledGraph
