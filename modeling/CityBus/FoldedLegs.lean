import CityBus.CompiledGraph
import CityBus.ItineraryArithmetic

/-!
The legs `fold` makes of a chain of hops, whatever pattern of rides and
transfers it has: a walk for each transfer and one ride for each longest run of
RIDE edges, between the access and the egress walk. The chain comes as the
records of `arrivals`, so it visits no node twice and `walkBack` spells it.
-/

namespace CityBus.FoldedLegs

open GeoUtils JourneyGraph CheapestPaths JourneySearch JourneyOptimality JourneyPlan
open UnroundedFold ItineraryArithmetic CompiledGraph

variable {K : Type} [Field K] [LinearOrder K]

structure Hop (K : Type) where
  previous : Node K
  edge : Edge K
  node : Node K
  deriving DecidableEq

/-! ## Recorded chains -/

section Recorded
variable {graph : Graph K} {arrivals : Nat → Option (Arrival K)} {origin last : Node K}
variable {hops : List (Hop K)}

/-- A chain of edges from `origin`, as `arrivals` records it. -/
inductive RecordedChain (graph : Graph K) (arrivals : Nat → Option (Arrival K)) (origin : Node K) :
    List (Hop K) → Node K → Prop where
  | board (known : origin ∈ graph.nodes)
      (record : ∃ minutes, arrivals origin.id = some ⟨minutes, none, none⟩) :
      RecordedChain graph arrivals origin [] origin
  | hop {hops : List (Hop K)} {previous node : Node K} {edge : Edge K}
      (front : RecordedChain graph arrivals origin hops previous)
      (leaves : edge ∈ graph.edges previous.id) (target : graph.nodes[edge.target]? = some node)
      (record : ∃ minutes, arrivals node.id = some ⟨minutes, some previous.id, some edge⟩) :
      RecordedChain graph arrivals origin (hops ++ [⟨previous, edge, node⟩]) node

def visited (origin : Node K) (hops : List (Hop K)) : List Nat :=
  origin.id :: hops.map fun hop => hop.node.id

omit [Field K] [LinearOrder K] in
theorem recorded_board (chain : RecordedChain graph arrivals origin hops last) :
    origin ∈ graph.nodes := by
  induction chain with
  | board known _ => exact known
  | hop _ _ _ _ ih => exact ih

omit [Field K] [LinearOrder K] in
theorem recorded_back (chain : RecordedChain graph arrivals origin hops last) (fuel : Nat)
    (enough : hops.length < fuel) :
    (walkBack arrivals fuel last.id).reverse = visited origin hops := by
  induction chain generalizing fuel with
  | board known record =>
      obtain ⟨minutes, record⟩ := record
      cases fuel with
      | zero => simp at enough
      | succ fuel => simp [walkBack, record, visited]
  | hop front leaves target record ih =>
      obtain ⟨minutes, record⟩ := record
      cases fuel with
      | zero => simp at enough
      | succ fuel =>
          have spelled := ih fuel (by simpa using enough)
          simp [walkBack, record, spelled, visited]

omit [Field K] [LinearOrder K] in
theorem recorded_prefix (chain : RecordedChain graph arrivals origin hops last) :
    ∀ v ∈ visited origin hops, ∃ front node, RecordedChain graph arrivals origin front node ∧
      node.id = v ∧ front.length ≤ hops.length ∧ node ∈ graph.nodes := by
  induction chain with
  | board known record =>
      intro v member
      obtain rfl := List.mem_singleton.mp member
      exact ⟨[], origin, RecordedChain.board known record, rfl, le_refl _, known⟩
  | @hop hops previous node edge front leaves target record ih =>
      intro v member
      simp only [visited, List.map_append, List.map_cons, List.map_nil, ← List.cons_append,
        List.mem_append, List.mem_singleton] at member
      rcases member with earlier | rfl
      · obtain ⟨before, node, known, same, short, listed⟩ := ih v earlier
        exact ⟨before, node, known, same, short.trans (by simp), listed⟩
      · exact ⟨_, node, RecordedChain.hop front leaves target record, rfl, le_refl _,
          List.mem_of_getElem? target⟩

omit [Field K] [LinearOrder K] in
/-- The way back from a node is one way, so no node is on it twice. -/
theorem recorded_nodup (chain : RecordedChain graph arrivals origin hops last) :
    (visited origin hops).Nodup := by
  induction chain with
  | board known record => simp [visited]
  | @hop hops previous node edge front leaves target record ih =>
      have grown : visited origin (hops ++ [⟨previous, edge, node⟩]) =
          visited origin hops ++ [node.id] := by simp [visited]
      rw [grown, List.nodup_append]
      refine ⟨ih, by simp, ?_⟩
      intro v earlier w now same
      obtain rfl := List.mem_singleton.mp now
      obtain ⟨before, other, chain', atV, short, _⟩ := recorded_prefix front v earlier
      have whole := RecordedChain.hop front leaves target record
      have back := recorded_back whole (hops.length + 2) (by simp)
      have back' := recorded_back chain' (hops.length + 2) (by omega)
      rw [atV, same, back] at back'
      have lengths := congrArg List.length back'
      simp [visited] at lengths
      omega

omit [Field K] [LinearOrder K] in
theorem recorded_short (chain : RecordedChain graph arrivals origin hops last) :
    hops.length < graph.nodes.length := by
  have within : visited origin hops ⊆ List.range graph.nodes.length := by
    intro v member
    obtain ⟨_, node, _, rfl, _, listed⟩ := recorded_prefix chain v member
    exact List.mem_range.mpr (node_id_lt graph.ids listed)
  have count := ((recorded_nodup chain).subperm within).length_le
  simpa [visited] using count

/-- A stretch of a chain from `start`, whatever `arrivals` says. -/
inductive Linked (graph : Graph K) : Node K → List (Hop K) → Node K → Prop where
  | nil (node : Node K) : Linked graph node [] node
  | cons {start node last : Node K} {edge : Edge K} {rest : List (Hop K)}
      (leaves : edge ∈ graph.edges start.id) (target : graph.nodes[edge.target]? = some node)
      (tail : Linked graph node rest last) : Linked graph start (⟨start, edge, node⟩ :: rest) last

omit [Field K] [LinearOrder K] in
theorem linked_concat {start middle node : Node K} {edge : Edge K}
    (front : Linked graph start hops middle) (leaves : edge ∈ graph.edges middle.id)
    (target : graph.nodes[edge.target]? = some node) :
    Linked graph start (hops ++ [⟨middle, edge, node⟩]) node := by
  induction front with
  | nil => exact Linked.cons leaves target (Linked.nil node)
  | cons first arrives _ ih => exact Linked.cons first arrives (ih leaves)

omit [Field K] [LinearOrder K] in
theorem recorded_linked (chain : RecordedChain graph arrivals origin hops last) :
    Linked graph origin hops last := by
  induction chain with
  | board => exact Linked.nil origin
  | hop _ leaves target _ ih => exact linked_concat ih leaves target

omit [Field K] [LinearOrder K] in
theorem recorded_via (chain : RecordedChain graph arrivals origin hops last) :
    ∀ hop ∈ hops, (arrivals hop.node.id).bind (·.viaEdge) = some hop.edge := by
  induction chain with
  | board => simp
  | hop _ _ _ record ih =>
      intro hop member
      rcases List.mem_append.mp member with earlier | now
      · exact ih hop earlier
      · obtain ⟨minutes, record⟩ := record
        rw [List.mem_singleton.mp now, record]
        rfl

omit [Field K] [LinearOrder K] in
theorem linked_nodes {start : Node K} (known : start ∈ graph.nodes)
    (linked : Linked graph start hops last) :
    (visited start hops).filterMap (graph.nodes[·]?) = start :: hops.map Hop.node ∧
      last ∈ graph.nodes := by
  induction linked with
  | nil node => simp [visited, graph_node graph known, known]
  | @cons start node last edge rest leaves target tail ih =>
      obtain ⟨looked, listed⟩ := ih (List.mem_of_getElem? target)
      refine ⟨?_, listed⟩
      simp only [visited] at looked ⊢
      rw [List.filterMap_cons, graph_node graph known, List.map_cons, looked, List.map_cons]

omit [Field K] [LinearOrder K] in
theorem linked_listed {start : Node K} (linked : Linked graph start hops last) :
    ∀ hop ∈ hops, hop.node ∈ graph.nodes := by
  induction linked with
  | nil => simp
  | cons _ target _ ih =>
      intro hop member
      rcases List.mem_cons.mp member with rfl | later
      · exact List.mem_of_getElem? target
      · exact ih hop later

omit [Field K] [LinearOrder K] in
theorem linked_targets {start : Node K} (linked : Linked graph start hops last) :
    ∀ hop ∈ hops, hop.node.id = hop.edge.target := by
  induction linked with
  | nil => simp
  | cons _ target _ ih =>
      intro hop member
      rcases List.mem_cons.mp member with rfl | later
      · exact graph.ids _ _ target
      · exact ih hop later

omit [Field K] [LinearOrder K] in
theorem path_linked {start : Node K} {edges : List (Edge K)} {v : Nat} (known : start ∈ graph.nodes)
    (path : Path graph.edges Edge.target start.id edges v) :
    ∃ hops last, Linked graph start hops last ∧ hops.map Hop.edge = edges ∧ last.id = v ∧
      visited start hops = start.id :: edges.map Edge.target := by
  induction edges generalizing start with
  | nil =>
      cases path with
      | nil => exact ⟨[], start, Linked.nil start, rfl, rfl, rfl⟩
  | cons edge rest ih =>
      cases path with
      | cons leaves tail =>
          have inside := edge_target graph start.id edge leaves
          obtain ⟨node, target⟩ : ∃ node, graph.nodes[edge.target]? = some node :=
            ⟨_, List.getElem?_eq_getElem inside⟩
          have atId : node.id = edge.target := graph.ids _ _ target
          rw [← atId] at tail
          obtain ⟨hops, last, linked, edges, ends, spelled⟩ := ih (List.mem_of_getElem? target) tail
          refine ⟨⟨start, edge, node⟩ :: hops, last, Linked.cons leaves target linked, ?_, ends, ?_⟩
          · rw [List.map_cons, edges]
          · simp only [visited] at spelled ⊢
            rw [List.map_cons, spelled, atId, List.map_cons]

omit [LinearOrder K] in
theorem spelled_linked {candidates : List (Node K)} {boardCost : Node K → K} {finished : Search K}
    {edges : List (Edge K)} (spelled : SpelledChain graph candidates boardCost finished
      graph.nodes.length last.id origin edges)
    (board : origin ∈ graph.nodes) (alights : last ∈ graph.nodes) :
    ∃ hops, Linked graph origin hops last ∧ hops.map Hop.edge = edges ∧
      (walkBack finished.arrivals graph.nodes.length last.id).reverse = visited origin hops ∧
      ∀ hop ∈ hops, (finished.arrivals hop.node.id).bind (·.viaEdge) = some hop.edge := by
  obtain ⟨hops, stop, linked, rfl, ends, nodes⟩ := path_linked board spelled.path
  have listed := (linked_nodes board linked).2
  obtain rfl : stop = last := node_eq_of_id listed alights ends
  refine ⟨hops, linked, rfl, spelled.nodes.trans nodes.symm, fun hop member => ?_⟩
  rw [linked_targets linked hop member]
  exact spelled.recorded hop.edge (List.mem_map_of_mem member)

end Recorded

/-! ## The legs of a chain -/

section Legs

/-- Where a leg begins or ends: the name that is read and the point that is drawn. -/
structure Place (K : Type) where
  name : String
  lat : K
  lng : K

def atStop (node : Node K) : Place K := ⟨node.stop.name, node.stop.lat, node.stop.lng⟩

structure WalkOf (rounding : Rounding K) (source goal : Place K) (km : K) (leg : Leg K) : Prop where
  mode : leg.mode = .WALK
  leaves : leg.fromName = source.name
  arrives : leg.toName = goal.name
  noLine : leg.routeNumber = none ∧ leg.routeName = none ∧ leg.routeColor = none
  noStops : leg.stopCount = none ∧ leg.waitMinutes = none
  distance : leg.distanceKm = rounding.km km
  duration : leg.durationMinutes = rounding.minutes (km / WALK_SPEED_KMH * (60 : Nat))
  drawn : leg.geometry = [(source.lat, source.lng), (goal.lat, goal.lng)]

/-- The leg of a longest run of rides from `start` to `stop`. -/
structure RideOf (rounding : Rounding K) (start : Node K) (run : List (Hop K)) (stop : Node K)
    (leg : Leg K) : Prop where
  mode : leg.mode = .RIDE
  boards : leg.fromName = start.stop.name
  alights : leg.toName = stop.stop.name
  line : leg.routeNumber = some start.route.routeNumber ∧ leg.routeName = some start.route.name ∧
    leg.routeColor = some start.route.color
  oneRoute : ∀ hop ∈ run, hop.previous.route = start.route ∧ hop.node.route = start.route
  stopCount : leg.stopCount = some run.length
  wait : leg.waitMinutes = some (rounding.minutes (start.route.frequencyMinutes / (2 : Nat)))
  distance : leg.distanceKm = rounding.km (run.map fun hop => hop.edge.km).sum
  duration : leg.durationMinutes = rounding.minutes (run.map fun hop => hop.edge.minutes).sum

/-- Legs that cover the hops from `start` to `last`, each from where the one
before ended: a walk a transfer, and a ride a run of RIDE edges that no further
RIDE edge follows. -/
inductive Folded (graph : Graph K) (rounding : Rounding K) :
    Node K → List (Hop K) → List (Leg K) → Node K → Prop where
  | done (node : Node K) : Folded graph rounding node [] [] node
  | walk {hop : Hop K} {hops : List (Hop K)} {leg : Leg K} {legs : List (Leg K)} {last : Node K}
      (transfer : hop.edge.kind = .TRANSFER)
      (leg_of : WalkOf rounding (atStop hop.previous) (atStop hop.node) hop.edge.km leg)
      (rest : Folded graph rounding hop.node hops legs last) :
      Folded graph rounding hop.previous (hop :: hops) (leg :: legs) last
  | ride {start stop last : Node K} {run hops : List (Hop K)} {legs : List (Leg K)}
      (linked : Linked graph start run stop) (some_hop : run ≠ [])
      (rides : ∀ hop ∈ run, hop.edge.kind = .RIDE)
      (longest : ∀ hop ∈ hops.head?, hop.edge.kind ≠ .RIDE)
      (leg_of : RideOf rounding start run stop
        (rideLegWith rounding graph start (run.map Hop.node) stop))
      (rest : Folded graph rounding stop hops legs last) :
      Folded graph rounding start (run ++ hops)
        (rideLegWith rounding graph start (run.map Hop.node) stop :: legs) last

omit [LinearOrder K] in
theorem walk_leg_of (rounding : Rounding K) (source goal : Place K) (km : K) :
    WalkOf rounding source goal km (walkLegWith rounding source.name goal.name km
      [(source.lat, source.lng), (goal.lat, goal.lng)]) :=
  ⟨rfl, rfl, rfl, ⟨rfl, rfl, rfl⟩, ⟨rfl, rfl⟩, rfl, rfl, rfl⟩

end Legs

/-! ## The loop of fold -/

section Loop
variable {geo : GeoDistance K} {rows : List (Route K)} {rounding : Rounding K}
variable {arrivals : Nat → Option (Arrival K)} {start middle last : Node K}
variable {pend rest : List (Hop K)}

omit [Field K] [LinearOrder K] in
theorem linked_current {graph : Graph K} (linked : Linked graph start pend middle) :
    (pend.map Hop.node).getLastD start = middle := by
  induction linked with
  | nil => rfl
  | cons _ _ _ ih => rw [List.map_cons, List.getLastD_cons, ih]

theorem ride_same_route {start node : Node K} {edge : Edge K}
    (known : start ∈ (build geo rows).nodes) (leaves : edge ∈ (build geo rows).edges start.id)
    (target : (build geo rows).nodes[edge.target]? = some node) (ride : edge.kind = .RIDE) :
    node.route = start.route := by
  obtain ⟨source, goal, atSource, atGoal, stays | ⟨_, walk⟩⟩ := build_edge_cases geo rows leaves
  · obtain rfl := Option.some.inj (atSource.symm.trans (graph_node (build geo rows) known))
    obtain rfl := Option.some.inj (atGoal.symm.trans target)
    exact stays.2.1.symm
  · rw [walk] at ride
    exact absurd ride (by simp)

theorem linked_rides (known : start ∈ (build geo rows).nodes)
    (linked : Linked (build geo rows) start pend middle)
    (rides : ∀ hop ∈ pend, hop.edge.kind = .RIDE) :
    rideEdges (build geo rows) start (pend.map Hop.node) = pend.map Hop.edge ∧
      ∀ hop ∈ pend, hop.previous.route = start.route ∧ hop.node.route = start.route := by
  induction linked with
  | nil => simp [rideEdges]
  | @cons start node last edge rest leaves target tail ih =>
      obtain ⟨found, routes⟩ := ih (List.mem_of_getElem? target)
        fun hop member => rides hop (List.mem_cons_of_mem _ member)
      have ride : edge.kind = .RIDE := rides ⟨start, edge, node⟩ List.mem_cons_self
      have again := (build_priced geo rows leaves target).ride ride
      have sameRoute := ride_same_route known leaves target ride
      refine ⟨by simp [rideEdges, again, found], ?_⟩
      intro hop member
      rcases List.mem_cons.mp member with rfl | later
      · exact ⟨rfl, sameRoute⟩
      · rw [← sameRoute]
        exact routes hop later

theorem ride_of_linked (known : start ∈ (build geo rows).nodes)
    (linked : Linked (build geo rows) start pend middle)
    (rides : ∀ hop ∈ pend, hop.edge.kind = .RIDE) :
    RideOf rounding start pend middle
      (rideLegWith rounding (build geo rows) start (pend.map Hop.node) middle) := by
  obtain ⟨found, routes⟩ := linked_rides known linked rides
  constructor
  case mode => rfl
  case boards => rfl
  case alights => rfl
  case line => exact ⟨rfl, rfl, rfl⟩
  case oneRoute => exact routes
  case stopCount => simp [rideLegWith]
  case wait => rfl
  case distance => simp [rideLegWith, found, Function.comp_def]
  case duration => simp [rideLegWith, found, Function.comp_def]

variable (rounding) in
theorem add_ride_keeps (graph : Graph K) (folding : Folding K) :
    (addRideWith rounding graph folding).rideStart = folding.rideStart ∧
      (addRideWith rounding graph folding).riding = folding.riding ∧
      (addRideWith rounding graph folding).transfers = folding.transfers := by
  unfold addRideWith
  cases folding.riding.getLast? with
  | none => exact ⟨rfl, rfl, rfl⟩
  | some rideEnd => exact ⟨rfl, rfl, rfl⟩

variable (rounding last) in
/-- What is pending when a walk begins or the chain ends becomes one leg, or none. -/
theorem add_ride_closes (folding : Folding K) (known : folding.rideStart ∈ (build geo rows).nodes)
    (pending : Linked (build geo rows) folding.rideStart pend middle)
    (rides : ∀ hop ∈ pend, hop.edge.kind = .RIDE) (riding : folding.riding = pend.map Hop.node) :
    ∃ closed, (addRideWith rounding (build geo rows) folding).legs = folding.legs ++ closed ∧
      ∀ hops legs, (∀ hop ∈ hops.head?, hop.edge.kind ≠ .RIDE) →
        Folded (build geo rows) rounding middle hops legs last →
        Folded (build geo rows) rounding folding.rideStart (pend ++ hops) (closed ++ legs) last := by
  by_cases standing : pend = []
  · subst standing
    cases pending with
    | nil =>
        refine ⟨[], ?_, fun hops legs _ folded => folded⟩
        simp [addRideWith, riding]
  · have some_node : pend.map Hop.node ≠ [] := by simpa using standing
    have current := linked_current pending
    have ended : folding.riding.getLast? = some middle := by
      rw [riding, List.getLast?_eq_some_getLast some_node, ← current,
        List.getLastD_eq_getLast?, List.getLast?_eq_some_getLast some_node]
      rfl
    refine ⟨[rideLegWith rounding (build geo rows) folding.rideStart (pend.map Hop.node) middle],
      ?_, ?_⟩
    · simp only [addRideWith, ended]
      rw [riding]
    · intro hops legs longest folded
      exact Folded.ride pending standing rides longest (ride_of_linked known pending rides) folded

def transfers (hops : List (Hop K)) : Nat := hops.countP fun hop => hop.edge.kind = .TRANSFER

theorem fold_hops_transfer (folding : Folding K) {node : Node K} {edge : Edge K}
    (via : (arrivals node.id).bind (·.viaEdge) = some edge) (walk : edge.kind = .TRANSFER)
    (nodes : List (Node K)) :
    foldHopsWith rounding (build geo rows) arrivals folding (node :: nodes) =
      foldHopsWith rounding (build geo rows) arrivals
        (addTransferWith rounding (addRideWith rounding (build geo rows) folding) node edge)
        nodes := by
  cases nodes <;> simp [foldHopsWith, foldHopWith, via, walk]

theorem fold_hops_ride (folding : Folding K) {node : Node K} {edge : Edge K}
    (via : (arrivals node.id).bind (·.viaEdge) = some edge) (ride : edge.kind = .RIDE)
    (next : Node K) (nodes : List (Node K)) :
    foldHopsWith rounding (build geo rows) arrivals folding (node :: next :: nodes) =
      foldHopsWith rounding (build geo rows) arrivals
        { folding with riding := folding.riding ++ [node] } (next :: nodes) := by
  simp [foldHopsWith, foldHopWith, via, ride]

variable (rounding) in
theorem fold_hops_folded (folding : Folding K) (pend : List (Hop K))
    (known : folding.rideStart ∈ (build geo rows).nodes)
    (pending : Linked (build geo rows) folding.rideStart pend middle)
    (rides : ∀ hop ∈ pend, hop.edge.kind = .RIDE) (riding : folding.riding = pend.map Hop.node)
    (linked : Linked (build geo rows) middle rest last)
    (via : ∀ hop ∈ rest, (arrivals hop.node.id).bind (·.viaEdge) = some hop.edge)
    (started : rest ≠ [] ∨ pend = []) :
    ∃ legs, (foldHopsWith rounding (build geo rows) arrivals folding (rest.map Hop.node)).legs =
        folding.legs ++ legs ∧
      (foldHopsWith rounding (build geo rows) arrivals folding (rest.map Hop.node)).transfers =
        folding.transfers + transfers rest ∧
      Folded (build geo rows) rounding folding.rideStart (pend ++ rest) legs last := by
  induction linked generalizing folding pend with
  | nil node =>
      obtain rfl := started.resolve_left fun more => more rfl
      cases pending with
      | nil => exact ⟨[], by simp [foldHopsWith], by simp [foldHopsWith, transfers], Folded.done _⟩
  | @cons middle node last edge rest leaves target tail ih =>
      have viaNode := via ⟨middle, edge, node⟩ List.mem_cons_self
      have viaRest : ∀ hop ∈ rest, (arrivals hop.node.id).bind (·.viaEdge) = some hop.edge :=
        fun hop member => via hop (List.mem_cons_of_mem _ member)
      cases kind : edge.kind with
      | TRANSFER =>
          obtain ⟨closed, added, folds⟩ :=
            add_ride_closes rounding last folding known pending rides riding
          obtain ⟨_, keepsRiding, keepsTransfers⟩ := add_ride_keeps rounding (build geo rows) folding
          have current : (addRideWith rounding (build geo rows) folding).riding.getLastD
              (addRideWith rounding (build geo rows) folding).rideStart = middle := by
            rw [keepsRiding, riding, (add_ride_keeps _ _ _).1]
            exact linked_current pending
          obtain ⟨legs, all, count, folded⟩ := ih
            (addTransferWith rounding (addRideWith rounding (build geo rows) folding) node edge) []
            (List.mem_of_getElem? target) (Linked.nil node) (by simp) rfl viaRest (Or.inr rfl)
          refine ⟨closed ++ walkLegWith rounding middle.stop.name node.stop.name edge.km
            [(middle.stop.lat, middle.stop.lng), (node.stop.lat, node.stop.lng)] :: legs, ?_, ?_, ?_⟩
          · rw [List.map_cons, fold_hops_transfer folding viaNode kind, all]
            simp only [addTransferWith, current, added]
            simp
          · rw [List.map_cons, fold_hops_transfer folding viaNode kind, count]
            simp only [addTransferWith, keepsTransfers, transfers, List.countP_cons, kind]
            simp
            omega
          · refine folds _ _ (by simp [kind]) ?_
            have transfer : (⟨middle, edge, node⟩ : Hop K).edge.kind = .TRANSFER := kind
            exact Folded.walk transfer (walk_leg_of rounding (atStop middle) (atStop node) edge.km)
              folded
      | RIDE =>
          have pending' := linked_concat pending leaves target
          have rides' : ∀ hop ∈ pend ++ [(⟨middle, edge, node⟩ : Hop K)], hop.edge.kind = .RIDE := by
            intro hop member
            rcases List.mem_append.mp member with earlier | now
            · exact rides hop earlier
            · rw [List.mem_singleton.mp now]
              exact kind
          have riding' : folding.riding ++ [node] =
              (pend ++ [(⟨middle, edge, node⟩ : Hop K)]).map Hop.node := by simp [riding]
          cases tail with
          | nil =>
              obtain ⟨closed, added, folds⟩ := add_ride_closes rounding node
                { folding with riding := folding.riding ++ [node] } known pending' rides' riding'
              refine ⟨closed, ?_, ?_, ?_⟩
              · simp only [List.map_cons, List.map_nil, foldHopsWith, foldHopWith, viaNode, kind]
                exact added
              · simp only [List.map_cons, List.map_nil, foldHopsWith, foldHopWith, viaNode, kind]
                simp [(add_ride_keeps _ _ _).2.2, transfers, kind]
              · simpa using folds [] [] (by simp) (Folded.done node)
          | @cons _ next _ nextEdge more nextLeaves nextTarget nextTail =>
              obtain ⟨legs, all, count, folded⟩ := ih
                { folding with riding := folding.riding ++ [node] } _ known pending' rides' riding'
                viaRest (Or.inl (by simp))
              refine ⟨legs, ?_, ?_, ?_⟩
              · rw [List.map_cons, List.map_cons, fold_hops_ride folding viaNode kind]
                exact all
              · rw [List.map_cons, List.map_cons, fold_hops_ride folding viaNode kind]
                refine count.trans ?_
                simp [transfers, kind]
              · simpa using folded

end Loop

/-! ## fold -/

section Fold
variable {geo : GeoDistance K} {rows : List (Route K)} {rounding : Rounding K}
variable {arrivals : Nat → Option (Arrival K)} {origin last : Node K} {hops : List (Hop K)}

def rideOn (hops : List (Hop K)) : Prop := ∃ hop ∈ hops, hop.edge.kind = .RIDE

theorem folded_rides {graph : Graph K} {start : Node K} {legs : List (Leg K)}
    (folded : Folded graph rounding start hops legs last) :
    (∃ leg ∈ legs, isRide leg = true) ↔ rideOn hops := by
  induction folded with
  | done => simp [rideOn]
  | walk transfer leg_of _ ih =>
      simp [rideOn, transfer, leg_of.mode, isRide] at ih ⊢
      exact ih
  | @ride start stop last run hops legs linked some_hop rides longest leg_of rest ih =>
      constructor
      · intro _
        obtain ⟨hop, member⟩ := List.exists_mem_of_ne_nil run some_hop
        exact ⟨hop, List.mem_append_left hops member, rides hop member⟩
      · intro _
        exact ⟨_, List.mem_cons_self, by simp [isRide, leg_of.mode]⟩

theorem folded_walks {graph : Graph K} {start : Node K} {legs : List (Leg K)}
    (folded : Folded graph rounding start hops legs last) :
    legs.countP (fun leg => leg.mode = .WALK) = transfers hops := by
  induction folded with
  | done => rfl
  | walk transfer leg_of _ ih => simpa [transfers, transfer, leg_of.mode] using ih
  | @ride start stop last run hops legs linked some_hop rides longest leg_of rest ih =>
      have none : transfers run = 0 := by
        rw [transfers, List.countP_eq_zero]
        intro hop member
        simp [rides hop member]
      have split : transfers (run ++ hops) = transfers run + transfers hops := List.countP_append
      rw [split, none, Nat.zero_add, ← ih, List.countP_cons, leg_of.mode]
      simp

def legsMeet (legs : List (Leg K)) : Prop := legs.IsChain fun leg next => leg.toName = next.fromName

theorem folded_meet {graph : Graph K} {start : Node K} {legs : List (Leg K)}
    (folded : Folded graph rounding start hops legs last) {access egress : Leg K}
    (boards : access.toName = start.stop.name) (alights : egress.fromName = last.stop.name) :
    legsMeet (access :: legs ++ [egress]) := by
  induction folded generalizing access with
  | done node => exact List.IsChain.cons_cons (boards.trans alights.symm) (List.IsChain.singleton _)
  | walk _ leg_of _ ih =>
      exact List.IsChain.cons_cons (boards.trans leg_of.leaves.symm) (ih leg_of.arrives alights)
  | ride _ _ _ _ leg_of _ ih =>
      exact List.IsChain.cons_cons (boards.trans leg_of.boards.symm) (ih leg_of.alights alights)

/-- The legs of a chain between the walk from `source` to its first stop and the
walk from its last stop to `goal`. -/
structure FoldedChain (graph : Graph K) (rounding : Rounding K) (source : Place K) (accessKm : K)
    (origin : Node K) (hops : List (Hop K)) (last : Node K) (egressKm : K) (goal : Place K)
    (response : Response K) : Prop where
  legs : ∃ access between egress, response.legs = access :: between ++ [egress] ∧
    WalkOf rounding source (atStop origin) accessKm access ∧
    Folded graph rounding origin hops between last ∧
    between.countP (fun leg => leg.mode = .WALK) = transfers hops ∧
    WalkOf rounding (atStop last) goal egressKm egress
  meet : legsMeet response.legs
  transfers : response.transfers = transfers hops

variable (rounding) in
theorem fold_spelled (totalMinutes egressKm fromLat fromLng toLat toLng : K)
    (board : origin ∈ (build geo rows).nodes) (linked : Linked (build geo rows) origin hops last)
    (spelled : (walkBack arrivals (build geo rows).nodes.length last.id).reverse =
      visited origin hops)
    (via : ∀ hop ∈ hops, (arrivals hop.node.id).bind (·.viaEdge) = some hop.edge) :
    (rideOn hops → ∃ response,
      foldWith rounding (build geo rows) arrivals geo last.id totalMinutes egressKm fromLat fromLng
        toLat toLng = some response ∧
      FoldedChain (build geo rows) rounding ⟨"Your location", fromLat, fromLng⟩
        (geo.distanceKm fromLat fromLng origin.stop.lat origin.stop.lng * INDIRECTNESS) origin hops
        last egressKm ⟨"Destination", toLat, toLng⟩ response ∧
      response.totalMinutes = rounding.minutes totalMinutes) ∧
    (¬ rideOn hops →
      foldWith rounding (build geo rows) arrivals geo last.id totalMinutes egressKm fromLat fromLng
        toLat toLng = none) := by
  let source : Place K := ⟨"Your location", fromLat, fromLng⟩
  let goal : Place K := ⟨"Destination", toLat, toLng⟩
  let accessKm := nodeDistance geo fromLat fromLng origin * INDIRECTNESS
  let access := walkLegWith rounding source.name origin.stop.name accessKm
    [(fromLat, fromLng), (origin.stop.lat, origin.stop.lng)]
  let egress := walkLegWith rounding last.stop.name goal.name egressKm
    [(last.stop.lat, last.stop.lng), (toLat, toLng)]
  obtain ⟨looked, alights⟩ := linked_nodes board linked
  obtain ⟨between, all, count, folded⟩ := fold_hops_folded rounding ⟨[access], origin, [], 0, accessKm⟩
    [] board (Linked.nil origin) (by simp) rfl linked via (Or.inr rfl)
  rw [List.nil_append] at folded
  have rideless : ((foldHopsWith rounding (build geo rows) arrivals ⟨[access], origin, [], 0, accessKm⟩
      (hops.map Hop.node)).legs ++ [egress]).all (fun leg => !isRide leg) = true ↔
        ¬ rideOn hops := by
    rw [all, ← folded_rides folded]
    simp [access, egress, walkLegWith, isRide]
  unfold foldWith
  simp only [spelled, looked, graph_node (build geo rows) alights]
  constructor
  · intro rides
    refine ⟨_, if_neg (fun none => rideless.mp none rides),
      ⟨⟨access, between, egress, ?legs, ?access, folded, folded_walks folded, ?egress⟩, ?meet, ?_⟩, rfl⟩
    case legs => exact congrArg (· ++ _) all
    case access => exact walk_leg_of rounding source (atStop origin) accessKm
    case egress => exact walk_leg_of rounding (atStop last) goal egressKm
    case meet =>
      have meets : legsMeet (access :: between ++ [egress]) := folded_meet folded rfl rfl
      rw [show access :: between = _ from all.symm] at meets
      exact meets
    exact count.trans (Nat.zero_add _)
  · intro walks
    exact if_pos (rideless.mpr walks)

variable (geo rounding) in
theorem fold_recorded (totalMinutes egressKm fromLat fromLng toLat toLng : K)
    (chain : RecordedChain (build geo rows) arrivals origin hops last) :
    (rideOn hops → ∃ response,
      foldWith rounding (build geo rows) arrivals geo last.id totalMinutes egressKm fromLat fromLng
        toLat toLng = some response ∧
      FoldedChain (build geo rows) rounding ⟨"Your location", fromLat, fromLng⟩
        (geo.distanceKm fromLat fromLng origin.stop.lat origin.stop.lng * INDIRECTNESS) origin hops
        last egressKm ⟨"Destination", toLat, toLng⟩ response) ∧
    (¬ rideOn hops →
      foldWith rounding (build geo rows) arrivals geo last.id totalMinutes egressKm fromLat fromLng
        toLat toLng = none) := by
  have spelled := recorded_back chain (build geo rows).nodes.length (recorded_short chain)
  obtain ⟨rides, walks⟩ := fold_spelled rounding totalMinutes egressKm fromLat fromLng
    toLat toLng (recorded_board chain) (recorded_linked chain) spelled (recorded_via chain)
  refine ⟨fun rode => ?_, walks⟩
  obtain ⟨response, returned, folded, _⟩ := rides rode
  exact ⟨response, returned, folded⟩

variable [FloorRing K]

/-- The legs of every chain of hops, and no plan for one that only walks. -/
theorem fold_folded (geo : GeoDistance K) (rows : List (Route K))
    (arrivals : Nat → Option (Arrival K)) (origin last : Node K) (hops : List (Hop K))
    (totalMinutes egressKm fromLat fromLng toLat toLng : K)
    (chain : RecordedChain (build geo rows) arrivals origin hops last) :
    (rideOn hops → ∃ response,
      fold geo (build geo rows) arrivals last.id totalMinutes egressKm fromLat fromLng toLat toLng =
        some response ∧
      FoldedChain (build geo rows) ⟨round1, round2⟩ ⟨"Your location", fromLat, fromLng⟩
        (geo.distanceKm fromLat fromLng origin.stop.lat origin.stop.lng * INDIRECTNESS) origin hops
        last egressKm ⟨"Destination", toLat, toLng⟩ response) ∧
    (¬ rideOn hops →
      fold geo (build geo rows) arrivals last.id totalMinutes egressKm fromLat fromLng toLat toLng =
        none) :=
  fold_recorded geo .displayed totalMinutes egressKm fromLat fromLng toLat toLng chain

end Fold

/-! ## A transfer, a ride and a transfer -/

section Corridor

def laterLine : Route ℚ := { shortLine with id := 2, routeNumber := 3 }

def corridorStop (id : Nat) (line : Route ℚ) (i : Nat) (stop : Stop ℚ) : Node ℚ :=
  ⟨id, line, i, stop, project taxicab stop.lat stop.lng (pathPoints line)⟩

def corridorStart : Node ℚ := corridorStop 2 shortLine 0 ⟨none, "Market", 0, 0⟩

def corridorLast : Node ℚ := corridorStop 3 shortLine 1 ⟨none, "Station", 1, 0⟩

def corridorHops : List (Hop ℚ) :=
  let market : Node ℚ := corridorStop 0 laterLine 0 ⟨none, "Market", 0, 0⟩
  let station : Node ℚ := corridorStop 1 laterLine 1 ⟨none, "Station", 1, 0⟩
  [⟨corridorStart, ⟨0, 5, 0, .TRANSFER⟩, market⟩, ⟨market, ⟨1, 17 / 5, 1, .RIDE⟩, station⟩,
    ⟨station, ⟨3, 5, 0, .TRANSFER⟩, corridorLast⟩]

def corridorArrivals : Nat → Option (Arrival ℚ)
  | 2 => some ⟨(5 : ℚ), none, none⟩
  | 0 => some ⟨(10 : ℚ), some 2, some ⟨0, 5, 0, .TRANSFER⟩⟩
  | 1 => some ⟨(67 / 5 : ℚ), some 0, some ⟨1, 17 / 5, 1, .RIDE⟩⟩
  | 3 => some ⟨(92 / 5 : ℚ), some 1, some ⟨3, 5, 0, .TRANSFER⟩⟩
  | _ => none

theorem corridor_recorded :
    RecordedChain (build taxicab corridor) corridorArrivals corridorStart corridorHops
      corridorLast := by
  have edges : ∀ hop ∈ corridorHops,
      hop.edge ∈ (build taxicab corridor).edges hop.previous.id ∧
        (build taxicab corridor).nodes[hop.edge.target]? = some hop.node := by decide +kernel
  simp only [corridorHops, List.forall_mem_cons] at edges
  obtain ⟨first, second, third, _⟩ := edges
  have board : corridorStart ∈ (build taxicab corridor).nodes := by decide +kernel
  have start : RecordedChain (build taxicab corridor) corridorArrivals corridorStart [] corridorStart :=
    RecordedChain.board board ⟨_, rfl⟩
  have walked := RecordedChain.hop start first.1 first.2 ⟨_, rfl⟩
  have rode := RecordedChain.hop walked second.1 second.2 ⟨_, rfl⟩
  exact RecordedChain.hop rode third.1 third.2 ⟨_, rfl⟩

theorem corridor_folded :
    ∃ response, fold taxicab (build taxicab corridor) corridorArrivals 3 (92 / 5) 0 0 0 1 0 =
        some response ∧
      FoldedChain (build taxicab corridor) ⟨round1, round2⟩ ⟨"Your location", 0, 0⟩ 0 corridorStart
        corridorHops corridorLast 0 ⟨"Destination", 1, 0⟩ response := by
  have walked : (taxicab : GeoDistance ℚ).distanceKm 0 0 corridorStart.stop.lat
      corridorStart.stop.lng * INDIRECTNESS = 0 := by decide +kernel
  have folds := (fold_folded taxicab corridor corridorArrivals corridorStart corridorLast corridorHops
    (92 / 5) 0 0 0 1 0 corridor_recorded).1 ⟨_, List.mem_cons_of_mem _ List.mem_cons_self, rfl⟩
  rwa [walked] at folds

end Corridor

end CityBus.FoldedLegs
