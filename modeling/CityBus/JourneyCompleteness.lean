import CityBus.JourneyOptimality
import CityBus.JourneyPlan

/-!
When `plan` reports "No journey found". The search keeps one cheapest chain and
`fold` drops it when it has no RIDE edge, so what decides is whether every chain
the search can keep for the chosen alighting stop rides.
-/

namespace CityBus.JourneyCompleteness

open GeoUtils JourneyGraph CheapestPaths JourneySearch JourneyOptimality JourneyPlan

variable {K : Type} [Field K] [LinearOrder K]

def boards (edges : List (Edge K)) : Prop := ∃ edge ∈ edges, edge.kind = .RIDE

/-! ## What fold returns -/

section Fold
variable {graph : Graph K} {arrivals : Nat → Option (Arrival K)}

def hasRide (legs : List (Leg K)) : Prop := ∃ leg ∈ legs, leg.mode = .RIDE

theorem add_ride_has_ride (rounding : Rounding K) (graph : Graph K) (folding : Folding K) :
    hasRide (addRideWith rounding graph folding).legs ↔
      hasRide folding.legs ∨ folding.riding ≠ [] := by
  unfold addRideWith
  cases ended : folding.riding.getLast? with
  | none => simp [List.getLast?_eq_none_iff.mp ended]
  | some rideEnd =>
      have riding : folding.riding ≠ [] := by
        intro empty
        simp [empty] at ended
      simp [hasRide, riding, rideLegWith]

omit [LinearOrder K] in
theorem add_transfer_has_ride (rounding : Rounding K) (folding : Folding K) (node : Node K)
    (edge : Edge K) :
    hasRide (addTransferWith rounding folding node edge).legs ↔ hasRide folding.legs := by
  simp [addTransferWith, hasRide, walkLegWith, or_and_right, exists_or]

theorem fold_hop_rides (rounding : Rounding K) (graph : Graph K) (lastHop : Bool)
    (folding : Folding K) {node : Node K} {edge : Edge K}
    (via : (arrivals node.id).bind (·.viaEdge) = some edge) :
    (hasRide (foldHopWith rounding graph arrivals lastHop folding node).legs ∨
        (foldHopWith rounding graph arrivals lastHop folding node).riding ≠ [] ↔
      hasRide folding.legs ∨ folding.riding ≠ [] ∨ edge.kind = .RIDE) ∧
    (lastHop = true → (foldHopWith rounding graph arrivals lastHop folding node).riding ≠ [] →
      hasRide (foldHopWith rounding graph arrivals lastHop folding node).legs) := by
  unfold foldHopWith
  rw [via]
  cases kind : edge.kind with
  | TRANSFER =>
      have after := add_transfer_has_ride rounding (addRideWith rounding graph folding) node edge
      rw [add_ride_has_ride] at after
      simp only [kind]
      refine ⟨?_, fun _ riding => absurd rfl riding⟩
      rw [after]
      simp [addTransferWith]
  | RIDE =>
      cases lastHop with
      | false => simp [kind]
      | true =>
          have after := add_ride_has_ride rounding graph
            { folding with riding := folding.riding ++ [node] }
          simp only [kind, if_true, after]
          simp

theorem fold_hops_rides (rounding : Rounding K) (folding : Folding K) {rest : List (Node K)}
    {edges : List (Edge K)}
    (via : List.Forall₂ (fun node edge => (arrivals node.id).bind (·.viaEdge) = some edge)
      rest edges) (hops : rest ≠ []) :
    hasRide (foldHopsWith rounding graph arrivals folding rest).legs ↔
      hasRide folding.legs ∨ folding.riding ≠ [] ∨ boards edges := by
  induction via generalizing folding with
  | nil => exact absurd rfl hops
  | @cons node edge rest edges head tail ih =>
      cases tail with
      | nil =>
          obtain ⟨left, flushed⟩ := fold_hop_rides rounding graph true folding head
          simp only [foldHopsWith, boards, List.mem_singleton, exists_eq_left]
          rw [← left]
          exact ⟨Or.inl, fun found => found.elim id (flushed rfl)⟩
      | cons headNext tailNext =>
          have left := (fold_hop_rides rounding graph false folding head).1
          rw [foldHopsWith, ih _ (by simp), ← or_assoc, left]
          simp only [boards, List.mem_cons, exists_eq_or_imp, or_assoc]

omit [Field K] [LinearOrder K] in
theorem chain_nodes (origin : Node K) (edges : List (Edge K)) (board : origin ∈ graph.nodes)
    (inside : ∀ edge ∈ edges, edge.target < graph.nodes.length)
    (recorded : ∀ edge ∈ edges, (arrivals edge.target).bind (·.viaEdge) = some edge) :
    ∃ rest, (origin.id :: edges.map Edge.target).filterMap (graph.nodes[·]?) = origin :: rest ∧
      List.Forall₂ (fun node edge => (arrivals node.id).bind (·.viaEdge) = some edge)
        rest edges := by
  rw [List.filterMap_cons, graph_node graph board]
  refine ⟨_, rfl, ?_⟩
  induction edges with
  | nil => exact List.Forall₂.nil
  | cons edge rest ih =>
      have found := List.getElem?_eq_getElem (inside edge List.mem_cons_self)
      have via := recorded edge List.mem_cons_self
      rw [← graph.ids _ _ found] at via
      rw [List.map_cons, List.filterMap_cons, found]
      exact List.Forall₂.cons via
        (ih (fun other member => inside other (List.mem_cons_of_mem edge member))
          (fun other member => recorded other (List.mem_cons_of_mem edge member)))

variable (geo : GeoDistance K) {candidates : List (Node K)} {boardCost : Node K → K}
variable {finished : Search K} {origin last : Node K} {edges : List (Edge K)}

variable [FloorRing K]

/-- `fold` drops the journey exactly when the chain has no RIDE edge. -/
theorem fold_none_iff (totalMinutes egressKm fromLat fromLng toLat toLng : K)
    (spelled : SpelledChain graph candidates boardCost finished graph.nodes.length last.id
      origin edges) (board : origin ∈ graph.nodes) (alights : last ∈ graph.nodes) :
    fold geo graph finished.arrivals last.id totalMinutes egressKm fromLat fromLng toLat toLng =
      none ↔ ¬ boards edges := by
  have inside : ∀ edge ∈ edges, edge.target < graph.nodes.length := by
    intro edge member
    obtain ⟨u, leaves⟩ := path_edge spelled.path edge member
    exact edge_target graph u edge leaves
  obtain ⟨rest, looked, via⟩ := chain_nodes origin edges board inside spelled.recorded
  have folded : ∀ access : Leg K, access.mode = .WALK → ∀ km : K,
      (hasRide (foldHopsWith .displayed graph finished.arrivals ⟨[access], origin, [], 0, km⟩ rest).legs ↔
        boards edges) := by
    intro access walk km
    cases via with
    | nil => simp [foldHopsWith, hasRide, boards, walk]
    | cons head tail =>
        rw [fold_hops_rides _ _ (List.Forall₂.cons head tail) (by simp)]
        simp [hasRide, walk]
  have walks : ∀ legs : List (Leg K), legs.all (fun leg => !isRide leg) = true ↔ ¬ hasRide legs := by
    simp [hasRide, isRide]
  unfold fold foldWith
  simp only [spelled.nodes, looked, graph_node graph alights]
  rw [← folded (walkLegWith .displayed "Your location" origin.stop.name
    (nodeDistance geo fromLat fromLng origin * INDIRECTNESS)
    [(fromLat, fromLng), (origin.stop.lat, origin.stop.lng)]) rfl
    (nodeDistance geo fromLat fromLng origin * INDIRECTNESS)]
  split
  · rename_i none
    rw [walks] at none
    refine ⟨fun _ => fun found => none ?_, fun _ => rfl⟩
    obtain ⟨leg, member, ride⟩ := found
    exact ⟨leg, List.mem_append_left _ member, ride⟩
  · rename_i some
    rw [walks, not_not] at some
    obtain ⟨leg, member, ride⟩ := some
    refine ⟨fun absent => by simp at absent, fun absent => absurd ⟨leg, ?_, ride⟩ absent⟩
    rcases List.mem_append.mp member with front | egress
    · exact front
    · rw [List.mem_singleton.mp egress] at ride
      simp [walkLegWith] at ride

end Fold

/-! ## Earliest chains -/

section Earliest
variable {graph : Graph K} {candidates : List (Node K)} {boardCost : Node K → K}
variable {rank : Nat → Nat}

def through (origin : Nat) (edges : List (Edge K)) : List Nat :=
  origin :: edges.map Edge.target

omit [Field K] [LinearOrder K] in
theorem mem_through_concat {origin w : Nat} {edges : List (Edge K)} {edge : Edge K} :
    w ∈ through origin (edges ++ [edge]) ↔ w ∈ through origin edges ∨ w = edge.target := by
  simp [through, or_assoc]

theorem earliest_ends {origin v : Nat} {edges : List (Edge K)} {total : K}
    (chain : EarliestChain graph candidates boardCost rank origin edges v total) :
    v ∈ through origin edges := by
  cases chain with
  | board => exact List.mem_cons_self
  | hop => exact mem_through_concat.mpr (Or.inr rfl)

variable [IsStrictOrderedRing K]

theorem earliest_nearer (positive : ∀ u, ∀ edge ∈ graph.edges u, 0 < edge.minutes)
    {origin v : Nat} {edges : List (Edge K)} {total : K}
    (chain : EarliestChain graph candidates boardCost rank origin edges v total) :
    ∀ w ∈ through origin edges, ∀ near,
      IsLeast (chains graph candidates boardCost w) near → w = v ∨ near < total := by
  induction chain with
  | board => simp [through]
  | @hop origin u edges edge total front leaves _ _ _ ih =>
      intro w member near nearest
      rcases mem_through_concat.mp member with early | last
      · right
        have step := positive u edge leaves
        rcases ih w early near nearest with rfl | less
        · have same := nearest.unique (earliest_cheapest front)
          linarith
        · linarith
      · exact Or.inl last

theorem earliest_alone (positive : ∀ u, ∀ edge ∈ graph.edges u, 0 < edge.minutes)
    {origin v : Nat} {edges : List (Edge K)} {total : K}
    (chain : EarliestChain graph candidates boardCost rank origin edges v total) :
    ∀ w ∈ through origin edges, ∀ x ∈ through origin edges, ∀ near,
      IsLeast (chains graph candidates boardCost w) near →
      IsLeast (chains graph candidates boardCost x) near → w = x := by
  induction chain with
  | board => simp [through]
  | @hop origin u edges edge total front leaves cheapest entries earliest ih =>
      have whole := EarliestChain.hop front leaves cheapest entries earliest
      have last : ∀ w ∈ through origin edges, ∀ near,
          IsLeast (chains graph candidates boardCost w) near →
          IsLeast (chains graph candidates boardCost edge.target) near → w = edge.target := by
        intro w member near nearW nearLast
        rcases earliest_nearer positive whole w (mem_through_concat.mpr (Or.inl member)) near
          nearW with same | less
        · exact same
        · exact absurd (nearLast.unique cheapest) (ne_of_lt less)
      intro w memberW x memberX near nearW nearX
      rcases mem_through_concat.mp memberW with earlyW | rfl <;>
        rcases mem_through_concat.mp memberX with earlyX | rfl
      · exact ih w earlyW x earlyX near nearW nearX
      · exact last w earlyW near nearW nearX
      · exact (last x earlyX near nearX nearW).symm
      · rfl

/-- A queue that prefers the nodes of a chain, which have different costs, can
only spell this chain. -/
theorem earliest_unique {origin other v : Nat} {edges spelled : List (Edge K)} {total cost : K}
    (single : ∀ u, ∀ left ∈ graph.edges u, ∀ right ∈ graph.edges u,
      left.target = right.target → left = right)
    (alone : ∀ w x near, rank w = 0 → rank x = 0 →
      IsLeast (chains graph candidates boardCost w) near →
      IsLeast (chains graph candidates boardCost x) near → w = x)
    (chain : EarliestChain graph candidates boardCost (fun _ => 0) origin edges v total)
    (preferred : ∀ w ∈ through origin edges, rank w = 0)
    (served : EarliestChain graph candidates boardCost rank other spelled v cost) :
    spelled = edges := by
  induction chain generalizing other spelled cost with
  | @board node member cheapest =>
      generalize atNode : node.id = v at served
      cases served with
      | board => rfl
      | hop _ _ cheapest' entries _ =>
          rw [← atNode] at cheapest' entries
          have above := entries _ ⟨node, member, rfl, rfl⟩
          exact absurd (cheapest'.unique cheapest) (ne_of_lt above)
  | @hop origin u edges edge total front leaves cheapest entries earliest ih =>
      generalize atTarget : edge.target = v at served
      cases served with
      | @board node member cheapest' =>
          have above := entries _ ⟨node, member, atTarget.symm, rfl⟩
          rw [atTarget] at cheapest
          exact absurd (cheapest.unique cheapest') (ne_of_lt above)
      | @hop _ u' spelled edge' total' front' leaves' cheapest' entries' earliest' =>
          have early : ∀ w ∈ through origin edges, rank w = 0 := fun w member =>
            preferred w (mem_through_concat.mpr (Or.inl member))
          have preferredU : rank u = 0 := early u (earliest_ends front)
          have nearU := earliest_cheapest front
          have nearU' := earliest_cheapest front'
          rw [atTarget] at cheapest
          have same : total' + edge'.minutes = total + edge.minutes := cheapest'.unique cheapest
          -- Either predecessor beats every hop from before its turn, so they tie.
          have notNearer : total ≤ total' := by
            by_contra less
            have above := earliest u' total' nearU'
              (Prod.Lex.toLex_lt_toLex.mpr (Or.inl (WithTop.coe_lt_coe.mpr (not_le.mp less))))
              edge' leaves' atTarget.symm
            linarith
          have notLater : turn rank (total' : WithTop K) u' ≤ turn rank (total : WithTop K) u := by
            by_contra later
            have above := earliest' u total nearU (not_le.mp later) edge leaves atTarget
            linarith
          have tie : total' = total ∧ rank u' ≤ rank u := by
            rcases Prod.Lex.toLex_le_toLex.mp notLater with less | ⟨equal, below⟩
            · exact absurd (WithTop.coe_lt_coe.mp less) (not_lt.mpr notNearer)
            · exact ⟨WithTop.coe_inj.mp equal, below⟩
          have sameNode : u' = u := by
            refine alone u' u total ?_ preferredU ?_ nearU
            · omega
            · rw [← tie.1]
              exact nearU'
          subst sameNode
          rw [single u' edge' leaves' edge leaves atTarget.symm,
            ih early front']

end Earliest

/-! ## plan -/

section Plan
variable (geo : GeoDistance K) (graph : Graph K) (fromLat fromLng toLat toLng : K)

/-- A bus takes a rider from a stop near the origin to one near the destination. -/
def busJourney : Prop :=
  ∃ origin ∈ accessCandidates geo graph fromLat fromLng,
    ∃ last ∈ accessCandidates geo graph toLat toLng,
      ∃ edges, Path graph.edges Edge.target origin.id edges last.id ∧ boards edges

/-- The first of the stops near the destination with the least total, `cost`
being the cheapest cost of reaching the stop. -/
structure AlightingStop (last : Node K) (cost : K) : Prop where
  cheapest : IsLeast (originChains geo graph fromLat fromLng last.id) cost
  first : ∃ before after, accessCandidates geo graph toLat toLng = before ++ last :: after ∧
    (∀ other ∈ before, ∀ near, IsLeast (originChains geo graph fromLat fromLng other.id) near →
      cost + egressMinutes geo toLat toLng last < near + egressMinutes geo toLat toLng other) ∧
    ∀ other ∈ after, ∀ near, IsLeast (originChains geo graph fromLat fromLng other.id) near →
      cost + egressMinutes geo toLat toLng last ≤ near + egressMinutes geo toLat toLng other

/-- The chains to `last` that some queue order makes the search keep. -/
def keptChain (origin : Nat) (edges : List (Edge K)) (last : Node K) (cost : K) : Prop :=
  EarliestChain graph (accessCandidates geo graph fromLat fromLng)
    (boardMinutes geo fromLat fromLng) (fun _ => 0) origin edges last.id cost

theorem alighting_unique {last other : Node K} {cost near : K}
    (stop : AlightingStop geo graph fromLat fromLng toLat toLng last cost)
    (stop' : AlightingStop geo graph fromLat fromLng toLat toLng other near) : last = other := by
  obtain ⟨before, after, split, above, notBelow⟩ := stop.first
  obtain ⟨before', after', split', above', notBelow'⟩ := stop'.first
  rcases List.append_eq_append_iff.mp (split.symm.trans split') with
    ⟨between, rfl, rest⟩ | ⟨between, rfl, rest⟩
  · cases between with
    | nil => exact (List.cons.inj rest).1
    | cons head between =>
        obtain ⟨rfl, rfl⟩ := List.cons.inj rest
        have strict := above' last (by simp) cost stop.cheapest
        have weak := notBelow other (by simp) near stop'.cheapest
        exact absurd strict (not_lt.mpr weak)
  · cases between with
    | nil => exact (List.cons.inj rest).1.symm
    | cons head between =>
        obtain ⟨rfl, rfl⟩ := List.cons.inj rest
        have strict := above other (by simp) near stop'.cheapest
        have weak := notBelow' last (by simp) cost stop.cheapest
        exact absurd strict (not_lt.mpr weak)

theorem only_alighting {only last : Node K} {cost : K}
    (alighting : accessCandidates geo graph toLat toLng = [only])
    (stop : AlightingStop geo graph fromLat fromLng toLat toLng last cost) : last = only := by
  obtain ⟨before, after, split, _⟩ := stop.first
  rw [alighting] at split
  have member : last ∈ [only] := by simp [split]
  exact List.mem_singleton.mp member

theorem first_least_stop {finished : Search K} {best : Alighting K} {node : Node K} {cost : K}
    (least : ∀ v total, finished.dist v = (total : K) ↔
      IsLeast (originChains geo graph fromLat fromLng v) total)
    (first : FirstLeast geo toLat toLng finished.dist (accessCandidates geo graph toLat toLng)
      best node) (value : finished.dist node.id = cost) :
    AlightingStop geo graph fromLat fromLng toLat toLng node cost := by
  obtain ⟨before, after, split, above, notBelow⟩ := first.split
  refine ⟨(least _ _).mp value, before, after, split, ?_, ?_⟩
  · intro other member near nearest
    have bound := above other member
    rwa [alightTotal, alightTotal, value, (least _ _).mpr nearest, ← WithTop.coe_add,
      ← WithTop.coe_add, WithTop.coe_lt_coe] at bound
  · intro other member near nearest
    have bound := notBelow other member
    rwa [alightTotal, alightTotal, value, (least _ _).mpr nearest, ← WithTop.coe_add,
      ← WithTop.coe_add, WithTop.coe_le_coe] at bound

variable [FloorRing K]

/-- "No journey found" is thrown only where there is neither a short walk nor a
bus journey, in whatever order the queue serves equal distances. -/
def planComplete : Prop :=
  ∀ (order : QueueOrder K) (message : String),
    plan geo graph order fromLat fromLng toLat toLng =
      .error (.ResourceNotFoundException message) →
    MAX_WALK_ONLY_KM < directWalkKm geo fromLat fromLng toLat toLng ∧
      ¬ busJourney geo graph fromLat fromLng toLat toLng

theorem transit_of_no_nodes (order : QueueOrder K) (empty : graph.nodes = []) :
    planTransit geo graph order fromLat fromLng toLat toLng = none := by
  simp [planTransit, planTransitWith, alightBest, accessCandidates, empty]

theorem transit_tested (order : QueueOrder K) :
    (if graph.nodes = [] then none
      else planTransit geo graph order fromLat fromLng toLat toLng) =
        planTransit geo graph order fromLat fromLng toLat toLng := by
  split
  · rename_i empty
    exact (transit_of_no_nodes geo graph fromLat fromLng toLat toLng order empty).symm
  · rfl

variable [IsStrictOrderedRing K]

omit [FloorRing K] in
theorem transit_chain {order : QueueOrder K} {rank : Nat → Nat} (ranked : Ranked rank order)
    (positive : ∀ u, ∀ edge ∈ graph.edges u, 0 < edge.minutes) :
    (alightBest geo graph toLat toLng (search geo graph order fromLat fromLng).dist = ⟨none, ⊤, 0⟩ ∧
        ∀ node ∈ accessCandidates geo graph toLat toLng,
          originChains geo graph fromLat fromLng node.id = ∅) ∨
      ∃ last cost origin edges, AlightingStop geo graph fromLat fromLng toLat toLng last cost ∧
        EarliestChain graph (accessCandidates geo graph fromLat fromLng)
          (boardMinutes geo fromLat fromLng) rank origin.id edges last.id cost ∧
        SpelledChain graph (accessCandidates geo graph fromLat fromLng)
          (boardMinutes geo fromLat fromLng) (search geo graph order fromLat fromLng)
          graph.nodes.length last.id origin edges ∧
        last ∈ graph.nodes ∧ origin ∈ graph.nodes ∧
        cost = boardMinutes geo fromLat fromLng origin + pathCost Edge.minutes edges ∧
        alightBest geo graph toLat toLng (search geo graph order fromLat fromLng).dist =
          ⟨some last.id, (cost + egressMinutes geo toLat toLng last : K),
            nodeDistance geo toLat toLng last * INDIRECTNESS⟩ := by
  have sound := search_sound ranked positive geo fromLat fromLng
  have ended := search_ends graph geo order fromLat fromLng
  have least := dist_iff_least sound ended
  rcases alight_all_cases geo toLat toLng (search geo graph order fromLat fromLng).dist
    (accessCandidates geo graph toLat toLng) with ⟨none, unreached⟩ | ⟨last, first⟩
  · left
    refine ⟨none, fun node member => ?_⟩
    exact (sound_least sound ended node.id).1.mp (unreached node member)
  · right
    obtain ⟨before, after, split, _, _⟩ := first.split
    have chosen : last ∈ accessCandidates geo graph toLat toLng := by simp [split]
    have alights : last ∈ graph.nodes := access_candidate_mem geo graph chosen
    obtain ⟨origin, edges, cost, spelled, earliest⟩ := chain_spelled positive sound ended
      graph.nodes.length last.id first.finite (nearer_lt_count (node_id_lt graph.ids alights))
    have board : origin ∈ graph.nodes := access_candidate_mem geo graph spelled.boards
    have value := (least last.id cost).mpr (earliest_cheapest earliest)
    refine ⟨last, cost, origin, edges,
      first_least_stop geo graph fromLat fromLng toLat toLng least first value, earliest, spelled,
      alights, board, WithTop.coe_inj.mp (value.symm.trans spelled.cost), ?_⟩
    rw [alightBest, first.chosen, alightTotal, value, WithTop.coe_add]

theorem transit_cases {order : QueueOrder K} {rank : Nat → Nat} (ranked : Ranked rank order)
    (positive : ∀ u, ∀ edge ∈ graph.edges u, 0 < edge.minutes) :
    (planTransit geo graph order fromLat fromLng toLat toLng = none ∧
        ∀ node ∈ accessCandidates geo graph toLat toLng,
          originChains geo graph fromLat fromLng node.id = ∅) ∨
      ∃ last cost origin edges, AlightingStop geo graph fromLat fromLng toLat toLng last cost ∧
        EarliestChain graph (accessCandidates geo graph fromLat fromLng)
          (boardMinutes geo fromLat fromLng) rank origin edges last.id cost ∧
        (planTransit geo graph order fromLat fromLng toLat toLng = none ↔ ¬ boards edges) := by
  rcases transit_chain geo graph fromLat fromLng toLat toLng ranked positive with
    ⟨none, unreached⟩ | ⟨last, cost, origin, edges, stop, earliest, spelled, alights, board, _, chosen⟩
  · exact Or.inl ⟨by simp [planTransit, planTransitWith, none], unreached⟩
  · refine Or.inr ⟨last, cost, origin.id, edges, stop, earliest, ?_⟩
    rw [← fold_none_iff geo (cost + egressMinutes geo toLat toLng last)
      (nodeDistance geo toLat toLng last * INDIRECTNESS) fromLat fromLng toLat toLng spelled board
      alights]
    simp only [planTransit, planTransitWith, chosen, WithTop.untopD_coe, fold]

theorem plan_not_found_iff (order : QueueOrder K) (message : String)
    (valid : validEnds fromLat fromLng toLat toLng = true) :
    plan geo graph order fromLat fromLng toLat toLng =
        .error (.ResourceNotFoundException message) ↔
      .ResourceNotFoundException message = noJourney ∧
        MAX_WALK_ONLY_KM < directWalkKm geo fromLat fromLng toLat toLng ∧
        planTransit geo graph order fromLat fromLng toLat toLng = none := by
  unfold plan
  simp only [valid, not_true_eq_false, if_false, transit_tested]
  split
  · rename_i near
    have short : ¬ MAX_WALK_ONLY_KM < directWalkKm geo fromLat fromLng toLat toLng := by
      norm_num [MAX_WALK_ONLY_KM] at near ⊢
      linarith
    simp [short]
  · cases planTransit geo graph order fromLat fromLng toLat toLng with
    | none =>
        by_cases walk : directWalkKm geo fromLat fromLng toLat toLng ≤ MAX_WALK_ONLY_KM
        · simp [walk, not_lt.mpr walk]
        · simp [walk, not_le.mp walk, eq_comm]
    | some response =>
        dsimp only
        split <;> simp

omit [FloorRing K] [IsStrictOrderedRing K] in
theorem bus_journey_reaches (journey : busJourney geo graph fromLat fromLng toLat toLng) :
    ∃ node ∈ accessCandidates geo graph toLat toLng,
      originChains geo graph fromLat fromLng node.id ≠ ∅ := by
  obtain ⟨origin, board, last, alight, edges, path, _⟩ := journey
  refine ⟨last, alight, fun empty => ?_⟩
  have chain : boardMinutes geo fromLat fromLng origin + pathCost Edge.minutes edges ∈
      originChains geo graph fromLat fromLng last.id :=
    ⟨origin.id, _, edges, ⟨origin, board, rfl, rfl⟩, path, rfl⟩
  rw [empty] at chain
  exact chain

omit [FloorRing K] in
theorem only_boarding_ge {only : Node K} {v : Nat} {total : K}
    (boarding : accessCandidates geo graph fromLat fromLng = [only])
    (positive : ∀ u, ∀ edge ∈ graph.edges u, 0 < edge.minutes)
    (reached : total ∈ originChains geo graph fromLat fromLng v) :
    boardMinutes geo fromLat fromLng only ≤ total := by
  refine chain_cost_ge (fun u edge leaves => le_of_lt (positive u edge leaves)) ?_ reached
  rintro v start ⟨node, member, rfl, rfl⟩
  rw [boarding, List.mem_singleton] at member
  rw [member]

omit [FloorRing K] in
/-- A queue that prefers the nodes of a kept chain makes the search keep it. -/
theorem kept_chain_served {origin : Nat} {edges : List (Edge K)} {last : Node K} {cost : K}
    (positive : ∀ u, ∀ edge ∈ graph.edges u, 0 < edge.minutes)
    (single : ∀ u, ∀ left ∈ graph.edges u, ∀ right ∈ graph.edges u,
      left.target = right.target → left = right)
    (stop : AlightingStop geo graph fromLat fromLng toLat toLng last cost)
    (kept : keptChain geo graph fromLat fromLng origin edges last cost) :
    ∃ (rank : Nat → Nat) (order : QueueOrder K), Ranked rank order ∧ ∀ other near start spelled,
      AlightingStop geo graph fromLat fromLng toLat toLng other near →
      EarliestChain graph (accessCandidates geo graph fromLat fromLng)
        (boardMinutes geo fromLat fromLng) rank start spelled other.id near →
      spelled = edges := by
  let rank : Nat → Nat := fun w => if w ∈ through origin edges then 0 else 1
  have preferred : ∀ w, rank w = 0 ↔ w ∈ through origin edges := by simp [rank]
  refine ⟨rank, servingBy rank, serving_ranked rank, ?_⟩
  intro other near start spelled stop' served
  have same := alighting_unique geo graph fromLat fromLng toLat toLng stop stop'
  subst same
  have alone := earliest_alone positive kept
  exact earliest_unique single
    (fun w x near prefW prefX => alone w ((preferred w).mp prefW) x ((preferred x).mp prefX) near)
    kept (fun w member => (preferred w).mpr member) served

theorem kept_chain_drops {origin : Nat} {edges : List (Edge K)} {last : Node K} {cost : K}
    (positive : ∀ u, ∀ edge ∈ graph.edges u, 0 < edge.minutes)
    (single : ∀ u, ∀ left ∈ graph.edges u, ∀ right ∈ graph.edges u,
      left.target = right.target → left = right)
    (stop : AlightingStop geo graph fromLat fromLng toLat toLng last cost)
    (kept : keptChain geo graph fromLat fromLng origin edges last cost)
    (walks : ¬ boards edges) :
    ∃ order, planTransit geo graph order fromLat fromLng toLat toLng = none := by
  obtain ⟨rank, order, ranked, unique⟩ :=
    kept_chain_served geo graph fromLat fromLng toLat toLng positive single stop kept
  refine ⟨order, ?_⟩
  rcases transit_cases geo graph fromLat fromLng toLat toLng ranked positive with
    ⟨none, _⟩ | ⟨other, near, start, spelled, stop', served, dropped⟩
  · exact none
  · rw [dropped, unique other near start spelled stop' served]
    exact walks

/-- `plan` is complete between two endpoints exactly when they are within
walking distance, no bus journey joins them, or every chain that the search can
keep for the alighting stop has a RIDE edge. -/
theorem plan_complete_iff (rows : List (Route K))
    (valid : validEnds fromLat fromLng toLat toLng = true) :
    planComplete geo (build geo rows) fromLat fromLng toLat toLng ↔
      directWalkKm geo fromLat fromLng toLat toLng ≤ MAX_WALK_ONLY_KM ∨
      ¬ busJourney geo (build geo rows) fromLat fromLng toLat toLng ∨
      ∀ last cost origin edges,
        AlightingStop geo (build geo rows) fromLat fromLng toLat toLng last cost →
        keptChain geo (build geo rows) fromLat fromLng origin edges last cost → boards edges := by
  have positive : ∀ u, ∀ edge ∈ (build geo rows).edges u, 0 < edge.minutes :=
    fun _ _ leaves => build_minutes_pos geo rows leaves
  have single : ∀ u, ∀ left ∈ (build geo rows).edges u, ∀ right ∈ (build geo rows).edges u,
      left.target = right.target → left = right :=
    fun _ _ leavesLeft _ leavesRight ends => build_edge_unique geo rows leavesLeft leavesRight ends
  constructor
  · intro complete
    by_cases near : directWalkKm geo fromLat fromLng toLat toLng ≤ MAX_WALK_ONLY_KM
    · exact Or.inl near
    · refine Or.inr (Classical.or_iff_not_imp_left.mpr fun journey => ?_)
      intro last cost origin edges stop kept
      by_contra walks
      obtain ⟨order, none⟩ := kept_chain_drops geo (build geo rows) fromLat fromLng toLat toLng
        positive single stop kept walks
      have thrown := (plan_not_found_iff geo (build geo rows) fromLat fromLng toLat toLng order
        _ valid).mpr ⟨rfl, not_le.mp near, none⟩
      exact journey (complete order _ thrown).2
  · intro condition order message thrown
    obtain ⟨_, far, none⟩ := (plan_not_found_iff geo (build geo rows) fromLat fromLng toLat toLng
      order message valid).mp thrown
    refine ⟨far, fun journey => ?_⟩
    rcases condition with near | absent | rides
    · exact absurd far (not_lt.mpr near)
    · exact absent journey
    · rcases transit_cases geo (build geo rows) fromLat fromLng toLat toLng
        (order_unranked order) positive with
        ⟨_, unreached⟩ | ⟨last, cost, origin, edges, stop, earliest, dropped⟩
      · obtain ⟨node, alight, reached⟩ :=
          bus_journey_reaches geo (build geo rows) fromLat fromLng toLat toLng journey
        exact reached (unreached node alight)
      · exact dropped.mp none (rides last cost origin edges stop earliest)

end Plan

/-! ## A stop reached on foot from both ends

The line runs along a meridian. Its first stop is halfway between the endpoints
and its second as far behind the destination, so alighting where one boarded is
cheapest, and the walk is too long. -/

section Ridge
open Real

noncomputable def eightieths (n : Nat) : ℝ := n / (80 : Nat)

noncomputable def ridgeLine : Route ℝ :=
  lineAlong [⟨eightieths 1, 0⟩, ⟨eightieths 3, 0⟩]
    [⟨none, "Lower", eightieths 1, 0⟩, ⟨none, "Upper", eightieths 3, 0⟩]

theorem meridian_km (lat1 lat2 : ℝ) (near : |lat2 - lat1| ≤ 180) :
    haversine.distanceKm lat1 0 lat2 0 = 6371 * π / 180 * |lat2 - lat1| := by
  have exact : haversine.distanceKm lat1 0 lat2 0 = EARTH_RADIUS_KM * |toRadians (lat2 - lat1)| :=
    distance_meridian lat1 lat2 0 near
  rw [exact, toRadians, abs_mul, abs_of_pos (by positivity : (0 : ℝ) < π / 180), EARTH_RADIUS_KM]
  ring

noncomputable def ridge : Graph ℝ := build haversine [ridgeLine]

noncomputable def lower : Node ℝ :=
  ⟨0, ridgeLine, 0, ⟨none, "Lower", eightieths 1, 0⟩,
    project haversine (eightieths 1) 0 [(eightieths 1, 0), (eightieths 3, 0)]⟩

noncomputable def upper : Node ℝ :=
  ⟨1, ridgeLine, 1, ⟨none, "Upper", eightieths 3, 0⟩,
    project haversine (eightieths 3) 0 [(eightieths 1, 0), (eightieths 3, 0)]⟩

theorem ridge_nodes : ridge.nodes = [lower, upper] := by
  simp [ridge, build, servedRoutes, findAllByOrderByRouteNumberAsc, layNodes, stopNodes, ridgeLine,
    lineAlong, lower, upper, pathPoints]

theorem ridge_distances :
    nodeDistance haversine 0 0 lower ≤ MAX_ACCESS_WALK_KM ∧
    MAX_ACCESS_WALK_KM < nodeDistance haversine 0 0 upper ∧
    nodeDistance haversine (eightieths 2) 0 lower ≤ MAX_ACCESS_WALK_KM ∧
    nodeDistance haversine (eightieths 2) 0 lower = nodeDistance haversine (eightieths 2) 0 upper ∧
    MAX_WALK_ONLY_KM < directWalkKm haversine 0 0 (eightieths 2) 0 := by
  have above := pi_gt_three
  have below := pi_lt_d2
  simp only [nodeDistance, directWalkKm, lower, upper, MAX_ACCESS_WALK_KM, MAX_WALK_ONLY_KM,
    INDIRECTNESS]
  rw [meridian_km 0 (eightieths 1) (by norm_num [eightieths]),
    meridian_km 0 (eightieths 3) (by norm_num [eightieths]),
    meridian_km (eightieths 2) (eightieths 1) (by norm_num [eightieths]),
    meridian_km (eightieths 2) (eightieths 3) (by norm_num [eightieths]),
    meridian_km 0 (eightieths 2) (by norm_num [eightieths])]
  norm_num [eightieths]
  refine ⟨by linarith, by linarith, by linarith, by linarith⟩

theorem ridge_boarding : accessCandidates haversine ridge 0 0 = [lower] := by
  obtain ⟨nearLower, farUpper, _⟩ := ridge_distances
  simp [accessCandidates, ridge_nodes, nearLower, not_le.mpr farUpper, MAX_ACCESS_CANDIDATES]

theorem ridge_alighting : accessCandidates haversine ridge (eightieths 2) 0 = [lower, upper] := by
  obtain ⟨_, _, nearLower, same, _⟩ := ridge_distances
  have nearUpper := nearLower
  rw [same] at nearUpper
  simp [accessCandidates, ridge_nodes, nearUpper, same, MAX_ACCESS_CANDIDATES]

theorem ridge_ride : ∃ edge ∈ ridge.edges 0, edge.target = 1 ∧ edge.kind = .RIDE := by
  refine ⟨⟨1, rideKm haversine lower upper / BUS_SPEED_KMH * 60 + DWELL_MINUTES_PER_STOP,
    rideKm haversine lower upper, .RIDE⟩, ?_, rfl, rfl⟩
  rw [ridge, build_edge_iff, ← ridge, ridge_nodes]
  simp [hops, rideHops, lower, upper, ridgeLine, lineAlong]

theorem ridge_journey : busJourney haversine ridge 0 0 (eightieths 2) 0 := by
  obtain ⟨edge, leaves, ends, ride⟩ := ridge_ride
  refine ⟨lower, ?_, upper, ?_, [edge], ?_, edge, List.mem_singleton_self edge, ride⟩
  · simp [ridge_boarding]
  · rw [ridge_alighting]
    simp
  · refine Path.cons leaves ?_
    rw [ends]
    exact Path.nil 1

theorem ridge_minutes_pos (u : Nat) (edge : Edge ℝ) (leaves : edge ∈ ridge.edges u) :
    0 < edge.minutes :=
  build_minutes_pos haversine [ridgeLine] leaves

theorem ridge_chain_ge {v : Nat} {total : ℝ} (reached : total ∈ originChains haversine ridge 0 0 v) :
    boardMinutes haversine 0 0 lower ≤ total :=
  only_boarding_ge haversine ridge 0 0 ridge_boarding ridge_minutes_pos reached

theorem ridge_cheapest : IsLeast (originChains haversine ridge 0 0 lower.id)
    (boardMinutes haversine 0 0 lower) := by
  refine ⟨entry_chain_cost ⟨lower, ?_, rfl, rfl⟩, fun _ reached => ridge_chain_ge reached⟩
  simp [ridge_boarding]

theorem ridge_alighting_stop : AlightingStop haversine ridge 0 0 (eightieths 2) 0 lower
    (boardMinutes haversine 0 0 lower) := by
  refine ⟨ridge_cheapest, [], [upper], ridge_alighting, by simp, ?_⟩
  intro other member near nearest
  have same : egressMinutes haversine (eightieths 2) 0 lower =
      egressMinutes haversine (eightieths 2) 0 upper := by
    rw [egressMinutes, egressMinutes, ridge_distances.2.2.2.1]
  rw [List.mem_singleton.mp member, same]
  exact add_le_add_left (ridge_chain_ge nearest.1) _

theorem ridge_ends_valid : validEnds (0 : ℝ) 0 (eightieths 2) 0 = true := by
  simp only [validEnds, isValidLatitude, isValidLongitude, Bool.and_eq_true, decide_eq_true_eq]
  norm_num [eightieths]

theorem ridge_complete_iff : planComplete haversine (build haversine [ridgeLine]) 0 0 (eightieths 2) 0 ↔
    directWalkKm haversine 0 0 (eightieths 2) 0 ≤ MAX_WALK_ONLY_KM ∨
    ¬ busJourney haversine (build haversine [ridgeLine]) 0 0 (eightieths 2) 0 ∨
    ∀ last cost origin edges,
      AlightingStop haversine (build haversine [ridgeLine]) 0 0 (eightieths 2) 0 last cost →
      keptChain haversine (build haversine [ridgeLine]) 0 0 origin edges last cost →
      boards edges :=
  plan_complete_iff haversine 0 0 (eightieths 2) 0 [ridgeLine] ridge_ends_valid

-- A chain to the lower stop is the boarding alone: nothing returns there for less.
theorem ridge_kept_boards_not {rank : Nat → Nat} {origin : Nat} {edges : List (Edge ℝ)} {cost : ℝ}
    (kept : EarliestChain ridge (accessCandidates haversine ridge 0 0)
      (boardMinutes haversine 0 0) rank origin edges lower.id cost) : ¬ boards edges := by
  generalize atLower : lower.id = v at kept
  cases kept with
  | board => simp [boards]
  | hop _ _ cheapest entries _ =>
      rw [← atLower] at cheapest entries
      have above := entries _ ⟨lower, by simp [ridge_boarding], rfl, rfl⟩
      exact absurd (cheapest.unique ridge_cheapest) (ne_of_lt above)

/-- The line joins the two endpoints, but the planner reports no journey. -/
theorem ridge_journey_not_found :
    busJourney haversine ridge 0 0 (eightieths 2) 0 ∧
    (∀ order, plan haversine ridge order 0 0 (eightieths 2) 0 = .error noJourney) ∧
    ¬ planComplete haversine ridge 0 0 (eightieths 2) 0 := by
  have thrown : ∀ order, plan haversine ridge order 0 0 (eightieths 2) 0 = .error noJourney := by
    intro order
    refine (plan_not_found_iff haversine ridge 0 0 (eightieths 2) 0 order _ ridge_ends_valid).mpr
      ⟨rfl, ridge_distances.2.2.2.2, ?_⟩
    rcases transit_cases haversine ridge 0 0 (eightieths 2) 0 (order_unranked order) ridge_minutes_pos
      with ⟨none, _⟩ | ⟨last, cost, origin, edges, stop, kept, dropped⟩
    · exact none
    · rw [← alighting_unique haversine ridge 0 0 (eightieths 2) 0 ridge_alighting_stop stop] at kept
      exact dropped.mpr (ridge_kept_boards_not kept)
  refine ⟨ridge_journey, thrown, fun complete => ?_⟩
  exact (complete (Polling.first Prod.snd) _ (thrown _)).2 ridge_journey

end Ridge

end CityBus.JourneyCompleteness
