import CityBus.JourneySearch

/-!
What `planTransit` has when its queue loop ends: `dist` is the table of cheapest
costs, the alighting choice is the minimum over the egress stops, and the chain
of `viaNode`s leads back to a boarding candidate along a path of that cost.
-/

namespace CityBus.JourneyOptimality

open GeoUtils JourneyGraph CheapestPaths JourneySearch

variable {K : Type} [Field K] [LinearOrder K]

section Least
variable [IsStrictOrderedRing K] {graph : Graph K} {candidates : List (Node K)}
variable {boardCost : Node K → K} {rank : Nat → Nat} {finished : Search K}

/-- With an empty queue the loop invariant is a certificate of optimality. -/
theorem sound_least
    (sound : Sound graph candidates boardCost rank [] (fun _ _ => False) finished)
    (ended : finished.queue = []) (v : Nat) :
    (finished.dist v = ⊤ ↔ chains graph candidates boardCost v = ∅) ∧
      ∀ total : K, finished.dist v = total →
        IsLeast (chains graph candidates boardCost v) total := by
  refine least_of_certificate finished.dist ?_ ?_ sound.attained v
  · rintro vertex start ⟨node, member, rfl, rfl⟩
    exact sound.entered node member List.not_mem_nil
  · intro u edge leaves
    cases isSettled : finished.settled u with
    | true => exact sound.relaxed u isSettled edge leaves (fun waived => waived)
    | false =>
        have unreached : finished.dist u = ⊤ := by
          by_contra finite
          have queued := sound.live u isSettled finite
          rw [ended] at queued
          exact List.not_mem_nil queued
        rw [unreached]
        exact le_trans le_top (le_of_eq (WithTop.top_add _).symm)

theorem dist_iff_least
    (sound : Sound graph candidates boardCost rank [] (fun _ _ => False) finished)
    (ended : finished.queue = []) (v : Nat) (total : K) :
    finished.dist v = total ↔ IsLeast (chains graph candidates boardCost v) total := by
  refine ⟨(sound_least sound ended v).2 total, fun least => ?_⟩
  cases value : finished.dist v with
  | top =>
      have empty := (sound_least sound ended v).1.mp value
      rw [empty] at least
      exact absurd least.1 (Set.notMem_empty total)
  | coe other =>
      rw [((sound_least sound ended v).2 other value).unique least]

omit [IsStrictOrderedRing K] in
theorem settled_of_finite
    (sound : Sound graph candidates boardCost rank [] (fun _ _ => False) finished)
    (ended : finished.queue = []) {v : Nat} (finite : finished.dist v ≠ ⊤) :
    finished.settled v = true := by
  cases isSettled : finished.settled v with
  | true => rfl
  | false =>
      have queued := sound.live v isSettled finite
      rw [ended] at queued
      exact absurd queued List.not_mem_nil

end Least

/-! ## The predecessor chain -/

section Chain
variable [IsStrictOrderedRing K] {graph : Graph K} {candidates : List (Node K)}
variable {boardCost : Node K → K} {rank : Nat → Nat} {finished : Search K}

/-- How many nodes are nearer than `v`: it drops along every hop back. -/
def nearer (n : Nat) (dist : Nat → WithTop K) (v : Nat) : Nat :=
  ((Finset.range n).filter fun w => dist w < dist v).card

omit [Field K] [IsStrictOrderedRing K] in
theorem nearer_lt_of_dist_lt {n u v : Nat} {dist : Nat → WithTop K} (inside : u < n)
    (less : dist u < dist v) : nearer n dist u < nearer n dist v := by
  apply Finset.card_lt_card
  refine ⟨?_, fun subset => ?_⟩
  · intro w member
    simp only [Finset.mem_filter] at member ⊢
    exact ⟨member.1, lt_trans member.2 less⟩
  · have self := subset (Finset.mem_filter.mpr ⟨Finset.mem_range.mpr inside, less⟩)
    exact lt_irrefl _ (Finset.mem_filter.mp self).2

omit [Field K] [IsStrictOrderedRing K] in
theorem nearer_lt_count {n v : Nat} {dist : Nat → WithTop K} (inside : v < n) :
    nearer n dist v < n := by
  have proper : (Finset.range n).filter (fun w => dist w < dist v) ⊂ Finset.range n := by
    refine ⟨Finset.filter_subset _ _, fun subset => ?_⟩
    exact lt_irrefl _ (Finset.mem_filter.mp (subset (Finset.mem_range.mpr inside))).2
  simpa [nearer] using Finset.card_lt_card proper

/-- The edges the records of `arrivals` name on the way to `v`, with the nodes
they lead through as `walkBack` lists them. -/
structure SpelledChain (graph : Graph K) (candidates : List (Node K)) (boardCost : Node K → K)
    (finished : Search K) (fuel v : Nat) (origin : Node K) (edges : List (Edge K)) : Prop where
  boards : origin ∈ candidates
  ends : (finished.arrivals origin.id).bind (·.viaNode) = none
  path : Path graph.edges Edge.target origin.id edges v
  cost : finished.dist v = (boardCost origin + pathCost Edge.minutes edges : K)
  nodes : (walkBack finished.arrivals fuel v).reverse = origin.id :: edges.map Edge.target
  recorded : ∀ edge ∈ edges, (finished.arrivals edge.target).bind (·.viaEdge) = some edge

/-- The chains the records can spell when equal distances are served by `rank`:
cheapest all the way, boarding wins a tie, and so does the predecessor whose
turn is first. -/
inductive EarliestChain (graph : Graph K) (candidates : List (Node K)) (boardCost : Node K → K)
    (rank : Nat → Nat) : Nat → List (Edge K) → Nat → K → Prop where
  | board {node : Node K} (member : node ∈ candidates)
      (cheapest : IsLeast (chains graph candidates boardCost node.id) (boardCost node)) :
      EarliestChain graph candidates boardCost rank node.id [] node.id (boardCost node)
  | hop {origin u : Nat} {edges : List (Edge K)} {edge : Edge K} {total : K}
      (front : EarliestChain graph candidates boardCost rank origin edges u total)
      (leaves : edge ∈ graph.edges u)
      (cheapest : IsLeast (chains graph candidates boardCost edge.target) (total + edge.minutes))
      (entries : ∀ start, entryCost candidates boardCost edge.target start →
        total + edge.minutes < start)
      (earliest : ∀ w near, IsLeast (chains graph candidates boardCost w) near →
        turn rank (near : WithTop K) w < turn rank (total : WithTop K) u → ∀ other ∈ graph.edges w,
          other.target = edge.target → total + edge.minutes < near + other.minutes) :
      EarliestChain graph candidates boardCost rank origin (edges ++ [edge]) edge.target
        (total + edge.minutes)

omit [IsStrictOrderedRing K] in
theorem earliest_cheapest {origin v : Nat} {edges : List (Edge K)} {total : K}
    (chain : EarliestChain graph candidates boardCost rank origin edges v total) :
    IsLeast (chains graph candidates boardCost v) total := by
  cases chain with
  | board _ cheapest => exact cheapest
  | hop _ _ cheapest => exact cheapest

theorem chain_spelled
    (positive : ∀ u, ∀ edge ∈ graph.edges u, 0 < edge.minutes)
    (sound : Sound graph candidates boardCost rank [] (fun _ _ => False) finished)
    (ended : finished.queue = []) (fuel v : Nat) (finite : finished.dist v ≠ ⊤)
    (enough : nearer graph.nodes.length finished.dist v < fuel) :
    ∃ origin edges total, SpelledChain graph candidates boardCost finished fuel v origin edges ∧
      EarliestChain graph candidates boardCost rank origin.id edges v total := by
  have least := dist_iff_least sound ended
  -- On the fuel of `walkBack`: a hop back leads to a nearer node, so `nearer` drops.
  induction fuel generalizing v with
  | zero => omega
  | succ fuel ih =>
      rcases sound.arrived v finite with ⟨record, start, ⟨node, member, rfl, rfl⟩, value⟩ |
        ⟨u, edge, record, isSettled, leaves, rfl, value, aboveEntry, aboveHops⟩
      · refine ⟨node, [], _, ⟨member, by simp [record], Path.nil _, by simp [value], ?_, by simp⟩,
          EarliestChain.board member ((least _ _).mp value)⟩
        simp [walkBack, record]
      · have inside : u < graph.nodes.length := by
          by_contra outside
          rw [edges_outside graph u (Nat.le_of_not_lt outside)] at leaves
          exact List.not_mem_nil leaves
        obtain ⟨reachedAt, atU⟩ := WithTop.ne_top_iff_exists.mp (sound.reached u isSettled)
        have less : finished.dist u < finished.dist edge.target := by
          rw [value, ← atU, ← WithTop.coe_add, WithTop.coe_lt_coe]
          linarith [positive u edge leaves]
        have closer := nearer_lt_of_dist_lt inside less
        obtain ⟨origin, edges, total, spelled, earliest⟩ :=
          ih u (sound.reached u isSettled) (by omega)
        have atTotal : finished.dist u = total := (least u total).mpr (earliest_cheapest earliest)
        have atTarget : finished.dist edge.target = (total + edge.minutes : K) := by
          rw [value, atTotal, WithTop.coe_add]
        refine ⟨origin, edges ++ [edge], total + edge.minutes,
          ⟨spelled.boards, spelled.ends, path_concat spelled.path leaves, ?_, ?_, ?_⟩,
          EarliestChain.hop earliest leaves ((least _ _).mp atTarget) ?_ ?_⟩
        · rw [value, spelled.cost]
          simp [add_assoc]
        · simp [walkBack, record, spelled.nodes]
        · intro other member
          rcases List.mem_append.mp member with front | last
          · exact spelled.recorded other front
          · rw [List.mem_singleton.mp last, record]
            rfl
        · intro start entry
          have above := aboveEntry start entry
          rwa [atTarget, WithTop.coe_lt_coe] at above
        · intro w near nearest before other leavesW ends
          have atW := (least w near).mpr nearest
          have settledW := settled_of_finite sound ended (v := w) (by simp [atW])
          have above := aboveHops w settledW (by rwa [atW, atTotal]) other leavesW ends
          rwa [atTarget, atW, ← WithTop.coe_add, WithTop.coe_lt_coe] at above

end Chain

/-! ## The alighting choice -/

section Alight
variable (geo : GeoDistance K) (lat lng : K) (dist : Nat → WithTop K)

def alightTotal (node : Node K) : WithTop K := dist node.id + egressMinutes geo lat lng node

theorem alight_eq (best : Alighting K) (node : Node K) :
    alight geo lat lng dist best node =
      if alightTotal geo lat lng dist node < best.bestTotal then
        ⟨some node.id, alightTotal geo lat lng dist node, nodeDistance geo lat lng node * INDIRECTNESS⟩
      else best := by
  unfold alight
  split
  · rename_i unreached
    simp [alightTotal, unreached]
  · rfl

/-- The loop keeps the first candidate of least total. -/
structure FirstLeast (candidates : List (Node K)) (best : Alighting K) (node : Node K) : Prop where
  chosen : best = ⟨some node.id, alightTotal geo lat lng dist node,
    nodeDistance geo lat lng node * INDIRECTNESS⟩
  finite : dist node.id ≠ ⊤
  split : ∃ before after, candidates = before ++ node :: after ∧
    (∀ other ∈ before, alightTotal geo lat lng dist node < alightTotal geo lat lng dist other) ∧
    ∀ other ∈ after, alightTotal geo lat lng dist node ≤ alightTotal geo lat lng dist other

theorem first_least_le {candidates : List (Node K)} {best : Alighting K} {node other : Node K}
    (first : FirstLeast geo lat lng dist candidates best node) (member : other ∈ candidates) :
    best.bestTotal ≤ alightTotal geo lat lng dist other := by
  obtain ⟨before, after, rfl, above, notBelow⟩ := first.split
  rw [first.chosen]
  rcases List.mem_append.mp member with front | rest
  · exact le_of_lt (above other front)
  · rcases List.mem_cons.mp rest with rfl | back
    · exact le_refl _
    · exact notBelow other back

theorem alight_total_ne_top {node : Node K} :
    alightTotal geo lat lng dist node ≠ ⊤ ↔ dist node.id ≠ ⊤ := by
  simp [alightTotal, WithTop.add_eq_top]

theorem alight_all_cases (candidates : List (Node K)) :
    (candidates.foldl (alight geo lat lng dist) ⟨none, ⊤, 0⟩ = ⟨none, ⊤, 0⟩ ∧
        ∀ node ∈ candidates, dist node.id = ⊤) ∨
      ∃ node, FirstLeast geo lat lng dist candidates
        (candidates.foldl (alight geo lat lng dist) ⟨none, ⊤, 0⟩) node := by
  induction candidates using List.reverseRecOn with
  | nil => exact Or.inl ⟨rfl, by simp⟩
  | append_singleton front last ih =>
      rw [List.foldl_append, List.foldl_cons, List.foldl_nil, alight_eq]
      split
      · rename_i better
        refine Or.inr ⟨last, rfl, ?_, front, [], rfl, ?_, by simp⟩
        · exact (alight_total_ne_top geo lat lng dist).mp (ne_top_of_lt better)
        · intro other member
          rcases ih with ⟨none, unreached⟩ | ⟨node, first⟩
          · have top : alightTotal geo lat lng dist other = ⊤ := by
              simp [alightTotal, unreached other member]
            rw [top]
            exact lt_top_of_lt better
          · exact lt_of_lt_of_le better (first_least_le geo lat lng dist first member)
      · rename_i worse
        rcases ih with ⟨none, unreached⟩ | ⟨node, first⟩
        · left
          refine ⟨none, fun node member => ?_⟩
          rcases List.mem_append.mp member with old | new
          · exact unreached node old
          · rw [none, not_lt, top_le_iff] at worse
            rw [List.mem_singleton.mp new]
            by_contra finite
            exact (alight_total_ne_top geo lat lng dist).mpr finite worse
        · right
          obtain ⟨before, after, same, above, notBelow⟩ := first.split
          refine ⟨node, first.chosen, first.finite, before, after ++ [last], by simp [same],
            above, ?_⟩
          intro other member
          rcases List.mem_append.mp member with old | new
          · exact notBelow other old
          · rw [List.mem_singleton.mp new]
            rw [first.chosen] at worse
            exact not_lt.mp worse

end Alight

/-! ## planTransit -/

section Transit
variable (geo : GeoDistance K) (graph : Graph K) (fromLat fromLng toLat toLng : K)

def originChains (v : Nat) : Set K :=
  chains graph (accessCandidates geo graph fromLat fromLng) (boardMinutes geo fromLat fromLng) v

structure TransitOptimal (finished : Search K) (best : Alighting K) : Prop where
  drained : finished.queue = []
  unreached : ∀ v, finished.dist v = ⊤ ↔ originChains geo graph fromLat fromLng v = ∅
  cheapest : ∀ v (total : K), finished.dist v = total →
    IsLeast (originChains geo graph fromLat fromLng v) total
  total_le : ∀ node ∈ accessCandidates geo graph toLat toLng,
    best.bestTotal ≤ alightTotal geo toLat toLng finished.dist node
  unalighted : best.bestNode = none → best.bestTotal = ⊤
  alighted : ∀ last, best.bestNode = some last →
    ∃ node ∈ accessCandidates geo graph toLat toLng, node.id = last ∧
      best.bestTotal = alightTotal geo toLat toLng finished.dist node
  chain : ∀ last, best.bestNode = some last →
    ∃ origin edges, SpelledChain graph (accessCandidates geo graph fromLat fromLng)
      (boardMinutes geo fromLat fromLng) finished graph.nodes.length last origin edges

theorem access_candidate_mem {lat lng : K} {node : Node K}
    (member : node ∈ accessCandidates geo graph lat lng) : node ∈ graph.nodes := by
  have sorted := List.mem_of_mem_take member
  rw [List.mem_insertionSort] at sorted
  exact List.mem_of_mem_filter sorted

variable [IsStrictOrderedRing K]

theorem plan_transit_optimal (order : QueueOrder K)
    (positive : ∀ u, ∀ edge ∈ graph.edges u, 0 < edge.minutes) :
    TransitOptimal geo graph fromLat fromLng toLat toLng
      (search geo graph order fromLat fromLng)
      (alightBest geo graph toLat toLng (search geo graph order fromLat fromLng).dist) := by
  have sound := search_sound (order_unranked order) positive geo fromLat fromLng
  have ended := search_ends graph geo order fromLat fromLng
  have least := sound_least sound ended
  have choice := alight_all_cases geo toLat toLng (search geo graph order fromLat fromLng).dist
    (accessCandidates geo graph toLat toLng)
  constructor
  case drained => exact ended
  case unreached => exact fun v => (least v).1
  case cheapest => exact fun v total => (least v).2 total
  case total_le =>
    intro node member
    rcases choice with ⟨none, unreached⟩ | ⟨last, first⟩
    · simp [alightTotal, unreached node member]
    · exact first_least_le geo toLat toLng _ first member
  case unalighted =>
    intro unalighted
    rcases choice with ⟨none, _⟩ | ⟨last, first⟩
    · rw [alightBest, none]
    · rw [alightBest, first.chosen] at unalighted
      exact absurd unalighted (Option.some_ne_none last.id)
  case alighted =>
    intro last chosen
    rcases choice with ⟨none, _⟩ | ⟨node, first⟩
    · rw [alightBest, none] at chosen
      exact absurd chosen.symm (Option.some_ne_none last)
    · rw [alightBest, first.chosen] at chosen ⊢
      obtain ⟨before, after, split, _, _⟩ := first.split
      exact ⟨node, by simp [split], Option.some.inj chosen, rfl⟩
  case chain =>
    intro last chosen
    rcases choice with ⟨none, _⟩ | ⟨node, first⟩
    · rw [alightBest, none] at chosen
      exact absurd chosen.symm (Option.some_ne_none last)
    · rw [alightBest, first.chosen] at chosen
      obtain ⟨before, after, split, _, _⟩ := first.split
      have member : node ∈ accessCandidates geo graph toLat toLng := by simp [split]
      have inside := node_id_lt graph.ids (access_candidate_mem geo graph member)
      rw [← Option.some.inj chosen]
      obtain ⟨origin, edges, _, spelled, _⟩ := chain_spelled positive sound ended
        graph.nodes.length node.id first.finite (nearer_lt_count inside)
      exact ⟨origin, edges, spelled⟩

end Transit

theorem short_line_optimal :
    TransitOptimal taxicab (build taxicab [shortLine]) 0 0 1 0
      (search taxicab (build taxicab [shortLine]) (Polling.first Prod.snd) 0 0)
      (alightBest taxicab (build taxicab [shortLine]) 1 0
        (search taxicab (build taxicab [shortLine]) (Polling.first Prod.snd) 0 0).dist) :=
  plan_transit_optimal taxicab (build taxicab [shortLine]) 0 0 1 0 (Polling.first Prod.snd)
    (fun _ _ leaves => build_minutes_pos taxicab [shortLine] leaves)

end CityBus.JourneyOptimality
