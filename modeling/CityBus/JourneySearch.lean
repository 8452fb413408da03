import CityBus.CheapestPaths
import CityBus.JourneyGraph

/-!
The search of `planTransit`: boarding, the queue loop with lazy deletion and the
choice of the alighting stop. Minutes are exact and `POSITIVE_INFINITY` is `⊤`.
The queue may hand out any least entry.

`Sound` is the loop invariant. It says nothing of optimality; that is read off
at the end, when the queue is empty, through `CheapestPaths.least_of_certificate`.
-/

namespace CityBus.JourneySearch

open GeoUtils JourneyGraph CheapestPaths

variable {K : Type} [Field K] [LinearOrder K]

/-- `viaNode` is `none` where the source has -1, `viaEdge` where it has null. -/
structure Arrival (K : Type) where
  minutes : WithTop K
  viaNode : Option Nat
  viaEdge : Option (Edge K)

abbrev Entry (K : Type) := Nat × WithTop K

structure Search (K : Type) where
  dist : Nat → WithTop K
  arrivals : Nat → Option (Arrival K)
  queue : List (Entry K)
  settled : Nat → Bool

def Search.start : Search K := ⟨fun _ => ⊤, fun _ => none, [], fun _ => false⟩

section Search
variable (geo : GeoDistance K)

def nodeDistance (lat lng : K) (node : Node K) : K :=
  geo.distanceKm lat lng node.stop.lat node.stop.lng

def accessCandidates (graph : Graph K) (lat lng : K) : List (Node K) :=
  let near := graph.nodes.filter fun node => nodeDistance geo lat lng node ≤ MAX_ACCESS_WALK_KM
  (near.insertionSort fun a b => nodeDistance geo lat lng a ≤ nodeDistance geo lat lng b).take
    MAX_ACCESS_CANDIDATES

def walkMinutes (km : K) : K := km / WALK_SPEED_KMH * (60 : Nat)

def boardMinutes (lat lng : K) (node : Node K) : K :=
  walkMinutes (nodeDistance geo lat lng node * INDIRECTNESS) + node.route.frequencyMinutes / (2 : Nat)

def egressMinutes (lat lng : K) (node : Node K) : K :=
  walkMinutes (nodeDistance geo lat lng node * INDIRECTNESS)

def Search.improve (search : Search K) (v : Nat) (arrival : Arrival K) : Search K :=
  { search with
    dist := Function.update search.dist v arrival.minutes
    arrivals := Function.update search.arrivals v (some arrival)
    queue := (v, arrival.minutes) :: search.queue }

def board (lat lng : K) (search : Search K) (node : Node K) : Search K :=
  let minutes := boardMinutes geo lat lng node
  if (minutes : WithTop K) < search.dist node.id then
    search.improve node.id ⟨minutes, none, none⟩
  else search

def boardAll (graph : Graph K) (lat lng : K) : Search K :=
  (accessCandidates geo graph lat lng).foldl (board geo lat lng) Search.start

def relax (u : Nat) (search : Search K) (edge : Edge K) : Search K :=
  let candidate := search.dist u + edge.minutes
  if candidate < search.dist edge.target then
    search.improve edge.target ⟨candidate, some u, some edge⟩
  else search

def Search.visit (search : Search K) (u : Nat) : Search K :=
  { search with settled := Function.update search.settled u true }

def settle (graph : Graph K) (u : Nat) (search : Search K) : Search K :=
  (graph.edges u).foldl (relax u) (search.visit u)

abbrev QueueOrder (K : Type) [LinearOrder K] := Polling (Prod.snd : Entry K → WithTop K)

/-- The queue loop; `fuel` bounds the number of polls. -/
def drain (graph : Graph K) (order : QueueOrder K) : Nat → Search K → Search K
  | 0, search => search
  | fuel + 1, search =>
      match order.poll search.queue with
      | none => search
      | some (entry, rest) =>
          let polled := { search with queue := rest }
          -- A stale entry: the node was settled at a smaller distance.
          if search.settled entry.1 then drain graph order fuel polled
          else drain graph order fuel (settle graph entry.1 polled)

def edgeCount (graph : Graph K) : Nat :=
  ∑ u ∈ Finset.range graph.nodes.length, (graph.edges u).length

def search (graph : Graph K) (order : QueueOrder K) (lat lng : K) : Search K :=
  drain graph order ((accessCandidates geo graph lat lng).length + edgeCount graph)
    (boardAll geo graph lat lng)

structure Alighting (K : Type) where
  bestNode : Option Nat
  bestTotal : WithTop K
  bestEgressKm : K

def alight (lat lng : K) (dist : Nat → WithTop K) (best : Alighting K) (node : Node K) :
    Alighting K :=
  if dist node.id = ⊤ then best else
    let walkKm := nodeDistance geo lat lng node * INDIRECTNESS
    let total := dist node.id + walkMinutes walkKm
    if total < best.bestTotal then ⟨some node.id, total, walkKm⟩ else best

def alightBest (graph : Graph K) (lat lng : K) (dist : Nat → WithTop K) : Alighting K :=
  (accessCandidates geo graph lat lng).foldl (alight geo lat lng dist) ⟨none, ⊤, 0⟩

/-- The loop of `fold` that follows `viaNode`, newest node first. -/
def walkBack (arrivals : Nat → Option (Arrival K)) : Nat → Nat → List Nat
  | 0, _ => []
  | fuel + 1, current =>
      current :: match (arrivals current).bind (·.viaNode) with
        | none => []
        | some previous => walkBack arrivals fuel previous

end Search

/-! ## The loop invariant -/

section Invariant
variable (graph : Graph K) (candidates : List (Node K)) (boardCost : Node K → K) (rank : Nat → Nat)

/-- Nodes are settled by distance. How equal distances are served is up to the
queue; `rank` stands for a preference it may have among the nodes. -/
def turn (dist : WithTop K) (v : Nat) : Lex (WithTop K × Nat) := toLex (dist, rank v)

def Ranked (order : QueueOrder K) : Prop :=
  ∀ queue entry rest, order.poll queue = some (entry, rest) →
    ∀ other ∈ queue, turn rank entry.2 entry.1 ≤ turn rank other.2 other.1

def entryCost (v : Nat) (start : K) : Prop :=
  ∃ node ∈ candidates, node.id = v ∧ boardCost node = start

def chains (v : Nat) : Set K :=
  chainCosts graph.edges Edge.target Edge.minutes (entryCost candidates boardCost) v

def Boarded (search : Search K) (v : Nat) : Prop :=
  search.arrivals v = some ⟨search.dist v, none, none⟩ ∧
    ∃ start, entryCost candidates boardCost v start ∧ search.dist v = start

/-- `v` was last improved through `edge` out of the settled node `u`: strictly
better than boarding at `v`, and than every hop out of a node whose turn was
before `u`. -/
def Hopped (search : Search K) (v u : Nat) (edge : Edge K) : Prop :=
  search.arrivals v = some ⟨search.dist v, some u, some edge⟩ ∧
    search.settled u = true ∧ edge ∈ graph.edges u ∧ edge.target = v ∧
    search.dist v = search.dist u + edge.minutes ∧
    (∀ start, entryCost candidates boardCost v start → search.dist v < start) ∧
    ∀ w, search.settled w = true → turn rank (search.dist w) w < turn rank (search.dist u) u →
      ∀ other ∈ graph.edges w, other.target = v → search.dist v < search.dist w + other.minutes

/-- The invariant, but for candidates still to be boarded and for waived edges. -/
structure Sound (pending : List (Node K)) (waived : Nat → Edge K → Prop) (search : Search K) :
    Prop where
  finite : ∀ entry ∈ search.queue, entry.2 ≠ ⊤
  upper : ∀ entry ∈ search.queue, search.dist entry.1 ≤ entry.2
  live : ∀ v, search.settled v = false → search.dist v ≠ ⊤ → (v, search.dist v) ∈ search.queue
  floor : ∀ u, search.settled u = true → ∀ entry ∈ search.queue,
    turn rank (search.dist u) u ≤ turn rank entry.2 entry.1
  reached : ∀ u, search.settled u = true → search.dist u ≠ ⊤
  entered : ∀ node ∈ candidates, node ∉ pending → search.dist node.id ≤ boardCost node
  relaxed : ∀ u, search.settled u = true → ∀ edge ∈ graph.edges u, ¬ waived u edge →
    search.dist edge.target ≤ search.dist u + edge.minutes
  attained : ∀ v (total : K), search.dist v = total → total ∈ chains graph candidates boardCost v
  arrived : ∀ v, search.dist v ≠ ⊤ → Boarded candidates boardCost search v ∨
    ∃ u edge, Hopped graph candidates boardCost rank search v u edge

omit [Field K] in
theorem dist_le_of_turn_le {near far : WithTop K} {v w : Nat}
    (below : turn rank near v ≤ turn rank far w) : near ≤ far := by
  rcases Prod.Lex.toLex_le_toLex.mp below with less | ⟨same, _⟩
  · exact le_of_lt less
  · exact le_of_eq same

omit [Field K] in
theorem turn_le_of_dist_lt {near far : WithTop K} (less : near < far) (v w : Nat) :
    turn rank near v ≤ turn rank far w :=
  Prod.Lex.toLex_le_toLex.mpr (Or.inl less)

section Steps
variable {graph candidates boardCost rank} {pending : List (Node K)} {waived : Nat → Edge K → Prop}
variable {search : Search K}

omit [Field K] [LinearOrder K] in
theorem improve_dist (v w : Nat) (arrival : Arrival K) :
    (search.improve v arrival).dist w = if w = v then arrival.minutes else search.dist w := by
  simp [Search.improve, Function.update_apply]

omit [Field K] [LinearOrder K] in
theorem improve_arrivals (v w : Nat) (arrival : Arrival K) :
    (search.improve v arrival).arrivals w = if w = v then some arrival else search.arrivals w := by
  simp [Search.improve, Function.update_apply]

omit [Field K] [LinearOrder K] in
theorem improve_keeps_settled {v : Nat} {arrival : Arrival K} (fresh : search.settled v = false)
    (u : Nat) (isSettled : search.settled u = true) :
    (search.improve v arrival).dist u = search.dist u := by
  have different : u ≠ v := by
    rintro rfl
    simp [fresh] at isSettled
  simp [improve_dist, different]

theorem improve_arrived_other {v w : Nat} {arrival : Arrival K}
    (fresh : search.settled v = false) (other : w ≠ v)
    (arrived : Boarded candidates boardCost search w ∨
      ∃ u edge, Hopped graph candidates boardCost rank search w u edge) :
    Boarded candidates boardCost (search.improve v arrival) w ∨
      ∃ u edge, Hopped graph candidates boardCost rank (search.improve v arrival) w u edge := by
  have kept := @improve_keeps_settled K search v arrival fresh
  rcases arrived with ⟨record, start, entry, value⟩ |
    ⟨u, edge, record, isSettled, leaves, ends, value, aboveEntry, aboveHops⟩
  · left
    refine ⟨by simp [improve_arrivals, improve_dist, other, record], start, entry, ?_⟩
    simp [improve_dist, other, value]
  · right
    refine ⟨u, edge, by simp [improve_arrivals, improve_dist, other, record], isSettled, leaves,
      ends, ?_, ?_, ?_⟩
    · rw [kept u isSettled]
      simpa [improve_dist, other] using value
    · simpa [improve_dist, other] using aboveEntry
    · intro x settledX less
      rw [kept x settledX, kept u isSettled] at less
      rw [kept x settledX]
      simpa [improve_dist, other] using aboveHops x settledX less

theorem improve_sound {v : Nat} {arrival : Arrival K} {total : K}
    (sound : Sound graph candidates boardCost rank pending waived search)
    (fresh : search.settled v = false) (minutes : arrival.minutes = total)
    (better : arrival.minutes < search.dist v)
    (above : ∀ u, search.settled u = true →
      turn rank (search.dist u) u ≤ turn rank arrival.minutes v)
    (attains : total ∈ chains graph candidates boardCost v)
    (arrives : Boarded candidates boardCost (search.improve v arrival) v ∨
      ∃ u edge, Hopped graph candidates boardCost rank (search.improve v arrival) v u edge) :
    Sound graph candidates boardCost rank pending waived (search.improve v arrival) := by
  have shrinks : ∀ w, (search.improve v arrival).dist w ≤ search.dist w := by
    intro w
    rw [improve_dist]
    split
    · rename_i same
      rw [same]
      exact le_of_lt better
    · exact le_refl _
  have kept := @improve_keeps_settled K search v arrival fresh
  -- Only `v` changes and `v` is not settled, so what settled nodes promise stands.
  constructor
  case finite =>
    intro entry member
    rcases List.mem_cons.mp member with rfl | old
    · simp [minutes]
    · exact sound.finite entry old
  case upper =>
    intro entry member
    rcases List.mem_cons.mp member with rfl | old
    · simp [improve_dist]
    · exact le_trans (shrinks entry.1) (sound.upper entry old)
  case live =>
    intro w unsettled finite
    by_cases same : w = v
    · subst same
      simp [Search.improve]
    · simp only [improve_dist, same, if_false] at finite ⊢
      exact List.mem_cons_of_mem _ (sound.live w unsettled finite)
  case floor =>
    intro u isSettled entry member
    rw [kept u isSettled]
    rcases List.mem_cons.mp member with rfl | old
    · exact above u isSettled
    · exact sound.floor u isSettled entry old
  case reached =>
    intro u isSettled
    rw [kept u isSettled]
    exact sound.reached u isSettled
  case entered =>
    intro node member boarded
    exact le_trans (shrinks node.id) (sound.entered node member boarded)
  case relaxed =>
    intro u isSettled edge leaves unwaived
    rw [kept u isSettled]
    exact le_trans (shrinks _) (sound.relaxed u isSettled edge leaves unwaived)
  case attained =>
    intro w value equal
    rw [improve_dist] at equal
    split at equal
    · rename_i same
      rw [minutes, WithTop.coe_inj] at equal
      rw [same, ← equal]
      exact attains
    · exact sound.attained w value equal
  case arrived =>
    intro w finite
    by_cases same : w = v
    · rw [same]
      exact arrives
    · simp only [improve_dist, same, if_false] at finite
      exact improve_arrived_other fresh same (sound.arrived w finite)

/-- Waivers may be dropped for edges that meanwhile do not shortcut. -/
theorem sound_discharge {left : Nat → Edge K → Prop}
    (sound : Sound graph candidates boardCost rank pending waived search)
    (done : ∀ u, search.settled u = true → ∀ edge ∈ graph.edges u, waived u edge → ¬ left u edge →
      search.dist edge.target ≤ search.dist u + edge.minutes) :
    Sound graph candidates boardCost rank pending left search :=
  { sound with
    relaxed := by
      intro u isSettled edge leaves open_
      by_cases was : waived u edge
      · exact done u isSettled edge leaves was open_
      · exact sound.relaxed u isSettled edge leaves was }

theorem relax_settled (u : Nat) (edge : Edge K) :
    (relax u search edge).settled = search.settled := by
  unfold relax
  dsimp only
  split <;> rfl

theorem relax_all_settled (u : Nat) (edges : List (Edge K)) :
    (edges.foldl (relax u) search).settled = search.settled := by
  induction edges generalizing search with
  | nil => rfl
  | cons edge rest ih => rw [List.foldl_cons, ih, relax_settled]

variable [IsStrictOrderedRing K]

def Expanding (u : Nat) (search : Search K) : Prop :=
  search.settled u = true ∧ ∀ w, search.settled w = true → search.dist w ≤ search.dist u

-- A hop out of the farthest settled node cannot improve a settled one.
theorem hop_target_fresh {u : Nat} {edge : Edge K} (expanding : Expanding u search)
    (positive : 0 < edge.minutes)
    (better : search.dist u + edge.minutes < search.dist edge.target) :
    search.settled edge.target = false := by
  cases isSettled : search.settled edge.target with
  | false => rfl
  | true =>
      have longer : search.dist u ≤ search.dist u + edge.minutes :=
        le_add_of_nonneg_right (WithTop.coe_nonneg.mpr (le_of_lt positive))
      have bound := expanding.2 edge.target isSettled
      exact absurd better (not_lt.mpr (le_trans bound longer))

theorem relax_keeps_settled {u : Nat} {edge : Edge K} (expanding : Expanding u search)
    (positive : 0 < edge.minutes) (w : Nat) (isSettled : search.settled w = true) :
    (relax u search edge).dist w = search.dist w ∧
      (relax u search edge).arrivals w = search.arrivals w := by
  unfold relax
  dsimp only
  split
  · rename_i better
    have fresh := hop_target_fresh expanding positive better
    have different : w ≠ edge.target := by
      rintro rfl
      simp [fresh] at isSettled
    simp [improve_dist, improve_arrivals, different]
  · exact ⟨rfl, rfl⟩

theorem relax_expanding {u : Nat} {edge : Edge K} (expanding : Expanding u search)
    (positive : 0 < edge.minutes) : Expanding u (relax u search edge) := by
  refine ⟨by rw [relax_settled]; exact expanding.1, fun w isSettled => ?_⟩
  rw [relax_settled] at isSettled
  rw [(relax_keeps_settled expanding positive w isSettled).1,
    (relax_keeps_settled expanding positive u expanding.1).1]
  exact expanding.2 w isSettled

/-- One relaxation keeps the invariant and lifts the waiver of its edge. -/
theorem relax_sound {u : Nat} {edge : Edge K} {rest : List (Edge K)}
    (sound : Sound graph candidates boardCost rank [] (fun w e => w = u ∧ e ∈ edge :: rest) search)
    (expanding : Expanding u search) (positive : 0 < edge.minutes)
    (leaves : edge ∈ graph.edges u) :
    Sound graph candidates boardCost rank [] (fun w e => w = u ∧ e ∈ rest) (relax u search edge) := by
  obtain ⟨total, value⟩ := WithTop.ne_top_iff_exists.mp (sound.reached u expanding.1)
  have discharged : ∀ {after : Search K},
      Sound graph candidates boardCost rank [] (fun w e => w = u ∧ e ∈ edge :: rest) after →
      after.dist edge.target ≤ after.dist u + edge.minutes →
      Sound graph candidates boardCost rank [] (fun w e => w = u ∧ e ∈ rest) after := by
    intro after soundAfter done
    apply sound_discharge soundAfter
    rintro w _ e _ ⟨rfl, member⟩ open_
    rcases List.mem_cons.mp member with rfl | tail
    · exact done
    · exact absurd ⟨rfl, tail⟩ open_
  unfold relax
  dsimp only
  split
  · rename_i better
    have fresh := hop_target_fresh expanding positive better
    have sameU := @improve_keeps_settled K search edge.target
      ⟨search.dist u + edge.minutes, some u, some edge⟩ fresh u expanding.1
    have atTarget : (search.improve edge.target
        ⟨search.dist u + edge.minutes, some u, some edge⟩).dist edge.target =
          search.dist u + edge.minutes := by simp [improve_dist]
    refine discharged ?_ (by rw [atTarget, sameU])
    have arrives : search.dist u + edge.minutes = ((total + edge.minutes : K) : WithTop K) := by
      rw [← value, WithTop.coe_add]
    refine improve_sound sound fresh arrives better ?_ ?_ ?_
    · intro w isSettled
      apply turn_le_of_dist_lt
      calc search.dist w ≤ search.dist u := expanding.2 w isSettled
        _ < search.dist u + edge.minutes := by
            rw [← value, ← WithTop.coe_add, WithTop.coe_lt_coe]
            linarith
    · exact edge_chain_cost (sound.attained u total value.symm) leaves
    · refine Or.inr ⟨u, edge, by simp [improve_arrivals, improve_dist], expanding.1, leaves, rfl,
        by rw [atTarget, sameU], ?_, ?_⟩
      · rintro start ⟨node, member, atNode, rfl⟩
        rw [atTarget]
        have bound := sound.entered node member List.not_mem_nil
        rw [atNode] at bound
        exact lt_of_lt_of_le better bound
      · intro w isSettled less other leavesW ends
        have keptW := @improve_keeps_settled K search edge.target
          ⟨search.dist u + edge.minutes, some u, some edge⟩ fresh w isSettled
        rw [keptW, sameU] at less
        rw [atTarget, keptW]
        have unwaived : ¬ (w = u ∧ other ∈ edge :: rest) := by
          rintro ⟨rfl, _⟩
          exact lt_irrefl _ less
        have bound := sound.relaxed w isSettled other leavesW unwaived
        rw [ends] at bound
        exact lt_of_lt_of_le better bound
  · rename_i worse
    exact discharged sound (not_lt.mp worse)

theorem relax_all_sound {u : Nat} (edges : List (Edge K))
    (sound : Sound graph candidates boardCost rank [] (fun w e => w = u ∧ e ∈ edges) search)
    (expanding : Expanding u search)
    (leaves : ∀ edge ∈ edges, edge ∈ graph.edges u ∧ 0 < edge.minutes) :
    Sound graph candidates boardCost rank [] (fun _ _ => False) (edges.foldl (relax u) search) ∧
      ∀ w, search.settled w = true →
        (edges.foldl (relax u) search).dist w = search.dist w ∧
        (edges.foldl (relax u) search).arrivals w = search.arrivals w := by
  induction edges generalizing search with
  | nil =>
      refine ⟨sound_discharge sound ?_, fun _ _ => ⟨rfl, rfl⟩⟩
      rintro _ _ _ _ ⟨_, member⟩
      simp at member
  | cons edge rest ih =>
      obtain ⟨leavesHead, positive⟩ := leaves edge List.mem_cons_self
      have head := relax_sound sound expanding positive leavesHead
      have tail := ih head (relax_expanding expanding positive)
        (fun other member => leaves other (List.mem_cons_of_mem edge member))
      refine ⟨tail.1, fun w isSettled => ?_⟩
      have keptHead := relax_keeps_settled expanding positive w isSettled
      have keptTail := tail.2 w (by rw [relax_settled]; exact isSettled)
      exact ⟨keptTail.1.trans keptHead.1, keptTail.2.trans keptHead.2⟩

omit [IsStrictOrderedRing K] in
theorem board_sound (geo : GeoDistance K) {lat lng : K} {node : Node K}
    (sound : Sound graph candidates (boardMinutes geo lat lng) rank (node :: pending) waived search)
    (member : node ∈ candidates) (unsettled : ∀ v, search.settled v = false) :
    Sound graph candidates (boardMinutes geo lat lng) rank pending waived
        (board geo lat lng search node) ∧
      ∀ v, (board geo lat lng search node).settled v = false := by
  have discharged : ∀ {after : Search K},
      Sound graph candidates (boardMinutes geo lat lng) rank (node :: pending) waived after →
      after.dist node.id ≤ boardMinutes geo lat lng node →
      Sound graph candidates (boardMinutes geo lat lng) rank pending waived after := by
    intro after soundAfter done
    refine { soundAfter with entered := fun other memberOther boarded => ?_ }
    by_cases same : other = node
    · rw [same]
      exact done
    · exact soundAfter.entered other memberOther (by simp [same, boarded])
  unfold board
  dsimp only
  split
  · rename_i better
    refine ⟨discharged ?_ (by simp [improve_dist]), unsettled⟩
    refine improve_sound sound (unsettled node.id) rfl better ?_ ?_ ?_
    · intro u isSettled
      simp [unsettled u] at isSettled
    · exact entry_chain_cost ⟨node, member, rfl, rfl⟩
    · exact Or.inl ⟨by simp [improve_arrivals, improve_dist], _, ⟨node, member, rfl, rfl⟩,
        by simp [improve_dist]⟩
  · rename_i worse
    exact ⟨discharged sound (not_lt.mp worse), unsettled⟩

omit [IsStrictOrderedRing K] in
theorem start_sound : Sound graph candidates boardCost rank candidates waived Search.start := by
  constructor <;> simp [Search.start]

omit [IsStrictOrderedRing K] in
theorem board_all_sound (geo : GeoDistance K) (lat lng : K) :
    Sound graph (accessCandidates geo graph lat lng) (boardMinutes geo lat lng) rank []
      (fun _ _ => False) (boardAll geo graph lat lng) := by
  have loop : ∀ (rest : List (Node K)) (search : Search K),
      (∀ node ∈ rest, node ∈ accessCandidates geo graph lat lng) →
      Sound graph (accessCandidates geo graph lat lng) (boardMinutes geo lat lng) rank rest
        (fun _ _ => False) search →
      (∀ v, search.settled v = false) →
      Sound graph (accessCandidates geo graph lat lng) (boardMinutes geo lat lng) rank []
        (fun _ _ => False) (rest.foldl (board geo lat lng) search) := by
    intro rest
    induction rest with
    | nil => exact fun _ _ sound _ => sound
    | cons node rest ih =>
        intro search listed sound unsettled
        have next := board_sound geo sound (listed node List.mem_cons_self) unsettled
        exact ih _ (fun other member => listed other (List.mem_cons_of_mem node member))
          next.1 next.2
  exact loop _ _ (fun _ member => member) start_sound (fun _ => rfl)

/-! One poll: either the entry is stale, or its node is settled at its distance. -/

section Poll
variable {order : QueueOrder K} {entry : Entry K} {rest : List (Entry K)}

omit [IsStrictOrderedRing K] in
theorem poll_stale (sound : Sound graph candidates boardCost rank [] (fun _ _ => False) search)
    (polled : order.poll search.queue = some (entry, rest))
    (stale : search.settled entry.1 = true) :
    Sound graph candidates boardCost rank [] (fun _ _ => False) { search with queue := rest } := by
  have older : ∀ other ∈ rest, other ∈ search.queue := fun other member =>
    (polled_mem order polled).mpr (Or.inr member)
  refine { sound with
    finite := fun other member => sound.finite other (older other member)
    upper := fun other member => sound.upper other (older other member)
    live := ?_
    floor := fun u isSettled other member => sound.floor u isSettled other (older other member) }
  intro v unsettled finite
  rcases (polled_mem order polled).mp (sound.live v unsettled finite) with same | later
  · rw [← same] at stale
    exact absurd stale (Bool.eq_false_iff.mp unsettled)
  · exact later

omit [IsStrictOrderedRing K] in
theorem polled_current (sound : Sound graph candidates boardCost rank [] (fun _ _ => False) search)
    (polled : order.poll search.queue = some (entry, rest))
    (fresh : search.settled entry.1 = false) : search.dist entry.1 = entry.2 := by
  have member : entry ∈ search.queue := (polled_mem order polled).mpr (Or.inl rfl)
  have upper := sound.upper entry member
  have finite : search.dist entry.1 ≠ ⊤ :=
    ne_top_of_le_ne_top (sound.finite entry member) upper
  have least := order.least search.queue entry rest polled _ (sound.live entry.1 fresh finite)
  exact le_antisymm upper least

omit [IsStrictOrderedRing K] in
theorem visit_dist_le (sound : Sound graph candidates boardCost rank [] (fun _ _ => False) search)
    (polled : order.poll search.queue = some (entry, rest))
    (fresh : search.settled entry.1 = false) (w : Nat)
    (isSettled : (search.visit entry.1).settled w = true) :
    search.dist w ≤ search.dist entry.1 := by
  rw [polled_current sound polled fresh]
  by_cases same : w = entry.1
  · rw [same, polled_current sound polled fresh]
  · have before : search.settled w = true := by
      simpa [Search.visit, Function.update_apply, same] using isSettled
    exact dist_le_of_turn_le rank
      (sound.floor w before entry ((polled_mem order polled).mpr (Or.inl rfl)))

omit [IsStrictOrderedRing K] in
theorem poll_fresh (ranked : Ranked rank order)
    (sound : Sound graph candidates boardCost rank [] (fun _ _ => False) search)
    (polled : order.poll search.queue = some (entry, rest))
    (fresh : search.settled entry.1 = false) :
    Sound graph candidates boardCost rank [] (fun w e => w = entry.1 ∧ e ∈ graph.edges entry.1)
        ({ search with queue := rest }.visit entry.1) ∧
      Expanding entry.1 ({ search with queue := rest }.visit entry.1) := by
  have older : ∀ other ∈ rest, other ∈ search.queue := fun other member =>
    (polled_mem order polled).mpr (Or.inr member)
  have current := polled_current sound polled fresh
  have member : entry ∈ search.queue := (polled_mem order polled).mpr (Or.inl rfl)
  have below := visit_dist_le sound polled fresh
  have settledCases : ∀ w, (search.visit entry.1).settled w = true →
      w = entry.1 ∨ search.settled w = true := by
    intro w isSettled
    by_cases same : w = entry.1
    · exact Or.inl same
    · exact Or.inr (by simpa [Search.visit, Function.update_apply, same] using isSettled)
  refine ⟨?_, by simp [Search.visit], below⟩
  constructor
  case finite => exact fun other later => sound.finite other (older other later)
  case upper => exact fun other later => sound.upper other (older other later)
  case live =>
    intro v unsettled finite
    have different : v ≠ entry.1 := by
      rintro rfl
      simp [Search.visit] at unsettled
    have before : search.settled v = false := by
      simpa [Search.visit, Function.update_apply, different] using unsettled
    rcases (polled_mem order polled).mp (sound.live v before finite) with same | later
    · exact absurd (congrArg Prod.fst same) different
    · exact later
  case floor =>
    intro u isSettled other later
    rcases settledCases u isSettled with rfl | before
    · show turn rank (search.dist entry.1) entry.1 ≤ turn rank other.2 other.1
      rw [current]
      exact ranked search.queue entry rest polled other (older other later)
    · exact sound.floor u before other (older other later)
  case reached =>
    intro u isSettled
    rcases settledCases u isSettled with rfl | before
    · show search.dist entry.1 ≠ ⊤
      rw [current]
      exact sound.finite entry member
    · exact sound.reached u before
  case entered => exact sound.entered
  case relaxed =>
    intro u isSettled edge leaves unwaived
    -- The edges out of the polled node are waived until `relax` has seen them.
    rcases settledCases u isSettled with rfl | before
    · exact absurd ⟨rfl, leaves⟩ unwaived
    · exact sound.relaxed u before edge leaves (fun waived => waived)
  case attained => exact sound.attained
  case arrived =>
    intro v finite
    rcases sound.arrived v finite with boarded | ⟨u, edge, record, isSettled, leaves, ends, value,
      aboveEntry, aboveHops⟩
    · exact Or.inl boarded
    · refine Or.inr ⟨u, edge, record, ?_, leaves, ends, value, aboveEntry, ?_⟩
      · by_cases same : u = entry.1
        · simp [Search.visit, same]
        · simpa [Search.visit, Function.update_apply, same] using isSettled
      · intro w settledW less
        rcases settledCases w settledW with rfl | before
        · have bound := sound.floor u isSettled entry member
          rw [← current] at bound
          exact absurd less (not_lt.mpr bound)
        · exact aboveHops w before less

end Poll

section Loop
variable {order : QueueOrder K} (ranked : Ranked rank order)
variable (positive : ∀ u, ∀ edge ∈ graph.edges u, 0 < edge.minutes)
include ranked positive

theorem settle_sound {entry : Entry K} {rest : List (Entry K)}
    (sound : Sound graph candidates boardCost rank [] (fun _ _ => False) search)
    (polled : order.poll search.queue = some (entry, rest))
    (fresh : search.settled entry.1 = false) :
    Sound graph candidates boardCost rank [] (fun _ _ => False)
        (settle graph entry.1 { search with queue := rest }) ∧
      ∀ w, ({ search with queue := rest }.visit entry.1).settled w = true →
        (settle graph entry.1 { search with queue := rest }).dist w = search.dist w ∧
        (settle graph entry.1 { search with queue := rest }).arrivals w = search.arrivals w := by
  obtain ⟨visited, expanding⟩ := poll_fresh ranked sound polled fresh
  exact relax_all_sound (graph.edges entry.1) visited expanding
    (fun edge leaves => ⟨leaves, positive entry.1 edge leaves⟩)

theorem drain_sound (fuel : Nat)
    (sound : Sound graph candidates boardCost rank [] (fun _ _ => False) search) :
    Sound graph candidates boardCost rank [] (fun _ _ => False) (drain graph order fuel search) := by
  induction fuel generalizing search with
  | zero => exact sound
  | succ fuel ih =>
      unfold drain
      split
      · exact sound
      · rename_i entry rest polled
        dsimp only
        cases fresh : search.settled entry.1 with
        | true => exact ih (poll_stale sound polled fresh)
        | false => exact ih (settle_sound ranked positive sound polled fresh).1

theorem search_sound (geo : GeoDistance K) (lat lng : K) :
    Sound graph (accessCandidates geo graph lat lng) (boardMinutes geo lat lng) rank []
      (fun _ _ => False) (JourneySearch.search geo graph order lat lng) :=
  drain_sound ranked positive _ (board_all_sound geo lat lng)

end Loop

end Steps

omit [Field K] in
theorem order_unranked (order : QueueOrder K) : Ranked (fun _ => 0) order := by
  intro queue entry rest polled other member
  rcases lt_or_eq_of_le (order.least queue entry rest polled other member) with less | same
  · exact turn_le_of_dist_lt _ less _ _
  · exact Prod.Lex.toLex_le_toLex.mpr (Or.inr ⟨same, le_refl _⟩)

def servingBy : QueueOrder K :=
  Polling.refine Prod.snd (fun entry => turn rank entry.2 entry.1)
    (fun _ _ => dist_le_of_turn_le rank)

omit [Field K] in
theorem serving_ranked : Ranked rank (servingBy rank : QueueOrder K) :=
  fun _ _ _ polled _ member => refine_least polled member

end Invariant

/-! ## The loop ends -/

section Termination
variable (graph : Graph K)

def workLeft (search : Search K) : Nat :=
  search.queue.length +
    ∑ u ∈ Finset.range graph.nodes.length, if search.settled u then 0 else (graph.edges u).length

theorem relax_all_queue (u : Nat) (edges : List (Edge K)) (search : Search K) :
    (edges.foldl (relax u) search).queue.length ≤ search.queue.length + edges.length := by
  induction edges generalizing search with
  | nil => simp
  | cons edge rest ih =>
      have head : (relax u search edge).queue.length ≤ search.queue.length + 1 := by
        unfold relax
        dsimp only
        split
        · simp [Search.improve]
        · exact Nat.le_succ _
      have tail := ih (relax u search edge)
      simp only [List.foldl_cons, List.length_cons]
      omega

omit [Field K] [LinearOrder K] in
theorem edges_outside (u : Nat) (outside : graph.nodes.length ≤ u) : graph.edges u = [] := by
  rw [Graph.edges, List.getD_eq_getElem?_getD,
    List.getElem?_eq_none (by rw [graph.sized]; exact outside)]
  rfl

omit [Field K] [LinearOrder K] in
theorem visit_edges_left (u : Nat) (search : Search K) (fresh : search.settled u = false) :
    (∑ v ∈ Finset.range graph.nodes.length,
        if (search.visit u).settled v then 0 else (graph.edges v).length) + (graph.edges u).length =
      ∑ v ∈ Finset.range graph.nodes.length,
        if search.settled v then 0 else (graph.edges v).length := by
  by_cases inside : u < graph.nodes.length
  · have member := Finset.mem_range.mpr inside
    rw [← Finset.add_sum_erase _ _ member, ← Finset.add_sum_erase _ _ member]
    have others : ∀ v ∈ (Finset.range graph.nodes.length).erase u,
        (if (search.visit u).settled v then 0 else (graph.edges v).length) =
          if search.settled v then 0 else (graph.edges v).length := by
      intro v memberV
      simp [Search.visit, Finset.ne_of_mem_erase memberV]
    rw [Finset.sum_congr rfl others]
    simp [Search.visit, fresh]
    omega
  · rw [edges_outside graph u (Nat.le_of_not_lt inside)]
    have others : ∀ v ∈ Finset.range graph.nodes.length,
        (if (search.visit u).settled v then 0 else (graph.edges v).length) =
          if search.settled v then 0 else (graph.edges v).length := by
      intro v memberV
      have different : v ≠ u := by
        rintro rfl
        exact inside (Finset.mem_range.mp memberV)
      simp [Search.visit, different]
    rw [Finset.sum_congr rfl others]
    simp

theorem settle_work (u : Nat) (search : Search K) (fresh : search.settled u = false) :
    workLeft graph (settle graph u search) ≤ workLeft graph search := by
  -- Every edge out of `u` is one entry queued at most, and is not left any more.
  have queued := relax_all_queue u (graph.edges u) (search.visit u)
  have left := visit_edges_left graph u search fresh
  unfold workLeft settle
  rw [relax_all_settled]
  simp only [Search.visit] at queued left ⊢
  omega

theorem drain_empty (order : QueueOrder K) (fuel : Nat) (search : Search K)
    (enough : workLeft graph search ≤ fuel) : (drain graph order fuel search).queue = [] := by
  induction fuel generalizing search with
  | zero =>
      have none : search.queue.length = 0 := by
        simp only [workLeft] at enough
        omega
      exact List.length_eq_zero_iff.mp none
  | succ fuel ih =>
      unfold drain
      split
      · rename_i ended
        exact (order.empty search.queue).mp ended
      · rename_i entry rest polled
        dsimp only
        have shorter := polled_length order polled
        have less : workLeft graph { search with queue := rest } ≤ fuel := by
          simp only [workLeft] at enough ⊢
          omega
        split
        · exact ih _ less
        · rename_i unsettled
          have fresh : search.settled entry.1 = false := by simpa using unsettled
          exact ih _ (le_trans (settle_work graph entry.1 _ fresh) less)

theorem board_all_queue (geo : GeoDistance K) (lat lng : K) (candidates : List (Node K))
    (search : Search K) : (candidates.foldl (board geo lat lng) search).queue.length ≤
      search.queue.length + candidates.length ∧
      (candidates.foldl (board geo lat lng) search).settled = search.settled := by
  induction candidates generalizing search with
  | nil => simp
  | cons node rest ih =>
      have head : (board geo lat lng search node).queue.length ≤ search.queue.length + 1 ∧
          (board geo lat lng search node).settled = search.settled := by
        unfold board
        dsimp only
        split <;> simp [Search.improve]
      obtain ⟨queued, kept⟩ := ih (board geo lat lng search node)
      simp only [List.foldl_cons, List.length_cons]
      exact ⟨by omega, kept.trans head.2⟩

/-- The polls `search` allows are enough: its queue loop ends with an empty queue. -/
theorem search_ends (geo : GeoDistance K) (order : QueueOrder K) (lat lng : K) :
    (search geo graph order lat lng).queue = [] := by
  apply drain_empty
  obtain ⟨queued, kept⟩ := board_all_queue geo lat lng (accessCandidates geo graph lat lng)
    (Search.start : Search K)
  unfold workLeft edgeCount boardAll
  rw [kept]
  simp only [Search.start, List.length_nil] at queued ⊢
  simp
  omega

end Termination

end CityBus.JourneySearch
