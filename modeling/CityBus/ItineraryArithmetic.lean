import CityBus.JourneyCompleteness
import CityBus.UnroundedFold

/-!
Whether the totals of an itinerary are the sums over its legs. The search
charges a wait on every boarding and every transfer, `fold` shows one for every
ride, so they differ by the waits at stops where no bus is taken.
-/

namespace CityBus.ItineraryArithmetic

open GeoUtils JourneyGraph CheapestPaths JourneySearch JourneyOptimality JourneyPlan
open JourneyCompleteness UnroundedFold

variable {K : Type} [Field K] [LinearOrder K]

def rides (legs : List (Leg K)) : List (Leg K) := legs.filter isRide

def legMinutes (legs : List (Leg K)) : K :=
  (legs.map (·.durationMinutes)).sum + ((rides legs).map fun leg => leg.waitMinutes.getD 0).sum

/-- Every transfer is a change of bus, and the total is the time on the legs and
the waits for their buses. -/
structure AddsUp (response : Response K) : Prop where
  changes : (response.transfers : Int) = (rides response.legs).length - 1
  minutes : response.totalMinutes = legMinutes response.legs

/-- How many of the waits along a chain are not for a bus of the chain; `waiting`
when one waits at its first stop. -/
def idleWaits : Bool → List (Edge K) → Nat
  | waiting, [] => if waiting then 1 else 0
  | waiting, edge :: rest =>
      match edge.kind with
      | .RIDE => idleWaits false rest
      | .TRANSFER => (if waiting then 1 else 0) + idleWaits true rest

def waitAt (node : Node K) : K := node.route.frequencyMinutes / (2 : Nat)

omit [LinearOrder K] in
@[simp] theorem leg_minutes_append (front back : List (Leg K)) :
    legMinutes (front ++ back) = legMinutes front + legMinutes back := by
  simp only [legMinutes, rides, List.map_append, List.filter_append, List.sum_append]
  ring

omit [Field K] [LinearOrder K] in
@[simp] theorem rides_append (front back : List (Leg K)) :
    rides (front ++ back) = rides front ++ rides back := by
  simp [rides]

/-! ## The books of fold -/

section Books
variable {graph : Graph K} {arrivals : Nat → Option (Arrival K)}

omit [LinearOrder K] in
@[simp] theorem walk_leg_minutes (fromName toName : String) (km : K) (geometry : List (K × K)) :
    legMinutes [walkLegWith .exact fromName toName km geometry] = walkMinutes km := by
  simp [legMinutes, rides, walkLegWith, isRide, Rounding.exact]

omit [LinearOrder K] in
@[simp] theorem rides_walk_leg (rounding : Rounding K) (fromName toName : String) (km : K)
    (geometry : List (K × K)) : rides [walkLegWith rounding fromName toName km geometry] = [] := by
  simp [rides, walkLegWith, isRide]

def rideMinutes (graph : Graph K) (folding : Folding K) : K :=
  ((rideEdges graph folding.rideStart folding.riding).map (·.minutes)).sum

/-- What was spent up to the current stop: the legs, the `idle` waits, the wait
at `rideStart` and the ride that is not a leg yet. -/
structure Accounts (graph : Graph K) (folding : Folding K) (spent : K) (idle : List (Node K)) :
    Prop where
  minutes : spent = legMinutes folding.legs + (idle.map waitAt).sum + waitAt folding.rideStart +
    rideMinutes graph folding
  changes : folding.transfers = (rides folding.legs).length + idle.length

structure Settled (folding : Folding K) (spent : K) (idle : List (Node K)) : Prop where
  minutes : spent = legMinutes folding.legs + (idle.map waitAt).sum
  changes : folding.transfers + 1 = (rides folding.legs).length + idle.length

theorem add_ride_leaves {folding : Folding K} (standing : folding.riding = []) :
    addRideWith .exact graph folding = folding := by
  simp [addRideWith, standing]

variable (graph) in
theorem add_ride_pays {folding : Folding K} (riding : folding.riding ≠ []) :
    legMinutes (addRideWith .exact graph folding).legs =
        legMinutes folding.legs + waitAt folding.rideStart + rideMinutes graph folding ∧
      (rides (addRideWith .exact graph folding).legs).length = (rides folding.legs).length + 1 ∧
      (addRideWith .exact graph folding).transfers = folding.transfers := by
  have ended := List.getLast?_eq_some_getLast riding
  simp only [addRideWith, ended, leg_minutes_append, rides_append, List.length_append]
  constructor
  · simp [legMinutes, rides, rideLegWith, isRide, Rounding.exact, waitAt, rideMinutes]
    ring
  · simp [rides, rideLegWith, isRide]

omit [LinearOrder K] in
theorem accounts_wait {folding : Folding K} {spent : K} {idle : List (Node K)}
    (accounts : Accounts graph folding spent idle) (standing : folding.riding = []) :
    Settled folding spent (idle ++ [folding.rideStart]) := by
  constructor
  case minutes =>
    rw [accounts.minutes]
    simp [rideMinutes, standing, rideEdges]
    ring
  case changes =>
    rw [accounts.changes]
    simp
    omega

theorem accounts_ride {folding : Folding K} {spent : K} {idle : List (Node K)}
    (accounts : Accounts graph folding spent idle) (riding : folding.riding ≠ []) :
    Settled (addRideWith .exact graph folding) spent idle := by
  obtain ⟨paid, counted, kept⟩ := add_ride_pays graph riding
  constructor
  case minutes =>
    rw [accounts.minutes, paid]
    ring
  case changes =>
    rw [kept, counted, accounts.changes]
    omega

omit [LinearOrder K] in
/-- A transfer walk opens new books at the stop it leads to. -/
theorem settled_transfer {folding : Folding K} {spent : K} {idle : List (Node K)} {node : Node K}
    {edge : Edge K} (settled : Settled folding spent idle)
    (price : edge.minutes = walkMinutes edge.km + waitAt node) :
    Accounts graph (addTransferWith .exact folding node edge) (spent + edge.minutes) idle := by
  constructor
  case minutes =>
    rw [settled.minutes, price]
    simp only [addTransferWith, leg_minutes_append, walk_leg_minutes, rideMinutes, rideEdges]
    simp
    ring
  case changes =>
    simpa [addTransferWith] using settled.changes

omit [LinearOrder K] in
/-- Settled books and the egress walk add up when no wait was idle. -/
theorem settled_adds_up_iff {folding : Folding K} {spent : K} {idle : List (Node K)}
    (settled : Settled folding spent idle) (egressKm totalKm : K)
    (fromName toName summary : String) (geometry : List (K × K)) :
    AddsUp ⟨spent + walkMinutes egressKm, totalKm, folding.transfers, summary,
        folding.legs ++ [walkLegWith .exact fromName toName egressKm geometry]⟩ ↔
      idle.length = 0 := by
  have minutes := settled.minutes
  have changes := settled.changes
  constructor
  · intro adds
    have shown := adds.changes
    simp only [rides_append, rides_walk_leg, List.append_nil] at shown
    omega
  · intro none
    rw [List.length_eq_zero_iff.mp none] at minutes changes
    constructor
    case changes =>
      simp only [rides_append, rides_walk_leg, List.append_nil, List.length_nil] at changes ⊢
      omega
    case minutes => simpa using minutes

omit [Field K] [LinearOrder K] in
theorem ride_edges_concat (graph : Graph K) (start node : Node K) (riding : List (Node K)) :
    rideEdges graph start (riding ++ [node]) =
      rideEdges graph start riding ++ (rideHop graph (riding.getLastD start) node).toList := by
  induction riding generalizing start with
  | nil => simp [rideEdges]
  | cons next rest ih =>
      rw [List.cons_append, rideEdges, ih, rideEdges, List.append_assoc, List.getLastD_cons]

omit [LinearOrder K] in
theorem accounts_ride_on {folding : Folding K} {spent : K} {idle : List (Node K)} {node : Node K}
    {edge : Edge K} (accounts : Accounts graph folding spent idle)
    (found : rideHop graph (folding.riding.getLastD folding.rideStart) node = some edge) :
    Accounts graph { folding with riding := folding.riding ++ [node] } (spent + edge.minutes)
      idle := by
  constructor
  case minutes =>
    rw [accounts.minutes]
    simp only [rideMinutes, ride_edges_concat, found]
    simp
    ring
  case changes => exact accounts.changes

/-! ## The hops of a chain -/

/-- `fold` finds the edge of a ride again, and a transfer costs the walk and the
wait where it leads to. -/
structure Priced (graph : Graph K) (previous node : Node K) (edge : Edge K) : Prop where
  ride : edge.kind = .RIDE → rideHop graph previous node = some edge
  transfer : edge.kind = .TRANSFER → edge.minutes = walkMinutes edge.km + waitAt node

inductive Hops (graph : Graph K) (arrivals : Nat → Option (Arrival K)) :
    Node K → List (Node K) → List (Edge K) → Prop where
  | nil (node : Node K) : Hops graph arrivals node [] []
  | cons {previous node : Node K} {edge : Edge K} {rest : List (Node K)} {edges : List (Edge K)}
      (via : (arrivals node.id).bind (·.viaEdge) = some edge)
      (priced : Priced graph previous node edge) (tail : Hops graph arrivals node rest edges) :
      Hops graph arrivals previous (node :: rest) (edge :: edges)

theorem fold_hop_accounts {folding : Folding K} {spent : K} {idle : List (Node K)} {node : Node K}
    {edge : Edge K} (accounts : Accounts graph folding spent idle)
    (via : (arrivals node.id).bind (·.viaEdge) = some edge)
    (priced : Priced graph (folding.riding.getLastD folding.rideStart) node edge) :
    ∃ idle', Accounts graph (foldHopWith .exact graph arrivals false folding node)
        (spent + edge.minutes) idle' ∧
      (foldHopWith .exact graph arrivals false folding node).riding.getLastD
        (foldHopWith .exact graph arrivals false folding node).rideStart = node ∧
      ∀ edges, idle'.length +
          idleWaits (foldHopWith .exact graph arrivals false folding node).riding.isEmpty edges =
        idle.length + idleWaits folding.riding.isEmpty (edge :: edges) := by
  cases kind : edge.kind with
  | RIDE =>
      simp only [foldHopWith, via, kind]
      refine ⟨idle, accounts_ride_on accounts (priced.ride kind), ?_, ?_⟩
      · simp
      · intro edges
        have riding : (folding.riding ++ [node]).isEmpty = false :=
          List.isEmpty_eq_false_iff.mpr (by simp)
        simp [idleWaits, kind, riding]
  | TRANSFER =>
      simp only [foldHopWith, via, kind]
      by_cases standing : folding.riding = []
      · rw [add_ride_leaves standing]
        have settled := accounts_wait accounts standing
        refine ⟨_, settled_transfer settled (priced.transfer kind), rfl, ?_⟩
        intro edges
        simp [addTransferWith, idleWaits, kind, standing]
        omega
      · have settled := accounts_ride accounts standing
        refine ⟨_, settled_transfer settled (priced.transfer kind), rfl, ?_⟩
        intro edges
        simp [addTransferWith, idleWaits, kind, standing]

/-- After the last hop nothing is pending, but for a wait at the last stop. -/
theorem fold_last_hop_settles {folding : Folding K} {spent : K} {idle : List (Node K)}
    {node : Node K} {edge : Edge K} (accounts : Accounts graph folding spent idle)
    (via : (arrivals node.id).bind (·.viaEdge) = some edge)
    (priced : Priced graph (folding.riding.getLastD folding.rideStart) node edge) :
    ∃ idle', Settled (foldHopWith .exact graph arrivals true folding node)
        (spent + edge.minutes) idle' ∧
      idle'.length = idle.length + idleWaits folding.riding.isEmpty [edge] := by
  obtain ⟨idle', after, _, counted⟩ := fold_hop_accounts accounts via priced
  have total := counted []
  cases kind : edge.kind with
  | RIDE =>
      simp only [foldHopWith, via, kind] at after total ⊢
      refine ⟨idle', accounts_ride after (by simp), ?_⟩
      simpa [idleWaits] using total
  | TRANSFER =>
      simp only [foldHopWith, via, kind] at after total ⊢
      refine ⟨_, accounts_wait after rfl, ?_⟩
      simpa [idleWaits, addTransferWith] using total

theorem fold_hops_settles {folding : Folding K} {spent : K} {idle rest : List (Node K)}
    {edges : List (Edge K)} (accounts : Accounts graph folding spent idle)
    (hops : Hops graph arrivals (folding.riding.getLastD folding.rideStart) rest edges)
    (started : rest ≠ [] ∨ folding.riding = []) :
    ∃ idle', Settled (foldHopsWith .exact graph arrivals folding rest)
        (spent + pathCost Edge.minutes edges) idle' ∧
      idle'.length = idle.length + idleWaits folding.riding.isEmpty edges := by
  generalize here : folding.riding.getLastD folding.rideStart = previous at hops
  induction hops generalizing folding spent idle with
  | nil node =>
      have standing : folding.riding = [] := started.resolve_left fun more => more rfl
      refine ⟨_, by simpa [foldHopsWith] using accounts_wait accounts standing, ?_⟩
      simp [standing, idleWaits]
  | @cons previous node edge rest edges via priced tail ih =>
      subst here
      cases tail with
      | nil =>
          obtain ⟨idle', settled, counted⟩ := fold_last_hop_settles accounts via priced
          exact ⟨idle', by simpa [foldHopsWith] using settled, counted⟩
      | cons via' priced' tail' =>
          obtain ⟨middle, after, current, counted⟩ := fold_hop_accounts accounts via priced
          obtain ⟨idle', settled, total⟩ := ih after (Or.inl (by simp)) current
          refine ⟨idle', ?_, total.trans (counted _)⟩
          rw [path_cost_cons, ← add_assoc]
          exact settled

end Books

/-! ## Chains of a compiled graph -/

section Compiled
variable (geo : GeoDistance K) (rows : List (Route K))

theorem build_priced {previous node : Node K} {edge : Edge K}
    (leaves : edge ∈ (build geo rows).edges previous.id)
    (arrives : (build geo rows).nodes[edge.target]? = some node) :
    Priced (build geo rows) previous node edge := by
  have atId : node.id = edge.target := (build geo rows).ids _ _ arrives
  constructor
  case ride =>
    intro kind
    cases found : rideHop (build geo rows) previous node with
    | none =>
        have refused := List.find?_eq_none.mp found edge leaves
        simp [atId, kind] at refused
    | some other =>
        have same := List.find?_some found
        simp only [decide_eq_true_eq] at same
        have twin := build_edge_unique geo rows (List.mem_of_find?_eq_some found) leaves
          (same.1.trans atId)
        rw [twin]
  case transfer =>
    intro kind
    obtain ⟨source, goal, _, atGoal, ride | walk⟩ := build_edge_cases geo rows leaves
    · rw [ride.1] at kind
      exact absurd kind (by simp)
    · have same : goal = node := Option.some.inj (atGoal.symm.trans arrives)
      rw [walk.2, same]
      rfl

theorem chain_hops {arrivals : Nat → Option (Arrival K)} {origin : Node K} {edges : List (Edge K)}
    {v : Nat} (path : Path (build geo rows).edges Edge.target origin.id edges v)
    (board : origin ∈ (build geo rows).nodes)
    (recorded : ∀ edge ∈ edges, (arrivals edge.target).bind (·.viaEdge) = some edge) :
    ∃ rest, (origin.id :: edges.map Edge.target).filterMap ((build geo rows).nodes[·]?) =
        origin :: rest ∧
      Hops (build geo rows) arrivals origin rest edges := by
  induction edges generalizing origin with
  | nil =>
      refine ⟨[], ?_, Hops.nil origin⟩
      simp [graph_node (build geo rows) board]
  | cons edge rest ih =>
      cases path with
      | cons leaves tail =>
          have inside := edge_target (build geo rows) _ edge leaves
          obtain ⟨node, found⟩ : ∃ node, (build geo rows).nodes[edge.target]? = some node :=
            ⟨_, List.getElem?_eq_getElem inside⟩
          have atId : node.id = edge.target := (build geo rows).ids _ _ found
          have via := recorded edge List.mem_cons_self
          rw [← atId] at tail via
          obtain ⟨nodes, looked, hops⟩ := ih tail (List.mem_of_getElem? found)
            (fun other member => recorded other (List.mem_cons_of_mem edge member))
          rw [atId] at looked
          refine ⟨node :: nodes, ?_, Hops.cons via (build_priced geo rows leaves found) hops⟩
          rw [List.filterMap_cons, graph_node (build geo rows) board, List.map_cons, looked]

variable {finished : Search K} {origin last : Node K} {edges : List (Edge K)}
variable {fromLat fromLng toLat toLng : K}

/-- What `fold` returns adds up exactly when the chain has no idle wait. -/
theorem fold_adds_up_iff {candidates : List (Node K)} {response : Response K}
    (spelled : SpelledChain (build geo rows) candidates (boardMinutes geo fromLat fromLng) finished
      (build geo rows).nodes.length last.id origin edges)
    (board : origin ∈ (build geo rows).nodes) (alights : last ∈ (build geo rows).nodes)
    (returned : foldWith .exact (build geo rows) finished.arrivals geo last.id
      (boardMinutes geo fromLat fromLng origin + pathCost Edge.minutes edges +
        egressMinutes geo toLat toLng last)
      (nodeDistance geo toLat toLng last * INDIRECTNESS) fromLat fromLng toLat toLng =
        some response) :
    AddsUp response ↔ idleWaits true edges = 0 := by
  obtain ⟨rest, looked, hops⟩ := chain_hops geo rows spelled.path board spelled.recorded
  unfold foldWith at returned
  simp only [spelled.nodes, looked, graph_node (build geo rows) alights] at returned
  split at returned
  · simp at returned
  · obtain rfl := Option.some.inj returned
    have opened : Accounts (build geo rows)
        ⟨[walkLegWith .exact "Your location" origin.stop.name
          (nodeDistance geo fromLat fromLng origin * INDIRECTNESS)
          [(fromLat, fromLng), (origin.stop.lat, origin.stop.lng)]], origin, [], 0,
          nodeDistance geo fromLat fromLng origin * INDIRECTNESS⟩
        (boardMinutes geo fromLat fromLng origin) [] := by
      constructor
      case minutes => simp [rideMinutes, rideEdges, boardMinutes, waitAt]
      case changes => simp
    obtain ⟨idle, settled, counted⟩ := fold_hops_settles opened hops (Or.inr rfl)
    have waits : idle.length = idleWaits true edges := by simpa using counted
    rw [← waits]
    exact settled_adds_up_iff settled _ _ _ _ _ _

end Compiled

/-! ## planTransit -/

section Transit
variable (geo : GeoDistance K) (rows : List (Route K)) (fromLat fromLng toLat toLng : K)
variable [FloorRing K] [IsStrictOrderedRing K]

theorem transit_adds_up {order : QueueOrder K} {rank : Nat → Nat} (ranked : Ranked rank order) :
    (planTransitWith .exact (build geo rows) geo order fromLat fromLng toLat toLng = none ∧
        ∀ node ∈ accessCandidates geo (build geo rows) toLat toLng,
          originChains geo (build geo rows) fromLat fromLng node.id = ∅) ∨
      ∃ last cost origin edges,
        AlightingStop geo (build geo rows) fromLat fromLng toLat toLng last cost ∧
        EarliestChain (build geo rows) (accessCandidates geo (build geo rows) fromLat fromLng)
          (boardMinutes geo fromLat fromLng) rank origin edges last.id cost ∧
        (planTransitWith .exact (build geo rows) geo order fromLat fromLng toLat toLng = none ↔
          ¬ boards edges) ∧
        ∀ response,
          planTransitWith .exact (build geo rows) geo order fromLat fromLng toLat toLng =
            some response →
          (AddsUp response ↔ idleWaits true edges = 0) := by
  have positive : ∀ u, ∀ edge ∈ (build geo rows).edges u, 0 < edge.minutes :=
    fun _ _ leaves => build_minutes_pos geo rows leaves
  rcases transit_chain geo (build geo rows) fromLat fromLng toLat toLng ranked positive with
    ⟨none, unreached⟩ |
      ⟨last, cost, origin, edges, stop, earliest, spelled, alights, board, paid, chosen⟩
  · exact Or.inl ⟨by simp [planTransitWith, none], unreached⟩
  · refine Or.inr ⟨last, cost, origin.id, edges, stop, earliest, ?_, ?_⟩
    · rw [exact_none_iff, ← fold_none_iff geo (cost + egressMinutes geo toLat toLng last)
        (nodeDistance geo toLat toLng last * INDIRECTNESS) fromLat fromLng toLat toLng spelled board
        alights]
      simp only [planTransit, planTransitWith, chosen, WithTop.untopD_coe, fold]
    · intro response returned
      simp only [planTransitWith, chosen, WithTop.untopD_coe, paid] at returned
      exact fold_adds_up_iff geo rows spelled board alights returned

/-- Every itinerary between two endpoints adds up exactly when no chain the
search can keep for the alighting stop rides a bus and has an idle wait. -/
theorem itineraries_add_up_iff :
    (∀ order response,
        planTransitWith .exact (build geo rows) geo order fromLat fromLng toLat toLng =
          some response → AddsUp response) ↔
      ∀ last cost origin edges,
        AlightingStop geo (build geo rows) fromLat fromLng toLat toLng last cost →
        keptChain geo (build geo rows) fromLat fromLng origin edges last cost →
        boards edges → idleWaits true edges = 0 := by
  have positive : ∀ u, ∀ edge ∈ (build geo rows).edges u, 0 < edge.minutes :=
    fun _ _ leaves => build_minutes_pos geo rows leaves
  have single : ∀ u, ∀ left ∈ (build geo rows).edges u, ∀ right ∈ (build geo rows).edges u,
      left.target = right.target → left = right :=
    fun _ _ leavesLeft _ leavesRight ends => build_edge_unique geo rows leavesLeft leavesRight ends
  constructor
  · intro always last cost origin edges stop kept rides
    obtain ⟨rank, order, ranked, unique⟩ := kept_chain_served geo (build geo rows) fromLat fromLng
      toLat toLng positive single stop kept
    rcases transit_adds_up geo rows fromLat fromLng toLat toLng ranked with
      ⟨_, unreached⟩ | ⟨other, near, start, spelled, stop', served, dropped, adds⟩
    · obtain ⟨before, after, split, _⟩ := stop.first
      have empty := unreached last (by simp [split])
      have reached := stop.cheapest.1
      rw [empty] at reached
      exact absurd reached (Set.notMem_empty cost)
    · rw [unique other near start spelled stop' served] at dropped adds
      cases returned : planTransitWith .exact (build geo rows) geo order fromLat fromLng toLat toLng with
      | none => exact absurd rides (dropped.mp returned)
      | some response => exact (adds response returned).mp (always order response returned)
  · intro condition order response returned
    rcases transit_adds_up geo rows fromLat fromLng toLat toLng (order_unranked order) with
      ⟨none, _⟩ | ⟨last, cost, origin, edges, stop, kept, dropped, adds⟩
    · rw [none] at returned
      exact absurd returned (by simp)
    · apply (adds response returned).mpr
      apply condition last cost origin edges stop kept
      by_contra walks
      rw [dropped.mpr walks] at returned
      exact absurd returned (by simp)

end Transit

/-! ## A bus that is waited for and not taken

Two lines along a meridian, in kilometres north of the origin. Only the quay is
near enough to walk to; from there it is a short walk to the gate, where the
line to the destination begins. -/

section Terrace
open Real

noncomputable def quayLine : Route ℝ :=
  lineAlong [⟨north (7 / 5), 0⟩, ⟨north (-50), 0⟩]
    [⟨none, "Quay", north (7 / 5), 0⟩, ⟨none, "Lighthouse", north (-50), 0⟩]

noncomputable def hillLine : Route ℝ :=
  { lineAlong [⟨north (8 / 5), 0⟩, ⟨north (33 / 5), 0⟩]
      [⟨none, "Gate", north (8 / 5), 0⟩, ⟨none, "Summit", north (33 / 5), 0⟩] with
    id := 2
    routeNumber := 8 }

noncomputable def terraceRows : List (Route ℝ) := [quayLine, hillLine]

noncomputable def terrace : Graph ℝ := build haversine terraceRows

noncomputable def quay : Node ℝ :=
  ⟨0, quayLine, 0, ⟨none, "Quay", north (7 / 5), 0⟩,
    project haversine (north (7 / 5)) 0 (pathPoints quayLine)⟩

noncomputable def lighthouse : Node ℝ :=
  ⟨1, quayLine, 1, ⟨none, "Lighthouse", north (-50), 0⟩,
    project haversine (north (-50)) 0 (pathPoints quayLine)⟩

noncomputable def gate : Node ℝ :=
  ⟨2, hillLine, 0, ⟨none, "Gate", north (8 / 5), 0⟩,
    project haversine (north (8 / 5)) 0 (pathPoints hillLine)⟩

noncomputable def summit : Node ℝ :=
  ⟨3, hillLine, 1, ⟨none, "Summit", north (33 / 5), 0⟩,
    project haversine (north (33 / 5)) 0 (pathPoints hillLine)⟩

theorem terrace_nodes : terrace.nodes = [quay, lighthouse, gate, summit] := by
  simp [terrace, terraceRows, build, servedRoutes, findAllByOrderByRouteNumberAsc, layNodes,
    stopNodes, quayLine, hillLine, lineAlong, quay, lighthouse, gate, summit]

theorem terrace_boarding : accessCandidates haversine terrace (north 0) 0 = [quay] := by
  have nearQuay : nodeDistance haversine (north 0) 0 quay = 7 / 5 := by
    rw [nodeDistance, quay, haversine_north] <;> norm_num
  have farLighthouse : nodeDistance haversine (north 0) 0 lighthouse = 50 := by
    rw [nodeDistance, lighthouse, haversine_north] <;> norm_num
  have farGate : nodeDistance haversine (north 0) 0 gate = 8 / 5 := by
    rw [nodeDistance, gate, haversine_north] <;> norm_num
  have farSummit : nodeDistance haversine (north 0) 0 summit = 33 / 5 := by
    rw [nodeDistance, summit, haversine_north] <;> norm_num
  norm_num [accessCandidates, terrace_nodes, nearQuay, farLighthouse, farGate, farSummit,
    MAX_ACCESS_WALK_KM, MAX_ACCESS_CANDIDATES]

theorem terrace_alighting : accessCandidates haversine terrace (north (33 / 5)) 0 = [summit] := by
  have farQuay : nodeDistance haversine (north (33 / 5)) 0 quay = 26 / 5 := by
    rw [nodeDistance, quay, haversine_north] <;> norm_num
  have farLighthouse : nodeDistance haversine (north (33 / 5)) 0 lighthouse = 283 / 5 := by
    rw [nodeDistance, lighthouse, haversine_north] <;> norm_num
  have farGate : nodeDistance haversine (north (33 / 5)) 0 gate = 5 := by
    rw [nodeDistance, gate, haversine_north] <;> norm_num
  have nearSummit : nodeDistance haversine (north (33 / 5)) 0 summit = 0 := by
    rw [nodeDistance, summit, haversine_north] <;> norm_num
  norm_num [accessCandidates, terrace_nodes, farQuay, farLighthouse, farGate, nearSummit,
    MAX_ACCESS_WALK_KM, MAX_ACCESS_CANDIDATES]

theorem terrace_edge_cases {u : Nat} {edge : Edge ℝ} (leaves : edge ∈ terrace.edges u) :
    (u, edge.target, edge.kind) ∈ [(0, 1, EdgeKind.RIDE), (1, 0, .RIDE), (2, 3, .RIDE), (3, 2, .RIDE),
      (0, 2, .TRANSFER), (2, 0, .TRANSFER)] := by
  rw [terrace, build_edge_iff, ← terrace, terrace_nodes] at leaves
  norm_num [hops, rideHops, transferHop, quay, lighthouse, gate, summit, quayLine, hillLine, lineAlong,
    stopDistance, haversine_north, MAX_TRANSFER_WALK_KM] at leaves
  rcases leaves.2 with ⟨rfl, rfl⟩ | ⟨rfl, rfl⟩ | ⟨rfl, rfl⟩ | ⟨rfl, rfl⟩ | ⟨rfl, rfl⟩ | ⟨rfl, rfl⟩ <;>
    simp

theorem terrace_walk : ∃ edge ∈ terrace.edges 0, edge.target = 2 := by
  refine ⟨⟨2, 1 / 5 / WALK_SPEED_KMH * 60 + 10 / 2, 1 / 5, .TRANSFER⟩, ?_, rfl⟩
  rw [terrace, build_edge_iff, ← terrace, terrace_nodes]
  norm_num [hops, rideHops, transferHop, quay, lighthouse, gate, summit, quayLine, hillLine, lineAlong,
    stopDistance, haversine_north, MAX_TRANSFER_WALK_KM]

theorem terrace_ride : ∃ edge ∈ terrace.edges 2, edge.target = 3 := by
  refine ⟨⟨3, rideKm haversine gate summit / BUS_SPEED_KMH * 60 + DWELL_MINUTES_PER_STOP,
    rideKm haversine gate summit, .RIDE⟩, ?_, rfl⟩
  rw [terrace, build_edge_iff, ← terrace, terrace_nodes]
  simp [hops, rideHops, quay, lighthouse, gate, summit, quayLine, hillLine, lineAlong]

theorem terrace_minutes_pos (u : Nat) (edge : Edge ℝ) (leaves : edge ∈ terrace.edges u) :
    0 < edge.minutes :=
  build_minutes_pos haversine terraceRows leaves

theorem terrace_chain_ge {v : Nat} {total : ℝ}
    (reached : total ∈ originChains haversine terrace (north 0) 0 v) :
    boardMinutes haversine (north 0) 0 quay ≤ total :=
  only_boarding_ge haversine terrace (north 0) 0 terrace_boarding terrace_minutes_pos reached

def terraceChain (rank : Nat → Nat) (origin : Nat) (edges : List (Edge ℝ)) (v : Nat) (cost : ℝ) :
    Prop :=
  EarliestChain terrace (accessCandidates haversine terrace (north 0) 0)
    (boardMinutes haversine (north 0) 0) rank origin edges v cost

theorem terrace_board {v : Nat} {node : Node ℝ}
    (member : node ∈ accessCandidates haversine terrace (north 0) 0) (atNode : node.id = v) :
    v = 0 := by
  rw [terrace_boarding, List.mem_singleton] at member
  rw [← atNode, member]
  rfl

theorem terrace_quay_chain {rank : Nat → Nat} {origin : Nat} {edges : List (Edge ℝ)} {cost : ℝ}
    (kept : terraceChain rank origin edges 0 cost) : edges = [] := by
  generalize atQuay : 0 = v at kept
  cases kept with
  | board => rfl
  | hop _ _ cheapest entries _ =>
      rw [← atQuay] at cheapest entries
      have below := entries _ ⟨quay, by simp [terrace_boarding], rfl, rfl⟩
      exact absurd (terrace_chain_ge cheapest.1) (not_le.mpr below)

theorem terrace_gate_chain {rank : Nat → Nat} {origin : Nat} {edges : List (Edge ℝ)} {cost : ℝ}
    (kept : terraceChain rank origin edges 2 cost)
    (nearer : ∀ near, IsLeast (originChains haversine terrace (north 0) 0 3) near → cost < near) :
    ∃ walk, edges = [walk] ∧ walk.kind = .TRANSFER := by
  generalize atGate : 2 = v at kept
  cases kept with
  | @board node member => exact absurd (terrace_board member atGate.symm) (by simp)
  | @hop _ u edges edge total front leaves =>
      have ends := terrace_edge_cases leaves
      simp [← atGate] at ends
      rcases ends with ⟨rfl, ride⟩ | ⟨rfl, walk⟩
      · have near := nearer total (earliest_cheapest front)
        have longer := terrace_minutes_pos 3 edge leaves
        linarith
      · exact ⟨edge, by rw [terrace_quay_chain front]; rfl, walk⟩

theorem terrace_summit_chain {rank : Nat → Nat} {origin : Nat} {edges : List (Edge ℝ)} {cost : ℝ}
    (kept : terraceChain rank origin edges 3 cost) :
    ∃ walk ride, edges = [walk, ride] ∧ walk.kind = .TRANSFER ∧ ride.kind = .RIDE := by
  generalize atSummit : 3 = v at kept
  cases kept with
  | @board node member => exact absurd (terrace_board member atSummit.symm) (by simp)
  | @hop _ u edges edge total front leaves cheapest =>
      have ends := terrace_edge_cases leaves
      simp [← atSummit] at ends
      obtain ⟨rfl, ride⟩ := ends
      have nearer : ∀ near, IsLeast (originChains haversine terrace (north 0) 0 3) near →
          total < near := by
        intro near least
        rw [← atSummit] at cheapest
        rw [least.unique cheapest]
        linarith [terrace_minutes_pos 2 edge leaves]
      obtain ⟨walk, rfl, onFoot⟩ := terrace_gate_chain front nearer
      exact ⟨walk, edge, rfl, onFoot, ride⟩

theorem terrace_reached : originChains haversine terrace (north 0) 0 3 ≠ ∅ := by
  obtain ⟨walk, leaves, atGate⟩ := terrace_walk
  obtain ⟨ride, leaves', atSummit⟩ := terrace_ride
  have enter : boardMinutes haversine (north 0) 0 quay ∈
      originChains haversine terrace (north 0) 0 0 :=
    entry_chain_cost ⟨quay, by simp [terrace_boarding], rfl, rfl⟩
  have onFoot := edge_chain_cost enter leaves
  rw [atGate] at onFoot
  have rode := edge_chain_cost onFoot leaves'
  rw [atSummit] at rode
  exact Set.Nonempty.ne_empty ⟨_, rode⟩

theorem terrace_alights {last : Node ℝ} {cost : ℝ}
    (stop : AlightingStop haversine terrace (north 0) 0 (north (33 / 5)) 0 last cost) :
    last = summit :=
  only_alighting haversine terrace (north 0) 0 (north (33 / 5)) 0 terrace_alighting stop

theorem terrace_journey (order : QueueOrder ℝ) :
    ∃ response, planTransit haversine terrace order (north 0) 0 (north (33 / 5)) 0 =
      some response := by
  rcases transit_cases haversine terrace (north 0) 0 (north (33 / 5)) 0 (order_unranked order)
    terrace_minutes_pos with ⟨_, unreached⟩ | ⟨last, cost, origin, edges, stop, kept, dropped⟩
  · exact absurd (unreached summit (by simp [terrace_alighting])) terrace_reached
  · obtain rfl := terrace_alights stop
    obtain ⟨walk, ride, rfl, _, rode⟩ := terrace_summit_chain kept
    apply Option.ne_none_iff_exists'.mp
    intro none
    exact dropped.mp none ⟨ride, by simp, rode⟩

/-- The itinerary shows one transfer and one ride, and the wait at the quay is in
its total only, in whatever order the queue serves equal distances. -/
theorem terrace_wait_unshown :
    (∀ order, ∃ response,
      planTransitWith .exact (build haversine terraceRows) haversine order (north 0) 0
        (north (33 / 5)) 0 = some response ∧ ¬ AddsUp response) ∧
    ¬ ∀ order response,
      planTransitWith .exact (build haversine terraceRows) haversine order (north 0) 0
        (north (33 / 5)) 0 = some response → AddsUp response := by
  have wrong : ∀ order, ∃ response,
      planTransitWith .exact (build haversine terraceRows) haversine order (north 0) 0
        (north (33 / 5)) 0 = some response ∧ ¬ AddsUp response := by
    intro order
    rcases transit_adds_up haversine terraceRows (north 0) 0 (north (33 / 5)) 0
      (order_unranked order) with ⟨_, unreached⟩ | ⟨last, cost, origin, edges, stop, kept, dropped, adds⟩
    · exact absurd (unreached summit (by rw [← terrace, terrace_alighting]; simp)) terrace_reached
    · obtain rfl := terrace_alights stop
      obtain ⟨walk, ride, rfl, onFoot, rode⟩ := terrace_summit_chain kept
      cases returned : planTransitWith .exact (build haversine terraceRows) haversine order (north 0)
        0 (north (33 / 5)) 0 with
      | none => exact absurd ⟨ride, by simp, rode⟩ (dropped.mp returned)
      | some response =>
          refine ⟨response, rfl, fun right => ?_⟩
          have idle := (adds response returned).mp right
          simp [idleWaits, onFoot, rode] at idle
  refine ⟨wrong, fun always => ?_⟩
  obtain ⟨response, returned, unequal⟩ := wrong (Polling.first Prod.snd)
  exact unequal (always _ response returned)

theorem terrace_adds_up_iff :
    (∀ order response,
        planTransitWith .exact (build haversine terraceRows) haversine order (north 0) 0
          (north (33 / 5)) 0 = some response → AddsUp response) ↔
      ∀ last cost origin edges,
        AlightingStop haversine (build haversine terraceRows) (north 0) 0 (north (33 / 5)) 0 last cost →
        keptChain haversine (build haversine terraceRows) (north 0) 0 origin edges last cost →
        boards edges → idleWaits true edges = 0 :=
  itineraries_add_up_iff haversine terraceRows (north 0) 0 (north (33 / 5)) 0

end Terrace

end CityBus.ItineraryArithmetic
