import CityBus.FoldedLegs
import CityBus.RouteService

/-!
`rideLegWaypoints` of planner.js, which finds the stops of a RIDE leg again by
their names. The planner knows them by their places in the route, and a route
may have several stops of one name.
-/

namespace CityBus.DrawnRides

open GeoUtils JourneyGraph JourneySearch JourneyPlan UnroundedFold CompiledGraph FoldedLegs
open RouteService Store

variable {K : Type} [Field K] [LinearOrder K]

/-! ## The page -/

section Page

structure ClientStop (K : Type) where
  name : String
  coords : K × K

structure ClientRoute (K : Type) where
  stops : List (ClientStop K)

def clientRoute (response : RouteResponse K) : ClientRoute K where
  stops := response.stops.map fun s => ⟨s.name, (s.lat, s.lng)⟩

/-- `loadBusRoutes`: a later route of the same number takes the entry. -/
def loadBusRoutes : List (RouteResponse K) → Nat → Option (ClientRoute K)
  | [], _ => none
  | response :: rest, routeNumber =>
      match loadBusRoutes rest routeNumber with
      | some route => some route
      | none => if response.routeNumber = routeNumber then some (clientRoute response) else none

def apart (i j : Nat) : Nat := (i - j) + (j - i)

def stepped (i j n : Nat) : Nat := if i ≤ j then i + n else i - n

def between (coords : List (K × K)) (i j : Nat) : List (K × K) :=
  (List.range (apart i j + 1)).filterMap fun n => coords[stepped i j n]?

def rideLegWaypoints (busRoutes : Nat → Option (ClientRoute K)) (leg : Leg K) : List (K × K) :=
  match leg.routeNumber.bind busRoutes with
  | none => leg.geometry
  | some route =>
      let names := route.stops.map (·.name)
      match names.idxOf? leg.fromName, names.idxOf? leg.toName with
      | some i, some j =>
          let pts := between (route.stops.map (·.coords)) i j
          if 2 ≤ pts.length then pts else leg.geometry
      | _, _ => leg.geometry

omit [Field K] [LinearOrder K] in
theorem between_some {coords : List (K × K)} {i j : Nat} (inside : i < coords.length)
    (inside' : j < coords.length) :
    (between coords i j).map some =
      (List.range (apart i j + 1)).map fun n => coords[stepped i j n]? := by
  have all : ∀ n ∈ List.range (apart i j + 1), ∃ point, coords[stepped i j n]? = some point := by
    intro n member
    have bound := List.mem_range.mp member
    refine ⟨_, List.getElem?_eq_getElem ?_⟩
    unfold apart at bound
    unfold stepped
    split <;> omega
  rw [between]
  generalize List.range (apart i j + 1) = steps at all
  induction steps with
  | nil => rfl
  | cons n rest ih =>
      obtain ⟨point, found⟩ := all n List.mem_cons_self
      rw [List.filterMap_cons, found, List.map_cons, List.map_cons, found,
        ih fun m member => all m (List.mem_cons_of_mem n member)]

omit [Field K] [LinearOrder K] in
theorem between_length {coords : List (K × K)} {i j : Nat} (inside : i < coords.length)
    (inside' : j < coords.length) : (between coords i j).length = apart i j + 1 := by
  simpa using congrArg List.length (between_some inside inside')

/-- Step by step the stops from `i'` to `j'` lie where those from `i` to `j` do. -/
def sameWay (coords : List (K × K)) (i' j' i j : Nat) : Prop :=
  apart i' j' = apart i j ∧
    ∀ n ≤ apart i j, coords[stepped i' j' n]? = coords[stepped i j n]?

omit [Field K] [LinearOrder K] in
theorem between_eq_iff {coords : List (K × K)} {i j i' j' : Nat} (inside : i < coords.length)
    (inside' : j < coords.length) (first : i' < coords.length) (first' : j' < coords.length) :
    between coords i' j' = between coords i j ↔ sameWay coords i' j' i j := by
  rw [← List.map_inj_right (f := some) (fun _ _ => Option.some.inj), between_some inside inside',
    between_some first first']
  constructor
  · intro same
    have long : apart i' j' = apart i j := by simpa using congrArg List.length same
    rw [long] at same
    refine ⟨long, fun n bound => ?_⟩
    exact List.map_inj_left.mp same n (List.mem_range.mpr (Nat.lt_succ_of_le bound))
  · rintro ⟨long, points⟩
    rw [long]
    exact List.map_congr_left fun n member =>
      points n (Nat.le_of_lt_succ (List.mem_range.mp member))

omit [Field K] [LinearOrder K] in
theorem load_bus_routes_absent {responses : List (RouteResponse K)} {routeNumber : Nat}
    (absent : routeNumber ∉ responses.map (·.routeNumber)) :
    loadBusRoutes responses routeNumber = none := by
  induction responses with
  | nil => rfl
  | cons first rest ih =>
      rw [List.map_cons, List.mem_cons, not_or] at absent
      rw [loadBusRoutes, ih absent.2]
      simp [Ne.symm absent.1]

omit [Field K] [LinearOrder K] in
theorem load_bus_routes_copies {responses : List (RouteResponse K)}
    (numbers : (responses.map (·.routeNumber)).Nodup) {response : RouteResponse K}
    (listed : response ∈ responses) :
    loadBusRoutes responses response.routeNumber = some (clientRoute response) := by
  induction responses with
  | nil => simp at listed
  | cons first rest ih =>
      rw [List.map_cons, List.nodup_cons] at numbers
      rcases List.mem_cons.mp listed with rfl | later
      · simp [loadBusRoutes, load_bus_routes_absent numbers.1]
      · simp [loadBusRoutes, ih numbers.2 later]

end Page

/-! ## One leg -/

section Drawn

def coordsOf (route : Route K) : List (K × K) := route.stops.map fun s => (s.lat, s.lng)

/-- Where the page finds a stop of this name. -/
def firstNamed (route : Route K) (name : String) : Nat := (route.stops.map (·.name)).idxOf name

/-- The leg of a ride from stop `i` to stop `j` is drawn through just these stops. -/
structure DrawnRight (busRoutes : Nat → Option (ClientRoute K)) (route : Route K) (i j : Nat)
    (leg : Leg K) : Prop where
  stops : rideLegWaypoints busRoutes leg = between (coordsOf route) i j
  points : ∃ n, leg.stopCount = some n ∧ (rideLegWaypoints busRoutes leg).length = n + 1

/-- The names lead to stops that lie as those of the ride do. Where they lead to
one stop, it is the geometry of the leg that does. -/
def namesLead (route : Route K) (i j : Nat) (leg : Leg K) : Prop :=
  let i' := firstNamed route leg.fromName
  let j' := firstNamed route leg.toName
  (i' ≠ j' ∧ sameWay (coordsOf route) i' j' i j) ∨
    (i' = j' ∧ leg.geometry = between (coordsOf route) i j)

variable {busRoutes : Nat → Option (ClientRoute K)} {route : Route K} {db : Database K}
variable {i j : Nat} {boarding alighting : Stop K} {leg : Leg K}

omit [Field K] [LinearOrder K] in
theorem first_named (found : route.stops[i]? = some boarding) :
    (route.stops.map (·.name)).idxOf? boarding.name = some (firstNamed route boarding.name) ∧
      firstNamed route boarding.name < (coordsOf route).length := by
  have named : boarding.name ∈ route.stops.map (·.name) :=
    List.mem_map_of_mem (List.mem_of_getElem? found)
  have inside := List.idxOf_lt_length_of_mem named
  constructor
  · obtain ⟨k, first⟩ := Option.isSome_iff_exists.mp (List.isSome_idxOf?.mpr named)
    rw [first, firstNamed, List.idxOf_eq_getD_idxOf?, first]
    rfl
  · simpa [firstNamed, coordsOf] using inside

omit [Field K] [LinearOrder K] in
theorem drawn_right_iff (copied : busRoutes route.routeNumber = some (clientRoute (toResponse db route)))
    (line : leg.routeNumber = some route.routeNumber) (boards : route.stops[i]? = some boarding)
    (alights : route.stops[j]? = some alighting) (fromName : leg.fromName = boarding.name)
    (toName : leg.toName = alighting.name) (stopCount : leg.stopCount = some (apart i j)) :
    DrawnRight busRoutes route i j leg ↔ namesLead route i j leg := by
  obtain ⟨first, inside⟩ := first_named boards
  obtain ⟨first', inside'⟩ := first_named alights
  have atI : i < (coordsOf route).length := by
    simpa [coordsOf] using (List.getElem?_eq_some_iff.mp boards).1
  have atJ : j < (coordsOf route).length := by
    simpa [coordsOf] using (List.getElem?_eq_some_iff.mp alights).1
  have names : (clientRoute (toResponse db route)).stops.map (·.name) =
      route.stops.map (·.name) := by simp [clientRoute, toResponse, Function.comp_def]
  have coords : (clientRoute (toResponse db route)).stops.map (·.coords) = coordsOf route := by
    simp [clientRoute, toResponse, coordsOf, Function.comp_def]
  have long := between_length inside inside'
  have drawn : rideLegWaypoints busRoutes leg =
      if firstNamed route leg.fromName = firstNamed route leg.toName then leg.geometry
      else between (coordsOf route) (firstNamed route leg.fromName)
        (firstNamed route leg.toName) := by
    unfold rideLegWaypoints
    simp only [line, Option.bind_some, copied, names, coords, fromName, toName, first, first', long]
    by_cases same : firstNamed route boarding.name = firstNamed route alighting.name
    · rw [if_pos same, if_neg (by unfold apart; omega)]
    · rw [if_neg same, if_pos (by unfold apart; omega)]
  have counted : rideLegWaypoints busRoutes leg = between (coordsOf route) i j →
      DrawnRight busRoutes route i j leg := by
    intro stops
    refine ⟨stops, apart i j, stopCount, ?_⟩
    rw [stops, between_length atI atJ]
  have lists : DrawnRight busRoutes route i j leg ↔
      rideLegWaypoints busRoutes leg = between (coordsOf route) i j :=
    ⟨fun right => right.stops, counted⟩
  rw [lists, drawn, namesLead]
  by_cases same : firstNamed route leg.fromName = firstNamed route leg.toName
  · simp [same]
  · rw [fromName, toName] at same ⊢
    simp [same, between_eq_iff atI atJ inside inside']

end Drawn

/-! ## The rides of a chain -/

section Rides
variable {geo : GeoDistance K} {rows : List (Route K)} {start stop : Node K} {run : List (Hop K)}

theorem run_keeps_direction (known : start ∈ (build geo rows).nodes)
    (linked : Linked (build geo rows) start run stop)
    (rides : ∀ hop ∈ run, hop.edge.kind = .RIDE) (once : (visited start run).Nodup) :
    (run = [] ∧ stop = start) ∨
      (stop.stopIndex = start.stopIndex + run.length ∧ ∃ hop ∈ run, hop.node.id = start.id + 1) ∨
      (start.stopIndex = stop.stopIndex + run.length ∧ ∃ hop ∈ run, start.id = hop.node.id + 1) := by
  induction linked with
  | nil node => exact Or.inl ⟨rfl, rfl⟩
  | @cons start node last edge rest leaves target tail ih =>
      right
      have kind : edge.kind = .RIDE := rides ⟨start, edge, node⟩ List.mem_cons_self
      obtain ⟨other, listed, ends, step⟩ := build_ride_ends known leaves kind
      have atNode : (build geo rows).nodes[other.id]? = some node := ends ▸ target
      obtain rfl := Option.some.inj (atNode.symm.trans (graph_node _ listed))
      have unseen : ∀ hop ∈ rest, hop.node.id ≠ start.id := by
        intro hop member same
        have again := (List.nodup_cons.mp once).1
        exact again (same ▸ List.mem_map_of_mem (List.mem_cons_of_mem _ member))
      have onward := ih listed (fun hop member => rides hop (List.mem_cons_of_mem _ member))
        (List.nodup_cons.mp once).2
      have first : (⟨start, edge, node⟩ : Hop K) ∈ (⟨start, edge, node⟩ : Hop K) :: rest :=
        List.mem_cons_self
      -- Turning round would lead back to `start`.
      rcases step with ⟨⟨_, next⟩, place⟩ | ⟨⟨_, previous⟩, place⟩
      · left
        refine ⟨?_, _, first, place⟩
        rcases onward with ⟨rfl, rfl⟩ | ⟨up, _⟩ | ⟨_, hop, member, back⟩
        · simpa using next
        · rw [up, next, List.length_cons]
          omega
        · exact absurd (by omega) (unseen hop member)
      · right
        refine ⟨?_, _, first, place⟩
        rcases onward with ⟨rfl, rfl⟩ | ⟨_, hop, member, back⟩ | ⟨down, _⟩
        · simpa using previous
        · exact absurd (by omega) (unseen hop member)
        · rw [previous, down, List.length_cons]
          omega

theorem run_stop_count (known : start ∈ (build geo rows).nodes)
    (linked : Linked (build geo rows) start run stop)
    (rides : ∀ hop ∈ run, hop.edge.kind = .RIDE) (once : (visited start run).Nodup) :
    run.length = apart start.stopIndex stop.stopIndex := by
  rcases run_keeps_direction known linked rides once with ⟨rfl, rfl⟩ | ⟨up, _⟩ | ⟨down, _⟩
  · simp [apart]
  · unfold apart
    omega
  · unfold apart
    omega

theorem run_stop_route (known : start ∈ (build geo rows).nodes)
    (linked : Linked (build geo rows) start run stop)
    (rides : ∀ hop ∈ run, hop.edge.kind = .RIDE) :
    stop.route = start.route ∧ stop ∈ (build geo rows).nodes := by
  induction linked with
  | nil => exact ⟨rfl, known⟩
  | @cons start node last edge rest leaves target tail ih =>
      have listed := List.mem_of_getElem? target
      obtain ⟨line, known'⟩ := ih listed fun hop member => rides hop (List.mem_cons_of_mem _ member)
      exact ⟨line.trans (ride_same_route known leaves target (rides _ List.mem_cons_self)), known'⟩

structure RidePart (graph : Graph K) (hops : List (Hop K)) (start : Node K) (run : List (Hop K))
    (stop : Node K) : Prop where
  known : start ∈ graph.nodes
  part : ∃ before after, hops = before ++ run ++ after
  linked : Linked graph start run stop
  some_hop : run ≠ []
  rides : ∀ hop ∈ run, hop.edge.kind = .RIDE
  once : (visited start run).Nodup

omit [Field K] [LinearOrder K] in
theorem visited_behind {graph : Graph K} {hops : List (Hop K)} (linked : Linked graph start run stop)
    (some_hop : run ≠ []) (once : (visited start (run ++ hops)).Nodup) :
    (visited start run).Nodup ∧ (visited stop hops).Nodup := by
  have nodes : run.map Hop.node ≠ [] := by simpa using some_hop
  have current := linked_current linked
  rw [List.getLastD_eq_getLast?, List.getLast?_eq_some_getLast nodes, Option.getD_some] at current
  have split := List.dropLast_append_getLast nodes
  rw [current] at split
  have ids : run.map (fun hop => hop.node.id) =
      ((run.map Hop.node).dropLast.map Node.id) ++ [stop.id] := by
    rw [← List.map_singleton, ← List.map_append, split, List.map_map]
    rfl
  simp only [visited, List.map_append] at once ⊢
  rw [ids] at once ⊢
  constructor
  · exact once.sublist ((List.sublist_append_left _ _).cons_cons _)
  · rw [List.append_assoc, List.singleton_append] at once
    exact (once.sublist (List.sublist_cons_self _ _)).sublist (List.sublist_append_right _ _)

theorem folded_ride_parts [FloorRing K] {graph : Graph K} {rounding : Rounding K} {last : Node K}
    {hops : List (Hop K)} {legs : List (Leg K)}
    (folded : Folded graph rounding start hops legs last) (known : start ∈ graph.nodes)
    (listed : ∀ hop ∈ hops, hop.node ∈ graph.nodes) (once : (visited start hops).Nodup) :
    ∀ leg ∈ legs, leg.mode = .RIDE → ∃ first run stop, RidePart graph hops first run stop ∧
      leg = rideLegWith rounding graph first (run.map Hop.node) stop := by
  induction folded with
  | done => simp
  | @walk hop hops leg legs last transfer leg_of folded ih =>
      intro leg member ride
      rcases List.mem_cons.mp member with rfl | later
      · simp [leg_of.mode] at ride
      · obtain ⟨first, run, stop, part, made⟩ := ih (listed hop List.mem_cons_self)
          (fun other within => listed other (List.mem_cons_of_mem hop within))
          (List.nodup_cons.mp once).2 leg later ride
        obtain ⟨before, after, split⟩ := part.part
        exact ⟨first, run, stop, { part with part := ⟨hop :: before, after, by simp [split]⟩ }, made⟩
  | @ride start stop last run hops legs linked some_hop rides longest leg_of folded ih =>
      obtain ⟨once', onceBehind⟩ := visited_behind linked some_hop once
      intro leg member ride
      rcases List.mem_cons.mp member with rfl | later
      · exact ⟨start, run, stop, ⟨known, ⟨[], hops, by simp⟩, linked, some_hop, rides, once'⟩, rfl⟩
      · obtain ⟨first, other, end_, part, made⟩ := ih (linked_nodes known linked).2
          (fun hop within => listed hop (List.mem_append_right run within)) onceBehind leg later ride
        obtain ⟨before, after, split⟩ := part.part
        exact ⟨first, other, end_,
          { part with part := ⟨run ++ before, after, by simp [split]⟩ }, made⟩

end Rides

/-! ## fold -/

section Fold
variable [FloorRing K]

/-- Each RIDE leg of a journey is drawn through the stops of its ride exactly
when the names of its ends lead to stops that lie there. -/
theorem rides_drawn_iff (geo : GeoDistance K) (db : Database K) (rows : List (Route K))
    (numbers : (rows.map Route.routeNumber).Nodup) (arrivals : Nat → Option (Arrival K))
    (origin last : Node K) (hops : List (Hop K))
    (totalMinutes egressKm fromLat fromLng toLat toLng : K) (response : Response K)
    (chain : RecordedChain (build geo rows) arrivals origin hops last)
    (returned : fold geo (build geo rows) arrivals last.id totalMinutes egressKm fromLat fromLng toLat
      toLng = some response) :
    ∀ leg ∈ response.legs, leg.mode = .RIDE → ∃ start run stop,
      RidePart (build geo rows) hops start run stop ∧
      leg = rideLeg (build geo rows) start (run.map Hop.node) stop ∧
      stop.route = start.route ∧
      (DrawnRight (loadBusRoutes (rows.map (toResponse db))) start.route start.stopIndex
          stop.stopIndex leg ↔
        namesLead start.route start.stopIndex stop.stopIndex leg) := by
  have linked := recorded_linked chain
  have once := recorded_nodup chain
  obtain ⟨rode, walked⟩ := fold_recorded geo .displayed totalMinutes egressKm fromLat fromLng toLat
    toLng chain
  by_cases rides : rideOn hops
  · obtain ⟨_, returned', folded⟩ := rode rides
    obtain rfl := Option.some.inj (returned'.symm.trans returned)
    obtain ⟨access, legs, egress, all, ⟨walks, _⟩, spelled, _, walks', _⟩ := folded.legs
    intro leg member ride
    have inner : leg ∈ legs := by
      rw [all] at member
      simp only [List.cons_append, List.mem_cons, List.mem_append, List.not_mem_nil, or_false]
        at member
      rcases member with rfl | between | rfl
      · simp [walks] at ride
      · exact between
      · simp [walks'] at ride
    obtain ⟨start, run, stop, part, rfl⟩ := folded_ride_parts spelled (recorded_board chain)
      (linked_listed linked) once leg inner ride
    obtain ⟨line, known'⟩ := run_stop_route part.known part.linked part.rides
    have boards := lay_nodes_stop geo 0 (servedRoutes rows) start part.known
    have alights := lay_nodes_stop geo 0 (servedRoutes rows) stop known'
    rw [line] at alights
    have copied : loadBusRoutes (rows.map (toResponse db)) start.route.routeNumber =
        some (clientRoute (toResponse db start.route)) := by
      have listed := ((served_iff rows start.route).mp boards.1).2.2
      refine load_bus_routes_copies ?_ (List.mem_map_of_mem listed)
      rw [List.map_map]
      exact numbers
    refine ⟨start, run, stop, part, rfl, line, ?_⟩
    refine drawn_right_iff copied rfl boards.2 alights.2 rfl rfl ?_
    rw [← run_stop_count part.known part.linked part.rides part.once]
    simp [rideLegWith]
  · exact absurd ((walked rides).symm.trans returned) (by simp)

end Fold

/-! ## A ring with one market -/

section Ring

def ringLine : Route ℚ :=
  lineAlong [⟨0, 0⟩, ⟨1, 0⟩, ⟨1, 1⟩, ⟨0, 0⟩]
    [⟨none, "Market", 0, 0⟩, ⟨none, "Mill", 1, 0⟩, ⟨none, "Quay", 1, 1⟩, ⟨none, "Market", 0, 0⟩]

def ringStop (i : Nat) (stop : Stop ℚ) : Node ℚ :=
  ⟨i, ringLine, i, stop, project taxicab stop.lat stop.lng (pathPoints ringLine)⟩

def ringQuay : Node ℚ := ringStop 2 ⟨none, "Quay", 1, 1⟩

def ringMarket : Node ℚ := ringStop 3 ⟨none, "Market", 0, 0⟩

def ringHop : Hop ℚ := ⟨ringQuay, ⟨3, 79 / 10, 5 / 2, .RIDE⟩, ringMarket⟩

def ringArrivals : Nat → Option (Arrival ℚ)
  | 2 => some ⟨(5 : ℚ), none, none⟩
  | 3 => some ⟨(129 / 10 : ℚ), some 2, some ringHop.edge⟩
  | _ => none

def ringRoutes : Nat → Option (ClientRoute ℚ) :=
  loadBusRoutes ([ringLine].map (toResponse Database.empty))

def ringJourney : Option (Response ℚ) :=
  fold taxicab (build taxicab [ringLine]) ringArrivals 3 (129 / 10) 0 1 1 0 0

theorem ring_known :
    ringQuay ∈ (build taxicab [ringLine]).nodes ∧
      ringHop.edge ∈ (build taxicab [ringLine]).edges 2 ∧
      (build taxicab [ringLine]).nodes[3]? = some ringMarket := by
  decide +kernel

theorem ring_recorded :
    RecordedChain (build taxicab [ringLine]) ringArrivals ringQuay [ringHop] ringMarket := by
  obtain ⟨board, leaves, target⟩ := ring_known
  have start : RecordedChain (build taxicab [ringLine]) ringArrivals ringQuay [] ringQuay :=
    RecordedChain.board board ⟨_, rfl⟩
  exact RecordedChain.hop start leaves target ⟨_, rfl⟩

theorem ring_part :
    RidePart (build taxicab [ringLine]) [ringHop] ringQuay [ringHop] ringMarket := by
  obtain ⟨board, leaves, target⟩ := ring_known
  constructor
  case known => exact board
  case part => exact ⟨[], [], rfl⟩
  case linked => exact Linked.cons leaves target (Linked.nil _)
  case some_hop => simp
  case rides => simp [ringHop]
  case once => decide

def drawnRides (journey : Option (Response ℚ)) :
    List (String × String × Option Nat × List (ℚ × ℚ)) :=
  journey.toList.flatMap fun plan => (plan.legs.filter isRide).map fun leg =>
    (leg.fromName, leg.toName, leg.stopCount, rideLegWaypoints ringRoutes leg)

/-- One stop on from the quay, drawn back over the mill. -/
theorem ring_drawn :
    drawnRides ringJourney = [("Quay", "Market", some 1, [(1, 1), (1, 0), (0, 0)])] := by
  decide +kernel

theorem ring_misdrawn :
    drawnRides ringJourney = [("Quay", "Market", some 1, [(1, 1), (1, 0), (0, 0)])] ∧
    between (coordsOf ringLine) 2 3 = [(1, 1), (0, 0)] ∧
    ¬ ∀ (geo : GeoDistance ℚ) (db : Database ℚ) (rows : List (Route ℚ))
        (arrivals : Nat → Option (Arrival ℚ)) (origin last : Node ℚ) (hops : List (Hop ℚ)),
      (rows.map Route.routeNumber).Nodup →
      RecordedChain (build geo rows) arrivals origin hops last →
      ∀ start run stop, RidePart (build geo rows) hops start run stop →
        DrawnRight (loadBusRoutes (rows.map (toResponse db))) start.route start.stopIndex
          stop.stopIndex (rideLeg (build geo rows) start (run.map Hop.node) stop) := by
  have stops : between (coordsOf ringLine) 2 3 = [(1, 1), (0, 0)] := by decide
  refine ⟨ring_drawn, stops, fun always => ?_⟩
  have right := always taxicab Database.empty [ringLine] ringArrivals ringQuay ringMarket [ringHop]
    (by simp) ring_recorded ringQuay [ringHop] ringMarket ring_part
  have drawn : rideLegWaypoints ringRoutes (rideLeg (build taxicab [ringLine]) ringQuay
      ([ringHop].map Hop.node) ringMarket) = [(1, 1), (1, 0), (0, 0)] := by decide +kernel
  have listed : between (coordsOf ringLine) 2 3 = [(1, 1), (1, 0), (0, 0)] :=
    right.stops.symm.trans drawn
  exact absurd (stops.symm.trans listed) (by decide)

theorem ring_drawn_iff :
    ∃ plan, ringJourney = some plan ∧ ∀ leg ∈ plan.legs, leg.mode = .RIDE → ∃ start run stop,
      RidePart (build taxicab [ringLine]) [ringHop] start run stop ∧
      leg = rideLeg (build taxicab [ringLine]) start (run.map Hop.node) stop ∧
      stop.route = start.route ∧
      (DrawnRight ringRoutes start.route start.stopIndex stop.stopIndex leg ↔
        namesLead start.route start.stopIndex stop.stopIndex leg) := by
  cases planned : ringJourney with
  | none =>
      have drawn := ring_drawn
      simp [planned, drawnRides] at drawn
  | some plan =>
      exact ⟨plan, rfl, rides_drawn_iff taxicab Database.empty [ringLine] (by simp) ringArrivals
        ringQuay ringMarket [ringHop] (129 / 10) 0 1 1 0 0 plan ring_recorded planned⟩

end Ring

end CityBus.DrawnRides
