import CityBus.CompiledGraph
import CityBus.JourneySearch
import CityBus.StoredRows
import Mathlib.Data.List.MinMax

/-!
The stop that the home page proposes to a rider, and the stops that the planner
starts from. The page scans its routes for the nearest stop; the planner sorts the
nodes of its graph. Both have to come to the same stop.
-/

namespace CityBus.NearestRoute

open DataSeeder (Event NewAccount lives)
open CompiledGraph GeoUtils GuardedRuns JourneyGraph JourneySearch KeyedMaps RouteService Store
open StoredRows

variable {K : Type}

/-! ## The scan of the page -/

structure Near (K : Type) where
  routeNumber : Nat
  stop : StopDto K
  km : K

/-- `busRoutes[String(r.routeNumber)] = r`; whole numbers are listed in ascending order. -/
def assign : List (RouteResponse K) → RouteResponse K → List (RouteResponse K)
  | [], r => [r]
  | kept :: rest, r =>
      if r.routeNumber < kept.routeNumber then r :: kept :: rest
      else if r.routeNumber = kept.routeNumber then r :: rest
      else kept :: assign rest r

def busRoutes (routes : List (RouteResponse K)) : List (RouteResponse K) := routes.foldl assign []

section Scan
variable [Field K] [LinearOrder K] (geo : GeoDistance K) (lat lng : K)

def tryStop (route : RouteResponse K) (best : Option (Near K)) (stop : StopDto K) :
    Option (Near K) :=
  let km := geo.distanceKm lat lng stop.lat stop.lng
  match best with
  | none => some ⟨route.routeNumber, stop, km⟩
  | some nearest => if km < nearest.km then some ⟨route.routeNumber, stop, km⟩ else best

def findNearestRoute (routes : List (RouteResponse K)) : Option (Near K) :=
  (busRoutes routes).foldl (fun best route =>
    if route.active then route.stops.foldl (tryStop geo lat lng route) best else best) none

end Scan

/-! ## The first of the least -/

section FirstLeast
variable {α β : Type} [LinearOrder β] (f : α → β)

theorem head_insertion_sort (xs : List α) :
    (xs.insertionSort fun a b => f a ≤ f b).head? = xs.argmin f := by
  induction xs with
  | nil => rfl
  | cons x rest ih =>
      rw [List.insertionSort_cons, List.argmin_cons, ← ih]
      cases rest.insertionSort fun a b => f a ≤ f b with
      | nil => rfl
      | cons y tail =>
          simp only [List.orderedInsert_cons, List.head?_cons]
          by_cases first : f x ≤ f y
          · rw [if_pos first, if_neg (not_lt.mpr first)]
            rfl
          · rw [if_neg first, if_pos (not_le.mp first)]
            rfl

theorem argmin_filter (bound : β) (xs : List α) :
    (xs.filter fun x => f x ≤ bound).argmin f = (xs.argmin f).filter fun x => f x ≤ bound := by
  induction xs with
  | nil => rfl
  | cons x rest ih =>
      rw [List.filter_cons, List.argmin_cons]
      by_cases inside : f x ≤ bound
      · rw [if_pos (decide_eq_true inside), List.argmin_cons, ih]
        cases rest.argmin f with
        | none => simp [Option.filter_some, inside]
        | some least =>
            by_cases below : f least ≤ bound
            · by_cases nearer : f least < f x
              · simp [Option.filter_some, below, nearer]
              · simp [Option.filter_some, inside, below, nearer]
            · have farther : ¬ f least < f x := fun nearer => below (nearer.le.trans inside)
              simp [Option.filter_some, inside, below, farther]
      · rw [if_neg (by simpa using inside), ih]
        cases rest.argmin f with
        | none => simp [Option.filter_some, inside]
        | some least =>
            by_cases nearer : f least < f x
            · simp [nearer]
            · have farther : ¬ f least ≤ bound := fun below =>
                inside ((not_lt.mp nearer).trans below)
              simp [Option.filter_some, inside, nearer, farther]

theorem argmin_map {γ : Type} (g : γ → α) (xs : List γ) :
    (xs.map g).argmin f = (xs.argmin fun x => f (g x)).map g := by
  induction xs with
  | nil => rfl
  | cons x rest ih =>
      rw [List.map_cons, List.argmin_cons, List.argmin_cons, ih]
      cases rest.argmin fun x => f (g x) with
      | none => rfl
      | some least =>
          simp only [Option.map_some]
          split <;> rfl

end FirstLeast

/-! ## The routes of the page -/

section Routes

theorem assign_last {kept : List (RouteResponse K)} {r : RouteResponse K}
    (below : ∀ other ∈ kept, other.routeNumber < r.routeNumber) : assign kept r = kept ++ [r] := by
  induction kept with
  | nil => rfl
  | cons first rest ih =>
      have less := below first List.mem_cons_self
      rw [assign, if_neg (by omega), if_neg (by omega),
        ih fun other member => below other (List.mem_cons_of_mem first member)]
      rfl

theorem bus_routes_ascending {kept routes : List (RouteResponse K)}
    (ascending : (kept ++ routes).Pairwise fun a b => a.routeNumber < b.routeNumber) :
    routes.foldl assign kept = kept ++ routes := by
  induction routes generalizing kept with
  | nil => simp
  | cons r rest ih =>
      have below : ∀ other ∈ kept, other.routeNumber < r.routeNumber := fun other member =>
        (List.pairwise_append.mp ascending).2.2 other member r List.mem_cons_self
      rw [List.foldl_cons, assign_last below, ih]
      · simp
      · simpa using ascending

variable {db : Database K}

def OneNumber (db : Database K) : Prop :=
  ∀ id other route route', db.routes.lookup id = some route →
    db.routes.lookup other = some route' → route.routeNumber = route'.routeNumber → id = other

theorem numbers_apart (one : OneNumber db) {route other : Route K}
    (member : route ∈ values db.routes) (member' : other ∈ values db.routes)
    (same : route.routeNumber = other.routeNumber) : route = other := by
  obtain ⟨id, found⟩ := mem_values.mp member
  obtain ⟨id', found'⟩ := mem_values.mp member'
  have key := one id id' route other found found' same
  rw [key, found'] at found
  exact (Option.some.inj found).symm

theorem same_order (one : OneNumber db) :
    (values db.routes).mergeSort (fun route other => route.routeNumber ≤ other.routeNumber) =
      findAllByOrderByRouteNumberAsc (values db.routes) := by
  have merged : ((values db.routes).mergeSort fun route other =>
      route.routeNumber ≤ other.routeNumber).Pairwise fun route other =>
        decide (route.routeNumber ≤ other.routeNumber) = true := by
    apply List.pairwise_mergeSort
    · intro a b c first second
      simp only [decide_eq_true_eq] at *
      omega
    · intro a b
      simp only [Bool.or_eq_true, decide_eq_true_eq]
      omega
  have inserted := List.pairwise_insertionSort
    (fun route other : Route K => route.routeNumber ≤ other.routeNumber) (values db.routes)
  have perm := (List.mergeSort_perm (values db.routes)
    (fun route other => route.routeNumber ≤ other.routeNumber)).trans
    (List.perm_insertionSort (fun route other => route.routeNumber ≤ other.routeNumber)
      (values db.routes)).symm
  refine perm.eq_of_pairwise ?_ (merged.imp of_decide_eq_true) inserted
  intro route other member member' le ge
  apply numbers_apart one (List.mem_mergeSort.mp member)
  · exact (List.perm_insertionSort _ _).subset member'
  · omega

theorem values_nodup (db : Database K) : (values db.routes).Nodup := by
  have ids : (values db.routes).map (·.id) = db.routes.entries.map Sigma.fst := by
    rw [values, List.map_map]
    refine List.map_congr_left fun entry member => ?_
    exact db.routeKeys entry.1 entry.2 (AList.mem_lookup_iff.mpr member)
  refine List.Nodup.of_map (·.id) ?_
  rw [ids]
  exact db.routes.nodupKeys

theorem bus_routes_listed (one : OneNumber db) : busRoutes (findAll db) = findAll db := by
  have order := same_order one
  have nodup : (findAllByOrderByRouteNumberAsc (values db.routes)).Nodup :=
    (List.perm_insertionSort _ _).nodup_iff.mpr (values_nodup db)
  have sorted := List.pairwise_insertionSort
    (fun route other : Route K => route.routeNumber ≤ other.routeNumber) (values db.routes)
  have ascending : (findAllByOrderByRouteNumberAsc (values db.routes)).Pairwise
      fun route other => route.routeNumber < other.routeNumber := by
    refine (sorted.and nodup).imp_of_mem ?_
    rintro route other member member' ⟨le, apart⟩
    refine Nat.lt_of_le_of_ne le fun same => apart ?_
    exact numbers_apart one ((List.perm_insertionSort _ _).subset member)
      ((List.perm_insertionSort _ _).subset member') same
  have listed : ([] ++ findAll db).Pairwise fun a b : RouteResponse K =>
      a.routeNumber < b.routeNumber := by
    rw [List.nil_append, findAll, order, List.pairwise_map]
    exact ascending
  exact bus_routes_ascending listed

end Routes

/-! ## The nearest stop -/

section Nearest
variable [Field K] [LinearOrder K] (geo : GeoDistance K) (lat lng : K)

def nears (routes : List (RouteResponse K)) : List (Near K) :=
  (routes.filter (·.active)).flatMap fun route => route.stops.map fun stop =>
    ⟨route.routeNumber, stop, geo.distanceKm lat lng stop.lat stop.lng⟩

def asNear (node : Node K) : Near K :=
  ⟨node.route.routeNumber, ⟨node.stop.id, node.stop.name, node.stop.lat, node.stop.lng⟩,
    nodeDistance geo lat lng node⟩

theorem scan_argmin (routes : List (RouteResponse K)) :
    findNearestRoute geo lat lng routes = (nears geo lat lng (busRoutes routes)).argmin (·.km) := by
  unfold findNearestRoute List.argmin
  generalize (none : Option (Near K)) = best
  induction busRoutes routes generalizing best with
  | nil => rfl
  | cons route rest ih =>
      rw [List.foldl_cons, ih]
      simp only [nears, List.filter_cons]
      by_cases active : route.active = true
      · rw [if_pos active, if_pos active, List.flatMap_cons, List.foldl_append, List.foldl_map]
        congr 1
        apply List.foldl_ext
        intro best stop _
        cases best with
        | none => rfl
        | some nearest => rfl
      · rw [if_neg active, if_neg active]

variable {db : Database K}

theorem nodes_nears (one : OneNumber db)
    (served : ∀ route ∈ values db.routes, route.active = true → 2 ≤ route.stops.length) :
    (build geo (values db.routes)).nodes.map (asNear geo lat lng) =
      nears geo lat lng (findAll db) := by
  have laid : (build geo (values db.routes)).nodes.map (asNear geo lat lng) =
      ((servedRoutes (values db.routes)).flatMap numbered).map fun entry =>
        ⟨entry.1.routeNumber, ⟨entry.2.2.id, entry.2.2.name, entry.2.2.lat, entry.2.2.lng⟩,
          geo.distanceKm lat lng entry.2.2.lat entry.2.2.lng⟩ := by
    rw [← lay_nodes_shown geo 0, List.map_map]
    rfl
  have all : servedRoutes (values db.routes) =
      (findAllByOrderByRouteNumberAsc (values db.routes)).filter (·.active) := by
    refine List.filter_eq_self.mpr fun route member => ?_
    obtain ⟨listed, active⟩ := List.mem_filter.mp member
    exact decide_eq_true (served route ((List.perm_insertionSort _ _).subset listed) active)
  rw [laid, all, nears, findAll, same_order one, List.filter_map, List.flatMap_map,
    List.map_flatMap]
  congr 1
  funext route
  simp only [numbered, toResponse, List.map_map]
  generalize 0 = i
  induction route.stops generalizing i with
  | nil => rfl
  | cons stop rest ih =>
      rw [List.zipIdx_cons, List.map_cons, List.map_cons, ih]
      rfl

variable [IsStrictOrderedRing K] [ToString K] {tables : Tables K}
  {encode : NewAccount → String} {events : List (Event K)}

/-- The home page proposes the first stop that the planner would start from; where the stop
is too far to walk, the planner starts from no stop at all. -/
theorem nearest_first_candidate
    (history : Run (guarded validated (lives encode)) (Tables.of Database.empty) events tables) :
    (accessCandidates geo (build geo (values tables.db.routes)) lat lng).head?.map
        (asNear geo lat lng) =
      (findNearestRoute geo lat lng (findAll tables.db)).filter fun near =>
        near.km ≤ MAX_ACCESS_WALK_KM := by
  have tidy := run_tidy history
  have one : OneNumber tables.db := tidy.oneNumber
  have served : ∀ route ∈ values tables.db.routes, route.active = true →
      2 ≤ route.stops.length := by
    intro route member _
    obtain ⟨id, found⟩ := mem_values.mp member
    exact (tidy.routes id route found).served
  have candidates : (accessCandidates geo (build geo (values tables.db.routes)) lat lng).head? =
      ((build geo (values tables.db.routes)).nodes.argmin (nodeDistance geo lat lng)).filter
        fun node => nodeDistance geo lat lng node ≤ MAX_ACCESS_WALK_KM := by
    rw [accessCandidates, List.head?_take, if_neg (by decide), head_insertion_sort, argmin_filter]
  have same : (build geo (values tables.db.routes)).nodes.argmin
      (fun node => (asNear geo lat lng node).km) =
        (build geo (values tables.db.routes)).nodes.argmin (nodeDistance geo lat lng) := rfl
  rw [candidates, scan_argmin, bus_routes_listed one, ← nodes_nears geo lat lng one served,
    argmin_map, same]
  cases (build geo (values tables.db.routes)).nodes.argmin (nodeDistance geo lat lng) with
  | none => rfl
  | some node =>
      by_cases inside : nodeDistance geo lat lng node ≤ MAX_ACCESS_WALK_KM
      · simp [Option.filter_some, asNear, inside]
      · simp [Option.filter_some, asNear, inside]

end Nearest

theorem seeded_nearest : ∃ tables : Tables ℚ,
    Run (guarded validated (lives fun account => account.username)) (Tables.of Database.empty)
        [.boot 0] tables ∧
      (accessCandidates taxicab (build taxicab (values tables.db.routes)) 20 75).head?.map
          (asNear taxicab 20 75) =
        (findNearestRoute taxicab 20 75 (findAll tables.db)).filter fun near =>
          near.km ≤ MAX_ACCESS_WALK_KM := by
  have history : ∃ tables : Tables ℚ,
      Run (guarded validated (lives fun account => account.username)) (Tables.of Database.empty)
        [.boot 0] tables :=
    ⟨_, Run.next ⟨trivial, rfl⟩ (Run.refl _)⟩
  obtain ⟨tables, history⟩ := history
  exact ⟨tables, history, nearest_first_candidate taxicab 20 75 history⟩

end CityBus.NearestRoute
