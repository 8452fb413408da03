import CityBus.KeyedMaps
import CityBus.PathProjection

/-!
The geometry of a RIDE leg: the slice of the route's path between the two
projections, turned round when the ride goes against the path. `checkedSubPath`
is `subPath` with every list access a lookup, so that it fails where the source
would throw.
-/

namespace CityBus.RideGeometry

open GeoUtils JourneyGraph JourneyPlan Polylines PathProjection CompiledGraph KeyedMaps

/-! ## List accesses -/

section Checked
variable {K : Type} [Field K] [LinearOrder K]

def checkedSubPath (path : List (K × K)) (start stop : Projection K) : Option (List (K × K)) :=
  if path.length < 2 ∨ stop.cumKm < start.cumKm then some [] else do
    let a ← path[start.segment]?
    let b ← path[start.segment + 1]?
    let between ← (List.range' (start.segment + 1) (stop.segment - start.segment)).mapM (path[·]?)
    let c ← path[stop.segment]?
    let d ← path[min (stop.segment + 1) (path.length - 1)]?
    some (along a b start.t :: (between ++ [along c d stop.t]))

def checkedSlice (path : List (K × K)) (board alight : Projection K) : Option (List (K × K)) :=
  if alight.cumKm < board.cumKm then (checkedSubPath path alight board).map List.reverse
  else checkedSubPath path board alight

theorem vertices_indices {α : Type} (path : List α) (i n : Nat) (inside : i + n ≤ path.length) :
    (List.range' i n).map (path[·]?) = ((path.drop i).take n).map some := by
  induction n generalizing i with
  | zero => simp
  | succ n ih =>
      have here : i < path.length := by omega
      rw [List.range'_succ, List.map_cons, ih (i + 1) (by omega), List.drop_eq_getElem_cons here,
        List.take_succ_cons, List.map_cons, List.getElem?_eq_getElem here]

end Checked

/-! ## The oriented slice -/

section Slice
variable {path : List (ℝ × ℝ)} {board alight : Projection ℝ} {first last : ℝ × ℝ}

noncomputable def passed (board alight : Projection ℝ) : List Nat :=
  if alight.cumKm < board.cumKm then
    (List.range' (alight.segment + 1) (board.segment - alight.segment)).reverse
  else List.range' (board.segment + 1) (alight.segment - board.segment)

structure OrientedSlice (path : List (ℝ × ℝ)) (board alight : Projection ℝ)
    (geometry : List (ℝ × ℝ)) : Prop where
  points : 2 ≤ geometry.length
  starts : geometry.head? = spot plane board.t board.segment path
  ends : geometry.getLast? = spot plane alight.t alight.segment path
  interior : geometry.tail.dropLast.map some = (passed board alight).map (path[·]?)
  length : Polylines.length plane geometry = |alight.cumKm - board.cumKm|
  inRange : checkedSlice path board alight = some geometry
  tie : board.cumKm = alight.cumKm → board.segment = alight.segment

theorem sub_path_slice (projected : Projected path board first)
    (projected' : Projected path alight last) (order : board.cumKm ≤ alight.cumKm) :
    subPath path board alight = slice path board.segment alight.segment first last ∧
      checkedSubPath path board alight =
        some (slice path board.segment alight.segment first last) := by
  have segments := projected_segments projected projected' order
  have inside := projected_inside projected'
  obtain ⟨a, b, starts, ends, rfl⟩ := spot_cases projected.place
  obtain ⟨c, d, starts', ends', rfl⟩ := spot_cases projected'.place
  have long : ¬ (path.length < 2 ∨ alight.cumKm < board.cumKm) := by
    rintro (short | back)
    · omega
    · exact absurd order (not_le.mpr back)
  have bound : min (alight.segment + 1) (path.length - 1) = alight.segment + 1 := by omega
  constructor
  · rw [subPath, if_neg long, bound]
    simp only [pointAt, List.getD_eq_getElem?_getD, starts, ends, starts', ends']
    rfl
  · rw [checkedSubPath, if_neg long, bound, starts, ends, starts', ends',
      (mapM_some_iff _ _ _).mpr (vertices_indices path _ _ (by omega))]
    rfl

theorem slice_oriented (projected : Projected path board first)
    (projected' : Projected path alight last) (order : board.cumKm ≤ alight.cumKm) :
    (slice path board.segment alight.segment first last).head? =
        spot plane board.t board.segment path ∧
      (slice path board.segment alight.segment first last).getLast? =
        spot plane alight.t alight.segment path ∧
      (slice path board.segment alight.segment first last).tail.dropLast.map some =
        (List.range' (board.segment + 1) (alight.segment - board.segment)).map (path[·]?) ∧
      Polylines.length plane (slice path board.segment alight.segment first last) =
        alight.cumKm - board.cumKm := by
  have segments := projected_segments projected projected' order
  have inside := projected_inside projected'
  refine ⟨?_, ?_, ?_, ?_⟩
  · rw [projected.place]
    rfl
  · rw [projected'.place, slice, ← List.cons_append]
    exact List.getLast?_concat
  · rw [vertices_indices path _ _ (by omega)]
    simp [slice]
  · rw [projected.cumKm, projected'.cumKm] at order ⊢
    exact slice_length projected.within projected'.start projected.place projected'.place segments
      order

theorem slice_points (seg seg' : Nat) : 2 ≤ (slice path seg seg' first last).length := by
  simp [slice]

theorem oriented_forward (projected : Projected path board first)
    (projected' : Projected path alight last) (order : board.cumKm ≤ alight.cumKm) :
    OrientedSlice path board alight (subPath path board alight) := by
  obtain ⟨sliced, checked⟩ := sub_path_slice projected projected' order
  obtain ⟨starts, ends, interior, length⟩ := slice_oriented projected projected' order
  rw [sliced]
  constructor
  case points => exact slice_points _ _
  case starts => exact starts
  case ends => exact ends
  case interior => rw [passed, if_neg (not_lt.mpr order), interior]
  case length => rw [length, abs_of_nonneg (sub_nonneg.mpr order)]
  case inRange => rw [checkedSlice, if_neg (not_lt.mpr order), checked]
  case tie =>
    intro same
    exact le_antisymm (projected_segments projected projected' order)
      (projected_segments projected' projected same.ge)

theorem oriented_back (projected : Projected path board first)
    (projected' : Projected path alight last) (order : alight.cumKm < board.cumKm) :
    OrientedSlice path board alight (subPath path alight board).reverse := by
  obtain ⟨sliced, checked⟩ := sub_path_slice projected' projected order.le
  obtain ⟨starts, ends, interior, length⟩ := slice_oriented projected' projected order.le
  rw [sliced]
  constructor
  case points =>
    rw [List.length_reverse]
    exact slice_points _ _
  case starts => rw [List.head?_reverse, ends]
  case ends => rw [List.getLast?_reverse, starts]
  case interior =>
    rw [passed, if_pos order, List.map_reverse, ← interior, List.tail_reverse, List.dropLast_reverse,
      List.map_reverse, List.tail_dropLast]
  case length => rw [length_reverse, length, abs_sub_comm, abs_of_pos (sub_pos.mpr order)]
  case inRange => rw [checkedSlice, if_pos order, checked, Option.map_some]
  case tie => exact fun same => absurd same order.ne'

end Slice

/-! ## rideLeg -/

section Ride
variable {path : List (ℝ × ℝ)}

/-- Between any two projections on the route's path, in either direction. -/
theorem ride_geometry (graph : Graph ℝ) (start stop : Node ℝ) (riding : List (Node ℝ))
    (path : List (ℝ × ℝ)) (long : 2 ≤ path.length)
    (found : graph.paths[routeIndexOf start.route 0 none graph.nodes]? = some path)
    (lat lng lat' lng' : ℝ) (boards : start.onPath = project planar lat lng path)
    (alights : stop.onPath = project planar lat' lng' path) :
    OrientedSlice path start.onPath stop.onPath (rideLeg graph start riding stop).geometry := by
  obtain ⟨first, projected⟩ := project_projected lat lng long
  obtain ⟨last, projected'⟩ := project_projected lat' lng' long
  rw [← boards] at projected
  rw [← alights] at projected'
  have looked : graph.paths.getD (routeIndexOf start.route 0 none graph.nodes) [] = path := by
    rw [List.getD_eq_getElem?_getD, found]
    rfl
  simp only [rideLeg, rideLegWith, looked]
  by_cases back : stop.onPath.cumKm < start.onPath.cumKm
  · have oriented := oriented_back projected projected' back
    rw [if_pos back, if_neg (Nat.not_lt.mpr oriented.points)]
    exact oriented
  · have oriented := oriented_forward projected projected' (not_lt.mp back)
    rw [if_neg back, if_neg (Nat.not_lt.mpr oriented.points)]
    exact oriented

noncomputable def loopLine : Route ℝ :=
  lineAlong [⟨0, 0⟩, ⟨(3 : Nat), 0⟩, ⟨(3 : Nat), (4 : Nat)⟩, ⟨0, 0⟩]
    [⟨none, "Market", 0, 0⟩, ⟨none, "Station", (3 : Nat), (4 : Nat)⟩, ⟨none, "Market Terminus", 0, 0⟩]

theorem loop_served : servedRoutes [loopLine] = [loopLine] := by
  simp [servedRoutes, findAllByOrderByRouteNumberAsc, loopLine, lineAlong]

theorem loop_node {i : Nat} (inside : i < 3) :
    ∃ node ∈ (build planar [loopLine]).nodes, node.route = loopLine ∧ node.stopIndex = i := by
  have listed : loopLine ∈ servedRoutes [loopLine] := by
    rw [loop_served]
    exact List.mem_singleton_self loopLine
  exact lay_nodes_found planar 0 (servedRoutes [loopLine]) listed inside

theorem loop_geometry :
    ∃ start stop : Node ℝ, start.stopIndex = 1 ∧ stop.stopIndex = 2 ∧
      OrientedSlice (pathPoints loopLine) start.onPath stop.onPath
        (rideLeg (build planar [loopLine]) start [stop] stop).geometry := by
  obtain ⟨start, known, line, index⟩ := loop_node (show 1 < 3 by omega)
  obtain ⟨stop, known', line', index'⟩ := loop_node (show 2 < 3 by omega)
  have found := build_route_path (by simp) known
  have boards := lay_nodes_path planar 0 (servedRoutes [loopLine]) start known
  have alights := lay_nodes_path planar 0 (servedRoutes [loopLine]) stop known'
  rw [line] at boards
  rw [line'] at alights
  refine ⟨start, stop, index, index', ?_⟩
  refine ride_geometry (build planar [loopLine]) start stop [stop] (pathPoints loopLine) ?_ ?_ _ _ _ _
    boards alights
  · simp [pathPoints, loopLine, lineAlong]
  · rw [found, line]

end Ride

end CityBus.RideGeometry
