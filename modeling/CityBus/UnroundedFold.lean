import CityBus.JourneyPlan

/-!
What rounding leaves alone: which legs `fold` makes, where rides start, how many
transfers there are and whether there is a plan at all do not depend on it, and
the total minutes shown are those of `Rounding.exact`, rounded.
-/

namespace CityBus.UnroundedFold

open GeoUtils JourneyGraph JourneySearch JourneyPlan

variable {K : Type} [Field K] [LinearOrder K]

section Shape
variable {graph : Graph K} {arrivals : Nat → Option (Arrival K)} {left right : Folding K}

structure SameShape (left right : Folding K) : Prop where
  modes : left.legs.map (·.mode) = right.legs.map (·.mode)
  rideStart : left.rideStart = right.rideStart
  riding : left.riding = right.riding
  transfers : left.transfers = right.transfers

theorem add_ride_shape (one other : Rounding K) (same : SameShape left right) :
    SameShape (addRideWith one graph left) (addRideWith other graph right) := by
  unfold addRideWith
  rw [same.riding]
  cases right.riding.getLast? with
  | none => exact same
  | some rideEnd =>
      constructor
      case modes => simp [same.modes, rideLegWith]
      case rideStart => exact same.rideStart
      case riding => rfl
      case transfers => exact same.transfers

omit [LinearOrder K] in
theorem add_transfer_shape (one other : Rounding K) (node : Node K) (edge : Edge K)
    (same : SameShape left right) :
    SameShape (addTransferWith one left node edge) (addTransferWith other right node edge) := by
  constructor
  case modes => simp [addTransferWith, same.modes, walkLegWith]
  case rideStart => rfl
  case riding => rfl
  case transfers => simp [addTransferWith, same.transfers]

theorem fold_hop_shape (one other : Rounding K) (lastHop : Bool) (node : Node K)
    (same : SameShape left right) :
    SameShape (foldHopWith one graph arrivals lastHop left node)
      (foldHopWith other graph arrivals lastHop right node) := by
  unfold foldHopWith
  cases (arrivals node.id).bind (·.viaEdge) with
  | none => exact same
  | some edge =>
      cases kind : edge.kind with
      | TRANSFER =>
          simp only [kind]
          exact add_transfer_shape one other node edge (add_ride_shape one other same)
      | RIDE =>
          have rode : SameShape { left with riding := left.riding ++ [node] }
              { right with riding := right.riding ++ [node] } :=
            ⟨same.modes, same.rideStart, congrArg (· ++ [node]) same.riding, same.transfers⟩
          cases lastHop with
          | false => simp [kind, rode]
          | true => simp [kind, add_ride_shape one other rode]

variable (graph arrivals) in
theorem fold_hops_shape (one other : Rounding K) (rest : List (Node K))
    (same : SameShape left right) :
    SameShape (foldHopsWith one graph arrivals left rest)
      (foldHopsWith other graph arrivals right rest) := by
  induction left, rest using foldHopsWith.induct one graph arrivals generalizing right with
  | case1 folding => exact same
  | case2 folding node => exact fold_hop_shape one other true node same
  | case3 folding node next rest ih => exact ih (fold_hop_shape one other false node same)

omit [Field K] [LinearOrder K] in
theorem rideless_iff_modes (legs : List (Leg K)) :
    legs.all (fun leg => !isRide leg) = (legs.map (·.mode)).all fun mode => decide (mode ≠ .RIDE) := by
  simp [List.all_map, isRide, Function.comp_def]

/-- A journey is dropped or kept whatever the rounding, and its total minutes
are the exact ones rounded. -/
theorem fold_minutes (rounding : Rounding K) (geo : GeoDistance K) (lastNode : Nat)
    (totalMinutes egressKm fromLat fromLng toLat toLng : K) :
    (foldWith rounding graph arrivals geo lastNode totalMinutes egressKm fromLat fromLng toLat
        toLng).map (·.totalMinutes) =
      (foldWith .exact graph arrivals geo lastNode totalMinutes egressKm fromLat fromLng toLat
        toLng).map fun response => rounding.minutes response.totalMinutes := by
  unfold foldWith
  dsimp only
  split
  · rename_i boardNode rest alightNode _ _
    have start : SameShape
        ⟨[walkLegWith rounding "Your location" boardNode.stop.name
          (nodeDistance geo fromLat fromLng boardNode * INDIRECTNESS)
          [(fromLat, fromLng), (boardNode.stop.lat, boardNode.stop.lng)]], boardNode, [], 0,
          nodeDistance geo fromLat fromLng boardNode * INDIRECTNESS⟩
        ⟨[walkLegWith .exact "Your location" boardNode.stop.name
          (nodeDistance geo fromLat fromLng boardNode * INDIRECTNESS)
          [(fromLat, fromLng), (boardNode.stop.lat, boardNode.stop.lng)]], boardNode, [], 0,
          nodeDistance geo fromLat fromLng boardNode * INDIRECTNESS⟩ :=
      ⟨rfl, rfl, rfl, rfl⟩
    have folded := fold_hops_shape graph arrivals rounding .exact rest start
    simp only [rideless_iff_modes, List.map_append, folded.modes]
    have egress : (List.map (fun leg => leg.mode) [walkLegWith rounding alightNode.stop.name
          "Destination" egressKm [(alightNode.stop.lat, alightNode.stop.lng), (toLat, toLng)]]) =
        List.map (fun leg => leg.mode) [walkLegWith .exact alightNode.stop.name
          "Destination" egressKm [(alightNode.stop.lat, alightNode.stop.lng), (toLat, toLng)]] := rfl
    rw [egress]
    split
    · rfl
    · simp [Rounding.exact]
  · rfl

theorem transit_minutes (rounding : Rounding K) (graph : Graph K) (geo : GeoDistance K)
    (order : QueueOrder K) (fromLat fromLng toLat toLng : K) :
    (planTransitWith rounding graph geo order fromLat fromLng toLat toLng).map (·.totalMinutes) =
      (planTransitWith .exact graph geo order fromLat fromLng toLat toLng).map
        fun response => rounding.minutes response.totalMinutes := by
  unfold planTransitWith
  dsimp only
  split
  · rfl
  · exact fold_minutes rounding geo _ _ _ _ _ _ _

theorem fold_total {rounding : Rounding K} {geo : GeoDistance K} {lastNode : Nat}
    {totalMinutes egressKm fromLat fromLng toLat toLng : K} {response : Response K}
    (returned : foldWith rounding graph arrivals geo lastNode totalMinutes egressKm fromLat fromLng
      toLat toLng = some response) : response.totalMinutes = rounding.minutes totalMinutes := by
  unfold foldWith at returned
  dsimp only at returned
  split at returned
  · split at returned
    · simp at returned
    · rw [← Option.some.inj returned]
  · simp at returned

variable [FloorRing K]

theorem plan_transit_minutes (graph : Graph K) (geo : GeoDistance K) (order : QueueOrder K)
    (fromLat fromLng toLat toLng : K) :
    (planTransit geo graph order fromLat fromLng toLat toLng).map (·.totalMinutes) =
      (planTransitWith .exact graph geo order fromLat fromLng toLat toLng).map
        fun response => round1 response.totalMinutes := by
  exact transit_minutes .displayed graph geo order fromLat fromLng toLat toLng

theorem exact_none_iff (graph : Graph K) (geo : GeoDistance K) (order : QueueOrder K)
    (fromLat fromLng toLat toLng : K) :
    planTransitWith .exact graph geo order fromLat fromLng toLat toLng = none ↔
      planTransit geo graph order fromLat fromLng toLat toLng = none := by
  have same := plan_transit_minutes graph geo order fromLat fromLng toLat toLng
  constructor
  · intro none
    rw [none] at same
    exact Option.map_eq_none_iff.mp same
  · intro none
    rw [none] at same
    exact Option.map_eq_none_iff.mp same.symm

end Shape

end CityBus.UnroundedFold
