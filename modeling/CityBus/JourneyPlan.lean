import CityBus.JourneySearch

/-!
`fold` and `plan`: the chain of `viaNode`s is folded into human legs, and a plan
without a ride is dropped. A chain holds positions of nodes, so it is folded as
the list of its nodes and no lookup of the source can fail. `round1` and `round2`
are a parameter of the legs, so that the values before rounding can be spoken of.
-/

namespace CityBus.JourneyPlan

open GeoUtils JourneyGraph JourneySearch

inductive Mode where
  | WALK
  | RIDE
  deriving DecidableEq

structure Leg (K : Type) where
  mode : Mode
  fromName : String
  toName : String
  routeNumber : Option Nat
  routeName : Option String
  routeColor : Option String
  stopCount : Option Nat
  waitMinutes : Option K
  distanceKm : K
  durationMinutes : K
  geometry : List (K × K)
  deriving DecidableEq

structure Response (K : Type) where
  totalMinutes : K
  totalKm : K
  transfers : Nat
  summary : String
  legs : List (Leg K)
  deriving DecidableEq

variable {K : Type} [Field K] [LinearOrder K]

/-! ## Polyline geometry -/

def pointAt (path : List (K × K)) (i : Nat) : K × K := path.getD i (0, 0)

def along (a b : K × K) (t : K) : K × K := (a.1 + t * (b.1 - a.1), a.2 + t * (b.2 - a.2))

def subPath (path : List (K × K)) (start stop : Projection K) : List (K × K) :=
  if path.length < 2 ∨ stop.cumKm < start.cumKm then [] else
    along (pointAt path start.segment) (pointAt path (start.segment + 1)) start.t ::
      ((path.drop (start.segment + 1)).take (stop.segment - start.segment) ++
        [along (pointAt path stop.segment)
          (pointAt path (min (stop.segment + 1) (path.length - 1))) stop.t])

def routeIndexOf (route : Route K) : Nat → Option Nat → List (Node K) → Nat
  | _, _, [] => 0
  | idx, prev, node :: rest =>
      let here := if prev = none ∨ prev = some node.route.id then idx else idx + 1
      if node.route.id = route.id then here
      else routeIndexOf route here (some node.route.id) rest

/-! ## Legs -/

section Rounding
variable [FloorRing K]

def round1 (v : K) : K := ⌊v * (10 : Nat) + 1 / (2 : Nat)⌋ / (10 : Nat)

def round2 (v : K) : K := ⌊v * (100 : Nat) + 1 / (2 : Nat)⌋ / (100 : Nat)

/-- `%.1f` of a value that is not negative. -/
def oneDecimal (v : K) : String :=
  let tenths := ⌊v * (10 : Nat) + 1 / (2 : Nat)⌋
  toString (tenths / 10) ++ "." ++ toString (tenths % 10)

/-- What is done to minutes and to kilometres on their way into a response. -/
structure Rounding (K : Type) where
  minutes : K → K
  km : K → K

def Rounding.displayed : Rounding K := ⟨round1, round2⟩

def Rounding.exact : Rounding K := ⟨id, id⟩

def walkLegWith (rounding : Rounding K) (fromName toName : String) (km : K)
    (geometry : List (K × K)) : Leg K where
  mode := .WALK
  fromName := fromName
  toName := toName
  routeNumber := none
  routeName := none
  routeColor := none
  stopCount := none
  waitMinutes := none
  distanceKm := rounding.km km
  durationMinutes := rounding.minutes (walkMinutes km)
  geometry := geometry

def walkLeg (fromName toName : String) (km : K) (geometry : List (K × K)) : Leg K :=
  walkLegWith .displayed fromName toName km geometry

/-- The RIDE edge `rideLeg` finds between two neighbours of the chain. -/
def rideHop (graph : Graph K) (node next : Node K) : Option (Edge K) :=
  (graph.edges node.id).find? fun e => e.target = next.id ∧ e.kind = .RIDE

def rideEdges (graph : Graph K) : Node K → List (Node K) → List (Edge K)
  | _, [] => []
  | node, next :: rest => (rideHop graph node next).toList ++ rideEdges graph next rest

def rideLegWith (rounding : Rounding K) (graph : Graph K) (start : Node K) (riding : List (Node K))
    (stop : Node K) : Leg K :=
  let route := start.route
  let path := graph.paths.getD (routeIndexOf route 0 none graph.nodes) []
  let hops := rideEdges graph start riding
  let sliced :=
    if stop.onPath.cumKm < start.onPath.cumKm then
      (subPath path stop.onPath start.onPath).reverse
    else subPath path start.onPath stop.onPath
  { mode := .RIDE
    fromName := start.stop.name
    toName := stop.stop.name
    routeNumber := some route.routeNumber
    routeName := some route.name
    routeColor := some route.color
    stopCount := some riding.length
    waitMinutes := some (rounding.minutes (route.frequencyMinutes / (2 : Nat)))
    distanceKm := rounding.km (hops.map (·.km)).sum
    durationMinutes := rounding.minutes (hops.map (·.minutes)).sum
    geometry :=
      if sliced.length < 2 then
        [(start.stop.lat, start.stop.lng), (stop.stop.lat, stop.stop.lng)]
      else sliced }

def rideLeg (graph : Graph K) (start : Node K) (riding : List (Node K)) (stop : Node K) : Leg K :=
  rideLegWith .displayed graph start riding stop

/-! ## fold -/

/-- The variables of the loop in `fold`; `riding` are the nodes after `rideStart`
up to the current one. -/
structure Folding (K : Type) where
  legs : List (Leg K)
  rideStart : Node K
  riding : List (Node K)
  transfers : Nat
  totalKm : K

def addRideWith (rounding : Rounding K) (graph : Graph K) (folding : Folding K) : Folding K :=
  match folding.riding.getLast? with
  | none => folding
  | some rideEnd =>
      let ride := rideLegWith rounding graph folding.rideStart folding.riding rideEnd
      { folding with
        legs := folding.legs ++ [ride]
        totalKm := folding.totalKm + ride.distanceKm }

def addTransferWith (rounding : Rounding K) (folding : Folding K) (node : Node K) (edge : Edge K) :
    Folding K :=
  let previous := folding.riding.getLastD folding.rideStart
  { legs := folding.legs ++ [walkLegWith rounding previous.stop.name node.stop.name edge.km
      [(previous.stop.lat, previous.stop.lng), (node.stop.lat, node.stop.lng)]]
    rideStart := node
    riding := []
    transfers := folding.transfers + 1
    totalKm := folding.totalKm + edge.km }

section Loop
variable (rounding : Rounding K) (graph : Graph K) (arrivals : Nat → Option (Arrival K))

def foldHopWith (lastHop : Bool) (folding : Folding K) (node : Node K) : Folding K :=
  match (arrivals node.id).bind (·.viaEdge) with
  | none => folding
  | some edge =>
      match edge.kind with
      -- The ride so far is closed where the walk begins; without one there is no leg.
      | .TRANSFER => addTransferWith rounding (addRideWith rounding graph folding) node edge
      | .RIDE =>
          let rode := { folding with riding := folding.riding ++ [node] }
          if lastHop then addRideWith rounding graph rode else rode

def foldHopsWith : Folding K → List (Node K) → Folding K
  | folding, [] => folding
  | folding, [node] => foldHopWith rounding graph arrivals true folding node
  | folding, node :: next :: rest =>
      foldHopsWith (foldHopWith rounding graph arrivals false folding node) (next :: rest)

end Loop

def isRide (leg : Leg K) : Bool := leg.mode = .RIDE

def journeySummary (legs : List (Leg K)) : String :=
  " → ".intercalate ((legs.filter isRide).map fun leg =>
    "Route " ++ toString (leg.routeNumber.getD 0))

/-- `none` is the null of a plan that never boards a bus. -/
def foldWith (rounding : Rounding K) (graph : Graph K) (arrivals : Nat → Option (Arrival K))
    (geo : GeoDistance K) (lastNode : Nat)
    (totalMinutes egressKm fromLat fromLng toLat toLng : K) : Option (Response K) :=
  let chain := (walkBack arrivals graph.nodes.length lastNode).reverse.filterMap (graph.nodes[·]?)
  match chain, graph.nodes[lastNode]? with
  | boardNode :: rest, some alightNode =>
      let accessKm := nodeDistance geo fromLat fromLng boardNode * INDIRECTNESS
      let access := walkLegWith rounding "Your location" boardNode.stop.name accessKm
        [(fromLat, fromLng), (boardNode.stop.lat, boardNode.stop.lng)]
      let folded := foldHopsWith rounding graph arrivals ⟨[access], boardNode, [], 0, accessKm⟩ rest
      let legs := folded.legs ++ [walkLegWith rounding alightNode.stop.name "Destination" egressKm
        [(alightNode.stop.lat, alightNode.stop.lng), (toLat, toLng)]]
      if legs.all (fun leg => !isRide leg) then none
      else some
        { totalMinutes := rounding.minutes totalMinutes
          totalKm := rounding.km (folded.totalKm + egressKm)
          transfers := folded.transfers
          summary := if journeySummary legs = "" then "Walk" else journeySummary legs
          legs := legs }
  | _, _ => none

/-! ## plan -/

def planTransitWith (rounding : Rounding K) (graph : Graph K) (geo : GeoDistance K)
    (order : QueueOrder K) (fromLat fromLng toLat toLng : K) : Option (Response K) :=
  let finished := search geo graph order fromLat fromLng
  let best := alightBest geo graph toLat toLng finished.dist
  match best.bestNode with
  | none => none
  | some last => foldWith rounding graph finished.arrivals geo last (best.bestTotal.untopD 0)
      best.bestEgressKm fromLat fromLng toLat toLng

variable (geo : GeoDistance K)

def fold (graph : Graph K) (arrivals : Nat → Option (Arrival K)) (lastNode : Nat)
    (totalMinutes egressKm fromLat fromLng toLat toLng : K) : Option (Response K) :=
  foldWith .displayed graph arrivals geo lastNode totalMinutes egressKm fromLat fromLng toLat toLng

def planTransit (graph : Graph K) (order : QueueOrder K) (fromLat fromLng toLat toLng : K) :
    Option (Response K) :=
  planTransitWith .displayed graph geo order fromLat fromLng toLat toLng

def walkOnly (fromLat fromLng toLat toLng km minutes : K) : Response K where
  totalMinutes := round1 minutes
  totalKm := round2 km
  transfers := 0
  summary := "Walk " ++ oneDecimal km ++ " km"
  legs := [walkLeg "Your location" "Destination" km [(fromLat, fromLng), (toLat, toLng)]]

def validEnds (fromLat fromLng toLat toLng : K) : Bool :=
  isValidLatitude fromLat && isValidLongitude fromLng &&
    isValidLatitude toLat && isValidLongitude toLng

def directWalkKm (fromLat fromLng toLat toLng : K) : K :=
  geo.distanceKm fromLat fromLng toLat toLng * INDIRECTNESS

def noJourney : ServiceException :=
  .ResourceNotFoundException "No journey found — both points are too far from the bus network"

def plan (graph : Graph K) (order : QueueOrder K) (fromLat fromLng toLat toLng : K) :
    Except ServiceException (Response K) :=
  let walkKm := directWalkKm geo fromLat fromLng toLat toLng
  if ¬ validEnds fromLat fromLng toLat toLng then
    .error (.BadRequestException "Coordinates out of range")
  else if walkKm < (2 : Nat) / (100 : Nat) then
    .error (.BadRequestException "Origin and destination are the same place")
  else
    let transit :=
      if graph.nodes = [] then none
      else planTransit geo graph order fromLat fromLng toLat toLng
    let onFoot := walkOnly fromLat fromLng toLat toLng walkKm (walkMinutes walkKm)
    match transit with
    | none => if walkKm ≤ MAX_WALK_ONLY_KM then .ok onFoot else .error noJourney
    | some response =>
        -- The minutes on foot are exact here, those of the response are rounded.
        if walkKm ≤ MAX_WALK_ONLY_KM ∧ walkMinutes walkKm ≤ response.totalMinutes then .ok onFoot
        else .ok response

end Rounding

end CityBus.JourneyPlan
