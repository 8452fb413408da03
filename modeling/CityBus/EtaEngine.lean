import CityBus.PathProjection

/-!
The geometry of eta.js: where along a route a coordinate is. It is written anew
there, with its own haversine and its own loops, and has to agree with `project`
of the server.
-/

namespace CityBus.EtaEngine

open GeoUtils JourneyGraph JourneyPlan PathProjection Polylines

/-! ## The helpers -/

section Haversine
open Real

noncomputable def eta_haversine (p1 p2 : ℝ × ℝ) : ℝ :=
  let φ1 := p1.1 * π / (180 : Nat)
  let φ2 := p2.1 * π / (180 : Nat)
  let Δφ := (p2.1 - p1.1) * π / (180 : Nat)
  let Δl := (p2.2 - p1.2) * π / (180 : Nat)
  let a := sin (Δφ / (2 : Nat)) ^ 2 + cos φ1 * cos φ2 * sin (Δl / (2 : Nat)) ^ 2
  EARTH_RADIUS_KM * (2 : Nat) * atan2 (√a) (√(1 - a))

theorem eta_haversine_eq (p1 p2 : ℝ × ℝ) :
    eta_haversine p1 p2 = haversine.distanceKm p1.1 p1.2 p2.1 p2.2 := by
  have radians : ∀ degrees : ℝ, degrees * π / (180 : Nat) = toRadians degrees := by
    intro degrees
    rw [toRadians, Nat.cast_ofNat, mul_div_assoc]
  have chord : sin (toRadians (p2.1 - p1.1) / (2 : Nat)) ^ 2 +
      cos (toRadians p1.1) * cos (toRadians p2.1) * sin (toRadians (p2.2 - p1.2) / (2 : Nat)) ^ 2 =
        haversineChord p1.1 p1.2 p2.1 p2.2 := by
    rw [haversineChord, Nat.cast_ofNat]
    ring
  change _ = distanceKm p1.1 p1.2 p2.1 p2.2
  simp only [eta_haversine, radians, chord]
  rw [distanceKm, Nat.cast_ofNat, mul_assoc]

end Haversine

section Page
variable {K : Type} [Field K] [LinearOrder K] (geo : GeoDistance K)

/-- `eta_haversine` between two coordinates, over any distance. -/
def kmBetween (p1 p2 : K × K) : K := geo.distanceKm p1.1 p1.2 p2.1 p2.2

def eta_projectSeg (p a b : K × K) : (K × K) × K :=
  let dx := b.1 - a.1
  let dy := b.2 - a.2
  let len2 := dx * dx + dy * dy
  if len2 = 0 then (a, 0) else
    let t := max 0 (min 1 (((p.1 - a.1) * dx + (p.2 - a.2) * dy) / len2))
    ((a.1 + t * dx, a.2 + t * dy), t)

/-- `dist` is `Infinity` before the first segment; `path[0]` may be undefined. -/
structure RoutePos (K : Type) where
  dist : WithTop K
  seg : Nat
  t : K
  pt : Option (K × K)
  deriving DecidableEq

def closer (coords : K × K) (path : List (K × K)) (best : RoutePos K) (i : Nat) : RoutePos K :=
  match path[i]?, path[i + 1]? with
  | some a, some b =>
      let (pt, t) := eta_projectSeg coords a b
      let d := kmBetween geo pt coords
      if (d : WithTop K) < best.dist then ⟨d, i, t, some pt⟩ else best
  | _, _ => best

def eta_routePos (coords : K × K) (path : List (K × K)) : RoutePos K :=
  (List.range (path.length - 1)).foldl (closer geo coords path) ⟨⊤, 0, 0, path[0]?⟩

/-- `eta_haversine(path[i], path[i+1])` -/
def hop (path : List (K × K)) (i : Nat) : K :=
  match path[i]?, path[i + 1]? with
  | some a, some b => kmBetween geo a b
  | _, _ => 0

def eta_cumKm (pos : RoutePos K) (path : List (K × K)) : K :=
  let km := (List.range pos.seg).foldl (fun km i => km + hop geo path i) 0
  if pos.seg < path.length - 1 then km + pos.t * hop geo path pos.seg else km

/-! ## The two loops -/

def asNearest (pos : RoutePos K) : Nearest K := ⟨pos.seg, pos.t, pos.dist⟩

theorem project_seg_eq (coords a b : K × K) :
    eta_projectSeg coords a b =
      (along a b (segmentFraction coords.1 coords.2 a b), segmentFraction coords.1 coords.2 a b) := by
  simp only [eta_projectSeg, segmentFraction, along]
  split
  · simp
  · rfl

theorem km_between_project_seg (coords a b : K × K) :
    kmBetween geo (eta_projectSeg coords a b).1 coords = segmentDistance geo coords.1 coords.2 a b := by
  rw [project_seg_eq, kmBetween, geo.symm]
  rfl

theorem closer_step {coords : K × K} {path : List (K × K)} {i : Nat} {a b : K × K}
    (starts : path[i]? = some a) (ends : path[i + 1]? = some b) (best : RoutePos K) :
    closer geo coords path best i =
      if ((segmentDistance geo coords.1 coords.2 a b : K) : WithTop K) < best.dist then
        ⟨(segmentDistance geo coords.1 coords.2 a b : K), i, segmentFraction coords.1 coords.2 a b,
          some (along a b (segmentFraction coords.1 coords.2 a b))⟩
      else best := by
  rw [closer, starts, ends]
  simp only [km_between_project_seg]
  rw [project_seg_eq]

theorem closer_nearest (coords : K × K) (path : List (K × K)) (n i : Nat)
    (rest : i + n = path.length - 1) (best : RoutePos K) :
    asNearest ((List.range' i n).foldl (closer geo coords path) best) =
      nearest geo coords.1 coords.2 i (asNearest best) (path.drop i) := by
  induction n generalizing i best with
  | zero =>
      have short : (path.drop i).length ≤ 1 := by
        rw [List.length_drop]
        omega
      rw [List.range'_zero, List.foldl_nil]
      rcases left : path.drop i with _ | ⟨a, _ | ⟨b, more⟩⟩
      · rfl
      · rfl
      · simp [left] at short
  | succ n ih =>
      have inside : i + 1 < path.length := by omega
      have starts : path[i]? = some path[i] := List.getElem?_eq_getElem (by omega)
      have ends : path[i + 1]? = some path[i + 1] := List.getElem?_eq_getElem inside
      rw [List.range'_succ, List.foldl_cons, ih (i + 1) (by omega),
        List.drop_eq_getElem_cons (show i < path.length by omega), List.drop_eq_getElem_cons inside,
        nearest, closer_step geo starts ends]
      congr 1
      exact apply_ite asNearest _ _ _

def Placed (path : List (K × K)) (pos : RoutePos K) : Prop :=
  ∀ a b, path[pos.seg]? = some a → path[pos.seg + 1]? = some b →
    pos.dist = ⊤ ∨ pos.pt = some (along a b pos.t)

theorem closer_placed {coords : K × K} {path : List (K × K)} (steps : List Nat) (best : RoutePos K)
    (placed : Placed path best) : Placed path (steps.foldl (closer geo coords path) best) := by
  induction steps generalizing best with
  | nil => exact placed
  | cons i rest ih =>
      apply ih
      unfold closer
      split
      · rename_i a b starts ends
        simp only [project_seg_eq]
        split
        · intro c d starts' ends'
          rw [starts, Option.some_inj] at starts'
          rw [ends, Option.some_inj] at ends'
          subst starts' ends'
          exact Or.inr rfl
        · exact placed
      · exact placed

theorem cum_km_hops (t : K) (seg : Nat) (path : List (K × K)) (inside : seg + 1 < path.length) :
    cumulative geo t seg path =
      ((List.range seg).map (hop geo path)).sum + t * hop geo path seg := by
  induction path generalizing seg with
  | nil => simp at inside
  | cons a rest ih =>
      cases rest with
      | nil => simp at inside
      | cons b more =>
          cases seg with
          | zero =>
              rw [cumulative, List.range_zero, List.map_nil, List.sum_nil, zero_add]
              rfl
          | succ seg =>
              rw [cumulative, ih seg (by simpa using inside), List.range_succ_eq_map, List.map_cons,
                List.map_map, List.sum_cons, add_assoc]
              rfl

theorem eta_cum_km_eq (pos : RoutePos K) (path : List (K × K)) (inside : pos.seg + 1 < path.length) :
    eta_cumKm geo pos path = cumulative geo pos.t pos.seg path := by
  have sums : ∀ (steps : List Nat) (km : K),
      steps.foldl (fun km i => km + hop geo path i) km = km + (steps.map (hop geo path)).sum := by
    intro steps
    induction steps with
    | nil => simp
    | cons i rest ih =>
        intro km
        rw [List.foldl_cons, ih, List.map_cons, List.sum_cons, add_assoc]
  rw [eta_cumKm, if_pos (by omega), sums, zero_add, cum_km_hops geo pos.t pos.seg path inside]

theorem eta_route_pos_nearest (coords : K × K) (path : List (K × K)) :
    asNearest (eta_routePos geo coords path) =
      nearest geo coords.1 coords.2 0 ⟨0, 0, ⊤⟩ path := by
  have loops := closer_nearest geo coords path (path.length - 1) 0 (Nat.zero_add _)
    ⟨⊤, 0, 0, path[0]?⟩
  rw [List.drop_zero, ← List.range_eq_range'] at loops
  exact loops

theorem eta_route_pos_cases (coords : K × K) {path : List (K × K)} (long : 2 ≤ path.length) :
    ∃ a b, FirstNearest geo coords.1 coords.2 path (eta_routePos geo coords path).seg a b ∧
      (eta_routePos geo coords path).t = segmentFraction coords.1 coords.2 a b ∧
      (eta_routePos geo coords path).pt =
        some (along a b (segmentFraction coords.1 coords.2 a b)) := by
  have loops := eta_route_pos_nearest geo coords path
  have placed : Placed path (eta_routePos geo coords path) :=
    closer_placed geo _ _ fun _ _ _ _ => Or.inl rfl
  generalize eta_routePos geo coords path = pos at loops placed
  rcases nearest_cases geo coords.1 coords.2 path 0 ⟨0, 0, ⊤⟩ with
    ⟨_, above⟩ | ⟨k, a, b, found, _, result⟩
  · have first := List.getElem?_eq_getElem (show 0 < path.length by omega)
    have second := List.getElem?_eq_getElem (show 0 + 1 < path.length by omega)
    exact absurd (above 0 _ _ first second) (by simp)
  · rw [result, Nat.zero_add] at loops
    have atSeg : pos.seg = k := congrArg Nearest.bestSeg loops
    have atT : pos.t = segmentFraction coords.1 coords.2 a b := congrArg Nearest.bestT loops
    have atDist : pos.dist = (segmentDistance geo coords.1 coords.2 a b : K) :=
      congrArg Nearest.bestDist loops
    subst atSeg
    refine ⟨a, b, found, atT, ?_⟩
    rw [← atT]
    exact (placed a b found.starts found.ends).resolve_left (by simp [atDist])

theorem eta_project (coords : K × K) {path : List (K × K)} (long : 2 ≤ path.length) :
    project geo coords.1 coords.2 path =
      ⟨(eta_routePos geo coords path).seg, (eta_routePos geo coords path).t,
        eta_cumKm geo (eta_routePos geo coords path) path⟩ := by
  obtain ⟨a, b, found, _, _⟩ := eta_route_pos_cases geo coords long
  have inside := (List.getElem?_eq_some_iff.mp found.ends).1
  rw [project, if_neg (Nat.not_lt.mpr long), ← eta_route_pos_nearest, eta_cum_km_eq geo _ _ inside]
  rfl

end Page

/-! ## In the plane -/

section Planar
variable {lat lng : ℝ} {path : List (ℝ × ℝ)}

/-- `point` is the place of the route nearest to the coordinate, on the first segment
that comes so near, and `km` is the length of the route up to there. -/
structure NearestPlace (lat lng : ℝ) (path : List (ℝ × ℝ)) (pos : RoutePos ℝ) (km : ℝ)
    (point : ℝ × ℝ) : Prop where
  pt : pos.pt = some point
  place : spot plane pos.t pos.seg path = some point
  start : 0 ≤ pos.t
  within : pos.t ≤ 1
  nearest : ∀ seg t other, 0 ≤ t → t ≤ 1 → spot plane t seg path = some other →
    plane.dist (lat, lng) point ≤ plane.dist (lat, lng) other
  first : ∀ seg < pos.seg, ∀ t other, 0 ≤ t → t ≤ 1 → spot plane t seg path = some other →
    plane.dist (lat, lng) point < plane.dist (lat, lng) other
  arc : ∀ origin, path[0]? = some origin →
    km = length plane (slice path 0 pos.seg origin point)

theorem eta_nearest_place (lat lng : ℝ) (long : 2 ≤ path.length) :
    ∃ point, NearestPlace lat lng path (eta_routePos planar (lat, lng) path)
      (eta_cumKm planar (eta_routePos planar (lat, lng) path) path) point := by
  obtain ⟨a, b, found, atT, atPoint⟩ := eta_route_pos_cases planar (lat, lng) long
  have inside := (List.getElem?_eq_some_iff.mp found.ends).1
  have cum := eta_cum_km_eq planar _ _ inside
  generalize eta_routePos planar (lat, lng) path = pos at found atT atPoint inside cum
  obtain ⟨start, within⟩ := fraction_within lat lng a b
  have place : spot plane pos.t pos.seg path =
      some (along a b (segmentFraction lat lng a b)) := by
    rw [spot_eq found.starts found.ends, atT]
    rfl
  refine ⟨_, atPoint, place, ?_, ?_, ?_, ?_, ?_⟩
  · rw [atT]
    exact start
  · rw [atT]
    exact within
  · intro seg t other from_start to_end there
    obtain ⟨c, d, starts, ends, rfl⟩ := spot_cases there
    exact (found.least seg c d starts ends).trans (fraction_closest lat lng c d from_start to_end)
  · intro seg earlier t other from_start to_end there
    obtain ⟨c, d, starts, ends, rfl⟩ := spot_cases there
    exact (found.first seg earlier c d starts ends).trans_le
      (fraction_closest lat lng c d from_start to_end)
  · intro origin first
    obtain ⟨next, second⟩ : ∃ next, path[1]? = some next :=
      ⟨_, List.getElem?_eq_getElem (by omega)⟩
    have still : travelled plane 0 0 path = 0 := by
      rcases path with _ | ⟨c, _ | ⟨d, more⟩⟩ <;> simp [travelled]
    have corner : spot plane 0 0 path = some origin := by
      rw [spot_eq first second, plane.start]
    have forward : 0 ≤ pos.t := by rw [atT]; exact start
    rw [slice_length zero_le_one forward corner place (Nat.zero_le _)
        (by rw [still]; exact travelled_nonneg forward _ _),
      still, sub_zero, cum, cumulative_travelled]

/-- One place for both, and in the plane the right one. -/
theorem places_agree (geo : GeoDistance ℝ) (path : List (ℝ × ℝ)) (lat lng : ℝ)
    (long : 2 ≤ path.length) :
    project geo lat lng path = ⟨(eta_routePos geo (lat, lng) path).seg,
        (eta_routePos geo (lat, lng) path).t,
        eta_cumKm geo (eta_routePos geo (lat, lng) path) path⟩ ∧
      (geo = planar → ∃ point, NearestPlace lat lng path (eta_routePos geo (lat, lng) path)
        (eta_cumKm geo (eta_routePos geo (lat, lng) path) path) point) := by
  refine ⟨eta_project geo (lat, lng) long, ?_⟩
  rintro rfl
  exact eta_nearest_place lat lng long

-- A path with a segment of no length.
theorem places_agree_standing : 2 ≤ [((0 : ℝ), (0 : ℝ)), (0, 1), (0, 1), (1, 1)].length ∧
    ∃ point, NearestPlace 1 0 [(0, 0), (0, 1), (0, 1), (1, 1)]
      (eta_routePos planar (1, 0) [(0, 0), (0, 1), (0, 1), (1, 1)])
      (project planar 1 0 [(0, 0), (0, 1), (0, 1), (1, 1)]).cumKm point := by
  have both := places_agree planar [(0, 0), (0, 1), (0, 1), (1, 1)] 1 0 (by simp)
  obtain ⟨point, place⟩ := both.2 rfl
  refine ⟨by simp, point, ?_⟩
  rw [both.1]
  exact place

end Planar

/-! ## Along a meridian

There the haversine formula is exact, and a coordinate is projected to itself. -/

section Meridian

noncomputable def milestone (km : ℝ) : ℝ × ℝ := (north km, 0)

theorem along_milestone (a b t : ℝ) :
    along (milestone a) (milestone b) t = milestone (a + t * (b - a)) := by
  simp only [along, milestone, north]
  ext
  · ring
  · simp

theorem milestone_distance {a b : ℝ} (near : |b - a| ≤ 19000) :
    haversine.distanceKm (milestone a).1 (milestone a).2 (milestone b).1 (milestone b).2 =
      |b - a| := haversine_north a b 0 near

theorem milestone_fraction {a b s : ℝ} (long : a ≠ b) (start : 0 ≤ s) (within : s ≤ 1) :
    segmentFraction (milestone (a + s * (b - a))).1 (milestone (a + s * (b - a))).2
      (milestone a) (milestone b) = s := by
  have scale : (180 : ℝ) / (EARTH_RADIUS_KM * Real.pi) ≠ 0 := by
    have above := Real.pi_pos
    simp only [EARTH_RADIUS_KM]
    positivity
  have apart : b - a ≠ 0 := sub_ne_zero.mpr (Ne.symm long)
  have linear : ∀ km : ℝ, north km = km * (180 / (EARTH_RADIUS_KM * Real.pi)) := by
    intro km
    rw [north, mul_div_assoc]
  simp only [segmentFraction, milestone, linear]
  generalize (180 : ℝ) / (EARTH_RADIUS_KM * Real.pi) = c at scale
  have square : (b * c - a * c) * (b * c - a * c) + (0 - 0) * (0 - 0) = ((b - a) * c) ^ 2 := by
    ring
  have part : ((a + s * (b - a)) * c - a * c) * (b * c - a * c) + (0 - 0) * (0 - 0) =
      s * ((b - a) * c) ^ 2 := by
    ring
  have positive : ((b - a) * c) ^ 2 ≠ 0 := pow_ne_zero 2 (mul_ne_zero apart scale)
  rw [square, if_neg positive, part, mul_div_cancel_right₀ _ positive, min_eq_right within,
    max_eq_right start]

theorem milestone_segment {a b s : ℝ} (long : a ≠ b) (start : 0 ≤ s) (within : s ≤ 1) :
    segmentDistance haversine (milestone (a + s * (b - a))).1 (milestone (a + s * (b - a))).2
      (milestone a) (milestone b) = 0 := by
  have here := milestone_distance (a := a + s * (b - a)) (b := a + s * (b - a)) (by simp)
  rw [sub_self, abs_zero] at here
  have place := along_milestone a b s
  simp only [segmentDistance, milestone_fraction long start within]
  change haversine.distanceKm _ _ (along (milestone a) (milestone b) s).1
    (along (milestone a) (milestone b) s).2 = 0
  rw [place]
  exact here

theorem milestone_touched {c d x : ℝ} (known : 0 ≤ c ∧ c ≤ 9000) (known' : 0 ≤ d ∧ d ≤ 9000)
    (here : 0 ≤ x ∧ x ≤ 9000)
    (touched : segmentDistance haversine (milestone x).1 (milestone x).2
      (milestone c) (milestone d) ≤ 0) :
    ∃ t, 0 ≤ t ∧ t ≤ 1 ∧ c + t * (d - c) = x := by
  obtain ⟨start, within⟩ :=
    fraction_within (milestone x).1 (milestone x).2 (milestone c) (milestone d)
  have place := along_milestone c d
    (segmentFraction (milestone x).1 (milestone x).2 (milestone c) (milestone d))
  change haversine.distanceKm _ _ (along (milestone c) (milestone d) _).1
    (along (milestone c) (milestone d) _).2 ≤ 0 at touched
  rw [place] at touched
  generalize segmentFraction (milestone x).1 (milestone x).2 (milestone c) (milestone d) = t
    at start within touched
  have lower : 0 ≤ c + t * (d - c) := by nlinarith
  have upper : c + t * (d - c) ≤ 9000 := by nlinarith
  rw [milestone_distance (abs_le.mpr ⟨by linarith, by linarith⟩)] at touched
  exact ⟨t, start, within, sub_eq_zero.mp (abs_nonpos_iff.mp touched)⟩

theorem milestone_pos {kms : List ℝ} (known : ∀ km ∈ kms, 0 ≤ km ∧ km ≤ 9000) (seg : Nat)
    {a b s : ℝ} (starts : kms[seg]? = some a) (ends : kms[seg + 1]? = some b) (long : a ≠ b)
    (start : 0 ≤ s) (within : s ≤ 1)
    (before : ∀ j < seg, ∀ c d, kms[j]? = some c → kms[j + 1]? = some d →
      ∀ t, 0 ≤ t → t ≤ 1 → c + t * (d - c) ≠ a + s * (b - a)) :
    (eta_routePos haversine (milestone (a + s * (b - a))) (kms.map milestone)).seg = seg ∧
      (eta_routePos haversine (milestone (a + s * (b - a))) (kms.map milestone)).t = s := by
  have inside := (List.getElem?_eq_some_iff.mp ends).1
  obtain ⟨e, f, found, atT, _⟩ := eta_route_pos_cases haversine (milestone (a + s * (b - a)))
    (show 2 ≤ (kms.map milestone).length by rw [List.length_map]; omega)
  generalize eta_routePos haversine (milestone (a + s * (b - a))) (kms.map milestone) = pos
    at found atT
  have first : (kms.map milestone)[seg]? = some (milestone a) := by simp [starts]
  have second : (kms.map milestone)[seg + 1]? = some (milestone b) := by simp [ends]
  have touched := milestone_segment long start within
  have same : pos.seg = seg := by
    rcases Nat.lt_trichotomy pos.seg seg with earlier | same | later
    · -- The segment found would pass the milestone, and before the first that does.
      have least := found.least seg _ _ first second
      rw [touched] at least
      have begins := found.starts
      have stops := found.ends
      rw [List.getElem?_map, Option.map_eq_some_iff] at begins stops
      obtain ⟨c, atC, rfl⟩ := begins
      obtain ⟨d, atD, rfl⟩ := stops
      have knownA := known a (List.mem_of_getElem? starts)
      have knownB := known b (List.mem_of_getElem? ends)
      obtain ⟨t, from_start, to_end, passes⟩ := milestone_touched
        (known c (List.mem_of_getElem? atC)) (known d (List.mem_of_getElem? atD))
        ⟨by nlinarith, by nlinarith⟩ least
      exact absurd passes (before _ earlier c d atC atD t from_start to_end)
    · exact same
    · have nearer := found.first seg later _ _ first second
      rw [touched] at nearer
      exact absurd nearer (not_lt.mpr (haversine.nonneg _ _ _ _))
  have atA := found.starts
  have atB := found.ends
  rw [same, first, Option.some_inj] at atA
  rw [same, second, Option.some_inj] at atB
  subst atA atB
  exact ⟨same, atT.trans (milestone_fraction long start within)⟩

end Meridian

end CityBus.EtaEngine
