import CityBus.CompiledGraph
import CityBus.Polylines
import Mathlib.Analysis.SpecialFunctions.Pow.Real

/-!
What `project` finds: the first segment of the path that comes nearest to the
point, and on it the nearest place. Read in the plane, a point of the path is
projected to where the path passes it first.
-/

namespace CityBus.PathProjection

open GeoUtils JourneyGraph JourneyPlan Polylines

/-! ## The plane -/

section Plane

noncomputable def planar : GeoDistance ℝ where
  distanceKm lat1 lon1 lat2 lon2 := √((lat2 - lat1) ^ 2 + (lon2 - lon1) ^ 2)
  symm := by
    intro lat1 lon1 lat2 lon2
    congr 1
    ring
  nonneg := fun _ _ _ _ => Real.sqrt_nonneg _

noncomputable def plane : Segments ℝ (ℝ × ℝ) where
  dist a b := planar.distanceKm a.1 a.2 b.1 b.2
  along := along
  start := by simp [along]
  stop := by simp [along]
  evenly := by
    intro a b s t
    have scaled : (a.1 + t * (b.1 - a.1) - (a.1 + s * (b.1 - a.1))) ^ 2 +
        (a.2 + t * (b.2 - a.2) - (a.2 + s * (b.2 - a.2))) ^ 2 =
          (t - s) ^ 2 * ((b.1 - a.1) ^ 2 + (b.2 - a.2) ^ 2) := by ring
    simp only [planar, along, scaled]
    rw [Real.sqrt_mul (sq_nonneg _), Real.sqrt_sq_eq_abs]
  nonneg := fun _ _ => Real.sqrt_nonneg _
  apart := by
    intro a b none
    have squares := (Real.sqrt_eq_zero (by positivity)).mp none
    have first : (b.1 - a.1) ^ 2 = 0 := by nlinarith [sq_nonneg (b.1 - a.1), sq_nonneg (b.2 - a.2)]
    have second : (b.2 - a.2) ^ 2 = 0 := by nlinarith [sq_nonneg (b.1 - a.1), sq_nonneg (b.2 - a.2)]
    exact Prod.ext (sub_eq_zero.mp (pow_eq_zero_iff two_ne_zero |>.mp first)).symm
      (sub_eq_zero.mp (pow_eq_zero_iff two_ne_zero |>.mp second)).symm

theorem fraction_within (lat lng : ℝ) (a b : ℝ × ℝ) :
    0 ≤ segmentFraction lat lng a b ∧ segmentFraction lat lng a b ≤ 1 := by
  simp only [segmentFraction]
  split
  · simp
  · exact ⟨le_max_left _ _, max_le zero_le_one (min_le_left _ _)⟩

/-- No place of the segment is nearer to the point than the one `project` takes. -/
theorem fraction_closest (lat lng : ℝ) (a b : ℝ × ℝ) {s : ℝ} (start : 0 ≤ s) (within : s ≤ 1) :
    segmentDistance planar lat lng a b ≤ plane.dist (lat, lng) (along a b s) := by
  simp only [segmentDistance, plane, planar, along]
  apply Real.sqrt_le_sqrt
  simp only [segmentFraction]
  generalize wx : b.1 - a.1 = dx
  generalize wy : b.2 - a.2 = dy
  split
  · rename_i flat
    have noX : dx = 0 := by nlinarith [mul_self_nonneg dx, mul_self_nonneg dy]
    have noY : dy = 0 := by nlinarith [mul_self_nonneg dx, mul_self_nonneg dy]
    simp [noX, noY]
  · rename_i long
    have positive : 0 < dx * dx + dy * dy :=
      lt_of_le_of_ne (add_nonneg (mul_self_nonneg dx) (mul_self_nonneg dy)) (Ne.symm long)
    generalize wu : ((lat - a.1) * dx + (lng - a.2) * dy) / (dx * dx + dy * dy) = u
    have foot : (lat - a.1) * dx + (lng - a.2) * dy = u * (dx * dx + dy * dy) := by
      rw [← wu, div_mul_cancel₀ _ long]
    -- The squared distance as a function of the fraction, least at `u`.
    have square : ∀ t : ℝ, (a.1 + t * dx - lat) ^ 2 + (a.2 + t * dy - lng) ^ 2 =
        (a.1 - lat) ^ 2 + (a.2 - lng) ^ 2 - u ^ 2 * (dx * dx + dy * dy) +
          (t - u) ^ 2 * (dx * dx + dy * dy) := by
      intro t
      linear_combination (-2 * t) * foot
    rw [square, square s]
    have nearer : (max 0 (min 1 u) - u) ^ 2 ≤ (s - u) ^ 2 := by
      rcases le_total u 0 with before | inside
      · rw [min_eq_right (before.trans zero_le_one), max_eq_left before]
        nlinarith
      · rcases le_total u 1 with within' | behind
        · rw [min_eq_right within', max_eq_right inside, sub_self]
          nlinarith [sq_nonneg (s - u)]
        · rw [min_eq_left behind, max_eq_right zero_le_one]
          nlinarith
    exact (add_le_add_iff_left _).mpr (mul_le_mul_of_nonneg_right nearer positive.le)

end Plane

/-! ## The loop of project -/

section Loop
variable {K : Type} [Field K] [LinearOrder K] (geo : GeoDistance K) (lat lng : K)

/-- Segment `k` of the path, from `a` to `b`, is the first of the nearest ones. -/
structure FirstNearest (path : List (K × K)) (k : Nat) (a b : K × K) : Prop where
  starts : path[k]? = some a
  ends : path[k + 1]? = some b
  least : ∀ j c d, path[j]? = some c → path[j + 1]? = some d →
    segmentDistance geo lat lng a b ≤ segmentDistance geo lat lng c d
  first : ∀ j < k, ∀ c d, path[j]? = some c → path[j + 1]? = some d →
    segmentDistance geo lat lng a b < segmentDistance geo lat lng c d

theorem first_nearest_later {a b c d : K × K} {more : List (K × K)} {k : Nat}
    (found : FirstNearest geo lat lng (b :: more) k c d)
    (nearer : segmentDistance geo lat lng c d < segmentDistance geo lat lng a b) :
    FirstNearest geo lat lng (a :: b :: more) (k + 1) c d := by
  constructor
  case starts => simpa using found.starts
  case ends => simpa using found.ends
  case least =>
    intro j e f starts ends
    cases j with
    | zero =>
        simp only [List.getElem?_cons_zero, List.getElem?_cons_succ, Option.some.injEq] at starts ends
        rw [← starts, ← ends]
        exact nearer.le
    | succ j => exact found.least j e f (by simpa using starts) (by simpa using ends)
  case first =>
    intro j before e f starts ends
    cases j with
    | zero =>
        simp only [List.getElem?_cons_zero, List.getElem?_cons_succ, Option.some.injEq] at starts ends
        rw [← starts, ← ends]
        exact nearer
    | succ j =>
        exact found.first j (by omega) e f (by simpa using starts) (by simpa using ends)

theorem nearest_cases (path : List (K × K)) (i : Nat) (best : Nearest K) :
    (nearest geo lat lng i best path = best ∧
      ∀ (j : Nat) (c d : K × K), path[j]? = some c → path[j + 1]? = some d →
        best.bestDist ≤ ((segmentDistance geo lat lng c d : K) : WithTop K)) ∨
    ∃ k a b, FirstNearest geo lat lng path k a b ∧
      ((segmentDistance geo lat lng a b : K) : WithTop K) < best.bestDist ∧
      nearest geo lat lng i best path =
        ⟨i + k, segmentFraction lat lng a b, (segmentDistance geo lat lng a b : K)⟩ := by
  induction path generalizing i best with
  | nil => exact Or.inl ⟨rfl, by simp⟩
  | cons a rest ih =>
      cases rest with
      | nil => exact Or.inl ⟨rfl, by simp⟩
      | cons b more =>
          by_cases improved : ((segmentDistance geo lat lng a b : K) : WithTop K) < best.bestDist
          · right
            rw [nearest, if_pos improved]
            rcases ih (i + 1) ⟨i, segmentFraction lat lng a b, (segmentDistance geo lat lng a b : K)⟩
              with ⟨kept, above⟩ | ⟨k, c, d, found, nearer, result⟩
            · refine ⟨0, a, b, ⟨rfl, rfl, ?_, by simp⟩, improved, kept⟩
              intro j c d starts ends
              cases j with
              | zero =>
                  obtain rfl : a = c := by simpa using starts
                  obtain rfl : b = d := by simpa using ends
                  exact le_refl _
              | succ j =>
                  exact WithTop.coe_le_coe.mp
                    (above j c d (by simpa using starts) (by simpa using ends))
            · have closer := WithTop.coe_lt_coe.mp nearer
              refine ⟨k + 1, c, d, first_nearest_later geo lat lng found closer, nearer.trans improved,
                ?_⟩
              rw [result, Nat.add_right_comm, Nat.add_assoc]
          · have notBelow := not_lt.mp improved
            rw [nearest, if_neg improved]
            rcases ih (i + 1) best with ⟨kept, above⟩ | ⟨k, c, d, found, nearer, result⟩
            · refine Or.inl ⟨kept, ?_⟩
              intro j c d starts ends
              cases j with
              | zero =>
                  obtain rfl : a = c := by simpa using starts
                  obtain rfl : b = d := by simpa using ends
                  exact notBelow
              | succ j => exact above j c d (by simpa using starts) (by simpa using ends)
            · have closer := WithTop.coe_lt_coe.mp (nearer.trans_le notBelow)
              refine Or.inr ⟨k + 1, c, d, first_nearest_later geo lat lng found closer, nearer, ?_⟩
              rw [result, Nat.add_right_comm, Nat.add_assoc]

theorem project_cases {path : List (K × K)} (long : 2 ≤ path.length) :
    ∃ k a b, FirstNearest geo lat lng path k a b ∧
      project geo lat lng path =
        ⟨k, segmentFraction lat lng a b, cumulative geo (segmentFraction lat lng a b) k path⟩ := by
  rw [project, if_neg (Nat.not_lt.mpr long)]
  rcases nearest_cases geo lat lng path 0 ⟨0, 0, ⊤⟩ with ⟨_, above⟩ | ⟨k, a, b, found, _, result⟩
  · have first := List.getElem?_eq_getElem (show 0 < path.length by omega)
    have second := List.getElem?_eq_getElem (show 0 + 1 < path.length by omega)
    exact absurd (above 0 _ _ first second) (by simp)
  · exact ⟨k, a, b, found, by simp [result]⟩

end Loop

/-! ## Projections in the plane -/

section Planar
variable {lat lng : ℝ} {path : List (ℝ × ℝ)}

theorem cumulative_travelled (t : ℝ) (seg : Nat) (path : List (ℝ × ℝ)) :
    cumulative planar t seg path = travelled plane t seg path := by
  induction path generalizing seg with
  | nil => cases seg <;> rfl
  | cons a rest ih =>
      cases rest with
      | nil => cases seg <;> rfl
      | cons b more =>
          cases seg with
          | zero => rfl
          | succ seg =>
              rw [cumulative, travelled, ih]
              rfl

/-- A place of the path that `project` can return: what is past a vertex is not
put at the start of the segment behind it. -/
structure Projected (path : List (ℝ × ℝ)) (projection : Projection ℝ) (point : ℝ × ℝ) : Prop where
  place : spot plane projection.t projection.segment path = some point
  start : 0 ≤ projection.t
  within : projection.t ≤ 1
  cumKm : projection.cumKm = travelled plane projection.t projection.segment path
  ahead : 0 < projection.segment →
    travelled plane 0 projection.segment path < projection.cumKm

theorem project_projected (lat lng : ℝ) (long : 2 ≤ path.length) :
    ∃ point, Projected path (project planar lat lng path) point := by
  obtain ⟨k, a, b, found, result⟩ := project_cases planar lat lng long
  obtain ⟨start, within⟩ := fraction_within lat lng a b
  rw [result, cumulative_travelled]
  refine ⟨_, spot_eq found.starts found.ends, start, within, rfl, ?_⟩
  intro later
  rw [travelled_eq (segmentFraction lat lng a b) found.starts found.ends, lt_add_iff_pos_right]
  -- Otherwise the place is the vertex, and the segment before came as near.
  by_contra still
  have none : plane.dist a (plane.along a b (segmentFraction lat lng a b)) = 0 := by
    have part := plane.evenly a b 0 (segmentFraction lat lng a b)
    rw [plane.start, sub_zero, abs_of_nonneg start] at part
    rw [part]
    exact le_antisymm (not_lt.mp still) (mul_nonneg start (plane.nonneg a b))
  have vertex : a = along a b (segmentFraction lat lng a b) := plane.apart _ _ none
  change 0 < k at later
  obtain ⟨j, rfl⟩ : ∃ j, k = j + 1 := ⟨k - 1, by omega⟩
  obtain ⟨before, starts⟩ : ∃ before, path[j]? = some before := by
    have inside := (List.getElem?_eq_some_iff.mp found.starts).1
    exact ⟨_, List.getElem?_eq_getElem (by omega)⟩
  have nearer := found.first j (Nat.lt_succ_self j) before a starts found.starts
  have near := fraction_closest lat lng before a zero_le_one (le_refl 1)
  have same : segmentDistance planar lat lng a b = plane.dist (lat, lng) a := by
    conv_rhs => rw [vertex]
    rfl
  have corner : along before a 1 = a := plane.stop before a
  rw [corner] at near
  linarith

theorem projected_inside {projection : Projection ℝ} {point : ℝ × ℝ}
    (projected : Projected path projection point) : projection.segment + 1 < path.length := by
  obtain ⟨_, _, _, ends, _⟩ := spot_cases projected.place
  exact (List.getElem?_eq_some_iff.mp ends).1

theorem projected_segments {one other : Projection ℝ} {point point' : ℝ × ℝ}
    (projected : Projected path one point) (projected' : Projected path other point')
    (order : one.cumKm ≤ other.cumKm) : one.segment ≤ other.segment := by
  by_contra behind
  have inside := projected_inside projected
  have ahead := projected.ahead (by omega)
  have passed : travelled plane other.t other.segment path ≤ travelled plane 0 one.segment path :=
    travelled_le projected'.within (not_le.mp behind) (by omega)
  rw [← projected'.cumKm] at passed
  linarith

/-- A point of the path is projected to the first place where the path passes it. -/
theorem project_first_pass {s : ℝ} (on_path : LiesAt plane path s (lat, lng)) :
    IsLeast {s | LiesAt plane path s (lat, lng)} (project planar lat lng path).cumKm := by
  obtain ⟨seg, t, start, within, here, _⟩ := on_path
  obtain ⟨c, d, starts, ends, point⟩ := spot_cases here
  have long : 2 ≤ path.length := by
    have inside := (List.getElem?_eq_some_iff.mp ends).1
    omega
  obtain ⟨k, a, b, found, result⟩ := project_cases planar lat lng long
  obtain ⟨start', within'⟩ := fraction_within lat lng a b
  have touching : ∀ (j : Nat) (e f : ℝ × ℝ) (t' : ℝ), 0 ≤ t' → t' ≤ 1 →
      path[j]? = some e → path[j + 1]? = some f → along e f t' = (lat, lng) →
      segmentDistance planar lat lng e f ≤ 0 := by
    intro j e f t' from_start to_end _ _ same
    have near := fraction_closest lat lng e f from_start to_end
    rw [same, dist_same] at near
    exact near
  have zero : plane.dist (lat, lng) (along a b (segmentFraction lat lng a b)) = 0 :=
    le_antisymm ((found.least seg c d starts ends).trans
      (touching seg c d t start within starts ends point.symm)) (plane.nonneg _ _)
  have reached := plane.apart _ _ zero
  rw [result, cumulative_travelled]
  refine first_pass start' within' ?_ ?_
  · rw [spot_eq found.starts found.ends, reached]
    rfl
  · intro earlier before t' from_start to_end passes
    obtain ⟨e, f, starts', ends', same⟩ := spot_cases passes
    have nearer := found.first earlier before e f starts' ends'
    have touched := touching earlier e f t' from_start to_end starts' ends' same.symm
    have far : 0 ≤ segmentDistance planar lat lng a b := planar.nonneg _ _ _ _
    linarith

end Planar

end CityBus.PathProjection
