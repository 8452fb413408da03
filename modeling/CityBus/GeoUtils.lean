import Mathlib.Analysis.SpecialFunctions.Complex.Arg
import Mathlib.Analysis.Real.Pi.Bounds

/-!
`util/GeoUtils.java`. The services only use that a distance is symmetric and
not negative, so they take it as a `GeoDistance` over any ordered field; the
haversine formula of the source is one, over the reals.
-/

namespace CityBus.GeoUtils

section Validity
variable {K : Type} [Field K] [LinearOrder K]

def isValidLatitude (lat : K) : Bool := decide (-90 ≤ lat) && decide (lat ≤ 90)

def isValidLongitude (lng : K) : Bool := decide (-180 ≤ lng) && decide (lng ≤ 180)

/-- A distance in kilometres between two WGS-84 coordinates. -/
structure GeoDistance (K : Type) [Field K] [LinearOrder K] where
  distanceKm : K → K → K → K → K
  symm : ∀ lat1 lon1 lat2 lon2, distanceKm lat1 lon1 lat2 lon2 = distanceKm lat2 lon2 lat1 lon1
  nonneg : ∀ lat1 lon1 lat2 lon2, 0 ≤ distanceKm lat1 lon1 lat2 lon2

/-- A distance that evaluates over any ordered field. -/
def taxicab [IsStrictOrderedRing K] : GeoDistance K where
  distanceKm lat1 lon1 lat2 lon2 := |lat2 - lat1| + |lon2 - lon1|
  symm := by
    intro lat1 lon1 lat2 lon2
    rw [abs_sub_comm lat2 lat1, abs_sub_comm lon2 lon1]
  nonneg := fun _ _ _ _ => add_nonneg (abs_nonneg _) (abs_nonneg _)

end Validity

section Haversine
open Real

def EARTH_RADIUS_KM : ℝ := 6371

noncomputable def toRadians (degrees : ℝ) : ℝ := degrees * (π / 180)

noncomputable def atan2 (y x : ℝ) : ℝ := Complex.arg ⟨x, y⟩

noncomputable def haversineChord (lat1 lon1 lat2 lon2 : ℝ) : ℝ :=
  let dLat := toRadians (lat2 - lat1)
  let dLon := toRadians (lon2 - lon1)
  sin (dLat / 2) * sin (dLat / 2) +
    cos (toRadians lat1) * cos (toRadians lat2) * sin (dLon / 2) * sin (dLon / 2)

noncomputable def distanceKm (lat1 lon1 lat2 lon2 : ℝ) : ℝ :=
  let a := haversineChord lat1 lon1 lat2 lon2
  EARTH_RADIUS_KM * (2 * atan2 (√a) (√(1 - a)))

theorem chord_symm (lat1 lon1 lat2 lon2 : ℝ) :
    haversineChord lat1 lon1 lat2 lon2 = haversineChord lat2 lon2 lat1 lon1 := by
  have flip : ∀ x y : ℝ, sin (toRadians (x - y) / 2) = -sin (toRadians (y - x) / 2) := by
    intro x y
    rw [← sin_neg]
    congr 1
    simp only [toRadians]
    ring
  simp only [haversineChord]
  rw [flip lat2 lat1, flip lon2 lon1]
  ring

theorem distance_symm (lat1 lon1 lat2 lon2 : ℝ) :
    distanceKm lat1 lon1 lat2 lon2 = distanceKm lat2 lon2 lat1 lon1 := by
  simp only [distanceKm, chord_symm lat1 lon1 lat2 lon2]

theorem distance_nonneg (lat1 lon1 lat2 lon2 : ℝ) : 0 ≤ distanceKm lat1 lon1 lat2 lon2 := by
  have angle : 0 ≤ atan2 (√(haversineChord lat1 lon1 lat2 lon2))
      (√(1 - haversineChord lat1 lon1 lat2 lon2)) :=
    Complex.arg_nonneg_iff.mpr (sqrt_nonneg _)
  simp only [distanceKm, EARTH_RADIUS_KM]
  positivity

noncomputable def haversine : GeoDistance ℝ where
  distanceKm := distanceKm
  symm := distance_symm
  nonneg := distance_nonneg

theorem atan2_sin_cos (angle : ℝ) (lower : -π < angle) (upper : angle ≤ π) :
    atan2 (sin angle) (cos angle) = angle := by
  have polar : (⟨cos angle, sin angle⟩ : ℂ) =
      Complex.cos angle + Complex.sin angle * Complex.I := by
    apply Complex.ext
    · simp [Complex.cos_ofReal_re]
    · simp [Complex.sin_ofReal_re]
  rw [atan2, polar, Complex.arg_cos_add_sin_mul_I ⟨lower, upper⟩]

theorem chord_meridian (lat1 lat2 lon : ℝ) :
    haversineChord lat1 lon lat2 lon = sin (|toRadians (lat2 - lat1)| / 2) ^ 2 := by
  have square : ∀ x : ℝ, sin (|x| / 2) ^ 2 = sin (x / 2) * sin (x / 2) := by
    intro x
    rcases abs_choice x with same | flipped
    · rw [same]; ring
    · rw [flipped, neg_div, sin_neg]; ring
  rw [square]
  simp [haversineChord, toRadians]

-- Along a meridian the formula is exact: the chord is a square and `atan2`
-- gives back half of the latitude difference.
theorem distance_meridian (lat1 lat2 lon : ℝ) (near : |lat2 - lat1| ≤ 180) :
    distanceKm lat1 lon lat2 lon = EARTH_RADIUS_KM * |toRadians (lat2 - lat1)| := by
  have scale : |toRadians (lat2 - lat1)| = |lat2 - lat1| * (π / 180) := by
    rw [toRadians, abs_mul, abs_of_pos (by positivity : (0 : ℝ) < π / 180)]
  have chord := chord_meridian lat1 lat2 lon
  generalize |toRadians (lat2 - lat1)| = angle at scale chord ⊢
  have angleNonneg : 0 ≤ angle := by rw [scale]; positivity
  have angleLe : angle ≤ π := by rw [scale]; nlinarith [pi_pos]
  have sine : √(haversineChord lat1 lon lat2 lon) = sin (angle / 2) := by
    rw [chord]
    exact sqrt_sq (sin_nonneg_of_nonneg_of_le_pi (by linarith) (by linarith))
  have cosine : √(1 - haversineChord lat1 lon lat2 lon) = cos (angle / 2) := by
    rw [chord, ← cos_sq']
    exact sqrt_sq (cos_nonneg_of_neg_pi_div_two_le_of_le (by linarith [pi_pos]) (by linarith))
  rw [distanceKm]
  simp only [sine, cosine, atan2_sin_cos (angle / 2) (by linarith [pi_pos]) (by linarith)]
  ring

noncomputable def north (km : ℝ) : ℝ := km * 180 / (EARTH_RADIUS_KM * π)

theorem north_sub (a b : ℝ) : north b - north a = (b - a) * 180 / (EARTH_RADIUS_KM * π) := by
  simp only [north]
  ring

theorem haversine_north (a b lon : ℝ) (near : |b - a| ≤ 19000) :
    haversine.distanceKm (north a) lon (north b) lon = |b - a| := by
  have above := pi_gt_three
  have scale : (0 : ℝ) < EARTH_RADIUS_KM * π := by simp only [EARTH_RADIUS_KM]; positivity
  have radians : toRadians (north b - north a) = (b - a) / EARTH_RADIUS_KM := by
    rw [toRadians, north_sub]
    field_simp
  have exact := distance_meridian (north a) (north b) lon
  show distanceKm (north a) lon (north b) lon = |b - a|
  rw [exact, radians, abs_div, EARTH_RADIUS_KM, abs_of_pos (by norm_num : (0 : ℝ) < 6371)]
  · field_simp
  · rw [north_sub, abs_div, abs_of_pos scale, abs_mul, div_le_iff₀ scale, EARTH_RADIUS_KM]
    norm_num
    linarith

theorem north_valid (km : ℝ) (near : |km| ≤ 9000) : isValidLatitude (north km) = true := by
  have above := pi_gt_three
  have scale : (0 : ℝ) < EARTH_RADIUS_KM * π := by simp only [EARTH_RADIUS_KM]; positivity
  obtain ⟨lower, upper⟩ := abs_le.mp near
  have south : -90 ≤ north km := by
    rw [north, le_div_iff₀ scale, EARTH_RADIUS_KM]
    linarith
  have pole : north km ≤ 90 := by
    rw [north, div_le_iff₀ scale, EARTH_RADIUS_KM]
    linarith
  simp [isValidLatitude, south, pole]

end Haversine

end CityBus.GeoUtils
