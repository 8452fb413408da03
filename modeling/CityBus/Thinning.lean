import Mathlib.Data.Rat.Floor
import Mathlib.Tactic.FieldSimp
import Mathlib.Tactic.Linarith
import Mathlib.Tactic.NormNum

/-!
`thin` of roads.js, which asks the road service for at most `MAX_WAYPOINTS` of
the waypoints of a route. The step between two of them is a fraction; the index
is rounded.
-/

namespace CityBus.Thinning

variable {P : Type}

def MAX_WAYPOINTS : Nat := 24

def round (x : ℚ) : ℤ := ⌊x + 1 / 2⌋

/-- An index outside the array reads `undefined`. -/
def item (waypoints : List P) (i : ℤ) : Option P :=
  if 0 ≤ i then waypoints[i.toNat]? else none

def step (waypoints : List P) : ℚ := ((waypoints.length : ℚ) - 1) / ((MAX_WAYPOINTS : ℚ) - 1)

def thin (waypoints : List P) : List (Option P) :=
  if waypoints.length ≤ MAX_WAYPOINTS then waypoints.map some
  else (List.range MAX_WAYPOINTS).map fun i : Nat => item waypoints (round (i * step waypoints))

/-! ## Rounded multiples of a step -/

theorem round_whole (n : ℤ) : round n = n := by
  rw [round, Int.floor_eq_iff]
  constructor <;> linarith

@[simp] theorem round_zero : round 0 = 0 := by
  simpa using round_whole 0

-- Rounding may bring two numbers together, but not two that are a whole apart.
theorem round_lt {x y : ℚ} (apart : x + 1 ≤ y) : round x < round y := by
  have shifted : ⌊x + 1 / 2⌋ + 1 ≤ ⌊y + 1 / 2⌋ := by
    rw [← Int.floor_add_one]
    exact Int.floor_le_floor (by linarith)
  exact Int.lt_of_add_one_le shifted

theorem round_multiple_lt {width : ℚ} (wide : 1 ≤ width) {i j : Nat} (before : i < j) :
    round (i * width) < round (j * width) := by
  apply round_lt
  have next : (i : ℚ) + 1 ≤ j := by exact_mod_cast before
  calc (i : ℚ) * width + 1 ≤ i * width + width := by linarith
    _ = (i + 1) * width := by ring
    _ ≤ j * width := mul_le_mul_of_nonneg_right next (by linarith)

theorem round_multiple_le {width : ℚ} (wide : 1 ≤ width) {i j : Nat} (before : i ≤ j) :
    round (i * width) ≤ round (j * width) := by
  rcases Nat.lt_or_eq_of_le before with earlier | rfl
  · exact (round_multiple_lt wide earlier).le
  · exact le_refl _

/-! ## The waypoints that stay -/

theorem step_wide {waypoints : List P} (long : MAX_WAYPOINTS < waypoints.length) :
    1 ≤ step waypoints := by
  have more : (25 : ℚ) ≤ waypoints.length := by exact_mod_cast long
  rw [step, MAX_WAYPOINTS, le_div_iff₀ (by norm_num)]
  push_cast
  linarith

theorem last_pick (waypoints : List P) :
    round ((MAX_WAYPOINTS - 1 : Nat) * step waypoints) = waypoints.length - 1 := by
  have whole : ((MAX_WAYPOINTS - 1 : Nat) : ℚ) * step waypoints =
      ((waypoints.length - 1 : ℤ) : ℚ) := by
    rw [step, MAX_WAYPOINTS]
    push_cast
    ring
  rw [whole, round_whole]

theorem pick_inside {waypoints : List P} (long : MAX_WAYPOINTS < waypoints.length) {i : Nat}
    (inside : i < MAX_WAYPOINTS) :
    0 ≤ round (i * step waypoints) ∧ round (i * step waypoints) < waypoints.length := by
  have wide := step_wide long
  have above := round_multiple_le wide (Nat.zero_le i)
  have below := round_multiple_le wide (Nat.le_sub_one_of_lt inside)
  rw [Nat.cast_zero, zero_mul, round_zero] at above
  rw [last_pick waypoints] at below
  exact ⟨above, by omega⟩

/-- `taken` is what stands in `waypoints` at the indices, from its first point to
its last and never twice at one place. -/
structure SubRoute (waypoints : List P) (indices : List Nat) (taken : List (Option P)) : Prop where
  count : taken.length = MAX_WAYPOINTS
  points : taken = indices.map fun index => waypoints[index]?
  inside : ∀ index ∈ indices, index < waypoints.length
  increasing : indices.Pairwise (· < ·)
  first : indices.head? = some 0
  last : indices.getLast? = some (waypoints.length - 1)

theorem thin_sub_route (waypoints : List P) (long : MAX_WAYPOINTS < waypoints.length) :
    SubRoute waypoints
      ((List.range MAX_WAYPOINTS).map fun i : Nat => (round (i * step waypoints)).toNat)
      (thin waypoints) := by
  have picked : thin waypoints =
      (List.range MAX_WAYPOINTS).map fun i : Nat => item waypoints (round (i * step waypoints)) := by
    rw [thin, if_neg (Nat.not_le.mpr long)]
  constructor
  case count => rw [picked, List.length_map, List.length_range]
  case points =>
    rw [picked, List.map_map]
    apply List.map_congr_left
    intro i member
    have known := pick_inside long (List.mem_range.mp member)
    rw [item, if_pos known.1]
    rfl
  case inside =>
    intro index member
    obtain ⟨i, early, rfl⟩ := List.mem_map.mp member
    have known := pick_inside long (List.mem_range.mp early)
    omega
  case increasing =>
    rw [List.pairwise_map]
    apply List.pairwise_lt_range.imp_of_mem
    intro i j early _ before
    have known := pick_inside long (List.mem_range.mp early)
    have grows := round_multiple_lt (step_wide long) before
    omega
  case first =>
    rw [List.head?_map, List.head?_range, if_neg (by decide), Option.map_some, Nat.cast_zero,
      zero_mul, round_zero, Int.toNat_zero]
  case last =>
    have ending := last_pick waypoints
    rw [List.getLast?_map, List.getLast?_range, if_neg (by decide), Option.map_some, ending]
    congr 1
    omega

-- One point more than the service takes: the step is barely above one.
theorem thin_sub_route_barely : MAX_WAYPOINTS < (List.range 25).length ∧
    SubRoute (List.range 25)
      ((List.range MAX_WAYPOINTS).map fun i : Nat => (round (i * step (List.range 25))).toNat)
      (thin (List.range 25)) :=
  ⟨by decide, thin_sub_route (List.range 25) (by decide)⟩

end CityBus.Thinning
