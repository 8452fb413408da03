import CityBus.LiveTracking
import Mathlib

/-!
The speed of a live bus, over the fixes that its buffer has. The pairs that count are
the consecutive fixes with a gap that is long enough; the speed is their distance over
their time, which is a mean of the speeds of the pairs.
-/

namespace CityBus.MeasuredSpeed

open GeoUtils LiveTracking RingBuffers

variable {K : Type}

/-! ## Fixes of one bus -/

def addPoint (bus : LiveBusState K) (point : TimedPoint K) : LiveBusState K :=
  { bus with
    recent := bus.recent.push point
    lastSeen := point.timestamp }

def historySnapshot (bus : LiveBusState K) : List (TimedPoint K) := bus.recent.items

theorem locate_adds (bus : LiveBusState K) (lat lng : K) (accuracy : Option K)
    (visible : Option Bool) (now : Int) :
    (bus.locate lat lng accuracy visible now).recent = (addPoint bus ⟨lat, lng, now⟩).recent ∧
      (bus.locate lat lng accuracy visible now).lastSeen =
        (addPoint bus ⟨lat, lng, now⟩).lastSeen :=
  ⟨rfl, rfl⟩

theorem add_points (bus : LiveBusState K) (points : List (TimedPoint K)) :
    (points.foldl addPoint bus).recent = points.foldl Buffer.push bus.recent := by
  induction points generalizing bus with
  | nil => rfl
  | cons point rest ih =>
      simp only [List.foldl_cons]
      rw [ih]
      rfl

theorem snapshot_add_points (bus : LiveBusState K) (points : List (TimedPoint K)) :
    historySnapshot (points.foldl addPoint bus) =
      (historySnapshot bus ++ points).rtake RING_BUFFER_SIZE := by
  unfold historySnapshot
  rw [add_points, push_all]

/-! ## The pairs that count -/

def gapMs (pair : TimedPoint K × TimedPoint K) : Int := pair.2.timestamp - pair.1.timestamp

def countedPairs (fixes : List (TimedPoint K)) : List (TimedPoint K × TimedPoint K) :=
  (fixes.zip fixes.tail).filter fun pair => MIN_SAMPLE_GAP_MS ≤ gapMs pair

def totalMs (fixes : List (TimedPoint K)) : Int := ((countedPairs fixes).map gapMs).sum

theorem counted_cons (prev p : TimedPoint K) (rest : List (TimedPoint K)) :
    countedPairs (prev :: p :: rest) =
      if MIN_SAMPLE_GAP_MS ≤ p.timestamp - prev.timestamp then (prev, p) :: countedPairs (p :: rest)
      else countedPairs (p :: rest) := by
  unfold countedPairs
  rw [List.tail_cons, List.zip_cons_cons, List.filter_cons]
  have same : gapMs (prev, p) = p.timestamp - prev.timestamp := rfl
  simp only [List.tail_cons, decide_eq_true_eq, same]

/-- The sum stays in a `long` for the times of a clock. -/
theorem total_fits (fixes : List (TimedPoint K)) (short : fixes.length ≤ RING_BUFFER_SIZE)
    (clock : ∀ fix ∈ fixes, 0 ≤ fix.timestamp ∧ fix.timestamp < 2 ^ 57) :
    0 ≤ totalMs fixes ∧ totalMs fixes < 2 ^ 63 := by
  have gaps : ∀ gap ∈ (countedPairs fixes).map gapMs, 0 ≤ gap ∧ gap ≤ 2 ^ 57 := by
    intro gap member
    obtain ⟨pair, counts, rfl⟩ := List.mem_map.mp member
    obtain ⟨listed, long⟩ := List.mem_filter.mp counts
    have first := clock _ (List.of_mem_zip listed).1
    have second := clock _ (List.mem_of_mem_tail (List.of_mem_zip listed).2)
    have least : 500 ≤ gapMs pair := of_decide_eq_true long
    unfold gapMs at least ⊢
    omega
  have few : (countedPairs fixes).length ≤ 60 := by
    have filtered := List.length_filter_le
      (fun pair : TimedPoint K × TimedPoint K => decide (MIN_SAMPLE_GAP_MS ≤ gapMs pair))
      (fixes.zip fixes.tail)
    simp only [List.length_zip, List.length_tail] at filtered
    simp only [countedPairs]
    unfold RING_BUFFER_SIZE at short
    omega
  have bound := List.sum_le_card_nsmul _ (2 ^ 57 : Int) fun gap member => (gaps gap member).2
  rw [List.length_map, nsmul_eq_mul] at bound
  refine ⟨List.sum_nonneg fun gap member => (gaps gap member).1, ?_⟩
  unfold totalMs
  have many : ((countedPairs fixes).length : Int) ≤ 60 := by exact_mod_cast few
  omega

variable [Field K] [LinearOrder K] (geo : GeoDistance K)

def hours (ms : Int) : K := ms / (3600000 : Nat)

def pairKm (pair : TimedPoint K × TimedPoint K) : K :=
  geo.distanceKm pair.1.lat pair.1.lng pair.2.lat pair.2.lng

def pairSpeed (pair : TimedPoint K × TimedPoint K) : K := pairKm geo pair / hours (gapMs pair)

def totalKm (fixes : List (TimedPoint K)) : K := ((countedPairs fixes).map (pairKm geo)).sum

theorem measured_counted (fixes : List (TimedPoint K)) :
    measured geo fixes = (totalKm geo fixes, totalMs fixes) := by
  induction fixes with
  | nil => rfl
  | cons prev rest ih =>
      cases rest with
      | nil => rfl
      | cons p rest =>
          unfold measured
          rw [ih]
          simp only [totalKm, totalMs, counted_cons]
          split
          · simp only [List.map_cons, List.sum_cons, pairKm, gapMs]
          · rfl

/-! ## The mean -/

section Mean
variable [IsStrictOrderedRing K] {Pair : Type}

theorem mean_ge (amount weight : Pair → K) (pairs : List Pair) (low : K)
    (weighs : 0 < (pairs.map weight).sum) (positive : ∀ pair ∈ pairs, 0 < weight pair)
    (above : ∀ pair ∈ pairs, low ≤ amount pair / weight pair) :
    low ≤ (pairs.map amount).sum / (pairs.map weight).sum := by
  rw [le_div_iff₀ weighs, ← List.sum_map_mul_left]
  apply List.sum_le_sum
  intro pair member
  exact (le_div_iff₀ (positive pair member)).mp (above pair member)

theorem mean_le (amount weight : Pair → K) (pairs : List Pair) (high : K)
    (weighs : 0 < (pairs.map weight).sum) (positive : ∀ pair ∈ pairs, 0 < weight pair)
    (below : ∀ pair ∈ pairs, amount pair / weight pair ≤ high) :
    (pairs.map amount).sum / (pairs.map weight).sum ≤ high := by
  rw [div_le_iff₀ weighs, ← List.sum_map_mul_left]
  apply List.sum_le_sum
  intro pair member
  exact (div_le_iff₀ (positive pair member)).mp (below pair member)

end Mean

section Hours
variable [IsStrictOrderedRing K]

theorem hours_pos {ms : Int} (positive : 0 < ms) : (0 : K) < hours ms := by
  unfold hours
  have cast : (0 : K) < ms := by exact_mod_cast positive
  have unit : (0 : K) < (3600000 : Nat) := by exact_mod_cast Nat.zero_lt_succ _
  exact div_pos cast unit

theorem counted_positive {fixes : List (TimedPoint K)} {pair : TimedPoint K × TimedPoint K}
    (counts : pair ∈ countedPairs fixes) : (0 : K) < hours (gapMs pair) := by
  apply hours_pos
  have least : 500 ≤ gapMs pair := of_decide_eq_true (List.mem_filter.mp counts).2
  omega

omit [LinearOrder K] [IsStrictOrderedRing K] in
theorem hours_sum (gaps : List Int) : (hours gaps.sum : K) = (gaps.map hours).sum := by
  induction gaps with
  | nil => simp [hours]
  | cons gap rest ih =>
      rw [List.map_cons, List.sum_cons, List.sum_cons, ← ih]
      simp only [hours, Int.cast_add, add_div]

/-- What the speed of a bus is, against the fixes that it is taken from. -/
structure Honest (geo : GeoDistance K) (fixes : List (TimedPoint K)) (speed : Option K) :
    Prop where
  empty : speed = none ↔ fixes.length < 2 ∨ totalMs fixes < 3000
  divides : speed.isSome → (0 : K) < hours (totalMs fixes)
  capped : ∀ kmh, speed = some kmh → kmh ≤ (120 : Nat)
  between : ∀ kmh, speed = some kmh → ∃ mean : K, ∃ slowest ∈ countedPairs fixes,
    ∃ fastest ∈ countedPairs fixes, kmh = min mean (120 : Nat) ∧
      mean = totalKm geo fixes / hours (totalMs fixes) ∧
      pairSpeed geo slowest ≤ mean ∧ mean ≤ pairSpeed geo fastest ∧
      ∀ pair ∈ countedPairs fixes,
        pairSpeed geo slowest ≤ pairSpeed geo pair ∧ pairSpeed geo pair ≤ pairSpeed geo fastest
  steady : ∀ v : K, (∀ pair ∈ countedPairs fixes, pairKm geo pair = v * hours (gapMs pair)) →
    ∀ kmh, speed = some kmh → kmh = min v (120 : Nat)

variable {geo : GeoDistance K} {fixes : List (TimedPoint K)}

omit [Field K] [LinearOrder K] [IsStrictOrderedRing K] in
theorem some_counted (enough : 3000 ≤ totalMs fixes) : countedPairs fixes ≠ [] := by
  intro none
  rw [totalMs, none, List.map_nil, List.sum_nil] at enough
  omega

variable (geo) in
theorem mean_between (enough : 3000 ≤ totalMs fixes) :
    ∃ slowest ∈ countedPairs fixes, ∃ fastest ∈ countedPairs fixes,
      pairSpeed geo slowest ≤ totalKm geo fixes / hours (totalMs fixes) ∧
      totalKm geo fixes / hours (totalMs fixes) ≤ pairSpeed geo fastest ∧
      ∀ pair ∈ countedPairs fixes,
        pairSpeed geo slowest ≤ pairSpeed geo pair ∧
          pairSpeed geo pair ≤ pairSpeed geo fastest := by
  have finite := List.finite_toSet (countedPairs fixes)
  obtain ⟨first, member⟩ := List.exists_mem_of_ne_nil _ (some_counted enough)
  obtain ⟨slowest, slowestCounts, least⟩ :=
    Set.exists_min_image _ (pairSpeed geo) finite ⟨first, member⟩
  obtain ⟨fastest, fastestCounts, greatest⟩ :=
    Set.exists_max_image _ (pairSpeed geo) finite ⟨first, member⟩
  have weighs : (0 : K) < hours (totalMs fixes) := hours_pos (by omega)
  unfold totalKm totalMs at *
  rw [hours_sum, List.map_map] at weighs ⊢
  refine ⟨slowest, slowestCounts, fastest, fastestCounts, ?_, ?_, ?_⟩
  · exact mean_ge (pairKm geo) _ _ _ weighs (fun _ counts => counted_positive counts) least
  · exact mean_le (pairKm geo) _ _ _ weighs (fun _ counts => counted_positive counts) greatest
  · intro pair counts
    exact ⟨least pair counts, greatest pair counts⟩

omit [IsStrictOrderedRing K] in
theorem speed_eq (geo : GeoDistance K) (bus : LiveBusState K) :
    bus.speedKmh geo =
      if (historySnapshot bus).length < 2 ∨ totalMs (historySnapshot bus) < 3000 then none
      else some (min (totalKm geo (historySnapshot bus) / hours (totalMs (historySnapshot bus)))
        (120 : Nat)) := by
  unfold LiveBusState.speedKmh historySnapshot
  simp only [measured_counted]
  by_cases few : bus.recent.items.length < 2
  · rw [if_pos few, if_pos (Or.inl few)]
  · by_cases brief : totalMs bus.recent.items < 3000
    · rw [if_neg few, if_pos brief, if_pos (Or.inr brief)]
    · rw [if_neg few, if_neg brief, if_neg (not_or.mpr ⟨few, brief⟩)]
      rfl

omit [IsStrictOrderedRing K] in
theorem speed_some {bus : LiveBusState K} {kmh : K} (shown : bus.speedKmh geo = some kmh) :
    3000 ≤ totalMs (historySnapshot bus) ∧
      kmh = min (totalKm geo (historySnapshot bus) / hours (totalMs (historySnapshot bus)))
        (120 : Nat) := by
  rw [speed_eq] at shown
  split at shown
  · cases shown
  · rename_i enough
    obtain ⟨_, long⟩ := not_or.mp enough
    exact ⟨Int.not_lt.mp long, (Option.some.inj shown).symm⟩

theorem speed_mean (geo : GeoDistance K) (bus : LiveBusState K) :
    Honest geo (historySnapshot bus) (bus.speedKmh geo) where
  empty := by
    rw [speed_eq]
    split
    · rename_i too
      exact ⟨fun _ => too, fun _ => rfl⟩
    · rename_i enough
      exact ⟨fun none => (Option.some_ne_none _ none).elim, fun too => absurd too enough⟩
  divides := by
    intro shown
    obtain ⟨kmh, shown⟩ := Option.isSome_iff_exists.mp shown
    have long := (speed_some shown).1
    exact hours_pos (by omega)
  capped := by
    intro kmh shown
    rw [(speed_some shown).2]
    exact min_le_right _ _
  between := by
    intro kmh shown
    obtain ⟨long, mean⟩ := speed_some shown
    obtain ⟨slowest, slowestCounts, fastest, fastestCounts, above, below, all⟩ :=
      mean_between geo long
    exact ⟨_, slowest, slowestCounts, fastest, fastestCounts, mean, rfl, above, below, all⟩
  steady := by
    intro v even kmh shown
    obtain ⟨long, mean⟩ := speed_some shown
    have speeds : ∀ pair ∈ countedPairs (historySnapshot bus), pairSpeed geo pair = v := by
      intro pair counts
      rw [pairSpeed, even pair counts]
      exact mul_div_cancel_right₀ v (counted_positive counts).ne'
    obtain ⟨slowest, slowestCounts, fastest, fastestCounts, above, below, _⟩ :=
      mean_between geo long
    rw [speeds slowest slowestCounts] at above
    rw [speeds fastest fastestCounts] at below
    rw [mean, le_antisymm below above]

end Hours

/-! ## Every sequence of fixes -/

/-- After any fixes, at any times, a bus has the last sixty of them, in their order, and
its speed is the capped mean over these. -/
theorem speed_honest [IsStrictOrderedRing K] (geo : GeoDistance K) (busCode driverId : String)
    (routeNumber : Option Int) (routeColor : Option String) (now : Int)
    (points : List (TimedPoint K)) :
    let bus := points.foldl addPoint (newLiveBus busCode driverId routeNumber routeColor now)
    historySnapshot bus = points.rtake RING_BUFFER_SIZE ∧
      Honest geo (historySnapshot bus) (bus.speedKmh geo) := by
  refine ⟨?_, speed_mean geo _⟩
  rw [snapshot_add_points]
  rfl

/-- Two hops of twenty metres, each in two seconds, with the clock set back in between. -/
def hops : List (TimedPoint ℚ) :=
  [⟨0, 0, 0⟩, ⟨1 / 50, 0, 2000⟩, ⟨1 / 50, 0, 1000⟩, ⟨1 / 25, 0, 3000⟩]

theorem hops_honest :
    let bus := hops.foldl addPoint (newLiveBus "BUS-1" "asha" none none 0)
    bus.speedKmh taxicab = some 36 ∧ historySnapshot bus = hops.rtake RING_BUFFER_SIZE ∧
      Honest taxicab (historySnapshot bus) (bus.speedKmh taxicab) :=
  ⟨by decide +kernel, speed_honest taxicab "BUS-1" "asha" none none 0 hops⟩

end CityBus.MeasuredSpeed
