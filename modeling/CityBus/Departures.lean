import CityBus.Domain
import Mathlib.Algebra.Order.Floor.Div
import Mathlib.Data.ENat.Basic
import Mathlib.Tactic.Linarith
import Mathlib.Tactic.Ring

/-!
The timetable on the pages: `nextDepartures` of assist.js lists the departures
still to come, `estimateBusesPerDay` of script.js counts those of a day. A time
is a text "HH:mm"; `none` stands for `NaN` where it does not read as one.
-/

namespace CityBus.Departures

/-! ## Times as texts -/

def digit (n : Nat) : Char := Char.ofNat ('0'.toNat + n % 10)

def HH_MM (time : LocalTime) : String :=
  String.ofList ([digit (time.hour / 10), digit time.hour] ++ ':' ::
    [digit (time.minute / 10), digit time.minute])

def number (text : List Char) : Option Nat :=
  text.foldlM (fun n c => if c.isDigit then some (10 * n + (c.toNat - '0'.toNat)) else none) 0

/-- `hhmm.split(':').map(Number)`, of which the first two are read. -/
def clock (hhmm : String) : Option (Nat × Nat) :=
  match (hhmm.toList.splitOn ':').map number with
  | some h :: some m :: _ => some (h, m)
  | _ => none

def hhmmToMin (hhmm : String) : Option Nat := (clock hhmm).map fun (h, m) => h * 60 + m

def minToLabel (totalMin : Nat) : String :=
  let h := totalMin / 60 % 24
  let m := totalMin % 60
  let suffix := if 12 ≤ h then "PM" else "AM"
  let h12 := if h % 12 = 0 then 12 else h % 12
  toString h12 ++ ":" ++ (if m < 10 then "0" else "") ++ toString m ++ " " ++ suffix

/-! ## The two counts -/

structure Departure where
  atMin : Nat
  label : String
  inMin : Nat
  deriving DecidableEq

def departure (nowMin t : Nat) : Departure := ⟨t, minToLabel t, t - nowMin⟩

section Loop
variable (first last freq nowMin : Nat) (count : ℕ∞)

/-- The loop of `nextDepartures`, `none` while it still runs. -/
def departureLoop : Nat → Nat → List Departure → Option (List Departure)
  | 0, _, _ => none
  | fuel + 1, k, out =>
      if (out.length : ℕ∞) < count then
        let t := first + k * freq
        if last < t then some out else departureLoop fuel (k + 1) (out ++ [departure nowMin t])
      else some out

def firstStep : Nat := if nowMin ≤ first then 0 else (nowMin - first) ⌈/⌉ freq

def departures (fuel : Nat) : Option (List Departure) :=
  departureLoop first last freq nowMin count fuel (firstStep first freq nowMin) []

end Loop

structure RouteTimes where
  firstBus : String
  lastBus : String
  frequencyMinutes : Nat

def nextDepartures (route : Option RouteTimes) (nowMin : Nat) (count : ℕ∞) (fuel : Nat) :
    Option (List Departure) :=
  match route with
  | none => some []
  | some route =>
      if route.firstBus = "" ∨ route.frequencyMinutes = 0 then some [] else do
        let first ← hhmmToMin route.firstBus
        let last ← hhmmToMin (if route.lastBus = "" then route.firstBus else route.lastBus)
        departures first last route.frequencyMinutes nowMin count fuel

def estimateBusesPerDay (firstBus lastBus : String) (frequencyMinutes : Nat) : Option Int := do
  let (fh, fm) ← clock firstBus
  let (lh, lm) ← clock lastBus
  let span : Int := ((lh * 60 + lm : Nat) : Int) - ((fh * 60 + fm : Nat) : Int)
  some (if 0 < span then span / frequencyMinutes else 0)

/-! ## The loop -/

section Runs
variable {first last freq nowMin : Nat} {count : ℕ∞}

theorem step_on_time (pos : 0 < freq) (k : Nat) :
    first + k * freq ≤ last ↔ first ≤ last ∧ k ≤ (last - first) / freq := by
  rw [Nat.le_div_iff_mul_le pos]
  constructor
  · intro onTime
    exact ⟨by omega, by omega⟩
  · rintro ⟨order, bound⟩
    omega

/-- The loop pushes one departure after the other until one would be too late or
there are as many as asked for. -/
theorem departure_loop_runs (fuel k : Nat) (out : List Departure)
    (enough : last < first + (k + fuel) * freq) :
    ∃ n, departureLoop first last freq nowMin count (fuel + 1) k out =
        some (out ++ (List.range n).map fun i => departure nowMin (first + (k + i) * freq)) ∧
      (∀ i < n, first + (k + i) * freq ≤ last) ∧
      (n = 0 ∨ ((out.length + n : Nat) : ℕ∞) ≤ count) ∧
      (last < first + (k + n) * freq ∨ count ≤ ((out.length + n : Nat) : ℕ∞)) := by
  induction fuel generalizing k out with
  | zero =>
      refine ⟨0, ?_, by simp, Or.inl rfl, Or.inl enough⟩
      rw [departureLoop, if_pos (show last < first + k * freq from enough)]
      simp
  | succ fuel ih =>
      rw [departureLoop]
      by_cases wanted : (out.length : ℕ∞) < count
      · rw [if_pos wanted]
        by_cases late : last < first + k * freq
        · refine ⟨0, ?_, by simp, Or.inl rfl, Or.inl late⟩
          simp [late]
        · obtain ⟨n, result, onTime, within, stopped⟩ :=
            ih (k + 1) (out ++ [departure nowMin (first + k * freq)]) (by
              have same : k + 1 + fuel = k + (fuel + 1) := by omega
              rwa [same])
          have shift : ∀ i, k + 1 + i = k + (i + 1) := by omega
          simp only [List.length_append, List.length_singleton, shift] at result onTime within stopped
          refine ⟨n + 1, ?_, ?_, Or.inr ?_, ?_⟩
          · simp only [late, ↓reduceIte, result, List.append_assoc, List.range_succ_eq_map,
              List.map_cons, List.map_map, Nat.add_zero]
            rfl
          · intro i bound
            cases i with
            | zero => exact Nat.not_lt.mp late
            | succ i => exact onTime i (by omega)
          · rcases within with rfl | within
            · exact Order.add_one_le_of_lt wanted
            · rw [show out.length + (n + 1) = out.length + 1 + n by omega]
              exact within
          · rwa [show out.length + (n + 1) = out.length + 1 + n by omega]
      · refine ⟨0, by simp [wanted], by simp, Or.inl rfl, Or.inr ?_⟩
        exact not_lt.mp wanted

end Runs

/-! ## The departures to come -/

section Exact
variable {first last freq nowMin : Nat}

/-- The times `first + k * freq` that are neither past nor after the last bus. -/
structure Timetable (first last freq nowMin : Nat) (times : List Nat) : Prop where
  increasing : times.Pairwise (· < ·)
  complete : ∀ t, t ∈ times ↔ (∃ k, t = first + k * freq) ∧ nowMin ≤ t ∧ t ≤ last

/-- The jump skips no departure and stops at none that is past. -/
theorem first_step_le (pos : 0 < freq) (k : Nat) :
    firstStep first freq nowMin ≤ k ↔ nowMin ≤ first + k * freq := by
  rw [firstStep]
  split
  · rename_i early
    exact ⟨fun _ => by omega, fun _ => Nat.zero_le k⟩
  · rw [ceilDiv_le_iff_le_mul pos, mul_comm freq k]
    omega

def remaining (first last freq k : Nat) : Nat :=
  if first ≤ last then (last - first) / freq + 1 - k else 0

theorem remaining_iff (pos : 0 < freq) (k i : Nat) :
    i < remaining first last freq k ↔ first + (k + i) * freq ≤ last := by
  rw [step_on_time pos, remaining]
  split <;> omega

def timesFrom (first last freq k : Nat) : List Nat :=
  (List.range (remaining first last freq k)).map fun i => first + (k + i) * freq

variable (first last nowMin) in
theorem times_from_timetable (pos : 0 < freq) :
    Timetable first last freq nowMin (timesFrom first last freq (firstStep first freq nowMin)) := by
  constructor
  case increasing =>
    rw [timesFrom, List.pairwise_map]
    apply List.pairwise_lt_range.imp
    intro i j before
    exact Nat.add_lt_add_left (Nat.mul_lt_mul_of_pos_right (Nat.add_lt_add_left before _) pos) first
  case complete =>
    intro t
    rw [timesFrom, List.mem_map]
    constructor
    · rintro ⟨i, member, rfl⟩
      refine ⟨⟨_, rfl⟩, ?_, ?_⟩
      · exact (first_step_le pos _).mp (Nat.le_add_right _ i)
      · exact (remaining_iff pos _ i).mp (List.mem_range.mp member)
    · rintro ⟨⟨k, rfl⟩, toCome, onTime⟩
      obtain ⟨i, rfl⟩ := Nat.exists_eq_add_of_le ((first_step_le pos k).mpr toCome)
      exact ⟨i, List.mem_range.mpr ((remaining_iff pos _ i).mpr onTime), rfl⟩

variable (first) in
theorem loop_enough (pos : 0 < freq) (k : Nat) {fuel : Nat} (long : last < fuel) :
    last < first + (k + fuel) * freq := by
  have steps : fuel ≤ (k + fuel) * freq :=
    (Nat.le_add_left fuel k).trans (Nat.le_mul_of_pos_right _ pos)
  omega

variable (first nowMin) in
theorem departures_length (pos : 0 < freq) (count : ℕ∞) {fuel : Nat} (long : last + 1 < fuel) :
    ∃ n, departures first last freq nowMin count fuel = some
        (((timesFrom first last freq (firstStep first freq nowMin)).take n).map
          (departure nowMin)) ∧
      (n : ℕ∞) ≤ count ∧
      (remaining first last freq (firstStep first freq nowMin) ≤ n ∨ count ≤ n) := by
  obtain ⟨fuel, rfl⟩ : ∃ more, fuel = more + 1 := ⟨fuel - 1, by omega⟩
  have enough := loop_enough first pos (firstStep first freq nowMin)
    (show last < fuel by omega)
  obtain ⟨n, result, onTime, within, stopped⟩ :=
    departure_loop_runs fuel (firstStep first freq nowMin) [] enough
  have inside : n ≤ remaining first last freq (firstStep first freq nowMin) := by
    by_contra more
    have beyond := onTime _ (not_le.mp more)
    exact absurd ((remaining_iff pos _ _).mpr beyond) (lt_irrefl _)
  refine ⟨n, ?_, ?_, ?_⟩
  · rw [departures, result, timesFrom, ← List.map_take, List.take_range, min_eq_left inside,
      List.map_map, List.nil_append]
    rfl
  · rcases within with rfl | within
    · simp
    · simpa using within
  · rcases stopped with late | full
    · left
      by_contra more
      have onTime := (remaining_iff pos _ n).mp (not_le.mp more)
      omega
    · right
      simpa using full

/-- The list is the timetable cut after `count` departures, and the loop ends. -/
theorem departures_exact (first last nowMin count freq : Nat) (pos : 0 < freq) :
    ∃ times, Timetable first last freq nowMin times ∧
      (∀ fuel, last + 1 < fuel → departures first last freq nowMin count fuel =
        some ((times.take count).map (departure nowMin))) ∧
      (0 < count → ((times.take count).map (departure nowMin) = [] ↔
        ¬ ∃ k, nowMin ≤ first + k * freq ∧ first + k * freq ≤ last)) := by
  have table := times_from_timetable first last nowMin pos
  refine ⟨_, table, ?_, ?_⟩
  · intro fuel long
    obtain ⟨n, result, within, stopped⟩ :=
      departures_length first nowMin pos count long
    rw [result]
    have atMost : n ≤ count := by exact_mod_cast within
    rcases stopped with all | full
    · rw [List.take_of_length_le, List.take_of_length_le]
      · simpa [timesFrom] using all.trans atMost
      · simpa [timesFrom] using all
    · have same : n = count := le_antisymm atMost (by exact_mod_cast full)
      rw [same]
  · intro asked
    rw [List.map_eq_nil_iff, List.take_eq_nil_iff, or_iff_right (by omega),
      List.eq_nil_iff_forall_not_mem]
    constructor
    · rintro none ⟨k, toCome, onTime⟩
      exact none _ ((table.complete _).mpr ⟨⟨k, rfl⟩, toCome, onTime⟩)
    · intro none t member
      obtain ⟨⟨k, rfl⟩, toCome, onTime⟩ := (table.complete t).mp member
      exact none ⟨k, toCome, onTime⟩

-- On the minute of a departure, with two of them asked for.
theorem departures_exact_on_the_minute : 0 < 15 ∧
    ∃ times, Timetable 360 1320 15 390 times ∧
      (∀ fuel, 1320 + 1 < fuel → departures 360 1320 15 390 (2 : Nat) fuel =
        some ((times.take 2).map (departure 390))) ∧
      (0 < 2 → ((times.take 2).map (departure 390) = [] ↔
        ¬ ∃ k, 390 ≤ 360 + k * 15 ∧ 360 + k * 15 ≤ 1320)) :=
  ⟨by decide, departures_exact 360 1320 390 2 15 (by decide)⟩

-- Asked for none, the list is empty though buses are due.
theorem none_asked : ¬ (departures 360 1320 15 390 (0 : Nat) 1 = some [] ↔
    ¬ ∃ k, 390 ≤ 360 + k * 15 ∧ 360 + k * 15 ≤ 1320) := by
  intro same
  have due : ∃ k, 390 ≤ 360 + k * 15 ∧ 360 + k * 15 ≤ 1320 := ⟨2, by decide⟩
  exact same.mp (by simp [departures, departureLoop]) due

end Exact

/-! ## Departures of a day -/

section Count

def minutes (time : LocalTime) : Nat := time.hour * 60 + time.minute

theorem number_two_digits : ∀ n < 60, number [digit (n / 10), digit n] = some n := by decide

theorem colon_not_digit : ∀ n < 60, ':' ∉ [digit (n / 10), digit n] := by decide

theorem clock_hh_mm (time : LocalTime) :
    clock (HH_MM time) = some (time.hour.val, time.minute.val) := by
  have isHour : time.hour.val < 60 := by omega
  have isMinute := time.minute.isLt
  have parts : ([digit (time.hour / 10), digit time.hour] ++ ':' ::
      [digit (time.minute / 10), digit time.minute]).splitOn ':' =
        [[digit (time.hour / 10), digit time.hour],
          [digit (time.minute / 10), digit time.minute]] := by
    rw [List.splitOn_append_cons_self_of_not_mem (colon_not_digit _ isHour),
      List.splitOn_eq_singleton (colon_not_digit _ isMinute)]
  rw [clock, HH_MM, String.toList_ofList, parts, List.map_cons, List.map_cons,
    number_two_digits _ isHour, number_two_digits _ isMinute]

theorem hhmm_to_min_hh_mm (time : LocalTime) : hhmmToMin (HH_MM time) = some (minutes time) := by
  rw [hhmmToMin, clock_hh_mm, minutes]
  rfl

theorem hh_mm_not_empty (time : LocalTime) : HH_MM time ≠ "" := by
  intro empty
  have nothing := congrArg String.toList empty
  simp [HH_MM] at nothing

theorem next_departures_hh_mm (first last : LocalTime) {freq : Nat} (pos : 0 < freq)
    (nowMin : Nat) (count : ℕ∞) (fuel : Nat) :
    nextDepartures (some ⟨HH_MM first, HH_MM last, freq⟩) nowMin count fuel =
      departures (minutes first) (minutes last) freq nowMin count fuel := by
  have real : ¬ (HH_MM first = "" ∨ freq = 0) := by
    simp [hh_mm_not_empty, pos.ne']
  simp only [nextDepartures]
  rw [if_neg real, if_neg (hh_mm_not_empty last), hhmm_to_min_hh_mm, hhmm_to_min_hh_mm]
  rfl

theorem estimate_hh_mm (first last : LocalTime) (freq : Nat) :
    estimateBusesPerDay (HH_MM first) (HH_MM last) freq =
      some (((minutes last - minutes first) / freq : Nat) : Int) := by
  simp only [estimateBusesPerDay, clock_hh_mm, Option.bind_eq_bind, Option.bind_some, Option.some.injEq]
  change (if 0 < (minutes last : Int) - minutes first then
    ((minutes last : Int) - minutes first) / freq else 0) = _
  split
  · rename_i later
    rw [Int.natCast_div, Nat.cast_sub (by omega)]
  · rename_i earlier
    rw [Nat.sub_eq_zero_of_le (by omega), Nat.zero_div, Nat.cast_zero]

/-- All departures of a day. The estimate is right where there are none because the
last bus leaves before the first, and one too low otherwise. -/
theorem estimate_counts_iff (first last : LocalTime) (freq : Nat) (pos : 0 < freq) (nowMin : Nat)
    (early : nowMin ≤ minutes first) :
    ∃ deps, (∀ fuel, minutes last + 1 < fuel →
        nextDepartures (some ⟨HH_MM first, HH_MM last, freq⟩) nowMin ⊤ fuel = some deps) ∧
      (estimateBusesPerDay (HH_MM first) (HH_MM last) freq = some (deps.length : Int) ↔
        minutes last < minutes first) := by
  have start : firstStep (minutes first) freq nowMin = 0 := if_pos early
  refine ⟨(timesFrom (minutes first) (minutes last) freq 0).map (departure nowMin), ?_, ?_⟩
  · intro fuel long
    obtain ⟨n, result, _, stopped⟩ :=
      departures_length (minutes first) nowMin pos ⊤ long
    rw [start] at result stopped
    have all := stopped.resolve_right (by simp)
    rw [next_departures_hh_mm first last pos, result, List.take_of_length_le]
    simpa [timesFrom] using all
  · rw [estimate_hh_mm, List.length_map, timesFrom, List.length_map, List.length_range, remaining,
      Option.some_inj, Nat.cast_inj]
    split
    · omega
    · rename_i before
      rw [Nat.sub_eq_zero_of_le (by omega), Nat.zero_div]
      omega

theorem estimate_counts_backwards : 0 < 15 ∧ 0 ≤ minutes (LocalTime.of 22 0) ∧
    ∃ deps, (∀ fuel, minutes (LocalTime.of 6 0) + 1 < fuel →
        nextDepartures (some ⟨HH_MM (LocalTime.of 22 0), HH_MM (LocalTime.of 6 0), 15⟩) 0 ⊤ fuel =
          some deps) ∧
      (estimateBusesPerDay (HH_MM (LocalTime.of 22 0)) (HH_MM (LocalTime.of 6 0)) 15 =
        some (deps.length : Int) ↔ minutes (LocalTime.of 6 0) < minutes (LocalTime.of 22 0)) :=
  ⟨by decide, by decide,
    estimate_counts_iff (LocalTime.of 22 0) (LocalTime.of 6 0) 15 (by decide) 0 (by decide)⟩

-- Every half hour from six to seven: three buses leave, the figure is two.
theorem last_bus_missed :
    nextDepartures (some ⟨"06:00", "07:00", 30⟩) 300 ⊤ 5 =
        some [⟨360, "6:00 AM", 60⟩, ⟨390, "6:30 AM", 90⟩, ⟨420, "7:00 AM", 120⟩] ∧
      estimateBusesPerDay "06:00" "07:00" 30 = some 2 := by
  decide +kernel

end Count

end CityBus.Departures
