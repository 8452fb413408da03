import CityBus.FoldedLegs
import CityBus.WalkOrBus

/-!
The clock of `renderJourney` in planner.js. It moves on by the duration of each
leg, and a ride is boarded its own wait after the clock. The waits themselves
never move it on, so it falls behind the time model of the planner.
-/

namespace CityBus.ItineraryClock

open GeoUtils JourneyGraph CheapestPaths JourneySearch JourneyOptimality JourneyPlan
open JourneyCompleteness UnroundedFold ItineraryArithmetic WalkOrBus FoldedLegs CompiledGraph

variable {K : Type} [Field K] [LinearOrder K]

/-! ## The page -/

section Page

def boardAt (elapsed : K) (leg : Leg K) : Option K :=
  match leg.mode with
  | .WALK => none
  | .RIDE => some (elapsed + leg.waitMinutes.getD 0)

/-- `legs.map` in `renderJourney`: what each leg shows, and `elapsed` at the end. -/
def renderLegs : K → List (Leg K) → List (Option K) × K
  | elapsed, [] => ([], elapsed)
  | elapsed, leg :: rest =>
      let rendered := renderLegs (elapsed + leg.durationMinutes) rest
      (boardAt elapsed leg :: rendered.1, rendered.2)

/-- Every ride shows the minutes spent on the legs before it and on the waits up
to its own. -/
def boardsOnTime (legs : List (Leg K)) : Prop :=
  ∀ before leg after, legs = before ++ leg :: after → leg.mode = .RIDE →
    (renderLegs 0 legs).1[before.length]? =
      some (some (legMinutes before + leg.waitMinutes.getD 0))

structure ClockAgrees (response : Response K) : Prop where
  boards : boardsOnTime response.legs
  arrives : (renderLegs 0 response.legs).2 = response.totalMinutes

omit [LinearOrder K] in
theorem render_elapsed (elapsed : K) (legs : List (Leg K)) :
    (renderLegs elapsed legs).2 = elapsed + (legs.map (·.durationMinutes)).sum := by
  induction legs generalizing elapsed with
  | nil => simp [renderLegs]
  | cons leg rest ih => simp [renderLegs, ih, add_assoc]

omit [LinearOrder K] in
theorem render_shown (elapsed : K) (before after : List (Leg K)) (leg : Leg K) :
    (renderLegs elapsed (before ++ leg :: after)).1[before.length]? =
      some (boardAt (elapsed + (before.map (·.durationMinutes)).sum) leg) := by
  induction before generalizing elapsed with
  | nil => simp [renderLegs]
  | cons first rest ih => simp [renderLegs, ih, add_assoc]

def waits (legs : List (Leg K)) : K := ((rides legs).map fun leg => leg.waitMinutes.getD 0).sum

omit [LinearOrder K] in
theorem render_late (legs : List (Leg K)) : (renderLegs 0 legs).2 + waits legs = legMinutes legs := by
  rw [render_elapsed, zero_add]
  rfl

def everyWaitRidden : List (Leg K) → Prop
  | leg :: next :: rest => (leg.mode = .WALK → next.mode = .RIDE) ∧ everyWaitRidden (next :: rest)
  | _ => True

instance : (legs : List (Leg K)) → Decidable (everyWaitRidden legs)
  | leg :: next :: rest =>
      have : Decidable (everyWaitRidden (next :: rest)) := instDecidableEveryWaitRidden (next :: rest)
      inferInstanceAs (Decidable ((leg.mode = .WALK → next.mode = .RIDE) ∧ everyWaitRidden (next :: rest)))
  | [_] => isTrue trivial
  | [] => isTrue trivial

end Page

/-! ## Waits of a plan -/

section Waits
variable [FloorRing K] [IsStrictOrderedRing K] {graph : Graph K} {start last : Node K}
variable {hops : List (Hop K)} {legs : List (Leg K)}

theorem folded_waits (folded : Folded graph .exact start hops legs last) :
    ∀ leg ∈ legs, leg.mode = .RIDE → 0 < leg.waitMinutes.getD 0 := by
  induction folded with
  | done => simp
  | walk _ leg_of _ ih =>
      intro leg member ride
      rcases List.mem_cons.mp member with rfl | later
      · simp [leg_of.mode] at ride
      · exact ih leg later ride
  | @ride start _ _ run _ legs _ _ _ _ _ _ ih =>
      intro leg member ride
      rcases List.mem_cons.mp member with rfl | later
      · have often : (0 : K) < start.route.frequencyMinutes :=
          Nat.cast_pos.mpr start.route.frequency_pos
        simp only [rideLegWith, Rounding.exact, id_eq, Option.getD_some]
        positivity
      · exact ih leg later ride

omit [Field K] [LinearOrder K] [FloorRing K] [IsStrictOrderedRing K] in
theorem wait_ridden_tail {leg : Leg K} {rest : List (Leg K)}
    (ridden : everyWaitRidden (leg :: rest)) : everyWaitRidden rest := by
  cases rest with
  | nil => trivial
  | cons next more => exact ridden.2

omit [Field K] [LinearOrder K] [FloorRing K] [IsStrictOrderedRing K] in
theorem idle_waits_run (waiting : Bool) {run : List (Hop K)} (hops : List (Hop K))
    (some_hop : run ≠ []) (rode : ∀ hop ∈ run, hop.edge.kind = .RIDE) :
    idleWaits waiting ((run ++ hops).map Hop.edge) = idleWaits false (hops.map Hop.edge) := by
  induction run generalizing waiting with
  | nil => exact absurd rfl some_hop
  | cons hop rest ih =>
      have kind := rode hop List.mem_cons_self
      rw [List.cons_append, List.map_cons, idleWaits, kind]
      by_cases ended : rest = []
      · rw [ended, List.nil_append]
      · exact ih false ended fun other member => rode other (List.mem_cons_of_mem hop member)

omit [FloorRing K] [IsStrictOrderedRing K] in
theorem folded_no_idle (folded : Folded graph .exact start hops legs last) (egress : Leg K)
    (walks : egress.mode = .WALK) :
    (∀ access : Leg K, access.mode = .WALK → everyWaitRidden (access :: legs ++ [egress]) →
        idleWaits true (hops.map Hop.edge) = 0) ∧
      (everyWaitRidden (legs ++ [egress]) → idleWaits false (hops.map Hop.edge) = 0) := by
  induction folded with
  | done =>
      constructor
      · intro access walk ridden
        have ride := ridden.1 walk
        simp [walks] at ride
      · intro _
        rfl
  | walk transfer leg_of _ ih =>
      constructor
      · intro access walk ridden
        have ride := ridden.1 walk
        simp [leg_of.mode] at ride
      · intro ridden
        simpa [idleWaits, transfer] using ih.1 _ leg_of.mode ridden
  | @ride start stop last run hops legs _ some_hop rode _ leg_of _ ih =>
      constructor
      · intro access walk ridden
        rw [idle_waits_run true hops some_hop rode]
        exact ih.2 (wait_ridden_tail (wait_ridden_tail ridden))
      · intro ridden
        rw [idle_waits_run false hops some_hop rode]
        exact ih.2 (wait_ridden_tail ridden)

end Waits

/-! ## Plans -/

section Plans
variable [FloorRing K] [IsStrictOrderedRing K] {geo : GeoDistance K} {rows : List (Route K)}
variable {order : QueueOrder K} {fromLat fromLng toLat toLng : K} {response : Response K}

omit [FloorRing K] in
theorem transit_folded (planned : planTransitWith .exact (build geo rows) geo order fromLat fromLng
      toLat toLng = some response) :
    ∃ source accessKm origin hops last egressKm goal, rideOn hops ∧
      FoldedChain (build geo rows) .exact source accessKm origin hops last egressKm goal response ∧
      (AddsUp response ↔ idleWaits true (hops.map Hop.edge) = 0) := by
  have positive : ∀ u, ∀ edge ∈ (build geo rows).edges u, 0 < edge.minutes :=
    fun _ _ leaves => build_minutes_pos geo rows leaves
  rcases transit_chain geo (build geo rows) fromLat fromLng toLat toLng (order_unranked order)
    positive with ⟨none, _⟩ | ⟨last, cost, origin, edges, _, _, spelled, alights, board, paid, chosen⟩
  · simp [planTransitWith, none] at planned
  · obtain ⟨hops, linked, edgesEq, nodes, via⟩ := spelled_linked spelled board alights
    simp only [planTransitWith, chosen, WithTop.untopD_coe] at planned
    obtain ⟨rode, walked⟩ := fold_spelled .exact (cost + egressMinutes geo toLat toLng last)
      (nodeDistance geo toLat toLng last * INDIRECTNESS) fromLat fromLng toLat toLng board linked
      nodes via
    by_cases rides : rideOn hops
    · obtain ⟨returned, folds, folded, _⟩ := rode rides
      obtain rfl := Option.some.inj (folds.symm.trans planned)
      refine ⟨_, _, origin, hops, last, _, _, rides, folded, ?_⟩
      rw [edgesEq]
      rw [paid] at folds
      exact fold_adds_up_iff geo rows spelled board alights folds
    · exact absurd (planned.symm.trans (walked rides)) (by simp)

omit [FloorRing K] in
theorem waits_pos {legs : List (Leg K)}
    (paid : ∀ leg ∈ legs, leg.mode = .RIDE → 0 < leg.waitMinutes.getD 0) (some_ride : rides legs ≠ []) :
    0 < waits legs := by
  refine List.sum_pos _ ?_ (by simpa using some_ride)
  intro wait member
  obtain ⟨leg, ridden, rfl⟩ := List.mem_map.mp member
  obtain ⟨known, ride⟩ := List.mem_filter.mp ridden
  exact paid leg known (by simpa [isRide] using ride)

omit [Field K] [LinearOrder K] [FloorRing K] [IsStrictOrderedRing K] in
theorem last_ride {legs : List (Leg K)} (some_ride : rides legs ≠ []) :
    ∃ before leg after, legs = before ++ leg :: after ∧ leg.mode = .RIDE ∧ rides after = [] := by
  induction legs with
  | nil => exact absurd rfl some_ride
  | cons first rest ih =>
      by_cases later : rides rest = []
      · refine ⟨[], first, rest, rfl, ?_, later⟩
        by_contra walk
        have skipped : isRide first = false := by simpa [isRide] using walk
        simp only [rides] at some_ride later
        rw [List.filter_cons, skipped, later] at some_ride
        exact some_ride rfl
      · obtain ⟨before, leg, after, split, ride, last⟩ := ih later
        exact ⟨first :: before, leg, after, by rw [split, List.cons_append], ride, last⟩

omit [Field K] [LinearOrder K] [FloorRing K] [IsStrictOrderedRing K] in
theorem rides_split {legs before after : List (Leg K)} {leg : Leg K}
    (split : legs = before ++ leg :: after) (ride : leg.mode = .RIDE) :
    rides legs = rides before ++ leg :: rides after := by
  rw [split, rides_append]
  simp [rides, isRide, ride]

omit [FloorRing K] in
/-- The first ride is boarded on time, every other one too early. -/
theorem boards_on_time_iff {legs : List (Leg K)}
    (paid : ∀ leg ∈ legs, leg.mode = .RIDE → 0 < leg.waitMinutes.getD 0) (some_ride : rides legs ≠ []) :
    boardsOnTime legs ↔ (rides legs).length = 1 := by
  have shown : ∀ before leg after, legs = before ++ leg :: after → leg.mode = .RIDE →
      ((renderLegs 0 legs).1[before.length]? =
        some (some (legMinutes before + leg.waitMinutes.getD 0)) ↔ waits before = 0) := by
    intro before leg after split ride
    have minutes := render_late before
    rw [render_elapsed, zero_add] at minutes
    rw [split, render_shown, boardAt, ride, zero_add, ← minutes]
    simp
  constructor
  · intro on_time
    obtain ⟨before, leg, after, split, ride, last⟩ := last_ride some_ride
    have none := (shown before leg after split ride).mp (on_time before leg after split ride)
    have first : rides before = [] := by
      by_contra earlier
      have early : ∀ other ∈ before, other.mode = .RIDE → 0 < other.waitMinutes.getD 0 :=
        fun other member => paid other (split ▸ List.mem_append_left _ member)
      exact (waits_pos early earlier).ne' none
    rw [rides_split split ride, first, last]
    rfl
  · intro one before leg after split ride
    rw [shown before leg after split ride]
    rw [rides_split split ride, List.length_append, List.length_cons] at one
    have first : rides before = [] := List.length_eq_zero_iff.mp (by omega)
    rw [waits, first]
    rfl

/-- No plan is shown with the planner's clock. Only the boarding times of a plan
with one ride are right, the clock at its end is not. -/
theorem clock_falls_behind (geo : GeoDistance K) (rows : List (Route K)) (order : QueueOrder K)
    (fromLat fromLng toLat toLng : K) (response : Response K)
    (planned : planTransitWith .exact (build geo rows) geo order fromLat fromLng toLat toLng =
      some response) (ridden : everyWaitRidden response.legs) :
    ¬ ClockAgrees response ∧ (renderLegs 0 response.legs).2 < response.totalMinutes ∧
      (boardsOnTime response.legs ↔ (rides response.legs).length = 1) := by
  obtain ⟨_, _, origin, hops, last, _, _, rode, folded, adds⟩ := transit_folded planned
  obtain ⟨access, between, egress, legs, ⟨walks, _⟩, spelled, _, walks', _⟩ := folded.legs
  rw [legs] at ridden
  have total := (adds.mpr ((folded_no_idle spelled egress walks').1 access walks ridden)).minutes
  have paid : ∀ leg ∈ response.legs, leg.mode = .RIDE → 0 < leg.waitMinutes.getD 0 := by
    intro leg member ride
    rw [legs] at member
    simp only [List.cons_append, List.mem_cons, List.mem_append, List.not_mem_nil, or_false] at member
    rcases member with rfl | between | rfl
    · simp [walks] at ride
    · exact folded_waits spelled leg between ride
    · simp [walks'] at ride
  have some_ride : rides response.legs ≠ [] := by
    obtain ⟨leg, member, ride⟩ := (folded_rides spelled).mpr rode
    refine List.ne_nil_of_mem (List.mem_filter.mpr ⟨?_, ride⟩)
    rw [legs]
    simp [member]
  have late : (renderLegs 0 response.legs).2 < response.totalMinutes := by
    have sum := render_late response.legs
    have some_wait := waits_pos paid some_ride
    rw [total, ← sum]
    linarith
  exact ⟨fun agrees => late.ne agrees.arrives, late, boards_on_time_iff paid some_ride⟩

end Plans

/-! ## Two buses -/

section TwoBuses

def eastLine : Route ℚ :=
  lineAlong [⟨0, 0⟩, ⟨10, 0⟩] [⟨none, "Market", 0, 0⟩, ⟨none, "Junction", 10, 0⟩]

def farLine : Route ℚ :=
  { lineAlong [⟨10, 0⟩, ⟨20, 0⟩] [⟨none, "Junction", 10, 0⟩, ⟨none, "Harbour", 20, 0⟩] with
    id := 2
    routeNumber := 8 }

def harbourPlan : Option (Response ℚ) :=
  planTransitWith .exact (build taxicab [eastLine, farLine]) taxicab (Polling.first Prod.snd) 0 0 20 0

/-- The plan as the page times it: five minutes to the first bus, and the second
shown five minutes before it leaves. -/
theorem harbour_rendered :
    harbourPlan.map (fun plan => (decide (everyWaitRidden plan.legs), renderLegs 0 plan.legs,
        plan.totalMinutes)) =
      some (true, ([none, some 5, none, some (177 / 5), none], 304 / 5), 354 / 5) := by
  decide +kernel

theorem harbour_plan_late :
    (∃ plan, harbourPlan = some plan ∧ everyWaitRidden plan.legs ∧
      renderLegs 0 plan.legs = ([none, some 5, none, some (177 / 5), none], 304 / 5) ∧
      plan.totalMinutes = 354 / 5 ∧ ¬ ClockAgrees plan) ∧
    ¬ ∀ (geo : GeoDistance ℚ) (rows : List (Route ℚ)) (order : QueueOrder ℚ)
        (fromLat fromLng toLat toLng : ℚ) (response : Response ℚ),
      planTransitWith .exact (build geo rows) geo order fromLat fromLng toLat toLng = some response →
      everyWaitRidden response.legs → ClockAgrees response := by
  obtain ⟨plan, planned, shown⟩ := Option.map_eq_some_iff.mp harbour_rendered
  simp only [Prod.mk.injEq, decide_eq_true_eq] at shown
  obtain ⟨ridden, rendered, total⟩ := shown
  have late : ¬ ClockAgrees plan := by
    intro agrees
    have arrives := agrees.arrives
    rw [rendered, total] at arrives
    norm_num at arrives
  refine ⟨⟨plan, planned, ridden, rendered, total, late⟩, fun always => late ?_⟩
  exact always taxicab [eastLine, farLine] _ 0 0 20 0 plan planned ridden

theorem harbour_falls_behind :
    ∃ plan, harbourPlan = some plan ∧ ¬ ClockAgrees plan ∧
      (renderLegs 0 plan.legs).2 < plan.totalMinutes ∧
      (boardsOnTime plan.legs ↔ (rides plan.legs).length = 1) := by
  obtain ⟨plan, planned, shown⟩ := Option.map_eq_some_iff.mp harbour_rendered
  simp only [Prod.mk.injEq, decide_eq_true_eq] at shown
  exact ⟨plan, planned, clock_falls_behind taxicab [eastLine, farLine] _ 0 0 20 0 plan planned shown.1⟩

end TwoBuses

end CityBus.ItineraryClock
