import CityBus.ItineraryClock

/-!
The cards of planner.js for a change of buses. A walk between two rides is shown as a
card that tells where to get off and what to board; every other walk is a line. The
planner counts transfers, and it may transfer twice before it boards.
-/

namespace CityBus.ChangeCards

open GeoUtils JourneyGraph CheapestPaths JourneySearch JourneyOptimality JourneyPlan
open JourneyCompleteness UnroundedFold ItineraryArithmetic WalkOrBus FoldedLegs ItineraryClock
open CompiledGraph

variable {K : Type}

/-! ## The page -/

def isMode (mode : Mode) (leg : Option (Leg K)) : Bool := leg.any fun leg => leg.mode = mode

/-- `isInterchange(legs, i)`; no leg stands before the first. -/
def isInterchange (legs : List (Leg K)) (i : Nat) : Bool :=
  isMode .WALK legs[i]? && (0 < i && isMode .RIDE legs[i - 1]?) && isMode .RIDE legs[i + 1]?

/-- The legs that `legHtml` renders as a change. -/
def changeCards (legs : List (Leg K)) : Nat := (List.range legs.length).countP (isInterchange legs)

/-! ## Cards and walks -/

def cardsAfter (previous : Leg K) : List (Leg K) → Nat
  | [] => 0
  | leg :: rest =>
      (if previous.mode = .RIDE ∧ leg.mode = .WALK ∧ isMode .RIDE rest.head? then 1 else 0) +
        cardsAfter leg rest

theorem interchanges_after (previous : Leg K) (legs : List (Leg K)) :
    ((List.range legs.length).countP fun i => isInterchange (previous :: legs) (i + 1)) =
      cardsAfter previous legs := by
  induction legs generalizing previous with
  | nil => rfl
  | cons leg rest ih =>
      have here : isInterchange (previous :: leg :: rest) (0 + 1) = true ↔
          previous.mode = .RIDE ∧ leg.mode = .WALK ∧ isMode .RIDE rest.head? := by
        simp only [isInterchange, isMode, Bool.and_eq_true]
        cases rest with
        | nil => simp
        | cons next more => simp [and_assoc, and_left_comm]
      have later (i : Nat) : isInterchange (previous :: leg :: rest) (i + 1 + 1) =
          isInterchange (leg :: rest) (i + 1) := by
        simp [isInterchange]
      rw [List.length_cons, List.range_succ_eq_map, List.countP_cons, List.countP_map, cardsAfter,
        ← ih leg, add_comm]
      simp only [here, Function.comp_def, Nat.succ_eq_add_one, later]

theorem change_cards_eq (first : Leg K) (legs : List (Leg K)) :
    changeCards (first :: legs) = cardsAfter first legs := by
  rw [changeCards, List.length_cons, List.range_succ_eq_map, List.countP_cons, List.countP_map,
    ← interchanges_after]
  simp [isInterchange, Function.comp_def]

def walks (legs : List (Leg K)) : Nat := legs.countP fun leg => leg.mode = .WALK

theorem mode_cases (leg : Leg K) : leg.mode = .WALK ∨ leg.mode = .RIDE := by
  cases leg.mode with
  | WALK => exact Or.inl rfl
  | RIDE => exact Or.inr rfl

/-- No more cards than walks between the rides, and as many exactly where each walk leads to
a ride and comes from one. -/
theorem cards_walks (previous egress : Leg K) (last : egress.mode = .WALK)
    (legs : List (Leg K)) :
    cardsAfter previous (legs ++ [egress]) ≤ walks legs ∧
      (previous.mode = .RIDE ∨ legs ≠ [] →
        (cardsAfter previous (legs ++ [egress]) = walks legs ↔
          everyWaitRidden (previous :: (legs ++ [egress])))) := by
  induction legs generalizing previous with
  | nil =>
      have none : cardsAfter previous ([] ++ [egress]) = 0 := by simp [cardsAfter, isMode]
      rw [none]
      refine ⟨le_refl 0, fun rode => iff_of_true rfl ⟨fun walk => ?_, trivial⟩⟩
      rcases rode with ride | some
      · rw [walk] at ride
        cases ride
      · exact absurd rfl some
  | cons leg rest ih =>
      obtain ⟨fewer, same⟩ := ih leg
      have ridden : everyWaitRidden (previous :: leg :: (rest ++ [egress])) ↔
          (previous.mode = .WALK → leg.mode = .RIDE) ∧
            everyWaitRidden (leg :: (rest ++ [egress])) :=
        Iff.rfl
      have counted : walks (leg :: rest) = walks rest + if leg.mode = .WALK then 1 else 0 := by
        simp [walks, List.countP_cons]
      rw [List.cons_append, ridden, cardsAfter, counted]
      rcases mode_cases leg with walk | ride
      · rw [if_pos walk]
        by_cases change : previous.mode = .RIDE ∧ isMode .RIDE (rest ++ [egress]).head? = true
        · obtain ⟨rode, next⟩ := change
          rw [if_pos ⟨rode, walk, next⟩]
          have there : rest ≠ [] := by
            rintro rfl
            simp [isMode, last] at next
          have boards : previous.mode = .WALK → leg.mode = .RIDE := by
            intro walked
            rw [walked] at rode
            cases rode
          refine ⟨by omega, fun _ => ?_⟩
          rw [← same (Or.inr there), and_iff_right boards]
          omega
        · rw [if_neg fun shown => change ⟨shown.1, shown.2.2⟩]
          refine ⟨by omega, fun _ => iff_of_false (by omega) ?_⟩
          rintro ⟨boards, later⟩
          apply change
          constructor
          · rcases mode_cases previous with walked | rode
            · have ride := boards walked
              rw [walk] at ride
              cases ride
            · exact rode
          · cases rest with
            | nil =>
                have ride := later.1 walk
                rw [last] at ride
                cases ride
            | cons next more =>
                have ride := later.1 walk
                simp [isMode, ride]
      · have none : ¬ leg.mode = .WALK := by simp [ride]
        rw [if_neg fun shown => none shown.2.1, if_neg none, Nat.zero_add, Nat.add_zero,
          and_iff_right fun _ => ride]
        exact ⟨fewer, fun _ => same (Or.inl ride)⟩

/-! ## Plans -/

section Plans
variable [Field K] [LinearOrder K] [FloorRing K] [IsStrictOrderedRing K]
variable {geo : GeoDistance K} {rows : List (Route K)} {order : QueueOrder K}
variable {fromLat fromLng toLat toLng : K} {response : Response K}

theorem transit_legs (planned : planTransit geo (build geo rows) order fromLat fromLng toLat toLng =
      some response) :
    ∃ source accessKm origin hops last egressKm goal, rideOn hops ∧
      FoldedChain (build geo rows) .displayed source accessKm origin hops last egressKm goal
        response := by
  have positive : ∀ u, ∀ edge ∈ (build geo rows).edges u, 0 < edge.minutes :=
    fun _ _ leaves => build_minutes_pos geo rows leaves
  rcases transit_chain geo (build geo rows) fromLat fromLng toLat toLng (order_unranked order)
    positive with ⟨none, _⟩ | ⟨last, cost, origin, edges, _, _, spelled, alights, board, _, chosen⟩
  · simp [planTransit, planTransitWith, none] at planned
  · obtain ⟨hops, linked, _, nodes, via⟩ := spelled_linked spelled board alights
    simp only [planTransit, planTransitWith, chosen, WithTop.untopD_coe] at planned
    obtain ⟨rode, walked⟩ := fold_spelled .displayed (cost + egressMinutes geo toLat toLng last)
      (nodeDistance geo toLat toLng last * INDIRECTNESS) fromLat fromLng toLat toLng board linked
      nodes via
    by_cases rides : rideOn hops
    · obtain ⟨returned, folds, folded, _⟩ := rode rides
      obtain rfl := Option.some.inj (folds.symm.trans planned)
      exact ⟨_, _, origin, hops, last, _, _, rides, folded⟩
    · exact absurd (planned.symm.trans (walked rides)) (by simp)

omit [IsStrictOrderedRing K] in
theorem plan_cases (answered : plan geo (build geo rows) order fromLat fromLng toLat toLng =
      .ok response) :
    planTransit geo (build geo rows) order fromLat fromLng toLat toLng = some response ∨
      response = onFoot geo fromLat fromLng toLat toLng := by
  obtain ⟨valid, apart⟩ := plan_ok_ends answered
  rw [plan_eq (build geo rows) order valid apart] at answered
  split at answered
  · split at answered
    · exact Or.inr (Except.ok.inj answered).symm
    · cases answered
  · rename_i transit found
    split at answered
    · exact Or.inr (Except.ok.inj answered).symm
    · exact Or.inl (found.trans (congrArg some (Except.ok.inj answered)))

/-- Every transfer that the planner counts is shown as a change exactly when every boarding
and every transfer is followed by a ride; else fewer changes are shown. -/
theorem change_cards (answered : plan geo (build geo rows) order fromLat fromLng toLat toLng =
      .ok response) :
    changeCards response.legs ≤ response.transfers ∧
      (changeCards response.legs = response.transfers ↔ everyWaitRidden response.legs) := by
  rcases plan_cases answered with planned | rfl
  · obtain ⟨_, _, origin, hops, last, _, _, rides, folded⟩ := transit_legs planned
    obtain ⟨access, between, egress, all, _, chain, count, walks, _⟩ := folded.legs
    have there : between ≠ [] := by
      rintro rfl
      obtain ⟨leg, member, _⟩ := (folded_rides chain).mpr rides
      cases member
    obtain ⟨fewer, same⟩ := cards_walks access egress walks between
    have cards : changeCards response.legs = cardsAfter access (between ++ [egress]) := by
      rw [all, List.cons_append, change_cards_eq]
    rw [cards, folded.transfers, ← count, all, List.cons_append]
    exact ⟨fewer, same (Or.inr there)⟩
  · simp [onFoot, walkOnly, change_cards_eq, cardsAfter, everyWaitRidden]

end Plans

theorem harbour_change : ∃ response : Response ℚ,
    plan taxicab (build taxicab [eastLine, farLine]) (Polling.first Prod.snd) 0 0 20 0 =
        .ok response ∧
      response.transfers = 1 ∧ changeCards response.legs ≤ response.transfers ∧
      (changeCards response.legs = response.transfers ↔ everyWaitRidden response.legs) := by
  have answered : (plan taxicab (build taxicab [eastLine, farLine]) (Polling.first Prod.snd)
      0 0 20 0).toOption.map (·.transfers) = some 1 := by
    decide +kernel
  obtain ⟨response, planned, one⟩ := Option.map_eq_some_iff.mp answered
  cases returned : plan taxicab (build taxicab [eastLine, farLine]) (Polling.first Prod.snd)
      0 0 20 0 with
  | error problem =>
      rw [returned] at planned
      cases planned
  | ok found =>
      rw [returned] at planned
      cases planned
      exact ⟨response, rfl, one, change_cards returned⟩

end CityBus.ChangeCards
