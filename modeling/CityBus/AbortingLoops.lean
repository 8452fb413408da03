import Mathlib

/-!
Loops that end with the first item that throws. What came before has happened and
stays; what was still to come is left undone. `Result` keeps the state at which an
exception escaped.
-/

namespace AbortingLoops

universe u
variable {State Item Error Value : Type u}

def endState : EStateM.Result Error State Value → State
  | .ok _ state => state
  | .error _ state => state

/-- Each item throws, or takes its effect and the next one comes. -/
def untilThrow (failure : Error) (throws : Item → Bool) (apply : State → Item → State) :
    List Item → EStateM Error State PUnit
  | [] => pure ⟨⟩
  | item :: rest =>
      if throws item then throw failure
      else do
        modify fun state => apply state item
        untilThrow failure throws apply rest

variable {failure : Error} {throws : Item → Bool} {apply : State → Item → State}

theorem until_throw_append (items rest : List Item) :
    untilThrow failure throws apply (items ++ rest) =
      untilThrow failure throws apply items >>= fun _ => untilThrow failure throws apply rest := by
  induction items with
  | nil => simp [untilThrow]
  | cons item items ih =>
      by_cases fails : throws item = true
      · simp only [List.cons_append, untilThrow, if_pos fails]
        rfl
      · simp only [List.cons_append, untilThrow, if_neg fails, ih, bind_assoc]

/-- What a loop leaves is what the items before the first failure did. -/
theorem until_throw_end (items : List Item) (state : State) :
    endState ((untilThrow failure throws apply items).run state) =
      (items.takeWhile fun item => !throws item).foldl apply state := by
  induction items generalizing state with
  | nil => rfl
  | cons item rest ih =>
      by_cases fails : throws item = true
      · simp [untilThrow, fails, endState]
      · simp [untilThrow, fails, ih]

theorem until_throw_returns {items : List Item} {state next : State} {value : PUnit}
    (returned : (untilThrow failure throws apply items).run state = .ok value next) :
    next = items.foldl apply state := by
  induction items generalizing state with
  | nil =>
      cases returned
      rfl
  | cons item rest ih =>
      by_cases fails : throws item = true
      · simp [untilThrow, fails] at returned
      · simp only [untilThrow, if_neg fails] at returned
        exact ih returned

theorem forM_filter (keep : Item → Bool) (body : Item → EStateM Error State PUnit)
    (items : List Item) :
    (items.forM fun item => if keep item then body item else pure ⟨⟩) =
      (items.filter keep).forM body := by
  induction items with
  | nil => rfl
  | cons item rest ih =>
      simp only [List.forM_eq_forM, List.forM_cons, List.filter_cons] at ih ⊢
      by_cases kept : keep item = true
      · simp [kept, ih]
      · simp [kept, ih]

/-- What is read off the items before the first failure is complete exactly if nothing
is to be read off the rest. -/
theorem takeWhile_filterMap_iff {Part : Type u} (before : Item → Bool) (read : Item → Option Part)
    (items : List Item) :
    (items.takeWhile before).filterMap read = items.filterMap read ↔
      ∀ item ∈ items.dropWhile before, read item = none := by
  have whole : items.filterMap read =
      (items.takeWhile before).filterMap read ++ (items.dropWhile before).filterMap read := by
    rw [← List.filterMap_append, List.takeWhile_append_dropWhile]
  rw [whole, List.self_eq_append_right, List.filterMap_eq_nil_iff]

end AbortingLoops
