import Mathlib

/-!
Counting in fixed windows. A window opens with the first arrival after the last one
has run out, and admits up to a limit. Any interval as long as a window meets at most
two windows, so it sees at most twice the limit. The windows of a whole list of
arrivals are read off it, and each of them admits its first arrivals up to the limit.
-/

namespace FixedWindows

structure Window where
  startedAt : Int
  count : Nat

def acquire (width now : Int) : Option Window → Window
  | none => ⟨now, 1⟩
  | some window =>
      if width < now - window.startedAt then ⟨now, 1⟩
      else { window with count := window.count + 1 }

def admits (limit : Nat) (width since now : Int) (window : Option Window) : Prop :=
  (acquire width now window).count ≤ limit ∧ since ≤ now ∧ now ≤ since + width

/-- How many arrivals of an interval were admitted, against what the window has left:
none yet, or those of the current window only, or those of one window before it as
well; or the interval is over. -/
def Bounded (limit : Nat) (width since clock : Int) (window : Option Window) (spent : Nat) : Prop :=
  spent = 0 ∨
  (since ≤ clock ∧ spent ≤ limit ∧ ∀ opened, window = some opened → spent ≤ min limit opened.count) ∨
  (spent ≤ 2 * limit ∧ ∃ opened, window = some opened ∧ since ≤ opened.startedAt ∧
    spent ≤ limit + min limit opened.count) ∨
  (since + width < clock ∧ spent ≤ 2 * limit)

variable {limit : Nat} {width since clock now : Int} {window : Option Window} {spent : Nat}

theorem bounded_start (window : Option Window) : Bounded limit width since clock window 0 := Or.inl rfl

theorem bounded_le (bounded : Bounded limit width since clock window spent) : spent ≤ 2 * limit := by
  rcases bounded with none | ⟨_, one, _⟩ | ⟨two, _⟩ | ⟨_, two⟩
  · omega
  · omega
  · exact two
  · exact two

theorem bounded_wait (bounded : Bounded limit width since clock window spent) (passes : clock ≤ now) :
    Bounded limit width since now window spent := by
  rcases bounded with none | ⟨begun, one⟩ | two | ⟨ended, two⟩
  · exact Or.inl none
  · exact Or.inr (Or.inl ⟨by omega, one⟩)
  · exact Or.inr (Or.inr (Or.inl two))
  · exact Or.inr (Or.inr (Or.inr ⟨by omega, two⟩))

theorem bounded_forget {opened : Window}
    (bounded : Bounded limit width since clock (some opened) spent)
    (ranOut : width < clock - opened.startedAt) : Bounded limit width since clock none spent := by
  rcases bounded with none | ⟨begun, one, _⟩ | ⟨two, other, same, later, _⟩ | ended
  · exact Or.inl none
  · exact Or.inr (Or.inl ⟨begun, one, fun _ absent => by cases absent⟩)
  · cases same
    exact Or.inr (Or.inr (Or.inr ⟨by omega, two⟩))
  · exact Or.inr (Or.inr (Or.inr ended))

theorem bounded_opens {next : Nat} (bounded : Bounded limit width since clock none spent)
    (passes : clock ≤ now) (kept : next = spent ∨ next = spent + 1 ∧ 1 ≤ limit ∧ since ≤ now ∧
      now ≤ since + width) : Bounded limit width since now (some ⟨now, 1⟩) next := by
  rcases bounded with none | ⟨begun, one, _⟩ | ⟨_, opened, absent, _⟩ | ⟨ended, two⟩
  · rcases kept with same | ⟨more, room, begins, _⟩
    · exact Or.inl (by omega)
    · refine Or.inr (Or.inl ⟨begins, by omega, ?_⟩)
      intro opened same
      cases same
      simp only [le_min_iff]
      omega
  · rcases kept with same | ⟨more, room, begins, _⟩
    · refine Or.inr (Or.inr (Or.inl ⟨by omega, _, rfl, ?_, ?_⟩))
      · simp only
        omega
      · omega
    · refine Or.inr (Or.inr (Or.inl ⟨by omega, _, rfl, begins, ?_⟩))
      have room' : 1 ≤ min limit 1 := le_min room (Nat.le_refl 1)
      simp only
      omega
  · cases absent
  · rcases kept with same | ⟨_, _, _, inside⟩
    · exact Or.inr (Or.inr (Or.inr ⟨by omega, by omega⟩))
    · omega

theorem bounded_counts {opened : Window} {next : Nat}
    (bounded : Bounded limit width since clock (some opened) spent) (passes : clock ≤ now)
    (kept : next = spent ∨ next = spent + 1 ∧ opened.count + 1 ≤ limit ∧ since ≤ now ∧
      now ≤ since + width) :
    Bounded limit width since now (some { opened with count := opened.count + 1 }) next := by
  have grows : min limit opened.count ≤ min limit (opened.count + 1) := by omega
  rcases bounded with none | ⟨begun, one, counted⟩ | ⟨two, other, same, later, counted⟩ | ⟨ended, two⟩
  · rcases kept with same | ⟨more, room, begins, _⟩
    · exact Or.inl (by omega)
    · refine Or.inr (Or.inl ⟨begins, by omega, ?_⟩)
      intro other same
      cases same
      simp only [le_min_iff]
      omega
  · have counted := counted opened rfl
    refine Or.inr (Or.inl ⟨by omega, by omega, ?_⟩)
    intro other same
    cases same
    simp only
    omega
  · cases same
    refine Or.inr (Or.inr (Or.inl ⟨by omega, _, rfl, later, ?_⟩))
    simp only
    omega
  · rcases kept with same | ⟨_, _, _, inside⟩
    · exact Or.inr (Or.inr (Or.inr ⟨by omega, by omega⟩))
    · omega

/-- Every arrival keeps the bound, whether or not it is one of those that are counted. -/
theorem bounded_acquire {next : Nat} (bounded : Bounded limit width since clock window spent)
    (passes : clock ≤ now)
    (kept : next = spent ∨ next = spent + 1 ∧ admits limit width since now window) :
    Bounded limit width since now (some (acquire width now window)) next := by
  cases window with
  | none =>
      apply bounded_opens bounded passes
      rcases kept with same | ⟨more, admitted, inside⟩
      · exact Or.inl same
      · exact Or.inr ⟨more, admitted, inside⟩
  | some opened =>
      unfold admits acquire at *
      by_cases ranOut : width < now - opened.startedAt
      · simp only [if_pos ranOut] at kept ⊢
        apply bounded_opens (bounded_forget (bounded_wait bounded passes) ranOut) (Int.le_refl now)
        rcases kept with same | ⟨more, admitted, inside⟩
        · exact Or.inl same
        · exact Or.inr ⟨more, admitted, inside⟩
      · simp only [if_neg ranOut] at kept ⊢
        apply bounded_counts bounded passes
        rcases kept with same | ⟨more, admitted, inside⟩
        · exact Or.inl same
        · exact Or.inr ⟨more, admitted, inside⟩

/-! ## The windows of a list of arrivals -/

/-- Arrivals in windows: each opens with its first arrival and has, of this and those
that come after it, exactly the ones that are no further than the width from it. -/
inductive Split (width : Int) : List Int → List (List Int) → Prop where
  | done : Split width [] []
  | opens {opened : Int} {inside rest : List Int} {later : List (List Int)}
      (within : ∀ time ∈ inside, time - opened ≤ width)
      (beyond : ∀ time ∈ rest, width < time - opened)
      (tail : Split width rest later) :
      Split width (opened :: (inside ++ rest)) ((opened :: inside) :: later)

/-- What is left of the open window, and the windows after it. -/
def splitFrom (width opened : Int) : List Int → List Int × List (List Int)
  | [] => ([], [])
  | time :: rest =>
      if width < time - opened then
        let (inside, later) := splitFrom width time rest
        ([], (time :: inside) :: later)
      else
        let (inside, later) := splitFrom width opened rest
        (time :: inside, later)

def windowsOf (width : Int) : List Int → List (List Int)
  | [] => []
  | time :: rest => (time :: (splitFrom width time rest).1) :: (splitFrom width time rest).2

def admitted (limit : Nat) (width : Int) : Option Window → List Int → List Bool
  | _, [] => []
  | window, time :: rest =>
      decide ((acquire width time window).count ≤ limit) ::
        admitted limit width (some (acquire width time window)) rest

def firstOf (limit size : Nat) : List Bool := (List.range size).map fun place => decide (place < limit)

theorem split_past {opened time : Int} (past : width < time - opened) (rest : List Int) :
    splitFrom width opened (time :: rest) = ([], windowsOf width (time :: rest)) := by
  simp only [splitFrom, if_pos past, windowsOf]

theorem split_still {opened time : Int} (still : ¬ width < time - opened) (rest : List Int) :
    splitFrom width opened (time :: rest) =
      (time :: (splitFrom width opened rest).1, (splitFrom width opened rest).2) := by
  simp only [splitFrom, if_neg still]

theorem split_from (width opened : Int) (times : List Int) (ordered : times.Pairwise (· ≤ ·)) :
    ∃ rest, times = (splitFrom width opened times).1 ++ rest ∧
      (∀ time ∈ (splitFrom width opened times).1, time - opened ≤ width) ∧
      (∀ time ∈ rest, width < time - opened) ∧
      Split width rest (splitFrom width opened times).2 := by
  induction times generalizing opened with
  | nil => exact ⟨[], by simp [splitFrom, Split.done]⟩
  | cons time rest ih =>
      obtain ⟨first, ordered⟩ := List.pairwise_cons.mp ordered
      by_cases past : width < time - opened
      · rw [split_past past]
        obtain ⟨after, same, within, beyond, tail⟩ := ih time ordered
        refine ⟨time :: rest, rfl, ?_, ?_, ?_⟩
        · intro other member
          cases member
        · intro other member
          rcases List.mem_cons.mp member with rfl | member
          · exact past
          · have later := first other member
            omega
        · have opens := Split.opens within beyond tail
          rwa [← same] at opens
      · rw [split_still past]
        obtain ⟨after, same, within, beyond, tail⟩ := ih opened ordered
        refine ⟨after, ?_, ?_, beyond, tail⟩
        · rw [List.cons_append, ← same]
        · intro other member
          rcases List.mem_cons.mp member with rfl | member
          · omega
          · exact within other member

/-- Ordered arrivals are split into the windows that are read off them. -/
theorem windows_split (width : Int) (times : List Int) (ordered : times.Pairwise (· ≤ ·)) :
    Split width times (windowsOf width times) := by
  cases times with
  | nil => exact Split.done
  | cons time rest =>
      obtain ⟨after, same, within, beyond, tail⟩ :=
        split_from width time rest (List.pairwise_cons.mp ordered).2
      have opens := Split.opens within beyond tail
      rwa [← same] at opens

theorem split_flatten {times : List Int} {windows : List (List Int)}
    (split : Split width times windows) : windows.flatten = times := by
  induction split with
  | done => rfl
  | opens _ _ _ ih => rw [List.flatten_cons, ih, List.cons_append]

theorem admitted_from (limit : Nat) (width : Int) (window : Window) (times : List Int) :
    admitted limit width (some window) times =
      ((List.range' window.count (splitFrom width window.startedAt times).1.length).map
        fun place => decide (place < limit)) ++
      (splitFrom width window.startedAt times).2.flatMap fun later => firstOf limit later.length := by
  induction times generalizing window with
  | nil => rfl
  | cons time rest ih =>
      by_cases past : width < time - window.startedAt
      · rw [split_past past, admitted, acquire, if_pos past, ih, windowsOf, List.flatMap_cons,
          firstOf, List.length_cons, List.range_eq_range', List.range'_succ]
        rfl
      · rw [split_still past, admitted, acquire, if_neg past, ih, List.length_cons,
          List.range'_succ]
        rfl

/-- Every window admits its first arrivals, up to the limit. -/
theorem admitted_windows (limit : Nat) (width : Int) (times : List Int) :
    admitted limit width none times =
      (windowsOf width times).flatMap fun window => firstOf limit window.length := by
  cases times with
  | nil => rfl
  | cons time rest =>
      rw [admitted, acquire, admitted_from, windowsOf, List.flatMap_cons, firstOf,
        List.length_cons, List.range_eq_range', List.range'_succ]
      rfl

end FixedWindows
