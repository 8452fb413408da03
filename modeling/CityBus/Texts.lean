import Mathlib.Data.List.DropRight
import Mathlib.Data.List.TakeWhile

/-!
Texts that are cut at a separator and trimmed at both ends, over any alphabet.
What was joined is cut into the same parts again as long as no part has the
separator in it and none loses anything to the trimming.
-/

namespace CityBus.Texts

variable {α : Type}

/-- What `p` holds of is cut off at both ends. -/
def trimBy (p : α → Bool) (xs : List α) : List α := (xs.dropWhile p).rdropWhile p

def Trimmed (p : α → Bool) (xs : List α) : Prop := trimBy p xs = xs

instance [DecidableEq α] (p : α → Bool) (xs : List α) : Decidable (Trimmed p xs) :=
  inferInstanceAs (Decidable (trimBy p xs = xs))

section Trim
variable {p : α → Bool} {xs ys : List α} {c : α}

theorem mem_trim (member : c ∈ trimBy p xs) : c ∈ xs :=
  (xs.dropWhile_suffix p).subset ((List.rdropWhile_prefix p _).subset member)

theorem trim_sublist (p : α → Bool) (xs : List α) : (trimBy p xs).Sublist xs :=
  (List.rdropWhile_prefix p _).sublist.trans (xs.dropWhile_sublist p)

theorem trimmed_iff : Trimmed p xs ↔
    (∀ c, xs.head? = some c → p c = false) ∧ (∀ c, xs.getLast? = some c → p c = false) := by
  constructor
  · intro trimmed
    have pre : (xs.dropWhile p).rdropWhile p <+: xs.dropWhile p := List.rdropWhile_prefix p _
    have suff := xs.dropWhile_suffix p
    have same : xs.dropWhile p = xs := by
      apply suff.eq_of_length
      apply le_antisymm suff.length_le
      calc xs.length = (trimBy p xs).length := by rw [trimmed]
        _ ≤ (xs.dropWhile p).length := pre.length_le
    have same' : xs.rdropWhile p = xs := by
      rw [Trimmed, trimBy, same] at trimmed
      exact trimmed
    constructor
    · intro c first
      obtain ⟨rest, rfl⟩ := List.head?_eq_some_iff.mp first
      simpa using List.dropWhile_eq_self_iff.mp same (Nat.succ_pos rest.length)
    · intro c last
      have nonempty : xs ≠ [] := by
        rintro rfl
        cases last
      rw [List.getLast?_eq_some_getLast nonempty, Option.some_inj] at last
      simpa [last] using List.rdropWhile_eq_self_iff.mp same' nonempty
  · rintro ⟨first, last⟩
    have front : xs.dropWhile p = xs := by
      cases xs with
      | nil => rfl
      | cons a rest => exact List.dropWhile_cons_of_neg (by simp [first a rfl])
    rw [Trimmed, trimBy, front, List.rdropWhile_eq_self_iff]
    intro nonempty
    simp [last _ (List.getLast?_eq_some_getLast nonempty)]

theorem trim_trimmed (p : α → Bool) (xs : List α) : Trimmed p (trimBy p xs) := by
  rw [trimmed_iff]
  constructor
  · intro c first
    -- The first of what is left is the first of what is left before the end is cut.
    have pre : trimBy p xs <+: xs.dropWhile p := List.rdropWhile_prefix p _
    have head : (xs.dropWhile p).head? = some c := by
      obtain ⟨rest, whole⟩ := pre
      rw [← whole, List.head?_append, first]
      rfl
    have stop := List.head?_dropWhile_not p xs
    rw [head] at stop
    simpa using stop
  · intro c last
    have nonempty : trimBy p xs ≠ [] := by
      intro none
      rw [none] at last
      cases last
    rw [List.getLast?_eq_some_getLast nonempty, Option.some_inj] at last
    have stop : ¬ p ((trimBy p xs).getLast nonempty) = true :=
      List.rdropWhile_last_not p (xs.dropWhile p) nonempty
    rw [last] at stop
    simpa using stop

/-- Trimming in two ways keeps what each of them keeps. -/
theorem trim_twice_iff {q : α → Bool} :
    trimBy p (trimBy q xs) = xs ↔ Trimmed q xs ∧ Trimmed p xs := by
  constructor
  · intro kept
    have whole : xs.Sublist (trimBy q xs) := by
      have sub := trim_sublist p (trimBy q xs)
      rwa [kept] at sub
    have trimmed : trimBy q xs = xs := (trim_sublist q xs).antisymm whole
    rw [trimmed] at kept
    exact ⟨trimmed, kept⟩
  · rintro ⟨first, second⟩
    rw [first, second]

theorem trim_cons (cut : p c = true) : trimBy p (c :: xs) = trimBy p xs := by
  rw [trimBy, List.dropWhile_cons_of_pos cut, trimBy]

theorem trim_concat (cut : p c = true) : trimBy p (xs ++ [c]) = trimBy p xs := by
  by_cases all : ∀ x ∈ xs, p x = true
  · have none : xs.dropWhile p = [] := List.dropWhile_eq_nil_iff.mpr all
    have none' : (xs ++ [c]).dropWhile p = [] := by
      rw [List.dropWhile_append, none]
      simp [cut]
    rw [trimBy, trimBy, none, none']
  · have some_left : xs.dropWhile p ≠ [] := fun none => all (List.dropWhile_eq_nil_iff.mp none)
    have back : (xs ++ [c]).dropWhile p = xs.dropWhile p ++ [c] := by
      rw [List.dropWhile_append]
      simp [some_left]
    rw [trimBy, back, List.rdropWhile_concat_pos _ _ _ cut, trimBy]

theorem trimmed_append (front : xs ≠ []) (back : ys ≠ []) (trimmed : Trimmed p xs)
    (trimmed' : Trimmed p ys) (between : List α) : Trimmed p (xs ++ between ++ ys) := by
  obtain ⟨first, _⟩ := trimmed_iff.mp trimmed
  obtain ⟨_, last⟩ := trimmed_iff.mp trimmed'
  rw [trimmed_iff]
  constructor
  · intro c head
    cases xs with
    | nil => exact absurd rfl front
    | cons a rest => exact first c (by simpa using head)
  · intro c ending
    rw [List.getLast?_append_of_ne_nil _ back] at ending
    exact last c ending

theorem trimmed_of_none (none : ∀ c ∈ xs, p c = false) : Trimmed p xs :=
  trimmed_iff.mpr ⟨fun c first => none c (List.mem_of_mem_head? first),
    fun c last => none c (List.mem_of_mem_getLast? last)⟩

end Trim

/-! ## Cutting and joining -/

theorem mem_intercalate {sep : List α} {parts : List (List α)} {c : α}
    (member : c ∈ sep.intercalate parts) : c ∈ sep ∨ ∃ part ∈ parts, c ∈ part := by
  induction parts with
  | nil => simp [List.intercalate_nil] at member
  | cons first rest ih =>
      cases rest with
      | nil =>
          rw [List.intercalate_singleton] at member
          exact Or.inr ⟨first, List.mem_cons_self, member⟩
      | cons next more =>
          rw [List.intercalate_cons_cons, List.mem_append, List.mem_append] at member
          rcases member with (here | between) | later
          · exact Or.inr ⟨first, List.mem_cons_self, here⟩
          · exact Or.inl between
          · rcases ih later with between | ⟨part, listed, inside⟩
            · exact Or.inl between
            · exact Or.inr ⟨part, List.mem_cons_of_mem first listed, inside⟩

section Split
variable [DecidableEq α] {p : α → Bool} {sep : α} {xs : List α}

/-- The parts between the separators, each trimmed. -/
def fields (p : α → Bool) (sep : α) (xs : List α) : List (List α) :=
  (xs.splitOn sep).map (trimBy p)

theorem split_part {part : List α} (member : part ∈ xs.splitOn sep) :
    sep ∉ part ∧ ∀ c ∈ part, c ∈ xs := by
  induction xs generalizing part with
  | nil =>
      rw [List.splitOn_nil, List.mem_singleton] at member
      simp [member]
  | cons c rest ih =>
      rw [List.splitOn_cons_eq_if_modifyHead] at member
      split at member
      · rcases List.mem_cons.mp member with rfl | later
        · simp
        · obtain ⟨clear, within⟩ := ih later
          exact ⟨clear, fun d inside => List.mem_cons_of_mem c (within d inside)⟩
      · rename_i other
        obtain ⟨first, more, parts⟩ :=
          List.exists_cons_of_ne_nil (List.splitOn_ne_nil sep rest)
        rw [parts, List.modifyHead_cons] at member
        rw [parts] at ih
        rcases List.mem_cons.mp member with rfl | later
        · obtain ⟨clear, within⟩ := ih List.mem_cons_self
          refine ⟨?_, ?_⟩
          · intro inside
            rcases List.mem_cons.mp inside with rfl | inside
            · simp at other
            · exact clear inside
          · intro d inside
            rcases List.mem_cons.mp inside with rfl | inside
            · exact List.mem_cons_self
            · exact List.mem_cons_of_mem c (within d inside)
        · obtain ⟨clear, within⟩ := ih (List.mem_cons_of_mem first later)
          exact ⟨clear, fun d inside => List.mem_cons_of_mem c (within d inside)⟩

theorem fields_part {part : List α} (member : part ∈ fields p sep xs) :
    Trimmed p part ∧ sep ∉ part ∧ ∀ c ∈ part, c ∈ xs := by
  obtain ⟨raw, found, rfl⟩ := List.mem_map.mp member
  obtain ⟨clear, within⟩ := split_part found
  exact ⟨trim_trimmed p raw, fun inside => clear (mem_trim inside),
    fun c inside => within c (mem_trim inside)⟩

/-- What is joined from trimmed parts has them as its fields. -/
theorem fields_intercalate {parts : List (List α)} (nonempty : parts ≠ [])
    (clear : ∀ part ∈ parts, sep ∉ part) (trimmed : ∀ part ∈ parts, Trimmed p part) :
    fields p sep ([sep].intercalate parts) = parts := by
  rw [fields, List.splitOn_intercalate sep clear nonempty]
  calc parts.map (trimBy p) = parts.map id :=
        List.map_congr_left fun part member => trimmed part member
    _ = parts := List.map_id parts

theorem fields_last (clear : sep ∉ xs) : fields p sep xs = [trimBy p xs] := by
  rw [fields, List.splitOn_eq_singleton clear, List.map_singleton]

theorem fields_next (clear : sep ∉ xs) (ys : List α) :
    fields p sep (xs ++ sep :: ys) = trimBy p xs :: fields p sep ys := by
  rw [fields, List.splitOn_append_cons_self_of_not_mem clear, List.map_cons, fields]

theorem fields_cons {blank : α} (cut : p blank = true) (other : blank ≠ sep) (xs : List α) :
    fields p sep (blank :: xs) = fields p sep xs := by
  obtain ⟨first, more, parts⟩ := List.exists_cons_of_ne_nil (List.splitOn_ne_nil sep xs)
  rw [fields, fields, List.splitOn_cons_eq_if_modifyHead, if_neg (by simpa using other), parts,
    List.modifyHead_cons, List.map_cons, List.map_cons, trim_cons cut]

theorem fields_spaced {blank : α} (cut : p blank = true) (other : blank ≠ sep) (clear : sep ∉ xs)
    (trimmed : Trimmed p xs) (ys : List α) :
    fields p sep (xs ++ blank :: sep :: blank :: ys) = xs :: fields p sep ys := by
  have first : sep ∉ xs ++ [blank] := by
    rw [List.mem_append, List.mem_singleton]
    rintro (inside | rfl)
    · exact clear inside
    · exact other rfl
  have parts := fields_next (p := p) first (blank :: ys)
  rw [List.append_assoc, List.singleton_append, trim_concat cut, trimmed,
    fields_cons cut other] at parts
  exact parts

end Split

end CityBus.Texts
