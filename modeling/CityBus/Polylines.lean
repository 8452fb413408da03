import Mathlib.Algebra.Order.Field.Basic
import Mathlib.Order.Bounds.Basic
import Mathlib.Order.ConditionallyCompleteLattice.Basic
import Mathlib.Tactic.Linarith
import Mathlib.Tactic.Ring

/-!
Polylines in a space with straight segments. A place on a polyline is a segment
and a fraction of it, and it is reached after a certain way from the start. What
is cut out between two places is as long as the way from one to the other.
-/

namespace CityBus.Polylines

/-- Straight segments between points, measured evenly by a distance. -/
structure Segments (K P : Type) [Field K] [LinearOrder K] where
  dist : P → P → K
  along : P → P → K → P
  start : ∀ a b, along a b 0 = a
  stop : ∀ a b, along a b 1 = b
  evenly : ∀ a b s t, dist (along a b s) (along a b t) = |t - s| * dist a b
  nonneg : ∀ a b, 0 ≤ dist a b
  apart : ∀ a b, dist a b = 0 → a = b

variable {K P : Type} [Field K] [LinearOrder K] (space : Segments K P)

def length : List P → K
  | a :: b :: rest => space.dist a b + length (b :: rest)
  | _ => 0

def spot (t : K) : Nat → List P → Option P
  | 0, a :: b :: _ => some (space.along a b t)
  | seg + 1, _ :: rest => spot t seg rest
  | _, _ => none

def travelled (t : K) : Nat → List P → K
  | 0, a :: b :: _ => t * space.dist a b
  | seg + 1, a :: b :: rest => space.dist a b + travelled t seg (b :: rest)
  | _, _ => 0

/-- The polyline passes `point` after the way `s`. -/
def LiesAt (path : List P) (s : K) (point : P) : Prop :=
  ∃ seg t, 0 ≤ t ∧ t ≤ 1 ∧ spot space t seg path = some point ∧ travelled space t seg path = s

/-- From `first` over the vertices after segment `seg` and up to `seg'` to `last`. -/
def slice (path : List P) (seg seg' : Nat) (first last : P) : List P :=
  first :: ((path.drop (seg + 1)).take (seg' - seg) ++ [last])

section Segments
variable [IsStrictOrderedRing K] {space}

@[simp] theorem dist_same (a : P) : space.dist a a = 0 := by
  have still := space.evenly a a 0 0
  rw [space.start, sub_self, abs_zero, zero_mul] at still
  exact still

theorem dist_back (a b : P) : space.dist a b = space.dist b a := by
  have back := space.evenly b a 1 0
  rw [space.start, space.stop, zero_sub, abs_neg, abs_one, one_mul] at back
  exact back

theorem dist_along_stop {t : K} (a b : P) (within : t ≤ 1) :
    space.dist (space.along a b t) b = (1 - t) * space.dist a b := by
  have rest := space.evenly a b t 1
  rw [space.stop, abs_of_nonneg (sub_nonneg.mpr within)] at rest
  exact rest

omit [IsStrictOrderedRing K] in
theorem length_append_pair (front : List P) (a b : P) :
    length space (front ++ [a, b]) = length space (front ++ [a]) + space.dist a b := by
  induction front with
  | nil => simp [length]
  | cons first rest ih =>
      cases rest with
      | nil => simp [length]
      | cons second more => simpa [length, add_assoc] using ih

theorem length_reverse (path : List P) : length space path.reverse = length space path := by
  induction path with
  | nil => rfl
  | cons a rest ih =>
      cases rest with
      | nil => rfl
      | cons b more =>
          rw [List.reverse_cons] at ih
          rw [List.reverse_cons, List.reverse_cons, List.append_assoc, List.singleton_append,
            length_append_pair, ih, length, dist_back b a]
          exact add_comm _ _

end Segments

/-! ## Places -/

section Places
variable {space}

theorem spot_eq {t : K} {seg : Nat} {path : List P} {a b : P} (first : path[seg]? = some a)
    (second : path[seg + 1]? = some b) : spot space t seg path = some (space.along a b t) := by
  induction path generalizing seg with
  | nil => simp at first
  | cons head rest ih =>
      cases seg with
      | zero =>
          cases rest with
          | nil => simp at second
          | cons next more => simp_all [spot]
      | succ seg =>
          rw [List.getElem?_cons_succ] at first second
          rw [spot]
          exact ih first second

theorem spot_cases {t : K} {seg : Nat} {path : List P} {point : P}
    (found : spot space t seg path = some point) :
    ∃ a b, path[seg]? = some a ∧ path[seg + 1]? = some b ∧ point = space.along a b t := by
  induction path generalizing seg with
  | nil => cases seg <;> simp [spot] at found
  | cons head rest ih =>
      cases seg with
      | zero =>
          cases rest with
          | nil => simp [spot] at found
          | cons next more =>
              simp only [spot, Option.some.injEq] at found
              exact ⟨head, next, by simp, by simp, found.symm⟩
      | succ seg =>
          rw [spot] at found
          obtain ⟨a, b, first, second, point⟩ := ih found
          exact ⟨a, b, by simpa using first, by simpa using second, point⟩

theorem travelled_eq {seg : Nat} {path : List P} {a b : P} (t : K) (first : path[seg]? = some a)
    (second : path[seg + 1]? = some b) :
    travelled space t seg path = travelled space 0 seg path + t * space.dist a b := by
  induction path generalizing seg with
  | nil => simp at first
  | cons head rest ih =>
      cases rest with
      | nil => simp at second
      | cons next more =>
          cases seg with
          | zero => simp_all [travelled]
          | succ seg =>
              rw [List.getElem?_cons_succ] at first second
              rw [travelled, travelled, ih first second, add_assoc]

variable [IsStrictOrderedRing K]

theorem travelled_nonneg {t : K} (start : 0 ≤ t) (seg : Nat) (path : List P) :
    0 ≤ travelled space t seg path := by
  induction path generalizing seg with
  | nil => cases seg <;> simp [travelled]
  | cons a rest ih =>
      cases rest with
      | nil => cases seg <;> simp [travelled]
      | cons b more =>
          cases seg with
          | zero => exact mul_nonneg start (space.nonneg a b)
          | succ seg => exact add_nonneg (space.nonneg a b) (ih seg)

theorem travelled_le {t : K} (within : t ≤ 1) {seg later : Nat} (before : seg < later)
    {path : List P} (inside : later < path.length) :
    travelled space t seg path ≤ travelled space 0 later path := by
  induction path generalizing seg later with
  | nil => simp at inside
  | cons a rest ih =>
      cases rest with
      | nil =>
          simp only [List.length_singleton] at inside
          omega
      | cons b more =>
          cases later with
          | zero => omega
          | succ later =>
              cases seg with
              | zero =>
                  have part : t * space.dist a b ≤ space.dist a b :=
                    mul_le_of_le_one_left (space.nonneg a b) within
                  exact part.trans (le_add_of_nonneg_right (travelled_nonneg (le_refl 0) later _))
              | succ seg =>
                  refine (add_le_add_iff_left (space.dist a b)).mpr (ih ?_ ?_)
                  · omega
                  · simpa using inside

/-- What lies between two places is as long as the way between them. -/
theorem slice_length {t t' : K} (within : t ≤ 1) (later : 0 ≤ t') {seg seg' : Nat}
    {path : List P} {first last : P} (starts : spot space t seg path = some first)
    (ends : spot space t' seg' path = some last) (segments : seg ≤ seg')
    (order : travelled space t seg path ≤ travelled space t' seg' path) :
    length space (slice path seg seg' first last) =
      travelled space t' seg' path - travelled space t seg path := by
  induction path generalizing t seg seg' first with
  | nil => cases seg <;> simp [spot] at starts
  | cons a rest ih =>
      cases rest with
      | nil => cases seg <;> simp [spot] at starts
      | cons b more =>
          cases seg with
          | succ seg =>
              cases seg' with
              | zero => omega
              | succ seg' =>
                  rw [spot] at starts ends
                  simp only [travelled] at order ⊢
                  have shifted := ih within starts ends (by omega) (by linarith)
                  rw [add_sub_add_left_eq_sub, ← shifted]
                  simp [slice]
          | zero =>
              simp only [spot, Option.some.injEq] at starts
              subst starts
              cases seg' with
              | zero =>
                  simp only [spot, Option.some.injEq] at ends
                  subst ends
                  simp only [travelled] at order ⊢
                  have forward : 0 ≤ (t' - t) * space.dist a b := by linarith
                  calc length space (slice (a :: b :: more) 0 0 (space.along a b t)
                          (space.along a b t'))
                      = |t' - t| * space.dist a b := by simp [slice, length, space.evenly]
                    _ = |(t' - t) * space.dist a b| := by
                        rw [abs_mul, abs_of_nonneg (space.nonneg a b)]
                    _ = (t' - t) * space.dist a b := abs_of_nonneg forward
                    _ = t' * space.dist a b - t * space.dist a b := sub_mul _ _ _
              | succ seg' =>
                  -- To the end of the first segment, and from there on in the rest.
                  rw [spot] at ends
                  obtain ⟨c, d, _, after, _⟩ := spot_cases ends
                  obtain ⟨next, found⟩ : ∃ next, (b :: more)[1]? = some next := by
                    have long := (List.getElem?_eq_some_iff.mp after).1
                    exact ⟨_, List.getElem?_eq_getElem (by omega)⟩
                  have corner : spot space 0 0 (b :: more) = some b := by
                    rw [spot_eq (a := b) rfl found, space.start]
                  have still : travelled space 0 0 (b :: more) = 0 := by
                    cases more <;> simp [travelled]
                  have onward := ih (t := 0) zero_le_one corner ends (Nat.zero_le _)
                    (by rw [still]; exact travelled_nonneg later seg' _)
                  have parts : length space (slice (a :: b :: more) 0 (seg' + 1)
                      (space.along a b t) last) =
                      space.dist (space.along a b t) b +
                        length space (slice (b :: more) 0 seg' b last) := by
                    simp [slice, length]
                  rw [parts, onward, still, dist_along_stop a b within]
                  simp only [travelled]
                  ring

/-- The first segment that passes a point passes it first. -/
theorem first_pass {t : K} (start : 0 ≤ t) (within : t ≤ 1) {seg : Nat} {path : List P} {point : P}
    (here : spot space t seg path = some point)
    (not_before : ∀ earlier < seg, ∀ t', 0 ≤ t' → t' ≤ 1 →
      spot space t' earlier path ≠ some point) :
    IsLeast {s | LiesAt space path s point} (travelled space t seg path) := by
  refine ⟨⟨seg, t, start, within, here, rfl⟩, ?_⟩
  rintro s ⟨seg', t', start', within', there, rfl⟩
  obtain ⟨a, b, first, second, atT⟩ := spot_cases here
  obtain ⟨a', b', first', second', atT'⟩ := spot_cases there
  rcases Nat.lt_trichotomy seg' seg with earlier | rfl | later
  · exact absurd there (not_before seg' earlier t' start' within')
  · rw [first, Option.some.injEq] at first'
    rw [second, Option.some.injEq] at second'
    subst first' second'
    have still := space.evenly a b t t'
    rw [← atT, ← atT', dist_same] at still
    have same : t * space.dist a b = t' * space.dist a b := by
      rcases mul_eq_zero.mp still.symm with equal | flat
      · rw [sub_eq_zero.mp (abs_eq_zero.mp equal)]
      · rw [flat, mul_zero, mul_zero]
    rw [travelled_eq t first second, travelled_eq t' first second, same]
  · have inside := (List.getElem?_eq_some_iff.mp first').1
    rw [travelled_eq t' first' second']
    exact (travelled_le within later inside).trans
      (le_add_of_nonneg_right (mul_nonneg start' (space.nonneg a' b')))

end Places

end CityBus.Polylines
