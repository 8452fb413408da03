import Mathlib.Algebra.Order.Round
import Mathlib.Tactic.FieldSimp
import Mathlib.Tactic.Linarith
import Mathlib.Tactic.Positivity

/-!
Numbers as texts with a fixed count of digits after the point, over any ordered field
with a floor. Numbers that have one text are less than a unit of the last digit apart.
-/

namespace CityBus.FixedDigits

def padded (digits n : Nat) : List Char :=
  List.replicate (digits + 1 - (Nat.toDigits 10 n).length) '0' ++ Nat.toDigits 10 n

def pointed (digits n : Nat) : List Char :=
  let text := padded digits n
  if digits = 0 then text
  else text.take (text.length - digits) ++ '.' :: text.drop (text.length - digits)

section Numbers
variable {K : Type} [Field K] [LinearOrder K] [FloorRing K]

/-- The nearest count of units of the last digit; halves go up. -/
def units (digits : Nat) (x : K) : Nat := (round (|x| * (10 ^ digits : Nat))).toNat

def toFixed (digits : Nat) (x : K) : String :=
  String.ofList ((if x < 0 then ['-'] else []) ++ pointed digits (units digits x))

end Numbers

/-! ## The text is read back -/

theorem padded_digits {digits n : Nat} {c : Char} (member : c ∈ padded digits n) :
    c.isDigit = true := by
  rcases List.mem_append.mp member with zero | digit
  · rw [List.eq_of_mem_replicate zero]
    rfl
  · exact Nat.isDigit_of_mem_toDigits (by decide) (by decide) digit

theorem read_padded (digits n : Nat) : Nat.ofDigitChars 10 (padded digits n) 0 = n := by
  rw [padded, Nat.ofDigitChars_append, Nat.ofDigitChars_replicate_zero, Nat.mul_zero,
    Nat.ofDigitChars_ten_toDigits]

theorem pointed_chars {digits n : Nat} {c : Char} (member : c ∈ pointed digits n) :
    c.isDigit = true ∨ c = '.' := by
  unfold pointed at member
  split at member
  · exact Or.inl (padded_digits member)
  · rcases List.mem_append.mp member with front | back
    · exact Or.inl (padded_digits (List.mem_of_mem_take front))
    · rcases List.mem_cons.mp back with point | behind
      · exact Or.inr point
      · exact Or.inl (padded_digits (List.mem_of_mem_drop behind))

theorem pointed_filter (digits n : Nat) :
    (pointed digits n).filter (· ≠ '.') = padded digits n := by
  have kept : (padded digits n).filter (· ≠ '.') = padded digits n := by
    refine List.filter_eq_self.mpr fun c member => ?_
    have digit := padded_digits member
    have other : c ≠ '.' := by
      rintro rfl
      exact absurd digit (by decide)
    exact decide_eq_true other
  unfold pointed
  split
  · exact kept
  · rw [List.filter_append, List.filter_cons_of_neg (by decide), ← List.filter_append,
      List.take_append_drop, kept]

theorem pointed_inj {digits n m : Nat} (same : pointed digits n = pointed digits m) : n = m := by
  have shown : padded digits n = padded digits m := by
    rw [← pointed_filter, same, pointed_filter]
  rw [← read_padded digits n, shown, read_padded]

section Near
variable {K : Type} [Field K] [LinearOrder K] [FloorRing K]

theorem to_fixed_chars {digits : Nat} {x : K} {c : Char} (member : c ∈ (toFixed digits x).toList) :
    c.isDigit = true ∨ c = '.' ∨ c = '-' := by
  rw [toFixed, String.toList_ofList] at member
  rcases List.mem_append.mp member with sign | text
  · split at sign
    · exact Or.inr (Or.inr (List.mem_singleton.mp sign))
    · cases sign
  · exact (pointed_chars text).imp_right Or.inl

theorem to_fixed_inj {digits : Nat} {x y : K} (same : toFixed digits x = toFixed digits y) :
    (x < 0 ↔ y < 0) ∧ units digits x = units digits y := by
  have chars := String.ofList_injective same
  have unsigned (n : Nat) (rest : List Char) : '-' :: rest ≠ pointed digits n := by
    intro signed
    rcases pointed_chars (signed ▸ List.mem_cons_self : '-' ∈ pointed digits n) with digit | point
    · exact absurd digit (by decide)
    · exact absurd point (by decide)
  by_cases below : x < 0
  · by_cases below' : y < 0
    · simp only [if_pos below, if_pos below', List.singleton_append, List.cons.injEq, true_and]
        at chars
      exact ⟨iff_of_true below below', pointed_inj chars⟩
    · simp only [if_pos below, if_neg below', List.singleton_append, List.nil_append] at chars
      exact absurd chars (unsigned _ _)
  · by_cases below' : y < 0
    · simp only [if_neg below, if_pos below', List.singleton_append, List.nil_append] at chars
      exact absurd chars.symm (unsigned _ _)
    · simp only [if_neg below, if_neg below', List.nil_append] at chars
      exact ⟨iff_of_false below below', pointed_inj chars⟩

variable [IsStrictOrderedRing K]

theorem units_within (digits : Nat) (x : K) :
    (units digits x : K) - 1 / 2 ≤ |x| * (10 ^ digits : Nat) ∧
      |x| * (10 ^ digits : Nat) < (units digits x : K) + 1 / 2 := by
  have floored : (units digits x : K) = ⌊|x| * (10 ^ digits : Nat) + 1 / 2⌋ := by
    have nonneg : 0 ≤ ⌊|x| * (10 ^ digits : Nat) + 1 / 2⌋ := Int.floor_nonneg.mpr (by positivity)
    rw [units, round_eq, ← Int.cast_natCast, Int.toNat_of_nonneg nonneg]
  rw [floored]
  have low := Int.floor_le (|x| * (10 ^ digits : Nat) + 1 / 2)
  have high := Int.lt_floor_add_one (|x| * (10 ^ digits : Nat) + 1 / 2)
  constructor
  · linarith
  · linarith

/-- Numbers of one text are less than a unit of the last digit apart. -/
theorem to_fixed_near {digits : Nat} {x y : K} (same : toFixed digits x = toFixed digits y) :
    |x - y| < 1 / (10 ^ digits : Nat) := by
  obtain ⟨sign, count⟩ := to_fixed_inj same
  obtain ⟨low, high⟩ := units_within digits x
  obtain ⟨low', high'⟩ := units_within digits y
  rw [← count] at low' high'
  have scale : (0 : K) < (10 ^ digits : Nat) := by positivity
  have apart : |x - y| = abs (|x| - |y|) := by
    by_cases below : x < 0
    · rw [abs_of_neg below, abs_of_neg (sign.mp below), neg_sub_neg, abs_sub_comm]
    · have above := not_lt.mp below
      have above' := not_lt.mp fun below' => below (sign.mpr below')
      rw [abs_of_nonneg above, abs_of_nonneg above']
  have counted : |x - y| * (10 ^ digits : Nat) =
      abs (|x| * (10 ^ digits : Nat) - |y| * (10 ^ digits : Nat)) := by
    rw [apart, ← sub_mul, abs_mul, abs_of_pos scale]
  rw [lt_div_iff₀ scale, counted, abs_lt]
  constructor
  · linarith
  · linarith

end Near

end CityBus.FixedDigits
