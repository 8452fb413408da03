import Mathlib

/-!
A buffer of the newest items, oldest first, that drops its oldest item when it is
full. A `Buffer` cannot hold more than its size.
-/

namespace RingBuffers

universe u

structure Buffer (size : Nat) (Item : Type u) where
  items : List Item
  bounded : items.length ≤ size

variable {size : Nat} {Item : Type u}

def Buffer.empty : Buffer size Item := ⟨[], Nat.zero_le size⟩

def Buffer.push [NeZero size] (buffer : Buffer size Item) (item : Item) : Buffer size Item where
  items := if buffer.items.length = size then buffer.items.tail ++ [item] else buffer.items ++ [item]
  bounded := by
    have room := Nat.pos_of_ne_zero (NeZero.ne size)
    have bounded := buffer.bounded
    split
    · simp only [List.length_append, List.length_tail, List.length_singleton]
      omega
    · simp only [List.length_append, List.length_singleton]
      omega

def Buffer.latest (buffer : Buffer size Item) : Option Item := buffer.items.getLast?

theorem latest_push [NeZero size] (buffer : Buffer size Item) (item : Item) :
    (buffer.push item).latest = some item := by
  simp only [Buffer.push, Buffer.latest]
  split <;> simp

theorem items_push [NeZero size] (buffer : Buffer size Item) (item : Item) :
    (buffer.push item).items = (buffer.items ++ [item]).rtake size := by
  have bounded := buffer.bounded
  have room := Nat.pos_of_ne_zero (NeZero.ne size)
  simp only [Buffer.push, List.rtake, List.length_append, List.length_singleton]
  split
  · rename_i full
    have one : buffer.items.length + 1 - size = 1 := by omega
    rw [one, List.drop_append_of_le_length (by omega), List.drop_one]
  · rename_i free
    have none : buffer.items.length + 1 - size = 0 := by omega
    rw [none, List.drop_zero]

theorem rtake_append_rtake (size : Nat) (older newer : List Item) :
    (older.rtake size ++ newer).rtake size = (older ++ newer).rtake size := by
  simp only [List.rtake]
  rw [← List.drop_append_of_le_length (Nat.sub_le _ _), List.drop_drop]
  congr 1
  simp only [List.length_append, List.length_drop]
  omega

/-- After any number of items the buffer has the last of them that it has room for. -/
theorem push_all [NeZero size] (buffer : Buffer size Item) (items : List Item) :
    (items.foldl Buffer.push buffer).items = (buffer.items ++ items).rtake size := by
  induction items generalizing buffer with
  | nil =>
      have bounded := buffer.bounded
      have all : buffer.items.length - size = 0 := by omega
      simp only [List.foldl_nil, List.append_nil, List.rtake, all, List.drop_zero]
  | cons item rest ih =>
      rw [List.foldl_cons, ih, items_push, rtake_append_rtake, List.append_assoc]
      rfl

theorem shift_same (item first : Item) (rest : List Item) (same : rest ++ [item] = first :: rest) :
    first :: rest = List.replicate (rest.length + 1) item := by
  induction rest generalizing first with
  | nil =>
      rw [List.nil_append, List.singleton_inj] at same
      rw [same]
      rfl
  | cons second rest ih =>
      obtain ⟨rfl, tail⟩ := List.cons.inj same
      have all := ih second tail
      rw [List.length_cons, List.replicate_succ, ← all]
      rw [List.replicate_succ] at all
      rw [(List.cons.inj all).1]

theorem rtake_same_iff {size : Nat} (room : 0 < size) {items : List Item}
    (bounded : items.length ≤ size) (item : Item) :
    (items ++ [item]).rtake size = items ↔ items = List.replicate size item := by
  unfold List.rtake
  rw [List.length_append, List.length_singleton]
  constructor
  · intro same
    have size' := congrArg List.length same
    rw [List.length_drop, List.length_append, List.length_singleton] at size'
    have full : items.length = size := by omega
    have one : items.length + 1 - size = 1 := by omega
    rw [one, List.drop_one] at same
    cases items with
    | nil =>
        rw [List.length_nil] at full
        omega
    | cons first rest =>
        have all := shift_same item first rest same
        rw [List.length_cons] at full
        rw [all, full]
  · intro all
    have full : items.length = size := by rw [all, List.length_replicate]
    have one : items.length + 1 - size = 1 := by omega
    rw [one, all, ← List.replicate_succ', List.drop_replicate, Nat.add_sub_cancel]

end RingBuffers
