import Mathlib.Data.List.AList

/-!
Finite maps with one value type, on top of Mathlib's `AList`: what the maps of a
store or a registry need beyond insertion and removal, and how each operation
acts on a lookup.
-/

namespace KeyedMaps

universe u v
variable {Key : Type u} {Value : Type v}

abbrev KeyedMap (Key : Type u) (Value : Type v) := AList fun _ : Key => Value

def values (map : KeyedMap Key Value) : List Value := map.entries.map Sigma.snd

theorem map_keys (change : Value → Value) (entries : List (Σ _ : Key, Value)) :
    (entries.map fun entry => (⟨entry.1, change entry.2⟩ : Σ _ : Key, Value)).keys =
      entries.keys := by
  simp [List.keys]

def mapValues (change : Value → Value) (map : KeyedMap Key Value) : KeyedMap Key Value where
  entries := map.entries.map fun entry => ⟨entry.1, change entry.2⟩
  nodupKeys := by
    rw [List.NodupKeys, map_keys]
    exact map.nodupKeys

theorem values_mapValues (change : Value → Value) (map : KeyedMap Key Value) :
    values (mapValues change map) = (values map).map change := by
  simp [values, mapValues]

variable [DecidableEq Key]

def modify (map : KeyedMap Key Value) (key : Key) (change : Value → Value) : KeyedMap Key Value :=
  match map.lookup key with
  | none => map
  | some value => map.insert key (change value)

theorem lookup_insert_eq (map : KeyedMap Key Value) (key other : Key) (value : Value) :
    (map.insert key value).lookup other = if other = key then some value else map.lookup other := by
  split
  · rename_i same
    rw [same, AList.lookup_insert]
  · rename_i different
    exact AList.lookup_insert_ne different

theorem lookup_erase_eq (map : KeyedMap Key Value) (key other : Key) :
    (map.erase key).lookup other = if other = key then none else map.lookup other := by
  split
  · rename_i same
    rw [same, AList.lookup_erase]
  · rename_i different
    exact AList.lookup_erase_ne different

theorem lookup_modify_eq (map : KeyedMap Key Value) (key other : Key) (change : Value → Value) :
    (modify map key change).lookup other =
      if other = key then (map.lookup other).map change else map.lookup other := by
  unfold modify
  cases found : map.lookup key with
  | none =>
      by_cases same : other = key
      · subst same
        simp [found]
      · simp [same]
  | some value =>
      by_cases same : other = key
      · subst same
        simp [found]
      · simp [same]

theorem lookup_mapValues (map : KeyedMap Key Value) (key : Key) (change : Value → Value) :
    (mapValues change map).lookup key = (map.lookup key).map change := by
  have mapped := List.dlookup_map₂ (l := map.entries) (f := fun _ : Key => change) key
  exact mapped

/-- `removeIf` over the values: those that fail the test go. -/
def keepValues (keep : Value → Bool) (map : KeyedMap Key Value) : KeyedMap Key Value where
  entries := map.entries.filter fun entry => keep entry.2
  nodupKeys := List.NodupKeys.sublist List.filter_sublist map.nodupKeys

theorem lookup_keepValues (keep : Value → Bool) (map : KeyedMap Key Value) (key : Key) :
    (keepValues keep map).lookup key = (map.lookup key).filter keep := by
  apply Option.ext
  intro value
  have held : value ∈ (keepValues keep map).lookup key ↔ value ∈ map.lookup key ∧ keep value := by
    simp only [AList.mem_lookup_iff, keepValues, List.mem_filter]
  simpa [Option.filter_eq_some_iff] using held

theorem filter_kerase (keep : Value → Bool) (entries : List (Σ _ : Key, Value)) (key : Key)
    (drops : ∀ value ∈ entries.dlookup key, keep value = false) :
    ((entries.kerase key).map Sigma.snd).filter keep = (entries.map Sigma.snd).filter keep := by
  induction entries with
  | nil => rfl
  | cons entry rest ih =>
      obtain ⟨first, value⟩ := entry
      by_cases here : key = first
      · subst here
        have dropped : keep value = false := drops value (by simp)
        have gone : (⟨key, value⟩ :: rest).kerase key = rest := List.kerase_cons_eq rfl
        rw [gone]
        simp [dropped]
      · rw [List.kerase_cons_ne here]
        simp only [List.map_cons, List.filter_cons]
        rw [ih]
        intro held found
        exact drops held (by rwa [List.dlookup_cons_ne rest ⟨first, value⟩ here])

theorem filter_values_modify (keep : Value → Bool) (map : KeyedMap Key Value) (key : Key)
    (change : Value → Value)
    (drops : ∀ value, map.lookup key = some value →
      keep value = false ∧ keep (change value) = false) :
    (values (modify map key change)).filter keep = (values map).filter keep := by
  unfold modify
  split
  · rfl
  · rename_i value found
    have erased := filter_kerase keep map.entries key fun held holds => by
      have same : value = held := Option.some.inj (found.symm.trans holds)
      rw [← same]
      exact (drops value found).1
    simp only [values, AList.entries_insert, List.map_cons, List.filter_cons,
      (drops value found).2, Bool.false_eq_true, if_false, erased]

theorem count_kerase (keep : Value → Bool) (entries : List (Σ _ : Key, Value)) (key : Key) :
    (((entries.kerase key).map Sigma.snd).filter keep).length +
        ((entries.dlookup key).toList.filter keep).length =
      ((entries.map Sigma.snd).filter keep).length := by
  induction entries with
  | nil => rfl
  | cons entry rest ih =>
      obtain ⟨first, value⟩ := entry
      by_cases here : key = first
      · subst here
        have gone : (⟨key, value⟩ :: rest).kerase key = rest := List.kerase_cons_eq rfl
        rw [gone, List.dlookup_cons_eq]
        by_cases kept : keep value = true
        · simp [kept]
        · simp [kept]
      · rw [List.kerase_cons_ne here, List.dlookup_cons_ne rest ⟨first, value⟩ here]
        by_cases kept : keep value = true
        · simp only [List.map_cons, List.filter_cons, kept, if_true, List.length_cons]
          omega
        · simpa [kept] using ih

theorem count_erase (keep : Value → Bool) (map : KeyedMap Key Value) (key : Key) :
    ((values (map.erase key)).filter keep).length + ((map.lookup key).toList.filter keep).length =
      ((values map).filter keep).length :=
  count_kerase keep map.entries key

theorem count_insert (keep : Value → Bool) (map : KeyedMap Key Value) (key : Key) (value : Value) :
    ((values (map.insert key value)).filter keep).length +
        ((map.lookup key).toList.filter keep).length =
      ((values map).filter keep).length + ([value].filter keep).length := by
  have erased := count_erase keep map key
  have shape : values (map.insert key value) = value :: values (map.erase key) := by
    simp only [values, AList.entries_insert, List.map_cons]
    rfl
  rw [shape, ← erased]
  by_cases kept : keep value = true
  · simp only [List.filter_cons, kept, if_true, List.length_cons, List.filter_nil, List.length_nil]
    omega
  · simp [kept]

theorem mem_values {map : KeyedMap Key Value} {value : Value} :
    value ∈ values map ↔ ∃ key, map.lookup key = some value := by
  simp only [values, List.mem_map]
  constructor
  · rintro ⟨⟨key, held⟩, member, rfl⟩
    exact ⟨key, AList.mem_lookup_iff.mpr member⟩
  · rintro ⟨key, found⟩
    exact ⟨⟨key, value⟩, AList.mem_lookup_iff.mp found, rfl⟩

/-! ## Looking up many -/

theorem mapM_some_iff {Source Target : Type} (read : Source → Option Target)
    (sources : List Source) (targets : List Target) :
    sources.mapM read = some targets ↔ sources.map read = targets.map some := by
  induction sources generalizing targets with
  | nil => cases targets <;> simp
  | cons source rest ih =>
      rw [List.mapM_cons]
      cases first : read source with
      | none => cases targets <;> simp [first]
      | some target =>
          cases later : rest.mapM read with
          | none =>
              cases targets with
              | nil => simp
              | cons head tail =>
                  have never := (ih tail).not.mp (by simp [later])
                  simp [first, never]
          | some tail' =>
              have same := (ih tail').mp later
              cases targets with
              | nil => simp
              | cons head tail =>
                  simp only [Option.pure_def, Option.bind_eq_bind, Option.bind_some,
                    Option.some.injEq, List.cons.injEq, List.map_cons, first, same]
                  rw [List.map_inj_right (fun _ _ => Option.some.inj)]

end KeyedMaps
