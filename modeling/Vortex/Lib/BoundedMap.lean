import Mathlib.Data.List.AList

/-!
# Hash maps of bounded size

A finite map that never holds more than `capacity` entries, with the bound as a
field.  Writing a new key into a full map and removing an absent key fail;
everything else succeeds.
-/

namespace Vortex.Lib

variable {κ ν : Type*}

/-- A map with at most `capacity` entries. -/
structure BoundedMap (capacity : ℕ) (κ ν : Type*) where
  table : AList fun _ : κ => ν
  bounded : table.keys.length ≤ capacity

namespace BoundedMap

/-- Why an operation on the map failed. -/
inductive Error where
  | full
  | absent
  deriving DecidableEq, Repr

variable {capacity : ℕ}

/-- The map without entries. -/
def empty : BoundedMap capacity κ ν where
  table := ∅
  bounded := by simp

variable [DecidableEq κ]

/-- The value under a key. -/
def lookup (map : BoundedMap capacity κ ν) (key : κ) : Option ν :=
  map.table.lookup key

/-- Create or overwrite an entry. -/
def insert (map : BoundedMap capacity κ ν) (key : κ) (value : ν) :
    Except Error (BoundedMap capacity κ ν) :=
  if present : key ∈ map.table then
    .ok {
      table := map.table.insert key value
      bounded := by
        have positive := List.length_pos_of_mem (AList.mem_keys.mp present)
        rw [AList.keys_insert, List.length_cons,
          List.length_erase_of_mem (AList.mem_keys.mp present)]
        have bounded := map.bounded
        omega }
  else if room : map.table.keys.length < capacity then
    .ok {
      table := map.table.insert key value
      bounded := by
        rw [AList.keys_insert, List.length_cons,
          List.erase_of_not_mem fun membership => present (AList.mem_keys.mpr membership)]
        exact room }
  else
    .error .full

/-- Delete an entry. -/
def remove (map : BoundedMap capacity κ ν) (key : κ) :
    Except Error (BoundedMap capacity κ ν) :=
  if key ∈ map.table then
    .ok {
      table := map.table.erase key
      bounded := by
        rw [AList.keys_erase]
        exact Nat.le_trans List.length_erase_le map.bounded }
  else
    .error .absent

@[simp] theorem lookup_empty (key : κ) :
    (empty : BoundedMap capacity κ ν).lookup key = none :=
  AList.lookup_empty key

variable {map next : BoundedMap capacity κ ν} {key : κ} {value : ν}

theorem table_insert (inserted : map.insert key value = .ok next) :
    next.table = map.table.insert key value := by
  unfold insert at inserted
  split at inserted
  · cases inserted
    rfl
  · split at inserted
    · cases inserted
      rfl
    · cases inserted

theorem table_remove (removed : map.remove key = .ok next) :
    next.table = map.table.erase key := by
  unfold remove at removed
  split at removed
  · cases removed
    rfl
  · cases removed

/-- A successful write is read back, and only at its own key. -/
theorem lookup_insert (inserted : map.insert key value = .ok next) (query : κ) :
    next.lookup query = if query = key then some value else map.lookup query := by
  simp only [lookup, table_insert inserted]
  split
  · next equal =>
      subst equal
      exact AList.lookup_insert _
  · next different => exact AList.lookup_insert_ne different

/-- A successful removal clears its own key and nothing else. -/
theorem lookup_remove (removed : map.remove key = .ok next) (query : κ) :
    next.lookup query = if query = key then none else map.lookup query := by
  simp only [lookup, table_remove removed]
  split
  · next equal =>
      subst equal
      exact AList.lookup_erase _ _
  · next different => exact AList.lookup_erase_ne different

/-! ## Success and size -/

theorem insert_ok (value : ν)
    (room : key ∈ map.table ∨ map.table.keys.length < capacity) :
    ∃ next, map.insert key value = .ok next := by
  unfold insert
  split
  · exact ⟨_, rfl⟩
  · next absent =>
      rw [dif_pos (room.resolve_left absent)]
      exact ⟨_, rfl⟩

theorem insert_full (value : ν) (absent : key ∉ map.table)
    (full : capacity ≤ map.table.keys.length) : map.insert key value = .error .full := by
  rw [insert, dif_neg absent, dif_neg full.not_gt]

theorem remove_ok (present : key ∈ map.table) : ∃ next, map.remove key = .ok next := by
  rw [remove, if_pos present]
  exact ⟨_, rfl⟩

theorem remove_absent (absent : key ∉ map.table) : map.remove key = .error .absent := by
  rw [remove, if_neg absent]

theorem length_insert (inserted : map.insert key value = .ok next) :
    next.table.keys.length =
      if key ∈ map.table then map.table.keys.length else map.table.keys.length + 1 := by
  rw [table_insert inserted, AList.keys_insert, List.length_cons]
  split
  · next present =>
      have positive := List.length_pos_of_mem (AList.mem_keys.mp present)
      rw [List.length_erase_of_mem (AList.mem_keys.mp present)]
      omega
  · next absent =>
      rw [List.erase_of_not_mem fun membership => absent (AList.mem_keys.mpr membership)]

theorem length_remove (present : key ∈ map.table) (removed : map.remove key = .ok next) :
    next.table.keys.length = map.table.keys.length - 1 := by
  rw [table_remove removed, AList.keys_erase,
    List.length_erase_of_mem (AList.mem_keys.mp present)]

end BoundedMap

end Vortex.Lib
