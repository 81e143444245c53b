import GrpcRelay.Lib.DashMap
import Mathlib.Algebra.Ring.Nat
import Mathlib.Data.List.Perm.Subperm

/-!
# Indexes

An index files ids under keys: it maps a key to the set of its ids.  `insert` creates the set of a
key when it is missing and `remove` deletes it when it becomes empty, so no stored set is empty.

An index is known by its members (`Has`) and by that (`NoEmpty`); the lemmas state both after each
operation.
-/

/-- Sets of ids by key. -/
abbrev Index (κ ι : Type) : Type := DashMap κ (HashSet ι)

namespace Index

variable {κ ι ν : Type} [DecidableEq κ] {idx idx' : Index κ ι} {k k' : κ} {i i' : ι}

/-- The ids filed under a key. -/
def ids (idx : Index κ ι) (k : κ) : HashSet ι := (idx.lookup k).getD ∅

/-- The number of ids filed under a key. -/
def count (idx : Index κ ι) (k : κ) : ℕ := DashMap.len (idx.ids k)

/-- The id is filed under the key. -/
def Has (idx : Index κ ι) (k : κ) (i : ι) : Prop := i ∈ idx.ids k

/-- Every key has ids. -/
def NoEmpty (idx : Index κ ι) : Prop := ∀ k ∈ idx, ∃ i, idx.Has k i

theorem not_has_empty : ¬ (∅ : Index κ ι).Has k i := AList.notMem_empty i

theorem noEmpty_empty : (∅ : Index κ ι).NoEmpty := fun k h => absurd h (AList.notMem_empty k)

theorem ids_of_lookup {ids : HashSet ι} (h : idx.lookup k = some ids) : idx.ids k = ids := by
  rw [Index.ids, h]
  rfl

theorem mem_of_has (h : idx.Has k i) : k ∈ idx := by
  by_contra absent
  rw [Has, ids, AList.lookup_eq_none.2 absent] at h
  exact AList.notMem_empty i h

@[simp] theorem has_erase : Has (AList.erase k idx) k' i ↔ k' ≠ k ∧ idx.Has k' i := by
  unfold Has ids
  rw [DashMap.lookup_erase_ite]
  split_ifs with hk
  · simp [hk, AList.notMem_empty]
  · simp [hk]

theorem len_eq_zero {ids : HashSet ι} : DashMap.len ids = 0 ↔ ∀ i, i ∉ ids := by
  rw [DashMap.len, List.length_eq_zero_iff, ← List.map_eq_nil_iff (f := Sigma.fst)]
  exact List.eq_nil_iff_forall_not_mem

theorem noEmpty_erase (h : idx.NoEmpty) : NoEmpty (AList.erase k idx) := by
  intro k' mem
  obtain ⟨hk, mem⟩ := AList.mem_erase.1 mem
  obtain ⟨i', hi⟩ := h k' mem
  exact ⟨i', has_erase.2 ⟨hk, hi⟩⟩

/-! ## Counting -/

theorem eq_empty (noEmpty : idx.NoEmpty) (h : ∀ k i, ¬ idx.Has k i) : idx = ∅ := by
  refine DashMap.eq_empty_of_lookup fun k => AList.lookup_eq_none.2 fun mem => ?_
  obtain ⟨i, hi⟩ := noEmpty k mem
  exact h k i hi

/-- Ids that another key has under other names are not more than its ids. -/
theorem count_le_of_injective {g : ι → ι} (inj : Function.Injective g)
    (h : ∀ i, idx.Has k i → idx'.Has k' (g i)) : idx.count k ≤ idx'.count k' := by
  have nodup : ((idx.ids k).keys.map g).Nodup := (idx.ids k).keys_nodup.map inj
  have sub : (idx.ids k).keys.map g ⊆ (idx'.ids k').keys := by
    intro i hi
    obtain ⟨i', old, rfl⟩ := List.mem_map.1 hi
    exact h i' old
  have lengths := (nodup.subperm sub).length_le
  rwa [List.length_map, DashMap.length_keys, DashMap.length_keys] at lengths

/-- They are fewer if one of its ids is not among them. -/
theorem count_lt_of_injective {g : ι → ι} (inj : Function.Injective g)
    (h : ∀ i, idx.Has k i → idx'.Has k' (g i)) (more : idx'.Has k' i)
    (other : ∀ i', idx.Has k i' → g i' ≠ i) : idx.count k < idx'.count k' := by
  have nodup : (i :: (idx.ids k).keys.map g).Nodup := by
    refine List.nodup_cons.2 ⟨fun mem => ?_, (idx.ids k).keys_nodup.map inj⟩
    obtain ⟨i', hi, same⟩ := List.mem_map.1 mem
    exact other i' hi same
  have sub : i :: (idx.ids k).keys.map g ⊆ (idx'.ids k').keys := by
    intro i' hi
    rcases List.mem_cons.1 hi with rfl | hi
    · exact more
    · obtain ⟨i'', old, rfl⟩ := List.mem_map.1 hi
      exact h i'' old
  have lengths := (nodup.subperm sub).length_le
  rwa [List.length_cons, List.length_map, DashMap.length_keys, DashMap.length_keys] at lengths

theorem count_le (h : ∀ i, idx.Has k i → idx'.Has k' i) : idx.count k ≤ idx'.count k' :=
  count_le_of_injective Function.injective_id h

theorem count_pos (h : idx.Has k i) : 0 < idx.count k := by
  rw [Nat.pos_iff_ne_zero, count, Ne, len_eq_zero]
  exact fun none => none i h

theorem count_eq_zero_of_not_mem (h : k ∉ idx) : idx.count k = 0 := by
  rw [count, ids, AList.lookup_eq_none.2 h]
  rfl

variable [DecidableEq ι]

/-- The ids of a map are as many as those filed in an index that files each of them once. -/
theorem len_eq_sum_count {map : DashMap ι ν} {f : ν → κ}
    (filed : ∀ k i, idx.Has k i ↔ ∃ v, map.lookup i = some v ∧ f v = k) :
    DashMap.len map = (idx.keys.map idx.count).sum := by
  have nodup : (idx.keys.flatMap fun k => (idx.ids k).keys).Nodup := by
    refine List.nodup_flatMap.2 ⟨fun k _ => AList.keys_nodup _, ?_⟩
    refine idx.keys_nodup.imp fun {k k'} hne i hi hi' => hne ?_
    obtain ⟨v, hv, rfl⟩ := (filed k i).1 hi
    obtain ⟨v', hv', rfl⟩ := (filed k' i).1 hi'
    rw [hv] at hv'
    cases hv'
    rfl
  have perm : map.keys.Perm (idx.keys.flatMap fun k => (idx.ids k).keys) := by
    rw [List.perm_ext_iff_of_nodup map.keys_nodup nodup]
    intro i
    rw [List.mem_flatMap, ← AList.mem_keys, ← AList.lookup_isSome, Option.isSome_iff_exists]
    constructor
    · rintro ⟨v, hv⟩
      have has := (filed (f v) i).2 ⟨v, hv, rfl⟩
      exact ⟨f v, mem_of_has has, has⟩
    · rintro ⟨k, -, hi⟩
      obtain ⟨v, hv, -⟩ := (filed k i).1 hi
      exact ⟨v, hv⟩
  have lengths := perm.length_eq
  rw [List.length_flatMap, DashMap.length_keys] at lengths
  simp only [DashMap.length_keys] at lengths
  exact lengths

/-! ## The operations -/

/-- File an id under a key. -/
def insert (idx : Index κ ι) (k : κ) (i : ι) : Index κ ι :=
  AList.insert k ((idx.ids k).insert i ()) idx

/-- Remove an id from the set of a key, and the set itself when it becomes empty. -/
def remove (idx : Index κ ι) (k : κ) (i : ι) : Index κ ι :=
  match idx.lookup k with
  | none => idx
  | some ids =>
    let ids := ids.erase i
    if DashMap.len ids = 0 then AList.erase k idx else AList.insert k ids idx

@[simp] theorem has_insert :
    (idx.insert k i).Has k' i' ↔ (k' = k ∧ i' = i) ∨ idx.Has k' i' := by
  unfold Has insert
  by_cases hk : k' = k
  · subst hk
    rw [ids_of_lookup (AList.lookup_insert _), AList.mem_insert]
    simp
  · rw [ids, AList.lookup_insert_ne hk]
    simp [hk, ids]

@[simp] theorem has_remove :
    (idx.remove k i).Has k' i' ↔ idx.Has k' i' ∧ ¬ (k' = k ∧ i' = i) := by
  unfold remove
  split
  · rename_i absent
    refine ⟨fun h => ⟨h, ?_⟩, fun h => h.1⟩
    rintro ⟨rfl, rfl⟩
    exact AList.lookup_eq_none.1 absent (mem_of_has h)
  · rename_i ids found
    have members : idx.Has k i' ↔ i' ∈ ids := by rw [Has, ids_of_lookup found]
    dsimp only
    split_ifs with empty
    · rw [has_erase]
      refine ⟨fun h => ⟨h.2, fun same => h.1 same.1⟩, fun h => ⟨fun hk => h.2 ⟨hk, ?_⟩, h.1⟩⟩
      by_contra hi
      subst hk
      exact len_eq_zero.1 empty i' (AList.mem_erase.2 ⟨hi, members.1 h.1⟩)
    · unfold Has Index.ids
      rw [DashMap.lookup_insert_ite]
      split_ifs with hk
      · rw [Option.getD_some, AList.mem_erase, hk, found, Option.getD_some]
        tauto
      · simp [hk]

theorem noEmpty_insert (h : idx.NoEmpty) : (idx.insert k i).NoEmpty := by
  intro k' mem
  rcases (AList.mem_insert _).1 mem with rfl | mem
  · exact ⟨i, has_insert.2 (Or.inl ⟨rfl, rfl⟩)⟩
  · obtain ⟨i', hi⟩ := h k' mem
    exact ⟨i', has_insert.2 (Or.inr hi)⟩

theorem noEmpty_remove (h : idx.NoEmpty) : (idx.remove k i).NoEmpty := by
  unfold remove
  split
  · exact h
  · dsimp only
    split_ifs with empty
    · exact noEmpty_erase h
    · intro k' mem
      rcases (AList.mem_insert _).1 mem with rfl | mem
      · rw [len_eq_zero] at empty
        push Not at empty
        obtain ⟨i', hi⟩ := empty
        exact ⟨i', by rwa [Has, ids_of_lookup (AList.lookup_insert _)]⟩
      · obtain ⟨i', hi⟩ := h k' mem
        by_cases hk : k' = k
        · rw [len_eq_zero] at empty
          push Not at empty
          obtain ⟨i'', hi'⟩ := empty
          exact ⟨i'', by rwa [hk, Has, ids_of_lookup (AList.lookup_insert _)]⟩
        · exact ⟨i', by rwa [Has, ids, AList.lookup_insert_ne hk]⟩

/-- Filing an id adds at most one to the ids of its key. -/
theorem count_insert_le : (idx.insert k i).count k ≤ idx.count k + 1 := by
  have sub : ((idx.insert k i).ids k).keys ⊆ i :: (idx.ids k).keys := by
    intro i' hi
    rcases has_insert.1 (show (idx.insert k i).Has k i' from hi) with ⟨-, rfl⟩ | hi
    · exact List.mem_cons_self
    · exact List.mem_cons_of_mem _ hi
  have lengths := ((AList.keys_nodup _).subperm sub).length_le
  rwa [List.length_cons, DashMap.length_keys, DashMap.length_keys] at lengths

/-- The other keys have the same ids. -/
theorem count_insert_of_ne (hk : k' ≠ k) : (idx.insert k i).count k' = idx.count k' := by
  rw [count, count, ids, ids, insert, AList.lookup_insert_ne hk]

end Index
