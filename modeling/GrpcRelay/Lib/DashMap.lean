import Mathlib.Data.List.AList
import Mathlib.Data.List.Induction

/-!
# Finite maps with an iteration order

`DashMap κ ν` is a finite map given by its list of entries, in which no key occurs twice
(`AList`).  The order of the entries is the order in which an iteration meets them.  A `HashSet`
is a map to `Unit`.

The lemmas state lookups after an update as an `if`, so that `simp` and `split_ifs` compute them.
-/

/-- A finite map, listed in iteration order. -/
abbrev DashMap (κ ν : Type) : Type := AList fun _ : κ => ν

/-- A finite set, listed in iteration order. -/
abbrev HashSet (κ : Type) : Type := DashMap κ Unit

namespace DashMap

variable {κ ν : Type} [DecidableEq κ]

/-- The number of entries. -/
def len (m : DashMap κ ν) : ℕ := m.entries.length

omit [DecidableEq κ] in
theorem length_keys (m : DashMap κ ν) : m.keys.length = m.len := List.length_map _

/-- Apply `f` to the value at `k`, if there is one (`get_mut`). -/
def modify (m : DashMap κ ν) (k : κ) (f : ν → ν) : DashMap κ ν :=
  match m.lookup k with
  | none => m
  | some v => m.insert k (f v)

theorem lookup_insert_ite (m : DashMap κ ν) (k k' : κ) (v : ν) :
    (m.insert k v).lookup k' = if k' = k then some v else m.lookup k' := by
  split_ifs with h
  · rw [h, AList.lookup_insert]
  · rw [AList.lookup_insert_ne h]

theorem lookup_erase_ite (m : DashMap κ ν) (k k' : κ) :
    (m.erase k).lookup k' = if k' = k then none else m.lookup k' := by
  split_ifs with h
  · rw [h, AList.lookup_erase]
  · rw [AList.lookup_erase_ne h]

theorem lookup_modify (m : DashMap κ ν) (k k' : κ) (f : ν → ν) :
    (modify m k f).lookup k' = if k' = k then (m.lookup k').map f else m.lookup k' := by
  unfold modify
  split
  · rename_i absent
    split_ifs with h
    · rw [h, absent]
      rfl
    · rfl
  · rename_i v found
    rw [lookup_insert_ite]
    split_ifs with h
    · rw [h, found]
      rfl
    · rfl

theorem eq_empty_of_lookup {m : DashMap κ ν} (h : ∀ k, m.lookup k = none) : m = ∅ := by
  apply AList.ext
  refine List.eq_nil_iff_forall_not_mem.2 fun entry hm => ?_
  exact AList.lookup_eq_none.1 (h entry.1) (List.mem_map_of_mem hm)

/-- A key whose lookup fails is erased without effect. -/
theorem erase_of_lookup_none {m : DashMap κ ν} {k : κ} (h : m.lookup k = none) :
    m.erase k = m := by
  apply AList.ext
  exact List.kerase_of_notMem_keys (AList.lookup_eq_none.1 h)

/-- A loop whose rounds each erase a key from a map erases all of them. -/
theorem lookup_foldl_erase {σ : Type} (map : σ → DashMap κ ν) {round : σ → κ → σ}
    (erases : ∀ s k, map (round s k) = (map s).erase k) (keys : List κ) (s : σ) (k : κ) :
    (map (keys.foldl round s)).lookup k = if k ∈ keys then none else (map s).lookup k := by
  induction keys generalizing s with
  | nil => simp
  | cons key keys ih =>
    rw [List.foldl_cons, ih, erases, lookup_erase_ite]
    by_cases hk : k = key <;> simp [hk]

/-- A map filled in a loop has at a key what was inserted there last. -/
theorem lookup_foldl_insert {α : Type} (key : α → κ) (val : α → ν) (xs : List α) (k : κ) :
    (xs.foldl (fun (m : DashMap κ ν) x => m.insert (key x) (val x)) ∅).lookup k =
      (xs.reverse.find? fun x => key x = k).map val := by
  induction xs using List.reverseRecOn with
  | nil => rfl
  | append_singleton xs x ih =>
    rw [List.foldl_append, List.reverse_append]
    simp only [List.foldl_cons, List.foldl_nil, List.reverse_singleton, List.singleton_append]
    rw [lookup_insert_ite, ih, List.find?_cons]
    by_cases h : key x = k
    · simp [h]
    · simp [h, Ne.symm h]

theorem mem_entries_iff (m : DashMap κ ν) (k : κ) (v : ν) :
    (⟨k, v⟩ : Σ _ : κ, ν) ∈ m.entries ↔ m.lookup k = some v :=
  (AList.mem_lookup_iff).symm.trans Option.mem_def

end DashMap
