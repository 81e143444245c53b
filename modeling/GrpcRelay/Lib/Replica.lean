import Mathlib.Logic.Function.Basic
import Mathlib.Data.List.Induction

/-!
# Replicas of a map

A map is copied by a list of updates: an update sets a key, or clears it if it still has a given
value.  A replica may have read some keys later than others, and then meets updates that its values
already reflect.  This does no harm: replaying updates twice is replaying them once
(`replay_replay`), and a replica that starts from whatever it knew before agrees with the map in the
end, but for keys that the map does not have any more (`Agrees`).
-/

namespace Replica

variable {κ ν : Type}

/-- An update of a map; a value is cleared only if it is the one named. -/
inductive Update (κ ν : Type) where
  | set (k : κ) (v : ν)
  | clear (k : κ) (v : ν)

variable [DecidableEq κ] [DecidableEq ν]

/-- The map after an update. -/
def Update.apply (m : κ → Option ν) : Update κ ν → κ → Option ν
  | .set k v => Function.update m k (some v)
  | .clear k v => if m k = some v then Function.update m k none else m

/-- The map after some updates. -/
def replay (m : κ → Option ν) (us : List (Update κ ν)) : κ → Option ν := us.foldl Update.apply m

theorem replay_append (m : κ → Option ν) (us us' : List (Update κ ν)) :
    replay m (us ++ us') = replay (replay m us) us' :=
  List.foldl_append

theorem replay_snoc (m : κ → Option ν) (us : List (Update κ ν)) (u : Update κ ν) :
    replay m (us ++ [u]) = u.apply (replay m us) :=
  replay_append m us [u]

variable {m m' : κ → Option ν} {k : κ} {us : List (Update κ ν)}

/-- What an update leaves under a key. -/
theorem apply_cases (u : Update κ ν) (k : κ) :
    (∃ v, ∀ m : κ → Option ν, u.apply m k = some v) ∨
      (∃ v, ∀ m : κ → Option ν, u.apply m k = if m k = some v then none else m k) ∨
      ∀ m : κ → Option ν, u.apply m k = m k := by
  cases u with
  | set k' v =>
    by_cases hk : k = k'
    · exact .inl ⟨v, fun m => by simp [Update.apply, hk]⟩
    · exact .inr (.inr fun m => by simp [Update.apply, hk])
  | clear k' v =>
    by_cases hk : k = k'
    · subst hk
      refine .inr (.inl ⟨v, fun m => ?_⟩)
      simp only [Update.apply]
      split_ifs <;> simp
    · refine .inr (.inr fun m => ?_)
      simp only [Update.apply]
      split_ifs <;> simp [hk]

theorem apply_congr (u : Update κ ν) (h : m k = m' k) : u.apply m k = u.apply m' k := by
  obtain ⟨v, set⟩ | ⟨v, clear⟩ | other := apply_cases u k
  · rw [set, set]
  · rw [clear, clear, h]
  · rw [other, other, h]

/-- A key is replayed on its own. -/
theorem replay_congr (h : m k = m' k) : replay m us k = replay m' us k := by
  induction us generalizing m m' with
  | nil => exact h
  | cons u us ih => exact ih (apply_congr u h)

/-- Updates that set a key make it forget its value; the others keep it or clear it. -/
theorem replay_cases (us : List (Update κ ν)) (k : κ) :
    (∀ m m' : κ → Option ν, replay m us k = replay m' us k) ∨
      ∀ m : κ → Option ν, replay m us k = m k ∨ replay m us k = none := by
  induction us with
  | nil => exact .inr fun m => .inl rfl
  | cons u us ih =>
    obtain same | kept := ih
    · exact .inl fun m m' => same _ _
    obtain ⟨v, set⟩ | ⟨v, clear⟩ | other := apply_cases u k
    · refine .inl fun m m' => ?_
      exact @replay_congr _ _ _ _ (u.apply m) (u.apply m') k us ((set m).trans (set m').symm)
    · refine .inr fun m => ?_
      have step := kept (u.apply m)
      rw [clear] at step
      split_ifs at step
      · exact .inr (step.elim id id)
      · exact step
    · refine .inr fun m => ?_
      have step := kept (u.apply m)
      rw [other] at step
      exact step

/-- Updates that are replayed again change nothing. -/
theorem replay_replay (m : κ → Option ν) (us : List (Update κ ν)) (k : κ) :
    replay (replay m us) us k = replay m us k := by
  obtain same | kept := replay_cases us k
  · exact same _ _
  obtain once | none := kept m
  · exact replay_congr once
  · exact (kept (replay m us)).elim id fun h => h.trans none.symm

/-- The key of an update. -/
def Update.key : Update κ ν → κ
  | .set k _ => k
  | .clear k _ => k

theorem apply_of_ne {u : Update κ ν} (h : u.key ≠ k) : u.apply m k = m k := by
  cases u with
  | set k' v => exact Function.update_of_ne (Ne.symm h) ..
  | clear k' v =>
    simp only [Update.apply]
    split_ifs
    · exact Function.update_of_ne (Ne.symm h) ..
    · rfl

/-- Updates of other keys. -/
theorem replay_of_untouched (h : ∀ u ∈ us, u.key ≠ k) : replay m us k = m k := by
  induction us generalizing m with
  | nil => rfl
  | cons u us ih =>
    refine (ih fun u' mem => h u' (List.mem_cons_of_mem _ mem)).trans ?_
    exact apply_of_ne (h u List.mem_cons_self)

/-- Updates that all give a key the same value, if any of them has the key. -/
theorem replay_of_set {v : ν} (all : ∀ u ∈ us, u.key = k → u = .set k v)
    (some : ∃ u ∈ us, u.key = k) : replay m us k = .some v := by
  induction us using List.reverseRecOn with
  | nil =>
    obtain ⟨u, mem, -⟩ := some
    cases mem
  | append_singleton us u ih =>
    rw [replay_snoc]
    by_cases hu : u.key = k
    · rw [all u (by simp) hu]
      exact Function.update_self ..
    · rw [apply_of_ne hu]
      refine ih (fun u' mem => all u' (by simp [mem])) ?_
      obtain ⟨u', mem, hk⟩ := some
      obtain mem | last := List.mem_append.1 mem
      · exact ⟨u', mem, hk⟩
      · exact absurd (List.mem_singleton.1 last ▸ hk) hu

/-! ## Replicas that knew something before -/

/-- A key of the replica agrees with the map, or still has the value from before and the map does
not have the key. -/
def Agrees (before : κ → Option ν) (view truth : κ → Option ν) (k : κ) : Prop :=
  view k = truth k ∨ truth k = none ∧ view k = before k

variable {before view truth : κ → Option ν}

omit [DecidableEq κ] [DecidableEq ν] in
theorem Agrees.of_eq {view' : κ → Option ν} (h : Agrees before view truth k)
    (same : view' k = view k) : Agrees before view' truth k := by
  unfold Agrees at h ⊢
  rwa [same]

/-- A new update reaches both. -/
theorem Agrees.apply (h : Agrees before view truth k) (u : Update κ ν) :
    Agrees before (u.apply view) (u.apply truth) k := by
  obtain same | ⟨absent, kept⟩ := h
  · exact .inl (apply_congr u same)
  obtain ⟨v, set⟩ | ⟨v, clear⟩ | other := apply_cases u k
  · exact .inl ((set _).trans (set _).symm)
  · have still : u.apply truth k = none := by simp [clear, absent]
    unfold Agrees
    rw [still, clear]
    split_ifs
    · exact .inl rfl
    · exact .inr ⟨rfl, kept⟩
  · unfold Agrees
    rw [other, other]
    exact .inr ⟨absent, kept⟩

/-- A replica that reads a key while updates are under way agrees once they have come. -/
theorem agrees_of_read (read : view k = replay m us k) :
    Agrees before (replay view us) (replay m us) k :=
  .inl ((replay_congr read).trans (replay_replay m us k))

/-- The same for a key that the map does not have, of which the replica learns nothing. -/
theorem agrees_of_absent (absent : replay m us k = none) (kept : view k = before k) :
    Agrees before (replay view us) (replay m us) k := by
  obtain same | cleared := replay_cases us k
  · exact .inl (same _ _)
  · unfold Agrees
    rw [absent, ← kept]
    exact (cleared view).elim (fun h => .inr ⟨rfl, h⟩) .inl

end Replica
