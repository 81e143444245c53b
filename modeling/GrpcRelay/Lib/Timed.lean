import Mathlib.Data.List.Induction
import Mathlib.Order.Directed

/-!
# Folds over timed operations

Operations that carry a time are performed in the order of their times.  An invariant may then
speak of the time: it has to be kept while the time passes and by an operation at its own time
(`foldl_induction`).
-/

namespace Timed

variable {K α σ : Type} [Preorder K] {time : α → K} {f : σ → α → σ} {s : σ} {ops : List α} {t : K}

/-- The operations are in the order of their times. -/
def Ordered (time : α → K) (ops : List α) : Prop := ops.Pairwise fun a b => time a ≤ time b

instance [DecidableLE K] : Decidable (Ordered time ops) :=
  inferInstanceAs (Decidable (ops.Pairwise _))

theorem ordered_concat {a : α} :
    Ordered time (ops ++ [a]) ↔ Ordered time ops ∧ ∀ b ∈ ops, time b ≤ time a := by
  simp [Ordered, List.pairwise_append]

theorem Ordered.filter (h : Ordered time ops) (p : α → Bool) : Ordered time (ops.filter p) :=
  List.Pairwise.filter p h

/-- The invariant rule. -/
theorem foldl_induction {I : K → σ → Prop} (start : ∀ t, I t s)
    (later : ∀ t t' s, t ≤ t' → I t s → I t' s)
    (next : ∀ a ∈ ops, ∀ s, I (time a) s → I (time a) (f s a)) (ordered : Ordered time ops)
    (upto : ∀ a ∈ ops, time a ≤ t) : I t (ops.foldl f s) := by
  induction ops using List.reverseRecOn generalizing t with
  | nil => exact start t
  | append_singleton ops a ih =>
    obtain ⟨ordered, before⟩ := ordered_concat.1 ordered
    have mem : a ∈ ops ++ [a] := List.mem_append_right _ (List.mem_singleton.2 rfl)
    rw [List.foldl_append]
    refine later _ _ _ (upto a mem) (next a mem _ ?_)
    exact ih (fun b hb => next b (List.mem_append_left _ hb)) ordered before

/-- The invariant rule for two folds over the same operations. -/
theorem foldl_induction₂ {τ : Type} {g : τ → α → τ} {s' : τ} {I : K → σ → τ → Prop}
    (start : ∀ t, I t s s') (later : ∀ t t' s s', t ≤ t' → I t s s' → I t' s s')
    (next : ∀ a ∈ ops, ∀ s s', I (time a) s s' → I (time a) (f s a) (g s' a))
    (ordered : Ordered time ops) (upto : ∀ a ∈ ops, time a ≤ t) :
    I t (ops.foldl f s) (ops.foldl g s') := by
  have pairs (s : σ) (s' : τ) : ops.foldl (fun p a => (f p.1 a, g p.2 a)) (s, s') =
      (ops.foldl f s, ops.foldl g s') := by
    clear start next ordered upto
    induction ops generalizing s s' with
    | nil => rfl
    | cons a ops ih => exact ih (f s a) (g s' a)
  have both := foldl_induction (f := fun (p : σ × τ) a => (f p.1 a, g p.2 a)) (s := (s, s'))
    (I := fun t p => I t p.1 p.2) start (fun t t' p => later t t' p.1 p.2)
    (fun a mem p => next a mem p.1 p.2) ordered upto
  rwa [pairs] at both

/-- Some time is after all operations. -/
theorem exists_upto [Nonempty K] [IsDirectedOrder K] (time : α → K) (ops : List α) :
    ∃ t, ∀ a ∈ ops, time a ≤ t := by
  induction ops with
  | nil => exact ⟨Classical.arbitrary K, by simp⟩
  | cons a ops ih =>
    obtain ⟨t, upto⟩ := ih
    obtain ⟨t', first, rest⟩ := exists_ge_ge (time a) t
    refine ⟨t', fun b hb => ?_⟩
    rcases List.mem_cons.1 hb with rfl | hb
    · exact first
    · exact (upto b hb).trans rest

end Timed
