import Mathlib.Logic.Function.Basic
import Mathlib.Data.List.Basic

/-!
# Local states of processes

Each process has a local state, and a step changes that of one process.  What is read off the local
states after a step was read off them before it, or is read off the new state of that process.
-/

namespace Locals

variable {ι σ α : Type} [DecidableEq ι] {locals : ι → σ} {i j : ι} {x : σ}

theorem of_update {f : σ → Option α} {a : α}
    (h : f (Function.update locals i x j) = some a) :
    (j = i ∧ f x = some a) ∨ (j ≠ i ∧ f (locals j) = some a) := by
  rw [Function.update_apply] at h
  split_ifs at h with hj
  · exact Or.inl ⟨hj, h⟩
  · exact Or.inr ⟨hj, h⟩

theorem mem_of_update {f : σ → List α} {a : α}
    (h : a ∈ f (Function.update locals i x j)) :
    (j = i ∧ a ∈ f x) ∨ (j ≠ i ∧ a ∈ f (locals j)) := by
  rw [Function.update_apply] at h
  split_ifs at h with hj
  · exact Or.inl ⟨hj, h⟩
  · exact Or.inr ⟨hj, h⟩

theorem eq_of_update {s : σ} (h : Function.update locals i x j = s) :
    (j = i ∧ x = s) ∨ (j ≠ i ∧ locals j = s) := by
  rw [Function.update_apply] at h
  split_ifs at h with hj
  · exact Or.inl ⟨hj, h⟩
  · exact Or.inr ⟨hj, h⟩

end Locals
