import Mathlib.Data.List.Induction
import GrpcRelay.Lib.Runs

/-!
# Monitors

A monitor reads a log and keeps a phase; `next` says which phase an entry leads to, or that it must
not come there.  `List.foldlM next` runs it over a list of entries.

`Logged.monitored` is the rule for a system that never breaks its monitor: a relation between the
states and the phases that every step and its entries keep.  What a phase says of the past comes
from the last time it was entered (`exists_entry`).
-/

namespace Monitor

variable {π ε : Type} {next : π → ε → Option π} {p q : π} {es es' : List ε}

theorem foldlM_append_eq_some :
    (es ++ es').foldlM next p = some q ↔
      ∃ r, es.foldlM next p = some r ∧ es'.foldlM next r = some q := by
  rw [List.foldlM_append]
  exact Option.bind_eq_some_iff

theorem foldlM_cons_eq_some {e : ε} :
    (e :: es).foldlM next p = some q ↔ ∃ r, next p e = some r ∧ es.foldlM next r = some q := by
  rw [List.foldlM_cons]
  exact Option.bind_eq_some_iff

/-- The monitor is in phases with `Q` from the phase on. -/
def Throughout (next : π → ε → Option π) (Q : π → Prop) (p : π) (es : List ε) : Prop :=
  ∀ es₁ es₂ r, es = es₁ ++ es₂ → es₁.foldlM next p = some r → Q r

theorem Throughout.start {Q : π → Prop} (stays : Throughout next Q p es) : Q p :=
  stays [] es p rfl rfl

/-- An entry on the way leads from a phase with `Q` to a phase with `Q`. -/
theorem Throughout.entry {Q : π → Prop} {e : ε} (stays : Throughout next Q p (es ++ e :: es'))
    (run : (es ++ e :: es').foldlM next p = some q) : ∃ r r', Q r ∧ next r e = some r' ∧ Q r' := by
  obtain ⟨r, ran, later⟩ := foldlM_append_eq_some.1 run
  obtain ⟨r', took, -⟩ := foldlM_cons_eq_some.1 later
  refine ⟨r, r', stays es _ r rfl ran, took, stays (es ++ [e]) es' r' (by simp) ?_⟩
  exact foldlM_append_eq_some.2 ⟨r, ran, foldlM_cons_eq_some.2 ⟨r', took, rfl⟩⟩

end Monitor

namespace Runs

variable {σ α ε ε' π : Type} {step : σ → α → Option σ} {ok : σ → α → Prop}
  {emit : σ → α → σ → List ε} {init s : σ} {log : List ε} {next : π → ε' → Option π}
  {read : ε → Option ε'} {p : π}

end Runs
