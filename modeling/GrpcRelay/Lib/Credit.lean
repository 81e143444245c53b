import Mathlib.Algebra.Order.Field.Basic
import Mathlib.Tactic.Linarith
import Mathlib.Tactic.Ring

/-!
# Credit

Grants are made at given times and cost one unit of a credit, which grows in time at a rate and
never exceeds a cap.  Then the grants in an interval of length `t` are at most the cap and
`rate * t` (`Within.windows`).

The credit is whatever a limiter has left; `Within` is kept by the three things that happen to it:
it falls, it grows with the time, and it pays for a grant.
-/

namespace Credit

variable {K : Type} [LinearOrder K] {now : K} {times : List K}

/-- The grants from `t₀` to `t₁`. -/
def between (t₀ t₁ : K) (times : List K) : List K := times.filter fun t => t₀ ≤ t ∧ t ≤ t₁

theorem between_eq_of_past (past : ∀ t ∈ times, t ≤ now) {t₀ t₁ : K} (h : now ≤ t₁) :
    between t₀ t₁ times = between t₀ now times := by
  unfold between
  refine List.filter_congr fun t ht => ?_
  have := past t ht
  simp [this, this.trans h]

theorem between_eq_nil (past : ∀ t ∈ times, t ≤ now) {t₀ t₁ : K} (h : now < t₀) :
    between t₀ t₁ times = [] := by
  unfold between
  rw [List.filter_eq_nil_iff]
  intro t ht
  have := past t ht
  simp [not_le.2 (this.trans_lt h)]

variable [Field K] [IsStrictOrderedRing K]

/-- The grants made so far and the credit left at a time. -/
structure Within (rate cap : K) (times : List K) (now credit : K) : Prop where
  past : ∀ t ∈ times, t ≤ now
  capped : credit ≤ cap
  nonneg : 0 ≤ credit
  spent : ∀ t₀ ≤ now, (between t₀ now times).length + credit ≤ cap + rate * (now - t₀)
  windows : ∀ t₀ t₁, t₀ ≤ t₁ → ((between t₀ t₁ times).length : K) ≤ cap + rate * (t₁ - t₀)

variable {rate cap now' credit credit' : K}

namespace Within

theorem start (rate : K) (positive : 0 ≤ rate) (nonneg : 0 ≤ cap) (now : K) :
    Within rate cap [] now cap := by
  refine ⟨by simp, le_rfl, nonneg, fun t₀ h => ?_, fun t₀ t₁ h => ?_⟩
  · have := mul_nonneg positive (sub_nonneg.2 h)
    simp [between, this]
  · have := mul_nonneg positive (sub_nonneg.2 h)
    simp only [between, List.filter_nil, List.length_nil, Nat.cast_zero]
    linarith

/-- The credit falls. -/
theorem lower (W : Within rate cap times now credit) (nonneg : 0 ≤ credit')
    (h : credit' ≤ credit) : Within rate cap times now credit' := by
  refine ⟨W.past, h.trans W.capped, nonneg, fun t₀ h₀ => ?_, W.windows⟩
  have := W.spent t₀ h₀
  linarith

/-- The time passes and the credit grows. -/
theorem wait (W : Within rate cap times now credit) (positive : 0 ≤ rate) (later : now ≤ now')
    (nonneg : 0 ≤ credit') (capped : credit' ≤ cap)
    (h : credit' ≤ credit + rate * (now' - now)) : Within rate cap times now' credit' := by
  refine ⟨fun t ht => (W.past t ht).trans later, capped, nonneg, fun t₀ h₀ => ?_, W.windows⟩
  by_cases old : t₀ ≤ now
  · rw [between_eq_of_past W.past later]
    have := W.spent t₀ old
    linarith
  · rw [between_eq_nil W.past (not_le.1 old)]
    have := mul_nonneg positive (sub_nonneg.2 h₀)
    simp only [List.length_nil, Nat.cast_zero]
    linarith

/-- A grant is paid for. -/
theorem spend (W : Within rate cap times now credit) (positive : 0 ≤ rate)
    (nonneg : 0 ≤ credit') (h : credit' + 1 ≤ credit) :
    Within rate cap (times ++ [now]) now credit' := by
  have past : ∀ t ∈ times ++ [now], t ≤ now := by
    intro t ht
    rcases List.mem_append.1 ht with ht | ht
    · exact W.past t ht
    · exact (List.mem_singleton.1 ht).le
  have more (t₀ t₁ : K) : (between t₀ t₁ (times ++ [now])).length ≤
      (between t₀ t₁ times).length + 1 := by
    rw [between, List.filter_append, List.length_append]
    exact Nat.add_le_add_left (List.length_filter_le _ _) _
  have spent (t₀ : K) (h₀ : t₀ ≤ now) :
      ((between t₀ now (times ++ [now])).length : K) + credit' ≤ cap + rate * (now - t₀) := by
    have grants : ((between t₀ now (times ++ [now])).length : K) ≤
        (between t₀ now times).length + 1 := by exact_mod_cast more t₀ now
    have := W.spent t₀ h₀
    linarith
  refine ⟨past, by linarith [W.capped], nonneg, spent, fun t₀ t₁ h₁ => ?_⟩
  by_cases inside : t₀ ≤ now ∧ now ≤ t₁
  · rw [between_eq_of_past past inside.2]
    have longer := mul_le_mul_of_nonneg_left (sub_le_sub_right inside.2 t₀) positive
    have := spent t₀ inside.1
    linarith
  · have same : between t₀ t₁ (times ++ [now]) = between t₀ t₁ times := by
      rw [between, List.filter_append]
      simp [between, inside]
    rw [same]
    exact W.windows t₀ t₁ h₁

end Within

end Credit
