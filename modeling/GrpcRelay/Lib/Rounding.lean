import GrpcRelay.Lib.Float64
import Mathlib.Algebra.Order.Field.Power
import Mathlib.Tactic.Linarith
import Mathlib.Tactic.Ring

/-!
# Rounding

Floating point arithmetic by the values of the numbers: every operation is the exact one, rounded.
`Rounding` says what the proofs about such arithmetic use: larger numbers are not rounded to smaller
ones, and small integers are not rounded at all.  `binary64` rounds to the nearest number of that
format, ties to even; the exponent has no upper bound, so it agrees with `ofRat` as long as this
does not overflow.
-/

namespace Float64

/-- A way to round rational numbers. -/
structure Rounding where
  round : ℚ → ℚ
  mono : Monotone round
  round_round (q : ℚ) : round (round q) = round q
  round_natCast {n : ℕ} (small : n ≤ 2 ^ 53) : round n = n

namespace Rounding

variable (R : Rounding)

theorem round_zero : R.round 0 = 0 := by
  have zero := R.round_natCast (Nat.zero_le (2 ^ 53))
  rwa [Nat.cast_zero] at zero

theorem round_one : R.round 1 = 1 := by
  have one := R.round_natCast (n := 1) (by norm_num)
  rwa [Nat.cast_one] at one

theorem round_nonneg {q : ℚ} (h : 0 ≤ q) : 0 ≤ R.round q :=
  R.round_zero ▸ R.mono h

theorem one_le_round {q : ℚ} (h : 1 ≤ q) : 1 ≤ R.round q :=
  R.round_one ▸ R.mono h

/-- No rounding: exact arithmetic. -/
def exact : Rounding where
  round := id
  mono := monotone_id
  round_round _ := rfl
  round_natCast _ := rfl

end Rounding

/-! ## The nearest integer -/

theorem roundHalfEven_intCast (n : ℤ) : roundHalfEven n = n := by
  simp [roundHalfEven]

theorem floor_le_roundHalfEven (q : ℚ) : ⌊q⌋ ≤ roundHalfEven q := by
  unfold roundHalfEven
  split_ifs <;> omega

theorem roundHalfEven_le (q : ℚ) : roundHalfEven q ≤ ⌊q⌋ + 1 := by
  unfold roundHalfEven
  split_ifs <;> omega

theorem roundHalfEven_mono {p q : ℚ} (h : p ≤ q) : roundHalfEven p ≤ roundHalfEven q := by
  rcases (Int.floor_mono h).lt_or_eq with less | same
  · exact (roundHalfEven_le p).trans (less.trans_le (floor_le_roundHalfEven q))
  · unfold roundHalfEven
    rw [same]
    split_ifs <;> first | omega | (exfalso; linarith)

theorem roundHalfEven_le_of_le {q : ℚ} {n : ℤ} (h : q ≤ n) : roundHalfEven q ≤ n :=
  roundHalfEven_intCast n ▸ roundHalfEven_mono h

theorem le_roundHalfEven_of_le {q : ℚ} {n : ℤ} (h : (n : ℚ) ≤ q) : n ≤ roundHalfEven q :=
  roundHalfEven_intCast n ▸ roundHalfEven_mono h

/-! ## The nearest number -/

/-- The exponent of the numbers around a rational. -/
def unit (q : ℚ) : ℤ := max (Int.log 2 |q| - 52) (-1074)

/-- The value of the nearest number, ties to even. -/
def nearest (q : ℚ) : ℚ := roundHalfEven (q / 2 ^ unit q) * 2 ^ unit q

theorem nearest_le {p q : ℚ} {n : ℤ} (h : q ≤ n * 2 ^ unit q) (le : n * 2 ^ unit q ≤ p) :
    nearest q ≤ p := by
  have positive : (0 : ℚ) < 2 ^ unit q := zpow_pos two_pos _
  refine le_trans ?_ le
  refine mul_le_mul_of_nonneg_right ?_ positive.le
  exact_mod_cast roundHalfEven_le_of_le ((div_le_iff₀ positive).2 h)

theorem le_nearest {p q : ℚ} {n : ℤ} (h : n * 2 ^ unit q ≤ q) (le : p ≤ n * 2 ^ unit q) :
    p ≤ nearest q := by
  have positive : (0 : ℚ) < 2 ^ unit q := zpow_pos two_pos _
  refine le_trans le ?_
  refine mul_le_mul_of_nonneg_right ?_ positive.le
  exact_mod_cast le_roundHalfEven_of_le ((le_div_iff₀ positive).2 h)

/-- A power of two from the unit on is a multiple of it. -/
theorem exists_mul_unit {q : ℚ} {e : ℤ} (h : unit q ≤ e) :
    ∃ n : ℤ, (2 : ℚ) ^ e = n * 2 ^ unit q := by
  obtain ⟨k, hk⟩ := Int.eq_ofNat_of_zero_le (sub_nonneg.2 h)
  refine ⟨2 ^ k, ?_⟩
  rw [Int.cast_pow, Int.cast_ofNat, ← zpow_natCast, ← zpow_add₀ two_ne_zero]
  congr 1
  omega

theorem abs_lt_unit (q : ℚ) : |q| < 2 ^ (unit q + 53) := by
  have below : |q| < 2 ^ (Int.log 2 |q| + 1) := Int.lt_zpow_succ_log_self one_lt_two _
  refine below.trans_le (zpow_le_zpow_right₀ one_le_two ?_)
  have := le_max_left (Int.log 2 |q| - 52) (-1074)
  unfold unit
  omega

/-- A number that is a multiple of its unit is not rounded. -/
theorem nearest_of_multiple {q : ℚ} {n : ℤ} (h : q = n * 2 ^ unit q) : nearest q = q := by
  have positive : (0 : ℚ) < 2 ^ unit q := zpow_pos two_pos _
  have quotient : q / 2 ^ unit q = n := (div_eq_iff positive.ne').2 h
  rw [nearest, quotient, roundHalfEven_intCast, ← h]

@[simp] theorem nearest_zero : nearest 0 = 0 :=
  nearest_of_multiple (n := 0) (by simp)

theorem roundHalfEven_neg (q : ℚ) : roundHalfEven (-q) = -roundHalfEven q := by
  by_cases whole : (⌊q⌋ : ℚ) = q
  · rw [← whole, roundHalfEven_intCast, ← Int.cast_neg, roundHalfEven_intCast]
  · have below : (⌊q⌋ : ℚ) < q := (Int.floor_le q).lt_of_ne whole
    have floor : ⌊-q⌋ = -⌊q⌋ - 1 := by
      rw [Int.floor_eq_iff]
      push_cast
      constructor <;> linarith [Int.lt_floor_add_one q]
    unfold roundHalfEven
    rw [floor]
    push_cast
    split_ifs <;> first | omega | (exfalso; linarith)

theorem nearest_neg (q : ℚ) : nearest (-q) = -nearest q := by
  have same : unit (-q) = unit q := by rw [unit, abs_neg, unit]
  rw [nearest, nearest, same, neg_div, roundHalfEven_neg, Int.cast_neg, neg_mul]

theorem nearest_nonneg {q : ℚ} (h : 0 ≤ q) : 0 ≤ nearest q :=
  le_nearest (n := 0) (by simpa using h) (by simp)

/-- Of two positive numbers with different units a power of two is between, which is a multiple of
both units. -/
theorem nearest_le_nearest {p q : ℚ} (positive : 0 < p) (h : p ≤ q) : nearest p ≤ nearest q := by
  have positive' : 0 < q := positive.trans_le h
  have logs : Int.log 2 |p| ≤ Int.log 2 |q| := by
    rw [abs_of_pos positive, abs_of_pos positive']
    exact Int.log_mono_right positive h
  rcases eq_or_ne (unit p) (unit q) with same | different
  · rw [nearest, nearest, same]
    refine mul_le_mul_of_nonneg_right ?_ (zpow_nonneg zero_le_two _)
    exact_mod_cast roundHalfEven_mono (div_le_div_of_nonneg_right h (zpow_nonneg zero_le_two _))
  · have large : unit q = Int.log 2 |q| - 52 ∧ Int.log 2 |p| < Int.log 2 |q| ∧
        unit p ≤ unit q + 52 := by
      unfold unit at different ⊢
      omega
    obtain ⟨unit_eq, less, near⟩ := large
    have below : p ≤ 2 ^ (unit q + 52) := by
      rw [← abs_of_pos positive]
      refine ((Int.lt_zpow_iff_log_lt one_lt_two (abs_pos.2 positive.ne')).2 ?_).le
      omega
    have above : (2 : ℚ) ^ (unit q + 52) ≤ q := by
      rw [unit_eq, sub_add_cancel]
      conv_rhs => rw [← abs_of_pos positive']
      exact Int.zpow_log_le_self one_lt_two (abs_pos.2 positive'.ne')
    obtain ⟨n, hn⟩ := exists_mul_unit near
    obtain ⟨m, hm⟩ := exists_mul_unit (q := q) (e := unit q + 52) (by omega)
    exact (nearest_le (hn ▸ below) hn.ge).trans (le_nearest (hm ▸ above) hm.le)

theorem nearest_mono : Monotone nearest := by
  intro p q h
  rcases lt_trichotomy p 0 with negative | rfl | positive
  · rcases le_or_gt 0 q with nonneg | negative'
    · have below : nearest p ≤ 0 := by
        rw [← neg_neg p, nearest_neg]
        exact neg_nonpos.2 (nearest_nonneg (neg_nonneg.2 negative.le))
      exact below.trans (nearest_nonneg nonneg)
    · have mirrored := nearest_le_nearest (neg_pos.2 negative') (neg_le_neg h)
      rw [nearest_neg, nearest_neg] at mirrored
      exact neg_le_neg_iff.1 mirrored
  · rw [nearest_zero]
    exact nearest_nonneg h
  · exact nearest_le_nearest positive h

/-! ## The numbers that are not rounded -/

theorem nearest_of_lt {n u : ℤ} (small : |n| < 2 ^ 53) (normal : -1074 ≤ u) :
    nearest (n * 2 ^ u) = n * 2 ^ u := by
  rcases eq_or_ne n 0 with rfl | nonzero
  · simp
  have nonzero' : (n : ℚ) * 2 ^ u ≠ 0 :=
    mul_ne_zero (Int.cast_ne_zero.2 nonzero) (zpow_ne_zero _ two_ne_zero)
  have below : |(n : ℚ) * 2 ^ u| < 2 ^ (53 + u) := by
    rw [abs_mul, abs_of_pos (zpow_pos (two_pos : (0 : ℚ) < 2) u), zpow_add₀ two_ne_zero]
    refine mul_lt_mul_of_pos_right ?_ (zpow_pos two_pos _)
    exact_mod_cast small
  have log := (Int.lt_zpow_iff_log_lt one_lt_two (abs_pos.2 nonzero')).1 below
  have coarse : unit (n * 2 ^ u) ≤ u := by
    unfold unit
    exact max_le (by omega) normal
  obtain ⟨k, hk⟩ := exists_mul_unit coarse
  refine nearest_of_multiple (n := n * k) ?_
  rw [Int.cast_mul, mul_assoc, ← hk]

theorem nearest_of_le {n u : ℤ} (small : |n| ≤ 2 ^ 53) (normal : -1074 ≤ u) :
    nearest (n * 2 ^ u) = n * 2 ^ u := by
  rcases small.lt_or_eq with less | largest
  · exact nearest_of_lt less normal
  · obtain ⟨m, rfl, half⟩ : ∃ m : ℤ, n = m * 2 ∧ |m| < 2 ^ 53 := by
      rcases abs_choice n with pos | neg
      · exact ⟨2 ^ 52, by omega, by norm_num⟩
      · exact ⟨-2 ^ 52, by omega, by norm_num⟩
    have double : ((m * 2 : ℤ) : ℚ) * 2 ^ u = m * 2 ^ (u + 1) := by
      rw [zpow_add₀ two_ne_zero, zpow_one]
      push_cast
      ring
    rw [double]
    exact nearest_of_lt half (by omega)

theorem abs_roundHalfEven_le (q : ℚ) : |roundHalfEven (q / 2 ^ unit q)| ≤ 2 ^ 53 := by
  have positive : (0 : ℚ) < 2 ^ unit q := zpow_pos two_pos _
  have bound := abs_lt_unit q
  rw [zpow_add₀ two_ne_zero, abs_lt] at bound
  rw [abs_le]
  constructor
  · refine le_roundHalfEven_of_le ((le_div_iff₀ positive).2 ?_)
    push_cast
    norm_num at bound ⊢
    linarith
  · refine roundHalfEven_le_of_le ((div_le_iff₀ positive).2 ?_)
    push_cast
    norm_num at bound ⊢
    linarith

theorem nearest_nearest (q : ℚ) : nearest (nearest q) = nearest q :=
  nearest_of_le (abs_roundHalfEven_le q) (le_max_right _ _)

theorem nearest_natCast {n : ℕ} (small : n ≤ 2 ^ 53) : nearest n = n := by
  have fixed := nearest_of_le (n := n) (u := 0) (by rw [Nat.abs_cast]; exact_mod_cast small)
    (by norm_num)
  simpa using fixed

/-- Rounding to the nearest number of the format binary64, ties to even. -/
def Rounding.binary64 : Rounding where
  round := nearest
  mono := nearest_mono
  round_round := nearest_nearest
  round_natCast := nearest_natCast

/-- `ofRat` gives the nearest number. -/
theorem ofRat_value {q : ℚ} {x : Finite} (h : ofRat q = .finite x) : x.value = nearest q := by
  unfold ofRat at h
  dsimp only at h
  split_ifs at h with fits carried
  · cases h
    rfl
  · cases h
    -- The significand has been rounded up to `2 ^ 53`.
    have even : roundHalfEven (q / 2 ^ unit q) / 2 * 2 = roundHalfEven (q / 2 ^ unit q) := by
      have bound := abs_le.1 (abs_roundHalfEven_le q)
      unfold unit at bound ⊢
      omega
    unfold Finite.value nearest
    conv_rhs => rw [← even]
    rw [zpow_add₀ two_ne_zero, zpow_one, Int.cast_mul]
    push_cast
    unfold unit
    ring

end Float64
