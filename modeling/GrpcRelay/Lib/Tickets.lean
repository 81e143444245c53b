import Mathlib.Data.List.Nodup
import Mathlib.Data.List.Range
import Mathlib.Data.Nat.ModEq
import Mathlib.Logic.Equiv.Basic

/-!
# Tickets

Ids that are made of a fixed text and a counter.  The counter starts at 1 and wraps around at
`size`, so the first `size` tickets differ and the next one repeats the first.
-/

namespace Tickets

variable {pre : String} {size : ℕ}

/-- The ticket with a number. -/
def ticket (pre : String) (k : ℕ) : String := pre ++ toString k

theorem ticket_inj {j k : ℕ} : ticket pre j = ticket pre k ↔ j = k := by
  refine ⟨fun h => ?_, fun h => by rw [h]⟩
  have digits : Nat.toDigits 10 j = Nat.toDigits 10 k := by
    rw [← Nat.toList_repr, ← Nat.toList_repr]
    exact congrArg String.toList ((String.append_right_inj pre).1 h)
  rw [← Nat.ofDigitChars_ten_toDigits (n := j), digits, Nat.ofDigitChars_ten_toDigits]

/-- Any ids that differ can be renamed to any others that differ, and all the rest left alone. -/
theorem exists_perm {α : Type} [DecidableEq α] :
    ∀ {l l' : List α}, l.Nodup → l'.Nodup → l.length = l'.length →
      ∃ ρ : Equiv.Perm α, l.map ρ = l' ∧ ∀ x, x ∉ l → x ∉ l' → ρ x = x
  | [], [], _, _, _ => ⟨Equiv.refl α, rfl, fun _ _ _ => rfl⟩
  | [], _ :: _, _, _, h | _ :: _, [], _, _, h => by cases h
  | a :: l, b :: l', nodup, nodup', h => by
    obtain ⟨ha, nodup⟩ := List.nodup_cons.1 nodup
    obtain ⟨hb, nodup'⟩ := List.nodup_cons.1 nodup'
    obtain ⟨ρ, hρ, rest⟩ := exists_perm nodup nodup' (Nat.succ.inj h)
    -- Exchange the name of `a` with `b`; the others are neither.
    refine ⟨ρ.trans (Equiv.swap (ρ a) b), ?_, fun x hx hx' => ?_⟩
    · rw [List.map_cons, Equiv.trans_apply, Equiv.swap_apply_left]
      refine congrArg (b :: ·) ((List.map_congr_left fun x hx => ?_).trans hρ)
      rw [Equiv.trans_apply, Equiv.swap_apply_of_ne_of_ne]
      · exact fun same => ha (ρ.injective same ▸ hx)
      · rintro rfl
        exact hb (hρ ▸ List.mem_map_of_mem hx)
    · obtain ⟨hxa, hx⟩ := not_or.1 (fun h => hx (List.mem_cons.2 h))
      obtain ⟨hxb, hx'⟩ := not_or.1 (fun h => hx' (List.mem_cons.2 h))
      rw [Equiv.trans_apply, Equiv.swap_apply_of_ne_of_ne, rest x hx hx']
      · exact fun same => hxa (ρ.injective same)
      · rwa [rest x hx hx']

/-- The first `n` tickets. -/
def drawn (pre : String) (size n : ℕ) : List String :=
  (List.range n).map fun k => ticket pre ((k + 1) % size)

theorem drawn_succ (pre : String) (size n : ℕ) :
    drawn pre size (n + 1) = drawn pre size n ++ [ticket pre ((n + 1) % size)] := by
  rw [drawn, List.range_succ, List.map_append]
  rfl

theorem length_drawn (pre : String) (size n : ℕ) : (drawn pre size n).length = n := by
  rw [drawn, List.length_map, List.length_range]

theorem drawn_subset {n n' : ℕ} (h : n ≤ n') : drawn pre size n ⊆ drawn pre size n' :=
  List.map_subset _ fun _ hk => List.mem_range.2 ((List.mem_range.1 hk).trans_le h)

/-- Numbers that differ by less than `size` leave different remainders. -/
theorem add_one_mod_injOn {j k : ℕ} (hj : j < size) (hk : k < size)
    (h : (j + 1) % size = (k + 1) % size) : j = k := by
  have hmod : j ≡ k [MOD size] := Nat.ModEq.add_right_cancel' 1 h
  rwa [Nat.ModEq, Nat.mod_eq_of_lt hj, Nat.mod_eq_of_lt hk] at hmod

/-- The first `size` tickets differ. -/
theorem nodup_drawn {n : ℕ} (h : n ≤ size) : (drawn pre size n).Nodup := by
  refine List.nodup_range.map_on ?_
  intro j hj k hk eq
  rw [List.mem_range] at hj hk
  exact add_one_mod_injOn (hj.trans_le h) (hk.trans_le h) (ticket_inj.1 eq)

/-- The ticket after the first `size` repeats the first. -/
theorem not_nodup_drawn (positive : 0 < size) : ¬ (drawn pre size (size + 1)).Nodup := by
  intro nodup
  rw [drawn_succ, List.nodup_append] at nodup
  refine nodup.2.2 (ticket pre ((size + 1) % size)) ?_ _ (by simp) rfl
  exact List.mem_map.2 ⟨0, List.mem_range.2 positive, by simp⟩

end Tickets
