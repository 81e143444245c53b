import Mathlib.Algebra.Order.Field.Basic
import Mathlib.Data.List.TakeWhile
import Mathlib.Tactic.Linarith

/-!
# Sliding windows

A queue of the times at which attempts were accepted.  An attempt first drops from the front of the
queue what has left the window, and is accepted if fewer than `limit` times remain.

The queue forgets only what has left the window (`Tracks`), so an attempt is accepted exactly if
fewer than `limit` of all attempts were accepted in the window that ends with it (`attempt_iff`),
and no window has more than `limit` of them.
-/

namespace SlidingWindow

variable {K : Type} [Field K] [LinearOrder K]
  {limit : ℕ} {width now now' : K} {accepted queue : List K}

/-- One attempt: whether it is accepted, and the queue after it. -/
def attempt (limit : ℕ) (width : K) (queue : List K) (now : K) : Bool × List K :=
  let queue := queue.dropWhile fun t => t + width ≤ now
  if limit ≤ queue.length then (false, queue) else (true, queue ++ [now])

/-- The times after `t₀` and up to `t₁`. -/
def after (t₀ t₁ : K) (times : List K) : List K := times.filter fun t => t₀ < t ∧ t ≤ t₁

/-- The times from `t₀` on and before `t₁`. -/
def before (t₀ t₁ : K) (times : List K) : List K := times.filter fun t => t₀ ≤ t ∧ t < t₁

omit [Field K] in
theorem after_append (t₀ t₁ : K) (times times' : List K) :
    after t₀ t₁ (times ++ times') = after t₀ t₁ times ++ after t₀ t₁ times' :=
  List.filter_append ..

/-- The queue holds the accepted attempts but for some that have left the window. -/
structure Tracks (limit : ℕ) (width now : K) (accepted queue : List K) : Prop where
  sorted : accepted.Pairwise (· ≤ ·)
  past : ∀ t ∈ accepted, t ≤ now
  kept : ∃ gone, accepted = gone ++ queue ∧ ∀ t ∈ gone, t + width ≤ now
  windows : ∀ t, (after t (t + width) accepted).length ≤ limit
  windows' : ∀ t, (before t (t + width) accepted).length ≤ limit

namespace Tracks

theorem start (limit : ℕ) (width now : K) : Tracks limit width now [] [] :=
  ⟨.nil, by simp, ⟨[], rfl, by simp⟩, fun _ => Nat.zero_le _, fun _ => Nat.zero_le _⟩

theorem later (T : Tracks limit width now accepted queue) (h : now ≤ now') :
    Tracks limit width now' accepted queue := by
  obtain ⟨gone, eq, expired⟩ := T.kept
  refine ⟨T.sorted, fun t mem => (T.past t mem).trans h, ⟨gone, eq, ?_⟩, T.windows, T.windows'⟩
  exact fun t mem => (expired t mem).trans h

theorem queue_past (T : Tracks limit width now accepted queue) : ∀ t ∈ queue, t ≤ now := by
  obtain ⟨gone, rfl, -⟩ := T.kept
  exact fun t mem => T.past t (List.mem_append_right _ mem)

/-- What is dropped from the queue has left the window. -/
theorem kept_dropWhile (T : Tracks limit width now accepted queue) :
    ∃ gone, accepted = gone ++ (queue.dropWhile fun t => t + width ≤ now) ∧
      ∀ t ∈ gone, t + width ≤ now := by
  obtain ⟨gone, rfl, expired⟩ := T.kept
  refine ⟨gone ++ queue.takeWhile fun t => t + width ≤ now, ?_, fun t mem => ?_⟩
  · rw [List.append_assoc, List.takeWhile_append_dropWhile]
  · rcases List.mem_append.1 mem with mem | mem
    · exact expired t mem
    · simpa using List.mem_takeWhile_imp mem

/-- A new attempt adds one to the windows that it is in, which had room for it. -/
theorem length_filter_concat_le (T : Tracks limit width now accepted queue)
    (room : (after (now - width) now accepted).length < limit) {p : K → Bool}
    (old : (accepted.filter p).length ≤ limit)
    (near : p now = true → ∀ t, p t = true → now - width < t) :
    ((accepted ++ [now]).filter p).length ≤ limit := by
  rw [List.filter_append, List.length_append]
  by_cases inside : p now = true
  · have fewer : (accepted.filter p).length ≤ (after (now - width) now accepted).length := by
      rw [after, ← List.countP_eq_length_filter, ← List.countP_eq_length_filter]
      refine List.countP_mono_left fun t mem h => ?_
      simpa using ⟨near inside t h, T.past t mem⟩
    have one : ([now].filter p).length ≤ 1 := List.length_filter_le ..
    omega
  · rw [List.filter_cons_of_neg inside, List.filter_nil, List.length_nil, add_zero]
    exact old

variable [IsStrictOrderedRing K]

/-- On a sorted queue dropping from the front is a filter. -/
theorem dropWhile_eq_filter {queue : List K} (sorted : queue.Pairwise (· ≤ ·)) :
    (queue.dropWhile fun t => t + width ≤ now) = queue.filter fun t => now < t + width := by
  induction queue with
  | nil => rfl
  | cons t queue ih =>
    obtain ⟨first, sorted⟩ := List.pairwise_cons.1 sorted
    by_cases expired : t + width ≤ now
    · rw [List.dropWhile_cons_of_pos (by simpa using expired),
        List.filter_cons_of_neg (by simpa using expired), ih sorted]
    · rw [List.dropWhile_cons_of_neg (by simpa using expired), eq_comm, List.filter_eq_self]
      intro t' mem
      have := not_le.1 expired
      rcases List.mem_cons.1 mem with rfl | mem
      · simpa using this
      · have := first t' mem
        simp only [decide_eq_true_eq]
        linarith

/-- What remains of the queue are the accepted attempts in the window. -/
theorem dropWhile_eq (T : Tracks limit width now accepted queue) :
    (queue.dropWhile fun t => t + width ≤ now) = after (now - width) now accepted := by
  obtain ⟨gone, rfl, expired⟩ := T.kept
  have old : after (now - width) now gone = [] := by
    refine List.filter_eq_nil_iff.2 fun t mem => ?_
    have := expired t mem
    simp only [decide_eq_true_eq, not_and]
    intro h
    linarith
  have recent : after (now - width) now queue = queue.filter fun t => now < t + width := by
    refine List.filter_congr fun t mem => ?_
    have := T.queue_past t mem
    rw [decide_eq_decide, sub_lt_iff_lt_add]
    exact and_iff_left this
  rw [dropWhile_eq_filter (List.pairwise_append.1 T.sorted).2.1, ← recent, after_append, old,
    List.nil_append]

/-- An attempt is accepted if and only if fewer than `limit` were accepted in the window. -/
theorem attempt_iff (T : Tracks limit width now accepted queue) :
    (SlidingWindow.attempt limit width queue now).1 = true ↔
      (after (now - width) now accepted).length < limit := by
  unfold SlidingWindow.attempt
  rw [T.dropWhile_eq]
  dsimp only
  split_ifs with full
  · exact ⟨fun h => (by cases h), fun h => absurd full (by omega)⟩
  · exact ⟨fun _ => by omega, fun _ => rfl⟩

/-- An attempt is added to a window that had room. -/
theorem add (T : Tracks limit width now accepted queue)
    (room : (after (now - width) now accepted).length < limit) :
    Tracks limit width now (accepted ++ [now])
      ((queue.dropWhile fun t => t + width ≤ now) ++ [now]) := by
  obtain ⟨gone, eq, expired⟩ := T.kept_dropWhile
  refine ⟨?_, ?_, ⟨gone, ?_, expired⟩, fun t => ?_, fun t => ?_⟩
  · exact List.pairwise_append.2 ⟨T.sorted, List.pairwise_singleton _ _, fun t mem t' mem' =>
      List.mem_singleton.1 mem' ▸ T.past t mem⟩
  · intro t mem
    rcases List.mem_append.1 mem with mem | mem
    · exact T.past t mem
    · exact (List.mem_singleton.1 mem).le
  · rw [← List.append_assoc, ← eq]
  · refine T.length_filter_concat_le room (T.windows t) fun inside t' h => ?_
    simp only [decide_eq_true_eq] at inside h
    linarith
  · refine T.length_filter_concat_le room (T.windows' t) fun inside t' h => ?_
    simp only [decide_eq_true_eq] at inside h
    linarith

theorem attempt (T : Tracks limit width now accepted queue) :
    Tracks limit width now
      (accepted ++ if (SlidingWindow.attempt limit width queue now).1 then [now] else [])
      (SlidingWindow.attempt limit width queue now).2 := by
  by_cases ok : (SlidingWindow.attempt limit width queue now).1 = true
  · have added := T.add (T.attempt_iff.1 ok)
    rw [if_pos ok]
    unfold SlidingWindow.attempt at ok ⊢
    dsimp only at ok ⊢
    split_ifs at ok ⊢
    exact added
  · rw [if_neg ok, List.append_nil]
    unfold SlidingWindow.attempt at ok ⊢
    dsimp only at ok ⊢
    split_ifs at ok ⊢
    · exact ⟨T.sorted, T.past, T.kept_dropWhile, T.windows, T.windows'⟩
    · exact absurd rfl ok

end Tracks

end SlidingWindow
