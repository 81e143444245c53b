import Mathlib.Algebra.Order.BigOperators.Group.List
import Mathlib.Algebra.Order.Ring.Nat
import Mathlib.Algebra.Ring.Nat
import Mathlib.Data.List.Chain

/-!
# Windows that rotate

A counter of amounts is kept with the time at which its window started.  A visit that comes `width`
or more after the start begins a new window; then its amount is counted, and it may be accepted only
if the window has not more than `limit` with it.

What is accepted in a window is at most `limit` (`Tallied.segment`).  Windows start at least `width`
apart, so an interval of that length meets two of them at most (`Tallied.interval`).  If nothing but
what is accepted is counted, the total of a window is what was accepted in it (`Exact`).
-/

namespace RotatingWindow

/-- The total and the start of a window. -/
abbrev Window : Type := ℕ × ℕ

variable {width limit now amount : ℕ}

/-- The window in which a visit is counted, before it is. -/
def current (width now : ℕ) : Option Window → Window
  | none => (0, now)
  | some (total, start) => if width ≤ now - start then (0, now) else (total, start)

/-- The visit begins a new window in place of another. -/
def rotates (width now : ℕ) : Option Window → Bool
  | none => false
  | some (_, start) => width ≤ now - start

/-- A visit, with the start of the window in which it was counted. -/
structure Visit where
  now : ℕ
  amount : ℕ
  start : ℕ
  rotated : Bool
  accepted : Bool
  deriving DecidableEq

variable {v : Visit} {visits group : List Visit} {window : Option Window}

/-- What the visits that were accepted amount to. -/
def total (visits : List Visit) : ℕ := ((visits.filter (·.accepted)).map (·.amount)).sum

theorem total_append (visits visits' : List Visit) :
    total (visits ++ visits') = total visits + total visits' := by
  simp [total]

theorem total_singleton (v : Visit) : total [v] = if v.accepted then v.amount else 0 := by
  by_cases h : v.accepted = true <;> simp [total, h]

theorem total_le_of_sublist (h : group.Sublist visits) : total group ≤ total visits :=
  List.Sublist.sum_le_sum ((h.filter _).map _) fun _ _ => Nat.zero_le _

/-- The visits of a list that meet a condition, and the others. -/
theorem total_filter_add (p : Visit → Bool) (visits : List Visit) :
    total (visits.filter p) + total (visits.filter fun v => !p v) = total visits := by
  induction visits with
  | nil => rfl
  | cons v visits ih =>
    have cons (vs : List Visit) : total (v :: vs) = total [v] + total vs := total_append [v] vs
    cases h : p v with
    | true =>
      rw [List.filter_cons_of_pos h, List.filter_cons_of_neg (by simp [h]), cons, cons visits]
      omega
    | false =>
      rw [List.filter_cons_of_neg (by simp [h]), List.filter_cons_of_pos (by simp [h]), cons,
        cons visits]
      omega

/-- What the visits of a window amount to after one more. -/
theorem total_filter_concat (visits : List Visit) (v : Visit) :
    total ((visits ++ [v]).filter (·.start = v.start)) =
      total (visits.filter (·.start = v.start)) + if v.accepted then v.amount else 0 := by
  rw [List.filter_append, total_append, List.filter_cons_of_pos (by simp), List.filter_nil,
    total_singleton]

theorem filter_concat_of_ne {start : ℕ} (visits : List Visit) (other : start ≠ v.start) :
    (visits ++ [v]).filter (·.start = start) = visits.filter (·.start = start) := by
  rw [List.filter_append, List.filter_cons_of_neg (by simp [other.symm]), List.filter_nil,
    List.append_nil]

/-- The visits so far and the window that the last of them was counted in. -/
structure Tallied (width limit : ℕ) (visits : List Visit) (window : Option Window) : Prop where
  first : window = none → visits = []
  last : ∀ total start, window = some (total, start) → ∃ v ∈ visits.getLast?, v.start = start
  inside : ∀ v ∈ visits, v.start ≤ v.now ∧ v.now < v.start + width
  spaced : ∀ v ∈ visits, ∀ w ∈ visits, v.start < w.start → v.start + width ≤ w.start
  newest : ∀ total start, window = some (total, start) → ∀ v ∈ visits, v.start ≤ start
  chained : visits.IsChain fun v w => w.rotated = false → w.start = v.start
  counted : ∀ total' start, window = some (total', start) →
    total (visits.filter (·.start = start)) ≤ total'
  capped : ∀ start, total (visits.filter (·.start = start)) ≤ limit

namespace Tallied

theorem start (width limit : ℕ) : Tallied width limit [] none where
  first _ := rfl
  last _ _ h := by cases h
  inside _ h := by cases h
  spaced _ h := by cases h
  newest _ _ h := by cases h
  chained := .nil
  counted _ _ h := by cases h
  capped _ := Nat.zero_le _

/-- Visits that were counted in one window. -/
theorem total_le (T : Tallied width limit visits window) (h : group.Sublist visits)
    (same : ∀ v ∈ group, ∀ w ∈ group, v.start = w.start) : total group ≤ limit := by
  cases group with
  | nil => exact Nat.zero_le _
  | cons v group =>
    have whole : (v :: group).filter (·.start = v.start) = v :: group :=
      List.filter_eq_self.2 fun w mem => by simpa using same w mem v List.mem_cons_self
    have sub := h.filter (·.start = v.start)
    rw [whole] at sub
    exact (total_le_of_sublist sub).trans (T.capped v.start)

/-- What is accepted from one rotation to the next is at most the limit. -/
theorem segment (T : Tallied width limit visits window) (h : group <:+: visits)
    (between : ∀ v ∈ group.tail, v.rotated = false) : total group ≤ limit := by
  refine T.total_le h.sublist ?_
  have chained := T.chained.infix h
  cases group with
  | nil => simp
  | cons v group =>
    suffices starts : ∀ w ∈ v :: group, w.start = v.start from
      fun w mem w' mem' => (starts w mem).trans (starts w' mem').symm
    clear h
    induction group generalizing v with
    | nil => simp
    | cons w group ih =>
      obtain ⟨step, chained⟩ := List.isChain_cons_cons.1 chained
      have same := step (between w List.mem_cons_self)
      intro x mem
      rcases List.mem_cons.1 mem with rfl | mem
      · rfl
      · rw [ih w (fun x mem => between x (List.mem_cons_of_mem _ mem)) chained x mem, same]

/-- Windows whose starts are less than `width` apart are the same. -/
theorem start_eq (T : Tallied width limit visits window) {v w : Visit} (hv : v ∈ visits)
    (hw : w ∈ visits) (near : v.start < w.start + width) (near' : w.start < v.start + width) :
    v.start = w.start := by
  rcases Nat.lt_trichotomy v.start w.start with less | same | more
  · have := T.spaced v hv w hw less
    omega
  · exact same
  · have := T.spaced w hw v hv more
    omega

/-- What is accepted in an interval of length `width` is at most twice the limit. -/
theorem interval (T : Tallied width limit visits window) (t : ℕ) :
    total (visits.filter fun v => t ≤ v.now ∧ v.now < t + width) ≤ 2 * limit := by
  set group := visits.filter fun v => t ≤ v.now ∧ v.now < t + width with group_eq
  have sub : group.Sublist visits := List.filter_sublist
  have member {v : Visit} (h : v ∈ group) :
      v ∈ visits ∧ t ≤ v.now ∧ v.now < t + width ∧ v.start ≤ v.now ∧ v.now < v.start + width := by
    have mem : v ∈ visits ∧ t ≤ v.now ∧ v.now < t + width := by simpa [group_eq] using h
    exact ⟨mem.1, mem.2.1, mem.2.2, T.inside v mem.1⟩
  -- Two windows that start up to `t` are the same, and so are two that start after it.
  have early : total (group.filter (·.start ≤ t)) ≤ limit := by
    refine T.total_le (List.filter_sublist.trans sub) fun v hv w hw => ?_
    simp only [List.mem_filter, decide_eq_true_eq] at hv hw
    have := member hv.1
    have := member hw.1
    exact T.start_eq (member hv.1).1 (member hw.1).1 (by omega) (by omega)
  have late : total (group.filter fun v => !decide (v.start ≤ t)) ≤ limit := by
    refine T.total_le (List.filter_sublist.trans sub) fun v hv w hw => ?_
    simp only [List.mem_filter, Bool.not_eq_true', decide_eq_false_iff_not] at hv hw
    have := member hv.1
    have := member hw.1
    exact T.start_eq (member hv.1).1 (member hw.1).1 (by omega) (by omega)
  have both := total_filter_add (fun v => v.start ≤ t) group
  omega

/-- The window in which a visit is counted: it is the last one, or later than all by `width`. -/
structure Follows (width now : ℕ) (visits : List Visit) (window : Option Window) : Prop where
  inside : (current width now window).2 ≤ now ∧ now < (current width now window).2 + width
  spaced : ∀ v ∈ visits, v.start = (current width now window).2 ∨
    v.start + width ≤ (current width now window).2
  counted : total (visits.filter (·.start = (current width now window).2)) ≤
    (current width now window).1
  kept : rotates width now window = false →
    ∀ v ∈ visits.getLast?, (current width now window).2 = v.start

theorem follows (T : Tallied width limit visits window) (positive : 0 < width)
    (upto : ∀ v ∈ visits, v.now ≤ now) : Follows width now visits window := by
  cases window with
  | none =>
    obtain rfl := T.first rfl
    exact ⟨⟨le_rfl, Nat.lt_add_of_pos_right positive⟩, by simp, Nat.zero_le _, by simp⟩
  | some w =>
    obtain ⟨tally, start⟩ := w
    obtain ⟨v, hv, started⟩ := T.last tally start rfl
    have mem : v ∈ visits := List.mem_of_mem_getLast? hv
    have past : start ≤ now := started ▸ (T.inside v mem).1.trans (upto v mem)
    have newest := T.newest tally start rfl
    have spaced : ∀ w ∈ visits, w.start = start ∨ w.start + width ≤ start := by
      intro w hw
      rcases Nat.lt_or_eq_of_le (newest w hw) with less | same
      · exact Or.inr (started ▸ T.spaced w hw v mem (started ▸ less))
      · exact Or.inl same
    by_cases rotated : width ≤ now - start
    · have old : ∀ w ∈ visits, w.start + width ≤ now := by
        intro w hw
        have := newest w hw
        omega
      have fresh : visits.filter (·.start = now) = [] := by
        refine List.filter_eq_nil_iff.2 fun w hw => ?_
        have := old w hw
        simp only [decide_eq_true_eq]
        omega
      have next : current width now (some (tally, start)) = (0, now) := if_pos rotated
      refine ⟨?_, ?_, ?_, fun h => absurd rotated (of_decide_eq_false h)⟩
      · rw [next]
        exact ⟨le_rfl, Nat.lt_add_of_pos_right positive⟩
      · rw [next]
        exact fun w hw => Or.inr (old w hw)
      · rw [next, fresh]
        exact le_rfl
    · have next : current width now (some (tally, start)) = (tally, start) := if_neg rotated
      refine ⟨?_, ?_, ?_, fun _ w hw => ?_⟩
      · rw [next]
        exact ⟨past, by omega⟩
      · rw [next]
        exact spaced
      · rw [next]
        exact T.counted tally start rfl
      · rw [next, Option.mem_unique hw hv, started]

/-- A visit is counted; what it makes the total is at most the limit if it is accepted. -/
theorem visit (T : Tallied width limit visits window) (positive : 0 < width)
    (upto : ∀ v ∈ visits, v.now ≤ now) {tally : ℕ} {ok : Bool}
    (grows : (current width now window).1 ≤ tally)
    (fits : ok = true → (current width now window).1 + amount ≤ tally ∧ tally ≤ limit) :
    Tallied width limit (visits ++
      [⟨now, amount, (current width now window).2, rotates width now window, ok⟩])
      (some (tally, (current width now window).2)) := by
  have F := T.follows positive upto
  set start := (current width now window).2
  set v : Visit := ⟨now, amount, start, rotates width now window, ok⟩ with v_eq
  have counted : total ((visits ++ [v]).filter (·.start = v.start)) ≤ tally ∧
      total ((visits ++ [v]).filter (·.start = v.start)) ≤ limit := by
    have old : total (visits.filter (·.start = v.start)) ≤ (current width now window).1 :=
      F.counted
    have capped := T.capped v.start
    rw [total_filter_concat]
    cases ok with
    | false =>
      rw [if_neg (by simp [v_eq])]
      omega
    | true =>
      have := fits rfl
      rw [if_pos rfl, show v.amount = amount from rfl]
      omega
  have older : ∀ w ∈ visits, w.start ≤ v.start := by
    intro w hw
    rcases F.spaced w hw with same | less
    · exact same.le
    · exact le_trans (Nat.le_add_right _ _) less
  refine ⟨by simp, ?_, ?_, ?_, ?_, ?_, ?_, ?_⟩
  · rintro _ _ ⟨⟩
    exact ⟨v, by simp, rfl⟩
  · intro w hw
    rcases List.mem_append.1 hw with hw | hw
    · exact T.inside w hw
    · rw [List.mem_singleton.1 hw]
      exact F.inside
  · intro w hw w' hw' less
    rcases List.mem_append.1 hw with hw | hw <;> rcases List.mem_append.1 hw' with hw' | hw'
    · exact T.spaced w hw w' hw' less
    · rw [List.mem_singleton.1 hw'] at less ⊢
      exact (F.spaced w hw).resolve_left (Nat.ne_of_lt less)
    · rw [List.mem_singleton.1 hw] at less
      have := older w' hw'
      omega
    · rw [List.mem_singleton.1 hw, List.mem_singleton.1 hw'] at less
      omega
  · rintro _ _ ⟨⟩ w hw
    rcases List.mem_append.1 hw with hw | hw
    · exact older w hw
    · rw [List.mem_singleton.1 hw]
  · refine List.isChain_append.2 ⟨T.chained, List.isChain_singleton _, ?_⟩
    intro w hw w' hw' kept
    obtain rfl : v = w' := Option.some.inj hw'
    exact F.kept kept w hw
  · rintro _ _ ⟨⟩
    exact counted.1
  · intro start'
    by_cases same : start' = v.start
    · rw [same]
      exact counted.2
    · rw [filter_concat_of_ne visits same]
      exact T.capped start'

end Tallied

/-! ## Windows that count nothing else -/

/-- The window counts what was accepted in it and nothing else. -/
structure Exact (limit : ℕ) (visits : List Visit) (window : Option Window) : Prop where
  first : window = none → visits = []
  newest : ∀ total start, window = some (total, start) → ∀ v ∈ visits, v.start ≤ start
  counted : ∀ total' start, window = some (total', start) →
    total' = total (visits.filter (·.start = start))
  capped : ∀ total start, window = some (total, start) → total ≤ limit

namespace Exact

theorem start (limit : ℕ) : Exact limit [] none where
  first _ := rfl
  newest _ _ h := by cases h
  counted _ _ h := by cases h
  capped _ _ h := by cases h

/-- So does the window in which the next visit is counted. -/
theorem current (E : Exact limit visits window) (positive : 0 < width) (now : ℕ) :
    (∀ v ∈ visits, v.start ≤ (current width now window).2) ∧
    (current width now window).1 =
      total (visits.filter (·.start = (current width now window).2)) ∧
    (current width now window).1 ≤ limit := by
  cases window with
  | none =>
    obtain rfl := E.first rfl
    exact ⟨by simp, rfl, Nat.zero_le _⟩
  | some w =>
    obtain ⟨tally, start⟩ := w
    have newest := E.newest tally start rfl
    by_cases rotated : width ≤ now - start
    · have next : RotatingWindow.current width now (some (tally, start)) = (0, now) :=
        if_pos rotated
      have fresh : visits.filter (·.start = now) = [] := by
        refine List.filter_eq_nil_iff.2 fun w hw => ?_
        have := newest w hw
        simp only [decide_eq_true_eq]
        omega
      rw [next, fresh]
      refine ⟨fun w hw => ?_, rfl, Nat.zero_le _⟩
      have := newest w hw
      omega
    · have next : RotatingWindow.current width now (some (tally, start)) = (tally, start) :=
        if_neg rotated
      rw [next]
      exact ⟨newest, E.counted tally start rfl, E.capped tally start rfl⟩

/-- A visit is counted exactly if it is accepted. -/
theorem visit (E : Exact limit visits window) (positive : 0 < width) {tally : ℕ} {ok : Bool}
    (counts : tally = (RotatingWindow.current width now window).1 + if ok then amount else 0)
    (fits : tally ≤ limit) :
    Exact limit (visits ++ [⟨now, amount, (RotatingWindow.current width now window).2,
      rotates width now window, ok⟩])
      (some (tally, (RotatingWindow.current width now window).2)) := by
  obtain ⟨newest, counted, -⟩ := E.current positive now
  refine ⟨by simp, ?_, ?_, ?_⟩
  · rintro _ _ ⟨⟩ w hw
    rcases List.mem_append.1 hw with hw | hw
    · exact newest w hw
    · rw [List.mem_singleton.1 hw]
  · rintro _ _ ⟨⟩
    have more := total_filter_concat visits ⟨now, amount,
      (RotatingWindow.current width now window).2, rotates width now window, ok⟩
    rw [more, ← counted]
    exact counts
  · rintro _ _ ⟨⟩
    exact fits

end Exact

end RotatingWindow
