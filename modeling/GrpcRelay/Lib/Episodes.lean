import Mathlib.Order.Basic
import Mathlib.Order.Nat

/-!
# Alarms raised once an episode

A signal is read at ticks.  An episode is a maximal run of ticks at which it is active.  An alarm is
raised in an episode when it has lasted long enough and the last alarm is long enough ago, but only
once; `lasted` and `rested` say what is long enough.

The alarm of an episode is raised at its first tick that is due, and at no other (`raises_iff`): an
alarm that comes too early is delayed, and no episode has a part in another.
-/

namespace Episodes

variable {T : Type}

/-- What is kept from tick to tick: when the episode began, when the last alarm was raised, and
whether it was raised in this episode. -/
structure Tracker (T : Type) where
  since : Option T := none
  sent : Option T := none
  reported : Bool := false

/-- One tick: whether the alarm is raised, and the tracker after it. -/
def tick (lasted rested : T → T → Bool) (t : Tracker T) (active : Bool) (now : T) :
    Bool × Tracker T :=
  if active then
    if lasted (t.since.getD now) now && t.sent.all (fun last => rested last now) && !t.reported then
      (true, ⟨some (t.since.getD now), some now, true⟩)
    else (false, { t with since := some (t.since.getD now) })
  else (false, { t with since := none, reported := false })

/-- A signal, with the times of its ticks and what is long enough. -/
structure Signal (T : Type) where
  lasted : T → T → Bool
  rested : T → T → Bool
  active : ℕ → Bool
  time : ℕ → T

namespace Signal

variable (S : Signal T)

/-- The tracker before a tick. -/
def before : ℕ → Tracker T
  | 0 => {}
  | n + 1 => (tick S.lasted S.rested (before n) (S.active n) (S.time n)).2

/-- The alarm is raised at a tick. -/
def Raises (n : ℕ) : Prop :=
  (tick S.lasted S.rested (S.before n) (S.active n) (S.time n)).1 = true

/-- The episode that goes on up to tick `n`, which is not counted, began at tick `i`. -/
structure Began (i n : ℕ) : Prop where
  lt : i < n
  on : ∀ k, i ≤ k → k < n → S.active k = true
  first : ∀ k, k + 1 = i → S.active k = false

/-- The last alarm before tick `n` was raised at tick `m`. -/
structure Last (m n : ℕ) : Prop where
  lt : m < n
  raised : S.Raises m
  none : ∀ k, m < k → k < n → ¬ S.Raises k

/-- The episode that began at tick `i` has lasted long enough, and the last alarm is long enough
ago. -/
structure Due (i n : ℕ) : Prop where
  lasted : S.lasted (S.time i) (S.time n) = true
  rested : ∀ m, S.Last m n → S.rested (S.time m) (S.time n) = true

variable {S} {i j m n : ℕ}

/-! ## Episodes -/

namespace Began

theorem unique (h : S.Began i n) (h' : S.Began j n) : i = j := by
  have le {i j : ℕ} (h : S.Began i n) (h' : S.Began j n) : i ≤ j := by
    by_contra less
    obtain ⟨k, rfl⟩ : ∃ k, i = k + 1 := ⟨i - 1, by omega⟩
    have off := h.first k rfl
    rw [h'.on k (by omega) (by have := h.lt; omega)] at off
    cases off
  exact Nat.le_antisymm (le h h') (le h' h)

theorem active (h : S.Began i (n + 1)) : S.active n = true :=
  h.on n (Nat.le_of_lt_succ h.lt) (Nat.lt_succ_self n)

theorem shorten (h : S.Began i n) (lt : i < m) (le : m ≤ n) : S.Began i m :=
  ⟨lt, fun k hk hm => h.on k hk (lt_of_lt_of_le hm le), h.first⟩

theorem extend (h : S.Began i n) (on : S.active n = true) : S.Began i (n + 1) := by
  refine ⟨Nat.lt_succ_of_lt h.lt, fun k hk hn => ?_, h.first⟩
  rcases Nat.lt_succ_iff_lt_or_eq.1 hn with lt | rfl
  · exact h.on k hk lt
  · exact on

end Began

theorem not_began (off : S.active n = false) (i : ℕ) : ¬ S.Began i (n + 1) := by
  intro began
  rw [began.active] at off
  cases off

/-- An active tick belongs to an episode. -/
theorem exists_began (on : S.active n = true) : ∃ i, S.Began i (n + 1) := by
  induction n with
  | zero =>
    refine ⟨0, Nat.one_pos, fun k _ hk => ?_, fun k hk => (by cases hk)⟩
    obtain rfl : k = 0 := by omega
    exact on
  | succ n ih =>
    cases h : S.active n with
    | true =>
      obtain ⟨i, began⟩ := ih h
      exact ⟨i, began.extend on⟩
    | false =>
      refine ⟨n + 1, Nat.lt_succ_self _, fun k hk hn => ?_, fun k hk => ?_⟩
      · obtain rfl : k = n + 1 := by omega
        exact on
      · obtain rfl : k = n := by omega
        exact h

/-- If no episode goes on to an active tick, one begins there. -/
theorem began_of_none (none : ∀ i, ¬ S.Began i n) (on : S.active n = true) :
    S.Began n (n + 1) := by
  obtain ⟨i, began⟩ := exists_began on
  have le : i ≤ n := Nat.lt_succ_iff.1 began.lt
  rcases le.eq_or_lt with rfl | lt
  · exact began
  · exact absurd (began.shorten lt (Nat.le_succ n)) (none i)

/-! ## The tracker -/

/-- What the tracker says before tick `n`. -/
structure Tracks (S : Signal T) (n : ℕ) (t : Tracker T) : Prop where
  since : ∀ v, t.since = some v ↔ ∃ i, S.Began i n ∧ S.time i = v
  sent : ∀ v, t.sent = some v ↔ ∃ m, S.Last m n ∧ S.time m = v
  reported : t.reported = true ↔ ∃ i k, S.Began i n ∧ i ≤ k ∧ k < n ∧ S.Raises k

theorem tracks_zero : Tracks S 0 (S.before 0) where
  since v := by
    refine iff_of_false (by simp [before]) ?_
    rintro ⟨i, began, -⟩
    exact absurd began.lt (Nat.not_lt_zero _)
  sent v := by
    refine iff_of_false (by simp [before]) ?_
    rintro ⟨m, last, -⟩
    exact absurd last.lt (Nat.not_lt_zero _)
  reported := by
    refine iff_of_false (by simp [before]) ?_
    rintro ⟨i, k, began, -⟩
    exact absurd began.lt (Nat.not_lt_zero _)

namespace Tracks

variable {t : Tracker T}

/-- The episode of an active tick began when the tracker says. -/
theorem began (tracks : Tracks S n t) (on : S.active n = true) :
    ∃ i, S.Began i (n + 1) ∧ t.since.getD (S.time n) = S.time i := by
  cases since : t.since with
  | some v =>
    obtain ⟨i, began, rfl⟩ := (tracks.since v).1 since
    exact ⟨i, began.extend on, rfl⟩
  | none =>
    refine ⟨n, began_of_none (fun i began => ?_) on, rfl⟩
    rw [(tracks.since _).2 ⟨i, began, rfl⟩] at since
    cases since

/-- The last alarm was raised when the tracker says. -/
theorem rested (tracks : Tracks S n t) :
    t.sent.all (fun last => S.rested last (S.time n)) = true ↔
      ∀ m, S.Last m n → S.rested (S.time m) (S.time n) = true := by
  rw [Option.all_eq_true]
  constructor
  · intro all m last
    exact all _ ((tracks.sent _).2 ⟨m, last, rfl⟩)
  · rintro rested v sent
    obtain ⟨m, last, rfl⟩ := (tracks.sent v).1 sent
    exact rested m last

/-- The alarm was raised in the episode of an active tick as the tracker says. -/
theorem unreported (tracks : Tracks S n t) (began : S.Began i (n + 1)) :
    (!t.reported) = true ↔ ∀ k, i ≤ k → k < n → ¬ S.Raises k := by
  rw [Bool.not_eq_true', ← Bool.not_eq_true, tracks.reported]
  constructor
  · intro none k hk hn raised
    exact none ⟨i, k, began.shorten (lt_of_le_of_lt hk hn) (Nat.le_succ n), hk, hn, raised⟩
  · rintro none ⟨j, k, began', hk, hn, raised⟩
    obtain rfl := began.unique (began'.extend began.active)
    exact none k hk hn raised

end Tracks

theorem not_raises (off : S.active n = false) : ¬ S.Raises n := by
  simp [Raises, tick, off]

theorem raises_iff_of_active (on : S.active n = true) :
    S.Raises n ↔ S.lasted ((S.before n).since.getD (S.time n)) (S.time n) = true ∧
      (S.before n).sent.all (fun last => S.rested last (S.time n)) = true ∧
      (!(S.before n).reported) = true := by
  unfold Raises tick
  rw [if_pos on, apply_ite Prod.fst, ← and_assoc, ← Bool.and_eq_true, ← Bool.and_eq_true]
  split_ifs with h
  · exact iff_of_true rfl h
  · exact iff_of_false (by simp) h

theorem before_succ_of_inactive (off : S.active n = false) :
    S.before (n + 1) = { S.before n with since := none, reported := false } := by
  simp [before, tick, off]

theorem before_succ_of_raises (raised : S.Raises n) :
    S.before (n + 1) =
      ⟨some ((S.before n).since.getD (S.time n)), some (S.time n), true⟩ := by
  unfold Raises tick at raised
  rw [before, tick]
  split_ifs at raised ⊢
  rfl

theorem before_succ_of_not_raises (on : S.active n = true) (quiet : ¬ S.Raises n) :
    S.before (n + 1) =
      { S.before n with since := some ((S.before n).since.getD (S.time n)) } := by
  unfold Raises tick at quiet
  rw [if_pos on] at quiet
  rw [before, tick, if_pos on]
  split_ifs at quiet ⊢ with raised
  · simp at quiet
  · rfl

/-- The alarm is raised at a tick of an episode if it is due and was not raised before in it. -/
theorem raises_of_tracks (tracks : Tracks S n (S.before n)) :
    S.Raises n ↔ ∃ i, S.Began i (n + 1) ∧ S.Due i n ∧ ∀ k, i ≤ k → k < n → ¬ S.Raises k := by
  cases on : S.active n with
  | false =>
    refine iff_of_false (not_raises on) ?_
    rintro ⟨i, began, -⟩
    exact not_began on i began
  | true =>
    obtain ⟨i, began, since⟩ := tracks.began on
    rw [raises_iff_of_active on, since, tracks.rested, tracks.unreported began]
    constructor
    · rintro ⟨lasted, rested, none⟩
      exact ⟨i, began, ⟨lasted, rested⟩, none⟩
    · rintro ⟨j, began', due, none⟩
      obtain rfl := began'.unique began
      exact ⟨due.lasted, due.rested, none⟩

theorem last_succ_of_raises (raised : S.Raises n) : S.Last m (n + 1) ↔ m = n := by
  constructor
  · intro last
    by_contra other
    exact last.none n (by have := last.lt; omega) (Nat.lt_succ_self n) raised
  · rintro rfl
    exact ⟨Nat.lt_succ_self m, raised, fun k hk hn => by omega⟩

theorem last_succ_of_not_raises (quiet : ¬ S.Raises n) : S.Last m (n + 1) ↔ S.Last m n := by
  constructor
  · intro last
    refine ⟨?_, last.raised, fun k hk hn => last.none k hk (Nat.lt_succ_of_lt hn)⟩
    rcases Nat.lt_succ_iff_lt_or_eq.1 last.lt with lt | rfl
    · exact lt
    · exact absurd last.raised quiet
  · intro last
    refine ⟨Nat.lt_succ_of_lt last.lt, last.raised, fun k hk hn => ?_⟩
    rcases Nat.lt_succ_iff_lt_or_eq.1 hn with lt | rfl
    · exact last.none k hk lt
    · exact quiet

theorem tracks_succ (tracks : Tracks S n (S.before n)) : Tracks S (n + 1) (S.before (n + 1)) := by
  cases on : S.active n with
  | false =>
    rw [before_succ_of_inactive on]
    refine ⟨fun v => ?_, fun v => ?_, ?_⟩
    · simp [not_began on]
    · simp only [last_succ_of_not_raises (not_raises on)]
      exact tracks.sent v
    · simp [not_began on]
  | true =>
    obtain ⟨i, began, since⟩ := tracks.began on
    have start (v : T) : some (S.time i) = some v ↔ ∃ j, S.Began j (n + 1) ∧ S.time j = v := by
      constructor
      · intro h
        exact ⟨i, began, Option.some.inj h⟩
      · rintro ⟨j, began', rfl⟩
        rw [began'.unique began]
    by_cases raised : S.Raises n
    · rw [before_succ_of_raises raised, since]
      refine ⟨start, fun v => ?_, ?_⟩
      · simp only [last_succ_of_raises raised, exists_eq_left, Option.some.injEq]
      · refine iff_of_true rfl ⟨i, n, began, ?_, Nat.lt_succ_self n, raised⟩
        exact Nat.lt_succ_iff.1 began.lt
    · rw [before_succ_of_not_raises on raised, since]
      refine ⟨start, fun v => ?_, ?_⟩
      · simp only [last_succ_of_not_raises raised]
        exact tracks.sent v
      · rw [tracks.reported]
        constructor
        · rintro ⟨j, k, began', hk, hn, at_k⟩
          exact ⟨j, k, began'.extend on, hk, Nat.lt_succ_of_lt hn, at_k⟩
        · rintro ⟨j, k, began', hk, hn, at_k⟩
          have lt : k < n := by
            rcases Nat.lt_succ_iff_lt_or_eq.1 hn with lt | rfl
            · exact lt
            · exact absurd at_k raised
          exact ⟨j, k, began'.shorten (lt_of_le_of_lt hk lt) (Nat.le_succ n), hk, lt, at_k⟩

theorem tracks (S : Signal T) (n : ℕ) : Tracks S n (S.before n) := by
  induction n with
  | zero => exact tracks_zero
  | succ n ih => exact tracks_succ ih

/-- The alarm is raised exactly at the first tick of an episode that is due. -/
theorem raises_iff (S : Signal T) (n : ℕ) :
    S.Raises n ↔ ∃ i, S.Began i (n + 1) ∧ S.Due i n ∧ ∀ k, i ≤ k → k < n → ¬ S.Due i k := by
  induction n using Nat.strong_induction_on with
  | _ n ih =>
    rw [raises_of_tracks (tracks S n)]
    refine exists_congr fun i => and_congr_right fun began => and_congr_right fun _ => ?_
    have inside {k : ℕ} (hk : i ≤ k) (hn : k < n) : S.Began i (k + 1) :=
      began.shorten (Nat.lt_succ_of_le hk) (Nat.succ_le_succ hn.le)
    constructor
    · -- The first tick that is due would have raised the alarm.
      intro none k hk hn due
      induction k using Nat.strong_induction_on with
      | _ k earlier =>
        refine none k hk hn ((ih k hn).2 ⟨i, inside hk hn, due, fun j hj hjk dueJ => ?_⟩)
        exact earlier j hjk hj (hjk.trans hn) dueJ
    · intro none k hk hn raised
      obtain ⟨j, began', due, -⟩ := (ih k hn).1 raised
      obtain rfl := began'.unique (inside hk hn)
      exact none k hk hn due

end Signal

end Episodes
