import GrpcRelay.Lib.DashMap
import GrpcRelay.Lib.History
import Mathlib.Logic.Function.Basic

/-!
# Single-flight tables

Concurrent callers that ask for the same key share one pending call.  A table maps each key with a
pending call to a *cell*, an object on the heap that lists the receivers waiting for the answer.

* `join` adds a receiver to the cell of a key, opening a new cell when there is none; its last
  component says whether the caller opened the cell.
* `take` removes the cell of a key from the map and hands it to the caller.
* `complete` sends a value to every receiver of a cell and empties it.

`Run h t` says that `t` is reached by any sequence of these operations whose outcomes are `h`, in
which only cells that were taken are completed, each of them once.  The results below hold of every
run: `Run.openers`, `Run.no_late_join` and `Run.settled`.
-/

namespace SingleFlight

/-- A pending call: the key it was opened under, a tag, and the receivers that wait for it. -/
structure Cell (κ δ : Type) where
  key : κ
  tag : δ
  waiters : List ℕ

/-- The map, the heap of cells and the one-shot channels.  `channel rx` lists the values sent to
the receiver `rx`; `joinedAt rx` is the cell it joined, which no operation reads. -/
structure Table (κ δ ν : Type) where
  entries : DashMap κ ℕ
  cell : ℕ → Option (Cell κ δ)
  cells : ℕ
  channel : ℕ → List ν
  receivers : ℕ
  joinedAt : ℕ → ℕ

/-- What an operation did: a receiver joined a cell, a cell was taken, a cell was completed. -/
inductive Outcome (κ ν : Type) where
  | joined (key : κ) (cell rx : ℕ) (new : Bool)
  | taken (key : κ) (cell : ℕ)
  | completed (cell : ℕ) (value : ν)
  deriving DecidableEq

variable {κ δ ν : Type} [DecidableEq κ]

namespace Table

/-- The table before any call. -/
def empty : Table κ δ ν where
  entries := ∅
  cell := fun _ => none
  cells := 0
  channel := fun _ => []
  receivers := 0
  joinedAt := fun _ => 0

/-- The receivers that wait in a cell. -/
def waiters (t : Table κ δ ν) (a : ℕ) : List ℕ :=
  match t.cell a with
  | some c => c.waiters
  | none => []

/-- Create a channel and push its sender into a cell. -/
def pushWaiter (t : Table κ δ ν) (a : ℕ) : Table κ δ ν :=
  { t with
    cell := Function.update t.cell a
      ((t.cell a).map fun c => { c with waiters := c.waiters ++ [t.receivers] })
    receivers := t.receivers + 1
    joinedAt := Function.update t.joinedAt t.receivers a }

/-- Open a cell without receivers. -/
def openCell (t : Table κ δ ν) (k : κ) (d : δ) : Table κ δ ν :=
  { t with
    entries := t.entries.insert k t.cells
    cell := Function.update t.cell t.cells (some ⟨k, d, []⟩)
    cells := t.cells + 1 }

/-- Join the pending call of `k`, opening it when there is none.  Returns the table, the cell, the
receiver and whether the call is new. -/
def join (t : Table κ δ ν) (k : κ) (d : δ) : Table κ δ ν × ℕ × ℕ × Bool :=
  match t.entries.lookup k with
  | some a => (t.pushWaiter a, a, t.receivers, false)
  | none => ((t.openCell k d).pushWaiter t.cells, t.cells, t.receivers, true)

/-- Remove the cell of `k` from the map. -/
def take (t : Table κ δ ν) (k : κ) : Table κ δ ν × Option ℕ :=
  match t.entries.lookup k with
  | some a => ({ t with entries := t.entries.erase k }, some a)
  | none => (t, none)

/-- Send `v` to each receiver of the cell `a`, once for each time it is listed, and empty it. -/
def complete (t : Table κ δ ν) (a : ℕ) (v : ν) : Table κ δ ν :=
  { t with
    cell := Function.update t.cell a ((t.cell a).map fun c => { c with waiters := [] })
    channel := fun rx => t.channel rx ++ List.replicate ((t.waiters a).count rx) v }

/-- The receiver can get no answer any more: nothing was sent and no cell holds its sender. -/
def closed (t : Table κ δ ν) (rx : ℕ) : Bool :=
  (t.channel rx).isEmpty && (List.range t.cells).all fun a => !(t.waiters a).contains rx

/-! ### What the operations do -/

omit [DecidableEq κ] in
theorem waiters_pushWaiter (t : Table κ δ ν) (a b : ℕ) :
    (t.pushWaiter a).waiters b =
      if b = a ∧ (t.cell a).isSome then t.waiters a ++ [t.receivers] else t.waiters b := by
  unfold waiters pushWaiter
  by_cases hb : b = a
  · subst hb
    cases t.cell b <;> simp
  · simp [hb]

omit [DecidableEq κ] in
theorem waiters_complete (t : Table κ δ ν) (a b : ℕ) (v : ν) :
    (t.complete a v).waiters b = if b = a then [] else t.waiters b := by
  unfold waiters complete
  by_cases hb : b = a
  · subst hb
    cases t.cell b <;> simp
  · simp [hb]

theorem waiters_openCell (t : Table κ δ ν) (k : κ) (d : δ) (b : ℕ) :
    (t.openCell k d).waiters b = if b = t.cells then [] else t.waiters b := by
  unfold waiters openCell
  by_cases hb : b = t.cells <;> simp [hb]

/-! ### The invariant of a table -/

/-- Every mapped cell knows its key; a listed receiver waits in the cell it joined and nothing was
sent to it; a receiver that is not listed any more was sent one value. -/
structure Shape (t : Table κ δ ν) : Prop where
  mapped : ∀ k a, t.entries.lookup k = some a → ∃ c, t.cell a = some c ∧ c.key = k
  allocated : ∀ a, (t.cell a).isSome ↔ a < t.cells
  waiting : ∀ a rx, rx ∈ t.waiters a →
    rx < t.receivers ∧ t.joinedAt rx = a ∧ t.channel rx = []
  nodup : ∀ a, (t.waiters a).Nodup
  placed : ∀ rx, rx < t.receivers → t.joinedAt rx < t.cells ∧
    (rx ∈ t.waiters (t.joinedAt rx) ∨
      t.waiters (t.joinedAt rx) = [] ∧ ∃ v, t.channel rx = [v])
  fresh : ∀ rx, t.receivers ≤ rx → t.channel rx = []

/-- Between operations, every mapped cell also has a receiver. -/
structure Sound (t : Table κ δ ν) : Prop extends Shape t where
  busy : ∀ k a, t.entries.lookup k = some a → t.waiters a ≠ []

theorem sound_empty : (empty : Table κ δ ν).Sound where
  mapped := by simp [empty]
  allocated := by simp [empty]
  waiting := by simp [empty, waiters]
  nodup := by simp [empty, waiters]
  placed := by simp [empty]
  fresh := by simp [empty]
  busy := by simp [empty]

namespace Shape

variable {t : Table κ δ ν} (S : t.Shape)

include S

theorem mapped_lt {k : κ} {a : ℕ} (h : t.entries.lookup k = some a) : a < t.cells := by
  obtain ⟨c, hc, -⟩ := S.mapped k a h
  exact (S.allocated a).1 (by simp [hc])

theorem mapped_inj {k k' : κ} {a : ℕ} (h : t.entries.lookup k = some a)
    (h' : t.entries.lookup k' = some a) : k = k' := by
  obtain ⟨c, hc, hk⟩ := S.mapped k a h
  obtain ⟨c', hc', hk'⟩ := S.mapped k' a h'
  rw [hc, Option.some.injEq] at hc'
  rw [← hk, ← hk', hc']

theorem openCell (k : κ) (d : δ) : (t.openCell k d).Shape := by
  have old (a : ℕ) (h : a < t.cells) : (t.openCell k d).cell a = t.cell a := by
    simp [Table.openCell, Nat.ne_of_lt h]
  have hw (a : ℕ) (h : a < t.cells) : (t.openCell k d).waiters a = t.waiters a := by
    rw [waiters_openCell, if_neg (Nat.ne_of_lt h)]
  refine ⟨?_, ?_, ?_, ?_, ?_, S.fresh⟩
  · intro k' a h
    change (t.entries.insert k t.cells).lookup k' = some a at h
    rw [DashMap.lookup_insert_ite] at h
    split_ifs at h with hk
    · obtain rfl : t.cells = a := by simpa using h
      exact ⟨⟨k, d, []⟩, by simp [Table.openCell], hk.symm⟩
    · rw [old a (S.mapped_lt h)]
      exact S.mapped k' a h
  · intro a
    change _ ↔ a < t.cells + 1
    by_cases ha : a = t.cells
    · subst ha
      simp [Table.openCell]
    · have := S.allocated a
      simp only [Table.openCell, Function.update_of_ne ha, this]
      omega
  · intro a rx h
    rw [waiters_openCell] at h
    split_ifs at h
    · simp at h
    · exact S.waiting a rx h
  · intro a
    rw [waiters_openCell]
    split_ifs
    · exact List.nodup_nil
    · exact S.nodup a
  · intro rx h
    obtain ⟨h1, h2⟩ := S.placed rx h
    refine ⟨Nat.lt_succ_of_lt h1, ?_⟩
    change _ ∈ (t.openCell k d).waiters (t.joinedAt rx) ∨
      (t.openCell k d).waiters (t.joinedAt rx) = [] ∧ _
    rw [hw _ h1]
    exact h2

/-- A receiver may be pushed into a cell none of whose receivers was answered. -/
theorem pushWaiter {a : ℕ} (ha : a < t.cells)
    (pending : ∀ rx, rx < t.receivers → t.joinedAt rx = a → t.waiters a ≠ []) :
    (t.pushWaiter a).Shape := by
  have hsome : (t.cell a).isSome := (S.allocated a).2 ha
  have hw (b : ℕ) : (t.pushWaiter a).waiters b =
      if b = a then t.waiters a ++ [t.receivers] else t.waiters b := by
    simp [waiters_pushWaiter, hsome]
  have hjoin (rx : ℕ) (h : rx < t.receivers) :
      (t.pushWaiter a).joinedAt rx = t.joinedAt rx := by
    simp [Table.pushWaiter, Nat.ne_of_lt h]
  have hself : (t.pushWaiter a).joinedAt t.receivers = a := by simp [Table.pushWaiter]
  refine ⟨?_, ?_, ?_, ?_, ?_, ?_⟩
  · intro k b h
    obtain ⟨c, hc, hk⟩ := S.mapped k b h
    by_cases hb : b = a
    · subst hb
      exact ⟨{ c with waiters := c.waiters ++ [t.receivers] }, by simp [Table.pushWaiter, hc], hk⟩
    · exact ⟨c, by simpa [Table.pushWaiter, hb] using hc, hk⟩
  · intro b
    by_cases hb : b = a
    · subst hb
      simpa [Table.pushWaiter] using S.allocated b
    · simpa [Table.pushWaiter, hb] using S.allocated b
  · intro b rx h
    rw [hw] at h
    have old (h : rx ∈ t.waiters b) : rx < t.receivers + 1 ∧
        (t.pushWaiter a).joinedAt rx = b ∧ t.channel rx = [] := by
      obtain ⟨h1, h2, h3⟩ := S.waiting b rx h
      exact ⟨by omega, (hjoin rx h1).trans h2, h3⟩
    split_ifs at h with hb
    · rcases List.mem_append.1 h with h | h
      · exact old (hb ▸ h)
      · rw [List.mem_singleton] at h
        subst h
        exact ⟨Nat.lt_succ_self _, hself.trans hb.symm, S.fresh _ le_rfl⟩
    · exact old h
  · intro b
    rw [hw]
    split_ifs with hb
    · refine List.Nodup.append (S.nodup a) (List.nodup_singleton _) ?_
      intro rx h h'
      rw [List.mem_singleton] at h'
      exact absurd (S.waiting a rx h).1 (by omega)
    · exact S.nodup b
  · intro rx h
    change rx < t.receivers + 1 at h
    change _ < t.cells ∧ (_ ∨ _ ∧ ∃ v, t.channel rx = [v])
    rcases Nat.lt_succ_iff_lt_or_eq.1 h with h | rfl
    · obtain ⟨h1, h2⟩ := S.placed rx h
      rw [hjoin rx h, hw]
      refine ⟨h1, ?_⟩
      split_ifs with hb
      · rcases h2 with h2 | ⟨h2, -⟩
        · exact Or.inl (List.mem_append_left _ (hb ▸ h2))
        · exact absurd (hb ▸ h2) (pending rx h hb)
      · exact h2
    · rw [hself, hw, if_pos rfl]
      exact ⟨ha, Or.inl (by simp)⟩
  · intro rx h
    change t.receivers + 1 ≤ rx at h
    exact S.fresh rx (by omega)

end Shape

namespace Sound

variable {t : Table κ δ ν} (S : t.Sound)

include S

theorem join (k : κ) (d : δ) : (t.join k d).1.Sound := by
  unfold Table.join
  split
  · rename_i a h
    refine ⟨S.toShape.pushWaiter (S.mapped_lt h) fun _ _ _ => S.busy k a h, ?_⟩
    intro k' b hb
    rw [waiters_pushWaiter]
    split_ifs
    · simp
    · exact S.busy k' b hb
  · rename_i h
    have pending (rx : ℕ) (hrx : rx < t.receivers) (hj : t.joinedAt rx = t.cells) :
        (t.openCell k d).waiters t.cells ≠ [] := by
      have := (S.placed rx hrx).1
      omega
    refine ⟨(S.toShape.openCell k d).pushWaiter (Nat.lt_succ_self _) pending, ?_⟩
    intro k' b hb
    change (t.entries.insert k t.cells).lookup k' = some b at hb
    rw [DashMap.lookup_insert_ite] at hb
    rw [waiters_pushWaiter, waiters_openCell]
    split_ifs at hb with hk
    · obtain rfl : t.cells = b := by simpa using hb
      simp [openCell]
    · have hlt := S.mapped_lt hb
      rw [if_neg (fun h => Nat.ne_of_lt hlt h.1), waiters_openCell, if_neg (Nat.ne_of_lt hlt)]
      exact S.busy k' b hb

theorem take (k : κ) : (t.take k).1.Sound := by
  unfold Table.take
  split
  · have kept {k' : κ} {b : ℕ} (hb : (t.entries.erase k).lookup k' = some b) :
        t.entries.lookup k' = some b := by
      rw [DashMap.lookup_erase_ite] at hb
      split_ifs at hb
      exact hb
    exact ⟨⟨fun k' b hb => S.mapped k' b (kept hb), S.allocated, S.waiting, S.nodup, S.placed,
      S.fresh⟩, fun k' b hb => S.busy k' b (kept hb)⟩
  · exact S

theorem channel_complete (a : ℕ) (v : ν) (rx : ℕ) :
    (t.complete a v).channel rx = if rx ∈ t.waiters a then [v] else t.channel rx := by
  change t.channel rx ++ List.replicate ((t.waiters a).count rx) v = _
  split_ifs with h
  · rw [(S.waiting a rx h).2.2, List.count_eq_one_of_mem (S.nodup a) h]
    rfl
  · rw [List.count_eq_zero_of_not_mem h]
    simp

/-- Completing a cell that has left the map. -/
theorem complete {a : ℕ} (out : ∀ k, t.entries.lookup k ≠ some a) (v : ν) :
    (t.complete a v).Sound := by
  have hne {k : κ} {b : ℕ} (hb : t.entries.lookup k = some b) : b ≠ a := by
    rintro rfl
    exact out k hb
  refine ⟨⟨?_, ?_, ?_, ?_, ?_, ?_⟩, ?_⟩
  · intro k b hb
    obtain ⟨c, hc, hk⟩ := S.mapped k b hb
    exact ⟨c, by simpa [Table.complete, hne hb] using hc, hk⟩
  · intro b
    by_cases hb : b = a
    · subst hb
      simpa [Table.complete] using S.allocated b
    · simpa [Table.complete, hb] using S.allocated b
  · intro b rx h
    rw [waiters_complete] at h
    split_ifs at h with hb
    · simp at h
    · obtain ⟨h1, h2, h3⟩ := S.waiting b rx h
      refine ⟨h1, h2, ?_⟩
      rw [S.channel_complete, if_neg, h3]
      intro h'
      exact hb (h2.symm.trans (S.waiting a rx h').2.1)
  · intro b
    rw [waiters_complete]
    split_ifs
    · exact List.nodup_nil
    · exact S.nodup b
  · intro rx h
    obtain ⟨h1, h2⟩ := S.placed rx h
    refine ⟨h1, ?_⟩
    change _ ∈ (t.complete a v).waiters (t.joinedAt rx) ∨
      (t.complete a v).waiters (t.joinedAt rx) = [] ∧ _
    rw [waiters_complete, S.channel_complete]
    split_ifs with hb hrx hrx
    · exact Or.inr ⟨rfl, v, rfl⟩
    · rcases h2 with h2 | ⟨-, h2⟩
      · exact absurd (hb ▸ h2) hrx
      · exact Or.inr ⟨rfl, h2⟩
    · exact absurd (S.waiting a rx hrx).2.1 hb
    · exact h2
  · intro rx h
    change t.receivers ≤ rx at h
    rw [S.channel_complete, if_neg, S.fresh rx h]
    intro h'
    exact absurd (S.waiting a rx h').1 (by omega)
  · intro k b hb
    rw [waiters_complete, if_neg (hne hb)]
    exact S.busy k b hb

end Sound

end Table

/-! ## Runs -/

/-- The tables that any sequence of operations leads to, with the outcomes in order.  A cell is
completed only after it was taken, and once. -/
inductive Run : List (Outcome κ ν) → Table κ δ ν → Prop
  | start : Run [] .empty
  | join {h : List (Outcome κ ν)} {t : Table κ δ ν} (k : κ) (d : δ) : Run h t →
      Run (h ++ [Outcome.joined k (t.join k d).2.1 (t.join k d).2.2.1 (t.join k d).2.2.2])
        (t.join k d).1
  | take {h : List (Outcome κ ν)} {t : Table κ δ ν} (k : κ) (a : ℕ) : Run h t →
      (t.take k).2 = some a → Run (h ++ [Outcome.taken k a]) (t.take k).1
  | complete {h : List (Outcome κ ν)} {t : Table κ δ ν} (k : κ) (a : ℕ) (v : ν) : Run h t →
      .taken k a ∈ h → (∀ w, .completed a w ∉ h) →
      Run (h ++ [Outcome.completed a v]) (t.complete a v)

/-- What the outcomes say about the table. -/
structure Ledger (h : List (Outcome κ ν)) (t : Table κ δ ν) : Prop where
  sound : t.Sound
  joined : ∀ k a rx new, .joined k a rx new ∈ h →
    rx < t.receivers ∧ t.joinedAt rx = a ∧ ∃ c, t.cell a = some c ∧ c.key = k
  received : ∀ rx, rx < t.receivers → ∃ new c, t.cell (t.joinedAt rx) = some c ∧
    .joined c.key (t.joinedAt rx) rx new ∈ h
  taken : ∀ k a, .taken k a ∈ h → a < t.cells ∧ ∀ k', t.entries.lookup k' ≠ some a
  left : ∀ a, a < t.cells → (∀ k, t.entries.lookup k ≠ some a) → ∃ k, .taken k a ∈ h
  completed : ∀ a v, .completed a v ∈ h → a < t.cells ∧ t.waiters a = []
  emptied : ∀ a, a < t.cells → t.waiters a = [] → ∃ v, .completed a v ∈ h
  sent : ∀ rx v, v ∈ t.channel rx → .completed (t.joinedAt rx) v ∈ h

namespace Table

theorem take_eq_some {t : Table κ δ ν} {k : κ} {a : ℕ} (h : (t.take k).2 = some a) :
    t.entries.lookup k = some a ∧ (t.take k).1 = { t with entries := t.entries.erase k } := by
  unfold take at h ⊢
  cases hl : t.entries.lookup k with
  | none => simp [hl] at h
  | some b =>
    simp only [hl, Option.some.injEq] at h
    exact ⟨by rw [h], rfl⟩

theorem take_eq_none {t : Table κ δ ν} {k : κ} (h : (t.take k).2 = none) :
    t.entries.lookup k = none := by
  unfold take at h
  cases hl : t.entries.lookup k with
  | none => rfl
  | some b => simp [hl] at h

theorem entries_take (t : Table κ δ ν) (k : κ) : (t.take k).1.entries = t.entries.erase k := by
  unfold take
  cases hl : t.entries.lookup k with
  | none => exact (DashMap.erase_of_lookup_none hl).symm
  | some b => rfl

theorem lookup_of_take {t : Table κ δ ν} {k k' : κ} {a : ℕ}
    (h : (t.take k).1.entries.lookup k' = some a) : t.entries.lookup k' = some a ∧ k' ≠ k := by
  rw [entries_take, DashMap.lookup_erase_ite] at h
  split_ifs at h with hk
  exact ⟨h, hk⟩

@[simp] theorem waiters_take (t : Table κ δ ν) (k : κ) (a : ℕ) :
    (t.take k).1.waiters a = t.waiters a := by
  unfold take
  split <;> rfl

@[simp] theorem take_cells (t : Table κ δ ν) (k : κ) : (t.take k).1.cells = t.cells := by
  unfold take
  split <;> rfl

/-- Everything a join does, in one statement: the receiver is the next one, it joins the mapped
cell, or a cell that did not exist. -/
theorem join_spec (t : Table κ δ ν) (k : κ) (d : δ) :
    (t.join k d).2.2.1 = t.receivers ∧
    (t.join k d).1.receivers = t.receivers + 1 ∧
    (t.join k d).1.joinedAt = Function.update t.joinedAt t.receivers (t.join k d).2.1 ∧
    (t.join k d).1.channel = t.channel ∧
    (((t.join k d).2.2.2 = false ∧ t.entries.lookup k = some (t.join k d).2.1 ∧
        (t.join k d).1.entries = t.entries ∧ (t.join k d).1.cells = t.cells) ∨
      ((t.join k d).2.2.2 = true ∧ t.entries.lookup k = none ∧ (t.join k d).2.1 = t.cells ∧
        (t.join k d).1.entries = t.entries.insert k t.cells ∧
        (t.join k d).1.cells = t.cells + 1)) := by
  unfold join
  cases hl : t.entries.lookup k with
  | none => simp [pushWaiter, openCell]
  | some a => simp [pushWaiter]

theorem join_of_none {t : Table κ δ ν} {k : κ} (h : t.entries.lookup k = none) (d : δ) :
    (t.join k d).2 = (t.cells, t.receivers, true) := by
  simp [join, h]

theorem join_of_some {t : Table κ δ ν} {k : κ} {a : ℕ} (h : t.entries.lookup k = some a) (d : δ) :
    (t.join k d).2 = (a, t.receivers, false) := by
  simp [join, h]

/-- A join keeps the key of every cell. -/
theorem Sound.key_join {t : Table κ δ ν} (S : t.Sound) (k : κ) (d : δ) {a : ℕ} {c : Cell κ δ}
    (h : t.cell a = some c) : ∃ c', (t.join k d).1.cell a = some c' ∧ c'.key = c.key := by
  have hlt := (S.allocated a).1 (by simp [h])
  unfold Table.join
  cases hl : t.entries.lookup k with
  | none => exact ⟨c, by simpa [pushWaiter, openCell, Nat.ne_of_lt hlt] using h, rfl⟩
  | some b =>
    by_cases hb : a = b
    · subst hb
      exact ⟨{ c with waiters := c.waiters ++ [t.receivers] }, by simp [pushWaiter, h], rfl⟩
    · exact ⟨c, by simpa [pushWaiter, hb] using h, rfl⟩

/-- A cell after a join was there before, with its key and tag, or was opened by the join. -/
theorem cell_join {t : Table κ δ ν} {k : κ} {d : δ} {a : ℕ} {c : Cell κ δ}
    (h : (t.join k d).1.cell a = some c) :
    (∃ c₀, t.cell a = some c₀ ∧ c₀.key = c.key ∧ c₀.tag = c.tag) ∨ c.key = k ∧ c.tag = d := by
  have pushed {t : Table κ δ ν} {b : ℕ} (h : (t.pushWaiter b).cell a = some c) :
      ∃ c₀, t.cell a = some c₀ ∧ c₀.key = c.key ∧ c₀.tag = c.tag := by
    by_cases hb : a = b
    · subst hb
      simp only [pushWaiter, Function.update_self, Option.map_eq_some_iff] at h
      obtain ⟨c₀, h₀, rfl⟩ := h
      exact ⟨c₀, h₀, rfl, rfl⟩
    · exact ⟨c, by simpa [pushWaiter, hb] using h, rfl, rfl⟩
  unfold join at h
  split at h
  · exact Or.inl (pushed h)
  · obtain ⟨c₀, h₀, hk, ht⟩ := pushed h
    by_cases hb : a = t.cells
    · subst hb
      simp only [openCell, Function.update_self, Option.some.injEq] at h₀
      subst h₀
      exact Or.inr ⟨hk.symm, ht.symm⟩
    · exact Or.inl ⟨c₀, by simpa [openCell, hb] using h₀, hk, ht⟩

omit [DecidableEq κ] in
theorem cell_complete {t : Table κ δ ν} {b : ℕ} {v : ν} {a : ℕ} {c : Cell κ δ}
    (h : (t.complete b v).cell a = some c) :
    ∃ c₀, t.cell a = some c₀ ∧ c₀.key = c.key ∧ c₀.tag = c.tag := by
  by_cases hb : a = b
  · subst hb
    simp only [complete, Function.update_self, Option.map_eq_some_iff] at h
    obtain ⟨c₀, h₀, rfl⟩ := h
    exact ⟨c₀, h₀, rfl, rfl⟩
  · exact ⟨c, by simpa [complete, hb] using h, rfl, rfl⟩

/-- A join adds the new receiver to the cell joined and to no other. -/
theorem Sound.waiters_join {t : Table κ δ ν} (S : t.Sound) (k : κ) (d : δ) (b : ℕ) :
    (t.join k d).1.waiters b =
      if b = (t.join k d).2.1 then t.waiters b ++ [t.receivers] else t.waiters b := by
  unfold Table.join
  cases hl : t.entries.lookup k with
  | none =>
    have hnew : t.waiters t.cells = [] := by
      have : t.cell t.cells = none := by
        rw [← Option.not_isSome_iff_eq_none, S.allocated]
        exact lt_irrefl _
      simp [waiters, this]
    simp only [waiters_pushWaiter, waiters_openCell]
    by_cases hb : b = t.cells
    · simp [hb, openCell, hnew]
    · simp [hb]
  | some a =>
    have hsome : (t.cell a).isSome := (S.allocated a).2 (S.mapped_lt hl)
    simp only [waiters_pushWaiter, hsome, and_true]
    by_cases hb : b = a
    · simp [hb]
    · simp [hb]

/-- After a join, the cell joined is mapped under its key. -/
theorem lookup_join (t : Table κ δ ν) (k : κ) (d : δ) :
    (t.join k d).1.entries.lookup k = some (t.join k d).2.1 := by
  obtain ⟨-, -, -, -, ⟨-, hl, he, -⟩ | ⟨-, -, ha, he, -⟩⟩ := t.join_spec k d
  · rw [he, hl]
  · rw [he, DashMap.lookup_insert_ite, if_pos rfl, ha]

end Table

theorem ledger_join {h : List (Outcome κ ν)} {t : Table κ δ ν} (L : Ledger h t) (k : κ) (d : δ) :
    Ledger (h ++ [Outcome.joined k (t.join k d).2.1 (t.join k d).2.2.1 (t.join k d).2.2.2])
      (t.join k d).1 := by
  have S' := L.sound.join k d
  have hmap := t.lookup_join k d
  obtain ⟨hrx, hrecv, hjoin, hchan, hcase⟩ := t.join_spec k d
  have hcells : t.cells ≤ (t.join k d).1.cells := by
    rcases hcase with ⟨-, -, -, h⟩ | ⟨-, -, -, -, h⟩ <;> omega
  have hkept {b : ℕ} (hb : b < t.cells) (h : ∀ k', t.entries.lookup k' ≠ some b) (k' : κ) :
      (t.join k d).1.entries.lookup k' ≠ some b := by
    rcases hcase with ⟨-, -, he, -⟩ | ⟨-, -, -, he, -⟩
    · rw [he]
      exact h k'
    · rw [he, DashMap.lookup_insert_ite]
      split_ifs
      · simp only [ne_eq, Option.some.injEq]
        omega
      · exact h k'
  refine ⟨S', ?_, ?_, ?_, ?_, ?_, ?_, ?_⟩
  · intro k' a rx new hm
    rw [hrecv, hjoin]
    rcases List.mem_append.1 hm with hm | hm
    · obtain ⟨h1, h2, c, hc, hk⟩ := L.joined k' a rx new hm
      obtain ⟨c', hc', hk'⟩ := L.sound.key_join k d hc
      exact ⟨by omega, by rwa [Function.update_of_ne (Nat.ne_of_lt h1)], c', hc', hk'.trans hk⟩
    · simp only [List.mem_singleton, Outcome.joined.injEq] at hm
      obtain ⟨rfl, rfl, rfl, -⟩ := hm
      rw [hrx]
      exact ⟨by omega, Function.update_self .., S'.mapped k' _ hmap⟩
  · intro rx hlt
    rw [hrecv] at hlt
    rw [hjoin]
    rcases Nat.lt_succ_iff_lt_or_eq.1 hlt with hlt | rfl
    · obtain ⟨new, c, hc, hm⟩ := L.received rx hlt
      obtain ⟨c', hc', hk⟩ := L.sound.key_join k d hc
      rw [Function.update_of_ne (Nat.ne_of_lt hlt)]
      exact ⟨new, c', hc', by rw [hk]; exact List.mem_append_left _ hm⟩
    · obtain ⟨c, hc, hk⟩ := S'.mapped k _ hmap
      rw [Function.update_self]
      exact ⟨(t.join k d).2.2.2, c, hc, by simp [hk, hrx]⟩
  · intro k' b hm
    simp only [List.mem_append, List.mem_singleton, reduceCtorEq, or_false] at hm
    obtain ⟨h1, h2⟩ := L.taken k' b hm
    exact ⟨by omega, hkept h1 h2⟩
  · intro b hb hout
    have hb' : b < t.cells ∧ ∀ k', t.entries.lookup k' ≠ some b := by
      rcases hcase with ⟨-, -, he, hc⟩ | ⟨-, hn, ha, he, hc⟩
      · exact ⟨by omega, fun k' => he ▸ hout k'⟩
      · have hne : b ≠ t.cells := by
          rintro rfl
          exact hout k (by rw [hmap, ha])
        refine ⟨by omega, fun k' h' => ?_⟩
        have hk : k' ≠ k := by
          rintro rfl
          simp [hn] at h'
        exact hout k' (by rw [he, DashMap.lookup_insert_ite, if_neg hk, h'])
    obtain ⟨k', hm⟩ := L.left b hb'.1 hb'.2
    exact ⟨k', List.mem_append_left _ hm⟩
  · intro b v hm
    simp only [List.mem_append, List.mem_singleton, reduceCtorEq, or_false] at hm
    obtain ⟨h1, h2⟩ := L.completed b v hm
    refine ⟨by omega, ?_⟩
    rw [L.sound.waiters_join, if_neg, h2]
    rcases hcase with ⟨-, hl, -⟩ | ⟨-, -, ha, -⟩
    · intro hb
      exact L.sound.busy k b (hb ▸ hl) h2
    · omega
  · intro b hb hw
    rw [L.sound.waiters_join] at hw
    split_ifs at hw with hba
    · simp at hw
    · have hlt : b < t.cells := by
        rcases hcase with ⟨-, -, -, hc⟩ | ⟨-, -, ha, -, hc⟩ <;> omega
      obtain ⟨v, hm⟩ := L.emptied b hlt hw
      exact ⟨v, List.mem_append_left _ hm⟩
  · intro rx v hv
    rw [hchan] at hv
    have hlt : rx < t.receivers := by
      by_contra hge
      rw [L.sound.fresh rx (by omega)] at hv
      simp at hv
    rw [hjoin, Function.update_of_ne (Nat.ne_of_lt hlt)]
    exact List.mem_append_left _ (L.sent rx v hv)

theorem ledger_take {h : List (Outcome κ ν)} {t : Table κ δ ν} (L : Ledger h t) {k : κ} {a : ℕ}
    (ht : (t.take k).2 = some a) : Ledger (h ++ [Outcome.taken k a]) (t.take k).1 := by
  have S' := L.sound.take k
  obtain ⟨hl, he⟩ := Table.take_eq_some ht
  rw [he] at S' ⊢
  refine ⟨S', ?_, ?_, ?_, ?_, ?_, ?_, ?_⟩
  · intro k' b rx new hm
    simp only [List.mem_append, List.mem_singleton, reduceCtorEq, or_false] at hm
    exact L.joined k' b rx new hm
  · intro rx hlt
    obtain ⟨new, c, hc, hm⟩ := L.received rx hlt
    exact ⟨new, c, hc, List.mem_append_left _ hm⟩
  · intro k' b hm
    have hout (hb : b < t.cells) (h : ∀ k₁, k₁ ≠ k → t.entries.lookup k₁ ≠ some b) :
        b < t.cells ∧ ∀ k₁, (t.entries.erase k).lookup k₁ ≠ some b := by
      refine ⟨hb, fun k₁ => ?_⟩
      rw [DashMap.lookup_erase_ite]
      split_ifs with hk
      · simp
      · exact h k₁ hk
    simp only [List.mem_append, List.mem_singleton, Outcome.taken.injEq] at hm
    rcases hm with hm | ⟨rfl, rfl⟩
    · obtain ⟨h1, h2⟩ := L.taken k' b hm
      exact hout h1 fun k₁ _ => h2 k₁
    · exact hout (L.sound.mapped_lt hl) fun k₁ hk h₁ => hk (L.sound.mapped_inj h₁ hl)
  · intro b hb hout
    by_cases hba : b = a
    · exact ⟨k, by simp [hba]⟩
    · obtain ⟨k', hm⟩ := L.left b hb fun k' h' => by
        have hk : k' ≠ k := by
          rintro rfl
          rw [hl, Option.some.injEq] at h'
          exact hba h'.symm
        exact hout k' (by rw [DashMap.lookup_erase_ite, if_neg hk, h'])
      exact ⟨k', List.mem_append_left _ hm⟩
  · intro b v hm
    simp only [List.mem_append, List.mem_singleton, reduceCtorEq, or_false] at hm
    exact L.completed b v hm
  · intro b hb hw
    obtain ⟨v, hm⟩ := L.emptied b hb hw
    exact ⟨v, List.mem_append_left _ hm⟩
  · intro rx v hv
    exact List.mem_append_left _ (L.sent rx v hv)

omit [DecidableEq κ] in
theorem Table.key_complete {t : Table κ δ ν} (b : ℕ) (v : ν) {a : ℕ} {c : Cell κ δ}
    (h : t.cell a = some c) : ∃ c', (t.complete b v).cell a = some c' ∧ c'.key = c.key := by
  by_cases hb : a = b
  · subst hb
    exact ⟨{ c with waiters := [] }, by simp [Table.complete, h], rfl⟩
  · exact ⟨c, by simpa [Table.complete, hb] using h, rfl⟩

theorem ledger_complete {h : List (Outcome κ ν)} {t : Table κ δ ν} (L : Ledger h t) {k : κ}
    {a : ℕ} (v : ν) (ht : .taken k a ∈ h) :
    Ledger (h ++ [Outcome.completed a v]) (t.complete a v) := by
  obtain ⟨hlt, hout⟩ := L.taken k a ht
  refine ⟨L.sound.complete hout v, ?_, ?_, ?_, ?_, ?_, ?_, ?_⟩
  · intro k' b rx new hm
    simp only [List.mem_append, List.mem_singleton, reduceCtorEq, or_false] at hm
    obtain ⟨h1, h2, c, hc, hk⟩ := L.joined k' b rx new hm
    obtain ⟨c', hc', hk'⟩ := Table.key_complete a v hc
    exact ⟨h1, h2, c', hc', hk'.trans hk⟩
  · intro rx hrx
    obtain ⟨new, c, hc, hm⟩ := L.received rx hrx
    obtain ⟨c', hc', hk⟩ := Table.key_complete a v hc
    exact ⟨new, c', hc', by rw [hk]; exact List.mem_append_left _ hm⟩
  · intro k' b hm
    simp only [List.mem_append, List.mem_singleton, reduceCtorEq, or_false] at hm
    exact L.taken k' b hm
  · intro b hb hb'
    obtain ⟨k', hm⟩ := L.left b hb hb'
    exact ⟨k', List.mem_append_left _ hm⟩
  · intro b w hm
    rw [Table.waiters_complete]
    simp only [List.mem_append, List.mem_singleton, Outcome.completed.injEq] at hm
    rcases hm with hm | ⟨rfl, -⟩
    · obtain ⟨h1, h2⟩ := L.completed b w hm
      exact ⟨h1, by rw [h2, ite_self]⟩
    · exact ⟨hlt, if_pos rfl⟩
  · intro b hb hw
    rw [Table.waiters_complete] at hw
    split_ifs at hw with hba
    · exact ⟨v, by simp [hba]⟩
    · obtain ⟨w, hm⟩ := L.emptied b hb hw
      exact ⟨w, List.mem_append_left _ hm⟩
  · intro rx w hw
    change Outcome.completed (t.joinedAt rx) w ∈ _
    rw [L.sound.channel_complete] at hw
    split_ifs at hw with hrx
    · obtain rfl : w = v := by simpa using hw
      rw [(L.sound.waiting a rx hrx).2.1]
      simp
    · exact List.mem_append_left _ (L.sent rx w hw)

theorem Run.ledger {h : List (Outcome κ ν)} {t : Table κ δ ν} (r : Run h t) : Ledger h t := by
  induction r with
  | start =>
    exact ⟨Table.sound_empty, by simp, by simp [Table.empty], by simp, by simp [Table.empty],
      by simp, by simp [Table.empty], by simp [Table.empty]⟩
  | join k d _ ih => exact ledger_join ih k d
  | take k a _ ht ih => exact ledger_take ih ht
  | complete k a v _ ht _ ih => exact ledger_complete ih v ht

/-- A cell is taken under the key it was opened under. -/
theorem Run.taken_key {h : List (Outcome κ ν)} {t : Table κ δ ν} (r : Run h t) {k : κ} {a : ℕ}
    (ht : .taken k a ∈ h) : ∃ c, t.cell a = some c ∧ c.key = k := by
  induction r with
  | start => simp at ht
  | join k' d r ih =>
    simp only [List.mem_append, List.mem_singleton, reduceCtorEq, or_false] at ht
    obtain ⟨c, hc, hk⟩ := ih ht
    obtain ⟨c', hc', hk'⟩ := r.ledger.sound.key_join k' d hc
    exact ⟨c', hc', hk'.trans hk⟩
  | take k' b r hb ih =>
    obtain ⟨hl, he⟩ := Table.take_eq_some hb
    rw [he]
    simp only [List.mem_append, List.mem_singleton, Outcome.taken.injEq] at ht
    rcases ht with ht | ⟨rfl, rfl⟩
    · exact ih ht
    · exact r.ledger.sound.mapped k a hl
  | complete k' b v r _ _ ih =>
    simp only [List.mem_append, List.mem_singleton, reduceCtorEq, or_false] at ht
    obtain ⟨c, hc, hk⟩ := ih ht
    obtain ⟨c', hc', hk'⟩ := Table.key_complete b v hc
    exact ⟨c', hc', hk'.trans hk⟩

/-! ## The contract -/

/-- What the joins of `k` in a history returned: `true` for each that opened a cell. -/
def openings (k : κ) (h : List (Outcome κ ν)) : List Bool :=
  h.filterMap fun
    | .joined k' _ _ new => if k' = k then some new else none
    | _ => none

/-- No cell of `k` is taken in a history. -/
def Untaken (k : κ) (h : List (Outcome κ ν)) : Prop := ∀ a, .taken k a ∉ h

theorem openings_snoc (k : κ) (h : List (Outcome κ ν)) (o : Outcome κ ν) :
    openings k (h ++ [o]) = openings k h ++ openings k [o] :=
  List.filterMap_append ..

/-- Since the start or the last removal of `k`, either `k` is not mapped and nobody joined it, or
it is mapped and exactly the first join opened its cell. -/
def OpenedOnce (t : Table κ δ ν) (k : κ) (since : List (Outcome κ ν)) : Prop :=
  (t.entries.lookup k = none ∧ openings k since = []) ∨
    ((t.entries.lookup k).isSome ∧ ∃ n, openings k since = true :: List.replicate n false)

theorem OpenedOnce.join {t : Table κ δ ν} {k : κ} {since : List (Outcome κ ν)}
    (prev : OpenedOnce t k since) (k' : κ) (d : δ) : OpenedOnce (t.join k' d).1 k
      (since ++ [Outcome.joined k' (t.join k' d).2.1 (t.join k' d).2.2.1 (t.join k' d).2.2.2]) := by
  unfold OpenedOnce
  rw [openings_snoc]
  by_cases hk : k' = k
  · subst hk
    refine Or.inr ⟨by rw [t.lookup_join]; rfl, ?_⟩
    obtain ⟨-, -, -, -, ⟨hnew, hl, -⟩ | ⟨hnew, hl, -⟩⟩ := t.join_spec k' d
    · rcases prev with ⟨hn, -⟩ | ⟨-, n, hn⟩
      · simp [hl] at hn
      · refine ⟨n + 1, ?_⟩
        rw [hn, hnew, List.replicate_succ']
        simp [openings]
    · rcases prev with ⟨-, hn⟩ | ⟨hs, -⟩
      · exact ⟨0, by rw [hn, hnew]; simp [openings]⟩
      · simp [hl] at hs
  · have hkeep : (t.join k' d).1.entries.lookup k = t.entries.lookup k := by
      obtain ⟨-, -, -, -, ⟨-, -, he, -⟩ | ⟨-, -, -, he, -⟩⟩ := t.join_spec k' d
      · rw [he]
      · rw [he, DashMap.lookup_insert_ite, if_neg (Ne.symm hk)]
    rw [hkeep]
    simpa [OpenedOnce, openings, hk] using prev

theorem Run.opened_once {h : List (Outcome κ ν)} {t : Table κ δ ν} (r : Run h t) (k : κ) :
    ∀ old since, old ++ since = h → (old = [] ∨ ∃ o a, old = o ++ [Outcome.taken k a]) →
      Untaken k since → OpenedOnce t k since := by
  induction r with
  | start =>
    intro old since eq _ _
    obtain ⟨-, rfl⟩ := List.append_eq_nil_iff.1 eq
    exact Or.inl ⟨by simp [Table.empty], rfl⟩
  | join k' d _ ih =>
    intro old since eq hold hun
    rcases History.append_eq_snoc eq with ⟨rfl, rfl⟩ | ⟨since', rfl, h'⟩
    · rcases hold with hold | ⟨o, a, hold⟩
      · simp at hold
      · exact absurd (List.append_inj' hold rfl).2 (by simp)
    · exact (ih old since' h' hold fun a ha => hun a (List.mem_append_left _ ha)).join k' d
  | take k' a _ ht ih =>
    intro old since eq hold hun
    obtain ⟨hl, he⟩ := Table.take_eq_some ht
    rw [he]
    unfold OpenedOnce
    rw [DashMap.lookup_erase_ite]
    rcases History.append_eq_snoc eq with ⟨rfl, rfl⟩ | ⟨since', rfl, h'⟩
    · rcases hold with hold | ⟨o, b, hold⟩
      · simp at hold
      · obtain ⟨rfl, -⟩ : k' = k ∧ a = b := by simpa using (List.append_inj' hold rfl).2
        exact Or.inl ⟨if_pos rfl, rfl⟩
    · have hk : k ≠ k' := by
        rintro rfl
        exact hun a (by simp)
      rw [if_neg hk, openings_snoc]
      simpa [openings, OpenedOnce] using
        ih old since' h' hold fun b hb => hun b (List.mem_append_left _ hb)
  | complete k' a v _ _ _ ih =>
    intro old since eq hold hun
    rcases History.append_eq_snoc eq with ⟨rfl, rfl⟩ | ⟨since', rfl, h'⟩
    · rcases hold with hold | ⟨o, b, hold⟩
      · simp at hold
      · exact absurd (List.append_inj' hold rfl).2 (by simp)
    · have := ih old since' h' hold fun b hb => hun b (List.mem_append_left _ hb)
      unfold OpenedOnce
      rw [openings_snoc]
      simpa [openings, OpenedOnce, Table.complete] using this

/-- A run of a longer history passes through every shorter one. -/
theorem Run.of_append {h' : List (Outcome κ ν)} {t : Table κ δ ν} (r : Run h' t)
    (h later : List (Outcome κ ν)) (eq : h ++ later = h') : ∃ t₀ : Table κ δ ν, Run h t₀ := by
  induction r generalizing later with
  | start =>
    obtain ⟨rfl, -⟩ := List.append_eq_nil_iff.1 eq
    exact ⟨_, Run.start⟩
  | join k d r ih =>
    rcases History.append_eq_snoc eq with ⟨-, rfl⟩ | ⟨later', -, h'⟩
    · exact ⟨_, Run.join k d r⟩
    · exact ih _ h'
  | take k a r ht ih =>
    rcases History.append_eq_snoc eq with ⟨-, rfl⟩ | ⟨later', -, h'⟩
    · exact ⟨_, Run.take k a r ht⟩
    · exact ih _ h'
  | complete k a v r ht hc ih =>
    rcases History.append_eq_snoc eq with ⟨-, rfl⟩ | ⟨later', -, h'⟩
    · exact ⟨_, Run.complete k a v r ht hc⟩
    · exact ih _ h'

theorem Run.take_inv {h h' : List (Outcome κ ν)} {t : Table κ δ ν} {k : κ} {a : ℕ}
    (r : Run h' t) (eq : h ++ [Outcome.taken k a] = h') :
    ∃ t₀ : Table κ δ ν, Run h t₀ ∧ t₀.entries.lookup k = some a := by
  cases r with
  | start => simp at eq
  | join k' d r => exact absurd (List.append_inj' eq rfl).2 (by simp)
  | take k' b r ht =>
    obtain ⟨rfl, ho⟩ := List.append_inj' eq rfl
    obtain ⟨rfl, rfl⟩ : k = k' ∧ a = b := by simpa using ho
    exact ⟨_, r, (Table.take_eq_some ht).1⟩
  | complete k' b v r _ _ => exact absurd (List.append_inj' eq rfl).2 (by simp)

theorem Run.join_inv {h h' : List (Outcome κ ν)} {t : Table κ δ ν} {k : κ} {a rx : ℕ} {new : Bool}
    (r : Run h' t) (eq : h ++ [Outcome.joined k a rx new] = h') :
    ∃ t₀ : Table κ δ ν, Run h t₀ ∧ (t₀.entries.lookup k = some a ∨ a = t₀.cells) := by
  cases r with
  | start => simp at eq
  | @join _ t₀ k' d r =>
    obtain ⟨rfl, ho⟩ := List.append_inj' eq rfl
    obtain ⟨rfl, rfl, -⟩ : k = k' ∧ a = (t₀.join k' d).2.1 ∧ _ := by simpa using ho
    refine ⟨t₀, r, ?_⟩
    obtain ⟨-, -, -, -, ⟨-, hl, -⟩ | ⟨-, -, ha, -⟩⟩ := t₀.join_spec k d
    · exact Or.inl hl
    · exact Or.inr ha
  | take k' b r ht => exact absurd (List.append_inj' eq rfl).2 (by simp)
  | complete k' b v r _ _ => exact absurd (List.append_inj' eq rfl).2 (by simp)

/-- Between the start or a removal of `k` and its next removal exactly one join of `k` opens a
cell, the first. -/
theorem Run.openers {t : Table κ δ ν} {k : κ} {a : ℕ} {old since later : List (Outcome κ ν)}
    (r : Run (old ++ since ++ Outcome.taken k a :: later) t)
    (hold : old = [] ∨ ∃ o b, old = o ++ [Outcome.taken k b]) (hun : Untaken k since) :
    ∃ n, openings k since = true :: List.replicate n false := by
  obtain ⟨t₁, r₁⟩ := r.of_append (old ++ since ++ [Outcome.taken k a]) later (by simp)
  obtain ⟨t₀, r₀, hl⟩ := r₁.take_inv rfl
  rcases r₀.opened_once k old since rfl hold hun with ⟨hn, -⟩ | ⟨-, hn⟩
  · simp [hl] at hn
  · exact hn

/-- No receiver joins a cell that has left the map. -/
theorem Run.no_late_join {t : Table κ δ ν} {k k' : κ} {a rx : ℕ} {new : Bool}
    {old later : List (Outcome κ ν)} (r : Run (old ++ Outcome.taken k a :: later) t) :
    .joined k' a rx new ∉ later := by
  intro hm
  obtain ⟨l₁, l₂, rfl⟩ := List.append_of_mem hm
  obtain ⟨t₁, r₁⟩ := r.of_append
    ((old ++ Outcome.taken k a :: l₁) ++ [Outcome.joined k' a rx new]) l₂ (by simp)
  obtain ⟨t₀, r₀, h⟩ := r₁.join_inv rfl
  obtain ⟨hlt, hout⟩ := r₀.ledger.taken k a (by simp)
  rcases h with hl | ha
  · exact hout k' hl
  · omega

/-- The receiver waits in the cell that is mapped under its key. -/
def Waits (t : Table κ δ ν) (k : κ) (a rx : ℕ) : Prop :=
  t.entries.lookup k = some a ∧ rx ∈ t.waiters a

/-- The receiver waits in a cell that was taken and is not completed yet. -/
def InTransit (h : List (Outcome κ ν)) (t : Table κ δ ν) (a rx : ℕ) : Prop :=
  (∃ k, .taken k a ∈ h) ∧ (∀ v, .completed a v ∉ h) ∧ rx ∈ t.waiters a

/-- The receiver was sent exactly one value, the one its cell was completed with. -/
def Answered (h : List (Outcome κ ν)) (t : Table κ δ ν) (a rx : ℕ) : Prop :=
  ∃ v, .completed a v ∈ h ∧ t.channel rx = [v]

/-- Exactly one of three situations. -/
def ExactlyOne (p q r : Prop) : Prop := (p ∧ ¬ q ∧ ¬ r) ∨ (¬ p ∧ q ∧ ¬ r) ∨ (¬ p ∧ ¬ q ∧ r)

/-- Every receiver handed out is in exactly one of the three situations. -/
theorem Run.settled {h : List (Outcome κ ν)} {t : Table κ δ ν} (r : Run h t) {k : κ} {a rx : ℕ}
    {new : Bool} (hm : .joined k a rx new ∈ h) :
    ExactlyOne (Waits t k a rx) (InTransit h t a rx) (Answered h t a rx) := by
  have L := r.ledger
  obtain ⟨hrx, rfl, c, hc, hk⟩ := L.joined k a rx new hm
  obtain ⟨hlt, hplace⟩ := L.sound.placed rx hrx
  have unanswered (hw : rx ∈ t.waiters (t.joinedAt rx)) : ¬ Answered h t (t.joinedAt rx) rx := by
    rintro ⟨v, -, hv⟩
    rw [(L.sound.waiting _ rx hw).2.2] at hv
    simp at hv
  by_cases hmap : ∃ k', t.entries.lookup k' = some (t.joinedAt rx)
  · obtain ⟨k', hl⟩ := hmap
    obtain ⟨c', hc', hk'⟩ := L.sound.mapped k' _ hl
    obtain rfl : c = c' := by simpa [hc] using hc'
    obtain rfl : k' = k := hk'.symm.trans hk
    have hw : rx ∈ t.waiters (t.joinedAt rx) := by
      rcases hplace with hw | ⟨hw, -⟩
      · exact hw
      · exact absurd hw (L.sound.busy k' _ hl)
    refine Or.inl ⟨⟨hl, hw⟩, ?_, unanswered hw⟩
    rintro ⟨⟨k₁, hk₁⟩, -⟩
    exact (L.taken k₁ _ hk₁).2 k' hl
  · have hout : ∀ k', t.entries.lookup k' ≠ some (t.joinedAt rx) := fun k' h' => hmap ⟨k', h'⟩
    have unmapped : ¬ Waits t k (t.joinedAt rx) rx := fun hw => hout k hw.1
    obtain ⟨k₁, htaken⟩ := L.left _ hlt hout
    rcases hplace with hw | ⟨hw, v, hv⟩
    · refine Or.inr (Or.inl ⟨unmapped, ⟨⟨k₁, htaken⟩, fun v hv => ?_, hw⟩, unanswered hw⟩)
      rw [(L.completed _ v hv).2] at hw
      simp at hw
    · refine Or.inr (Or.inr ⟨unmapped, ?_, v, L.sent rx v (by simp [hv]), hv⟩)
      rintro ⟨-, -, hw'⟩
      rw [hw] at hw'
      simp at hw'

end SingleFlight
