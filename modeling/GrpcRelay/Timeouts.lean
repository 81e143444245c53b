import GrpcRelay.Custody

/-!
# Timeouts

The timeout task of an entry is never cancelled and, when it fires, looks its entry up again by
device and sequence number.  `Timers` is what holds in every run: an entry in the map has its
timeout task sleeping, for the key of the entry and until `inflight_timeout` after the entry was
opened.

A key can be opened again while the timeout task of an earlier entry still sleeps.  In runs in which
this does not happen to a key, the timeout tasks of its entries take no others than their own.
-/

namespace GrpcRelay

/-- Every mapped entry has a sleeping timeout task, and every sleeping task is as old as its
entry. -/
structure Timers (cfg : Config) (s : State) : Prop where
  mapped : ∀ k a, s.shared.table.entries.lookup k = some a →
    ∃ deadline, s.shared.timer a = .sleeping k.1 k.2 deadline
  opened : ∀ e d q deadline, s.shared.timer e = .sleeping d q deadline →
    ∃ t rx, .inflight t (.joined (d, q) e rx true) ∈ s.trace ∧ deadline = t + cfg.inflightTimeout

variable {cfg : Config} {s s' : State}

theorem timers_init : Timers cfg (State.init cfg) where
  mapped := by simp [State.init, Shared.init, RelayState.new, SingleFlight.Table.empty]
  opened := by simp [State.init, Shared.init]

namespace Timers

variable (T : Timers cfg s)

include T

/-- A step that opens no entry and leaves the timeout tasks alone. -/
theorem keep (timer : s'.shared.timer = s.shared.timer)
    (entries : ∀ k a, s'.shared.table.entries.lookup k = some a →
      s.shared.table.entries.lookup k = some a)
    {events : List Event} (trace : s'.trace = s.trace ++ events) : Timers cfg s' where
  mapped k a h := by
    rw [timer]
    exact T.mapped k a (entries k a h)
  opened e d q deadline h := by
    rw [timer] at h
    obtain ⟨t, rx, hj, ht⟩ := T.opened e d q deadline h
    exact ⟨t, rx, by rw [trace]; exact List.mem_append_left _ hj, ht⟩

/-- A timeout task that moves on had no entry of its key left in the map. -/
theorem advance {e : ℕ} {t : Timer} (awake : ∀ d q deadline, t ≠ .sleeping d q deadline)
    (timer : s'.shared.timer = Function.update s.shared.timer e t)
    (entries : ∀ k a, s'.shared.table.entries.lookup k = some a →
      s.shared.table.entries.lookup k = some a)
    (gone : ∀ d q deadline, s.shared.timer e = .sleeping d q deadline →
      s'.shared.table.entries.lookup (d, q) = none)
    {events : List Event} (trace : s'.trace = s.trace ++ events) : Timers cfg s' where
  mapped k a h := by
    obtain ⟨deadline, ht⟩ := T.mapped k a (entries k a h)
    have hne : a ≠ e := by
      rintro rfl
      rw [gone k.1 k.2 deadline ht] at h
      cases h
    exact ⟨deadline, by rw [timer, Function.update_of_ne hne, ht]⟩
  opened e' d q deadline h := by
    rw [timer] at h
    by_cases he : e' = e
    · subst he
      rw [Function.update_self] at h
      exact absurd h (awake d q deadline)
    · rw [Function.update_of_ne he] at h
      obtain ⟨t, rx, hj, ht⟩ := T.opened e' d q deadline h
      exact ⟨t, rx, by rw [trace]; exact List.mem_append_left _ hj, ht⟩

theorem stepCases (C : Custody s) {a : Action} (h : StepCases cfg s a s') : Timers cfg s' := by
  cases h with
  | ctrl c input next move =>
    rcases Controller.timer_of_moves move with ⟨ht, -, he⟩ | ⟨m, -, -, -, he, ht, hev, -⟩
    · exact T.keep ht he rfl
    · refine ⟨?_, ?_⟩
      · intro k a h
        simp only [State.afterCtrl, he, DashMap.lookup_insert_ite] at h
        simp only [State.afterCtrl, ht]
        split_ifs at h with hk
        · obtain rfl : s.shared.table.cells = a := by simpa using h
          rw [Function.update_self, hk]
          exact ⟨_, rfl⟩
        · have hne := Nat.ne_of_lt (C.run.ledger.sound.mapped_lt h)
          rw [Function.update_of_ne hne]
          exact T.mapped k a h
      · intro e d q deadline h
        simp only [State.afterCtrl, ht] at h
        by_cases hc : e = s.shared.table.cells
        · subst hc
          rw [Function.update_self] at h
          obtain ⟨rfl, rfl, rfl⟩ : m.targetDeviceId = d ∧ m.sequenceNumber = q ∧
            s.shared.now + cfg.inflightTimeout = deadline := by simpa using h
          refine ⟨s.shared.now, s.shared.table.receivers, List.mem_append_right _ ?_, rfl⟩
          rw [hev]
          exact List.mem_singleton.2 rfl
        · rw [Function.update_of_ne hc] at h
          obtain ⟨t, rx, hj, ht⟩ := T.opened e d q deadline h
          exact ⟨t, rx, List.mem_append_left _ hj, ht⟩
  | dev i input next move =>
    obtain ⟨ht, -, he⟩ := Device.timer_of_moves move
    exact T.keep ht he rfl
  | fired e d q deadline entry at_pc _ _ =>
    refine T.advance (by simp) rfl
      (fun k a h => (SingleFlight.Table.lookup_of_take h).1) ?_ rfl
    intro d' q' deadline' h
    obtain ⟨rfl, rfl, -⟩ : d = d' ∧ q = q' ∧ deadline = deadline' := by simpa [at_pc] using h
    cases hl : (s.shared.table.take (d, q)).1.entries.lookup (d, q) with
    | none => exact hl
    | some a => exact absurd rfl (SingleFlight.Table.lookup_of_take hl).2
  | firedLate e d q deadline at_pc absent =>
    refine T.advance (by simp) rfl (fun _ _ h => h) ?_ rfl
    intro d' q' deadline' h
    obtain ⟨rfl, rfl, -⟩ : d = d' ∧ q = q' ∧ deadline = deadline' := by simpa [at_pc] using h
    exact absent
  | completed e d q entry at_pc =>
    exact T.advance (by simp) rfl (fun _ _ h => h) (by simp [at_pc]) rfl
  | evicted k => exact T.keep rfl (fun _ _ h => h) rfl
  | ambient _ sh' reaper' events _ inflight _ _ timer _ _ _ =>
    refine T.keep timer (fun k a h => ?_) rfl
    simp only [Shared.table, inflight] at h
    exact h

end Timers

theorem timers_of_reachable (h : Reachable cfg s) : Timers cfg s := by
  refine h.invariant timers_init ?_
  intro s a s' hr T _ hs
  exact T.stepCases (custody_of_reachable hr) (step_cases hs)

/-! ## One generation -/

/-- The step opens no entry for the key while a timeout task for that key sleeps. -/
def NoStaleTimer (k : RequestKey) (s : State) : Action → Prop
  | .ctrl c _ =>
    match (s.ctrl c).pc with
    | .joining m => m.key = k → s.shared.table.entries.lookup k = none →
        ∀ e deadline, s.shared.timer e ≠ .sleeping k.1 k.2 deadline
    | _ => True
  | _ => True

/-- A timeout task for the key finds, takes and completes no other entry than its own. -/
structure OneGeneration (cfg : Config) (k : RequestKey) (s : State) : Prop where
  finds : ∀ e deadline a, s.shared.timer e = .sleeping k.1 k.2 deadline →
    s.shared.table.entries.lookup k = some a → a = e
  completes : ∀ e a, s.shared.timer e = .completing k.1 k.2 a → a = e
  takes : ∀ t e a, .timedOut t e a ∈ s.trace → ∃ k' t₀ rx,
    .inflight t₀ (.joined k' e rx true) ∈ s.trace ∧ t₀ + cfg.inflightTimeout ≤ t ∧
      (k' = k → a = e)

variable {k : RequestKey}

theorem oneGeneration_init : OneGeneration cfg k (State.init cfg) where
  finds := by simp [State.init, Shared.init]
  completes := by simp [State.init, Shared.init]
  takes := by simp [State.init]

namespace OneGeneration

variable (G : OneGeneration cfg k s)

include G

/-- A step that times nothing out. -/
theorem keep
    (finds : ∀ e deadline a, s'.shared.timer e = .sleeping k.1 k.2 deadline →
      s'.shared.table.entries.lookup k = some a → a = e)
    (completes : ∀ e a, s'.shared.timer e = .completing k.1 k.2 a → a = e)
    {events : List Event} (trace : s'.trace = s.trace ++ events)
    (quiet : ∀ t e a, .timedOut t e a ∉ events) : OneGeneration cfg k s' := by
  refine ⟨finds, completes, ?_⟩
  intro t e a h
  rw [trace] at h ⊢
  rcases List.mem_append.1 h with h | h
  · obtain ⟨k', t₀, rx, hj, ht, own⟩ := G.takes t e a h
    exact ⟨k', t₀, rx, List.mem_append_left _ hj, ht, own⟩
  · exact absurd h (quiet t e a)

/-- A step of another task that opens no entry. -/
theorem shrink (timer : s'.shared.timer = s.shared.timer)
    (entries : ∀ k a, s'.shared.table.entries.lookup k = some a →
      s.shared.table.entries.lookup k = some a)
    {events : List Event} (trace : s'.trace = s.trace ++ events)
    (quiet : ∀ t e a, .timedOut t e a ∉ events) : OneGeneration cfg k s' := by
  refine G.keep ?_ ?_ trace quiet
  · intro e deadline a ht hl
    rw [timer] at ht
    exact G.finds e deadline a ht (entries _ a hl)
  · rw [timer]
    exact G.completes

/-- A timeout task that goes to sleep no more leaves the others alone. -/
theorem finds_update {e : ℕ} {t : Timer} (awake : ∀ d q deadline, t ≠ .sleeping d q deadline)
    (timer : s'.shared.timer = Function.update s.shared.timer e t)
    (entries : ∀ k a, s'.shared.table.entries.lookup k = some a →
      s.shared.table.entries.lookup k = some a) :
    ∀ e deadline a, s'.shared.timer e = .sleeping k.1 k.2 deadline →
      s'.shared.table.entries.lookup k = some a → a = e := by
  intro e' deadline a ht hl
  rw [timer] at ht
  by_cases he : e' = e
  · subst he
    rw [Function.update_self] at ht
    exact absurd ht (awake k.1 k.2 deadline)
  · rw [Function.update_of_ne he] at ht
    exact G.finds e' deadline a ht (entries _ a hl)

theorem completes_update {e : ℕ} {t : Timer} (own : ∀ a, t = .completing k.1 k.2 a → a = e)
    (timer : s'.shared.timer = Function.update s.shared.timer e t) :
    ∀ e a, s'.shared.timer e = .completing k.1 k.2 a → a = e := by
  intro e' a ht
  rw [timer] at ht
  by_cases he : e' = e
  · subst he
    rw [Function.update_self] at ht
    exact own a ht
  · rw [Function.update_of_ne he] at ht
    exact G.completes e' a ht

theorem stepCases (T : Timers cfg s) {a : Action} (ok : NoStaleTimer k s a)
    (h : StepCases cfg s a s') : OneGeneration cfg k s' := by
  cases h with
  | ctrl c input next move =>
    have quiet : ∀ t e a, .timedOut t e a ∉ next.events := by
      intro t e a he
      cases Controller.events_of_moves move _ he
    rcases Controller.timer_of_moves move with ⟨ht, -, he⟩ | ⟨m, hpc, habs, -, he, ht, -⟩
    · exact G.shrink ht he rfl quiet
    · simp only [NoStaleTimer, hpc] at ok
      refine G.keep ?_ (G.completes_update (by simp) ht) rfl quiet
      intro e deadline a hs hl
      simp only [State.afterCtrl, ht] at hs
      simp only [State.afterCtrl, he, DashMap.lookup_insert_ite] at hl
      by_cases hc : e = s.shared.table.cells
      · subst hc
        rw [Function.update_self] at hs
        obtain ⟨hd, hq, -⟩ : m.targetDeviceId = k.1 ∧ m.sequenceNumber = k.2 ∧
          s.shared.now + cfg.inflightTimeout = deadline := by simpa using hs
        rw [if_pos (Prod.ext hd.symm hq.symm)] at hl
        exact (Option.some.inj hl).symm
      · rw [Function.update_of_ne hc] at hs
        split_ifs at hl with hk
        · exact absurd hs (ok hk.symm (hk ▸ habs) e deadline)
        · exact G.finds e deadline a hs hl
  | dev i input next move =>
    obtain ⟨ht, -, he⟩ := Device.timer_of_moves move
    refine G.shrink ht he rfl ?_
    intro t e a hev
    cases Device.events_of_moves move _ hev with
    | plain _ plain => cases plain
  | fired e d q deadline entry at_pc due found =>
    obtain ⟨hl, -⟩ := SingleFlight.Table.take_eq_some found
    have own (same : (d, q) = k) : entry = e := by
      subst same
      exact G.finds e deadline entry at_pc hl
    refine ⟨G.finds_update (by simp) rfl
      (fun k a h => (SingleFlight.Table.lookup_of_take h).1),
      G.completes_update (fun a h => ?_) rfl, ?_⟩
    · obtain ⟨hd, hq, rfl⟩ : d = k.1 ∧ q = k.2 ∧ entry = a := by simpa using h
      exact own (Prod.ext hd hq)
    intro t e a h
    simp only [State.afterTimer, List.mem_append, List.mem_cons, reduceCtorEq, false_or,
      List.not_mem_nil, or_false, Event.timedOut.injEq] at h
    rcases h with h | ⟨rfl, rfl, rfl⟩
    · obtain ⟨k', t₀, rx, hj, ht, same⟩ := G.takes t e a h
      exact ⟨k', t₀, rx, List.mem_append_left _ hj, ht, same⟩
    · obtain ⟨t₀, rx, hj, ht⟩ := T.opened _ d q deadline at_pc
      exact ⟨(d, q), t₀, rx, List.mem_append_left _ hj, ht ▸ due, own⟩
  | firedLate e d q deadline at_pc _ =>
    exact G.keep (G.finds_update (by simp) rfl fun _ _ h => h) (G.completes_update (by simp) rfl)
      rfl (by simp)
  | completed e d q entry at_pc =>
    exact G.keep (G.finds_update (by simp) rfl fun _ _ h => h) (G.completes_update (by simp) rfl)
      rfl (by simp)
  | evicted k => exact G.shrink rfl (fun _ _ h => h) rfl (by simp)
  | ambient _ sh' reaper' events _ inflight _ _ timer _ plain _ =>
    refine G.shrink timer (fun k a h => ?_) rfl ?_
    · simp only [Shared.table, inflight] at h
      exact h
    · intro t e a he
      cases plain _ he

end OneGeneration

theorem oneGeneration_of_reachable (h : ReachableWhen cfg (NoStaleTimer k) s) :
    OneGeneration cfg k s := by
  refine h.invariant oneGeneration_init ?_
  intro s a s' hr G ok hs
  exact G.stepCases (timers_of_reachable (reachable_of_when hr)) ok (step_cases hs)

/-- In every run in which no entry for a key is opened while a timeout task for that key sleeps, a
timeout task for the key takes and completes only the entry it was spawned for; and none strikes
sooner than `inflight_timeout` after its entry was opened. -/
theorem timeout_belongs_to_one_generation (h : ReachableWhen cfg (NoStaleTimer k) s) :
    (∀ t e a, .timedOut t e a ∈ s.trace → ∃ k' t₀ rx,
      .inflight t₀ (.joined k' e rx true) ∈ s.trace ∧ t₀ + cfg.inflightTimeout ≤ t ∧
        (k' = k → a = e)) ∧
    ∀ e a, s.shared.timer e = .completing k.1 k.2 a → a = e := by
  have G := oneGeneration_of_reachable h
  exact ⟨G.takes, G.completes⟩

/-! ### Concrete runs -/

/-- The firings of timeout tasks: time, task and entry. -/
def Event.timeout : Event → Option (Instant × ℕ × ℕ)
  | .timedOut t e a => some (t, e, a)
  | _ => none

theorem mem_of_timeout {events : List Event} {t : Instant} {e a : ℕ}
    (h : (t, e, a) ∈ events.filterMap Event.timeout) : .timedOut t e a ∈ events := by
  refine Small.mem_of_filterMap ?_ h
  intro x hx
  unfold Event.timeout at hx
  split at hx
  · simpa using hx
  · cases hx

namespace Small

/-- The device is offline, registers 59 seconds later, and the controller sends its request again:
the first timeout task strikes a second after. -/
def retryRun : List Action :=
  join 0 (request 1) ++ ticks 0 4 ++ [Action.advance 59] ++ register 0 "d" "t" ++
    joinAgain 0 (request 1) ++ forward 0 ++ [Action.advance 60, .timer 0]

/-- A request that the device does not answer. -/
def unansweredRun : List Action :=
  register 0 "d" "t" ++ join 0 (request 1) ++ forward 0 ++ [Action.advance 60, .timer 0]

/-- No entry was opened before. -/
def firstEntry (s : State) : Action → Bool
  | .ctrl c _ =>
    match (s.ctrl c).pc with
    | .joining _ => s.shared.table.cells == 0
    | _ => true
  | _ => true

theorem noStaleTimer_of_firstEntry {cfg : Config} {k : RequestKey} (s : State) (a : Action)
    (hr : Reachable cfg s) (h : firstEntry s a = true) : NoStaleTimer k s a := by
  cases a with
  | ctrl c input =>
    cases hpc : (s.ctrl c).pc with
    | joining m =>
      simp only [firstEntry, hpc, beq_iff_eq] at h
      simp only [NoStaleTimer, hpc]
      intro _ _ e deadline
      rw [(custody_of_reachable hr).unset e (by omega)]
      simp
    | _ => simp [NoStaleTimer, hpc]
  | _ => trivial

end Small

/-- The timeout task of the first request, sent at second 0, takes the entry of the second one,
which was opened at second 59. -/
theorem timeout_takes_retry :
    ¬ ∀ cfg s, Reachable cfg s → ∀ t e a, .timedOut t e a ∈ s.trace → a = e ∧ ∃ k t₀ rx,
      .inflight t₀ (.joined k a rx true) ∈ s.trace ∧ t₀ + cfg.inflightTimeout ≤ t := by
  intro claim
  obtain ⟨s, hs, hf⟩ : ∃ s, execute Small.config Small.retryRun = some s ∧
      s.trace.filterMap Event.timeout = [(60, 0, 1)] :=
    Option.map_eq_some_iff.1 (by decide +kernel)
  have h : .timedOut 60 0 1 ∈ s.trace := mem_of_timeout (by simp [hf])
  exact absurd (claim _ s (reachable_of_execute hs) _ _ _ h).1 (by decide)

theorem timeout_of_unanswered_request :
    ∃ s, ReachableWhen Small.config (NoStaleTimer ("d", 1)) s ∧ .timedOut 60 0 0 ∈ s.trace ∧
      ∃ k t₀ rx, .inflight t₀ (.joined k 0 rx true) ∈ s.trace ∧ t₀ + 60 ≤ 60 := by
  obtain ⟨s, hs, hf⟩ : ∃ s, executeWhen Small.config Small.firstEntry Small.unansweredRun = some s ∧
      s.trace.filterMap Event.timeout = [(60, 0, 0)] :=
    Option.map_eq_some_iff.1 (by decide +kernel)
  have hr : ReachableWhen Small.config (NoStaleTimer ("d", 1)) s :=
    reachableWhen_of_execute Small.noStaleTimer_of_firstEntry hs
  have h : .timedOut 60 0 0 ∈ s.trace := mem_of_timeout (by simp [hf])
  obtain ⟨k, t₀, rx, joined, due, -⟩ := (timeout_belongs_to_one_generation hr).1 _ _ _ h
  exact ⟨s, hr, h, k, t₀, rx, joined, due⟩

end GrpcRelay
