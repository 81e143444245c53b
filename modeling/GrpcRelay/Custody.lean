import GrpcRelay.Moves

/-!
# Who holds an entry

An entry of the in-flight table that a task took is held by that task until the task completes it.
`TableStep` says what a step of the system does to the table and to the entries held, and `Custody`
what follows for every state of a run: the operations on the table are a run of a single-flight
table, every entry that was taken and not completed is held by exactly one task, and the response
it will be completed with names the key it was taken under.
-/

namespace GrpcRelay

/-- The tasks that take entries. -/
inductive Task where
  | ctrl (c : ℕ)
  | dev (i : ℕ)
  | timer (e : ℕ)
  deriving DecidableEq

/-- The completion that a loop is about to make. -/
def CtrlPc.pending : CtrlPc → List (ℕ × Reply)
  | .offlineCompleting m entry =>
    [(entry, Controller.offlineReply m.targetDeviceId m.sequenceNumber)]
  | _ => []

/-- The completion that a timeout task is about to make. -/
def Timer.pending : Timer → List (ℕ × Reply)
  | .completing d q entry => [(entry, Controller.offlineReply d q)]
  | _ => []

/-- The outcome of an operation of the in-flight table. -/
def Event.outcome : Event → Option InflightOutcome
  | .inflight _ o => some o
  | _ => none

namespace State

/-- The entries that a task took and has still to complete, with their responses. -/
def pending (s : State) : Task → List (ℕ × Reply)
  | .ctrl c => (s.ctrl c).pc.pending
  | .dev i => (s.dev i).pc.pending
  | .timer e => (s.shared.timer e).pending

/-- What happened to the in-flight table, oldest first. -/
def history (s : State) : List InflightOutcome := s.trace.filterMap Event.outcome

variable (s : State)

theorem pending_afterCtrl (c : ℕ) (n : Next Controller)
    (timers : ∀ e, (n.shared.timer e).pending = (s.shared.timer e).pending) :
    (s.afterCtrl c n).pending = Function.update s.pending (.ctrl c) n.loc.pc.pending := by
  funext τ
  cases τ with
  | ctrl c' =>
    by_cases h : c' = c
    · subst h
      simp [pending, afterCtrl]
    · simp [pending, afterCtrl, h]
  | dev i => simp [pending, afterCtrl]
  | timer e => simp [pending, afterCtrl, timers]

theorem pending_afterDev (i : ℕ) (n : Next Device) (timers : n.shared.timer = s.shared.timer) :
    (s.afterDev i n).pending = Function.update s.pending (.dev i) n.loc.pc.pending := by
  funext τ
  cases τ with
  | ctrl c => simp [pending, afterDev]
  | dev i' =>
    by_cases h : i' = i
    · subst h
      simp [pending, afterDev]
    · simp [pending, afterDev, h]
  | timer e => simp [pending, afterDev, timers]

theorem pending_afterTimer (e : ℕ) (n : Next Timer) (timers : n.shared.timer = s.shared.timer) :
    (s.afterTimer e n).pending = Function.update s.pending (.timer e) n.loc.pending := by
  funext τ
  cases τ with
  | ctrl c => simp [pending, afterTimer]
  | dev i => simp [pending, afterTimer]
  | timer e' =>
    by_cases h : e' = e
    · subst h
      simp [pending, afterTimer]
    · simp [pending, afterTimer, h, timers]

end State

theorem filterMap_outcome_counts {c : ℕ} {methodName : String} {events : List Event}
    (counted : ∀ e ∈ events, ∃ status, e = .requestsTotal c methodName status) :
    events.filterMap Event.outcome = [] := by
  rw [List.filterMap_eq_nil_iff]
  intro e he
  obtain ⟨status, rfl⟩ := counted e he
  rfl

theorem filterMap_outcome_plain {events : List Event} (plain : ∀ e ∈ events, e.Plain) :
    events.filterMap Event.outcome = [] := by
  rw [List.filterMap_eq_nil_iff]
  intro e he
  cases plain e he <;> rfl

/-- What a step does to the in-flight table and to the entries held. -/
inductive TableStep (s s' : State) : Prop
  | same (table : s'.shared.table = s.shared.table) (pending : s'.pending = s.pending)
      (history : s'.history = s.history)
  | join (m : ControllerMessage)
      (table : s'.shared.table = (s.shared.table.join m.key m.targetDeviceId).1)
      (pending : s'.pending = s.pending ∨
        s'.pending = Function.update s.pending (.timer s.shared.table.cells) [])
      (history : s'.history = s.history ++
        [SingleFlight.Outcome.joined m.key (s.shared.table.join m.key m.targetDeviceId).2.1
          (s.shared.table.join m.key m.targetDeviceId).2.2.1
          (s.shared.table.join m.key m.targetDeviceId).2.2.2])
  | take (τ : Task) (k : RequestKey) (a : ℕ) (r : Reply) (key : r.resp.key = k)
      (source : r.origin = .relay ∨ ∃ i response,
        s'.trace[s.trace.length]? = some (.data i k.1 response) ∧
          r = Device.dataReply s.trace.length k.1 response)
      (found : (s.shared.table.take k).2 = some a)
      (table : s'.shared.table = (s.shared.table.take k).1)
      (pending : s'.pending = Function.update s.pending τ (s.pending τ ++ [(a, r)]))
      (history : s'.history = s.history ++ [SingleFlight.Outcome.taken k a])
  | complete (τ : Task) (a : ℕ) (r : Reply) (rest : List (ℕ × Reply))
      (head : s.pending τ = (a, r) :: rest)
      (table : s'.shared.table = s.shared.table.complete a r)
      (pending : s'.pending = Function.update s.pending τ rest)
      (history : s'.history = s.history ++ [SingleFlight.Outcome.completed a r])

/-- The keys that a cleanup collected belong to its device. -/
def CollectedKeys (s : State) : Prop :=
  ∀ i did keys, (s.dev i).pc.collected = some (did, keys) → ∀ k ∈ keys, k.1 = did

variable {cfg : Config} {s s' : State}

theorem tableStep_ctrl {c : ℕ} {input : CtrlInput} {next : Next Controller}
    (move : Controller.Moves cfg s.shared c (s.ctrl c) input next) :
    TableStep s (s.afterCtrl c next) := by
  have same (timers : next.shared.timer = s.shared.timer)
      (table : next.shared.table = s.shared.table)
      (pending : next.loc.pc.pending = (s.ctrl c).pc.pending)
      (events : next.events.filterMap Event.outcome = []) : TableStep s (s.afterCtrl c next) := by
    refine .same table ?_ ?_
    · rw [s.pending_afterCtrl c next (fun e => by rw [timers]), pending]
      exact Function.update_eq_self (Task.ctrl c) s.pending
    · simp [State.history, State.afterCtrl, events]
  cases move with
  | pulled m at_pc _ => exact same rfl rfl (by rw [at_pc]; rfl) rfl
  | pulledBound m at_pc _ => exact same rfl rfl (by rw [at_pc]; rfl) rfl
  | pulledBad m resp at_pc _ => exact same rfl rfl (by rw [at_pc]; rfl) rfl
  | refused m resp sh' connected counts at_pc quiet _ counted =>
    refine same quiet.timer quiet.inflight ?_ ?_
    · rcases at_pc with h | h | h <;> rw [h] <;> rfl
    · rw [List.filterMap_append, filterMap_outcome_counts counted]
      rfl
  | authorized m controller device sh' connected at_pc quiet _ _ _ =>
    exact same quiet.timer quiet.inflight (by rw [at_pc]; rfl) rfl
  | allowed m sh' at_pc quiet _ => exact same quiet.timer quiet.inflight (by rw [at_pc]; rfl) rfl
  | mapped m streamId sh' at_pc quiet _ =>
    exact same quiet.timer quiet.inflight (by rw [at_pc]; rfl) rfl
  | begun m sh' at_pc quiet => exact same quiet.timer quiet.inflight (by rw [at_pc]; rfl) rfl
  | hit m r at_pc _ => exact same rfl rfl (by rw [at_pc]; rfl) rfl
  | missed m at_pc _ => exact same rfl rfl (by rw [at_pc]; rfl) rfl
  | opened m at_pc absent =>
    refine .join m rfl (Or.inr ?_) ?_
    · funext τ
      by_cases h : τ = .timer s.shared.table.cells
      · subst h
        simp [State.pending, State.afterCtrl, Timer.pending]
      · rw [Function.update_of_ne h]
        cases τ with
        | ctrl c' =>
          by_cases hc : c' = c
          · subst hc
            simp [State.pending, State.afterCtrl, Controller.goto, at_pc, CtrlPc.pending]
          · simp [State.pending, State.afterCtrl, hc]
        | dev i => rfl
        | timer e =>
          have he : e ≠ s.shared.table.cells := fun he => h (he ▸ rfl)
          simp [State.pending, State.afterCtrl, he]
    · rw [SingleFlight.Table.join_of_none absent]
      exact List.filterMap_append
  | joined m entry at_pc found =>
    refine .join m rfl (Or.inl ?_) ?_
    · rw [State.pending_afterCtrl _ _ _ (fun e => rfl)]
      simp [State.pending, Controller.goto, at_pc, CtrlPc.pending]
    · rw [SingleFlight.Table.join_of_some found]
      exact List.filterMap_append
  | routed m rx session at_pc _ => exact same rfl rfl (by rw [at_pc]; rfl) rfl
  | unrouted m rx at_pc _ => exact same rfl rfl (by rw [at_pc]; rfl) rfl
  | metered m rx session readings sh' at_pc quiet =>
    exact same quiet.timer quiet.inflight (by rw [at_pc]; rfl) rfl
  | throttled m rx session readings sh' resp at_pc quiet _ _ =>
    exact same quiet.timer quiet.inflight (by rw [at_pc]; rfl) rfl
  | placed m rx session at_pc => exact same rfl rfl (by rw [at_pc]; rfl) rfl
  | unsent m rx session at_pc _ => exact same rfl rfl (by rw [at_pc]; rfl) rfl
  | took m rx entry at_pc found =>
    refine .take (.ctrl c) m.key entry (Controller.offlineReply m.targetDeviceId m.sequenceNumber)
      rfl (Or.inl rfl) found rfl ?_ ?_
    · rw [State.pending_afterCtrl _ _ _ (fun e => rfl)]
      simp [State.pending, at_pc, CtrlPc.pending, Controller.goto]
    · exact List.filterMap_append
  | tookNothing m rx at_pc _ => exact same rfl rfl (by rw [at_pc]; rfl) rfl
  | completed m entry at_pc =>
    refine .complete (.ctrl c) entry (Controller.offlineReply m.targetDeviceId m.sequenceNumber)
      [] ?_ rfl ?_ ?_
    · simp [State.pending, at_pc, CtrlPc.pending]
    · rw [State.pending_afterCtrl _ _ _ (fun e => rfl)]
      simp [CtrlPc.pending, Controller.goto]
    · exact List.filterMap_append
  | received m rx r at_pc _ => exact same rfl rfl (by rw [at_pc]; rfl) rfl
  | receivedShared m rx r at_pc _ => exact same rfl rfl (by rw [at_pc]; rfl) rfl
  | closed m rx isNewForwarder resp at_pc _ _ => exact same rfl rfl (by rw [at_pc]; rfl) rfl
  | cached m r at_pc => exact same rfl rfl (by rw [at_pc]; rfl) rfl
  | finished m r status sh' at_pc quiet =>
    exact same quiet.timer quiet.inflight (by rw [at_pc]; rfl) rfl
  | sent m r at_pc => exact same rfl rfl (by rw [at_pc]; rfl) rfl
  | rested m sh' at_pc quiet =>
    refine same quiet.timer quiet.inflight ?_ rfl
    rcases at_pc with h | h <;> rw [h] <;> rfl
  | ended input pc' sh' at_pc quiet =>
    refine same quiet.timer quiet.inflight ?_ rfl
    rcases at_pc with ⟨h, rfl⟩ | ⟨h, rfl⟩ | ⟨h, rfl⟩ <;> rw [h] <;> rfl

theorem tableStep_dev (hk : CollectedKeys s) {i : ℕ} {next : Next Device}
    (move : Device.Moves s.shared s.trace.length i (s.dev i) next) :
    TableStep s (s.afterDev i next) := by
  have same (timers : next.shared.timer = s.shared.timer)
      (table : next.shared.table = s.shared.table)
      (pending : next.loc.pc.pending = (s.dev i).pc.pending)
      (events : next.events.filterMap Event.outcome = []) : TableStep s (s.afterDev i next) := by
    refine .same table ?_ ?_
    · rw [s.pending_afterDev i next timers, pending]
      exact Function.update_eq_self (Task.dev i) s.pending
    · simp [State.history, State.afterDev, events]
  cases move with
  | silent sh' pc' connectionId events quiet pending _ _ plain _ =>
    exact same quiet.timer quiet.inflight pending (filterMap_outcome_plain plain)
  | authenticated msg request p at_pc _ => exact same rfl rfl (by rw [at_pc]; rfl) rfl
  | answered msg deviceId response entry at_pc _ found =>
    refine .take (.dev i) (deviceId, response.sequenceNumber) entry
      (Device.dataReply s.trace.length deviceId response) rfl
      (Or.inr ⟨i, response, by simp [State.afterDev], rfl⟩) found rfl ?_ ?_
    · rw [State.pending_afterDev _ _ _ rfl]
      simp [State.pending, at_pc, DevPc.pending, Device.goto]
    · exact List.filterMap_append
  | unasked msg deviceId response at_pc _ _ => exact same rfl rfl (by rw [at_pc]; rfl) rfl
  | installed msg session resumed pc' _ _ _ pending _ _ =>
    exact same rfl rfl (pending.2.trans pending.1.symm) rfl
  | completed entry r at_pc =>
    refine .complete (.dev i) entry r [] ?_ rfl ?_ ?_
    · simp [State.pending, at_pc, DevPc.pending]
    · rw [State.pending_afterDev _ _ _ rfl]
      simp [DevPc.pending, Device.goto]
    · exact List.filterMap_append
  | visited did reason keys key entry at_pc _ _ => exact same rfl rfl (by rw [at_pc]; rfl) rfl
  | swept did reason key keys taken entry at_pc found =>
    have hdid : key.1 = did := hk i did (key :: keys) (by rw [at_pc]; rfl) key (by simp)
    refine .take (.dev i) key entry (Controller.offlineReply did key.2) ?_ (Or.inl rfl) found rfl
      ?_ ?_
    · rw [← hdid]
      rfl
    · rw [State.pending_afterDev _ _ _ rfl]
      simp [State.pending, at_pc, DevPc.pending, Device.goto]
    · exact List.filterMap_append
  | drained did reason seq entry taken removed at_pc =>
    refine .complete (.dev i) entry (Controller.offlineReply did seq)
      (taken.map fun e => (e.2, Controller.offlineReply did e.1)) ?_ rfl ?_ ?_
    · simp [State.pending, at_pc, DevPc.pending]
    · rw [State.pending_afterDev _ _ _ rfl]
      simp [DevPc.pending, Device.goto]
    · exact List.filterMap_append
  | removedSession did connectionId at_pc => exact same rfl rfl (by rw [at_pc]; rfl) rfl

theorem tableStep_of_cases (hk : CollectedKeys s) {a : Action} (h : StepCases cfg s a s') :
    TableStep s s' := by
  cases h with
  | ctrl c input next move => exact tableStep_ctrl move
  | dev i input next move => exact tableStep_dev hk move
  | fired e d q deadline entry at_pc _ found =>
    refine .take (.timer e) (d, q) entry (Controller.offlineReply d q) rfl (Or.inl rfl) found rfl
      ?_ ?_
    · rw [State.pending_afterTimer _ _ _ rfl]
      simp [State.pending, at_pc, Timer.pending]
    · exact List.filterMap_append
  | firedLate e d q deadline at_pc _ =>
    refine .same rfl ?_ (by simp [State.history, State.afterTimer])
    rw [State.pending_afterTimer _ _ _ rfl]
    refine (congrArg _ ?_).trans (Function.update_eq_self (Task.timer e) s.pending)
    simp [State.pending, at_pc, Timer.pending]
  | completed e d q entry at_pc =>
    refine .complete (.timer e) entry (Controller.offlineReply d q) [] ?_ rfl ?_ ?_
    · simp [State.pending, at_pc, Timer.pending]
    · rw [State.pending_afterTimer _ _ _ rfl]
      rfl
    · exact List.filterMap_append
  | evicted k =>
    refine .same rfl ?_ (by simp [State.history, Event.outcome])
    funext τ
    cases τ <;> rfl
  | ambient _ sh' reaper' events _ inflight _ _ timer _ plain _ =>
    refine .same inflight ?_ (by simp [State.history, filterMap_outcome_plain plain])
    funext τ
    cases τ with
    | ctrl c => rfl
    | dev i => rfl
    | timer e => simp [State.pending, timer]

/-! ## The invariant -/

/-- The table is that of a run of single-flight operations, and every entry taken and not
completed is held by one task. -/
structure Custody (s : State) : Prop where
  run : SingleFlight.Run s.history s.shared.table
  tagged : ∀ a c, s.shared.table.cell a = some c → c.tag = c.key.1
  collected : CollectedKeys s
  unset : ∀ e, s.shared.table.cells ≤ e → s.shared.timer e = .unset
  held : ∀ τ a r, (a, r) ∈ s.pending τ →
    .taken r.resp.key a ∈ s.history ∧ ∀ v, .completed a v ∉ s.history
  nodup : ∀ τ, ((s.pending τ).map Prod.fst).Nodup
  disjoint : ∀ τ τ' a r r', (a, r) ∈ s.pending τ → (a, r') ∈ s.pending τ' → τ = τ'
  covered : ∀ k a, .taken k a ∈ s.history → (∀ v, .completed a v ∉ s.history) →
    ∃ τ r, (a, r) ∈ s.pending τ
  named : ∀ a r, .completed a r ∈ s.history → .taken r.resp.key a ∈ s.history

theorem custody_init : Custody (State.init cfg) where
  run := .start
  tagged := by simp [State.init, Shared.init, RelayState.new, SingleFlight.Table.empty]
  collected := by simp [CollectedKeys, State.init, DevPc.collected]
  unset := fun _ _ => rfl
  held := by
    rintro (c | i | e) a r h <;> simp [State.pending, State.init, CtrlPc.pending, DevPc.pending,
      Shared.init, Timer.pending] at h
  nodup := by
    rintro (c | i | e) <;> simp [State.pending, State.init, CtrlPc.pending, DevPc.pending,
      Shared.init, Timer.pending]
  disjoint := by
    rintro (c | i | e) τ' a r r' h <;> simp [State.pending, State.init, CtrlPc.pending,
      DevPc.pending, Shared.init, Timer.pending] at h
  covered := by simp [State.history, State.init]
  named := by simp [State.history, State.init]

namespace Custody

variable (C : Custody s)

include C

/-- An entry that is in the map is held by nobody and was not completed. -/
theorem free_of_mapped {k : RequestKey} {a : ℕ} (h : s.shared.table.entries.lookup k = some a) :
    (∀ τ r, (a, r) ∉ s.pending τ) ∧ ∀ v, .completed a v ∉ s.history := by
  have L := C.run.ledger
  constructor
  · intro τ r hm
    exact (L.taken _ a (C.held τ a r hm).1).2 k h
  · intro v hv
    exact L.sound.busy k a h (L.completed a v hv).2

section Step

variable (collected : CollectedKeys s')
  (unset : ∀ e, s'.shared.table.cells ≤ e → s'.shared.timer e = .unset)

include collected unset

theorem same (table : s'.shared.table = s.shared.table) (pending : s'.pending = s.pending)
    (history : s'.history = s.history) : Custody s' := by
  refine ⟨?_, ?_, collected, unset, ?_, ?_, ?_, ?_, ?_⟩
  · rw [history, table]
    exact C.run
  · rw [table]
    exact C.tagged
  · rw [pending, history]
    exact C.held
  · rw [pending]
    exact C.nodup
  · rw [pending]
    exact C.disjoint
  · rw [pending, history]
    exact C.covered
  · rw [history]
    exact C.named

theorem join {m : ControllerMessage}
    (table : s'.shared.table = (s.shared.table.join m.key m.targetDeviceId).1)
    (pending : s'.pending = s.pending ∨
      s'.pending = Function.update s.pending (.timer s.shared.table.cells) [])
    (history : s'.history = s.history ++
      [SingleFlight.Outcome.joined m.key (s.shared.table.join m.key m.targetDeviceId).2.1
        (s.shared.table.join m.key m.targetDeviceId).2.2.1
        (s.shared.table.join m.key m.targetDeviceId).2.2.2]) : Custody s' := by
  have hold (τ : Task) (a : ℕ) (r : Reply) (h : (a, r) ∈ s'.pending τ) : (a, r) ∈ s.pending τ := by
    rcases pending with hp | hp
    · rwa [hp] at h
    · rw [hp] at h
      by_cases hτ : τ = .timer s.shared.table.cells
      · subst hτ
        simp at h
      · rwa [Function.update_of_ne hτ] at h
  refine ⟨?_, ?_, collected, unset, ?_, ?_, ?_, ?_, ?_⟩
  · rw [history, table]
    exact C.run.join m.key m.targetDeviceId
  · intro a c hc
    rw [table] at hc
    rcases SingleFlight.Table.cell_join hc with ⟨c₀, h₀, hk, ht⟩ | ⟨hk, ht⟩
    · rw [← ht, ← hk]
      exact C.tagged a c₀ h₀
    · rw [hk, ht]
      rfl
  · intro τ a r h
    obtain ⟨h1, h2⟩ := C.held τ a r (hold τ a r h)
    rw [history]
    exact ⟨List.mem_append_left _ h1, fun v hv => h2 v (by simpa using hv)⟩
  · intro τ
    rcases pending with hp | hp
    · rw [hp]
      exact C.nodup τ
    · rw [hp]
      by_cases hτ : τ = .timer s.shared.table.cells
      · subst hτ
        simp
      · rw [Function.update_of_ne hτ]
        exact C.nodup τ
  · intro τ τ' a r r' h h'
    exact C.disjoint τ τ' a r r' (hold τ a r h) (hold τ' a r' h')
  · intro k a ht hc
    rw [history] at ht hc
    obtain ⟨τ, r, h⟩ := C.covered k a (by simpa using ht) fun v hv =>
      hc v (List.mem_append_left _ hv)
    refine ⟨τ, r, ?_⟩
    rcases pending with hp | hp
    · rwa [hp]
    · have hτ : τ ≠ .timer s.shared.table.cells := by
        rintro rfl
        simp [State.pending, C.unset _ le_rfl, Timer.pending] at h
      rwa [hp, Function.update_of_ne hτ]
  · intro a r hc
    rw [history] at hc ⊢
    exact List.mem_append_left _ (C.named a r (by simpa using hc))

theorem take {τ : Task} {k : RequestKey} {a : ℕ} {r : Reply} (key : r.resp.key = k)
    (found : (s.shared.table.take k).2 = some a)
    (table : s'.shared.table = (s.shared.table.take k).1)
    (pending : s'.pending = Function.update s.pending τ (s.pending τ ++ [(a, r)]))
    (history : s'.history = s.history ++ [SingleFlight.Outcome.taken k a]) : Custody s' := by
  obtain ⟨hl, he⟩ := SingleFlight.Table.take_eq_some found
  obtain ⟨hfree, hopen⟩ := C.free_of_mapped hl
  have hcases (τ' : Task) (b : ℕ) (r' : Reply) (h : (b, r') ∈ s'.pending τ') :
      (b, r') ∈ s.pending τ' ∨ τ' = τ ∧ b = a ∧ r' = r := by
    rw [pending] at h
    by_cases hτ : τ' = τ
    · subst hτ
      simpa using h
    · rw [Function.update_of_ne hτ] at h
      exact Or.inl h
  refine ⟨?_, ?_, collected, unset, ?_, ?_, ?_, ?_, ?_⟩
  · rw [history, table]
    exact C.run.take k a found
  · rw [table, he]
    exact C.tagged
  · intro τ' b r' h
    rw [history]
    rcases hcases τ' b r' h with h | ⟨rfl, rfl, rfl⟩
    · obtain ⟨h1, h2⟩ := C.held τ' b r' h
      exact ⟨List.mem_append_left _ h1, fun v hv => h2 v (by simpa using hv)⟩
    · exact ⟨by simp [key], fun v hv => hopen v (by simpa using hv)⟩
  · intro τ'
    rw [pending]
    by_cases hτ : τ' = τ
    · subst hτ
      rw [Function.update_self, List.map_append]
      refine List.Nodup.append (C.nodup τ') (List.nodup_singleton _) ?_
      simp only [List.disjoint_singleton, List.map_cons, List.map_nil, List.mem_map, not_exists]
      rintro ⟨b, r'⟩ ⟨hm, rfl⟩
      exact hfree τ' r' hm
    · rw [Function.update_of_ne hτ]
      exact C.nodup τ'
  · intro τ₁ τ₂ b r₁ r₂ h₁ h₂
    rcases hcases τ₁ b r₁ h₁ with h₁ | ⟨rfl, rfl, -⟩
    · rcases hcases τ₂ b r₂ h₂ with h₂ | ⟨-, rfl, -⟩
      · exact C.disjoint τ₁ τ₂ b r₁ r₂ h₁ h₂
      · exact absurd h₁ (hfree τ₁ r₁)
    · rcases hcases τ₂ b r₂ h₂ with h₂ | ⟨rfl, -, -⟩
      · exact absurd h₂ (hfree τ₂ r₂)
      · rfl
  · intro k' b ht hc
    rw [history] at ht hc
    simp only [List.mem_append, List.mem_singleton, SingleFlight.Outcome.taken.injEq] at ht
    rw [pending]
    rcases ht with ht | ⟨-, rfl⟩
    · obtain ⟨τ', r', h⟩ := C.covered k' b ht fun v hv => hc v (List.mem_append_left _ hv)
      refine ⟨τ', r', ?_⟩
      by_cases hτ : τ' = τ
      · subst hτ
        rw [Function.update_self]
        exact List.mem_append_left _ h
      · rwa [Function.update_of_ne hτ]
    · exact ⟨τ, r, by simp⟩
  · intro b r' hc
    rw [history] at hc ⊢
    exact List.mem_append_left _ (C.named b r' (by simpa using hc))

theorem complete {τ : Task} {a : ℕ} {r : Reply} {rest : List (ℕ × Reply)}
    (head : s.pending τ = (a, r) :: rest)
    (table : s'.shared.table = s.shared.table.complete a r)
    (pending : s'.pending = Function.update s.pending τ rest)
    (history : s'.history = s.history ++ [SingleFlight.Outcome.completed a r]) : Custody s' := by
  have hhead : (a, r) ∈ s.pending τ := by simp [head]
  obtain ⟨ht, hopen⟩ := C.held τ a r hhead
  have hnodup := C.nodup τ
  rw [head, List.map_cons, List.nodup_cons] at hnodup
  have hold (τ' : Task) (b : ℕ) (r' : Reply) (h : (b, r') ∈ s'.pending τ') :
      (b, r') ∈ s.pending τ' ∧ b ≠ a := by
    rw [pending] at h
    by_cases hτ : τ' = τ
    · subst hτ
      rw [Function.update_self] at h
      refine ⟨by simp [head, h], ?_⟩
      rintro rfl
      exact hnodup.1 (List.mem_map.2 ⟨(b, r'), h, rfl⟩)
    · rw [Function.update_of_ne hτ] at h
      refine ⟨h, ?_⟩
      rintro rfl
      exact hτ (C.disjoint τ' τ b r' r h hhead)
  refine ⟨?_, ?_, collected, unset, ?_, ?_, ?_, ?_, ?_⟩
  · rw [history, table]
    exact C.run.complete _ a r ht hopen
  · intro b c hc
    rw [table] at hc
    obtain ⟨c₀, h₀, hk, htag⟩ := SingleFlight.Table.cell_complete hc
    rw [← htag, ← hk]
    exact C.tagged b c₀ h₀
  · intro τ' b r' h
    obtain ⟨hm, hne⟩ := hold τ' b r' h
    obtain ⟨h1, h2⟩ := C.held τ' b r' hm
    rw [history]
    refine ⟨List.mem_append_left _ h1, fun v hv => ?_⟩
    simp only [List.mem_append, List.mem_singleton, SingleFlight.Outcome.completed.injEq] at hv
    rcases hv with hv | ⟨hb, -⟩
    · exact h2 v hv
    · exact hne hb
  · intro τ'
    rw [pending]
    by_cases hτ : τ' = τ
    · subst hτ
      rw [Function.update_self]
      exact hnodup.2
    · rw [Function.update_of_ne hτ]
      exact C.nodup τ'
  · intro τ₁ τ₂ b r₁ r₂ h₁ h₂
    exact C.disjoint τ₁ τ₂ b r₁ r₂ (hold τ₁ b r₁ h₁).1 (hold τ₂ b r₂ h₂).1
  · intro k b hb hc
    rw [history] at hb hc
    have hne : b ≠ a := by
      rintro rfl
      exact hc r (by simp)
    obtain ⟨τ', r', h⟩ := C.covered k b (by simpa using hb) fun v hv =>
      hc v (List.mem_append_left _ hv)
    refine ⟨τ', r', ?_⟩
    rw [pending]
    by_cases hτ : τ' = τ
    · subst hτ
      rw [head] at h
      rw [Function.update_self]
      simpa [hne] using h
    · rwa [Function.update_of_ne hτ]
  · intro b r' hc
    rw [history] at hc ⊢
    simp only [List.mem_append, List.mem_singleton, SingleFlight.Outcome.completed.injEq] at hc
    rcases hc with hc | ⟨rfl, rfl⟩
    · exact List.mem_append_left _ (C.named b r' hc)
    · exact List.mem_append_left _ ht

theorem tableStep (h : TableStep s s') : Custody s' := by
  cases h with
  | same table pending history => exact C.same collected unset table pending history
  | join m table pending history => exact C.join collected unset table pending history
  | take τ k a r key _ found table pending history =>
    exact C.take collected unset key found table pending history
  | complete τ a r rest head table pending history =>
    exact C.complete collected unset head table pending history

end Step

/-- What a step of a device stream adds to the keys collected belongs to its device. -/
theorem collectedKeys {a : Action} (h : StepCases cfg s a s') : CollectedKeys s' := by
  have others {i : ℕ} {next : Next Device}
      (mover : ∀ did keys, next.loc.pc.collected = some (did, keys) → ∀ k ∈ keys, k.1 = did) :
      CollectedKeys (s.afterDev i next) := by
    intro i' did keys hc
    by_cases hi : i' = i
    · subst hi
      exact mover did keys (by simpa [State.afterDev] using hc)
    · exact C.collected i' did keys (by simpa [State.afterDev, hi] using hc)
  cases h with
  | dev i input next move =>
    apply others
    intro did keys hc k hk
    cases move with
    | silent sh' pc' connectionId events _ _ _ collected _ _ =>
      rcases collected did keys hc with rfl | ⟨keys', hc', hsub⟩
      · simp at hk
      · exact C.collected i did keys' hc' k (hsub hk)
    | installed msg session resumed pc' _ _ _ _ _ collected =>
      rw [show ((s.dev i).goto pc').pc.collected = none from collected] at hc
      simp at hc
    | visited did' reason keys' key entry at_pc met tagged =>
      obtain ⟨rfl, rfl⟩ : did' = did ∧ keys' ++ [key] = keys := by
        simpa [DevPc.collected, Device.goto] using hc
      rcases List.mem_append.1 hk with hk | hk
      · exact C.collected i did' keys' (by rw [at_pc]; rfl) k hk
      · rw [List.mem_singleton] at hk
        subst hk
        obtain ⟨c, hcell, hkey⟩ := C.run.ledger.sound.mapped k entry met
        rw [hcell, Option.map_some, Option.some.injEq] at tagged
        rw [← tagged, C.tagged entry c hcell, hkey]
    | swept did' reason key keys' taken entry at_pc _ =>
      obtain ⟨rfl, rfl⟩ : did' = did ∧ keys' = keys := by
        simpa [DevPc.collected, Device.goto] using hc
      exact C.collected i did' (key :: keys') (by rw [at_pc]; rfl) k (List.mem_cons_of_mem _ hk)
    | authenticated | answered | unasked | completed | drained | removedSession =>
      simp [DevPc.collected, Device.goto] at hc
  | ctrl | fired | firedLate | completed | evicted | ambient => exact C.collected

/-- The timer of an entry that is not opened yet is not set. -/
theorem unset_of_cases {a : Action} (h : StepCases cfg s a s') :
    ∀ e, s'.shared.table.cells ≤ e → s'.shared.timer e = .unset := by
  have other {e : ℕ} (hset : s.shared.timer e ≠ .unset) (t : Timer) (e' : ℕ)
      (he : s.shared.table.cells ≤ e') : Function.update s.shared.timer e t e' = .unset := by
    have hne : e' ≠ e := by
      rintro rfl
      exact hset (C.unset e' he)
    rw [Function.update_of_ne hne]
    exact C.unset e' he
  intro e he
  cases h with
  | ctrl c input next move =>
    rcases Controller.timer_of_moves move with ⟨ht, hc, -⟩ | ⟨m, -, -, hc, -, ht, -⟩
    · simp only [State.afterCtrl, hc] at he
      simp only [State.afterCtrl, ht]
      exact C.unset e he
    · simp only [State.afterCtrl, hc] at he
      have hne : e ≠ s.shared.table.cells := by omega
      simp only [State.afterCtrl, ht, Function.update_of_ne hne]
      exact C.unset e (by omega)
  | dev i input next move =>
    obtain ⟨ht, hc, -⟩ := Device.timer_of_moves move
    simp only [State.afterDev, hc] at he
    simp only [State.afterDev, ht]
    exact C.unset e he
  | fired e' d q deadline entry at_pc _ _ =>
    change (s.shared.table.take (d, q)).1.cells ≤ e at he
    rw [SingleFlight.Table.take_cells] at he
    exact other (by simp [at_pc]) _ e he
  | firedLate e' d q deadline at_pc _ => exact other (by simp [at_pc]) _ e he
  | completed e' d q entry at_pc => exact other (by simp [at_pc]) _ e he
  | evicted k => exact C.unset e he
  | ambient _ sh' reaper' events _ inflight _ _ timer _ _ _ =>
    simp only [inflight] at he
    simp only [timer]
    exact C.unset e he

end Custody

theorem custody_of_reachable (h : Reachable cfg s) : Custody s := by
  refine h.invariant custody_init ?_
  intro s a s' _ C _ hs
  have hc := step_cases hs
  exact C.tableStep (C.collectedKeys hc) (C.unset_of_cases hc) (tableStep_of_cases C.collected hc)

end GrpcRelay
