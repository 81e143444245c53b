import GrpcRelay.Forwarders
import GrpcRelay.Identity

/-!
# What the idempotency cache holds

A new forwarder inserts whatever its receiver gets into the cache, and the responses that the relay
makes up come through the same receiver: those of a timeout, of a disconnect, and of another loop
that gave up on the key.  As long as the relay takes no entry of a key in which a new forwarder
waits, only answers of the device are inserted for it.
-/

namespace GrpcRelay

/-- The key of the entry that the step is going to take to complete it with `DEVICE_OFFLINE`. -/
def State.relayTakes (s : State) : Action → Option RequestKey
  | .ctrl c _ =>
    match (s.ctrl c).pc with
    | .offlineTaking m _ => some m.key
    | _ => none
  | .dev i _ =>
    match (s.dev i).pc with
    | .sweeping _ _ (key :: _) _ => some key
    | _ => none
  | .timer e =>
    match s.shared.timer e with
    | .sleeping d q _ => some (d, q)
    | _ => none
  | _ => none

/-- If the step takes the entry of the key for the relay, no new forwarder waits in it. -/
def TakesUnawaited (k : RequestKey) (s : State) (a : Action) : Prop :=
  ∀ e, s.relayTakes a = some k → s.shared.table.entries.lookup k = some e →
    ∀ c m rx, (s.ctrl c).pc.forwarder = some (m, rx) → rx ∉ s.shared.table.waiters e

/-- The new forwarder of the entry, which is for the key, has still to receive the response. -/
def State.Awaited (s : State) (k : RequestKey) (a : ℕ) : Prop :=
  ∃ c m rx, (s.ctrl c).pc.forwarder = some (m, rx) ∧ m.key = k ∧ .joined k a rx true ∈ s.history

/-- A loop holds an entry after a step only when it gave up on its key and took the entry. -/
theorem Controller.pending_of_moves {cfg : Config} {sh : Shared} {c : ℕ} {l : Controller}
    {input : CtrlInput} {next : Next Controller} (move : Moves cfg sh c l input next) {a : ℕ}
    {r : Reply} (h : (a, r) ∈ next.loc.pc.pending) :
    ∃ m rx, l.pc = .offlineTaking m rx ∧ sh.table.entries.lookup m.key = some a ∧
      r = offlineReply m.targetDeviceId m.sequenceNumber := by
  cases move
  case took m rx entry at_pc found =>
    obtain ⟨rfl, hr⟩ : a = entry ∧ r = offlineReply m.targetDeviceId m.sequenceNumber := by
      simpa [CtrlPc.pending, goto] using h
    exact ⟨m, rx, at_pc, (SingleFlight.Table.take_eq_some found).1, hr⟩
  case ended at_pc _ =>
    rcases at_pc with ⟨-, rfl⟩ | ⟨-, rfl⟩ | ⟨-, rfl⟩ <;> simp [CtrlPc.pending, goto] at h
  all_goals simp [CtrlPc.pending, goto] at h

/-- A stream holds an entry after a step only when it held it before, took it for the answer of its
device, or swept it. -/
theorem Device.pending_of_moves {sh : Shared} {n i : ℕ} {l : Device} {next : Next Device}
    (move : Moves sh n i l next) {a : ℕ} {r : Reply} (h : (a, r) ∈ next.loc.pc.pending) :
    (a, r) ∈ l.pc.pending ∨
      (∃ msg deviceId response, l.pc = .handling msg ∧ .data i deviceId response ∈ next.events ∧
        sh.table.entries.lookup (deviceId, response.sequenceNumber) = some a ∧
        r.origin ≠ .relay) ∨
      ∃ did reason key keys taken, l.pc = .sweeping did reason (key :: keys) taken ∧
        sh.table.entries.lookup key = some a ∧ r = Controller.offlineReply did key.2 := by
  cases move
  case silent pending _ _ _ _ => exact Or.inl (pending ▸ h)
  case answered msg deviceId response entry at_pc _ found =>
    obtain ⟨rfl, rfl⟩ : a = entry ∧ r = dataReply n deviceId response := by
      simpa [DevPc.pending, goto] using h
    exact Or.inr (Or.inl ⟨msg, deviceId, response, at_pc, List.mem_cons_self,
      (SingleFlight.Table.take_eq_some found).1, by simp [dataReply]⟩)
  case installed pending _ _ => simp [goto, pending.2] at h
  case swept did reason key keys taken entry at_pc found =>
    simp only [DevPc.pending, goto, List.map_append, List.map_cons, List.map_nil, List.mem_append,
      List.mem_singleton, Prod.mk.injEq] at h
    rcases h with h | ⟨rfl, hr⟩
    · exact Or.inl (by rw [at_pc]; exact h)
    · exact Or.inr (Or.inr ⟨did, reason, key, keys, taken, at_pc,
        (SingleFlight.Table.take_eq_some found).1, hr⟩)
  case drained did reason seq entry taken removed at_pc =>
    refine Or.inl ?_
    rw [at_pc]
    exact List.mem_cons_of_mem _ h
  all_goals simp [DevPc.pending, goto] at h

variable {cfg : Config} {s s' : State} {k : RequestKey}

/-- An entry that is awaited after a step was so before, or was neither taken nor completed. -/
theorem awaited_of_cases (hr : Reachable cfg s) (hr' : Reachable cfg s') {action : Action}
    (h : StepCases cfg s action s') {a : ℕ} (awaited : s'.Awaited k a) :
    s.Awaited k a ∨ (∀ k, .taken k a ∉ s'.history) ∧ ∀ r, .completed a r ∉ s'.history := by
  have L := (custody_of_reachable hr).run.ledger
  have L' := (custody_of_reachable hr').run.ledger
  obtain ⟨c, m, rx, hpc, rfl, hj⟩ := awaited
  have same {b : ℕ} (hb : .joined m.key b rx true ∈ s'.history) : a = b :=
    (L'.joined _ a rx true hj).2.1.symm.trans (L'.joined _ b rx true hb).2.1
  rcases forwarder_of_cases h hpc with hpc | history
  · obtain ⟨events, trace⟩ := trace_of_cases h
    obtain ⟨b, hb⟩ := opened_of_forwarder hr hpc
    obtain rfl := same (by rw [history_of_trace trace]; exact List.mem_append_left _ hb)
    exact Or.inl ⟨c, m, rx, hpc, rfl, hb⟩
  · obtain rfl := same (b := s.shared.table.cells) (by rw [history]; simp)
    refine Or.inr ⟨fun k ht => ?_, fun r hc => ?_⟩
    · rw [history] at ht
      exact lt_irrefl _ (L.taken k _ (by simpa using ht)).1
    · rw [history] at hc
      exact lt_irrefl _ (L.completed _ r (by simpa using hc)).1

/-- A response that a task holds after a step was held before, or belongs to the entry that the step
took: for the relay, with `DEVICE_OFFLINE`, or for the answer of a device. -/
theorem pending_of_cases (collected : CollectedKeys s) {action : Action}
    (h : StepCases cfg s action s') {τ : Task} {a : ℕ} {r : Reply}
    (pending : (a, r) ∈ s'.pending τ) :
    (a, r) ∈ s.pending τ ∨
      (∃ k, s.relayTakes action = some k ∧ s.shared.table.entries.lookup k = some a ∧
        r = Controller.offlineReply k.1 k.2) ∨
      ∃ i input msg d response, action = .dev i input ∧ (s.dev i).pc = .handling msg ∧
        .data i d response ∈ s'.trace.drop s.trace.length ∧
        s.shared.table.entries.lookup (d, response.sequenceNumber) = some a ∧
        r.origin ≠ .relay := by
  have timer {e : ℕ} {t : Timer} (own : (a, r) ∉ t.pending)
      (timers : s'.shared.timer = Function.update s.shared.timer e t) :
      ∀ e', (a, r) ∈ s'.pending (.timer e') → (a, r) ∈ s.pending (.timer e') := by
    intro e' h
    simp only [State.pending, timers] at h
    by_cases he : e' = e
    · subst he
      rw [Function.update_self] at h
      exact absurd h own
    · rwa [Function.update_of_ne he] at h
  cases h with
  | ctrl c input next move =>
    cases τ with
    | ctrl c' =>
      by_cases hc : c' = c
      · subst hc
        simp only [State.pending, State.afterCtrl, Function.update_self] at pending
        obtain ⟨m, rx, hpc, hl, hr⟩ := Controller.pending_of_moves move pending
        exact Or.inr (Or.inl ⟨m.key, by simp [State.relayTakes, hpc], hl, hr⟩)
      · simp only [State.pending, State.afterCtrl, Function.update_of_ne hc] at pending
        exact Or.inl pending
    | dev i => exact Or.inl pending
    | timer e =>
      rcases Controller.timer_of_moves move with ⟨ht, -, -⟩ | ⟨m, -, -, -, -, ht, -⟩
      · simp only [State.pending, State.afterCtrl, ht] at pending
        exact Or.inl pending
      · exact Or.inl (timer (by simp [Timer.pending]) ht e pending)
  | dev i input next move =>
    cases τ with
    | ctrl c => exact Or.inl pending
    | dev i' =>
      by_cases hi : i' = i
      · subst hi
        simp only [State.pending, State.afterDev, Function.update_self] at pending
        rcases Device.pending_of_moves move pending with
          h | ⟨msg, d, response, hpc, hd, hl, device⟩ |
            ⟨did, reason, key, keys, taken, hpc, hl, hr⟩
        · exact Or.inl h
        · refine Or.inr (Or.inr ⟨i', input, msg, d, response, rfl, hpc, ?_, hl, device⟩)
          simpa [State.afterDev] using hd
        · have own : key.1 = did := collected i' did (key :: keys) (by rw [hpc]; rfl) key (by simp)
          exact Or.inr (Or.inl ⟨key, by simp [State.relayTakes, hpc], hl, by rw [own, hr]⟩)
      · simp only [State.pending, State.afterDev, Function.update_of_ne hi] at pending
        exact Or.inl pending
    | timer e =>
      simp only [State.pending, State.afterDev, (Device.timer_of_moves move).1] at pending
      exact Or.inl pending
  | fired e d q deadline entry at_pc _ found =>
    cases τ with
    | ctrl c => exact Or.inl pending
    | dev i => exact Or.inl pending
    | timer e' =>
      by_cases he : e' = e
      · subst he
        simp only [State.pending, State.afterTimer, Function.update_self, Timer.pending,
          List.mem_singleton, Prod.mk.injEq] at pending
        obtain ⟨rfl, rfl⟩ := pending
        exact Or.inr (Or.inl ⟨(d, q), by simp [State.relayTakes, at_pc],
          (SingleFlight.Table.take_eq_some found).1, rfl⟩)
      · simp only [State.pending, State.afterTimer, Function.update_of_ne he] at pending
        exact Or.inl pending
  | firedLate e | completed e =>
    cases τ with
    | ctrl c => exact Or.inl pending
    | dev i => exact Or.inl pending
    | timer e' => exact Or.inl (timer (by simp [Timer.pending]) rfl e' pending)
  | evicted k => cases τ <;> exact Or.inl pending
  | ambient _ sh' reaper' events _ _ _ _ timers _ _ _ =>
    cases τ with
    | ctrl c => exact Or.inl pending
    | dev i => exact Or.inl pending
    | timer e =>
      simp only [State.pending, timers] at pending
      exact Or.inl pending

/-- An entry is completed with the response that the task holds it with. -/
theorem completed_of_tableStep (h : TableStep s s') {a : ℕ} {r : Reply}
    (completed : .completed a r ∈ s'.history) :
    .completed a r ∈ s.history ∨ ∃ τ, (a, r) ∈ s.pending τ := by
  cases h with
  | same _ _ history => exact Or.inl (history ▸ completed)
  | join m _ _ history => exact Or.inl (by simpa [history] using completed)
  | take τ k b r' _ _ _ _ _ history => exact Or.inl (by simpa [history] using completed)
  | complete τ b r' rest head _ _ history =>
    simp only [history, List.mem_append, List.mem_singleton,
      SingleFlight.Outcome.completed.injEq] at completed
    rcases completed with h | ⟨rfl, rfl⟩
    · exact Or.inl h
    · exact Or.inr ⟨τ, by simp [head]⟩

/-! ## The invariant -/

/-- A response that the relay made up is on its way to no new forwarder of the key and not in the
cache under it. -/
structure DeviceResults (k : RequestKey) (s : State) : Prop where
  pending : ∀ τ a r, (a, r) ∈ s.pending τ → r.origin = .relay → ¬ s.Awaited k a
  completed : ∀ a r, .completed a r ∈ s.history → r.origin = .relay → ¬ s.Awaited k a
  caching : ∀ c m r, (s.ctrl c).pc = .caching m r → m.key = k → r.origin ≠ .relay
  cache : ∀ r, s.shared.cache.lookup k = some r → r.origin ≠ .relay

theorem deviceResults_init : DeviceResults k (State.init cfg) where
  pending := by
    rintro (c | i | e) a r h <;> simp [State.pending, State.init, CtrlPc.pending, DevPc.pending,
      Shared.init, Timer.pending] at h
  completed := by simp [State.history, State.init]
  caching := by simp [State.init]
  cache := by simp [State.init, Shared.init]

/-- A loop gets to the cache as new forwarder, with what its receiver got. -/
theorem Controller.caching_of_moves {sh : Shared} {c : ℕ} {l : Controller} {input : CtrlInput}
    {next : Next Controller} (move : Moves cfg sh c l input next) {m : ControllerMessage}
    {r : Reply} (h : next.loc.pc = .caching m r) :
    ∃ rx, l.pc = .waiting m rx true ∧ r ∈ sh.table.channel rx := by
  cases move
  case received m' rx r' at_pc sent =>
    obtain ⟨rfl, rfl⟩ : m' = m ∧ r' = r := by simpa [goto] using h
    exact ⟨rx, at_pc, sent⟩
  case ended at_pc _ => rcases at_pc with ⟨-, rfl⟩ | ⟨-, rfl⟩ | ⟨-, rfl⟩ <;> simp [goto] at h
  all_goals simp [goto] at h

namespace DeviceResults

variable (D : DeviceResults k s)

include D

/-- What a new forwarder receives comes from a device. -/
theorem origin_of_received (hr : Reachable cfg s) {c : ℕ} {m : ControllerMessage} {rx : ℕ}
    {r : Reply} (at_pc : (s.ctrl c).pc = .waiting m rx true) (key : m.key = k)
    (sent : r ∈ s.shared.table.channel rx) : r.origin ≠ .relay := by
  have L := (custody_of_reachable hr).run.ledger
  have hpc : (s.ctrl c).pc.forwarder = some (m, rx) := by rw [at_pc]; rfl
  obtain ⟨a, hj⟩ := opened_of_forwarder hr hpc
  rw [key] at hj
  have hsent := L.sent rx r sent
  rw [(L.joined _ a rx true hj).2.1] at hsent
  intro ho
  exact D.completed a r hsent ho ⟨c, m, rx, hpc, key, hj⟩

theorem stepCases (hr : Reachable cfg s) (hr' : Reachable cfg s') {action : Action}
    (ok : TakesUnawaited k s action) (h : StepCases cfg s action s') : DeviceResults k s' := by
  have C := custody_of_reachable hr
  have C' := custody_of_reachable hr'
  refine ⟨?_, ?_, ?_, ?_⟩
  · intro τ a r hp ho awaited
    rcases awaited_of_cases hr hr' h awaited with awaited | ⟨fresh, -⟩
    · rcases pending_of_cases C.collected h hp with
        hp | ⟨k', hk, mapped, -⟩ | ⟨_, _, _, _, _, _, _, _, _, device⟩
      · exact D.pending τ a r hp ho awaited
      · obtain ⟨c, m, rx, hpc, -, hj⟩ := awaited
        obtain rfl := key_of_mapped hr hj mapped
        exact ok a hk mapped c m rx hpc (waiter_of_mapped hr hj mapped)
      · exact absurd ho device
    · exact fresh _ (C'.held τ a r hp).1
  · intro a r hc ho awaited
    rcases awaited_of_cases hr hr' h awaited with awaited | ⟨-, fresh⟩
    · rcases completed_of_tableStep (tableStep_of_cases C.collected h) hc with hc | ⟨τ, hp⟩
      · exact D.completed a r hc ho awaited
      · exact D.pending τ a r hp ho awaited
    · exact fresh r hc
  · intro c m r hpc key
    cases h with
    | ctrl c' input next move =>
      by_cases hc : c = c'
      · subst hc
        simp only [State.afterCtrl, Function.update_self] at hpc
        obtain ⟨rx, at_pc, sent⟩ := Controller.caching_of_moves move hpc
        exact D.origin_of_received hr at_pc key sent
      · simp only [State.afterCtrl, Function.update_of_ne hc] at hpc
        exact D.caching c m r hpc key
    | dev | fired | firedLate | completed | evicted | ambient => exact D.caching c m r hpc key
  · intro r hl
    cases h with
    | ctrl c input next move =>
      rcases Controller.cache_of_moves move with hcache | ⟨m, r', hpc, hcache⟩
      · simp only [State.afterCtrl, hcache] at hl
        exact D.cache r hl
      · simp only [State.afterCtrl, hcache, DashMap.lookup_insert_ite] at hl
        split_ifs at hl with key
        · obtain rfl : r' = r := by simpa using hl
          exact D.caching c m r' hpc key.symm
        · exact D.cache r hl
    | dev i input next move =>
      simp only [State.afterDev, Device.cache_of_moves move] at hl
      exact D.cache r hl
    | evicted k' =>
      rw [DashMap.lookup_erase_ite] at hl
      split_ifs at hl
      exact D.cache r hl
    | ambient _ sh' reaper' events _ _ _ cache _ _ _ _ =>
      simp only [cache] at hl
      exact D.cache r hl
    | fired | firedLate | completed => exact D.cache r hl

end DeviceResults

theorem deviceResults_of_reachable (h : ReachableWhen cfg (TakesUnawaited k) s) :
    DeviceResults k s := by
  refine h.invariant deviceResults_init ?_
  intro s a s' hr D ok hs
  have hr := reachable_of_when hr
  exact D.stepCases hr (.next a hr trivial hs) ok (step_cases hs)

/-- In every run in which the relay takes no entry of a key in which a new forwarder waits, the
response that the idempotency cache has for the key was built from a `Data` message with the
sequence number of the key, on a stream that was registered as the device of the key. -/
theorem cache_holds_device_results (h : ReachableWhen cfg (TakesUnawaited k) s) {r : Reply}
    (cached : s.shared.cache.lookup k = some r) :
    ∃ past later i response token auth, s.trace = past ++ Event.data i k.1 response :: later ∧
      response.sequenceNumber = k.2 ∧ r = Device.dataReply past.length k.1 response ∧
      acceptedAs i past = some (k.1, token, auth) := by
  have hr := reachable_of_when h
  obtain ⟨rfl, genuine⟩ := (provenance_of_reachable hr).cache k r cached
  obtain ⟨past, later, i, response, hsplit, hreply⟩ :=
    genuine.source ((deviceResults_of_reachable h).cache r cached)
  obtain ⟨token, auth, hlast, -⟩ := identified_of_reachable hr past _ later hsplit
  refine ⟨past, later, i, response, token, auth, hsplit, ?_, hreply, hlast⟩
  rw [hreply]
  rfl

/-! ### Concrete runs -/

namespace Small

/-- The device does not answer; the timeout task completes the entry and the new forwarder stores
what it receives. -/
def cachedTimeoutRun : List Action :=
  register 0 "d" "t" ++ join 0 (request 1) ++ forward 0 ++
    [Action.advance 60, .timer 0, .timer 0] ++ ticks 0 2

/-- The step takes no entry for the relay. -/
def takesNothing (s : State) (a : Action) : Bool := (s.relayTakes a).isNone

theorem takesUnawaited_of_takesNothing {cfg : Config} {k : RequestKey} (s : State) (a : Action)
    (_ : Reachable cfg s) (h : takesNothing s a = true) : TakesUnawaited k s a := by
  intro e hk
  simp [takesNothing, hk] at h

end Small

/-- After a timeout the cache answers for a device that sent no data. -/
theorem cache_holds_timeout :
    ¬ ∀ cfg s k r, Reachable cfg s → s.shared.cache.lookup k = some r →
      ∃ past later i response token auth, s.trace = past ++ Event.data i k.1 response :: later ∧
        response.sequenceNumber = k.2 ∧ r = Device.dataReply past.length k.1 response ∧
        acceptedAs i past = some (k.1, token, auth) := by
  intro claim
  obtain ⟨s, hs, cached⟩ : ∃ s, execute Small.config Small.cachedTimeoutRun = some s ∧
      s.shared.cache.lookup ("d", 1) = some (Controller.offlineReply "d" 1) :=
    Option.map_eq_some_iff.1 (by decide +kernel)
  obtain ⟨past, later, i, response, token, auth, -, -, hr, -⟩ :=
    claim _ s _ _ (reachable_of_execute hs) cached
  have origin := congrArg Reply.origin hr
  cases origin

theorem cache_holds_answer :
    ∃ s, ReachableWhen Small.guarded (TakesUnawaited ("d", 1)) s ∧
      s.shared.cache.lookup ("d", 1) = some ⟨⟨"d", 1, [2], 0⟩, .device 9⟩ ∧
      ∃ past later i response, s.trace = past ++ Event.data i "d" response :: later ∧
        response.sequenceNumber = 1 := by
  obtain ⟨s, hs, cached⟩ : ∃ s,
      executeWhen Small.guarded Small.takesNothing Small.identifiedRun = some s ∧
      s.shared.cache.lookup ("d", 1) = some ⟨⟨"d", 1, [2], 0⟩, .device 9⟩ :=
    Option.map_eq_some_iff.1 (by decide +kernel)
  have hr : ReachableWhen Small.guarded (TakesUnawaited ("d", 1)) s :=
    reachableWhen_of_execute Small.takesUnawaited_of_takesNothing hs
  obtain ⟨past, later, i, response, token, auth, hsplit, hseq, -, -⟩ :=
    cache_holds_device_results hr cached
  exact ⟨s, hr, cached, past, later, i, response, hsplit, hseq⟩

end GrpcRelay
