import GrpcRelay.Contract

/-!
# Where responses come from

A response travels from the task that completes an entry through a one-shot channel to a loop, and
from there into the idempotency cache and to the controller.  `Provenance` says that on all of this
way a response names the request it is handed out for, and that a response that was not made up by
the relay is what a `Data` message of that device, an earlier event of the run, was turned into.
-/

namespace GrpcRelay

/-- A response of a device was built from a `Data` message that the run received for it. -/
def Genuine (past : List Event) (r : Reply) : Prop :=
  ∀ n, r.origin = .device n → ∃ i response,
    past[n]? = some (.data i r.resp.deviceId response) ∧
      r = Device.dataReply n r.resp.deviceId response

theorem Genuine.append {past : List Event} {r : Reply} (h : Genuine past r)
    (events : List Event) : Genuine (past ++ events) r := by
  intro n hn
  obtain ⟨i, response, hget, hr⟩ := h n hn
  have hlt : n < past.length := (List.getElem?_eq_some_iff.1 hget).1
  exact ⟨i, response, by rw [List.getElem?_append_left hlt, hget], hr⟩

theorem genuine_of_relay {past : List Event} {r : Reply} (h : r.origin = .relay) :
    Genuine past r := by
  intro n hn
  rw [h] at hn
  cases hn

/-- The `Data` message that a response of a device was built from. -/
theorem Genuine.source {past : List Event} {r : Reply} (h : Genuine past r)
    (device : r.origin ≠ .relay) : ∃ before after i response,
      past = before ++ Event.data i r.resp.deviceId response :: after ∧
        r = Device.dataReply before.length r.resp.deviceId response := by
  cases hn : r.origin with
  | relay => exact absurd hn device
  | device n =>
    obtain ⟨i, response, hget, hr⟩ := h n hn
    obtain ⟨hlt, hval⟩ := List.getElem?_eq_some_iff.1 hget
    have hlen : (past.take n).length = n := by simp [hlt.le]
    refine ⟨past.take n, past.drop (n + 1), i, response, ?_, by rw [hlen]; exact hr⟩
    rw [← hval, List.getElem_cons_drop, List.take_append_drop]

/-- The message and the receiver of a loop that joined an entry. -/
def CtrlPc.receiver : CtrlPc → Option (ControllerMessage × ℕ)
  | .routing m rx | .metering m rx _ | .forwarding m rx _ | .offlineTaking m rx
  | .waiting m rx _ => some (m, rx)
  | _ => none

/-- The message and the response of a loop that has one. -/
def CtrlPc.reply : CtrlPc → Option (ControllerMessage × Reply)
  | .caching m r | .finishing m r _ | .sending m r => some (m, r)
  | _ => none

namespace Controller

variable {cfg : Config} {sh : Shared} {c : ℕ} {l : Controller} {input : CtrlInput}
  {next : Next Controller}

/-- A loop gets its receiver by joining an entry. -/
theorem receiver_of_moves (move : Moves cfg sh c l input next) {m : ControllerMessage} {rx : ℕ}
    (h : next.loc.pc.receiver = some (m, rx)) :
    l.pc.receiver = some (m, rx) ∨
      ∃ a new, .inflight sh.now (.joined m.key a rx new) ∈ next.events := by
  cases move
  case opened m' at_pc _ =>
    obtain ⟨rfl, rfl⟩ : m' = m ∧ sh.table.receivers = rx := by
      simpa [CtrlPc.receiver, goto] using h
    exact Or.inr ⟨_, _, List.mem_singleton.2 rfl⟩
  case joined m' entry at_pc _ =>
    obtain ⟨rfl, rfl⟩ : m' = m ∧ sh.table.receivers = rx := by
      simpa [CtrlPc.receiver, goto] using h
    exact Or.inr ⟨_, _, List.mem_singleton.2 rfl⟩
  case routed at_pc _ | unrouted at_pc _ | metered at_pc _ | placed at_pc | unsent at_pc _ =>
    rw [at_pc]
    exact Or.inl h
  case ended at_pc _ =>
    rcases at_pc with ⟨-, rfl⟩ | ⟨-, rfl⟩ | ⟨-, rfl⟩ <;> simp [CtrlPc.receiver, goto] at h
  all_goals simp [CtrlPc.receiver, goto] at h

/-- A loop gets its response from the cache, from its receiver, or makes it up. -/
theorem reply_of_moves (move : Moves cfg sh c l input next) {m : ControllerMessage} {r : Reply}
    (h : next.loc.pc.reply = some (m, r)) :
    l.pc.reply = some (m, r) ∨ sh.cache.lookup m.key = some r ∨
      (∃ rx, l.pc.receiver = some (m, rx) ∧ r ∈ sh.table.channel rx) ∨
      (r.origin = .relay ∧ r.resp.key = m.key) := by
  cases move
  case hit m' r' at_pc found =>
    obtain ⟨rfl, rfl⟩ : m' = m ∧ r' = r := by simpa [CtrlPc.reply, goto] using h
    exact Or.inr (Or.inl found)
  case received m' rx r' at_pc sent | receivedShared m' rx r' at_pc sent =>
    obtain ⟨rfl, rfl⟩ : m' = m ∧ r' = r := by simpa [CtrlPc.reply, goto] using h
    exact Or.inr (Or.inr (Or.inl ⟨rx, by rw [at_pc]; rfl, sent⟩))
  case closed m' rx isNewForwarder resp at_pc _ key =>
    obtain ⟨rfl, rfl⟩ : m' = m ∧ Reply.ofRelay resp = r := by simpa [CtrlPc.reply, goto] using h
    exact Or.inr (Or.inr (Or.inr ⟨rfl, key⟩))
  case cached at_pc | finished at_pc _ =>
    rw [at_pc]
    exact Or.inl h
  case ended at_pc _ =>
    rcases at_pc with ⟨-, rfl⟩ | ⟨-, rfl⟩ | ⟨-, rfl⟩ <;> simp [CtrlPc.reply, goto] at h
  all_goals simp [CtrlPc.reply, goto] at h

/-- A loop changes the cache only by inserting the response it received as new forwarder. -/
theorem cache_of_moves (move : Moves cfg sh c l input next) :
    next.shared.cache = sh.cache ∨
      ∃ m r, l.pc = .caching m r ∧ next.shared.cache = sh.cache.insert m.key r := by
  cases move
  case cached m r at_pc => exact Or.inr ⟨m, r, at_pc, rfl⟩
  all_goals first | exact Or.inl rfl | exact Or.inl (Shared.Quiet.cache ‹_›)

end Controller

namespace Device

theorem cache_of_moves {sh : Shared} {n i : ℕ} {l : Device} {next : Next Device}
    (move : Moves sh n i l next) : next.shared.cache = sh.cache := by
  cases move
  case silent quiet _ _ _ _ _ => exact quiet.cache
  all_goals rfl

end Device

/-- Responses name their request and are genuine, wherever they are. -/
structure Provenance (s : State) : Prop where
  cache : ∀ k r, s.shared.cache.lookup k = some r → r.resp.key = k ∧ Genuine s.trace r
  completed : ∀ a r, .completed a r ∈ s.history → Genuine s.trace r
  pending : ∀ τ a r, (a, r) ∈ s.pending τ → Genuine s.trace r
  receiver : ∀ c m rx, (s.ctrl c).pc.receiver = some (m, rx) →
    ∃ a new, .joined m.key a rx new ∈ s.history
  reply : ∀ c m r, (s.ctrl c).pc.reply = some (m, r) → r.resp.key = m.key ∧ Genuine s.trace r

variable {cfg : Config} {s s' : State}

theorem provenance_init : Provenance (State.init cfg) where
  cache := by simp [State.init, Shared.init]
  completed := by simp [State.history, State.init]
  pending := by
    rintro (c | i | e) a r h <;> simp [State.pending, State.init, CtrlPc.pending, DevPc.pending,
      Shared.init, Timer.pending] at h
  receiver := by simp [State.init, CtrlPc.receiver]
  reply := by simp [State.init, CtrlPc.reply]

theorem history_of_trace {events : List Event} (h : s'.trace = s.trace ++ events) :
    s'.history = s.history ++ events.filterMap Event.outcome := by
  rw [State.history, h, List.filterMap_append]
  rfl

namespace Provenance

variable (P : Provenance s)

include P

/-- The completions and the entries held, after a step. -/
theorem tableStep (h : TableStep s s') {events : List Event}
    (trace : s'.trace = s.trace ++ events) :
    (∀ a r, .completed a r ∈ s'.history → Genuine s'.trace r) ∧
      ∀ τ a r, (a, r) ∈ s'.pending τ → Genuine s'.trace r := by
  have old {r : Reply} (h : Genuine s.trace r) : Genuine s'.trace r := by
    rw [trace]
    exact h.append events
  cases h with
  | same _ pending history =>
    rw [pending, history]
    exact ⟨fun a r h => old (P.completed a r h), fun τ a r h => old (P.pending τ a r h)⟩
  | join m _ pending history =>
    rw [history]
    refine ⟨fun a r h => old (P.completed a r (by simpa using h)), fun τ a r h => ?_⟩
    rcases pending with hp | hp
    · exact old (P.pending τ a r (by rwa [hp] at h))
    · rw [hp] at h
      by_cases hτ : τ = .timer s.shared.table.cells
      · subst hτ
        simp at h
      · rw [Function.update_of_ne hτ] at h
        exact old (P.pending τ a r h)
  | take τ k a r key source _ _ pending history =>
    rw [history]
    refine ⟨fun a r h => old (P.completed a r (by simpa using h)), fun τ' b r' h => ?_⟩
    rw [pending] at h
    by_cases hτ : τ' = τ
    · subst hτ
      rw [Function.update_self, List.mem_append, List.mem_singleton] at h
      rcases h with h | h
      · exact old (P.pending τ' b r' h)
      · obtain ⟨-, rfl⟩ := Prod.mk.inj h
        rcases source with hr | ⟨i, response, hget, hr⟩
        · exact genuine_of_relay hr
        · intro n hn
          rw [hr] at hn ⊢
          cases hn
          exact ⟨i, response, hget, rfl⟩
    · rw [Function.update_of_ne hτ] at h
      exact old (P.pending τ' b r' h)
  | complete τ a r rest head _ pending history =>
    have hhead : (a, r) ∈ s.pending τ := by simp [head]
    rw [history, pending]
    constructor
    · intro b r' h
      simp only [List.mem_append, List.mem_singleton, SingleFlight.Outcome.completed.injEq] at h
      rcases h with h | ⟨-, rfl⟩
      · exact old (P.completed b r' h)
      · exact old (P.pending τ a r' hhead)
    · intro τ' b r' h
      by_cases hτ : τ' = τ
      · subst hτ
        rw [Function.update_self] at h
        exact old (P.pending τ' b r' (by simp [head, h]))
      · rw [Function.update_of_ne hτ] at h
        exact old (P.pending τ' b r' h)

/-- The response that a receiver holds names the request of the loop. -/
theorem key_of_received (hr : Reachable cfg s) {c : ℕ} {m : ControllerMessage} {rx : ℕ} {r : Reply}
    (receiver : (s.ctrl c).pc.receiver = some (m, rx)) (sent : r ∈ s.shared.table.channel rx) :
    r.resp.key = m.key ∧ Genuine s.trace r := by
  have L := (custody_of_reachable hr).run.ledger
  obtain ⟨a, new, hj⟩ := P.receiver c m rx receiver
  have hsent := L.sent rx r sent
  rw [(L.joined m.key a rx new hj).2.1] at hsent
  exact ⟨completed_key_of_reachable hr hj hsent, P.completed a r hsent⟩

theorem stepCases (hr : Reachable cfg s) {a : Action} (h : StepCases cfg s a s') :
    Provenance s' := by
  have C := custody_of_reachable hr
  obtain ⟨events, trace⟩ := trace_of_cases h
  obtain ⟨completed, pending⟩ := P.tableStep (tableStep_of_cases C.collected h) trace
  have old {r : Reply} (h : Genuine s.trace r) : Genuine s'.trace r := by
    rw [trace]
    exact h.append events
  have joined {o : InflightOutcome} (h : o ∈ s.history) : o ∈ s'.history := by
    rw [history_of_trace trace]
    exact List.mem_append_left _ h
  have idle (cache : ∀ k r, s'.shared.cache.lookup k = some r → s.shared.cache.lookup k = some r)
      (ctrl : s'.ctrl = s.ctrl) : Provenance s' := by
    refine ⟨?_, completed, pending, ?_, ?_⟩
    · intro k r h
      obtain ⟨hk, hg⟩ := P.cache k r (cache k r h)
      exact ⟨hk, old hg⟩
    · rw [ctrl]
      intro c m rx h
      obtain ⟨a, new, hj⟩ := P.receiver c m rx h
      exact ⟨a, new, joined hj⟩
    · rw [ctrl]
      intro c m r h
      obtain ⟨hk, hg⟩ := P.reply c m r h
      exact ⟨hk, old hg⟩
  cases h with
  | ctrl c input next move =>
    refine ⟨?_, completed, pending, ?_, ?_⟩
    · intro k r h
      rcases Controller.cache_of_moves move with hcache | ⟨m, r', hpc, hcache⟩
      · simp only [State.afterCtrl, hcache] at h
        obtain ⟨hk, hg⟩ := P.cache k r h
        exact ⟨hk, old hg⟩
      · simp only [State.afterCtrl, hcache, DashMap.lookup_insert_ite] at h
        split_ifs at h with hk
        · obtain rfl : r' = r := by simpa using h
          obtain ⟨hk', hg⟩ := P.reply c m r' (by rw [hpc]; rfl)
          exact ⟨hk'.trans hk.symm, old hg⟩
        · obtain ⟨hk', hg⟩ := P.cache k r h
          exact ⟨hk', old hg⟩
    · intro c' m rx h
      by_cases hc : c' = c
      · subst hc
        simp only [State.afterCtrl, Function.update_self] at h
        rcases Controller.receiver_of_moves move h with h | ⟨a, new, hj⟩
        · obtain ⟨a, new, hj⟩ := P.receiver c' m rx h
          exact ⟨a, new, joined hj⟩
        · refine ⟨a, new, List.mem_filterMap.2 ⟨_, List.mem_append_right _ hj, rfl⟩⟩
      · simp only [State.afterCtrl, Function.update_of_ne hc] at h
        obtain ⟨a, new, hj⟩ := P.receiver c' m rx h
        exact ⟨a, new, joined hj⟩
    · intro c' m r h
      by_cases hc : c' = c
      · subst hc
        simp only [State.afterCtrl, Function.update_self] at h
        rcases Controller.reply_of_moves move h with h | h | ⟨rx, hrx, hsent⟩ | ⟨horigin, hk⟩
        · obtain ⟨hk, hg⟩ := P.reply c' m r h
          exact ⟨hk, old hg⟩
        · obtain ⟨hk, hg⟩ := P.cache m.key r h
          exact ⟨hk, old hg⟩
        · obtain ⟨hk, hg⟩ := P.key_of_received hr hrx hsent
          exact ⟨hk, old hg⟩
        · exact ⟨hk, genuine_of_relay horigin⟩
      · simp only [State.afterCtrl, Function.update_of_ne hc] at h
        obtain ⟨hk, hg⟩ := P.reply c' m r h
        exact ⟨hk, old hg⟩
  | dev i input next move =>
    refine idle ?_ rfl
    simp [State.afterDev, Device.cache_of_moves move]
  | evicted k =>
    refine idle ?_ rfl
    intro k' r h
    rw [DashMap.lookup_erase_ite] at h
    split_ifs at h
    exact h
  | ambient _ sh' reaper' events _ _ _ cache _ _ _ _ => exact idle (by simp [cache]) rfl
  | fired | firedLate | completed => exact idle (fun k r h => h) rfl

end Provenance

theorem provenance_of_reachable (h : Reachable cfg s) : Provenance s := by
  refine h.invariant provenance_init ?_
  intro s a s' hr P _ hs
  exact P.stepCases hr (step_cases hs)

end GrpcRelay
