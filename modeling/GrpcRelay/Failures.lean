import GrpcRelay.CachedResults

/-!
# Responses that the relay makes up

The relay answers in a device's place when it refuses a request, when the device is offline or slow,
and when a waiting request is given up.  All these responses carry an error: a response without one
is a device's (`device_of_ok`).
-/

namespace GrpcRelay

/-- A response that the relay made up says so by its error. -/
def Reply.Failing (r : Reply) : Prop := r.origin = .relay → r.resp.error ≠ ErrorCode.ok.toInt

theorem failing_errorResp {deviceId : String} {seq : ℤ} {code : ErrorCode} (h : code ≠ .ok) :
    (Reply.ofRelay (errorResp deviceId seq code)).Failing := by
  intro _
  cases code <;> simp_all [Reply.ofRelay, errorResp, ErrorCode.toInt]

theorem failing_offlineReply (deviceId : String) (seq : ℤ) :
    (Controller.offlineReply deviceId seq).Failing :=
  failing_errorResp (by decide)

/-! ## Refusals -/

theorem error_of_bind {α β ε : Type} {x : Except ε α} {f : α → Except ε β} {e : ε}
    (h : x >>= f = .error e) : x = .error e ∨ ∃ a, f a = .error e := by
  cases x with
  | error e' =>
    cases h
    exact .inl rfl
  | ok a => exact .inr ⟨a, h⟩

theorem code_of_validateId {field id : String} {code : ErrorCode} {err : ValidationError}
    (h : validateId field code id = .error err) : err.code = code := by
  unfold validateId at h
  split_ifs at h <;> cases h <;> rfl

/-- The validation of a message fails with an error code. -/
theorem code_of_validateControllerMessage {m : ControllerMessage} {err : ValidationError}
    (h : validateControllerMessage m = .error err) : err.code ≠ .ok := by
  rcases error_of_bind h with h | ⟨-, h⟩
  · rw [code_of_validateId h]
    decide
  rcases error_of_bind h with h | ⟨-, h⟩
  · rw [code_of_validateId h]
    decide
  rcases error_of_bind h with h | ⟨-, h⟩
  · unfold validateMethodName at h
    split_ifs at h <;> cases h <;> decide
  rcases error_of_bind h with h | ⟨-, h⟩
  · unfold validatePayloadSize at h
    split_ifs at h
    cases h
    decide
  · unfold validateSequenceNumber at h
    split_ifs at h
    cases h
    decide

namespace Controller

variable {cfg : Config} {sh : Shared} {c : ℕ} {l : Controller} {input : CtrlInput}
  {next : Next Controller}

/-- The response of a refusal, after events that answer nothing. -/
theorem failing_of_refuse {m : ControllerMessage} {code : ErrorCode} {before : List Event}
    (h : code ≠ .ok) (silent : ∀ c r, .answered c r ∉ before) {c' : ℕ} {r : Reply}
    (answered : .answered c' r ∈ (refuse sh c l m code before).events) : r.Failing := by
  rcases List.mem_append.1 answered with early | last
  · exact absurd early (silent c' r)
  · obtain ⟨-, rfl⟩ := Event.answered.inj (List.mem_singleton.1 last)
    exact failing_errorResp h

/-- A message that is pulled, and one whose stream is set up: what is answered is a refusal. -/
theorem failing_of_receive {m : ControllerMessage} {c' : ℕ} {r : Reply}
    (answered : .answered c' r ∈ (receive sh c l m).events) : r.Failing := by
  unfold receive at answered
  split at answered
  · exact failing_of_refuse (code_of_validateControllerMessage ‹_›) (by simp) answered
  · split_ifs at answered
    · exact failing_of_refuse (by decide) (by simp) answered
    · simp at answered
    · exact failing_of_refuse (by decide) (by simp) answered
    · simp at answered

theorem failing_of_authenticate {m : ControllerMessage} {c' : ℕ} {r : Reply}
    (answered : .answered c' r ∈ (authenticate cfg sh c l m).events) : r.Failing := by
  unfold authenticate at answered
  dsimp only at answered
  repeat' split at answered
  · exact failing_of_refuse (by decide) (by simp) answered
  · exact failing_of_refuse (by decide) (by simp) answered
  · exact failing_of_refuse (by decide) (by simp) answered
  · exact failing_of_refuse (by decide) (by simp) answered
  · simp at answered
  · simp at answered

theorem failing_of_limit {m : ControllerMessage} {c' : ℕ} {r : Reply}
    (answered : .answered c' r ∈ (limit sh c l m).events) : r.Failing := by
  unfold limit at answered
  split at answered
  · simp at answered
  · exact failing_of_refuse (by decide) (by simp) answered

theorem failing_of_createMapping {m : ControllerMessage} {c' : ℕ} {r : Reply}
    (answered : .answered c' r ∈ (createMapping sh c l m).events) : r.Failing := by
  unfold createMapping at answered
  split at answered
  · simp at answered
  · split_ifs at answered
    · exact failing_of_refuse (by decide) (by simp) answered
    · exact failing_of_refuse (by decide) (by simp) answered

theorem failing_of_meter {m : ControllerMessage} {rx : ℕ} {session : DeviceSession}
    {readings : BandwidthTracker.ClockReadings} {c' : ℕ} {r : Reply}
    (answered : .answered c' r ∈ (meter sh c l m rx session readings).events) : r.Failing := by
  unfold meter at answered
  split at answered
  · simp at answered
  · simp only [List.mem_cons, reduceCtorEq, Event.answered.injEq, List.not_mem_nil, or_false,
      false_or] at answered
    exact answered.2 ▸ failing_errorResp (by decide)

/-- A loop hands on the response it has, or refuses. -/
theorem answered_of_step (h : step cfg sh c l input = some next) {c' : ℕ} {r : Reply}
    (answered : .answered c' r ∈ next.events) : (∃ m, l.pc.reply = some (m, r)) ∨ r.Failing := by
  have move := moves_of_step h
  cases move
  case sent m r' at_pc =>
    obtain ⟨-, rfl⟩ : c' = c ∧ r = r' := by simpa using answered
    exact .inl ⟨m, by rw [at_pc]; rfl⟩
  case pulledBad m resp at_pc _ =>
    simp only [step, at_pc, Option.some.injEq] at h
    exact .inr (failing_of_receive (by rw [h]; exact answered))
  case refused m resp sh' connected counts at_pc _ _ _ =>
    rcases at_pc with at_pc | at_pc | at_pc
    · simp only [step, at_pc, Option.some.injEq] at h
      exact .inr (failing_of_authenticate (by rw [h]; exact answered))
    · simp only [step, at_pc, Option.some.injEq] at h
      exact .inr (failing_of_limit (by rw [h]; exact answered))
    · simp only [step, at_pc, Option.some.injEq] at h
      exact .inr (failing_of_createMapping (by rw [h]; exact answered))
  case throttled m rx session readings sh' resp at_pc _ _ _ =>
    simp only [step, at_pc, Option.some.injEq] at h
    exact .inr (failing_of_meter (by rw [h]; exact answered))
  all_goals simp at answered

/-- The response of a loop whose sender is gone. -/
theorem failing_of_await {m m' : ControllerMessage} {rx : ℕ} {isNewForwarder : Bool} {r : Reply}
    (h : await sh l m rx isNewForwarder = some next) (reply : next.loc.pc.reply = some (m', r)) :
    r ∈ sh.table.channel rx ∨ r.Failing := by
  unfold await at h
  split at h
  · rename_i r' rest sent
    have mem : r' ∈ sh.table.channel rx := by
      rw [Shared.table, sent]
      exact List.mem_cons_self
    split_ifs at h
    all_goals
      cases h
      obtain ⟨-, rfl⟩ : m = m' ∧ r' = r := by simpa [CtrlPc.reply, goto] using reply
      exact .inl mem
  · split_ifs at h
    cases h
    obtain ⟨-, rfl⟩ := Prod.mk.inj (Option.some.inj reply)
    exact .inr (failing_errorResp (by decide))

/-- A loop gets its response from the cache or from its receiver, or makes up an error. -/
theorem reply_of_step (h : step cfg sh c l input = some next) {m : ControllerMessage} {r : Reply}
    (reply : next.loc.pc.reply = some (m, r)) :
    l.pc.reply = some (m, r) ∨ sh.cache.lookup m.key = some r ∨
      (∃ rx, r ∈ sh.table.channel rx) ∨ r.Failing := by
  have move := moves_of_step h
  cases move
  case closed m' rx isNewForwarder resp at_pc _ _ =>
    simp only [step, at_pc] at h
    rcases failing_of_await h reply with sent | failing
    · exact .inr (.inr (.inl ⟨rx, sent⟩))
    · exact .inr (.inr (.inr failing))
  case hit m' r' at_pc found =>
    obtain ⟨rfl, rfl⟩ : m' = m ∧ r' = r := by simpa [CtrlPc.reply, goto] using reply
    exact .inr (.inl found)
  case received m' rx r' at_pc sent | receivedShared m' rx r' at_pc sent =>
    obtain ⟨rfl, rfl⟩ : m' = m ∧ r' = r := by simpa [CtrlPc.reply, goto] using reply
    exact .inr (.inr (.inl ⟨rx, sent⟩))
  case cached at_pc | finished at_pc _ =>
    rw [at_pc]
    exact .inl reply
  case ended at_pc _ =>
    rcases at_pc with ⟨-, rfl⟩ | ⟨-, rfl⟩ | ⟨-, rfl⟩ <;> simp [CtrlPc.reply, goto] at reply
  all_goals simp [CtrlPc.reply, goto] at reply

end Controller

/-! ## Everywhere on the way to a controller -/

/-- What the relay made up is an error, wherever it is. -/
structure Failures (s : State) : Prop where
  pending : ∀ τ a r, (a, r) ∈ s.pending τ → r.Failing
  completed : ∀ a r, .completed a r ∈ s.history → r.Failing
  cache : ∀ k r, s.shared.cache.lookup k = some r → r.Failing
  reply : ∀ c m r, (s.ctrl c).pc.reply = some (m, r) → r.Failing
  answered : ∀ c r, .answered c r ∈ s.trace → r.Failing
  notified : ∀ c r, .notified c r ∈ s.trace → r.resp.error ≠ ErrorCode.ok.toInt

variable {cfg : Config} {s s' : State}

theorem failures_init : Failures (State.init cfg) where
  pending := by
    rintro (c | i | e) a r h <;> simp [State.pending, State.init, CtrlPc.pending, DevPc.pending,
      Shared.init, Timer.pending] at h
  completed := by simp [State.history, State.init]
  cache := by simp [State.init, Shared.init]
  reply := by simp [State.init, CtrlPc.reply]
  answered := by simp [State.init]
  notified := by simp [State.init]

/-- A notice says that the device is offline. -/
theorem offline_of_notified {a : Action} (hs : step cfg s a = some s') {events : List Event}
    (trace : s'.trace = s.trace ++ events) {c : ℕ} {r : Reply} (notified : .notified c r ∈ events) :
    ∃ d, r = Controller.offlineReply d 0 := by
  cases step_cases hs with
  | ctrl c' input next move =>
    obtain rfl := List.append_cancel_left trace
    cases Controller.events_of_moves move _ notified
  | dev i input next move =>
    obtain rfl := List.append_cancel_left trace
    cases move
    case silent notices =>
      obtain ⟨did, -, -, -, -, -, -, offline⟩ := notices c r notified
      exact ⟨did, offline⟩
    all_goals simp at notified
  | fired | firedLate | completed | evicted =>
    obtain rfl := List.append_cancel_left trace
    simp at notified
  | ambient _ sh' reaper' events' _ _ _ _ _ _ _ notices =>
    obtain rfl := List.append_cancel_left trace
    obtain ⟨-, mapping, -, -, -, offline⟩ := notices c r notified
    exact ⟨mapping.deviceId, offline⟩

namespace Failures

variable (F : Failures s)

include F

theorem pending_of_step (hr : Reachable cfg s) {action : Action} (hs : step cfg s action = some s')
    {τ : Task} {a : ℕ} {r : Reply} (h : (a, r) ∈ s'.pending τ) : r.Failing := by
  have collected := (custody_of_reachable hr).collected
  rcases pending_of_cases collected (step_cases hs) h with
    h | ⟨k, -, -, rfl⟩ | ⟨_, _, _, _, _, _, _, _, _, device⟩
  · exact F.pending τ a r h
  · exact failing_offlineReply k.1 k.2
  · exact fun relay => absurd relay device

theorem completed_of_step (hr : Reachable cfg s) {action : Action}
    (hs : step cfg s action = some s') {a : ℕ} {r : Reply}
    (h : .completed a r ∈ s'.history) : r.Failing := by
  have collected := (custody_of_reachable hr).collected
  rcases completed_of_tableStep (tableStep_of_cases collected (step_cases hs)) h with
    h | ⟨τ, h⟩
  · exact F.completed a r h
  · exact F.pending τ a r h

theorem cache_of_step {action : Action} (hs : step cfg s action = some s') {k : RequestKey}
    {r : Reply} (h : s'.shared.cache.lookup k = some r) : r.Failing := by
  cases step_cases hs with
  | ctrl c input next move =>
    rcases Controller.cache_of_moves move with same | ⟨m, r', at_pc, inserted⟩
    · simp only [State.afterCtrl, same] at h
      exact F.cache k r h
    · simp only [State.afterCtrl, inserted, DashMap.lookup_insert_ite] at h
      split_ifs at h
      · obtain rfl : r' = r := by simpa using h
        exact F.reply c m r' (by rw [at_pc]; rfl)
      · exact F.cache k r h
  | dev i input next move =>
    simp only [State.afterDev, Device.cache_of_moves move] at h
    exact F.cache k r h
  | evicted k' =>
    rw [DashMap.lookup_erase_ite] at h
    split_ifs at h
    exact F.cache k r h
  | ambient _ sh' reaper' events _ _ _ cache _ _ _ _ =>
    simp only [cache] at h
    exact F.cache k r h
  | fired | firedLate | completed => exact F.cache k r h

/-- What is in a receiver was completed. -/
theorem of_sent (hr : Reachable cfg s) {rx : ℕ} {r : Reply} (h : r ∈ s.shared.table.channel rx) :
    r.Failing :=
  F.completed _ r ((custody_of_reachable hr).run.ledger.sent rx r h)

theorem notified_of_step {action : Action} (hs : step cfg s action = some s') {c : ℕ} {r : Reply}
    (h : .notified c r ∈ s'.trace) : r.resp.error ≠ ErrorCode.ok.toInt := by
  obtain ⟨events, trace⟩ := trace_of_cases (step_cases hs)
  rw [trace, List.mem_append] at h
  rcases h with h | h
  · exact F.notified c r h
  · obtain ⟨d, rfl⟩ := offline_of_notified hs trace h
    exact failing_offlineReply d 0 rfl

theorem next (hr : Reachable cfg s) {action : Action} (hs : step cfg s action = some s') :
    Failures s' := by
  have idle {events : List Event} (ctrl : s'.ctrl = s.ctrl) (trace : s'.trace = s.trace ++ events)
      (silent : ∀ c r, .answered c r ∉ events) : Failures s' := by
    refine ⟨fun _ _ _ => F.pending_of_step hr hs, fun _ _ => F.completed_of_step hr hs,
      fun _ _ => F.cache_of_step hs, ?_, ?_, fun _ _ => F.notified_of_step hs⟩
    · rw [ctrl]
      exact F.reply
    · intro c r h
      rw [trace, List.mem_append] at h
      exact F.answered c r (h.resolve_right (silent c r))
  by_cases loop : ∃ c input, action = .ctrl c input
  · obtain ⟨c, input, rfl⟩ := loop
    obtain ⟨next, hn, rfl⟩ := Option.map_eq_some_iff.1 hs
    refine ⟨fun _ _ _ => F.pending_of_step hr hs, fun _ _ => F.completed_of_step hr hs,
      fun _ _ => F.cache_of_step hs, ?_, ?_, fun _ _ => F.notified_of_step hs⟩
    · intro c' m r h
      by_cases own : c' = c
      · subst own
        simp only [State.afterCtrl, Function.update_self] at h
        rcases Controller.reply_of_step hn h with h | h | ⟨rx, h⟩ | h
        · exact F.reply c' m r h
        · exact F.cache m.key r h
        · exact F.of_sent hr h
        · exact h
      · simp only [State.afterCtrl, Function.update_of_ne own] at h
        exact F.reply c' m r h
    · intro c' r h
      rcases List.mem_append.1 h with h | h
      · exact F.answered c' r h
      · rcases Controller.answered_of_step hn h with ⟨m, h⟩ | h
        · exact F.reply c m r h
        · exact h
  · cases step_cases hs with
    | ctrl c input => exact absurd ⟨c, input, rfl⟩ loop
    | dev i input next move =>
      refine idle rfl rfl fun c r h => ?_
      cases Device.events_of_moves move _ h with
      | plain _ plain => cases plain
    | ambient _ sh' reaper' events _ _ _ _ _ _ plain _ =>
      refine idle rfl rfl fun c r h => ?_
      cases plain _ h
    | fired | firedLate | completed | evicted => exact idle rfl rfl (by simp)

end Failures

theorem failures_of_reachable (h : Reachable cfg s) : Failures s := by
  refine h.invariant failures_init ?_
  intro s a s' hr F _ hs
  exact F.next hr hs

/-- A controller gets a response without an error only from a device. -/
theorem device_of_ok (h : Reachable cfg s) {c : ℕ} {r : Reply} (answered : .answered c r ∈ s.trace)
    (ok : r.resp.error = ErrorCode.ok.toInt) : r.origin ≠ .relay := by
  intro relay
  exact (failures_of_reachable h).answered c r answered relay ok

end GrpcRelay
