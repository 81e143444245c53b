import GrpcRelay.Progress
import GrpcRelay.CachedResults
import GrpcRelay.Cleanup
import GrpcRelay.Router

/-!
# Who is told of a disconnect

When a device stream has ended, its cleanup takes the device's mappings out of the router.  It tells
the streams without an active request; a stream with one is told by its loop, through the entry that
the loop waits in, which the cleanup completes with `DEVICE_OFFLINE`.

The mapping of a stream counts a request until its loop calls `finish_request`, which is after the
answer has left the in-flight table.  So a stream whose answer is on its way when the mappings are
removed is told by nobody (`answered_stream_is_not_told`).  As long as the request of a loop has no
other answer than `DEVICE_OFFLINE` (`Unanswered`), its stream is told (`disconnect_is_told`).
-/

namespace GrpcRelay

/-! ## Idle streams -/

/-- The device and the mappings of a cleanup that has still to tell the idle streams. -/
def DevPc.untold : DevPc → Option (String × List StreamMapping)
  | .draining did _ _ removed => some (did, removed)
  | .notifying did _ removed => some (did, removed)
  | _ => none

/-- Since event `n`, loop `c` or another task sent the response to the controller of loop `c`. -/
def SentSince (n c : ℕ) (r : Reply) (s : State) : Prop :=
  .answered c r ∈ s.trace.drop n ∨ .notified c r ∈ s.trace.drop n

section

variable {cfg : Config} {s s' : State} {a : Action} {i n c : ℕ} {d : String} {q : ℤ} {r : Reply}

/-- A stream moves only in its own steps. -/
theorem dev_of_cases (h : StepCases cfg s a s') (other : ∀ input, a ≠ .dev i input) :
    s'.dev i = s.dev i := by
  cases h with
  | dev i' input next move =>
    have hi : i ≠ i' := fun hi => other input (by rw [hi])
    exact State.dev_afterDev_of_ne s hi next
  | ctrl | fired | firedLate | completed | evicted | ambient => rfl

theorem SentSince.since {n' : ℕ} (h : SentSince n' c r s) (before : n ≤ n') : SentSince n c r s :=
  h.imp (fun h => (List.drop_sublist_drop_left _ before).mem h)
    fun h => (List.drop_sublist_drop_left _ before).mem h

/-- What was sent stays sent. -/
theorem SentSince.step (h : SentSince n c r s) (hs : step cfg s a = some s') :
    SentSince n c r s' := by
  obtain ⟨events, trace⟩ := trace_of_cases (step_cases hs)
  unfold SentSince
  rw [trace, List.drop_append]
  exact h.imp (List.mem_append_left _) (List.mem_append_left _)

theorem SentSince.reach {ok : State → Action → Prop} (h : SentSince n c r s)
    (reach : Runs.Reach (GrpcRelay.step cfg) ok s s') : SentSince n c r s' :=
  reach.invariant h fun _ _ _ _ sent _ hs => sent.step hs

theorem DevPc.untold_cases {pc : DevPc} {removed : List StreamMapping}
    (h : pc.untold = some (d, removed)) :
    (∃ reason taken, pc = .draining d reason taken removed) ∨
      ∃ reason, pc = .notifying d reason removed := by
  cases pc with
  | draining did reason taken removed' =>
    cases h
    exact Or.inl ⟨reason, taken, rfl⟩
  | notifying did reason removed' =>
    cases h
    exact Or.inr ⟨reason, rfl⟩
  | _ => cases h

/-- A stream of a cleanup that is to be told was told in the step, or is still to be told. -/
theorem untold_of_step (hs : step cfg s a = some s') {removed : List StreamMapping}
    (untold : (s.dev i).pc.untold = some (d, removed)) {μ : StreamMapping} (mem : μ ∈ removed)
    (idle : μ.activeRequests = 0) :
    SentSince s.trace.length μ.controllerTx (Controller.offlineReply d 0) s' ∨
      ∃ removed', (s'.dev i).pc.untold = some (d, removed') ∧ μ ∈ removed' := by
  by_cases own : ∃ input, a = .dev i input
  · obtain ⟨input, rfl⟩ := own
    obtain ⟨next, hn, rfl⟩ := Option.map_eq_some_iff.1 hs
    rw [State.dev_afterDev_self]
    rcases DevPc.untold_cases untold with ⟨reason, taken, hpc⟩ | ⟨reason, hpc⟩
    · cases input <;> simp only [Device.step, hpc] at hn <;> cases hn
      refine Or.inr ⟨removed, ?_, mem⟩
      cases taken <;> rfl
    · cases input <;> simp only [Device.step, hpc] at hn <;> cases hn
      cases removed with
      | nil => cases mem
      | cons mapping removed =>
        rcases List.mem_cons.1 mem with rfl | mem
        · refine Or.inl (Or.inr ?_)
          simp [State.afterDev, Device.notify, idle]
        · exact Or.inr ⟨removed, rfl, mem⟩
  · rw [dev_of_cases (step_cases hs) fun input h => own ⟨input, h⟩]
    exact Or.inr ⟨removed, untold, mem⟩

/-- A cleanup can go on to tell the streams that are to be told. -/
theorem told_of_untold {removed : List StreamMapping}
    (untold : (s.dev i).pc.untold = some (d, removed)) {μ : StreamMapping} (mem : μ ∈ removed)
    (idle : μ.activeRequests = 0) (before : n ≤ s.trace.length) :
    ∃ s', Runs.Reach (step cfg) (fun _ _ => True) s s' ∧
      SentSince n μ.controllerTx (Controller.offlineReply d 0) s' := by
  have notice : .notified μ.controllerTx (Controller.offlineReply d 0) ∈
      Device.notices d removed := List.mem_flatMap.2 ⟨μ, mem, by simp [idle]⟩
  -- The entries are completed, and then the notices are sent.
  have ends {next : Next Device}
      (leads : Device.Leads cfg s.trace.length i ⟨s.shared, s.dev i, []⟩ next)
      (sends : ∃ events, next.events = events ++ Device.notices d removed) :
      ∃ s', Runs.Reach (step cfg) (fun _ _ => True) s s' ∧
        SentSince n μ.controllerTx (Controller.offlineReply d 0) s' := by
    obtain ⟨events, sends⟩ := sends
    refine ⟨_, reach_of_leads leads, Or.inr ?_⟩
    simp only [State.afterDev, sends]
    rw [List.drop_append_of_le_length before]
    exact List.mem_append_right _ (List.mem_append_right _ notice)
  rcases DevPc.untold_cases untold with ⟨reason, taken, hpc⟩ | ⟨reason, hpc⟩
  · have drains : Device.Leads cfg s.trace.length i
        ⟨s.shared, (s.dev i).goto (.draining d reason taken removed), []⟩ _ :=
      Device.leads_drain taken removed s.shared []
    rw [← hpc] at drains
    exact ends (drains.trans (Device.leads_notify removed _)) ⟨_, rfl⟩
  · have leads : Device.Leads cfg s.trace.length i
        ⟨s.shared, (s.dev i).goto (.notifying d reason removed), []⟩ _ :=
      Device.leads_notify removed []
    rw [← hpc] at leads
    exact ends leads ⟨_, rfl⟩

end

/-! ## Busy streams -/

/-- No other response than `r` was sent to the receiver, or is held by a task for its entry. -/
structure ReservedFor (s : State) (rx : ℕ) (r : Reply) : Prop where
  sent : ∀ v ∈ s.shared.table.channel rx, v = r
  held : ∀ τ v, (s.shared.table.joinedAt rx, v) ∈ s.pending τ → v = r

/-- Loop `c` is within the request `q` to device `d`, and the request has no other answer yet than
`DEVICE_OFFLINE`. -/
inductive Unanswered (s : State) (c : ℕ) (d : String) (q : ℤ) : Prop
  | asking (m : ControllerMessage) (key : m.key = (d, q))
      (at_pc : (s.ctrl c).pc = .lookingUp m ∨ (s.ctrl c).pc = .joining m)
  | awaiting (m : ControllerMessage) (rx : ℕ) (key : m.key = (d, q))
      (receiver : (s.ctrl c).pc.receiver = some (m, rx)) (online : ¬ (s.ctrl c).pc.Offline)
      (reserved : ReservedFor s rx (Controller.offlineReply d q))
  | answering (m : ControllerMessage)
      (reply : (s.ctrl c).pc.reply = some (m, Controller.offlineReply d q))

/-- The key of the entry that a `Data` message takes in the step. -/
def State.dataTakes (s : State) : Action → Option RequestKey
  | .dev i _ =>
    match (s.dev i).pc with
    | .handling ⟨_, _, some (.data response)⟩ =>
      (s.dev i).currentDeviceId.map fun d => (d, response.sequenceNumber)
    | _ => none
  | _ => none

/-- The step does not end the request of loop `c` in another way than with what its receiver gets
from the relay: the loop finds no other response in the cache, a session, bandwidth and an open
channel, and no `Data` message takes its entry. -/
def Spares (c : ℕ) (s : State) : Action → Prop
  | .ctrl c' input => c' = c → match (s.ctrl c).pc, input with
    | .lookingUp m, _ => ∀ r, s.shared.cache.lookup m.key = some r →
        r = Controller.offlineReply m.targetDeviceId m.sequenceNumber
    | .routing m _, _ => (s.shared.relay.sessionsByDeviceId.lookup m.targetDeviceId).isSome
    | .metering m _ _, .clock readings => (s.shared.bandwidthTracker.recordAndCheck readings
        m.targetDeviceId m.controllerId m.encryptedPayload.length).1 = true
    | .forwarding _ _ session, _ => s.shared.outboundOpen session.outboundTx = true
    | _, _ => True
  | a => ∀ m rx k, (s.ctrl c).pc.receiver = some (m, rx) → s.dataTakes a = some k →
      s.shared.table.entries.lookup k ≠ some (s.shared.table.joinedAt rx)

/-! ### The answer of a receiver -/

theorem Device.payload_of_handle {sh : Shared} {n i : ℕ} {l : Device} {msg : DeviceMessage}
    {j : ℕ} {d : String} {response : DataResponse}
    (h : .data j d response ∈ (handle sh n i l msg).events) :
    msg.payload = some (.data response) ∧ l.currentDeviceId = some d := by
  unfold handle at h
  split_ifs at h
  · split at h
    · unfold register at h
      split at h <;> simp at h
    · unfold heartbeat at h
      split at h <;> simp at h
    · rename_i response' payload
      unfold data at h
      split at h
      · simp at h
      · rename_i d' identity
        split at h
        · simp only [List.mem_cons, Event.data.injEq, reduceCtorEq, List.not_mem_nil, or_false] at h
          obtain ⟨-, rfl, rfl⟩ := h
          exact ⟨payload, identity⟩
        · simp only [List.mem_singleton, Event.data.injEq] at h
          obtain ⟨-, rfl, rfl⟩ := h
          exact ⟨payload, identity⟩
    · simp at h
  · simp at h

section

variable {cfg : Config} {s s' : State} {a : Action} {i n c rx : ℕ} {d : String} {q : ℤ}
  {m : ControllerMessage} {r : Reply}

/-- A `Data` message that is accepted takes the entry of its key. -/
theorem dataTakes_of_step {input : DevInput} {msg : DeviceMessage} {response : DataResponse}
    (hs : step cfg s (.dev i input) = some s') (at_pc : (s.dev i).pc = .handling msg)
    (data : .data i d response ∈ s'.trace.drop s.trace.length) :
    s.dataTakes (.dev i input) = some (d, response.sequenceNumber) := by
  obtain ⟨next, hn, rfl⟩ := Option.map_eq_some_iff.1 hs
  have tick : next = Device.handle s.shared s.trace.length i (s.dev i) msg := by
    cases input <;> simp only [Device.step, at_pc] at hn <;> cases hn
    rfl
  subst tick
  obtain ⟨payload, identity⟩ := Device.payload_of_handle (by simpa [State.afterDev] using data)
  obtain ⟨deviceId, token, payload'⟩ := msg
  subst payload
  simp [State.dataTakes, at_pc, identity]

theorem joinedAt_of_tableStep (h : TableStep s s') (lt : rx < s.shared.table.receivers) :
    s'.shared.table.joinedAt rx = s.shared.table.joinedAt rx := by
  cases h with
  | same table _ _ => rw [table]
  | join m table _ _ =>
    rw [table, (s.shared.table.join_spec m.key m.targetDeviceId).2.2.1,
      Function.update_of_ne lt.ne]
  | take τ k a r _ _ found table _ _ => rw [table, (SingleFlight.Table.take_eq_some found).2]
  | complete τ a r rest _ table _ _ => rw [table]; rfl

/-- What a receiver gets in a step is the response that a task held its entry with. -/
theorem sent_of_tableStep (C : Custody s) (h : TableStep s s')
    (sent : r ∈ s'.shared.table.channel rx) :
    r ∈ s.shared.table.channel rx ∨ ∃ τ, (s.shared.table.joinedAt rx, r) ∈ s.pending τ := by
  have S := C.run.ledger.sound
  cases h with
  | same table _ _ => exact Or.inl (table ▸ sent)
  | join m table _ _ =>
    rw [table, (s.shared.table.join_spec m.key m.targetDeviceId).2.2.2.1] at sent
    exact Or.inl sent
  | take τ k a r _ _ found table _ _ =>
    rw [table, (SingleFlight.Table.take_eq_some found).2] at sent
    exact Or.inl sent
  | complete τ a r' rest head table _ _ =>
    rw [table, S.channel_complete] at sent
    split_ifs at sent with waits
    · obtain rfl := List.mem_singleton.1 sent
      rw [(S.waiting a rx waits).2.1]
      exact Or.inr ⟨τ, by simp [head]⟩
    · exact Or.inl sent

namespace ReservedFor

/-- An entry that a task holds is completed by this task. -/
theorem of_held (hr : Reachable cfg s) {τ : Task}
    (held : (s.shared.table.joinedAt rx, r) ∈ s.pending τ) : ReservedFor s rx r := by
  have C := custody_of_reachable hr
  refine ⟨fun v sent => ?_, fun τ' v held' => ?_⟩
  · exact absurd (C.run.ledger.sent rx v sent) ((C.held τ _ r held).2 v)
  · obtain rfl := C.disjoint τ τ' _ _ _ held held'
    exact congrArg Prod.snd (List.inj_on_of_nodup_map (C.nodup τ) held' held rfl)

/-- A receiver of an entry that is in the map has no answer. -/
theorem of_mapped (hr : Reachable cfg s) {k : RequestKey}
    (mapped : s.shared.table.entries.lookup k = some (s.shared.table.joinedAt rx)) :
    ReservedFor s rx r := by
  have C := custody_of_reachable hr
  obtain ⟨free, once⟩ := C.free_of_mapped mapped
  refine ⟨fun v sent => ?_, fun τ v held => ?_⟩
  · exact absurd (C.run.ledger.sent rx v sent) (once v)
  · exact absurd held (free τ v)

/-- A step that spares the loop leaves its receiver without another answer. -/
theorem step (hr : Reachable cfg s) (hs : GrpcRelay.step cfg s a = some s') (ok : Spares c s a)
    (receiver : (s.ctrl c).pc.receiver = some (m, rx)) (key : m.key = (d, q))
    (U : ReservedFor s rx (Controller.offlineReply d q)) :
    ReservedFor s' rx (Controller.offlineReply d q) := by
  have C := custody_of_reachable hr
  have cases := step_cases hs
  have table := tableStep_of_cases C.collected cases
  obtain ⟨entry, new, joined⟩ := (provenance_of_reachable hr).receiver c m rx receiver
  obtain ⟨lt, rfl, cell, found, hkey⟩ := C.run.ledger.joined _ _ _ _ joined
  refine ⟨fun v sent => ?_, fun τ v held => ?_⟩
  · rcases sent_of_tableStep C table sent with sent | ⟨τ, held⟩
    · exact U.sent v sent
    · exact U.held τ v held
  · rw [joinedAt_of_tableStep table lt] at held
    rcases pending_of_cases C.collected cases held with
      held | ⟨k, -, mapped, rfl⟩ | ⟨i, input, msg, d', response, rfl, at_pc, data, mapped, -⟩
    · exact U.held τ v held
    · -- The relay took the entry under its key, which is that of the request.
      obtain ⟨cell', found', hkey'⟩ := C.run.ledger.sound.mapped k _ mapped
      rw [found, Option.some.injEq] at found'
      subst found'
      obtain rfl : k = (d, q) := hkey'.symm.trans (hkey.trans key)
      rfl
    · exact absurd mapped (ok m rx _ receiver (dataTakes_of_step hs at_pc data))

end ReservedFor

end

/-- A step that brings an entry to its completion spares every loop. -/
theorem Serves.spares {s : State} {a : Action} (h : Serves s a) (c : ℕ) : Spares c s a := by
  cases a with
  | ctrl c' input =>
    rintro rfl
    cases hpc : (s.ctrl c').pc <;> simp_all [Serves, CtrlPc.pending]
  | dev i input =>
    intro m rx k _ takes
    cases hpc : (s.dev i).pc <;> simp_all [Serves, DevPc.pending, State.dataTakes]
  | timer | advance =>
    intro m rx k _ takes
    cases takes
  | _ => cases h

/-! ### The steps of a loop -/

namespace Controller

variable {cfg : Config} {sh : Shared} {c rx : ℕ} {l : Controller} {input : CtrlInput}
  {next : Next Controller} {m : ControllerMessage} {r : Reply}

theorem lookingUp_of_moves (move : Moves cfg sh c l input next) (at_pc : l.pc = .lookingUp m) :
    (∃ r, sh.cache.lookup m.key = some r ∧ next.loc.pc.reply = some (m, r)) ∨
      next.loc.pc = .joining m := by
  cases move
  case hit m' r at_pc' found =>
    obtain rfl : m' = m := by simpa using at_pc'.symm.trans at_pc
    exact Or.inl ⟨r, found, rfl⟩
  case missed m' at_pc' _ =>
    obtain rfl : m' = m := by simpa using at_pc'.symm.trans at_pc
    exact Or.inr rfl
  all_goals simp_all

/-- A loop joins an entry of the map. -/
theorem joining_of_moves (move : Moves cfg sh c l input next) (at_pc : l.pc = .joining m) :
    next.loc.pc.receiver = some (m, sh.table.receivers) ∧ ¬ next.loc.pc.Offline ∧
      next.shared.table.entries.lookup m.key =
        some (next.shared.table.joinedAt sh.table.receivers) := by
  have mapped : (sh.table.join m.key m.targetDeviceId).1.entries.lookup m.key =
      some ((sh.table.join m.key m.targetDeviceId).1.joinedAt sh.table.receivers) := by
    rw [sh.table.lookup_join, (sh.table.join_spec m.key m.targetDeviceId).2.2.1,
      Function.update_self]
  cases move
  case opened m' at_pc' _ =>
    obtain rfl : m' = m := by simpa using at_pc'.symm.trans at_pc
    exact ⟨rfl, id, mapped⟩
  case joined m' entry at_pc' _ =>
    obtain rfl : m' = m := by simpa using at_pc'.symm.trans at_pc
    exact ⟨rfl, id, mapped⟩
  all_goals simp_all

/-- A loop with a receiver keeps it, gets an answer from it, finds its device offline, is refused
for its bandwidth, or finds the receiver closed. -/
theorem receiver_cases (move : Moves cfg sh c l input next)
    (receiver : l.pc.receiver = some (m, rx)) (online : ¬ l.pc.Offline) :
    (next.loc.pc.receiver = some (m, rx) ∧ ¬ next.loc.pc.Offline) ∨
      (∃ r ∈ sh.table.channel rx, next.loc.pc.reply = some (m, r)) ∨
      (l.pc = .routing m rx ∧ sh.relay.sessionsByDeviceId.lookup m.targetDeviceId = none) ∨
      (∃ session readings, l.pc = .metering m rx session ∧ input = .clock readings ∧
        (sh.bandwidthTracker.recordAndCheck readings m.targetDeviceId m.controllerId
          m.encryptedPayload.length).1 = false) ∨
      (∃ session, l.pc = .forwarding m rx session ∧
        sh.outboundOpen session.outboundTx = false) ∨
      sh.table.closed rx = true := by
  cases move
  case routed m' rx' session at_pc _ =>
    rw [at_pc] at receiver
    cases receiver
    exact Or.inl ⟨rfl, id⟩
  case unrouted m' rx' at_pc offline =>
    rw [at_pc] at receiver
    cases receiver
    exact Or.inr (Or.inr (Or.inl ⟨at_pc, offline⟩))
  case metered m' rx' session readings sh' at_pc _ =>
    rw [at_pc] at receiver
    cases receiver
    exact Or.inl ⟨rfl, id⟩
  case throttled m' rx' session readings sh' resp at_pc _ exceeded _ =>
    rw [at_pc] at receiver
    cases receiver
    exact Or.inr (Or.inr (Or.inr (Or.inl ⟨session, readings, at_pc, rfl, exceeded⟩)))
  case placed m' rx' session at_pc =>
    rw [at_pc] at receiver
    cases receiver
    exact Or.inl ⟨rfl, id⟩
  case unsent m' rx' session at_pc gone =>
    rw [at_pc] at receiver
    cases receiver
    exact Or.inr (Or.inr (Or.inr (Or.inr (Or.inl ⟨session, at_pc, gone⟩))))
  case received m' rx' r at_pc sent | receivedShared m' rx' r at_pc sent =>
    rw [at_pc] at receiver
    cases receiver
    exact Or.inr (Or.inl ⟨r, sent, rfl⟩)
  case closed m' rx' isNewForwarder resp at_pc gone _ =>
    rw [at_pc] at receiver
    cases receiver
    exact Or.inr (Or.inr (Or.inr (Or.inr (Or.inr gone))))
  case took at_pc _ | tookNothing at_pc _ => simp [at_pc, CtrlPc.Offline] at online
  case refused at_pc _ _ _ => rcases at_pc with h | h | h <;> rw [h] at receiver <;> cases receiver
  case rested at_pc _ => rcases at_pc with h | h <;> rw [h] at receiver <;> cases receiver
  case ended at_pc _ =>
    rcases at_pc with ⟨h, -⟩ | ⟨h, -⟩ | ⟨h, -⟩ <;> rw [h] at receiver <;> cases receiver
  all_goals simp_all [CtrlPc.receiver]

/-- A loop with a response keeps it until it is sent. -/
theorem reply_cases (move : Moves cfg sh c l input next) (reply : l.pc.reply = some (m, r)) :
    next.loc.pc.reply = some (m, r) ∨ .answered c r ∈ next.events := by
  cases move
  case cached at_pc | finished at_pc _ =>
    rw [at_pc] at reply
    exact Or.inl reply
  case sent m' r' at_pc =>
    rw [at_pc] at reply
    cases reply
    exact Or.inr (List.mem_singleton.2 rfl)
  case refused at_pc _ _ _ => rcases at_pc with h | h | h <;> rw [h] at reply <;> cases reply
  case rested at_pc _ => rcases at_pc with h | h <;> rw [h] at reply <;> cases reply
  case ended at_pc _ =>
    rcases at_pc with ⟨h, -⟩ | ⟨h, -⟩ | ⟨h, -⟩ <;> rw [h] at reply <;> cases reply
  all_goals simp_all [CtrlPc.reply]

end Controller

namespace Unanswered

variable {cfg : Config} {s s' : State} {a : Action} {n c : ℕ} {d : String} {q : ℤ}

/-- A receiver of a loop is not closed. -/
theorem not_closed (hr : Reachable cfg s) {m : ControllerMessage} {rx : ℕ}
    (receiver : (s.ctrl c).pc.receiver = some (m, rx)) : s.shared.table.closed rx ≠ true := by
  have L := (custody_of_reachable hr).run.ledger
  obtain ⟨entry, new, joined⟩ := (provenance_of_reachable hr).receiver c m rx receiver
  obtain ⟨lt, -, -⟩ := L.joined _ _ _ _ joined
  obtain ⟨hcell, hplace⟩ := L.sound.placed rx lt
  intro closed
  simp only [SingleFlight.Table.closed, Bool.and_eq_true, List.isEmpty_iff, List.all_eq_true,
    List.mem_range, Bool.not_eq_true'] at closed
  rcases hplace with waits | ⟨-, v, sent⟩
  · have := closed.2 _ hcell
    simp_all
  · rw [closed.1] at sent
    cases sent

/-- After a step that spares the loop, its request has no other answer yet, or it was answered with
`DEVICE_OFFLINE`. -/
theorem step (hr : Reachable cfg s) (hs : GrpcRelay.step cfg s a = some s') (ok : Spares c s a)
    (U : Unanswered s c d q) :
    Unanswered s' c d q ∨ SentSince s.trace.length c (Controller.offlineReply d q) s' := by
  by_cases own : ∃ input, a = .ctrl c input
  · obtain ⟨input, rfl⟩ := own
    have hr' : Reachable cfg s' := hr.next _ trivial hs
    obtain ⟨next, hn, rfl⟩ := Option.map_eq_some_iff.1 hs
    have move := Controller.moves_of_step hn
    have loc : (s.afterCtrl c next).ctrl c = next.loc := Function.update_self ..
    cases U with
    | asking m key at_pc =>
      rcases at_pc with at_pc | at_pc
      · rcases Controller.lookingUp_of_moves move at_pc with ⟨r, found, reply⟩ | joins
        · have same := ok rfl
          rw [at_pc] at same
          obtain rfl := same r found
          refine Or.inl (.answering m ?_)
          rw [loc, reply]
          cases key
          rfl
        · exact Or.inl (.asking m key (Or.inr (by rw [loc, joins])))
      · obtain ⟨receiver, online, mapped⟩ := Controller.joining_of_moves move at_pc
        refine Or.inl (.awaiting m _ key (by rw [loc, receiver]) (by rwa [loc]) ?_)
        exact .of_mapped hr' mapped
    | awaiting m rx key receiver online reserved =>
      have spared := ok rfl
      rcases Controller.receiver_cases move receiver online with
        ⟨receiver', online'⟩ | ⟨r, sent, reply⟩ | ⟨at_pc, offline⟩ |
          ⟨session, readings, at_pc, rfl, exceeded⟩ | ⟨session, at_pc, gone⟩ | closed
      · exact Or.inl (.awaiting m rx key (by rw [loc, receiver']) (by rwa [loc])
          (reserved.step hr hs ok receiver key))
      · obtain rfl := reserved.sent r sent
        exact Or.inl (.answering m (by rw [loc, reply]))
      · simp [at_pc, offline] at spared
      · simp [at_pc, exceeded] at spared
      · simp [at_pc, gone] at spared
      · exact absurd closed (not_closed hr receiver)
    | answering m reply =>
      rcases Controller.reply_cases move reply with reply | answered
      · exact Or.inl (.answering m (by rw [loc, reply]))
      · refine Or.inr (Or.inl ?_)
        simpa [State.afterCtrl] using answered
  · have same := ctrl_of_cases (step_cases hs) fun input h => own ⟨input, h⟩
    cases U with
    | asking m key at_pc => exact Or.inl (.asking m key (by rwa [same]))
    | awaiting m rx key receiver online reserved =>
      exact Or.inl (.awaiting m rx key (by rwa [same]) (by rwa [same])
        (reserved.step hr hs ok receiver key))
    | answering m reply => exact Or.inl (.answering m (by rwa [same]))

/-- In every run that spares the loop, its request has no other answer yet, or it was answered with
`DEVICE_OFFLINE`. -/
theorem reach (hr : Reachable cfg s) (before : n ≤ s.trace.length) (U : Unanswered s c d q)
    (run : Runs.Reach (GrpcRelay.step cfg) (Spares c) s s') :
    n ≤ s'.trace.length ∧
      (Unanswered s' c d q ∨ SentSince n c (Controller.offlineReply d q) s') := by
  refine run.invariant (I := fun s' : State => n ≤ s'.trace.length ∧
    (Unanswered s' c d q ∨ SentSince n c (Controller.offlineReply d q) s')) ⟨before, Or.inl U⟩ ?_
  intro s₁ a s₂ reach₁ I₁ ok hs
  obtain ⟨before₁, I₁⟩ := I₁
  obtain ⟨events, trace⟩ := trace_of_cases (step_cases hs)
  refine ⟨by rw [trace, List.length_append]; omega, ?_⟩
  rcases I₁ with U | sent
  · have hr₁ : Reachable cfg s₁ := hr.trans (reach₁.mono fun _ _ _ => trivial)
    exact (U.step hr₁ hs ok).imp_right fun sent => sent.since before₁
  · exact Or.inr (sent.step hs)

/-- The loop is within its request. -/
theorem outstanding (U : Unanswered s c d q) : (s.ctrl c).pc.outstanding ≠ none := by
  cases U with
  | asking m key at_pc => rcases at_pc with h | h <;> simp [h, CtrlPc.outstanding]
  | awaiting m rx key receiver online reserved =>
    cases hpc : (s.ctrl c).pc <;> simp_all [CtrlPc.receiver, CtrlPc.outstanding]
  | answering m reply =>
    cases hpc : (s.ctrl c).pc <;> simp_all [CtrlPc.reply, CtrlPc.outstanding]

theorem busy (U : Unanswered s c d q) : 0 < (s.ctrl c).pc.rank := by
  obtain ⟨m, hm⟩ := Option.ne_none_iff_exists'.1 U.outstanding
  exact rank_pos_of_outstanding hm

/-- The loop can go on until it has answered with `DEVICE_OFFLINE`, or comes to a step that ends its
request in another way. -/
theorem answered (hr : Reachable cfg s) (before : n ≤ s.trace.length) (U : Unanswered s c d q) :
    ∃ s', Runs.Reach (GrpcRelay.step cfg) (Spares c) s s' ∧
      (SentSince n c (Controller.offlineReply d q) s' ∨
        ∃ input, ¬ Spares c s' (.ctrl c input)) := by
  induction hn : (s.ctrl c).pc.rank using Nat.strong_induction_on generalizing s with
  | _ rank ih =>
    -- A loop that waits gets its answer first.
    obtain ⟨s₁, run₁, same₁, ready⟩ : ∃ s₁, Runs.Reach (GrpcRelay.step cfg) (Spares c) s s₁ ∧
        s₁.ctrl c = s.ctrl c ∧ ∀ m rx isNewForwarder,
          (s₁.ctrl c).pc = .waiting m rx isNewForwarder → s₁.shared.table.channel rx ≠ [] := by
      by_cases waits : ∃ m rx isNewForwarder, (s.ctrl c).pc = .waiting m rx isNewForwarder
      · obtain ⟨m, rx, isNewForwarder, hpc⟩ := waits
        obtain ⟨s₁, run₁, same₁, answered⟩ := deliver_of_waiting hr hpc
        refine ⟨s₁, run₁.mono fun _ _ h => h.spares c, same₁, ?_⟩
        intro m' rx' isNewForwarder' hpc'
        rw [same₁, hpc] at hpc'
        cases hpc'
        exact answered
      · exact ⟨s, .start, rfl, fun m rx b h => absurd ⟨m, rx, b, h⟩ waits⟩
    obtain ⟨before₁, U₁ | sent₁⟩ := U.reach hr before run₁
    · by_cases ends : ∃ input, ¬ Spares c s₁ (.ctrl c input)
      · exact ⟨s₁, run₁, Or.inr ends⟩
      · have hr₁ : Reachable cfg s₁ := hr.trans (run₁.mono fun _ _ _ => trivial)
        obtain ⟨input, next, hs⟩ := Controller.step_of_busy cfg s₁.shared c U₁.busy ready
        have hs₂ : GrpcRelay.step cfg s₁ (.ctrl c input) = some (s₁.afterCtrl c next) := by
          simp only [GrpcRelay.step, hs, Option.map_some]
        have ok : Spares c s₁ (.ctrl c input) := not_not.1 fun h => ends ⟨input, h⟩
        have run₂ : Runs.Reach (GrpcRelay.step cfg) (Spares c) s (s₁.afterCtrl c next) :=
          .next _ run₁ ok hs₂
        obtain ⟨before₂, U₂ | sent₂⟩ := U.reach hr before run₂
        · have lower := (Controller.rank_of_moves (Controller.moves_of_step hs) U₁.busy).1
          have loc : (s₁.afterCtrl c next).ctrl c = next.loc := Function.update_self ..
          obtain ⟨s', run', ends'⟩ := ih _ (by rw [loc, ← hn, ← same₁]; exact lower)
            (hr₁.next _ trivial hs₂) before₂ U₂ rfl
          exact ⟨s', run₂.trans run', ends'⟩
        · exact ⟨_, run₂, Or.inl sent₂⟩
    · exact ⟨s₁, run₁, Or.inl sent₁⟩

end Unanswered

/-! ## The moment of the disconnect -/

section

variable {cfg : Config} {s s₁ s' : State} {i n c : ℕ} {d : String} {q : ℤ}
  {reason : DisconnectReason} {taken : List (ℤ × ℕ)} {μ : StreamMapping}

/-- An idle stream is told by the cleanup that removed its mapping. -/
theorem idle_stream_is_told (at_pc : (s.dev i).pc = .sweeping d reason [] taken)
    (hs : step cfg s (.dev i .tick) = some s₁) (mem : μ ∈ s.shared.router.getMappingsForDevice d)
    (idle : μ.activeRequests = 0) (run : Runs.Reach (step cfg) (fun _ _ => True) s₁ s') :
    ((s'.dev i).pc = .done →
        SentSince s.trace.length μ.controllerTx (Controller.offlineReply d 0) s') ∧
      ∃ s'', Runs.Reach (step cfg) (fun _ _ => True) s' s'' ∧
        SentSince s.trace.length μ.controllerTx (Controller.offlineReply d 0) s'' := by
  obtain ⟨next, hn, rfl⟩ := Option.map_eq_some_iff.1 hs
  have start : ((s.afterDev i next).dev i).pc.untold =
      some (d, s.shared.router.getMappingsForDevice d) := by
    rw [State.dev_afterDev_self, ← StreamRouter.removed_removeAllForDevice]
    simp only [Device.step, at_pc] at hn
    cases hn
    rfl
  -- The stream was told, or is among those that the cleanup has still to tell.
  have told : s.trace.length ≤ s'.trace.length ∧
      (SentSince s.trace.length μ.controllerTx (Controller.offlineReply d 0) s' ∨
        ∃ removed, (s'.dev i).pc.untold = some (d, removed) ∧ μ ∈ removed) := by
    refine run.invariant (I := fun s' : State => s.trace.length ≤ s'.trace.length ∧
      (SentSince s.trace.length μ.controllerTx (Controller.offlineReply d 0) s' ∨
        ∃ removed, (s'.dev i).pc.untold = some (d, removed) ∧ μ ∈ removed)) ?_ ?_
    · refine ⟨?_, Or.inr ⟨_, start, mem⟩⟩
      simp [State.afterDev]
    · rintro s₁ a s₂ - ⟨before, told⟩ - hs
      obtain ⟨events, trace⟩ := trace_of_cases (step_cases hs)
      refine ⟨by rw [trace, List.length_append]; omega, ?_⟩
      rcases told with sent | ⟨removed, untold, mem⟩
      · exact Or.inl (sent.step hs)
      · exact (untold_of_step hs untold mem idle).imp_left fun sent => sent.since before
  obtain ⟨before, sent | ⟨removed, untold, mem'⟩⟩ := told
  · exact ⟨fun _ => sent, s', .start, sent⟩
  · refine ⟨fun ended => ?_, told_of_untold untold mem' idle before⟩
    rw [ended] at untold
    cases untold

/-- A stream whose request has no other answer is told by its loop. -/
theorem busy_stream_is_told (h : Reachable cfg s)
    (at_pc : (s.dev i).pc = .sweeping d reason [] taken)
    (hs : step cfg s (.dev i .tick) = some s₁) (U : Unanswered s c d q)
    (run : Runs.Reach (step cfg) (Spares c) s₁ s') :
    ((s'.ctrl c).pc.outstanding = none →
        SentSince s.trace.length c (Controller.offlineReply d q) s') ∧
      ∃ s'', Runs.Reach (step cfg) (Spares c) s' s'' ∧
        (SentSince s.trace.length c (Controller.offlineReply d q) s'' ∨
          ∃ input, ¬ Spares c s'' (.ctrl c input)) := by
  have spares : Spares c s (.dev i .tick) := by
    intro m rx k _ takes
    simp [State.dataTakes, at_pc] at takes
  have whole : Runs.Reach (step cfg) (Spares c) s s' :=
    (Runs.Reach.next _ .start spares hs).trans run
  have hr' : Reachable cfg s' := h.trans (whole.mono fun _ _ _ => trivial)
  obtain ⟨before, U' | sent⟩ := U.reach h le_rfl whole
  · refine ⟨fun ended => ?_, U'.answered hr' before⟩
    exact absurd ended U'.outstanding
  · exact ⟨fun _ => sent, s', .start, Or.inl sent⟩

/-- From the moment at which the cleanup of a stream of a device removes the mappings: a stream of
the device without an active request is told with number 0, and a stream with one whose request has
no other answer is told with the number of its request, in every run that does not end the request
in another way. -/
theorem disconnect_is_told (h : Reachable cfg s)
    (at_pc : (s.dev i).pc = .sweeping d reason [] taken)
    (hs : step cfg s (.dev i .tick) = some s₁)
    (mem : μ ∈ s.shared.router.getMappingsForDevice d) :
    (μ.activeRequests = 0 → ∀ s', Runs.Reach (step cfg) (fun _ _ => True) s₁ s' →
      ((s'.dev i).pc = .done →
        SentSince s.trace.length μ.controllerTx (Controller.offlineReply d 0) s') ∧
      ∃ s'', Runs.Reach (step cfg) (fun _ _ => True) s' s'' ∧
        SentSince s.trace.length μ.controllerTx (Controller.offlineReply d 0) s'') ∧
    (μ.activeRequests ≠ 0 → ∀ q, Unanswered s μ.controllerTx d q →
      ∀ s', Runs.Reach (step cfg) (Spares μ.controllerTx) s₁ s' →
        ((s'.ctrl μ.controllerTx).pc.outstanding = none →
          SentSince s.trace.length μ.controllerTx (Controller.offlineReply d q) s') ∧
        ∃ s'', Runs.Reach (step cfg) (Spares μ.controllerTx) s' s'' ∧
          (SentSince s.trace.length μ.controllerTx (Controller.offlineReply d q) s'' ∨
            ∃ input, ¬ Spares μ.controllerTx s'' (.ctrl μ.controllerTx input))) :=
  ⟨fun idle _ run => idle_stream_is_told at_pc hs mem idle run,
    fun _ _ U _ run => busy_stream_is_told h at_pc hs U run⟩

end

/-! ### Concrete runs -/

namespace Small

/-- The stream hangs up and its cleanup collects and takes the entries of these keys. -/
def hangUp (i : ℕ) (keys : List RequestKey) : List Action :=
  [Action.dev i .eof, .dev i .tick] ++ keys.map (fun k => Action.dev i (.visit k)) ++
    devTicks i (keys.length + 1)

/-- Loop 0 waits for an answer that the device has given when it hangs up. -/
def answeredAtHangUp : List Action :=
  register 0 "d" "t" ++ join 0 (request 1) ++ forward 0 ++ data 0 "d" 1 ++ devTicks 0 1 ++
    hangUp 0 []

/-- The cleanup comes to its end, and the loop hands its answer on and ends. -/
def goOn : List Action :=
  devTicks 0 8 ++ ticks 0 4 ++ [Action.ctrl 0 .eof] ++ ticks 0 2

/-- Loop 0 is idle and loop 1 waits for an answer when the device hangs up. -/
def idleAndBusy : List Action :=
  register 0 "d" "t" ++ join 0 (request 1) ++ forward 0 ++ data 0 "d" 1 ++ devTicks 0 1 ++
    ticks 0 4 ++ join 1 (request 2) ++ forward 1 ++ hangUp 0 [("d", 2)]

/-- What the cleanup of device `"d"` took that is about to remove the mappings. -/
def swept : DevPc → Option (List (ℤ × ℕ))
  | .sweeping "d" .gracefulShutdown [] taken => some taken
  | _ => none

theorem sweeping_of_swept {pc : DevPc} {taken : List (ℤ × ℕ)} (h : swept pc = some taken) :
    pc = .sweeping "d" .gracefulShutdown [] taken := by
  unfold swept at h
  split at h
  · cases h
    rfl
  · cases h

/-- The message and the receiver of a loop that waits. -/
def waitsIn : CtrlPc → Option (ControllerMessage × ℕ)
  | .waiting m rx _ => some (m, rx)
  | _ => none

theorem receiver_of_waitsIn {pc : CtrlPc} {m : ControllerMessage} {rx : ℕ}
    (h : waitsIn pc = some (m, rx)) : pc.receiver = some (m, rx) ∧ ¬ pc.Offline := by
  unfold waitsIn at h
  split at h
  · exact ⟨h, id⟩
  · cases h

/-- Stream 0 and loop 0 are over. -/
def bothDone (s : State) : Bool :=
  match (s.dev 0).pc, (s.ctrl 0).pc with
  | .done, .done => true
  | _, _ => false

theorem done_of_bothDone {s : State} (h : bothDone s = true) :
    (s.dev 0).pc = .done ∧ (s.ctrl 0).pc = .done := by
  unfold bothDone at h
  split at h
  · rename_i hd hc
    exact ⟨hd, hc⟩
  · cases h

/-- The error codes of the responses sent to controllers. -/
def sentError : Event → Option ℤ
  | .answered _ r | .notified _ r => some r.resp.error
  | _ => none

/-- A response that was sent shows in the error codes. -/
theorem mem_sentError {n c : ℕ} {r : Reply} {s : State} (h : SentSince n c r s) :
    r.resp.error ∈ (s.trace.drop n).filterMap sentError := by
  rcases h with h | h
  · exact List.mem_filterMap.2 ⟨_, h, rfl⟩
  · exact List.mem_filterMap.2 ⟨_, h, rfl⟩

end Small

/-- The answer of the device is in the channel of the loop's receiver when the mappings are removed;
the loop sends it after `finish_request`, and nobody tells its controller of the disconnect. -/
theorem answered_stream_is_not_told :
    ¬ ∀ (cfg : Config) (s s₁ s' : State) (i : ℕ) (d : String) (reason : DisconnectReason)
        (taken : List (ℤ × ℕ)) (μ : StreamMapping) (m : ControllerMessage),
      Reachable cfg s → (s.dev i).pc = .sweeping d reason [] taken →
      Device.ownsSession s.shared (s.dev i) d = true → step cfg s (.dev i .tick) = some s₁ →
      μ ∈ s.shared.router.getMappingsForDevice d → μ.activeRequests ≠ 0 →
      (s.ctrl μ.controllerTx).pc.outstanding = some m →
      Runs.Reach (step cfg) (fun _ _ => True) s₁ s' →
      (s'.dev i).pc = .done → (s'.ctrl μ.controllerTx).pc = .done →
      SentSince s.trace.length μ.controllerTx
        (Controller.offlineReply d m.sequenceNumber) s' := by
  intro claim
  obtain ⟨s, hs, hf⟩ : ∃ s, execute Small.config Small.answeredAtHangUp = some s ∧
      (Small.swept (s.dev 0).pc, Device.ownsSession s.shared (s.dev 0) "d",
        (s.shared.router.getMappingsForDevice "d").map fun μ =>
          (μ.activeRequests, μ.controllerTx)) = (some [], true, [(1, 0)]) :=
    Option.map_eq_some_iff.1 (by decide +kernel)
  have pending : (execute Small.config Small.answeredAtHangUp).map
      (fun s => (s.ctrl 0).pc.outstanding) = some (some (Small.request 1)) := by decide +kernel
  have later : (execute Small.config Small.answeredAtHangUp).map (fun s =>
      (Runs.execute (step Small.config) s (Action.dev 0 .tick :: Small.goOn)).map fun s' =>
        (Small.bothDone s', (s'.trace.drop s.trace.length).filterMap Small.sentError)) =
      some (some (true, [0])) := by decide +kernel
  simp only [hs, Option.map_some, Option.some.injEq] at pending later
  simp only [Prod.mk.injEq] at hf
  obtain ⟨moment, owns, mappings⟩ := hf
  obtain ⟨μ, hμ, counts⟩ := List.map_eq_singleton_iff.1 mappings
  obtain ⟨active, tx⟩ := Prod.mk.inj counts
  obtain ⟨s', run, hf'⟩ := Option.map_eq_some_iff.1 later
  obtain ⟨ended, errors⟩ := Prod.mk.inj hf'
  obtain ⟨s₁, hs₁, run⟩ := Option.bind_eq_some_iff.1 run
  obtain ⟨devDone, ctrlDone⟩ := Small.done_of_bothDone ended
  have told := claim Small.config s s₁ s' 0 "d" _ _ μ _ (reachable_of_execute hs)
    (Small.sweeping_of_swept moment) owns hs₁ (by rw [hμ]; exact List.mem_singleton_self _)
    (by rw [active]; exact one_ne_zero) (by rw [tx]; exact pending)
    (Runs.Reach.of_execute (fun _ _ => trivial) _ .start run) devDone (by rw [tx]; exact ctrlDone)
  have code := Small.mem_sentError told
  rw [errors, List.mem_singleton] at code
  exact absurd code (by decide)

/-- An idle stream and one that waits are told. -/
theorem idle_and_waiting_streams_are_told :
    ∃ s s₁, execute Small.config Small.idleAndBusy = some s ∧
      step Small.config s (.dev 0 .tick) = some s₁ ∧
      (∃ s', Runs.Reach (step Small.config) (fun _ _ => True) s₁ s' ∧
        SentSince s.trace.length 0 (Controller.offlineReply "d" 0) s') ∧
      ∃ s', Runs.Reach (step Small.config) (Spares 1) s₁ s' ∧
        (SentSince s.trace.length 1 (Controller.offlineReply "d" 2) s' ∨
          ∃ input, ¬ Spares 1 s' (.ctrl 1 input)) := by
  obtain ⟨s, hs, hf⟩ : ∃ s, execute Small.config Small.idleAndBusy = some s ∧
      (Small.swept (s.dev 0).pc,
        (s.shared.router.getMappingsForDevice "d").map fun μ =>
          (μ.activeRequests, μ.controllerTx)) = (some [(2, 1)], [(1, 1), (0, 0)]) :=
    Option.map_eq_some_iff.1 (by decide +kernel)
  have loop : (execute Small.config Small.idleAndBusy).map (fun s =>
      (Small.waitsIn (s.ctrl 1).pc, s.shared.table.joinedAt 1)) =
      some (some (Small.request 2, 1), 1) := by decide +kernel
  simp only [hs, Option.map_some, Option.some.injEq, Prod.mk.injEq] at loop hf
  obtain ⟨waits, joined⟩ := loop
  obtain ⟨moment, mappings⟩ := hf
  have at_pc := Small.sweeping_of_swept moment
  have hr := reachable_of_execute hs
  obtain ⟨s₁, hs₁⟩ : ∃ s₁, step Small.config s (.dev 0 .tick) = some s₁ :=
    ⟨_, by simp only [step, Device.step, at_pc]; rfl⟩
  -- The cleanup holds the entry that loop 1 waits in.
  have U : Unanswered s 1 "d" 2 := by
    obtain ⟨receiver, online⟩ := Small.receiver_of_waitsIn waits
    refine .awaiting (Small.request 2) 1 rfl receiver online ?_
    refine .of_held hr (τ := .dev 0) ?_
    simp [State.pending, at_pc, DevPc.pending, joined]
  obtain ⟨μ₁, rest, listed, busy, others⟩ := List.map_eq_cons_iff.1 mappings
  obtain ⟨μ₀, rfl, idle⟩ := List.map_eq_singleton_iff.1 others
  obtain ⟨active₁, tx₁⟩ := Prod.mk.inj busy
  obtain ⟨active₀, tx₀⟩ := Prod.mk.inj idle
  have told₀ := (disconnect_is_told hr at_pc hs₁ (μ := μ₀) (by simp [listed])).1 active₀ s₁ .start
  have told₁ := (disconnect_is_told hr at_pc hs₁ (μ := μ₁) (by simp [listed])).2
    (by rw [active₁]; exact one_ne_zero) 2 (by rw [tx₁]; exact U) s₁ .start
  rw [tx₀] at told₀
  rw [tx₁] at told₁
  exact ⟨s, s₁, hs, hs₁, told₀.2, told₁.2⟩

end GrpcRelay
