import GrpcRelay.Responses
import Mathlib.Data.List.Induction

/-!
# One answer for every message

A loop is to answer each message on its own channel exactly once before it pulls the next one.  It
does so in every run in which no request of its own is found without a session or with a closed
outbound channel: there the loop completes the entry and goes on without answering
(`Controller.route`, `Controller.forward`).

The notices that a cleanup sends to idle streams carry the sequence number 0, which no valid
request has; they count as responses here as well.
-/

namespace GrpcRelay

/-! ## Counting responses -/

/-- The count of responses after an event. -/
def Event.note (c : ℕ) (count : Option (RequestKey × ℕ)) : Event → Option (RequestKey × ℕ)
  | .pulled c' m => if c' = c then some (m.key, 0) else count
  | .answered c' r | .notified c' r =>
    if c' = c then count.map fun (k, n) => (k, if r.resp.key = k then n + 1 else n) else count
  | _ => count

/-- The key of the last message that loop `c` pulled, and the number of responses with this key
that were sent on its channel since. -/
def responses (c : ℕ) (past : List Event) : Option (RequestKey × ℕ) :=
  past.foldl (Event.note c) none

/-- When loop `c` pulls a message, its previous message got exactly one response; at no time did a
message get more. -/
def AnsweredOnce (c : ℕ) (past : List Event) : Prop :=
  History.Justified (fun past e =>
    (∀ m, e = .pulled c m → ∀ k n, responses c past = some (k, n) → n = 1) ∧
      ∀ k n, responses c (past ++ [e]) = some (k, n) → n ≤ 1) past

theorem responses_snoc (c : ℕ) (past : List Event) (e : Event) :
    responses c (past ++ [e]) = e.note c (responses c past) := by
  simp [responses]

section Count

variable {c : ℕ} {past : List Event}

theorem AnsweredOnce.snoc {e : Event} (h : AnsweredOnce c past)
    (pull : ∀ m, e = .pulled c m → ∀ k n, responses c past = some (k, n) → n = 1)
    (bound : ∀ k n, e.note c (responses c past) = some (k, n) → n ≤ 1) :
    AnsweredOnce c (past ++ [e]) :=
  History.justified_snoc.2 ⟨h, pull, by rwa [responses_snoc]⟩

/-- The event is no pull of loop `c` and no response to its last message. -/
def Event.Aside (c : ℕ) (past : List Event) (e : Event) : Prop :=
  (∀ m, e ≠ .pulled c m) ∧ e.note c (responses c past) = responses c past

/-- Events aside change nothing. -/
theorem AnsweredOnce.append (h : AnsweredOnce c past)
    (bound : ∀ k n, responses c past = some (k, n) → n ≤ 1) {events : List Event}
    (aside : ∀ e ∈ events, e.Aside c past) :
    AnsweredOnce c (past ++ events) ∧ responses c (past ++ events) = responses c past := by
  induction events using List.reverseRecOn with
  | nil => simpa using h
  | append_singleton events e ih =>
    obtain ⟨ih₁, ih₂⟩ := ih fun e he => aside e (List.mem_append_left _ he)
    obtain ⟨hp, hn⟩ := aside e (by simp)
    rw [← List.append_assoc, responses_snoc, ih₂]
    refine ⟨ih₁.snoc (fun m hm => absurd hm (hp m)) ?_, hn⟩
    rw [ih₂, hn]
    exact bound

end Count

/-! ## The condition -/

/-- A step of loop `c` finds the session of its request and the outbound channel open, and no step
sends the loop a notice that could pass for a response to its last message. -/
def Answerable (c : ℕ) (s : State) : Action → Prop
  | .ctrl c' _ => c' = c →
    match (s.ctrl c).pc with
    | .routing m _ => (s.shared.relay.sessionsByDeviceId.lookup m.targetDeviceId).isSome
    | .forwarding _ _ session => s.shared.outboundOpen session.outboundTx = true
    | _ => True
  | .dev i _ =>
    match (s.dev i).pc with
    | .notifying did _ (mapping :: _) => mapping.controllerTx = c → mapping.activeRequests = 0 →
        ∀ n, responses c s.trace ≠ some ((did, 0), n)
    | _ => True
  | .reaper =>
    match s.reaper with
    | .notifying (mapping :: _) => mapping.controllerTx = c →
        ∀ n, responses c s.trace ≠ some ((mapping.deviceId, 0), n)
    | _ => True
  | _ => True

/-! ## The invariant -/

/-- The message that the loop has still to answer. -/
def CtrlPc.outstanding : CtrlPc → Option ControllerMessage
  | .authenticating m | .limiting m | .mapping m | .beginning m | .lookingUp m | .joining m
  | .routing m _ | .metering m _ _ | .forwarding m _ _ | .offlineTaking m _
  | .offlineCompleting m _ | .offlineFinishing m | .waiting m _ _ | .caching m _
  | .finishing m _ _ | .sending m _ => some m
  | .idle | .refusing _ | .closing | .disconnecting | .done => none

/-- The loop found its device offline and will not answer. -/
def CtrlPc.Offline : CtrlPc → Prop
  | .offlineTaking .. | .offlineCompleting .. | .offlineFinishing .. => True
  | _ => False

/-- The outstanding message of loop `c` got no response yet, and every other one exactly one. -/
structure Conversation (s : State) (c : ℕ) : Prop where
  online : ¬ (s.ctrl c).pc.Offline
  waiting : ∀ m, (s.ctrl c).pc.outstanding = some m → responses c s.trace = some (m.key, 0)
  settled : (s.ctrl c).pc.outstanding = none → ∀ k n, responses c s.trace = some (k, n) → n = 1
  answered : AnsweredOnce c s.trace

variable {cfg : Config} {s s' : State} {c : ℕ}

theorem conversation_init : Conversation (State.init cfg) c where
  online := id
  waiting := by simp [State.init, CtrlPc.outstanding]
  settled := by simp [State.init, responses]
  answered := History.justified_nil

namespace Conversation

variable (V : Conversation s c)

include V

theorem bound : ∀ k n, responses c s.trace = some (k, n) → n ≤ 1 := by
  intro k n h
  cases ho : (s.ctrl c).pc.outstanding with
  | none => exact (V.settled ho k n h).le
  | some m =>
    rw [V.waiting m ho] at h
    cases h
    exact Nat.zero_le _

/-- A step that neither pulls nor answers a message of loop `c`. -/
theorem keep {events : List Event} (trace : s'.trace = s.trace ++ events)
    (aside : ∀ e ∈ events, e.Aside c s.trace)
    (pc : (s'.ctrl c).pc.outstanding = (s.ctrl c).pc.outstanding)
    (online : ¬ (s'.ctrl c).pc.Offline) : Conversation s' c := by
  obtain ⟨h₁, h₂⟩ := V.answered.append V.bound aside
  refine ⟨online, ?_, ?_, by rwa [trace]⟩
  · rw [trace, h₂, pc]
    exact V.waiting
  · rw [trace, h₂, pc]
    exact V.settled

/-- The loop pulls a message and has to answer it. -/
theorem pull {m : ControllerMessage} (idle : (s.ctrl c).pc.outstanding = none)
    (trace : s'.trace = s.trace ++ [Event.pulled c m])
    (pc : (s'.ctrl c).pc.outstanding = some m) (online : ¬ (s'.ctrl c).pc.Offline) :
    Conversation s' c := by
  have hcount : responses c s'.trace = some (m.key, 0) := by
    rw [trace, responses_snoc]
    exact if_pos rfl
  refine ⟨online, ?_, ?_, ?_⟩
  · intro m' hm'
    obtain rfl : m = m' := by simpa [pc] using hm'
    exact hcount
  · intro h
    rw [pc] at h
    cases h
  · rw [trace]
    refine V.answered.snoc (fun _ _ => V.settled idle) ?_
    intro k n h
    obtain ⟨-, rfl⟩ : m.key = k ∧ 0 = n := by simpa [Event.note] using h
    exact Nat.zero_le _

/-- The loop answers its outstanding message. -/
theorem answer (m : ControllerMessage) (r : Reply) (key : r.resp.key = m.key)
    (outstanding : (s.ctrl c).pc.outstanding = some m)
    (trace : s'.trace = s.trace ++ [Event.answered c r])
    (pc : (s'.ctrl c).pc.outstanding = none) (online : ¬ (s'.ctrl c).pc.Offline) :
    Conversation s' c := by
  have hcount : Event.note c (responses c s.trace) (.answered c r) = some (m.key, 1) := by
    rw [V.waiting m outstanding]
    simp [Event.note, key]
  refine ⟨online, ?_, ?_, ?_⟩
  · intro m' hm'
    rw [pc] at hm'
    cases hm'
  · intro _ k n h
    rw [trace, responses_snoc, hcount] at h
    obtain ⟨-, rfl⟩ : m.key = k ∧ 1 = n := by simpa using h
    rfl
  · rw [trace]
    refine V.answered.snoc (by simp) ?_
    rw [hcount]
    intro k n h
    obtain ⟨-, rfl⟩ : m.key = k ∧ 1 = n := by simpa using h
    exact le_rfl

omit V in
theorem aside_of_count {past : List Event} {c' : ℕ} {methodName : String}
    {status : RequestStatus} : (Event.requestsTotal c' methodName status).Aside c past :=
  ⟨by simp, rfl⟩

omit V in
/-- What another loop does is no part of the conversation. -/
theorem aside_of_moves {sh : Shared} {c' : ℕ} {l : Controller} {input : CtrlInput}
    {next : Next Controller} (hne : c' ≠ c) (move : Controller.Moves cfg sh c' l input next)
    (past : List Event) : ∀ e ∈ next.events, e.Aside c past := by
  intro e he
  cases Controller.events_of_moves move e he with
  | pulled m => exact ⟨by simp [hne], if_neg hne⟩
  | answered r => exact ⟨by simp, if_neg hne⟩
  | authorized | allowed | mapped | inflight | placed | cached | requestsTotal =>
    exact ⟨by simp, rfl⟩

/-- A step of the loop itself that neither pulls nor answers. -/
theorem keepSelf {next : Next Controller} (aside : ∀ e ∈ next.events, e.Aside c s.trace)
    (pc : next.loc.pc.outstanding = (s.ctrl c).pc.outstanding)
    (online : ¬ next.loc.pc.Offline) : Conversation (s.afterCtrl c next) c :=
  V.keep rfl aside (by simpa [State.afterCtrl] using pc) (by simpa [State.afterCtrl] using online)

theorem self (P : Provenance s) {input : CtrlInput} (ok : Answerable c s (.ctrl c input))
    {next : Next Controller} (move : Controller.Moves cfg s.shared c (s.ctrl c) input next) :
    Conversation (s.afterCtrl c next) c := by
  have hpc {pc : CtrlPc} {sh : Shared} {events : List Event} :
      ((s.afterCtrl c ⟨sh, (s.ctrl c).goto pc, events⟩).ctrl c).pc = pc := by
    simp [State.afterCtrl, Controller.goto]
  cases move with
  | pulled m at_pc _ =>
    exact V.pull (by rw [at_pc]; rfl) rfl (by rw [hpc]; rfl) (by rw [hpc]; exact id)
  | pulledBound m at_pc _ =>
    exact V.pull (by rw [at_pc]; rfl) rfl (by rw [hpc]; rfl) (by rw [hpc]; exact id)
  | pulledBad m resp at_pc key =>
    have V₁ : Conversation (s.afterCtrl c ⟨s.shared, (s.ctrl c).goto (.authenticating m),
        [.pulled c m]⟩) c :=
      V.pull (by rw [at_pc]; rfl) rfl (by rw [hpc]; rfl) (by rw [hpc]; exact id)
    exact V₁.answer m (.ofRelay resp) key (by rw [hpc]; rfl) (by simp [State.afterCtrl])
      (by rw [hpc]; rfl) (by rw [hpc]; exact id)
  | refused m resp sh' connected counts at_pc quiet key counted =>
    have aside : ∀ e ∈ counts, e.Aside c s.trace := by
      intro e he
      obtain ⟨status, rfl⟩ := counted e he
      exact aside_of_count
    have V₁ : Conversation (s.afterCtrl c ⟨s.shared, s.ctrl c, counts⟩) c :=
      V.keepSelf aside rfl V.online
    refine V₁.answer m (.ofRelay resp) key ?_ (by simp [State.afterCtrl]) ?_ ?_
    · rcases at_pc with h | h | h <;> simp [State.afterCtrl, h, CtrlPc.outstanding]
    · simp [State.afterCtrl, CtrlPc.outstanding]
    · simp [State.afterCtrl, CtrlPc.Offline]
  | authorized m controller device sh' connected at_pc _ _ _ _ =>
    exact V.keepSelf (by simp [Event.Aside, Event.note]) (by rw [at_pc]; rfl) id
  | allowed m sh' at_pc _ _ =>
    exact V.keepSelf (by simp [Event.Aside, Event.note]) (by rw [at_pc]; rfl) id
  | mapped m streamId sh' at_pc _ _ =>
    exact V.keepSelf (by simp [Event.Aside, Event.note]) (by rw [at_pc]; rfl) id
  | begun m sh' at_pc _ => exact V.keepSelf (by simp) (by rw [at_pc]; rfl) id
  | hit m r at_pc _ => exact V.keepSelf (by simp) (by rw [at_pc]; rfl) id
  | missed m at_pc _ => exact V.keepSelf (by simp) (by rw [at_pc]; rfl) id
  | opened m at_pc _ =>
    exact V.keepSelf (by simp [Event.Aside, Event.note]) (by rw [at_pc]; rfl) id
  | joined m entry at_pc _ =>
    exact V.keepSelf (by simp [Event.Aside, Event.note]) (by rw [at_pc]; rfl) id
  | routed m rx session at_pc _ => exact V.keepSelf (by simp) (by rw [at_pc]; rfl) id
  | unrouted m rx at_pc offline => simp [Answerable, at_pc, offline] at ok
  | metered m rx session readings sh' at_pc _ => exact V.keepSelf (by simp) (by rw [at_pc]; rfl) id
  | throttled m rx session readings sh' resp at_pc _ _ key =>
    have V₁ : Conversation (s.afterCtrl c ⟨s.shared, s.ctrl c,
        [.requestsTotal c m.methodName .rateLimited]⟩) c :=
      V.keepSelf (by simpa using aside_of_count) rfl V.online
    refine V₁.answer m (.ofRelay resp) key ?_ (by simp [State.afterCtrl]) (by rw [hpc]; rfl)
      (by rw [hpc]; exact id)
    simp [State.afterCtrl, at_pc, CtrlPc.outstanding]
  | placed m rx session at_pc =>
    exact V.keepSelf (by simp [Event.Aside, Event.note]) (by rw [at_pc]; rfl) id
  | unsent m rx session at_pc gone => simp [Answerable, at_pc, gone] at ok
  | took m rx entry at_pc _ => exact absurd (by rw [at_pc]; trivial) V.online
  | tookNothing m rx at_pc _ => exact absurd (by rw [at_pc]; trivial) V.online
  | completed m entry at_pc => exact absurd (by rw [at_pc]; trivial) V.online
  | received m rx r at_pc _ => exact V.keepSelf (by simp) (by rw [at_pc]; rfl) id
  | receivedShared m rx r at_pc _ => exact V.keepSelf (by simp) (by rw [at_pc]; rfl) id
  | closed m rx isNewForwarder resp at_pc _ _ => exact V.keepSelf (by simp) (by rw [at_pc]; rfl) id
  | cached m r at_pc =>
    exact V.keepSelf (by simp [Event.Aside, Event.note]) (by rw [at_pc]; rfl) id
  | finished m r status sh' at_pc _ =>
    exact V.keepSelf (by simpa using aside_of_count) (by rw [at_pc]; rfl) id
  | sent m r at_pc =>
    exact V.answer m r (P.reply c m r (by rw [at_pc]; rfl)).1 (by rw [at_pc]; rfl) rfl
      (by rw [hpc]; rfl) (by rw [hpc]; exact id)
  | rested m sh' at_pc _ =>
    rcases at_pc with h | h
    · exact V.keepSelf (by simp) (by rw [h]; rfl) id
    · exact absurd (by rw [h]; trivial) V.online
  | ended input pc' sh' at_pc _ =>
    rcases at_pc with ⟨h, rfl⟩ | ⟨h, rfl⟩ | ⟨h, rfl⟩ <;>
      exact V.keepSelf (by simp) (by rw [h]; rfl) id

omit V in
theorem aside_of_plain {past : List Event} {e : Event} (plain : e.Plain)
    (notice : ∀ r, e = .notified c r → ∀ n, responses c past ≠ some (r.resp.key, n)) :
    e.Aside c past := by
  cases plain with
  | requestsTotal | relayed | mqtt => exact ⟨by simp, rfl⟩
  | notified c' r _ =>
    refine ⟨by simp, ?_⟩
    by_cases hc : c' = c
    · subst hc
      cases h : responses c' past with
      | none => simp [Event.note]
      | some kn =>
        obtain ⟨k, n⟩ := kn
        have hk : r.resp.key ≠ k := by
          rintro rfl
          exact notice r rfl n h
        simp [Event.note, hk]
    · exact if_neg hc

theorem stepCases (P : Provenance s) {a : Action} (ok : Answerable c s a)
    (h : StepCases cfg s a s') : Conversation s' c := by
  cases h with
  | ctrl c' input next move =>
    by_cases hc : c' = c
    · subst hc
      exact V.self P ok move
    · have hpc : ((s.afterCtrl c' next).ctrl c) = s.ctrl c := by
        simp [State.afterCtrl, Ne.symm hc]
      exact V.keep rfl (aside_of_moves hc move _) (by rw [hpc]) (by rw [hpc]; exact V.online)
  | dev i input next move =>
    refine V.keep rfl ?_ rfl V.online
    cases move
    case silent plain notices =>
      intro e he
      refine aside_of_plain (plain e he) ?_
      rintro r rfl n
      obtain ⟨did, reason, mapping, removed, hpc, hidle, rfl, rfl⟩ := notices c r he
      simp only [Answerable, hpc, forall_const] at ok
      exact ok hidle n
    all_goals simp [Event.Aside, Event.note]
  | ambient _ sh' reaper' events _ _ _ _ _ _ plain notices =>
    refine V.keep rfl ?_ rfl V.online
    intro e he
    refine aside_of_plain (plain e he) ?_
    rintro r rfl n
    obtain ⟨rfl, mapping, removed, hpc, rfl, rfl⟩ := notices c r he
    simp only [Answerable, hpc, forall_const] at ok
    exact ok n
  | fired | firedLate | completed | evicted =>
    exact V.keep rfl (by simp [Event.Aside, Event.note]) rfl V.online

end Conversation

theorem conversation_of_reachable (h : ReachableWhen cfg (Answerable c) s) :
    Conversation s c := by
  refine Runs.Reach.invariant (I := fun s => Conversation s c) conversation_init ?_ h
  intro s a s' hr V ok hs
  exact V.stepCases (provenance_of_reachable (reachable_of_when hr)) ok (step_cases hs)

end GrpcRelay
