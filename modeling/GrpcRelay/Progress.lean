import GrpcRelay.Answers
import GrpcRelay.Timeouts

/-!
# A loop is never stuck

From every state of a run, a loop with a message to answer can go on until it is ready for the next
one: each of its own steps but the wait for the one-shot receiver is always possible, and whatever
the receiver waits for can happen.  If its entry is in the map, the timeout task of the entry takes
and completes it in due time; if it was taken, the task that holds it completes it.
-/

namespace GrpcRelay

/-- The number of its own steps after which a loop is ready for the next message, at most. -/
def CtrlPc.rank : CtrlPc → ℕ
  | .authenticating _ => 14
  | .limiting _ => 13
  | .mapping _ => 12
  | .beginning _ => 11
  | .lookingUp _ => 10
  | .joining _ => 9
  | .routing _ _ => 8
  | .metering _ _ _ => 7
  | .forwarding _ _ _ => 6
  | .waiting _ _ _ => 5
  | .caching _ _ => 4
  | .finishing _ _ _ => 3
  | .sending _ _ => 2
  | .offlineTaking _ _ => 3
  | .offlineCompleting _ _ => 2
  | .offlineFinishing _ => 1
  | .refusing _ => 1
  | .idle | .closing | .disconnecting | .done => 0

namespace Controller

variable {cfg : Config} {sh : Shared} {c : ℕ} {l : Controller} {input : CtrlInput}
  {next : Next Controller}

/-- Every step in the middle of a message brings the loop nearer to its end. -/
theorem rank_of_moves (move : Moves cfg sh c l input next) (busy : 0 < l.pc.rank) :
    next.loc.pc.rank < l.pc.rank ∧ (next.loc.pc.rank = 0 → next.loc.pc = .idle) := by
  cases move
  case pulled at_pc _ | pulledBound at_pc _ | pulledBad at_pc _ => simp [at_pc, CtrlPc.rank] at busy
  case refused at_pc _ _ _ =>
    rcases at_pc with h | h | h <;> simp [h, CtrlPc.rank]
  case rested at_pc _ => rcases at_pc with h | h <;> simp [h, goto, CtrlPc.rank]
  case ended at_pc _ =>
    rcases at_pc with ⟨h, -⟩ | ⟨h, -⟩ | ⟨h, -⟩ <;> simp [h, CtrlPc.rank] at busy
  all_goals simp [*, goto, CtrlPc.rank]

/-- In the middle of a message a loop can always make its next step, unless it waits for its
receiver. -/
theorem step_of_busy (cfg : Config) (sh : Shared) (c : ℕ) (busy : 0 < l.pc.rank)
    (ready : ∀ m rx isNewForwarder, l.pc = .waiting m rx isNewForwarder →
      sh.table.channel rx ≠ []) : ∃ input next, step cfg sh c l input = some next := by
  cases hpc : l.pc with
  | idle | closing | disconnecting | done => simp [hpc, CtrlPc.rank] at busy
  | metering m rx session => exact ⟨.clock ⟨0, 0, 0⟩, _, by simp only [step, hpc]; rfl⟩
  | waiting m rx isNewForwarder =>
    refine ⟨.tick, ?_⟩
    simp only [step, hpc, await]
    cases hch : sh.table.channel rx with
    | nil => exact absurd hch (ready m rx isNewForwarder hpc)
    | cons r rest => cases isNewForwarder <;> exact ⟨_, rfl⟩
  | _ => exact ⟨.tick, _, by simp only [step, hpc]; rfl⟩

end Controller

/-! ## Entries taken are completed -/

/-- The number of steps after which a cleanup has completed what it took, at most. -/
def DevPc.work : DevPc → ℕ
  | .completing _ _ => 1
  | .sweeping _ _ keys taken => 2 * keys.length + taken.length + 2
  | .draining _ _ taken _ => taken.length + 1
  | _ => 0

/-- The number of steps after which a task holds no entry any more, at most. -/
def State.work (s : State) : Task → ℕ
  | .dev i => (s.dev i).pc.work
  | τ => (s.pending τ).length

/-- The step is one that brings an entry to its completion: of a task that holds it, or of its
timeout. -/
def Serves (s : State) : Action → Prop
  | .ctrl c _ => (s.ctrl c).pc.pending ≠ []
  | .dev i _ => (s.dev i).pc.pending ≠ []
  | .timer _ | .advance _ => True
  | _ => False

variable {cfg : Config} {s s' : State} {c : ℕ}

theorem Serves.answerable {a : Action} (h : Serves s a) : Answerable c s a := by
  cases a with
  | ctrl c' input =>
    rintro rfl
    cases hpc : (s.ctrl c').pc <;> simp_all [Serves, CtrlPc.pending]
  | dev i input => cases hpc : (s.dev i).pc <;> simp_all [Serves, DevPc.pending, Answerable]
  | reaper => cases h
  | _ => trivial

/-- A stream that holds an entry can make a step that brings it nearer to completing it. -/
theorem Device.step_of_held (cfg : Config) (sh : Shared) (n i : ℕ) {l : Device}
    (held : l.pc.pending ≠ []) :
    ∃ next, Device.step cfg sh n i l .tick = some next ∧ next.loc.pc.work < l.pc.work := by
  cases hpc : l.pc with
  | completing entry r =>
    exact ⟨_, by simp only [Device.step, hpc]; rfl, by simp [goto, DevPc.work]⟩
  | sweeping did reason keys taken =>
    refine ⟨_, by simp only [Device.step, hpc]; rfl, ?_⟩
    cases keys with
    | nil => simp [sweep, goto, DevPc.work]
    | cons key keys =>
      simp only [sweep]
      split
      · simp only [goto, DevPc.work, List.length_cons, List.length_append, List.length_nil]
        omega
      · simp only [goto, DevPc.work, List.length_cons]
        omega
  | draining did reason taken removed =>
    refine ⟨_, by simp only [Device.step, hpc]; rfl, ?_⟩
    cases taken with
    | nil => simp [hpc, DevPc.pending] at held
    | cons e taken => simp [drain, goto, DevPc.work]
  | _ => simp [hpc, DevPc.pending] at held

/-- A task that holds an entry can make a step that brings it nearer to completing it. -/
theorem step_of_held (cfg : Config) {τ : Task} (held : s.pending τ ≠ []) :
    ∃ a s', step cfg s a = some s' ∧ Serves s a ∧ s'.work τ < s.work τ ∧
      ∀ c, τ ≠ .ctrl c → s'.ctrl c = s.ctrl c := by
  cases τ with
  | ctrl c' =>
    have hpc : ∃ m entry, (s.ctrl c').pc = .offlineCompleting m entry := by
      cases h : (s.ctrl c').pc <;> simp [State.pending, h, CtrlPc.pending] at held
      exact ⟨_, _, rfl⟩
    obtain ⟨m, entry, hpc⟩ := hpc
    refine ⟨.ctrl c' .tick, _, by simp only [step, Controller.step, hpc, Option.map_some]; rfl,
      held, ?_, ?_⟩
    · simp [State.work, State.pending, hpc, State.afterCtrl, Controller.completeOffline,
        Controller.goto, CtrlPc.pending]
    · intro c hc
      have : c ≠ c' := fun h => hc (h ▸ rfl)
      simp [State.afterCtrl, this]
  | dev i =>
    obtain ⟨next, hs, hw⟩ := Device.step_of_held cfg s.shared s.trace.length i held
    refine ⟨.dev i .tick, s.afterDev i next, by simp only [step, hs, Option.map_some], held, ?_,
      fun _ _ => rfl⟩
    simpa [State.work, State.afterDev] using hw
  | timer e =>
    have hpc : ∃ d q entry, s.shared.timer e = .completing d q entry := by
      cases h : s.shared.timer e <;> simp [State.pending, h, Timer.pending] at held
      exact ⟨_, _, _, rfl⟩
    obtain ⟨d, q, entry, hpc⟩ := hpc
    refine ⟨.timer e, _, by simp only [step, Timer.step, hpc, Option.map_some]; rfl, trivial, ?_,
      ?_⟩
    · simp [State.work, State.pending, hpc, State.afterTimer, Timer.pending]
    · intro _ _
      rfl

/-- After a step, a receiver of an entry that is held has its answer or still waits for it. -/
theorem deliver_of_tableStep (C : Custody s) (h : TableStep s s') {τ : Task} {a rx : ℕ} {r : Reply}
    (held : (a, r) ∈ s.pending τ) (waits : rx ∈ s.shared.table.waiters a) :
    s'.shared.table.channel rx ≠ [] ∨
      (a, r) ∈ s'.pending τ ∧ rx ∈ s'.shared.table.waiters a := by
  have S := C.run.ledger.sound
  cases h with
  | same table pending _ =>
    rw [table, pending]
    exact Or.inr ⟨held, waits⟩
  | join m table pending _ =>
    refine Or.inr ⟨?_, ?_⟩
    · rcases pending with hp | hp
      · rwa [hp]
      · have hτ : τ ≠ .timer s.shared.table.cells := by
          rintro rfl
          simp [State.pending, C.unset _ le_rfl, Timer.pending] at held
        rwa [hp, Function.update_of_ne hτ]
    · rw [table, S.waiters_join]
      split_ifs
      · exact List.mem_append_left _ waits
      · exact waits
  | take τ' k b r' _ _ _ table pending _ =>
    refine Or.inr ⟨?_, ?_⟩
    · rw [pending]
      by_cases hτ : τ = τ'
      · subst hτ
        rw [Function.update_self]
        exact List.mem_append_left _ held
      · rwa [Function.update_of_ne hτ]
    · rwa [table, SingleFlight.Table.waiters_take]
  | complete τ' b r' rest head table pending _ =>
    by_cases hb : b = a
    · subst hb
      refine Or.inl ?_
      rw [table, S.channel_complete, if_pos waits]
      simp
    · refine Or.inr ⟨?_, ?_⟩
      · rw [pending]
        by_cases hτ : τ = τ'
        · subst hτ
          rw [head] at held
          rw [Function.update_self]
          simpa [Ne.symm hb] using held
        · rwa [Function.update_of_ne hτ]
      · rwa [table, SingleFlight.Table.waiters_complete, if_neg (Ne.symm hb)]

/-- Whoever waits for an entry that is held gets an answer. -/
theorem deliver_of_held (hr : Reachable cfg s) {τ : Task} {a rx : ℕ} {r : Reply}
    (held : (a, r) ∈ s.pending τ) (waits : rx ∈ s.shared.table.waiters a) (other : τ ≠ .ctrl c) :
    ∃ s', Runs.Reach (step cfg) Serves s s' ∧ s'.ctrl c = s.ctrl c ∧
      s'.shared.table.channel rx ≠ [] := by
  induction hn : s.work τ using Nat.strong_induction_on generalizing s with
  | _ n ih =>
    have C := custody_of_reachable hr
    obtain ⟨act, s₁, hs, ok, hw, hc⟩ := step_of_held cfg (List.ne_nil_of_mem held)
    have first : Runs.Reach (step cfg) Serves s s₁ := .next act .start ok hs
    rcases deliver_of_tableStep C (tableStep_of_cases C.collected (step_cases hs)) held waits with
      answered | ⟨held₁, waits₁⟩
    · exact ⟨s₁, first, hc c other, answered⟩
    · obtain ⟨s', hr', hc', answered⟩ := ih _ (hn ▸ hw) (hr.next act trivial hs) held₁ waits₁ rfl
      exact ⟨s', first.trans hr', hc'.trans (hc c other), answered⟩

/-- A timeout task that is due takes the entry of its key. -/
theorem step_timer_due {k : RequestKey} {e a : ℕ} {deadline : Instant}
    (ht : s.shared.timer e = .sleeping k.1 k.2 deadline) (due : deadline ≤ s.shared.now)
    (mapped : s.shared.table.entries.lookup k = some a) :
    step cfg s (.timer e) = some (s.afterTimer e
      ⟨s.shared.withTable (s.shared.table.take k).1, .completing k.1 k.2 a,
        [.inflight s.shared.now (.taken k a), .timedOut s.shared.now e a]⟩) := by
  have found : (s.shared.table.take k).2 = some a := by simp [SingleFlight.Table.take, mapped]
  simp only [step, Timer.step, ht, if_pos due, Controller.takeInflight_eq, found,
    Option.map_some]
  rfl

/-- Whoever waits for an entry that is in the map gets an answer: its timeout task takes it. -/
theorem deliver_of_mapped (hr : Reachable cfg s) {k : RequestKey} {a rx : ℕ}
    (mapped : s.shared.table.entries.lookup k = some a)
    (waits : rx ∈ s.shared.table.waiters a) :
    ∃ s', Runs.Reach (step cfg) Serves s s' ∧ s'.ctrl c = s.ctrl c ∧
      s'.shared.table.channel rx ≠ [] := by
  obtain ⟨deadline, ht⟩ := (timers_of_reachable hr).mapped k a mapped
  obtain ⟨s₁, hs₁, hsh₁, hc₁⟩ : ∃ s₁, step cfg s (.advance (max s.shared.now deadline)) = some s₁ ∧
      s₁.shared = { s.shared with now := max s.shared.now deadline } ∧ s₁.ctrl = s.ctrl :=
    ⟨_, if_pos (le_max_left ..), rfl, rfl⟩
  have ht₁ : s₁.shared.timer a = .sleeping k.1 k.2 deadline := by rw [hsh₁]; exact ht
  have due : deadline ≤ s₁.shared.now := by rw [hsh₁]; exact le_max_right ..
  have mapped₁ : s₁.shared.table.entries.lookup k = some a := by rw [hsh₁]; exact mapped
  have fires : step cfg s₁ (.timer a) = some _ := step_timer_due ht₁ due mapped₁
  obtain ⟨s₂, hs₂, held, waits₂, hc₂⟩ : ∃ s₂, step cfg s₁ (.timer a) = some s₂ ∧
      (a, Controller.offlineReply k.1 k.2) ∈ s₂.pending (.timer a) ∧
      rx ∈ s₂.shared.table.waiters a ∧ s₂.ctrl = s₁.ctrl := by
    refine ⟨_, fires, by simp [State.pending, State.afterTimer, Timer.pending], ?_, rfl⟩
    change rx ∈ (s₁.shared.table.take k).1.waiters a
    rw [SingleFlight.Table.waiters_take, hsh₁]
    exact waits
  have first : Runs.Reach (step cfg) Serves s s₂ :=
    .next (.timer a) (.next (.advance _) .start trivial hs₁) trivial hs₂
  obtain ⟨s', hr', hc', answered⟩ := deliver_of_held (c := c)
    (hr.trans (first.mono fun _ _ _ => trivial)) held waits₂ (by simp)
  exact ⟨s', first.trans hr', by rw [hc', hc₂, hc₁], answered⟩

/-- A loop that waits for its receiver can get an answer. -/
theorem deliver_of_waiting (hr : Reachable cfg s) {m : ControllerMessage} {rx : ℕ}
    {isNewForwarder : Bool} (hpc : (s.ctrl c).pc = .waiting m rx isNewForwarder) :
    ∃ s', Runs.Reach (step cfg) Serves s s' ∧ s'.ctrl c = s.ctrl c ∧
      s'.shared.table.channel rx ≠ [] := by
  have C := custody_of_reachable hr
  have L := C.run.ledger
  obtain ⟨a, new, hj⟩ := (provenance_of_reachable hr).receiver c m rx (by rw [hpc]; rfl)
  obtain ⟨hlt, rfl, -⟩ := L.joined m.key a rx new hj
  obtain ⟨hcell, hplace⟩ := L.sound.placed rx hlt
  rcases hplace with waits | ⟨-, v, hv⟩
  · by_cases hm : ∃ k, s.shared.table.entries.lookup k = some (s.shared.table.joinedAt rx)
    · obtain ⟨k, mapped⟩ := hm
      exact deliver_of_mapped hr mapped waits
    · obtain ⟨k, taken⟩ := L.left _ hcell fun k h => hm ⟨k, h⟩
      have once : ∀ v, .completed (s.shared.table.joinedAt rx) v ∉ s.history := by
        intro v hv
        rw [(L.completed _ v hv).2] at waits
        cases waits
      obtain ⟨τ, r, held⟩ := C.covered k _ taken once
      refine deliver_of_held hr held waits ?_
      rintro rfl
      simp [State.pending, hpc, CtrlPc.pending] at held
  · exact ⟨s, .start, rfl, by simp [hv]⟩

/-- The step meets the condition of every loop. -/
def AllAnswerable (s : State) (a : Action) : Prop := ∀ c, Answerable c s a

/-- A step of a loop matters to its own condition only. -/
theorem allAnswerable_of_own {input : CtrlInput} (ok : Answerable c s (.ctrl c input)) :
    AllAnswerable s (.ctrl c input) := by
  rintro c' rfl
  exact ok rfl

/-- A loop in the middle of a message can go on until it is ready for the next one, or comes to a
step that finds its device offline. -/
theorem ready_of_busy (hr : Reachable cfg s) (busy : 0 < (s.ctrl c).pc.rank) :
    ∃ s', Runs.Reach (step cfg) AllAnswerable s s' ∧
      ((s'.ctrl c).pc = .idle ∨ ¬ Answerable c s' (.ctrl c .tick)) := by
  induction hn : (s.ctrl c).pc.rank using Nat.strong_induction_on generalizing s with
  | _ n ih =>
    by_cases ok : Answerable c s (.ctrl c .tick)
    · obtain ⟨s₁, hr₁, hc₁, ok₁, ready⟩ : ∃ s₁, Runs.Reach (step cfg) AllAnswerable s s₁ ∧
          s₁.ctrl c = s.ctrl c ∧ Answerable c s₁ (.ctrl c .tick) ∧ ∀ m rx isNewForwarder,
            (s₁.ctrl c).pc = .waiting m rx isNewForwarder →
              s₁.shared.table.channel rx ≠ [] := by
        by_cases hw : ∃ m rx isNewForwarder, (s.ctrl c).pc = .waiting m rx isNewForwarder
        · obtain ⟨m, rx, isNewForwarder, hpc⟩ := hw
          obtain ⟨s₁, hr₁, hc₁, answered⟩ := deliver_of_waiting hr hpc
          refine ⟨s₁, hr₁.mono fun _ _ h _ => h.answerable, hc₁,
            by simp [Answerable, hc₁, hpc], ?_⟩
          intro m' rx' isNewForwarder' hpc'
          rw [hc₁, hpc] at hpc'
          cases hpc'
          exact answered
        · exact ⟨s, .start, rfl, ok, fun m rx b h => absurd ⟨m, rx, b, h⟩ hw⟩
      obtain ⟨input, next, hs⟩ :=
        Controller.step_of_busy cfg s₁.shared c (by rwa [hc₁]) ready
      have hs₂ : step cfg s₁ (.ctrl c input) = some (s₁.afterCtrl c next) := by
        simp only [step, hs, Option.map_some]
      have hloc : (s₁.afterCtrl c next).ctrl c = next.loc := by simp [State.afterCtrl]
      obtain ⟨hlt, hidle⟩ :=
        Controller.rank_of_moves (Controller.moves_of_step hs) (by rwa [hc₁])
      have first : Runs.Reach (step cfg) AllAnswerable s (s₁.afterCtrl c next) :=
        .next (.ctrl c input) hr₁ (allAnswerable_of_own ok₁) hs₂
      by_cases hzero : next.loc.pc.rank = 0
      · exact ⟨_, first, Or.inl (by rw [hloc]; exact hidle hzero)⟩
      · have hr₂ : Reachable cfg (s₁.afterCtrl c next) :=
          hr.trans (first.mono fun _ _ _ => trivial)
        obtain ⟨s', hr', h'⟩ := ih _ (by rw [hloc, ← hn, ← hc₁]; exact hlt) hr₂
          (by rw [hloc]; omega) rfl
        exact ⟨s', first.trans hr', h'⟩
    · exact ⟨s, .start, Or.inr ok⟩

theorem rank_pos_of_outstanding {pc : CtrlPc} {m : ControllerMessage}
    (h : pc.outstanding = some m) : 0 < pc.rank := by
  cases pc <;> simp [CtrlPc.outstanding] at h <;> simp [CtrlPc.rank]

/-- In every run in which no request of a loop finds its device without a session or with a closed
channel, the loop answers every message exactly once before it pulls the next one, and it can always
go on to answer. -/
theorem every_message_answered_once (h : ReachableWhen cfg (Answerable c) s) :
    AnsweredOnce c s.trace ∧
    ((s.ctrl c).pc = .idle → ∀ k n, responses c s.trace = some (k, n) → n = 1) ∧
    ∀ m, (s.ctrl c).pc.outstanding = some m → ∃ s', Runs.Reach (step cfg) AllAnswerable s s' ∧
      ((s'.ctrl c).pc = .idle ∨ ¬ Answerable c s' (.ctrl c .tick)) := by
  have V : Conversation s c := conversation_of_reachable h
  refine ⟨V.answered, fun idle => V.settled (by rw [idle]; rfl), fun m hm => ?_⟩
  exact ready_of_busy (reachable_of_when h) (rank_pos_of_outstanding hm)

/-! ### Concrete runs -/

namespace Small

/-- The device is offline; the loop takes and completes its entry and pulls the next message. -/
def offlineRun : List Action :=
  join 0 (request 1) ++ ticks 0 4 ++ [Action.ctrl 0 (.recv (request 2))]

/-- The device answers, and the loop hands the answer on. -/
def answeredRun : List Action :=
  register 0 "d" "t" ++ join 0 (request 1) ++ forward 0 ++ data 0 "d" 1 ++
    devTicks 0 1 ++ ticks 0 4

/-- The step finds its session and channel, and sends no notice. -/
def online (s : State) : Action → Bool
  | .ctrl c _ =>
    match (s.ctrl c).pc with
    | .routing m _ => (s.shared.relay.sessionsByDeviceId.lookup m.targetDeviceId).isSome
    | .forwarding _ _ session => s.shared.outboundOpen session.outboundTx
    | _ => true
  | .dev i _ =>
    match (s.dev i).pc with
    | .notifying .. => false
    | _ => true
  | .reaper => false
  | _ => true

theorem answerable_of_online {cfg : Config} {c : ℕ} (s : State) (a : Action)
    (_ : Reachable cfg s) (h : online s a = true) : Answerable c s a := by
  cases a with
  | ctrl c' input =>
    rintro rfl
    cases hpc : (s.ctrl c').pc <;> simp_all [online]
  | dev i input => cases hpc : (s.dev i).pc <;> simp_all [online, Answerable]
  | reaper => simp [online] at h
  | _ => trivial

end Small

/-- A request to a device without a session is not answered before the next message is pulled. -/
theorem offline_request_unanswered :
    ¬ ∀ cfg s c, Reachable cfg s → AnsweredOnce c s.trace := by
  intro claim
  obtain ⟨s, hs, hf⟩ : ∃ s, execute Small.config Small.offlineRun = some s ∧
      (responses 0 (s.trace.take 7), (s.trace.drop 7).map Small.pull) =
        (some (("d", 1), 0), [some (0, Small.request 2)]) :=
    Option.map_eq_some_iff.1 (by decide +kernel)
  obtain ⟨hcount, hlast⟩ := Prod.mk.inj hf
  have hsplit := Small.eq_snoc_of_map (fun _ => Small.eq_pulled) hlast
  exact absurd ((claim _ s 0 (reachable_of_execute hs) _ _ _ hsplit).1 _ rfl _ _ hcount)
    (by decide)

theorem device_answer_is_handed_on :
    ∃ s, ReachableWhen Small.config (Answerable 0) s ∧ responses 0 s.trace = some (("d", 1), 1) ∧
      AnsweredOnce 0 s.trace := by
  obtain ⟨s, hs, hf⟩ : ∃ s, executeWhen Small.config Small.online Small.answeredRun = some s ∧
      responses 0 s.trace = some (("d", 1), 1) :=
    Option.map_eq_some_iff.1 (by decide +kernel)
  have hr : ReachableWhen Small.config (Answerable 0) s :=
    reachableWhen_of_execute Small.answerable_of_online hs
  exact ⟨s, hr, hf, (every_message_answered_once hr).1⟩

end GrpcRelay
