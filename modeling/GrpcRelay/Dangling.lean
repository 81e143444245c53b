import GrpcRelay.Forwarders

/-!
# Entries without a request

The loop that opens an entry has still to look up the session, check the bandwidth and send.  When
it finds no session or cannot send it takes the entry again; when the bandwidth check refuses the
request it leaves the entry in the table.  As long as the check refuses no request of a key whose
entry is in the table, the entry there belongs to a request that was sent, or whose loop has still
to decide.
-/

namespace GrpcRelay

/-- The message and the receiver of a loop that opened an entry and has neither sent nor refused
the request: a refusal for lack of a session or a channel is done when the entry is taken. -/
def CtrlPc.undecided : CtrlPc → Option (ControllerMessage × ℕ)
  | .routing m rx | .metering m rx _ | .forwarding m rx _ | .offlineTaking m rx => some (m, rx)
  | _ => none

/-- A request with the key was put on an outbound channel after the entry was opened. -/
def ForwardedSince (events : List Event) (k : RequestKey) (a : ℕ) : Prop :=
  ∃ past later t rx, events = past ++ Event.inflight t (.joined k a rx true) :: later ∧
    ∃ c i m request, .placed c i m request ∈ later ∧ m.key = k

theorem ForwardedSince.append {events : List Event} {k : RequestKey} {a : ℕ}
    (h : ForwardedSince events k a) (new : List Event) : ForwardedSince (events ++ new) k a := by
  obtain ⟨past, later, t, rx, rfl, c, i, m, request, hm, hk⟩ := h
  exact ⟨past, later ++ new, t, rx, by simp, c, i, m, request, List.mem_append_left _ hm, hk⟩

/-- The loop that opened the entry has still to decide about its request. -/
def Undecided (s : State) (k : RequestKey) (a : ℕ) : Prop :=
  ∃ c m rx, (s.ctrl c).pc.undecided = some (m, rx) ∧ m.key = k ∧ .joined k a rx true ∈ s.history

/-- The bandwidth check of the step refuses no request that waits in the entry of the key. -/
def RefusesUnlisted (k : RequestKey) (s : State) : Action → Prop
  | .ctrl c (.clock readings) =>
    match (s.ctrl c).pc with
    | .metering m rx _ => m.key = k →
      (s.shared.bandwidthTracker.recordAndCheck readings m.targetDeviceId m.controllerId
        m.encryptedPayload.length).1 = false →
      ∀ a, s.shared.table.entries.lookup k = some a → rx ∉ s.shared.table.waiters a
    | _ => True
  | _ => True

/-- What becomes of a loop that has still to decide: it decides later, sends, is refused by the
bandwidth check, or leaves no entry. -/
theorem Controller.undecided_of_moves {cfg : Config} {sh : Shared} {c : ℕ} {l : Controller}
    {input : CtrlInput} {next : Next Controller} (move : Moves cfg sh c l input next)
    {m : ControllerMessage} {rx : ℕ} (h : l.pc.undecided = some (m, rx)) :
    next.loc.pc.undecided = some (m, rx) ∨
      (∃ i request, next.events = [.placed c i m request]) ∨
      (∃ readings session, input = .clock readings ∧ l.pc = .metering m rx session ∧
        (sh.bandwidthTracker.recordAndCheck readings m.targetDeviceId m.controllerId
          m.encryptedPayload.length).1 = false) ∨
      next.shared.table.entries.lookup m.key = none := by
  cases move
  case routed at_pc _ | unrouted at_pc _ | metered at_pc _ | unsent at_pc _ =>
    rw [at_pc] at h
    exact Or.inl h
  case throttled m' rx' session readings sh' resp at_pc _ exceeded _ =>
    obtain ⟨rfl, rfl⟩ : m' = m ∧ rx' = rx := by simpa [at_pc, CtrlPc.undecided] using h
    exact Or.inr (Or.inr (Or.inl ⟨readings, session, rfl, at_pc, exceeded⟩))
  case placed m' rx' session at_pc =>
    obtain ⟨rfl, rfl⟩ : m' = m ∧ rx' = rx := by simpa [at_pc, CtrlPc.undecided] using h
    exact Or.inr (Or.inl ⟨_, _, rfl⟩)
  case took m' rx' entry at_pc found =>
    obtain ⟨rfl, rfl⟩ : m' = m ∧ rx' = rx := by simpa [at_pc, CtrlPc.undecided] using h
    refine Or.inr (Or.inr (Or.inr ?_))
    simp [(SingleFlight.Table.take_eq_some found).2]
  case tookNothing m' rx' at_pc absent =>
    obtain ⟨rfl, rfl⟩ : m' = m ∧ rx' = rx := by simpa [at_pc, CtrlPc.undecided] using h
    exact Or.inr (Or.inr (Or.inr absent))
  case refused at_pc _ _ _ => rcases at_pc with h' | h' | h' <;> simp [h', CtrlPc.undecided] at h
  case rested at_pc _ => rcases at_pc with h' | h' <;> simp [h', CtrlPc.undecided] at h
  case ended at_pc _ =>
    rcases at_pc with ⟨h', -⟩ | ⟨h', -⟩ | ⟨h', -⟩ <;> simp [h', CtrlPc.undecided] at h
  all_goals simp [‹l.pc = _›, CtrlPc.undecided] at h

variable {cfg : Config} {s s' : State} {k : RequestKey} {a : ℕ}

theorem mem_trace_of_history {o : InflightOutcome} (h : o ∈ s.history) :
    ∃ t, .inflight t o ∈ s.trace := by
  obtain ⟨e, he, ho⟩ := List.mem_filterMap.1 h
  cases e with
  | inflight t o' => exact ⟨t, by cases ho; exact he⟩
  | _ => cases ho

/-- An entry that was accounted for stays so, as long as it is in the table. -/
theorem accounted_of_mapped (hr : Reachable cfg s) {action : Action}
    (ok : RefusesUnlisted k s action) (h : StepCases cfg s action s')
    (mapped : s.shared.table.entries.lookup k = some a)
    (mapped' : s'.shared.table.entries.lookup k = some a)
    (ih : Undecided s k a ∨ ForwardedSince s.trace k a) :
    Undecided s' k a ∨ ForwardedSince s'.trace k a := by
  obtain ⟨events, trace⟩ := trace_of_cases h
  rcases ih with ⟨c, m, rx, hpc, rfl, hj⟩ | hf
  · have hj' : .joined m.key a rx true ∈ s'.history := by
      rw [history_of_trace trace]
      exact List.mem_append_left _ hj
    by_cases self : ∃ input, action = .ctrl c input
    · obtain ⟨input, rfl⟩ := self
      cases h with
      | ctrl _ _ next move =>
        obtain rfl := List.append_cancel_left trace
        rcases Controller.undecided_of_moves move hpc with
          hnext | ⟨i, request, hevents⟩ | ⟨readings, session, rfl, hmeter, exceeded⟩ | absent
        · exact Or.inl ⟨c, m, rx, by simpa [State.afterCtrl] using hnext, rfl, hj'⟩
        · obtain ⟨t, ht⟩ := mem_trace_of_history hj
          obtain ⟨past, later, hsplit⟩ := List.append_of_mem ht
          refine Or.inr ⟨past, later ++ [Event.placed c i m request], t, rx, ?_, c, i, m, request,
            by simp, rfl⟩
          rw [trace, hsplit, hevents]
          simp
        · simp only [RefusesUnlisted, hmeter, forall_const] at ok
          exact absurd (waiter_of_mapped hr hj mapped) (ok exceeded a mapped)
        · change next.shared.table.entries.lookup m.key = some a at mapped'
          rw [absent] at mapped'
          cases mapped'
      | ambient _ _ _ _ _ _ _ _ _ _ _ _ => exact Or.inl ⟨c, m, rx, hpc, rfl, hj'⟩
    · have hctrl := ctrl_of_cases h fun input hi => self ⟨input, hi⟩
      exact Or.inl ⟨c, m, rx, by rw [hctrl]; exact hpc, rfl, hj'⟩
  · rw [trace]
    exact Or.inr (hf.append events)

/-- An entry of the table was there before the step, or is opened by it. -/
theorem mapped_of_cases {action : Action} (h : StepCases cfg s action s')
    (mapped : s'.shared.table.entries.lookup k = some a) :
    s.shared.table.entries.lookup k = some a ∨ Undecided s' k a := by
  cases h with
  | ctrl c input next move =>
    rcases Controller.timer_of_moves move with ⟨-, -, he⟩ | ⟨m, -, -, -, he, -, hevents, hloc⟩
    · exact Or.inl (he k a mapped)
    · change next.shared.table.entries.lookup k = some a at mapped
      rw [he, DashMap.lookup_insert_ite] at mapped
      split_ifs at mapped with hk
      · obtain rfl : s.shared.table.cells = a := by simpa using mapped
        refine Or.inr ⟨c, m, s.shared.table.receivers, ?_, hk.symm, ?_⟩
        · simp [State.afterCtrl, hloc, Controller.goto, CtrlPc.undecided]
        · rw [history_of_trace (show (s.afterCtrl c next).trace = s.trace ++ next.events from rfl),
            hevents, hk]
          simp [Event.outcome]
      · exact Or.inl mapped
  | dev i input next move => exact Or.inl ((Device.timer_of_moves move).2.2 k a mapped)
  | fired => exact Or.inl (SingleFlight.Table.lookup_of_take mapped).1
  | firedLate | completed | evicted => exact Or.inl mapped
  | ambient _ sh' reaper' events _ inflight _ _ _ _ _ _ =>
    simp only [Shared.table, inflight] at mapped
    exact Or.inl mapped

theorem accounted_of_reachable (h : ReachableWhen cfg (RefusesUnlisted k) s) :
    ∀ a, s.shared.table.entries.lookup k = some a →
      Undecided s k a ∨ ForwardedSince s.trace k a := by
  refine Runs.Reach.invariant (I := fun s => ∀ a, s.shared.table.entries.lookup k = some a →
    Undecided s k a ∨ ForwardedSince s.trace k a) ?_ ?_ h
  · simp [State.init, Shared.init, RelayState.new, SingleFlight.Table.empty]
  · intro s action s' hr ih ok hs a mapped'
    have hcases := step_cases hs
    rcases mapped_of_cases hcases mapped' with mapped | opened
    · exact accounted_of_mapped (reachable_of_when hr) ok hcases mapped mapped' (ih a mapped)
    · exact Or.inl opened

/-- In every run in which the bandwidth check refuses no request of a key whose entry is in the
in-flight table, the loop that opened the entry of the key has still to decide about its request, or
a request with the key was put on an outbound channel since. -/
theorem no_dangling_entry (h : ReachableWhen cfg (RefusesUnlisted k) s)
    (mapped : s.shared.relay.inflightBySequence.entries.lookup k = some a) :
    (∃ c m rx, (s.ctrl c).pc.undecided = some (m, rx) ∧ m.key = k ∧
      .joined k a rx true ∈ s.history) ∨ ForwardedSince s.trace k a :=
  accounted_of_reachable h a mapped

/-! ### Concrete runs -/

namespace Small

/-- A relay that admits one byte a second for a device. -/
def narrow : Config :=
  { config with
    rateLimiting := { config.rateLimiting with deviceBandwidthBytesPerSec := 1 } }

/-- A request with a payload of two bytes. -/
def wideRequest : ControllerMessage := { request 1 with encryptedPayload := [1, 1] }

/-- The bandwidth check refuses a request. -/
def refusedRun : List Action := register 0 "d" "t" ++ join 0 wideRequest ++ route 0

/-- A request that is sent and not yet answered. -/
def forwardedRun : List Action := register 0 "d" "t" ++ join 0 (request 1) ++ forward 0

/-- Of the loops, only loop 0 moves. -/
def onlyFirst : Action → Bool
  | .ctrl c _ => c == 0
  | _ => true

/-- The bandwidth check of the step succeeds. -/
def withinBandwidth (s : State) : Action → Bool
  | .ctrl c (.clock readings) =>
    match (s.ctrl c).pc with
    | .metering m _ _ =>
      (s.shared.bandwidthTracker.recordAndCheck readings m.targetDeviceId m.controllerId
        m.encryptedPayload.length).1
    | _ => true
  | _ => true

theorem refusesUnlisted_of_withinBandwidth {cfg : Config} {k : RequestKey} (s : State) (a : Action)
    (_ : Reachable cfg s) (h : withinBandwidth s a = true) : RefusesUnlisted k s a := by
  cases a with
  | ctrl c input =>
    cases input with
    | clock readings =>
      cases hpc : (s.ctrl c).pc <;> simp_all [withinBandwidth, RefusesUnlisted]
    | _ => trivial
  | _ => trivial

end Small

/-- The entry of a request that the bandwidth check refused stays in the table. -/
theorem refused_request_leaves_entry :
    ¬ ∀ cfg s k a, Reachable cfg s → s.shared.relay.inflightBySequence.entries.lookup k = some a →
      (∃ c m rx, (s.ctrl c).pc.undecided = some (m, rx) ∧ m.key = k ∧
        .joined k a rx true ∈ s.history) ∨ ForwardedSince s.trace k a := by
  intro claim
  obtain ⟨s, hs, hf⟩ : ∃ s, execute Small.narrow Small.refusedRun = some s ∧
      (s.shared.table.entries.lookup ("d", 1), (s.ctrl 0).pc.undecided.isNone,
        (s.trace.filterMap Small.placement).isEmpty) = (some 0, true, true) :=
    Option.map_eq_some_iff.1 (by decide +kernel)
  obtain ⟨mapped, hf⟩ := Prod.mk.inj hf
  obtain ⟨decided, unplaced⟩ := Prod.mk.inj hf
  rw [Option.isNone_iff_eq_none] at decided
  rw [List.isEmpty_iff] at unplaced
  have first : ∀ a ∈ Small.refusedRun, Small.onlyFirst a = true := by decide
  rcases claim _ s ("d", 1) 0 (reachable_of_execute hs) mapped with
    ⟨c, m, rx, hpc, -, -⟩ | ⟨past, later, t, rx, hsplit, c, i, m, request, hm, -⟩
  · by_cases hc : c = 0
    · subst hc
      simp [decided] at hpc
    · rw [ctrl_of_execute hs] at hpc
      · simp [State.init, CtrlPc.undecided] at hpc
      · rintro a ha input rfl
        simpa [Small.onlyFirst, hc] using first _ ha
  · have : (c, i, m, request) ∈ s.trace.filterMap Small.placement :=
      List.mem_filterMap.2 ⟨.placed c i m request, by rw [hsplit]; simp [hm], rfl⟩
    simp [unplaced] at this

theorem forwarded_request_is_accounted :
    ∃ s, ReachableWhen Small.config (RefusesUnlisted ("d", 1)) s ∧
      s.shared.relay.inflightBySequence.entries.lookup ("d", 1) = some 0 ∧
      ((∃ c m rx, (s.ctrl c).pc.undecided = some (m, rx) ∧ m.key = ("d", 1) ∧
        .joined ("d", 1) 0 rx true ∈ s.history) ∨ ForwardedSince s.trace ("d", 1) 0) := by
  obtain ⟨s, hs, mapped⟩ : ∃ s,
      executeWhen Small.config Small.withinBandwidth Small.forwardedRun = some s ∧
      s.shared.table.entries.lookup ("d", 1) = some 0 :=
    Option.map_eq_some_iff.1 (by decide +kernel)
  have hr : ReachableWhen Small.config (RefusesUnlisted ("d", 1)) s :=
    reachableWhen_of_execute Small.refusesUnlisted_of_withinBandwidth hs
  exact ⟨s, hr, mapped, no_dangling_entry hr mapped⟩

end GrpcRelay
