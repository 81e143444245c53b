import GrpcRelay.Identity

/-!
# Responses and controllers

The in-flight table and the idempotency cache name a request by its device and its sequence number,
and controllers are expected to choose sequence numbers that no other request has.  `Isolated` says
that a controller gets only answers to its own requests; it holds when controllers keep that rule
and devices answer only what they were asked, and neither can be dropped.
-/

namespace GrpcRelay

/-- The binding that a successful mapping gives to loop `c`. -/
def Event.bound (c : ℕ) : Event → Option (String × String × String)
  | .mapped c' m _ _ _ => if c' = c then some m.binding else none
  | _ => none

/-- The device, the controller and the method that the stream of loop `c` is bound to. -/
def bindingOf (c : ℕ) (past : List Event) : Option (String × String × String) :=
  History.latest (Event.bound c) past

/-- No two controllers use a sequence number for the same device. -/
def UniqueSequences (events : List Event) : Prop :=
  ∀ c c' m m', .pulled c m ∈ events → .pulled c' m' ∈ events → m.key = m'.key →
    m.controllerId = m'.controllerId

/-- Devices send data only for requests that were put on an outbound channel. -/
def OnlyAsked (events : List Event) : Prop :=
  ∀ past later i d response, events = past ++ Event.data i d response :: later →
    ∃ c i' m request, .placed c i' m request ∈ past ∧ m.key = (d, response.sequenceNumber)

/-- The response is a device's answer to a request that was made of a message of this
controller. -/
def AnswersOwn (past : List Event) (controllerId : String) (r : Reply) : Prop :=
  ∃ before after i response, past = before ++ Event.data i r.resp.deviceId response :: after ∧
    r = Device.dataReply before.length r.resp.deviceId response ∧
    ∃ c i' m request, .placed c i' m request ∈ before ∧ .pulled c m ∈ before ∧
      m.key = r.resp.key ∧ m.controllerId = controllerId ∧
      request.encryptedPayload = m.encryptedPayload

/-- What a stream bound to a controller is sent and the relay did not make up answers a request of
that controller. -/
def Isolated (events : List Event) : Prop :=
  ∀ past later c r d controllerId methodName, events = past ++ Event.answered c r :: later →
    r.origin ≠ .relay → bindingOf c past = some (d, controllerId, methodName) →
    AnswersOwn past controllerId r

/-- A loop saves the binding of the message that it creates a mapping for, and no other. -/
theorem Controller.binding_of_moves {cfg : Config} {sh : Shared} {c : ℕ} {l : Controller}
    {input : CtrlInput} {next : Next Controller} (move : Moves cfg sh c l input next) :
    (next.loc.streamBinding = l.streamBinding ∧ ∀ e ∈ next.events, ∀ c', e.bound c' = none) ∨
      ∃ m router now streamId, next.events = [.mapped c m router now streamId] ∧
        next.loc.streamBinding = some m.binding := by
  cases move
  case mapped m streamId sh' at_pc _ _ => exact Or.inr ⟨m, _, _, streamId, rfl, rfl⟩
  case refused counts at_pc _ _ counted =>
    refine Or.inl ⟨rfl, fun e he c' => ?_⟩
    rcases List.mem_append.1 he with he | he
    · obtain ⟨status, rfl⟩ := counted e he
      rfl
    · rw [List.mem_singleton] at he
      subst he
      rfl
  all_goals
    refine Or.inl ⟨rfl, fun e he c' => ?_⟩
    simp only [List.mem_cons, List.not_mem_nil, or_false] at he
  case pulledBad | throttled => rcases he with rfl | rfl <;> rfl
  all_goals subst he; rfl

variable {cfg : Config} {s s' : State}

theorem binding_of_reachable (h : Reachable cfg s) (c : ℕ) :
    (s.ctrl c).streamBinding = bindingOf c s.trace := by
  refine Runs.Reach.invariant (I := fun s => (s.ctrl c).streamBinding = bindingOf c s.trace)
    rfl ?_ h
  intro s a s' _ ih _ hs
  have keep {events : List Event} (trace : s'.trace = s.trace ++ events)
      (ctrl : (s'.ctrl c).streamBinding = (s.ctrl c).streamBinding)
      (silent : ∀ e ∈ events, e.bound c = none) :
      (s'.ctrl c).streamBinding = bindingOf c s'.trace := by
    rw [ctrl, ih, trace]
    exact (History.latest_append_of_silent silent).symm
  cases step_cases hs with
  | ctrl c' input next move =>
    by_cases hc : c' = c
    · subst hc
      have hloc : (s.afterCtrl c' next).ctrl c' = next.loc := by simp [State.afterCtrl]
      rcases Controller.binding_of_moves move with ⟨hb, silent⟩ | ⟨m, router, now, sid, hev, hb⟩
      · exact keep rfl (by rw [hloc, hb]) fun e he => silent e he c'
      · rw [hloc, hb, bindingOf, State.afterCtrl, hev, History.latest_snoc]
        simp [Event.bound]
    · refine keep rfl (by simp [State.afterCtrl, Ne.symm hc]) fun e he => ?_
      cases Controller.events_of_moves move e he with
      | mapped => exact if_neg hc
      | _ => rfl
  | dev i input next move =>
    refine keep rfl rfl fun e he => ?_
    cases Device.events_of_moves move e he with
    | plain _ plain => cases plain <;> rfl
    | _ => rfl
  | ambient _ sh' reaper' events _ _ _ _ _ _ plain _ =>
    refine keep rfl rfl fun e he => ?_
    cases plain e he <;> rfl
  | fired | firedLate | completed | evicted => exact keep rfl rfl (by simp [Event.bound])

/-- A response that a loop hands on answers a message that the loop pulled on its bound stream. -/
def Solicited (past : List Event) : Event → Prop
  | .answered c r => r.origin ≠ .relay → ∃ m, .pulled c m ∈ past ∧ m.key = r.resp.key ∧
      bindingOf c past = some m.binding
  | _ => True

theorem solicited_of_reachable (h : Reachable cfg s) : History.Justified Solicited s.trace := by
  refine Runs.Reach.invariant (I := fun s => History.Justified Solicited s.trace)
    History.justified_nil ?_ h
  intro s a s' hr ih _ hs
  have hcases := step_cases hs
  obtain ⟨events, trace⟩ := trace_of_cases hcases
  rw [trace]
  refine ih.extend ?_
  intro e he
  cases e with
  | answered c r =>
    rcases answered_of_cases hcases trace he with ho | ⟨m, hpc, rfl⟩
    · exact Or.inl fun _ device => absurd ho device
    · refine Or.inr ⟨[], rfl, by simp, fun _ => ?_⟩
      have K : Clearance cfg s c := clearance_of_reachable hr
      obtain ⟨hpulled, hb⟩ := K.current m (by rw [hpc]; rfl)
      obtain ⟨hk, -⟩ := (provenance_of_reachable hr).reply c m r (by rw [hpc]; rfl)
      exact ⟨m, hpulled, hk.symm, by rw [← binding_of_reachable hr, hb]⟩
  | _ => exact Or.inl fun _ => trivial

/-- When no two controllers use a sequence number for the same device, and devices send data only
for requests that were put on an outbound channel, a response that a stream bound to a controller
is sent and the relay did not make up is a device's answer to a request whose payload came from a
message of that controller. -/
theorem responses_are_isolated (h : Reachable cfg s) (unique : UniqueSequences s.trace)
    (asked : OnlyAsked s.trace) : Isolated s.trace := by
  intro past later c r d controllerId methodName split device bound
  obtain ⟨m, hpulled, hkey, hbinding⟩ := solicited_of_reachable h past _ later split device
  have genuine : Genuine past r := identified_of_reachable h past _ later split
  obtain ⟨before, after, i, response, rfl, hr⟩ := genuine.source device
  obtain ⟨c', i', m', request, hplaced, hkey'⟩ := asked before
    (after ++ Event.answered c r :: later) i r.resp.deviceId response (by rw [split]; simp)
  have hkey' : m'.key = r.resp.key := by
    rw [hkey', hr]
    rfl
  obtain ⟨b₁, b₂, rfl⟩ := List.append_of_mem hplaced
  obtain ⟨hpulled', -, hpayload, -⟩ := forwardable_of_reachable h b₁ (.placed c' i' m' request)
    (b₂ ++ Event.data i r.resp.deviceId response :: after ++ Event.answered c r :: later)
    (by rw [split]; simp)
  refine ⟨b₁ ++ Event.placed c' i' m' request :: b₂, after, i, response, rfl, hr, c', i', m',
    request, hplaced, List.mem_append_left _ hpulled', hkey', ?_, hpayload⟩
  have same : m'.controllerId = m.controllerId := by
    refine unique c' c m' m ?_ ?_ (hkey'.trans hkey.symm)
    · rw [split]
      simp [hpulled']
    · rw [split]
      exact List.mem_append_left _ hpulled
  have own : m.binding = (d, controllerId, methodName) := by
    rw [hbinding] at bound
    exact Option.some.inj bound
  rw [same]
  exact congrArg (·.2.1) own

/-! ### Concrete runs -/

namespace Small

/-- A request of controller `"c2"` with the sequence number of one of controller `"c"`. -/
def otherRequest : ControllerMessage :=
  { request 1 with controllerId := "c2", encryptedPayload := [9] }

/-- Two controllers use a sequence number: the second request waits for the answer to the first. -/
def sharedRun : List Action :=
  register 0 "d" "t" ++ join 0 (request 1) ++ forward 0 ++ join 1 otherRequest ++
    data 0 "d" 1 ++ devTicks 0 1 ++ ticks 1 3

/-- The device sends its data before the request is sent to it. -/
def earlyRun : List Action :=
  register 0 "d" "t" ++ join 0 (request 1) ++ data 0 "d" 1 ++ devTicks 0 1 ++ forward 0 ++
    ticks 0 4

/-- Two controllers with sequence numbers of their own, which the device answers in the other
order. -/
def separateRun : List Action :=
  register 0 "d" "t" ++ join 0 (request 1) ++ forward 0 ++
    join 1 { otherRequest with sequenceNumber := 2 } ++ forward 1 ++
    data 0 "d" 2 ++ devTicks 0 1 ++ data 0 "d" 1 ++ devTicks 0 1 ++ ticks 0 4 ++ ticks 1 4

/-- The requests placed (`true`) and the data received (`false`), by key. -/
def exchange : Event → Option (Bool × RequestKey)
  | .placed _ _ m _ => some (true, m.key)
  | .data _ d response => some (false, (d, response.sequenceNumber))
  | _ => none

/-- The data received answers requests placed before, or those of `keys`. -/
def answersPlaced (keys : List RequestKey) : List (Bool × RequestKey) → Bool
  | [] => true
  | (true, k) :: rest => answersPlaced (k :: keys) rest
  | (false, k) :: rest => decide (k ∈ keys) && answersPlaced keys rest

theorem mem_of_answersPlaced {keys : List RequestKey} {past later : List (Bool × RequestKey)}
    {k : RequestKey} (h : answersPlaced keys (past ++ (false, k) :: later) = true) :
    k ∈ keys ∨ (true, k) ∈ past := by
  induction past generalizing keys with
  | nil => exact Or.inl (by simpa [answersPlaced] using (Bool.and_eq_true_iff.1 h).1)
  | cons x past ih =>
    match x with
    | (true, k') =>
      rcases ih h with mem | mem
      · rcases List.mem_cons.1 mem with rfl | mem
        · exact Or.inr (List.mem_cons_self ..)
        · exact Or.inl mem
      · exact Or.inr (List.mem_cons_of_mem _ mem)
    | (false, k') => exact (ih (Bool.and_eq_true_iff.1 h).2).imp_right (List.mem_cons_of_mem _)

theorem onlyAsked_of_exchange {events : List Event}
    (h : answersPlaced [] (events.filterMap exchange) = true) : OnlyAsked events := by
  rintro past later i d response rfl
  rw [List.filterMap_append,
    List.filterMap_cons_some (show exchange (.data i d response) = some _ from rfl)] at h
  have mem := (mem_of_answersPlaced h).resolve_left List.not_mem_nil
  obtain ⟨e, he, hk⟩ := List.mem_filterMap.1 mem
  cases e with
  | placed c i' m request => exact ⟨c, i', m, request, he, by simpa [exchange] using hk⟩
  | _ => simp [exchange] at hk

/-- Messages with the same key come from the same controller. -/
def ownSequences (pulls : List (ℕ × ControllerMessage)) : Bool :=
  pulls.all fun x => pulls.all fun y => x.2.key != y.2.key || x.2.controllerId == y.2.controllerId

theorem uniqueSequences_of_pull {events : List Event}
    (h : ownSequences (events.filterMap pull) = true) : UniqueSequences events := by
  intro c c' m m' hm hm' same
  have mem : (c, m) ∈ events.filterMap pull := List.mem_filterMap.2 ⟨_, hm, rfl⟩
  have mem' : (c', m') ∈ events.filterMap pull := List.mem_filterMap.2 ⟨_, hm', rfl⟩
  simpa [same] using List.all_eq_true.1 (List.all_eq_true.1 h _ mem) _ mem'

end Small

/-- A controller gets the answer to another controller's request with the same sequence number; and
it gets an answer to no request at all from a device that sends data unasked. -/
theorem shared_sequence_breaks_isolation :
    (¬ ∀ cfg s, Reachable cfg s → OnlyAsked s.trace → Isolated s.trace) ∧
      ¬ ∀ cfg s, Reachable cfg s → UniqueSequences s.trace → Isolated s.trace := by
  constructor
  · intro claim
    obtain ⟨s, hs, hlast⟩ : ∃ s, execute Small.config Small.sharedRun = some s ∧
        (s.trace.drop 18).map Small.answer = [some (1, ⟨⟨"d", 1, [2], 0⟩, .device 14⟩)] :=
      Option.map_eq_some_iff.1 (by decide +kernel)
    have facts : (execute Small.config Small.sharedRun).map (fun s =>
        (Small.answersPlaced [] (s.trace.filterMap Small.exchange),
          bindingOf 1 (s.trace.take 18),
          (s.trace.filterMap Small.placement).all (·.2.2.1.controllerId == "c"))) =
        some (true, some ("d", "c2", "M"), true) := by
      decide +kernel
    rw [hs, Option.map_some, Option.some.injEq, Prod.mk.injEq, Prod.mk.injEq] at facts
    obtain ⟨hexchange, hbound, hplaced⟩ := facts
    have hsplit := Small.eq_snoc_of_map (fun _ => Small.eq_answered) hlast
    obtain ⟨before, after, i, response, hpast, -, c, i', m, request, hm, -, -, hid, -⟩ :=
      claim _ s (reachable_of_execute hs) (Small.onlyAsked_of_exchange hexchange) _ _ _ _ _ _ _
        hsplit (by simp) hbound
    have hmem : .placed c i' m request ∈ s.trace := by
      rw [hsplit, hpast]
      simp [hm]
    have := List.all_eq_true.1 hplaced (c, i', m, request) (List.mem_filterMap.2 ⟨_, hmem, rfl⟩)
    simp [hid] at this
  · intro claim
    obtain ⟨s, hs, hlast⟩ : ∃ s, execute Small.config Small.earlyRun = some s ∧
        (s.trace.drop 14).map Small.answer = [some (0, ⟨⟨"d", 1, [2], 0⟩, .device 8⟩)] :=
      Option.map_eq_some_iff.1 (by decide +kernel)
    have facts : (execute Small.config Small.earlyRun).map (fun s =>
        (Small.ownSequences (s.trace.filterMap Small.pull),
          bindingOf 0 (s.trace.take 14), ((s.trace.take 8).filterMap Small.placement).isEmpty)) =
        some (true, some ("d", "c", "M"), true) := by
      decide +kernel
    rw [hs, Option.map_some, Option.some.injEq, Prod.mk.injEq, Prod.mk.injEq] at facts
    obtain ⟨hpulled, hbound, hplaced⟩ := facts
    have hsplit := Small.eq_snoc_of_map (fun _ => Small.eq_answered) hlast
    obtain ⟨before, after, i, response, hpast, hr, c, i', m, request, hm, -⟩ :=
      claim _ s (reachable_of_execute hs) (Small.uniqueSequences_of_pull hpulled) _ _ _ _ _ _ _
        hsplit (by simp) hbound
    have hlen : before.length = 8 := by
      simpa [Device.dataReply] using (congrArg Reply.origin hr).symm
    have hbefore : s.trace.take 8 = before := by
      rw [hsplit, hpast, ← hlen]
      simp
    rw [hbefore, List.isEmpty_iff] at hplaced
    have : (c, i', m, request) ∈ before.filterMap Small.placement :=
      List.mem_filterMap.2 ⟨_, hm, rfl⟩
    simp [hplaced] at this

/-- Each of two controllers gets the answer to its own request. -/
theorem own_answers_are_isolated :
    ∃ s, execute Small.config Small.separateRun = some s ∧ UniqueSequences s.trace ∧
      OnlyAsked s.trace ∧ s.trace.filterMap Small.answer =
        [(0, ⟨⟨"d", 1, [2], 0⟩, .device 18⟩), (1, ⟨⟨"d", 2, [2], 0⟩, .device 15⟩)] ∧
      bindingOf 0 s.trace = some ("d", "c", "M") ∧ bindingOf 1 s.trace = some ("d", "c2", "M") ∧
      Isolated s.trace := by
  obtain ⟨s, hs, hanswered⟩ : ∃ s, execute Small.config Small.separateRun = some s ∧
      s.trace.filterMap Small.answer =
        [(0, ⟨⟨"d", 1, [2], 0⟩, .device 18⟩), (1, ⟨⟨"d", 2, [2], 0⟩, .device 15⟩)] :=
    Option.map_eq_some_iff.1 (by decide +kernel)
  have facts : (execute Small.config Small.separateRun).map (fun s =>
      (Small.ownSequences (s.trace.filterMap Small.pull) &&
        Small.answersPlaced [] (s.trace.filterMap Small.exchange), bindingOf 0 s.trace,
        bindingOf 1 s.trace)) = some (true, some ("d", "c", "M"), some ("d", "c2", "M")) := by
    decide +kernel
  rw [hs, Option.map_some, Option.some.injEq, Prod.mk.injEq, Prod.mk.injEq,
    Bool.and_eq_true] at facts
  obtain ⟨⟨hpulled, hexchange⟩, hbound, hbound'⟩ := facts
  have unique := Small.uniqueSequences_of_pull hpulled
  have asked := Small.onlyAsked_of_exchange hexchange
  exact ⟨s, hs, unique, asked, hanswered, hbound, hbound',
    responses_are_isolated (reachable_of_execute hs) unique asked⟩

end GrpcRelay
