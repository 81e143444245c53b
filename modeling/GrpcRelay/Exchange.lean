import GrpcRelay.Fleet
import GrpcRelay.Matching

/-!
# Controllers, the relay and devices

The whole path of a request: any number of sessions of the controller SDK, the relay, and a device
client at the other end of every device stream.  All run in steps of their own; between a session
and its `ConnectToDevice` loop are two queues, one each way, that keep their order and may end at
any time.

A call that returns bytes has sent a message, and the handler of the device that the session is for
returned these bytes for the payload of a message with its number: of the call's own message, if no
two calls use a number for the same device (`calls_return_what_handlers_return`).
-/

namespace GrpcRelay

namespace ControllerSdk

/-! ## Where the result of a call comes from -/

/-- The call has tried to send its message. -/
def CallPc.tried : CallPc → Bool
  | .waiting _ | .removing .. | .done _ => true
  | _ => false

/-- The result is that of a response that arrived with the number of the call. -/
def FromResponse (log : List Event) (i : CallId) (result : SequenceResult) : Prop :=
  ∃ response, .arrived response ∈ log ∧ .inserted i response.sequenceNumber ∈ log ∧
    mapDeviceResponseToSequenceResult response = result

/-- A call sends one message, under the number that it put into the table, and what it returns
without an error arrived for that number. -/
structure Sourced (opts : Options) (σ : State) : Prop where
  active : ∀ i request, (σ.calls i).active = some request →
    .inserted i request.sequenceNumber ∈ σ.log
  inserted : ∀ i s, .inserted i s ∈ σ.log → (σ.calls i).inserted = true
  once : ∀ i s s', .inserted i s ∈ σ.log → .inserted i s' ∈ σ.log → s = s'
  sent : ∀ i m, .sent i m ∈ σ.log → (σ.calls i).tried = true ∧
    .inserted i m.sequenceNumber ∈ σ.log ∧ m.targetDeviceId = opts.targetDeviceId
  single : ∀ i m m', .sent i m ∈ σ.log → .sent i m' ∈ σ.log → m = m'
  waiting : ∀ i, (σ.calls i).isWaiting = true → ∃ m, .sent i m ∈ σ.log
  held : ∀ i result, σ.dispatcher = .completing i result → FromResponse σ.log i result
  channel : ∀ i result, σ.channels i = .holding result → FromResponse σ.log i result
  done : ∀ i bytes, σ.calls i = .done (.ok bytes) → FromResponse σ.log i (.ok bytes) ∧
    ∃ m, .sent i m ∈ σ.log

section Sourced

variable {opts : Options} {σ σ' : State} {a : Action} {i : CallId}

theorem FromResponse.grow {log : List Event} {result : SequenceResult}
    (h : FromResponse log i result) (events : List Event) :
    FromResponse (events ++ log) i result := by
  obtain ⟨response, arrived, inserted, same⟩ := h
  exact ⟨response, List.mem_append_right _ arrived, List.mem_append_right _ inserted, same⟩

theorem sourced_init (opts : Options) : Sourced opts {} := by
  constructor <;> simp [CallPc.active, CallPc.isWaiting]

/-- Call `i` goes on, and nothing is noted. -/
theorem Sourced.goto (h : Sourced opts σ) {pc : CallPc}
    (active : ∀ request, pc.active = some request → .inserted i request.sequenceNumber ∈ σ.log)
    (inserted : (σ.calls i).inserted = true → pc.inserted = true)
    (tried : (σ.calls i).tried = true → pc.tried = true)
    (waiting : pc.isWaiting = true → (σ.calls i).isWaiting = true)
    (done : ∀ bytes, pc = .done (.ok bytes) → FromResponse σ.log i (.ok bytes) ∧
      ∃ m, .sent i m ∈ σ.log) : Sourced opts (σ.goto i pc) := by
  refine ⟨fun j => ?_, fun j => ?_, h.once, fun j => ?_, h.single, fun j => ?_, h.held, h.channel,
    fun j => ?_⟩
  all_goals
    by_cases own : j = i
    · subst own
      simp only [goto_calls, if_true]
      first
        | exact active
        | exact fun s hs => inserted (h.inserted j s hs)
        | exact fun m hm => ⟨tried (h.sent j m hm).1, (h.sent j m hm).2⟩
        | exact fun hw => h.waiting j (waiting hw)
        | exact done
    · simp only [goto_calls, if_neg own]
      first
        | exact h.active j
        | exact h.inserted j
        | exact h.sent j
        | exact h.waiting j
        | exact h.done j

/-- Call `i` cleans up. -/
theorem Sourced.giveUp (h : Sourced opts σ) {request : Request} (error : ControllerSdkError)
    (active : (σ.calls i).active = some request) :
    Sourced opts (σ.goto i (.removing request error)) := by
  refine h.goto (fun request' same => ?_) (fun _ => rfl) (fun _ => rfl)
    (by simp [CallPc.isWaiting]) (by simp)
  cases same
  exact h.active i request active

/-- The event says nothing about what the calls have done. -/
def Event.isSilent : Event → Bool
  | .arrived _ | .removed .. => true
  | _ => false

/-- No call goes on. -/
theorem Sourced.quiet (h : Sourced opts σ) (events : List Event) (calls : σ'.calls = σ.calls)
    (log : σ'.log = events ++ σ.log) (silent : ∀ e ∈ events, e.isSilent = true)
    (held : ∀ i result, σ'.dispatcher = .completing i result → FromResponse σ'.log i result)
    (channel : ∀ i result, σ'.channels i = .holding result → FromResponse σ'.log i result) :
    Sourced opts σ' := by
  have old {e : Event} (he : e ∈ σ'.log) (loud : e.isSilent = false) : e ∈ σ.log := by
    rw [log, List.mem_append] at he
    exact he.resolve_left fun new => by simp [silent e new] at loud
  have kept {e : Event} (he : e ∈ σ.log) : e ∈ σ'.log := by
    rw [log]
    exact List.mem_append_right _ he
  refine ⟨fun i request hi => ?_, fun i s hs => ?_, fun i s s' hs hs' => ?_, fun i m hm => ?_,
    fun i m m' hm hm' => ?_, fun i hi => ?_, held, channel, fun i bytes hi => ?_⟩
  · rw [calls] at hi
    exact kept (h.active i request hi)
  · rw [calls]
    exact h.inserted i s (old hs rfl)
  · exact h.once i s s' (old hs rfl) (old hs' rfl)
  · rw [calls]
    obtain ⟨tried, inserted, target⟩ := h.sent i m (old hm rfl)
    exact ⟨tried, kept inserted, target⟩
  · exact h.single i m m' (old hm rfl) (old hm' rfl)
  · rw [calls] at hi
    obtain ⟨m, hm⟩ := h.waiting i hi
    exact ⟨m, kept hm⟩
  · rw [calls] at hi
    obtain ⟨source, m, hm⟩ := h.done i bytes hi
    rw [log]
    exact ⟨source.grow events, m, List.mem_append_right _ hm⟩

theorem holding_of_dropSender {sender : Option CallId} {result : SequenceResult}
    (h : (σ.dropSender sender).channels i = .holding result) : σ.channels i = .holding result := by
  cases sender with
  | none => exact h
  | some j =>
    by_cases own : i = j
    · subst own
      simp only [State.dropSender, Function.update_self] at h
      cases at_i : σ.channels i <;> simp_all [Channel.drop]
    · simpa [State.dropSender, Function.update_of_ne own] using h

theorem Sourced.dropSender (h : Sourced opts σ) (sender : Option CallId) :
    Sourced opts (σ.dropSender sender) :=
  h.quiet [] rfl rfl (by simp) h.held fun i result hi =>
    h.channel i result (holding_of_dropSender hi)

theorem Sourced.remove (h : Sourced opts σ) (i : CallId) (s : ℤ) : Sourced opts (σ.remove i s) :=
  h.quiet [.removed i s] rfl rfl (by simp [Event.isSilent])
    (fun j result hj => (h.held j result hj).grow [_])
    fun j result hj => (h.channel j result (holding_of_dropSender hj)).grow [_]

/-- The sender that the dispatch task takes out is of a call with the number of the response. -/
theorem Sourced.take (h : Sourced opts σ) (hlocated : Located σ) (response : DeviceResponse) :
    Sourced opts (σ.take response) := by
  refine h.quiet [.arrived response] rfl rfl (by simp [Event.isSilent]) ?_
    fun j result hj => (h.channel j result hj).grow [_]
  intro j result hj
  cases found : σ.pending.lookup response.sequenceNumber with
  | none => simp [State.take, found] at hj
  | some k =>
    obtain ⟨request, active, number, -⟩ := hlocated.table _ k found
    simp only [State.take, found, Dispatcher.completing.injEq] at hj
    obtain ⟨rfl, rfl⟩ := hj
    have inserted := h.active k request active
    rw [number] at inserted
    exact ⟨response, List.mem_cons_self, List.mem_cons_of_mem _ inserted, rfl⟩

/-- A call puts its sender into the table, for the first time. -/
theorem Sourced.insert (h : Sourced opts σ) {request : Request}
    (hi : σ.calls i = .inserting request) : Sourced opts (σ.insert i request) := by
  have fresh (s : ℤ) : .inserted i s ∉ σ.log := by
    intro hs
    simpa [hi, CallPc.inserted] using h.inserted i s hs
  have unsent (m : ControllerMessage) : .sent i m ∉ σ.log := fun hm => fresh _ (h.sent i m hm).2.1
  obtain ⟨pc, calls, active, inserted, idle⟩ : ∃ pc, (σ.insert i request).calls =
      Function.update σ.calls i pc ∧ pc.active = some request ∧ pc.inserted = true ∧
        pc.tried = false := by
    refine ⟨_, rfl, ?_⟩
    split <;> exact ⟨rfl, rfl, rfl⟩
  have log : (σ.insert i request).log = .inserted i request.sequenceNumber :: σ.log := rfl
  have kept {j : CallId} {result : SequenceResult} (hj : FromResponse σ.log j result) :
      FromResponse (σ.insert i request).log j result := hj.grow [_]
  refine ⟨fun j request' hj => ?_, fun j s hs => ?_, fun j s s' hs hs' => ?_, fun j m hm => ?_,
    fun j m m' hm hm' => ?_, fun j hj => ?_, fun j result hj => kept (h.held j result hj),
    fun j result hj => kept (h.channel j result hj), fun j bytes hj => ?_⟩
  all_goals simp only [calls, log, List.mem_cons, reduceCtorEq, Event.inserted.injEq, false_or] at *
  · by_cases own : j = i
    · subst own
      rw [Function.update_self, active] at hj
      cases hj
      exact .inl ⟨rfl, rfl⟩
    · rw [Function.update_of_ne own] at hj
      exact .inr (h.active j request' hj)
  · by_cases own : j = i
    · rw [own, Function.update_self, inserted]
    · rw [Function.update_of_ne own]
      exact h.inserted j s (hs.resolve_left fun new => own new.1)
  · rcases hs with ⟨rfl, rfl⟩ | hs
    · rcases hs' with ⟨-, rfl⟩ | hs'
      · rfl
      · exact absurd hs' (fresh s')
    · rcases hs' with ⟨rfl, rfl⟩ | hs'
      · exact absurd hs (fresh s)
      · exact h.once j s s' hs hs'
  · have own : j ≠ i := by
      rintro rfl
      exact unsent m hm
    obtain ⟨tried, number, target⟩ := h.sent j m hm
    rw [Function.update_of_ne own]
    exact ⟨tried, .inr number, target⟩
  · exact h.single j m m' hm hm'
  · by_cases own : j = i
    · subst own
      rw [Function.update_self] at hj
      cases pc <;> simp_all [CallPc.isWaiting, CallPc.tried]
    · rw [Function.update_of_ne own] at hj
      exact h.waiting j hj
  · by_cases own : j = i
    · subst own
      rw [Function.update_self] at hj
      simp [hj, CallPc.tried] at idle
    · rw [Function.update_of_ne own] at hj
      obtain ⟨source, sent⟩ := h.done j bytes hj
      exact ⟨source.grow [_], sent⟩

/-- A call sends its message, for the first time. -/
theorem Sourced.send (h : Sourced opts σ) {request : Request} (hi : σ.calls i = .sending request) :
    Sourced opts { σ.goto i (.waiting request) with
      log := .sent i (opts.message request) :: σ.log } := by
  have number : .inserted i request.sequenceNumber ∈ σ.log := h.active i request (by rw [hi]; rfl)
  have unsent (m : ControllerMessage) : .sent i m ∉ σ.log := by
    intro hm
    simpa [hi, CallPc.tried] using (h.sent i m hm).1
  have moved (j : CallId) (own : j ≠ i) :
      (σ.goto i (.waiting request)).calls j = σ.calls j := by
    rw [goto_calls, if_neg own]
  have at_i : (σ.goto i (.waiting request)).calls i = .waiting request := by simp
  refine ⟨fun j request' hj => ?_, fun j s hs => ?_, fun j s s' hs hs' => ?_, fun j m hm => ?_,
    fun j m m' hm hm' => ?_, fun j hj => ?_, fun j result hj => (h.held j result hj).grow [_],
    fun j result hj => (h.channel j result hj).grow [_], fun j bytes hj => ?_⟩
  all_goals simp only [List.mem_cons, reduceCtorEq, Event.sent.injEq, false_or] at *
  · by_cases own : j = i
    · subst own
      rw [at_i] at hj
      cases hj
      exact number
    · rw [moved j own] at hj
      exact h.active j request' hj
  · by_cases own : j = i
    · subst own
      rw [at_i]
      rfl
    · rw [moved j own]
      exact h.inserted j s hs
  · exact h.once j s s' hs hs'
  · rcases hm with ⟨rfl, rfl⟩ | hm
    · rw [at_i]
      exact ⟨rfl, number, rfl⟩
    · have own : j ≠ i := by
        rintro rfl
        exact unsent m hm
      rw [moved j own]
      exact h.sent j m hm
  · rcases hm with ⟨rfl, rfl⟩ | hm
    · rcases hm' with ⟨-, rfl⟩ | hm'
      · rfl
      · exact absurd hm' (unsent m')
    · rcases hm' with ⟨rfl, rfl⟩ | hm'
      · exact absurd hm (unsent m)
      · exact h.single j m m' hm hm'
  · by_cases own : j = i
    · exact ⟨_, .inl ⟨own, rfl⟩⟩
    · rw [moved j own] at hj
      obtain ⟨m, hm⟩ := h.waiting j hj
      exact ⟨m, .inr hm⟩
  · by_cases own : j = i
    · subst own
      rw [at_i] at hj
      cases hj
    · rw [moved j own] at hj
      obtain ⟨source, m, hm⟩ := h.done j bytes hj
      exact ⟨source.grow [_], m, .inr hm⟩

theorem Sourced.step (h : Sourced opts σ) (hlocated : Located σ)
    (hstep : step opts σ a = some σ') : Sourced opts σ' := by
  cases a with
  | call i request =>
    simp only [ControllerSdk.step] at hstep
    split at hstep
    · rename_i hidle
      split_ifs at hstep <;> cases hstep <;>
        exact h.goto (by simp [CallPc.active]) (by simp [hidle, CallPc.inserted])
          (by simp [hidle, CallPc.tried]) (by simp [CallPc.isWaiting]) (by simp)
    · cases hstep
  | insert i =>
    simp only [ControllerSdk.step] at hstep
    split at hstep <;> cases hstep
    rename_i request hi
    exact h.insert hi
  | dropPrevious i =>
    simp only [ControllerSdk.step] at hstep
    split at hstep <;> cases hstep
    rename_i request previous hi
    refine (h.dropSender (some previous)).goto (fun request' same => ?_) (fun _ => rfl) ?_
      (by simp [CallPc.isWaiting]) (by simp)
    · cases same
      exact h.active i request (by rw [hi]; rfl)
    · change (σ.calls i).tried = true → _
      simp [hi, CallPc.tried]
  | send i accepted =>
    simp only [ControllerSdk.step] at hstep
    split at hstep
    · rename_i request hi _
      split_ifs at hstep <;> cases hstep
      · exact h.send hi
      · have went : Sourced opts (σ.goto i (.removing request .streamClosed)) :=
          h.giveUp _ (by rw [hi]; rfl)
        exact went.quiet [] rfl rfl (by simp) went.held went.channel
    · cases hstep
  | receive i =>
    simp only [ControllerSdk.step] at hstep
    split at hstep <;> cases hstep
    · rename_i request result hi hc
      refine h.goto (by simp [CallPc.active]) (fun _ => rfl) (fun _ => rfl)
        (by simp [CallPc.isWaiting]) fun bytes same => ?_
      obtain rfl : result = .ok bytes := by simpa using same
      exact ⟨h.channel i _ hc, h.waiting i (by rw [hi]; rfl)⟩
    · rename_i request hi hc
      exact h.giveUp _ (by rw [hi]; rfl)
  | timeout i =>
    simp only [ControllerSdk.step] at hstep
    split at hstep <;> cases hstep
    rename_i request hi hc
    exact h.giveUp _ (by rw [hi]; rfl)
  | remove i =>
    simp only [ControllerSdk.step] at hstep
    split at hstep <;> cases hstep
    rename_i request error hi
    have went : Sourced opts ((σ.remove i request.sequenceNumber).goto i (.done (.error error))) :=
      (h.remove i _).goto (by simp [CallPc.active]) (fun _ => rfl) (fun _ => rfl)
        (by simp [CallPc.isWaiting]) (by simp)
    exact went.quiet [] rfl rfl (by simp) went.held went.channel
  | arrive response =>
    simp only [ControllerSdk.step] at hstep
    split at hstep <;> cases hstep
    exact h.take hlocated response
  | complete =>
    simp only [ControllerSdk.step] at hstep
    split at hstep <;> cases hstep
    rename_i i result hd
    refine h.quiet [] rfl rfl (by simp) (by simp) fun j result' hj => ?_
    by_cases own : j = i
    · subst own
      simp only [Function.update_self] at hj
      cases at_j : σ.channels j with
      | empty =>
        obtain rfl : result = result' := by simpa [at_j, Channel.send] using hj
        exact h.held j result hd
      | holding r =>
        obtain rfl : r = result' := by simpa [at_j, Channel.send] using hj
        exact h.channel j r at_j
      | closed => simp [at_j, Channel.send] at hj
    · simp only [Function.update_of_ne own] at hj
      exact h.channel j result' hj
  | stop =>
    simp only [ControllerSdk.step] at hstep
    split at hstep <;> cases hstep
    exact h.quiet [] rfl rfl (by simp) (by simp) h.channel

theorem sourced_of_reachable {ok : State → Action → Prop} (h : Reachable opts ok σ) :
    Sourced opts σ := by
  refine h.invariant (sourced_init opts) ?_
  intro σ a σ' hr hI _ hstep
  exact hI.step (located_of_reachable hr) hstep

end Sourced

end ControllerSdk

namespace Exchange

open ControllerSdk (Options CallId)

/-! ## The joint system -/

/-- The relay with its devices, and what each session is opened with. -/
structure Setting where
  fleet : Fleet.Setting
  session : ℕ → Options

/-- Session `c` is at the other end of loop `c`.  `pulled` counts the messages that a loop has read
of its session, `told` the responses that the session has read of its loop. -/
structure World where
  fleet : Fleet.World
  sessions : ℕ → ControllerSdk.State
  pulled : ℕ → ℕ
  told : ℕ → ℕ

/-- The message that a session puts on its stream. -/
def messageOf : ControllerSdk.Event → Option ControllerMessage
  | .sent _ m => some m
  | _ => none

/-- The messages of a session, in order. -/
def messages (σ : ControllerSdk.State) : List ControllerMessage := σ.log.reverse.filterMap messageOf

/-- The responses that are sent on the stream of loop `c`. -/
def toldOn (c : ℕ) : Event → Option DeviceResponse
  | .answered c' r | .notified c' r => if c' = c then some r.resp else none
  | _ => none

/-- A step of the relay, of a device or of a controller. -/
inductive Action where
  /-- A step of the relay or of a device that reads no message of a session. -/
  | fleet (a : Fleet.Action)
  /-- Loop `c` reads the next message of its session. -/
  | pull (c : ℕ)
  /-- A step of session `c` that reads no response. -/
  | call (c : ℕ) (a : ControllerSdk.Action)
  /-- The dispatch task of session `c` reads the next response. -/
  | tell (c : ℕ)

/-- The step reads a message of a session. -/
def pulls : Fleet.Action → Bool
  | .relay (.ctrl _ (.recv _)) => true
  | _ => false

/-- The step reads a response. -/
def arrives : ControllerSdk.Action → Bool
  | .arrive _ => true
  | _ => false

/-- A step of session `c`. -/
def World.session (cfg : Setting) (w : World) (c : ℕ) (a : ControllerSdk.Action) : Option World :=
  (ControllerSdk.step (cfg.session c) (w.sessions c) a).map fun σ =>
    { w with sessions := Function.update w.sessions c σ }

/-- One step; a message is read only after it was sent. -/
def step (cfg : Setting) (w : World) : Action → Option World
  | .fleet a =>
    if pulls a then none else (Fleet.step cfg.fleet w.fleet a).map fun f => { w with fleet := f }
  | .pull c =>
    (messages (w.sessions c))[w.pulled c]?.bind fun m =>
      (Fleet.step cfg.fleet w.fleet (.relay (.ctrl c (.recv m)))).map fun f =>
        { w with fleet := f, pulled := Function.update w.pulled c (w.pulled c + 1) }
  | .call c a => if arrives a then none else w.session cfg c a
  | .tell c =>
    (w.fleet.relay.trace.filterMap (toldOn c))[w.told c]?.bind fun response =>
      (w.session cfg c (.arrive response)).map fun w =>
        { w with told := Function.update w.told c (w.told c + 1) }

/-- Nothing is sent, read or answered yet. -/
def init (cfg : Setting) : World where
  fleet := Fleet.init cfg.fleet
  sessions := fun _ => {}
  pulled := fun _ => 0
  told := fun _ => 0

/-- The worlds of all runs. -/
def Reachable (cfg : Setting) (w : World) : Prop :=
  Runs.Reach (step cfg) (fun _ _ => True) (init cfg) w

/-! ## What both sides know of each other -/

/-- A message is pulled by the step that reads it. -/
theorem recv_of_pulled {cfg : Config} {s s' : State} {a : GrpcRelay.Action} {events : List Event}
    (hs : GrpcRelay.step cfg s a = some s') (trace : s'.trace = s.trace ++ events) {c : ℕ}
    {m : ControllerMessage} (pulled : .pulled c m ∈ events) : a = .ctrl c (.recv m) := by
  cases step_cases hs with
  | ctrl c' input next move =>
    obtain rfl := List.append_cancel_left trace
    cases move with
    | pulled | pulledBound | pulledBad =>
      simp only [List.mem_cons, Event.pulled.injEq, reduceCtorEq, List.not_mem_nil, or_false]
        at pulled
      obtain ⟨rfl, rfl⟩ := pulled
      rfl
    | refused _ _ _ _ counts _ _ _ counted =>
      simp only [List.mem_append, List.mem_singleton, reduceCtorEq, or_false] at pulled
      obtain ⟨status, same⟩ := counted _ pulled
      cases same
    | _ => simp at pulled
  | dev i input next move =>
    obtain rfl := List.append_cancel_left trace
    cases Device.events_of_moves move _ pulled with
    | plain _ plain => cases plain
  | ambient _ _ _ _ _ _ _ _ _ _ plain _ =>
    obtain rfl := List.append_cancel_left trace
    cases plain _ pulled
  | fired | firedLate | completed | evicted =>
    obtain rfl := List.append_cancel_left trace
    simp at pulled

/-- A step of the fleet makes a step of the relay, or none. -/
theorem relay_of_fleet {cfg : Fleet.Setting} {f f' : Fleet.World} {a : Fleet.Action}
    (hs : Fleet.step cfg f a = some f') :
    f'.relay = f.relay ∨ ∃ b, GrpcRelay.step cfg.relay f.relay b = some f'.relay ∧
      (a = .relay b ∨ ∃ i m, b = .dev i (.recv m)) := by
  cases a with
  | relay b =>
    simp only [Fleet.step] at hs
    split_ifs at hs
    obtain ⟨s, taken, rfl⟩ := Option.map_eq_some_iff.1 hs
    exact .inr ⟨b, taken, .inl rfl⟩
  | hear i =>
    obtain ⟨m, -, heard⟩ := Option.bind_eq_some_iff.1 hs
    obtain ⟨s, taken, rfl⟩ := Option.map_eq_some_iff.1 heard
    exact .inr ⟨_, taken, .inr ⟨i, m, rfl⟩⟩
  | client i b =>
    simp only [Fleet.step] at hs
    split_ifs at hs
    obtain ⟨c, -, rfl⟩ := Option.map_eq_some_iff.1 hs
    exact .inl rfl
  | read i =>
    obtain ⟨p, -, client⟩ := Option.bind_eq_some_iff.1 hs
    obtain ⟨f₁, ran, rfl⟩ := Option.map_eq_some_iff.1 client
    obtain ⟨c, -, rfl⟩ := Option.map_eq_some_iff.1 ran
    exact .inl rfl

/-- The queues between the sessions and the relay. -/
structure Joined (cfg : Setting) (w : World) : Prop where
  fleet : Fleet.Reachable cfg.fleet w.fleet
  sessions : ∀ c, ControllerSdk.Reachable (cfg.session c) (fun _ _ => True) (w.sessions c)
  pulled : ∀ c m, .pulled c m ∈ w.fleet.relay.trace → ∃ i, .sent i m ∈ (w.sessions c).log
  arrived : ∀ c response, .arrived response ∈ (w.sessions c).log → ∃ r : Reply,
    (.answered c r ∈ w.fleet.relay.trace ∨ .notified c r ∈ w.fleet.relay.trace) ∧
      r.resp = response

theorem joined_init (cfg : Setting) : Joined cfg (init cfg) where
  fleet := .start
  sessions _ := .start
  pulled := by simp [init, Fleet.init, State.init]
  arrived := by simp [init]

/-- What arrives at a session is what its dispatch task reads. -/
theorem arrive_of_arrived {opts : Options} {σ σ' : ControllerSdk.State} {a : ControllerSdk.Action}
    (hs : ControllerSdk.step opts σ a = some σ') {response : DeviceResponse}
    (arrived : .arrived response ∈ σ'.log) : .arrived response ∈ σ.log ∨ a = .arrive response := by
  cases a with
  | arrive response' =>
    simp only [ControllerSdk.step] at hs
    split at hs <;> cases hs
    simp only [ControllerSdk.State.take, List.mem_cons, ControllerSdk.Event.arrived.injEq]
      at arrived
    rcases arrived with rfl | old
    · exact .inr rfl
    · exact .inl old
  | _ =>
    simp only [ControllerSdk.step] at hs
    repeat' split at hs
    all_goals cases hs
    all_goals
      simp only [ControllerSdk.State.insert, ControllerSdk.State.remove,
        ControllerSdk.State.dropSender, ControllerSdk.goto_log, List.mem_cons, reduceCtorEq,
        false_or] at arrived
      exact .inl arrived

section Steps

variable {cfg : Setting} {w w' : World}

theorem mem_messages {σ : ControllerSdk.State} {m : ControllerMessage} (h : m ∈ messages σ) :
    ∃ i, .sent i m ∈ σ.log := by
  obtain ⟨e, he, same⟩ := List.mem_filterMap.1 h
  cases e with
  | sent i m' =>
    obtain rfl : m' = m := by simpa [messageOf] using same
    exact ⟨i, List.mem_reverse.1 he⟩
  | _ => cases same

theorem mem_told {c : ℕ} {events : List Event} {response : DeviceResponse}
    (h : response ∈ events.filterMap (toldOn c)) :
    ∃ r : Reply, (.answered c r ∈ events ∨ .notified c r ∈ events) ∧ r.resp = response := by
  obtain ⟨e, he, same⟩ := List.mem_filterMap.1 h
  cases e with
  | answered c' r =>
    obtain ⟨rfl, rfl⟩ : c' = c ∧ r.resp = response := by simpa [toldOn] using same
    exact ⟨r, .inl he, rfl⟩
  | notified c' r =>
    obtain ⟨rfl, rfl⟩ : c' = c ∧ r.resp = response := by simpa [toldOn] using same
    exact ⟨r, .inr he, rfl⟩
  | _ => cases same

namespace Joined

variable (J : Joined cfg w)

include J

/-- A step of the fleet, that reads what is sent. -/
theorem of_fleet {a : Fleet.Action} {f : Fleet.World} {pulled : ℕ → ℕ}
    (hs : Fleet.step cfg.fleet w.fleet a = some f)
    (sent : ∀ c m, a = .relay (.ctrl c (.recv m)) → ∃ i, .sent i m ∈ (w.sessions c).log) :
    Joined cfg { w with fleet := f, pulled := pulled } := by
  obtain ⟨events, trace, new⟩ : ∃ events, f.relay.trace = w.fleet.relay.trace ++ events ∧
      ∀ c m, .pulled c m ∈ events → ∃ i, .sent i m ∈ (w.sessions c).log := by
    rcases relay_of_fleet hs with same | ⟨b, taken, own⟩
    · exact ⟨[], by rw [same, List.append_nil], by simp⟩
    · obtain ⟨events, trace⟩ := trace_of_cases (step_cases taken)
      refine ⟨events, trace, fun c m h => ?_⟩
      obtain rfl := recv_of_pulled taken trace h
      rcases own with rfl | ⟨i, m', other⟩
      · exact sent c m rfl
      · cases other
  refine ⟨.next a J.fleet trivial hs, J.sessions, fun c m h => ?_, fun c response h => ?_⟩
  · rw [trace, List.mem_append] at h
    exact h.elim (J.pulled c m) (new c m)
  · obtain ⟨r, told, same⟩ := J.arrived c response h
    rw [trace]
    exact ⟨r, told.imp (List.mem_append_left _) (List.mem_append_left _), same⟩

/-- A step of session `c`, that reads what is told. -/
theorem of_session {c : ℕ} {a : ControllerSdk.Action} {σ : ControllerSdk.State} {told : ℕ → ℕ}
    (hs : ControllerSdk.step (cfg.session c) (w.sessions c) a = some σ)
    (answers : ∀ response, a = .arrive response → ∃ r : Reply,
      (.answered c r ∈ w.fleet.relay.trace ∨ .notified c r ∈ w.fleet.relay.trace) ∧
        r.resp = response) :
    Joined cfg { w with sessions := Function.update w.sessions c σ, told := told } := by
  refine ⟨J.fleet, fun c' => ?_, fun c' m h => ?_, fun c' response h => ?_⟩
  · by_cases own : c' = c
    · subst own
      simp only [Function.update_self]
      exact .next a (J.sessions c') trivial hs
    · simp only [Function.update_of_ne own]
      exact J.sessions c'
  · obtain ⟨i, sent⟩ := J.pulled c' m h
    by_cases own : c' = c
    · subst own
      obtain ⟨events, log⟩ := ControllerSdk.log_of_step hs
      simp only [Function.update_self, log]
      exact ⟨i, List.mem_append_right _ sent⟩
    · simp only [Function.update_of_ne own]
      exact ⟨i, sent⟩
  · by_cases own : c' = c
    · subst own
      simp only [Function.update_self] at h
      rcases arrive_of_arrived hs h with old | read
      · exact J.arrived c' response old
      · exact answers response read
    · simp only [Function.update_of_ne own] at h
      exact J.arrived c' response h

theorem step {a : Action} (hs : Exchange.step cfg w a = some w') : Joined cfg w' := by
  cases a with
  | fleet a =>
    simp only [Exchange.step] at hs
    split_ifs at hs with free
    obtain ⟨f, taken, rfl⟩ := Option.map_eq_some_iff.1 hs
    refine J.of_fleet taken fun c m h => ?_
    rw [h] at free
    exact absurd rfl free
  | pull c =>
    obtain ⟨m, next, pulled⟩ := Option.bind_eq_some_iff.1 hs
    obtain ⟨f, taken, rfl⟩ := Option.map_eq_some_iff.1 pulled
    refine J.of_fleet taken fun c' m' h => ?_
    cases h
    exact mem_messages (List.mem_of_getElem? next)
  | call c a =>
    simp only [Exchange.step] at hs
    split_ifs at hs with free
    obtain ⟨σ, taken, rfl⟩ := Option.map_eq_some_iff.1 hs
    refine J.of_session taken fun response h => ?_
    rw [h] at free
    exact absurd rfl free
  | tell c =>
    obtain ⟨response, next, told⟩ := Option.bind_eq_some_iff.1 hs
    obtain ⟨w₁, ran, rfl⟩ := Option.map_eq_some_iff.1 told
    obtain ⟨σ, taken, rfl⟩ := Option.map_eq_some_iff.1 ran
    refine J.of_session taken fun response' h => ?_
    cases h
    exact mem_told (List.mem_of_getElem? next)

end Joined

end Steps

theorem joined_of_reachable {cfg : Setting} {w : World} (h : Reachable cfg w) : Joined cfg w := by
  refine h.invariant (joined_init cfg) ?_
  intro w a w' _ J _ hs
  exact J.step hs

/-! ## Calls, end to end -/

/-- No two calls use a sequence number for the same device. -/
def UniqueCalls (w : World) : Prop :=
  ∀ c c' i i' m m', .sent i m ∈ (w.sessions c).log → .sent i' m' ∈ (w.sessions c').log →
    m.key = m'.key → c = c' ∧ i = i'

section Results

variable {cfg : Setting} {w : World}

theorem ok_of_result {response : DeviceResponse} {bytes : Bytes}
    (h : ControllerSdk.mapDeviceResponseToSequenceResult response = .ok bytes) :
    response.error = ErrorCode.ok.toInt ∧ response.encryptedPayload = bytes := by
  unfold ControllerSdk.mapDeviceResponseToSequenceResult at h
  split at h
  case h_1 code =>
    refine ⟨?_, by simpa using h⟩
    have found := List.find?_some code
    simpa [eq_comm] using found
  all_goals cases h

/-- What a call returns without an error, the handler of the device of its session returned for a
request with the number of the call, placed for a message with this number: for its own message, if
no two calls use a number for the same device. -/
theorem calls_return_what_handlers_return (h : Reachable cfg w) {c : ℕ} {i : CallId} {bytes : Bytes}
    (done : (w.sessions c).calls i = .done (.ok bytes)) :
    ∃ own, .sent i own ∈ (w.sessions c).log ∧
      own.targetDeviceId = (cfg.session c).targetDeviceId ∧
      ∃ c' i' m d request, .sent i' m ∈ (w.sessions c').log ∧ m.key = own.key ∧
        (cfg.fleet.client d).deviceId = own.targetDeviceId ∧
        .placed c' d m request ∈ w.fleet.relay.trace ∧
        request.sequenceNumber = own.sequenceNumber ∧
        request.encryptedPayload = m.encryptedPayload ∧
        (request, .returned bytes) ∈ DeviceSdk.handled (w.fleet.notes d) ∧
        (UniqueCalls w → m = own) := by
  have J := joined_of_reachable h
  have S := ControllerSdk.sourced_of_reachable (J.sessions c)
  have C := Fleet.coupled_of_reachable J.fleet
  obtain ⟨⟨response, arrived, number, result⟩, own, sent⟩ := S.done i bytes done
  obtain ⟨-, inserted, target⟩ := S.sent i own sent
  obtain ⟨ok, same⟩ := ok_of_result result
  obtain ⟨r, told, rfl⟩ := J.arrived c response arrived
  have answered : .answered c r ∈ w.fleet.relay.trace := by
    refine told.resolve_right fun notified => ?_
    exact (failures_of_reachable C.relay).notified c r notified ok
  obtain ⟨past, later, split⟩ := List.append_of_mem answered
  obtain ⟨mine, d, c', m, request, pulled, key, -, device, pulled', placed, key', payload,
    returned⟩ := C.source_of_ok split ok
  have mem (e : Event) (he : e ∈ past) : e ∈ w.fleet.relay.trace := by
    rw [split]
    exact List.mem_append_left _ he
  obtain ⟨i₀, sent₀⟩ := J.pulled c mine (mem _ pulled)
  obtain ⟨i', sent'⟩ := J.pulled c' m (mem _ pulled')
  have one : own.key = mine.key := by
    have device' := (S.sent i₀ mine sent₀).2.2
    have number' : own.sequenceNumber = mine.sequenceNumber :=
      (S.once i _ _ inserted number).trans (congrArg Prod.snd key).symm
    exact Prod.ext (target.trans device'.symm) number'
  have asked : request.sequenceNumber = own.sequenceNumber := by
    obtain ⟨b₁, b₂, split'⟩ := List.append_of_mem (mem _ placed)
    obtain ⟨-, made, -⟩ := C.of_placed split'
    exact congrArg Prod.snd (made.symm.trans (key'.trans one.symm))
  refine ⟨own, sent, target, c', i', m, d, request, sent', key'.trans one.symm,
    device.trans (congrArg Prod.fst one).symm, mem _ placed, asked, payload, same ▸ returned,
    fun unique => ?_⟩
  obtain ⟨rfl, rfl⟩ := unique c' c i' i m own sent' sent (key'.trans one.symm)
  exact S.single i' m own sent' sent

end Results

/-! ### A concrete run -/

namespace Small

/-- The small fleet, and sessions for its device. -/
def setting : Setting where
  fleet := Fleet.Small.setting
  session := fun _ => ⟨"c", "ct", "d", 2⟩

/-- The device registers. -/
def registered : List Fleet.Action :=
  [.client 0 .register, .client 0 .take, .hear 0] ++
    (GrpcRelay.Small.devTicks 0 2 ++ GrpcRelay.Action.dev 0 (.health true) ::
      GrpcRelay.Small.devTicks 0 5).map .relay

/-- The loop forwards what it has pulled, and the device answers after its handler has returned. -/
def answered : List Fleet.Action :=
  (GrpcRelay.Small.ticks 0 6 ++ GrpcRelay.Small.forward 0).map .relay ++
    [.read 0, .read 0, .client 0 .acquire, .client 0 (.complete 0 (.returned [2])),
      .client 0 (.respond 0), .client 0 .take, .hear 0] ++
    (GrpcRelay.Small.devTicks 0 3 ++ GrpcRelay.Small.ticks 0 4).map .relay

/-- A call of the first session sends its message, the device answers, and the call returns. -/
def calledRun : List Action :=
  registered.map .fleet ++
    [.call 0 (.call 0 ⟨"M", 1, [1]⟩), .call 0 (.insert 0), .call 0 (.send 0 true), .pull 0] ++
    answered.map .fleet ++ [.tell 0, .call 0 .complete, .call 0 (.receive 0)]

theorem reachable_of_execute {w : World}
    (h : Runs.execute (step setting) (init setting) calledRun = some w) : Reachable setting w :=
  .of_execute (fun _ _ => trivial) _ .start h

/-- The session that a step is of. -/
def session : Action → Option ℕ
  | .call c _ | .tell c => some c
  | _ => none

theorem sessions_of_execute {cfg : Setting} {w w' : World} {c : ℕ} (as : List Action)
    (others : ∀ a ∈ as, session a ≠ some c) (h : Runs.execute (step cfg) w as = some w') :
    w'.sessions c = w.sessions c := by
  induction as generalizing w with
  | nil =>
    cases h
    rfl
  | cons a as ih =>
    obtain ⟨w₁, hs, rest⟩ := Option.bind_eq_some_iff.1 h
    rw [ih (fun b hb => others b (List.mem_cons_of_mem _ hb)) rest]
    have other := others a List.mem_cons_self
    cases a with
    | fleet b =>
      simp only [step] at hs
      split_ifs at hs
      obtain ⟨f, -, rfl⟩ := Option.map_eq_some_iff.1 hs
      rfl
    | pull c' =>
      obtain ⟨m, -, pulled⟩ := Option.bind_eq_some_iff.1 hs
      obtain ⟨f, -, rfl⟩ := Option.map_eq_some_iff.1 pulled
      rfl
    | call c' b =>
      simp only [step] at hs
      split_ifs at hs
      obtain ⟨σ, -, rfl⟩ := Option.map_eq_some_iff.1 hs
      exact Function.update_of_ne (fun own => other (congrArg some own.symm)) _ _
    | tell c' =>
      obtain ⟨response, -, told⟩ := Option.bind_eq_some_iff.1 hs
      obtain ⟨w₂, ran, rfl⟩ := Option.map_eq_some_iff.1 told
      obtain ⟨σ, -, rfl⟩ := Option.map_eq_some_iff.1 ran
      exact Function.update_of_ne (fun own => other (congrArg some own.symm)) _ _

/-- The one call of the run is the only one. -/
theorem uniqueCalls_of_execute {w : World}
    (h : Runs.execute (step setting) (init setting) calledRun = some w) : UniqueCalls w := by
  have log : (Runs.execute (step setting) (init setting) calledRun).map
      (fun w => (w.sessions 0).log) =
      some [.arrived ⟨"d", 1, [2], 0⟩, .sent 0 (GrpcRelay.Small.request 1), .inserted 0 1] := by
    decide +kernel
  rw [h, Option.map_some, Option.some.injEq] at log
  have first {c i : ℕ} {m : ControllerMessage} (sent : .sent i m ∈ (w.sessions c).log) :
      c = 0 ∧ i = 0 := by
    have own : c = 0 := by
      by_contra other
      rw [sessions_of_execute calledRun ?_ h] at sent
      · cases sent
      · intro a ha same
        have zero : ∀ a ∈ calledRun, session a = none ∨ session a = some 0 := by decide
        rcases zero a ha with none | zero
        · simp [none] at same
        · exact other (Option.some.inj (same.symm.trans zero))
    subst own
    rw [log] at sent
    have only : i = 0 ∧ m = GrpcRelay.Small.request 1 := by simpa using sent
    exact ⟨rfl, only.1⟩
  intro c c' i i' m m' sent sent' _
  obtain ⟨rfl, rfl⟩ := first sent
  obtain ⟨rfl, rfl⟩ := first sent'
  exact ⟨rfl, rfl⟩

end Small

/-- The bytes that the handler returned for the payload of the call are what it returns. -/
theorem called_handler_answers :
    ∃ w request, Reachable Small.setting w ∧ UniqueCalls w ∧
      (w.sessions 0).calls 0 = .done (.ok [2]) ∧
      .sent 0 (GrpcRelay.Small.request 1) ∈ (w.sessions 0).log ∧
      request.sequenceNumber = 1 ∧ request.encryptedPayload = [1] ∧
      ∃ d, (request, .returned [2]) ∈ DeviceSdk.handled (w.fleet.notes d) := by
  obtain ⟨w, executed, done⟩ : ∃ w,
      Runs.execute (step Small.setting) (init Small.setting) Small.calledRun = some w ∧
        (w.sessions 0).calls 0 = .done (.ok [2]) :=
    Option.map_eq_some_iff.1 (by decide +kernel)
  have reachable := Small.reachable_of_execute executed
  have unique := Small.uniqueCalls_of_execute executed
  obtain ⟨own, sent, -, c', i', m, d, request, -, -, -, -, number, payload, returned, same⟩ :=
    calls_return_what_handlers_return reachable done
  have log : (Runs.execute (step Small.setting) (init Small.setting) Small.calledRun).map
      (fun w => (w.sessions 0).log.filterMap messageOf) = some [GrpcRelay.Small.request 1] := by
    decide +kernel
  rw [executed, Option.map_some, Option.some.injEq] at log
  obtain rfl : own = GrpcRelay.Small.request 1 := by
    have mem : own ∈ (w.sessions 0).log.filterMap messageOf := List.mem_filterMap.2 ⟨_, sent, rfl⟩
    rwa [log, List.mem_singleton] at mem
  exact ⟨w, request, reachable, unique, done, sent, number,
    payload.trans (by rw [same unique]; rfl), d, returned⟩

end Exchange

end GrpcRelay
