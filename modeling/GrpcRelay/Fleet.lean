import GrpcRelay.Failures
import GrpcRelay.Isolation
import GrpcRelay.DeviceHandlers

/-!
# The relay and its devices

The relay with a device client of the SDK at the other end of every device stream.  Both run in
steps of their own; between them are two queues, one each way, that keep their order and may end at
any time.

The relay promises that an answer of a device goes to the controller that asked, if devices answer
only what they are asked.  The clients do: each `Data` message that the relay reads answers a
request that it put on that stream, with what the handler returned for it, and no request is
answered twice (`devices_answer_what_they_are_asked`).  So what a controller gets without an error
was returned by the handler of the device it named (`answers_come_from_handlers`).
-/

namespace GrpcRelay

/-! ## Messages on a device stream -/

/-- The message that the stream has read and not handled. -/
def DevPc.inbound : DevPc → Option DeviceMessage
  | .touching msg | .handling msg => some msg
  | _ => none

/-- The responses of the `Data` messages that stream `i` has handled. -/
def Event.dataOn (i : ℕ) : Event → Option DataResponse
  | .data i' _ response => if i' = i then some response else none
  | _ => none

/-- The answers that the relay has read on a stream. -/
def dataOn (i : ℕ) (events : List Event) : List DataResponse := events.filterMap (Event.dataOn i)

namespace Device

variable {cfg : Config} {sh : Shared} {n i : ℕ} {l : Device} {input : DevInput} {next : Next Device}
  {msg : DeviceMessage}

theorem inbound_of_handle : (handle sh n i l msg).loc.pc.inbound = none := by
  unfold handle register heartbeat data
  repeat' split
  all_goals rfl

/-- A stream has a message to handle because it reads it or is about to note its arrival. -/
theorem inbound_of_step (h : step cfg sh n i l input = some next)
    (inbound : next.loc.pc.inbound = some msg) : input = .recv msg ∨ l.pc = .touching msg := by
  cases input with
  | recv m =>
    simp only [step] at h
    split at h <;> cases h
    unfold receive at inbound
    split_ifs at inbound
    all_goals
      obtain rfl : m = msg := by simpa [DevPc.inbound, goto] using inbound
      exact .inl rfl
  | recvError | eof | timeout =>
    simp only [step] at h
    split at h <;> cases h
    cases inbound
  | health isHealthy =>
    simp only [step] at h
    split at h <;> cases h
    split_ifs at inbound <;> cases inbound
  | visit key =>
    simp only [step] at h
    split at h
    · unfold visit at h
      split at h
      · cases h
      · split_ifs at h
        cases h
        cases inbound
    · cases h
  | tick =>
    simp only [step] at h
    split at h
    case h_1 m at_pc =>
      cases h
      obtain rfl : m = msg := by simpa [DevPc.inbound, goto] using inbound
      exact .inr at_pc
    case h_2 m at_pc =>
      cases h
      simp [inbound_of_handle] at inbound
    all_goals cases h
    all_goals
      simp only [allowDevice, number, resume, install, unlink, link, close, sweep, drain, notify,
        inspect, verify, removeSession, removeConnection, removeLastSeen] at inbound
      repeat' split at inbound
      all_goals cases inbound

/-- A `Data` message counts when the stream handles it. -/
theorem data_of_handle {i' : ℕ} {d : String} {response : DataResponse}
    (h : .data i' d response ∈ (handle sh n i l msg).events) :
    i' = i ∧ l.currentDeviceId = some d ∧ msg.payload = some (.data response) ∧
      dataOn i (handle sh n i l msg).events = [response] := by
  unfold handle at h ⊢
  split_ifs at h ⊢
  · split at h
    · unfold register at h
      split at h <;> simp at h
    · unfold heartbeat at h
      split at h <;> simp at h
    · rename_i response' payload
      unfold Device.data at h ⊢
      split at h
      · simp at h
      · rename_i deviceId identity
        split at h
        · rename_i taken
          obtain ⟨rfl, rfl, rfl⟩ : i' = i ∧ d = deviceId ∧ response = response' := by simpa using h
          exact ⟨rfl, identity, payload, by simp [dataOn, Event.dataOn]⟩
        · rename_i taken
          obtain ⟨rfl, rfl, rfl⟩ : i' = i ∧ d = deviceId ∧ response = response' := by simpa using h
          exact ⟨rfl, identity, payload, by simp [dataOn, Event.dataOn]⟩
    · simp at h
  · simp at h

theorem data_of_step (h : step cfg sh n i l input = some next) {i' : ℕ} {d : String}
    {response : DataResponse} (data : .data i' d response ∈ next.events) :
    i' = i ∧ l.currentDeviceId = some d ∧ dataOn i next.events = [response] ∧
      next.loc.pc.inbound = none ∧
      ∃ msg, l.pc = .handling msg ∧ msg.payload = some (.data response) := by
  obtain ⟨msg, at_pc⟩ : ∃ msg, l.pc = .handling msg := by
    cases moves_of_step h with
    | answered msg _ _ _ at_pc | unasked msg _ _ at_pc => exact ⟨msg, at_pc⟩
    | silent _ _ _ _ _ _ _ _ plain _ => cases plain _ data
    | _ => simp at data
  cases input with
  | tick =>
    simp only [step, at_pc, Option.some.injEq] at h
    subst h
    obtain ⟨own, identity, payload, only⟩ := data_of_handle data
    exact ⟨own, identity, only, inbound_of_handle, msg, at_pc, payload⟩
  | _ => simp [step, at_pc] at h

/-- A `Register` is accepted when the stream handles it. -/
theorem authenticated_of_step (h : step cfg sh n i l input = some next) {i' : ℕ}
    {d token : String} {auth : AuthService}
    (accepted : .deviceAuthenticated i' d token auth ∈ next.events) :
    i' = i ∧ ∃ msg, l.pc = .handling msg ∧ msg.deviceId = d := by
  cases moves_of_step h with
  | authenticated msg _ _ at_pc =>
    obtain ⟨rfl, rfl, -⟩ : i' = i ∧ d = msg.deviceId ∧ _ := by simpa using accepted
    exact ⟨rfl, msg, at_pc, rfl⟩
  | silent _ _ _ _ _ _ _ _ plain _ => cases plain _ accepted
  | _ => simp at accepted

end Device

namespace DeviceSdk

/-! ## What a client sends -/

/-- A response is what the client makes of a request: the rejection of a payload over the limit, or
what the handler returned. -/
def Answers (config : Config) (notes : List Note) (request : DataRequest)
    (response : DataResponse) : Prop :=
  (config.accepts request = false ∧ response = rejection request) ∨
    (config.accepts request = true ∧ ∃ result, (request, result) ∈ handled notes ∧
      result.response request = some response)

variable {config : Config} {request : RegisterRequest} {notes : List Note} {c : Connection}

/-- A response carries the connection id and the sequence number of its request. -/
theorem Answers.same {q : DataRequest} {r : DataResponse} (h : Answers config notes q r) :
    r.connectionId = q.connectionId ∧ r.sequenceNumber = q.sequenceNumber := by
  rcases h with ⟨-, rfl⟩ | ⟨-, result, -, response⟩
  · exact ⟨rfl, rfl⟩
  · cases result <;> cases response <;> exact ⟨rfl, rfl⟩

theorem Answers.append {q : DataRequest} {r : DataResponse} (h : Answers config notes q r)
    (more : List Note) : Answers config (notes ++ more) q r := by
  refine h.imp id fun ⟨accepts, result, called, response⟩ => ⟨accepts, result, ?_, response⟩
  rw [handled, List.filterMap_append]
  exact List.mem_append_left _ called

theorem answers_of_answered (run : Run config request notes c) {q : DataRequest}
    {r : DataResponse} (h : (q, r) ∈ answered notes) :
    Answers config notes q r ∧ q ∈ received notes := by
  have accounted := accounted_of_run run
  have asked : q ∈ received notes := by
    refine accounted.requests.mem_iff.2 (List.mem_append_left _ (List.mem_append_left _ ?_))
    exact List.mem_map.2 ⟨_, h, rfl⟩
  refine ⟨?_, asked⟩
  have source := accounted.answers.mem_iff.2
    (List.mem_append_left _ (List.mem_append_left _ h))
  rcases List.mem_append.1 source with source | source
  · obtain ⟨⟨q', result⟩, called, answer⟩ := List.mem_flatMap.1 source
    simp only [List.mem_map, Option.mem_toList, Prod.mk.injEq] at answer
    obtain ⟨r', answer, rfl, rfl⟩ := answer
    have within := accounted.calls.mem_iff.2
      (List.mem_append_left _ (List.mem_map.2 ⟨_, called, rfl⟩))
    exact .inr ⟨(List.mem_filter.1 within).2, result, called, answer⟩
  · obtain ⟨q', large, same⟩ := List.mem_map.1 source
    obtain ⟨rfl, rfl⟩ := Prod.mk.inj same
    exact .inl ⟨by simpa using (List.mem_filter.1 large).2, rfl⟩

/-- Every message that the transport takes has the id of the device. -/
theorem deviceId_of_delivered (run : Run config request notes c) {m : DeviceMessage}
    (h : m ∈ delivered notes) : m.deviceId = config.deviceId := by
  have streams := (accounted_of_run run).streams
  have sent : m ∈ queued notes := streams.delivery.subset (List.mem_append_left _ h)
  rcases streams.opening with ⟨none, -⟩ | ⟨-, rest, opening, follows⟩
  · simp [none] at sent
  · rw [opening, List.mem_cons] at sent
    rcases sent with rfl | sent
    · rfl
    · rcases follows m sent with rfl | ⟨response, rfl⟩ <;> rfl

/-- The responses that the transport takes are the first answers. -/
theorem delivered_responses (run : Run config request notes c) :
    (delivered notes).filterMap responseOf <+: (answered notes).map Prod.snd := by
  have streams := (accounted_of_run run).streams
  rw [← streams.responses]
  exact ((List.prefix_append _ _).trans streams.delivery).filterMap _

/-- A client receives a request when it reads it. -/
theorem received_of_step {a : Action} {c' : Connection} (h : step config c a = some c') :
    received (emit config c a c') =
      match a with
      | .receive (some (.dataRequest q)) => [q]
      | _ => [] := by
  generalize noted : emit config c a c' = more
  have move := moves_of_step h
  rw [noted] at move
  cases move with
  | finish place => simp [received, List.filterMap_map]
  | ignored place other => rcases other with rfl | rfl <;> rfl
  | _ => rfl

end DeviceSdk

namespace Fleet

open DeviceSdk (Connection Note Answers received delivered answered handled responseOf)

/-! ## The joint system -/

/-- The configurations, and what each client registers with. -/
structure Setting where
  relay : Config
  client : ℕ → DeviceSdk.Config
  request : ℕ → RegisterRequest

/-- The relay and the client of each device stream.  `read` counts the messages that a client has
read of its stream, `heard` those that the relay has read of it. -/
structure World where
  relay : State
  clients : ℕ → Connection
  notes : ℕ → List Note
  read : ℕ → ℕ
  heard : ℕ → ℕ

/-- The messages that the relay puts on the outbound channel of stream `i`. -/
def outboundOn (i : ℕ) : Event → Option DeviceSdk.RelayPayload
  | .relayed i' (.registerResponse cid resumed) =>
    if i' = i then some (.registerResponse cid resumed) else none
  | .relayed i' .heartbeatResponse => if i' = i then some .heartbeatResponse else none
  | .placed _ i' _ request => if i' = i then some (.dataRequest request) else none
  | _ => none

/-- A step of the relay or of a client. -/
inductive Action where
  /-- A step of the relay that reads no message of a device. -/
  | relay (a : GrpcRelay.Action)
  /-- The relay reads the next message of stream `i`. -/
  | hear (i : ℕ)
  /-- A step of client `i` that reads no message of the relay. -/
  | client (i : ℕ) (a : DeviceSdk.Action)
  /-- Client `i` reads the next message of its stream. -/
  | read (i : ℕ)

/-- The step reads a message of a device. -/
def hears : GrpcRelay.Action → Bool
  | .dev _ (.recv _) => true
  | _ => false

/-- The step reads a message of the relay. -/
def reads : DeviceSdk.Action → Bool
  | .receive _ => true
  | _ => false

/-- A step of client `i`. -/
def World.client (cfg : Setting) (w : World) (i : ℕ) (a : DeviceSdk.Action) : Option World :=
  (DeviceSdk.step (cfg.client i) (w.clients i) a).map fun c =>
    { w with
      clients := Function.update w.clients i c
      notes := Function.update w.notes i
        (w.notes i ++ DeviceSdk.emit (cfg.client i) (w.clients i) a c) }

/-- One step; a message is read only after it was sent. -/
def step (cfg : Setting) (w : World) : Action → Option World
  | .relay a =>
    if hears a then none
    else (GrpcRelay.step cfg.relay w.relay a).map fun s => { w with relay := s }
  | .hear i =>
    (delivered (w.notes i))[w.heard i]?.bind fun m =>
      (GrpcRelay.step cfg.relay w.relay (.dev i (.recv m))).map fun s =>
        { w with relay := s, heard := Function.update w.heard i (w.heard i + 1) }
  | .client i a => if reads a then none else w.client cfg i a
  | .read i =>
    (w.relay.trace.filterMap (outboundOn i))[w.read i]?.bind fun p =>
      (w.client cfg i (.receive (some p))).map fun w =>
        { w with read := Function.update w.read i (w.read i + 1) }

/-- Nothing is sent or read yet. -/
def init (cfg : Setting) : World where
  relay := State.init cfg.relay
  clients := fun i => .start (cfg.request i)
  notes := fun _ => []
  read := fun _ => 0
  heard := fun _ => 0

/-- The worlds of all runs. -/
def Reachable (cfg : Setting) (w : World) : Prop :=
  Runs.Reach (step cfg) (fun _ _ => True) (init cfg) w

/-- The requests that were put on the outbound channel of stream `i`. -/
def placedOn (i : ℕ) : Event → Option DataRequest
  | .placed _ i' _ request => if i' = i then some request else none
  | _ => none

/-- The request that a message of the relay carries. -/
def requestOf : DeviceSdk.RelayPayload → Option DataRequest
  | .dataRequest request => some request
  | _ => none

theorem requestOf_outboundOn (i : ℕ) (e : Event) :
    (outboundOn i e).bind requestOf = placedOn i e := by
  cases e with
  | relayed i' m =>
    cases m <;> simp only [outboundOn, placedOn] <;> split_ifs <;> rfl
  | placed c i' m request =>
    simp only [outboundOn, placedOn]
    split_ifs <;> rfl
  | _ => rfl

/-! ## The events of a step of the relay -/

section Events

variable {cfg : Config} {s s' : State} {a : GrpcRelay.Action} {events : List Event}

/-- What a device sends, and what it registers as, is noted in a step of its stream. -/
def FromDevice : Event → Prop
  | .data .. | .deviceAuthenticated .. => True
  | _ => False

theorem dev_of_step (hs : GrpcRelay.step cfg s a = some s') (trace : s'.trace = s.trace ++ events)
    {e : Event} (he : e ∈ events) (own : FromDevice e) :
    ∃ i input next, a = .dev i input ∧
      Device.step cfg s.shared s.trace.length i (s.dev i) input = some next ∧
      s' = s.afterDev i next ∧ e ∈ next.events := by
  by_cases dev : ∃ i input, a = .dev i input
  · obtain ⟨i, input, rfl⟩ := dev
    obtain ⟨next, hn, rfl⟩ := Option.map_eq_some_iff.1 hs
    obtain rfl := List.append_cancel_left trace
    exact ⟨i, input, next, rfl, hn, rfl, he⟩
  · refine absurd own ?_
    cases step_cases hs with
    | ctrl c input next move =>
      obtain rfl := List.append_cancel_left trace
      cases Controller.events_of_moves move e he <;> exact id
    | dev i input => exact absurd ⟨i, input, rfl⟩ dev
    | ambient _ sh' reaper' events' _ _ _ _ _ _ plain _ =>
      obtain rfl := List.append_cancel_left trace
      cases plain e he <;> exact id
    | fired =>
      obtain rfl := List.append_cancel_left trace
      simp only [List.mem_cons, List.not_mem_nil, or_false] at he
      rcases he with rfl | rfl <;> exact id
    | completed | evicted =>
      obtain rfl := List.append_cancel_left trace
      exact List.mem_singleton.1 he ▸ id
    | firedLate =>
      obtain rfl := List.append_cancel_left trace
      cases he

theorem dataOn_append (i : ℕ) (past events : List Event) :
    dataOn i (past ++ events) = dataOn i past ++ dataOn i events :=
  List.filterMap_append

theorem dataOn_eq_nil {i : ℕ} (h : ∀ d response, .data i d response ∉ events) :
    dataOn i events = [] := by
  refine List.filterMap_eq_nil_iff.2 fun e he => ?_
  cases e with
  | data i' d response =>
    refine if_neg fun own => ?_
    exact h d response (own ▸ he)
  | _ => rfl

/-- The response in a message that the step reads on stream `i`. -/
def heardOn (i : ℕ) : GrpcRelay.Action → List DataResponse
  | .dev i' (.recv m) => if i' = i then (responseOf m).toList else []
  | _ => []

/-- The responses that stream `i` has handled, and the one it has read. -/
def takenOn (i : ℕ) (s : State) : List DataResponse :=
  dataOn i s.trace ++ (s.dev i).pc.inbound.toList.filterMap responseOf

/-- A stream's own step. -/
theorem taken_of_own {i : ℕ} {input : DevInput} {next : Next Device}
    (hn : Device.step cfg s.shared s.trace.length i (s.dev i) input = some next) :
    (takenOn i (s.afterDev i next)).Sublist (takenOn i s ++ heardOn i (.dev i input)) := by
  have trace : (s.afterDev i next).trace = s.trace ++ next.events := rfl
  have loc : (s.afterDev i next).dev i = next.loc := by simp [State.afterDev]
  rw [takenOn, takenOn, trace, loc, dataOn_append, List.append_assoc, List.append_assoc]
  refine .append (.refl _) ?_
  by_cases data : ∃ d response, .data i d response ∈ next.events
  · obtain ⟨d, response, data⟩ := data
    obtain ⟨-, -, only, inbound, msg, at_pc, payload⟩ := Device.data_of_step hn data
    rw [only, inbound, at_pc]
    simp [DevPc.inbound, responseOf, payload]
  · rw [dataOn_eq_nil fun d response h => data ⟨d, response, h⟩, List.nil_append]
    cases inbound : next.loc.pc.inbound with
    | none => exact List.nil_sublist _
    | some msg =>
      rcases Device.inbound_of_step hn inbound with rfl | at_pc
      · cases h : responseOf msg <;> simp [heardOn, h]
      · rw [at_pc]
        exact List.sublist_append_left _ _

/-- What a stream has handled and read grows by what it reads. -/
theorem taken_of_step (hs : GrpcRelay.step cfg s a = some s') (i : ℕ) :
    (takenOn i s').Sublist (takenOn i s ++ heardOn i a) := by
  by_cases own : ∃ input, a = .dev i input
  · obtain ⟨input, rfl⟩ := own
    obtain ⟨next, hn, rfl⟩ := Option.map_eq_some_iff.1 hs
    exact taken_of_own hn
  · obtain ⟨events, trace⟩ := trace_of_cases (step_cases hs)
    have none : dataOn i events = [] := by
      refine dataOn_eq_nil fun d response h => ?_
      obtain ⟨i', input, next, rfl, hn, -, data⟩ := dev_of_step hs trace h trivial
      exact own ⟨input, by rw [(Device.data_of_step hn data).1]⟩
    have same : s'.dev i = s.dev i := by
      cases step_cases hs with
      | dev i' input next move =>
        have other : i ≠ i' := fun h => own ⟨input, by rw [h]⟩
        simp [State.afterDev, other]
      | _ => rfl
    rw [takenOn, trace, dataOn_append, none, List.append_nil, same]
    exact List.sublist_append_left _ _

theorem inbound_of_relay (hs : GrpcRelay.step cfg s a = some s') {i : ℕ} {msg : DeviceMessage}
    (inbound : (s'.dev i).pc.inbound = some msg) :
    (s.dev i).pc.inbound = some msg ∨ a = .dev i (.recv msg) := by
  by_cases own : ∃ input, a = .dev i input
  · obtain ⟨input, rfl⟩ := own
    obtain ⟨next, hn, rfl⟩ := Option.map_eq_some_iff.1 hs
    simp only [State.afterDev, Function.update_self] at inbound
    rcases Device.inbound_of_step hn inbound with rfl | at_pc
    · exact .inr rfl
    · exact .inl (by rw [at_pc]; rfl)
  · refine .inl ?_
    cases step_cases hs with
    | dev i' input next move =>
      have other : i ≠ i' := fun h => own ⟨input, by rw [h]⟩
      simpa [State.afterDev, other] using inbound
    | _ => exact inbound

end Events

/-! ## What both sides know of each other -/

/-- A `Data` message that the relay has read on stream `i` answers a request on that stream. -/
def Asked (cfg : Setting) (notes : ℕ → List Note) (past : List Event) : Event → Prop
  | .data i d response => ∃ c m request, .placed c i m request ∈ past ∧
      m.key = (d, response.sequenceNumber) ∧ request.encryptedPayload = m.encryptedPayload ∧
      Answers (cfg.client i) (notes i) request response
  | _ => True

/-- The queues between the relay and its clients. -/
structure Coupled (cfg : Setting) (w : World) : Prop where
  relay : GrpcRelay.Reachable cfg.relay w.relay
  clients : ∀ i, DeviceSdk.Run (cfg.client i) (cfg.request i) (w.notes i) (w.clients i)
  read : ∀ i, w.read i ≤ (w.relay.trace.filterMap (outboundOn i)).length
  received : ∀ i, received (w.notes i) =
    ((w.relay.trace.filterMap (outboundOn i)).take (w.read i)).filterMap requestOf
  heard : ∀ i, w.heard i ≤ (delivered (w.notes i)).length
  inbound : ∀ i msg, (w.relay.dev i).pc.inbound = some msg → msg ∈ delivered (w.notes i)
  authenticated : ∀ i d token auth, .deviceAuthenticated i d token auth ∈ w.relay.trace →
    d = (cfg.client i).deviceId
  taken : ∀ i, (takenOn i w.relay).Sublist
    (((delivered (w.notes i)).take (w.heard i)).filterMap responseOf)
  asked : History.Justified (Asked cfg w.notes) w.relay.trace

theorem Asked.append {cfg : Setting} {notes : ℕ → List Note} {past : List Event} {e : Event}
    (h : Asked cfg notes past e) (more : List Event) : Asked cfg notes (past ++ more) e := by
  cases e with
  | data i d response =>
    obtain ⟨c, m, request, placed, rest⟩ := h
    exact ⟨c, m, request, List.mem_append_left _ placed, rest⟩
  | _ => trivial

theorem Asked.grow {cfg : Setting} {notes notes' : ℕ → List Note} {past : List Event} {e : Event}
    (h : Asked cfg notes past e) (grows : ∀ i, ∃ more, notes' i = notes i ++ more) :
    Asked cfg notes' past e := by
  cases e with
  | data i d response =>
    obtain ⟨c, m, request, placed, key, payload, answers⟩ := h
    obtain ⟨more, grown⟩ := grows i
    exact ⟨c, m, request, placed, key, payload, grown ▸ answers.append more⟩
  | _ => trivial

theorem coupled_init (cfg : Setting) : Coupled cfg (init cfg) where
  relay := .start
  clients := fun _ => .start
  read := fun _ => Nat.zero_le _
  received := fun _ => rfl
  heard := fun _ => Nat.zero_le _
  inbound := by simp [init, State.init, DevPc.inbound]
  authenticated := by simp [init, State.init]
  taken := fun _ => .refl _
  asked := History.justified_nil

section Steps

variable {cfg : Setting} {w w' : World}

namespace Coupled

variable (C : Coupled cfg w)

include C

/-- A stream has been accepted as nothing but the device of its client. -/
theorem identity {i : ℕ} {d : String} (h : (w.relay.dev i).currentDeviceId = some d) :
    d = (cfg.client i).deviceId := by
  rw [(registry_of_reachable C.relay).identity i, Option.map_eq_some_iff] at h
  obtain ⟨⟨d', token, auth⟩, accepted, rfl⟩ := h
  obtain ⟨e, he, read⟩ := History.exists_of_latest accepted
  cases e with
  | deviceAuthenticated i' d'' token' auth' =>
    simp only [Event.accepted] at read
    split_ifs at read with own
    obtain ⟨rfl, -⟩ := Prod.mk.inj (Option.some.inj read)
    exact C.authenticated i d'' token' auth' (own ▸ he)
  | _ => cases read

/-- A request that is placed on a stream is made of a message for the device of the stream. -/
theorem of_placed {past later : List Event} {c i : ℕ} {m : ControllerMessage} {q : DataRequest}
    (split : w.relay.trace = past ++ .placed c i m q :: later) :
    .pulled c m ∈ past ∧ m.key = ((cfg.client i).deviceId, q.sequenceNumber) ∧
      q.encryptedPayload = m.encryptedPayload := by
  obtain ⟨pulled, seq, payload, -⟩ := forwardable_of_reachable C.relay past _ later split
  obtain ⟨token, auth, accepted, -⟩ := identified_of_reachable C.relay past _ later split
  have own := C.authenticated i _ token auth (split ▸ List.mem_append_left _ accepted)
  exact ⟨pulled, by rw [ControllerMessage.key, own, seq], payload⟩

/-- A request that a client has received was placed on its stream. -/
theorem placed_of_received {i : ℕ} {q : DataRequest}
    (h : q ∈ DeviceSdk.received (w.notes i)) : ∃ c m, .placed c i m q ∈ w.relay.trace := by
  rw [C.received i] at h
  obtain ⟨p, hp, hq⟩ := List.mem_filterMap.1 h
  obtain ⟨e, he, hout⟩ := List.mem_filterMap.1 (List.mem_of_mem_take hp)
  have placed : placedOn i e = some q := by rw [← requestOf_outboundOn, hout]; exact hq
  cases e with
  | placed c i' m request =>
    simp only [placedOn] at placed
    split_ifs at placed with own
    cases placed
    exact ⟨c, m, own ▸ he⟩
  | _ => cases placed

/-- The `Data` message that a stream handles answers a request on it. -/
theorem asked_of_inbound {i : ℕ} {msg : DeviceMessage} {d : String} {response : DataResponse}
    (inbound : (w.relay.dev i).pc.inbound = some msg)
    (payload : msg.payload = some (.data response))
    (identity : (w.relay.dev i).currentDeviceId = some d) :
    Asked cfg w.notes w.relay.trace (.data i d response) := by
  have run := C.clients i
  have sent : response ∈ (answered (w.notes i)).map Prod.snd := by
    refine (DeviceSdk.delivered_responses run).subset (List.mem_filterMap.2 ⟨msg, ?_, ?_⟩)
    · exact C.inbound i msg inbound
    · simp [responseOf, payload]
  obtain ⟨⟨q, response⟩, answer, rfl⟩ := List.mem_map.1 sent
  obtain ⟨answers, asked⟩ := DeviceSdk.answers_of_answered run answer
  obtain ⟨c, m, placed⟩ := C.placed_of_received asked
  obtain ⟨past, later, split⟩ := List.append_of_mem placed
  obtain ⟨-, key, same⟩ := C.of_placed split
  refine ⟨c, m, q, placed, ?_, same, answers⟩
  rw [key, C.identity identity, answers.same.2]

/-- A step of the relay, after which the relay has read `heard i` messages of each client. -/
theorem of_relay {a : GrpcRelay.Action} {s : State} {heard : ℕ → ℕ}
    (hs : GrpcRelay.step cfg.relay w.relay a = some s)
    (bound : ∀ i, heard i ≤ (delivered (w.notes i)).length)
    (inbound : ∀ i msg, (s.dev i).pc.inbound = some msg → msg ∈ delivered (w.notes i))
    (taken : ∀ i, (takenOn i s).Sublist
      (((delivered (w.notes i)).take (heard i)).filterMap responseOf)) :
    Coupled cfg { w with relay := s, heard := heard } := by
  obtain ⟨events, trace⟩ := trace_of_cases (step_cases hs)
  refine ⟨.next a C.relay trivial hs, C.clients, fun i => ?_, fun i => ?_, bound, inbound, ?_,
    taken, ?_⟩
  · rw [trace, List.filterMap_append, List.length_append]
    exact (C.read i).trans (Nat.le_add_right _ _)
  · rw [C.received i, trace, List.filterMap_append, List.take_append_of_le_length (C.read i)]
  · intro i d token auth h
    rw [trace, List.mem_append] at h
    rcases h with h | h
    · exact C.authenticated i d token auth h
    · obtain ⟨i', input, next, rfl, hn, -, accepted⟩ := dev_of_step hs trace h trivial
      obtain ⟨rfl, msg, at_pc, rfl⟩ := Device.authenticated_of_step hn accepted
      exact DeviceSdk.deviceId_of_delivered (C.clients i)
        (C.inbound i msg (by rw [at_pc]; rfl))
  · rw [trace]
    refine C.asked.append fun past e later split => ?_
    cases e with
    | data i d response =>
      have he : .data i d response ∈ events := by simp [split]
      obtain ⟨i', input, next, rfl, hn, -, data⟩ := dev_of_step hs trace he trivial
      obtain ⟨rfl, identity, -, -, msg, at_pc, payload⟩ := Device.data_of_step hn data
      have asked := C.asked_of_inbound (by rw [at_pc]; rfl) payload identity
      exact asked.append past
    | _ => trivial

theorem of_hear {i : ℕ} {m : DeviceMessage} {s : State}
    (next : (delivered (w.notes i))[w.heard i]? = some m)
    (hs : GrpcRelay.step cfg.relay w.relay (.dev i (.recv m)) = some s) :
    Coupled cfg { w with relay := s, heard := Function.update w.heard i (w.heard i + 1) } := by
  have room : w.heard i < (delivered (w.notes i)).length := (List.getElem?_eq_some_iff.1 next).1
  refine C.of_relay hs (fun i' => ?_) (fun i' msg h => ?_) (fun i' => ?_)
  · by_cases own : i' = i
    · subst own
      rw [Function.update_self]
      exact room
    · rw [Function.update_of_ne own]
      exact C.heard i'
  · rcases inbound_of_relay hs h with h | h
    · exact C.inbound i' msg h
    · cases h
      exact List.mem_of_getElem? next
  · have grown := taken_of_step hs i'
    by_cases own : i' = i
    · subst own
      rw [Function.update_self, List.take_add_one, next, List.filterMap_append]
      refine grown.trans (.append (C.taken i') ?_)
      cases h : responseOf m <;> simp [heardOn, h]
    · rw [Function.update_of_ne own]
      refine grown.trans ?_
      rw [heardOn, if_neg (Ne.symm own), List.append_nil]
      exact C.taken i'

theorem of_free {a : GrpcRelay.Action} {s : State} (free : hears a = false)
    (hs : GrpcRelay.step cfg.relay w.relay a = some s) : Coupled cfg { w with relay := s } := by
  have silent (i : ℕ) : heardOn i a = [] := by
    cases a with
    | dev i' input =>
      cases input with
      | recv m => cases free
      | _ => rfl
    | _ => rfl
  refine C.of_relay hs C.heard (fun i msg h => ?_) (fun i => ?_)
  · rcases inbound_of_relay hs h with h | rfl
    · exact C.inbound i msg h
    · cases free
  · have grown := taken_of_step hs i
    rw [silent i, List.append_nil] at grown
    exact grown.trans (C.taken i)

/-- A step of client `i`, after which it has read `read` messages of its stream. -/
theorem of_client {i : ℕ} {a : DeviceSdk.Action} {c : Connection} {read : ℕ → ℕ}
    (hs : DeviceSdk.step (cfg.client i) (w.clients i) a = some c)
    (others : ∀ i', i' ≠ i → read i' = w.read i')
    (bound : read i ≤ (w.relay.trace.filterMap (outboundOn i)).length)
    (received : DeviceSdk.received
        (w.notes i ++ DeviceSdk.emit (cfg.client i) (w.clients i) a c) =
      ((w.relay.trace.filterMap (outboundOn i)).take (read i)).filterMap requestOf) :
    Coupled cfg { w with
      clients := Function.update w.clients i c
      notes := Function.update w.notes i
        (w.notes i ++ DeviceSdk.emit (cfg.client i) (w.clients i) a c)
      read := read } := by
  have grows (i' : ℕ) : ∃ more, Function.update w.notes i
      (w.notes i ++ DeviceSdk.emit (cfg.client i) (w.clients i) a c) i' = w.notes i' ++ more := by
    by_cases own : i' = i
    · subst own
      exact ⟨_, Function.update_self ..⟩
    · exact ⟨[], by rw [Function.update_of_ne own, List.append_nil]⟩
  refine ⟨C.relay, fun i' => ?_, fun i' => ?_, fun i' => ?_, fun i' => ?_, fun i' msg h => ?_,
    C.authenticated, fun i' => ?_, ?_⟩
  · by_cases own : i' = i
    · subst own
      simp only [Function.update_self]
      exact .next a (C.clients i') trivial hs
    · simp only [Function.update_of_ne own]
      exact C.clients i'
  · by_cases own : i' = i
    · exact own ▸ bound
    · simp only [others i' own]
      exact C.read i'
  · by_cases own : i' = i
    · subst own
      simp only [Function.update_self]
      exact received
    · simp only [Function.update_of_ne own, others i' own]
      exact C.received i'
  · obtain ⟨more, grown⟩ := grows i'
    simp only [grown, DeviceSdk.delivered_append, List.length_append]
    exact (C.heard i').trans (Nat.le_add_right _ _)
  · obtain ⟨more, grown⟩ := grows i'
    simp only [grown, DeviceSdk.delivered_append]
    exact List.mem_append_left _ (C.inbound i' msg h)
  · obtain ⟨more, grown⟩ := grows i'
    simp only [grown, DeviceSdk.delivered_append]
    rw [List.take_append_of_le_length (C.heard i')]
    exact C.taken i'
  · intro past e later split
    exact (C.asked past e later split).grow grows

theorem step {a : Action} (hs : Fleet.step cfg w a = some w') : Coupled cfg w' := by
  cases a with
  | relay a =>
    simp only [Fleet.step] at hs
    split_ifs at hs with free
    obtain ⟨s, taken, rfl⟩ := Option.map_eq_some_iff.1 hs
    exact C.of_free (by simpa using free) taken
  | hear i =>
    obtain ⟨m, next, heard⟩ := Option.bind_eq_some_iff.1 hs
    obtain ⟨s, taken, rfl⟩ := Option.map_eq_some_iff.1 heard
    exact C.of_hear next taken
  | client i a =>
    simp only [Fleet.step] at hs
    split_ifs at hs with other
    obtain ⟨c, taken, rfl⟩ := Option.map_eq_some_iff.1 hs
    refine C.of_client taken (fun _ _ => rfl) (C.read i) ?_
    have none : DeviceSdk.received (DeviceSdk.emit (cfg.client i) (w.clients i) a c) = [] := by
      rw [DeviceSdk.received_of_step taken]
      cases a with
      | receive p => exact absurd rfl other
      | _ => rfl
    rw [DeviceSdk.received_append, none, List.append_nil]
    exact C.received i
  | read i =>
    obtain ⟨p, next, client⟩ := Option.bind_eq_some_iff.1 hs
    obtain ⟨w₁, ran, rfl⟩ := Option.map_eq_some_iff.1 client
    obtain ⟨c, taken, rfl⟩ := Option.map_eq_some_iff.1 ran
    refine C.of_client taken (fun i' other => Function.update_of_ne other _ _) ?_ ?_
    · rw [Function.update_self]
      exact (List.getElem?_eq_some_iff.1 next).1
    · rw [Function.update_self, List.take_add_one, next, List.filterMap_append,
        DeviceSdk.received_append, C.received i, DeviceSdk.received_of_step taken]
      cases p <;> rfl

end Coupled

end Steps

theorem coupled_of_reachable {cfg : Setting} {w : World} (h : Reachable cfg w) : Coupled cfg w := by
  refine h.invariant (coupled_init cfg) ?_
  intro w a w' _ C _ hs
  exact C.step hs

/-! ## Requests and answers, end to end -/

section Results

variable {cfg : Setting} {w : World}

/-- The `Data` messages that a stream has handled answer requests of their own. -/
theorem Coupled.answersOn (C : Coupled cfg w) (i : ℕ) :
    ∃ answers : List (DataRequest × DataResponse), dataOn i w.relay.trace = answers.map Prod.snd ∧
      (answers.map Prod.fst).Subperm (w.relay.trace.filterMap (placedOn i)) ∧
      ∀ x ∈ answers, Answers (cfg.client i) (w.notes i) x.1 x.2 := by
  have run := C.clients i
  have sent : (dataOn i w.relay.trace).Sublist ((answered (w.notes i)).map Prod.snd) :=
    calc (dataOn i w.relay.trace).Sublist (takenOn i w.relay) := List.sublist_append_left _ _
      List.Sublist _ (((delivered (w.notes i)).take (w.heard i)).filterMap responseOf) := C.taken i
      List.Sublist _ ((delivered (w.notes i)).filterMap responseOf) :=
        (List.take_sublist _ _).filterMap _
      List.Sublist _ ((answered (w.notes i)).map Prod.snd) :=
        (DeviceSdk.delivered_responses run).sublist
  obtain ⟨answers, sub, data⟩ := List.sublist_map_iff.1 sent
  refine ⟨answers, data, ?_, fun x hx => (DeviceSdk.answers_of_answered run (sub.subset hx)).1⟩
  have asked : ((answered (w.notes i)).map Prod.fst).Subperm (DeviceSdk.received (w.notes i)) := by
    refine .trans ?_ (DeviceSdk.accounted_of_run run).requests.symm.subperm
    rw [List.append_assoc]
    exact (List.sublist_append_left _ _).subperm
  have placed : (DeviceSdk.received (w.notes i)).Sublist
      (w.relay.trace.filterMap (placedOn i)) := by
    have all : w.relay.trace.filterMap (placedOn i) =
        (w.relay.trace.filterMap (outboundOn i)).filterMap requestOf := by
      rw [List.filterMap_filterMap]
      simp only [requestOf_outboundOn]
    rw [C.received i, all]
    exact (List.take_sublist _ _).filterMap _
  exact (sub.map _).subperm.trans (asked.trans placed.subperm)

/-- With clients of the SDK at the other ends, every `Data` message that the relay handles answers a
request that was put on the same stream before, for the device of the stream, with what the client
makes of it; and the messages of a stream answer different requests. -/
theorem devices_answer_what_they_are_asked (h : Reachable cfg w) :
    (∀ past later i d response, w.relay.trace = past ++ .data i d response :: later →
      ∃ c m request, .placed c i m request ∈ past ∧ m.key = (d, response.sequenceNumber) ∧
        request.encryptedPayload = m.encryptedPayload ∧
        Answers (cfg.client i) (w.notes i) request response) ∧
    ∀ i, ∃ answers : List (DataRequest × DataResponse),
      dataOn i w.relay.trace = answers.map Prod.snd ∧
      (answers.map Prod.fst).Subperm (w.relay.trace.filterMap (placedOn i)) ∧
      ∀ x ∈ answers, Answers (cfg.client i) (w.notes i) x.1 x.2 := by
  have C := coupled_of_reachable h
  exact ⟨fun past later i d response split => C.asked past _ later split, C.answersOn⟩

/-- Only a handler that returned makes an answer without an error. -/
theorem returned_of_ok {config : DeviceSdk.Config} {notes : List Note} {q : DataRequest}
    {response : DataResponse} (h : Answers config notes q response)
    (ok : response.error = ErrorCode.ok.toInt) :
    (q, .returned response.encryptedPayload) ∈ handled notes := by
  rcases h with ⟨-, rfl⟩ | ⟨-, result, called, answer⟩
  · exact absurd ok (by simp [DeviceSdk.rejection, ErrorCode.toInt])
  · cases result with
    | returned bytes =>
      cases answer
      exact called
    | failed =>
      cases answer
      exact absurd ok (by simp [ErrorCode.toInt])
    | panicked => cases answer

/-- A response without an error answers a message of the stream, and was returned by the handler of
the device it names for a message with the same number. -/
theorem Coupled.source_of_ok (C : Coupled cfg w) {past later : List Event} {c : ℕ} {r : Reply}
    (split : w.relay.trace = past ++ .answered c r :: later)
    (ok : r.resp.error = ErrorCode.ok.toInt) :
    ∃ own i c' m request, .pulled c own ∈ past ∧ own.key = r.resp.key ∧
      bindingOf c past = some own.binding ∧ (cfg.client i).deviceId = own.targetDeviceId ∧
      .pulled c' m ∈ past ∧ .placed c' i m request ∈ past ∧ m.key = own.key ∧
      request.encryptedPayload = m.encryptedPayload ∧
      (request, .returned r.resp.encryptedPayload) ∈ handled (w.notes i) := by
  have hr := C.relay
  have device : r.origin ≠ .relay := device_of_ok hr (c := c) (by rw [split]; simp) ok
  obtain ⟨own, pulled, key, binding⟩ := solicited_of_reachable hr past _ later split device
  have genuine : Genuine past r := identified_of_reachable hr past _ later split
  obtain ⟨before, after, i, response, rfl, reply⟩ := genuine.source device
  obtain ⟨c', m, request, placed, key', payload, answers⟩ := C.asked before
    (.data i r.resp.deviceId response) (after ++ .answered c r :: later) (by rw [split]; simp)
  have same : m.key = own.key := by
    rw [key', key, reply]
    rfl
  obtain ⟨b₁, b₂, rfl⟩ := List.append_of_mem placed
  have split' : w.relay.trace = b₁ ++ .placed c' i m request ::
      (b₂ ++ .data i r.resp.deviceId response :: (after ++ .answered c r :: later)) := by
    rw [split]
    simp
  obtain ⟨pulled', key'', -⟩ := C.of_placed split'
  refine ⟨own, i, c', m, request, pulled, key, binding, ?_, ?_, ?_, same, payload, ?_⟩
  · exact congrArg Prod.fst (key''.symm.trans same)
  · simp [pulled']
  · simp
  · have returned := returned_of_ok answers (by rw [← ok, reply]; rfl)
    rw [reply]
    exact returned

/-- A response without an error that a bound stream of a controller gets was returned by the handler
of the device it is bound to, for the payload of a request with the sequence number of the response
that was made of a message of a controller: of that one, if no two use a sequence number for the
same device. -/
theorem answers_come_from_handlers (h : Reachable cfg w) {past later : List Event} {c : ℕ}
    {r : Reply} {d controllerId methodName : String}
    (split : w.relay.trace = past ++ .answered c r :: later)
    (ok : r.resp.error = ErrorCode.ok.toInt)
    (bound : bindingOf c past = some (d, controllerId, methodName)) :
    ∃ i c' m request, (cfg.client i).deviceId = d ∧ .pulled c' m ∈ past ∧
      .placed c' i m request ∈ past ∧ m.key = (d, r.resp.sequenceNumber) ∧
      request.encryptedPayload = m.encryptedPayload ∧
      (request, .returned r.resp.encryptedPayload) ∈ handled (w.notes i) ∧
      (UniqueSequences w.relay.trace → m.controllerId = controllerId) := by
  obtain ⟨own, i, c', m, request, pulled, key, binding, device, pulled', placed, same, payload,
    returned⟩ := (coupled_of_reachable h).source_of_ok split ok
  have names : own.binding = (d, controllerId, methodName) :=
    Option.some.inj (binding.symm.trans bound)
  have target : own.targetDeviceId = d := congrArg (·.1) names
  refine ⟨i, c', m, request, device.trans target, pulled', placed, ?_, payload, returned,
    fun unique => ?_⟩
  · have number : own.sequenceNumber = r.resp.sequenceNumber := congrArg Prod.snd key
    exact same.trans (Prod.ext target number)
  · have mem (e : Event) (he : e ∈ past) : e ∈ w.relay.trace := by
      rw [split]
      exact List.mem_append_left _ he
    have one := unique c' c m own (mem _ pulled') (mem _ pulled) same
    exact one.trans (congrArg (·.2.1) names)

end Results

/-! ### A concrete run -/

namespace Small

/-- The small relay, and a device that takes payloads of at most two bytes. -/
def setting : Setting where
  relay := GrpcRelay.Small.config
  client := fun _ => { tcpAddr := "relay", deviceId := "d", token := "t", maxPayloadBytes := 2 }
  request := fun _ => ⟨"d", [], ""⟩

/-- The device registers, is asked by a controller, and answers after its handler has returned. -/
def askedRun : List Action :=
  [.client 0 .register, .client 0 .take, .hear 0] ++
    (GrpcRelay.Small.devTicks 0 2 ++ GrpcRelay.Action.dev 0 (.health true) ::
      GrpcRelay.Small.devTicks 0 5 ++ GrpcRelay.Small.join 0 (GrpcRelay.Small.request 1) ++
      GrpcRelay.Small.forward 0).map .relay ++
    [.read 0, .read 0, .client 0 .acquire, .client 0 (.complete 0 (.returned [2])),
      .client 0 (.respond 0), .client 0 .take, .hear 0] ++
    (GrpcRelay.Small.devTicks 0 3 ++ GrpcRelay.Small.ticks 0 4).map .relay

theorem reachable_of_execute {w : World}
    (h : Runs.execute (step setting) (init setting) askedRun = some w) : Reachable setting w :=
  .of_execute (fun _ _ => trivial) _ .start h

end Small

/-- The device answers the one request that was put on its stream. -/
theorem asked_device_answers :
    ∃ w, Reachable Small.setting w ∧ dataOn 0 w.relay.trace = [⟨"conn-1", 1, [2], 0⟩] ∧
      ∃ answers : List (DataRequest × DataResponse),
        dataOn 0 w.relay.trace = answers.map Prod.snd ∧
        (answers.map Prod.fst).Subperm (w.relay.trace.filterMap (placedOn 0)) ∧
        ∀ x ∈ answers, Answers (Small.setting.client 0) (w.notes 0) x.1 x.2 := by
  obtain ⟨w, executed, data⟩ : ∃ w,
      Runs.execute (step Small.setting) (init Small.setting) Small.askedRun = some w ∧
        dataOn 0 w.relay.trace = [⟨"conn-1", 1, [2], 0⟩] :=
    Option.map_eq_some_iff.1 (by decide +kernel)
  have reachable := Small.reachable_of_execute executed
  exact ⟨w, reachable, data, (devices_answer_what_they_are_asked reachable).2 0⟩

/-- The bytes that the handler returned reach the controller. -/
theorem asked_handler_reaches_controller :
    ∃ w past, Reachable Small.setting w ∧
      w.relay.trace = past ++ .answered 0 ⟨⟨"d", 1, [2], 0⟩, .device 9⟩ :: [] ∧
      ∃ request, request.encryptedPayload = [1] ∧
        (request, .returned [2]) ∈ handled (w.notes 0) := by
  obtain ⟨w, executed, last⟩ : ∃ w,
      Runs.execute (step Small.setting) (init Small.setting) Small.askedRun = some w ∧
        (w.relay.trace.drop 14).map GrpcRelay.Small.answer =
          [some (0, ⟨⟨"d", 1, [2], 0⟩, .device 9⟩)] :=
    Option.map_eq_some_iff.1 (by decide +kernel)
  have placements : (Runs.execute (step Small.setting) (init Small.setting) Small.askedRun).map
      (fun w => w.relay.trace.filterMap GrpcRelay.Small.placement) =
      some [(0, 0, GrpcRelay.Small.request 1, ⟨"conn-1", 1, [1]⟩)] := by
    decide +kernel
  have bound : (Runs.execute (step Small.setting) (init Small.setting) Small.askedRun).map
      (fun w => bindingOf 0 (w.relay.trace.take 14)) = some (some ("d", "c", "M")) := by
    decide +kernel
  rw [executed, Option.map_some, Option.some.injEq] at placements bound
  have split := GrpcRelay.Small.eq_snoc_of_map (fun _ => GrpcRelay.Small.eq_answered) last
  have reachable := Small.reachable_of_execute executed
  obtain ⟨i, c', m, request, -, -, placed, -, payload, returned, -⟩ :=
    answers_come_from_handlers reachable split rfl bound
  have mem : (c', i, m, request) ∈ w.relay.trace.filterMap GrpcRelay.Small.placement :=
    List.mem_filterMap.2 ⟨_, List.mem_of_mem_take placed, rfl⟩
  rw [placements, List.mem_singleton] at mem
  obtain ⟨rfl, rfl, rfl, rfl⟩ := by simpa using mem
  exact ⟨w, _, reachable, split, _, payload, returned⟩

end Fleet

end GrpcRelay
