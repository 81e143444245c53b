import GrpcRelay.Step

/-!
# What a step can do

`Controller.Moves`, `Device.Moves` and `StepCases` list everything that a step of a loop, of a
device stream and of the system can do, with the conditions under which it does so.  Proofs about
runs go by these cases and do not unfold the step functions.

Moves that differ in nothing a request in flight depends on share a case.
-/

namespace GrpcRelay

namespace Shared

variable (sh : Shared)

/-- The in-flight table. -/
abbrev table : InflightTable := sh.relay.inflightBySequence

/-- The shared state with another in-flight table. -/
def withTable (t : InflightTable) : Shared :=
  { sh with relay := { sh.relay with inflightBySequence := t } }

@[simp] theorem withTable_inflight (t : InflightTable) :
    (sh.withTable t).relay.inflightBySequence = t := rfl

/-- Nothing changes that a request in flight depends on. -/
structure Quiet (sh sh' : Shared) : Prop where
  now : sh'.now = sh.now
  inflight : sh'.relay.inflightBySequence = sh.relay.inflightBySequence
  sessions : sh'.relay.sessionsByDeviceId = sh.relay.sessionsByDeviceId
  cache : sh'.cache = sh.cache
  auth : sh'.auth = sh.auth
  timer : sh'.timer = sh.timer

theorem Quiet.refl (sh : Shared) : sh.Quiet sh := ⟨rfl, rfl, rfl, rfl, rfl, rfl⟩

end Shared

/-- Events that say nothing about a request: counts, messages of the relay's own, and notices of
a disconnect. -/
inductive Event.Plain : Event → Prop
  | requestsTotal (c : ℕ) (methodName : String) (status : RequestStatus) :
      Plain (.requestsTotal c methodName status)
  | notified (c : ℕ) (r : Reply) (synthesized : r.origin = .relay) : Plain (.notified c r)
  | relayed (i : ℕ) (message : RelayMessage) : Plain (.relayed i message)
  | mqtt (request : MqttPublishRequest) : Plain (.mqtt request)

/-- The events that loop `c` leaves. -/
inductive Event.OfLoop (c : ℕ) : Event → Prop
  | pulled (m : ControllerMessage) : OfLoop c (.pulled c m)
  | authorized (m : ControllerMessage) (auth : AuthService) (now : Instant)
      (controller : ControllerPrincipal) (device : DevicePrincipal) :
      OfLoop c (.authorized c m auth now controller device)
  | allowed (m : ControllerMessage) (limiter : RateLimiter) (now : Instant) :
      OfLoop c (.allowed c m limiter now)
  | mapped (m : ControllerMessage) (router : StreamRouter) (now : Instant) (streamId : String) :
      OfLoop c (.mapped c m router now streamId)
  | inflight (now : Instant) (o : InflightOutcome) : OfLoop c (.inflight now o)
  | placed (i : ℕ) (m : ControllerMessage) (request : DataRequest) :
      OfLoop c (.placed c i m request)
  | cached (k : RequestKey) (r : Reply) : OfLoop c (.cached k r)
  | answered (r : Reply) : OfLoop c (.answered c r)
  | requestsTotal (methodName : String) (status : RequestStatus) :
      OfLoop c (.requestsTotal c methodName status)

/-- The events that device stream `i` leaves. -/
inductive Event.OfStream (i : ℕ) : Event → Prop
  | plain (e : Event) (plain : e.Plain) : OfStream i e
  | deviceAuthenticated (deviceId token : String) (auth : AuthService) :
      OfStream i (.deviceAuthenticated i deviceId token auth)
  | registered (deviceId connectionId : String) (sessionResumed : Bool) :
      OfStream i (.registered i deviceId connectionId sessionResumed)
  | data (deviceId : String) (response : DataResponse) : OfStream i (.data i deviceId response)
  | inflight (now : Instant) (o : InflightOutcome) : OfStream i (.inflight now o)

/-! ## Loops -/

namespace Controller

/-- The steps of a `ConnectToDevice` loop. -/
inductive Moves (cfg : Config) (sh : Shared) (c : ℕ) (l : Controller) :
    CtrlInput → Next Controller → Prop
  | pulled (m : ControllerMessage) (at_pc : l.pc = .idle) (unbound : l.streamId = none) :
      Moves cfg sh c l (.recv m) ⟨sh, l.goto (.authenticating m), [.pulled c m]⟩
  | pulledBound (m : ControllerMessage) (at_pc : l.pc = .idle)
      (bound : l.streamBinding = some m.binding) :
      Moves cfg sh c l (.recv m) ⟨sh, l.goto (.beginning m), [.pulled c m]⟩
  | pulledBad (m : ControllerMessage) (resp : DeviceResponse) (at_pc : l.pc = .idle)
      (key : resp.key = m.key) :
      Moves cfg sh c l (.recv m)
        ⟨sh, l.goto .idle, [.pulled c m, .answered c (.ofRelay resp)]⟩
  | refused (m : ControllerMessage) (resp : DeviceResponse) (sh' : Shared) (connected : Bool)
      (counts : List Event)
      (at_pc : l.pc = .authenticating m ∨ l.pc = .limiting m ∨ l.pc = .mapping m)
      (quiet : sh.Quiet sh') (key : resp.key = m.key)
      (counted : ∀ e ∈ counts, ∃ status, e = .requestsTotal c m.methodName status) :
      Moves cfg sh c l .tick
        ⟨sh', { l with controllerConnected := connected, pc := .idle },
          counts ++ [Event.answered c (.ofRelay resp)]⟩
  | authorized (m : ControllerMessage) (controller : ControllerPrincipal)
      (device : DevicePrincipal) (sh' : Shared) (connected : Bool)
      (at_pc : l.pc = .authenticating m) (quiet : sh.Quiet sh')
      (authenticated : sh.auth.authenticateController cfg.decode sh.now m.controllerId m.token =
        .ok controller)
      (known : sh.auth.getDevicePrincipalById m.targetDeviceId = .ok device)
      (permitted : (RbacPolicyEngine.new cfg.auth).authorizeControllerToDevice controller device
        m.methodName = .ok ()) :
      Moves cfg sh c l .tick
        ⟨sh', { l with controllerConnected := connected, pc := .limiting m },
          [.authorized c m sh.auth sh.now controller device]⟩
  | allowed (m : ControllerMessage) (sh' : Shared) (at_pc : l.pc = .limiting m)
      (quiet : sh.Quiet sh')
      (within : (sh.rateLimiter.allow sh.now m.targetDeviceId m.controllerId).1 = true) :
      Moves cfg sh c l .tick
        ⟨sh', l.goto (.mapping m), [.allowed c m sh.rateLimiter sh.now]⟩
  | mapped (m : ControllerMessage) (streamId : String) (sh' : Shared)
      (at_pc : l.pc = .mapping m) (quiet : sh.Quiet sh')
      (created : (sh.router.createMapping sh.now m.targetDeviceId m.controllerId m.methodName
        c).1 = .ok streamId) :
      Moves cfg sh c l .tick
        ⟨sh', { l with
            streamId := some streamId
            streamBinding := some m.binding
            pc := .beginning m },
          [.mapped c m sh.router sh.now streamId]⟩
  | begun (m : ControllerMessage) (sh' : Shared) (at_pc : l.pc = .beginning m)
      (quiet : sh.Quiet sh') : Moves cfg sh c l .tick ⟨sh', l.goto (.lookingUp m), []⟩
  | hit (m : ControllerMessage) (r : Reply) (at_pc : l.pc = .lookingUp m)
      (found : sh.cache.lookup m.key = some r) :
      Moves cfg sh c l .tick ⟨sh, l.goto (.finishing m r .cached), []⟩
  | missed (m : ControllerMessage) (at_pc : l.pc = .lookingUp m)
      (absent : sh.cache.lookup m.key = none) :
      Moves cfg sh c l .tick ⟨sh, l.goto (.joining m), []⟩
  | opened (m : ControllerMessage) (at_pc : l.pc = .joining m)
      (absent : sh.table.entries.lookup m.key = none) :
      Moves cfg sh c l .tick
        ⟨{ sh.withTable (sh.table.join m.key m.targetDeviceId).1 with
            timer := Function.update sh.timer sh.table.cells
              (.sleeping m.targetDeviceId m.sequenceNumber (sh.now + cfg.inflightTimeout)) },
          l.goto (.routing m sh.table.receivers),
          [.inflight sh.now (.joined m.key sh.table.cells sh.table.receivers true)]⟩
  | joined (m : ControllerMessage) (entry : ℕ) (at_pc : l.pc = .joining m)
      (found : sh.table.entries.lookup m.key = some entry) :
      Moves cfg sh c l .tick
        ⟨sh.withTable (sh.table.join m.key m.targetDeviceId).1,
          l.goto (.waiting m sh.table.receivers false),
          [.inflight sh.now (.joined m.key entry sh.table.receivers false)]⟩
  | routed (m : ControllerMessage) (rx : ℕ) (session : DeviceSession)
      (at_pc : l.pc = .routing m rx)
      (online : sh.relay.sessionsByDeviceId.lookup m.targetDeviceId = some session) :
      Moves cfg sh c l .tick ⟨sh, l.goto (.metering m rx session), []⟩
  | unrouted (m : ControllerMessage) (rx : ℕ) (at_pc : l.pc = .routing m rx)
      (offline : sh.relay.sessionsByDeviceId.lookup m.targetDeviceId = none) :
      Moves cfg sh c l .tick ⟨sh, l.goto (.offlineTaking m rx), []⟩
  | metered (m : ControllerMessage) (rx : ℕ) (session : DeviceSession)
      (readings : BandwidthTracker.ClockReadings) (sh' : Shared)
      (at_pc : l.pc = .metering m rx session) (quiet : sh.Quiet sh') :
      Moves cfg sh c l (.clock readings) ⟨sh', l.goto (.forwarding m rx session), []⟩
  | throttled (m : ControllerMessage) (rx : ℕ) (session : DeviceSession)
      (readings : BandwidthTracker.ClockReadings) (sh' : Shared) (resp : DeviceResponse)
      (at_pc : l.pc = .metering m rx session) (quiet : sh.Quiet sh')
      (exceeded : (sh.bandwidthTracker.recordAndCheck readings m.targetDeviceId m.controllerId
        m.encryptedPayload.length).1 = false) (key : resp.key = m.key) :
      Moves cfg sh c l (.clock readings)
        ⟨sh', l.goto (.refusing m),
          [.requestsTotal c m.methodName .rateLimited, .answered c (.ofRelay resp)]⟩
  | placed (m : ControllerMessage) (rx : ℕ) (session : DeviceSession)
      (at_pc : l.pc = .forwarding m rx session) :
      Moves cfg sh c l .tick
        ⟨sh, l.goto (.waiting m rx true),
          [.placed c session.outboundTx m (relayRequest m session)]⟩
  | unsent (m : ControllerMessage) (rx : ℕ) (session : DeviceSession)
      (at_pc : l.pc = .forwarding m rx session)
      (gone : sh.outboundOpen session.outboundTx = false) :
      Moves cfg sh c l .tick ⟨sh, l.goto (.offlineTaking m rx), []⟩
  | took (m : ControllerMessage) (rx entry : ℕ) (at_pc : l.pc = .offlineTaking m rx)
      (found : (sh.table.take m.key).2 = some entry) :
      Moves cfg sh c l .tick
        ⟨sh.withTable (sh.table.take m.key).1, l.goto (.offlineCompleting m entry),
          [.inflight sh.now (.taken m.key entry)]⟩
  | tookNothing (m : ControllerMessage) (rx : ℕ) (at_pc : l.pc = .offlineTaking m rx)
      (absent : sh.table.entries.lookup m.key = none) :
      Moves cfg sh c l .tick ⟨sh, l.goto (.offlineFinishing m), []⟩
  | completed (m : ControllerMessage) (entry : ℕ) (at_pc : l.pc = .offlineCompleting m entry) :
      Moves cfg sh c l .tick
        ⟨sh.withTable (sh.table.complete entry (offlineReply m.targetDeviceId m.sequenceNumber)),
          l.goto (.offlineFinishing m),
          [.inflight sh.now
            (.completed entry (offlineReply m.targetDeviceId m.sequenceNumber))]⟩
  | received (m : ControllerMessage) (rx : ℕ) (r : Reply) (at_pc : l.pc = .waiting m rx true)
      (sent : r ∈ sh.table.channel rx) :
      Moves cfg sh c l .tick ⟨sh, l.goto (.caching m r), []⟩
  | receivedShared (m : ControllerMessage) (rx : ℕ) (r : Reply)
      (at_pc : l.pc = .waiting m rx false) (sent : r ∈ sh.table.channel rx) :
      Moves cfg sh c l .tick ⟨sh, l.goto (.finishing m r .success), []⟩
  | closed (m : ControllerMessage) (rx : ℕ) (isNewForwarder : Bool) (resp : DeviceResponse)
      (at_pc : l.pc = .waiting m rx isNewForwarder) (gone : sh.table.closed rx = true)
      (key : resp.key = m.key) :
      Moves cfg sh c l .tick ⟨sh, l.goto (.finishing m (.ofRelay resp) .internalError), []⟩
  | cached (m : ControllerMessage) (r : Reply) (at_pc : l.pc = .caching m r) :
      Moves cfg sh c l .tick
        ⟨{ sh with cache := sh.cache.insert m.key r }, l.goto (.finishing m r .success),
          [.cached m.key r]⟩
  | finished (m : ControllerMessage) (r : Reply) (status : RequestStatus) (sh' : Shared)
      (at_pc : l.pc = .finishing m r status) (quiet : sh.Quiet sh') :
      Moves cfg sh c l .tick
        ⟨sh', l.goto (.sending m r), [.requestsTotal c m.methodName status]⟩
  | sent (m : ControllerMessage) (r : Reply) (at_pc : l.pc = .sending m r) :
      Moves cfg sh c l .tick ⟨sh, l.goto .idle, [.answered c r]⟩
  | rested (m : ControllerMessage) (sh' : Shared)
      (at_pc : l.pc = .refusing m ∨ l.pc = .offlineFinishing m) (quiet : sh.Quiet sh') :
      Moves cfg sh c l .tick ⟨sh', l.goto .idle, []⟩
  | ended (input : CtrlInput) (pc' : CtrlPc) (sh' : Shared)
      (at_pc : l.pc = .idle ∧ pc' = .closing ∨ l.pc = .closing ∧ pc' = .disconnecting ∨
        l.pc = .disconnecting ∧ pc' = .done)
      (quiet : sh.Quiet sh') : Moves cfg sh c l input ⟨sh', l.goto pc', []⟩

variable {cfg : Config} {sh : Shared} {c : ℕ} {l : Controller} {m : ControllerMessage}

theorem moves_receive (at_pc : l.pc = .idle) : Moves cfg sh c l (.recv m) (receive sh c l m) := by
  unfold receive
  split
  · exact .pulledBad m _ at_pc rfl
  · split_ifs with ht hu hb
    · exact .pulledBad m _ at_pc rfl
    · exact .pulled m at_pc hu
    · exact .pulledBad m _ at_pc rfl
    · exact .pulledBound m at_pc (not_not.1 hb)

theorem connect_quiet (sh : Shared) (l : Controller) :
    ∃ (sh' : Shared) (connected : Bool), sh.Quiet sh' ∧
      connect sh l = (sh', { l with controllerConnected := connected }) := by
  unfold connect
  split_ifs with h
  · exact ⟨sh, true, .refl sh, by rw [← h]⟩
  · exact ⟨{ sh with relay := sh.relay.incrementControllerConnections }, true,
      ⟨rfl, rfl, rfl, rfl, rfl, rfl⟩, rfl⟩

theorem moves_authenticate (at_pc : l.pc = .authenticating m) :
    Moves cfg sh c l .tick (authenticate cfg sh c l m) := by
  unfold authenticate
  split
  · exact .refused m _ sh l.controllerConnected [] (Or.inl at_pc) (.refl sh) rfl (by simp)
  · rename_i controller hc
    obtain ⟨sh', connected, quiet, heq⟩ := connect_quiet sh l
    simp only [heq]
    split
    · exact .refused m _ sh' connected [] (Or.inl at_pc) quiet rfl (by simp)
    · rename_i device hd
      rw [quiet.auth] at hd
      split
      · exact .refused m _ sh' connected _ (Or.inl at_pc) quiet rfl (by simp)
      · exact .refused m _ sh' connected _ (Or.inl at_pc) quiet rfl (by simp)
      · rename_i hp
        exact absurd hp (RbacPolicyEngine.authorizeControllerToDevice_ne_unauthorized _ _ _ _)
      · rename_i hp
        rw [quiet.auth, quiet.now]
        exact .authorized m controller device sh' connected at_pc quiet hc hd hp

theorem moves_limit (at_pc : l.pc = .limiting m) : Moves cfg sh c l .tick (limit sh c l m) := by
  unfold limit
  split
  · rename_i rl h
    exact .allowed m _ at_pc ⟨rfl, rfl, rfl, rfl, rfl, rfl⟩ (by rw [h])
  · exact .refused m _ _ l.controllerConnected _ (Or.inr (Or.inl at_pc))
      ⟨rfl, rfl, rfl, rfl, rfl, rfl⟩ rfl (by simp)

theorem moves_createMapping (at_pc : l.pc = .mapping m) :
    Moves cfg sh c l .tick (createMapping sh c l m) := by
  unfold createMapping
  split
  · rename_i streamId router h
    exact .mapped m streamId _ at_pc ⟨rfl, rfl, rfl, rfl, rfl, rfl⟩ (by rw [h])
  · split_ifs
    · exact .refused m _ _ l.controllerConnected _ (Or.inr (Or.inr at_pc))
        ⟨rfl, rfl, rfl, rfl, rfl, rfl⟩ rfl (by simp)
    · exact .refused m _ _ l.controllerConnected _ (Or.inr (Or.inr at_pc))
        ⟨rfl, rfl, rfl, rfl, rfl, rfl⟩ rfl (by simp)

theorem beginRequest_quiet (sh : Shared) (l : Controller) : sh.Quiet (beginRequest sh l) := by
  unfold beginRequest
  split <;> exact ⟨rfl, rfl, rfl, rfl, rfl, rfl⟩

theorem finishRequest_quiet (sh : Shared) (l : Controller) : sh.Quiet (finishRequest sh l) := by
  unfold finishRequest
  split <;> exact ⟨rfl, rfl, rfl, rfl, rfl, rfl⟩

theorem moves_lookUp (at_pc : l.pc = .lookingUp m) : Moves cfg sh c l .tick (lookUp sh l m) := by
  unfold lookUp
  split
  · exact .hit m _ at_pc ‹_›
  · exact .missed m at_pc ‹_›

theorem moves_join (at_pc : l.pc = .joining m) : Moves cfg sh c l .tick (join cfg sh l m) := by
  unfold join RelayState.ensureInflightWaiter
  cases h : sh.table.entries.lookup m.key with
  | none =>
    have move : Moves cfg sh c l .tick _ := .opened m at_pc h
    obtain ⟨t, ht⟩ : ∃ t, sh.table.join m.key m.targetDeviceId =
        (t, sh.table.cells, sh.table.receivers, true) := by simp [SingleFlight.Table.join, h]
    simp only [ht] at move
    simp only [show (m.targetDeviceId, m.sequenceNumber) = m.key from rfl, ht]
    exact move
  | some entry =>
    have move : Moves cfg sh c l .tick _ := .joined m entry at_pc h
    obtain ⟨t, ht⟩ : ∃ t, sh.table.join m.key m.targetDeviceId =
        (t, entry, sh.table.receivers, false) := by simp [SingleFlight.Table.join, h]
    simp only [ht] at move
    simp only [show (m.targetDeviceId, m.sequenceNumber) = m.key from rfl, ht]
    exact move

theorem moves_route {rx : ℕ} (at_pc : l.pc = .routing m rx) :
    Moves cfg sh c l .tick (route sh l m rx) := by
  unfold route
  split
  · exact .unrouted m rx at_pc ‹_›
  · exact .routed m rx _ at_pc ‹_›

theorem moves_meter {rx : ℕ} {session : DeviceSession} {readings : BandwidthTracker.ClockReadings}
    (at_pc : l.pc = .metering m rx session) :
    Moves cfg sh c l (.clock readings) (meter sh c l m rx session readings) := by
  unfold meter
  split
  · exact .metered m rx session readings _ at_pc ⟨rfl, rfl, rfl, rfl, rfl, rfl⟩
  · rename_i bt h
    exact .throttled m rx session readings _ _ at_pc ⟨rfl, rfl, rfl, rfl, rfl, rfl⟩ (by rw [h]) rfl

theorem moves_forward {rx : ℕ} {session : DeviceSession} (at_pc : l.pc = .forwarding m rx session) :
    Moves cfg sh c l .tick (forward sh c l m rx session) := by
  unfold forward
  split_ifs with h
  · exact .placed m rx session at_pc
  · exact .unsent m rx session at_pc (by simpa using h)

theorem takeInflight_eq (st : RelayState) (d : String) (q : ℤ) :
    st.takeInflight d q = ({ st with inflightBySequence := (st.inflightBySequence.take (d, q)).1 },
      (st.inflightBySequence.take (d, q)).2) := rfl

theorem moves_takeOffline {rx : ℕ} (at_pc : l.pc = .offlineTaking m rx) :
    Moves cfg sh c l .tick (takeOffline sh l m) := by
  unfold takeOffline
  rw [takeInflight_eq]
  cases h : (sh.table.take m.key).2 with
  | none =>
    simp only [show (m.targetDeviceId, m.sequenceNumber) = m.key from rfl, h]
    exact .tookNothing m rx at_pc (SingleFlight.Table.take_eq_none h)
  | some entry =>
    simp only [show (m.targetDeviceId, m.sequenceNumber) = m.key from rfl, h]
    exact .took m rx entry at_pc h

theorem moves_await {rx : ℕ} {isNewForwarder : Bool} {n : Next Controller}
    (at_pc : l.pc = .waiting m rx isNewForwarder)
    (ready : await sh l m rx isNewForwarder = some n) : Moves cfg sh c l .tick n := by
  unfold await at ready
  split at ready
  · rename_i r rest h
    have sent : r ∈ sh.table.channel rx := by
      rw [h]
      exact List.mem_cons_self
    split_ifs at ready with hn
    · cases ready
      exact .received m rx r (hn ▸ at_pc) sent
    · cases ready
      exact .receivedShared m rx r (Bool.eq_false_iff.2 hn ▸ at_pc) sent
  · split_ifs at ready with hc
    cases ready
    exact .closed m rx isNewForwarder _ at_pc hc rfl

theorem moves_close (at_pc : l.pc = .closing) {input : CtrlInput} :
    Moves cfg sh c l input (close sh l) := by
  unfold close
  split
  · exact .ended input _ _ (Or.inr (Or.inl ⟨at_pc, rfl⟩)) ⟨rfl, rfl, rfl, rfl, rfl, rfl⟩
  · exact .ended input _ _ (Or.inr (Or.inl ⟨at_pc, rfl⟩)) (.refl sh)

theorem moves_disconnect (at_pc : l.pc = .disconnecting) {input : CtrlInput} :
    Moves cfg sh c l input (disconnect sh l) := by
  unfold disconnect
  split_ifs
  · exact .ended input _ _ (Or.inr (Or.inr ⟨at_pc, rfl⟩)) ⟨rfl, rfl, rfl, rfl, rfl, rfl⟩
  · exact .ended input _ _ (Or.inr (Or.inr ⟨at_pc, rfl⟩)) (.refl sh)

theorem moves_of_step {input : CtrlInput} {n : Next Controller}
    (h : step cfg sh c l input = some n) : Moves cfg sh c l input n := by
  cases input with
  | recv m =>
    simp only [step] at h
    split at h
    · cases h; exact moves_receive ‹_›
    · cases h
  | recvError | eof =>
    simp only [step] at h
    split at h
    · cases h; exact .ended _ _ _ (Or.inl ⟨‹_›, rfl⟩) (.refl sh)
    · cases h
  | clock readings =>
    simp only [step] at h
    split at h
    · cases h; exact moves_meter ‹_›
    · cases h
  | tick =>
    simp only [step] at h
    split at h
    · cases h; exact moves_authenticate ‹_›
    · cases h; exact moves_limit ‹_›
    · cases h; exact moves_createMapping ‹_›
    · cases h; exact .begun _ _ ‹_› (beginRequest_quiet sh l)
    · cases h; exact moves_lookUp ‹_›
    · cases h; exact moves_join ‹_›
    · cases h; exact moves_route ‹_›
    · cases h; exact moves_forward ‹_›
    · cases h; exact .rested _ _ (Or.inl ‹_›) (finishRequest_quiet sh l)
    · cases h; exact moves_takeOffline ‹_›
    · cases h; exact .completed _ _ ‹_›
    · cases h; exact .rested _ _ (Or.inr ‹_›) (finishRequest_quiet sh l)
    · exact moves_await ‹_› h
    · cases h; exact .cached _ _ ‹_›
    · cases h; exact .finished _ _ _ _ ‹_› (finishRequest_quiet sh l)
    · cases h; exact .sent _ _ ‹_›
    · cases h; exact moves_close ‹_›
    · cases h; exact moves_disconnect ‹_›
    · cases h
    · cases h
    · cases h

theorem events_of_moves {input : CtrlInput} {next : Next Controller}
    (move : Moves cfg sh c l input next) : ∀ e ∈ next.events, e.OfLoop c := by
  cases move
  case refused counted =>
    intro e he
    rcases List.mem_append.1 he with he | he
    · obtain ⟨status, rfl⟩ := counted e he
      exact .requestsTotal ..
    · rw [List.mem_singleton] at he
      exact he ▸ .answered _
  all_goals
    intro e he
    simp only [List.mem_cons, List.not_mem_nil, or_false] at he
  case pulledBad | throttled => rcases he with rfl | rfl <;> constructor
  all_goals subst he; constructor

/-- A loop places a request in one step, and that step does nothing else. -/
theorem placed_of_moves {input : CtrlInput} {next : Next Controller}
    (move : Moves cfg sh c l input next) {c' i : ℕ} {request : DataRequest}
    (h : .placed c' i m request ∈ next.events) :
    ∃ rx session, l.pc = .forwarding m rx session ∧
      next = ⟨sh, l.goto (.waiting m rx true), [.placed c i m request]⟩ ∧ c' = c ∧
      i = session.outboundTx ∧ request = relayRequest m session := by
  cases move
  case placed m' rx session at_pc =>
    obtain ⟨rfl, rfl, rfl, rfl⟩ : c' = c ∧ i = session.outboundTx ∧ m = m' ∧
      request = relayRequest m' session := by simpa using h
    exact ⟨rx, session, at_pc, rfl, rfl, rfl, rfl⟩
  case refused m' resp sh' connected counts _ _ _ counted =>
    rcases List.mem_append.1 h with h | h
    · obtain ⟨status, hs⟩ := counted _ h
      cases hs
    · simp at h
  all_goals simp at h

/-- A loop answers with an error that it makes up, or with the response it was about to send. -/
theorem answered_of_moves {input : CtrlInput} {next : Next Controller}
    (move : Moves cfg sh c l input next) {c' : ℕ} {r : Reply}
    (h : .answered c' r ∈ next.events) :
    c' = c ∧ (r.origin = .relay ∨
      ∃ m, l.pc = .sending m r ∧ next = ⟨sh, l.goto .idle, [.answered c r]⟩) := by
  cases move
  case sent m r' at_pc =>
    obtain ⟨rfl, rfl⟩ : c' = c ∧ r = r' := by simpa using h
    exact ⟨rfl, Or.inr ⟨m, at_pc, rfl⟩⟩
  case refused m' resp sh' connected counts _ _ _ counted =>
    rcases List.mem_append.1 h with h | h
    · obtain ⟨status, hs⟩ := counted _ h
      cases hs
    · obtain ⟨rfl, rfl⟩ : c' = c ∧ r = .ofRelay resp := by simpa using h
      exact ⟨rfl, Or.inl rfl⟩
  case pulledBad m' resp _ _ | throttled m' _ _ _ _ resp _ _ _ _ =>
    obtain ⟨rfl, rfl⟩ : c' = c ∧ r = .ofRelay resp := by simpa using h
    exact ⟨rfl, Or.inl rfl⟩
  all_goals simp at h

/-- Only a loop that opens an entry adds to the table and sets a timer. -/
theorem timer_of_moves {input : CtrlInput} {next : Next Controller}
    (move : Moves cfg sh c l input next) :
    (next.shared.timer = sh.timer ∧ next.shared.table.cells = sh.table.cells ∧
      ∀ k a, next.shared.table.entries.lookup k = some a → sh.table.entries.lookup k = some a) ∨
    ∃ m, l.pc = .joining m ∧ sh.table.entries.lookup m.key = none ∧
      next.shared.table.cells = sh.table.cells + 1 ∧
      next.shared.table.entries = sh.table.entries.insert m.key sh.table.cells ∧
      next.shared.timer = Function.update sh.timer sh.table.cells
        (.sleeping m.targetDeviceId m.sequenceNumber (sh.now + cfg.inflightTimeout)) ∧
      next.events = [.inflight sh.now (.joined m.key sh.table.cells sh.table.receivers true)] ∧
      next.loc = l.goto (.routing m sh.table.receivers) := by
  have same (timer : next.shared.timer = sh.timer) (table : next.shared.table = sh.table) :
      next.shared.timer = sh.timer ∧ next.shared.table.cells = sh.table.cells ∧
        ∀ k a, next.shared.table.entries.lookup k = some a →
          sh.table.entries.lookup k = some a := by
    rw [table]
    exact ⟨timer, rfl, fun _ _ h => h⟩
  cases move
  case opened m at_pc absent =>
    obtain ⟨-, -, -, -, ⟨-, hl, -⟩ | ⟨-, -, -, he, hc⟩⟩ :=
      sh.table.join_spec m.key m.targetDeviceId
    · rw [absent] at hl
      cases hl
    · exact Or.inr ⟨m, at_pc, absent, hc, he, rfl, rfl, rfl⟩
  case joined m entry at_pc found =>
    obtain ⟨-, -, -, -, ⟨-, -, he, hc⟩ | ⟨-, habs, -⟩⟩ := sh.table.join_spec m.key m.targetDeviceId
    · refine Or.inl ⟨rfl, hc, fun k a h => ?_⟩
      rwa [← he]
    · rw [found] at habs
      cases habs
  case took =>
    exact Or.inl ⟨rfl, SingleFlight.Table.take_cells _ _,
      fun k a h => (SingleFlight.Table.lookup_of_take h).1⟩
  all_goals
    first
    | exact Or.inl (same rfl rfl)
    | exact Or.inl (same (Shared.Quiet.timer ‹_›) (Shared.Quiet.inflight ‹_›))
    | exact Or.inl ⟨rfl, rfl, fun _ _ h => h⟩

end Controller

/-! ## Device streams -/

namespace DevPc

/-- The entries that the stream took and has still to complete, with their responses. -/
def pending : DevPc → List (ℕ × Reply)
  | .completing entry r => [(entry, r)]
  | .sweeping did _ _ taken | .draining did _ taken _ =>
    taken.map fun e => (e.2, Controller.offlineReply did e.1)
  | _ => []

/-- The accepted `Register` that is being carried out. -/
def registering : DevPc → Option DeviceMessage
  | .admitting msg _ | .checkingHealth msg _ | .numbering msg _ | .resuming msg _ _
  | .installing msg _ _ _ => some msg
  | _ => none

/-- The device that is being cleaned up, with the keys collected and not yet taken. -/
def collected : DevPc → Option (String × List RequestKey)
  | .scanning did _ keys | .sweeping did _ keys _ => some (did, keys)
  | _ => none

end DevPc

namespace Device

/-- The steps of a device stream. -/
inductive Moves (sh : Shared) (n i : ℕ) (l : Device) : Next Device → Prop
  | silent (sh' : Shared) (pc' : DevPc) (connectionId : Option String) (events : List Event)
      (quiet : sh.Quiet sh') (pending : pc'.pending = l.pc.pending)
      (registering : pc'.registering = none ∨ pc'.registering = l.pc.registering)
      (collected : ∀ did keys, pc'.collected = some (did, keys) →
        keys = [] ∨ ∃ keys', l.pc.collected = some (did, keys') ∧ keys ⊆ keys')
      (plain : ∀ e ∈ events, e.Plain)
      (notices : ∀ c r, .notified c r ∈ events → ∃ did reason mapping removed,
        l.pc = .notifying did reason (mapping :: removed) ∧ mapping.activeRequests = 0 ∧
          c = mapping.controllerTx ∧ r = Controller.offlineReply did 0) :
      Moves sh n i l
        ⟨sh', { l with currentConnectionId := connectionId, pc := pc' }, events⟩
  | authenticated (msg : DeviceMessage) (request : RegisterRequest) (p : DevicePrincipal)
      (at_pc : l.pc = .handling msg)
      (accepted : sh.auth.authenticateDeviceByToken msg.deviceId msg.token = .ok p) :
      Moves sh n i l
        ⟨sh, { l with currentDeviceId := some msg.deviceId, pc := .admitting msg request },
          [.deviceAuthenticated i msg.deviceId msg.token sh.auth]⟩
  | answered (msg : DeviceMessage) (deviceId : String) (response : DataResponse) (entry : ℕ)
      (at_pc : l.pc = .handling msg) (identity : l.currentDeviceId = some deviceId)
      (found : (sh.table.take (deviceId, response.sequenceNumber)).2 = some entry) :
      Moves sh n i l
        ⟨sh.withTable (sh.table.take (deviceId, response.sequenceNumber)).1,
          l.goto (.completing entry (dataReply n deviceId response)),
          [.data i deviceId response,
            .inflight sh.now (.taken (deviceId, response.sequenceNumber) entry)]⟩
  | unasked (msg : DeviceMessage) (deviceId : String) (response : DataResponse)
      (at_pc : l.pc = .handling msg) (identity : l.currentDeviceId = some deviceId)
      (absent : sh.table.entries.lookup (deviceId, response.sequenceNumber) = none) :
      Moves sh n i l ⟨sh, l.goto .reading, [.data i deviceId response]⟩
  | installed (msg : DeviceMessage) (session : DeviceSession) (resumed : Bool) (pc' : DevPc)
      (at_pc : l.pc.registering = some msg) (device : session.deviceId = msg.deviceId)
      (own : session.outboundTx = i) (pending : l.pc.pending = [] ∧ pc'.pending = [])
      (registering : pc'.registering = none) (collected : pc'.collected = none) :
      Moves sh n i l
        ⟨{ sh with relay := { sh.relay with
            sessionsByDeviceId := sh.relay.sessionsByDeviceId.insert msg.deviceId session } },
          l.goto pc', [.registered i msg.deviceId session.connectionId resumed]⟩
  | completed (entry : ℕ) (r : Reply) (at_pc : l.pc = .completing entry r) :
      Moves sh n i l
        ⟨sh.withTable (sh.table.complete entry r), l.goto .reading,
          [.inflight sh.now (.completed entry r)]⟩
  | visited (did : String) (reason : DisconnectReason) (keys : List RequestKey)
      (key : RequestKey) (entry : ℕ) (at_pc : l.pc = .scanning did reason keys)
      (met : sh.table.entries.lookup key = some entry)
      (tagged : (sh.table.cell entry).map (·.tag) = some did) :
      Moves sh n i l ⟨sh, l.goto (.scanning did reason (keys ++ [key])), []⟩
  | swept (did : String) (reason : DisconnectReason) (key : RequestKey) (keys : List RequestKey)
      (taken : List (ℤ × ℕ)) (entry : ℕ)
      (at_pc : l.pc = .sweeping did reason (key :: keys) taken)
      (found : (sh.table.take key).2 = some entry) :
      Moves sh n i l
        ⟨sh.withTable (sh.table.take key).1,
          l.goto (.sweeping did reason keys (taken ++ [(key.2, entry)])),
          [.inflight sh.now (.taken key entry)]⟩
  | drained (did : String) (reason : DisconnectReason) (seq : ℤ) (entry : ℕ)
      (taken : List (ℤ × ℕ)) (removed : List StreamMapping)
      (at_pc : l.pc = .draining did reason ((seq, entry) :: taken) removed) :
      Moves sh n i l
        ⟨sh.withTable (sh.table.complete entry (Controller.offlineReply did seq)),
          l.goto (.draining did reason taken removed),
          [.inflight sh.now (.completed entry (Controller.offlineReply did seq))]⟩
  | removedSession (did connectionId : String) (at_pc : l.pc = .removingSession did) :
      Moves sh n i l
        ⟨{ sh with relay := { sh.relay with
            sessionsByDeviceId := sh.relay.sessionsByDeviceId.erase did } },
          l.goto (.removingConnection did connectionId), []⟩

variable {cfg : Config} {sh : Shared} {n i : ℕ} {l : Device} {msg : DeviceMessage}
  {did : String} {reason : DisconnectReason}

/-- A move that neither takes nor completes an entry, leaves the sessions alone and tells no
controller anything. -/
theorem moves_goto {sh' : Shared} {pc' : DevPc} {events : List Event} (quiet : sh.Quiet sh')
    (pending : pc'.pending = l.pc.pending)
    (registering : pc'.registering = none ∨ pc'.registering = l.pc.registering)
    (collected : ∀ did keys, pc'.collected = some (did, keys) →
      keys = [] ∨ ∃ keys', l.pc.collected = some (did, keys') ∧ keys ⊆ keys')
    (plain : ∀ e ∈ events, e.Plain ∧ ∀ c r, e ≠ .notified c r) :
    Moves sh n i l ⟨sh', l.goto pc', events⟩ :=
  .silent sh' pc' l.currentConnectionId events quiet pending registering collected
    (fun e he => (plain e he).1) fun c r he => absurd rfl ((plain _ he).2 c r)

theorem moves_handle (at_pc : l.pc = .handling msg) :
    Moves sh n i l (handle sh n i l msg) := by
  have fails : Moves sh n i l ⟨sh, l.goto (.closing .error), []⟩ :=
    moves_goto (.refl sh) (by simp [at_pc, DevPc.pending]) (Or.inl rfl)
      (by simp [DevPc.collected]) (by simp)
  have goesOn (events : List Event) (plain : ∀ e ∈ events, e.Plain ∧ ∀ c r, e ≠ .notified c r) :
      Moves sh n i l ⟨sh, l.goto .reading, events⟩ :=
    moves_goto (.refl sh) (by simp [at_pc, DevPc.pending]) (Or.inl rfl)
      (by simp [DevPc.collected]) plain
  unfold handle
  split_ifs
  · split
    · rename_i request _
      unfold register
      split
      · exact .authenticated msg request _ at_pc ‹_›
      · exact fails
    · unfold heartbeat
      split
      · exact goesOn _ (by simpa using Event.Plain.relayed i .heartbeatResponse)
      · exact fails
    · rename_i response _
      unfold data
      split
      · exact fails
      · rename_i deviceId hid
        rw [Controller.takeInflight_eq]
        cases h : (sh.table.take (deviceId, response.sequenceNumber)).2 with
        | none => exact .unasked msg deviceId response at_pc hid (SingleFlight.Table.take_eq_none h)
        | some entry => exact .answered msg deviceId response entry at_pc hid h
    · exact goesOn [] (by simp)
  · exact fails

theorem moves_receive (at_pc : l.pc = .reading) : Moves sh n i l (receive sh l msg) := by
  unfold receive
  split_ifs
  · exact moves_goto (.refl sh) (by simp [at_pc, DevPc.pending]) (Or.inl rfl)
      (by simp [DevPc.collected]) (by simp)
  · exact moves_goto (.refl sh) (by simp [at_pc, DevPc.pending]) (Or.inl rfl)
      (by simp [DevPc.collected]) (by simp)

theorem moves_allowDevice {request : RegisterRequest} (at_pc : l.pc = .admitting msg request) :
    Moves sh n i l (allowDevice sh l msg request) := by
  unfold allowDevice
  split
  · exact moves_goto ⟨rfl, rfl, rfl, rfl, rfl, rfl⟩ (by simp [at_pc, DevPc.pending])
      (by simp [at_pc, DevPc.registering]) (by simp [DevPc.collected]) (by simp)
  · exact moves_goto ⟨rfl, rfl, rfl, rfl, rfl, rfl⟩ (by simp [at_pc, DevPc.pending])
      (Or.inl rfl) (by simp [DevPc.collected]) (by simp)

theorem moves_install {request : RegisterRequest} {cid : String} {resumed : Bool}
    (at_pc : l.pc = .installing msg request cid resumed) :
    Moves sh n i l (install sh i l msg request cid resumed) := by
  unfold install
  refine .installed msg ⟨msg.deviceId, cid, request.metadata, i⟩ resumed _
    (by rw [at_pc]; rfl) rfl rfl ⟨by rw [at_pc]; rfl, ?_⟩ ?_ ?_
  all_goals split <;> rfl

theorem moves_link {request : RegisterRequest} {cid : String} {resumed : Bool}
    (at_pc : l.pc = .linking msg request cid resumed) :
    Moves sh n i l (link cfg sh l msg request cid resumed) := by
  refine .silent _ _ _ _ ⟨rfl, rfl, rfl, rfl, rfl, rfl⟩ (by rw [at_pc]; rfl) (Or.inl rfl)
    (by simp [DevPc.collected]) ?_ ?_
  · split_ifs
    · simpa using Event.Plain.mqtt ..
    · simp
  · split_ifs <;> simp

theorem moves_close (at_pc : l.pc = .closing reason) : Moves sh n i l (close sh l reason) := by
  unfold close
  split
  · exact moves_goto (.refl sh) (by simp [at_pc, DevPc.pending]) (Or.inl rfl)
      (by simp [DevPc.collected]) (by simp)
  · exact moves_goto (.refl sh) (by simp [at_pc, DevPc.pending]) (Or.inl rfl)
      (by simp [DevPc.collected]) (by simp)

theorem moves_visit {keys : List RequestKey} {key : RequestKey} {next : Next Device}
    (at_pc : l.pc = .scanning did reason keys)
    (met : visit sh l did reason keys key = some next) : Moves sh n i l next := by
  unfold visit at met
  split at met
  · cases met
  · rename_i entry hl
    split_ifs at met with ht
    cases met
    exact .visited did reason keys key entry at_pc hl ht

theorem moves_sweep {keys : List RequestKey} {taken : List (ℤ × ℕ)}
    (at_pc : l.pc = .sweeping did reason keys taken) :
    Moves sh n i l (sweep sh l did reason taken keys) := by
  cases keys with
  | nil =>
    exact moves_goto ⟨rfl, rfl, rfl, rfl, rfl, rfl⟩ (by simp [at_pc, DevPc.pending]) (Or.inl rfl)
      (by simp [DevPc.collected]) (by simp)
  | cons key keys =>
    simp only [sweep]
    rw [Controller.takeInflight_eq]
    cases h : (sh.table.take key).2 with
    | none =>
      refine moves_goto (.refl sh) (by simp [at_pc, DevPc.pending]) (Or.inl rfl) ?_ (by simp)
      rintro did' keys' hk
      obtain ⟨rfl, rfl⟩ : did = did' ∧ keys = keys' := by simpa [DevPc.collected] using hk
      exact Or.inr ⟨key :: keys, by rw [at_pc]; rfl, List.subset_cons_self ..⟩
    | some entry => exact .swept did reason key keys taken entry at_pc h

theorem moves_drain {taken : List (ℤ × ℕ)} {removed : List StreamMapping}
    (at_pc : l.pc = .draining did reason taken removed) :
    Moves sh n i l (drain sh l did reason removed taken) := by
  cases taken with
  | nil =>
    exact moves_goto (.refl sh) (by simp [at_pc, DevPc.pending]) (Or.inl rfl)
      (by simp [DevPc.collected]) (by simp)
  | cons e taken => exact .drained did reason e.1 e.2 taken removed at_pc

theorem moves_notify {removed : List StreamMapping} (at_pc : l.pc = .notifying did reason removed) :
    Moves sh n i l (notify sh l did reason removed) := by
  cases removed with
  | nil =>
    exact moves_goto (.refl sh) (by simp [at_pc, DevPc.pending]) (Or.inl rfl)
      (by simp [DevPc.collected]) (by simp)
  | cons mapping removed =>
    refine .silent sh _ l.currentConnectionId _ (.refl sh) (by simp [at_pc, DevPc.pending])
      (Or.inl rfl) (by simp [DevPc.collected]) ?_ ?_
    · split_ifs
      · simpa using Event.Plain.notified _ _ rfl
      · simp
    · intro c r he
      split_ifs at he with hidle
      · obtain ⟨rfl, rfl⟩ : c = mapping.controllerTx ∧ r = Controller.offlineReply did 0 := by
          simpa using he
        exact ⟨did, reason, mapping, removed, at_pc, hidle, rfl, rfl⟩
      · simp at he

theorem moves_verify {current : Option String} (at_pc : l.pc = .verifying did reason current) :
    Moves sh n i l (verify cfg sh l did reason current) := by
  unfold verify
  by_cases own : ownsSession sh l did = true
  · rw [if_pos own]
    refine moves_goto (.refl sh) (by simp [at_pc, DevPc.pending]) (Or.inl rfl)
      (by simp [DevPc.collected]) ?_
    split
    · rename_i cid
      split_ifs
      · simpa using Event.Plain.mqtt (.deviceOffline did cid reason)
      · simp
    · simp
  · rw [if_neg own]
    exact moves_goto (.refl sh) (by simp [at_pc, DevPc.pending]) (Or.inl rfl)
      (by simp [DevPc.collected]) (by simp)

theorem moves_removeSession (at_pc : l.pc = .removingSession did) :
    Moves sh n i l (removeSession sh l did) := by
  unfold removeSession
  split
  · exact moves_goto (.refl sh) (by simp [at_pc, DevPc.pending]) (Or.inl rfl)
      (by simp [DevPc.collected]) (by simp)
  · exact .removedSession did _ at_pc

theorem moves_of_step {input : DevInput} {next : Next Device}
    (h : step cfg sh n i l input = some next) : Moves sh n i l next := by
  cases input with
  | recv msg =>
    simp only [step] at h
    split at h
    · cases h; exact moves_receive ‹_›
    · cases h
  | recvError | eof | timeout =>
    simp only [step] at h
    split at h
    · rename_i hpc
      cases h
      exact moves_goto (.refl sh) (by simp [hpc, DevPc.pending]) (Or.inl rfl)
        (by simp [DevPc.collected]) (by simp)
    · cases h
  | health isHealthy =>
    simp only [step] at h
    split at h
    · rename_i hpc
      cases h
      cases isHealthy <;>
      exact moves_goto (.refl sh) (by simp [hpc, DevPc.pending])
        (by simp [hpc, DevPc.registering]) (by simp [DevPc.collected]) (by simp)
    · cases h
  | visit key =>
    simp only [step] at h
    split at h
    · exact moves_visit ‹_› h
    · cases h
  | tick =>
    simp only [step] at h
    split at h
    case h_1 hpc =>
      cases h
      exact moves_goto ⟨rfl, rfl, rfl, rfl, rfl, rfl⟩ (by simp [hpc, DevPc.pending])
        (by simp [hpc, DevPc.registering]) (by simp [DevPc.collected]) (by simp)
    case h_2 hpc => cases h; exact moves_handle hpc
    case h_3 hpc => cases h; exact moves_allowDevice hpc
    case h_4 hpc =>
      cases h
      exact moves_goto ⟨rfl, rfl, rfl, rfl, rfl, rfl⟩ (by simp [hpc, DevPc.pending])
        (by simp [hpc, DevPc.registering]) (by simp [DevPc.collected]) (by simp)
    case h_5 hpc =>
      cases h
      exact moves_goto (.refl sh) (by simp [hpc, DevPc.pending])
        (by simp [hpc, DevPc.registering]) (by simp [DevPc.collected]) (by simp)
    case h_6 hpc => cases h; exact moves_install hpc
    case h_7 hpc =>
      cases h
      exact moves_goto ⟨rfl, rfl, rfl, rfl, rfl, rfl⟩ (by simp [hpc, DevPc.pending])
        (by simp [hpc, DevPc.registering]) (by simp [DevPc.collected]) (by simp)
    case h_8 hpc => cases h; exact moves_link hpc
    case h_9 hpc =>
      cases h
      exact moves_goto (.refl sh) (by simp [hpc, DevPc.pending]) (Or.inl rfl)
        (by simp [DevPc.collected]) (by simpa using Event.Plain.relayed i _)
    case h_10 hpc => cases h; exact .completed _ _ hpc
    case h_11 hpc => cases h; exact moves_close hpc
    case h_12 hpc =>
      cases h
      refine moves_goto (.refl sh) (by simp [hpc, DevPc.pending]) (Or.inl rfl) ?_ (by simp)
      intro did keys hk
      exact Or.inr ⟨keys, by rw [hpc]; exact hk, List.Subset.refl _⟩
    case h_13 hpc => cases h; exact moves_sweep hpc
    case h_14 hpc => cases h; exact moves_drain hpc
    case h_15 hpc => cases h; exact moves_notify hpc
    case h_16 hpc =>
      cases h
      exact moves_goto (.refl sh) (by simp [hpc, DevPc.pending]) (Or.inl rfl)
        (by simp [DevPc.collected]) (by simp)
    case h_17 hpc => cases h; exact moves_verify hpc
    case h_18 hpc => cases h; exact moves_removeSession hpc
    case h_19 hpc =>
      cases h
      exact moves_goto ⟨rfl, rfl, rfl, rfl, rfl, rfl⟩ (by simp [hpc, DevPc.pending]) (Or.inl rfl)
        (by simp [DevPc.collected]) (by simp)
    case h_20 hpc =>
      cases h
      exact moves_goto ⟨rfl, rfl, rfl, rfl, rfl, rfl⟩ (by simp [hpc, DevPc.pending]) (Or.inl rfl)
        (by simp [DevPc.collected]) (by simp)
    all_goals cases h

theorem events_of_moves {next : Next Device} (move : Moves sh n i l next) :
    ∀ e ∈ next.events, e.OfStream i := by
  cases move
  case silent plain _ => exact fun e he => .plain e (plain e he)
  all_goals
    intro e he
    simp only [List.mem_cons, List.not_mem_nil, or_false] at he
  case authenticated => exact he ▸ .deviceAuthenticated ..
  case answered =>
    rcases he with rfl | rfl
    · exact .data ..
    · exact .inflight ..
  case unasked => exact he ▸ .data ..
  case installed => exact he ▸ .registered ..
  all_goals exact he ▸ .inflight ..

theorem timer_of_moves {next : Next Device} (move : Moves sh n i l next) :
    next.shared.timer = sh.timer ∧ next.shared.table.cells = sh.table.cells ∧
      ∀ k a, next.shared.table.entries.lookup k = some a →
        sh.table.entries.lookup k = some a := by
  cases move
  case answered | swept =>
    exact ⟨rfl, SingleFlight.Table.take_cells _ _,
      fun k a h => (SingleFlight.Table.lookup_of_take h).1⟩
  case silent quiet _ _ _ _ _ =>
    refine ⟨quiet.timer, congrArg _ quiet.inflight, fun k a h => ?_⟩
    have table := quiet.inflight
    simp only at h
    rwa [Shared.table, table] at h
  all_goals exact ⟨rfl, rfl, fun _ _ h => h⟩

/-- What a device stream leaves alone: everything but the relay's state, the router and the
connection limiter, and of the relay's state the count of connections. -/
abbrev Frame (sh sh' : Shared) : Prop :=
  sh' = { sh with
    relay := { sh'.relay with
      controllerConnectionCount := sh.relay.controllerConnectionCount }
    router := sh'.router
    connectionLimiter := sh'.connectionLimiter }

theorem frame_handle : Frame sh (handle sh n i l msg).shared := by
  unfold handle
  split_ifs
  · split
    · unfold register
      split <;> rfl
    · unfold heartbeat
      split <;> rfl
    · unfold data
      split
      · rfl
      · split
        · rename_i took
          rw [Controller.takeInflight_eq] at took
          obtain ⟨rfl, -⟩ := Prod.mk.inj took
          rfl
        · rfl
    · rfl
  · rfl

theorem frame_sweep {keys : List RequestKey} {taken : List (ℤ × ℕ)} :
    Frame sh (sweep sh l did reason taken keys).shared := by
  cases keys with
  | nil => rfl
  | cons key keys =>
    simp only [sweep]
    split
    · rename_i took
      rw [Controller.takeInflight_eq] at took
      obtain ⟨rfl, -⟩ := Prod.mk.inj took
      rfl
    · rfl

theorem frame_of_step {input : DevInput} {next : Next Device}
    (h : step cfg sh n i l input = some next) : Frame sh next.shared := by
  unfold step at h
  split at h
  case h_1 =>
    split at h <;> cases h
    unfold receive
    split_ifs <;> rfl
  case h_2 | h_3 | h_4 | h_5 => split at h <;> cases h; rfl
  case h_6 =>
    split at h
    · unfold visit at h
      split at h
      · cases h
      · split_ifs at h
        cases h
        rfl
    · cases h
  case h_7 =>
    split at h <;> cases h
    case h_2 => exact frame_handle
    case h_3 => unfold allowDevice; split <;> rfl
    case h_11 => unfold close; split <;> rfl
    case h_13 => exact frame_sweep
    case h_14 taken _ _ => cases taken <;> rfl
    case h_15 removed _ => cases removed <;> rfl
    case h_17 => unfold verify; split_ifs <;> rfl
    case h_18 => unfold removeSession; split <;> rfl
    all_goals rfl

end Device

/-! ## The system -/

/-- A request is placed by a loop that is about to send it, in a step that does nothing else. -/
def Places (s s' : State) (c i : ℕ) (m : ControllerMessage) (request : DataRequest) : Prop :=
  ∃ rx session, (s.ctrl c).pc = .forwarding m rx session ∧
    s' = s.afterCtrl c
      ⟨s.shared, (s.ctrl c).goto (.waiting m rx true), [.placed c i m request]⟩ ∧
    i = session.outboundTx ∧ request = Controller.relayRequest m session

/-- The steps of the system.  Those that concern no request are `ambient`: the stale-stream task,
the clock, revocations, the rate limiter and outbound channels. -/
inductive StepCases (cfg : Config) (s : State) : Action → State → Prop
  | ctrl (c : ℕ) (input : CtrlInput) (next : Next Controller)
      (move : Controller.Moves cfg s.shared c (s.ctrl c) input next) :
      StepCases cfg s (.ctrl c input) (s.afterCtrl c next)
  | dev (i : ℕ) (input : DevInput) (next : Next Device)
      (move : Device.Moves s.shared s.trace.length i (s.dev i) next) :
      StepCases cfg s (.dev i input) (s.afterDev i next)
  | fired (e : ℕ) (d : String) (q : ℤ) (deadline : Instant) (entry : ℕ)
      (at_pc : s.shared.timer e = .sleeping d q deadline) (due : deadline ≤ s.shared.now)
      (found : (s.shared.table.take (d, q)).2 = some entry) :
      StepCases cfg s (.timer e) (s.afterTimer e
        ⟨s.shared.withTable (s.shared.table.take (d, q)).1, .completing d q entry,
          [.inflight s.shared.now (.taken (d, q) entry), .timedOut s.shared.now e entry]⟩)
  | firedLate (e : ℕ) (d : String) (q : ℤ) (deadline : Instant)
      (at_pc : s.shared.timer e = .sleeping d q deadline)
      (absent : s.shared.table.entries.lookup (d, q) = none) :
      StepCases cfg s (.timer e) (s.afterTimer e ⟨s.shared, .done, []⟩)
  | completed (e : ℕ) (d : String) (q : ℤ) (entry : ℕ)
      (at_pc : s.shared.timer e = .completing d q entry) :
      StepCases cfg s (.timer e) (s.afterTimer e
        ⟨s.shared.withTable (s.shared.table.complete entry (Controller.offlineReply d q)), .done,
          [.inflight s.shared.now (.completed entry (Controller.offlineReply d q))]⟩)
  | evicted (k : RequestKey) :
      StepCases cfg s (.evict k)
        { s with
          shared := { s.shared with cache := s.shared.cache.erase k }
          trace := s.trace ++ [Event.evicted k] }
  | ambient (a : Action) (sh' : Shared) (reaper' : Reaper) (events : List Event)
      (now : s.shared.now ≤ sh'.now)
      (inflight : sh'.relay.inflightBySequence = s.shared.relay.inflightBySequence)
      (sessions : sh'.relay.sessionsByDeviceId = s.shared.relay.sessionsByDeviceId)
      (cache : sh'.cache = s.shared.cache) (timer : sh'.timer = s.shared.timer)
      (auth : sh'.auth.enabled = s.shared.auth.enabled) (plain : ∀ e ∈ events, e.Plain)
      (notices : ∀ c r, .notified c r ∈ events → a = .reaper ∧ ∃ mapping removed,
        s.reaper = .notifying (mapping :: removed) ∧ c = mapping.controllerTx ∧
          r = Controller.offlineReply mapping.deviceId 0) :
      StepCases cfg s a { s with shared := sh', reaper := reaper', trace := s.trace ++ events }

variable {cfg : Config} {s s' : State}

theorem stepCases_timer {e : ℕ} (h : step cfg s (.timer e) = some s') :
    StepCases cfg s (.timer e) s' := by
  obtain ⟨n, hn, rfl⟩ := Option.map_eq_some_iff.1 h
  unfold Timer.step at hn
  split at hn
  · rename_i d q deadline hpc
    split_ifs at hn with due
    rw [Controller.takeInflight_eq] at hn
    cases ht : (s.shared.table.take (d, q)).2 with
    | none =>
      simp only [ht] at hn
      cases hn
      exact .firedLate e d q deadline hpc (SingleFlight.Table.take_eq_none ht)
    | some entry =>
      simp only [ht] at hn
      cases hn
      exact .fired e d q deadline entry hpc due ht
  · rename_i d q entry hpc
    cases hn
    exact .completed e d q entry hpc
  · cases hn
  · cases hn

/-- A step that concerns no request and leaves no event. -/
theorem stepCases_silent {a : Action} {sh' : Shared} {reaper' : Reaper}
    (now : s.shared.now ≤ sh'.now)
    (inflight : sh'.relay.inflightBySequence = s.shared.relay.inflightBySequence)
    (sessions : sh'.relay.sessionsByDeviceId = s.shared.relay.sessionsByDeviceId)
    (cache : sh'.cache = s.shared.cache) (timer : sh'.timer = s.shared.timer)
    (auth : sh'.auth.enabled = s.shared.auth.enabled) :
    StepCases cfg s a { s with shared := sh', reaper := reaper' } := by
  have h : StepCases cfg s a _ := .ambient a sh' reaper' [] now inflight sessions cache timer auth
    (by simp) (by simp)
  rwa [List.append_nil] at h

theorem stepCases_reaper : StepCases cfg s .reaper
    { s with
      shared := (Reaper.step s.shared s.reaper).shared
      reaper := (Reaper.step s.shared s.reaper).loc
      trace := s.trace ++ (Reaper.step s.shared s.reaper).events } := by
  cases h : s.reaper with
  | sleeping => exact .ambient _ _ _ [] le_rfl rfl rfl rfl rfl rfl (by simp) (by simp)
  | removing stale removed =>
    cases stale with
    | nil => exact .ambient _ _ _ [] le_rfl rfl rfl rfl rfl rfl (by simp) (by simp)
    | cons sid stale =>
      simp only [Reaper.step]
      split
      · exact .ambient _ _ _ [] le_rfl rfl rfl rfl rfl rfl (by simp) (by simp)
      · exact .ambient _ _ _ [] le_rfl rfl rfl rfl rfl rfl (by simp) (by simp)
  | notifying removed =>
    cases removed with
    | nil => exact .ambient _ _ _ [] le_rfl rfl rfl rfl rfl rfl (by simp) (by simp)
    | cons mapping removed =>
      refine .ambient _ _ _ _ le_rfl rfl rfl rfl rfl rfl ?_ ?_
      · simpa [Reaper.step] using Event.Plain.notified _ _ rfl
      · intro c r he
        obtain ⟨rfl, rfl⟩ : c = mapping.controllerTx ∧
            r = Controller.offlineReply mapping.deviceId 0 := by simpa [Reaper.step] using he
        exact ⟨rfl, mapping, removed, h, rfl, rfl⟩

theorem step_cases {a : Action} (h : step cfg s a = some s') : StepCases cfg s a s' := by
  cases a with
  | ctrl c input =>
    obtain ⟨n, hn, rfl⟩ := Option.map_eq_some_iff.1 h
    exact .ctrl c input n (Controller.moves_of_step hn)
  | dev i input =>
    obtain ⟨n, hn, rfl⟩ := Option.map_eq_some_iff.1 h
    exact .dev i input n (Device.moves_of_step hn)
  | timer e => exact stepCases_timer h
  | reaper => cases h; exact stepCases_reaper
  | advance now =>
    simp only [step] at h
    split_ifs at h with hle
    cases h
    exact stepCases_silent hle rfl rfl rfl rfl rfl
  | evict k =>
    simp only [step] at h
    split_ifs at h
    cases h
    exact .evicted k
  | revokeControllerToken p | revokeDeviceToken p | allow d c | closeOutbound i =>
    cases h
    exact stepCases_silent le_rfl rfl rfl rfl rfl rfl

/-- A run only adds events. -/
theorem trace_of_cases {a : Action} (h : StepCases cfg s a s') :
    ∃ events, s'.trace = s.trace ++ events := by
  cases h <;> exact ⟨_, rfl⟩

/-- A loop moves only in its own steps. -/
theorem ctrl_of_cases {a : Action} (h : StepCases cfg s a s') {c : ℕ}
    (other : ∀ input, a ≠ .ctrl c input) : s'.ctrl c = s.ctrl c := by
  cases h with
  | ctrl c' input next move =>
    have hc : c ≠ c' := fun hc => other input (by rw [hc])
    simp [State.afterCtrl, hc]
  | dev | fired | firedLate | completed | evicted | ambient => rfl

/-- A loop that makes no step of its own in a run is where it was. -/
theorem ctrl_of_execute {c : ℕ} {actions : List Action} {s₀ : State}
    (run : Runs.execute (step cfg) s₀ actions = some s)
    (untouched : ∀ a ∈ actions, ∀ input, a ≠ .ctrl c input) : s.ctrl c = s₀.ctrl c := by
  induction actions generalizing s₀ with
  | nil => cases run; rfl
  | cons a actions ih =>
    obtain ⟨s₁, hs, run⟩ := Option.bind_eq_some_iff.1 run
    rw [ih run fun a' ha' => untouched a' (List.mem_cons_of_mem _ ha')]
    exact ctrl_of_cases (step_cases hs) (untouched a List.mem_cons_self)

/-- A request is placed by a step of its loop. -/
theorem ctrl_of_placed {a : Action} (h : StepCases cfg s a s') {events : List Event}
    (trace : s'.trace = s.trace ++ events) {c i : ℕ} {m : ControllerMessage}
    {request : DataRequest} (placed : .placed c i m request ∈ events) :
    ∃ input next, a = .ctrl c input ∧ s' = s.afterCtrl c next ∧ next.events = events ∧
      Controller.Moves cfg s.shared c (s.ctrl c) input next := by
  cases h with
  | ctrl c' input next move =>
    obtain rfl := List.append_cancel_left trace
    obtain ⟨-, -, -, -, rfl, -⟩ := Controller.placed_of_moves move placed
    exact ⟨input, next, rfl, rfl, rfl, move⟩
  | dev i' input next move =>
    obtain rfl := List.append_cancel_left trace
    cases Device.events_of_moves move _ placed with
    | plain _ plain => cases plain
  | fired | firedLate | completed | evicted =>
    obtain rfl := List.append_cancel_left trace
    simp at placed
  | ambient _ sh' reaper' events' _ _ _ _ _ _ plain _ =>
    obtain rfl := List.append_cancel_left trace
    cases plain _ placed

/-- Every step places at most one request, and says so. -/
theorem places_of_cases {a : Action} (h : StepCases cfg s a s') {events : List Event}
    (trace : s'.trace = s.trace ++ events) {c i : ℕ} {m : ControllerMessage}
    {request : DataRequest} (placed : .placed c i m request ∈ events) :
    Places s s' c i m request := by
  obtain ⟨input, next, rfl, rfl, rfl, move⟩ := ctrl_of_placed h trace placed
  obtain ⟨rx, session, hpc, hnext, -, hi, hreq⟩ := Controller.placed_of_moves move placed
  exact ⟨rx, session, hpc, by rw [hnext], hi, hreq⟩

/-- A `Data` message is the first event of the step that receives it, and counts for the device
that its stream is registered as. -/
theorem data_of_cases {a : Action} (h : StepCases cfg s a s') {events : List Event}
    (trace : s'.trace = s.trace ++ events) {i : ℕ} {d : String} {response : DataResponse}
    (data : .data i d response ∈ events) : (s.dev i).currentDeviceId = some d ∧
      ∃ later, events = .data i d response :: later ∧ ∀ e ∈ later, ∃ t o, e = .inflight t o := by
  cases h with
  | ctrl c input next move =>
    obtain rfl := List.append_cancel_left trace
    cases Controller.events_of_moves move _ data
  | dev i' input next move =>
    obtain rfl := List.append_cancel_left trace
    cases move with
    | silent sh' pc' connectionId events _ _ _ _ plain _ => cases plain _ data
    | answered msg deviceId response' entry at_pc identity _ =>
      obtain ⟨rfl, rfl, rfl⟩ : i = i' ∧ d = deviceId ∧ response = response' := by simpa using data
      exact ⟨identity, _, rfl, by simp⟩
    | unasked msg deviceId response' at_pc identity _ =>
      obtain ⟨rfl, rfl, rfl⟩ : i = i' ∧ d = deviceId ∧ response = response' := by simpa using data
      exact ⟨identity, _, rfl, by simp⟩
    | authenticated | installed | completed | visited | swept | drained | removedSession =>
      simp at data
  | fired | firedLate | completed | evicted =>
    obtain rfl := List.append_cancel_left trace
    simp at data
  | ambient _ sh' reaper' events' _ _ _ _ _ _ plain _ =>
    obtain rfl := List.append_cancel_left trace
    cases plain _ data

/-- What a loop answers is made up by the relay, or is the response it was about to send. -/
theorem answered_of_cases {a : Action} (h : StepCases cfg s a s') {events : List Event}
    (trace : s'.trace = s.trace ++ events) {c : ℕ} {r : Reply}
    (answered : .answered c r ∈ events) : r.origin = .relay ∨
      ∃ m, (s.ctrl c).pc = .sending m r ∧ events = [.answered c r] := by
  cases h with
  | ctrl c' input next move =>
    obtain rfl := List.append_cancel_left trace
    obtain ⟨rfl, ho | ⟨m, hpc, hnext⟩⟩ := Controller.answered_of_moves move answered
    · exact Or.inl ho
    · exact Or.inr ⟨m, hpc, by rw [hnext]⟩
  | dev i input next move =>
    obtain rfl := List.append_cancel_left trace
    cases Device.events_of_moves move _ answered with
    | plain _ plain => cases plain
  | fired | firedLate | completed | evicted =>
    obtain rfl := List.append_cancel_left trace
    simp at answered
  | ambient _ sh' reaper' events' _ _ _ _ _ _ plain _ =>
    obtain rfl := List.append_cancel_left trace
    cases plain _ answered

/-- The notices that other tasks send to a stream are made up by the relay. -/
theorem notified_of_cases {a : Action} (h : StepCases cfg s a s') {events : List Event}
    (trace : s'.trace = s.trace ++ events) {c : ℕ} {r : Reply}
    (notified : .notified c r ∈ events) : r.origin = .relay := by
  cases h with
  | ctrl c' input next move =>
    obtain rfl := List.append_cancel_left trace
    cases Controller.events_of_moves move _ notified
  | dev i input next move =>
    obtain rfl := List.append_cancel_left trace
    cases Device.events_of_moves move _ notified with
    | plain _ plain => cases plain; assumption
  | fired | firedLate | completed | evicted =>
    obtain rfl := List.append_cancel_left trace
    simp at notified
  | ambient _ sh' reaper' events' _ _ _ _ _ _ plain _ =>
    obtain rfl := List.append_cancel_left trace
    cases plain _ notified
    assumption

end GrpcRelay
