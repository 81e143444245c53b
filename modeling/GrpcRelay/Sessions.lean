import GrpcRelay.Atomic

/-!
# The session registry

`SessionMaps` is the part of `RelayState` that registrations and cleanups of device streams write:
the sessions, their connection ids, the times the devices were last seen, and the counter of
connection ids.  `SessionStep` lists what a whole step of the relay can do to it; proofs about the
registry go by these cases.
-/

namespace GrpcRelay

/-- The sessions of the devices, the devices of the connections, the times the devices were last
seen, and the counter that connection ids are drawn from. -/
structure SessionMaps where
  sessionsByDeviceId : DashMap String DeviceSession
  connectionToDeviceId : DashMap String String
  deviceLastSeen : DashMap String Instant
  connectionIdCounter : ℕ

/-- The registry of the relay. -/
def RelayState.maps (st : RelayState) : SessionMaps :=
  ⟨st.sessionsByDeviceId, st.connectionToDeviceId, st.deviceLastSeen, st.connectionIdCounter⟩

/-- The registry in a state. -/
abbrev State.maps (s : State) : SessionMaps := s.shared.relay.maps

namespace SessionMaps

/-- A message arrives on the active session of a device. -/
def touch (r : SessionMaps) (deviceId : String) (now : Instant) : SessionMaps :=
  { r with deviceLastSeen := r.deviceLastSeen.insert deviceId now }

/-- The connection id that is drawn next. -/
def nextId (r : SessionMaps) : String := "conn-" ++ toString r.connectionIdCounter

/-- The devices of the connections without that of a replaced session. -/
def unlinked (r : SessionMaps) (deviceId : String) : DashMap String String :=
  match r.sessionsByDeviceId.lookup deviceId with
  | some previous => r.connectionToDeviceId.erase previous.connectionId
  | none => r.connectionToDeviceId

/-- A connection id is drawn and the session with it is installed. -/
def install (r : SessionMaps) (session : DeviceSession) : SessionMaps where
  sessionsByDeviceId := r.sessionsByDeviceId.insert session.deviceId session
  connectionToDeviceId :=
    (r.unlinked session.deviceId).insert session.connectionId session.deviceId
  deviceLastSeen := r.deviceLastSeen
  connectionIdCounter := (r.connectionIdCounter + 1) % UInt64.size

/-- The session of a device is removed. -/
def remove (r : SessionMaps) (deviceId : String) (session : DeviceSession) : SessionMaps where
  sessionsByDeviceId := r.sessionsByDeviceId.erase deviceId
  connectionToDeviceId := r.connectionToDeviceId.erase session.connectionId
  deviceLastSeen := r.deviceLastSeen.erase deviceId
  connectionIdCounter := r.connectionIdCounter

end SessionMaps

/-! ### Sessions and connections -/

namespace SessionMaps

variable {r : SessionMaps} {session : DeviceSession} {cid d : String}

theorem lookup_unlinked {d' : String} (h : (r.unlinked d).lookup cid = some d') :
    r.connectionToDeviceId.lookup cid = some d' ∧
      ∀ previous, r.sessionsByDeviceId.lookup d = some previous →
        cid ≠ previous.connectionId := by
  unfold unlinked at h
  split at h
  · rename_i previous found
    rw [DashMap.lookup_erase_ite] at h
    split_ifs at h with hc
    refine ⟨h, fun previous' found' => ?_⟩
    rw [found] at found'
    cases found'
    exact hc
  · rename_i absent
    exact ⟨h, fun previous found => by rw [absent] at found; cases found⟩

/-- A connection of a device keeps naming its session when a session is installed. -/
theorem connections_install
    (h : r.connectionToDeviceId.lookup cid = some d →
      ∃ session, r.sessionsByDeviceId.lookup d = some session ∧ session.connectionId = cid)
    (found : (r.install session).connectionToDeviceId.lookup cid = some d) :
    ∃ session', (r.install session).sessionsByDeviceId.lookup d = some session' ∧
      session'.connectionId = cid := by
  simp only [install, DashMap.lookup_insert_ite] at found ⊢
  split_ifs at found with hc
  · obtain rfl : session.deviceId = d := by simpa using found
    exact ⟨session, by simp, hc.symm⟩
  · obtain ⟨linked, fresh⟩ := lookup_unlinked found
    obtain ⟨session', hs, rfl⟩ := h linked
    refine ⟨session', ?_, rfl⟩
    rw [if_neg, hs]
    rintro rfl
    exact fresh session' hs rfl

/-- A connection of a device keeps naming its session when a session is removed. -/
theorem connections_remove
    (h : r.connectionToDeviceId.lookup cid = some d →
      ∃ session, r.sessionsByDeviceId.lookup d = some session ∧ session.connectionId = cid)
    {did : String} (own : r.sessionsByDeviceId.lookup did = some session)
    (found : (r.remove did session).connectionToDeviceId.lookup cid = some d) :
    ∃ session', (r.remove did session).sessionsByDeviceId.lookup d = some session' ∧
      session'.connectionId = cid := by
  simp only [remove, DashMap.lookup_erase_ite] at found ⊢
  split_ifs at found with hc
  obtain ⟨session', hs, rfl⟩ := h found
  refine ⟨session', ?_, rfl⟩
  rw [if_neg, hs]
  rintro rfl
  rw [own] at hs
  cases hs
  exact hc rfl

end SessionMaps

/-- The shared state with another registry. -/
def Shared.withMaps (sh : Shared) (r : SessionMaps) : Shared :=
  { sh with relay := { sh.relay with
      sessionsByDeviceId := r.sessionsByDeviceId
      connectionToDeviceId := r.connectionToDeviceId
      deviceLastSeen := r.deviceLastSeen
      connectionIdCounter := r.connectionIdCounter } }

@[simp] theorem Shared.maps_withMaps (sh : Shared) (r : SessionMaps) :
    (sh.withMaps r).relay.maps = r := rfl

/-- Events that tell of a registration or of a session's end. -/
def Event.tellsSession : Event → Bool
  | .registered .. | .mqtt _ | .relayed _ (.registerResponse ..) => true
  | _ => false

/-! ## Other tasks -/

namespace Controller

variable {cfg : Config} {sh : Shared} {c : ℕ} {l : Controller} {m : ControllerMessage}

theorem maps_connect : (connect sh l).1.relay.maps = sh.relay.maps := by
  unfold connect
  split_ifs <;> rfl

theorem maps_authenticate :
    (authenticate cfg sh c l m).shared.relay.maps = sh.relay.maps := by
  unfold authenticate
  split
  · rfl
  · dsimp only
    split
    · exact maps_connect
    · split <;> exact maps_connect

theorem maps_limit : (limit sh c l m).shared.relay.maps = sh.relay.maps := by
  unfold limit
  split <;> rfl

theorem maps_createMapping :
    (createMapping sh c l m).shared.relay.maps = sh.relay.maps := by
  unfold createMapping
  split
  · rfl
  · split_ifs <;> rfl

theorem maps_receive : (receive sh c l m).shared.relay.maps = sh.relay.maps := by
  unfold receive
  split
  · rfl
  · split_ifs <;> rfl

theorem maps_beginRequest : (beginRequest sh l).relay.maps = sh.relay.maps := by
  unfold beginRequest
  split <;> rfl

theorem maps_finishRequest : (finishRequest sh l).relay.maps = sh.relay.maps := by
  unfold finishRequest
  split <;> rfl

/-- A loop leaves the registry alone. -/
theorem maps_of_step {input : CtrlInput} {next : Next Controller}
    (h : step cfg sh c l input = some next) :
    next.shared.relay.maps = sh.relay.maps := by
  unfold step at h
  split at h
  case h_1 =>
    split at h <;> cases h
    exact maps_receive
  case h_2 | h_3 => split at h <;> cases h; rfl
  case h_4 =>
    split at h <;> cases h
    unfold meter
    split <;> rfl
  case h_5 =>
    split at h <;> try cases h
    case h_1 => exact maps_authenticate
    case h_2 => exact maps_limit
    case h_3 => exact maps_createMapping
    case h_4 => exact maps_beginRequest
    case h_5 => unfold lookUp; split <;> rfl
    case h_6 =>
      unfold join
      split <;> rename_i heq <;> exact (congrArg (fun x => x.1.maps) heq).symm
    case h_7 => unfold route; split <;> rfl
    case h_8 => unfold forward; split_ifs <;> rfl
    case h_9 | h_12 => exact maps_finishRequest
    case h_10 =>
      unfold takeOffline
      split
      · rename_i heq
        exact (congrArg (fun x => x.1.maps) heq).symm
      · rfl
    case h_11 | h_14 | h_16 => rfl
    case h_13 => unfold await at h; split at h <;> split_ifs at h <;> cases h <;> rfl
    case h_15 => exact maps_finishRequest
    case h_17 => unfold close; split <;> rfl
    case h_18 => unfold disconnect; split_ifs <;> rfl

end Controller

/-- Nothing is said of the registry, nothing happens to it and no device stream moves. -/
structure Unrelated (s s' : State) : Prop where
  maps : s'.maps = s.maps
  dev : s'.dev = s.dev
  silent : ∃ events, s'.trace = s.trace ++ events ∧ ∀ e ∈ events, e.tellsSession = false

theorem unrelated_timer {cfg : Config} {s s' : State} {e : ℕ}
    (h : step cfg s (.timer e) = some s') : Unrelated s s' := by
  obtain ⟨next, hn, rfl⟩ := Option.map_eq_some_iff.1 h
  unfold Timer.step at hn
  split at hn
  · split_ifs at hn
    split at hn <;> cases hn
    · rename_i heq
      exact ⟨(congrArg (fun x => x.1.maps) heq).symm, rfl, _, rfl,
        by simp [Event.tellsSession]⟩
    · exact ⟨rfl, rfl, [], rfl, by simp⟩
  · cases hn
    exact ⟨rfl, rfl, _, rfl, by simp [Event.tellsSession]⟩
  · cases hn
  · cases hn

theorem unrelated_reaper (s : State) : Unrelated s
    { s with
      shared := (Reaper.step s.shared s.reaper).shared
      reaper := (Reaper.step s.shared s.reaper).loc
      trace := s.trace ++ (Reaper.step s.shared s.reaper).events } := by
  cases s.reaper with
  | sleeping => exact ⟨rfl, rfl, [], rfl, by simp⟩
  | removing stale removed =>
    cases stale with
    | nil => exact ⟨rfl, rfl, [], rfl, by simp⟩
    | cons sid stale =>
      simp only [Reaper.step]
      split <;> exact ⟨rfl, rfl, [], rfl, by simp⟩
  | notifying removed =>
    cases removed with
    | nil => exact ⟨rfl, rfl, [], rfl, by simp⟩
    | cons mapping removed => exact ⟨rfl, rfl, _, rfl, by simp [Reaper.step, Event.tellsSession]⟩

theorem unrelated_of_step {cfg : Config} {s s' : State} {a : Action}
    (h : step cfg s a = some s') (other : ∀ i input, a ≠ .dev i input) : Unrelated s s' := by
  cases a with
  | ctrl c input =>
    obtain ⟨next, hn, rfl⟩ := Option.map_eq_some_iff.1 h
    refine ⟨Controller.maps_of_step hn, rfl, next.events, rfl, fun e he => ?_⟩
    cases Controller.events_of_moves (Controller.moves_of_step hn) e he <;> rfl
  | dev i input => exact absurd rfl (other i input)
  | timer e => exact unrelated_timer h
  | reaper => cases h; exact unrelated_reaper s
  | advance now =>
    simp only [step] at h
    split_ifs at h
    cases h
    exact ⟨rfl, rfl, [], by simp, by simp⟩
  | evict k =>
    simp only [step] at h
    split_ifs at h
    cases h
    exact ⟨rfl, rfl, _, rfl, by simp [Event.tellsSession]⟩
  | revokeControllerToken p | revokeDeviceToken p | allow d c | closeOutbound i =>
    cases h
    exact ⟨rfl, rfl, [], by simp, by simp⟩

/-! ## The handling of a message -/

namespace Device

variable {cfg : Config} {n i : ℕ} {isHealthy : Bool} {now next : Next Device}

theorem settle_step {fuel : ℕ} {input : DevInput} (due : now.loc.pc.due isHealthy = some input)
    (h : step cfg now.shared (n + now.events.length) i now.loc input = some next) :
    settle cfg n i isHealthy (fuel + 1) now =
      settle cfg n i isHealthy fuel ⟨next.shared, next.loc, now.events ++ next.events⟩ := by
  rw [settle, due]
  simp only [advance, h, Option.map_some, Option.bind_some]

/-- The session that a `Register` installs. -/
def newSession (r : SessionMaps) (i : ℕ) (msg : DeviceMessage) (request : RegisterRequest) :
    DeviceSession :=
  ⟨msg.deviceId, r.nextId, request.metadata, i⟩

/-- What a `Register` answers about the previous connection. -/
def resumes (r : SessionMaps) (msg : DeviceMessage) (request : RegisterRequest) : Bool :=
  !request.previousConnectionId.isEmpty &&
    r.connectionToDeviceId.lookup request.previousConnectionId == some msg.deviceId

/-- The notice of a new session to the MQTT publisher. -/
def onlineNotice (cfg : Config) (session : DeviceSession) : List Event :=
  if cfg.mqtt then
    [.mqtt (.deviceOnline session.deviceId session.connectionId cfg.relayAddress
      session.metadata)]
  else []

/-- The events of a registration. -/
def registration (cfg : Config) (r : SessionMaps) (i : ℕ) (msg : DeviceMessage)
    (request : RegisterRequest) : List Event :=
  .registered i msg.deviceId r.nextId (resumes r msg request) ::
    (onlineNotice cfg (newSession r i msg request) ++
      [Event.relayed i (.registerResponse r.nextId (resumes r msg request))])

theorem settle_linking (sh : Shared) (l : Device) (msg : DeviceMessage)
    (request : RegisterRequest) (cid : String) (resumed : Bool) (events : List Event)
    (fuel : ℕ) :
    settle cfg n i isHealthy (fuel + 2) ⟨sh, l.goto (.linking msg request cid resumed), events⟩ =
      some ⟨{ sh with relay := { sh.relay with
          connectionToDeviceId := sh.relay.connectionToDeviceId.insert cid msg.deviceId } },
        ⟨l.currentDeviceId, some cid, .reading⟩,
        events ++ (onlineNotice cfg ⟨msg.deviceId, cid, request.metadata, i⟩ ++
          [Event.relayed i (.registerResponse cid resumed)])⟩ := by
  rw [settle_step rfl rfl, settle_step rfl rfl, settle_of_rank_zero _ _ _ _ _ rfl,
    List.append_assoc]
  rfl

theorem settle_installing (sh : Shared) (l : Device) (msg : DeviceMessage)
    (request : RegisterRequest) (cid : String) (resumed : Bool) (events : List Event)
    (fuel : ℕ) :
    settle cfg n i isHealthy (fuel + 4)
        ⟨sh, l.goto (.installing msg request cid resumed), events⟩ =
      some ⟨{ sh with relay := { sh.relay with
          sessionsByDeviceId := sh.relay.sessionsByDeviceId.insert msg.deviceId
            ⟨msg.deviceId, cid, request.metadata, i⟩
          connectionToDeviceId :=
            (sh.relay.maps.unlinked msg.deviceId).insert cid msg.deviceId } },
        ⟨l.currentDeviceId, some cid, .reading⟩,
        events ++ .registered i msg.deviceId cid resumed ::
          (onlineNotice cfg ⟨msg.deviceId, cid, request.metadata, i⟩ ++
            [Event.relayed i (.registerResponse cid resumed)])⟩ := by
  cases hl : sh.relay.sessionsByDeviceId.lookup msg.deviceId with
  | none =>
    have first : install sh i (l.goto (.installing msg request cid resumed)) msg request cid
        resumed = ⟨{ sh with relay := { sh.relay with
          sessionsByDeviceId := sh.relay.sessionsByDeviceId.insert msg.deviceId
            ⟨msg.deviceId, cid, request.metadata, i⟩ } },
          l.goto (.linking msg request cid resumed),
          [.registered i msg.deviceId cid resumed]⟩ := by
      simp [install, hl, goto]
    refine Eq.trans (settle_step rfl (congrArg some first)) ((settle_linking ..).trans ?_)
    simp [SessionMaps.unlinked, RelayState.maps, hl]
  | some previous =>
    have first : install sh i (l.goto (.installing msg request cid resumed)) msg request cid
        resumed = ⟨{ sh with relay := { sh.relay with
          sessionsByDeviceId := sh.relay.sessionsByDeviceId.insert msg.deviceId
            ⟨msg.deviceId, cid, request.metadata, i⟩ } },
          l.goto (.unlinking msg request cid resumed previous.connectionId),
          [.registered i msg.deviceId cid resumed]⟩ := by
      simp [install, hl, goto]
    refine Eq.trans (settle_step rfl (congrArg some first)) ?_
    refine Eq.trans (settle_step rfl rfl) ((settle_linking _ l ..).trans ?_)
    simp [SessionMaps.unlinked, RelayState.maps, hl, unlink]

theorem settle_numbering (sh : Shared) (l : Device) (msg : DeviceMessage)
    (request : RegisterRequest) (events : List Event) (fuel : ℕ) :
    settle cfg n i isHealthy (fuel + 6) ⟨sh, l.goto (.numbering msg request), events⟩ =
      some ⟨sh.withMaps (sh.relay.maps.install
          (newSession sh.relay.maps i msg request)),
        ⟨l.currentDeviceId, some sh.relay.maps.nextId, .reading⟩,
        events ++ registration cfg sh.relay.maps i msg request⟩ := by
  rw [settle_step rfl rfl, settle_step rfl rfl]
  refine (settle_installing _ l msg request _ _ _ fuel).trans ?_
  rw [number, resume, List.append_nil, List.append_nil]
  rfl

/-- What the handling of a message comes to; `r` is the registry after the arrival. -/
inductive Handles (cfg : Config) (auth : AuthService) (r : SessionMaps) (i : ℕ) (l : Device)
    (msg : DeviceMessage) : Next Device → Prop
  /-- No accepted `Register`: the stream goes on or leaves its loop. -/
  | kept (sh' : Shared) (pc : DevPc) (events : List Event)
      (settled : pc = .reading ∨ ∃ reason, pc = .closing reason)
      (maps : sh'.relay.maps = r) (silent : ∀ e ∈ events, e.tellsSession = false) :
      Handles cfg auth r i l msg ⟨sh', l.goto pc, events⟩
  /-- A `Register` with an accepted token that a limit refused. -/
  | refused (sh' : Shared) (request : RegisterRequest) (p : DevicePrincipal)
      (events : List Event) (payload : msg.payload = some (.register request))
      (accepted : auth.authenticateDeviceByToken msg.deviceId msg.token = .ok p)
      (maps : sh'.relay.maps = r) (silent : ∀ e ∈ events, e.tellsSession = false) :
      Handles cfg auth r i l msg
        ⟨sh', ⟨some msg.deviceId, l.currentConnectionId, .closing .error⟩, events⟩
  /-- An accepted `Register`. -/
  | registered (sh' : Shared) (request : RegisterRequest) (p : DevicePrincipal)
      (events : List Event) (payload : msg.payload = some (.register request))
      (accepted : auth.authenticateDeviceByToken msg.deviceId msg.token = .ok p)
      (maps : sh'.relay.maps = r.install (newSession r i msg request))
      (silent : ∀ e ∈ events, e.tellsSession = false) :
      Handles cfg auth r i l msg
        ⟨sh', ⟨some msg.deviceId, some r.nextId, .reading⟩,
          events ++ registration cfg r i msg request⟩

variable {sh : Shared} {l : Device} {msg : DeviceMessage} {request : RegisterRequest} {fuel : ℕ}

theorem handles_of_admitting {p : DevicePrincipal} {events : List Event}
    (payload : msg.payload = some (.register request))
    (accepted : sh.auth.authenticateDeviceByToken msg.deviceId msg.token = .ok p)
    (silent : ∀ e ∈ events, e.tellsSession = false)
    (h : settle cfg n i isHealthy (fuel + 8)
      ⟨sh, ⟨some msg.deviceId, l.currentConnectionId, .admitting msg request⟩, events⟩ =
        some next) :
    Handles cfg sh.auth sh.relay.maps i l msg next := by
  rw [settle_step rfl rfl] at h
  unfold allowDevice at h
  split at h
  · rw [settle_step rfl rfl] at h
    cases isHealthy with
    | true =>
      replace h := (settle_numbering _ ⟨some msg.deviceId, l.currentConnectionId, .reading⟩ msg
        request _ fuel).symm.trans h
      rw [List.append_nil, List.append_nil] at h
      cases h
      exact .registered _ request p events payload accepted rfl silent
    | false =>
      rw [settle_of_rank_zero _ _ _ _ _ rfl] at h
      cases h
      exact .refused _ request p _ payload accepted rfl (by simpa using silent)
  · rw [settle_of_rank_zero _ _ _ _ _ rfl] at h
    cases h
    exact .refused _ request p _ payload accepted rfl (by simpa using silent)

theorem handles_of_handling
    (h : settle cfg n i isHealthy (fuel + 9) ⟨sh, l.goto (.handling msg), []⟩ = some next) :
    Handles cfg sh.auth sh.relay.maps i l msg next := by
  -- A stream that does not act on the message, or leaves its loop.
  have rest {sh' : Shared} {pc : DevPc} {events : List Event} {fuel : ℕ}
      (settled : pc = .reading ∨ ∃ reason, pc = .closing reason)
      (maps : sh'.relay.maps = sh.relay.maps)
      (silent : ∀ e ∈ events, e.tellsSession = false)
      (h : settle cfg n i isHealthy fuel ⟨sh', l.goto pc, events⟩ = some next) :
      Handles cfg sh.auth sh.relay.maps i l msg next := by
    have zero : rank pc = some 0 := by rcases settled with rfl | ⟨reason, rfl⟩ <;> rfl
    rw [settle_of_rank_zero _ _ _ _ _ zero] at h
    cases h
    exact .kept _ _ _ settled maps silent
  have closing {reason : DisconnectReason} :
      DevPc.closing reason = .reading ∨ ∃ reason', DevPc.closing reason = .closing reason' :=
    Or.inr ⟨reason, rfl⟩
  rw [settle_step rfl rfl] at h
  unfold handle at h
  split_ifs at h
  · split at h
    · rename_i request payload
      unfold register at h
      split at h
      · rename_i p accepted
        exact handles_of_admitting payload accepted (by simp [Event.tellsSession]) h
      · exact rest closing rfl (by simp) h
    · unfold heartbeat at h
      split at h
      · exact rest (Or.inl rfl) rfl (by simp [Event.tellsSession]) h
      · exact rest closing rfl (by simp) h
    · unfold data at h
      split at h
      · exact rest closing rfl (by simp) h
      · split at h
        · rename_i heq
          rw [settle_step rfl rfl] at h
          exact rest (Or.inl rfl) (congrArg (fun x => x.1.maps) heq).symm
            (by simp [Event.tellsSession]) h
        · exact rest (Or.inl rfl) rfl (by simp [Event.tellsSession]) h
    · exact rest (Or.inl rfl) rfl (by simp) h
  · exact rest closing rfl (by simp) h

/-- The registry after the arrival of a message. -/
def arrival (sh : Shared) (l : Device) (msg : DeviceMessage) : SessionMaps :=
  if ownsMessage sh l msg then sh.relay.maps.touch msg.deviceId sh.now
  else sh.relay.maps

@[simp] theorem sessions_arrival (sh : Shared) (l : Device) (msg : DeviceMessage) :
    (arrival sh l msg).sessionsByDeviceId = sh.relay.sessionsByDeviceId := by
  unfold arrival
  split_ifs <;> rfl

@[simp] theorem connections_arrival (sh : Shared) (l : Device) (msg : DeviceMessage) :
    (arrival sh l msg).connectionToDeviceId = sh.relay.connectionToDeviceId := by
  unfold arrival
  split_ifs <;> rfl

@[simp] theorem counter_arrival (sh : Shared) (l : Device) (msg : DeviceMessage) :
    (arrival sh l msg).connectionIdCounter = sh.relay.connectionIdCounter := by
  unfold arrival
  split_ifs <;> rfl

theorem active_of_ownsMessage {sh : Shared} {l : Device} {msg : DeviceMessage}
    (h : ownsMessage sh l msg = true) : ∃ session,
      sh.relay.sessionsByDeviceId.lookup msg.deviceId = some session ∧
        l.currentDeviceId = some msg.deviceId ∧
        l.currentConnectionId = some session.connectionId := by
  unfold ownsMessage RelayState.hasActiveDeviceConnection at h
  split at h
  · rename_i cid connection
    rw [Bool.and_eq_true, beq_iff_eq] at h
    obtain ⟨device, active⟩ := h
    split at active
    · rename_i session found
      exact ⟨session, found, device, by rw [connection, beq_iff_eq.1 active]⟩
    · cases active
  · cases h

theorem seen_arrival {sh : Shared} {l : Device} {msg : DeviceMessage} {d : String} {t : Instant}
    (h : (arrival sh l msg).deviceLastSeen.lookup d = some t) :
    sh.relay.deviceLastSeen.lookup d = some t ∨
      ∃ session, sh.relay.sessionsByDeviceId.lookup d = some session := by
  unfold arrival at h
  split_ifs at h with own
  · simp only [SessionMaps.touch, DashMap.lookup_insert_ite] at h
    split_ifs at h with hd
    · obtain ⟨session, found, -⟩ := active_of_ownsMessage own
      exact Or.inr ⟨session, hd ▸ found⟩
    · exact Or.inl h
  · exact Or.inl h

theorem handles_of_handleMessage
    (h : handleMessage cfg sh n i l msg isHealthy = some next) :
    l.pc = .reading ∧ Handles cfg sh.auth (arrival sh l msg) i l msg next := by
  unfold handleMessage at h
  split at h
  · rename_i reading
    refine ⟨reading, ?_⟩
    unfold receive at h
    unfold arrival
    split_ifs at h with own
    · rw [if_pos own]
      rw [settle_step rfl rfl] at h
      exact handles_of_handling (l := l) h
    · rw [if_neg own]
      exact handles_of_handling h
  · cases h

end Device

/-! ## The cleanup -/

namespace RelayState

theorem takeInflightOne_state (acc : List (ℤ × ℕ) × RelayState) (key : RequestKey) :
    (takeInflightOne acc key).2 = (acc.2.takeInflight key.1 key.2).1 := by
  unfold takeInflightOne
  split <;> rename_i ht <;> rw [ht]

theorem maps_takeInflightForDevice (st : RelayState) (did : String) :
    (st.takeInflightForDevice did).2.maps = st.maps := by
  have rounds (keys : List RequestKey) (acc : List (ℤ × ℕ) × RelayState) :
      (keys.foldl takeInflightOne acc).2.maps = acc.2.maps := by
    induction keys generalizing acc with
    | nil => rfl
    | cons key keys ih =>
      rw [List.foldl_cons, ih, takeInflightOne_state]
      rfl
  exact rounds _ _

theorem maps_completeAll (st : RelayState) (did : String) (inflight : List (ℤ × ℕ)) :
    (st.completeAll did inflight).maps = st.maps := by
  unfold completeAll
  induction inflight generalizing st with
  | nil => rfl
  | cons e inflight ih => exact ih _

theorem maps_removeDeviceSession {st : RelayState} {did : String} {session : DeviceSession}
    (h : st.sessionsByDeviceId.lookup did = some session) :
    (st.removeDeviceSession did).maps = st.maps.remove did session := by
  unfold removeDeviceSession
  rw [h]
  rfl

end RelayState

namespace Device

variable {cfg : Config} {sh : Shared} {l : Device} {reason : DisconnectReason}

/-- The stream's device and connection are those of a session. -/
def Owns (r : SessionMaps) (l : Device) (did : String) (session : DeviceSession) : Prop :=
  l.currentDeviceId = some did ∧ r.sessionsByDeviceId.lookup did = some session ∧
    l.currentConnectionId = some session.connectionId

/-- The check of a cleanup looks at the connection id only. -/
theorem ownsSession_iff_lookup {did : String} :
    ownsSession sh l did = true ↔ ∃ session,
      sh.relay.sessionsByDeviceId.lookup did = some session ∧
        l.currentConnectionId = some session.connectionId := by
  unfold ownsSession RelayState.hasActiveDeviceConnection
  constructor
  · intro h
    split at h
    · rename_i cid connection
      split at h
      · rename_i session found
        exact ⟨session, found, by rw [connection, beq_iff_eq.1 h]⟩
      · cases h
    · cases h
  · rintro ⟨session, found, connection⟩
    simp [connection, found]

theorem ownsSession_iff {did : String} (device : l.currentDeviceId = some did) :
    ownsSession sh l did = true ↔ ∃ session, Owns sh.relay.maps l did session := by
  rw [ownsSession_iff_lookup]
  exact exists_congr fun session => (and_iff_right device).symm

/-- What a cleanup comes to: it removes the session that is the stream's own, or none. -/
inductive Cleans (cfg : Config) (r : SessionMaps) (l : Device) (reason : DisconnectReason) :
    Next Device → Prop
  | kept (sh' : Shared) (events : List Event) (maps : sh'.relay.maps = r)
      (foreign : ∀ did session, ¬ Owns r l did session)
      (silent : ∀ e ∈ events, e.tellsSession = false) :
      Cleans cfg r l reason ⟨sh', l.goto .done, events⟩
  | removed (sh' : Shared) (did : String) (session : DeviceSession) (events : List Event)
      (own : Owns r l did session) (maps : sh'.relay.maps = r.remove did session)
      (silent : ∀ e ∈ events, e.tellsSession = false) :
      Cleans cfg r l reason ⟨sh', l.goto .done,
        events ++ offlineNotice cfg did reason (some session.connectionId)⟩

theorem tellsSession_notices {did : String} {removed : List StreamMapping} :
    ∀ e ∈ notices did removed, e.tellsSession = false := by
  intro e he
  obtain ⟨mapping, -, hm⟩ := List.mem_flatMap.1 he
  split_ifs at hm
  · rw [List.mem_singleton.1 hm]
    rfl
  · cases hm

theorem cleans_cleanup : Cleans cfg sh.relay.maps l reason (cleanup cfg sh l reason) := by
  unfold cleanup
  split
  · rename_i device
    exact .kept _ _ rfl (fun did session own => by cases device.symm.trans own.1) (by simp)
  · rename_i did device
    have same : ((sh.relay.takeInflightForDevice did).2.completeAll did
        (sh.relay.takeInflightForDevice did).1).maps = sh.relay.maps :=
      (RelayState.maps_completeAll _ _ _).trans
        (RelayState.maps_takeInflightForDevice _ _)
    have silent : ∀ e ∈ ((sh.relay.takeInflightForDevice did).1.map
          (fun e => Event.inflight sh.now (.taken (did, e.1) e.2)) ++
        (sh.relay.takeInflightForDevice did).1.map
          (fun e => Event.inflight sh.now (.completed e.2 (Controller.offlineReply did e.1))) ++
        notices did (sh.router.removeAllForDevice did).1), e.tellsSession = false := by
      intro e he
      rcases List.mem_append.1 he with he | he
      · rcases List.mem_append.1 he with he | he
        · obtain ⟨x, -, rfl⟩ := List.mem_map.1 he
          rfl
        · obtain ⟨x, -, rfl⟩ := List.mem_map.1 he
          rfl
      · exact tellsSession_notices e he
    unfold cleanupOf
    dsimp only
    split_ifs with own
    · obtain ⟨session, hown⟩ := (ownsSession_iff device).1 own
      have found := hown.2.1
      have current : ((sh.relay.takeInflightForDevice did).2.completeAll did
          (sh.relay.takeInflightForDevice did).1).sessionsByDeviceId.lookup did =
            some session := found
      rw [current]
      refine .removed _ did session _ (same ▸ hown) ?_ silent
      exact (RelayState.maps_removeDeviceSession current).trans (by rw [same])
    · refine .kept _ _ same (fun did' session hown => own ?_) silent
      obtain rfl : did' = did := Option.some.inj (hown.1.symm.trans device)
      refine (ownsSession_iff device).2 ⟨session, ?_⟩
      exact same.symm ▸ hown

end Device

/-! ## Whole steps -/

@[simp] theorem State.dev_afterDev_self (s : State) (i : ℕ) (next : Next Device) :
    (s.afterDev i next).dev i = next.loc := Function.update_self ..

theorem State.dev_afterDev_of_ne (s : State) {i j : ℕ} (h : j ≠ i) (next : Next Device) :
    (s.afterDev i next).dev j = s.dev j := Function.update_of_ne h ..

namespace Atomic

/-- What a whole step can do to the registry and to the device streams. -/
inductive SessionStep (cfg : Config) (s : State) : Action → State → Prop
  | other (a : GrpcRelay.Action) (s' : State) (unrelated : Unrelated s s') :
      SessionStep cfg s (.other a) s'
  | message (i : ℕ) (msg : DeviceMessage) (isHealthy : Bool) (next : Next Device)
      (reading : (s.dev i).pc = .reading)
      (handles : Device.Handles cfg s.shared.auth (Device.arrival s.shared (s.dev i) msg) i
        (s.dev i) msg next) :
      SessionStep cfg s (.message i msg isHealthy) (s.afterDev i next)
  | hangUp (i : ℕ) (reason : DisconnectReason) (reading : (s.dev i).pc = .reading) :
      SessionStep cfg s (.hangUp i reason)
        (s.afterDev i ⟨s.shared, (s.dev i).goto (.closing reason), []⟩)
  | cleanup (i : ℕ) (reason : DisconnectReason) (next : Next Device)
      (closing : (s.dev i).pc = .closing reason)
      (cleans : Device.Cleans cfg s.maps (s.dev i) reason next) :
      SessionStep cfg s (.cleanup i) (s.afterDev i next)

variable {cfg : Config} {s s' : State}

theorem hangUp_eq {i : ℕ} {reason : DisconnectReason}
    (h : GrpcRelay.step cfg s (.dev i (ending reason)) = some s') :
    (s.dev i).pc = .reading ∧
      s' = s.afterDev i ⟨s.shared, (s.dev i).goto (.closing reason), []⟩ := by
  obtain ⟨next, hn, rfl⟩ := Option.map_eq_some_iff.1 h
  cases reason <;>
    · simp only [ending, Device.step] at hn
      split at hn
      · rename_i reading
        cases hn
        exact ⟨reading, rfl⟩
      · cases hn

theorem sessionStep_of_step {a : Action} (h : step cfg s a = some s') :
    SessionStep cfg s a s' := by
  cases a with
  | other a =>
    obtain ⟨h, other⟩ := step_other h
    exact .other a s' (unrelated_of_step h other)
  | message i msg isHealthy =>
    obtain ⟨next, hn, rfl⟩ := Option.map_eq_some_iff.1 h
    obtain ⟨reading, handles⟩ := Device.handles_of_handleMessage hn
    exact .message i msg isHealthy next reading handles
  | hangUp i reason =>
    obtain ⟨reading, rfl⟩ := hangUp_eq h
    exact .hangUp i reason reading
  | cleanup i =>
    simp only [step] at h
    split at h
    · rename_i reason closing
      cases h
      exact .cleanup i reason _ closing Device.cleans_cleanup
    · cases h

end Atomic

end GrpcRelay
