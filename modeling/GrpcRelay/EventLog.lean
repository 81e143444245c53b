import GrpcRelay.Coherence
import Mathlib.Data.List.TakeWhile
import Mathlib.Tactic.Linarith

/-!
# The log of online and offline events

A relay with an MQTT publisher hands it a request for every session that a device stream installs
and for every session that a cleanup removes.  Replayed in order, the requests give the connection
ids of the sessions (`event_log_reproduces_sessions`).  A connection id has one online and at most
one offline event as long as the counter of connection ids has not wrapped around.
-/

namespace GrpcRelay

open Tickets

/-- The publish requests of a run. -/
def Event.published : Event → Option MqttPublishRequest
  | .mqtt request => some request
  | _ => none

/-- The publish calls among some events. -/
def publishRequests (events : List Event) : List MqttPublishRequest :=
  events.filterMap Event.published

/-- The connections of the devices that a reader of the events believes online. -/
def replayOne (online : String → Option String) : MqttPublishRequest → String → Option String
  | .deviceOnline deviceId connectionId _ _ =>
    Function.update online deviceId (some connectionId)
  | .deviceOffline deviceId connectionId _ =>
    if online deviceId = some connectionId then Function.update online deviceId none else online

/-- The connections that a reader of all the events believes online. -/
def replay (requests : List MqttPublishRequest) : String → Option String :=
  requests.foldl replayOne fun _ => none

/-- The connection id of an online event. -/
def MqttPublishRequest.onlineId : MqttPublishRequest → Option String
  | .deviceOnline _ connectionId _ _ => some connectionId
  | .deviceOffline .. => none

/-- The connection id of an offline event. -/
def MqttPublishRequest.offlineId : MqttPublishRequest → Option String
  | .deviceOnline .. => none
  | .deviceOffline _ connectionId _ => some connectionId

/-- The connection ids of the online events. -/
def onlineIds (requests : List MqttPublishRequest) : List String :=
  requests.filterMap MqttPublishRequest.onlineId

/-- The connection ids of the offline events. -/
def offlineIds (requests : List MqttPublishRequest) : List String :=
  requests.filterMap MqttPublishRequest.offlineId

/-- Every offline event follows the online event of its connection. -/
def OnlineFirst (requests : List MqttPublishRequest) : Prop :=
  History.Justified (fun past request => ∀ d cid reason,
    request = .deviceOffline d cid reason →
      ∃ relayAddress metadata, .deviceOnline d cid relayAddress metadata ∈ past) requests

theorem replay_snoc (requests : List MqttPublishRequest) (request : MqttPublishRequest) :
    replay (requests ++ [request]) = replayOne (replay requests) request := by
  rw [replay, List.foldl_append]
  rfl

theorem publishRequests_append (events new : List Event) :
    publishRequests (events ++ new) = publishRequests events ++ publishRequests new :=
  List.filterMap_append ..

theorem publishRequests_of_silent {events : List Event}
    (silent : ∀ e ∈ events, e.tellsSession = false) : publishRequests events = [] := by
  refine List.filterMap_eq_nil_iff.2 fun e he => ?_
  have := silent e he
  cases e <;> first | rfl | cases this

/-! ## What a step publishes -/

/-- What a step adds to the requests, to the connection ids and to the sessions. -/
inductive Publishes (s s' : State) : Prop
  | nothing (requests : publishRequests s'.trace = publishRequests s.trace)
      (ids : connectionIds s'.trace = connectionIds s.trace)
      (sessions : s'.maps.sessionsByDeviceId = s.maps.sessionsByDeviceId)
  | online (session : DeviceSession) (relayAddress : String)
      (requests : publishRequests s'.trace = publishRequests s.trace ++
        [MqttPublishRequest.deviceOnline session.deviceId session.connectionId relayAddress
          session.metadata])
      (ids : connectionIds s'.trace = connectionIds s.trace ++ [session.connectionId])
      (sessions : s'.maps.sessionsByDeviceId =
        s.maps.sessionsByDeviceId.insert session.deviceId session)
  | offline (did : String) (session : DeviceSession) (reason : DisconnectReason)
      (found : s.maps.sessionsByDeviceId.lookup did = some session)
      (requests : publishRequests s'.trace = publishRequests s.trace ++
        [MqttPublishRequest.deviceOffline did session.connectionId reason])
      (ids : connectionIds s'.trace = connectionIds s.trace)
      (sessions : s'.maps.sessionsByDeviceId = s.maps.sessionsByDeviceId.erase did)

variable {cfg : Config} {s s' : State}

theorem publishes_of_silent {events : List Event} (trace : s'.trace = s.trace ++ events)
    (silent : ∀ e ∈ events, e.tellsSession = false)
    (sessions : s'.maps.sessionsByDeviceId = s.maps.sessionsByDeviceId) : Publishes s s' := by
  refine .nothing ?_ ?_ sessions
  · rw [trace, publishRequests_append, publishRequests_of_silent silent, List.append_nil]
  · rw [trace, connectionIds_append, connectionIds_of_silent silent, List.append_nil]

theorem publishes_of_sessionStep (on : cfg.mqtt = true) {a : Atomic.Action}
    (h : Atomic.SessionStep cfg s a s') : Publishes s s' := by
  cases h with
  | other a _ unrelated =>
    obtain ⟨events, trace, silent⟩ := unrelated.silent
    exact publishes_of_silent trace silent (congrArg _ unrelated.maps)
  | message i msg isHealthy next reading handles =>
    cases handles with
    | kept sh' pc events settled maps silent | refused sh' request p events _ _ maps silent =>
      refine publishes_of_silent rfl silent ?_
      exact (congrArg SessionMaps.sessionsByDeviceId maps).trans (Device.sessions_arrival ..)
    | registered sh' request p events payload accepted maps silent =>
      refine .online (Device.newSession (Device.arrival s.shared (s.dev i) msg) i msg request)
        cfg.relayAddress ?_ ?_ ?_
      · rw [State.afterDev, publishRequests_append, publishRequests_append,
          publishRequests_of_silent silent, Device.registration, Device.onlineNotice, if_pos on]
        rfl
      · rw [State.afterDev, connectionIds_append, connectionIds_append,
          connectionIds_of_silent silent, connectionIds_registration]
        rfl
      · refine (congrArg SessionMaps.sessionsByDeviceId maps).trans ?_
        rw [SessionMaps.install, Device.sessions_arrival]
        rfl
  | hangUp i reason reading => exact publishes_of_silent rfl (by simp) rfl
  | cleanup i reason next closing cleans =>
    cases cleans with
    | kept sh' events maps foreign silent =>
      exact publishes_of_silent rfl silent (congrArg SessionMaps.sessionsByDeviceId maps)
    | removed sh' did session events own maps silent =>
      have sessions := congrArg SessionMaps.sessionsByDeviceId maps
      refine .offline did session reason own.2.1 ?_ ?_ sessions
      · rw [State.afterDev, publishRequests_append, publishRequests_append,
          publishRequests_of_silent silent, Device.offlineNotice, if_pos on]
        rfl
      · rw [State.afterDev, connectionIds_append, connectionIds_append,
          connectionIds_of_silent silent, connectionIds_offlineNotice, List.append_nil,
          List.append_nil]

/-! ## Replaying the requests -/

/-- What the requests say of the sessions. -/
structure Logged (s : State) : Prop where
  replayed : ∀ d, replay (publishRequests s.trace) d =
    (s.maps.sessionsByDeviceId.lookup d).map (·.connectionId)
  online : onlineIds (publishRequests s.trace) = connectionIds s.trace
  announced : ∀ d session, s.maps.sessionsByDeviceId.lookup d = some session →
    ∃ relayAddress metadata, .deviceOnline d session.connectionId relayAddress metadata ∈
      publishRequests s.trace
  first : OnlineFirst (publishRequests s.trace)

theorem logged_init (cfg : Config) : Logged (State.init cfg) := by
  refine ⟨fun d => rfl, rfl, ?_, History.justified_nil⟩
  intro d session h
  cases h

namespace Logged

theorem step (L : Logged s) (h : Publishes s s') : Logged s' := by
  cases h with
  | nothing requests ids sessions =>
    constructor
    · rw [requests, sessions]
      exact L.replayed
    · rw [requests, ids, L.online]
    · rw [requests, sessions]
      exact L.announced
    · rw [requests]
      exact L.first
  | online session relayAddress requests ids sessions =>
    constructor
    · intro d
      rw [requests, sessions, replay_snoc, replayOne, DashMap.lookup_insert_ite,
        Function.update_apply, L.replayed]
      split_ifs <;> rfl
    · rw [requests, ids, onlineIds, List.filterMap_append, ← L.online]
      rfl
    · intro d session' found
      rw [requests]
      rw [sessions, DashMap.lookup_insert_ite] at found
      split_ifs at found with hd
      · cases found
        exact ⟨relayAddress, session.metadata, by simp [hd]⟩
      · obtain ⟨address, metadata, h⟩ := L.announced d session' found
        exact ⟨address, metadata, List.mem_append_left _ h⟩
    · rw [requests]
      refine History.justified_snoc.2 ⟨L.first, fun d cid reason h => ?_⟩
      cases h
  | offline did session reason found requests ids sessions =>
    have current : replay (publishRequests s.trace) did = some session.connectionId := by
      rw [L.replayed, found]
      rfl
    constructor
    · intro d
      rw [requests, sessions, replay_snoc, replayOne, if_pos current, DashMap.lookup_erase_ite,
        Function.update_apply, L.replayed]
      split_ifs <;> rfl
    · rw [requests, ids, onlineIds, List.filterMap_append, ← L.online, onlineIds]
      exact List.append_nil _
    · intro d session' found'
      rw [requests]
      rw [sessions, DashMap.lookup_erase_ite] at found'
      split_ifs at found' with hd
      obtain ⟨address, metadata, h⟩ := L.announced d session' found'
      exact ⟨address, metadata, List.mem_append_left _ h⟩
    · rw [requests]
      refine History.justified_snoc.2 ⟨L.first, fun d cid reason' h => ?_⟩
      cases h
      exact L.announced did session found

end Logged

theorem logged_of_reachable (on : cfg.mqtt = true) (h : Atomic.Reachable cfg s) : Logged s :=
  Runs.Reach.invariant (logged_init cfg)
    (fun _ _ _ _ L _ hs => L.step (publishes_of_sessionStep on (Atomic.sessionStep_of_step hs))) h

/-! ## One offline event for a connection -/

/-- The connections that went offline did so once, and none of them is that of a session. -/
structure OfflineOnce (s : State) : Prop where
  nodup : (offlineIds (publishRequests s.trace)).Nodup
  issued : ∀ cid ∈ offlineIds (publishRequests s.trace), cid ∈ connectionIds s.trace
  ended : ∀ d session, s.maps.sessionsByDeviceId.lookup d = some session →
    session.connectionId ∉ offlineIds (publishRequests s.trace)

theorem offlineOnce_init (cfg : Config) : OfflineOnce (State.init cfg) := by
  refine ⟨List.nodup_nil, ?_, ?_⟩
  · intro cid h
    cases h
  · intro d session h
    cases h

theorem OfflineOnce.step (O : OfflineOnce s) (C : Coherent s)
    (fresh : (connectionIds s'.trace).Nodup) (h : Publishes s s') : OfflineOnce s' := by
  cases h with
  | nothing requests ids sessions =>
    constructor
    · rw [requests]
      exact O.nodup
    · rw [requests, ids]
      exact O.issued
    · rw [requests, sessions]
      exact O.ended
  | online session relayAddress requests ids sessions =>
    have same : offlineIds (publishRequests s'.trace) = offlineIds (publishRequests s.trace) := by
      rw [requests, offlineIds, List.filterMap_append]
      exact List.append_nil _
    constructor
    · rw [same]
      exact O.nodup
    · rw [same, ids]
      exact fun cid h => List.mem_append_left _ (O.issued cid h)
    · intro d session' found
      rw [same]
      rw [sessions, DashMap.lookup_insert_ite] at found
      split_ifs at found with hd
      · cases found
        intro offline
        rw [ids] at fresh
        exact (List.nodup_append.1 fresh).2.2 _ (O.issued _ offline) _ (by simp) rfl
      · exact O.ended d session' found
  | offline did session reason found requests ids sessions =>
    have more : offlineIds (publishRequests s'.trace) =
        offlineIds (publishRequests s.trace) ++ [session.connectionId] := by
      rw [requests, offlineIds, List.filterMap_append]
      rfl
    constructor
    · rw [more]
      exact List.nodup_append.2 ⟨O.nodup, by simp, by
        intro cid h cid' h'
        rw [List.mem_singleton.1 h']
        rintro rfl
        exact O.ended did session found h⟩
    · intro cid h
      rw [ids]
      rw [more, List.mem_append, List.mem_singleton] at h
      rcases h with old | rfl
      · exact O.issued cid old
      · exact C.issued did session found
    · intro d session' found'
      rw [sessions, DashMap.lookup_erase_ite] at found'
      split_ifs at found' with hd
      rw [more, List.mem_append, List.mem_singleton]
      rintro (old | same)
      · exact O.ended d session' found' old
      · exact hd (C.inverse.inj found' found same)

theorem offlineOnce_of_reachable (on : cfg.mqtt = true) (h : Atomic.Reachable cfg s)
    (few : registrations s.trace ≤ UInt64.size) : OfflineOnce s := by
  refine Runs.Reach.invariant (I := fun s => registrations s.trace ≤ UInt64.size → OfflineOnce s)
    (fun _ => offlineOnce_init cfg) ?_ h few
  intro s a s' hr ih _ hs few
  have step := Atomic.sessionStep_of_step hs
  have before := (registrations_le step).trans few
  refine (ih before).step (coherent_of_reachable hr before) ?_ (publishes_of_sessionStep on step)
  rw [((numbered_of_reachable hr).sessionStep step).drawn]
  exact nodup_drawn few

/-- The requests of a run, replayed, give the connections of the sessions; every offline event
follows the online event of its connection; and with at most 2^64 registrations no connection has
two online or two offline events. -/
theorem event_log_reproduces_sessions (on : cfg.mqtt = true) (h : Atomic.Reachable cfg s) :
    (∀ d, replay (publishRequests s.trace) d =
      (s.shared.relay.sessionsByDeviceId.lookup d).map (·.connectionId)) ∧
    OnlineFirst (publishRequests s.trace) ∧
    (registrations s.trace ≤ UInt64.size →
      (onlineIds (publishRequests s.trace)).Nodup ∧
      (offlineIds (publishRequests s.trace)).Nodup) := by
  have L := logged_of_reachable on h
  refine ⟨L.replayed, L.first, fun few => ⟨?_, (offlineOnce_of_reachable on h few).nodup⟩⟩
  rw [L.online, (numbered_of_reachable h).drawn]
  exact nodup_drawn few

/-! ### A concrete run -/

namespace Small

/-- The small relay with an MQTT publisher. -/
def published : Config := { config with mqtt := true }

/-- A second stream takes over the session of the first, which ends, and then ends itself. -/
def takeOverRun : List Atomic.Action :=
  [resuming 0 "", resuming 1 "conn-1", .hangUp 0 .error, .cleanup 0, .hangUp 1 .timeout,
    .cleanup 1]

end Small

/-- The stream that lost its session publishes nothing when it ends. -/
theorem superseded_stream_publishes_nothing :
    ∃ s, Atomic.execute Small.published Small.takeOverRun = some s ∧
      publishRequests s.trace =
        [.deviceOnline "d" "conn-1" "127.0.0.1:50051" [],
          .deviceOnline "d" "conn-2" "127.0.0.1:50051" [],
          .deviceOffline "d" "conn-2" .timeout] ∧
      (∀ d, replay (publishRequests s.trace) d =
        (s.shared.relay.sessionsByDeviceId.lookup d).map (·.connectionId)) ∧
      (offlineIds (publishRequests s.trace)).Nodup := by
  obtain ⟨s, hs, hf⟩ : ∃ s, Atomic.execute Small.published Small.takeOverRun = some s ∧
      (registrations s.trace, publishRequests s.trace) =
        (2, [.deviceOnline "d" "conn-1" "127.0.0.1:50051" [],
          .deviceOnline "d" "conn-2" "127.0.0.1:50051" [],
          .deviceOffline "d" "conn-2" .timeout]) :=
    Option.map_eq_some_iff.1 (by decide +kernel)
  simp only [Prod.mk.injEq] at hf
  obtain ⟨replayed, -, once⟩ :=
    event_log_reproduces_sessions (rfl : Small.published.mqtt = true)
      (Atomic.reachable_of_execute hs)
  refine ⟨s, hs, hf.2, replayed, (once ?_).2⟩
  rw [hf.1]
  decide

/-! ## More registrations than connection ids -/

namespace Device

variable {cfg : Config} {n i : ℕ} {sh : Shared} {l : Device} {msg : DeviceMessage}
  {request : RegisterRequest} {p : DevicePrincipal}

/-- A `Register` that nothing refuses is carried out. -/
theorem settle_register (fuel : ℕ) (payload : msg.payload = some (.register request))
    (accepted : sh.auth.authenticateDeviceByToken msg.deviceId msg.token = .ok p)
    (admitted : (sh.connectionLimiter.allowDevice sh.now msg.deviceId).1 = true) :
    settle cfg n i true (fuel + 9) ⟨sh, l.goto (.handling msg), []⟩ =
      some ⟨({ sh with connectionLimiter :=
          (sh.connectionLimiter.allowDevice sh.now msg.deviceId).2 }).withMaps
            (sh.relay.maps.install (newSession sh.relay.maps i msg request)),
        ⟨some msg.deviceId, some sh.relay.maps.nextId, .reading⟩,
        Event.deviceAuthenticated i msg.deviceId msg.token sh.auth ::
          registration cfg sh.relay.maps i msg request⟩ := by
  have handled : step cfg sh n i (l.goto (.handling msg)) .tick =
      some ⟨sh, ⟨some msg.deviceId, l.currentConnectionId, .admitting msg request⟩,
        [.deviceAuthenticated i msg.deviceId msg.token sh.auth]⟩ := by
    simp only [step, handle, identityOk, payload, if_true, register, accepted, goto]
  have allowed : step cfg sh (n + 1) i ⟨some msg.deviceId, l.currentConnectionId,
      .admitting msg request⟩ .tick =
      some ⟨{ sh with connectionLimiter :=
          (sh.connectionLimiter.allowDevice sh.now msg.deviceId).2 },
        ⟨some msg.deviceId, l.currentConnectionId, .checkingHealth msg request⟩, []⟩ := by
    simp only [step, allowDevice]
    split
    · rename_i rl h
      rw [h]
      rfl
    · rename_i rl h
      rw [h] at admitted
      cases admitted
  rw [settle_step rfl handled, settle_step rfl allowed, settle_step rfl rfl]
  exact settle_numbering _ ⟨some msg.deviceId, l.currentConnectionId, .reading⟩ msg request _ fuel

/-- What a stream and the relay are like after a `Register` that nothing refuses. -/
theorem handleMessage_register (reading : l.pc = .reading)
    (payload : msg.payload = some (.register request))
    (accepted : sh.auth.authenticateDeviceByToken msg.deviceId msg.token = .ok p)
    (admitted : (sh.connectionLimiter.allowDevice sh.now msg.deviceId).1 = true) :
    ∃ next, handleMessage cfg sh n i l msg true = some next ∧ next.loc.pc = .reading ∧
      next.shared.auth = sh.auth ∧ next.shared.now = sh.now ∧
      next.shared.connectionLimiter = (sh.connectionLimiter.allowDevice sh.now msg.deviceId).2 ∧
      registrations next.events = 1 := by
  have one (r : SessionMaps) : registrations (Event.deviceAuthenticated i msg.deviceId msg.token
      sh.auth :: registration cfg r i msg request) = 1 :=
    congrArg List.length (connectionIds_registration cfg r i msg request)
  unfold handleMessage
  rw [reading]
  dsimp only
  unfold receive
  split_ifs
  · rw [settle_step rfl rfl]
    exact ⟨_, settle_register 0 payload accepted admitted, rfl, rfl, rfl, rfl, one _⟩
  · exact ⟨_, settle_register 1 payload accepted admitted, rfl, rfl, rfl, rfl, one _⟩

end Device

/-! ### A long run -/

namespace Small

/-- Stream 0 may register device `"d"` again in a minute. -/
structure Waits (s : State) : Prop where
  reading : (s.dev 0).pc = .reading
  auth : s.shared.auth.enabled = false
  limit : s.shared.connectionLimiter.deviceLimit = 10
  window : s.shared.connectionLimiter.deviceWindow = 60
  past : ∀ t ∈ (s.shared.connectionLimiter.deviceWindows.lookup "d").getD [], t ≤ s.shared.now

theorem waits_init : Waits (State.init published) := by
  refine ⟨rfl, rfl, rfl, rfl, ?_⟩
  intro t h
  cases h

/-- Attempts that left the window do not count. -/
theorem pruneAndCheck_of_past {times : List Instant} {now : Instant}
    (past : ∀ t ∈ times, t ≤ now) :
    ConnectionRateLimiter.pruneAndCheck times 10 60 (now + 60) = (true, [now + 60]) := by
  have none : times.dropWhile (fun t => decide ((60 : Duration) ≤
      saturatingDurationSince (now + 60) t)) = [] := by
    rw [List.dropWhile_eq_nil_iff]
    intro t h
    have := past t h
    rw [decide_eq_true_iff, saturatingDurationSince, le_max_iff]
    exact Or.inr (by linarith)
  simp [ConnectionRateLimiter.pruneAndCheck, none]

/-- Stream 0 registers device `"d"`. -/
def again : DeviceMessage := ⟨"d", "t", some (.register ⟨"d", [], ""⟩)⟩

/-- The time passes, and stream 0 registers device `"d"`. -/
theorem waits_register {s : State} (W : Waits s) :
    ∃ s', Runs.execute (Atomic.step published) s
        [.other (.advance (s.shared.now + 60)), .message 0 again true] = some s' ∧ Waits s' ∧
      registrations s'.trace = registrations s.trace + 1 := by
  have later : s.shared.now ≤ s.shared.now + 60 := by linarith
  have attempt := pruneAndCheck_of_past W.past
  have admitted : s.shared.connectionLimiter.allowDevice (s.shared.now + 60) "d" =
      (true, { s.shared.connectionLimiter with
        deviceWindows := s.shared.connectionLimiter.deviceWindows.insert "d"
          [s.shared.now + 60] }) := by
    simp only [ConnectionRateLimiter.allowDevice, W.limit, W.window, attempt]
  obtain ⟨next, hn, reading, auth, now, limiter, one⟩ :=
    @Device.handleMessage_register published s.trace.length 0
      { s.shared with now := s.shared.now + 60 } (s.dev 0) again ⟨"d", [], ""⟩ ⟨"d", ""⟩
      W.reading rfl (by simp [AuthService.authenticateDeviceByToken, W.auth, again])
      (congrArg Prod.fst admitted)
  refine ⟨State.afterDev { s with shared := { s.shared with now := s.shared.now + 60 } } 0 next,
    ?_, ?_, ?_⟩
  · simp only [Runs.execute, Atomic.step, GrpcRelay.step, if_pos later, Option.bind_some, hn,
      Option.map_some]
  · rw [show again.deviceId = "d" from rfl, admitted] at limiter
    refine ⟨?_, ?_, ?_, ?_, ?_⟩
    · rw [State.dev_afterDev_self, reading]
    · exact (congrArg AuthService.enabled auth).trans W.auth
    · exact (congrArg ConnectionRateLimiter.deviceLimit limiter).trans W.limit
    · exact (congrArg ConnectionRateLimiter.deviceWindow limiter).trans W.window
    · intro t h
      rw [State.afterDev, limiter] at h
      rw [State.afterDev, now]
      simp only [AList.lookup_insert, Option.getD_some, List.mem_singleton] at h
      exact h.le
  · rw [State.afterDev, registrations, connectionIds_append, List.length_append]
    exact congrArg (registrations s.trace + ·) one

/-- There are runs with any number of registrations. -/
theorem exists_registrations (n : ℕ) :
    ∃ s, Atomic.Reachable published s ∧ Waits s ∧ registrations s.trace = n := by
  induction n with
  | zero => exact ⟨_, .start, waits_init, rfl⟩
  | succ n ih =>
    obtain ⟨s, hs, W, count⟩ := ih
    obtain ⟨s', run, W', more⟩ := waits_register W
    exact ⟨s', .of_execute (fun _ _ => trivial) _ hs run, W', by rw [more, count]⟩

end Small

/-- After 2^64 registrations the first connection id is given, and announced, again. -/
theorem wrapped_counter_repeats_online_event :
    ¬ ∀ cfg s, cfg.mqtt = true → Atomic.Reachable cfg s →
      (∀ d, replay (publishRequests s.trace) d =
        (s.shared.relay.sessionsByDeviceId.lookup d).map (·.connectionId)) ∧
      OnlineFirst (publishRequests s.trace) ∧
      (onlineIds (publishRequests s.trace)).Nodup ∧
      (offlineIds (publishRequests s.trace)).Nodup := by
  intro claim
  obtain ⟨s, hs, -, count⟩ := Small.exists_registrations (UInt64.size + 1)
  obtain ⟨-, -, nodup, -⟩ := claim _ s rfl hs
  rw [(logged_of_reachable rfl hs).online, (numbered_of_reachable hs).drawn, count] at nodup
  exact not_nodup_drawn (by decide) nodup

end GrpcRelay
