import GrpcRelay.Sessions
import GrpcRelay.Lib.Tickets

/-!
# The coherence of the session maps

Connection ids are tickets of a counter that wraps around after 2^64 of them.  As long as it has
not, the maps of sessions and of connections are inverse to each other, a stream that presents the
connection id of a session is the one that installed it, and so the resumption that a `Register`
asks for, decided from the map of connections, is about the session that it replaces.
-/

namespace GrpcRelay

open Tickets

/-- The connection id of a registration. -/
def Event.connectionId : Event → Option String
  | .registered _ _ connectionId _ => some connectionId
  | _ => none

/-- The connection ids of the registrations so far. -/
def connectionIds (events : List Event) : List String := events.filterMap Event.connectionId

/-- The number of registrations so far. -/
def registrations (events : List Event) : ℕ := (connectionIds events).length

theorem connectionIds_append (events new : List Event) :
    connectionIds (events ++ new) = connectionIds events ++ connectionIds new :=
  List.filterMap_append ..

theorem connectionIds_of_silent {events : List Event}
    (silent : ∀ e ∈ events, e.tellsSession = false) : connectionIds events = [] := by
  refine List.filterMap_eq_nil_iff.2 fun e he => ?_
  have := silent e he
  cases e <;> first | rfl | cases this

theorem connectionIds_registration (cfg : Config) (r : SessionMaps) (i : ℕ) (msg : DeviceMessage)
    (request : RegisterRequest) :
    connectionIds (Device.registration cfg r i msg request) = [r.nextId] := by
  unfold Device.registration Device.onlineNotice
  split_ifs <;> rfl

theorem connectionIds_offlineNotice (cfg : Config) (did : String) (reason : DisconnectReason)
    (cid : String) :
    connectionIds (Device.offlineNotice cfg did reason (some cid)) = [] := by
  unfold Device.offlineNotice
  split_ifs <;> rfl

/-! ## Numbers -/

/-- The connection ids were drawn one after the other. -/
structure Numbered (s : State) : Prop where
  drawn : connectionIds s.trace = Tickets.drawn "conn-" UInt64.size (registrations s.trace)
  counter : s.maps.connectionIdCounter = (registrations s.trace + 1) % UInt64.size

variable {cfg : Config} {s s' : State}

/-- A step without a registration draws no connection id. -/
theorem Numbered.keep (N : Numbered s)
    (counter : s'.maps.connectionIdCounter = s.maps.connectionIdCounter)
    (silent : connectionIds s'.trace = connectionIds s.trace) : Numbered s' := by
  have same : registrations s'.trace = registrations s.trace := congrArg List.length silent
  constructor
  · rw [silent, same, N.drawn]
  · rw [counter, same, N.counter]

theorem Numbered.sessionStep (N : Numbered s) {a : Atomic.Action}
    (h : Atomic.SessionStep cfg s a s') : Numbered s' := by
  cases h with
  | other a _ unrelated =>
    obtain ⟨events, trace, silent⟩ := unrelated.silent
    refine N.keep (congrArg _ unrelated.maps) ?_
    rw [trace, connectionIds_append, connectionIds_of_silent silent, List.append_nil]
  | message i msg isHealthy next reading handles =>
    cases handles with
    | kept sh' pc events settled maps silent | refused sh' request p events _ _ maps silent =>
      refine N.keep ?_ ?_
      · exact (congrArg SessionMaps.connectionIdCounter maps).trans (Device.counter_arrival ..)
      · rw [State.afterDev, connectionIds_append, connectionIds_of_silent silent, List.append_nil]
    | registered sh' request p events payload accepted maps silent =>
      have ids : connectionIds (s.trace ++ (events ++ Device.registration cfg
          (Device.arrival s.shared (s.dev i) msg) i msg request)) =
          connectionIds s.trace ++ [s.maps.nextId] := by
        rw [connectionIds_append, connectionIds_append, connectionIds_of_silent silent,
          connectionIds_registration, List.nil_append, SessionMaps.nextId, SessionMaps.nextId,
          Device.counter_arrival]
        rfl
      have count : registrations (s.trace ++ (events ++ Device.registration cfg
          (Device.arrival s.shared (s.dev i) msg) i msg request)) =
          registrations s.trace + 1 := by
        rw [registrations, ids, List.length_append]
        rfl
      constructor
      · rw [State.afterDev, ids, count, drawn_succ, ← N.drawn, ← N.counter]
        rfl
      · rw [State.afterDev, count]
        refine (congrArg SessionMaps.connectionIdCounter maps).trans ?_
        rw [SessionMaps.install, Device.counter_arrival]
        refine (congrArg (fun k => (k + 1) % UInt64.size) N.counter).trans ?_
        rw [Nat.mod_add_mod]
  | hangUp i reason reading =>
    refine N.keep rfl ?_
    rw [State.afterDev, List.append_nil]
  | cleanup i reason next closing cleans =>
    cases cleans with
    | kept sh' events maps foreign silent =>
      refine N.keep (congrArg SessionMaps.connectionIdCounter maps) ?_
      rw [State.afterDev, connectionIds_append, connectionIds_of_silent silent, List.append_nil]
    | removed sh' did session events own maps silent =>
      have counter := congrArg SessionMaps.connectionIdCounter maps
      refine N.keep counter ?_
      rw [State.afterDev, connectionIds_append, connectionIds_append,
        connectionIds_of_silent silent, connectionIds_offlineNotice, List.append_nil,
        List.append_nil]

theorem numbered_of_reachable (h : Atomic.Reachable cfg s) : Numbered s :=
  Runs.Reach.invariant (I := Numbered) ⟨rfl, rfl⟩
    (fun _ _ _ _ N _ hs => N.sessionStep (Atomic.sessionStep_of_step hs)) h

/-- A step only adds registrations. -/
theorem registrations_le {a : Atomic.Action} (h : Atomic.SessionStep cfg s a s') :
    registrations s.trace ≤ registrations s'.trace := by
  have grows {events : List Event} : registrations s.trace ≤ registrations (s.trace ++ events) := by
    rw [registrations, registrations, connectionIds_append, List.length_append]
    exact Nat.le_add_right _ _
  cases h with
  | other a _ unrelated =>
    obtain ⟨events, trace, -⟩ := unrelated.silent
    rw [trace]
    exact grows
  | message | hangUp | cleanup => exact grows

/-! ## Sessions and connections -/

namespace SessionMaps

variable {r : SessionMaps} {session : DeviceSession}

/-- The maps of sessions and of connections are inverse to each other. -/
def Inverse (r : SessionMaps) : Prop :=
  ∀ cid d, r.connectionToDeviceId.lookup cid = some d ↔
    ∃ session, r.sessionsByDeviceId.lookup d = some session ∧ session.connectionId = cid

/-- Sessions of different devices have different connection ids. -/
theorem Inverse.inj (I : r.Inverse) {d d' : String} {session' : DeviceSession}
    (h : r.sessionsByDeviceId.lookup d = some session)
    (h' : r.sessionsByDeviceId.lookup d' = some session')
    (same : session.connectionId = session'.connectionId) : d = d' := by
  have hc := (I session.connectionId d).2 ⟨session, h, rfl⟩
  have hc' := (I session.connectionId d').2 ⟨session', h', same.symm⟩
  exact Option.some.inj (hc.symm.trans hc')

theorem Inverse.install (I : r.Inverse)
    (fresh : ∀ d session', r.sessionsByDeviceId.lookup d = some session' →
      session'.connectionId ≠ session.connectionId) : (r.install session).Inverse := by
  intro cid d
  refine ⟨connections_install (I cid d).1, ?_⟩
  rintro ⟨session', found, rfl⟩
  simp only [SessionMaps.install, DashMap.lookup_insert_ite] at found ⊢
  split_ifs at found with hd
  · cases found
    simp [hd]
  · rw [if_neg (fresh d session' found), unlinked]
    have linked := (I session'.connectionId d).2 ⟨session', found, rfl⟩
    split
    · rename_i previous replaced
      rw [DashMap.lookup_erase_ite, if_neg, linked]
      exact fun same => hd (I.inj found replaced same)
    · exact linked

theorem Inverse.remove (I : r.Inverse) {did : String}
    (own : r.sessionsByDeviceId.lookup did = some session) : (r.remove did session).Inverse := by
  intro cid d
  refine ⟨connections_remove (I cid d).1 own, ?_⟩
  rintro ⟨session', found, rfl⟩
  simp only [SessionMaps.remove, DashMap.lookup_erase_ite] at found ⊢
  split_ifs at found with hd
  rw [if_neg fun same => hd (I.inj found own same)]
  exact (I session'.connectionId d).2 ⟨session', found, rfl⟩

end SessionMaps

/-- The two maps are inverse to each other, and connection ids in use were given to a
registration. -/
structure Coherent (s : State) : Prop where
  inverse : s.maps.Inverse
  issued : ∀ d session, s.maps.sessionsByDeviceId.lookup d = some session →
    session.connectionId ∈ connectionIds s.trace
  held : ∀ i cid, (s.dev i).currentConnectionId = some cid → cid ∈ connectionIds s.trace
  owner : ∀ d session i, s.maps.sessionsByDeviceId.lookup d = some session →
    (s.dev i).currentConnectionId = some session.connectionId → session.outboundTx = i
  seen : ∀ d t, s.maps.deviceLastSeen.lookup d = some t →
    ∃ session, s.maps.sessionsByDeviceId.lookup d = some session

theorem coherent_init (cfg : Config) : Coherent (State.init cfg) := by
  refine ⟨fun cid d => ?_, ?_, ?_, ?_, ?_⟩
  · constructor
    · intro h
      cases h
    · rintro ⟨session, h, -⟩
      cases h
  all_goals intros; contradiction

namespace Coherent

/-- The maps stay but for the times of devices with sessions, and streams keep their connection
ids. -/
theorem keep (C : Coherent s)
    (sessions : s'.maps.sessionsByDeviceId = s.maps.sessionsByDeviceId)
    (connections : s'.maps.connectionToDeviceId = s.maps.connectionToDeviceId)
    (trace : ∃ events, s'.trace = s.trace ++ events)
    (dev : ∀ i, (s'.dev i).currentConnectionId = (s.dev i).currentConnectionId)
    (seen : ∀ d t, s'.maps.deviceLastSeen.lookup d = some t →
      s.maps.deviceLastSeen.lookup d = some t ∨
        ∃ session, s.maps.sessionsByDeviceId.lookup d = some session) : Coherent s' := by
  obtain ⟨events, trace⟩ := trace
  have grows {cid : String} (h : cid ∈ connectionIds s.trace) : cid ∈ connectionIds s'.trace := by
    rw [trace, connectionIds_append]
    exact List.mem_append_left _ h
  constructor
  · unfold SessionMaps.Inverse
    rw [sessions, connections]
    exact C.inverse
  · rw [sessions]
    exact fun d session h => grows (C.issued d session h)
  · intro i cid h
    rw [dev] at h
    exact grows (C.held i cid h)
  · intro d session i h hi
    rw [sessions] at h
    rw [dev] at hi
    exact C.owner d session i h hi
  · intro d t h
    rw [sessions]
    rcases seen d t h with h | h
    · exact C.seen d t h
    · exact h

/-- A stream moves and keeps its connection id. -/
theorem stream (C : Coherent s) {i : ℕ} {next : Next Device}
    (sessions : next.shared.relay.sessionsByDeviceId = s.maps.sessionsByDeviceId)
    (connections : next.shared.relay.connectionToDeviceId = s.maps.connectionToDeviceId)
    (connection : next.loc.currentConnectionId = (s.dev i).currentConnectionId)
    (seen : ∀ d t, next.shared.relay.deviceLastSeen.lookup d = some t →
      s.maps.deviceLastSeen.lookup d = some t ∨
        ∃ session, s.maps.sessionsByDeviceId.lookup d = some session) :
    Coherent (s.afterDev i next) := by
  refine C.keep sessions connections ⟨_, rfl⟩ (fun j => ?_) seen
  by_cases hj : j = i
  · rw [hj, State.dev_afterDev_self, connection]
  · rw [State.dev_afterDev_of_ne s hj]

/-- The session of a `Register` is installed under a connection id that was not used before. -/
theorem register (C : Coherent s) {i : ℕ} {msg : DeviceMessage} {request : RegisterRequest}
    {sh' : Shared} {before : List Event} {r : SessionMaps}
    (sessions : r.sessionsByDeviceId = s.maps.sessionsByDeviceId)
    (connections : r.connectionToDeviceId = s.maps.connectionToDeviceId)
    (seen : ∀ d t, r.deviceLastSeen.lookup d = some t →
      s.maps.deviceLastSeen.lookup d = some t ∨
        ∃ session, s.maps.sessionsByDeviceId.lookup d = some session)
    (maps : sh'.relay.maps = r.install (Device.newSession r i msg request))
    (fresh : r.nextId ∉ connectionIds s.trace) :
    Coherent (s.afterDev i ⟨sh', ⟨some msg.deviceId, some r.nextId, .reading⟩,
      before ++ Device.registration cfg r i msg request⟩) := by
  have ids {cid : String} : cid ∈ connectionIds (s.trace ++
      (before ++ Device.registration cfg r i msg request)) ↔
        cid ∈ connectionIds s.trace ∨ cid ∈ connectionIds before ∨ cid = r.nextId := by
    rw [connectionIds_append, connectionIds_append, connectionIds_registration]
    simp
  -- The sessions after the step.
  have found {d : String} {session : DeviceSession}
      (h : (r.install (Device.newSession r i msg request)).sessionsByDeviceId.lookup d =
        some session) : (d = msg.deviceId ∧ session = Device.newSession r i msg request) ∨
          (d ≠ msg.deviceId ∧ s.maps.sessionsByDeviceId.lookup d = some session) := by
    simp only [SessionMaps.install, DashMap.lookup_insert_ite, sessions] at h
    split_ifs at h with hd
    · exact Or.inl ⟨hd, (Option.some.inj h).symm⟩
    · exact Or.inr ⟨hd, h⟩
  constructor
  · rw [State.maps, State.afterDev, maps]
    refine SessionMaps.Inverse.install ?_ ?_
    · unfold SessionMaps.Inverse
      rw [sessions, connections]
      exact C.inverse
    · intro d session h same
      rw [sessions] at h
      have issued := C.issued d session h
      rw [same] at issued
      exact fresh issued
  · intro d session h
    rw [State.maps, State.afterDev, maps] at h
    refine ids.2 ?_
    rcases found h with ⟨-, rfl⟩ | ⟨-, h⟩
    · exact Or.inr (Or.inr rfl)
    · exact Or.inl (C.issued d session h)
  · intro j cid h
    refine ids.2 ?_
    by_cases hj : j = i
    · rw [hj, State.dev_afterDev_self] at h
      exact Or.inr (Or.inr (Option.some.inj h).symm)
    · rw [State.dev_afterDev_of_ne s hj] at h
      exact Or.inl (C.held j cid h)
  · intro d session j h hj
    rw [State.maps, State.afterDev, maps] at h
    rcases found h with ⟨-, rfl⟩ | ⟨-, h⟩
    · by_contra hne
      have hji : j ≠ i := fun hji => hne hji.symm
      rw [State.dev_afterDev_of_ne s hji] at hj
      exact fresh (C.held j _ hj)
    · by_cases hji : j = i
      · rw [hji, State.dev_afterDev_self] at hj
        exact absurd (C.issued d session h) (Option.some.inj hj ▸ fresh)
      · rw [State.dev_afterDev_of_ne s hji] at hj
        exact C.owner d session j h hj
  · intro d t h
    rw [State.maps, State.afterDev, maps] at h ⊢
    simp only [SessionMaps.install, DashMap.lookup_insert_ite, sessions]
    split_ifs with hd
    · exact ⟨_, rfl⟩
    · rcases seen d t h with h | h
      · exact C.seen d t h
      · exact h

/-- The stream's own session is removed. -/
theorem remove (C : Coherent s) {i : ℕ} {did : String} {session : DeviceSession} {sh' : Shared}
    {events : List Event} (own : Device.Owns s.maps (s.dev i) did session)
    (maps : sh'.relay.maps = s.maps.remove did session) :
    Coherent (s.afterDev i ⟨sh', (s.dev i).goto .done, events⟩) := by
  have grows {cid : String} (h : cid ∈ connectionIds s.trace) :
      cid ∈ connectionIds (s.trace ++ events) := by
    rw [connectionIds_append]
    exact List.mem_append_left _ h
  have found {d : String} {session' : DeviceSession}
      (h : (s.maps.remove did session).sessionsByDeviceId.lookup d = some session') :
      d ≠ did ∧ s.maps.sessionsByDeviceId.lookup d = some session' := by
    simp only [SessionMaps.remove, DashMap.lookup_erase_ite] at h
    split_ifs at h with hd
    exact ⟨hd, h⟩
  have connection (j : ℕ) : ((s.afterDev i ⟨sh', (s.dev i).goto .done, events⟩).dev
      j).currentConnectionId = (s.dev j).currentConnectionId := by
    by_cases hj : j = i
    · rw [hj, State.dev_afterDev_self]
      rfl
    · rw [State.dev_afterDev_of_ne s hj]
  constructor
  · rw [State.maps, State.afterDev, maps]
    exact C.inverse.remove own.2.1
  · intro d session' h
    rw [State.maps, State.afterDev, maps] at h
    exact grows (C.issued d session' (found h).2)
  · intro j cid h
    rw [connection] at h
    exact grows (C.held j cid h)
  · intro d session' j h hj
    rw [State.maps, State.afterDev, maps] at h
    rw [connection] at hj
    exact C.owner d session' j (found h).2 hj
  · intro d t h
    rw [State.maps, State.afterDev, maps] at h ⊢
    simp only [SessionMaps.remove, DashMap.lookup_erase_ite] at h ⊢
    split_ifs at h ⊢ with hd
    exact C.seen d t h

theorem sessionStep (N : Numbered s) (C : Coherent s) {a : Atomic.Action}
    (h : Atomic.SessionStep cfg s a s') (few : registrations s'.trace ≤ UInt64.size) :
    Coherent s' := by
  have N' := N.sessionStep h
  cases h with
  | other a _ unrelated =>
    obtain ⟨events, trace, -⟩ := unrelated.silent
    refine C.keep (congrArg _ unrelated.maps) (congrArg _ unrelated.maps) ⟨events, trace⟩ ?_ ?_
    · intro i
      rw [unrelated.dev]
    · intro d t h
      exact Or.inl (unrelated.maps ▸ h)
  | message i msg isHealthy next reading handles =>
    cases handles with
    | kept sh' pc events settled maps silent | refused sh' request p events _ _ maps silent =>
      refine C.stream ?_ ?_ rfl ?_
      · exact (congrArg SessionMaps.sessionsByDeviceId maps).trans (Device.sessions_arrival ..)
      · exact (congrArg SessionMaps.connectionToDeviceId maps).trans
          (Device.connections_arrival ..)
      · intro d t h
        replace h : sh'.relay.maps.deviceLastSeen.lookup d = some t := h
        rw [maps] at h
        exact Device.seen_arrival h
    | registered sh' request p events payload accepted maps silent =>
      refine C.register (Device.sessions_arrival ..) (Device.connections_arrival ..)
        (fun d t h => Device.seen_arrival h) maps ?_
      -- The ids drawn so far differ, so the new one is not among the old.
      have nodup := N'.drawn ▸ nodup_drawn few
      rw [State.afterDev, connectionIds_append, connectionIds_append,
        connectionIds_of_silent silent, connectionIds_registration, List.nil_append] at nodup
      intro old
      exact (List.nodup_append.1 nodup).2.2 _ old _ (by simp) rfl
  | hangUp i reason reading => exact C.stream rfl rfl rfl fun d t h => Or.inl h
  | cleanup i reason next closing cleans =>
    cases cleans with
    | kept sh' events maps foreign silent =>
      exact C.stream (congrArg SessionMaps.sessionsByDeviceId maps)
        (congrArg SessionMaps.connectionToDeviceId maps) rfl
        fun d t h => Or.inl ((congrArg SessionMaps.deviceLastSeen maps).symm ▸ h)
    | removed sh' did session events own maps silent => exact C.remove own maps

end Coherent

theorem coherent_of_reachable (h : Atomic.Reachable cfg s)
    (few : registrations s.trace ≤ UInt64.size) : Coherent s := by
  refine Runs.Reach.invariant (I := fun s => registrations s.trace ≤ UInt64.size → Coherent s)
    (fun _ => coherent_init cfg) ?_ h few
  intro s a s' hr ih _ hs few
  have step := Atomic.sessionStep_of_step hs
  exact (ih ((registrations_le step).trans few)).sessionStep (numbered_of_reachable hr) step few

/-! ## Refreshes and resumptions -/

/-- The times that devices were last seen change only by the arrival of a message on the stream
that installed the device's session, and by a cleanup. -/
def RefreshedByOwner (s : State) (a : Atomic.Action) (s' : State) : Prop :=
  s'.maps.deviceLastSeen = s.maps.deviceLastSeen ∨
  (∃ i msg isHealthy session, a = .message i msg isHealthy ∧
    s.maps.sessionsByDeviceId.lookup msg.deviceId = some session ∧ session.outboundTx = i ∧
    s'.maps.deviceLastSeen = s.maps.deviceLastSeen.insert msg.deviceId s.shared.now) ∨
  ∃ i did, a = .cleanup i ∧ s'.maps.deviceLastSeen = s.maps.deviceLastSeen.erase did

/-- A `Register` that installs a session answers that the session is resumed exactly if it names
the connection of the session that it replaces. -/
def ResumesReplaced (s : State) (a : Atomic.Action) (s' : State) : Prop :=
  ∀ i d cid resumed, .registered i d cid resumed ∈ s'.trace.drop s.trace.length →
    ∃ msg isHealthy request, a = .message i msg isHealthy ∧
      msg.payload = some (.register request) ∧ d = msg.deviceId ∧
      .relayed i (.registerResponse cid resumed) ∈ s'.trace.drop s.trace.length ∧
      (resumed = true ↔ ∃ session, s.maps.sessionsByDeviceId.lookup d = some session ∧
        session.connectionId = request.previousConnectionId)

theorem ticket_ne_empty {k : ℕ} : ticket "conn-" k ≠ "" := by
  intro h
  have := congrArg String.length h
  simp [ticket, String.length_append] at this

namespace Coherent

/-- Connection ids are not empty. -/
theorem connectionId_ne_empty (N : Numbered s) (C : Coherent s) {d : String}
    {session : DeviceSession} (h : s.maps.sessionsByDeviceId.lookup d = some session) :
    session.connectionId ≠ "" := by
  have issued := C.issued d session h
  rw [N.drawn, Tickets.drawn] at issued
  obtain ⟨k, -, hk⟩ := List.mem_map.1 issued
  exact hk ▸ ticket_ne_empty

theorem resumes_iff (N : Numbered s) (C : Coherent s) {r : SessionMaps} {msg : DeviceMessage}
    {request : RegisterRequest}
    (connections : r.connectionToDeviceId = s.maps.connectionToDeviceId) :
    Device.resumes r msg request = true ↔
      ∃ session, s.maps.sessionsByDeviceId.lookup msg.deviceId = some session ∧
        session.connectionId = request.previousConnectionId := by
  unfold Device.resumes
  rw [Bool.and_eq_true, beq_iff_eq, connections, C.inverse]
  refine ⟨fun h => h.2, fun h => ⟨?_, h⟩⟩
  obtain ⟨session, found, same⟩ := h
  have := C.connectionId_ne_empty N found
  rw [same] at this
  simpa using this

theorem refreshed (C : Coherent s) {a : Atomic.Action} (h : Atomic.SessionStep cfg s a s') :
    RefreshedByOwner s a s' := by
  cases h with
  | other a _ unrelated => exact Or.inl (congrArg _ unrelated.maps)
  | message i msg isHealthy next reading handles =>
    have arrives {sh' : Shared}
        (maps : sh'.relay.maps.deviceLastSeen =
          (Device.arrival s.shared (s.dev i) msg).deviceLastSeen) :
        sh'.relay.maps.deviceLastSeen = s.maps.deviceLastSeen ∨
          ∃ session, s.maps.sessionsByDeviceId.lookup msg.deviceId = some session ∧
            session.outboundTx = i ∧
            sh'.relay.maps.deviceLastSeen =
              s.maps.deviceLastSeen.insert msg.deviceId s.shared.now := by
      rw [maps, Device.arrival]
      split_ifs with own
      · obtain ⟨session, found, -, connection⟩ := Device.active_of_ownsMessage own
        exact Or.inr ⟨session, found, C.owner _ session i found connection, rfl⟩
      · exact Or.inl rfl
    have seen : next.shared.relay.maps.deviceLastSeen =
        (Device.arrival s.shared (s.dev i) msg).deviceLastSeen := by
      cases handles with
      | kept _ _ _ _ maps | refused _ _ _ _ _ _ maps | registered _ _ _ _ _ _ maps =>
        have seen := congrArg SessionMaps.deviceLastSeen maps
        exact seen
    rcases arrives seen with same | ⟨session, found, own, touched⟩
    · exact Or.inl same
    · exact Or.inr (Or.inl ⟨i, msg, isHealthy, session, rfl, found, own, touched⟩)
  | hangUp i reason reading => exact Or.inl rfl
  | cleanup i reason next closing cleans =>
    cases cleans with
    | kept sh' events maps foreign silent => exact Or.inl (congrArg _ maps)
    | removed sh' did session events own maps silent =>
      exact Or.inr (Or.inr ⟨i, did, rfl, congrArg SessionMaps.deviceLastSeen maps⟩)

/-- Events that do not tell of sessions hold no registration. -/
theorem not_registered_of_silent {events : List Event} {i : ℕ} {d cid : String} {resumed : Bool}
    (silent : ∀ e ∈ events, e.tellsSession = false) : .registered i d cid resumed ∉ events :=
  fun h => Bool.noConfusion (silent _ h)

theorem resumed (N : Numbered s) (C : Coherent s) {a : Atomic.Action}
    (h : Atomic.SessionStep cfg s a s') : ResumesReplaced s a s' := by
  intro i d cid resumed new
  cases h with
  | other a _ unrelated =>
    obtain ⟨events, trace, silent⟩ := unrelated.silent
    rw [trace, List.drop_left] at new
    exact absurd new (not_registered_of_silent silent)
  | message i' msg isHealthy next reading handles =>
    rw [State.afterDev, List.drop_left] at new ⊢
    cases handles with
    | kept sh' pc events settled maps silent | refused sh' request p events _ _ maps silent =>
      exact absurd new (not_registered_of_silent silent)
    | registered sh' request p events payload accepted maps silent =>
      rcases List.mem_append.1 new with old | new
      · exact absurd old (not_registered_of_silent silent)
      obtain ⟨rfl, rfl, rfl, rfl⟩ : i = i' ∧ d = msg.deviceId ∧
          cid = (Device.arrival s.shared (s.dev i') msg).nextId ∧
          resumed = Device.resumes (Device.arrival s.shared (s.dev i') msg) msg request := by
        unfold Device.registration Device.onlineNotice at new
        split_ifs at new <;> simpa using new
      refine ⟨msg, isHealthy, request, rfl, payload, rfl, ?_, ?_⟩
      · exact List.mem_append_right _ (List.mem_cons_of_mem _ (by simp))
      · exact C.resumes_iff N (Device.connections_arrival ..)
  | hangUp i' reason reading =>
    rw [State.afterDev, List.drop_left] at new
    cases new
  | cleanup i' reason next closing cleans =>
    rw [State.afterDev, List.drop_left] at new
    cases cleans with
    | kept sh' events maps foreign silent => exact absurd new (not_registered_of_silent silent)
    | removed sh' did session events own maps silent =>
      rcases List.mem_append.1 new with old | new
      · exact absurd old (not_registered_of_silent silent)
      · unfold Device.offlineNotice at new
        split_ifs at new <;> simp at new

end Coherent

/-- With at most 2^64 registrations: the maps of sessions and of connections are inverse to each
other, and no connection id is given twice; a device that was seen has a session, and only the
stream that installed it refreshes the time; and a `Register` resumes exactly the session that it
replaces. -/
theorem sessions_are_coherent (h : Atomic.Reachable cfg s)
    (few : registrations s.trace ≤ UInt64.size) :
    (∀ cid d, s.shared.relay.connectionToDeviceId.lookup cid = some d ↔
      ∃ session, s.shared.relay.sessionsByDeviceId.lookup d = some session ∧
        session.connectionId = cid) ∧
    (connectionIds s.trace).Nodup ∧
    (∀ d t, s.shared.relay.deviceLastSeen.lookup d = some t →
      ∃ session, s.shared.relay.sessionsByDeviceId.lookup d = some session) ∧
    ∀ a s', Atomic.step cfg s a = some s' →
      RefreshedByOwner s a s' ∧ ResumesReplaced s a s' := by
  have N := numbered_of_reachable h
  have C := coherent_of_reachable h few
  refine ⟨C.inverse, ?_, C.seen, fun a s' hs => ?_⟩
  · rw [N.drawn]
    exact nodup_drawn few
  · have step := Atomic.sessionStep_of_step hs
    exact ⟨C.refreshed step, C.resumed N step⟩

/-! ### A concrete run -/

namespace Small

/-- A `Register` for device `"d"` that asks to resume a connection. -/
def resuming (i : ℕ) (previous : String) : Atomic.Action :=
  .message i ⟨"d", "t", some (.register ⟨"d", [], previous⟩)⟩ true

end Small

/-- A second stream resumes the session of the first, which it names. -/
theorem second_stream_resumes :
    ∃ s s', Atomic.execute Small.config [Small.resuming 0 ""] = some s ∧
      registrations s.trace ≤ UInt64.size ∧
      Atomic.step Small.config s (Small.resuming 1 "conn-1") = some s' ∧
      s.shared.relay.connectionToDeviceId.lookup "conn-1" = some "d" ∧
      RefreshedByOwner s (Small.resuming 1 "conn-1") s' ∧
      ResumesReplaced s (Small.resuming 1 "conn-1") s' := by
  obtain ⟨s, hs, hf⟩ : ∃ s, Atomic.execute Small.config [Small.resuming 0 ""] = some s ∧
      (registrations s.trace, s.shared.relay.connectionToDeviceId.lookup "conn-1",
        (Atomic.step Small.config s (Small.resuming 1 "conn-1")).isSome) =
          (1, some "d", true) :=
    Option.map_eq_some_iff.1 (by decide +kernel)
  simp only [Prod.mk.injEq] at hf
  obtain ⟨count, linked, next⟩ := hf
  obtain ⟨s', hs'⟩ := Option.isSome_iff_exists.1 next
  have few : registrations s.trace ≤ UInt64.size := by
    rw [count]
    decide
  obtain ⟨-, -, -, steps⟩ := sessions_are_coherent (Atomic.reachable_of_execute hs) few
  exact ⟨s, s', hs, few, hs', linked, steps _ s' hs'⟩

end GrpcRelay
