import GrpcRelay.Sessions

/-!
# The owners of sessions

A device stream remembers one device id and one connection id, those of its last accepted
`Register`, and its cleanup removes the session that these name.  A `Register` for a second device
on the same stream overwrites them and leaves the first device's session without anybody to remove
it.  As long as that does not happen to a device, its session belongs to a stream that has still to
clean up (`sessions_have_live_owners`).
-/

namespace GrpcRelay

/-- The stream is in its loop, or has left it and its cleanup is its next step. -/
def DevPc.Live (pc : DevPc) : Prop := pc = .reading ∨ ∃ reason, pc = .closing reason

/-- The stream has sent nothing yet, or its cleanup is done. -/
def Device.Gone (l : Device) : Prop := l.pc = .done ∨ l = ⟨none, none, .reading⟩

/-- A `Register` whose token is accepted on the stream that holds the session of the device is for
that device. -/
def KeepsDevice (d : String) (s : State) : Atomic.Action → Prop
  | .message i msg _ => ∀ request p, msg.payload = some (.register request) →
      s.shared.auth.authenticateDeviceByToken msg.deviceId msg.token = .ok p →
      ∀ session, s.maps.sessionsByDeviceId.lookup d = some session →
        session.outboundTx = i → d = msg.deviceId
  | _ => True

/-- The stream that installed a session remembers it, and has still to clean up. -/
structure OwnedBy (s : State) (d : String) (session : DeviceSession) (l : Device) : Prop where
  installed : ∃ resumed, .registered session.outboundTx d session.connectionId resumed ∈ s.trace
  device : l.currentDeviceId = some d
  connection : l.currentConnectionId = some session.connectionId
  live : l.pc.Live

/-- The session of the device has its owner, and every connection of the device is its session's. -/
structure Owned (d : String) (s : State) : Prop where
  sessions : ∀ session, s.maps.sessionsByDeviceId.lookup d = some session →
    OwnedBy s d session (s.dev session.outboundTx)
  connections : ∀ cid, s.maps.connectionToDeviceId.lookup cid = some d →
    ∃ session, s.maps.sessionsByDeviceId.lookup d = some session ∧ session.connectionId = cid

variable {cfg : Config} {s s' : State} {d : String}

theorem owned_init (cfg : Config) (d : String) : Owned d (State.init cfg) := by
  constructor <;> intro _ h <;> cases h

namespace Owned

/-- The sessions and connections stay, and with them the identity of the device's stream. -/
theorem keep (O : Owned d s)
    (sessions : s'.maps.sessionsByDeviceId = s.maps.sessionsByDeviceId)
    (connections : s'.maps.connectionToDeviceId = s.maps.connectionToDeviceId)
    (trace : ∃ events, s'.trace = s.trace ++ events)
    (dev : ∀ session, s.maps.sessionsByDeviceId.lookup d = some session →
      OwnedBy s d session (s.dev session.outboundTx) →
      (s'.dev session.outboundTx).currentDeviceId = some d ∧
        (s'.dev session.outboundTx).currentConnectionId = some session.connectionId ∧
        (s'.dev session.outboundTx).pc.Live) : Owned d s' := by
  obtain ⟨events, trace⟩ := trace
  constructor
  · intro session h
    rw [sessions] at h
    have own := O.sessions session h
    obtain ⟨resumed, hr⟩ := own.installed
    obtain ⟨device, connection, live⟩ := dev session h own
    exact ⟨⟨resumed, by rw [trace]; exact List.mem_append_left _ hr⟩, device, connection, live⟩
  · intro cid h
    rw [connections] at h
    rw [sessions]
    exact O.connections cid h

/-- A stream moves without forgetting the device if it holds its session. -/
theorem stream (O : Owned d s) {i : ℕ} {next : Next Device}
    (sessions : next.shared.relay.sessionsByDeviceId = s.maps.sessionsByDeviceId)
    (connections : next.shared.relay.connectionToDeviceId = s.maps.connectionToDeviceId)
    (own : ∀ session, s.maps.sessionsByDeviceId.lookup d = some session →
      session.outboundTx = i → OwnedBy s d session (s.dev i) →
      next.loc.currentDeviceId = some d ∧
        next.loc.currentConnectionId = some session.connectionId ∧ next.loc.pc.Live) :
    Owned d (s.afterDev i next) := by
  refine O.keep sessions connections ⟨_, rfl⟩ fun session h o => ?_
  by_cases hi : session.outboundTx = i
  · rw [hi, State.dev_afterDev_self]
    exact own session h hi (hi ▸ o)
  · rw [State.dev_afterDev_of_ne s hi]
    exact ⟨o.device, o.connection, o.live⟩

/-- The session of a stream's `Register` is installed. -/
theorem register (O : Owned d s) {i : ℕ} {msg : DeviceMessage} {request : RegisterRequest}
    {sh' : Shared} {before : List Event} {r : SessionMaps}
    (sessions : r.sessionsByDeviceId = s.maps.sessionsByDeviceId)
    (connections : r.connectionToDeviceId = s.maps.connectionToDeviceId)
    (maps : sh'.relay.maps = r.install (Device.newSession r i msg request))
    (only : ∀ session, s.maps.sessionsByDeviceId.lookup d = some session →
      session.outboundTx = i → d = msg.deviceId) :
    Owned d (s.afterDev i ⟨sh', ⟨some msg.deviceId, some r.nextId, .reading⟩,
      before ++ Device.registration cfg r i msg request⟩) := by
  constructor
  · intro session h
    replace h : (r.install (Device.newSession r i msg request)).sessionsByDeviceId.lookup d =
      some session := maps ▸ h
    simp only [SessionMaps.install, DashMap.lookup_insert_ite, sessions] at h
    split_ifs at h with hd
    · obtain rfl := Option.some.inj h
      subst hd
      refine ⟨⟨Device.resumes r msg request, ?_⟩, ?_, ?_, ?_⟩
      · simp [State.afterDev, Device.registration, Device.newSession]
      · simp [Device.newSession]
      · simp [Device.newSession]
      · simp [Device.newSession, DevPc.Live]
    · have hi : session.outboundTx ≠ i := fun hi => hd (only session h hi)
      obtain ⟨⟨resumed, hr⟩, device, connection, live⟩ := O.sessions session h
      rw [State.dev_afterDev_of_ne s hi]
      exact ⟨⟨resumed, List.mem_append_left _ hr⟩, device, connection, live⟩
  · intro cid h
    replace h : (r.install (Device.newSession r i msg request)).connectionToDeviceId.lookup cid =
      some d := maps ▸ h
    rw [State.maps, State.afterDev, maps]
    refine SessionMaps.connections_install ?_ h
    rw [sessions, connections]
    exact O.connections cid

/-- The stream's own session is removed. -/
theorem remove (O : Owned d s) {i : ℕ} {did : String} {session : DeviceSession} {sh' : Shared}
    {events : List Event} (own : Device.Owns s.maps (s.dev i) did session)
    (maps : sh'.relay.maps = s.maps.remove did session) :
    Owned d (s.afterDev i ⟨sh', (s.dev i).goto .done, events⟩) := by
  constructor
  · intro session' h
    replace h : (s.maps.remove did session).sessionsByDeviceId.lookup d = some session' :=
      maps ▸ h
    simp only [SessionMaps.remove, DashMap.lookup_erase_ite] at h
    split_ifs at h with hd
    obtain ⟨⟨resumed, hr⟩, device, connection, live⟩ := O.sessions session' h
    have hi : session'.outboundTx ≠ i := by
      intro hi
      rw [hi, own.1] at device
      exact hd (Option.some.inj device).symm
    rw [State.dev_afterDev_of_ne s hi]
    exact ⟨⟨resumed, List.mem_append_left _ hr⟩, device, connection, live⟩
  · intro cid h
    replace h : (s.maps.remove did session).connectionToDeviceId.lookup cid = some d := maps ▸ h
    rw [State.maps, State.afterDev, maps]
    exact SessionMaps.connections_remove (O.connections cid) own.2.1 h

theorem sessionStep (O : Owned d s) {a : Atomic.Action} (ok : KeepsDevice d s a)
    (h : Atomic.SessionStep cfg s a s') : Owned d s' := by
  cases h with
  | other a _ unrelated =>
    obtain ⟨events, trace, -⟩ := unrelated.silent
    refine O.keep (congrArg _ unrelated.maps) (congrArg _ unrelated.maps) ⟨events, trace⟩ ?_
    intro session _ o
    rw [unrelated.dev]
    exact ⟨o.device, o.connection, o.live⟩
  | message i msg isHealthy next reading handles =>
    cases handles with
    | kept sh' pc events settled maps silent =>
      refine O.stream ?_ ?_ fun session _ _ o => ⟨o.device, o.connection, settled⟩
      · exact (congrArg SessionMaps.sessionsByDeviceId maps).trans (Device.sessions_arrival ..)
      · exact (congrArg SessionMaps.connectionToDeviceId maps).trans
          (Device.connections_arrival ..)
    | refused sh' request p events payload accepted maps silent =>
      refine O.stream ?_ ?_ fun session hs hi o => ⟨?_, o.connection, Or.inr ⟨_, rfl⟩⟩
      · exact (congrArg SessionMaps.sessionsByDeviceId maps).trans (Device.sessions_arrival ..)
      · exact (congrArg SessionMaps.connectionToDeviceId maps).trans
          (Device.connections_arrival ..)
      · rw [ok request p payload accepted session hs hi]
    | registered sh' request p events payload accepted maps silent =>
      exact O.register (Device.sessions_arrival ..) (Device.connections_arrival ..) maps
        (ok request p payload accepted)
  | hangUp i reason reading =>
    exact O.stream rfl rfl fun session _ _ o => ⟨o.device, o.connection, Or.inr ⟨_, rfl⟩⟩
  | cleanup i reason next closing cleans =>
    cases cleans with
    | kept sh' events maps foreign silent =>
      refine O.stream (congrArg SessionMaps.sessionsByDeviceId maps)
        (congrArg SessionMaps.connectionToDeviceId maps) fun session hs _ o => ?_
      exact absurd ⟨o.device, hs, o.connection⟩ (foreign d session)
    | removed sh' did session events own maps silent => exact O.remove own maps

/-- When all streams have ended, the device has no session. -/
theorem noSession (O : Owned d s) (gone : ∀ i, (s.dev i).Gone) :
    s.maps.sessionsByDeviceId.lookup d = none := by
  rw [Option.eq_none_iff_forall_ne_some]
  intro session hs
  have own := O.sessions session hs
  rcases gone session.outboundTx with done | fresh
  · rcases own.live with live | ⟨reason, live⟩ <;> rw [done] at live <;> cases live
  · have device := own.device
    rw [fresh] at device
    cases device

end Owned

theorem owned_of_reachable
    (h : Runs.Reach (Atomic.step cfg) (KeepsDevice d) (State.init cfg) s) : Owned d s :=
  Runs.Reach.invariant (owned_init cfg d)
    (fun _ _ _ _ O ok hs => O.sessionStep ok (Atomic.sessionStep_of_step hs)) h

/-- The session of the device was installed by a stream that has still to clean up; when all streams
have ended, the device has neither a session nor a connection. -/
def LiveOwner (d : String) (s : State) : Prop :=
  (∀ session, s.shared.relay.sessionsByDeviceId.lookup d = some session →
    (∃ resumed, .registered session.outboundTx d session.connectionId resumed ∈ s.trace) ∧
      (s.dev session.outboundTx).pc.Live) ∧
  ((∀ i, (s.dev i).Gone) → s.shared.relay.sessionsByDeviceId.lookup d = none ∧
    ∀ cid, s.shared.relay.connectionToDeviceId.lookup cid ≠ some d)

/-- Every session was installed by a stream that has still to clean up; when all streams have
ended, there are neither sessions nor connections. -/
def LiveOwners (s : State) : Prop :=
  (∀ d session, s.shared.relay.sessionsByDeviceId.lookup d = some session →
    (∃ resumed, .registered session.outboundTx d session.connectionId resumed ∈ s.trace) ∧
      (s.dev session.outboundTx).pc.Live) ∧
  ((∀ i, (s.dev i).Gone) →
    s.shared.relay.sessionsByDeviceId = ∅ ∧ s.shared.relay.connectionToDeviceId = ∅)

theorem Owned.liveOwner (O : Owned d s) : LiveOwner d s := by
  refine ⟨fun session hs => ⟨(O.sessions session hs).installed, (O.sessions session hs).live⟩,
    fun gone => ⟨O.noSession gone, fun cid hd => ?_⟩⟩
  obtain ⟨session, hs, -⟩ := O.connections cid hd
  rw [O.noSession gone] at hs
  cases hs

theorem liveOwners_of_each (h : ∀ d, LiveOwner d s) : LiveOwners s := by
  refine ⟨fun d session hs => (h d).1 session hs, fun gone => ⟨?_, ?_⟩⟩
  · exact DashMap.eq_empty_of_lookup fun d => ((h d).2 gone).1
  · refine DashMap.eq_empty_of_lookup fun cid => Option.eq_none_iff_forall_ne_some.2 fun d => ?_
    exact ((h d).2 gone).2 cid

/-- The session of a device has a live owner in every run in which no stream registers another
device while it holds that session; where this is so of every device, nothing is left when all
streams have ended. -/
theorem sessions_have_live_owners :
    (∀ d, Runs.Reach (Atomic.step cfg) (KeepsDevice d) (State.init cfg) s → LiveOwner d s) ∧
      (Runs.Reach (Atomic.step cfg) (fun s a => ∀ d, KeepsDevice d s a) (State.init cfg) s →
        LiveOwners s) := by
  refine ⟨fun d h => (owned_of_reachable h).liveOwner, fun h => liveOwners_of_each fun d => ?_⟩
  exact (owned_of_reachable (h.mono fun _ _ ok => ok d)).liveOwner

/-! ### Concrete runs -/

namespace Small

/-- A `Register` of stream `i` for a device. -/
def registers (i : ℕ) (deviceId : String) : Atomic.Action :=
  .message i ⟨deviceId, "t", some (.register ⟨deviceId, [], ""⟩)⟩ true

/-- A stream registers two devices and ends. -/
def secondDeviceRun : List Atomic.Action :=
  [registers 0 "d", registers 0 "e", .hangUp 0 .gracefulShutdown, .cleanup 0]

/-- A stream registers a device twice, another stream another device, and the first stream
ends. -/
def reregisterRun : List Atomic.Action :=
  [registers 0 "d", registers 0 "d", registers 1 "e", .hangUp 0 .gracefulShutdown, .cleanup 0]

/-- Stream 1 leaves a session behind; stream 0 registers a device, and ends. -/
def besideRun : List Atomic.Action :=
  [registers 0 "d", registers 1 "e", registers 1 "f", .hangUp 1 .gracefulShutdown, .cleanup 1,
    .hangUp 0 .gracefulShutdown, .cleanup 0]

/-- The cleanup of the stream is done. -/
def isDone : DevPc → Bool
  | .done => true
  | _ => false

/-- The stream holds no session of another device. -/
def keepsDevices (s : State) : Atomic.Action → Bool
  | .message i msg _ => s.maps.sessionsByDeviceId.entries.all fun entry =>
      decide (entry.2.outboundTx = i → entry.1 = msg.deviceId)
  | _ => true

theorem keepsDevices_sound (s : State) (a : Atomic.Action) (h : keepsDevices s a = true)
    (d : String) : KeepsDevice d s a := by
  cases a with
  | message i msg isHealthy =>
    intro _ _ _ _ session found own
    have all := List.all_eq_true.1 h ⟨d, session⟩ ((DashMap.mem_entries_iff _ _ _).2 found)
    exact of_decide_eq_true all own
  | other | hangUp | cleanup => exact trivial

/-- The stream does not hold the session of device `"d"`, or the message is for that device. -/
def keepsDevice (s : State) : Atomic.Action → Bool
  | .message i msg _ => (s.maps.sessionsByDeviceId.lookup "d").all fun session =>
      decide (session.outboundTx = i → "d" = msg.deviceId)
  | _ => true

theorem keepsDevice_sound (s : State) (a : Atomic.Action) (h : keepsDevice s a = true) :
    KeepsDevice "d" s a := by
  cases a with
  | message i msg isHealthy =>
    intro _ _ _ _ session found own
    rw [keepsDevice, found, Option.all_some, decide_eq_true_eq] at h
    exact h own
  | other | hangUp | cleanup => exact trivial

end Small

/-- The first device that a stream registered stays online when the stream has ended. -/
theorem second_register_leaves_session :
    ¬ ∀ cfg s, Atomic.Reachable cfg s → LiveOwners s := by
  intro claim
  obtain ⟨s, hs, hf⟩ : ∃ s, Atomic.execute Small.config Small.secondDeviceRun = some s ∧
      (s.shared.relay.sessionsByDeviceId.lookup "d", Small.isDone (s.dev 0).pc) =
        (some ⟨"d", "conn-1", [], 0⟩, true) :=
    Option.map_eq_some_iff.1 (by decide +kernel)
  simp only [Prod.mk.injEq] at hf
  obtain ⟨online, done⟩ := hf
  obtain ⟨-, live⟩ := (claim _ s (Atomic.reachable_of_execute hs)).1 "d" _ online
  rcases live with live | ⟨reason, live⟩ <;> rw [live] at done <;> cases done

theorem reregistered_device_is_removed :
    (∃ s, Runs.Reach (Atomic.step Small.config) (KeepsDevice "d") (State.init Small.config) s ∧
      s.shared.relay.sessionsByDeviceId.lookup "e" = some ⟨"e", "conn-2", [], 1⟩ ∧
      LiveOwner "d" s) ∧
    ∃ s, Runs.Reach (Atomic.step Small.config) (fun s a => ∀ d, KeepsDevice d s a)
        (State.init Small.config) s ∧
      s.shared.relay.sessionsByDeviceId.lookup "d" = none ∧
      s.shared.relay.sessionsByDeviceId.lookup "e" = some ⟨"e", "conn-3", [], 1⟩ ∧
      LiveOwners s := by
  constructor
  · obtain ⟨s, hs, left⟩ : ∃ s, Runs.executeWhen (Atomic.step Small.config) Small.keepsDevice
        (State.init Small.config) Small.besideRun = some s ∧
        s.shared.relay.sessionsByDeviceId.lookup "e" = some ⟨"e", "conn-2", [], 1⟩ :=
      Option.map_eq_some_iff.1 (by decide +kernel)
    have run : Runs.Reach (Atomic.step Small.config) (KeepsDevice "d")
        (State.init Small.config) s :=
      .of_executeWhen (fun s a _ => Small.keepsDevice_sound s a) _ .start hs
    exact ⟨s, run, left, sessions_have_live_owners.1 "d" run⟩
  · obtain ⟨s, hs, hf⟩ : ∃ s, Runs.executeWhen (Atomic.step Small.config) Small.keepsDevices
        (State.init Small.config) Small.reregisterRun = some s ∧
        (s.shared.relay.sessionsByDeviceId.lookup "d",
          s.shared.relay.sessionsByDeviceId.lookup "e") = (none, some ⟨"e", "conn-3", [], 1⟩) :=
      Option.map_eq_some_iff.1 (by decide +kernel)
    simp only [Prod.mk.injEq] at hf
    have run : Runs.Reach (Atomic.step Small.config) (fun s a => ∀ d, KeepsDevice d s a)
        (State.init Small.config) s :=
      .of_executeWhen (fun s a _ => Small.keepsDevices_sound s a) _ .start hs
    exact ⟨s, run, hf.1, hf.2, sessions_have_live_owners.2 run⟩

end GrpcRelay
