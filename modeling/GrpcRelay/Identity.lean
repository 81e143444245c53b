import GrpcRelay.Responses
import GrpcRelay.Authorization

/-!
# Device identity on the data path

A device stream takes the identity of the last `Register` whose token was accepted.  `Registry`
says that sessions, and the requests on their way to them, lead only to streams that registered for
the device; `acceptedAs` is the identity of a stream, and a `Data` message is taken as the answer of
that device.
-/

namespace GrpcRelay

/-- A `Register` that was accepted on stream `i`: device, token and the authentication service that
accepted it. -/
def Event.accepted (i : ℕ) : Event → Option (String × String × AuthService)
  | .deviceAuthenticated i' deviceId token auth =>
    if i' = i then some (deviceId, token, auth) else none
  | _ => none

/-- The last `Register` accepted on stream `i`. -/
def acceptedAs (i : ℕ) (past : List Event) : Option (String × String × AuthService) :=
  History.latest (Event.accepted i) past

/-- The token was accepted for the device by this authentication service. -/
structure Accepts (cfg : Config) (auth : AuthService) (deviceId token : String) : Prop where
  enabled : auth.enabled = cfg.auth.enabled
  accepted : ∃ p, auth.authenticateDeviceByToken deviceId token = .ok p

/-- Stream `i` sent a `Register` for the device that was accepted. -/
def RegisteredFor (cfg : Config) (past : List Event) (i : ℕ) (deviceId : String) : Prop :=
  ∃ token auth, .deviceAuthenticated i deviceId token auth ∈ past ∧ Accepts cfg auth deviceId token

theorem RegisteredFor.append {cfg : Config} {past : List Event} {i : ℕ} {deviceId : String}
    (h : RegisteredFor cfg past i deviceId) (events : List Event) :
    RegisteredFor cfg (past ++ events) i deviceId := by
  obtain ⟨token, auth, hm, ha⟩ := h
  exact ⟨token, auth, List.mem_append_left _ hm, ha⟩

/-- The session a loop has found for its message. -/
def CtrlPc.routed : CtrlPc → Option (ControllerMessage × DeviceSession)
  | .metering m _ session | .forwarding m _ session => some (m, session)
  | _ => none

namespace Controller

variable {cfg : Config} {sh : Shared} {c : ℕ} {l : Controller} {input : CtrlInput}
  {next : Next Controller}

theorem sessions_of_moves (move : Moves cfg sh c l input next) :
    next.shared.relay.sessionsByDeviceId = sh.relay.sessionsByDeviceId := by
  cases move
  all_goals first | rfl | exact Shared.Quiet.sessions ‹_›

/-- A loop finds the session of its message among the sessions. -/
theorem routed_of_moves (move : Moves cfg sh c l input next) {m : ControllerMessage}
    {session : DeviceSession} (h : next.loc.pc.routed = some (m, session)) :
    l.pc.routed = some (m, session) ∨
      sh.relay.sessionsByDeviceId.lookup m.targetDeviceId = some session := by
  cases move
  case routed m' rx session' at_pc online =>
    obtain ⟨rfl, rfl⟩ : m' = m ∧ session' = session := by simpa [CtrlPc.routed, goto] using h
    exact Or.inr online
  case metered at_pc _ =>
    rw [at_pc]
    exact Or.inl h
  case ended at_pc _ =>
    rcases at_pc with ⟨-, rfl⟩ | ⟨-, rfl⟩ | ⟨-, rfl⟩ <;> simp [CtrlPc.routed, goto] at h
  all_goals simp [CtrlPc.routed, goto] at h

end Controller

/-- Sessions belong to streams that registered for their device. -/
structure Registry (cfg : Config) (s : State) : Prop where
  sessions : ∀ d session, s.shared.relay.sessionsByDeviceId.lookup d = some session →
    RegisteredFor cfg s.trace session.outboundTx d
  routed : ∀ c m session, (s.ctrl c).pc.routed = some (m, session) →
    RegisteredFor cfg s.trace session.outboundTx m.targetDeviceId
  registering : ∀ i msg, (s.dev i).pc.registering = some msg →
    RegisteredFor cfg s.trace i msg.deviceId
  identity : ∀ i, (s.dev i).currentDeviceId = (acceptedAs i s.trace).map (·.1)
  accepted : ∀ i deviceId token auth, acceptedAs i s.trace = some (deviceId, token, auth) →
    Accepts cfg auth deviceId token

variable {cfg : Config} {s s' : State}

theorem registry_init : Registry cfg (State.init cfg) where
  sessions := by simp [State.init, Shared.init, RelayState.new]
  routed := by simp [State.init, CtrlPc.routed]
  registering := by simp [State.init, DevPc.registering]
  identity := by simp [State.init, acceptedAs, History.latest]
  accepted := by simp [State.init, acceptedAs, History.latest]

theorem acceptedAs_append {i : ℕ} {past events : List Event}
    (h : ∀ e ∈ events, ∀ deviceId token auth, e ≠ .deviceAuthenticated i deviceId token auth) :
    acceptedAs i (past ++ events) = acceptedAs i past := by
  refine History.latest_append_of_silent ?_
  intro e he
  cases e with
  | deviceAuthenticated i' deviceId token auth =>
    refine if_neg ?_
    rintro rfl
    exact h _ he deviceId token auth rfl
  | _ => rfl

namespace Registry

variable (R : Registry cfg s)

include R

/-- A step that accepts no `Register`. -/
theorem keep {events : List Event} (trace : s'.trace = s.trace ++ events)
    (silent : ∀ e ∈ events, ∀ i deviceId token auth,
      e ≠ .deviceAuthenticated i deviceId token auth)
    (sessions : ∀ d session, s'.shared.relay.sessionsByDeviceId.lookup d = some session →
      RegisteredFor cfg s.trace session.outboundTx d)
    (routed : ∀ c m session, (s'.ctrl c).pc.routed = some (m, session) →
      RegisteredFor cfg s.trace session.outboundTx m.targetDeviceId)
    (registering : ∀ i msg, (s'.dev i).pc.registering = some msg →
      (s.dev i).pc.registering = some msg)
    (identity : ∀ i, (s'.dev i).currentDeviceId = (s.dev i).currentDeviceId) :
    Registry cfg s' := by
  have hlast (i : ℕ) : acceptedAs i s'.trace = acceptedAs i s.trace := by
    rw [trace]
    exact acceptedAs_append fun e he => silent e he i
  refine ⟨?_, ?_, ?_, ?_, ?_⟩
  · intro d session h
    rw [trace]
    exact (sessions d session h).append events
  · intro c m session h
    rw [trace]
    exact (routed c m session h).append events
  · intro i msg h
    rw [trace]
    exact (R.registering i msg (registering i msg h)).append events
  · intro i
    rw [identity, hlast]
    exact R.identity i
  · intro i
    rw [hlast]
    exact R.accepted i

/-- A step of a loop. -/
theorem ctrl {c : ℕ} {input : CtrlInput} {next : Next Controller}
    (move : Controller.Moves cfg s.shared c (s.ctrl c) input next) :
    Registry cfg (s.afterCtrl c next) := by
  refine R.keep rfl ?_ ?_ ?_ (fun _ _ h => h) (fun _ => rfl)
  · rintro e he i deviceId token auth rfl
    cases Controller.events_of_moves move _ he
  · rw [show (s.afterCtrl c next).shared.relay.sessionsByDeviceId =
      s.shared.relay.sessionsByDeviceId from Controller.sessions_of_moves move]
    exact R.sessions
  · intro c' m session h
    by_cases hc : c' = c
    · subst hc
      simp only [State.afterCtrl, Function.update_self] at h
      rcases Controller.routed_of_moves move h with h | h
      · exact R.routed c' m session h
      · exact R.sessions _ session h
    · simp only [State.afterCtrl, Function.update_of_ne hc] at h
      exact R.routed c' m session h

/-- A stream's step that accepts no `Register`. -/
theorem stream {i : ℕ} {next : Next Device}
    (silent : ∀ e ∈ next.events, ∀ i deviceId token auth,
      e ≠ .deviceAuthenticated i deviceId token auth)
    (sessions : ∀ d session, next.shared.relay.sessionsByDeviceId.lookup d = some session →
      RegisteredFor cfg s.trace session.outboundTx d)
    (registering : next.loc.pc.registering = none ∨
      next.loc.pc.registering = (s.dev i).pc.registering)
    (identity : next.loc.currentDeviceId = (s.dev i).currentDeviceId) :
    Registry cfg (s.afterDev i next) := by
  refine R.keep rfl silent sessions R.routed ?_ ?_
  · intro i' msg h
    by_cases hi : i' = i
    · subst hi
      simp only [State.afterDev, Function.update_self] at h
      rcases registering with hr | hr
      · rw [hr] at h
        cases h
      · rwa [← hr]
    · simpa [State.afterDev, hi] using h
  · intro i'
    by_cases hi : i' = i
    · subst hi
      simpa [State.afterDev] using identity
    · simp [State.afterDev, hi]

/-- A stream's `Register` is accepted. -/
theorem authenticate (enabled : s.shared.auth.enabled = cfg.auth.enabled) {i : ℕ}
    {msg : DeviceMessage} {request : RegisterRequest} {p : DevicePrincipal}
    (accepted : s.shared.auth.authenticateDeviceByToken msg.deviceId msg.token = .ok p) :
    Registry cfg (s.afterDev i ⟨s.shared,
      { s.dev i with currentDeviceId := some msg.deviceId, pc := .admitting msg request },
      [.deviceAuthenticated i msg.deviceId msg.token s.shared.auth]⟩) := by
  have accepts : Accepts cfg s.shared.auth msg.deviceId msg.token := ⟨enabled, p, accepted⟩
  have hlast (i' : ℕ) : acceptedAs i' (s.trace ++
      [Event.deviceAuthenticated i msg.deviceId msg.token s.shared.auth]) =
      if i = i' then some (msg.deviceId, msg.token, s.shared.auth)
      else acceptedAs i' s.trace := by
    rw [acceptedAs, History.latest_snoc, Event.accepted]
    split_ifs <;> rfl
  refine ⟨?_, ?_, ?_, ?_, ?_⟩
  · intro d session h
    exact (R.sessions d session h).append _
  · intro c m session h
    exact (R.routed c m session h).append _
  · intro i' msg' h
    by_cases hi : i' = i
    · subst hi
      obtain rfl : msg = msg' := by simpa [State.afterDev, DevPc.registering] using h
      exact ⟨msg.token, s.shared.auth, by simp [State.afterDev], accepts⟩
    · simp only [State.afterDev, Function.update_of_ne hi] at h
      exact (R.registering i' msg' h).append _
  · intro i'
    simp only [State.afterDev, hlast]
    by_cases hi : i' = i
    · subst hi
      simp
    · rw [Function.update_of_ne hi, if_neg (Ne.symm hi)]
      exact R.identity i'
  · intro i' deviceId token auth h
    simp only [State.afterDev, hlast] at h
    split_ifs at h
    · obtain ⟨rfl, rfl, rfl⟩ : msg.deviceId = deviceId ∧ msg.token = token ∧
        s.shared.auth = auth := by simpa using h
      exact accepts
    · exact R.accepted i' deviceId token auth h

/-- A step of a device stream. -/
theorem dev (enabled : s.shared.auth.enabled = cfg.auth.enabled) {i : ℕ} {next : Next Device}
    (move : Device.Moves s.shared s.trace.length i (s.dev i) next) :
    Registry cfg (s.afterDev i next) := by
  cases move with
  | silent sh' pc' connectionId events quiet _ registering _ plain _ =>
    refine R.stream ?_ ?_ registering rfl
    · rintro e he i' deviceId token auth rfl
      cases plain _ he
    · rw [quiet.sessions]
      exact R.sessions
  | authenticated msg request p _ accepted => exact R.authenticate enabled accepted
  | installed msg session resumed pc' at_pc device own _ registering _ =>
    refine R.stream (by simp) ?_ (Or.inl registering) rfl
    intro d session' h
    rw [DashMap.lookup_insert_ite] at h
    split_ifs at h with hd
    · obtain rfl : session = session' := by simpa using h
      rw [hd, own]
      exact R.registering i msg at_pc
    · exact R.sessions d session' h
  | removedSession did connectionId at_pc =>
    refine R.stream (by simp) ?_ (Or.inl rfl) rfl
    intro d session h
    rw [DashMap.lookup_erase_ite] at h
    split_ifs at h
    exact R.sessions d session h
  | answered | unasked | completed | visited | swept | drained =>
    exact R.stream (by simp) R.sessions (Or.inl rfl) rfl

theorem stepCases (enabled : s.shared.auth.enabled = cfg.auth.enabled) {a : Action}
    (h : StepCases cfg s a s') : Registry cfg s' := by
  cases h with
  | ctrl c input next move => exact R.ctrl move
  | dev i input next move => exact R.dev enabled move
  | ambient _ sh' reaper' events _ _ sessions _ _ _ plain _ =>
    refine R.keep rfl ?_ (by rw [sessions]; exact R.sessions) R.routed (fun _ _ h => h)
      (fun _ => rfl)
    rintro e he i deviceId token auth rfl
    cases plain _ he
  | fired | firedLate | completed | evicted =>
    exact R.keep rfl (by simp) R.sessions R.routed (fun _ _ h => h) (fun _ => rfl)

end Registry

theorem registry_of_reachable (h : Reachable cfg s) : Registry cfg s := by
  refine h.invariant registry_init ?_
  intro s a s' hr R _ hs
  exact R.stepCases (auth_enabled_of_reachable hr) (step_cases hs)

/-! ## Requests and answers -/

/-- A request goes to a stream that registered for its device, a `Data` message counts for the
device that its stream was last accepted as, and a response that a controller receives is
genuine. -/
def Identified (cfg : Config) (past : List Event) : Event → Prop
  | .placed _ i m _ => RegisteredFor cfg past i m.targetDeviceId
  | .data i d _ => ∃ token auth, acceptedAs i past = some (d, token, auth) ∧
      Accepts cfg auth d token
  | .answered _ r | .notified _ r => Genuine past r
  | _ => True

theorem identified_of_reachable (h : Reachable cfg s) :
    History.Justified (Identified cfg) s.trace := by
  refine Runs.Reach.invariant (I := fun s => History.Justified (Identified cfg) s.trace)
    History.justified_nil ?_ h
  intro s a s' hr ih _ hs
  have R := registry_of_reachable hr
  have hcases := step_cases hs
  obtain ⟨events, trace⟩ := trace_of_cases hcases
  rw [trace]
  refine ih.extend ?_
  intro e he
  cases e with
  | placed c i m request =>
    obtain ⟨rx, session, hpc, rfl, rfl, -⟩ := places_of_cases hcases trace he
    refine Or.inr ⟨[], (List.append_cancel_left trace).symm, by simp, ?_⟩
    exact R.routed c m session (by rw [hpc]; rfl)
  | data i d response =>
    obtain ⟨hid, later, rfl, hlater⟩ := data_of_cases hcases trace he
    refine Or.inr ⟨later, rfl, ?_, ?_⟩
    · intro hmem
      obtain ⟨t, o, ho⟩ := hlater _ hmem
      cases ho
    · rw [R.identity i, Option.map_eq_some_iff] at hid
      obtain ⟨⟨_, token, auth⟩, hlast, rfl⟩ := hid
      exact ⟨token, auth, hlast, R.accepted i _ token auth hlast⟩
  | answered c r =>
    rcases answered_of_cases hcases trace he with ho | ⟨m, hpc, rfl⟩
    · exact Or.inl fun _ => genuine_of_relay ho
    · refine Or.inr ⟨[], rfl, by simp, ?_⟩
      exact ((provenance_of_reachable hr).reply c m r (by rw [hpc]; rfl)).2
  | notified c r => exact Or.inl fun _ => genuine_of_relay (notified_of_cases hcases trace he)
  | _ => exact Or.inl fun _ => trivial

theorem Accepts.configured {auth : AuthService} {deviceId token : String}
    (h : Accepts cfg auth deviceId token) (on : cfg.auth.enabled = true) :
    auth.isDeviceTokenRevoked token = false ∧
      ∃ entry, auth.deviceTokens.lookup token = some entry ∧ entry.deviceId = deviceId := by
  obtain ⟨p, hp⟩ := h.accepted
  exact AuthService.authenticateDeviceByToken_ok (h.enabled.trans on) hp

/-- With authentication on, a request for a device is put only on the outbound channel of a stream
that earlier sent a `Register` for the device with a token configured for it and not revoked then;
and a response that a controller receives and the relay did not make up was built from a `Data`
message on a stream whose last accepted `Register` was such a one for the device of the
response. -/
theorem device_identity (on : cfg.auth.enabled = true) (h : Reachable cfg s) :
    (∀ past later c i m request, s.trace = past ++ Event.placed c i m request :: later →
      ∃ token auth, .deviceAuthenticated i m.targetDeviceId token auth ∈ past ∧
        auth.isDeviceTokenRevoked token = false ∧
        ∃ entry, auth.deviceTokens.lookup token = some entry ∧
          entry.deviceId = m.targetDeviceId) ∧
    ∀ past later e c r, s.trace = past ++ e :: later → (e = .answered c r ∨ e = .notified c r) →
      r.origin ≠ .relay → ∃ before after i response token auth,
        past = before ++ Event.data i r.resp.deviceId response :: after ∧
        r = Device.dataReply before.length r.resp.deviceId response ∧
        acceptedAs i before = some (r.resp.deviceId, token, auth) ∧
        auth.isDeviceTokenRevoked token = false ∧
        ∃ entry, auth.deviceTokens.lookup token = some entry ∧
          entry.deviceId = r.resp.deviceId := by
  have J := identified_of_reachable h
  constructor
  · intro past later c i m request eq
    obtain ⟨token, auth, hm, ha⟩ := J past _ later eq
    exact ⟨token, auth, hm, ha.configured on⟩
  · intro past later e c r eq he ho
    have genuine : Genuine past r := by
      rcases he with rfl | rfl
      · exact J past _ later eq
      · exact J past _ later eq
    obtain ⟨before, after, i, response, rfl, hr⟩ := genuine.source ho
    obtain ⟨token, auth, hlast, ha⟩ := J before (.data i r.resp.deviceId response)
      (after ++ e :: later) (by rw [eq]; simp)
    exact ⟨before, after, i, response, token, auth, rfl, hr, hlast, ha.configured on⟩

/-! ### A concrete run -/

namespace Small

/-- The device registers with its token and answers a request. -/
def identifiedRun : List Action :=
  register 0 "d" "dt" ++ join 0 (request 1) ++ forward 0 ++ data 0 "d" 1 ++ devTicks 0 1 ++
    ticks 0 4

end Small

/-- The request and the answer of a registered device. -/
theorem device_identity_registered :
    ∃ s, execute Small.guarded Small.identifiedRun = some s ∧
      (∃ past later token auth,
        s.trace = past ++ Event.placed 0 0 (Small.request 1) ⟨"conn-1", 1, [1]⟩ :: later ∧
        .deviceAuthenticated 0 "d" token auth ∈ past ∧
        auth.isDeviceTokenRevoked token = false) ∧
      ∃ past later i response before after token auth,
        s.trace = past ++ Event.answered 0 ⟨⟨"d", 1, [2], 0⟩, .device 9⟩ :: later ∧
        past = before ++ Event.data i "d" response :: after ∧
        acceptedAs i before = some ("d", token, auth) := by
  obtain ⟨s, hs, hplaced⟩ : ∃ s, execute Small.guarded Small.identifiedRun = some s ∧
      s.trace.filterMap Small.placement = [(0, 0, Small.request 1, ⟨"conn-1", 1, [1]⟩)] :=
    Option.map_eq_some_iff.1 (by decide +kernel)
  have hanswered : (execute Small.guarded Small.identifiedRun).map
      (fun s => s.trace.filterMap Small.answer) = some [(0, ⟨⟨"d", 1, [2], 0⟩, .device 9⟩)] := by
    decide +kernel
  rw [hs, Option.map_some, Option.some.injEq] at hanswered
  obtain ⟨requests, answers⟩ := device_identity rfl (reachable_of_execute hs)
  refine ⟨s, hs, ?_, ?_⟩
  · have hmem : .placed 0 0 (Small.request 1) ⟨"conn-1", 1, [1]⟩ ∈ s.trace :=
      Small.mem_of_placement (by rw [hplaced]; exact List.mem_singleton.2 rfl)
    obtain ⟨past, later, hsplit⟩ := List.append_of_mem hmem
    obtain ⟨token, auth, hm, hrevoked, -⟩ := requests past later 0 0 _ _ hsplit
    exact ⟨past, later, token, auth, hsplit, hm, hrevoked⟩
  · have hmem : .answered 0 ⟨⟨"d", 1, [2], 0⟩, .device 9⟩ ∈ s.trace :=
      Small.mem_of_filterMap (fun _ => Small.eq_answered)
        (by rw [hanswered]; exact List.mem_singleton.2 rfl)
    obtain ⟨past, later, hsplit⟩ := List.append_of_mem hmem
    obtain ⟨before, after, i, response, token, auth, hpast, -, hlast, -⟩ :=
      answers past later _ 0 _ hsplit (Or.inl rfl) (by simp)
    exact ⟨past, later, i, response, before, after, token, auth, hsplit, hpast, hlast⟩

end GrpcRelay
