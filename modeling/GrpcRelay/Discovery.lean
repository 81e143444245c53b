import GrpcRelay.Unary
import GrpcRelay.Identity

/-!
# Discovery and access

`ListOnlineDevices` filters the devices online on its own, and the `ConnectToDevice` loop asks the
policy.  They agree (`discovery_agrees_with_access`), since every device online is one of the
configuration (`Known`); but for a call without credentials, which is refused before its controller
is authenticated (`unlisted_without_token`).
-/

namespace GrpcRelay

/-! ## The authentication service of a run -/

namespace AuthService

/-- The tokens revoked are all that changes in a run. -/
structure Agrees (auth : AuthService) (config : AuthConfig) : Prop where
  enabled : auth.enabled = config.enabled
  jwt : auth.jwt = config.jwt
  controllerTokens : auth.controllerTokens = config.controllerTokens
  deviceTokens : auth.deviceTokens = config.deviceTokens
  deviceById : auth.deviceById = (new config).deviceById

theorem agrees_new (config : AuthConfig) : Agrees (new config) config := ⟨rfl, rfl, rfl, rfl, rfl⟩

/-- The entry of a device is that of the last of its tokens, in the order of the tokens. -/
theorem lookup_deviceById (config : AuthConfig) (d : String) :
    (new config).deviceById.lookup d =
      (config.deviceTokens.entries.reverse.find? fun e => e.2.deviceId = d).map (·.2) :=
  DashMap.lookup_foldl_insert (fun e : Σ _ : String, DeviceAuthEntry => e.2.deviceId) (·.2) _ d

/-- A device that has a token is known by its id. -/
theorem mem_deviceById {config : AuthConfig} {token : String} {entry : DeviceAuthEntry}
    (h : config.deviceTokens.lookup token = some entry) :
    entry.deviceId ∈ (new config).deviceById := by
  have listed := (DashMap.mem_entries_iff ..).2 h
  rw [← AList.lookup_isSome, lookup_deviceById, Option.isSome_map, List.find?_isSome]
  exact ⟨_, List.mem_reverse.2 listed, by simp⟩

end AuthService

/-- What a step makes of the authentication service. -/
def authAfter (auth : AuthService) : Action → AuthService
  | .revokeControllerToken p => auth.revokeControllerToken p
  | .revokeDeviceToken p => auth.revokeDeviceToken p
  | _ => auth

section

variable {cfg : Config} {s s' : State} {a : Action}

/-- Only a revocation changes the authentication service. -/
theorem auth_of_step (h : step cfg s a = some s') : s'.shared.auth = authAfter s.shared.auth a := by
  cases a with
  | ctrl c input =>
    obtain ⟨next, hn, rfl⟩ := Option.map_eq_some_iff.1 h
    show next.shared.auth = s.shared.auth
    cases Controller.moves_of_step hn
    all_goals first | rfl | exact Shared.Quiet.auth ‹_›
  | dev i input =>
    obtain ⟨next, hn, rfl⟩ := Option.map_eq_some_iff.1 h
    show next.shared.auth = s.shared.auth
    cases Device.moves_of_step hn
    all_goals first | rfl | exact Shared.Quiet.auth ‹_›
  | timer e =>
    obtain ⟨next, hn, rfl⟩ := Option.map_eq_some_iff.1 h
    show next.shared.auth = s.shared.auth
    unfold Timer.step at hn
    split at hn
    · split_ifs at hn
      split at hn <;> cases hn <;> rfl
    all_goals cases hn
    rfl
  | reaper =>
    cases h
    cases s.reaper with
    | sleeping => rfl
    | removing stale removed =>
      cases stale with
      | nil => rfl
      | cons sid stale =>
        simp only [Reaper.step]
        split <;> rfl
    | notifying removed => cases removed <;> rfl
  | advance now | evict k =>
    simp only [step] at h
    split_ifs at h
    cases h
    rfl
  | revokeControllerToken p | revokeDeviceToken p | allow d c | closeOutbound i =>
    cases h
    rfl

theorem agrees_of_reachable (h : Reachable cfg s) : s.shared.auth.Agrees cfg.auth := by
  refine Runs.Reach.invariant (I := fun s => s.shared.auth.Agrees cfg.auth)
    (AuthService.agrees_new cfg.auth) ?_ h
  intro s a s' _ A _ hs
  rw [auth_of_step hs]
  cases a with
  | revokeControllerToken p | revokeDeviceToken p =>
    exact ⟨A.enabled, A.jwt, A.controllerTokens, A.deviceTokens, A.deviceById⟩
  | _ => exact A

/-! ## The devices online -/

/-- Sessions are filed under their own device, which is one of the configuration. -/
structure Known (cfg : Config) (s : State) : Prop where
  sessions : ∀ d session, s.shared.relay.sessionsByDeviceId.lookup d = some session →
    session.deviceId = d ∧ (cfg.auth.enabled = true → d ∈ (AuthService.new cfg.auth).deviceById)
  registering : ∀ i msg, (s.dev i).pc.registering = some msg → cfg.auth.enabled = true →
    msg.deviceId ∈ (AuthService.new cfg.auth).deviceById

namespace Known

/-- A step of a device stream that installs no session. -/
theorem stream (K : Known cfg s) {i : ℕ} {next : Next Device}
    (sessions : ∀ d session, next.shared.relay.sessionsByDeviceId.lookup d = some session →
      s.shared.relay.sessionsByDeviceId.lookup d = some session)
    (registering : next.loc.pc.registering = none ∨
      next.loc.pc.registering = (s.dev i).pc.registering) :
    Known cfg (s.afterDev i next) := by
  refine ⟨fun d session h => K.sessions d session (sessions d session h), fun j msg h on => ?_⟩
  by_cases hj : j = i
  · subst hj
    simp only [State.afterDev, Function.update_self] at h
    rcases registering with none | same
    · cases none.symm.trans h
    · exact K.registering j msg (same ▸ h) on
  · simp only [State.afterDev, Function.update_of_ne hj] at h
    exact K.registering j msg h on

/-- A step of a device stream. -/
theorem dev (A : s.shared.auth.Agrees cfg.auth) (K : Known cfg s) {i : ℕ} {next : Next Device}
    (move : Device.Moves s.shared s.trace.length i (s.dev i) next) :
    Known cfg (s.afterDev i next) := by
  cases move with
  | silent sh' pc' connectionId events quiet _ registering =>
    refine K.stream (fun d session h => ?_) registering
    rwa [quiet.sessions] at h
  | authenticated msg request p at_pc accepted =>
    refine ⟨K.sessions, fun j msg' h on => ?_⟩
    by_cases hj : j = i
    · subst hj
      simp only [State.afterDev, Function.update_self] at h
      cases h
      obtain ⟨-, entry, found, device⟩ :=
        AuthService.authenticateDeviceByToken_ok (A.enabled.trans on) accepted
      rw [← device]
      exact AuthService.mem_deviceById (A.deviceTokens ▸ found)
    · simp only [State.afterDev, Function.update_of_ne hj] at h
      exact K.registering j msg' h on
  | installed msg session resumed pc' at_pc device own _ registering _ =>
    refine ⟨fun d session' h => ?_, fun j msg' h on => ?_⟩
    · simp only [State.afterDev] at h
      rw [DashMap.lookup_insert_ite] at h
      split_ifs at h with hd
      · cases h
        rw [hd]
        exact ⟨device, K.registering i msg at_pc⟩
      · exact K.sessions d session' h
    · by_cases hj : j = i
      · subst hj
        simp only [State.afterDev, Function.update_self] at h
        cases registering.symm.trans h
      · simp only [State.afterDev, Function.update_of_ne hj] at h
        exact K.registering j msg' h on
  | removedSession did connectionId at_pc =>
    refine K.stream (fun d session h => ?_) (Or.inl rfl)
    simp only at h
    rw [DashMap.lookup_erase_ite] at h
    split_ifs at h
    exact h
  | answered | unasked | completed | visited | swept | drained =>
    exact K.stream (fun _ _ h => h) (Or.inl rfl)

end Known

theorem known_of_reachable (h : Reachable cfg s) : Known cfg s := by
  refine Runs.Reach.invariant (I := Known cfg) ⟨?_, ?_⟩ ?_ h
  · intro d session h
    cases h
  · intro i msg h
    cases h
  · intro s a s' reach K _ hs
    cases step_cases hs with
    | ctrl c input next move =>
      refine ⟨fun d session h => K.sessions d session ?_, K.registering⟩
      simp only [State.afterCtrl] at h
      rwa [Controller.sessions_of_moves move] at h
    | dev i input next move => exact K.dev (agrees_of_reachable reach) move
    | ambient _ sh' reaper' events _ _ sessions =>
      refine ⟨fun d session h => K.sessions d session ?_, K.registering⟩
      rwa [sessions] at h
    | fired | firedLate | completed | evicted => exact ⟨K.sessions, K.registering⟩

/-! ## The two checks -/

/-- The devices of a list are those that have a session and pass the filter. -/
theorem mem_listed (K : Known cfg s) {p : ControllerPrincipal} {region d : String} :
    d ∈ ((s.shared.relay.listOnlineDevices cfg.relayAddress).filter
        (showsDevice s.shared.auth p region)).map (·.deviceId) ↔
      ∃ session, s.shared.relay.sessionsByDeviceId.lookup d = some session ∧
        showsDevice s.shared.auth p region
          ⟨d, session.connectionId, cfg.relayAddress, 0, session.metadata⟩ = true := by
  simp only [List.mem_map, List.mem_filter, RelayState.listOnlineDevices]
  constructor
  · rintro ⟨info, ⟨⟨⟨d', session⟩, listed, rfl⟩, shown⟩, rfl⟩
    have found := (DashMap.mem_entries_iff ..).1 listed
    obtain ⟨rfl, -⟩ := K.sessions d' session found
    exact ⟨session, found, shown⟩
  · rintro ⟨session, found, shown⟩
    obtain ⟨own, -⟩ := K.sessions d session found
    refine ⟨_, ⟨⟨⟨d, session⟩, (DashMap.mem_entries_iff ..).2 found, rfl⟩, ?_⟩, own⟩
    dsimp only
    rwa [own]

/-- A controller that authenticates sees a device exactly if the policy lets it reach the device. -/
theorem showsDevice_iff (A : s.shared.auth.Agrees cfg.auth) (K : Known cfg s)
    {controllerId token methodName d : String} {p : ControllerPrincipal} (info : DeviceInfo)
    (authenticated :
      s.shared.auth.authenticateController cfg.decode s.shared.now controllerId token = .ok p)
    (method : (RbacPolicyEngine.new cfg.auth).isMethodAllowed methodName = true)
    (online : d ∈ s.shared.relay.sessionsByDeviceId) (own : info.deviceId = d) :
    (showsDevice s.shared.auth p "" info = true ∧
        ¬ (p.role ≠ "admin" ∧ p.allowedProjectIds = [])) ↔
      ∃ device, s.shared.auth.getDevicePrincipalById d = .ok device ∧
        (RbacPolicyEngine.new cfg.auth).authorizeControllerToDevice p device methodName =
          .ok () := by
  have unfiltered : trimIsEmpty "" = true := rfl
  cases on : cfg.auth.enabled with
  | false =>
    have off : s.shared.auth.enabled = false := A.enabled.trans on
    rw [AuthService.authenticateController, if_pos (by rw [off]; rfl)] at authenticated
    cases authenticated
    simp [showsDevice, unfiltered, AuthService.getDevicePrincipalById, off,
      RbacPolicyEngine.authorizeControllerToDevice, RbacPolicyEngine.new, on]
  | true =>
    have enabled : s.shared.auth.enabled = true := A.enabled.trans on
    obtain ⟨session, found⟩ := Option.isSome_iff_exists.1 (AList.lookup_isSome.2 online)
    have known := (K.sessions d session found).2 on
    rw [← A.deviceById, ← AList.lookup_isSome, Option.isSome_iff_exists] at known
    obtain ⟨entry, known⟩ := known
    have principal : s.shared.auth.getDevicePrincipalById d =
        .ok ⟨entry.deviceId, entry.projectId⟩ := by
      simp [AuthService.getDevicePrincipalById, enabled, known]
    have policy : (RbacPolicyEngine.new cfg.auth).enabled = true := on
    have shows : showsDevice s.shared.auth p "" info =
        (p.role == "admin" || p.allowedProjectIds.any fun pid => pid == entry.projectId) := by
      simp only [showsDevice, unfiltered, own, principal]
      cases p.role == "admin" <;> rfl
    rw [shows, principal]
    simp only [RbacPolicyEngine.authorizeControllerToDevice, policy, method, Except.ok.injEq,
      exists_eq_left']
    by_cases admin : p.role = "admin"
    · simp [admin]
    · by_cases project : p.allowedProjectIds.any fun pid => pid == entry.projectId
      · have some : p.allowedProjectIds ≠ [] := by
          rintro none
          rw [none] at project
          cases project
        simp [admin, project, some]
      · simp [admin, project]

/-- A call of `ListOnlineDevices` that is not filtered and not rate limited lists a device exactly
if it carries credentials, the device is online and the checks of `ConnectToDevice` let the
controller reach it. -/
theorem discovery_agrees_with_access (h : Reachable cfg s) {req : ListOnlineDevicesRequest}
    {p : ControllerPrincipal} {methodName : String}
    (authenticated : s.shared.auth.authenticateController cfg.decode s.shared.now req.controllerId
      req.token = .ok p)
    (unfiltered : req.regionFilter = "")
    (within : (s.shared.rateLimiter.allow s.shared.now "*" req.controllerId).1 = true)
    (method : (RbacPolicyEngine.new cfg.auth).isMethodAllowed methodName = true) (d : String) :
    (∃ devices, (listOnlineDevices cfg s.shared req).1 = .ok devices ∧
        d ∈ devices.map (·.deviceId)) ↔
      (trimIsEmpty req.controllerId = false ∧ trimIsEmpty req.token = false) ∧
      d ∈ s.shared.relay.sessionsByDeviceId ∧
      ∃ device, s.shared.auth.getDevicePrincipalById d = .ok device ∧
        (RbacPolicyEngine.new cfg.auth).authorizeControllerToDevice p device methodName =
          .ok () := by
  have K := known_of_reachable h
  have agree (session : DeviceSession)
      (found : s.shared.relay.sessionsByDeviceId.lookup d = some session) :=
    showsDevice_iff (agrees_of_reachable h) K
      ⟨d, session.connectionId, cfg.relayAddress, 0, session.metadata⟩ authenticated method
      (AList.lookup_isSome.1 (by rw [found]; rfl)) rfl
  obtain ⟨limiter, allows⟩ : ∃ limiter, s.shared.rateLimiter.allow s.shared.now "*"
      req.controllerId = (true, limiter) := ⟨_, Prod.ext within rfl⟩
  unfold listOnlineDevices
  rw [unfiltered, authenticated, allows]
  by_cases blank : trimIsEmpty req.controllerId || trimIsEmpty req.token
  · rw [if_pos blank]
    refine ⟨fun h => ?_, fun h => ?_⟩
    · obtain ⟨devices, h, -⟩ := h
      cases h
    · rw [h.1.1, h.1.2] at blank
      cases blank
  · have filled : trimIsEmpty req.controllerId = false ∧ trimIsEmpty req.token = false := by
      simpa using blank
    rw [if_neg blank]
    simp only [filled, true_and, and_self]
    split_ifs with refused
    · have none : p.role ≠ "admin" ∧ p.allowedProjectIds = [] := by simpa using refused
      refine ⟨fun h => ?_, fun h => ?_⟩
      · obtain ⟨devices, h, -⟩ := h
        cases h
      · obtain ⟨online, reach⟩ := h
        obtain ⟨session, found⟩ := Option.isSome_iff_exists.1 (AList.lookup_isSome.2 online)
        exact absurd none ((agree session found).2 reach).2
    · have some : ¬ (p.role ≠ "admin" ∧ p.allowedProjectIds = []) := by simpa using refused
      simp only [Except.ok.injEq, exists_eq_left', mem_listed K]
      constructor
      · rintro ⟨session, found, shown⟩
        exact ⟨AList.lookup_isSome.1 (by rw [found]; rfl), (agree session found).1 ⟨shown, some⟩⟩
      · rintro ⟨online, reach⟩
        obtain ⟨session, found⟩ := Option.isSome_iff_exists.1 (AList.lookup_isSome.2 online)
        exact ⟨session, found, ((agree session found).2 reach).1⟩

end

/-! ### Concrete calls -/

/-- A registered device is listed, and its controller may reach it. -/
theorem registered_device_is_listed :
    ∃ s, execute Small.guarded (Small.register 0 "d" "dt") = some s ∧
      (∃ devices, (listOnlineDevices Small.guarded s.shared ⟨"c", "ct", ""⟩).1 = .ok devices ∧
        "d" ∈ devices.map (·.deviceId)) ∧
      ∃ device, s.shared.auth.getDevicePrincipalById "d" = .ok device ∧
        (RbacPolicyEngine.new Small.guarded.auth).authorizeControllerToDevice ⟨"c", "admin", []⟩
          device "M" = .ok () := by
  obtain ⟨s, run, hf⟩ : ∃ s, execute Small.guarded (Small.register 0 "d" "dt") = some s ∧
      ((s.shared.relay.sessionsByDeviceId.lookup "d").isSome,
        (s.shared.rateLimiter.allow s.shared.now "*" "c").1) = (true, true) :=
    Option.map_eq_some_iff.1 (by decide +kernel)
  simp only [Prod.mk.injEq] at hf
  obtain ⟨online, within⟩ := hf
  have authenticates : (execute Small.guarded (Small.register 0 "d" "dt")).map (fun s =>
      (s.shared.auth.authenticateController Small.guarded.decode s.shared.now "c" "ct",
        s.shared.auth.getDevicePrincipalById "d")) =
      some (.ok ⟨"c", "admin", []⟩, .ok ⟨"d", "p"⟩) := by decide +kernel
  simp only [run, Option.map_some, Option.some.injEq, Prod.mk.injEq] at authenticates
  have reaches := (@discovery_agrees_with_access _ s (reachable_of_execute run) ⟨"c", "ct", ""⟩ _
    "M" authenticates.1 rfl within rfl "d").2
  exact ⟨s, run, reaches ⟨by decide, AList.lookup_isSome.1 online, _, authenticates.2, rfl⟩, _,
    authenticates.2, rfl⟩

/-- Without authentication a call with a blank token is refused, though the controller may reach the
device. -/
theorem unlisted_without_token :
    ∃ s, execute Small.config (Small.register 0 "d" "t") = some s ∧
      s.shared.auth.authenticateController Small.config.decode s.shared.now "c" "" =
        .ok ⟨"c", "admin", []⟩ ∧
      (s.shared.rateLimiter.allow s.shared.now "*" "c").1 = true ∧
      "d" ∈ s.shared.relay.sessionsByDeviceId ∧
      (∃ device, s.shared.auth.getDevicePrincipalById "d" = .ok device ∧
        (RbacPolicyEngine.new Small.config.auth).authorizeControllerToDevice ⟨"c", "admin", []⟩
          device "M" = .ok ()) ∧
      (listOnlineDevices Small.config s.shared ⟨"c", "", ""⟩).1 =
        .error ⟨.unauthenticated, "missing controller_id or token"⟩ := by
  obtain ⟨s, run, hf⟩ : ∃ s, execute Small.config (Small.register 0 "d" "t") = some s ∧
      ((s.shared.relay.sessionsByDeviceId.lookup "d").isSome,
        (s.shared.rateLimiter.allow s.shared.now "*" "c").1, s.shared.auth.enabled) =
        (true, true, false) :=
    Option.map_eq_some_iff.1 (by decide +kernel)
  simp only [Prod.mk.injEq] at hf
  obtain ⟨online, within, off⟩ := hf
  refine ⟨s, run, ?_, within, AList.lookup_isSome.1 online, ⟨⟨"d", ""⟩, ?_, rfl⟩, ?_⟩
  · simp [AuthService.authenticateController, off]
  · simp [AuthService.getDevicePrincipalById, off]
  · rfl

end GrpcRelay
