import GrpcRelay.Discovery

/-!
# Revoked tokens

`Service` is the relay with its unary calls.  A token that begins with a revoked string is refused
by every check of its kind (`not_covers_of_authenticateController`), and the revoked strings are
those of the calls that returned `revoked = true`, in this state and in all later ones
(`revoked_iff`).  So a revocation is permanent at every entry point, and it changes nothing for the
other tokens (`revocation_is_permanent`).
-/

namespace GrpcRelay

/-! ## The tokens that a revoked string covers -/

/-- The token begins with the string. -/
def Covers (revoked token : String) : Prop := revoked.toList <+: token.toList

namespace AuthService

variable {auth : AuthService} {tokens : List String} {token p : String}

theorem tokenIsRevoked_iff : tokenIsRevoked tokens token = true ↔ ∃ p ∈ tokens, Covers p token := by
  simp only [tokenIsRevoked, List.any_eq_true, Bool.or_eq_true, beq_iff_eq,
    String.startsWith_string_iff, Covers]
  constructor
  · rintro ⟨p, hp, rfl | covered⟩
    · exact ⟨token, hp, List.prefix_rfl⟩
    · exact ⟨p, hp, covered⟩
  · rintro ⟨p, hp, covered⟩
    exact ⟨p, hp, Or.inr covered⟩

/-- The strings revoked for one kind of tokens. -/
def revokedTokens (auth : AuthService) : TokenTargetType → List String
  | .controller => auth.revokedControllerTokens
  | .device => auth.revokedDeviceTokens
  | .unspecified => []

/-- A revocation adds its string to those of its kind and changes nothing else. -/
theorem revoke_ok {auth' : AuthService} {req : RevokeTokenRequest} (config : AuthConfig)
    (h : auth.revoke req = .ok auth') :
    (auth.Agrees config → auth'.Agrees config) ∧
    ∀ kind p, p ∈ auth'.revokedTokens kind ↔ p ∈ auth.revokedTokens kind ∨
      (TokenTargetType.ofInt req.targetType = some kind ∧ req.targetTokenHashOrPrefix = p) := by
  unfold revoke at h
  split at h
  · rename_i target
    cases h
    refine ⟨fun A => ⟨A.enabled, A.jwt, A.controllerTokens, A.deviceTokens, A.deviceById⟩, ?_⟩
    intro kind p
    cases kind <;>
      simp [revokedTokens, revokeControllerToken, target, List.mem_insert_iff, or_comm, eq_comm]
  · rename_i target
    cases h
    refine ⟨fun A => ⟨A.enabled, A.jwt, A.controllerTokens, A.deviceTokens, A.deviceById⟩, ?_⟩
    intro kind p
    cases kind <;>
      simp [revokedTokens, revokeDeviceToken, target, List.mem_insert_iff, or_comm, eq_comm]
  · cases h

/-- A controller's token is accepted only if no revoked string covers it. -/
theorem not_covers_of_authenticateController {decode : JwtDecoder} {now : Instant}
    {controllerId : String} {principal : ControllerPrincipal} (on : auth.enabled = true)
    (h : auth.authenticateController decode now controllerId token = .ok principal)
    (revoked : p ∈ auth.revokedControllerTokens) : ¬ Covers p token := by
  intro covered
  have := not_revoked_of_authenticateController on h
  rw [isControllerTokenRevoked, tokenIsRevoked_iff.2 ⟨p, revoked, covered⟩] at this
  cases this

/-- A device's token is accepted only if no revoked string covers it. -/
theorem not_covers_of_authenticateDeviceByToken {deviceId : String} {principal : DevicePrincipal}
    (on : auth.enabled = true)
    (h : auth.authenticateDeviceByToken deviceId token = .ok principal)
    (revoked : p ∈ auth.revokedDeviceTokens) : ¬ Covers p token := by
  intro covered
  have := (authenticateDeviceByToken_ok on h).1
  rw [isDeviceTokenRevoked, tokenIsRevoked_iff.2 ⟨p, revoked, covered⟩] at this
  cases this

/-- A token that no revoked string covers is treated as if nothing were revoked. -/
theorem authenticateController_of_uncovered {config : AuthConfig} (A : auth.Agrees config)
    (uncovered : ∀ p ∈ auth.revokedControllerTokens, ¬ Covers p token) (decode : JwtDecoder)
    (now : Instant) (controllerId : String) :
    auth.authenticateController decode now controllerId token =
      (new config).authenticateController decode now controllerId token := by
  have free : auth.isControllerTokenRevoked token = false := by
    rw [isControllerTokenRevoked, ← Bool.not_eq_true, tokenIsRevoked_iff]
    rintro ⟨p, hp, covered⟩
    exact uncovered p hp covered
  have free' : (new config).isControllerTokenRevoked token = false := rfl
  simp only [authenticateController, authenticateControllerJwt, free, free', A.enabled, A.jwt,
    A.controllerTokens]
  rfl

theorem authenticateDeviceByToken_of_uncovered {config : AuthConfig} (A : auth.Agrees config)
    (uncovered : ∀ p ∈ auth.revokedDeviceTokens, ¬ Covers p token) (deviceId : String) :
    auth.authenticateDeviceByToken deviceId token =
      (new config).authenticateDeviceByToken deviceId token := by
  have free : auth.isDeviceTokenRevoked token = false := by
    rw [isDeviceTokenRevoked, ← Bool.not_eq_true, tokenIsRevoked_iff]
    rintro ⟨p, hp, covered⟩
    exact uncovered p hp covered
  have free' : (new config).isDeviceTokenRevoked token = false := rfl
  simp only [authenticateDeviceByToken, free, free', A.enabled, A.deviceTokens]
  rfl

end AuthService

/-! ## The relay with its unary calls -/

/-- Where a call of `RevokeToken` stands. -/
inductive RevokePc where
  | unused
  /-- The request has arrived; about to be checked. -/
  | checking (req : RevokeTokenRequest)
  /-- The checks have passed; about to write. -/
  | writing (req : RevokeTokenRequest)
  | returned

/-- The relay, and the calls of `RevokeToken` by number. -/
structure Service where
  relay : State
  revoking : ℕ → RevokePc

/-- What the calls and streams did. -/
inductive RpcEvent where
  /-- Loop `c` received a message. -/
  | received (c : ℕ) (m : ControllerMessage)
  /-- Loop `c` created a stream mapping for its message. -/
  | mapped (c : ℕ) (m : ControllerMessage)
  /-- A `Register` or `Heartbeat` was accepted on device stream `i`. -/
  | accepted (i : ℕ) (msg : DeviceMessage)
  /-- `ListOnlineDevices` returned a list. -/
  | listed (req : ListOnlineDevicesRequest) (devices : List DeviceInfo)
  /-- Call `n` of `RevokeToken` arrived. -/
  | called (n : ℕ) (req : RevokeTokenRequest)
  /-- Call `n` of `RevokeToken` returned `revoked = true`. -/
  | revoked (n : ℕ) (req : RevokeTokenRequest)
  deriving DecidableEq

namespace Service

/-- A step of the relay or of a unary call. -/
inductive Action where
  /-- A step of the relay that is not part of a unary call. -/
  | relay (a : GrpcRelay.Action)
  /-- A call of `ListOnlineDevices`. -/
  | list (req : ListOnlineDevicesRequest)
  /-- Call `n` of `RevokeToken` arrives. -/
  | call (n : ℕ) (req : RevokeTokenRequest)
  /-- Call `n` of `RevokeToken` makes its checks. -/
  | check (n : ℕ)
  /-- Call `n` of `RevokeToken` writes and returns. -/
  | write (n : ℕ)
  deriving DecidableEq

/-- The relay at its start, with no call. -/
def init (cfg : Config) : Service := ⟨.init cfg, fun _ => .unused⟩

/-- The step stands for the effect of a unary call. -/
def ofCall : GrpcRelay.Action → Bool
  | .revokeControllerToken _ | .revokeDeviceToken _ | .allow _ _ => true
  | _ => false

/-- One step of the relay or of a unary call. -/
def step (cfg : Config) (s : Service) : Action → Option Service
  | .relay a =>
    if ofCall a then none
    else (GrpcRelay.step cfg s.relay a).map fun relay => { s with relay := relay }
  | .list req =>
    some { s with relay := { s.relay with shared := (listOnlineDevices cfg s.relay.shared req).2 } }
  | .call n req =>
    match s.revoking n with
    | .unused => some { s with revoking := Function.update s.revoking n (.checking req) }
    | _ => none
  | .check n =>
    match s.revoking n with
    | .checking req =>
      match authorizeRevocation cfg s.relay.shared req with
      | .ok () => some { s with revoking := Function.update s.revoking n (.writing req) }
      | .error _ => some { s with revoking := Function.update s.revoking n .returned }
    | _ => none
  | .write n =>
    match s.revoking n with
    | .writing req =>
      match s.relay.shared.auth.revoke req with
      | .ok auth =>
        some ⟨{ s.relay with shared := { s.relay.shared with auth := auth } },
          Function.update s.revoking n .returned⟩
      | .error _ => some { s with revoking := Function.update s.revoking n .returned }
    | _ => none

/-- The device stream is about to close. -/
def closes : DevPc → Bool
  | .closing _ => true
  | _ => false

/-- What a step did. -/
def emit (cfg : Config) (s : Service) (a : Action) (s' : Service) : List RpcEvent :=
  match a with
  | .relay (.ctrl c (.recv m)) => [.received c m]
  | .relay (.ctrl c .tick) =>
    match (s.relay.ctrl c).pc with
    | .mapping m => if (s'.relay.ctrl c).streamId.isSome then [.mapped c m] else []
    | _ => []
  | .relay (.dev i .tick) =>
    match (s.relay.dev i).pc with
    | .handling msg =>
      match msg.payload with
      | some (.register _) | some .heartbeat =>
        if closes (s'.relay.dev i).pc then [] else [.accepted i msg]
      | _ => []
    | _ => []
  | .relay _ => []
  | .list req =>
    match (listOnlineDevices cfg s.relay.shared req).1 with
    | .ok devices => [.listed req devices]
    | .error _ => []
  | .call n req => [.called n req]
  | .check _ => []
  | .write n =>
    match s.revoking n with
    | .writing req =>
      match s.relay.shared.auth.revoke req with
      | .ok _ => [.revoked n req]
      | .error _ => []
    | _ => []

/-- A run from a state, with what its steps did. -/
abbrev Run (cfg : Config) (s : Service) (log : List RpcEvent) (s' : Service) : Prop :=
  Runs.Logged (step cfg) (fun _ _ => True) (emit cfg) s log s'

/-! ## The revoked strings -/

variable {cfg : Config} {s s' : Service} {a : Action} {log : List RpcEvent}

/-- The authentication service of a state. -/
abbrev auth (s : Service) : AuthService := s.relay.shared.auth

theorem auth_list (sh : Shared) (req : ListOnlineDevicesRequest) :
    (listOnlineDevices cfg sh req).2.auth = sh.auth := by
  unfold listOnlineDevices
  split_ifs
  · rfl
  · split
    · rfl
    · split
      · rfl
      · dsimp only
        split_ifs <;> rfl

/-- Only a call that returns `revoked = true` changes the authentication service. -/
theorem auth_of_step (h : step cfg s a = some s') :
    (s'.auth = s.auth ∧ ∀ n req, .revoked n req ∉ emit cfg s a s') ∨
      ∃ n req, emit cfg s a s' = [.revoked n req] ∧ s.auth.revoke req = .ok s'.auth := by
  cases a with
  | relay b =>
    simp only [step] at h
    split_ifs at h with call
    obtain ⟨relay, hr, rfl⟩ := Option.map_eq_some_iff.1 h
    refine Or.inl ⟨?_, fun n req he => ?_⟩
    · rw [auth, GrpcRelay.auth_of_step hr]
      cases b <;> first | rfl | exact absurd rfl call
    · unfold emit at he
      split at he <;> rename_i hb <;> cases hb
      · simp at he
      · split at he
        · split_ifs at he <;> simp at he
        · cases he
      · split at he
        · split at he
          · split_ifs at he <;> simp at he
          · split_ifs at he <;> simp at he
          · cases he
        · cases he
      · cases he
  | list req =>
    cases h
    refine Or.inl ⟨auth_list _ req, fun n req' he => ?_⟩
    simp only [emit] at he
    split at he <;> simp at he
  | call n req =>
    simp only [step] at h
    split at h <;> cases h
    exact Or.inl ⟨rfl, by simp [emit]⟩
  | check n =>
    simp only [step] at h
    split at h
    · split at h <;> cases h <;> exact Or.inl ⟨rfl, by simp [emit]⟩
    · cases h
  | write n =>
    simp only [step] at h
    split at h
    · rename_i req at_pc
      split at h <;> rename_i revoke <;> cases h
      · exact Or.inr ⟨n, req, by simp [emit, at_pc, revoke], revoke⟩
      · exact Or.inl ⟨rfl, by simp [emit, at_pc, revoke]⟩
    · cases h

/-- The string was revoked for tokens of a kind. -/
def RevokedIn (log : List RpcEvent) (kind : TokenTargetType) (p : String) : Prop :=
  ∃ n req, .revoked n req ∈ log ∧ TokenTargetType.ofInt req.targetType = some kind ∧
    req.targetTokenHashOrPrefix = p

/-- A run adds the strings that it revokes to those of its first state. -/
theorem revoked_of_run (h : Run cfg s log s') {config : AuthConfig} (A : s.auth.Agrees config) :
    s'.auth.Agrees config ∧ ∀ kind p, p ∈ s'.auth.revokedTokens kind ↔
      p ∈ s.auth.revokedTokens kind ∨ RevokedIn log kind p := by
  refine h.invariant (I := fun log s' => s'.auth.Agrees config ∧ ∀ kind p,
    p ∈ s'.auth.revokedTokens kind ↔ p ∈ s.auth.revokedTokens kind ∨ RevokedIn log kind p) ?_ ?_
  · exact ⟨A, fun kind p => by simp [RevokedIn]⟩
  · rintro log s₁ a s₂ - ⟨A₁, revoked⟩ - hs
    rcases auth_of_step hs with ⟨same, silent⟩ | ⟨n, req, emits, revokes⟩
    · rw [same]
      refine ⟨A₁, fun kind p => ?_⟩
      rw [revoked, RevokedIn, RevokedIn]
      simp [silent]
    · obtain ⟨agrees, adds⟩ := AuthService.revoke_ok config revokes
      refine ⟨agrees A₁, fun kind p => ?_⟩
      rw [adds, revoked, or_assoc, emits]
      refine or_congr_right ?_
      simp only [RevokedIn, List.mem_append, List.mem_singleton]
      constructor
      · rintro (⟨n', req', mem, target⟩ | target)
        · exact ⟨n', req', Or.inl mem, target⟩
        · exact ⟨n, req, Or.inr rfl, target⟩
      · rintro ⟨n', req', mem | same, target⟩
        · exact Or.inl ⟨n', req', mem, target⟩
        · cases same
          exact Or.inr target

/-- The revoked strings of a state are those of the calls that returned `revoked = true`. -/
theorem revoked_iff (h : Run cfg (init cfg) log s) (kind : TokenTargetType) (p : String) :
    p ∈ s.auth.revokedTokens kind ↔ RevokedIn log kind p := by
  rw [(revoked_of_run h (AuthService.agrees_new cfg.auth)).2]
  cases kind <;> simp [init, State.init, Shared.init, AuthService.new, AuthService.revokedTokens]

/-! ## What later calls can do -/

/-- The message that a loop has authenticated, as long as it has no stream for it. -/
def passed : CtrlPc → Option ControllerMessage
  | .limiting m | .mapping m => some m
  | _ => none

/-- A loop passes the authentication of its message or has passed it before. -/
theorem passed_of_step {c : ℕ} {input : CtrlInput} {m : ControllerMessage} {sh : Shared}
    {l : Controller} {next : Next Controller} (h : Controller.step cfg sh c l input = some next)
    (now : passed next.loc.pc = some m) :
    (∀ m', input ≠ .recv m') ∧ (passed l.pc = some m ∨
      ∃ p, sh.auth.authenticateController cfg.decode sh.now m.controllerId m.token = .ok p) := by
  cases Controller.moves_of_step h with
  | authorized m' p device sh' connected at_pc _ authenticated =>
    cases now
    exact ⟨nofun, Or.inr ⟨p, authenticated⟩⟩
  | allowed m' sh' at_pc =>
    cases now
    refine ⟨nofun, Or.inl ?_⟩
    rw [at_pc]
    rfl
  | ended input pc' sh' at_pc =>
    rcases at_pc with ⟨-, rfl⟩ | ⟨-, rfl⟩ | ⟨-, rfl⟩ <;> cases now
  | _ => cases now

/-- The step that an event tells of. -/
def Tells (cfg : Config) (s : Service) (a : Action) (s' : Service) : RpcEvent → Prop
  | .received c m => a = .relay (.ctrl c (.recv m))
  | .mapped c m => a = .relay (.ctrl c .tick) ∧ (s.relay.ctrl c).pc = .mapping m
  | .accepted i msg => a = .relay (.dev i .tick) ∧ (s.relay.dev i).pc = .handling msg ∧
      closes (s'.relay.dev i).pc = false ∧
      (msg.payload = some .heartbeat ∨ ∃ request, msg.payload = some (.register request))
  | .listed req devices => a = .list req ∧
      (listOnlineDevices cfg s.relay.shared req).1 = .ok devices
  | .called n req => a = .call n req
  | .revoked n req => a = .write n ∧ s.revoking n = .writing req

theorem tells_of_mem_emit {e : RpcEvent} (he : e ∈ emit cfg s a s') : Tells cfg s a s' e := by
  unfold emit at he
  split at he
  · obtain rfl := List.mem_singleton.1 he
    rfl
  · split at he
    · rename_i m at_pc
      split_ifs at he
      · obtain rfl := List.mem_singleton.1 he
        exact ⟨rfl, at_pc⟩
      · cases he
    · cases he
  · split at he
    · rename_i msg at_pc
      split at he
      · rename_i request payload
        split_ifs at he with open_
        · cases he
        · obtain rfl := List.mem_singleton.1 he
          exact ⟨rfl, at_pc, by simpa using open_, Or.inr ⟨request, payload⟩⟩
      · rename_i payload
        split_ifs at he with open_
        · cases he
        · obtain rfl := List.mem_singleton.1 he
          exact ⟨rfl, at_pc, by simpa using open_, Or.inl payload⟩
      · cases he
    · cases he
  · cases he
  · split at he
    · rename_i devices ok
      obtain rfl := List.mem_singleton.1 he
      exact ⟨rfl, ok⟩
    · cases he
  · obtain rfl := List.mem_singleton.1 he
    rfl
  · cases he
  · split at he
    · rename_i req at_pc
      split at he
      · obtain rfl := List.mem_singleton.1 he
        exact ⟨rfl, at_pc⟩
      · cases he
    · cases he

theorem length_emit_le : (emit cfg s a s').length ≤ 1 := by
  unfold emit
  split
  · exact le_rfl
  · split
    · split_ifs <;> simp
    · simp
  · split
    · split
      · split_ifs <;> simp
      · split_ifs <;> simp
      · simp
    · simp
  · simp
  · split <;> simp
  · exact le_rfl
  · simp
  · split
    · split <;> simp
    · simp

/-- Two events of a run, one after the other, of which the last step made at most one. -/
theorem pair_cases {x y : RpcEvent} (h : [x, y].Sublist (log ++ emit cfg s a s')) :
    [x, y].Sublist log ∨ (x ∈ log ∧ y ∈ emit cfg s a s') := by
  obtain ⟨l₁, l₂, split, old, new⟩ := List.sublist_append_iff.1 h
  match l₁, split with
  | [], split =>
    have := new.length_le.trans length_emit_le
    rw [← List.nil_append l₂, ← split] at this
    simp at this
  | [x'], split =>
    cases split
    exact Or.inr ⟨old.subset List.mem_cons_self, new.subset List.mem_cons_self⟩
  | [x', y'], split =>
    cases split
    exact Or.inl old
  | x' :: y' :: z :: l, split => simp at split

/-- The device list goes to a controller that authenticates. -/
theorem authenticated_of_listed {req : ListOnlineDevicesRequest} {devices : List DeviceInfo}
    {sh : Shared} (h : (listOnlineDevices cfg sh req).1 = .ok devices) :
    ∃ p, sh.auth.authenticateController cfg.decode sh.now req.controllerId req.token = .ok p := by
  unfold listOnlineDevices at h
  split_ifs at h
  split at h
  · cases h
  · exact ⟨_, ‹_›⟩

theorem authenticated_of_authorized {req : RevokeTokenRequest} {sh : Shared}
    (h : authorizeRevocation cfg sh req = .ok ()) :
    ∃ p, sh.auth.authenticateController cfg.decode sh.now req.controllerId req.adminToken =
      .ok p := by
  unfold authorizeRevocation at h
  split_ifs at h
  split at h
  · cases h
  · exact ⟨_, ‹_›⟩

/-- No call of a run that began in it went through with a controller token that `p` covers. -/
structure Barred (p : String) (log : List RpcEvent) (s : Service) : Prop where
  passed : ∀ c m m', .received c m' ∈ log → passed (s.relay.ctrl c).pc = some m →
    ¬ Covers p m.token
  mapped : ∀ c m m', [.received c m', .mapped c m].Sublist log → ¬ Covers p m.token
  listed : ∀ req devices, .listed req devices ∈ log → ¬ Covers p req.token
  writing : ∀ n req req', .called n req' ∈ log → s.revoking n = .writing req →
    ¬ Covers p req.adminToken
  revoked : ∀ n req req', [.called n req', .revoked n req].Sublist log →
    ¬ Covers p req.adminToken

/-- What a step leaves of a loop that has authenticated its message. -/
theorem passed_step {c : ℕ} {m : ControllerMessage} (h : step cfg s a = some s')
    (now : passed (s'.relay.ctrl c).pc = some m) :
    (∀ m', a ≠ .relay (.ctrl c (.recv m'))) ∧ (passed (s.relay.ctrl c).pc = some m ∨
      ∃ p, s.auth.authenticateController cfg.decode s.relay.shared.now m.controllerId m.token =
        .ok p) := by
  cases a with
  | relay b =>
    simp only [step] at h
    split_ifs at h
    obtain ⟨relay, hr, rfl⟩ := Option.map_eq_some_iff.1 h
    by_cases own : ∃ input, b = .ctrl c input
    · obtain ⟨input, rfl⟩ := own
      obtain ⟨next, hn, rfl⟩ := Option.map_eq_some_iff.1 hr
      simp only [State.afterCtrl, Function.update_self] at now
      obtain ⟨other, cases⟩ := passed_of_step hn now
      exact ⟨fun m' same => other m' (by cases same; rfl), cases⟩
    · have same := ctrl_of_cases (step_cases hr) (c := c) fun input h => own ⟨input, h⟩
      dsimp only at now
      rw [same] at now
      exact ⟨fun m' h => own ⟨.recv m', by cases h; rfl⟩, Or.inl now⟩
  | list req =>
    cases h
    exact ⟨by simp, Or.inl now⟩
  | call n req =>
    simp only [step] at h
    split at h <;> cases h
    exact ⟨by simp, Or.inl now⟩
  | check n =>
    simp only [step] at h
    split at h
    · split at h <;> cases h <;> exact ⟨by simp, Or.inl now⟩
    · cases h
  | write n =>
    simp only [step] at h
    split at h
    · split at h <;> cases h <;> exact ⟨by simp, Or.inl now⟩
    · cases h

/-- What a step leaves of a revocation that is about to write. -/
theorem writing_step {n : ℕ} {req : RevokeTokenRequest} (h : step cfg s a = some s')
    (now : s'.revoking n = .writing req) :
    (∀ req', a ≠ .call n req') ∧ (s.revoking n = .writing req ∨
      ∃ p, s.auth.authenticateController cfg.decode s.relay.shared.now req.controllerId
        req.adminToken = .ok p) := by
  cases a with
  | relay b =>
    simp only [step] at h
    split_ifs at h
    obtain ⟨relay, hr, rfl⟩ := Option.map_eq_some_iff.1 h
    exact ⟨nofun, Or.inl now⟩
  | list req =>
    cases h
    exact ⟨nofun, Or.inl now⟩
  | call n' req' =>
    simp only [step] at h
    split at h <;> cases h
    by_cases hn : n = n'
    · subst hn
      simp only [Function.update_self] at now
      cases now
    · simp only [Function.update_of_ne hn] at now
      exact ⟨fun req' h => hn (by cases h; rfl), Or.inl now⟩
  | check n' =>
    refine ⟨nofun, ?_⟩
    simp only [step] at h
    split at h
    · rename_i req' at_pc
      by_cases hn : n = n'
      · subst hn
        split at h
        · rename_i checked
          cases h
          simp only [Function.update_self] at now
          cases now
          exact Or.inr (authenticated_of_authorized checked)
        · cases h
          simp only [Function.update_self] at now
          cases now
      · split at h <;> cases h <;> simp only [Function.update_of_ne hn] at now <;> exact Or.inl now
    · cases h
  | write n' =>
    refine ⟨nofun, Or.inl ?_⟩
    simp only [step] at h
    split at h
    · by_cases hn : n = n'
      · subst hn
        split at h <;> cases h <;> simp only [Function.update_self] at now <;> cases now
      · split at h <;> cases h <;> simp only [Function.update_of_ne hn] at now <;> exact now
    · cases h

/-- A step keeps out the tokens that a revoked string covers. -/
theorem Barred.step {p : String} (B : Barred p log s) (on : s.auth.enabled = true)
    (revoked : p ∈ s.auth.revokedControllerTokens) (h : step cfg s a = some s') :
    Barred p (log ++ emit cfg s a s') s' := by
  have bars {now : Instant} {controllerId token : String}
      (h : ∃ q, s.auth.authenticateController cfg.decode now controllerId token = .ok q) :
      ¬ Covers p token := by
    obtain ⟨q, h⟩ := h
    exact AuthService.not_covers_of_authenticateController on h revoked
  refine ⟨fun c m m' received now => ?_, fun c m m' pair => ?_, fun req devices listed => ?_,
    fun n req req' called now => ?_, fun n req req' pair => ?_⟩
  · obtain ⟨other, old | new⟩ := passed_step h now
    · rcases List.mem_append.1 received with received | received
      · exact B.passed c m m' received old
      · exact absurd (tells_of_mem_emit received) (other m')
    · exact bars new
  · rcases pair_cases pair with old | ⟨received, mapped⟩
    · exact B.mapped c m m' old
    · obtain ⟨-, at_pc⟩ := tells_of_mem_emit mapped
      exact B.passed c m m' received (by rw [at_pc]; rfl)
  · rcases List.mem_append.1 listed with old | new
    · exact B.listed req devices old
    · exact bars (authenticated_of_listed (tells_of_mem_emit new).2)
  · obtain ⟨other, old | new⟩ := writing_step h now
    · rcases List.mem_append.1 called with called | called
      · exact B.writing n req req' called old
      · exact absurd (tells_of_mem_emit called) (other req')
    · exact bars new
  · rcases pair_cases pair with old | ⟨called, wrote⟩
    · exact B.revoked n req req' old
    · exact B.writing n req req' called (tells_of_mem_emit wrote).2

/-- A `Register` or `Heartbeat` is accepted only with a token that no revoked string covers. -/
theorem not_covers_of_accepted {i : ℕ} {msg : DeviceMessage} {p : String}
    (on : s.auth.enabled = true) (revoked : p ∈ s.auth.revokedDeviceTokens)
    (h : step cfg s a = some s') (accepted : .accepted i msg ∈ emit cfg s a s') :
    ¬ Covers p msg.token := by
  obtain ⟨rfl, at_pc, stays, payload⟩ := tells_of_mem_emit accepted
  simp only [step] at h
  split_ifs at h
  obtain ⟨relay, hr, rfl⟩ := Option.map_eq_some_iff.1 h
  obtain ⟨next, hn, rfl⟩ := Option.map_eq_some_iff.1 hr
  simp only [Device.step, at_pc, Option.some.injEq] at hn
  simp only [State.afterDev, Function.update_self, ← hn] at stays
  have accepts : ∃ q, s.auth.authenticateDeviceByToken msg.deviceId msg.token = .ok q := by
    cases h : s.auth.authenticateDeviceByToken msg.deviceId msg.token with
    | ok q => exact ⟨q, rfl⟩
    | error err =>
      exfalso
      unfold Device.handle at stays
      split_ifs at stays
      · rcases payload with payload | ⟨request, payload⟩
        · simp [payload, Device.heartbeat, h, Device.goto, closes] at stays
        · simp [payload, Device.register, h, Device.goto, closes] at stays
      · simp [Device.goto, closes] at stays
  obtain ⟨q, accepts⟩ := accepts
  exact AuthService.not_covers_of_authenticateDeviceByToken on accepts revoked

/-- After the calls of `RevokeToken` of a run: in whatever run follows, no call that begins in it
with a controller token that a string revoked for controllers covers creates a stream mapping,
obtains a device list or revokes a token, and no `Register` or `Heartbeat` with a device token that
a string revoked for devices covers is accepted; and a token that no string revoked for its kind
covers is authenticated as if nothing were revoked. -/
theorem revocation_is_permanent {later : List RpcEvent} (on : cfg.auth.enabled = true)
    (h : Run cfg (init cfg) log s) (h' : Run cfg s later s') :
    (∀ p, RevokedIn log .controller p →
      (∀ c m m', [.received c m', .mapped c m].Sublist later → ¬ Covers p m.token) ∧
      (∀ req devices, .listed req devices ∈ later → ¬ Covers p req.token) ∧
      ∀ n req req', [.called n req', .revoked n req].Sublist later →
        ¬ Covers p req.adminToken) ∧
    (∀ p, RevokedIn log .device p → ∀ i msg, .accepted i msg ∈ later → ¬ Covers p msg.token) ∧
    (∀ token, (∀ p, RevokedIn log .controller p → ¬ Covers p token) →
      ∀ now controllerId, s.auth.authenticateController cfg.decode now controllerId token =
        (AuthService.new cfg.auth).authenticateController cfg.decode now controllerId token) ∧
    ∀ token, (∀ p, RevokedIn log .device p → ¬ Covers p token) →
      ∀ deviceId, s.auth.authenticateDeviceByToken deviceId token =
        (AuthService.new cfg.auth).authenticateDeviceByToken deviceId token := by
  have A := (revoked_of_run h (AuthService.agrees_new cfg.auth)).1
  have stays {later : List RpcEvent} {s₁ : Service} (h' : Run cfg s later s₁)
      {kind : TokenTargetType} {p : String} (revoked : RevokedIn log kind p) :
      s₁.auth.enabled = true ∧ p ∈ s₁.auth.revokedTokens kind := by
    obtain ⟨A₁, iff⟩ := revoked_of_run h' A
    exact ⟨A₁.enabled.trans on, (iff kind p).2 (Or.inl ((revoked_iff h kind p).2 revoked))⟩
  refine ⟨fun p revoked => ?_, fun p revoked => ?_, fun token uncovered now controllerId => ?_,
    fun token uncovered deviceId => ?_⟩
  · have B : Barred p later s' := by
      refine h'.invariant (I := fun later s₁ => Barred p later s₁) ?_ ?_
      · exact ⟨nofun, fun _ _ _ h => (by cases h), nofun, nofun, fun _ _ _ h => (by cases h)⟩
      · intro later s₁ a s₂ h₁ B _ hs
        obtain ⟨on₁, revoked₁⟩ := stays h₁ revoked
        exact B.step on₁ revoked₁ hs
    exact ⟨B.mapped, B.listed, B.revoked⟩
  · refine h'.invariant (I := fun later _ => ∀ i msg, .accepted i msg ∈ later →
      ¬ Covers p msg.token) nofun ?_
    intro later s₁ a s₂ h₁ ih _ hs i msg accepted
    rcases List.mem_append.1 accepted with old | new
    · exact ih i msg old
    · obtain ⟨on₁, revoked₁⟩ := stays h₁ revoked
      exact not_covers_of_accepted on₁ revoked₁ hs new
  · refine AuthService.authenticateController_of_uncovered A (fun p revoked => ?_) ..
    exact uncovered p ((revoked_iff h .controller p).1 revoked)
  · refine AuthService.authenticateDeviceByToken_of_uncovered A (fun p revoked => ?_) ..
    exact uncovered p ((revoked_iff h .device p).1 revoked)

/-- An administrator revokes its own token. -/
def ownRevocation : RevokeTokenRequest := ⟨"c", "ct", "ct", 1⟩

/-- Then it asks for the devices, and a device registers. -/
def afterwards : List Action :=
  .list ⟨"c", "ct", ""⟩ :: (Small.register 0 "d" "dt").map .relay

/-- The revoked token is refused, and the device's token is accepted as before. -/
theorem own_token_stays_revoked :
    ∃ s later s', Run Small.guarded (init Small.guarded)
        [.called 0 ownRevocation, .revoked 0 ownRevocation] s ∧
      Run Small.guarded s later s' ∧ later.length = 1 ∧
      (∀ req devices, .listed req devices ∈ later → ¬ Covers "ct" req.token) ∧
      s.auth.authenticateDeviceByToken "d" "dt" =
        (AuthService.new Small.guarded.auth).authenticateDeviceByToken "d" "dt" := by
  obtain ⟨⟨log, s⟩, run, hf⟩ : ∃ out, Runs.executeLogged (step Small.guarded) (fun _ _ => true)
      (emit Small.guarded) [] (init Small.guarded) [.call 0 ownRevocation, .check 0, .write 0] =
        some out ∧ (out.1, (Runs.executeLogged (step Small.guarded) (fun _ _ => true)
          (emit Small.guarded) [] out.2 afterwards).map (·.1.length)) =
        ([.called 0 ownRevocation, .revoked 0 ownRevocation], some 1) :=
    Option.map_eq_some_iff.1 (by decide +kernel)
  simp only [Prod.mk.injEq] at hf
  obtain ⟨rfl, run'⟩ := hf
  obtain ⟨⟨later, s'⟩, run', length⟩ := Option.map_eq_some_iff.1 run'
  have h : Run Small.guarded (init Small.guarded) _ s :=
    .of_executeLogged (fun _ _ _ => trivial) _ .start run
  have h' : Run Small.guarded s later s' :=
    .of_executeLogged (fun _ _ _ => trivial) _ .start run'
  obtain ⟨controller, -, -, device⟩ := revocation_is_permanent rfl h h'
  have revoked : RevokedIn [.called 0 ownRevocation, .revoked 0 ownRevocation] .controller "ct" :=
    ⟨0, ownRevocation, by simp, rfl, rfl⟩
  refine ⟨s, later, s', h, h', length, (controller "ct" revoked).2.1, device "dt" ?_ "d"⟩
  rintro p ⟨n, req, mem, kind, -⟩
  obtain ⟨-, rfl⟩ : n = 0 ∧ req = ownRevocation := by simpa using mem
  cases kind

end Service

end GrpcRelay
