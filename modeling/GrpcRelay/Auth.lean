import GrpcRelay.Proto
import GrpcRelay.Lib.DashMap

/-!
# Authentication and authorization

`AuthService` (`auth.rs`) and `RbacPolicyEngine` (`rbac.rs`).  Decoding a JWT is a parameter: it
receives the secret, the validation settings, the time and the token, and returns the claims of a
token whose signature and registered claims it accepts.

The revoked sets sit behind an `RwLock` that is never poisoned, since no holder of the lock can
panic; they are lists here, read only through `any`.
-/

namespace GrpcRelay

/-- A configured controller token: whose it is, and what its controller may do. -/
structure ControllerAuthEntry where
  controllerId : String
  role : String
  allowedProjectIds : List String
  deriving DecidableEq, Repr

/-- A configured device token: whose it is, and the project of the device. -/
structure DeviceAuthEntry where
  deviceId : String
  projectId : String
  deriving DecidableEq, Repr

/-- The JWT settings of the configuration. -/
structure JwtConfig where
  enabled : Bool
  hs256Secret : String
  issuer : Option String
  audience : Option String
  clockSkewSeconds : ℕ
  deriving DecidableEq, Repr

/-- The configured tokens, the methods that may be called, and the JWT settings. -/
structure AuthConfig where
  enabled : Bool
  controllerTokens : DashMap String ControllerAuthEntry
  deviceTokens : DashMap String DeviceAuthEntry
  methodWhitelist : List String
  jwt : JwtConfig

/-- A controller that has been authenticated. -/
structure ControllerPrincipal where
  controllerId : String
  role : String
  allowedProjectIds : List String
  deriving DecidableEq, Repr

/-- A device that has been authenticated, or looked up for an authorization. -/
structure DevicePrincipal where
  deviceId : String
  projectId : String
  deriving DecidableEq, Repr

/-- Why a token is not accepted, or a device not known. -/
inductive AuthError where
  | invalidToken
  | controllerIdMismatch
  | deviceIdMismatch
  | unknownDevice
  | revokedToken
  | jwtNotConfigured
  deriving DecidableEq, Repr

/-- The claims of a controller token.  The registered claims `exp`, `iss` and `aud` are checked by
the decoder. -/
structure ControllerClaims where
  sub : String
  controllerId : String
  role : String
  allowedProjectIds : List String
  deriving DecidableEq, Repr

/-- What a JWT is validated against. -/
structure Validation where
  leeway : ℕ
  issuer : Option String
  audience : Option String
  deriving DecidableEq, Repr

/-- The JWT library: secret, validation settings, time and token to the claims it accepts. -/
abbrev JwtDecoder : Type := String → Validation → Instant → String → Option ControllerClaims

/-- The configured tokens, the devices by their ids, and the tokens revoked so far. -/
structure AuthService where
  enabled : Bool
  jwt : JwtConfig
  controllerTokens : DashMap String ControllerAuthEntry
  deviceTokens : DashMap String DeviceAuthEntry
  deviceById : DashMap String DeviceAuthEntry
  revokedControllerTokens : List String
  revokedDeviceTokens : List String

namespace AuthService

/-- `AuthService::new`.  Of several tokens of one device, the last in iteration order decides its
entry in `deviceById`. -/
def new (config : AuthConfig) : AuthService where
  enabled := config.enabled
  jwt := config.jwt
  controllerTokens := config.controllerTokens
  deviceTokens := config.deviceTokens
  deviceById := config.deviceTokens.entries.foldl
    (fun byId entry => byId.insert entry.2.deviceId entry.2) ∅
  revokedControllerTokens := []
  revokedDeviceTokens := []

/-- `token_is_revoked`: the token begins with a revoked string. -/
def tokenIsRevoked (tokens : List String) (token : String) : Bool :=
  tokens.any fun revoked => token == revoked || token.startsWith revoked

/-- A controller token is checked against the revoked controller tokens only. -/
def isControllerTokenRevoked (auth : AuthService) (token : String) : Bool :=
  tokenIsRevoked auth.revokedControllerTokens token

/-- A device token is checked against the revoked device tokens only. -/
def isDeviceTokenRevoked (auth : AuthService) (token : String) : Bool :=
  tokenIsRevoked auth.revokedDeviceTokens token

/-- The claims of the token must name the controller twice, as `controller_id` and as `sub`. -/
def authenticateControllerJwt (auth : AuthService) (decode : JwtDecoder) (now : Instant)
    (controllerId token : String) : Except AuthError ControllerPrincipal :=
  if auth.jwt.hs256Secret.isEmpty then .error .jwtNotConfigured
  else
    match decode auth.jwt.hs256Secret
      ⟨auth.jwt.clockSkewSeconds, auth.jwt.issuer, auth.jwt.audience⟩ now token with
    | none => .error .invalidToken
    | some claims =>
      if claims.controllerId ≠ controllerId ∨ claims.sub ≠ controllerId then
        .error .controllerIdMismatch
      else .ok ⟨claims.controllerId, claims.role, claims.allowedProjectIds⟩

/-- Authenticate controller by (controller_id, token).  Without authentication everybody is an
admin. -/
def authenticateController (auth : AuthService) (decode : JwtDecoder) (now : Instant)
    (controllerId token : String) : Except AuthError ControllerPrincipal :=
  if !auth.enabled then .ok ⟨controllerId, "admin", []⟩
  else if auth.isControllerTokenRevoked token then .error .revokedToken
  else if auth.jwt.enabled then auth.authenticateControllerJwt decode now controllerId token
  else
    match auth.controllerTokens.lookup token with
    | none => .error .invalidToken
    | some entry =>
      if entry.controllerId ≠ controllerId then .error .controllerIdMismatch
      else .ok ⟨entry.controllerId, entry.role, entry.allowedProjectIds⟩

/-- Authenticate device by device token. -/
def authenticateDeviceByToken (auth : AuthService) (deviceId token : String) :
    Except AuthError DevicePrincipal :=
  if !auth.enabled then .ok ⟨deviceId, ""⟩
  else if auth.isDeviceTokenRevoked token then .error .revokedToken
  else
    match auth.deviceTokens.lookup token with
    | none => .error .invalidToken
    | some entry =>
      if entry.deviceId ≠ deviceId then .error .deviceIdMismatch
      else .ok ⟨entry.deviceId, entry.projectId⟩

/-- Lookup device authorization context by device_id, even if the device is offline. -/
def getDevicePrincipalById (auth : AuthService) (deviceId : String) :
    Except AuthError DevicePrincipal :=
  if !auth.enabled then .ok ⟨deviceId, ""⟩
  else
    match auth.deviceById.lookup deviceId with
    | none => .error .unknownDevice
    | some entry => .ok ⟨entry.deviceId, entry.projectId⟩

/-- The controller tokens that begin with the string are revoked from now on. -/
def revokeControllerToken (auth : AuthService) (tokenHashOrPrefix : String) : AuthService :=
  { auth with
    revokedControllerTokens := auth.revokedControllerTokens.insert tokenHashOrPrefix }

/-- The device tokens that begin with the string are revoked from now on. -/
def revokeDeviceToken (auth : AuthService) (tokenHashOrPrefix : String) : AuthService :=
  { auth with revokedDeviceTokens := auth.revokedDeviceTokens.insert tokenHashOrPrefix }

/-! ### What a successful authentication says -/

/-- With authentication on, an accepted controller token was not revoked. -/
theorem not_revoked_of_authenticateController {auth : AuthService} {decode : JwtDecoder}
    {now : Instant} {controllerId token : String} {p : ControllerPrincipal}
    (on : auth.enabled = true)
    (h : auth.authenticateController decode now controllerId token = .ok p) :
    auth.isControllerTokenRevoked token = false := by
  unfold authenticateController at h
  rw [if_neg (by simp [on])] at h
  split_ifs at h with hr
  all_goals simpa using hr

/-- With authentication on, an accepted device token is configured for the device and not
revoked. -/
theorem authenticateDeviceByToken_ok {auth : AuthService} {deviceId token : String}
    {p : DevicePrincipal} (on : auth.enabled = true)
    (h : auth.authenticateDeviceByToken deviceId token = .ok p) :
    auth.isDeviceTokenRevoked token = false ∧
      ∃ entry, auth.deviceTokens.lookup token = some entry ∧ entry.deviceId = deviceId := by
  unfold authenticateDeviceByToken at h
  rw [if_neg (by simp [on])] at h
  split_ifs at h with hr
  refine ⟨by simpa using hr, ?_⟩
  cases hl : auth.deviceTokens.lookup token with
  | none => simp [hl] at h
  | some entry =>
    simp only [hl] at h
    split_ifs at h with hd
    exact ⟨entry, rfl, by simpa using hd⟩

/-- With authentication on, a device principal is that of a configured device. -/
theorem getDevicePrincipalById_ok {auth : AuthService} {deviceId : String} {p : DevicePrincipal}
    (on : auth.enabled = true) (h : auth.getDevicePrincipalById deviceId = .ok p) :
    ∃ entry, auth.deviceById.lookup deviceId = some entry ∧
      p = ⟨entry.deviceId, entry.projectId⟩ := by
  unfold getDevicePrincipalById at h
  rw [if_neg (by simp [on])] at h
  cases hl : auth.deviceById.lookup deviceId with
  | none => simp [hl] at h
  | some entry =>
    simp only [hl, Except.ok.injEq] at h
    exact ⟨entry, rfl, h.symm⟩

end AuthService

/-- Why a controller may not call a method of a device. -/
inductive AuthorizationError where
  | unauthorized
  | methodNotAllowed
  | deviceProjectForbidden
  deriving DecidableEq, Repr

/-- The policy: whether it is in force, and the methods that may be called. -/
structure RbacPolicyEngine where
  enabled : Bool
  methodWhitelist : List String
  deriving DecidableEq, Repr

namespace RbacPolicyEngine

/-- `RbacPolicyEngine::new`. -/
def new (config : AuthConfig) : RbacPolicyEngine := ⟨config.enabled, config.methodWhitelist⟩

/-- An empty whitelist allows every method. -/
def isMethodAllowed (rbac : RbacPolicyEngine) (methodName : String) : Bool :=
  if !rbac.enabled then true
  else if rbac.methodWhitelist.isEmpty then true
  else rbac.methodWhitelist.any fun m => m == methodName

/-- An admin may call every device, others those of their projects. -/
def authorizeControllerToDevice (rbac : RbacPolicyEngine) (controller : ControllerPrincipal)
    (device : DevicePrincipal) (methodName : String) : Except AuthorizationError Unit :=
  if !rbac.enabled then .ok ()
  else if !rbac.isMethodAllowed methodName then .error .methodNotAllowed
  else if controller.role == "admin" then .ok ()
  else if controller.allowedProjectIds.any fun pid => pid == device.projectId then .ok ()
  else .error .deviceProjectForbidden

/-- The policy never answers with the one error that the controller loop does not look for. -/
theorem authorizeControllerToDevice_ne_unauthorized (rbac : RbacPolicyEngine)
    (controller : ControllerPrincipal) (device : DevicePrincipal) (methodName : String) :
    rbac.authorizeControllerToDevice controller device methodName ≠ .error .unauthorized := by
  unfold authorizeControllerToDevice
  split_ifs <;> simp

end RbacPolicyEngine

end GrpcRelay
