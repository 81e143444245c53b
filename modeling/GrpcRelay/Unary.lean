import GrpcRelay.Step

/-!
# The unary calls

`list_online_devices` and `revoke_token` (`grpc_service.rs`).  Log and audit records and the counts
of `security_metrics` are left out.
-/

namespace GrpcRelay

/-- The codes of the statuses that the unary calls return. -/
inductive Code where
  | unauthenticated
  | resourceExhausted
  | permissionDenied
  | invalidArgument
  deriving DecidableEq, Repr

/-- The status of a call that fails. -/
structure Status where
  code : Code
  message : String
  deriving DecidableEq, Repr

/-! ## `ListOnlineDevices` -/

/-- What a controller sends to `ListOnlineDevices`. -/
structure ListOnlineDevicesRequest where
  controllerId : String
  token : String
  regionFilter : String
  deriving DecidableEq, Repr

/-- What is told of an online device. -/
structure DeviceInfo where
  deviceId : String
  connectionId : String
  relayAddress : String
  connectedAt : ℤ
  metadata : Metadata
  deriving DecidableEq, Repr

/-- `SessionRegistry::list_online_devices`. -/
def RelayState.listOnlineDevices (st : RelayState) (relayAddress : String) : List DeviceInfo :=
  st.sessionsByDeviceId.entries.map fun entry =>
    ⟨entry.2.deviceId, entry.2.connectionId, relayAddress, 0, entry.2.metadata⟩

/-- The filter of `list_online_devices`. -/
def showsDevice (auth : AuthService) (principal : ControllerPrincipal) (regionFilter : String)
    (d : DeviceInfo) : Bool :=
  if !trimIsEmpty regionFilter && (d.metadata.lookup "region").getD "" != regionFilter then false
  else if principal.role == "admin" then true
  else
    match auth.getDevicePrincipalById d.deviceId with
    | .error _ => false
    | .ok device => principal.allowedProjectIds.any fun pid => pid == device.projectId

/-- The answer, and the shared state with the rate limiter as the call leaves it. -/
def listOnlineDevices (cfg : Config) (sh : Shared) (req : ListOnlineDevicesRequest) :
    Except Status (List DeviceInfo) × Shared :=
  if trimIsEmpty req.controllerId || trimIsEmpty req.token then
    (.error ⟨.unauthenticated, "missing controller_id or token"⟩, sh)
  else
    match sh.auth.authenticateController cfg.decode sh.now req.controllerId req.token with
    | .error _ => (.error ⟨.unauthenticated, "invalid controller token"⟩, sh)
    | .ok principal =>
      match sh.rateLimiter.allow sh.now "*" req.controllerId with
      | (false, rl) =>
        (.error ⟨.resourceExhausted, "rate limited"⟩, { sh with rateLimiter := rl })
      | (true, rl) =>
        let devices := (sh.relay.listOnlineDevices cfg.relayAddress).filter
          (showsDevice sh.auth principal req.regionFilter)
        -- A controller that is no admin and has no projects is told so.
        if principal.role != "admin" && principal.allowedProjectIds.isEmpty then
          (.error ⟨.permissionDenied, "no project permissions"⟩, { sh with rateLimiter := rl })
        else (.ok devices, { sh with rateLimiter := rl })

/-! ## `RevokeToken` -/

/-- The kind of the tokens to be revoked. -/
inductive TokenTargetType where
  | unspecified
  | controller
  | device
  deriving DecidableEq, Repr

/-- `TokenTargetType::try_from` of a wire value. -/
def TokenTargetType.ofInt : ℤ → Option TokenTargetType
  | 0 => some .unspecified
  | 1 => some .controller
  | 2 => some .device
  | _ => none

/-- What an administrator sends to `RevokeToken`. -/
structure RevokeTokenRequest where
  controllerId : String
  adminToken : String
  targetTokenHashOrPrefix : String
  targetType : ℤ
  deriving DecidableEq, Repr

/-- The checks of `revoke_token`, up to the match on the target. -/
def authorizeRevocation (cfg : Config) (sh : Shared) (req : RevokeTokenRequest) :
    Except Status Unit :=
  if trimIsEmpty req.controllerId || trimIsEmpty req.adminToken then
    .error ⟨.unauthenticated, "missing controller_id or token"⟩
  else if trimIsEmpty req.targetTokenHashOrPrefix then
    .error ⟨.invalidArgument, "missing target_token_hash_or_prefix"⟩
  else
    match sh.auth.authenticateController cfg.decode sh.now req.controllerId req.adminToken with
    | .error _ => .error ⟨.unauthenticated, "invalid controller token"⟩
    | .ok principal =>
      if principal.role != "admin" then .error ⟨.permissionDenied, "admin role required"⟩
      else .ok ()

/-- The write of `revoke_token`. -/
def AuthService.revoke (auth : AuthService) (req : RevokeTokenRequest) :
    Except Status AuthService :=
  match TokenTargetType.ofInt req.targetType with
  | some .controller => .ok (auth.revokeControllerToken req.targetTokenHashOrPrefix)
  | some .device => .ok (auth.revokeDeviceToken req.targetTokenHashOrPrefix)
  | _ => .error ⟨.invalidArgument, "invalid target_type"⟩

end GrpcRelay
