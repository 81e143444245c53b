import Mathlib.Data.List.Induction
import GrpcRelay.Announcements
import GrpcRelay.AuditEvents
import GrpcRelay.Revocation

/-!
# The audit trail of the relay

What `grpc_service.rs` tells the audit logger and `SecurityMetrics`, for a relay that has an audit
logger; what becomes of a record there is the logger's business.  A record says what a step has
found, so the functions here repeat the checks of the steps they are named after.

In the runs of `Trail` the unary calls are interleaved with the streams.
-/

namespace GrpcRelay

open Audit (AuditRecord)
open Json (Members field)

/-- The counters of `SecurityMetrics`. -/
inductive SecurityCounter where
  | authSuccessTotal
  | authFailureTotal
  | authorizationDeniedTotal
  | rateLimitTotal
  | revokedTokensTotal
  deriving DecidableEq, Repr

/-- `SecurityMetrics`: the values of the counters. -/
abbrev SecurityMetrics := SecurityCounter → UInt64

/-- The `record_*` functions: `fetch_add(1)`, which wraps around. -/
def SecurityMetrics.record (metrics : SecurityMetrics) (counter : SecurityCounter) :
    SecurityMetrics :=
  Function.update metrics counter (metrics counter + 1)

/-- A count, or a record for the audit logger. -/
inductive Told where
  | counted (counter : SecurityCounter)
  | audited (record : AuditRecord)

namespace Told

/-- The events of sources whose address is not known. -/
def unknownIp : String := ""

/-- A device or a controller has been authenticated. -/
def authSuccess (entityType entityId : String) : List Told :=
  [.counted .authSuccessTotal, .audited (.authSuccess entityType entityId unknownIp)]

/-- A device or a controller has not been authenticated; a token is recorded by its beginning. -/
def authFailure (entityType entityId reason : String) (tokenPrefix : Option String) : List Told :=
  [.counted .authFailureTotal,
    .audited (.authFailure entityType entityId reason unknownIp tokenPrefix)]

/-- A controller may not do what it asks for. -/
def authorizationDenied (controllerId deviceId methodName reason : String) : List Told :=
  [.counted .authorizationDeniedTotal,
    .audited (.authorizationDenied controllerId deviceId methodName reason unknownIp)]

/-- A limit has been reached. -/
def rateLimit (entityType entityId limitKind : String) : List Told :=
  [.counted .rateLimitTotal, .audited (.rateLimit entityType entityId limitKind unknownIp)]

/-- The record, if it is one. -/
def record : Told → Option AuditRecord
  | .audited r => some r
  | .counted _ => none

/-- The counters after what was told. -/
def metrics (ts : List Told) : SecurityMetrics :=
  ts.foldl (fun metrics t => match t with
    | .counted counter => metrics.record counter
    | .audited _ => metrics) fun _ => 0

@[simp] theorem filterMap_record_counted (k : SecurityCounter) (ts : List Told) :
    (.counted k :: ts).filterMap record = ts.filterMap record := rfl

@[simp] theorem filterMap_record_audited (r : AuditRecord) (ts : List Told) :
    (.audited r :: ts).filterMap record = r :: ts.filterMap record := rfl

end Told

/-- `AuthService::token_prefix`. -/
def AuthService.tokenPrefix (token : String) : String := String.ofList (token.toList.take 8)

/-- The context of an error; the members of a `serde_json` object are sorted by their names. -/
def requestContext (m : ControllerMessage) (rest : Members) : Option Json.Value :=
  some (.object (field "controller_id" (.string m.controllerId) <|
    field "device_id" (.string m.targetDeviceId) <|
    field "method_name" (.string m.methodName) rest))

/-- The context of an error, with the sequence number. -/
def numberedContext (m : ControllerMessage) : Option Json.Value :=
  requestContext m (field "sequence_number" (Json.integer m.sequenceNumber) [])

/-! ## Controller loops -/

namespace Controller

/-- A message without a token. -/
def toldByReceive (m : ControllerMessage) : List Told :=
  match validateControllerMessage m with
  | .error _ => []
  | .ok () =>
    if trimIsEmpty m.token then Told.authFailure "controller" m.controllerId "token_missing" none
    else []

/-- The token of a message, the first message of a controller, and what the policy says. -/
def toldByAuthenticate (cfg : Config) (sh : Shared) (l : Controller) (m : ControllerMessage) :
    List Told :=
  match sh.auth.authenticateController cfg.decode sh.now m.controllerId m.token with
  | .error _ =>
    Told.authFailure "controller" m.controllerId "invalid_controller_token"
      (some (AuthService.tokenPrefix m.token))
  | .ok controller =>
    Told.authSuccess "controller" m.controllerId ++
      (if l.controllerConnected then []
        else [.audited (.controllerConnect m.controllerId Told.unknownIp none)]) ++
      match sh.auth.getDevicePrincipalById m.targetDeviceId with
      | .error _ => []
      | .ok device =>
        match (RbacPolicyEngine.new cfg.auth).authorizeControllerToDevice controller device
          m.methodName with
        | .error .deviceProjectForbidden | .error .methodNotAllowed =>
          Told.authorizationDenied m.controllerId m.targetDeviceId m.methodName
            "rbac_or_method_denied"
        | .error .unauthorized | .ok () => []

/-- The request limits. -/
def toldByLimit (sh : Shared) (m : ControllerMessage) : List Told :=
  if (sh.rateLimiter.allow sh.now m.targetDeviceId m.controllerId).1 then []
  else Told.rateLimit "controller" m.controllerId "request_rate"

/-- A stream that is created, or is not for another reason than its limits. -/
def toldByCreateMapping (sh : Shared) (c : ℕ) (m : ControllerMessage) : List Told :=
  match (sh.router.createMapping sh.now m.targetDeviceId m.controllerId m.methodName c).1 with
  | .ok streamId =>
    [.audited (.streamCreated streamId m.targetDeviceId m.controllerId m.methodName
      Told.unknownIp)]
  | .error err =>
    if err.kind = .maxStreamsExceeded then []
    else [.audited (.error "stream mapping creation failed" "STREAM_MAPPING_CREATE"
      (requestContext m []))]

/-- The bandwidth limits. -/
def toldByMeter (sh : Shared) (m : ControllerMessage) (readings : BandwidthTracker.ClockReadings) :
    List Told :=
  if (sh.bandwidthTracker.recordAndCheck readings m.targetDeviceId m.controllerId
    m.encryptedPayload.length).1 then []
  else Told.rateLimit "controller" m.controllerId "bandwidth"

/-- A request that cannot be put on the device's outbound channel. -/
def toldByForward (sh : Shared) (m : ControllerMessage) (session : DeviceSession) : List Told :=
  if sh.outboundOpen session.outboundTx then []
  else [.audited (.error "failed to forward request to device" "DEVICE_FORWARD_FAILED"
    (numberedContext m))]

/-- The record of a request whose response, or the end of whose receiver, the loop has awaited. -/
def requestRecord (m : ControllerMessage) (result : String) (errorCode : Option String)
    (latencyMs : Json.Number) (bytesTransferred : Option ℕ) : AuditRecord :=
  .controllerRequest m.controllerId m.targetDeviceId "" m.methodName m.sequenceNumber result
    errorCode (some latencyMs) bytesTransferred Told.unknownIp none none

/-- A request that has been awaited; an answer from the cache has no record. -/
def toldByFinish (m : ControllerMessage) (r : Reply) (latencyMs : Json.Number) :
    RequestStatus → List Told
  | .success =>
    [.audited (requestRecord m "success" none latencyMs (some r.resp.encryptedPayload.length))]
  | .internalError =>
    [.audited (requestRecord m "failure" (some "INTERNAL_ERROR") latencyMs none),
      .audited (.error "controller request completion channel closed" "REQUEST_WAIT_FAILED"
        (numberedContext m))]
  | .cached | .unauthorized | .rateLimited => []

/-- The stream of a loop that ends. -/
def toldByClose (l : Controller) : List Told :=
  match l.streamId, l.streamBinding with
  | some streamId, some (deviceId, controllerId, _) =>
    [.audited (.streamClosed streamId deviceId controllerId "closed" none)]
  | _, _ => []

/-- The controller of a loop that ends. -/
def toldByDisconnect (l : Controller) : List Told :=
  match l.controllerConnected, l.streamBinding with
  | true, some (_, controllerId, _) => [.audited (.controllerDisconnect controllerId)]
  | _, _ => []

/-- What loop `c` tells with a step. -/
def told (cfg : Config) (sh : Shared) (c : ℕ) (l : Controller) (latencyMs : Json.Number) :
    CtrlInput → List Told
  | .recv m =>
    match l.pc with
    | .idle => toldByReceive m
    | _ => []
  | .recvError =>
    match l.pc with
    | .idle => [.audited (.error "controller stream receive error" "STREAM_RECV" none)]
    | _ => []
  | .eof => []
  | .clock readings =>
    match l.pc with
    | .metering m _ _ => toldByMeter sh m readings
    | _ => []
  | .tick =>
    match l.pc with
    | .authenticating m => toldByAuthenticate cfg sh l m
    | .limiting m => toldByLimit sh m
    | .mapping m => toldByCreateMapping sh c m
    | .forwarding m _ session => toldByForward sh m session
    | .finishing m r status => toldByFinish m r latencyMs status
    | .closing => toldByClose l
    | .disconnecting => toldByDisconnect l
    | _ => []

end Controller

/-! ## Device streams -/

namespace Device

/-- The authentication of a message; data is not authenticated. -/
def toldByHandle (sh : Shared) (l : Device) (msg : DeviceMessage) : List Told :=
  let refused (reason : String) := Told.authFailure "device" msg.deviceId reason
    (some (AuthService.tokenPrefix msg.token))
  if identityOk l msg then
    match msg.payload with
    | some (.register _) =>
      match sh.auth.authenticateDeviceByToken msg.deviceId msg.token with
      | .ok _ => Told.authSuccess "device" msg.deviceId
      | .error _ => refused "invalid_device_token"
    | some .heartbeat =>
      match sh.auth.authenticateDeviceByToken msg.deviceId msg.token with
      | .ok _ => Told.authSuccess "device" msg.deviceId
      | .error _ => refused "invalid_device_token_on_heartbeat"
    | some (.data _) =>
      match l.currentDeviceId with
      | some _ => []
      | none => refused "data_before_registration"
    | none => []
  else
    match l.currentDeviceId with
    | some _ => refused "device_id_mismatch_on_stream"
    | none => refused "non_register_before_registration"

/-- The limit of the device's connection attempts. -/
def toldByAllowDevice (sh : Shared) (msg : DeviceMessage) : List Told :=
  if (sh.connectionLimiter.allowDevice sh.now msg.deviceId).1 then []
  else Told.rateLimit "device" msg.deviceId "connection_limit"

/-- The refusal of a `Register` for the resources is not counted. -/
def unhealthyRecord (deviceId : String) : AuditRecord :=
  .rateLimit "device" deviceId "resource_unhealthy" Told.unknownIp

/-- A device that is registered, and a session that it takes up again. -/
def toldByLink (msg : DeviceMessage) (request : RegisterRequest) (connectionId : String)
    (sessionResumed : Bool) : List Told :=
  .audited (.deviceConnect msg.deviceId connectionId Told.unknownIp
      (some (Mqtt.metadataObject request.metadata))) ::
    if sessionResumed then
      [.audited (.sessionResumed msg.deviceId request.previousConnectionId connectionId
        Told.unknownIp)]
    else []

/-- A stream that ends with the session it owns. -/
def toldByVerify (sh : Shared) (l : Device) (did : String) (reason : DisconnectReason)
    (current : Option String) : List Told :=
  if ownsSession sh l did then
    [.audited (.deviceDisconnect did (current.getD "") (Announcements.disconnectReason reason)
      Told.unknownIp)]
  else []

/-- What a device stream tells with a step. -/
def told (sh : Shared) (l : Device) : DevInput → List Told
  | .health isHealthy =>
    match l.pc with
    | .checkingHealth msg _ =>
      if isHealthy then [] else [.audited (unhealthyRecord msg.deviceId)]
    | _ => []
  | .tick =>
    match l.pc with
    | .handling msg => toldByHandle sh l msg
    | .admitting msg _ => toldByAllowDevice sh msg
    | .linking msg request connectionId sessionResumed =>
      toldByLink msg request connectionId sessionResumed
    | .verifying did reason current => toldByVerify sh l did reason current
    | _ => []
  | _ => []

end Device

/-! ## Calls that are not streams -/

/-- What `device_connect` tells before it starts the stream. -/
def toldByDeviceConnect (sh : Shared) (isHealthy : Bool) : List Told :=
  if (sh.connectionLimiter.allowGlobal sh.now).1 then
    if isHealthy then [] else Told.rateLimit "system" "global" "resource_unhealthy"
  else Told.rateLimit "system" "global" "connection_limit"

/-- A call of `ListOnlineDevices`. -/
def toldByListOnlineDevices (cfg : Config) (sh : Shared) (req : ListOnlineDevicesRequest) :
    List Told :=
  if trimIsEmpty req.controllerId || trimIsEmpty req.token then
    Told.authFailure "controller" req.controllerId "missing_credentials" none
  else
    match sh.auth.authenticateController cfg.decode sh.now req.controllerId req.token with
    | .error _ =>
      Told.authFailure "controller" req.controllerId "invalid_controller_token"
        (some (AuthService.tokenPrefix req.token))
    | .ok principal =>
      Told.authSuccess "controller" req.controllerId ++
        if (sh.rateLimiter.allow sh.now "*" req.controllerId).1 then
          if principal.role != "admin" && principal.allowedProjectIds.isEmpty then
            Told.authorizationDenied req.controllerId "" "" "no_project_permissions"
          else []
        else Told.rateLimit "controller" req.controllerId "request_rate"

/-- The checks of `RevokeToken`. -/
def toldByAuthorizeRevocation (cfg : Config) (sh : Shared) (req : RevokeTokenRequest) :
    List Told :=
  if trimIsEmpty req.controllerId || trimIsEmpty req.adminToken then
    Told.authFailure "controller" req.controllerId "missing_credentials" none
  else if trimIsEmpty req.targetTokenHashOrPrefix then []
  else
    match sh.auth.authenticateController cfg.decode sh.now req.controllerId req.adminToken with
    | .error _ =>
      Told.authFailure "controller" req.controllerId "invalid_controller_token"
        (some (AuthService.tokenPrefix req.adminToken))
    | .ok principal =>
      Told.authSuccess "controller" req.controllerId ++
        if principal.role != "admin" then
          Told.authorizationDenied req.controllerId "" "" "revoke_requires_admin"
        else []

/-- A revocation that is carried out; there is no record of it. -/
def toldByRevoke (sh : Shared) (req : RevokeTokenRequest) : List Told :=
  match sh.auth.revoke req with
  | .ok _ => [.counted .revokedTokensTotal]
  | .error _ => []

/-! ## The trail of a run -/

namespace Trail

/-- The steps of the runs. -/
inductive Action where
  /-- A step of the service, with the latency that the record of a request carries. -/
  | service (a : Service.Action) (latencyMs : Json.Number)
  /-- A call of `DeviceConnect`, up to the spawn of the stream's task. -/
  | deviceConnect (isHealthy : Bool)

/-- What is noted of a run: the events of the streams, and what the tasks and the calls tell. -/
inductive Entry where
  | event (e : Event)
  | ctrl (c : ℕ) (told : Told)
  | dev (i : ℕ) (told : Told)
  | unary (told : Told)

/-- `DeviceConnect` asks the limiter of connection attempts; the other steps are those of the
service. -/
def step (cfg : Config) (s : Service) : Action → Option Service
  | .service a _ => Service.step cfg s a
  | .deviceConnect _ =>
    let sh := s.relay.shared
    some { s with relay := { s.relay with shared := { sh with
      connectionLimiter := (sh.connectionLimiter.allowGlobal sh.now).2 } } }

/-- What is told with a step. -/
def toldBy (cfg : Config) (s : Service) : Action → List Entry
  | .service (.relay (.ctrl c input)) latencyMs =>
    (Controller.told cfg s.relay.shared c (s.relay.ctrl c) latencyMs input).map (.ctrl c)
  | .service (.relay (.dev i input)) _ =>
    (Device.told s.relay.shared (s.relay.dev i) input).map (.dev i)
  | .service (.list req) _ => (toldByListOnlineDevices cfg s.relay.shared req).map .unary
  | .service (.check n) _ =>
    match s.revoking n with
    | .checking req => (toldByAuthorizeRevocation cfg s.relay.shared req).map .unary
    | _ => []
  | .service (.write n) _ =>
    match s.revoking n with
    | .writing req => (toldByRevoke s.relay.shared req).map .unary
    | _ => []
  | .deviceConnect isHealthy => (toldByDeviceConnect s.relay.shared isHealthy).map .unary
  | .service (.relay _) _ | .service (.call _ _) _ => []

/-- What is noted of a step: its events, and then what is told with it. -/
def emit (cfg : Config) (s : Service) (a : Action) (s' : Service) : List Entry :=
  (s'.relay.trace.drop s.relay.trace.length).map .event ++ toldBy cfg s a

/-- The runs of the service, with what is noted of them. -/
abbrev Run (cfg : Config) : List Entry → Service → Prop :=
  Runs.Logged (step cfg) (fun _ _ => True) (emit cfg) (Service.init cfg)

/-- The event, if it is one. -/
def Entry.event? : Entry → Option Event
  | .event e => some e
  | _ => none

section Run

variable {cfg : Config} {log : List Entry} {s s' : Service} {a : Action}

/-- A step is one of the relay's tasks, or leaves the loops and the events as they were. -/
theorem step_cases (h : step cfg s a = some s') :
    (∃ action latencyMs, a = .service (.relay action) latencyMs ∧
      GrpcRelay.step cfg s.relay action = some s'.relay) ∨
    (∀ action latencyMs, a ≠ .service (.relay action) latencyMs) ∧
      s'.relay.ctrl = s.relay.ctrl ∧ s'.relay.trace = s.relay.trace := by
  cases a with
  | deviceConnect isHealthy =>
    cases h
    exact .inr ⟨by rintro _ _ ⟨⟩, rfl, rfl⟩
  | service a latencyMs =>
    cases a with
    | relay action =>
      simp only [step, Service.step] at h
      split_ifs at h
      obtain ⟨relay, hs, rfl⟩ := Option.map_eq_some_iff.1 h
      exact .inl ⟨action, latencyMs, rfl, hs⟩
    | list req =>
      cases h
      exact .inr ⟨by rintro _ _ ⟨⟩, rfl, rfl⟩
    | call n req =>
      simp only [step, Service.step] at h
      split at h <;> cases h
      exact .inr ⟨by rintro _ _ ⟨⟩, rfl, rfl⟩
    | check n =>
      simp only [step, Service.step] at h
      split at h
      · split at h <;> cases h <;> exact .inr ⟨by rintro _ _ ⟨⟩, rfl, rfl⟩
      · cases h
    | write n =>
      simp only [step, Service.step] at h
      split at h
      · split at h <;> cases h <;> exact .inr ⟨by rintro _ _ ⟨⟩, rfl, rfl⟩
      · cases h

/-- A step only adds events. -/
theorem trace_of_step (h : step cfg s a = some s') :
    ∃ events, s'.relay.trace = s.relay.trace ++ events := by
  rcases step_cases h with ⟨action, latencyMs, rfl, hs⟩ | ⟨-, -, same⟩
  · exact trace_of_cases (GrpcRelay.step_cases hs)
  · exact ⟨[], by rw [same, List.append_nil]⟩

/-- What a step tells is told by the loop or the stream that makes it, or by a call. -/
theorem mem_toldBy {e : Entry} (h : e ∈ toldBy cfg s a) :
    (∃ c input latencyMs t, a = .service (.relay (.ctrl c input)) latencyMs ∧ e = .ctrl c t) ∨
      (∃ i t, e = .dev i t) ∨ ∃ t, e = .unary t := by
  unfold toldBy at h
  split at h
  case h_1 c input latencyMs =>
    obtain ⟨t, -, rfl⟩ := List.mem_map.1 h
    exact .inl ⟨c, input, latencyMs, t, rfl, rfl⟩
  case h_2 i input latencyMs =>
    obtain ⟨t, -, rfl⟩ := List.mem_map.1 h
    exact .inr (.inl ⟨i, t, rfl⟩)
  all_goals
    refine .inr (.inr ?_)
    try split at h
  all_goals
    first
      | cases h
      | obtain ⟨t, -, rfl⟩ := List.mem_map.1 h
        exact ⟨t, rfl⟩

theorem event_toldBy : (toldBy cfg s a).filterMap Entry.event? = [] := by
  rw [List.filterMap_eq_nil_iff]
  intro e he
  obtain ⟨c, input, latencyMs, t, -, rfl⟩ | ⟨i, t, rfl⟩ | ⟨t, rfl⟩ := mem_toldBy he <;> rfl

/-- The events that are noted are those of the run. -/
theorem Run.events (h : Run cfg log s) : log.filterMap Entry.event? = s.relay.trace := by
  refine Runs.Logged.invariant (I := fun log s => log.filterMap Entry.event? = s.relay.trace) rfl
    ?_ h
  intro log s a s' _ ih _ hs
  obtain ⟨events, trace⟩ := trace_of_step hs
  rw [List.filterMap_append, ih, emit, List.filterMap_append, event_toldBy, List.append_nil, trace,
    List.drop_left, List.filterMap_map]
  simp [Function.comp_def, Entry.event?]

end Run

end Trail

/-! ## Counters and records -/

/-- The counter that a record goes with. -/
def Audit.AuditRecord.counter : AuditRecord → Option SecurityCounter
  | .authSuccess .. => some .authSuccessTotal
  | .authFailure .. => some .authFailureTotal
  | .authorizationDenied .. => some .authorizationDeniedTotal
  | .rateLimit .. => some .rateLimitTotal
  | _ => none

/-- The record is that of a `Register` refused for the resources. -/
def Audit.AuditRecord.isUnhealthy : AuditRecord → Bool
  | .rateLimit entityType _ limitKind _ =>
    entityType == "device" && limitKind == "resource_unhealthy"
  | _ => false

namespace Told

/-- It adds one to the counter. -/
def increments (k : SecurityCounter) : Told → Bool
  | .counted k' => k' == k
  | .audited _ => false

/-- A record that the counter goes with, other than those that are not counted. -/
def accountsFor (k : SecurityCounter) : Told → Bool
  | .counted _ => false
  | .audited r => r.counter == some k && !r.isUnhealthy

/-- The counters, but that of revoked tokens, stand at the numbers of their records. -/
def Balanced (ts : List Told) : Prop :=
  ∀ k, k ≠ .revokedTokensTotal → ts.countP (increments k) = ts.countP (accountsFor k)

theorem Balanced.append {ts ts' : List Told} (h : Balanced ts) (h' : Balanced ts') :
    Balanced (ts ++ ts') := by
  intro k hk
  rw [List.countP_append, List.countP_append, h k hk, h' k hk]

end Told

open Told

namespace Controller

variable {cfg : Config} {sh : Shared} {c : ℕ} {l : Controller} {m : ControllerMessage}

end Controller

namespace Device

variable {sh : Shared} {l : Device} {msg : DeviceMessage}

end Device

/-! ### Calls that are not streams -/

namespace Trail

variable {cfg : Config} {log : List Entry} {s : Service} {a : Action}

end Trail

namespace Small

/-- A step of the relay; no time passes while a request is awaited. -/
def noted (a : Action) : Trail.Action := .service (.relay a) (Json.Number.ofInt 0)

/-- The log of a run of a small relay. -/
def notes (cfg : Config) (as : List Trail.Action) : Option (List Trail.Entry × Service) :=
  Runs.executeLogged (Trail.step cfg) (fun _ _ => true) (Trail.emit cfg) [] (Service.init cfg) as

end Small

namespace Trail

end Trail

end GrpcRelay
