import GrpcRelay.System

/-!
# The `ConnectToDevice` loop

`run_connect_to_device_stream` (`grpc_service.rs`), one access to shared state at a time.  Checks
on local data are made in the step before them.  Log and audit records are left out; the counts of
`requests_total` are events.
-/

namespace GrpcRelay

/-- What a step of a loop receives from outside: the next inbound item, or the readings of the
system clock that the bandwidth check makes. -/
inductive CtrlInput where
  | recv (m : ControllerMessage)
  | recvError
  | eof
  | clock (readings : BandwidthTracker.ClockReadings)
  | tick
  deriving DecidableEq, Repr

namespace Controller

/-- Move the program counter. -/
def goto (l : Controller) (pc : CtrlPc) : Controller := { l with pc := pc }

/-- `send_error_response` and on to the next message. -/
def refuse (sh : Shared) (c : ℕ) (l : Controller) (m : ControllerMessage) (code : ErrorCode)
    (before : List Event) : Next Controller :=
  ⟨sh, l.goto .idle,
    before ++ [Event.answered c (.ofRelay (errorResp m.targetDeviceId m.sequenceNumber code))]⟩

/-- A message arrives: validation, the token's presence, and for an established stream the
binding. -/
def receive (sh : Shared) (c : ℕ) (l : Controller) (m : ControllerMessage) : Next Controller :=
  match validateControllerMessage m with
  | .error err => refuse sh c l m err.code [.pulled c m]
  | .ok () =>
    if trimIsEmpty m.token then refuse sh c l m .unauthorized [.pulled c m]
    else if l.streamId = none then ⟨sh, l.goto (.authenticating m), [.pulled c m]⟩
    else if l.streamBinding ≠ some m.binding then refuse sh c l m .internalError [.pulled c m]
    else ⟨sh, l.goto (.beginning m), [.pulled c m]⟩

/-- The first authenticated message of a loop counts it as a connection. -/
def connect (sh : Shared) (l : Controller) : Shared × Controller :=
  if l.controllerConnected then (sh, l)
  else ({ sh with relay := sh.relay.incrementControllerConnections },
    { l with controllerConnected := true })

/-- The checks of a stream's first message: token, device and policy. -/
def authenticate (cfg : Config) (sh : Shared) (c : ℕ) (l : Controller) (m : ControllerMessage) :
    Next Controller :=
  match sh.auth.authenticateController cfg.decode sh.now m.controllerId m.token with
  | .error _ => refuse sh c l m .unauthorized []
  | .ok controller =>
    let (sh, l) := connect sh l
    match sh.auth.getDevicePrincipalById m.targetDeviceId with
    | .error _ => refuse sh c l m .deviceNotFound []
    | .ok device =>
      match (RbacPolicyEngine.new cfg.auth).authorizeControllerToDevice controller device
        m.methodName with
      | .error .deviceProjectForbidden | .error .methodNotAllowed =>
        refuse sh c l m .unauthorized [.requestsTotal c m.methodName .unauthorized]
      | .error .unauthorized | .ok () =>
        ⟨sh, l.goto (.limiting m), [.authorized c m sh.auth sh.now controller device]⟩

/-- The request limiter, asked for a stream's first message only. -/
def limit (sh : Shared) (c : ℕ) (l : Controller) (m : ControllerMessage) : Next Controller :=
  match sh.rateLimiter.allow sh.now m.targetDeviceId m.controllerId with
  | (true, rl) => ⟨{ sh with rateLimiter := rl }, l.goto (.mapping m),
      [.allowed c m sh.rateLimiter sh.now]⟩
  | (false, rl) =>
    refuse { sh with rateLimiter := rl } c l m .rateLimited
      [.requestsTotal c m.methodName .rateLimited]

/-- The stream of the loop, bound to what its first message names. -/
def createMapping (sh : Shared) (c : ℕ) (l : Controller) (m : ControllerMessage) :
    Next Controller :=
  match sh.router.createMapping sh.now m.targetDeviceId m.controllerId m.methodName c with
  | (.ok streamId, router) =>
    ⟨{ sh with router := router },
      { l with
        streamId := some streamId
        streamBinding := some m.binding
        pc := .beginning m },
      [.mapped c m sh.router sh.now streamId]⟩
  | (.error err, router) =>
    if err.kind = .maxStreamsExceeded then
      refuse { sh with router := router } c l m .rateLimited
        [.requestsTotal c m.methodName .rateLimited]
    else
      refuse { sh with router := router } c l m .internalError
        [.requestsTotal c m.methodName .internalError]

/-- `if let Some(ref sid) = stream_id { router.begin_request(sid) }`. -/
def beginRequest (sh : Shared) (l : Controller) : Shared :=
  match l.streamId with
  | some sid => { sh with router := sh.router.beginRequest sid sh.now }
  | none => sh

/-- `if let Some(ref sid) = stream_id { router.finish_request(sid) }`. -/
def finishRequest (sh : Shared) (l : Controller) : Shared :=
  match l.streamId with
  | some sid => { sh with router := sh.router.finishRequest sid sh.now }
  | none => sh

/-- A cached response is sent again. -/
def lookUp (sh : Shared) (l : Controller) (m : ControllerMessage) : Next Controller :=
  match sh.cache.lookup m.key with
  | some cached => ⟨sh, l.goto (.finishing m cached .cached), []⟩
  | none => ⟨sh, l.goto (.joining m), []⟩

/-- `ensure_inflight_waiter`, and for a new forwarder the spawn of the timeout task. -/
def join (cfg : Config) (sh : Shared) (l : Controller) (m : ControllerMessage) :
    Next Controller :=
  match sh.relay.ensureInflightWaiter m.sequenceNumber m.targetDeviceId with
  | (relay, entry, rx, true) =>
    ⟨{ sh with
        relay := relay
        timer := Function.update sh.timer entry
          (.sleeping m.targetDeviceId m.sequenceNumber (sh.now + cfg.inflightTimeout)) },
      l.goto (.routing m rx), [.inflight sh.now (.joined m.key entry rx true)]⟩
  | (relay, entry, rx, false) =>
    ⟨{ sh with relay := relay }, l.goto (.waiting m rx false),
      [.inflight sh.now (.joined m.key entry rx false)]⟩

/-- The session of the device, if it has one. -/
def route (sh : Shared) (l : Controller) (m : ControllerMessage) (rx : ℕ) : Next Controller :=
  match sh.relay.sessionsByDeviceId.lookup m.targetDeviceId with
  | none => ⟨sh, l.goto (.offlineTaking m rx), []⟩
  | some session => ⟨sh, l.goto (.metering m rx session), []⟩

/-- A refused request is answered; its entry stays in the table. -/
def meter (sh : Shared) (c : ℕ) (l : Controller) (m : ControllerMessage) (rx : ℕ)
    (session : DeviceSession) (readings : BandwidthTracker.ClockReadings) : Next Controller :=
  match sh.bandwidthTracker.recordAndCheck readings m.targetDeviceId m.controllerId
    m.encryptedPayload.length with
  | (true, bt) => ⟨{ sh with bandwidthTracker := bt }, l.goto (.forwarding m rx session), []⟩
  | (false, bt) =>
    ⟨{ sh with bandwidthTracker := bt }, l.goto (.refusing m),
      [.requestsTotal c m.methodName .rateLimited,
        .answered c (.ofRelay (errorResp m.targetDeviceId m.sequenceNumber .rateLimited))]⟩

/-- The request as it is relayed on a session. -/
def relayRequest (m : ControllerMessage) (session : DeviceSession) : DataRequest :=
  relayMessageDataRequest session.connectionId m.sequenceNumber m.encryptedPayload

/-- Put the request on the outbound channel of the session. -/
def forward (sh : Shared) (c : ℕ) (l : Controller) (m : ControllerMessage) (rx : ℕ)
    (session : DeviceSession) : Next Controller :=
  if sh.outboundOpen session.outboundTx then
    ⟨sh, l.goto (.waiting m rx true),
      [.placed c session.outboundTx m (relayRequest m session)]⟩
  else ⟨sh, l.goto (.offlineTaking m rx), []⟩

/-- The loop that cannot forward takes the entry of its request out. -/
def takeOffline (sh : Shared) (l : Controller) (m : ControllerMessage) : Next Controller :=
  match sh.relay.takeInflight m.targetDeviceId m.sequenceNumber with
  | (relay, some entry) =>
    ⟨{ sh with relay := relay }, l.goto (.offlineCompleting m entry),
      [.inflight sh.now (.taken m.key entry)]⟩
  | (_, none) => ⟨sh, l.goto (.offlineFinishing m), []⟩

/-- The `DEVICE_OFFLINE` response to a request. -/
def offlineReply (deviceId : String) (seq : ℤ) : Reply :=
  .ofRelay (errorResp deviceId seq .deviceOffline)

/-- All who wait for the entry are told that the device is offline. -/
def completeOffline (sh : Shared) (l : Controller) (m : ControllerMessage) (entry : ℕ) :
    Next Controller :=
  let reply := offlineReply m.targetDeviceId m.sequenceNumber
  ⟨{ sh with relay := sh.relay.complete entry reply }, l.goto (.offlineFinishing m),
    [.inflight sh.now (.completed entry reply)]⟩

/-- `rx.await`: blocked until a value was sent or the sender is gone. -/
def await (sh : Shared) (l : Controller) (m : ControllerMessage) (rx : ℕ)
    (isNewForwarder : Bool) : Option (Next Controller) :=
  match sh.relay.inflightBySequence.channel rx with
  | r :: _ =>
    if isNewForwarder then some ⟨sh, l.goto (.caching m r), []⟩
    else some ⟨sh, l.goto (.finishing m r .success), []⟩
  | [] =>
    if sh.relay.inflightBySequence.closed rx then
      some ⟨sh, l.goto (.finishing m
        (.ofRelay (errorResp m.targetDeviceId m.sequenceNumber .internalError)) .internalError),
        []⟩
    else none

/-- The response to a forwarded request is cached, whatever it says. -/
def insertCache (sh : Shared) (l : Controller) (m : ControllerMessage) (r : Reply) :
    Next Controller :=
  ⟨{ sh with cache := sh.cache.insert m.key r }, l.goto (.finishing m r .success),
    [.cached m.key r]⟩

/-- The loop ended: `remove_mapping`. -/
def close (sh : Shared) (l : Controller) : Next Controller :=
  match l.streamId with
  | some sid =>
    ⟨{ sh with router := (sh.router.removeMapping sid).2 }, l.goto .disconnecting, []⟩
  | none => ⟨sh, l.goto .disconnecting, []⟩

/-- The loop no longer counts as a connection. -/
def disconnect (sh : Shared) (l : Controller) : Next Controller :=
  if l.controllerConnected then
    ⟨{ sh with relay := sh.relay.decrementControllerConnections }, l.goto .done, []⟩
  else ⟨sh, l.goto .done, []⟩

/-- One step of loop `c`. -/
def step (cfg : Config) (sh : Shared) (c : ℕ) (l : Controller) :
    CtrlInput → Option (Next Controller)
  | .recv m =>
    match l.pc with
    | .idle => some (receive sh c l m)
    | _ => none
  | .recvError | .eof =>
    match l.pc with
    | .idle => some ⟨sh, l.goto .closing, []⟩
    | _ => none
  | .clock readings =>
    match l.pc with
    | .metering m rx session => some (meter sh c l m rx session readings)
    | _ => none
  | .tick =>
    match l.pc with
    | .authenticating m => some (authenticate cfg sh c l m)
    | .limiting m => some (limit sh c l m)
    | .mapping m => some (createMapping sh c l m)
    | .beginning m => some ⟨beginRequest sh l, l.goto (.lookingUp m), []⟩
    | .lookingUp m => some (lookUp sh l m)
    | .joining m => some (join cfg sh l m)
    | .routing m rx => some (route sh l m rx)
    | .forwarding m rx session => some (forward sh c l m rx session)
    | .refusing _ => some ⟨finishRequest sh l, l.goto .idle, []⟩
    | .offlineTaking m _ => some (takeOffline sh l m)
    | .offlineCompleting m entry => some (completeOffline sh l m entry)
    | .offlineFinishing _ => some ⟨finishRequest sh l, l.goto .idle, []⟩
    | .waiting m rx isNewForwarder => await sh l m rx isNewForwarder
    | .caching m r => some (insertCache sh l m r)
    | .finishing m r status =>
      some ⟨finishRequest sh l, l.goto (.sending m r),
        [.requestsTotal c m.methodName status]⟩
    | .sending _ r => some ⟨sh, l.goto .idle, [.answered c r]⟩
    | .closing => some (close sh l)
    | .disconnecting => some (disconnect sh l)
    | .idle | .metering .. | .done => none

end Controller

end GrpcRelay
