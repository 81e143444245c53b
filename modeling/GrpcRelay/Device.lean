import GrpcRelay.Controller

/-!
# The device stream

`run_device_connect_stream` (`grpc_service.rs`), one access to shared state at a time: the message
loop, whose `Register` replaces the stream's identity, and the cleanup after the loop.

The heartbeat timeout may strike while the stream waits for a message.  The scan of
`take_inflight_for_device` meets the entries of the map one by one, so its steps are `visit`s of
single entries; it may miss an entry that is inserted while it runs.
-/

namespace GrpcRelay

/-- What a step of a device stream receives from outside: the next inbound item, the verdict of
the resource monitor, or the next entry that an iteration meets. -/
inductive DevInput where
  | recv (msg : DeviceMessage)
  | recvError
  | eof
  | timeout
  | health (isHealthy : Bool)
  | visit (key : RequestKey)
  | tick
  deriving DecidableEq, Repr

namespace Device

/-- Move the program counter. -/
def goto (l : Device) (pc : DevPc) : Device := { l with pc := pc }

/-- The message belongs to the session that this stream established. -/
def ownsMessage (sh : Shared) (l : Device) (msg : DeviceMessage) : Bool :=
  match l.currentConnectionId with
  | some connectionId =>
    (l.currentDeviceId == some msg.deviceId) &&
      sh.relay.hasActiveDeviceConnection msg.deviceId connectionId
  | none => false

/-- A message arrives. -/
def receive (sh : Shared) (l : Device) (msg : DeviceMessage) : Next Device :=
  if ownsMessage sh l msg then ⟨sh, l.goto (.touching msg), []⟩
  else ⟨sh, l.goto (.handling msg), []⟩

/-- The checks that precede an action on a message: any other payload than `Register` must carry
the stream's device id. -/
def identityOk (l : Device) (msg : DeviceMessage) : Bool :=
  match msg.payload with
  | some (.register _) => true
  | _ => l.currentDeviceId == some msg.deviceId

/-- `Register` sets the stream's device id as soon as the token is accepted. -/
def register (sh : Shared) (i : ℕ) (l : Device) (msg : DeviceMessage)
    (request : RegisterRequest) : Next Device :=
  match sh.auth.authenticateDeviceByToken msg.deviceId msg.token with
  | .ok _ =>
    ⟨sh, { l with currentDeviceId := some msg.deviceId, pc := .admitting msg request },
      [.deviceAuthenticated i msg.deviceId msg.token sh.auth]⟩
  | .error _ => ⟨sh, l.goto (.closing .error), []⟩

/-- A heartbeat is authenticated and answered. -/
def heartbeat (sh : Shared) (i : ℕ) (l : Device) (msg : DeviceMessage) : Next Device :=
  match sh.auth.authenticateDeviceByToken msg.deviceId msg.token with
  | .ok _ => ⟨sh, l.goto .reading, [.relayed i .heartbeatResponse]⟩
  | .error _ => ⟨sh, l.goto (.closing .error), []⟩

/-- The response that a `Data` message on a stream registered as `deviceId` becomes; `n` is the
number of the event. -/
def dataReply (n : ℕ) (deviceId : String) (response : DataResponse) : Reply where
  resp := deviceResponseFromDeviceData deviceId response.sequenceNumber
    response.encryptedPayload response.error
  origin := .device n

/-- `Data` takes the entry of the stream's device and the message's sequence number. -/
def data (sh : Shared) (n i : ℕ) (l : Device) (response : DataResponse) : Next Device :=
  match l.currentDeviceId with
  | none => ⟨sh, l.goto (.closing .error), []⟩
  | some deviceId =>
    match sh.relay.takeInflight deviceId response.sequenceNumber with
    | (relay, some entry) =>
      ⟨{ sh with relay := relay }, l.goto (.completing entry (dataReply n deviceId response)),
        [.data i deviceId response,
          .inflight sh.now (.taken (deviceId, response.sequenceNumber) entry)]⟩
    | (_, none) => ⟨sh, l.goto .reading, [.data i deviceId response]⟩

/-- A message whose identity is not accepted ends the loop. -/
def handle (sh : Shared) (n i : ℕ) (l : Device) (msg : DeviceMessage) : Next Device :=
  if identityOk l msg then
    match msg.payload with
    | some (.register request) => register sh i l msg request
    | some .heartbeat => heartbeat sh i l msg
    | some (.data response) => data sh n i l response
    | none => ⟨sh, l.goto .reading, []⟩
  else ⟨sh, l.goto (.closing .error), []⟩

/-! ### Registration -/

/-- The limit of the device's connection attempts. -/
def allowDevice (sh : Shared) (l : Device) (msg : DeviceMessage) (request : RegisterRequest) :
    Next Device :=
  match sh.connectionLimiter.allowDevice sh.now msg.deviceId with
  | (true, rl) =>
    ⟨{ sh with connectionLimiter := rl }, l.goto (.checkingHealth msg request), []⟩
  | (false, rl) => ⟨{ sh with connectionLimiter := rl }, l.goto (.closing .error), []⟩

/-- Draw the connection id of the new session. -/
def number (sh : Shared) (l : Device) (msg : DeviceMessage) (request : RegisterRequest) :
    Next Device :=
  let (connectionId, relay) := sh.relay.nextConnectionId
  ⟨{ sh with relay := relay }, l.goto (.resuming msg request connectionId), []⟩

/-- A session is resumed if the previous connection id is still that of the device. -/
def resume (sh : Shared) (l : Device) (msg : DeviceMessage) (request : RegisterRequest)
    (connectionId : String) : Next Device :=
  let sessionResumed := !request.previousConnectionId.isEmpty &&
    sh.relay.deviceIdForConnection request.previousConnectionId == some msg.deviceId
  ⟨sh, l.goto (.installing msg request connectionId sessionResumed), []⟩

/-- The new session replaces the one that the device may have. -/
def install (sh : Shared) (i : ℕ) (l : Device) (msg : DeviceMessage) (request : RegisterRequest)
    (connectionId : String) (sessionResumed : Bool) : Next Device :=
  let session : DeviceSession := ⟨msg.deviceId, connectionId, request.metadata, i⟩
  let relay := { sh.relay with
    sessionsByDeviceId := sh.relay.sessionsByDeviceId.insert msg.deviceId session }
  let pc := match sh.relay.sessionsByDeviceId.lookup msg.deviceId with
    | some previous => .unlinking msg request connectionId sessionResumed previous.connectionId
    | none => .linking msg request connectionId sessionResumed
  ⟨{ sh with relay := relay }, l.goto pc,
    [.registered i msg.deviceId connectionId sessionResumed]⟩

/-- The connection id of the session replaced is forgotten. -/
def unlink (sh : Shared) (l : Device) (msg : DeviceMessage) (request : RegisterRequest)
    (connectionId : String) (sessionResumed : Bool) (previous : String) : Next Device :=
  ⟨{ sh with relay := { sh.relay with
      connectionToDeviceId := sh.relay.connectionToDeviceId.erase previous } },
    l.goto (.linking msg request connectionId sessionResumed), []⟩

/-- The connection id is inserted, and the stream takes it for its own. -/
def link (cfg : Config) (sh : Shared) (l : Device) (msg : DeviceMessage)
    (request : RegisterRequest) (connectionId : String) (sessionResumed : Bool) : Next Device :=
  ⟨{ sh with relay := { sh.relay with
      connectionToDeviceId := sh.relay.connectionToDeviceId.insert connectionId msg.deviceId } },
    { l with
      currentConnectionId := some connectionId
      pc := .confirming connectionId sessionResumed },
    if cfg.mqtt then
      [.mqtt (.deviceOnline msg.deviceId connectionId cfg.relayAddress request.metadata)]
    else []⟩

/-! ### Cleanup -/

/-- Without a device id there is nothing to clean up. -/
def close (sh : Shared) (l : Device) (reason : DisconnectReason) : Next Device :=
  match l.currentDeviceId with
  | none => ⟨sh, l.goto .done, []⟩
  | some did => ⟨sh, l.goto (.scanning did reason []), []⟩

/-- The iteration meets an entry of the device and collects its key. -/
def visit (sh : Shared) (l : Device) (did : String) (reason : DisconnectReason)
    (keys : List RequestKey) (key : RequestKey) : Option (Next Device) :=
  match sh.relay.inflightBySequence.entries.lookup key with
  | none => none
  | some entry =>
    if sh.relay.inflightDeviceId entry = some did then
      some ⟨sh, l.goto (.scanning did reason (keys ++ [key])), []⟩
    else none

/-- Take the next entry collected; after the last, remove the device's mappings. -/
def sweep (sh : Shared) (l : Device) (did : String) (reason : DisconnectReason)
    (taken : List (ℤ × ℕ)) : List RequestKey → Next Device
  | key :: keys =>
    match sh.relay.takeInflight key.1 key.2 with
    | (relay, some entry) =>
      ⟨{ sh with relay := relay }, l.goto (.sweeping did reason keys (taken ++ [(key.2, entry)])),
        [.inflight sh.now (.taken key entry)]⟩
    | (_, none) => ⟨sh, l.goto (.sweeping did reason keys taken), []⟩
  | [] =>
    let (removed, router) := sh.router.removeAllForDevice did
    ⟨{ sh with router := router }, l.goto (.draining did reason taken removed), []⟩

/-- Complete the next entry taken. -/
def drain (sh : Shared) (l : Device) (did : String) (reason : DisconnectReason)
    (removed : List StreamMapping) : List (ℤ × ℕ) → Next Device
  | (seq, entry) :: taken =>
    let reply := Controller.offlineReply did seq
    ⟨{ sh with relay := sh.relay.complete entry reply },
      l.goto (.draining did reason taken removed), [.inflight sh.now (.completed entry reply)]⟩
  | [] => ⟨sh, l.goto (.notifying did reason removed), []⟩

/-- Tell the next stream, if it is idle. -/
def notify (sh : Shared) (l : Device) (did : String) (reason : DisconnectReason) :
    List StreamMapping → Next Device
  | mapping :: removed =>
    ⟨sh, l.goto (.notifying did reason removed),
      if mapping.activeRequests = 0 then
        [.notified mapping.controllerTx (Controller.offlineReply did 0)]
      else []⟩
  | [] => ⟨sh, l.goto (.inspecting did reason), []⟩

/-- Read the connection id of the device's session, for the notice. -/
def inspect (sh : Shared) (l : Device) (did : String) (reason : DisconnectReason) : Next Device :=
  ⟨sh, l.goto (.verifying did reason
    ((sh.relay.sessionsByDeviceId.lookup did).map (·.connectionId))), []⟩

/-- The stream's connection id is that of the active session of `did`. -/
def ownsSession (sh : Shared) (l : Device) (did : String) : Bool :=
  match l.currentConnectionId with
  | some connectionId => sh.relay.hasActiveDeviceConnection did connectionId
  | none => false

/-- Only the stream that owns the session goes on to remove it. -/
def verify (cfg : Config) (sh : Shared) (l : Device) (did : String) (reason : DisconnectReason)
    (current : Option String) : Next Device :=
  if ownsSession sh l did then
    ⟨sh, l.goto (.removingSession did),
      match current with
      | some connectionId =>
        if cfg.mqtt then [.mqtt (.deviceOffline did connectionId reason)] else []
      | none => []⟩
  else ⟨sh, l.goto .done, []⟩

/-- Remove the session of the device, whoever owns it by now. -/
def removeSession (sh : Shared) (l : Device) (did : String) : Next Device :=
  match sh.relay.sessionsByDeviceId.lookup did with
  | none => ⟨sh, l.goto .done, []⟩
  | some session =>
    ⟨{ sh with relay := { sh.relay with
        sessionsByDeviceId := sh.relay.sessionsByDeviceId.erase did } },
      l.goto (.removingConnection did session.connectionId), []⟩

/-- Remove the connection id of the session removed. -/
def removeConnection (sh : Shared) (l : Device) (did connectionId : String) : Next Device :=
  ⟨{ sh with relay := { sh.relay with
      connectionToDeviceId := sh.relay.connectionToDeviceId.erase connectionId } },
    l.goto (.removingLastSeen did), []⟩

/-- Forget when the device was last seen. -/
def removeLastSeen (sh : Shared) (l : Device) (did : String) : Next Device :=
  ⟨{ sh with relay := { sh.relay with
      deviceLastSeen := sh.relay.deviceLastSeen.erase did } },
    l.goto .done, []⟩

/-- One step of device stream `i`; `n` is the number of events so far. -/
def step (cfg : Config) (sh : Shared) (n i : ℕ) (l : Device) : DevInput → Option (Next Device)
  | .recv msg =>
    match l.pc with
    | .reading => some (receive sh l msg)
    | _ => none
  | .recvError =>
    match l.pc with
    | .reading => some ⟨sh, l.goto (.closing .error), []⟩
    | _ => none
  | .eof =>
    match l.pc with
    | .reading => some ⟨sh, l.goto (.closing .gracefulShutdown), []⟩
    | _ => none
  | .timeout =>
    match l.pc with
    | .reading => some ⟨sh, l.goto (.closing .timeout), []⟩
    | _ => none
  | .health isHealthy =>
    match l.pc with
    | .checkingHealth msg request =>
      some ⟨sh, l.goto (if isHealthy then .numbering msg request else .closing .error), []⟩
    | _ => none
  | .visit key =>
    match l.pc with
    | .scanning did reason keys => visit sh l did reason keys key
    | _ => none
  | .tick =>
    match l.pc with
    | .touching msg =>
      some ⟨{ sh with relay := sh.relay.touchDevice msg.deviceId sh.now }, l.goto (.handling msg),
        []⟩
    | .handling msg => some (handle sh n i l msg)
    | .admitting msg request => some (allowDevice sh l msg request)
    | .numbering msg request => some (number sh l msg request)
    | .resuming msg request cid => some (resume sh l msg request cid)
    | .installing msg request cid resumed => some (install sh i l msg request cid resumed)
    | .unlinking msg request cid resumed previous =>
      some (unlink sh l msg request cid resumed previous)
    | .linking msg request cid resumed => some (link cfg sh l msg request cid resumed)
    | .confirming cid resumed =>
      some ⟨sh, l.goto .reading, [.relayed i (.registerResponse cid resumed)]⟩
    | .completing entry r =>
      some ⟨{ sh with relay := sh.relay.complete entry r }, l.goto .reading,
        [.inflight sh.now (.completed entry r)]⟩
    | .closing reason => some (close sh l reason)
    | .scanning did reason keys => some ⟨sh, l.goto (.sweeping did reason keys []), []⟩
    | .sweeping did reason keys taken => some (sweep sh l did reason taken keys)
    | .draining did reason taken removed => some (drain sh l did reason removed taken)
    | .notifying did reason removed => some (notify sh l did reason removed)
    | .inspecting did reason => some (inspect sh l did reason)
    | .verifying did reason current => some (verify cfg sh l did reason current)
    | .removingSession did => some (removeSession sh l did)
    | .removingConnection did cid => some (removeConnection sh l did cid)
    | .removingLastSeen did => some (removeLastSeen sh l did)
    | .reading | .checkingHealth .. | .done => none

end Device

end GrpcRelay
