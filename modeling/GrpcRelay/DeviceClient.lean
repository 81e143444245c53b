import GrpcRelay.Validator
import GrpcRelay.Lib.Rounding
import Mathlib.Data.Rat.Floor

/-!
# The device client

`DeviceConnectClient` of the device SDK (`client.rs`), with its configuration (`config.rs`), its
backoff (`backoff.rs`) and its errors (`error.rs`).

A call of `connect_once` is run against an `Attempt`, which says what the network does in it; the
loop of `run` takes one such attempt after the other.  Of the tasks that a connection spawns, the
heartbeat and the data handlers, only the start is modelled: nothing they do comes back to
`connect_once`, and they send through their own clone of the sender.
-/

namespace GrpcRelay.DeviceSdk

/-- A gRPC status that the relay or the transport answers with. -/
structure Status where
  code : ℕ
  message : String
  deriving DecidableEq, Repr

/-- Why `run` or `connect_once` fails. -/
inductive DeviceSdkError where
  | invalidConfig (message : String)
  | tonic (message : String)
  | grpc (status : Status)
  | io (message : String)
  | time (message : String)
  | connectionClosed
  | missingToken
  | recoveryDisabled
  deriving DecidableEq, Repr

/-! ## Configuration -/

/-- `DeviceSdkConfig`, less the QUIC address and the fallback switch, which nothing reads. -/
structure Config where
  tcpAddr : String
  deviceId : String
  token : String
  metadata : Metadata := []
  sessionRecoveryWindowSeconds : ℕ := 300
  heartbeatIntervalSeconds : ℕ := 30
  backoffInitialSeconds : ℕ := 1
  backoffMaxSeconds : ℕ := 60
  maxPayloadBytes : ℕ := 10 * 1024 * 1024
  deriving DecidableEq, Repr

/-- `Config::validate`: the first check that fails decides. -/
def Config.validate (config : Config) : Except DeviceSdkError Unit :=
  if trimIsEmpty config.tcpAddr then .error (.invalidConfig "relay.tcp_addr must not be empty")
  else if trimIsEmpty config.deviceId then .error (.invalidConfig "device_id must not be empty")
  else if trimIsEmpty config.token then .error .missingToken
  else if config.heartbeatIntervalSeconds = 0 then
    .error (.invalidConfig "heartbeat_interval_seconds must be greater than 0")
  else if config.backoffInitialSeconds = 0 ∨ config.backoffMaxSeconds = 0 then
    .error (.invalidConfig "backoff settings must be greater than 0")
  else if config.maxPayloadBytes = 0 then
    .error (.invalidConfig "transport.max_payload_bytes must be greater than 0")
  else .ok ()

/-! ## Backoff -/

/-- `u64::MAX`. -/
def u64Max : ℕ := 2 ^ 64 - 1

/-- `u32::MAX`. -/
def u32Max : ℕ := 2 ^ 32 - 1

/-- `i64::MAX`. -/
def i64Max : ℕ := 2 ^ 63 - 1

/-- The bounds of the sleep between two attempts. -/
structure RetryBackoff where
  initialSeconds : ℕ
  maxSeconds : ℕ
  deriving DecidableEq, Repr

/-- `RetryBackoff::new`: at least one second, and at most the larger bound. -/
def RetryBackoff.new (initialSeconds maxSeconds : ℕ) : RetryBackoff where
  initialSeconds := max initialSeconds 1
  maxSeconds := max maxSeconds (max initialSeconds 1)

/-- `f64::round`: to the nearest integer, and away from zero from the middle. -/
def roundHalfAway (x : ℚ) : ℤ := if 0 ≤ x then ⌊x + 1 / 2⌋ else ⌈x - 1 / 2⌉

/-- The sleep before the next attempt; every `f64` operation rounds to the nearest number. -/
def RetryBackoff.nextSleepSeconds (backoff : RetryBackoff) (attempt : ℕ) : ℕ :=
  let base := min (backoff.initialSeconds * 2 ^ min attempt 30) u64Max
  let capped := min base backoff.maxSeconds
  let hashed := (attempt * 6364136223846793005 + 1442695040888963407) % 2 ^ 64
  let frac := Float64.nearest ((hashed % 1000 : ℕ) / 1000)
  let jitter := Float64.nearest (1 / 2 + frac)
  let withJitter := roundHalfAway (Float64.nearest (Float64.nearest capped * jitter))
  let clamped := max 1 (min (withJitter : ℚ) (Float64.nearest backoff.maxSeconds))
  -- The cast to `u64` saturates.
  min ⌊clamped⌋.toNat u64Max

/-- The exact product is 31.5, but that of the nearest numbers is below. -/
example : (RetryBackoff.new 45 45).nextSleepSeconds 21 = 31 := by decide +kernel

/-! ## One connection -/

/-- A reading of `now_epoch_millis`: a non-negative `i64`. -/
abbrev EpochMillis : Type := Fin (2 ^ 63)

/-- `i64::saturating_sub`. -/
def saturatingSub (a b : ℤ) : ℤ := max (-(i64Max + 1)) (min i64Max (a - b))

/-- What a message of the relay carries. -/
inductive RelayPayload where
  | registerResponse (connectionId : String) (sessionResumed : Bool)
  | heartbeatResponse
  | dataRequest (request : DataRequest)
  deriving DecidableEq, Repr

/-- A message of the response stream, and whether the outbound stream still takes messages when
the client has read it. -/
structure Incoming where
  payload : Option RelayPayload
  outboundOpen : Bool
  deriving DecidableEq, Repr

/-- How the response stream ends. -/
inductive StreamEnd where
  | closed
  | failed (status : Status)
  deriving DecidableEq, Repr

/-- What happens on a stream that the relay has opened: whether it takes the register message, the
messages that come, and how the response stream ends. -/
structure Session where
  takesRegister : Bool
  inbound : List Incoming
  finish : StreamEnd
  deriving DecidableEq, Repr

/-- What the network does in one call of `connect_once`: `endpoint.connect` fails, the call of
`device_connect` is answered with a status, or the stream is opened; then the clock is read. -/
inductive Attempt where
  | unreachable (message : String)
  | refused (status : Status)
  | opened (now : EpochMillis) (session : Session)
  deriving DecidableEq, Repr

/-- What the client does on a connection. -/
inductive Effect where
  | sent (message : DeviceMessage)
  | heartbeatStarted (connectionId : String)
  | handlerStarted (request : DataRequest)
  | heartbeatStopped
  deriving DecidableEq, Repr

/-- `normalize_http_uri`: an address without a scheme gets `http`. -/
def normalizeHttpUri (addr : String) : String :=
  if "http://".toList.isPrefixOf addr.toList || "https://".toList.isPrefixOf addr.toList then addr
  else "http://" ++ addr

/-- The recovery window in milliseconds. -/
def Config.windowMillis (config : Config) : ℕ :=
  min (min (config.sessionRecoveryWindowSeconds * 1000) u64Max) i64Max

/-- The connection id to resume: the previous one, within the recovery window. -/
def previousForRegister (config : Config) (previousConnectionId : Option String)
    (lastDisconnectAtMillis : Option EpochMillis) (now : EpochMillis) : Option String :=
  previousConnectionId.bind fun cid =>
    lastDisconnectAtMillis.bind fun disconnect =>
      if saturatingSub now.val disconnect.val ≤ config.windowMillis then some cid else none

/-- The request of the `Register` message. -/
def registerRequest (config : Config) (previousConnectionId : Option String)
    (lastDisconnectAtMillis : Option EpochMillis) (now : EpochMillis) : RegisterRequest where
  deviceId := config.deviceId
  metadata := config.metadata
  previousConnectionId :=
    (previousForRegister config previousConnectionId lastDisconnectAtMillis now).getD ""

/-- A message of the device, with its id and token. -/
def message (config : Config) (payload : DevicePayload) : DeviceMessage :=
  ⟨config.deviceId, config.token, some payload⟩

/-- The answer to a data request whose payload is over the limit. -/
def rejection (request : DataRequest) : DataResponse :=
  ⟨request.connectionId, request.sequenceNumber, [], ErrorCode.internalError.toInt⟩

/-- The local variables of the reader. -/
structure Reader where
  heartbeatTask : Option String := none
  registeredConnectionId : Option String := none
  deriving DecidableEq, Repr

/-- One message of the response stream. -/
def Reader.receive (reader : Reader) (config : Config) (incoming : Incoming) :
    List Effect × Except DeviceSdkError Reader :=
  match incoming.payload with
  | some (.registerResponse cid _) =>
    match reader.heartbeatTask with
    | none => ([.heartbeatStarted cid], .ok ⟨some cid, some cid⟩)
    | some task => ([], .ok ⟨some task, some cid⟩)
  | some .heartbeatResponse => ([], .ok reader)
  | some (.dataRequest request) =>
    if config.maxPayloadBytes < request.encryptedPayload.length then
      if incoming.outboundOpen then
        ([.sent (message config (.data (rejection request)))], .ok reader)
      else ([], .error .connectionClosed)
    else ([.handlerStarted request], .ok reader)
  | none => ([], .ok reader)

/-- The end of the response stream, and what stands after the loop. -/
def Reader.finish (reader : Reader) (stop : StreamEnd) :
    List Effect × Except DeviceSdkError String :=
  match stop, reader.registeredConnectionId with
  | .failed status, none => ([], .error (.grpc status))
  | _, some cid => (if reader.heartbeatTask.isSome then [.heartbeatStopped] else [], .ok cid)
  | .closed, none =>
    (if reader.heartbeatTask.isSome then [.heartbeatStopped] else [], .error .connectionClosed)

/-- The loop over the response stream. -/
def readResponses (config : Config) (stop : StreamEnd) :
    Reader → List Incoming → List Effect × Except DeviceSdkError String
  | reader, [] => reader.finish stop
  | reader, incoming :: rest =>
    match reader.receive config incoming with
    | (effects, .ok reader) =>
      let r := readResponses config stop reader rest
      (effects ++ r.1, r.2)
    | (effects, .error e) => (effects, .error e)

section Network

-- `fromShared` is `Endpoint::from_shared`, of the transport library.
variable (fromShared : String → Except String Unit)

/-- `connect_once`: what it does, and its result. -/
def connectOnce (config : Config) (previousConnectionId : Option String)
    (lastDisconnectAtMillis : Option EpochMillis) (attempt : Attempt) :
    List Effect × Except DeviceSdkError String :=
  match fromShared (normalizeHttpUri config.tcpAddr) with
  | .error e => ([], .error (.tonic e))
  | .ok () =>
    match attempt with
    | .unreachable e => ([], .error (.tonic e))
    | .refused status => ([], .error (.grpc status))
    | .opened now session =>
      if previousConnectionId.isSome ∧ config.sessionRecoveryWindowSeconds = 0 then
        ([], .error .recoveryDisabled)
      else if session.takesRegister then
        let request := registerRequest config previousConnectionId lastDisconnectAtMillis now
        let r := readResponses config session.finish {} session.inbound
        (.sent (message config (.register request)) :: r.1, r.2)
      else ([], .error .connectionClosed)

/-! ## The loop of `run` -/

/-- The local variables of `run`. -/
structure RunState where
  lastConnectionId : Option String := none
  lastDisconnectAtMillis : Option EpochMillis := none
  attempt : ℕ := 0
  deriving DecidableEq, Repr

/-- One connection, and the clock reading that `run` makes after it if it goes on. -/
structure Outcome where
  attempt : Attempt
  disconnectAt : EpochMillis
  deriving DecidableEq, Repr

/-- What stands after the match of `run`: the seconds to sleep, and the variables after them. -/
def retry (config : Config) (s : RunState) (now : EpochMillis) : ℕ × RunState :=
  ((RetryBackoff.new config.backoffInitialSeconds config.backoffMaxSeconds).nextSleepSeconds
      s.attempt,
    { s with attempt := min (s.attempt + 1) u32Max, lastDisconnectAtMillis := some now })

/-- One turn of the loop: it either sleeps and goes on, or returns the error. -/
def turn (config : Config) (s : RunState) (o : Outcome) : Except DeviceSdkError (ℕ × RunState) :=
  match (connectOnce fromShared config s.lastConnectionId s.lastDisconnectAtMillis o.attempt).2 with
  | .ok cid => .ok (retry config { s with lastConnectionId := some cid, attempt := 0 }
      o.disconnectAt)
  | .error .connectionClosed => .ok (retry config s o.disconnectAt)
  | .error (.grpc _) => .ok (retry config s o.disconnectAt)
  | .error e => .error e

/-- `run` over a sequence of outcomes: the sleeps it has made and its variables while it has not
returned, and else the error that it returned. -/
def runFrom (config : Config) (s : RunState) : List Outcome →
    Except DeviceSdkError (List ℕ × RunState)
  | [] => .ok ([], s)
  | o :: os =>
    match turn fromShared config s o with
    | .error e => .error e
    | .ok (seconds, s') =>
      match runFrom config s' os with
      | .error e => .error e
      | .ok (sleeps, s'') => .ok (seconds :: sleeps, s'')

/-- `run` from its start. -/
def run (config : Config) (os : List Outcome) : Except DeviceSdkError (List ℕ × RunState) :=
  runFrom fromShared config {} os

end Network

end GrpcRelay.DeviceSdk
