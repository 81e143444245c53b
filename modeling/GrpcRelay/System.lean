import GrpcRelay.Validator
import GrpcRelay.Auth
import GrpcRelay.RateLimiter
import GrpcRelay.Stream
import GrpcRelay.State

/-!
# The state of the relay

The relay runs any number of `ConnectToDevice` loops, device streams and timeout tasks, and one
task that removes stale streams, over shared maps and counters.  Each task has a program counter
that stands between two of its accesses to shared state; a step of the system is one such access
by one task, and all interleavings are allowed.

`trace` is the history of the run: no step reads it, except that a response built from a `Data`
message is tagged with the number of that event.
-/

namespace GrpcRelay

/-- The settings that the relay is started with. -/
structure Config where
  auth : AuthConfig
  stream : StreamConfig
  rateLimiting : RateLimitConfig
  relayAddress : String
  inflightTimeout : Duration
  mqtt : Bool
  decode : JwtDecoder

/-! ## Events -/

/-- The `status` label of `requests_total`. -/
inductive RequestStatus where
  | success
  | cached
  | unauthorized
  | rateLimited
  | internalError
  deriving DecidableEq, Repr

/-- Why a device stream ended. -/
inductive DisconnectReason where
  | gracefulShutdown
  | timeout
  | error
  deriving DecidableEq, Repr

/-- What the relay asks the MQTT publisher to announce. -/
inductive MqttPublishRequest where
  | deviceOnline (deviceId connectionId relayAddress : String) (metadata : Metadata)
  | deviceOffline (deviceId connectionId : String) (reason : DisconnectReason)
  deriving DecidableEq, Repr

/-- What happened in a run. -/
inductive Event where
  /-- Loop `c` pulled a message from its inbound stream. -/
  | pulled (c : ℕ) (m : ControllerMessage)
  /-- Loop `c` authenticated the controller of `m` and the policy allowed the request. -/
  | authorized (c : ℕ) (m : ControllerMessage) (auth : AuthService) (now : Instant)
      (controller : ControllerPrincipal) (device : DevicePrincipal)
  /-- The rate limiter allowed `m`. -/
  | allowed (c : ℕ) (m : ControllerMessage) (limiter : RateLimiter) (now : Instant)
  /-- `create_mapping` succeeded for `m`. -/
  | mapped (c : ℕ) (m : ControllerMessage) (router : StreamRouter) (now : Instant)
      (streamId : String)
  /-- An operation on the in-flight table. -/
  | inflight (now : Instant) (o : InflightOutcome)
  /-- Loop `c` put the request of `m` on the outbound channel of device stream `i`. -/
  | placed (c i : ℕ) (m : ControllerMessage) (request : DataRequest)
  /-- A response was inserted into the idempotency cache. -/
  | cached (k : RequestKey) (r : Reply)
  /-- The idempotency cache dropped an entry. -/
  | evicted (k : RequestKey)
  /-- Loop `c` sent a response on its own `out_tx`. -/
  | answered (c : ℕ) (r : Reply)
  /-- Another task sent a response on the `out_tx` of loop `c`. -/
  | notified (c : ℕ) (r : Reply)
  /-- Loop `c` counted a request. -/
  | requestsTotal (c : ℕ) (methodName : String) (status : RequestStatus)
  /-- The timeout task of entry `timer` took the entry `entry`. -/
  | timedOut (now : Instant) (timer entry : ℕ)
  /-- Stream `i` sent a `Register` with a token that was accepted for the device. -/
  | deviceAuthenticated (i : ℕ) (deviceId token : String) (auth : AuthService)
  /-- The session of a `Register` of stream `i` was installed. -/
  | registered (i : ℕ) (deviceId connectionId : String) (sessionResumed : Bool)
  /-- A `Data` message was accepted on stream `i`, registered as `deviceId`. -/
  | data (i : ℕ) (deviceId : String) (response : DataResponse)
  /-- The relay sent a message of its own on the outbound channel of stream `i`. -/
  | relayed (i : ℕ) (message : RelayMessage)
  /-- A publish request was handed to the MQTT publisher. -/
  | mqtt (request : MqttPublishRequest)

/-! ## Tasks -/

/-- Where a `ConnectToDevice` loop stands. -/
inductive CtrlPc where
  /-- Waiting for the next inbound message. -/
  | idle
  /-- About to authenticate the controller and check the policy. -/
  | authenticating (m : ControllerMessage)
  /-- About to ask the rate limiter. -/
  | limiting (m : ControllerMessage)
  /-- About to create the stream mapping. -/
  | mapping (m : ControllerMessage)
  /-- About to call `begin_request`. -/
  | beginning (m : ControllerMessage)
  /-- About to look into the idempotency cache. -/
  | lookingUp (m : ControllerMessage)
  /-- About to call `ensure_inflight_waiter`. -/
  | joining (m : ControllerMessage)
  /-- New forwarder, about to look up the device's session. -/
  | routing (m : ControllerMessage) (rx : ℕ)
  /-- New forwarder, about to check the bandwidth. -/
  | metering (m : ControllerMessage) (rx : ℕ) (session : DeviceSession)
  /-- New forwarder, about to send to the device. -/
  | forwarding (m : ControllerMessage) (rx : ℕ) (session : DeviceSession)
  /-- The refusal was sent; about to call `finish_request`. -/
  | refusing (m : ControllerMessage)
  /-- No session, or the send failed: about to take the entry. -/
  | offlineTaking (m : ControllerMessage) (rx : ℕ)
  /-- About to complete the entry taken. -/
  | offlineCompleting (m : ControllerMessage) (entry : ℕ)
  /-- About to call `finish_request` and go on. -/
  | offlineFinishing (m : ControllerMessage)
  /-- Waiting for the one-shot receiver. -/
  | waiting (m : ControllerMessage) (rx : ℕ) (isNewForwarder : Bool)
  /-- New forwarder with a response, about to insert it into the cache. -/
  | caching (m : ControllerMessage) (r : Reply)
  /-- About to call `finish_request` with a response to send. -/
  | finishing (m : ControllerMessage) (r : Reply) (status : RequestStatus)
  /-- About to send the response. -/
  | sending (m : ControllerMessage) (r : Reply)
  /-- The inbound stream ended; about to remove the mapping. -/
  | closing
  /-- About to decrement the connection count. -/
  | disconnecting
  | done

/-- The local variables of a `ConnectToDevice` loop. -/
structure Controller where
  streamId : Option String
  streamBinding : Option (String × String × String)
  controllerConnected : Bool
  pc : CtrlPc

/-- Where a device stream stands. -/
inductive DevPc where
  /-- Waiting for the next inbound message. -/
  | reading
  /-- The message is on the active session; about to refresh `device_last_seen`. -/
  | touching (msg : DeviceMessage)
  /-- About to check the message's identity and act on it. -/
  | handling (msg : DeviceMessage)
  /-- `Register` authenticated; about to ask the connection limiter. -/
  | admitting (msg : DeviceMessage) (request : RegisterRequest)
  /-- About to check the resources. -/
  | checkingHealth (msg : DeviceMessage) (request : RegisterRequest)
  /-- About to draw a connection id. -/
  | numbering (msg : DeviceMessage) (request : RegisterRequest)
  /-- About to look up the previous connection id. -/
  | resuming (msg : DeviceMessage) (request : RegisterRequest) (connectionId : String)
  /-- About to insert the session. -/
  | installing (msg : DeviceMessage) (request : RegisterRequest) (connectionId : String)
      (sessionResumed : Bool)
  /-- About to remove the replaced session's connection id. -/
  | unlinking (msg : DeviceMessage) (request : RegisterRequest) (connectionId : String)
      (sessionResumed : Bool) (previous : String)
  /-- About to insert the connection id. -/
  | linking (msg : DeviceMessage) (request : RegisterRequest) (connectionId : String)
      (sessionResumed : Bool)
  /-- About to send the register response. -/
  | confirming (connectionId : String) (sessionResumed : Bool)
  /-- About to complete an entry with the device's data. -/
  | completing (entry : ℕ) (r : Reply)
  /-- The loop ended; about to clean up. -/
  | closing (reason : DisconnectReason)
  /-- Collecting the in-flight keys of the device `did`. -/
  | scanning (did : String) (reason : DisconnectReason) (keys : List RequestKey)
  /-- Taking the entries of the keys collected. -/
  | sweeping (did : String) (reason : DisconnectReason) (keys : List RequestKey)
      (taken : List (ℤ × ℕ))
  /-- Completing the entries taken, with the mappings removed. -/
  | draining (did : String) (reason : DisconnectReason) (taken : List (ℤ × ℕ))
      (removed : List StreamMapping)
  /-- Telling the idle streams among the mappings removed. -/
  | notifying (did : String) (reason : DisconnectReason) (removed : List StreamMapping)
  /-- About to read the current session's connection id. -/
  | inspecting (did : String) (reason : DisconnectReason)
  /-- About to check that the session is still this stream's. -/
  | verifying (did : String) (reason : DisconnectReason) (current : Option String)
  /-- About to remove the session. -/
  | removingSession (did : String)
  /-- About to remove the connection id of the removed session. -/
  | removingConnection (did connectionId : String)
  /-- About to remove `device_last_seen`. -/
  | removingLastSeen (did : String)
  | done

/-- The local variables of a device stream. -/
structure Device where
  currentDeviceId : Option String
  currentConnectionId : Option String
  pc : DevPc

/-- The timeout task of an in-flight entry. -/
inductive Timer where
  | unset
  | sleeping (deviceId : String) (sequenceNumber : ℤ) (deadline : Instant)
  | completing (deviceId : String) (sequenceNumber : ℤ) (entry : ℕ)
  | done

/-- The task that removes stale streams. -/
inductive Reaper where
  | sleeping
  | removing (stale : List String) (removed : List StreamMapping)
  | notifying (removed : List StreamMapping)

/-! ## The state -/

/-- What the tasks share.  `outboundOpen i` says that the receiving half of device stream `i`'s
outbound channel is alive; `timer e` is the timeout task of entry `e`. -/
structure Shared where
  now : Instant
  relay : RelayState
  router : StreamRouter
  cache : IdempotencyCache
  rateLimiter : RateLimiter
  connectionLimiter : ConnectionRateLimiter
  bandwidthTracker : BandwidthTracker
  auth : AuthService
  outboundOpen : ℕ → Bool
  timer : ℕ → Timer

/-- The shared state, the tasks with their local variables, and what happened so far. -/
structure State where
  shared : Shared
  ctrl : ℕ → Controller
  dev : ℕ → Device
  reaper : Reaper
  trace : List Event

/-- A step of one task: the shared state, the task's local state and the events. -/
structure Next (ℓ : Type) where
  shared : Shared
  loc : ℓ
  events : List Event

/-- What the tasks share at the start. -/
def Shared.init (cfg : Config) : Shared where
  now := 0
  relay := .new
  router := .new cfg.stream
  cache := ∅
  rateLimiter := .new cfg.rateLimiting
  connectionLimiter := .new cfg.rateLimiting
  bandwidthTracker := .new cfg.rateLimiting
  auth := .new cfg.auth
  outboundOpen := fun _ => true
  timer := fun _ => .unset

/-- Loop `c` makes a step. -/
def State.afterCtrl (s : State) (c : ℕ) (n : Next Controller) : State :=
  { s with
    shared := n.shared
    ctrl := Function.update s.ctrl c n.loc
    trace := s.trace ++ n.events }

/-- Device stream `i` makes a step. -/
def State.afterDev (s : State) (i : ℕ) (n : Next Device) : State :=
  { s with
    shared := n.shared
    dev := Function.update s.dev i n.loc
    trace := s.trace ++ n.events }

/-- The timeout task of entry `e` makes a step. -/
def State.afterTimer (s : State) (e : ℕ) (n : Next Timer) : State :=
  { s with
    shared := { n.shared with timer := Function.update n.shared.timer e n.loc }
    trace := s.trace ++ n.events }

/-- No stream has sent a message yet. -/
def State.init (cfg : Config) : State where
  shared := .init cfg
  ctrl := fun _ => ⟨none, none, false, .idle⟩
  dev := fun _ => ⟨none, none, .reading⟩
  reaper := .sleeping
  trace := []

end GrpcRelay
