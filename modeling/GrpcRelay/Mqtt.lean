import GrpcRelay.Proto
import Mathlib.Algebra.Ring.Nat

/-!
# The MQTT publisher

The publisher of device events and its background worker (`mqtt.rs`): the two `publish_device_*`
calls, the loop of `spawn_mqtt_publisher` and the session loop of `run_mqtt_session`.

Publish calls and the worker run at the same time.  A step makes at most one access to what they
share: the channel and the two counters.  `connected` is written by the worker alone.  What the
broker does (an acknowledged connection, a failed publish, an error of the event loop) is given by
the action.
-/

namespace GrpcRelay.Mqtt

/-! ## The broker address -/

/-- `str::split_once`. -/
def splitOnce (sep : List Char) : List Char → Option (List Char × List Char)
  | [] => none
  | c :: cs =>
    if sep.isPrefixOf (c :: cs) then some ([], (c :: cs).drop sep.length)
    else (splitOnce sep cs).map fun r => (c :: r.1, r.2)

/-- The part after the last `sep`, or everything (`rsplit(sep).next()`). -/
def afterLast (sep : Char) (cs : List Char) : List Char :=
  (cs.reverse.takeWhile fun c => c != sep).reverse

/-- `str::rsplit_once`, at a character. -/
def rsplitOnce (sep : Char) (cs : List Char) : Option (List Char × List Char) :=
  if sep ∈ cs then
    some (((cs.reverse.dropWhile fun c => c != sep).drop 1).reverse, afterLast sep cs)
  else none

/-- `str::parse::<u16>`: digits, after one optional plus sign. -/
def parseU16 (cs : List Char) : Option ℕ :=
  let digits := match cs with
    | '+' :: rest => rest
    | _ => cs
  if digits ≠ [] ∧ digits.all Char.isDigit then
    let n := digits.foldl (fun n c => 10 * n + (c.toNat - '0'.toNat)) 0
    if n < 2 ^ 16 then some n else none
  else none

/-- The port of a broker address. -/
def parsePort (cs : List Char) : Except String ℕ :=
  match parseU16 cs with
  | some port => .ok port
  | none => .error "broker_address port must be a number"

/-- `parse_host_port`: the scheme, the user and the path are dropped. -/
def parseHostPort (brokerAddress : String) : Except String (String × ℕ) :=
  let chars := brokerAddress.toList
  let rest := ((splitOnce "://".toList chars).map Prod.snd).getD chars
  let authority := afterLast '@' (rest.takeWhile fun c => c != '/')
  match authority with
  | [] => .error "broker_address missing host"
  | '[' :: rest =>
    match splitOnce [']'] rest with
    | none => .error "broker_address has invalid IPv6 format"
    | some (host, suffix) =>
      match suffix with
      | ':' :: port => (parsePort port).map fun p => (String.ofList host, p)
      | _ => .error "broker_address missing port"
  | _ =>
    match rsplitOnce ':' authority with
    | none => .error "broker_address missing port"
    | some (host, port) =>
      if host = [] then .error "broker_address missing host"
      else if ':' ∈ host then .error "IPv6 broker_address must use [host]:port format"
      else (parsePort port).map fun p => (String.ofList host, p)

/-! ## Requests and state -/

/-- What is to be announced of a device. -/
inductive MqttPublishRequest where
  | deviceOnline (deviceId connectionId relayAddress : String) (metadata : Metadata)
  | deviceOffline (deviceId connectionId reason : String)
  deriving DecidableEq, Repr

/-- What the worker reads of `MqttConfig`, less what only shapes the connection. -/
structure Config where
  brokerAddress : String
  reconnectInitialSeconds : ℕ
  reconnectMaxSeconds : ℕ
  deriving DecidableEq, Repr

/-- `MQTT_PUBLISH_QUEUE_CAPACITY`, of the channel and of the queue of a session. -/
def queueCapacity : ℕ := 256

/-- `MqttRuntimeState`. -/
structure Runtime where
  connected : Bool := false
  reconnectCount : ℕ := 0
  droppedTotal : ℕ := 0
  queuePending : ℕ := 0
  deriving DecidableEq, Repr

/-- Where the worker goes on after it has counted a request. -/
inductive Resume where
  | looping (pending : List MqttPublishRequest)
  | draining (pending : List MqttPublishRequest)
  | failed
  deriving DecidableEq, Repr

/-- Where the worker stands.  `pending` is the queue of the running session. -/
inductive Worker where
  /-- At the head of the loop over sessions. -/
  | between
  /-- At the head of the loop of a session. -/
  | looping (pending : List MqttPublishRequest)
  /-- Connected, about to publish the snapshot of the online sessions. -/
  | snapshotting (pending : List MqttPublishRequest)
  /-- In `publish_device_event`. -/
  | publishing (request : MqttPublishRequest) (pending : List MqttPublishRequest)
  /-- About to count a request as dropped, and then as no longer pending. -/
  | dropping (next : Resume)
  /-- About to count a request as no longer pending. -/
  | settling (next : Resume)
  /-- The channel is closed; the queue of the session is given up. -/
  | draining (pending : List MqttPublishRequest)
  /-- The session has failed. -/
  | failed
  | sleeping (seconds : ℕ)
  | returned
  deriving DecidableEq, Repr

/-- Where the worker goes on after a publication. -/
def Resume.worker : Resume → Worker
  | .looping pending => .looping pending
  | .draining pending => .draining pending
  | .failed => .failed

/-- The publisher and its worker.  `enqueued` and `refused` are the publish calls whose request is
in the channel, or was not taken by it, and that have not updated their counter; nothing else of
such a call matters.  `made` counts the calls, `handed` lists the requests that the MQTT client has
taken. -/
structure State where
  runtime : Runtime := {}
  channel : List MqttPublishRequest := []
  hasSenders : Bool := true
  enqueued : ℕ := 0
  refused : ℕ := 0
  worker : Worker := .between
  attempt : ℕ := 0
  hasConnectedOnce : Bool := false
  made : ℕ := 0
  handed : List MqttPublishRequest := []
  deriving DecidableEq, Repr

/-! ## Steps -/

/-- What the event loop of the client reports. -/
inductive Poll where
  | connAck
  | other
  | error
  deriving DecidableEq, Repr

/-- A step of the publisher or of its worker. -/
inductive Action where
  /-- A publish call offers its request to the channel. -/
  | offer (request : MqttPublishRequest)
  /-- A publish call whose request was taken counts it. -/
  | countPending
  /-- A publish call whose request was not taken counts it. -/
  | countRefused
  /-- The last publisher handle is dropped. -/
  | close
  | begin
  | flush
  | poll (event : Poll)
  | snapshot (ok : Bool)
  | receive
  | receiveClosed
  | tick (ok : Bool)
  | publish (ok : Bool)
  | drop
  | settle
  | drain
  | backoff
  | wake
  deriving DecidableEq, Repr

/-- `checked_pow2`. -/
def checkedPow2 (attempt : ℕ) : ℕ := if attempt < 64 then 2 ^ attempt else 2 ^ 64 - 1

/-- The seconds to sleep after a failed session. -/
def backoffSeconds (config : Config) (attempt : ℕ) : ℕ :=
  let initial := max 1 config.reconnectInitialSeconds
  let longest := max initial config.reconnectMaxSeconds
  min longest (min (initial * checkedPow2 (min attempt 20)) (2 ^ 64 - 1))

/-- The worker notes whether it is connected. -/
def Runtime.setConnected (r : Runtime) (value : Bool) : Runtime := { r with connected := value }

/-- A request taken from the channel is published at once, or queued; a full queue gives up its
oldest request. -/
def received (connected : Bool) (pending : List MqttPublishRequest)
    (request : MqttPublishRequest) : Worker :=
  if connected ∧ pending = [] then .publishing request []
  else if queueCapacity ≤ pending.length then .dropping (.looping (pending.tail ++ [request]))
  else .looping (pending ++ [request])

/-- The session goes to `select!`: it publishes its queue first while it is connected. -/
def selects (connected : Bool) (pending : List MqttPublishRequest) : Bool :=
  !(connected && !pending.isEmpty)

/-- One step of the publisher or of its worker. -/
def step (config : Config) (s : State) : Action → Option State
  | .offer request =>
    if s.hasSenders then
      if s.channel.length < queueCapacity ∧ s.worker ≠ .returned then
        some { s with
          made := s.made + 1
          channel := s.channel ++ [request]
          enqueued := s.enqueued + 1 }
      else some { s with made := s.made + 1, refused := s.refused + 1 }
    else none
  | .countPending =>
    if 0 < s.enqueued then
      some { s with
        enqueued := s.enqueued - 1
        runtime := { s.runtime with queuePending := s.runtime.queuePending + 1 } }
    else none
  | .countRefused =>
    if 0 < s.refused then
      some { s with
        refused := s.refused - 1
        runtime := { s.runtime with droppedTotal := s.runtime.droppedTotal + 1 } }
    else none
  | .close =>
    if s.hasSenders ∧ s.enqueued = 0 ∧ s.refused = 0 then some { s with hasSenders := false }
    else none
  | .begin =>
    match s.worker with
    | .between =>
      if s.hasSenders then
        match parseHostPort config.brokerAddress with
        | .ok _ => some { s with worker := .looping [] }
        | .error _ => some { s with worker := .failed }
      else
        -- The worker ends and takes the receiver with it.
        some { s with
          worker := .returned
          channel := []
          runtime := s.runtime.setConnected false }
    | _ => none
  | .flush =>
    match s.worker with
    | .looping (request :: pending) =>
      if s.runtime.connected then some { s with worker := .publishing request pending } else none
    | _ => none
  | .poll event =>
    match s.worker with
    | .looping pending =>
      if selects s.runtime.connected pending then
        match event with
        | .connAck =>
          some { s with
            worker := .snapshotting pending
            hasConnectedOnce := true
            runtime := { s.runtime with
              connected := true
              reconnectCount := s.runtime.reconnectCount + if s.hasConnectedOnce then 1 else 0 } }
        | .other => some s
        | .error => some { s with worker := .failed, runtime := s.runtime.setConnected false }
      else none
    | _ => none
  | .snapshot ok =>
    match s.worker with
    | .snapshotting pending => some { s with worker := if ok then .looping pending else .failed }
    | _ => none
  | .receive =>
    match s.worker, s.channel with
    | .looping pending, request :: channel =>
      if selects s.runtime.connected pending then
        some { s with
          channel := channel
          worker := received s.runtime.connected pending request }
      else none
    | _, _ => none
  | .receiveClosed =>
    match s.worker, s.channel with
    | .looping pending, [] =>
      if selects s.runtime.connected pending ∧ s.hasSenders = false then
        some { s with worker := .draining pending }
      else none
    | _, _ => none
  | .tick ok =>
    match s.worker with
    | .looping pending =>
      if selects s.runtime.connected pending then
        if s.runtime.connected = false ∨ ok then some s
        else some { s with worker := .failed, runtime := s.runtime.setConnected false }
      else none
    | _ => none
  | .publish ok =>
    match s.worker with
    | .publishing request pending =>
      if ok then
        some { s with worker := .settling (.looping pending), handed := s.handed ++ [request] }
      else some { s with worker := .settling .failed }
    | _ => none
  | .drop =>
    match s.worker with
    | .dropping next =>
      some { s with
        worker := .settling next
        runtime := { s.runtime with droppedTotal := s.runtime.droppedTotal + 1 } }
    | _ => none
  | .settle =>
    match s.worker with
    | .settling next =>
      some { s with
        worker := next.worker
        runtime := { s.runtime with queuePending := s.runtime.queuePending - 1 } }
    | _ => none
  | .drain =>
    match s.worker with
    | .draining [] =>
      some { s with worker := .between, attempt := 0, runtime := s.runtime.setConnected false }
    | .draining (_ :: pending) => some { s with worker := .dropping (.draining pending) }
    | _ => none
  | .backoff =>
    match s.worker with
    | .failed =>
      some { s with
        worker := .sleeping (backoffSeconds config s.attempt)
        attempt := min (s.attempt + 1) (2 ^ 32 - 1)
        runtime := s.runtime.setConnected false }
    | _ => none
  | .wake =>
    match s.worker with
    | .sleeping _ => some { s with worker := .between }
    | _ => none

end GrpcRelay.Mqtt
