import GrpcRelay.Proto
import GrpcRelay.Lib.DashMap

/-!
# The stream router

`StreamRouter` (`stream.rs`): the mappings of controller streams, indexed by device and by
controller.  A `ControllerTx`, the sending half of a controller's response channel, is the number
of the `ConnectToDevice` loop that owns the channel.
-/

namespace GrpcRelay

/-- The limits of the configuration, and how long a stream may be idle. -/
structure StreamConfig where
  idleTimeoutSeconds : ℕ
  maxActiveStreams : ℕ
  maxConcurrentStreamsPerController : ℕ
  deriving DecidableEq, Repr

/-- The loop that owns the sending half. -/
abbrev ControllerTx : Type := ℕ

/-- A controller stream: what it is bound to, its requests in progress and its last activity. -/
structure StreamMapping where
  streamId : String
  deviceId : String
  controllerId : String
  methodName : String
  createdAt : Instant
  lastActivity : Instant
  activeRequests : ℕ
  controllerTx : ControllerTx
  deriving DecidableEq, Repr

/-- The kinds of errors; `create_mapping` has only the first. -/
inductive StreamRouterErrorKind where
  | maxStreamsExceeded
  | deviceOffline
  | internal
  deriving DecidableEq, Repr

/-- The error of a stream that is not created. -/
structure StreamRouterError where
  kind : StreamRouterErrorKind
  message : String
  deriving DecidableEq, Repr

/-- Manages controller to device stream mappings: by stream id, and the sets of stream ids by device
and by controller. -/
structure StreamRouter where
  counter : ℕ
  mappings : DashMap String StreamMapping
  deviceToStreams : DashMap String (HashSet String)
  controllerToStreams : DashMap String (HashSet String)
  maxActiveStreams : ℕ
  maxConcurrentStreamsPerController : ℕ
  idleTimeout : Duration

namespace StreamRouter

/-- No streams; the first id will be `strm-1`. -/
def new (config : StreamConfig) : StreamRouter where
  counter := 1
  mappings := ∅
  deviceToStreams := ∅
  controllerToStreams := ∅
  maxActiveStreams := config.maxActiveStreams
  maxConcurrentStreamsPerController := config.maxConcurrentStreamsPerController
  idleTimeout := config.idleTimeoutSeconds

/-- `generate_stream_id`: the id and the counter after it. -/
def generateStreamId (r : StreamRouter) : String × StreamRouter :=
  ("strm-" ++ toString r.counter, { r with counter := (r.counter + 1) % UInt64.size })

/-- Remove a stream id from the set of `key`, and the set itself when it becomes empty. -/
def untrack (index : DashMap String (HashSet String)) (key streamId : String) :
    DashMap String (HashSet String) :=
  match index.lookup key with
  | none => index
  | some ids =>
    let ids := ids.erase streamId
    if DashMap.len ids = 0 then index.erase key else index.insert key ids

/-- Add a stream id to the set of `key`, which is created when missing and must otherwise have
fewer than `cap` ids; `.error n` is the size that reached the cap. -/
def track (index : DashMap String (HashSet String)) (key streamId : String) (cap : ℕ) :
    Except ℕ (DashMap String (HashSet String)) :=
  match index.lookup key with
  | some ids =>
    if cap ≤ DashMap.len ids then .error (DashMap.len ids)
    else .ok (index.insert key (ids.insert streamId ()))
  | none => .ok (index.insert key ((∅ : HashSet String).insert streamId ()))

/-- The error when a device or a controller has `current` streams of at most `cap`. -/
def maxStreamsExceeded (what id : String) (current cap : ℕ) : StreamRouterError :=
  ⟨.maxStreamsExceeded, what ++ " " ++ id ++ " has " ++ toString current ++
    " active streams (max: " ++ toString cap ++ ")"⟩

/-- Create a mapping for a new controller stream targeting a device.  A refused call has drawn a
stream id nevertheless. -/
def createMapping (r : StreamRouter) (now : Instant) (deviceId controllerId methodName : String)
    (controllerTx : ControllerTx) : Except StreamRouterError String × StreamRouter :=
  let (streamId, r) := r.generateStreamId
  let mapping : StreamMapping :=
    ⟨streamId, deviceId, controllerId, methodName, now, now, 0, controllerTx⟩
  match track r.deviceToStreams deviceId streamId r.maxActiveStreams with
  | .error current =>
    (.error (maxStreamsExceeded "device" deviceId current r.maxActiveStreams), r)
  | .ok devices =>
    match track r.controllerToStreams controllerId streamId
      r.maxConcurrentStreamsPerController with
    | .error current =>
      -- Roll back the device tracking.
      (.error (maxStreamsExceeded "controller" controllerId current
        r.maxConcurrentStreamsPerController),
        { r with deviceToStreams := untrack devices deviceId streamId })
    | .ok controllers =>
      (.ok streamId,
        { r with
          deviceToStreams := devices
          controllerToStreams := controllers
          mappings := r.mappings.insert streamId mapping })

/-- Remove a specific stream mapping by stream_id. -/
def removeMapping (r : StreamRouter) (streamId : String) : Option StreamMapping × StreamRouter :=
  match r.mappings.lookup streamId with
  | none => (none, r)
  | some mapping =>
    (some mapping,
      { r with
        mappings := r.mappings.erase streamId
        deviceToStreams := untrack r.deviceToStreams mapping.deviceId streamId
        controllerToStreams := untrack r.controllerToStreams mapping.controllerId streamId })

/-- One round of the loop of `remove_all_for_device`. -/
def removeForDevice (acc : List StreamMapping × StreamRouter) (streamId : String) :
    List StreamMapping × StreamRouter :=
  match acc.2.mappings.lookup streamId with
  | none => acc
  | some mapping =>
    (acc.1 ++ [mapping],
      { acc.2 with
        mappings := acc.2.mappings.erase streamId
        controllerToStreams :=
          untrack acc.2.controllerToStreams mapping.controllerId streamId })

/-- The device's set is taken out and its ids are met in some order. -/
def removeInOrder (r : StreamRouter) (deviceId : String) (streamIds : List String) :
    List StreamMapping × StreamRouter :=
  streamIds.foldl removeForDevice
    ([], { r with deviceToStreams := r.deviceToStreams.erase deviceId })

/-- `remove_all_for_device`.  Which order the iteration has does not matter
(`sameContents_removeInOrder`). -/
def removeAllForDevice (r : StreamRouter) (deviceId : String) :
    List StreamMapping × StreamRouter :=
  match r.deviceToStreams.lookup deviceId with
  | none => ([], r)
  | some streamIds => r.removeInOrder deviceId streamIds.keys

/-- Get all active stream mappings for a device. -/
def getMappingsForDevice (r : StreamRouter) (deviceId : String) : List StreamMapping :=
  match r.deviceToStreams.lookup deviceId with
  | none => []
  | some streamIds => streamIds.keys.filterMap fun streamId => r.mappings.lookup streamId

/-- Number of active streams for a given device. -/
def deviceStreamCount (r : StreamRouter) (deviceId : String) : ℕ :=
  ((r.deviceToStreams.lookup deviceId).map DashMap.len).getD 0

/-- Update the last_activity timestamp for a stream. -/
def touchStream (r : StreamRouter) (streamId : String) (now : Instant) : StreamRouter :=
  { r with mappings := DashMap.modify r.mappings streamId fun m => { m with lastActivity := now } }

/-- A request is counted on its stream. -/
def beginRequest (r : StreamRouter) (streamId : String) (now : Instant) : StreamRouter :=
  { r with
    mappings := DashMap.modify r.mappings streamId fun m =>
      { m with lastActivity := now, activeRequests := m.activeRequests + 1 } }

/-- A request is no longer counted; the subtraction saturates. -/
def finishRequest (r : StreamRouter) (streamId : String) (now : Instant) : StreamRouter :=
  { r with
    mappings := DashMap.modify r.mappings streamId fun m =>
      { m with lastActivity := now, activeRequests := m.activeRequests - 1 } }

/-- The scan of `cleanup_stale`: the streams that are idle and were so for `idle_timeout`. -/
def staleStreams (r : StreamRouter) (now : Instant) : List String :=
  r.mappings.entries.filterMap fun entry =>
    if entry.2.activeRequests = 0 ∧
        r.idleTimeout ≤ saturatingDurationSince now entry.2.lastActivity
    then some entry.2.streamId else none

/-- One round of the second loop of `cleanup_stale`. -/
def removeStale (acc : List StreamMapping × StreamRouter) (streamId : String) :
    List StreamMapping × StreamRouter :=
  match acc.2.removeMapping streamId with
  | (some mapping, r) => (acc.1 ++ [mapping], r)
  | (none, r) => (acc.1, r)

/-- Remove streams that have been idle beyond the configured timeout. -/
def cleanupStale (r : StreamRouter) (now : Instant) : List StreamMapping × StreamRouter :=
  (r.staleStreams now).foldl removeStale ([], r)

/-- Total active streams across all devices. -/
def totalActiveStreams (r : StreamRouter) : ℕ := DashMap.len r.mappings

end StreamRouter

end GrpcRelay
