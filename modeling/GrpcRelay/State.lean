import GrpcRelay.Proto
import GrpcRelay.Lib.SingleFlight

/-!
# Sessions, requests in flight and the idempotency cache

`RelayState` (`state.rs`) and `IdempotencyCache` (`idempotency.rs`).  A device's outbound channel
is named by the number of the device stream that reads it.

An `Arc<InFlight>` is a pointer into the heap of a `SingleFlight.Table`, whose cells carry the
`device_id` of the entry as their tag; its one-shot channels carry the replies.
-/

namespace GrpcRelay

/-- The session of a device: its connection id, and the stream to send its requests to. -/
structure DeviceSession where
  deviceId : String
  connectionId : String
  metadata : Metadata
  outboundTx : ℕ
  deriving DecidableEq, Repr

/-- The in-flight table: entries by device and sequence number, and their waiters. -/
abbrev InflightTable : Type := SingleFlight.Table RequestKey String Reply

/-- What the operations on the in-flight table did. -/
abbrev InflightOutcome : Type := SingleFlight.Outcome RequestKey Reply

/-- Relay in-memory state: the sessions, the owners of the connection ids, the requests in flight,
when devices were last seen, and two counters. -/
structure RelayState where
  sessionsByDeviceId : DashMap String DeviceSession
  connectionToDeviceId : DashMap String String
  inflightBySequence : InflightTable
  deviceLastSeen : DashMap String Instant
  connectionIdCounter : ℕ
  controllerConnectionCount : ℕ

namespace RelayState

/-- Nothing is connected; the first connection id will be `conn-1`. -/
def new : RelayState where
  sessionsByDeviceId := ∅
  connectionToDeviceId := ∅
  inflightBySequence := .empty
  deviceLastSeen := ∅
  connectionIdCounter := 1
  controllerConnectionCount := 0

/-- `next_connection_id`: the id and the counter after it. -/
def nextConnectionId (st : RelayState) : String × RelayState :=
  ("conn-" ++ toString st.connectionIdCounter,
    { st with connectionIdCounter := (st.connectionIdCounter + 1) % UInt64.size })

/-- The entry and the receiver joined, and whether the caller is to forward the request. -/
def ensureInflightWaiter (st : RelayState) (sequenceNumber : ℤ) (deviceId : String) :
    RelayState × ℕ × ℕ × Bool :=
  let (table, entry, rx, isNewForwarder) :=
    st.inflightBySequence.join (deviceId, sequenceNumber) deviceId
  ({ st with inflightBySequence := table }, entry, rx, isNewForwarder)

/-- Remove the entry of a request, for the caller to complete it. -/
def takeInflight (st : RelayState) (deviceId : String) (sequenceNumber : ℤ) :
    RelayState × Option ℕ :=
  let (table, entry) := st.inflightBySequence.take (deviceId, sequenceNumber)
  ({ st with inflightBySequence := table }, entry)

theorem takeInflight_of_none {st : RelayState} {d : String} {q : ℤ}
    (h : (st.takeInflight d q).2 = none) : st.takeInflight d q = (st, none) := by
  have absent := SingleFlight.Table.take_eq_none h
  simp [takeInflight, SingleFlight.Table.take, absent]

/-- `InFlight::complete` of the entry at pointer `entry`. -/
def complete (st : RelayState) (entry : ℕ) (resp : Reply) : RelayState :=
  { st with inflightBySequence := st.inflightBySequence.complete entry resp }

/-- The `device_id` stored in the entry at pointer `entry`. -/
def inflightDeviceId (st : RelayState) (entry : ℕ) : Option String :=
  (st.inflightBySequence.cell entry).map (·.tag)

/-- The keys that the scan of `take_inflight_for_device` collects. -/
def inflightKeysForDevice (st : RelayState) (deviceId : String) : List RequestKey :=
  st.inflightBySequence.entries.entries.filterMap fun entry =>
    if st.inflightDeviceId entry.2 = some deviceId then some entry.1 else none

/-- One round of the second loop of `take_inflight_for_device`. -/
def takeInflightOne (acc : List (ℤ × ℕ) × RelayState) (key : RequestKey) :
    List (ℤ × ℕ) × RelayState :=
  match acc.2.takeInflight key.1 key.2 with
  | (st, some entry) => (acc.1 ++ [(key.2, entry)], st)
  | (st, none) => (acc.1, st)

/-- Remove the entries of a device's requests, with their sequence numbers. -/
def takeInflightForDevice (st : RelayState) (deviceId : String) : List (ℤ × ℕ) × RelayState :=
  (st.inflightKeysForDevice deviceId).foldl takeInflightOne ([], st)

/-- The device that a connection id was given to. -/
def deviceIdForConnection (st : RelayState) (connectionId : String) : Option String :=
  st.connectionToDeviceId.lookup connectionId

/-- The connection id is that of the device's session. -/
def hasActiveDeviceConnection (st : RelayState) (deviceId connectionId : String) : Bool :=
  match st.sessionsByDeviceId.lookup deviceId with
  | some session => session.connectionId == connectionId
  | none => false

/-- The device has just been heard of. -/
def touchDevice (st : RelayState) (deviceId : String) (now : Instant) : RelayState :=
  { st with deviceLastSeen := st.deviceLastSeen.insert deviceId now }

/-- Remove the session of a device, its connection id and when it was last seen. -/
def removeDeviceSession (st : RelayState) (deviceId : String) : RelayState :=
  match st.sessionsByDeviceId.lookup deviceId with
  | none => st
  | some session =>
    { st with
      sessionsByDeviceId := st.sessionsByDeviceId.erase deviceId
      connectionToDeviceId := st.connectionToDeviceId.erase session.connectionId
      deviceLastSeen := st.deviceLastSeen.erase deviceId }

/-- One more loop has a controller; the counter wraps around. -/
def incrementControllerConnections (st : RelayState) : RelayState :=
  { st with controllerConnectionCount := (st.controllerConnectionCount + 1) % UInt64.size }

/-- One loop less has a controller; the subtraction saturates. -/
def decrementControllerConnections (st : RelayState) : RelayState :=
  { st with controllerConnectionCount := st.controllerConnectionCount - 1 }

end RelayState

/-- The idempotency cache.  Its bounds (capacity and time to live) act only by dropping entries,
which the system does in steps of its own. -/
abbrev IdempotencyCache : Type := DashMap RequestKey Reply

end GrpcRelay
