import Mathlib.Data.Rat.Defs
import Mathlib.Algebra.Order.Ring.Unbundled.Rat

/-!
# Messages

The messages of `relay.proto` that the relay's streams exchange, and the constructors of
responses and relay messages that `state.rs` and `grpc_service.rs` share.

Byte strings are lists of bytes.  An `int64` sequence number and an `int32` error field are
integers: the code compares them and copies them, and never computes with them.  Times are exact
rational numbers of seconds.
-/

namespace GrpcRelay

/-- A reading of the monotonic clock, in seconds. -/
abbrev Instant : Type := ℚ

/-- A length of time, in seconds. -/
abbrev Duration : Type := ℚ

/-- `Instant::saturating_duration_since`. -/
def saturatingDurationSince (now earlier : Instant) : Duration := max 0 (now - earlier)

/-- A payload, encrypted end to end: the relay does not read it. -/
abbrev Bytes : Type := List UInt8

/-- The string map of a registration. -/
abbrev Metadata : Type := List (String × String)

/-- The error codes of the protocol. -/
inductive ErrorCode where
  | ok
  | deviceOffline
  | unauthorized
  | deviceNotFound
  | rateLimited
  | internalError
  deriving DecidableEq, Repr

/-- The wire value of an error code (`err as i32`). -/
def ErrorCode.toInt : ErrorCode → ℤ
  | .ok => 0
  | .deviceOffline => 1
  | .unauthorized => 2
  | .deviceNotFound => 3
  | .rateLimited => 4
  | .internalError => 5

/-- The registration of a device; `previousConnectionId` is empty or that of a session to resume. -/
structure RegisterRequest where
  deviceId : String
  metadata : Metadata
  previousConnectionId : String
  deriving DecidableEq, Repr

/-- The device's answer to a `DataRequest`. -/
structure DataResponse where
  connectionId : String
  sequenceNumber : ℤ
  encryptedPayload : Bytes
  error : ℤ
  deriving DecidableEq, Repr

/-- The payload of a device message.  The fields of a heartbeat are not read. -/
inductive DevicePayload where
  | register (request : RegisterRequest)
  | heartbeat
  | data (response : DataResponse)
  deriving DecidableEq, Repr

/-- A message on a device stream. -/
structure DeviceMessage where
  deviceId : String
  token : String
  payload : Option DevicePayload
  deriving DecidableEq, Repr

/-- A controller's request, as a device gets it. -/
structure DataRequest where
  connectionId : String
  sequenceNumber : ℤ
  encryptedPayload : Bytes
  deriving DecidableEq, Repr

/-- The payload of a relay message that is not a `DataRequest`; its timestamps are always zero. -/
inductive RelayMessage where
  | registerResponse (connectionId : String) (sessionResumed : Bool)
  | heartbeatResponse
  deriving DecidableEq, Repr

/-- A message on a controller stream. -/
structure ControllerMessage where
  controllerId : String
  token : String
  targetDeviceId : String
  methodName : String
  sequenceNumber : ℤ
  encryptedPayload : Bytes
  deriving DecidableEq, Repr

/-- The response to a controller's message. -/
structure DeviceResponse where
  deviceId : String
  sequenceNumber : ℤ
  encryptedPayload : Bytes
  error : ℤ
  deriving DecidableEq, Repr

/-- What names a request in the in-flight table and in the idempotency cache. -/
abbrev RequestKey : Type := String × ℤ

/-- The key of a controller's request. -/
def ControllerMessage.key (m : ControllerMessage) : RequestKey :=
  (m.targetDeviceId, m.sequenceNumber)

/-- What a controller stream is bound to: device, controller and method. -/
def ControllerMessage.binding (m : ControllerMessage) : String × String × String :=
  (m.targetDeviceId, m.controllerId, m.methodName)

/-- The request a response says it answers. -/
def DeviceResponse.key (r : DeviceResponse) : RequestKey := (r.deviceId, r.sequenceNumber)

/-- Convenience error response. -/
def errorResp (deviceId : String) (seq : ℤ) (err : ErrorCode) : DeviceResponse where
  deviceId := deviceId
  sequenceNumber := seq
  encryptedPayload := []
  error := err.toInt

/-- What a `DataResponse` becomes for the controller. -/
def deviceResponseFromDeviceData (deviceId : String) (seq : ℤ) (encryptedPayload : Bytes)
    (error : ℤ) : DeviceResponse where
  deviceId := deviceId
  sequenceNumber := seq
  encryptedPayload := encryptedPayload
  error := error

/-- The payload of the message that carries a request to a device. -/
def relayMessageDataRequest (connectionId : String) (sequenceNumber : ℤ)
    (encryptedPayload : Bytes) : DataRequest where
  connectionId := connectionId
  sequenceNumber := sequenceNumber
  encryptedPayload := encryptedPayload

/-- Where a response comes from.  `device n` says that it was built from the `Data` message that
is event number `n` of the run; no step of the program reads an origin. -/
inductive Origin where
  | relay
  | device (event : ℕ)
  deriving DecidableEq, Repr

/-- A response on its way to a controller, with its origin. -/
structure Reply where
  resp : DeviceResponse
  origin : Origin
  deriving DecidableEq, Repr

/-- A response that the relay makes up itself. -/
def Reply.ofRelay (resp : DeviceResponse) : Reply := ⟨resp, .relay⟩

end GrpcRelay
