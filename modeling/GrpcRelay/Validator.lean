import GrpcRelay.Proto

/-!
# Validation of controller messages

`validate_controller_message` and its five checks (`validator.rs`).
-/

namespace GrpcRelay

/-- `char::is_whitespace`: the Unicode property `White_Space`. -/
def isWhitespace (c : Char) : Bool :=
  let n := c.toNat
  (0x9 ≤ n && n ≤ 0xd) || n == 0x20 || n == 0x85 || n == 0xa0 || n == 0x1680 ||
    (0x2000 ≤ n && n ≤ 0x200a) || n == 0x2028 || n == 0x2029 || n == 0x202f || n == 0x205f ||
    n == 0x3000

/-- `s.trim().is_empty()`. -/
def trimIsEmpty (s : String) : Bool := s.toList.all isWhitespace

/-- `MAX_PAYLOAD_BYTES`: ten MiB. -/
def maxPayloadBytes : ℕ := 10 * 1024 * 1024

/-- `MAX_ID_LENGTH`, in bytes. -/
def maxIdLength : ℕ := 64

/-- The error code and the text that a refused message is answered with. -/
structure ValidationError where
  code : ErrorCode
  message : String
  deriving DecidableEq, Repr

/-- The check shared by controller and device ids: not blank, and at most `maxIdLength` bytes. -/
def validateId (field : String) (code : ErrorCode) (id : String) : Except ValidationError Unit :=
  if trimIsEmpty id then .error ⟨code, field ++ " must not be empty"⟩
  else if maxIdLength < id.utf8ByteSize then .error ⟨code, field ++ " too long (max 64 chars)"⟩
  else .ok ()

/-- `validate_controller_id`. -/
def validateControllerId (id : String) : Except ValidationError Unit :=
  validateId "controller_id" .unauthorized id

/-- `validate_device_id`. -/
def validateDeviceId (id : String) : Except ValidationError Unit :=
  validateId "target_device_id" .deviceNotFound id

/-- A method name is not blank and has ASCII letters, digits, `_`, `.` and `/` only. -/
def validateMethodName (name : String) : Except ValidationError Unit :=
  if trimIsEmpty name then .error ⟨.internalError, "method_name must not be empty"⟩
  else if name.toList.all fun c => c.isAlphanum || c == '_' || c == '.' || c == '/' then .ok ()
  else .error ⟨.internalError, "method_name contains invalid characters"⟩

/-- A payload has at most `maxPayloadBytes` bytes. -/
def validatePayloadSize (size : ℕ) : Except ValidationError Unit :=
  if maxPayloadBytes < size then
    .error ⟨.internalError, "payload exceeds maximum size of 10485760 bytes"⟩
  else .ok ()

/-- Sequence numbers start at one. -/
def validateSequenceNumber (seq : ℤ) : Except ValidationError Unit :=
  if seq ≤ 0 then .error ⟨.internalError, "sequence_number must be positive"⟩ else .ok ()

/-- The checks in the order of the source; the first that fails decides the error. -/
def validateControllerMessage (m : ControllerMessage) : Except ValidationError Unit := do
  validateControllerId m.controllerId
  validateDeviceId m.targetDeviceId
  validateMethodName m.methodName
  validatePayloadSize m.encryptedPayload.length
  validateSequenceNumber m.sequenceNumber

end GrpcRelay
