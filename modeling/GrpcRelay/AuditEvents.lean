import GrpcRelay.Lib.Json
import Mathlib.Data.Nat.Notation

/-!
# Audit events

`AuditEvent` (`audit.rs`): the events, the text that `serde_json` gives them, and a reader that
finds the fields of an event by their names.

The variants share their first two fields, which are those of `AuditEvent` here; `AuditRecord` has
the variants with the others.  A latency is given by the literal that it is written as.
-/

namespace GrpcRelay.Audit

open Json

/-- What an audit event records. -/
inductive AuditRecord where
  | deviceConnect (deviceId connectionId sourceIp : String) (metadata : Option Json.Value)
  | deviceDisconnect (deviceId connectionId reason sourceIp : String)
  | deviceRegister (deviceId connectionId : String) (previousConnectionId : Option String)
      (sessionResumed : Bool) (sourceIp : String)
  | controllerConnect (controllerId sourceIp : String) (userAgent : Option String)
  | controllerDisconnect (controllerId : String)
  | controllerRequest (controllerId deviceId connectionId methodName : String)
      (sequenceNumber : ℤ) (result : String) (errorCode : Option String)
      (latencyMs : Option Json.Number) (bytesTransferred : Option ℕ) (sourceIp : String)
      (userAgent : Option String) (metadata : Option Json.Value)
  | streamCreated (streamId deviceId controllerId methodName sourceIp : String)
  | streamClosed (streamId deviceId controllerId reason : String) (bytesTransferred : Option ℕ)
  | authFailure (entityType entityId reason sourceIp : String) (tokenPrefix : Option String)
  | authSuccess (entityType entityId sourceIp : String)
  | authorizationDenied (controllerId deviceId methodName reason sourceIp : String)
  | rateLimit (entityType entityId limitKind sourceIp : String)
  | sessionResumed (deviceId oldConnectionId newConnectionId sourceIp : String)
  | sessionExpired (deviceId connectionId sourceIp : String)
  | error (message errorCode : String) (context : Option Json.Value)

/-- An audit event: its record, with the time and the relay. -/
structure AuditEvent where
  timestamp : String
  relayId : String
  record : AuditRecord

/-! ## Texts -/

namespace AuditRecord

/-- The tag of a variant. -/
def eventType : AuditRecord → String
  | .deviceConnect .. => "device_connect"
  | .deviceDisconnect .. => "device_disconnect"
  | .deviceRegister .. => "device_register"
  | .controllerConnect .. => "controller_connect"
  | .controllerDisconnect .. => "controller_disconnect"
  | .controllerRequest .. => "controller_request"
  | .streamCreated .. => "stream_created"
  | .streamClosed .. => "stream_closed"
  | .authFailure .. => "auth_failure"
  | .authSuccess .. => "auth_success"
  | .authorizationDenied .. => "authorization_denied"
  | .rateLimit .. => "rate_limit"
  | .sessionResumed .. => "session_resumed"
  | .sessionExpired .. => "session_expired"
  | .error .. => "error"

end AuditRecord

/-- The fields of a variant, in the order of the source. -/
def AuditRecord.members : AuditRecord → Members
  | .deviceConnect deviceId connectionId sourceIp metadata =>
    field "device_id" (.string deviceId) <| field "connection_id" (.string connectionId) <|
    field "source_ip" (.string sourceIp) <| skippable "metadata" id metadata []
  | .deviceDisconnect deviceId connectionId reason sourceIp =>
    field "device_id" (.string deviceId) <| field "connection_id" (.string connectionId) <|
    field "reason" (.string reason) <| field "source_ip" (.string sourceIp) []
  | .deviceRegister deviceId connectionId previousConnectionId resumed sourceIp =>
    field "device_id" (.string deviceId) <| field "connection_id" (.string connectionId) <|
    skippable "previous_connection_id" .string previousConnectionId <|
    field "session_resumed" (.bool resumed) <| field "source_ip" (.string sourceIp) []
  | .controllerConnect controllerId sourceIp userAgent =>
    field "controller_id" (.string controllerId) <| field "source_ip" (.string sourceIp) <|
    skippable "user_agent" .string userAgent []
  | .controllerDisconnect controllerId => field "controller_id" (.string controllerId) []
  | .controllerRequest controllerId deviceId connectionId methodName sequenceNumber result errorCode
      latencyMs bytesTransferred sourceIp userAgent metadata =>
    field "controller_id" (.string controllerId) <| field "device_id" (.string deviceId) <|
    field "connection_id" (.string connectionId) <| field "method_name" (.string methodName) <|
    field "sequence_number" (integer sequenceNumber) <| field "result" (.string result) <|
    skippable "error_code" .string errorCode <| skippable "latency_ms" .number latencyMs <|
    skippable "bytes_transferred" natural bytesTransferred <|
    field "source_ip" (.string sourceIp) <| skippable "user_agent" .string userAgent <|
    skippable "metadata" id metadata []
  | .streamCreated streamId deviceId controllerId methodName sourceIp =>
    field "stream_id" (.string streamId) <| field "device_id" (.string deviceId) <|
    field "controller_id" (.string controllerId) <| field "method_name" (.string methodName) <|
    field "source_ip" (.string sourceIp) []
  | .streamClosed streamId deviceId controllerId reason bytesTransferred =>
    field "stream_id" (.string streamId) <| field "device_id" (.string deviceId) <|
    field "controller_id" (.string controllerId) <| field "reason" (.string reason) <|
    skippable "bytes_transferred" natural bytesTransferred []
  | .authFailure entityType entityId reason sourceIp tokenPrefix =>
    field "entity_type" (.string entityType) <| field "entity_id" (.string entityId) <|
    field "reason" (.string reason) <| field "source_ip" (.string sourceIp) <|
    skippable "token_prefix" .string tokenPrefix []
  | .authSuccess entityType entityId sourceIp =>
    field "entity_type" (.string entityType) <| field "entity_id" (.string entityId) <|
    field "source_ip" (.string sourceIp) []
  | .authorizationDenied controllerId deviceId methodName reason sourceIp =>
    field "controller_id" (.string controllerId) <| field "device_id" (.string deviceId) <|
    field "method_name" (.string methodName) <| field "reason" (.string reason) <|
    field "source_ip" (.string sourceIp) []
  | .rateLimit entityType entityId limitKind sourceIp =>
    field "entity_type" (.string entityType) <| field "entity_id" (.string entityId) <|
    field "limit_kind" (.string limitKind) <| field "source_ip" (.string sourceIp) []
  | .sessionResumed deviceId oldConnectionId newConnectionId sourceIp =>
    field "device_id" (.string deviceId) <|
    field "old_connection_id" (.string oldConnectionId) <|
    field "new_connection_id" (.string newConnectionId) <| field "source_ip" (.string sourceIp) []
  | .sessionExpired deviceId connectionId sourceIp =>
    field "device_id" (.string deviceId) <| field "connection_id" (.string connectionId) <|
    field "source_ip" (.string sourceIp) []
  | .error message errorCode context =>
    field "message" (.string message) <| field "error_code" (.string errorCode) <|
    skippable "context" id context []

namespace AuditEvent

/-- The members of the object that an event is written as. -/
def members (e : AuditEvent) : Members :=
  field "event_type" (.string e.record.eventType) <| field "timestamp" (.string e.timestamp) <|
  field "relay_id" (.string e.relayId) e.record.members

/-- `serde_json::to_string` of an event. -/
def line (e : AuditEvent) : String := String.ofList (Json.render (.object e.members))

end AuditEvent

/-! ## The reader -/

/-- The record of a tag with the given members. -/
def readRecord (tag : String) (ms : Members) : Option AuditRecord :=
  if tag = "device_connect" then do
    return .deviceConnect (← text "device_id" ms) (← text "connection_id" ms)
      (← text "source_ip" ms) (← maybe some "metadata" ms)
  else if tag = "device_disconnect" then do
    return .deviceDisconnect (← text "device_id" ms) (← text "connection_id" ms)
      (← text "reason" ms) (← text "source_ip" ms)
  else if tag = "device_register" then do
    return .deviceRegister (← text "device_id" ms) (← text "connection_id" ms)
      (← maybe readString "previous_connection_id" ms)
      (← required readBool "session_resumed" ms) (← text "source_ip" ms)
  else if tag = "controller_connect" then do
    return .controllerConnect (← text "controller_id" ms) (← text "source_ip" ms)
      (← maybe readString "user_agent" ms)
  else if tag = "controller_disconnect" then do
    return .controllerDisconnect (← text "controller_id" ms)
  else if tag = "controller_request" then do
    return .controllerRequest (← text "controller_id" ms) (← text "device_id" ms)
      (← text "connection_id" ms) (← text "method_name" ms)
      (← required readInteger "sequence_number" ms) (← text "result" ms)
      (← maybe readString "error_code" ms) (← maybe readNumber "latency_ms" ms)
      (← maybe readNatural "bytes_transferred" ms) (← text "source_ip" ms)
      (← maybe readString "user_agent" ms) (← maybe some "metadata" ms)
  else if tag = "stream_created" then do
    return .streamCreated (← text "stream_id" ms) (← text "device_id" ms)
      (← text "controller_id" ms) (← text "method_name" ms) (← text "source_ip" ms)
  else if tag = "stream_closed" then do
    return .streamClosed (← text "stream_id" ms) (← text "device_id" ms)
      (← text "controller_id" ms) (← text "reason" ms)
      (← maybe readNatural "bytes_transferred" ms)
  else if tag = "auth_failure" then do
    return .authFailure (← text "entity_type" ms) (← text "entity_id" ms)
      (← text "reason" ms) (← text "source_ip" ms) (← maybe readString "token_prefix" ms)
  else if tag = "auth_success" then do
    return .authSuccess (← text "entity_type" ms) (← text "entity_id" ms)
      (← text "source_ip" ms)
  else if tag = "authorization_denied" then do
    return .authorizationDenied (← text "controller_id" ms) (← text "device_id" ms)
      (← text "method_name" ms) (← text "reason" ms) (← text "source_ip" ms)
  else if tag = "rate_limit" then do
    return .rateLimit (← text "entity_type" ms) (← text "entity_id" ms)
      (← text "limit_kind" ms) (← text "source_ip" ms)
  else if tag = "session_resumed" then do
    return .sessionResumed (← text "device_id" ms) (← text "old_connection_id" ms)
      (← text "new_connection_id" ms) (← text "source_ip" ms)
  else if tag = "session_expired" then do
    return .sessionExpired (← text "device_id" ms) (← text "connection_id" ms)
      (← text "source_ip" ms)
  else if tag = "error" then do
    return .error (← text "message" ms) (← text "error_code" ms) (← maybe some "context" ms)
  else none

/-- The event that an object stands for. -/
def readEvent : Json.Value → Option AuditEvent
  | .object ms => do
    return ⟨← text "timestamp" ms, ← text "relay_id" ms,
      ← readRecord (← text "event_type" ms) ms⟩
  | _ => none

/-- The event of a line. -/
def readLine (cs : List Char) : Option AuditEvent := (Json.parse cs).bind readEvent

/-- The events of a file, given by its text. -/
def readFile (cs : List Char) : Option (List AuditEvent) := (Json.splitLines cs).mapM readLine

/-! ## What was written is read -/

/-- Among the members of an event, the reader finds its record. -/
theorem readRecord_members (r : AuditRecord) (timestamp relayId : String) :
    readRecord r.eventType (AuditEvent.members ⟨timestamp, relayId, r⟩) = some r := by
  have strings := @optionally_map _ readString .string fun _ => rfl
  have numbers := @optionally_map _ readNumber .number fun _ => rfl
  have naturals := optionally_map readNatural_natural
  have values := @optionally_map _ some id fun _ => rfl
  cases r <;>
    simp only [AuditRecord.eventType, readRecord, String.reduceEq, ↓reduceIte, text, required,
      maybe, AuditEvent.members, AuditRecord.members, lookup_field, lookup_skippable, lookup_nil,
      Option.or_none, Option.bind_some, readString, readBool, readInteger_integer,
      Option.bind_eq_bind, Option.pure_def, strings, numbers, naturals, values]

theorem readEvent_members (e : AuditEvent) : readEvent (.object e.members) = some e := by
  have record := readRecord_members e.record e.timestamp e.relayId
  have tag : text "event_type" e.members = some e.record.eventType := by
    simp [text, required, AuditEvent.members, readString]
  have timestamp : text "timestamp" e.members = some e.timestamp := by
    simp [text, required, AuditEvent.members, readString]
  have relayId : text "relay_id" e.members = some e.relayId := by
    simp [text, required, AuditEvent.members, readString]
  simp only [readEvent, tag, timestamp, relayId, Option.bind_eq_bind, Option.bind_some]
  rw [record]
  rfl

/-- Every event can be read from its line, whatever its texts contain. -/
theorem readLine_line (e : AuditEvent) : readLine e.line.toList = some e := by
  rw [readLine, AuditEvent.line, String.toList_ofList, Json.parse_render, Option.bind_some,
    readEvent_members]

theorem notMem_line (e : AuditEvent) : '\n' ∉ e.line.toList := by
  rw [AuditEvent.line, String.toList_ofList]
  exact Json.notMem_render _

theorem mapM_readLine (events : List AuditEvent) :
    (events.map fun e => e.line.toList).mapM readLine = some events := by
  induction events with
  | nil => rfl
  | cons e events ih =>
    rw [List.map_cons, List.mapM_cons, readLine_line, ih]
    rfl

/-- The text of a file with the given lines. -/
def fileText (lines : List String) : List Char := Json.unlines (lines.map String.toList)

/-- A file of events gives back its events. -/
theorem readFile_fileText (events : List AuditEvent) :
    readFile (fileText (events.map AuditEvent.line)) = some events := by
  rw [readFile, fileText, Json.splitLines_unlines]
  · rw [List.map_map]
    exact mapM_readLine events
  · simp [notMem_line]

end GrpcRelay.Audit
