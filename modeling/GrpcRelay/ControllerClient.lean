import GrpcRelay.Proto
import GrpcRelay.Lib.DashMap
import GrpcRelay.Lib.Runs
import Mathlib.Logic.Function.Basic

/-!
# The controller client

`ControllerConnectSession` of the controller SDK (`connect.rs`) with its table of pending requests
(`session.rs`), as a system of any number of `send_request` calls and the task that dispatches the
responses of the session's stream.

A step runs from one access to shared data to the next.  The mutex of the table is held for one
access at a time, so each access is one step; the oneshot channel of a call is named by the call.
-/

namespace GrpcRelay.ControllerSdk

/-- The errors that a `send_request` call returns. -/
inductive ControllerSdkError where
  | payloadTooLarge
  | streamClosed
  | sequenceResponseNotFound
  | deviceOffline
  | unauthorized
  | deviceNotFound
  | rateLimited
  | internalError
  deriving DecidableEq, Repr

/-- What a call returns. -/
abbrev SequenceResult : Type := Except ControllerSdkError Bytes

/-- `ErrorCode::try_from`. -/
def errorCodeOfInt (error : ℤ) : Option ErrorCode :=
  [ErrorCode.ok, .deviceOffline, .unauthorized, .deviceNotFound, .rateLimited,
    .internalError].find? fun code => code.toInt = error

/-- `map_device_response_to_sequence_result`: the payload, or the error that the code stands for. -/
def mapDeviceResponseToSequenceResult (response : DeviceResponse) : SequenceResult :=
  match errorCodeOfInt response.error with
  | some .ok => .ok response.encryptedPayload
  | some .deviceOffline => .error .deviceOffline
  | some .unauthorized => .error .unauthorized
  | some .deviceNotFound => .error .deviceNotFound
  | some .rateLimited => .error .rateLimited
  | some .internalError => .error .internalError
  | none => .error .streamClosed

/-- What a session is opened with (`ConnectToDeviceOptions`, less the endpoint). -/
structure Options where
  controllerId : String
  token : String
  targetDeviceId : String
  maxPayloadBytes : ℕ
  deriving DecidableEq, Repr

/-- The arguments of a `send_request` call.  Its timeout is a step that may come at any time. -/
structure Request where
  methodName : String
  sequenceNumber : ℤ
  encryptedPayload : Bytes
  deriving DecidableEq, Repr

/-- The message of a request, with the ids and the token of the session. -/
def Options.message (opts : Options) (request : Request) : ControllerMessage where
  controllerId := opts.controllerId
  token := opts.token
  targetDeviceId := opts.targetDeviceId
  methodName := request.methodName
  sequenceNumber := request.sequenceNumber
  encryptedPayload := request.encryptedPayload

/-- A `send_request` call, and the oneshot channel that it makes. -/
abbrev CallId : Type := ℕ

/-- A oneshot channel as its receiver finds it. -/
inductive Channel where
  | empty
  | holding (result : SequenceResult)
  | closed
  deriving DecidableEq, Repr

/-- The sender is dropped. -/
def Channel.drop : Channel → Channel
  | .empty => .closed
  | c => c

/-- The sender sends, which uses it up. -/
def Channel.send (result : SequenceResult) : Channel → Channel
  | .empty => .holding result
  | c => c

/-- Where a `send_request` call stands. -/
inductive CallPc where
  | idle
  | inserting (request : Request)
  | dropping (request : Request) (previous : CallId)
  | sending (request : Request)
  | waiting (request : Request)
  | removing (request : Request) (error : ControllerSdkError)
  | done (result : SequenceResult)
  deriving DecidableEq, Repr

/-- Where the dispatch task stands: it waits for a response, or has taken a sender out of the table
for one. -/
inductive Dispatcher where
  | reading
  | completing (call : CallId) (result : SequenceResult)
  | stopped
  deriving DecidableEq, Repr

/-- What has happened to the requests of a session. -/
inductive Event where
  | inserted (call : CallId) (sequenceNumber : ℤ)
  | sent (call : CallId) (message : ControllerMessage)
  | arrived (response : DeviceResponse)
  | removed (call : CallId) (sequenceNumber : ℤ)
  deriving DecidableEq, Repr

/-- The state of a session.  `outboundTx` is the call that holds the lock of the outbound sender
across a removal; the log has the newest event first. -/
structure State where
  pending : DashMap ℤ CallId := ∅
  channels : CallId → Channel := fun _ => .empty
  calls : CallId → CallPc := fun _ => .idle
  dispatcher : Dispatcher := .reading
  outboundTx : Option CallId := none
  log : List Event := []

namespace State

variable (σ : State)

/-- A call goes on. -/
def goto (i : CallId) (pc : CallPc) : State := { σ with calls := Function.update σ.calls i pc }

/-- Drop a sender, if there is one. -/
def dropSender (sender : Option CallId) : State :=
  { σ with
    channels := match sender with
      | none => σ.channels
      | some i => Function.update σ.channels i (σ.channels i).drop }

/-- `PendingRequests::insert`, up to the drop of the sender that it replaces. -/
def insert (i : CallId) (request : Request) : State :=
  { (σ.goto i (match σ.pending.lookup request.sequenceNumber with
      | none => .sending request
      | some previous => .dropping request previous)) with
    pending := σ.pending.insert request.sequenceNumber i
    log := .inserted i request.sequenceNumber :: σ.log }

/-- `PendingRequests::remove`: the sender under the number, whose ever it is, is dropped. -/
def remove (i : CallId) (s : ℤ) : State :=
  { σ.dropSender (σ.pending.lookup s) with
    pending := σ.pending.erase s
    log := .removed i s :: σ.log }

/-- The first half of `PendingRequests::complete`. -/
def take (response : DeviceResponse) : State :=
  { σ with
    pending := σ.pending.erase response.sequenceNumber
    dispatcher := match σ.pending.lookup response.sequenceNumber with
      | none => .reading
      | some i => .completing i (mapDeviceResponseToSequenceResult response)
    log := .arrived response :: σ.log }

end State

/-- A step: of a call, or of the dispatch task. -/
inductive Action where
  | call (i : CallId) (request : Request)
  | insert (i : CallId)
  | dropPrevious (i : CallId)
  | send (i : CallId) (accepted : Bool)
  | receive (i : CallId)
  | timeout (i : CallId)
  | remove (i : CallId)
  | arrive (response : DeviceResponse)
  | complete
  | stop
  deriving DecidableEq, Repr

/-- One step of a call, of the session or of the response stream. -/
def step (opts : Options) (σ : State) : Action → Option State
  | .call i request =>
    match σ.calls i with
    | .idle =>
      if 0 < opts.maxPayloadBytes ∧ opts.maxPayloadBytes < request.encryptedPayload.length then
        some (σ.goto i (.done (.error .payloadTooLarge)))
      else some (σ.goto i (.inserting request))
    | _ => none
  | .insert i =>
    match σ.calls i with
    | .inserting request => some (σ.insert i request)
    | _ => none
  | .dropPrevious i =>
    match σ.calls i with
    | .dropping request previous => some ((σ.dropSender (some previous)).goto i (.sending request))
    | _ => none
  | .send i accepted =>
    match σ.calls i, σ.outboundTx with
    | .sending request, none =>
      if accepted then
        some { (σ.goto i (.waiting request)) with log := .sent i (opts.message request) :: σ.log }
      else some { (σ.goto i (.removing request .streamClosed)) with outboundTx := some i }
    | _, _ => none
  | .receive i =>
    match σ.calls i, σ.channels i with
    | .waiting _, .holding result => some (σ.goto i (.done result))
    | .waiting request, .closed => some (σ.goto i (.removing request .streamClosed))
    | _, _ => none
  | .timeout i =>
    match σ.calls i, σ.channels i with
    | .waiting request, .empty => some (σ.goto i (.removing request .sequenceResponseNotFound))
    | _, _ => none
  | .remove i =>
    match σ.calls i with
    | .removing request error =>
      some { (σ.remove i request.sequenceNumber).goto i (.done (.error error)) with
        outboundTx := if σ.outboundTx = some i then none else σ.outboundTx }
    | _ => none
  | .arrive response =>
    match σ.dispatcher with
    | .reading => some (σ.take response)
    | _ => none
  | .complete =>
    match σ.dispatcher with
    | .completing i result =>
      some { σ with
        channels := Function.update σ.channels i ((σ.channels i).send result)
        dispatcher := .reading }
    | _ => none
  | .stop =>
    match σ.dispatcher with
    | .reading => some { σ with dispatcher := .stopped }
    | _ => none

end GrpcRelay.ControllerSdk
