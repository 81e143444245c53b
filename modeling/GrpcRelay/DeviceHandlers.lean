import GrpcRelay.Lib.Runs
import GrpcRelay.DeviceClient
import Mathlib.Data.List.Perm.Basic
import Mathlib.Data.List.Perm.Subperm
import Mathlib.Tactic.SplitIfs

/-!
# The tasks of a device connection

`connect_once` of the device SDK (`client.rs`) as the tasks that it is made of: the reader of the
response stream, the heartbeat, and a task for every data request, at most
`MAX_CONCURRENT_DATA_HANDLERS` at a time.  They share the sender of the outbound stream, whose
channel has 64 places, and run in any order.

Every request that is read is answered at most once, with what the handler returned for it, and is
lost only if its handler panics or the outbound stream is gone (`requests_are_accounted_for`).  The
tasks never wait for each other in a circle: with the transport taking messages and the handlers
returning, a connection that reads nothing more comes to rest with every request answered
(`connection_comes_to_rest`).  What the reader does is what `connect_once` does in the sequential
model of `DeviceClient` (`reader_refines_connectOnce`).
-/

namespace GrpcRelay.DeviceSdk

/-! ## The tasks -/

/-- `MAX_CONCURRENT_DATA_HANDLERS`. -/
def maxConcurrentDataHandlers : ℕ := 64

/-- The places of the channel of the outbound stream. -/
def outboundCapacity : ℕ := 64

/-- How a call of `on_data_request` comes back. -/
inductive HandlerResult where
  | returned (bytes : Bytes)
  | failed
  | panicked
  deriving DecidableEq, Repr

/-- The response to a request whose handler has come back. -/
def HandlerResult.response (request : DataRequest) : HandlerResult → Option DataResponse
  | .returned bytes =>
    some ⟨request.connectionId, request.sequenceNumber, bytes, ErrorCode.ok.toInt⟩
  | .failed =>
    some ⟨request.connectionId, request.sequenceNumber, [], ErrorCode.internalError.toInt⟩
  | .panicked => none

/-- Where the reader is. -/
inductive Place where
  /-- At the send of the register message. -/
  | registering (request : RegisterRequest)
  | reading
  /-- At the send of the answer to a request that is over the limit. -/
  | rejecting (request : DataRequest)
  /-- At `acquire_owned`. -/
  | acquiring (request : DataRequest)
  | returned (result : Except DeviceSdkError String)
  deriving DecidableEq

/-- Where the heartbeat task stands. -/
inductive HeartbeatTask where
  | unstarted
  | waiting
  | sending
  | stopped
  deriving DecidableEq, Repr

/-- The task of a data request: the response is there when the handler has come back. -/
structure HandlerTask where
  request : DataRequest
  response : Option DataResponse := none
  deriving DecidableEq, Repr

/-- The tasks of a connection, and what they share. -/
structure Connection where
  place : Place
  reader : Reader := {}
  heartbeat : HeartbeatTask := .unstarted
  /-- The free permits of `data_handler_limit`. -/
  permits : ℕ := maxConcurrentDataHandlers
  handlers : List HandlerTask := []
  channel : List DeviceMessage := []
  /-- The transport holds the receiver of the channel. -/
  outboundOpen : Bool := true
  deriving DecidableEq

/-- A step of a task, of a handler or of the relay. -/
inductive Action where
  | register
  | receive (payload : Option RelayPayload)
  | finish (stop : StreamEnd)
  | reject
  | acquire
  | complete (i : ℕ) (result : HandlerResult)
  | respond (i : ℕ)
  | tick
  | beat
  /-- The transport takes a message. -/
  | take
  /-- The transport drops the receiver, and what is in the channel with it. -/
  | close
  deriving DecidableEq

/-- `tx.send`: it waits while the channel is full, and says whether the message was queued. -/
def Connection.send (c : Connection) (m : DeviceMessage) : Option (Bool × Connection) :=
  if c.outboundOpen = false then some (false, c)
  else if c.channel.length < outboundCapacity then
    some (true, { c with channel := c.channel ++ [m] })
  else none

/-- The reader after a send whose error it returns. -/
def Place.afterSend (sent : Bool) : Place :=
  if sent then .reading else .returned (.error .connectionClosed)

/-- A message of the response stream. -/
def Connection.receive (config : Config) (c : Connection) : Option RelayPayload → Connection
  | some (.registerResponse cid _) =>
    match c.reader.heartbeatTask with
    | none => { c with reader := ⟨some cid, some cid⟩, heartbeat := .waiting }
    | some task => { c with reader := ⟨some task, some cid⟩ }
  | some .heartbeatResponse => c
  | some (.dataRequest request) =>
    if config.maxPayloadBytes < request.encryptedPayload.length then
      { c with place := .rejecting request }
    else { c with place := .acquiring request }
  | none => c

/-- One step of a task, of a handler or of the relay. -/
def step (config : Config) (c : Connection) : Action → Option Connection
  | .register =>
    match c.place with
    | .registering request =>
      (c.send (message config (.register request))).map fun r =>
        { r.2 with place := .afterSend r.1 }
    | _ => none
  | .receive payload => if c.place = .reading then some (c.receive config payload) else none
  | .finish stop =>
    if c.place = .reading then
      let r := c.reader.finish stop
      some { c with
        place := .returned r.2
        heartbeat := if .heartbeatStopped ∈ r.1 then .stopped else c.heartbeat }
    else none
  | .reject =>
    match c.place with
    | .rejecting request =>
      (c.send (message config (.data (rejection request)))).map fun r =>
        { r.2 with place := .afterSend r.1 }
    | _ => none
  | .acquire =>
    match c.place with
    | .acquiring request =>
      if 0 < c.permits then
        some { c with
          place := .reading
          permits := c.permits - 1
          handlers := c.handlers ++ [⟨request, none⟩] }
      else none
    | _ => none
  | .complete i result =>
    match c.handlers[i]? with
    | some ⟨request, none⟩ =>
      match result.response request with
      | some response => some { c with handlers := c.handlers.set i ⟨request, some response⟩ }
      | none =>
        -- The unwinding of the task drops its permit.
        some { c with handlers := c.handlers.eraseIdx i, permits := c.permits + 1 }
    | _ => none
  | .respond i =>
    match c.handlers[i]? with
    | some ⟨_, some response⟩ =>
      (c.send (message config (.data response))).map fun r =>
        { r.2 with handlers := c.handlers.eraseIdx i, permits := c.permits + 1 }
    | _ => none
  | .tick => if c.heartbeat = .waiting then some { c with heartbeat := .sending } else none
  | .beat =>
    if c.heartbeat = .sending then
      (c.send (message config .heartbeat)).map fun r =>
        { r.2 with heartbeat := if r.1 then .waiting else .stopped }
    else none
  | .take =>
    match c.channel with
    | [] => none
    | _ :: channel => some { c with channel := channel }
  | .close =>
    if c.outboundOpen then some { c with outboundOpen := false, channel := [] } else none

/-- The state when the call of `device_connect` has returned and the request is built. -/
def Connection.start (request : RegisterRequest) : Connection := { place := .registering request }

/-! ## What is noted of a run -/

/-- What can be seen of a step. -/
inductive Note where
  /-- What the reader does, as in the sequential model. -/
  | effect (e : Effect)
  | received (request : DataRequest)
  /-- The handler has come back. -/
  | handled (request : DataRequest) (result : HandlerResult)
  | queued (m : DeviceMessage)
  | answered (request : DataRequest) (response : DataResponse)
  /-- There is no answer: with a response, the outbound stream was gone, else the handler
  panicked. -/
  | lost (request : DataRequest) (response : Option DataResponse)
  | delivered (m : DeviceMessage)
  deriving DecidableEq

/-- The notes of a send, if it succeeds and if it fails. -/
def Connection.noteSend (c : Connection) (m : DeviceMessage) (sent failed : List Note) :
    List Note :=
  if c.outboundOpen then .queued m :: sent else failed

/-- What can be seen of a step. -/
def emit (config : Config) (c : Connection) (a : Action) (_ : Connection) : List Note :=
  match a with
  | .register =>
    match c.place with
    | .registering request =>
      let m := message config (.register request)
      c.noteSend m [.effect (.sent m)] []
    | _ => []
  | .receive (some (.registerResponse cid _)) =>
    if c.reader.heartbeatTask = none then [.effect (.heartbeatStarted cid)] else []
  | .receive (some (.dataRequest request)) => [.received request]
  | .receive _ => []
  | .finish stop => (c.reader.finish stop).1.map .effect
  | .reject =>
    match c.place with
    | .rejecting request =>
      let m := message config (.data (rejection request))
      c.noteSend m [.effect (.sent m), .answered request (rejection request)]
        [.lost request (some (rejection request))]
    | _ => []
  | .acquire =>
    match c.place with
    | .acquiring request => [.effect (.handlerStarted request)]
    | _ => []
  | .complete i result =>
    match c.handlers[i]? with
    | some ⟨request, none⟩ =>
      .handled request result ::
        if result.response request = none then [.lost request none] else []
    | _ => []
  | .respond i =>
    match c.handlers[i]? with
    | some ⟨request, some response⟩ =>
      c.noteSend (message config (.data response)) [.answered request response]
        [.lost request (some response)]
    | _ => []
  | .tick => []
  | .beat => c.noteSend (message config .heartbeat) [] []
  | .take => (c.channel.take 1).map .delivered
  | .close => []

/-- The runs of a connection that registers with a request. -/
abbrev Run (config : Config) (request : RegisterRequest) : List Note → Connection → Prop :=
  Runs.Logged (step config) (fun _ _ => True) (emit config) (.start request)

section Projections

variable (notes : List Note)

/-- The effects of the reader. -/
def effects : List Effect :=
  notes.filterMap fun
    | .effect e => some e
    | _ => none

/-- The requests that were read. -/
def received : List DataRequest :=
  notes.filterMap fun
    | .received request => some request
    | _ => none

/-- The results of the handlers. -/
def handled : List (DataRequest × HandlerResult) :=
  notes.filterMap fun
    | .handled request result => some (request, result)
    | _ => none

/-- The messages put on the outbound channel. -/
def queued : List DeviceMessage :=
  notes.filterMap fun
    | .queued m => some m
    | _ => none

/-- The requests that were answered, with their answers. -/
def answered : List (DataRequest × DataResponse) :=
  notes.filterMap fun
    | .answered request response => some (request, response)
    | _ => none

/-- The requests that get no answer, with the answer if there was one. -/
def lost : List (DataRequest × Option DataResponse) :=
  notes.filterMap fun
    | .lost request response => some (request, response)
    | _ => none

/-- The messages that the relay has taken. -/
def delivered : List DeviceMessage :=
  notes.filterMap fun
    | .delivered m => some m
    | _ => none

variable (more : List Note)

theorem effects_append : effects (notes ++ more) = effects notes ++ effects more :=
  List.filterMap_append

theorem received_append : received (notes ++ more) = received notes ++ received more :=
  List.filterMap_append

theorem delivered_append : delivered (notes ++ more) = delivered notes ++ delivered more :=
  List.filterMap_append

end Projections

/-! ## What one step does -/

section Step

variable (config : Config) (c : Connection)

/-- The steps, with what they note. -/
inductive Moves : Action → List Note → Connection → Prop
  | register {request : RegisterRequest} (place : c.place = .registering request)
      (isOpen : c.outboundOpen = true) (room : c.channel.length < outboundCapacity) :
      Moves .register
        [.queued (message config (.register request)),
          .effect (.sent (message config (.register request)))]
        { c with
          place := .reading
          channel := c.channel ++ [message config (.register request)] }
  | registerFailed {request : RegisterRequest} (place : c.place = .registering request)
      (gone : c.outboundOpen = false) :
      Moves .register [] { c with place := .returned (.error .connectionClosed) }
  | registration {cid : String} {resumed : Bool} (place : c.place = .reading)
      (first : c.reader.heartbeatTask = none) :
      Moves (.receive (some (.registerResponse cid resumed))) [.effect (.heartbeatStarted cid)]
        { c with reader := ⟨some cid, some cid⟩, heartbeat := .waiting }
  | registrationAgain {cid : String} {resumed : Bool} {task : String} (place : c.place = .reading)
      (again : c.reader.heartbeatTask = some task) :
      Moves (.receive (some (.registerResponse cid resumed))) []
        { c with reader := ⟨some task, some cid⟩ }
  | ignored {payload : Option RelayPayload} (place : c.place = .reading)
      (other : payload = some .heartbeatResponse ∨ payload = none) :
      Moves (.receive payload) [] c
  | oversized {request : DataRequest} (place : c.place = .reading)
      (above : config.maxPayloadBytes < request.encryptedPayload.length) :
      Moves (.receive (some (.dataRequest request))) [.received request]
        { c with place := .rejecting request }
  | request {request : DataRequest} (place : c.place = .reading)
      (within : ¬ config.maxPayloadBytes < request.encryptedPayload.length) :
      Moves (.receive (some (.dataRequest request))) [.received request]
        { c with place := .acquiring request }
  | finish {stop : StreamEnd} (place : c.place = .reading) :
      Moves (.finish stop) ((c.reader.finish stop).1.map .effect)
        { c with
          place := .returned (c.reader.finish stop).2
          heartbeat :=
            if .heartbeatStopped ∈ (c.reader.finish stop).1 then .stopped else c.heartbeat }
  | reject {request : DataRequest} (place : c.place = .rejecting request)
      (isOpen : c.outboundOpen = true) (room : c.channel.length < outboundCapacity) :
      Moves .reject
        [.queued (message config (.data (rejection request))),
          .effect (.sent (message config (.data (rejection request)))),
          .answered request (rejection request)]
        { c with
          place := .reading
          channel := c.channel ++ [message config (.data (rejection request))] }
  | rejectFailed {request : DataRequest} (place : c.place = .rejecting request)
      (gone : c.outboundOpen = false) :
      Moves .reject [.lost request (some (rejection request))]
        { c with place := .returned (.error .connectionClosed) }
  | acquire {request : DataRequest} (place : c.place = .acquiring request)
      (permit : 0 < c.permits) :
      Moves .acquire [.effect (.handlerStarted request)]
        { c with
          place := .reading
          permits := c.permits - 1
          handlers := c.handlers ++ [⟨request, none⟩] }
  | complete {i : ℕ} {request : DataRequest} {result : HandlerResult} {response : DataResponse}
      (running : c.handlers[i]? = some ⟨request, none⟩)
      (answer : result.response request = some response) :
      Moves (.complete i result) [.handled request result]
        { c with handlers := c.handlers.set i ⟨request, some response⟩ }
  | panic {i : ℕ} {request : DataRequest} {result : HandlerResult}
      (running : c.handlers[i]? = some ⟨request, none⟩)
      (answer : result.response request = none) :
      Moves (.complete i result) [.handled request result, .lost request none]
        { c with handlers := c.handlers.eraseIdx i, permits := c.permits + 1 }
  | respond {i : ℕ} {request : DataRequest} {response : DataResponse}
      (waiting : c.handlers[i]? = some ⟨request, some response⟩)
      (isOpen : c.outboundOpen = true) (room : c.channel.length < outboundCapacity) :
      Moves (.respond i)
        [.queued (message config (.data response)), .answered request response]
        { c with
          handlers := c.handlers.eraseIdx i
          permits := c.permits + 1
          channel := c.channel ++ [message config (.data response)] }
  | respondFailed {i : ℕ} {request : DataRequest} {response : DataResponse}
      (waiting : c.handlers[i]? = some ⟨request, some response⟩)
      (gone : c.outboundOpen = false) :
      Moves (.respond i) [.lost request (some response)]
        { c with handlers := c.handlers.eraseIdx i, permits := c.permits + 1 }
  | tick (waiting : c.heartbeat = .waiting) : Moves .tick [] { c with heartbeat := .sending }
  | beat (sending : c.heartbeat = .sending) (isOpen : c.outboundOpen = true)
      (room : c.channel.length < outboundCapacity) :
      Moves .beat [.queued (message config .heartbeat)]
        { c with heartbeat := .waiting, channel := c.channel ++ [message config .heartbeat] }
  | beatFailed (sending : c.heartbeat = .sending) (gone : c.outboundOpen = false) :
      Moves .beat [] { c with heartbeat := .stopped }
  | take {m : DeviceMessage} {channel : List DeviceMessage} (next : c.channel = m :: channel) :
      Moves .take [.delivered m] { c with channel := channel }
  | close (isOpen : c.outboundOpen = true) :
      Moves .close [] { c with outboundOpen := false, channel := [] }

variable {config c}

theorem send_cases {m : DeviceMessage} {r : Bool × Connection} (h : c.send m = some r) :
    (c.outboundOpen = true ∧ c.channel.length < outboundCapacity ∧
      r = (true, { c with channel := c.channel ++ [m] })) ∨
    (c.outboundOpen = false ∧ r = (false, c)) := by
  unfold Connection.send at h
  split_ifs at h with gone room
  · exact .inr ⟨gone, (Option.some.inj h).symm⟩
  · exact .inl ⟨by simpa using gone, room, (Option.some.inj h).symm⟩

theorem moves_of_step {a : Action} {c' : Connection} (h : step config c a = some c') :
    Moves config c a (emit config c a c') c' := by
  cases a with
  | register =>
    simp only [step] at h
    split at h
    · rename_i request place
      obtain ⟨r, sent, rfl⟩ := Option.map_eq_some_iff.1 h
      obtain ⟨isOpen, room, rfl⟩ | ⟨gone, rfl⟩ := send_cases sent
      · simpa [emit, place, Connection.noteSend, isOpen, Place.afterSend] using
          Moves.register place isOpen room
      · simpa [emit, place, Connection.noteSend, gone, Place.afterSend] using
          @Moves.registerFailed config c _ place gone
    · cases h
  | receive payload =>
    simp only [step] at h
    split_ifs at h with place
    cases h
    match payload with
    | some (.registerResponse cid resumed) =>
      cases task : c.reader.heartbeatTask with
      | none => simpa [emit, Connection.receive, task] using Moves.registration place task
      | some running =>
        simpa [emit, Connection.receive, task] using Moves.registrationAgain place task
    | some .heartbeatResponse => exact .ignored place (.inl rfl)
    | some (.dataRequest request) =>
      by_cases above : config.maxPayloadBytes < request.encryptedPayload.length
      · simpa [emit, Connection.receive, above] using Moves.oversized place above
      · simpa [emit, Connection.receive, above] using Moves.request place above
    | none => exact .ignored place (.inr rfl)
  | finish stop =>
    by_cases place : c.place = .reading
    · simp only [step, if_pos place, Option.some.injEq] at h
      exact h ▸ .finish place
    · simp [step, place] at h
  | reject =>
    simp only [step] at h
    split at h
    · rename_i request place
      obtain ⟨r, sent, rfl⟩ := Option.map_eq_some_iff.1 h
      obtain ⟨isOpen, room, rfl⟩ | ⟨gone, rfl⟩ := send_cases sent
      · simpa [emit, place, Connection.noteSend, isOpen, Place.afterSend] using
          Moves.reject place isOpen room
      · simpa [emit, place, Connection.noteSend, gone, Place.afterSend] using
          @Moves.rejectFailed config c _ place gone
    · cases h
  | acquire =>
    simp only [step] at h
    split at h
    · rename_i request place
      split_ifs at h with permit
      cases h
      simpa [emit, place] using Moves.acquire place permit
    · cases h
  | complete i result =>
    simp only [step] at h
    split at h
    · rename_i request running
      split at h
      · rename_i response answer
        cases h
        simpa [emit, running, answer] using Moves.complete running answer
      · rename_i answer
        cases h
        simpa [emit, running, answer] using Moves.panic running answer
    · cases h
  | respond i =>
    simp only [step] at h
    split at h
    · rename_i request response waiting
      obtain ⟨r, sent, rfl⟩ := Option.map_eq_some_iff.1 h
      obtain ⟨isOpen, room, rfl⟩ | ⟨gone, rfl⟩ := send_cases sent
      · simpa [emit, waiting, Connection.noteSend, isOpen] using
          Moves.respond waiting isOpen room
      · simpa [emit, waiting, Connection.noteSend, gone] using
          @Moves.respondFailed config c _ _ _ waiting gone
    · cases h
  | tick =>
    simp only [step] at h
    split_ifs at h with waiting
    cases h
    exact .tick waiting
  | beat =>
    simp only [step] at h
    split_ifs at h with sending
    obtain ⟨r, sent, rfl⟩ := Option.map_eq_some_iff.1 h
    obtain ⟨isOpen, room, rfl⟩ | ⟨gone, rfl⟩ := send_cases sent
    · simpa [emit, Connection.noteSend, isOpen] using Moves.beat sending isOpen room
    · simpa [emit, Connection.noteSend, gone] using @Moves.beatFailed config c sending gone
  | take =>
    simp only [step] at h
    split at h
    · cases h
    · rename_i m channel next
      cases h
      simpa [emit, next] using Moves.take next
  | close =>
    simp only [step] at h
    split_ifs at h with isOpen
    cases h
    exact .close isOpen

end Step

/-! ## The account of the requests -/

/-- The payload of a request is within the limit. -/
def Config.accepts (config : Config) (request : DataRequest) : Bool :=
  decide (request.encryptedPayload.length ≤ config.maxPayloadBytes)

/-- The request that the reader holds. -/
def Place.inHand : Place → List DataRequest
  | .rejecting request | .acquiring request => [request]
  | _ => []

/-- The request that the reader holds for a handler. -/
def Place.uncalled : Place → List DataRequest
  | .acquiring request => [request]
  | _ => []

/-- The answer that the reader is about to send. -/
def Place.unsent : Place → List (DataRequest × DataResponse)
  | .rejecting request => [(request, rejection request)]
  | _ => []

/-- The request whose handler has still to come back. -/
def HandlerTask.uncalled (t : HandlerTask) : List DataRequest :=
  if t.response = none then [t.request] else []

/-- The answer that has still to be sent. -/
def HandlerTask.unsent (t : HandlerTask) : List (DataRequest × DataResponse) :=
  t.response.toList.map fun response => (t.request, response)

/-- The requests that are read and neither answered nor lost. -/
def Connection.inHand (c : Connection) : List DataRequest :=
  c.place.inHand ++ c.handlers.flatMap fun t => [t.request]

/-- The requests within the limit whose handler has not come back. -/
def Connection.uncalled (c : Connection) : List DataRequest :=
  c.place.uncalled ++ c.handlers.flatMap HandlerTask.uncalled

/-- The answers that wait to be sent. -/
def Connection.unsent (c : Connection) : List (DataRequest × DataResponse) :=
  c.place.unsent ++ c.handlers.flatMap HandlerTask.unsent

/-- The answers that handlers gave. -/
def returnedAnswers (calls : List (DataRequest × HandlerResult)) :
    List (DataRequest × DataResponse) :=
  calls.flatMap fun call => (call.2.response call.1).toList.map fun response => (call.1, response)

/-- The answers to requests that are over the limit. -/
def rejections (config : Config) (requests : List DataRequest) :
    List (DataRequest × DataResponse) :=
  (requests.filter fun request => !config.accepts request).map fun request =>
    (request, rejection request)

/-- The answers that were lost with the outbound stream. -/
def lostAnswers (losses : List (DataRequest × Option DataResponse)) :
    List (DataRequest × DataResponse) :=
  losses.flatMap fun loss => loss.2.toList.map fun response => (loss.1, response)

section Counts

variable {α β : Type} [BEq β] {l : List α} {i : ℕ} {t : α}

theorem count_flatMap_eraseIdx (f : α → List β) (h : l[i]? = some t) (x : β) :
    (l.flatMap f).count x = (f t).count x + ((l.eraseIdx i).flatMap f).count x := by
  obtain ⟨bound, rfl⟩ := List.getElem?_eq_some_iff.1 h
  have perm := (List.getElem_cons_eraseIdx_perm bound).flatMap_right f
  rw [← perm.count_eq, List.flatMap_cons, List.count_append]

theorem count_flatMap_set (f : α → List β) (h : l[i]? = some t) (u : α) (x : β) :
    ((l.set i u).flatMap f).count x = (f u).count x + ((l.eraseIdx i).flatMap f).count x := by
  obtain ⟨bound, -⟩ := List.getElem?_eq_some_iff.1 h
  have perm := (List.set_perm_cons_eraseIdx bound u).flatMap_right f
  rw [perm.count_eq, List.flatMap_cons, List.count_append]

end Counts

section Balance

variable {config : Config} {c c' : Connection} {a : Action} {notes : List Note}

theorem permits_of_moves (h : Moves config c a notes c') :
    c'.permits + c'.handlers.length = c.permits + c.handlers.length := by
  cases h with
  | acquire place permit => simp; omega
  | complete running answer => simp
  | panic running answer | respondFailed running answer =>
    have bound := (List.getElem?_eq_some_iff.1 running).1
    simp only [List.length_eraseIdx_of_lt bound]
    omega
  | respond waiting isOpen room =>
    have bound := (List.getElem?_eq_some_iff.1 waiting).1
    simp only [List.length_eraseIdx_of_lt bound]
    omega
  | _ => rfl

/-- What a step does with the requests that are in hand. -/
theorem requests_of_moves (h : Moves config c a notes c') (q : DataRequest) :
    (received notes).count q + c.inHand.count q =
      ((answered notes).map Prod.fst).count q + ((lost notes).map Prod.fst).count q +
        c'.inHand.count q := by
  cases h with
  | finish place =>
    simp [received, answered, lost, Connection.inHand, Place.inHand, place, List.filterMap_map]
  | complete running answer =>
    have before := count_flatMap_eraseIdx (fun t => [t.request]) running q
    have after := count_flatMap_set (fun t => [t.request]) running
    simp [received, answered, lost, Connection.inHand, before, after]
  | panic running answer | respondFailed running answer =>
    have before := count_flatMap_eraseIdx (fun t => [t.request]) running q
    simp [received, answered, lost, Connection.inHand, before]
    omega
  | respond waiting isOpen room =>
    have before := count_flatMap_eraseIdx (fun t => [t.request]) waiting q
    simp [received, answered, lost, Connection.inHand, before]
    omega
  | acquire place permit =>
    simp [received, answered, lost, Connection.inHand, Place.inHand, place, List.count_cons]
  | registration place first | registrationAgain place again | ignored place other
  | tick waiting | beat sending isOpen room | beatFailed sending gone | take next
  | close isOpen =>
    simp [received, answered, lost, Connection.inHand]
  | register place isOpen room | registerFailed place gone | oversized place above
  | request place within | reject place isOpen room | rejectFailed place gone =>
    simp [received, answered, lost, Connection.inHand, Place.inHand, place, List.count_cons,
      Nat.add_comm]

/-- What a step does with the requests that no handler has come back from. -/
theorem calls_of_moves (h : Moves config c a notes c') (q : DataRequest) :
    ((received notes).filter config.accepts).count q + c.uncalled.count q =
      ((handled notes).map Prod.fst).count q + c'.uncalled.count q := by
  cases h with
  | finish place =>
    simp [received, handled, Connection.uncalled, Place.uncalled, place, List.filterMap_map]
  | complete running answer =>
    have before := count_flatMap_eraseIdx HandlerTask.uncalled running q
    have after := count_flatMap_set HandlerTask.uncalled running
    simp [received, handled, Connection.uncalled, before, after, HandlerTask.uncalled]
    omega
  | panic running answer =>
    have before := count_flatMap_eraseIdx HandlerTask.uncalled running q
    simp [received, handled, Connection.uncalled, before, HandlerTask.uncalled]
    omega
  | respondFailed waiting gone | respond waiting isOpen room =>
    have before := count_flatMap_eraseIdx HandlerTask.uncalled waiting q
    simp [received, handled, Connection.uncalled, before, HandlerTask.uncalled]
  | acquire place permit =>
    simp [received, handled, Connection.uncalled, Place.uncalled, HandlerTask.uncalled, place,
      List.count_cons]
  | registration place first | registrationAgain place again | ignored place other
  | tick waiting | beat sending isOpen room | beatFailed sending gone | take next
  | close isOpen =>
    simp [received, handled, Connection.uncalled]
  | register place isOpen room | registerFailed place gone | reject place isOpen room
  | rejectFailed place gone =>
    simp [received, handled, Connection.uncalled, Place.uncalled, place]
  | oversized place above =>
    simp [received, handled, Connection.uncalled, Place.uncalled, place, Config.accepts, above]
  | request place within =>
    simp [received, handled, Connection.uncalled, Place.uncalled, place, Config.accepts,
      Nat.not_lt.1 within, List.count_cons, Nat.add_comm]

/-- What a step does with the answers that wait to be sent. -/
theorem answers_of_moves (h : Moves config c a notes c') (x : DataRequest × DataResponse) :
    (returnedAnswers (handled notes)).count x + (rejections config (received notes)).count x +
        c.unsent.count x =
      (answered notes).count x + (lostAnswers (lost notes)).count x + c'.unsent.count x := by
  cases h with
  | finish place =>
    simp [received, handled, answered, lost, returnedAnswers, rejections, lostAnswers,
      Connection.unsent, Place.unsent, place, List.filterMap_map]
  | complete running answer =>
    have before := count_flatMap_eraseIdx HandlerTask.unsent running x
    have after := count_flatMap_set HandlerTask.unsent running
    simp [received, handled, answered, lost, returnedAnswers, rejections, lostAnswers,
      Connection.unsent, before, after, HandlerTask.unsent, answer]
    omega
  | panic running answer =>
    have before := count_flatMap_eraseIdx HandlerTask.unsent running x
    simp [received, handled, answered, lost, returnedAnswers, rejections, lostAnswers,
      Connection.unsent, before, HandlerTask.unsent, answer]
  | respondFailed waiting gone | respond waiting isOpen room =>
    have before := count_flatMap_eraseIdx HandlerTask.unsent waiting x
    simp [received, handled, answered, lost, returnedAnswers, rejections, lostAnswers,
      Connection.unsent, before, HandlerTask.unsent]
    omega
  | acquire place permit =>
    simp [received, handled, answered, lost, returnedAnswers, rejections, lostAnswers,
      Connection.unsent, Place.unsent, HandlerTask.unsent, place]
  | registration place first | registrationAgain place again | ignored place other
  | tick waiting | beat sending isOpen room | beatFailed sending gone | take next
  | close isOpen =>
    simp [received, handled, answered, lost, returnedAnswers, rejections, lostAnswers,
      Connection.unsent]
  | register place isOpen room | registerFailed place gone | reject place isOpen room
  | rejectFailed place gone =>
    simp [received, handled, answered, lost, returnedAnswers, rejections, lostAnswers,
      Connection.unsent, Place.unsent, place, List.count_cons, Nat.add_comm]
  | oversized place above =>
    simp [received, handled, answered, lost, returnedAnswers, rejections, lostAnswers,
      Connection.unsent, Place.unsent, place, Config.accepts, above, List.count_cons, Nat.add_comm]
  | request place within =>
    simp [received, handled, answered, lost, returnedAnswers, rejections, lostAnswers,
      Connection.unsent, Place.unsent, place, Config.accepts, Nat.not_lt.1 within]

end Balance

/-! ## The outbound stream -/

/-- The answer that a message carries. -/
def responseOf (m : DeviceMessage) : Option DataResponse :=
  match m.payload with
  | some (.data response) => some response
  | _ => none

/-- A message of the heartbeat or of an answer. -/
def Follows (config : Config) (m : DeviceMessage) : Prop :=
  m = message config .heartbeat ∨ ∃ response, m = message config (.data response)

/-- Nothing but the registration can be sent. -/
def Connection.Fresh (request : RegisterRequest) (c : Connection) : Prop :=
  c.handlers = [] ∧ c.heartbeat = .unstarted ∧
    (c.place = .registering request ∨ c.place = .returned (.error .connectionClosed))

/-- What has been queued: nothing, or the register message and then heartbeats and answers. -/
def Opening (config : Config) (request : RegisterRequest) (ms : List DeviceMessage) : Prop :=
  ∃ rest, ms = message config (.register request) :: rest ∧ ∀ m ∈ rest, Follows config m

/-- The outbound stream of a connection: the answers are queued in the order they are given, and
what the transport has taken is what was queued first. -/
structure Streams (config : Config) (request : RegisterRequest) (notes : List Note)
    (c : Connection) : Prop where
  opening : (queued notes = [] ∧ c.Fresh request) ∨
    ((∀ r, c.place ≠ .registering r) ∧ Opening config request (queued notes))
  responses : (queued notes).filterMap responseOf = (answered notes).map Prod.snd
  delivery : delivered notes ++ c.channel <+: queued notes
  whole : c.outboundOpen = true → delivered notes ++ c.channel = queued notes

section Outbound

variable {config : Config} {request : RegisterRequest} {c c' : Connection} {a : Action}
  {notes notes' : List Note}

theorem Opening.append {ms : List DeviceMessage} {m : DeviceMessage}
    (h : Opening config request ms) (follows : Follows config m) :
    Opening config request (ms ++ [m]) := by
  obtain ⟨rest, rfl, all⟩ := h
  refine ⟨rest ++ [m], rfl, fun x hx => ?_⟩
  rcases List.mem_append.1 hx with hx | hx
  · exact all x hx
  · exact List.mem_singleton.1 hx ▸ follows

/-- A step that queues nothing and keeps the channel, the tasks and the open stream. -/
theorem Streams.of_quiet (h : Streams config request notes c)
    (queue : queued notes' = []) (answers : answered notes' = []) (taken : delivered notes' = [])
    (channel : c'.channel = c.channel) (isOpen : c'.outboundOpen = c.outboundOpen)
    (fresh : c.Fresh request → c'.Fresh request)
    (place : (∀ r, c.place ≠ .registering r) → ∀ r, c'.place ≠ .registering r) :
    Streams config request (notes ++ notes') c' := by
  have queued_eq : queued (notes ++ notes') = queued notes := by
    simpa [queued] using queue
  have answered_eq : answered (notes ++ notes') = answered notes := by
    simpa [answered] using answers
  have delivered_eq : delivered (notes ++ notes') = delivered notes := by
    simpa [delivered] using taken
  constructor
  · rw [queued_eq]
    exact h.opening.imp (And.imp_right fresh) (And.imp_left place)
  · rw [queued_eq, answered_eq]
    exact h.responses
  · rw [queued_eq, delivered_eq, channel]
    exact h.delivery
  · rw [queued_eq, delivered_eq, channel, isOpen]
    exact h.whole

/-- A step that queues a heartbeat or an answer. -/
theorem Streams.of_queued (h : Streams config request notes c) {m : DeviceMessage}
    (queue : queued notes' = [m]) (answers : (responseOf m).toList = (answered notes').map Prod.snd)
    (taken : delivered notes' = []) (channel : c'.channel = c.channel ++ [m])
    (isOpen : c.outboundOpen = true) (follows : Follows config m) (fresh : ¬ c.Fresh request)
    (place : (∀ r, c.place ≠ .registering r) → ∀ r, c'.place ≠ .registering r) :
    Streams config request (notes ++ notes') c' := by
  have queued_eq : queued (notes ++ notes') = queued notes ++ [m] := by
    rw [← queue]
    exact List.filterMap_append
  have answered_eq : answered (notes ++ notes') = answered notes ++ answered notes' :=
    List.filterMap_append
  have delivered_eq : delivered (notes ++ notes') = delivered notes := by
    simpa [delivered] using taken
  have whole : delivered notes ++ (c.channel ++ [m]) = queued notes ++ [m] := by
    rw [← List.append_assoc, h.whole isOpen]
  constructor
  · obtain ⟨started, opening⟩ := h.opening.resolve_left fun h => fresh h.2
    rw [queued_eq]
    exact .inr ⟨place started, opening.append follows⟩
  · rw [queued_eq, answered_eq, List.filterMap_append, h.responses, List.map_append, ← answers]
    cases hm : responseOf m <;> simp [hm]
  · have all : delivered (notes ++ notes') ++ c'.channel = queued (notes ++ notes') := by
      rw [queued_eq, delivered_eq, channel, whole]
    exact all ▸ List.prefix_refl _
  · intro _
    rw [queued_eq, delivered_eq, channel, whole]

theorem streams_of_moves (h : Streams config request notes c) (moves : Moves config c a notes' c') :
    Streams config request (notes ++ notes') c' := by
  cases moves with
  | @register r place isOpen room =>
    have start := h.opening.resolve_right fun h => h.1 _ place
    obtain ⟨-, -, at_place⟩ := start.2
    have same : r = request := by simpa [place] using at_place
    have whole := h.whole isOpen
    rw [start.1] at whole
    subst same
    constructor
    · exact .inr ⟨by simp, [], by simpa [queued] using start.1, by simp⟩
    · have unanswered : (answered notes).map Prod.snd = [] := by
        rw [← h.responses, start.1]
        rfl
      simp_all [queued, answered, responseOf, message]
    · simp_all [queued, delivered]
    · simp_all [queued, delivered]
  | registerFailed place gone =>
    refine h.of_quiet rfl rfl rfl rfl rfl (fun fresh => ?_) (by simp)
    exact ⟨fresh.1, fresh.2.1, .inr rfl⟩
  | registration place first | registrationAgain place again =>
    refine h.of_quiet rfl rfl rfl rfl rfl (fun fresh => ?_) (fun started => started)
    simp [Connection.Fresh, place] at fresh
  | ignored place other => exact h.of_quiet rfl rfl rfl rfl rfl id id
  | oversized place above | request place within | acquire place permit =>
    refine h.of_quiet rfl rfl rfl rfl rfl (fun fresh => ?_) (by simp)
    simp [Connection.Fresh, place] at fresh
  | finish place =>
    refine h.of_quiet ?_ ?_ ?_ rfl rfl (fun fresh => ?_) (by simp)
    · simp [queued, List.filterMap_map]
    · simp [answered, List.filterMap_map]
    · simp [delivered, List.filterMap_map]
    · simp [Connection.Fresh, place] at fresh
  | reject place isOpen room =>
    exact h.of_queued rfl rfl rfl rfl isOpen (.inr ⟨_, rfl⟩) (by simp [Connection.Fresh, place])
      (by simp)
  | rejectFailed place gone =>
    refine h.of_quiet rfl rfl rfl rfl rfl (fun fresh => ?_) (by simp)
    simp [Connection.Fresh, place] at fresh
  | complete running answer | panic running answer | respondFailed running gone =>
    refine h.of_quiet rfl rfl rfl rfl rfl (fun fresh => ?_) (fun started => started)
    simp [fresh.1] at running
  | respond waiting isOpen room =>
    refine h.of_queued rfl rfl rfl rfl isOpen (.inr ⟨_, rfl⟩) (fun fresh => ?_)
      (fun started => started)
    simp [fresh.1] at waiting
  | tick waiting | beatFailed waiting gone =>
    refine h.of_quiet rfl rfl rfl rfl rfl (fun fresh => ?_) (fun started => started)
    simp [fresh.2.1] at waiting
  | beat sending isOpen room =>
    refine h.of_queued rfl rfl rfl rfl isOpen (.inl rfl) (fun fresh => ?_)
      (fun started => started)
    simp [fresh.2.1] at sending
  | @take m channel next =>
    have queued_eq : queued (notes ++ [.delivered m]) = queued notes :=
      List.filterMap_append.trans (List.append_nil _)
    have answered_eq : answered (notes ++ [.delivered m]) = answered notes :=
      List.filterMap_append.trans (List.append_nil _)
    have moved : delivered (notes ++ [.delivered m]) ++ channel = delivered notes ++ c.channel := by
      rw [next]
      simp [delivered]
    constructor
    · rw [queued_eq]
      exact h.opening
    · rw [queued_eq, answered_eq]
      exact h.responses
    · rw [queued_eq, moved]
      exact h.delivery
    · rw [queued_eq, moved]
      exact h.whole
  | close isOpen =>
    rw [List.append_nil]
    refine ⟨h.opening, h.responses, ?_, by simp⟩
    rw [List.append_nil]
    exact (List.prefix_append _ _).trans h.delivery

end Outbound

/-! ## Every run -/

/-- What has become of the requests and of the messages of a connection. -/
structure Accounted (config : Config) (request : RegisterRequest) (notes : List Note)
    (c : Connection) : Prop where
  /-- A task for each permit that is taken. -/
  permits : c.permits + c.handlers.length = maxConcurrentDataHandlers
  /-- A request is answered once, lost, or still in hand. -/
  requests : (received notes).Perm
    ((answered notes).map Prod.fst ++ (lost notes).map Prod.fst ++ c.inHand)
  /-- The handler is called once for a request within the limit, and not for the others. -/
  calls : ((received notes).filter config.accepts).Perm
    ((handled notes).map Prod.fst ++ c.uncalled)
  /-- The answers are those that the handlers gave, and the rejections. -/
  answers : (returnedAnswers (handled notes) ++ rejections config (received notes)).Perm
    (answered notes ++ lostAnswers (lost notes) ++ c.unsent)
  /-- While the outbound stream is open, only a panic loses a request. -/
  losses : c.outboundOpen = true → lostAnswers (lost notes) = []
  streams : Streams config request notes c

section Run

variable {config : Config} {request : RegisterRequest} {c c' : Connection} {a : Action}
  {notes notes' : List Note}

theorem losses_of_moves (h : c.outboundOpen = true → lostAnswers (lost notes) = [])
    (moves : Moves config c a notes' c') :
    c'.outboundOpen = true → lostAnswers (lost (notes ++ notes')) = [] := by
  have append : lostAnswers (lost (notes ++ notes')) =
      lostAnswers (lost notes) ++ lostAnswers (lost notes') := by
    simp [lostAnswers, lost]
  rw [append]
  cases moves with
  | rejectFailed place gone | respondFailed waiting gone => simp [gone]
  | close isOpen => simp
  | finish place => simpa [lost, lostAnswers, List.filterMap_map] using h
  | _ => simpa [lost, lostAnswers] using h

theorem accounted_of_moves (h : Accounted config request notes c)
    (moves : Moves config c a notes' c') : Accounted config request (notes ++ notes') c' where
  permits := (permits_of_moves moves).trans h.permits
  requests := by
    refine List.perm_iff_count.2 fun q => ?_
    have before := h.requests.count_eq q
    have now := requests_of_moves moves q
    simp only [received, answered, lost, List.filterMap_append, List.map_append,
      List.count_append] at before now ⊢
    omega
  calls := by
    refine List.perm_iff_count.2 fun q => ?_
    have before := h.calls.count_eq q
    have now := calls_of_moves moves q
    simp only [received, handled, List.filterMap_append, List.filter_append, List.map_append,
      List.count_append] at before now ⊢
    omega
  answers := by
    refine List.perm_iff_count.2 fun x => ?_
    have before := h.answers.count_eq x
    have now := answers_of_moves moves x
    simp only [received, handled, answered, lost, returnedAnswers, rejections, lostAnswers,
      List.filterMap_append, List.filter_append, List.flatMap_append, List.map_append,
      List.count_append] at before now ⊢
    omega
  losses := losses_of_moves h.losses moves
  streams := streams_of_moves h.streams moves

theorem accounted_start (config : Config) (request : RegisterRequest) :
    Accounted config request [] (.start request) where
  permits := rfl
  requests := .refl _
  calls := .refl _
  answers := .refl _
  losses := fun _ => rfl
  streams := ⟨.inl ⟨rfl, rfl, rfl, .inl rfl⟩, rfl, List.prefix_refl _, fun _ => rfl⟩

theorem accounted_of_run (run : Run config request notes c) :
    Accounted config request notes c := by
  refine run.invariant (accounted_start config request) ?_
  intro log s a s' _ h _ hs
  exact accounted_of_moves h (moves_of_step hs)

/-- In every run, whatever the order of the tasks: a request is answered at most once, with what
its handler returned for it, the handlers are no more than the permits, and the answers go out in
the order they are given, after the register message. -/
theorem requests_are_accounted_for (run : Run config request notes c) :
    Accounted config request notes c :=
  accounted_of_run run

end Run

/-! ### A concrete run -/

/-- A device that takes payloads of at most two bytes. -/
def smallStation : Config :=
  { tcpAddr := "relay", deviceId := "d", token := "t", maxPayloadBytes := 2 }

/-- A first registration. -/
def smallRequest : RegisterRequest := ⟨"d", [], ""⟩

/-- The second handler comes back before the first, which panics; the third request is too long. -/
def overtaking : List Action :=
  [.register, .receive (some (.registerResponse "c" false)),
    .receive (some (.dataRequest ⟨"c", 1, [1]⟩)), .acquire,
    .receive (some (.dataRequest ⟨"c", 2, [2]⟩)), .acquire, .complete 1 (.returned [20]), .tick,
    .receive (some (.dataRequest ⟨"c", 3, [1, 2, 3]⟩)), .respond 1, .take, .reject, .beat,
    .complete 0 .panicked, .take]

theorem overtaken_request_is_accounted_for :
    ∃ notes c, Run smallStation smallRequest notes c ∧ Accounted smallStation smallRequest notes c ∧
      answered notes =
        [(⟨"c", 2, [2]⟩, ⟨"c", 2, [20], 0⟩), (⟨"c", 3, [1, 2, 3]⟩, ⟨"c", 3, [], 5⟩)] ∧
      lost notes = [(⟨"c", 1, [1]⟩, none)] ∧ c.channel.length = 2 := by
  obtain ⟨⟨notes, c⟩, executed, facts⟩ : ∃ r : List Note × Connection,
      Runs.executeLogged (step smallStation) (fun _ _ => true) (emit smallStation) []
        (.start smallRequest) overtaking = some r ∧
      (answered r.1, lost r.1, r.2.channel.length) =
        ([(⟨"c", 2, [2]⟩, ⟨"c", 2, [20], 0⟩), (⟨"c", 3, [1, 2, 3]⟩, ⟨"c", 3, [], 5⟩)],
          [(⟨"c", 1, [1]⟩, none)], 2) :=
    Option.map_eq_some_iff.1 (by decide +kernel)
  simp only [Prod.mk.injEq] at facts
  have run : Run smallStation smallRequest notes c :=
    .of_executeLogged (fun _ _ _ => trivial) _ .start executed
  exact ⟨notes, c, run, requests_are_accounted_for run, facts.1, facts.2.1, facts.2.2⟩

/-! ## Rest -/

/-- The steps that need nothing new from the relay and no tick of the heartbeat: the transport takes
messages and the handlers come back. -/
def Action.own : Action → Bool
  | .register | .reject | .acquire | .complete .. | .respond _ | .beat | .take => true
  | .receive _ | .finish _ | .tick | .close => false

/-- A bound on the steps for what the reader holds. -/
def Place.work : Place → ℕ
  | .registering _ | .rejecting _ => 2
  | .acquiring _ => 4
  | .reading | .returned _ => 0

/-- A bound on the steps for the request that a handler task holds. -/
def HandlerTask.work (t : HandlerTask) : ℕ := if t.response = none then 3 else 2

/-- A bound on the steps for the message of the heartbeat. -/
def HeartbeatTask.work : HeartbeatTask → ℕ
  | .sending => 2
  | _ => 0

/-- The steps that a connection can take on its own. -/
def Connection.work (c : Connection) : ℕ :=
  c.place.work + c.heartbeat.work + (c.handlers.map HandlerTask.work).sum + c.channel.length

section Rest

variable {config : Config} {request : RegisterRequest} {c c' : Connection} {a : Action}
  {notes notes' : List Note}

theorem sum_work_eraseIdx {l : List HandlerTask} {i : ℕ} {t : HandlerTask} (h : l[i]? = some t) :
    (l.map HandlerTask.work).sum = t.work + ((l.eraseIdx i).map HandlerTask.work).sum := by
  obtain ⟨bound, rfl⟩ := List.getElem?_eq_some_iff.1 h
  rw [← ((List.getElem_cons_eraseIdx_perm bound).map _).sum_eq, List.map_cons, List.sum_cons]

theorem sum_work_set {l : List HandlerTask} {i : ℕ} {t : HandlerTask} (h : l[i]? = some t)
    (u : HandlerTask) :
    ((l.set i u).map HandlerTask.work).sum =
      u.work + ((l.eraseIdx i).map HandlerTask.work).sum := by
  obtain ⟨bound, -⟩ := List.getElem?_eq_some_iff.1 h
  rw [((List.set_perm_cons_eraseIdx bound u).map _).sum_eq, List.map_cons, List.sum_cons]

theorem work_of_moves (moves : Moves config c a notes c') (own : a.own = true) :
    c'.work < c.work := by
  cases moves with
  | register place isOpen room | reject place isOpen room | acquire place permit =>
    simp [Connection.work, Place.work, HandlerTask.work, place]
    omega
  | registerFailed place gone | rejectFailed place gone =>
    simp [Connection.work, Place.work, place]
  | complete running answer =>
    have before := sum_work_eraseIdx running
    unfold Connection.work
    rw [before, sum_work_set running]
    simp [HandlerTask.work]
  | panic running answer | respondFailed running gone =>
    have before := sum_work_eraseIdx running
    simp [Connection.work, before, HandlerTask.work]
  | respond waiting isOpen room =>
    have before := sum_work_eraseIdx waiting
    simp [Connection.work, before, HandlerTask.work]
    omega
  | beat sending isOpen room =>
    simp [Connection.work, HeartbeatTask.work, sending]
    omega
  | beatFailed sending gone => simp [Connection.work, HeartbeatTask.work, sending]
  | take next => simp [Connection.work, next]
  | registration | registrationAgain | ignored | oversized | request | finish | tick | close =>
    cases own

theorem channel_of_moves (bound : c.channel.length ≤ outboundCapacity)
    (moves : Moves config c a notes c') : c'.channel.length ≤ outboundCapacity := by
  cases moves with
  | register _ _ room | reject _ _ room | respond _ _ room | beat _ _ room =>
    rw [List.length_append]
    exact room
  | take next =>
    rw [next, List.length_cons] at bound
    exact Nat.le_of_succ_le bound
  | close => exact Nat.zero_le _
  | _ => exact bound

theorem channel_of_run (run : Run config request notes c) :
    c.channel.length ≤ outboundCapacity := by
  refine run.reach.invariant (I := fun c => c.channel.length ≤ outboundCapacity)
    (Nat.zero_le _) ?_
  intro s a s' _ bound _ hs
  exact channel_of_moves bound (moves_of_step hs)

theorem sum_work_le (l : List HandlerTask) : (l.map HandlerTask.work).sum ≤ 3 * l.length := by
  induction l with
  | nil => exact Nat.zero_le _
  | cons t l ih =>
    have head : t.work ≤ 3 := by
      unfold HandlerTask.work
      split_ifs <;> omega
    rw [List.map_cons, List.sum_cons, List.length_cons]
    omega

/-- The reader and the heartbeat have at most 6 steps to take, a handler and its answer 3, and a
message in the channel one. -/
theorem work_le_of_run (run : Run config request notes c) :
    c.work ≤ 6 + 3 * maxConcurrentDataHandlers + outboundCapacity := by
  have channel := channel_of_run run
  have permits := (accounted_of_run run).permits
  have handlers := sum_work_le c.handlers
  have place : c.place.work ≤ 4 := by cases c.place <;> simp [Place.work]
  have heartbeat : c.heartbeat.work ≤ 2 := by cases c.heartbeat <;> simp [HeartbeatTask.work]
  unfold Connection.work
  omega

theorem length_le_work (actions : List Action) (own : ∀ a ∈ actions, a.own = true)
    (h : Runs.executeLogged (step config) (fun _ _ => true) (emit config) notes c actions =
      some (notes', c')) : actions.length + c'.work ≤ c.work := by
  induction actions generalizing notes c with
  | nil =>
    cases h
    simp
  | cons a rest ih =>
    simp only [Runs.executeLogged, ↓reduceIte] at h
    obtain ⟨c₁, hs, h⟩ := Option.bind_eq_some_iff.1 h
    have less := work_of_moves (moves_of_step hs) (own a (by simp))
    have tail := ih (fun b hb => own b (by simp [hb])) h
    rw [List.length_cons]
    omega

/-- With a place in the channel, a send does not wait. -/
theorem send_ne_none {m : DeviceMessage} (room : c.channel = []) : c.send m ≠ none := by
  unfold Connection.send
  split_ifs with gone full
  · simp
  · simp
  · exact absurd (by simp [room, outboundCapacity]) full

/-- A connection that can take no step on its own has nothing left to do. -/
theorem rest_of_stuck (permits : c.permits + c.handlers.length = maxConcurrentDataHandlers)
    (stuck : ∀ a : Action, a.own = true → step config c a = none) :
    c.channel = [] ∧ c.handlers = [] ∧ c.inHand = [] ∧ c.heartbeat ≠ .sending := by
  have channel : c.channel = [] := by
    cases h : c.channel with
    | nil => rfl
    | cons m rest => simpa [step, h] using stuck .take rfl
  have sends (m : DeviceMessage) : c.send m ≠ none := send_ne_none channel
  have handlers : c.handlers = [] := by
    cases h : c.handlers with
    | nil => rfl
    | cons t rest =>
      obtain ⟨q, _ | response⟩ := t
      · simpa [step, h, HandlerResult.response] using stuck (.complete 0 .failed) rfl
      · exact absurd (by simpa [step, h] using stuck (.respond 0) rfl) (sends _)
  have inHand : c.place.inHand = [] := by
    cases place : c.place with
    | rejecting q => exact absurd (by simpa [step, place] using stuck .reject rfl) (sends _)
    | acquiring q =>
      have blocked := stuck .acquire rfl
      simp only [step, place, ite_eq_right_iff, reduceCtorEq, imp_false] at blocked
      simp only [handlers, List.length_nil, maxConcurrentDataHandlers] at permits
      omega
    | registering | reading | returned => rfl
  refine ⟨channel, handlers, ?_, fun sending => ?_⟩
  · rw [Connection.inHand, inHand, handlers]
    rfl
  · exact absurd (by simpa [step, sending] using stuck .beat rfl) (sends _)

/-- The tasks never wait for each other in a circle.  A connection takes no more than 262 steps on
its own, and when it can take no more, every request that was read has been answered or lost and
the transport has taken every message. -/
theorem connection_comes_to_rest (run : Run config request notes c) (actions : List Action)
    (own : ∀ a ∈ actions, a.own = true)
    (h : Runs.executeLogged (step config) (fun _ _ => true) (emit config) notes c actions =
      some (notes', c')) :
    actions.length ≤ 262 ∧
      ((∀ a : Action, a.own = true → step config c' a = none) →
        c'.handlers = [] ∧ c'.permits = maxConcurrentDataHandlers ∧ c'.heartbeat ≠ .sending ∧
        (c'.place = .reading ∨ ∃ result, c'.place = .returned result) ∧
        (received notes').Perm ((answered notes').map Prod.fst ++ (lost notes').map Prod.fst) ∧
        (c'.outboundOpen = true →
          delivered notes' = queued notes' ∧ lostAnswers (lost notes') = [])) := by
  have run' : Run config request notes' c' :=
    Runs.Logged.of_executeLogged (fun _ _ _ => trivial) actions run h
  have accounted := accounted_of_run run'
  refine ⟨?_, fun stuck => ?_⟩
  · have bound := work_le_of_run run
    have length := length_le_work actions own h
    simp only [maxConcurrentDataHandlers, outboundCapacity] at bound
    omega
  · obtain ⟨channel, handlers, inHand, heartbeat⟩ := rest_of_stuck accounted.permits stuck
    refine ⟨handlers, by simpa [handlers] using accounted.permits, heartbeat, ?_, ?_, ?_⟩
    · cases place : c'.place with
      | reading => exact .inl rfl
      | returned result => exact .inr ⟨result, rfl⟩
      | rejecting q | acquiring q => simp [Connection.inHand, place, Place.inHand] at inHand
      | registering r =>
        have blocked := stuck .register rfl
        exact absurd (by simpa [step, place] using blocked) (send_ne_none channel)
    · simpa [inHand] using accounted.requests
    · intro isOpen
      exact ⟨by simpa [channel] using accounted.streams.whole isOpen, accounted.losses isOpen⟩

end Rest

/-- The run of the two handlers comes to rest in two steps of the transport. -/
theorem overtaken_connection_comes_to_rest :
    ∃ notes c notes' c', Run smallStation smallRequest notes c ∧
      Runs.executeLogged (step smallStation) (fun _ _ => true) (emit smallStation) notes c
        [.take, .take] = some (notes', c') ∧
      (∀ a : Action, a.own = true → step smallStation c' a = none) ∧
      (received notes').Perm ((answered notes').map Prod.fst ++ (lost notes').map Prod.fst) ∧
      delivered notes' = queued notes' := by
  obtain ⟨⟨notes, c⟩, executed, continues⟩ : ∃ r : List Note × Connection,
      Runs.executeLogged (step smallStation) (fun _ _ => true) (emit smallStation) []
        (.start smallRequest) overtaking = some r ∧
      (Runs.executeLogged (step smallStation) (fun _ _ => true) (emit smallStation) r.1 r.2
        [.take, .take]).any (fun r => r.2.place = .reading ∧ r.2.heartbeat = .waiting ∧
          r.2.handlers = [] ∧ r.2.channel = [] ∧ r.2.outboundOpen = true) = true :=
    Option.map_eq_some_iff.1 (by decide +kernel)
  obtain ⟨⟨notes', c'⟩, rested, facts⟩ := (Option.any_eq_true _ _).1 continues
  simp only [decide_eq_true_eq] at facts
  obtain ⟨place, heartbeat, handlers, channel, isOpen⟩ := facts
  have run : Run smallStation smallRequest notes c :=
    .of_executeLogged (fun _ _ _ => trivial) _ .start executed
  have stuck (a : Action) (own : a.own = true) : step smallStation c' a = none := by
    cases a with
    | receive | finish | tick | close => cases own
    | _ => simp [step, place, heartbeat, handlers, channel]
  obtain ⟨-, rest⟩ := connection_comes_to_rest run _ (by decide) rested
  obtain ⟨-, -, -, -, requests, outbound⟩ := rest stuck
  exact ⟨notes, c, notes', c', run, rested, stuck, requests, (outbound isOpen).1⟩

/-! ## The sequential model -/

/-- The reader has gone through messages that the loop of the sequential model goes through with the
same effects, and it is at the same local variables. -/
def Reads (config : Config) (effects : List Effect) (reader : Reader) : Prop :=
  ∃ inbound, ∀ stop rest, readResponses config stop {} (inbound ++ rest) =
    (effects ++ (readResponses config stop reader rest).1,
      (readResponses config stop reader rest).2)

/-- What the reader has done is what `connectOnce` does in an attempt: so far, or in whole if the
reader has returned. -/
def Refines (config : Config) (request : RegisterRequest) (done : List Effect) (reader : Reader) :
    Place → Prop
  | .registering r => done = [] ∧ reader = {} ∧ r = request
  | .reading => ∃ rest, done = .sent (message config (.register request)) :: rest ∧
    Reads config rest reader
  | .rejecting q => (∃ rest, done = .sent (message config (.register request)) :: rest ∧
    Reads config rest reader) ∧ config.maxPayloadBytes < q.encryptedPayload.length
  | .acquiring q => (∃ rest, done = .sent (message config (.register request)) :: rest ∧
    Reads config rest reader) ∧ ¬ config.maxPayloadBytes < q.encryptedPayload.length
  | .returned result => (done = [] ∧ result = .error .connectionClosed) ∨
    ∃ inbound stop, (done, result) =
      (.sent (message config (.register request)) :: (readResponses config stop {} inbound).1,
        (readResponses config stop {} inbound).2)

section Refinement

variable {config : Config} {request : RegisterRequest} {c c' : Connection} {a : Action}
  {notes notes' : List Note} {done : List Effect} {reader reader' : Reader}

/-- One message more. -/
theorem Reads.receive (h : Reads config done reader) (incoming : Incoming) {more : List Effect}
    (receive : reader.receive config incoming = (more, .ok reader')) :
    Reads config (done ++ more) reader' := by
  obtain ⟨inbound, h⟩ := h
  refine ⟨inbound ++ [incoming], fun stop rest => ?_⟩
  rw [List.append_assoc, List.singleton_append, h, readResponses, receive]
  simp

theorem reads_start (config : Config) : Reads config [] {} := ⟨[], fun _ _ => rfl⟩

theorem refines_of_moves (h : Refines config request (effects notes) c.reader c.place)
    (moves : Moves config c a notes' c') :
    Refines config request (effects (notes ++ notes')) c'.reader c'.place := by
  rw [effects_append]
  cases moves with
  | register place isOpen room =>
    rw [place] at h
    obtain ⟨none, reader, rfl⟩ := h
    rw [none, reader]
    exact ⟨[], rfl, reads_start config⟩
  | registerFailed place gone =>
    rw [place] at h
    rw [h.1]
    exact .inl ⟨rfl, rfl⟩
  | @registration cid resumed place first =>
    rw [place] at h ⊢
    obtain ⟨rest, done, reads⟩ := h
    refine ⟨rest ++ [.heartbeatStarted cid], by rw [done]; rfl, ?_⟩
    refine reads.receive ⟨some (.registerResponse cid resumed), true⟩ ?_
    simp [Reader.receive, first]
  | @registrationAgain cid resumed task place again =>
    rw [place] at h ⊢
    obtain ⟨rest, done, reads⟩ := h
    refine ⟨rest ++ [], by rw [done]; rfl, ?_⟩
    refine reads.receive ⟨some (.registerResponse cid resumed), true⟩ ?_
    simp [Reader.receive, again]
  | @ignored payload place other =>
    rw [place] at h ⊢
    obtain ⟨rest, done, reads⟩ := h
    refine ⟨rest ++ [], by rw [done]; rfl, ?_⟩
    refine reads.receive ⟨payload, true⟩ ?_
    rcases other with rfl | rfl <;> rfl
  | oversized place above =>
    rw [place] at h
    obtain ⟨rest, done, reads⟩ := h
    exact ⟨⟨rest, by rw [done]; exact List.append_nil _, reads⟩, above⟩
  | request place within =>
    rw [place] at h
    obtain ⟨rest, done, reads⟩ := h
    exact ⟨⟨rest, by rw [done]; exact List.append_nil _, reads⟩, within⟩
  | @finish stop place =>
    rw [place] at h
    obtain ⟨rest, done, inbound, reads⟩ := h
    refine .inr ⟨inbound, stop, ?_⟩
    have whole := reads stop []
    rw [List.append_nil] at whole
    rw [whole, done]
    simp [effects, readResponses, List.filterMap_map]
  | @reject q place isOpen room =>
    rw [place] at h
    obtain ⟨⟨rest, done, reads⟩, above⟩ := h
    refine ⟨rest ++ [.sent (message config (.data (rejection q)))], by rw [done]; rfl, ?_⟩
    refine reads.receive ⟨some (.dataRequest q), true⟩ ?_
    simp [Reader.receive, above]
  | @rejectFailed q place gone =>
    rw [place] at h
    obtain ⟨⟨rest, done, inbound, reads⟩, above⟩ := h
    refine .inr ⟨inbound ++ [⟨some (.dataRequest q), false⟩], .closed, ?_⟩
    rw [reads, done]
    simp [effects, readResponses, Reader.receive, above]
  | @acquire q place permit =>
    rw [place] at h
    obtain ⟨⟨rest, done, reads⟩, within⟩ := h
    refine ⟨rest ++ [.handlerStarted q], by rw [done]; rfl, ?_⟩
    refine reads.receive ⟨some (.dataRequest q), true⟩ ?_
    simp [Reader.receive, within]
  | complete | panic | respond | respondFailed | tick | beat | beatFailed | take | close =>
    simpa [effects] using h

theorem refines_of_run (run : Run config request notes c) :
    Refines config request (effects notes) c.reader c.place := by
  have start : Refines config request (effects []) (Connection.start request).reader
      (Connection.start request).place := ⟨rfl, rfl, rfl⟩
  refine run.invariant (I := fun notes c => Refines config request (effects notes) c.reader c.place)
    start ?_
  intro log s a s' _ h _ hs
  exact refines_of_moves h (moves_of_step hs)

/-- Whatever the other tasks do meanwhile, a reader that returns has done what `connectOnce` does in
some attempt of the network, and returns what it returns. -/
theorem reader_refines_connectOnce (fromShared : String → Except String Unit)
    (previous : Option String) (last : Option EpochMillis) (now : EpochMillis)
    {result : Except DeviceSdkError String}
    (uri : fromShared (normalizeHttpUri config.tcpAddr) = .ok ())
    (enabled : ¬ (previous.isSome ∧ config.sessionRecoveryWindowSeconds = 0))
    (run : Run config (registerRequest config previous last now) notes c)
    (returned : c.place = .returned result) :
    ∃ session, connectOnce fromShared config previous last (.opened now session) =
      (effects notes, result) := by
  have refines := refines_of_run run
  rw [returned] at refines
  rcases refines with ⟨done, rfl⟩ | ⟨inbound, stop, same⟩
  · refine ⟨⟨false, [], .closed⟩, ?_⟩
    simp [connectOnce, uri, enabled, done]
  · refine ⟨⟨true, inbound, stop⟩, ?_⟩
    simp only [connectOnce, uri, if_neg enabled, ↓reduceIte]
    exact same.symm

end Refinement

/-- A connection that is closed by the relay while a handler runs. -/
theorem closed_reader_refines_connectOnce :
    ∃ notes c, Run smallStation (registerRequest smallStation none none 0) notes c ∧
      c.place = .returned (.ok "c") ∧ c.handlers.length = 1 ∧
      ∃ session, connectOnce (fun _ => .ok ()) smallStation none none (.opened 0 session) =
        (effects notes, .ok "c") := by
  obtain ⟨⟨notes, c⟩, executed, facts⟩ : ∃ r : List Note × Connection,
      Runs.executeLogged (step smallStation) (fun _ _ => true) (emit smallStation) []
        (.start (registerRequest smallStation none none 0))
        [.register, .receive (some (.registerResponse "c" false)), .tick,
          .receive (some (.dataRequest ⟨"c", 1, [1]⟩)), .beat, .acquire, .finish .closed] = some r ∧
      (r.2.place, r.2.handlers.length) = (.returned (.ok "c"), 1) :=
    Option.map_eq_some_iff.1 (by decide +kernel)
  simp only [Prod.mk.injEq] at facts
  have run : Run smallStation (registerRequest smallStation none none 0) notes c :=
    .of_executeLogged (fun _ _ _ => trivial) _ .start executed
  exact ⟨notes, c, run, facts.1, facts.2, reader_refines_connectOnce (fun _ => .ok ()) none none 0
    rfl (by decide) run facts.1⟩

end GrpcRelay.DeviceSdk
