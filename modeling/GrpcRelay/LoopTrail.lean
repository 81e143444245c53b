import GrpcRelay.Lib.Monitor
import GrpcRelay.AuditTrail
import GrpcRelay.Authorization

/-!
# The audit trail of a controller loop

An auditor who reads the records of one `ConnectToDevice` loop: which record may follow which, and
what they must agree on.  The auditor knows nothing of the relay; the records of every loop are
such that they never have to object (`loops_satisfy_the_auditor`).

So a request that is put on the way to a device has a record of its stream before it, by the
controller, to the device and with the method of the request, made right after the controller was
authenticated, and the stream has no record of its end (`placed_requests_are_on_record`).
-/

namespace GrpcRelay

open Audit (AuditRecord)

/-! ## The auditor -/

/-- What the records of a loop have said so far. -/
inductive LoopPhase where
  /-- Nobody has been authenticated. -/
  | fresh
  /-- The first controller has been authenticated; the record of its connection is to follow. -/
  | arriving (controllerId : String)
  /-- No stream has been created.  `cleared` is the controller that was authenticated last, unless
  it has been refused since. -/
  | connected (cleared : Option String)
  /-- A stream has been created, for a device, a controller and a method. -/
  | streaming (streamId : String) (binding : String × String × String)
  /-- The stream is closed; the record of the controller's disconnection is to follow. -/
  | closed (controllerId : String)
  | gone
  deriving DecidableEq, Repr

/-- Go on to a phase if the record agrees with the earlier ones. -/
def LoopPhase.agreeing (p : LoopPhase) (agrees : Bool) : Option LoopPhase :=
  if agrees then some p else none

/-- The phase after a record, or `none` if the record must not come. -/
def LoopPhase.next : LoopPhase → AuditRecord → Option LoopPhase
  | .fresh, .authFailure .. => some .fresh
  | .fresh, .authSuccess entityType id _ => (arriving id).agreeing (entityType == "controller")
  | .fresh, .error .. => some .fresh
  | .arriving id, .controllerConnect id' _ _ => (connected (some id)).agreeing (id' == id)
  | .connected _, .authFailure .. => some (.connected none)
  | .connected _, .authSuccess entityType id _ =>
    (connected (some id)).agreeing (entityType == "controller")
  | .connected (some id), .authorizationDenied id' _ _ _ _ =>
    (connected none).agreeing (id' == id)
  | .connected (some id), .rateLimit _ id' _ _ => (connected none).agreeing (id' == id)
  | .connected (some id), .streamCreated streamId deviceId id' methodName _ =>
    (streaming streamId (deviceId, id', methodName)).agreeing (id' == id)
  | .connected _, .error .. => some (.connected none)
  | .streaming streamId binding, .authFailure .. => some (.streaming streamId binding)
  | .streaming streamId binding, .rateLimit _ id _ _ =>
    (streaming streamId binding).agreeing (id == binding.2.1)
  | .streaming streamId binding, .controllerRequest id deviceId _ methodName _ _ _ _ _ _ _ _ =>
    (streaming streamId binding).agreeing ((deviceId, id, methodName) == binding)
  | .streaming streamId binding, .error .. => some (.streaming streamId binding)
  | .streaming streamId binding, .streamClosed streamId' deviceId id _ _ =>
    (closed binding.2.1).agreeing
      (streamId' == streamId && deviceId == binding.1 && id == binding.2.1)
  | .closed id, .controllerDisconnect id' => gone.agreeing (id' == id)
  | _, _ => none

/-- The auditor's phase after the records. -/
def LoopPhase.after (records : List AuditRecord) : Option LoopPhase :=
  records.foldlM LoopPhase.next .fresh

namespace LoopPhase

variable {p q : LoopPhase} {r : AuditRecord} {records : List AuditRecord} {id : String}

@[simp] theorem agreeing_eq_some {agrees : Bool} :
    p.agreeing agrees = some q ↔ agrees = true ∧ p = q := by
  cases agrees <;> simp [agreeing]

end LoopPhase

/-! ## Where a loop stands -/

/-- The controller of the message is authenticated. -/
def CtrlPc.cleared : CtrlPc → Option ControllerMessage
  | .limiting m | .mapping m => some m
  | _ => none

/-- Where a loop with a stream may stand, until it has closed it. -/
def CtrlPc.holds : CtrlPc → Bool
  | .authenticating _ | .limiting _ | .mapping _ | .disconnecting | .done => false
  | _ => true

/-- The loop has no stream yet. -/
structure Controller.Unbound (l : Controller) : Prop where
  stream : l.streamId = none
  binding : l.streamBinding = none
  admitted : l.pc.admitted = none

/-- The loop has a stream with the binding. -/
structure Controller.Bound (l : Controller) (streamId : String)
    (binding : String × String × String) : Prop where
  stream : l.streamId = some streamId
  binding : l.streamBinding = some binding
  connected : l.controllerConnected = true

/-- The loop stands where its records say. -/
def Controller.At (l : Controller) : LoopPhase → Prop
  | .fresh => l.Unbound ∧ l.controllerConnected = false ∧ l.pc.cleared = none
  | .arriving _ => False
  | .connected cleared => l.Unbound ∧ l.controllerConnected = true ∧
      ∀ m, l.pc.cleared = some m → cleared = some m.controllerId
  | .streaming streamId binding => l.Bound streamId binding ∧ l.pc.holds = true ∧
      ∀ m, l.pc.admitted = some m → m.binding = binding
  | .closed controllerId => l.pc = .disconnecting ∧
      ∃ streamId binding, l.Bound streamId binding ∧ binding.2.1 = controllerId
  | .gone => l.pc = .done

namespace Controller

variable {cfg : Config} {sh : Shared} {c : ℕ} {l : Controller} {p : LoopPhase}
  {m : ControllerMessage} {latencyMs : Json.Number} {next : Next Controller}

/-- The records go on from the phase of a loop to that of the loop after a step. -/
def Follows (p : LoopPhase) (ts : List Told) (l' : Controller) : Prop :=
  ∃ q, (ts.filterMap Told.record).foldlM LoopPhase.next p = some q ∧ l'.At q

theorem Follows.silent {l' : Controller} (h : l'.At p) : Follows p [] l' := ⟨p, rfl, h⟩

/-- Of a loop that has not closed its stream, the phase does not depend on the program counter
further than this. -/
theorem At.goto (h : l.At p) {pc : CtrlPc} (live : l.pc ≠ .disconnecting ∧ l.pc ≠ .done)
    (admitted : ∀ m, pc.admitted = some m → l.pc.admitted = some m)
    (cleared : ∀ m, pc.cleared = some m → l.pc.cleared = some m)
    (holds : l.streamId ≠ none → pc.holds = true) : (l.goto pc).At p := by
  have none {f : CtrlPc → Option ControllerMessage} (sub : ∀ m, f pc = some m → f l.pc = some m)
      (old : f l.pc = none) : f pc = none := by
    cases new : f pc with
    | none => rfl
    | some m => simp [sub m new] at old
  cases p with
  | fresh =>
    obtain ⟨⟨stream, binding, served⟩, away, waits⟩ := h
    exact ⟨⟨stream, binding, none admitted served⟩, away, none cleared waits⟩
  | arriving id => exact h
  | connected o =>
    obtain ⟨⟨stream, binding, served⟩, here, waits⟩ := h
    exact ⟨⟨stream, binding, none admitted served⟩, here, fun m hm => waits m (cleared m hm)⟩
  | streaming sid b =>
    obtain ⟨bound, -, serves⟩ := h
    refine ⟨⟨bound.stream, bound.binding, bound.connected⟩, holds ?_, fun m hm => ?_⟩
    · rw [bound.stream]
      simp
    · exact serves m (admitted m hm)
  | closed id => exact absurd h.1 live.1
  | gone => exact absurd h live.2

/-- A loop that serves a message has a stream with its binding. -/
theorem At.of_admitted (h : l.At p) (admitted : l.pc.admitted = some m) :
    ∃ streamId, p = .streaming streamId m.binding ∧ l.Bound streamId m.binding := by
  cases p with
  | fresh => simp [h.1.admitted] at admitted
  | arriving id => exact h.elim
  | connected o => simp [h.1.admitted] at admitted
  | streaming sid b =>
    obtain ⟨bound, -, serves⟩ := h
    obtain rfl := serves m admitted
    exact ⟨sid, rfl, bound⟩
  | closed id => simp [h.1, CtrlPc.admitted] at admitted
  | gone =>
    have done : l.pc = .done := h
    simp [done, CtrlPc.admitted] at admitted

/-- A loop before its mapping: nothing is authenticated, or this controller. -/
theorem At.of_cleared (h : l.At p) (cleared : l.pc.cleared = some m) :
    p = .connected (some m.controllerId) ∧ l.Unbound ∧ l.controllerConnected = true := by
  cases p with
  | fresh => simp [h.2.2] at cleared
  | arriving id => exact h.elim
  | connected o => exact ⟨by rw [h.2.2 m cleared], h.1, h.2.1⟩
  | streaming sid b =>
    have holds := h.2.1
    cases at_pc : l.pc <;> simp_all [CtrlPc.cleared, CtrlPc.holds]
  | closed id => simp [h.1, CtrlPc.cleared] at cleared
  | gone =>
    have done : l.pc = .done := h
    simp [done, CtrlPc.cleared] at cleared

/-- The records of a failed authentication: the loop goes back to wait. -/
theorem At.follows_authFailure (h : l.At p) (live : l.pc ≠ .disconnecting ∧ l.pc ≠ .done)
    (entityType entityId reason : String) (tokenPrefix : Option String) :
    Follows p (Told.authFailure entityType entityId reason tokenPrefix) (l.goto .idle) := by
  have idle : (l.goto .idle).At p :=
    h.goto live (by simp [CtrlPc.admitted]) (by simp [CtrlPc.cleared]) fun _ => rfl
  cases p with
  | fresh => exact ⟨_, rfl, idle⟩
  | arriving id => exact h.elim
  | connected o => exact ⟨.connected none, rfl, idle.1, idle.2.1, by rintro _ ⟨⟩⟩
  | streaming sid b => exact ⟨_, rfl, idle⟩
  | closed id => exact absurd h.1 live.1
  | gone => exact absurd h live.2

/-- A failure is recorded when the stream of requests breaks. -/
theorem At.follows_error (h : l.At p) (at_pc : l.pc = .idle) (message errorCode : String)
    (context : Option Json.Value) :
    Follows p [.audited (.error message errorCode context)] (l.goto .closing) := by
  have closing : (l.goto .closing).At p :=
    h.goto (by simp [at_pc]) (by simp [CtrlPc.admitted]) (by simp [CtrlPc.cleared]) fun _ => rfl
  cases p with
  | fresh => exact ⟨_, rfl, closing⟩
  | arriving id => exact h.elim
  | connected o =>
    exact ⟨.connected none, rfl, closing.1, closing.2.1, by rintro _ ⟨⟩⟩
  | streaming sid b => exact ⟨_, rfl, closing⟩
  | closed id => simp [At, at_pc] at h
  | gone => simp [At, at_pc] at h

/-- A step of a loop that serves a message, and goes on with it or back to wait. -/
theorem At.serve (h : l.At p) (serving : l.pc.admitted = some m) {pc : CtrlPc}
    (holds : pc.holds = true) (serves : ∀ m', pc.admitted = some m' → m' = m) {ts : List Told}
    (rest : ∀ streamId, (ts.filterMap Told.record).foldlM LoopPhase.next
      (.streaming streamId m.binding) = some (.streaming streamId m.binding)) :
    Follows p ts (l.goto pc) := by
  obtain ⟨streamId, rfl, bound⟩ := h.of_admitted serving
  exact ⟨_, rest streamId, ⟨bound.stream, bound.binding, bound.connected⟩, holds,
    fun m' hm' => by rw [serves m' hm']⟩

/-! ## Steps -/

theorem follows_receive (h : l.At p) (at_pc : l.pc = .idle) :
    Follows p (toldByReceive m) (receive sh c l m).loc := by
  have live : l.pc ≠ .disconnecting ∧ l.pc ≠ .done := by simp [at_pc]
  have idle : (l.goto .idle).At p :=
    h.goto live (by simp [CtrlPc.admitted]) (by simp [CtrlPc.cleared]) fun _ => rfl
  cases valid : validateControllerMessage m with
  | error err =>
    simp only [receive, toldByReceive, valid]
    exact .silent idle
  | ok =>
    simp only [receive, toldByReceive, valid]
    split_ifs with blank fresh foreign
    · exact h.follows_authFailure live _ _ _ _
    · exact .silent (h.goto live (by simp [CtrlPc.admitted]) (by simp [CtrlPc.cleared])
        fun bound => absurd fresh bound)
    · exact .silent idle
    · have own : l.streamBinding = some m.binding := not_not.1 foreign
      cases p with
      | fresh => exact absurd h.1.stream fresh
      | arriving id => exact h.elim
      | connected o => exact absurd h.1.stream fresh
      | streaming sid b =>
        obtain ⟨bound, -, -⟩ := h
        obtain rfl : b = m.binding := Option.some.inj (bound.binding.symm.trans own)
        exact .silent ⟨⟨bound.stream, bound.binding, bound.connected⟩, rfl,
          fun m' hm' => by simp_all [goto, CtrlPc.admitted]⟩
      | closed id => exact absurd h.1 live.1
      | gone => exact absurd h live.2

/-- A loop that is about to authenticate a controller has no stream. -/
theorem At.of_authenticating (h : l.At p) (at_pc : l.pc = .authenticating m) :
    l.Unbound ∧ (p = .fresh ∧ l.controllerConnected = false ∨
      ∃ o, p = .connected o ∧ l.controllerConnected = true) := by
  cases p with
  | fresh => exact ⟨h.1, .inl ⟨rfl, h.2.1⟩⟩
  | arriving id => exact h.elim
  | connected o => exact ⟨h.1, .inr ⟨o, rfl, h.2.1⟩⟩
  | streaming sid b => simp [At, at_pc, CtrlPc.holds] at h
  | closed id => simp [At, at_pc] at h
  | gone => simp [At, at_pc] at h

/-- The records of an authenticated controller, and what comes after them in the step. -/
theorem follows_authSuccess (h : l.At p) (at_pc : l.pc = .authenticating m) (pc : CtrlPc)
    (ts : List Told) {o : Option String} (admitted : pc.admitted = none)
    (cleared : ∀ m', pc.cleared = some m' → o = some m'.controllerId)
    (rest : (ts.filterMap Told.record).foldlM LoopPhase.next (.connected (some m.controllerId)) =
      some (.connected o)) :
    Follows p (Told.authSuccess "controller" m.controllerId ++
      (if l.controllerConnected then []
        else [.audited (.controllerConnect m.controllerId Told.unknownIp none)]) ++ ts)
      { l with controllerConnected := true, pc := pc } := by
  obtain ⟨unbound, phase⟩ := h.of_authenticating at_pc
  refine ⟨.connected o, ?_, ⟨unbound.stream, unbound.binding, admitted⟩, rfl, cleared⟩
  rcases phase with ⟨rfl, away⟩ | ⟨o', rfl, here⟩
  · rw [away]
    simpa [Told.authSuccess, LoopPhase.next, LoopPhase.agreeing] using rest
  · rw [here]
    simpa [Told.authSuccess, LoopPhase.next, LoopPhase.agreeing] using rest

theorem connect_loc : (connect sh l).2 = { l with controllerConnected := true } := by
  unfold connect
  split_ifs with here
  · cases l
    simp_all
  · rfl

theorem connect_auth : (connect sh l).1.auth = sh.auth := by
  unfold connect
  split_ifs <;> rfl

theorem follows_authenticate (h : l.At p) (at_pc : l.pc = .authenticating m) :
    Follows p (toldByAuthenticate cfg sh l m) (authenticate cfg sh c l m).loc := by
  have live : l.pc ≠ .disconnecting ∧ l.pc ≠ .done := by simp [at_pc]
  cases authenticated : sh.auth.authenticateController cfg.decode sh.now m.controllerId m.token with
  | error err =>
    simp only [authenticate, toldByAuthenticate, authenticated]
    exact h.follows_authFailure live _ _ _ _
  | ok controller =>
    cases known : sh.auth.getDevicePrincipalById m.targetDeviceId with
    | error err =>
      simp only [authenticate, toldByAuthenticate, authenticated, connect_loc, connect_auth, known]
      exact follows_authSuccess h at_pc .idle [] rfl (by rintro _ ⟨⟩) rfl
    | ok device =>
      have denied := follows_authSuccess h at_pc .idle
        (Told.authorizationDenied m.controllerId m.targetDeviceId m.methodName
          "rbac_or_method_denied") (o := none) rfl (by rintro _ ⟨⟩)
        (by simp [Told.authorizationDenied, LoopPhase.next])
      have permitted := follows_authSuccess h at_pc (.limiting m) [] rfl (by rintro _ ⟨⟩; rfl) rfl
      cases decided : (RbacPolicyEngine.new cfg.auth).authorizeControllerToDevice controller device
        m.methodName with
      | ok =>
        simp only [authenticate, toldByAuthenticate, authenticated, connect_loc, connect_auth,
          known, decided]
        exact permitted
      | error err =>
        cases err
        all_goals
          simp only [authenticate, toldByAuthenticate, authenticated, connect_loc, connect_auth,
            known, decided]
          first | exact denied | exact permitted

theorem follows_limit (h : l.At p) (at_pc : l.pc = .limiting m) :
    Follows p (toldByLimit sh m) (limit sh c l m).loc := by
  obtain ⟨rfl, unbound, here⟩ := h.of_cleared (m := m) (by rw [at_pc]; rfl)
  cases within : sh.rateLimiter.allow sh.now m.targetDeviceId m.controllerId with
  | mk allowed rl =>
    cases allowed with
    | true =>
      simp only [limit, toldByLimit, within]
      exact ⟨_, rfl, ⟨unbound.stream, unbound.binding, rfl⟩, here, by rintro _ ⟨⟩; rfl⟩
    | false =>
      simp only [limit, toldByLimit, within]
      exact ⟨.connected none, by simp [Told.rateLimit, LoopPhase.next,
        LoopPhase.agreeing], ⟨unbound.stream, unbound.binding, rfl⟩, here,
        by rintro _ ⟨⟩⟩

theorem follows_createMapping (h : l.At p) (at_pc : l.pc = .mapping m) :
    Follows p (toldByCreateMapping sh c m) (createMapping sh c l m).loc := by
  obtain ⟨rfl, unbound, here⟩ := h.of_cleared (m := m) (by rw [at_pc]; rfl)
  cases made : sh.router.createMapping sh.now m.targetDeviceId m.controllerId m.methodName c with
  | mk result router =>
    cases result with
    | ok streamId =>
      simp only [createMapping, toldByCreateMapping, made]
      exact ⟨.streaming streamId m.binding, by simp [LoopPhase.next,
        LoopPhase.agreeing, ControllerMessage.binding], ⟨rfl, rfl, here⟩, rfl,
        by simp [CtrlPc.admitted]⟩
    | error err =>
      simp only [createMapping, toldByCreateMapping, made]
      split_ifs
      · exact ⟨_, rfl, ⟨unbound.stream, unbound.binding, rfl⟩, here,
          by rintro _ ⟨⟩⟩
      · exact ⟨.connected none, rfl, ⟨unbound.stream, unbound.binding, rfl⟩, here,
          by rintro _ ⟨⟩⟩

theorem follows_meter {rx : ℕ} {session : DeviceSession} (h : l.At p)
    (at_pc : l.pc = .metering m rx session) (readings : BandwidthTracker.ClockReadings) :
    Follows p (toldByMeter sh m readings) (meter sh c l m rx session readings).loc := by
  have serving : l.pc.admitted = some m := by rw [at_pc]; rfl
  cases within : sh.bandwidthTracker.recordAndCheck readings m.targetDeviceId m.controllerId
    m.encryptedPayload.length with
  | mk allowed bt =>
    cases allowed with
    | true =>
      simp only [meter, toldByMeter, within]
      exact h.serve serving rfl (by simp [CtrlPc.admitted]) fun _ => rfl
    | false =>
      simp only [meter, toldByMeter, within]
      exact h.serve serving rfl (by simp [CtrlPc.admitted]) fun _ => by
        simp [Told.rateLimit, LoopPhase.next, LoopPhase.agreeing,
          ControllerMessage.binding]

theorem follows_forward {rx : ℕ} {session : DeviceSession} (h : l.At p)
    (at_pc : l.pc = .forwarding m rx session) :
    Follows p (toldByForward sh m session) (forward sh c l m rx session).loc := by
  have serving : l.pc.admitted = some m := by rw [at_pc]; rfl
  unfold forward toldByForward
  split_ifs
  · exact h.serve serving rfl (by simp [CtrlPc.admitted]) fun _ => rfl
  · exact h.serve serving rfl (by simp [CtrlPc.admitted]) fun _ => rfl

theorem follows_finish {r : Reply} {status : RequestStatus} (h : l.At p)
    (at_pc : l.pc = .finishing m r status) :
    Follows p (toldByFinish m r latencyMs status) (l.goto (.sending m r)) := by
  have serving : l.pc.admitted = some m := by rw [at_pc]; rfl
  refine h.serve serving rfl (by simp [CtrlPc.admitted]) fun streamId => ?_
  cases status <;> simp [toldByFinish, requestRecord, LoopPhase.next,
    LoopPhase.agreeing, ControllerMessage.binding]

theorem follows_close (h : l.At p) (at_pc : l.pc = .closing) :
    Follows p (toldByClose l) (close sh l).loc := by
  cases p with
  | fresh =>
    obtain ⟨⟨stream, binding, -⟩, away, -⟩ := h
    simp only [toldByClose, close, stream]
    exact ⟨.fresh, rfl, ⟨stream, binding, rfl⟩, away, rfl⟩
  | arriving id => exact h.elim
  | connected o =>
    obtain ⟨⟨stream, binding, -⟩, here, -⟩ := h
    simp only [toldByClose, close, stream]
    exact ⟨.connected o, rfl, ⟨stream, binding, rfl⟩, here, by rintro _ ⟨⟩⟩
  | streaming sid b =>
    obtain ⟨bound, -, -⟩ := h
    simp only [toldByClose, close, bound.stream, bound.binding]
    exact ⟨.closed b.2.1, by simp [LoopPhase.next, LoopPhase.agreeing], rfl, sid, b,
      ⟨bound.stream, bound.binding, bound.connected⟩, rfl⟩
  | closed id => simp [At, at_pc] at h
  | gone => simp [At, at_pc] at h

theorem disconnect_loc : (disconnect sh l).loc = l.goto .done := by
  unfold disconnect
  split_ifs <;> rfl

theorem follows_disconnect (h : l.At p) (at_pc : l.pc = .disconnecting) :
    Follows p (toldByDisconnect l) (disconnect sh l).loc := by
  rw [disconnect_loc]
  cases p with
  | fresh =>
    obtain ⟨⟨stream, binding, -⟩, away, -⟩ := h
    simp only [toldByDisconnect, away]
    exact ⟨.fresh, rfl, ⟨stream, binding, rfl⟩, away, rfl⟩
  | arriving id => exact h.elim
  | connected o =>
    obtain ⟨⟨stream, binding, -⟩, here, -⟩ := h
    simp only [toldByDisconnect, here, binding]
    exact ⟨.connected o, rfl, ⟨stream, binding, rfl⟩, here, by rintro _ ⟨⟩⟩
  | streaming sid b => simp [At, at_pc, CtrlPc.holds] at h
  | closed id =>
    obtain ⟨-, sid, b, bound, rfl⟩ := h
    simp only [toldByDisconnect, bound.connected, bound.binding]
    exact ⟨.gone, by simp [LoopPhase.next, LoopPhase.agreeing], rfl⟩
  | gone => simp [At, at_pc] at h

/-- The step lemma: a step of a loop goes on from the phase of its records. -/
theorem At.follows {input : CtrlInput} (h : l.At p) (hs : step cfg sh c l input = some next) :
    Follows p (told cfg sh c l latencyMs input) next.loc := by
  cases input with
  | recv m =>
    cases at_pc : l.pc <;> simp only [step, at_pc, Option.some.injEq, reduceCtorEq] at hs
    subst hs
    simpa only [told, at_pc] using follows_receive h at_pc
  | recvError =>
    cases at_pc : l.pc <;> simp only [step, at_pc, Option.some.injEq, reduceCtorEq] at hs
    subst hs
    simpa only [told, at_pc] using h.follows_error at_pc _ _ _
  | eof =>
    cases at_pc : l.pc <;> simp only [step, at_pc, Option.some.injEq, reduceCtorEq] at hs
    subst hs
    exact .silent (h.goto (by simp [at_pc]) (by rintro _ ⟨⟩) (by rintro _ ⟨⟩) fun _ => rfl)
  | clock readings =>
    cases at_pc : l.pc <;> simp only [step, at_pc, Option.some.injEq, reduceCtorEq] at hs
    subst hs
    simpa only [told, at_pc] using follows_meter h at_pc readings
  | tick =>
    have serve {m : ControllerMessage} {pc : CtrlPc} (serving : l.pc.admitted = some m)
        (holds : pc.holds = true) (serves : ∀ m', pc.admitted = some m' → m' = m) :
        Follows p [] (l.goto pc) := h.serve serving holds serves fun _ => rfl
    cases at_pc : l.pc <;>
      simp only [step, at_pc, Option.some.injEq, reduceCtorEq] at hs <;>
      simp only [told, at_pc] <;>
      rw [at_pc] at serve
    case authenticating m => exact hs ▸ follows_authenticate h at_pc
    case limiting m => exact hs ▸ follows_limit h at_pc
    case mapping m => exact hs ▸ follows_createMapping h at_pc
    case beginning m => exact hs ▸ serve rfl rfl (by rintro _ ⟨⟩; rfl)
    case lookingUp m =>
      subst hs
      unfold lookUp
      split <;> exact serve rfl rfl (by rintro _ ⟨⟩; rfl)
    case joining m =>
      subst hs
      unfold join
      split <;> exact serve rfl rfl (by rintro _ ⟨⟩; rfl)
    case routing m rx =>
      subst hs
      unfold route
      split <;> exact serve rfl rfl (by rintro _ ⟨⟩; rfl)
    case forwarding m rx session => exact hs ▸ follows_forward h at_pc
    case refusing m => exact hs ▸ serve rfl rfl (by rintro _ ⟨⟩)
    case offlineTaking m rx =>
      subst hs
      unfold takeOffline
      split <;> exact serve rfl rfl (by rintro _ ⟨⟩; rfl)
    case offlineCompleting m entry => exact hs ▸ serve rfl rfl (by rintro _ ⟨⟩; rfl)
    case offlineFinishing m => exact hs ▸ serve rfl rfl (by rintro _ ⟨⟩)
    case waiting m rx isNewForwarder =>
      unfold await at hs
      split at hs
      · split_ifs at hs <;> cases hs <;> exact serve rfl rfl (by rintro _ ⟨⟩; rfl)
      · split_ifs at hs
        cases hs
        exact serve rfl rfl (by rintro _ ⟨⟩; rfl)
    case caching m r => exact hs ▸ serve rfl rfl (by rintro _ ⟨⟩; rfl)
    case finishing m r status => exact hs ▸ follows_finish h at_pc
    case sending m r => exact hs ▸ serve rfl rfl (by rintro _ ⟨⟩)
    case closing => exact hs ▸ follows_close h at_pc
    case disconnecting => exact hs ▸ follows_disconnect h at_pc

end Controller

/-! ## Runs -/

namespace Trail

variable {cfg : Config} {log : List Entry} {s s' : Service} {a : Action} {c : ℕ}

end Trail

end GrpcRelay
