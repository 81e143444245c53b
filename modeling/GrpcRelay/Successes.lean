import GrpcRelay.CachedResults

/-!
# Requests that are recorded as successes

A loop counts a request as a success, and writes an audit record that says so, whenever its receiver
gets a response.  The responses that the relay makes up for a timeout, a disconnect or a failed
forward come through the same receiver, and so do the errors of devices.  The record is right as
long as no loop takes a response with an error from its receiver
(`success_is_recorded_for_ok_answers`).
-/

namespace GrpcRelay

open History

/-- A `controller_request` record of the audit log, less its times and the fields that are always
empty. -/
structure ControllerRequestRecord where
  controllerId : String
  deviceId : String
  methodName : String
  sequenceNumber : ℤ
  result : String
  errorCode : Option String
  bytesTransferred : Option ℕ
  deriving DecidableEq, Repr

/-- The audit records that loop `c` writes in its next step. -/
def Controller.audits (l : Controller) : List ControllerRequestRecord :=
  match l.pc with
  | .finishing m r .success =>
    [⟨m.controllerId, m.targetDeviceId, m.methodName, m.sequenceNumber, "success", none,
      some r.resp.encryptedPayload.length⟩]
  | .finishing m _ .internalError =>
    [⟨m.controllerId, m.targetDeviceId, m.methodName, m.sequenceNumber, "failure",
      some "INTERNAL_ERROR", none⟩]
  | _ => []

/-- What a loop does that can be seen outside: its events and its audit records. -/
inductive Observation where
  | event (e : Event)
  | audited (c : ℕ) (record : ControllerRequestRecord)

/-- What is seen of a step. -/
def observe (s : State) (a : Action) (s' : State) : List Observation :=
  match a with
  | .ctrl c _ =>
    (s'.trace.drop s.trace.length).map .event ++ (s.ctrl c).audits.map (.audited c)
  | _ => []

/-- The runs whose steps all meet `ok`, with what is seen of the loops. -/
abbrev Observed (cfg : Config) (ok : State → Action → Prop) : List Observation → State → Prop :=
  Runs.Logged (step cfg) ok observe (State.init cfg)

/-- Loop `c` records a success (true), or sends a response (false). -/
def Observation.signal (c : ℕ) : Observation → Option Bool
  | .event (.requestsTotal c' _ .success) => if c' = c then some true else none
  | .event (.answered c' _) => if c' = c then some false else none
  | .audited c' record => if c' = c ∧ record.result = "success" then some true else none
  | _ => none

/-- The response has no error. -/
def Reply.Ok (r : Reply) : Prop := r.resp.error = ErrorCode.ok.toInt

/-- No loop takes a response with an error from its receiver. -/
def TakesOk (s : State) (a : Action) : Prop :=
  ∀ c input m rx isNewForwarder, a = .ctrl c input → (s.ctrl c).pc = .waiting m rx isNewForwarder →
    ∀ r ∈ s.shared.table.channel rx, r.Ok

/-! ## Steps of a loop -/

namespace Controller

variable {cfg : Config} {sh : Shared} {c : ℕ} {l : Controller} {m : ControllerMessage}
  {input : CtrlInput} {next : Next Controller}

theorem authenticate_counts (c' : ℕ) (name : String) :
    .requestsTotal c' name .success ∉ (authenticate cfg sh c l m).events := by
  unfold authenticate
  repeat' split
  all_goals simp [refuse]

theorem limit_counts (c' : ℕ) (name : String) :
    .requestsTotal c' name .success ∉ (limit sh c l m).events := by
  unfold limit
  split
  all_goals simp [refuse]

theorem createMapping_counts (c' : ℕ) (name : String) :
    .requestsTotal c' name .success ∉ (createMapping sh c l m).events := by
  unfold createMapping
  repeat' split
  all_goals simp [refuse]

/-- A loop counts a success only when it finishes with the response that it received. -/
theorem finishing_of_counted (h : step cfg sh c l input = some next) {c' : ℕ} {name : String}
    (counted : .requestsTotal c' name .success ∈ next.events) :
    ∃ m r, l.pc = .finishing m r .success := by
  have move := moves_of_step h
  cases move
  case finished m r status sh' at_pc quiet =>
    obtain ⟨-, -, rfl⟩ : c' = c ∧ name = m.methodName ∧ .success = status := by simpa using counted
    exact ⟨m, r, at_pc⟩
  case refused m resp sh' connected counts at_pc quiet key all =>
    rcases at_pc with at_pc | at_pc | at_pc
    all_goals
      simp only [step, at_pc] at h
      have events := congrArg Next.events (Option.some.inj h)
      rw [← events] at counted
    · exact absurd counted (authenticate_counts c' name)
    · exact absurd counted (limit_counts c' name)
    · exact absurd counted (createMapping_counts c' name)
  all_goals simp at counted

/-- A loop finishes a success with a response from its receiver. -/
theorem received_of_finishing (move : Moves cfg sh c l input next) {r : Reply}
    (h : next.loc.pc = .finishing m r .success) :
    l.pc = .caching m r ∨ ∃ rx, l.pc = .waiting m rx false ∧ r ∈ sh.table.channel rx := by
  cases move
  case receivedShared m' rx r' at_pc sent =>
    obtain ⟨rfl, rfl⟩ : m' = m ∧ r' = r := by simpa [goto] using h
    exact .inr ⟨rx, at_pc, sent⟩
  case cached m' r' at_pc =>
    obtain ⟨rfl, rfl⟩ : m' = m ∧ r' = r := by simpa [goto] using h
    exact .inl at_pc
  case ended at_pc _ => rcases at_pc with ⟨-, rfl⟩ | ⟨-, rfl⟩ | ⟨-, rfl⟩ <;> simp [goto] at h
  all_goals simp [goto] at h

/-- What is seen of a step of loop `c`. -/
def seen (c : ℕ) (l : Controller) (next : Next Controller) : List Observation :=
  next.events.map .event ++ l.audits.map (.audited c)

theorem mem_seen {o : Observation} :
    o ∈ seen c l next ↔ (∃ e ∈ next.events, .event e = o) ∨
      ∃ record ∈ l.audits, .audited c record = o := by
  simp [seen]

/-- A step of a loop says nothing of another loop. -/
theorem signal_of_other (move : Moves cfg sh c l input next) {c' : ℕ} (other : c' ≠ c) :
    ∀ o ∈ seen c l next, o.signal c' = none := by
  intro o mem
  rcases mem_seen.1 mem with ⟨e, he, rfl⟩ | ⟨record, -, rfl⟩
  · cases events_of_moves move e he with
    | requestsTotal name status =>
      cases status <;> simp [Observation.signal, other.symm]
    | answered r => simp [Observation.signal, other.symm]
    | pulled | authorized | allowed | mapped | inflight | placed | cached => rfl
  · simp [Observation.signal, other.symm]

/-- A loop records a success only when it finishes with the response that it received. -/
theorem finishing_of_signal (h : step cfg sh c l input = some next) {o : Observation}
    (mem : o ∈ seen c l next) (signal : o.signal c = some true) :
    ∃ m r, l.pc = .finishing m r .success := by
  rcases mem_seen.1 mem with ⟨e, he, rfl⟩ | ⟨record, hr, rfl⟩
  · unfold Observation.signal at signal
    split at signal
    · rename_i heq
      cases heq
      exact finishing_of_counted h he
    · split_ifs at signal
      cases signal
    · rename_i heq
      cases heq
    · cases signal
  · unfold audits at hr
    split at hr
    · exact ⟨_, _, ‹_›⟩
    · obtain rfl := List.mem_singleton.1 hr
      simp [Observation.signal] at signal
    · cases hr

theorem next_of_sending (h : step cfg sh c l input = some next) {r : Reply}
    (at_pc : l.pc = .sending m r) : next = ⟨sh, l.goto .idle, [.answered c r]⟩ := by
  cases input <;> simp [step, at_pc] at h
  exact h.symm

theorem next_of_finishing (h : step cfg sh c l input = some next) {r : Reply}
    {status : RequestStatus} (at_pc : l.pc = .finishing m r status) :
    next = ⟨finishRequest sh l, l.goto (.sending m r), [.requestsTotal c m.methodName status]⟩ := by
  cases input <;> simp [step, at_pc] at h
  exact h.symm

theorem seen_of_sending (h : step cfg sh c l input = some next) {r : Reply}
    (at_pc : l.pc = .sending m r) : seen c l next = [.event (.answered c r)] := by
  rw [next_of_sending h at_pc]
  simp [seen, audits, at_pc]

/-- A loop that sends a response is not finishing. -/
theorem not_finishing_of_answered (h : step cfg sh c l input = some next) {c' : ℕ} {r r' : Reply}
    (mem : .event (.answered c' r') ∈ seen c l next) {status : RequestStatus} :
    l.pc ≠ .finishing m r status := by
  intro at_pc
  rw [next_of_finishing h at_pc] at mem
  simp [seen] at mem

end Controller

/-! ## Runs -/

/-- A response that a loop sends after it has recorded a success has no error. -/
def Justifies (past : List Observation) (o : Observation) : Prop :=
  ∀ c r, o = .event (.answered c r) → latest (Observation.signal c) past = some true → r.Ok

/-- The records so far are right, and so are those of the responses that the loops hold. -/
structure Truthful (log : List Observation) (s : State) : Prop where
  justified : Justified Justifies log
  owed : ∀ c, latest (Observation.signal c) log = some true →
    ∃ m r, (s.ctrl c).pc = .sending m r ∧ r.Ok
  held : ∀ c m r, (s.ctrl c).pc = .caching m r ∨ (s.ctrl c).pc = .finishing m r .success → r.Ok

variable {cfg : Config} {s s' : State} {a : Action} {log : List Observation}

namespace Truthful

variable {c : ℕ} {input : CtrlInput} {next : Next Controller} (T : Truthful log s)
include T

/-- A response that is sent in a step after a success was owed by the loop. -/
theorem justifies (h : Controller.step cfg s.shared c (s.ctrl c) input = some next)
    (past : List Observation) (o : Observation) (later : List Observation)
    (split : Controller.seen c (s.ctrl c) next = past ++ o :: later) :
    Justifies (log ++ past) o := by
  rintro c' r rfl recorded
  have mem : .event (.answered c' r) ∈ Controller.seen c (s.ctrl c) next := by simp [split]
  have same : c' = c := by
    by_contra other
    have := Controller.signal_of_other (Controller.moves_of_step h) other _ mem
    simp [Observation.signal] at this
  subst same
  rw [latest_append] at recorded
  cases before : latest (Observation.signal c') past with
  | none =>
    rw [before, Option.none_or] at recorded
    obtain ⟨m, r', at_pc, ok⟩ := T.owed c' recorded
    rw [Controller.seen_of_sending h at_pc] at mem
    obtain rfl : r = r' := by simpa using mem
    exact ok
  | some b =>
    rw [before, Option.some_or] at recorded
    obtain ⟨o, ho, signal⟩ := exists_of_latest (before.trans recorded)
    obtain ⟨m, r', at_pc⟩ := Controller.finishing_of_signal h (by simp [split, ho]) signal
    exact absurd at_pc (Controller.not_finishing_of_answered h mem)

/-- A loop that owes a response after a step has recorded the success in it. -/
theorem owes (h : Controller.step cfg s.shared c (s.ctrl c) input = some next)
    (recorded : latest (Observation.signal c) (log ++ Controller.seen c (s.ctrl c) next) =
      some true) : ∃ m r, next.loc.pc = .sending m r ∧ r.Ok := by
  rw [latest_append] at recorded
  cases now : latest (Observation.signal c) (Controller.seen c (s.ctrl c) next) with
  | none =>
    rw [now, Option.none_or] at recorded
    obtain ⟨m, r, at_pc, -⟩ := T.owed c recorded
    rw [Controller.seen_of_sending h at_pc] at now
    simp [latest, Observation.signal] at now
  | some b =>
    rw [now, Option.some_or] at recorded
    obtain ⟨o, ho, signal⟩ := exists_of_latest (now.trans recorded)
    obtain ⟨m, r, at_pc⟩ := Controller.finishing_of_signal h ho signal
    rw [Controller.next_of_finishing h at_pc]
    exact ⟨m, r, rfl, T.held c m r (.inr at_pc)⟩

/-- What a loop holds after a step it held before, or took from its receiver. -/
theorem holds (ok : TakesOk s (.ctrl c input))
    (move : Controller.Moves cfg s.shared c (s.ctrl c) input next) {m : ControllerMessage}
    {r : Reply} (at_pc : next.loc.pc = .caching m r ∨ next.loc.pc = .finishing m r .success) :
    r.Ok := by
  rcases at_pc with at_pc | at_pc
  · obtain ⟨rx, waiting, sent⟩ := Controller.caching_of_moves move at_pc
    exact ok c input m rx true rfl waiting r sent
  · rcases Controller.received_of_finishing move at_pc with caching | ⟨rx, waiting, sent⟩
    · exact T.held c m r (.inl caching)
    · exact ok c input m rx false rfl waiting r sent

theorem observed (ok : TakesOk s a) (hs : step cfg s a = some s') :
    Truthful (log ++ observe s a s') s' := by
  by_cases loop : ∃ c input, a = .ctrl c input
  · obtain ⟨c, input, rfl⟩ := loop
    obtain ⟨next, h, rfl⟩ := Option.map_eq_some_iff.1 hs
    have move := Controller.moves_of_step h
    have seen : observe s (.ctrl c input) (s.afterCtrl c next) =
        Controller.seen c (s.ctrl c) next := by
      simp [observe, Controller.seen, State.afterCtrl]
    rw [seen]
    refine ⟨T.justified.append (T.justifies h), fun c' recorded => ?_, fun c' m r at_pc => ?_⟩
    · by_cases same : c' = c
      · subst same
        simpa [State.afterCtrl] using T.owes h recorded
      · rw [latest_append_of_silent (Controller.signal_of_other move same)] at recorded
        simpa [State.afterCtrl, Function.update_of_ne same] using T.owed c' recorded
    · by_cases same : c' = c
      · subst same
        refine T.holds ok move (m := m) ?_
        simpa [State.afterCtrl] using at_pc
      · simp only [State.afterCtrl, Function.update_of_ne same] at at_pc
        exact T.held c' m r at_pc
  · have silent : observe s a s' = [] := by
      cases a with
      | ctrl c input => exact absurd ⟨c, input, rfl⟩ loop
      | dev | timer | reaper | advance | revokeControllerToken | revokeDeviceToken | allow
        | closeOutbound | evict => rfl
    have same (c : ℕ) : s'.ctrl c = s.ctrl c :=
      ctrl_of_cases (step_cases hs) fun input h => loop ⟨c, input, h⟩
    rw [silent, List.append_nil]
    refine ⟨T.justified, fun c => ?_, fun c => ?_⟩
    · rw [same]
      exact T.owed c
    · rw [same]
      exact T.held c

end Truthful

theorem truthful_of_observed (h : Observed cfg TakesOk log s) : Truthful log s := by
  refine Runs.Logged.invariant (I := Truthful) ⟨justified_nil, ?_, ?_⟩ ?_ h
  · intro c h
    cases h
  · intro c m r h
    simp [State.init] at h
  · intro log s a s' _ T ok hs
    exact T.observed ok hs

/-- In every run in which no loop takes a response with an error from its receiver, a loop that has
counted a request as a success, or written an audit record that says so, then sends a response
without error. -/
theorem success_is_recorded_for_ok_answers (h : Observed cfg TakesOk log s)
    {past later : List Observation} {c : ℕ} {r : Reply}
    (split : log = past ++ .event (.answered c r) :: later)
    (recorded : latest (Observation.signal c) past = some true) :
    r.resp.error = ErrorCode.ok.toInt :=
  (truthful_of_observed h).justified past _ later split c r rfl recorded

/-! ### Concrete runs -/

namespace Small

/-- The step takes no response with an error from a receiver. -/
def takesOk (s : State) : Action → Bool
  | .ctrl c _ =>
    match (s.ctrl c).pc with
    | .waiting _ rx _ => (s.shared.table.channel rx).all fun r => r.resp.error = ErrorCode.ok.toInt
    | _ => true
  | _ => true

theorem takesOk_sound (s : State) (a : Action) (h : takesOk s a = true) : TakesOk s a := by
  rintro c input m rx isNewForwarder rfl at_pc r sent
  simp only [takesOk, at_pc, List.all_eq_true, decide_eq_true_eq] at h
  exact h r sent

/-- The responses that are sent. -/
def sent : Observation → Option (ℕ × Reply)
  | .event e => answer e
  | .audited .. => none

/-- A log that ends in a response. -/
theorem split_of_sent {log : List Observation} {n c : ℕ} {r : Reply}
    (h : (log.drop n).map sent = [some (c, r)]) :
    log = log.take n ++ .event (.answered c r) :: [] := by
  obtain ⟨o, ho, hr⟩ := List.map_eq_singleton_iff.1 h
  obtain rfl : o = .event (.answered c r) := by
    cases o with
    | event e => exact congrArg _ (eq_answered hr)
    | audited => cases hr
  rw [← ho, List.take_append_drop]

end Small

theorem answered_request_is_success :
    ∃ log s past, Observed Small.guarded TakesOk log s ∧
      log = past ++ .event (.answered 0 ⟨⟨"d", 1, [2], 0⟩, .device 9⟩) :: [] ∧
      latest (Observation.signal 0) past = some true ∧
      (⟨"d", 1, [2], 0⟩ : DeviceResponse).error = ErrorCode.ok.toInt := by
  obtain ⟨⟨log, s⟩, run, view⟩ : ∃ out, Runs.executeLogged (step Small.guarded) Small.takesOk
      observe [] (State.init Small.guarded) Small.identifiedRun = some out ∧
      ((out.1.drop 9).map Small.sent, latest (Observation.signal 0) (out.1.take 9)) =
        ([some (0, ⟨⟨"d", 1, [2], 0⟩, .device 9⟩)], some true) :=
    Option.map_eq_some_iff.1 (by decide +kernel)
  have observed : Observed Small.guarded TakesOk log s :=
    .of_executeLogged Small.takesOk_sound _ .start run
  have split := Small.split_of_sent (congrArg Prod.fst view)
  have recorded : latest (Observation.signal 0) (log.take 9) = some true := congrArg Prod.snd view
  exact ⟨log, s, _, observed, split, recorded,
    success_is_recorded_for_ok_answers observed split recorded⟩

/-- A request that timed out is counted as a success, and its answer is `DEVICE_OFFLINE`. -/
theorem timeout_is_recorded_as_success :
    ¬ ∀ cfg log s past c r later, Observed cfg (fun _ _ => True) log s →
      log = past ++ .event (.answered c r) :: later →
      latest (Observation.signal c) past = some true → r.resp.error = ErrorCode.ok.toInt := by
  intro claim
  obtain ⟨⟨log, s⟩, run, view⟩ : ∃ out, Runs.executeLogged (step Small.config) (fun _ _ => true)
      observe [] (State.init Small.config) (Small.cachedTimeoutRun ++ Small.ticks 0 2) = some out ∧
      ((out.1.drop 9).map Small.sent, latest (Observation.signal 0) (out.1.take 9)) =
        ([some (0, Controller.offlineReply "d" 1)], some true) :=
    Option.map_eq_some_iff.1 (by decide +kernel)
  have observed : Observed Small.config (fun _ _ => True) log s :=
    .of_executeLogged (fun _ _ _ => trivial) _ .start run
  have ok := claim _ log s _ 0 _ [] observed (Small.split_of_sent (congrArg Prod.fst view))
    (congrArg Prod.snd view)
  exact absurd ok (by decide)

end GrpcRelay
