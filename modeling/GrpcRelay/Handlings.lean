import GrpcRelay.Registry

/-!
# Interleaved registrations and cleanups

Other streams may come between the operations of a `Register` or a cleanup: a session whose
connection id is removed before it is inserted leaves this id behind, and one that is installed
between another stream's check and its removal is removed with it.  In runs without these two
races, and without connection ids that are used twice, the maps are those of the same handlings
one after the other (`registry_is_linearizable`).  A session may be replaced before its connection
id is inserted, as long as the id is inserted before it is removed.
-/

namespace GrpcRelay

open Linearize

/-! ## Steps of the relay -/

/-- The handling of stream `i` that returns with a step to `pc`: a `Register` with its last
operation on the maps, a cleanup when the stream is done. -/
def Device.returns (i : ℕ) (l : Device) (pc : DevPc) : List Handling :=
  match l.pc with
  | .linking msg request cid _ => [.register ⟨msg.deviceId, cid, request.metadata, i⟩]
  | .verifying did _ _ | .removingSession did | .removingLastSeen did =>
    match pc with
    | .done => [.cleanup i did l.currentConnectionId]
    | _ => []
  | _ => []

/-- The handlings that return with a step. -/
def handled (s : State) (a : Action) (s' : State) : List Handling :=
  match a with
  | .dev i _ => (s.dev i).returns i (s'.dev i).pc
  | _ => []

/-- A session is inserted only while no other stream is about to remove the session of the device,
the connection id of a session is removed only after it was inserted, and connection ids are drawn
that are not in use. -/
def RaceFree (s : State) : Action → Prop
  | .dev i _ =>
    match (s.dev i).pc with
    | .numbering _ _ => s.registry.Unused s.maps.nextId
    | .installing msg _ _ _ => s.registry.Undisturbed i msg.deviceId
    | .unlinking _ _ _ _ previous => s.registry.Inserted i previous
    | _ => True
  | _ => True

section Steps

variable {cfg : Config} {s s' : State} {i : ℕ} {next : Next Device}

variable (s i next) in
/-- What is read of each stream after a step of one. -/
theorem readings_afterDev {α : Type} (f : ℕ → Device → α) :
    (fun j => f j ((s.afterDev i next).dev j)) =
      Function.update (fun j => f j (s.dev j)) i (f i next.loc) := by
  funext j
  by_cases hj : j = i
  · rw [hj, State.dev_afterDev_self, Function.update_self]
  · rw [State.dev_afterDev_of_ne s hj, Function.update_of_ne hj]

theorem registry_afterDev :
    (s.afterDev i next).registry =
      ⟨next.shared.relay.sessionsByDeviceId, next.shared.relay.connectionToDeviceId,
        Function.update s.registry.stage i (next.loc.pc.stage i),
        Function.update s.registry.connectionId i next.loc.currentConnectionId⟩ := by
  have stages := readings_afterDev s i next fun j l => l.pc.stage j
  have connections := readings_afterDev s i next fun _ l => l.currentConnectionId
  unfold State.registry
  rw [stages, connections]
  rfl

/-- A step of a stream that keeps its connection id. -/
theorem registry_afterDev_of_connection
    (connection : next.loc.currentConnectionId = (s.dev i).currentConnectionId) :
    (s.afterDev i next).registry =
      { s.registry.goto i (next.loc.pc.stage i) with
        sessions := next.shared.relay.sessionsByDeviceId
        connections := next.shared.relay.connectionToDeviceId } := by
  have same : (s.dev i).currentConnectionId = s.registry.connectionId i := rfl
  rw [registry_afterDev, connection, same, Function.update_eq_self]
  rfl

/-- A step of a stream that leaves the maps alone. -/
theorem registry_afterDev_of_same
    (sessions : next.shared.relay.sessionsByDeviceId = s.shared.relay.sessionsByDeviceId)
    (connections : next.shared.relay.connectionToDeviceId = s.shared.relay.connectionToDeviceId)
    (connection : next.loc.currentConnectionId = (s.dev i).currentConnectionId) :
    (s.afterDev i next).registry = s.registry.goto i (next.loc.pc.stage i) := by
  rw [registry_afterDev_of_connection connection, sessions, connections]
  rfl

theorem RegistryView.goto_self {v : RegistryView} {stage : Stage} (h : v.stage i = stage) :
    v.goto i stage = v := by
  rw [RegistryView.goto, ← h, Function.update_eq_self]

namespace Device

variable {sh : Shared} {n : ℕ} {l : Device} {msg : DeviceMessage}

/-- The step neither acts on the two maps nor begins or ends a handling. -/
structure Keeps (sh : Shared) (i : ℕ) (l : Device) (next : Next Device) : Prop where
  sessions : next.shared.relay.sessionsByDeviceId = sh.relay.sessionsByDeviceId
  connections : next.shared.relay.connectionToDeviceId = sh.relay.connectionToDeviceId
  connection : next.loc.currentConnectionId = l.currentConnectionId
  stage : next.loc.pc.stage i = .away

theorem keeps_receive : Keeps sh i l (receive sh l msg) := by
  unfold receive
  split_ifs <;> exact ⟨rfl, rfl, rfl, rfl⟩

theorem keeps_handle : Keeps sh i l (handle sh n i l msg) := by
  unfold handle
  split_ifs
  · split
    · unfold register
      split <;> exact ⟨rfl, rfl, rfl, rfl⟩
    · unfold heartbeat
      split <;> exact ⟨rfl, rfl, rfl, rfl⟩
    · unfold data
      split
      · exact ⟨rfl, rfl, rfl, rfl⟩
      · split
        · rename_i heq
          exact ⟨(congrArg (fun x => x.1.sessionsByDeviceId) heq).symm,
            (congrArg (fun x => x.1.connectionToDeviceId) heq).symm, rfl, rfl⟩
        · exact ⟨rfl, rfl, rfl, rfl⟩
    · exact ⟨rfl, rfl, rfl, rfl⟩
  · exact ⟨rfl, rfl, rfl, rfl⟩

theorem keeps_sweep {did : String} {reason : DisconnectReason} {taken : List (ℤ × ℕ)}
    {keys : List RequestKey} : Keeps sh i l (sweep sh l did reason taken keys) := by
  cases keys with
  | nil => exact ⟨rfl, rfl, rfl, rfl⟩
  | cons key keys =>
    simp only [sweep]
    split
    · rename_i heq
      exact ⟨(congrArg (fun x => x.1.sessionsByDeviceId) heq).symm,
        (congrArg (fun x => x.1.connectionToDeviceId) heq).symm, rfl, rfl⟩
    · exact ⟨rfl, rfl, rfl, rfl⟩

/-- The streams that act on the two maps are those at a stage of a handling, those that draw a
connection id and those that check the session. -/
def acts : DevPc → Bool
  | .numbering .. | .resuming .. | .installing .. | .unlinking .. | .linking .. | .verifying ..
  | .removingSession .. | .removingConnection .. | .removingLastSeen .. => true
  | _ => false

theorem keeps_of_step {input : DevInput} (h : step cfg sh n i l input = some next)
    (idle : acts l.pc = false) : Keeps sh i l next := by
  unfold step at h
  split at h
  case h_1 =>
    split at h <;> cases h
    exact keeps_receive
  case h_2 | h_3 | h_4 => split at h <;> cases h; exact ⟨rfl, rfl, rfl, rfl⟩
  case h_5 =>
    split at h <;> cases h
    rename_i isHealthy _ _ _ _
    cases isHealthy
    · exact ⟨rfl, rfl, rfl, rfl⟩
    · exact ⟨rfl, rfl, rfl, rfl⟩
  case h_6 =>
    split at h
    · unfold visit at h
      split at h
      · cases h
      · split_ifs at h
        cases h
        exact ⟨rfl, rfl, rfl, rfl⟩
    · cases h
  case h_7 =>
    split at h
    case h_2 => cases h; exact keeps_handle
    case h_3 =>
      cases h
      unfold allowDevice
      split <;> exact ⟨rfl, rfl, rfl, rfl⟩
    case h_11 => cases h; unfold close; split <;> exact ⟨rfl, rfl, rfl, rfl⟩
    case h_13 => cases h; exact keeps_sweep
    case h_14 | h_15 =>
      cases h
      first
      | unfold drain; split <;> exact ⟨rfl, rfl, rfl, rfl⟩
      | unfold notify; split <;> exact ⟨rfl, rfl, rfl, rfl⟩
    all_goals
      first
      | cases h; exact ⟨rfl, rfl, rfl, rfl⟩
      | cases h; done
      | rename_i at_pc; rw [at_pc] at idle; cases idle

end Device

/-- A step of a stream between the operations of a handling. -/
theorem steps_of_keeps (h : Device.Keeps s.shared i (s.dev i) next)
    (away : (s.dev i).pc.stage i = .away) :
    (s.afterDev i next).registry = s.registry := by
  rw [registry_afterDev_of_same h.sessions h.connections h.connection, h.stage,
    RegistryView.goto_self away]

theorem stage_of_pc {pc : DevPc} (at_pc : (s.dev i).pc = pc) :
    s.registry.stage i = pc.stage i := congrArg (DevPc.stage i) at_pc

section Operations

variable {msg : DeviceMessage} {request : RegisterRequest} {cid did : String} {resumed : Bool}

theorem steps_number (at_pc : (s.dev i).pc = .numbering msg request)
    (unused : s.registry.Unused s.maps.nextId) :
    s.registry.Steps (s.afterDev i (Device.number s.shared (s.dev i) msg request)).registry
      [] := by
  rw [registry_afterDev_of_same rfl rfl rfl]
  exact .draw i ⟨msg.deviceId, s.maps.nextId, request.metadata, i⟩ (stage_of_pc at_pc) rfl unused

theorem steps_resume (at_pc : (s.dev i).pc = .resuming msg request cid) :
    s.registry.Steps (s.afterDev i (Device.resume s.shared (s.dev i) msg request cid)).registry
      [] := by
  rw [registry_afterDev_of_same rfl rfl rfl, RegistryView.goto_self]
  · exact .still
  · exact (stage_of_pc at_pc).trans rfl

theorem steps_install (at_pc : (s.dev i).pc = .installing msg request cid resumed)
    (undisturbed : s.registry.Undisturbed i msg.deviceId) :
    s.registry.Steps (s.afterDev i
      (Device.install s.shared i (s.dev i) msg request cid resumed)).registry [] := by
  have after : (Device.install s.shared i (s.dev i) msg request cid resumed).loc.pc.stage i =
      s.registry.afterInstall ⟨msg.deviceId, cid, request.metadata, i⟩ := by
    unfold Device.install RegistryView.afterInstall
    dsimp only [State.registry]
    cases s.shared.relay.sessionsByDeviceId.lookup msg.deviceId <;> rfl
  rw [registry_afterDev_of_connection rfl, after]
  exact .install i ⟨msg.deviceId, cid, request.metadata, i⟩ (stage_of_pc at_pc) undisturbed

theorem steps_unlink {previous : String}
    (at_pc : (s.dev i).pc = .unlinking msg request cid resumed previous)
    (inserted : s.registry.Inserted i previous) :
    s.registry.Steps (s.afterDev i
      (Device.unlink s.shared (s.dev i) msg request cid resumed previous)).registry [] := by
  rw [registry_afterDev_of_connection rfl]
  exact .unlink i ⟨msg.deviceId, cid, request.metadata, i⟩ previous (stage_of_pc at_pc) inserted

theorem steps_link (at_pc : (s.dev i).pc = .linking msg request cid resumed) :
    s.registry.Steps (s.afterDev i
      (Device.link cfg s.shared (s.dev i) msg request cid resumed)).registry
      [.register ⟨msg.deviceId, cid, request.metadata, i⟩] := by
  rw [registry_afterDev]
  exact .link i ⟨msg.deviceId, cid, request.metadata, i⟩ (stage_of_pc at_pc)

theorem steps_verify {reason : DisconnectReason} {current : Option String}
    (at_pc : (s.dev i).pc = .verifying did reason current) :
    s.registry.Steps
      (s.afterDev i (Device.verify cfg s.shared (s.dev i) did reason current)).registry
      ((s.dev i).returns i (Device.verify cfg s.shared (s.dev i) did reason current).loc.pc) := by
  have stage := stage_of_pc at_pc
  unfold Device.verify
  by_cases own : Device.ownsSession s.shared (s.dev i) did = true
  · obtain ⟨session, found, connection⟩ := Device.ownsSession_iff_lookup.1 own
    rw [if_pos own, registry_afterDev_of_same rfl rfl rfl, Device.returns, at_pc]
    exact .verified i session did stage found connection
  · rw [if_neg own, registry_afterDev_of_same rfl rfl rfl, Device.returns, at_pc]
    have same : s.registry.goto i .away = s.registry := RegistryView.goto_self stage
    refine same.symm ▸ .foreign i did stage fun session found connection => own ?_
    exact Device.ownsSession_iff_lookup.2 ⟨session, found, connection⟩

theorem steps_removeSession (at_pc : (s.dev i).pc = .removingSession did) :
    s.registry.Steps (s.afterDev i (Device.removeSession s.shared (s.dev i) did)).registry
      ((s.dev i).returns i (Device.removeSession s.shared (s.dev i) did).loc.pc) := by
  have stage := stage_of_pc at_pc
  unfold Device.removeSession Device.returns
  rw [at_pc]
  split
  · rename_i absent
    rw [registry_afterDev_of_same rfl rfl rfl]
    exact .vanished i did stage absent
  · rename_i session found
    rw [registry_afterDev_of_connection rfl]
    exact .removeSession i session did stage found

theorem steps_removeConnection (at_pc : (s.dev i).pc = .removingConnection did cid) :
    s.registry.Steps
      (s.afterDev i (Device.removeConnection s.shared (s.dev i) did cid)).registry [] := by
  rw [registry_afterDev_of_connection rfl]
  exact .removeConnection i did cid (stage_of_pc at_pc)

theorem steps_removeLastSeen (at_pc : (s.dev i).pc = .removingLastSeen did) :
    s.registry.Steps (s.afterDev i (Device.removeLastSeen s.shared (s.dev i) did)).registry
      [.cleanup i did (s.dev i).currentConnectionId] := by
  rw [registry_afterDev_of_same rfl rfl rfl]
  exact .finish i did (stage_of_pc at_pc)

end Operations

theorem steps_dev {input : DevInput} (ok : RaceFree s (.dev i input))
    (h : step cfg s (.dev i input) = some s') :
    s.registry.Steps s'.registry (handled s (.dev i input) s') := by
  obtain ⟨next, hn, rfl⟩ := Option.map_eq_some_iff.1 h
  rw [handled, State.dev_afterDev_self]
  by_cases busy : Device.acts (s.dev i).pc = false
  · have keeps := Device.keeps_of_step hn busy
    have away : (s.dev i).pc.stage i = .away := by
      cases hp : (s.dev i).pc <;> rw [hp] at busy <;> first | rfl | cases busy
    have silent : (s.dev i).returns i next.loc.pc = [] := by
      unfold Device.returns
      cases hp : (s.dev i).pc <;> rw [hp] at busy <;> first | rfl | cases busy
    rw [steps_of_keeps keeps away, silent]
    exact .still
  · obtain rfl : input = .tick := by
      cases input <;> first | rfl | skip
      all_goals
        simp only [Device.step] at hn
        split at hn <;> rename_i hp <;> first | cases hn | skip
        all_goals exact absurd (by rw [hp]; rfl) busy
    cases hp : (s.dev i).pc with
    | numbering msg request =>
      simp only [RaceFree, hp] at ok
      simp only [Device.step, hp] at hn
      cases hn
      rw [Device.returns, hp]
      exact steps_number hp ok
    | resuming msg request cid =>
      simp only [Device.step, hp] at hn
      cases hn
      rw [Device.returns, hp]
      exact steps_resume hp
    | installing msg request cid resumed =>
      simp only [RaceFree, hp] at ok
      simp only [Device.step, hp] at hn
      cases hn
      rw [Device.returns, hp]
      exact steps_install hp ok
    | unlinking msg request cid resumed previous =>
      simp only [RaceFree, hp] at ok
      simp only [Device.step, hp] at hn
      cases hn
      rw [Device.returns, hp]
      exact steps_unlink hp ok
    | linking msg request cid resumed =>
      simp only [Device.step, hp] at hn
      cases hn
      rw [Device.returns, hp]
      exact steps_link hp
    | verifying did reason current =>
      simp only [Device.step, hp] at hn
      cases hn
      exact steps_verify hp
    | removingSession did =>
      simp only [Device.step, hp] at hn
      cases hn
      exact steps_removeSession hp
    | removingConnection did cid =>
      simp only [Device.step, hp] at hn
      cases hn
      rw [Device.returns, hp]
      exact steps_removeConnection hp
    | removingLastSeen did =>
      simp only [Device.step, hp] at hn
      cases hn
      rw [Device.returns, hp]
      exact steps_removeLastSeen hp
    | _ => exact absurd (by rw [hp]; rfl) busy

theorem steps_of_step {a : Action} (ok : RaceFree s a) (h : step cfg s a = some s') :
    s.registry.Steps s'.registry (handled s a s') := by
  cases a with
  | dev i input => exact steps_dev ok h
  | _ =>
    obtain ⟨maps, dev, -⟩ := unrelated_of_step h (by simp)
    have sessions : s'.shared.relay.sessionsByDeviceId = s.shared.relay.sessionsByDeviceId :=
      congrArg SessionMaps.sessionsByDeviceId maps
    have connections : s'.shared.relay.connectionToDeviceId =
        s.shared.relay.connectionToDeviceId := congrArg SessionMaps.connectionToDeviceId maps
    have same : s'.registry = s.registry := by
      unfold State.registry
      rw [sessions, connections, dev]
    rw [same]
    exact .still

end Steps

/-! ## Linearizability -/

/-- An accepted `Register` or a cleanup is being carried out. -/
def DevPc.underway : DevPc → Bool
  | .numbering .. | .resuming .. | .installing .. | .unlinking .. | .linking .. | .closing ..
  | .scanning .. | .sweeping .. | .draining .. | .notifying .. | .inspecting .. | .verifying ..
  | .removingSession .. | .removingConnection .. | .removingLastSeen .. => true
  | _ => false

/-- No handling is under way. -/
def AllReturned (s : State) : Prop := ∀ i, (s.dev i).pc.underway = false

/-- When all handlings have returned, the maps are those of the same handlings one after the other,
each stream's in its order.  A cleanup removes no session of another stream, and the connection
ids that stay are those of sessions. -/
structure Linearizable (log : List Handling) (s : State) : Prop where
  order : AllReturned s → ∃ order, SameOrders Handling.stream log order ∧
    (SessionMaps.handleAll order).Agrees s.maps
  own : ∀ i d session, (s.dev i).pc = .removingSession d →
    s.shared.relay.sessionsByDeviceId.lookup d = some session → session.outboundTx = i
  current : AllReturned s → ∀ cid d, s.shared.relay.connectionToDeviceId.lookup cid = some d →
    ∃ session, s.shared.relay.sessionsByDeviceId.lookup d = some session ∧
      session.connectionId = cid

variable {cfg : Config} {s : State} {log : List Handling}

theorem sound_init (cfg : Config) : (State.init cfg).registry.Sound := by
  have holds (i : ℕ) (cid : String) : ¬ (State.init cfg).registry.Holds i cid := by
    rintro (h | ⟨session, h, -⟩) <;> cases h
  refine ⟨⟨?_, ?_, ?_, ?_, ?_, ?_⟩, ?_, ?_, ?_, ?_, ?_, ?_⟩
  · intro _ _ h
    cases h
  · intro _ _ _ _ h
    cases h
  · intro _ _ h
    cases h
  · intro i _ cid h
    exact absurd h (holds i cid)
  all_goals
    intros
    contradiction

theorem orders_init (cfg : Config) : (State.init cfg).registry.Orders [] [] :=
  ⟨Arranges.start, fun _ => rfl, (coherent_init cfg).inverse⟩

/-- The invariant of the runs without races. -/
theorem orders_of_logged
    (h : Runs.Logged (step cfg) RaceFree handled (State.init cfg) log s) :
    s.registry.Sound ∧ ∃ order, s.registry.Orders log order := by
  refine Runs.Logged.invariant
    (I := fun log s => s.registry.Sound ∧ ∃ order, s.registry.Orders log order)
    ⟨sound_init cfg, [], orders_init cfg⟩ ?_ h
  rintro log s a s' - ⟨S, order, O⟩ ok hs
  have steps := steps_of_step ok hs
  exact ⟨S.steps steps, O.steps S steps⟩

theorem stage_of_returned (h : AllReturned s) (i : ℕ) : s.registry.stage i = .away := by
  have returned := h i
  change (s.dev i).pc.stage i = .away
  cases hp : (s.dev i).pc <;> rw [hp] at returned <;> first | rfl | cases returned

theorem inverse_of_returned (S : s.registry.Sound) (h : AllReturned s) : s.maps.Inverse := by
  intro cid d
  constructor
  · intro linked
    rcases S.linked cid d linked with found | ⟨i, stale⟩
    · exact found
    · rw [stage_of_returned h] at stale
      cases stale
  · rintro ⟨session, found, rfl⟩
    rcases S.named d session found with linked | ⟨i, unlinked⟩
    · exact linked
    · rw [stage_of_returned h] at unlinked
      cases unlinked

/-- Registrations and cleanups are linearizable in every run in which no session is inserted while
another stream is about to remove the session of the same device, no connection id is removed
before it is inserted, and none is drawn that is in use. -/
theorem registry_is_linearizable
    (h : Runs.Logged (step cfg) RaceFree handled (State.init cfg) log s) :
    Linearizable log s := by
  obtain ⟨S, order, O⟩ := orders_of_logged h
  constructor
  · intro returned
    refine ⟨order, O.arranged.sameOrders fun i => ?_, ?_⟩
    · rw [RegistryView.taken, stage_of_returned returned]
      rfl
    · exact O.inverse.agrees (inverse_of_returned S returned) O.sessions
  · intro i d session at_pc found
    obtain ⟨session', found', own⟩ := S.removing i d (stage_of_pc at_pc)
    replace found' : s.shared.relay.sessionsByDeviceId.lookup d = some session' := found'
    rw [found] at found'
    cases found'
    exact S.owner d session i found (Or.inl own)
  · intro returned cid d linked
    exact (inverse_of_returned S returned cid d).1 linked

/-! ### Concrete runs -/

namespace Small

/-- Stream 0 registers device `"d"`, ends, and cleans up until it is about to check the session. -/
def cleaningUp : List Action :=
  register 0 "d" "t" ++ Action.dev 0 .eof :: devTicks 0 6

/-- Stream 1 registers device `"d"`, which has a session, and is about to insert the connection
id. -/
def replacing : List Action :=
  .dev 1 (.recv ⟨"d", "t", some (.register ⟨"d", [], ""⟩)⟩) ::
    (devTicks 1 2 ++ Action.dev 1 (.health true) :: devTicks 1 4)

/-- Stream 1 replaces the session after stream 0 found it to be its own and before stream 0 removes
it. -/
def removedRun : List Action :=
  cleaningUp ++ devTicks 0 1 ++ replacing ++ devTicks 0 3 ++ devTicks 1 2

/-- Both streams register the device.  Stream 1 replaces the session of stream 0 before stream 0 has
inserted its connection id, and removes the id after that; then stream 0 ends. -/
def replacedRun : List Action :=
  .dev 0 (.recv ⟨"d", "t", some (.register ⟨"d", [], ""⟩)⟩) ::
    (devTicks 0 2 ++ Action.dev 0 (.health true) :: devTicks 0 3) ++
  .dev 1 (.recv ⟨"d", "t", some (.register ⟨"d", [], ""⟩)⟩) ::
    (devTicks 1 2 ++ Action.dev 1 (.health true) :: devTicks 1 3) ++
  devTicks 0 2 ++ devTicks 1 3 ++ Action.dev 0 .eof :: devTicks 0 7

/-- No stream but 0 and 1 has made a step. -/
def TwoStreams (s : State) : Prop := ∀ i, 2 ≤ i → s.dev i = ⟨none, none, .reading⟩

theorem twoStreams_of_step {cfg : Config} {s s' : State} {a : Action} (J : TwoStreams s)
    (two : ∀ i input, a = .dev i input → i < 2) (h : step cfg s a = some s') : TwoStreams s' := by
  intro i hi
  cases a with
  | dev j input =>
    obtain ⟨next, -, rfl⟩ := Option.map_eq_some_iff.1 h
    have hj : i ≠ j := fun hj => absurd (two j input rfl) (by omega)
    rw [State.dev_afterDev_of_ne s hj, J i hi]
  | _ => rw [(unrelated_of_step h (by simp)).dev, J i hi]

/-- A step of stream 0 or 1, or of none. -/
def ofTwo : Action → Bool
  | .dev i _ => i < 2
  | _ => true

theorem lt_of_ofTwo {a : Action} (h : ofTwo a = true) (i : ℕ) (input : DevInput)
    (ha : a = .dev i input) : i < 2 := by
  subst ha
  exact of_decide_eq_true h

/-- Streams 0 and 1 are in no handling. -/
def twoReturned (s : State) : Bool := !(s.dev 0).pc.underway && !(s.dev 1).pc.underway

theorem allReturned {s : State} (J : TwoStreams s) (h : twoReturned s = true) :
    AllReturned s := by
  simp only [twoReturned, Bool.and_eq_true, Bool.not_eq_true'] at h
  intro i
  match i with
  | 0 => exact h.1
  | 1 => exact h.2
  | i + 2 =>
    rw [J (i + 2) (by omega)]
    rfl

/-- Stream `i` has or is about to remove the connection id. -/
def usesId (v : RegistryView) (cid : String) (i : ℕ) : Bool :=
  v.connectionId i == some cid || (v.stage i).session.any (·.connectionId == cid) ||
    (v.stage i).stale == some cid

/-- The stream is about to remove the session of the device. -/
def removes (d : String) : Stage → Bool
  | .removingSession deviceId => deviceId == d
  | _ => false

/-- A step of stream 0 or 1 that meets no race between them. -/
def raceFree (s : State) : Action → Bool
  | .dev i _ =>
    decide (i < 2) &&
      match (s.dev i).pc with
      | .numbering _ _ =>
        s.shared.relay.sessionsByDeviceId.entries.all
            (fun entry => entry.2.connectionId != s.maps.nextId) &&
          (s.shared.relay.connectionToDeviceId.lookup s.maps.nextId).isNone &&
          !usesId s.registry s.maps.nextId 0 && !usesId s.registry s.maps.nextId 1
      | .installing msg _ _ _ => !removes msg.deviceId (s.registry.stage (1 - i))
      | .unlinking _ _ _ _ previous =>
        (s.registry.stage (1 - i)).unlinked.all fun session => session.connectionId != previous
      | _ => true
  | _ => true

theorem usesId_eq_false {v : RegistryView} {cid : String} {i : ℕ} (h : usesId v cid i = false) :
    ¬ v.Holds i cid ∧ (v.stage i).stale ≠ some cid := by
  simp only [usesId, Bool.or_eq_false_iff, beq_eq_false_iff_ne] at h
  refine ⟨?_, h.2⟩
  rintro (held | ⟨session, held, rfl⟩)
  · exact h.1.1 held
  · simp [held] at h

theorem raceFree_sound (s : State) (a : Action) (J : TwoStreams s) (h : raceFree s a = true) :
    RaceFree s a := by
  -- The other streams are away and hold nothing.
  have away (i : ℕ) (hi : 2 ≤ i) : s.registry.stage i = .away ∧
      s.registry.connectionId i = none := by
    constructor
    · exact congrArg (fun l : Device => l.pc.stage i) (J i hi)
    · exact congrArg Device.currentConnectionId (J i hi)
  cases a with
  | dev i input =>
    simp only [raceFree, Bool.and_eq_true, decide_eq_true_eq] at h
    simp only [RaceFree]
    cases hp : (s.dev i).pc with
    | numbering msg request =>
      simp only [hp, Bool.and_eq_true, Bool.not_eq_true', Option.isNone_iff_eq_none] at h
      obtain ⟨-, ⟨⟨sessions, connections⟩, zero⟩, one⟩ := h
      dsimp only
      have unused (j : ℕ) : ¬ s.registry.Holds j s.maps.nextId ∧
          (s.registry.stage j).stale ≠ some s.maps.nextId := by
        match j with
        | 0 => exact usesId_eq_false zero
        | 1 => exact usesId_eq_false one
        | j + 2 =>
          obtain ⟨stage, connection⟩ := away (j + 2) (by omega)
          refine ⟨?_, by rw [stage]; simp [Stage.stale]⟩
          rintro (held | ⟨session, held, -⟩)
          · cases connection.symm.trans held
          · rw [stage] at held
            cases held
      refine ⟨fun d session found => ?_, connections, fun j => (unused j).1,
        fun j => (unused j).2⟩
      have all := List.all_eq_true.1 sessions ⟨d, session⟩
        ((DashMap.mem_entries_iff _ _ _).2 found)
      exact bne_iff_ne.1 all
    | installing msg request cid resumed =>
      simp only [hp, Bool.not_eq_true'] at h
      intro j hj removing
      by_cases small : j < 2
      · obtain rfl : j = 1 - i := by omega
        simp [removes, removing] at h
      · cases (away j (by omega)).1.symm.trans removing
    | unlinking msg request cid resumed previous =>
      simp only [hp] at h
      intro j session hj unlinked
      by_cases small : j < 2
      · obtain rfl : j = 1 - i := by omega
        simpa [unlinked] using h.2
      · rw [(away j (by omega)).1] at unlinked
        cases unlinked
    | _ => trivial
  | _ => trivial

theorem ofTwo_of_raceFree {s : State} {a : Action} (h : raceFree s a = true) : ofTwo a = true := by
  cases a with
  | dev i input =>
    simp only [raceFree, Bool.and_eq_true] at h
    exact h.1
  | _ => rfl

end Small

/-- The connection id of a session that was removed before it was inserted stays behind. -/
theorem removed_session_leaves_connection :
    ¬ ∀ cfg log s, Runs.Logged (step cfg) (fun _ _ => True) handled (State.init cfg) log s →
      Linearizable log s := by
  intro claim
  obtain ⟨⟨log, s⟩, run, hf⟩ : ∃ out, Runs.executeLogged (step Small.config)
      (fun _ a => Small.ofTwo a) handled [] (State.init Small.config) Small.removedRun = some out ∧
      (Small.twoReturned out.2, out.2.shared.relay.sessionsByDeviceId.lookup "d",
        out.2.shared.relay.connectionToDeviceId.lookup "conn-2") = (true, none, some "d") :=
    Option.map_eq_some_iff.1 (by decide +kernel)
  simp only [Prod.mk.injEq] at hf
  obtain ⟨returned, offline, linked⟩ := hf
  obtain ⟨logged, J⟩ : Runs.Logged (step Small.config) (fun _ _ => True) handled
      (State.init Small.config) log s ∧ Small.TwoStreams s :=
    Runs.Logged.of_executeLogged_keeping (fun _ _ _ _ => trivial)
      (fun _ _ _ J h hs => Small.twoStreams_of_step J (Small.lt_of_ofTwo h) hs) _ .start
      (fun _ _ => rfl) run
  -- No order of the handlings leaves a connection without a session.
  obtain ⟨order, -, sessions, connections⟩ :=
    (claim _ log s logged).order (Small.allReturned J returned)
  obtain ⟨session, found, -⟩ := SessionMaps.connections_handleAll order "conn-2" "d"
    ((connections "conn-2").trans linked)
  cases (sessions "d").symm.trans found |>.symm.trans offline

/-- Stream 1 replaces the session of stream 0 while that is being registered, and the cleanup of
stream 0 then leaves it alone. -/
theorem replaced_session_is_kept :
    ∃ log s, Runs.Logged (step Small.config) RaceFree handled (State.init Small.config) log s ∧
      log = [.register ⟨"d", "conn-1", [], 0⟩, .register ⟨"d", "conn-2", [], 1⟩,
        .cleanup 0 "d" (some "conn-1")] ∧
      AllReturned s ∧
      s.shared.relay.sessionsByDeviceId.lookup "d" = some ⟨"d", "conn-2", [], 1⟩ ∧
      Linearizable log s := by
  obtain ⟨⟨log, s⟩, run, hf⟩ : ∃ out, Runs.executeLogged (step Small.config) Small.raceFree
      handled [] (State.init Small.config) Small.replacedRun = some out ∧
      (out.1, Small.twoReturned out.2, out.2.shared.relay.sessionsByDeviceId.lookup "d") =
        ([.register ⟨"d", "conn-1", [], 0⟩, .register ⟨"d", "conn-2", [], 1⟩,
          .cleanup 0 "d" (some "conn-1")], true, some ⟨"d", "conn-2", [], 1⟩) :=
    Option.map_eq_some_iff.1 (by decide +kernel)
  simp only [Prod.mk.injEq] at hf
  obtain ⟨logged, J⟩ : Runs.Logged (step Small.config) RaceFree handled
      (State.init Small.config) log s ∧ Small.TwoStreams s :=
    Runs.Logged.of_executeLogged_keeping Small.raceFree_sound
      (fun _ _ _ J h hs =>
        Small.twoStreams_of_step J (Small.lt_of_ofTwo (Small.ofTwo_of_raceFree h)) hs) _ .start
      (fun _ _ => rfl) run
  exact ⟨log, s, logged, hf.1, Small.allReturned J hf.2.1, hf.2.2,
    registry_is_linearizable logged⟩

end GrpcRelay
