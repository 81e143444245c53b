import GrpcRelay.Coherence
import GrpcRelay.Lib.Linearize

/-!
# Registrations and cleanups, operation by operation

A `Register` installs its session by three operations on two maps, and the cleanup of a stream
checks the session, removes it and then its connection id.  `Handling` names the two, with what
they do to the maps when nothing comes between their operations.

`RegistryView` is what the operations of all streams are about: the two maps, how far each stream is
with a handling, and the connection ids the streams hold.  `Steps` lists the operations, each under
the condition that it does not run into another stream's handling.  They keep the maps inverse to
each other up to the operations still to come (`Sound`), and an order of the handlings that took
effect (`Orders`).
-/

namespace GrpcRelay

open Linearize

/-- An accepted `Register` whose connection id is drawn, or the cleanup of a stream that ends. -/
inductive Handling where
  | register (session : DeviceSession)
  | cleanup (stream : ℕ) (deviceId : String) (connectionId : Option String)
  deriving DecidableEq, Repr

/-- The stream that carries out a handling. -/
def Handling.stream : Handling → ℕ
  | .register session => session.outboundTx
  | .cleanup stream _ _ => stream

namespace SessionMaps

/-- A whole handling: the session is installed, or it is removed if it is the stream's. -/
def handle (r : SessionMaps) : Handling → SessionMaps
  | .register session => r.install session
  | .cleanup _ deviceId connectionId =>
    match r.sessionsByDeviceId.lookup deviceId with
    | some session =>
      if connectionId = some session.connectionId then r.remove deviceId session else r
    | none => r

/-- Handlings one after the other, on empty maps. -/
def handleAll (order : List Handling) : SessionMaps := order.foldl handle RelayState.new.maps

/-- The same sessions and the same connections. -/
def Agrees (r r' : SessionMaps) : Prop :=
  (∀ d, r.sessionsByDeviceId.lookup d = r'.sessionsByDeviceId.lookup d) ∧
    ∀ cid, r.connectionToDeviceId.lookup cid = r'.connectionToDeviceId.lookup cid

theorem handleAll_snoc (order : List Handling) (h : Handling) :
    handleAll (order ++ [h]) = (handleAll order).handle h := by
  rw [handleAll, List.foldl_append]
  rfl

/-- The cleanup of the stream that has the session of the device removes it. -/
theorem handle_own {r : SessionMaps} {session : DeviceSession} {d : String} (i : ℕ)
    (found : r.sessionsByDeviceId.lookup d = some session) :
    r.handle (.cleanup i d (some session.connectionId)) = r.remove d session := by
  simp [handle, found]

/-- The cleanup of another stream does nothing. -/
theorem handle_foreign {r : SessionMaps} {d : String} {connectionId : Option String} (i : ℕ)
    (other : ∀ session, r.sessionsByDeviceId.lookup d = some session →
      connectionId ≠ some session.connectionId) :
    r.handle (.cleanup i d connectionId) = r := by
  simp only [handle]
  split
  · rename_i session found
    rw [if_neg (other session found)]
  · rfl

/-- Maps that are inverse to each other are determined by the sessions. -/
theorem Inverse.agrees {r r' : SessionMaps} (I : r.Inverse) (I' : r'.Inverse)
    (sessions : ∀ d, r.sessionsByDeviceId.lookup d = r'.sessionsByDeviceId.lookup d) :
    r.Agrees r' := by
  refine ⟨sessions, fun cid => Option.ext fun d => ?_⟩
  rw [I cid d, I' cid d, sessions]

/-- Whole handlings leave only connections of sessions. -/
theorem connections_handleAll (order : List Handling) (cid d : String)
    (found : (handleAll order).connectionToDeviceId.lookup cid = some d) :
    ∃ session, (handleAll order).sessionsByDeviceId.lookup d = some session ∧
      session.connectionId = cid := by
  induction order using List.reverseRecOn generalizing cid d with
  | nil => cases found
  | append_singleton order h ih =>
    rw [handleAll_snoc] at found ⊢
    cases h with
    | register session => exact connections_install (ih cid d) found
    | cleanup i did connectionId =>
      by_cases own : ∃ session, (handleAll order).sessionsByDeviceId.lookup did = some session ∧
        connectionId = some session.connectionId
      · obtain ⟨session, own, rfl⟩ := own
        rw [handle_own i own] at found ⊢
        exact connections_remove (ih cid d) own found
      · rw [handle_foreign i fun session h same => own ⟨session, h, same⟩] at found ⊢
        exact ih cid d found

end SessionMaps

/-! ## Stages -/

/-- How far a stream is with a handling. -/
inductive Stage where
  /-- It has drawn no connection id and found no session to remove. -/
  | away
  /-- It is about to install a session. -/
  | numbered (session : DeviceSession)
  /-- It is about to remove the connection id of the session replaced. -/
  | unlinking (session : DeviceSession) (previous : String)
  /-- It is about to insert the connection id of the session installed. -/
  | linking (session : DeviceSession)
  /-- It found the session of the device to be its own, and is about to remove it. -/
  | removingSession (deviceId : String)
  /-- It is about to remove the connection id of the session removed. -/
  | removingConnection (deviceId connectionId : String)
  /-- It has removed the session and the connection id. -/
  | removed (deviceId : String)

namespace Stage

/-- The session that is to be installed, or whose connection id is to be inserted. -/
def session : Stage → Option DeviceSession
  | .numbered session | .unlinking session _ | .linking session => some session
  | _ => none

/-- The session that is installed and whose connection id is to be inserted. -/
def unlinked : Stage → Option DeviceSession
  | .unlinking session _ | .linking session => some session
  | _ => none

/-- The connection id that is to be removed. -/
def stale : Stage → Option String
  | .unlinking _ previous => some previous
  | .removingConnection _ connectionId => some connectionId
  | _ => none

theorem session_of_unlinked {stage : Stage} {s : DeviceSession} (h : stage.unlinked = some s) :
    stage.session = some s := by
  cases stage <;> first | exact h | cases h

/-- The handling of stream `i` that has taken effect and not returned. -/
def taken (i : ℕ) (connectionId : Option String) : Stage → List Handling
  | .unlinking session _ | .linking session => [.register session]
  | .removingConnection d _ | .removed d => [.cleanup i d connectionId]
  | _ => []

end Stage

/-- The stage of stream `i`. -/
def DevPc.stage (i : ℕ) : DevPc → Stage
  | .resuming msg request cid | .installing msg request cid _ =>
    .numbered ⟨msg.deviceId, cid, request.metadata, i⟩
  | .unlinking msg request cid _ previous =>
    .unlinking ⟨msg.deviceId, cid, request.metadata, i⟩ previous
  | .linking msg request cid _ => .linking ⟨msg.deviceId, cid, request.metadata, i⟩
  | .removingSession did => .removingSession did
  | .removingConnection did cid => .removingConnection did cid
  | .removingLastSeen did => .removed did
  | _ => .away

/-- The sessions and connections, with the stages and the connection ids of the streams. -/
structure RegistryView where
  sessions : DashMap String DeviceSession
  connections : DashMap String String
  stage : ℕ → Stage
  connectionId : ℕ → Option String

/-- What the registry can see of the state. -/
def State.registry (s : State) : RegistryView where
  sessions := s.shared.relay.sessionsByDeviceId
  connections := s.shared.relay.connectionToDeviceId
  stage := fun i => (s.dev i).pc.stage i
  connectionId := fun i => (s.dev i).currentConnectionId

namespace RegistryView

/-- Stream `i` holds a connection id: that of its last `Register`, or of the one under way. -/
def Holds (v : RegistryView) (i : ℕ) (cid : String) : Prop :=
  v.connectionId i = some cid ∨ ∃ session, (v.stage i).session = some session ∧
    session.connectionId = cid

/-- A connection id that no map has and no stream holds or is about to remove. -/
structure Unused (v : RegistryView) (cid : String) : Prop where
  sessions : ∀ d session, v.sessions.lookup d = some session → session.connectionId ≠ cid
  connections : v.connections.lookup cid = none
  held : ∀ i, ¬ v.Holds i cid
  stale : ∀ i, (v.stage i).stale ≠ some cid

/-- The stream moves on to another stage. -/
def goto (v : RegistryView) (i : ℕ) (stage : Stage) : RegistryView :=
  { v with stage := Function.update v.stage i stage }

/-- The stage after the session is inserted. -/
def afterInstall (v : RegistryView) (session : DeviceSession) : Stage :=
  match v.sessions.lookup session.deviceId with
  | some previous => .unlinking session previous.connectionId
  | none => .linking session

/-- The session is inserted. -/
def install (v : RegistryView) (i : ℕ) (session : DeviceSession) : RegistryView :=
  { v.goto i (v.afterInstall session) with
    sessions := v.sessions.insert session.deviceId session }

/-- A connection id is removed. -/
def unlink (v : RegistryView) (i : ℕ) (stage : Stage) (cid : String) : RegistryView :=
  { v.goto i stage with connections := v.connections.erase cid }

/-- The connection id is inserted, and the `Register` is over. -/
def link (v : RegistryView) (i : ℕ) (session : DeviceSession) : RegistryView :=
  { v.goto i .away with
    connections := v.connections.insert session.connectionId session.deviceId
    connectionId := Function.update v.connectionId i (some session.connectionId) }

/-- The session of a device is removed. -/
def removeSession (v : RegistryView) (i : ℕ) (d : String) (session : DeviceSession) :
    RegistryView :=
  { v.goto i (.removingConnection d session.connectionId) with sessions := v.sessions.erase d }

/-- No other stream has found its session of the device and is about to remove it. -/
def Undisturbed (v : RegistryView) (i : ℕ) (d : String) : Prop :=
  ∀ j, j ≠ i → v.stage j ≠ .removingSession d

/-- No other stream is still to insert the connection id. -/
def Inserted (v : RegistryView) (i : ℕ) (cid : String) : Prop :=
  ∀ j session, j ≠ i → (v.stage j).unlinked = some session → session.connectionId ≠ cid

/-- What a step can do to the registry, with the handlings that return. -/
inductive Steps (v : RegistryView) : RegistryView → List Handling → Prop
  | still : Steps v v []
  | draw (i : ℕ) (session : DeviceSession) (at_stage : v.stage i = .away)
      (own : session.outboundTx = i) (unused : v.Unused session.connectionId) :
      Steps v (v.goto i (.numbered session)) []
  | install (i : ℕ) (session : DeviceSession) (at_stage : v.stage i = .numbered session)
      (undisturbed : v.Undisturbed i session.deviceId) : Steps v (v.install i session) []
  | unlink (i : ℕ) (session : DeviceSession) (previous : String)
      (at_stage : v.stage i = .unlinking session previous) (inserted : v.Inserted i previous) :
      Steps v (v.unlink i (.linking session) previous) []
  | link (i : ℕ) (session : DeviceSession) (at_stage : v.stage i = .linking session) :
      Steps v (v.link i session) [.register session]
  | foreign (i : ℕ) (d : String) (at_stage : v.stage i = .away)
      (other : ∀ session, v.sessions.lookup d = some session →
        v.connectionId i ≠ some session.connectionId) :
      Steps v v [.cleanup i d (v.connectionId i)]
  | verified (i : ℕ) (session : DeviceSession) (d : String) (at_stage : v.stage i = .away)
      (found : v.sessions.lookup d = some session)
      (own : v.connectionId i = some session.connectionId) :
      Steps v (v.goto i (.removingSession d)) []
  | removeSession (i : ℕ) (session : DeviceSession) (d : String)
      (at_stage : v.stage i = .removingSession d) (found : v.sessions.lookup d = some session) :
      Steps v (v.removeSession i d session) []
  | vanished (i : ℕ) (d : String) (at_stage : v.stage i = .removingSession d)
      (absent : v.sessions.lookup d = none) :
      Steps v (v.goto i .away) [.cleanup i d (v.connectionId i)]
  | removeConnection (i : ℕ) (d cid : String) (at_stage : v.stage i = .removingConnection d cid) :
      Steps v (v.unlink i (.removed d) cid) []
  | finish (i : ℕ) (d : String) (at_stage : v.stage i = .removed d) :
      Steps v (v.goto i .away) [.cleanup i d (v.connectionId i)]

/-! ## Connection ids -/

/-- No two streams hold one connection id, and the streams that hold the connection id of a session
are those that installed it. -/
structure Ids (v : RegistryView) : Prop where
  keyed : ∀ d session, v.sessions.lookup d = some session → session.deviceId = d
  inj : ∀ d d' session session', v.sessions.lookup d = some session →
    v.sessions.lookup d' = some session' → session.connectionId = session'.connectionId → d = d'
  own : ∀ i session, (v.stage i).session = some session → session.outboundTx = i
  unique : ∀ i j cid, v.Holds i cid → v.Holds j cid → i = j
  owner : ∀ d session i, v.sessions.lookup d = some session → v.Holds i session.connectionId →
    session.outboundTx = i
  fresh : ∀ i session d session', v.stage i = .numbered session →
    v.sessions.lookup d = some session' → session'.connectionId ≠ session.connectionId

variable {v v' : RegistryView} {i : ℕ} {session : DeviceSession} {d cid : String}

theorem stage_goto (v : RegistryView) (i j : ℕ) (stage : Stage) :
    (v.goto i stage).stage j = if j = i then stage else v.stage j := Function.update_apply ..

/-- What is read off a stage after a move. -/
theorem of_goto {α : Type} {f : Stage → Option α} {a : α} {j : ℕ} {stage : Stage}
    (h : f ((v.goto i stage).stage j) = some a) :
    (j = i ∧ f stage = some a) ∨ (j ≠ i ∧ f (v.stage j) = some a) := by
  rw [stage_goto] at h
  split_ifs at h with hj
  · exact Or.inl ⟨hj, h⟩
  · exact Or.inr ⟨hj, h⟩

/-- What is read off some stage is read off some stage after a move that keeps it. -/
theorem exists_goto {α : Type} {f : Stage → Option α} {a : α} {stage : Stage}
    (h : ∃ j, f (v.stage j) = some a) (kept : f (v.stage i) = some a → f stage = some a) :
    ∃ j, f ((v.goto i stage).stage j) = some a := by
  obtain ⟨j, h⟩ := h
  refine ⟨j, ?_⟩
  rw [stage_goto]
  split_ifs with hj
  · exact kept (hj ▸ h)
  · exact h

theorem exists_goto_of_none {α : Type} {f : Stage → Option α} {a : α} {stage : Stage}
    (none : f (v.stage i) = none) (h : ∃ j, f (v.stage j) = some a) :
    ∃ j, f ((v.goto i stage).stage j) = some a :=
  exists_goto h fun h => by cases none.symm.trans h

theorem session_afterInstall : (v.afterInstall session).session = some session := by
  unfold afterInstall
  split <;> rfl

theorem unlinked_afterInstall : (v.afterInstall session).unlinked = some session := by
  unfold afterInstall
  split <;> rfl

/-- A stream that has inserted its session has still to insert the connection id. -/
theorem afterInstall_ne {stage : Stage} (ended : stage.unlinked = none) :
    v.afterInstall session ≠ stage := by
  rintro rfl
  cases unlinked_afterInstall.symm.trans ended

namespace Ids

/-- Sessions and holders of connection ids become fewer. -/
theorem shrink (I : v.Ids)
    (sessions : ∀ d session, v'.sessions.lookup d = some session →
      v.sessions.lookup d = some session)
    (stages : ∀ j session, (v'.stage j).session = some session →
      (v.stage j).session = some session)
    (numbered : ∀ j session, v'.stage j = .numbered session → v.stage j = .numbered session)
    (holds : ∀ j cid, v'.Holds j cid → v.Holds j cid) : v'.Ids where
  keyed d session h := I.keyed d session (sessions d session h)
  inj d d' session session' h h' := I.inj d d' session session' (sessions _ _ h) (sessions _ _ h')
  own j session h := I.own j session (stages j session h)
  unique j k cid h h' := I.unique j k cid (holds j cid h) (holds k cid h')
  owner d session j h h' := I.owner d session j (sessions d session h) (holds j _ h')
  fresh j session d session' h h' :=
    I.fresh j session d session' (numbered j session h) (sessions d session' h')

/-- A stream moves on without a connection id that it did not hold. -/
theorem move (I : v.Ids) {stage : Stage}
    (session : ∀ session, stage.session = some session → (v.stage i).session = some session)
    (ended : ∀ session, stage ≠ .numbered session) : (v.goto i stage).Ids := by
  have stages (j : ℕ) (session' : DeviceSession)
      (h : ((v.goto i stage).stage j).session = some session') :
      (v.stage j).session = some session' := by
    rcases of_goto h with ⟨rfl, moved⟩ | ⟨-, same⟩
    · exact session session' moved
    · exact same
  refine I.shrink (fun _ _ h => h) stages ?_ ?_
  · intro j session' h
    rw [stage_goto] at h
    split_ifs at h
    · exact absurd h (ended session')
    · exact h
  · rintro j cid (h | ⟨session', h, rfl⟩)
    · exact Or.inl h
    · exact Or.inr ⟨session', stages j session' h, rfl⟩

/-- A connection id is drawn that is used nowhere. -/
theorem draw (I : v.Ids) (own : session.outboundTx = i)
    (unused : v.Unused session.connectionId) : (v.goto i (.numbered session)).Ids := by
  have holds {j : ℕ} {cid : String} (h : (v.goto i (.numbered session)).Holds j cid) :
      v.Holds j cid ∨ (j = i ∧ cid = session.connectionId) := by
    rcases h with h | ⟨session', h, rfl⟩
    · exact Or.inl (Or.inl h)
    · rw [stage_goto] at h
      split_ifs at h with hj
      · exact Or.inr ⟨hj, congrArg DeviceSession.connectionId (Option.some.inj h).symm⟩
      · exact Or.inl (Or.inr ⟨session', h, rfl⟩)
  refine ⟨I.keyed, I.inj, ?_, ?_, ?_, ?_⟩
  · intro j session' h
    rw [stage_goto] at h
    split_ifs at h with hj
    · rw [← Option.some.inj h, hj, own]
    · exact I.own j session' h
  · intro j k cid hj hk
    rcases holds hj with oldJ | ⟨rfl, rfl⟩
    · rcases holds hk with oldK | ⟨rfl, rfl⟩
      · exact I.unique j k cid oldJ oldK
      · exact absurd oldJ (unused.held j)
    · rcases holds hk with oldK | ⟨rfl, -⟩
      · exact absurd oldK (unused.held k)
      · rfl
  · intro d session' j found h
    rcases holds h with h | ⟨-, same⟩
    · exact I.owner d session' j found h
    · exact absurd same (unused.sessions d session' found)
  · intro j session' d session'' h found
    rw [stage_goto] at h
    split_ifs at h with hj
    · cases h
      exact unused.sessions d session'' found
    · exact I.fresh j session' d session'' h found

/-- The session under a connection id that no session has is inserted. -/
theorem install (I : v.Ids) (at_stage : v.stage i = .numbered session) :
    (v.install i session).Ids := by
  have stages (j : ℕ) : ((v.install i session).stage j).session = (v.stage j).session := by
    refine (congrArg Stage.session (stage_goto v i j _)).trans ?_
    split_ifs with hj
    · rw [session_afterInstall, hj, at_stage]
      rfl
    · rfl
  have holds {j : ℕ} {cid : String} (h : (v.install i session).Holds j cid) : v.Holds j cid := by
    rcases h with h | ⟨session', h, rfl⟩
    · exact Or.inl h
    · exact Or.inr ⟨session', stages j ▸ h, rfl⟩
  have held : v.Holds i session.connectionId := Or.inr ⟨session, by rw [at_stage]; rfl, rfl⟩
  have found {d : String} {session' : DeviceSession}
      (h : (v.install i session).sessions.lookup d = some session') :
      (d = session.deviceId ∧ session' = session) ∨ v.sessions.lookup d = some session' := by
    rw [RegistryView.install, DashMap.lookup_insert_ite] at h
    split_ifs at h with hd
    · exact Or.inl ⟨hd, (Option.some.inj h).symm⟩
    · exact Or.inr h
  refine ⟨?_, ?_, ?_, ?_, ?_, ?_⟩
  · intro d session' h
    rcases found h with ⟨rfl, rfl⟩ | h
    · rfl
    · exact I.keyed d session' h
  · intro d d' session₁ session₂ h h' same
    rcases found h with ⟨rfl, rfl⟩ | old
    · rcases found h' with ⟨rfl, rfl⟩ | old'
      · rfl
      · exact absurd same.symm (I.fresh i session₁ d' session₂ at_stage old')
    · rcases found h' with ⟨rfl, rfl⟩ | old'
      · exact absurd same (I.fresh i session₂ d session₁ at_stage old)
      · exact I.inj d d' session₁ session₂ old old' same
  · intro j session' h
    exact I.own j session' (stages j ▸ h)
  · intro j k cid hj hk
    exact I.unique j k cid (holds hj) (holds hk)
  · intro d session' j h hj
    rcases found h with ⟨rfl, rfl⟩ | h
    · rw [I.own i session' (by rw [at_stage]; rfl)]
      exact I.unique i j _ held (holds hj)
    · exact I.owner d session' j h (holds hj)
  · intro j session₁ d session₂ h h' same
    -- Stream `i` is no longer at this stage.
    have hj : j ≠ i := by
      rintro rfl
      exact afterInstall_ne rfl ((if_pos rfl).symm.trans ((stage_goto v j j _).symm.trans h))
    replace h : v.stage j = .numbered session₁ :=
      ((if_neg hj).symm.trans (stage_goto v i j _).symm).trans h
    rcases found h' with ⟨rfl, rfl⟩ | h'
    · exact hj (I.unique j i _ (Or.inr ⟨session₁, by rw [h]; rfl, same.symm⟩) held)
    · exact I.fresh j session₁ d session₂ h h' same

end Ids

/-! ## The two maps -/

/-- The maps are inverse to each other up to the operations that streams have still to make. -/
structure Sound (v : RegistryView) : Prop extends v.Ids where
  linked : ∀ cid d, v.connections.lookup cid = some d →
    (∃ session, v.sessions.lookup d = some session ∧ session.connectionId = cid) ∨
      ∃ i, (v.stage i).stale = some cid
  named : ∀ d session, v.sessions.lookup d = some session →
    v.connections.lookup session.connectionId = some d ∨
      ∃ i, (v.stage i).unlinked = some session
  stale : ∀ i cid, (v.stage i).stale = some cid →
    (∀ d session, v.sessions.lookup d = some session → session.connectionId ≠ cid) ∧
      (∀ j session, v.stage j = .numbered session → session.connectionId ≠ cid) ∧
      ∀ session, (v.stage i).unlinked = some session → session.connectionId ≠ cid
  installed : ∀ i session, (v.stage i).unlinked = some session →
    v.sessions.lookup session.deviceId = some session ∨
      ∃ j, (v.stage j).stale = some session.connectionId
  removing : ∀ i d, v.stage i = .removingSession d →
    ∃ session, v.sessions.lookup d = some session ∧ v.connectionId i = some session.connectionId
  removed : ∀ i d cid, v.stage i = .removingConnection d cid → v.connectionId i = some cid

namespace Sound

/-- A connection id that another stream is about to remove, when stream `i` has moved. -/
theorem stale_goto (S : v.Sound) {stage : Stage} {j : ℕ} (hj : j ≠ i)
    (h : (v.stage j).stale = some cid)
    (fresh : ∀ session, stage = .numbered session → session.connectionId ≠ cid) :
    (∀ d session, v.sessions.lookup d = some session → session.connectionId ≠ cid) ∧
      (∀ k session, (v.goto i stage).stage k = .numbered session → session.connectionId ≠ cid) ∧
      ∀ session, ((v.goto i stage).stage j).unlinked = some session →
        session.connectionId ≠ cid := by
  obtain ⟨sessions, numbered, own⟩ := S.stale j cid h
  refine ⟨sessions, fun k session hk => ?_, fun session hk => ?_⟩
  · rw [stage_goto] at hk
    split_ifs at hk
    · exact fresh session hk
    · exact numbered k session hk
  · rw [stage_goto, if_neg hj] at hk
    exact own session hk

/-- A stream that has nothing to do to the maps finds its session, or is done. -/
theorem move (S : v.Sound) {stage : Stage} (session : stage.session = none)
    (stale : (v.stage i).stale = none ∧ stage.stale = none)
    (unlinked : (v.stage i).unlinked = none)
    (removing : ∀ d, stage = .removingSession d → ∃ session, v.sessions.lookup d = some session ∧
      v.connectionId i = some session.connectionId) : (v.goto i stage).Sound where
  toIds := by
    refine S.toIds.move ?_ ?_
    · intro session' h
      cases session.symm.trans h
    · rintro session' rfl
      cases session
  linked := by
    intro cid d h
    exact (S.linked cid d h).imp_right (exists_goto_of_none stale.1)
  named := by
    intro d session' h
    exact (S.named d session' h).imp_right (exists_goto_of_none unlinked)
  stale := by
    intro j cid h
    rcases of_goto h with ⟨-, h⟩ | ⟨hj, h⟩
    · cases stale.2.symm.trans h
    · refine (S.stale_goto hj h) fun session' numbered => ?_
      cases session.symm.trans (congrArg Stage.session numbered)
  installed := by
    intro j session' h
    rcases of_goto h with ⟨-, h⟩ | ⟨-, h⟩
    · cases session.symm.trans (Stage.session_of_unlinked h)
    · exact (S.installed j session' h).imp_right (exists_goto_of_none stale.1)
  removing := by
    intro j d h
    rw [stage_goto] at h
    split_ifs at h with hj
    · rw [hj]
      exact removing d h
    · exact S.removing j d h
  removed := by
    intro j d cid h
    rw [stage_goto] at h
    split_ifs at h with hj
    · cases stale.2.symm.trans (congrArg Stage.stale h)
    · exact S.removed j d cid h

theorem draw (S : v.Sound) (at_stage : v.stage i = .away) (own : session.outboundTx = i)
    (unused : v.Unused session.connectionId) : (v.goto i (.numbered session)).Sound where
  toIds := S.toIds.draw own unused
  linked := by
    intro cid d h
    exact (S.linked cid d h).imp_right (exists_goto_of_none (congrArg Stage.stale at_stage))
  named := by
    intro d session' h
    exact (S.named d session' h).imp_right (exists_goto_of_none (congrArg Stage.unlinked at_stage))
  stale := by
    intro j cid h
    rcases of_goto h with ⟨-, h⟩ | ⟨hj, h⟩
    · cases h
    · refine S.stale_goto hj h ?_
      rintro _ ⟨⟩ rfl
      exact unused.stale j h
  installed := by
    intro j session' h
    rcases of_goto h with ⟨-, h⟩ | ⟨-, h⟩
    · cases h
    · exact (S.installed j session' h).imp_right
        (exists_goto_of_none (congrArg Stage.stale at_stage))
  removing := by
    intro j d h
    rw [stage_goto] at h
    split_ifs at h
    exact S.removing j d h
  removed := by
    intro j d cid h
    rw [stage_goto] at h
    split_ifs at h
    exact S.removed j d cid h

theorem stale_afterInstall (h : (v.afterInstall session).stale = some cid) :
    ∃ previous, v.sessions.lookup session.deviceId = some previous ∧
      previous.connectionId = cid := by
  unfold afterInstall at h
  split at h
  · rename_i previous found
    exact ⟨previous, found, Option.some.inj h⟩
  · cases h

/-- The session is inserted while no other stream is about to remove the device's session. -/
theorem install (S : v.Sound) (at_stage : v.stage i = .numbered session)
    (undisturbed : v.Undisturbed i session.deviceId) : (v.install i session).Sound where
  toIds := S.toIds.install at_stage
  linked := by
    intro cid d h
    rcases S.linked cid d h with ⟨session', found, rfl⟩ | h
    · by_cases hd : d = session.deviceId
      · refine Or.inr ⟨i, (congrArg Stage.stale (stage_goto v i i _)).trans ?_⟩
        rw [if_pos rfl, afterInstall, ← hd, found]
        rfl
      · exact Or.inl ⟨session', (AList.lookup_insert_ne hd).trans found, rfl⟩
    · exact Or.inr (exists_goto_of_none (congrArg Stage.stale at_stage) h)
  named := by
    intro d session' h
    rw [RegistryView.install, DashMap.lookup_insert_ite] at h
    split_ifs at h with hd
    · refine Or.inr ⟨i, (congrArg Stage.unlinked (stage_goto v i i _)).trans ?_⟩
      rw [if_pos rfl, unlinked_afterInstall, h]
    · exact (S.named d session' h).imp_right
        (exists_goto_of_none (congrArg Stage.unlinked at_stage))
  stale := by
    intro j cid h
    -- The sessions of the registry do not have the connection id.
    have sessions (new : session.connectionId ≠ cid)
        (old : ∀ d session', d ≠ session.deviceId → v.sessions.lookup d = some session' →
          session'.connectionId ≠ cid) (d : String) (session' : DeviceSession)
        (h : (v.install i session).sessions.lookup d = some session') :
        session'.connectionId ≠ cid := by
      rw [RegistryView.install, DashMap.lookup_insert_ite] at h
      split_ifs at h with hd
      · exact Option.some.inj h ▸ new
      · exact old d session' hd h
    rcases of_goto h with ⟨rfl, own⟩ | ⟨hj, h⟩
    · obtain ⟨previous, found, rfl⟩ := stale_afterInstall own
      have new : session.connectionId ≠ previous.connectionId :=
        (S.fresh j session _ previous at_stage found).symm
      refine ⟨sessions new ?_, ?_, ?_⟩
      · intro d session' hd found' same
        exact hd (S.inj d _ session' previous found' found same)
      · intro k session' hk
        replace hk := (stage_goto v j k _).symm.trans hk
        split_ifs at hk
        · exact absurd hk (afterInstall_ne rfl)
        · exact (S.fresh k session' _ previous hk found).symm
      · intro session' hk
        replace hk := (congrArg Stage.unlinked (stage_goto v j j _)).symm.trans hk
        rw [if_pos rfl, unlinked_afterInstall] at hk
        exact Option.some.inj hk ▸ new
    · obtain ⟨old, numbered⟩ := S.stale_goto hj h fun _ h => absurd h (afterInstall_ne rfl)
      exact ⟨sessions ((S.stale j cid h).2.1 i session at_stage)
        fun d session' _ found => old d session' found, numbered⟩
  installed := by
    intro j session' h
    rcases of_goto h with ⟨-, h⟩ | ⟨hj, h⟩
    · rw [unlinked_afterInstall] at h
      cases h
      exact Or.inl (AList.lookup_insert _)
    · rcases S.installed j session' h with found | stale
      · by_cases hd : session'.deviceId = session.deviceId
        · -- The session was replaced before its connection id is inserted.
          refine Or.inr ⟨i, (congrArg Stage.stale (stage_goto v i i _)).trans ?_⟩
          rw [if_pos rfl, afterInstall, ← hd, found]
          rfl
        · exact Or.inl ((AList.lookup_insert_ne hd).trans found)
      · exact Or.inr (exists_goto_of_none (congrArg Stage.stale at_stage) stale)
  removing := by
    intro j d h
    replace h := (stage_goto v i j _).symm.trans h
    split_ifs at h with hj
    · exact absurd h (afterInstall_ne rfl)
    · obtain ⟨session', found, own⟩ := S.removing j d h
      refine ⟨session', (AList.lookup_insert_ne fun hd => ?_).trans found, own⟩
      exact undisturbed j hj (hd ▸ h)
  removed := by
    intro j d cid h
    replace h := (stage_goto v i j _).symm.trans h
    split_ifs at h with hj
    · exact absurd h (afterInstall_ne rfl)
    · exact S.removed j d cid h

/-- A connection id that belongs to no session any more is removed. -/
theorem unlink (S : v.Sound) {stage : Stage} (stale : (v.stage i).stale = some cid)
    (ended : stage.stale = none) (session : stage.session = (v.stage i).session)
    (unlinked : stage.unlinked = (v.stage i).unlinked)
    (moved : (∀ session, stage ≠ .numbered session) ∧ ∀ d, stage ≠ .removingSession d)
    (inserted : v.Inserted i cid) : (v.unlink i stage cid).Sound where
  toIds := (S.toIds.move (fun session' h => session ▸ h) moved.1).shrink (fun _ _ h => h)
    (fun _ _ h => h) (fun _ _ h => h) fun _ _ h => h
  linked := by
    intro cid' d h
    rw [RegistryView.unlink, DashMap.lookup_erase_ite] at h
    split_ifs at h with hc
    refine (S.linked cid' d h).imp_right fun h => exists_goto h fun h => ?_
    exact absurd (Option.some.inj (h.symm.trans stale)) hc
  named := by
    intro d session' h
    refine (S.named d session' h).imp (fun found => ?_) fun h => exists_goto h fun h => ?_
    · rw [RegistryView.unlink, DashMap.lookup_erase_ite, if_neg, found]
      exact (S.stale i cid stale).1 d session' h
    · rw [unlinked, h]
  stale := by
    intro j cid' h
    rcases of_goto h with ⟨-, h⟩ | ⟨hj, h⟩
    · cases ended.symm.trans h
    · exact S.stale_goto hj h fun session' h => absurd h (moved.1 session')
  installed := by
    intro j session' h
    obtain ⟨h, other⟩ : (v.stage j).unlinked = some session' ∧ session'.connectionId ≠ cid := by
      rcases of_goto h with ⟨rfl, own⟩ | ⟨hj, h⟩
      · rw [unlinked] at own
        exact ⟨own, (S.stale j cid stale).2.2 session' own⟩
      · exact ⟨h, inserted j session' hj h⟩
    refine (S.installed j session' h).imp_right fun h => exists_goto h fun h => ?_
    exact absurd (Option.some.inj (h.symm.trans stale)) other
  removing := by
    intro j d h
    replace h := (stage_goto v i j _).symm.trans h
    split_ifs at h with hj
    · exact absurd h (moved.2 d)
    · exact S.removing j d h
  removed := by
    intro j d cid' h
    replace h := (stage_goto v i j _).symm.trans h
    split_ifs at h with hj
    · cases ended.symm.trans (congrArg Stage.stale h)
    · exact S.removed j d cid' h

/-- The connection id of the session installed is inserted. -/
theorem link (S : v.Sound) (at_stage : v.stage i = .linking session) :
    (v.link i session).Sound where
  toIds := by
    have stages (j : ℕ) (session' : DeviceSession)
        (h : ((v.link i session).stage j).session = some session') :
        (v.stage j).session = some session' := by
      rcases of_goto h with ⟨-, h⟩ | ⟨-, h⟩
      · cases h
      · exact h
    refine S.toIds.shrink (fun _ _ h => h) stages ?_ ?_
    · intro j session' h
      replace h := (stage_goto v i j _).symm.trans h
      split_ifs at h
      exact h
    · rintro j cid (h | ⟨session', h, rfl⟩)
      · replace h := (Function.update_apply v.connectionId i _ j).symm.trans h
        split_ifs at h with hj
        · exact Or.inr ⟨session, by rw [hj, at_stage]; rfl, Option.some.inj h⟩
        · exact Or.inl h
      · exact Or.inr ⟨session', stages j session' h, rfl⟩
  linked := by
    intro cid d h
    rw [RegistryView.link, DashMap.lookup_insert_ite] at h
    split_ifs at h with hc
    · cases h
      refine (S.installed i session (by rw [at_stage]; rfl)).imp
        (fun own => ⟨session, own, hc.symm⟩) fun stale => ?_
      exact exists_goto_of_none (congrArg Stage.stale at_stage) (hc ▸ stale)
    · exact (S.linked cid d h).imp_right (exists_goto_of_none (congrArg Stage.stale at_stage))
  named := by
    intro d session' found
    have inserted (same : session'.connectionId = session.connectionId) :
        (v.link i session).connections.lookup session'.connectionId = some d := by
      rcases S.installed i session (by rw [at_stage]; rfl) with own | ⟨j, stale⟩
      · rw [RegistryView.link, same, AList.lookup_insert,
          S.inj d _ session' session found own same]
      · exact absurd same ((S.stale j _ stale).1 d session' found)
    rcases S.named d session' found with h | ⟨j, h⟩
    · by_cases same : session'.connectionId = session.connectionId
      · exact Or.inl (inserted same)
      · exact Or.inl ((AList.lookup_insert_ne same).trans h)
    · by_cases hj : j = i
      · rw [hj, at_stage] at h
        exact Or.inl (inserted (congrArg DeviceSession.connectionId (Option.some.inj h).symm))
      · refine Or.inr ⟨j, (congrArg Stage.unlinked (stage_goto v i j _)).trans ?_⟩
        rw [if_neg hj, h]
  stale := by
    intro j cid h
    rcases of_goto h with ⟨-, h⟩ | ⟨hj, h⟩
    · cases h
    · exact S.stale_goto hj h (by simp)
  installed := by
    intro j session' h
    rcases of_goto h with ⟨-, h⟩ | ⟨-, h⟩
    · cases h
    · exact (S.installed j session' h).imp_right
        (exists_goto_of_none (congrArg Stage.stale at_stage))
  removing := by
    intro j d h
    replace h := (stage_goto v i j _).symm.trans h
    split_ifs at h with hj
    obtain ⟨session', found, own⟩ := S.removing j d h
    exact ⟨session', found, (Function.update_of_ne hj ..).trans own⟩
  removed := by
    intro j d cid h
    replace h := (stage_goto v i j _).symm.trans h
    split_ifs at h with hj
    exact (Function.update_of_ne hj ..).trans (S.removed j d cid h)

/-- A stream removes the session that it found to be its own. -/
theorem removeSession (S : v.Sound) (at_stage : v.stage i = .removingSession d)
    (found : v.sessions.lookup d = some session) : (v.removeSession i d session).Sound := by
  have own : v.connectionId i = some session.connectionId := by
    obtain ⟨session', found', own⟩ := S.removing i d at_stage
    rw [found] at found'
    cases found'
    exact own
  have held : v.Holds i session.connectionId := Or.inl own
  have left {d' : String} {session' : DeviceSession}
      (h : (v.removeSession i d session).sessions.lookup d' = some session') :
      d' ≠ d ∧ v.sessions.lookup d' = some session' := by
    rw [RegistryView.removeSession, DashMap.lookup_erase_ite] at h
    split_ifs at h with hd
    exact ⟨hd, h⟩
  constructor
  · have moved : (v.goto i (.removingConnection d session.connectionId)).Ids := by
      refine S.toIds.move ?_ ?_
      · intro session' h
        cases h
      · intro session' h
        cases h
    exact moved.shrink (fun _ _ h => (left h).2) (fun _ _ h => h) (fun _ _ h => h) fun _ _ h => h
  · intro cid d' h
    rcases S.linked cid d' h with ⟨session', found', rfl⟩ | h
    · by_cases hd : d' = d
      · rw [hd, found] at found'
        cases found'
        refine Or.inr ⟨i, (congrArg Stage.stale (stage_goto v i i _)).trans ?_⟩
        rw [if_pos rfl]
        rfl
      · exact Or.inl ⟨session', (AList.lookup_erase_ne hd).trans found', rfl⟩
    · exact Or.inr (exists_goto_of_none (congrArg Stage.stale at_stage) h)
  · intro d' session' h
    exact (S.named d' session' (left h).2).imp_right
      (exists_goto_of_none (congrArg Stage.unlinked at_stage))
  · intro j cid h
    rcases of_goto h with ⟨rfl, moved⟩ | ⟨hj, h⟩
    · cases moved
      refine ⟨fun d' session' h same => ?_, fun k session' hk same => ?_, fun session' hk => ?_⟩
      · exact (left h).1 (S.inj d' d session' session (left h).2 found same)
      · replace hk := (stage_goto v j k _).symm.trans hk
        split_ifs at hk
        exact S.fresh k session' d session hk found same.symm
      · replace hk := (congrArg Stage.unlinked (stage_goto v j j _)).symm.trans hk
        rw [if_pos rfl] at hk
        cases hk
    · have ended (session' : DeviceSession)
          (h : Stage.removingConnection d session.connectionId = .numbered session') :
          session'.connectionId ≠ cid := by
        cases h
      obtain ⟨old, numbered⟩ := S.stale_goto hj h ended
      exact ⟨fun d' session' h' => old d' session' (left h').2, numbered⟩
  · intro j session' h
    rcases of_goto h with ⟨-, h⟩ | ⟨hj, h⟩
    · cases h
    · refine (S.installed j session' h).imp (fun found' => ?_)
        (exists_goto_of_none (congrArg Stage.stale at_stage))
      refine (AList.lookup_erase_ne fun hd => ?_).trans found'
      rw [hd, found] at found'
      cases found'
      exact hj (S.unique j i _ (Or.inr ⟨_, Stage.session_of_unlinked h, rfl⟩) held)
  · intro j d' h
    replace h := (stage_goto v i j _).symm.trans h
    split_ifs at h with hj
    obtain ⟨session', found', own⟩ := S.removing j d' h
    refine ⟨session', (AList.lookup_erase_ne fun hd => ?_).trans found', own⟩
    rw [hd, found] at found'
    cases found'
    exact hj (S.unique j i _ (Or.inl own) held)
  · intro j d' cid h
    replace h := (stage_goto v i j _).symm.trans h
    split_ifs at h with hj
    · cases h
      exact hj ▸ own
    · exact S.removed j d' cid h

/-- The connection id of a stream that removed its session is that of no other stream. -/
theorem inserted_of_removed (S : v.Sound) (at_stage : v.stage i = .removingConnection d cid) :
    v.Inserted i cid := by
  rintro j session hj unlinked rfl
  exact hj (S.unique j i _ (Or.inr ⟨session, Stage.session_of_unlinked unlinked, rfl⟩)
    (Or.inl (S.removed i d _ at_stage)))

/-- Every step keeps the maps inverse to each other up to what streams have still to do. -/
theorem steps (S : v.Sound) {handled : List Handling} (h : v.Steps v' handled) : v'.Sound := by
  cases h with
  | still | foreign => exact S
  | draw i session at_stage own unused => exact S.draw at_stage own unused
  | install i session at_stage undisturbed => exact S.install at_stage undisturbed
  | unlink i session previous at_stage inserted =>
    refine S.unlink ?_ rfl ?_ ?_ (by simp) inserted <;> rw [at_stage] <;> rfl
  | link i session at_stage => exact S.link at_stage
  | verified i session d at_stage found own =>
    refine S.move rfl ?_ ?_ ?_
    · rw [at_stage]
      exact ⟨rfl, rfl⟩
    · rw [at_stage]
      rfl
    · rintro _ ⟨rfl⟩
      exact ⟨session, found, own⟩
  | removeSession i session d at_stage found => exact S.removeSession at_stage found
  | vanished i d at_stage absent =>
    obtain ⟨session, found, -⟩ := S.removing i d at_stage
    cases absent.symm.trans found
  | removeConnection i d cid at_stage =>
    have inserted := S.inserted_of_removed at_stage
    refine S.unlink ?_ rfl ?_ ?_ (by simp) inserted <;> rw [at_stage] <;> rfl
  | finish i d at_stage =>
    refine S.move rfl ?_ ?_ (by simp)
    · rw [at_stage]
      exact ⟨rfl, rfl⟩
    · rw [at_stage]
      rfl

end Sound

/-! ## The order of the handlings -/

/-- The handling of stream `i` that has taken effect and not returned. -/
def taken (v : RegistryView) (i : ℕ) : List Handling := (v.stage i).taken i (v.connectionId i)

/-- The handlings that took effect, in `order`, give the sessions of the registry. -/
structure Orders (v : RegistryView) (log order : List Handling) : Prop where
  arranged : Arranges Handling.stream log v.taken order
  sessions : ∀ d, (SessionMaps.handleAll order).sessionsByDeviceId.lookup d = v.sessions.lookup d
  inverse : (SessionMaps.handleAll order).Inverse

theorem taken_congr {j : ℕ} (stage : v'.stage j = v.stage j)
    (connectionId : v'.connectionId j = v.connectionId j) : v'.taken j = v.taken j := by
  unfold taken
  rw [stage, connectionId]

theorem taken_goto_of_ne {stage : Stage} {j : ℕ} (h : j ≠ i) :
    (v.goto i stage).taken j = v.taken j :=
  taken_congr ((stage_goto v i j stage).trans (if_neg h)) rfl

theorem taken_goto_self {stage : Stage} :
    (v.goto i stage).taken i = stage.taken i (v.connectionId i) := by
  unfold taken
  rw [stage_goto, if_pos rfl]
  rfl

/-- A stream moves on without an effect on the sessions. -/
theorem Orders.move {log order : List Handling} (O : v.Orders log order) {stage : Stage}
    (same : (v.goto i stage).taken i = v.taken i) : (v.goto i stage).Orders log order := by
  refine ⟨O.arranged.keep fun j => ?_, O.sessions, O.inverse⟩
  by_cases hj : j = i
  · rw [hj, same]
  · exact taken_goto_of_ne hj

/-- A `Register` takes effect when its session is inserted. -/
theorem Orders.install {log order : List Handling} (S : v.Sound) (O : v.Orders log order)
    (at_stage : v.stage i = .numbered session) :
    (v.install i session).Orders log (order ++ [.register session]) := by
  constructor
  · refine O.arranged.effect (S.own i session (by rw [at_stage]; rfl)) ?_ fun j hj => ?_
    · have before : v.taken i = [] := by
        rw [taken, at_stage]
        rfl
      have after : (v.install i session).taken i = [.register session] := by
        refine taken_goto_self.trans ?_
        unfold afterInstall
        cases v.sessions.lookup session.deviceId <;> rfl
      rw [before, after, List.nil_append]
    · exact taken_goto_of_ne hj
  · intro d
    rw [SessionMaps.handleAll_snoc]
    simp only [SessionMaps.handle, SessionMaps.install, RegistryView.install,
      DashMap.lookup_insert_ite, O.sessions]
  · rw [SessionMaps.handleAll_snoc]
    refine O.inverse.install fun d session' found => ?_
    rw [O.sessions] at found
    exact S.fresh i session d session' at_stage found

/-- A cleanup takes effect when it removes the session. -/
theorem Orders.removeSession {log order : List Handling} (S : v.Sound) (O : v.Orders log order)
    (at_stage : v.stage i = .removingSession d) (found : v.sessions.lookup d = some session) :
    (v.removeSession i d session).Orders log (order ++ [.cleanup i d (v.connectionId i)]) := by
  obtain ⟨session', found', own⟩ := S.removing i d at_stage
  rw [found] at found'
  cases found'
  have effect : SessionMaps.handleAll (order ++ [Handling.cleanup i d (v.connectionId i)]) =
      (SessionMaps.handleAll order).remove d session := by
    rw [SessionMaps.handleAll_snoc, own, SessionMaps.handle_own]
    rw [O.sessions, found]
  constructor
  · refine O.arranged.effect (i := i) rfl ?_ fun j hj => ?_
    · have before : v.taken i = [] := by
        rw [taken, at_stage]
        rfl
      rw [before, List.nil_append]
      exact taken_goto_self
    · exact taken_goto_of_ne hj
  · intro d'
    rw [effect]
    simp only [SessionMaps.remove, RegistryView.removeSession, DashMap.lookup_erase_ite,
      O.sessions]
  · rw [effect]
    exact O.inverse.remove ((O.sessions d).trans found)

/-- Every step keeps an order of the handlings that took effect. -/
theorem Orders.steps {log order handled : List Handling} (S : v.Sound) (O : v.Orders log order)
    (h : v.Steps v' handled) : ∃ order', v'.Orders (log ++ handled) order' := by
  cases h with
  | still => exact ⟨order, by rwa [List.append_nil]⟩
  | draw i session at_stage own unused =>
    refine ⟨order, ?_⟩
    rw [List.append_nil]
    refine O.move (taken_goto_self.trans ?_)
    rw [taken, at_stage]
    rfl
  | install i session at_stage undisturbed =>
    exact ⟨_, by rw [List.append_nil]; exact O.install S at_stage⟩
  | unlink i session previous at_stage inserted | removeConnection i d cid at_stage =>
    refine ⟨order, ?_⟩
    rw [List.append_nil]
    refine ⟨(O.move (taken_goto_self.trans ?_)).arranged, O.sessions, O.inverse⟩
    rw [taken, at_stage]
    rfl
  | link i session at_stage =>
    refine ⟨order, ?_, O.sessions, O.inverse⟩
    have ended : (v.link i session).taken i = [] := by
      refine (congrArg (Stage.taken i _) (stage_goto v i i _)).trans ?_
      rw [if_pos rfl]
      rfl
    refine O.arranged.returns (S.own i session (by rw [at_stage]; rfl)) ?_ fun j hj => ?_
    · rw [ended, taken, at_stage]
      rfl
    · refine taken_congr ((stage_goto v i j _).trans (if_neg hj)) ?_
      exact Function.update_of_ne hj ..
  | foreign i d at_stage other =>
    have same : SessionMaps.handleAll (order ++ [Handling.cleanup i d (v.connectionId i)]) =
        SessionMaps.handleAll order := by
      rw [SessionMaps.handleAll_snoc, SessionMaps.handle_foreign]
      intro session found
      rw [O.sessions] at found
      exact other session found
    refine ⟨_, O.arranged.atOnce ?_ fun _ => rfl, ?_, ?_⟩
    · change v.taken i = []
      rw [taken, at_stage]
      rfl
    · rw [same]
      exact O.sessions
    · rw [same]
      exact O.inverse
  | verified i session d at_stage found own =>
    refine ⟨order, ?_⟩
    rw [List.append_nil]
    refine O.move (taken_goto_self.trans ?_)
    rw [taken, at_stage]
    rfl
  | removeSession i session d at_stage found =>
    exact ⟨_, by rw [List.append_nil]; exact O.removeSession S at_stage found⟩
  | vanished i d at_stage absent =>
    obtain ⟨session, found, -⟩ := S.removing i d at_stage
    cases absent.symm.trans found
  | finish i d at_stage =>
    refine ⟨order, ?_, O.sessions, O.inverse⟩
    refine O.arranged.returns (i := i) rfl ?_ fun j hj => taken_goto_of_ne hj
    rw [taken_goto_self, taken, at_stage]
    rfl

end RegistryView

end GrpcRelay
