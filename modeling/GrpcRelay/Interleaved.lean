import GrpcRelay.Streams
import GrpcRelay.RouterCalls
import GrpcRelay.RouterOrder

/-!
# The relay with interleaved calls of the stream router

In the steps of the relay a call of the stream router is one step.  Here it is as many steps as it
makes accesses to the maps and the counter (`StreamRouter.CallPc`), and the steps of all tasks are
interleaved with them; the scan of `cleanup_stale` meets the mappings one by one.  All other steps
are those of the relay.
-/

namespace GrpcRelay

open StreamRouter

/-- The tasks that call the stream router. -/
inductive Caller where
  | loop (c : ℕ)
  | stream (i : ℕ)
  | reaper
  deriving DecidableEq

/-- The relay, the router call of each task and the scan of the stale-stream task (its clock reading
and the streams found), and the stream ids that were drawn. -/
structure Interleaved where
  relay : State
  call : Caller → CallPc
  scan : Option (Instant × List String)
  drawn : List String

/-- A step of the relay in which every operation of a router call is a step of its own. -/
inductive Access where
  /-- A step that does not call the router. -/
  | other (a : Action)
  /-- The next operation of the router call of a task. -/
  | call (caller : Caller)
  /-- `cleanup_stale` reads the clock. -/
  | scan
  /-- The scan meets the mapping of a stale stream. -/
  | visit (streamId : String)
  /-- The scan is over. -/
  | scanned
  deriving DecidableEq

/-! ## The calls of the tasks -/

/-- The router call that a task is about to make. -/
def State.nextCall (s : State) : Caller → Option CallPc
  | .loop c =>
    match (s.ctrl c).pc with
    | .mapping m =>
      some (.numbering s.shared.now m.targetDeviceId m.controllerId m.methodName c)
    | .closing => (s.ctrl c).streamId.map .removing
    | _ => none
  | .stream i =>
    match (s.dev i).pc with
    | .sweeping did _ [] _ => some (.taking did)
    | _ => none
  | .reaper =>
    match s.reaper with
    | .removing (streamId :: _) _ => some (.removing streamId)
    | _ => none

/-- The step is a router call, or the scan of the stale-stream task. -/
def State.callsRouter (s : State) : Action → Bool
  | .ctrl c _ => (s.nextCall (.loop c)).isSome
  | .dev i _ => (s.nextCall (.stream i)).isSome
  | .reaper =>
    match s.reaper with
    | .sleeping => true
    | _ => (s.nextCall .reaper).isSome
  | _ => false

/-- What a loop does with the result of `create_mapping`. -/
def Controller.mapped (sh : Shared) (c : ℕ) (l : Controller) (m : ControllerMessage) :
    Except StreamRouterError String → Next Controller
  | .ok streamId =>
    ⟨sh,
      { l with
        streamId := some streamId
        streamBinding := some m.binding
        pc := .beginning m },
      [.mapped c m sh.router sh.now streamId]⟩
  | .error err =>
    if err.kind = .maxStreamsExceeded then
      refuse sh c l m .rateLimited [.requestsTotal c m.methodName .rateLimited]
    else refuse sh c l m .internalError [.requestsTotal c m.methodName .internalError]

/-- The state with another router. -/
def State.withRouter (s : State) (router : StreamRouter) : State :=
  { s with shared := { s.shared with router := router } }

/-- A task goes on when its call has returned. -/
def State.resume (s : State) : Caller → CallPc → State
  | .loop c, .returned result =>
    match (s.ctrl c).pc, result with
    | .mapping m, .created result =>
      s.afterCtrl c (Controller.mapped s.shared c (s.ctrl c) m result)
    | .closing, _ => s.afterCtrl c ⟨s.shared, (s.ctrl c).goto .disconnecting, []⟩
    | _, _ => s
  | .stream i, .returned (.removedAll removed) =>
    match (s.dev i).pc with
    | .sweeping did reason [] taken =>
      s.afterDev i ⟨s.shared, (s.dev i).goto (.draining did reason taken removed), []⟩
    | _ => s
  | .reaper, .returned (.removed mapping) =>
    match s.reaper with
    | .removing (_ :: stale) removed =>
      { s with reaper := .removing stale (removed ++ mapping.toList) }
    | _ => s
  | _, _ => s

namespace State

variable {s : State} {k : Caller} {p : CallPc} {c : ℕ}

theorem shared_resume (s : State) (k : Caller) (p : CallPc) :
    (s.resume k p).shared = s.shared := by
  unfold resume
  split
  · split
    · unfold Controller.mapped
      split
      · rfl
      · split_ifs <;> rfl
    · rfl
    · rfl
  · split <;> rfl
  · split <;> rfl
  · rfl

/-- A task that is within a call stays where it is. -/
theorem resume_of_running (running : p.over = false) : s.resume k p = s := by
  cases p with
  | returned => cases running
  | _ => cases k <;> rfl

theorem ctrl_resume_of_ne (other : k ≠ .loop c) : (s.resume k p).ctrl c = s.ctrl c := by
  unfold resume
  split
  · rename_i c' _
    have hc : c ≠ c' := by
      rintro rfl
      exact other rfl
    split <;> simp [afterCtrl, hc]
  · split <;> rfl
  · split <;> rfl
  · rfl

/-- A loop whose call has returned goes on, with its stream if it has created one. -/
theorem ctrl_resume (result : CallResult) :
    (s.resume (.loop c) (.returned result)).ctrl c = s.ctrl c ∨
    ((s.ctrl c).pc = .closing ∧
      (s.resume (.loop c) (.returned result)).ctrl c = (s.ctrl c).goto .disconnecting) ∨
    ∃ m, (s.ctrl c).pc = .mapping m ∧
      ((s.resume (.loop c) (.returned result)).ctrl c = (s.ctrl c).goto .idle ∨
        ∃ sid, result = .created (.ok sid) ∧
          (s.resume (.loop c) (.returned result)).ctrl c =
            ⟨some sid, some m.binding, (s.ctrl c).controllerConnected, .beginning m⟩) := by
  simp only [resume]
  split
  · rename_i m result at_pc
    refine Or.inr (Or.inr ⟨m, at_pc, ?_⟩)
    unfold Controller.mapped
    split
    · rename_i sid
      refine Or.inr ⟨sid, rfl, ?_⟩
      simp [afterCtrl]
    · refine Or.inl ?_
      split_ifs <;> simp [afterCtrl, Controller.refuse]
  · rename_i at_pc
    exact Or.inr (Or.inl ⟨at_pc, by simp [afterCtrl]⟩)
  · exact Or.inl rfl

end State

namespace Interleaved

/-- The relay at its start: no call is under way. -/
def init (cfg : Config) : Interleaved where
  relay := .init cfg
  call := fun _ => .returned (.removedAll [])
  scan := none
  drawn := []

/-- Where the router call of a task stands, if it makes one. -/
def current (s : Interleaved) (caller : Caller) : Option CallPc :=
  if (s.call caller).over then s.relay.nextCall caller else some (s.call caller)

/-- The relay after an operation of the router call of a task. -/
def called (s : Interleaved) (caller : Caller) (pc : CallPc) : Interleaved :=
  { s with
    relay := (s.relay.withRouter (pc.step s.relay.shared.router).1).resume caller
      (pc.step s.relay.shared.router).2
    call := Function.update s.call caller (pc.step s.relay.shared.router).2
    drawn := s.drawn ++ pc.draws s.relay.shared.router }

/-- One step; a call of the router is made by `call`, `scan`, `visit` and `scanned`. -/
def step (cfg : Config) (s : Interleaved) : Access → Option Interleaved
  | .other a =>
    if s.relay.callsRouter a then none
    else (GrpcRelay.step cfg s.relay a).map fun relay => { s with relay := relay }
  | .call caller => (s.current caller).map (s.called caller)
  | .scan =>
    match s.relay.reaper, s.scan with
    | .sleeping, none => some { s with scan := some (s.relay.shared.now, []) }
    | _, _ => none
  | .visit streamId =>
    match s.scan, s.relay.shared.router.mappings.lookup streamId with
    | some (now, stale), some mapping =>
      if mapping.activeRequests = 0 ∧
          s.relay.shared.router.idleTimeout ≤ saturatingDurationSince now mapping.lastActivity
      then some { s with scan := some (now, stale ++ [mapping.streamId]) }
      else none
    | _, _ => none
  | .scanned =>
    match s.scan with
    | some (_, stale) =>
      some { s with relay := { s.relay with reaper := .removing stale [] }, scan := none }
    | none => none

variable {s : Interleaved} {k : Caller} {p : CallPc}

theorem call_called_self : (s.called k p).call k = (p.step s.relay.shared.router).2 :=
  Function.update_self ..

theorem call_called_of_ne {j : Caller} (other : j ≠ k) : (s.called k p).call j = s.call j :=
  Function.update_of_ne other ..

/-- The states of all runs. -/
def Reachable (cfg : Config) (s : Interleaved) : Prop :=
  Runs.Reach (step cfg) (fun _ _ => True) (init cfg) s

end Interleaved

end GrpcRelay
