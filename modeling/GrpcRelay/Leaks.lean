import GrpcRelay.Uninterrupted
import GrpcRelay.LongRuns

/-!
# Streams and connections that are left behind

A stream that is stored has an owner, the loop that created it and will remove it (`Owns`); whoever
removes it first, the ids in the indexes are accounted for by the streams stored and the calls under
way.  The connections counted are not more than the loops that will take theirs off the count
(`Counted`).  So when all loops are over nothing is left (`nothing_is_left`), as long as the stream
ids drawn differ: after 2^64 of them the ids repeat, and a stream that takes the place of another
leaves the other's ids behind (`repeated_id_is_left`).
-/

namespace GrpcRelay

open StreamRouter

/-! ## Loops and their streams -/

/-- The loop has removed its stream, or had none. -/
def CtrlPc.closed : CtrlPc → Bool
  | .disconnecting | .done => true
  | _ => false

/-- The loop is about to create its stream. -/
def CtrlPc.opening : CtrlPc → Bool
  | .authenticating _ | .limiting _ | .mapping _ => true
  | _ => false

namespace Controller

variable {cfg : Config} {sh : Shared} {c : ℕ} {l : Controller} {input : CtrlInput}
  {next : Next Controller}

/-- Only the creation of its mapping gives a loop a stream; it creates it before it has one. -/
theorem stream_of_step (h : step cfg sh c l input = some next) (free : ∀ m, l.pc ≠ .mapping m) :
    next.loc.streamId = l.streamId ∧
      (next.loc.pc.opening → l.pc.opening ∨ l.streamId = none) ∧
      (next.loc.pc.closed → l.pc = .closing ∨ l.pc.closed) := by
  cases moves_of_step h with
  | pulled m at_pc unbound => exact ⟨rfl, fun _ => Or.inr unbound, nofun⟩
  | authorized m _ _ _ _ at_pc => exact ⟨rfl, fun _ => Or.inl (by rw [at_pc]; rfl), nofun⟩
  | allowed m _ at_pc => exact ⟨rfl, fun _ => Or.inl (by rw [at_pc]; rfl), nofun⟩
  | mapped m _ _ at_pc => exact absurd at_pc (free m)
  | ended input pc' sh' at_pc quiet =>
    rcases at_pc with ⟨-, rfl⟩ | ⟨at_pc, rfl⟩ | ⟨at_pc, rfl⟩
    · exact ⟨rfl, nofun, nofun⟩
    · exact ⟨rfl, nofun, fun _ => Or.inl at_pc⟩
    · exact ⟨rfl, nofun, fun _ => Or.inr (by rw [at_pc]; rfl)⟩
  | _ => exact ⟨rfl, nofun, nofun⟩

end Controller

section

variable {cfg : Config} {s s' : State} {a : Action}

/-- What the router notes about a stream may change, but for the ids. -/
def Notes (r r' : StreamRouter) : Prop :=
  r' = r ∨ ∃ sid g, r' = { r with mappings := DashMap.modify r.mappings sid g } ∧
    ∀ m : StreamMapping, (g m).streamId = m.streamId ∧ (g m).deviceId = m.deviceId ∧
      (g m).controllerId = m.controllerId

theorem notes_beginRequest (sh : Shared) (l : Controller) :
    Notes sh.router (Controller.beginRequest sh l).router := by
  unfold Controller.beginRequest
  split
  · exact Or.inr ⟨_, _, rfl, fun m => ⟨rfl, rfl, rfl⟩⟩
  · exact Or.inl rfl

theorem notes_finishRequest (sh : Shared) (l : Controller) :
    Notes sh.router (Controller.finishRequest sh l).router := by
  unfold Controller.finishRequest
  split
  · exact Or.inr ⟨_, _, rfl, fun m => ⟨rfl, rfl, rfl⟩⟩
  · exact Or.inl rfl

/-- A step of another task than a loop that is no router call leaves the router alone. -/
theorem router_of_other (h : step cfg s a = some s') (free : s.callsRouter a = false)
    (other : ∀ c input, a ≠ .ctrl c input) : s'.shared.router = s.shared.router := by
  rw [router_of_step h]
  cases a with
  | ctrl c input => exact absurd rfl (other c input)
  | dev i input =>
    simp only [State.callsRouter, State.nextCall] at free
    simp only [routerAfter, Device.routerAfter]
    split
    · rename_i at_pc
      rw [at_pc] at free
      cases free
    · rfl
  | reaper =>
    simp only [State.callsRouter, State.nextCall] at free
    simp only [routerAfter]
    cases hr : s.reaper with
    | removing stale removed =>
      cases stale with
      | nil => rfl
      | cons sid stale =>
        rw [hr] at free
        cases free
    | _ => rfl
  | _ => rfl

/-- A step that is no router call changes at most what the router notes about a stream. -/
theorem notes_of_other (h : step cfg s a = some s') (free : s.callsRouter a = false) :
    Notes s.shared.router s'.shared.router := by
  by_cases own : ∃ c input, a = .ctrl c input
  · obtain ⟨c, input, rfl⟩ := own
    rw [router_of_step h]
    simp only [State.callsRouter, State.nextCall] at free
    simp only [routerAfter, Controller.routerAfter]
    split
    · rename_i m at_pc
      rw [at_pc] at free
      cases free
    · exact notes_beginRequest _ _
    iterate 3
      · exact notes_finishRequest _ _
    · rename_i at_pc
      rw [at_pc, Option.isSome_map, Option.isSome_eq_false_iff, Option.isNone_iff_eq_none] at free
      rw [Controller.close, free]
      exact Or.inl rfl
    · exact Or.inl rfl
  · exact Or.inl (router_of_other h free fun c input h => own ⟨c, input, h⟩)

/-- What a step that is no router call does to a loop and its stream. -/
theorem ctrl_of_other (h : step cfg s a = some s') (free : s.callsRouter a = false) (c : ℕ) :
    (s'.ctrl c).streamId = (s.ctrl c).streamId ∧
      ((s'.ctrl c).pc.opening → (s.ctrl c).pc.opening ∨ (s.ctrl c).streamId = none) ∧
      ((s'.ctrl c).pc.closed → (s.ctrl c).pc.closed ∨ (s.ctrl c).streamId = none) ∧
      ((s.nextCall (.loop c)).isSome → s'.ctrl c = s.ctrl c) := by
  by_cases own : ∃ input, a = .ctrl c input
  · obtain ⟨input, rfl⟩ := own
    obtain ⟨next, hn, rfl⟩ := Option.map_eq_some_iff.1 h
    replace free : (s.nextCall (.loop c)).isSome = false := free
    have unmapped (m : ControllerMessage) : (s.ctrl c).pc ≠ .mapping m := fun at_pc => by
      rw [State.nextCall, at_pc] at free
      cases free
    obtain ⟨same, opens, closes⟩ := Controller.stream_of_step hn unmapped
    simp only [State.afterCtrl, Function.update_self]
    refine ⟨same, opens, fun closed => ?_, fun calls => by rw [free] at calls; cases calls⟩
    rcases closes closed with at_pc | closed
    · rw [State.nextCall, at_pc, Option.isSome_map, Option.isSome_eq_false_iff,
        Option.isNone_iff_eq_none] at free
      exact Or.inr free
    · exact Or.inl closed
  · have same := ctrl_of_cases (step_cases h) (c := c) fun input h => own ⟨input, h⟩
    rw [same]
    exact ⟨rfl, Or.inl, Or.inl, fun _ => rfl⟩

end

/-! ## Connections -/

/-- The loop will take a connection off the count. -/
def Controller.Connected (l : Controller) : Prop := l.controllerConnected = true ∧ l.pc ≠ .done

/-- The count of connections and whether a loop has one, before and after a step of the loop. -/
inductive Counts (n : ℕ) (l : Controller) (n' : ℕ) (l' : Controller) : Prop
  | same (count : n' = n) (still : l'.Connected ↔ l.Connected)
  | more (count : n' = (n + 1) % UInt64.size) (new : ¬ l.Connected) (connected : l'.Connected)
  | fewer (count : n' = n - 1) (connected : l.Connected) (gone : ¬ l'.Connected)

/-- Another step of a loop. -/
theorem Counts.goto {n n' : ℕ} {l : Controller} {pc' : CtrlPc} (count : n' = n)
    (before : l.pc ≠ .done) (after : pc' ≠ .done) : Counts n l n' (l.goto pc') :=
  .same count (by simp [Controller.Connected, Controller.goto, before, after])

namespace Controller

variable {cfg : Config} {sh : Shared} {c : ℕ} {l : Controller} {m : ControllerMessage}
  {input : CtrlInput} {next : Next Controller}

theorem counts_receive (at_pc : l.pc = .idle) :
    Counts sh.relay.controllerConnectionCount l
      (receive sh c l m).shared.relay.controllerConnectionCount (receive sh c l m).loc := by
  have before : l.pc ≠ .done := by simp [at_pc]
  unfold receive
  split
  · exact .goto rfl before nofun
  · split_ifs <;> exact .goto rfl before nofun

theorem counts_authenticate (at_pc : l.pc = .authenticating m) :
    Counts sh.relay.controllerConnectionCount l
      (authenticate cfg sh c l m).shared.relay.controllerConnectionCount
      (authenticate cfg sh c l m).loc := by
  have before : l.pc ≠ .done := by simp [at_pc]
  -- The loop goes on, as a connection.
  have connects (pc' : CtrlPc) (after : pc' ≠ .done) : Counts sh.relay.controllerConnectionCount l
      (connect sh l).1.relay.controllerConnectionCount ((connect sh l).2.goto pc') := by
    unfold connect
    split_ifs with connected
    · exact .goto rfl before after
    · exact .more rfl (fun h => connected h.1) ⟨rfl, after⟩
  unfold authenticate
  split
  · exact .goto rfl before nofun
  · dsimp only
    split
    · exact connects _ nofun
    · split <;> exact connects _ nofun

theorem counts_of_step (h : step cfg sh c l input = some next) :
    Counts sh.relay.controllerConnectionCount l next.shared.relay.controllerConnectionCount
      next.loc := by
  unfold step at h
  split at h
  case h_1 =>
    split at h <;> rename_i hpc <;> cases h
    exact counts_receive hpc
  case h_2 | h_3 =>
    split at h <;> rename_i hpc <;> cases h
    exact .goto rfl (by simp [hpc]) nofun
  case h_4 =>
    split at h <;> rename_i hpc <;> cases h
    unfold meter
    split <;> exact .goto rfl (by simp [hpc]) nofun
  case h_5 =>
    split at h <;> rename_i hpc <;> try cases h
    all_goals have before : l.pc ≠ .done := by simp [hpc]
    case h_1 => exact counts_authenticate hpc
    case h_2 => unfold limit; split <;> exact .goto rfl before nofun
    case h_3 =>
      unfold createMapping
      split
      · exact .same rfl (by simp [Connected, before])
      · split_ifs <;> exact .goto rfl before nofun
    case h_4 => unfold beginRequest; split <;> exact .goto rfl before nofun
    case h_5 => unfold lookUp; split <;> exact .goto rfl before nofun
    case h_6 =>
      unfold join
      split <;> rename_i joined
      all_goals
        exact .goto (congrArg (·.1.controllerConnectionCount) joined.symm) before nofun
    case h_7 => unfold route; split <;> exact .goto rfl before nofun
    case h_8 => unfold forward; split_ifs <;> exact .goto rfl before nofun
    case h_9 | h_12 | h_15 => unfold finishRequest; split <;> exact .goto rfl before nofun
    case h_10 =>
      unfold takeOffline
      split <;> rename_i took
      · exact .goto (congrArg (·.1.controllerConnectionCount) took.symm) before nofun
      · exact .goto rfl before nofun
    case h_13 =>
      unfold await at h
      split at h <;> split_ifs at h <;> cases h <;> exact .goto rfl before nofun
    case h_17 => unfold close; split <;> exact .goto rfl before nofun
    case h_18 =>
      unfold disconnect
      split_ifs with connected
      · exact .fewer rfl ⟨connected, before⟩ fun h => h.2 rfl
      · exact .same rfl (by simp [Connected, goto, connected])
    all_goals exact .goto rfl before nofun

end Controller

/-- The steps of the other tasks leave the count of connections alone. -/
theorem count_of_step {cfg : Config} {s s' : State} {a : Action} (h : step cfg s a = some s')
    (other : ∀ c input, a ≠ .ctrl c input) :
    s'.shared.relay.controllerConnectionCount = s.shared.relay.controllerConnectionCount := by
  cases a with
  | ctrl c input => exact absurd rfl (other c input)
  | dev i input =>
    obtain ⟨next, hn, rfl⟩ := Option.map_eq_some_iff.1 h
    exact congrArg (·.relay.controllerConnectionCount) (Device.frame_of_step hn)
  | timer e =>
    obtain ⟨next, hn, rfl⟩ := Option.map_eq_some_iff.1 h
    unfold Timer.step at hn
    split at hn
    · split_ifs at hn
      split at hn <;> rename_i took <;> cases hn
      · exact congrArg (·.1.controllerConnectionCount) took.symm
      · rfl
    all_goals cases hn
    rfl
  | reaper =>
    cases h
    cases s.reaper with
    | sleeping => rfl
    | removing stale removed =>
      cases stale with
      | nil => rfl
      | cons sid stale =>
        simp only [Reaper.step]
        split <;> rfl
    | notifying removed => cases removed <;> rfl
  | advance now | evict k =>
    simp only [step] at h
    split_ifs at h
    cases h
    rfl
  | revokeControllerToken p | revokeDeviceToken p | allow d c | closeOutbound i =>
    cases h
    rfl

/-- The connections counted are not more than the loops that have one. -/
def Counted (s : State) : Prop :=
  ∃ loops : List ℕ, loops.Nodup ∧ (∀ c, c ∈ loops ↔ (s.ctrl c).Connected) ∧
    s.shared.relay.controllerConnectionCount ≤ loops.length

namespace Counted

variable {s s' : State} {c : ℕ}

/-- A loop makes a step. -/
theorem ctrl (C : Counted s) (others : ∀ c', c' ≠ c → s'.ctrl c' = s.ctrl c')
    (counts : Counts s.shared.relay.controllerConnectionCount (s.ctrl c)
      s'.shared.relay.controllerConnectionCount (s'.ctrl c)) : Counted s' := by
  obtain ⟨loops, nodup, mem, bound⟩ := C
  cases counts with
  | same count still =>
    refine ⟨loops, nodup, fun c' => ?_, count.trans_le bound⟩
    by_cases hc : c' = c
    · rw [hc, still, mem]
    · rw [others c' hc, mem]
  | more count new connected =>
    have fresh : c ∉ loops := fun h => new ((mem c).1 h)
    refine ⟨c :: loops, List.nodup_cons.2 ⟨fresh, nodup⟩, fun c' => ?_, ?_⟩
    · rw [List.mem_cons]
      by_cases hc : c' = c
      · simp [hc, connected]
      · rw [others c' hc, mem]
        simp [hc]
    · rw [count, List.length_cons]
      exact (Nat.mod_le _ _).trans (Nat.succ_le_succ bound)
  | fewer count connected gone =>
    refine ⟨loops.erase c, nodup.erase c, fun c' => ?_, ?_⟩
    · rw [nodup.mem_erase_iff]
      by_cases hc : c' = c
      · simp [hc, gone]
      · rw [others c' hc, mem]
        simp [hc]
    · rw [count, List.length_erase_of_mem ((mem c).2 connected)]
      exact Nat.sub_le_sub_right bound 1

theorem keep (C : Counted s) (ctrl : ∀ c, s'.ctrl c = s.ctrl c)
    (count : s'.shared.relay.controllerConnectionCount =
      s.shared.relay.controllerConnectionCount) : Counted s' := by
  obtain ⟨loops, nodup, mem, bound⟩ := C
  exact ⟨loops, nodup, fun c => by rw [ctrl, mem], count.trans_le bound⟩

theorem step {cfg : Config} {a : Action} (C : Counted s) (h : GrpcRelay.step cfg s a = some s') :
    Counted s' := by
  by_cases own : ∃ c input, a = .ctrl c input
  · obtain ⟨c, input, rfl⟩ := own
    have others (c' : ℕ) (hc : c' ≠ c) : s'.ctrl c' = s.ctrl c' :=
      ctrl_of_cases (step_cases h) fun input' h' => by
        cases h'
        exact hc rfl
    obtain ⟨next, hn, rfl⟩ := Option.map_eq_some_iff.1 h
    refine C.ctrl others ?_
    simp only [State.afterCtrl, Function.update_self]
    exact Controller.counts_of_step hn
  · refine C.keep (fun c => ctrl_of_cases (step_cases h) fun input h' => own ⟨c, input, h'⟩) ?_
    exact count_of_step h fun c input h' => own ⟨c, input, h'⟩

/-- When no loop has a connection, none is counted. -/
theorem eq_zero (C : Counted s) (none : ∀ c, ¬ (s.ctrl c).Connected) :
    s.shared.relay.controllerConnectionCount = 0 := by
  obtain ⟨loops, -, mem, bound⟩ := C
  have empty : loops = [] := List.eq_nil_iff_forall_not_mem.2 fun c h => none c ((mem c).1 h)
  rw [empty] at bound
  exact Nat.le_zero.1 bound

end Counted

/-! ## The calls of the tasks -/

/-- The call is one that the loop makes where it stands. -/
def Controller.Makes (l : Controller) : CallPc → Prop
  | .numbering .. | .trackingDevice _ | .trackingController _ | .rollingBack _ _ | .inserting _ =>
    ∃ m, l.pc = .mapping m
  | .removing sid | .untrackingDevice sid _ | .untrackingController sid _ =>
    l.pc = .closing ∧ l.streamId = some sid
  | .returned _ => True
  | _ => False

namespace State

variable {s : State} {k : Caller} {p : CallPc} {c : ℕ}

/-- The call is one that the task makes where it stands. -/
def Suits (s : State) : Caller → CallPc → Prop
  | .loop c, p => (s.ctrl c).Makes p
  | .stream _, .taking _ | .stream _, .sweeping _ _ | .stream _, .untrackingSwept _ _ _ _
  | .stream _, .returned _ => True
  | .reaper, .removing _ | .reaper, .untrackingDevice _ _ | .reaper, .untrackingController _ _
  | .reaper, .returned _ => True
  | _, _ => False

theorem suits_nextCall (h : s.nextCall k = some p) : Suits s k p := by
  cases k with
  | loop c =>
    simp only [nextCall] at h
    split at h
    · rename_i m at_pc
      cases h
      exact ⟨m, at_pc⟩
    · rename_i at_pc
      obtain ⟨sid, own, rfl⟩ := Option.map_eq_some_iff.1 h
      exact ⟨at_pc, own⟩
    · cases h
  | stream i =>
    simp only [nextCall] at h
    split at h <;> cases h
    exact trivial
  | reaper =>
    simp only [nextCall] at h
    split at h <;> cases h
    exact trivial

theorem Suits.step (h : Suits s k p) (r : StreamRouter) : Suits s k (p.step r).2 := by
  cases p with
  | trackingDevice | trackingController | removing | taking =>
    dsimp only [CallPc.step]
    split <;> cases k <;> first | exact h | exact trivial
  | sweeping ids removed =>
    cases ids with
    | nil => cases k <;> exact trivial
    | cons sid ids =>
      dsimp only [CallPc.step]
      split <;> cases k <;> exact h
  | _ => cases k <;> first | exact h | exact trivial

/-- A loop within a call stands where it makes the call. -/
theorem Suits.calls (h : Suits s (.loop c) p) (running : p.over = false) :
    (s.nextCall (.loop c)).isSome := by
  cases p with
  | numbering | trackingDevice | trackingController | rollingBack | inserting =>
    obtain ⟨m, at_pc⟩ := h
    rw [nextCall, at_pc]
    rfl
  | removing | untrackingDevice | untrackingController =>
    rw [nextCall, h.1, h.2]
    rfl
  | returned => cases running
  | _ => exact h.elim

/-- Where the loop stays, its call suits it. -/
theorem Suits.congr {s' : State} (h : Suits s k p)
    (same : ∀ c, k = .loop c → p.over = false → s'.ctrl c = s.ctrl c) : Suits s' k p := by
  cases k with
  | loop c =>
    cases p with
    | returned => exact trivial
    | _ =>
      have eq := same c rfl rfl
      rw [Suits, eq]
      exact h
  | _ => cases p <;> exact h

end State

/-! ## Nothing is left -/

namespace Interleaved

variable {cfg : Config} {s s' : Interleaved} {k : Caller} {p : CallPc} {c : ℕ} {sid : String}

/-- The loop has the stream and has still to remove it. -/
def Owns (s : Interleaved) (c : ℕ) (sid : String) : Prop :=
  (s.relay.ctrl c).streamId = some sid ∧ (s.relay.ctrl c).pc.closed = false ∧
    (s.call (.loop c)).over = true

/-- A loop whose stream is stored takes up its first request. -/
theorem ctrl_called_inserting {m : StreamMapping} {msg : ControllerMessage}
    (at_pc : (s.relay.ctrl c).pc = .mapping msg) :
    (s.called (.loop c) (.inserting m)).relay.ctrl c =
      ⟨some m.streamId, some msg.binding, (s.relay.ctrl c).controllerConnected,
        .beginning msg⟩ := by
  simp [Interleaved.called, CallPc.step, State.resume, State.withRouter, at_pc, Controller.mapped,
    State.afterCtrl]

/-- What every run keeps as long as the stream ids drawn differ. -/
structure Tidy (s : Interleaved) : Prop where
  accounted : Accounted s.relay.shared.router s.call s.drawn
  numbered : StreamRouter.Numbered s.relay.shared.router s.drawn
  suits : ∀ k, State.Suits s.relay k (s.call k)
  unbound : ∀ c, (s.relay.ctrl c).pc.opening → (s.relay.ctrl c).streamId = none
  owned : ∀ sid ∈ s.relay.shared.router.mappings, ∃ c, s.Owns c sid

namespace Tidy

theorem init (cfg : Config) : Tidy (init cfg) where
  accounted := .new _ fun _ => ⟨_, rfl⟩
  numbered := ⟨rfl, rfl⟩
  suits k := by cases k <;> exact trivial
  unbound c h := by cases h
  owned sid h := absurd h (AList.notMem_empty sid)

/-- A step that is no router call. -/
theorem other {a : Action} {relay : State} (T : Tidy s)
    (h : GrpcRelay.step cfg s.relay a = some relay) (free : s.relay.callsRouter a = false) :
    Tidy { s with relay := relay } := by
  have notes := notes_of_other h free
  have loops := ctrl_of_other h free
  have suits (k : Caller) : State.Suits relay k (s.call k) := by
    refine (T.suits k).congr fun c hk running => (loops c).2.2.2 ?_
    subst hk
    exact (T.suits (.loop c)).calls running
  have unbound (c : ℕ) (h : (relay.ctrl c).pc.opening) : (relay.ctrl c).streamId = none := by
    rw [(loops c).1]
    rcases (loops c).2.1 h with h | h
    · exact T.unbound c h
    · exact h
  have owns (c : ℕ) (sid : String) (h : s.Owns c sid) :
      Owns { s with relay := relay } c sid := by
    refine ⟨(loops c).1.trans h.1, ?_, h.2.2⟩
    rw [← Bool.not_eq_true]
    intro closed
    rcases (loops c).2.2.1 closed with closed | none
    · rw [h.2.1] at closed
      cases closed
    · cases h.1.symm.trans none
  rcases notes with same | ⟨sid, g, same, ids⟩
  · refine ⟨?_, ?_, suits, unbound, fun sid mem => ?_⟩
    · dsimp only
      rw [same]
      exact T.accounted
    · dsimp only
      rw [same]
      exact T.numbered
    · obtain ⟨c, own⟩ := T.owned sid (by rwa [same] at mem)
      exact ⟨c, owns c sid own⟩
  · refine ⟨?_, ?_, suits, unbound, fun sid' mem => ?_⟩
    · dsimp only
      rw [same]
      exact T.accounted.modify ids
    · dsimp only
      rw [same]
      exact ⟨T.numbered.counter, T.numbered.drawn⟩
    · have old : sid' ∈ s.relay.shared.router.mappings := by
        rw [same] at mem
        exact shrinks_modify.stored sid' mem
      obtain ⟨c, own⟩ := T.owned sid' old
      exact ⟨c, owns c sid' own⟩

theorem suits_current (T : Tidy s) (h : s.current k = some p) : State.Suits s.relay k p := by
  unfold current at h
  split_ifs at h
  · exact State.suits_nextCall h
  · cases h
    exact T.suits k

/-- The call of a task starts or goes on. -/
theorem accounted_current (T : Tidy s) (h : s.current k = some p) :
    Accounted s.relay.shared.router (Function.update s.call k p) s.drawn := by
  unfold current at h
  split_ifs at h with ended
  · obtain ⟨result, hp⟩ := CallPc.over_cases ended
    have entry : (∃ now d c methodName tx, p = .numbering now d c methodName tx) ∨
        (∃ sid, p = .removing sid) ∨ ∃ d, p = .taking d := by
      unfold State.nextCall at h
      split at h
      · split at h
        · cases h
          exact Or.inl ⟨_, _, _, _, _, rfl⟩
        · obtain ⟨sid, -, rfl⟩ := Option.map_eq_some_iff.1 h
          exact Or.inr (Or.inl ⟨sid, rfl⟩)
        · cases h
      · split at h <;> cases h
        exact Or.inr (Or.inr ⟨_, rfl⟩)
      · split at h <;> cases h
        exact Or.inr (Or.inl ⟨_, rfl⟩)
    rcases entry with ⟨now, d, c, methodName, tx, rfl⟩ | ⟨sid, rfl⟩ | ⟨d, rfl⟩ <;>
      (refine T.accounted.move ?_ ?_ ?_ ?_ ?_ ?_ ?_ ?_ <;> simp [hp])
  · cases h
    rw [Function.update_eq_self]
    exact T.accounted

/-- A loop that removes its stream has none afterwards. -/
theorem not_owns_of_current (T : Tidy s) (own : s.Owns c sid)
    (h : s.current (.loop c) = some p) : sid ∉ (p.step s.relay.shared.router).1.mappings := by
  have makes := T.suits_current h
  rw [current, if_pos own.2.2] at h
  simp only [State.nextCall] at h
  split at h
  · rename_i m at_pc
    have none := T.unbound c (by rw [at_pc]; rfl)
    cases own.1.symm.trans none
  · rw [own.1] at h
    cases h
    dsimp only [CallPc.step]
    split
    · rename_i absent
      exact AList.lookup_eq_none.1 absent
    · exact fun mem => (AList.mem_erase.1 mem).1 rfl
  · cases h

/-- The next operation of the call of a task. -/
theorem called (T : Tidy s) (h : s.current k = some p)
    (few : (s.called k p).drawn.length ≤ UInt64.size) : Tidy (s.called k p) := by
  have makes := T.suits_current h
  have router : (s.called k p).relay.shared.router = (p.step s.relay.shared.router).1 := by
    rw [Interleaved.called, State.shared_resume]
    rfl
  have ctrl {c : ℕ} (other : k ≠ .loop c) : (s.called k p).relay.ctrl c = s.relay.ctrl c :=
    State.ctrl_resume_of_ne other
  -- The ids that are drawn are new.
  have fresh : p.draws s.relay.shared.router = [] ∨
      s.relay.shared.router.nextStreamId ∉ s.drawn := by
    rcases CallPc.counter_step s.relay.shared.router p with ⟨draws, -⟩ | ⟨-, draws, -⟩
    · exact Or.inl draws
    · refine Or.inr (T.numbered.fresh ?_)
      rwa [Interleaved.called, draws, List.length_append, List.length_singleton] at few
  refine ⟨?_, ?_, fun j => ?_, fun c opening => ?_, fun sid mem => ?_⟩
  · rw [router]
    have A := (T.accounted_current h).step k (by rwa [Function.update_self])
    rwa [Function.update_self, Function.update_idem] at A
  · rw [router]
    exact T.numbered.step p
  · by_cases hj : j = k
    · subst hj
      rw [call_called_self]
      refine (makes.step s.relay.shared.router).congr fun c hc running => ?_
      rw [Interleaved.called, State.resume_of_running running]
      rfl
    · rw [call_called_of_ne hj]
      refine (T.suits j).congr fun c hc _ => ctrl fun hk => hj (hc.trans hk.symm)
  · by_cases hk : k = .loop c
    · subst hk
      cases running : (p.step s.relay.shared.router).2.over with
      | false =>
        rw [Interleaved.called, State.resume_of_running running] at opening ⊢
        exact T.unbound c opening
      | true =>
        obtain ⟨result, hp⟩ := CallPc.over_cases running
        rw [Interleaved.called, hp] at opening ⊢
        rcases State.ctrl_resume result with same | ⟨-, gone⟩ | ⟨m, -, idle | ⟨sid, -, mapped⟩⟩
        · rw [same] at opening ⊢
          exact T.unbound c opening
        · rw [gone] at opening
          cases opening
        · rw [idle] at opening
          cases opening
        · rw [mapped] at opening
          cases opening
    · rw [ctrl hk] at opening ⊢
      exact T.unbound c opening
  · rw [router] at mem
    rcases CallPc.mem_mappings_step mem with old | ⟨m, rfl, rfl⟩
    · obtain ⟨c, own⟩ := T.owned sid old
      have hk : k ≠ .loop c := by
        rintro rfl
        exact T.not_owns_of_current own h mem
      refine ⟨c, ?_, ?_, ?_⟩
      · rw [ctrl hk]
        exact own.1
      · rw [ctrl hk]
        exact own.2.1
      · rw [call_called_of_ne hk.symm]
        exact own.2.2
    · -- The stream is the one that its loop has just created.
      cases k with
      | loop c =>
        obtain ⟨msg, at_pc⟩ := makes
        have loc := ctrl_called_inserting (s := s) (m := m) at_pc
        refine ⟨c, ?_, ?_, ?_⟩
        · rw [loc]
        · rw [loc]
          rfl
        · rw [call_called_self]
          rfl
      | stream i => exact makes.elim
      | reaper => exact makes.elim

/-- A step that leaves the loops, the router and the calls as they are. -/
theorem keep (T : Tidy s) (shared : s'.relay.shared = s.relay.shared)
    (ctrl : s'.relay.ctrl = s.relay.ctrl) (call : s'.call = s.call)
    (drawn : s'.drawn = s.drawn) : Tidy s' := by
  refine ⟨?_, ?_, fun k => ?_, ?_, fun sid mem => ?_⟩
  · rw [shared, call, drawn]
    exact T.accounted
  · rw [shared, drawn]
    exact T.numbered
  · rw [call]
    exact (T.suits k).congr fun c _ _ => congrFun ctrl c
  · rw [ctrl]
    exact T.unbound
  · rw [shared] at mem
    obtain ⟨c, own⟩ := T.owned sid mem
    exact ⟨c, by rw [ctrl]; exact own.1, by rw [ctrl]; exact own.2.1, by rw [call]; exact own.2.2⟩

end Tidy

/-- A scan changes nothing but what it has found. -/
theorem step_of_scan {a : Access} (h : step cfg s a = some s') (other : ∀ b, a ≠ .other b)
    (call : ∀ k, a ≠ .call k) :
    s'.relay.shared = s.relay.shared ∧ s'.relay.ctrl = s.relay.ctrl ∧ s'.call = s.call ∧
      s'.drawn = s.drawn := by
  cases a with
  | other b => exact absurd rfl (other b)
  | call k => exact absurd rfl (call k)
  | scan =>
    simp only [step] at h
    split at h <;> cases h
    exact ⟨rfl, rfl, rfl, rfl⟩
  | visit sid =>
    simp only [step] at h
    split at h
    · split_ifs at h
      cases h
      exact ⟨rfl, rfl, rfl, rfl⟩
    · cases h
  | scanned =>
    simp only [step] at h
    split at h <;> cases h
    exact ⟨rfl, rfl, rfl, rfl⟩

/-- What a step does: it is a step of the relay, an operation of a call, or part of a scan. -/
theorem step_cases {a : Access} (h : step cfg s a = some s') :
    (∃ b relay, GrpcRelay.step cfg s.relay b = some relay ∧ s.relay.callsRouter b = false ∧
      s' = { s with relay := relay }) ∨
    (∃ k p, s.current k = some p ∧ s' = s.called k p) ∨
    s'.relay.shared = s.relay.shared ∧ s'.relay.ctrl = s.relay.ctrl ∧ s'.call = s.call ∧
      s'.drawn = s.drawn := by
  cases a with
  | other b =>
    simp only [step] at h
    split_ifs at h with free
    obtain ⟨relay, hr, rfl⟩ := Option.map_eq_some_iff.1 h
    exact Or.inl ⟨b, relay, hr, by simpa using free, rfl⟩
  | call k =>
    obtain ⟨p, hp, rfl⟩ := Option.map_eq_some_iff.1 h
    exact Or.inr (Or.inl ⟨k, p, hp, rfl⟩)
  | scan | visit sid | scanned => exact Or.inr (Or.inr (step_of_scan h (by simp) (by simp)))

theorem tidy_of_reachable (h : Reachable cfg s) (few : s.drawn.length ≤ UInt64.size) : Tidy s := by
  refine h.invariant (I := fun s => s.drawn.length ≤ UInt64.size → Tidy s)
    (fun _ => .init cfg) ?_ few
  intro s a s' _ T _ hs few
  rcases step_cases hs with ⟨b, relay, hr, free, rfl⟩ | ⟨k, p, hp, rfl⟩ |
    ⟨shared, ctrl, call, drawn⟩
  · exact (T few).other hr free
  · refine (T ?_).called hp few
    rw [called, List.length_append] at few
    exact (Nat.le_add_right _ _).trans few
  · exact (T (drawn ▸ few)).keep shared ctrl call drawn

/-- A loop that goes on after a call keeps its connection. -/
theorem counted_called (C : Counted s.relay) : Counted (s.called k p).relay := by
  have count : (s.called k p).relay.shared.relay = s.relay.shared.relay := by
    rw [called, State.shared_resume]
    rfl
  cases k with
  | loop c =>
    refine C.ctrl (c := c) (fun c' hc => ?_) ?_
    · refine State.ctrl_resume_of_ne (s := s.relay.withRouter _) fun h => ?_
      cases h
      exact hc rfl
    · rw [count]
      refine .same rfl ?_
      cases running : (p.step s.relay.shared.router).2.over with
      | false =>
        rw [called, State.resume_of_running running]
        exact Iff.rfl
      | true =>
        obtain ⟨result, hp⟩ := CallPc.over_cases running
        rw [called, hp]
        rcases State.ctrl_resume (s := s.relay.withRouter (p.step s.relay.shared.router).1) (c := c)
          result with same | ⟨at_pc, gone⟩ | ⟨m, at_pc, idle | ⟨sid, -, mapped⟩⟩
        · rw [same]
          exact Iff.rfl
        · have at_pc : (s.relay.ctrl c).pc = .closing := at_pc
          rw [gone]
          simp [Controller.Connected, Controller.goto, at_pc, State.withRouter]
        · have at_pc : (s.relay.ctrl c).pc = .mapping m := at_pc
          rw [idle]
          simp [Controller.Connected, Controller.goto, at_pc, State.withRouter]
        · have at_pc : (s.relay.ctrl c).pc = .mapping m := at_pc
          rw [mapped]
          simp [Controller.Connected, at_pc, State.withRouter]
  | _ =>
    refine C.keep (fun c => ?_) (by rw [count])
    exact State.ctrl_resume_of_ne (s := s.relay.withRouter _) (by simp)

theorem counted_of_reachable (h : Reachable cfg s) : Counted s.relay := by
  refine h.invariant (I := fun s => Counted s.relay) ⟨[], List.nodup_nil, ?_, Nat.zero_le _⟩ ?_
  · intro c
    exact ⟨nofun, fun h => absurd h.1 Bool.false_ne_true⟩
  · intro s a s' _ C _ hs
    rcases step_cases hs with ⟨b, relay, hr, -, rfl⟩ | ⟨k, p, -, rfl⟩ | ⟨shared, ctrl, -, -⟩
    · exact C.step hr
    · exact counted_called C
    · exact C.keep (fun c => by rw [ctrl]) (by rw [shared])

/-- Every loop is over, or was never started. -/
def Finished (s : Interleaved) : Prop :=
  ∀ c, (s.relay.ctrl c).pc = .done ∨ s.relay.ctrl c = ⟨none, none, false, .idle⟩

/-- No router call is under way. -/
def Quiet (s : Interleaved) : Prop := ∀ k, (s.call k).over = true

/-- An index is empty when no stream is stored and no call is under way. -/
theorem index_eq_empty {index : Index String String} {mappings : DashMap String StreamMapping}
    {call : Caller → CallPc} {f : StreamMapping → String}
    {tracked : CallPc → Option StreamMapping} {left : CallPc → Option (String × StreamMapping)}
    (L : Listed index mappings call f tracked left) (empty : mappings = ∅)
    (none : ∀ k, tracked (call k) = none ∧ left (call k) = none) : index = ∅ := by
  refine Index.eq_empty L.noEmpty fun key sid h => ?_
  cases L.has key sid h with
  | stored m found own =>
    rw [empty] at found
    cases found
  | tracked k m at_pc own id => cases (none k).1.symm.trans at_pc
  | left k m at_pc own => cases (none k).2.symm.trans at_pc

/-- When all loops are over and no router call is under way, no connection is counted; and if no
more than 2^64 stream ids were drawn, no stream and no set is left. -/
theorem nothing_is_left (h : Reachable cfg s) (finished : s.Finished) (quiet : s.Quiet) :
    s.relay.shared.relay.controllerConnectionCount = 0 ∧
    (s.drawn.length ≤ UInt64.size →
      s.relay.shared.router.mappings = ∅ ∧ s.relay.shared.router.deviceToStreams = ∅ ∧
        s.relay.shared.router.controllerToStreams = ∅) := by
  refine ⟨(counted_of_reachable h).eq_zero fun c connected => ?_, fun few => ?_⟩
  · rcases finished c with ended | idle
    · exact connected.2 ended
    · rw [idle] at connected
      exact Bool.false_ne_true connected.1
  · have T := tidy_of_reachable h few
    have empty : s.relay.shared.router.mappings = ∅ := by
      refine DashMap.eq_empty_of_lookup fun sid => AList.lookup_eq_none.2 fun mem => ?_
      obtain ⟨c, own, unclosed, -⟩ := T.owned sid mem
      rcases finished c with ended | idle
      · rw [ended] at unclosed
        cases unclosed
      · rw [idle] at own
        cases own
    have returned (k : Caller) := CallPc.over_cases (quiet k)
    refine ⟨empty, index_eq_empty T.accounted.devices empty fun k => ?_,
      index_eq_empty T.accounted.controllers empty fun k => ?_⟩
    all_goals
      obtain ⟨result, hp⟩ := returned k
      rw [hp]
      exact ⟨rfl, rfl⟩

end Interleaved

namespace Small

/-- Loops 0 and 1 create streams to device `"d"`, one operation after the other, and forward a
request each.  The first is answered. -/
def twoStreams : List Access :=
  (register 0 "d" "t" ++ .ctrl 0 (.recv (request 1)) :: ticks 0 2 ++
      .ctrl 1 (.recv (request 2)) :: ticks 1 2).map .other ++
    [.call (.loop 0), .call (.loop 1), .call (.loop 1), .call (.loop 0), .call (.loop 0),
      .call (.loop 1), .call (.loop 1), .call (.loop 0)] ++
    (ticks 0 3 ++ forward 0 ++ ticks 1 3 ++ forward 1 ++ data 0 "d" 1 ++ devTicks 0 1 ++
      ticks 0 4).map .other

/-- The scan finds the stream of loop 0, the device disconnects, the removals of the two streams are
interleaved, and both loops end. -/
def twoLoops : List Access :=
  twoStreams ++ [.other (.advance 60), .scan, .visit "strm-1", .scanned] ++
    (.dev 0 .eof :: devTicks 0 1 ++ .dev 0 (.visit ("d", 2)) :: devTicks 0 2).map .other ++
    [.call .reaper, .call (.stream 0), .call .reaper, .call (.stream 0), .call .reaper,
      .call (.stream 0), .call (.stream 0), .call (.stream 0)] ++
    (devTicks 0 1 ++ ticks 1 4 ++ [Action.ctrl 0 .eof, .ctrl 1 .eof]).map .other ++
    [.call (.loop 0), .call (.loop 1)] ++ (ticks 0 1 ++ ticks 1 1).map .other

/-- The tasks of that run that call the router. -/
def callers : List Caller := [.loop 0, .loop 1, .stream 0, .reaper]

/-- The access is of no other loop and of no router call of another task. -/
def ofFew : Access → Bool
  | .other (.ctrl c _) => decide (c < 2)
  | .call k => decide (k ∈ callers)
  | _ => true

/-- The other loops have not started and no other task is within a router call. -/
structure Few (s : Interleaved) : Prop where
  ctrl : ∀ c, 2 ≤ c → s.relay.ctrl c = ⟨none, none, false, .idle⟩
  call : ∀ k, k ∉ callers → (s.call k).over = true

theorem Few.step {cfg : Config} {s s' : Interleaved} {a : Access} (F : Few s)
    (few : ofFew a = true) (h : Interleaved.step cfg s a = some s') : Few s' := by
  cases a with
  | other b =>
    simp only [Interleaved.step] at h
    split_ifs at h
    obtain ⟨relay, hr, rfl⟩ := Option.map_eq_some_iff.1 h
    refine ⟨fun c hc => ?_, F.call⟩
    have other (input : CtrlInput) : b ≠ .ctrl c input := by
      rintro rfl
      exact absurd (of_decide_eq_true few) (by omega)
    exact (ctrl_of_cases (step_cases hr) other).trans (F.ctrl c hc)
  | call k =>
    obtain ⟨p, hp, rfl⟩ := Option.map_eq_some_iff.1 h
    have mem : k ∈ callers := of_decide_eq_true few
    refine ⟨fun c hc => ?_, fun k' hk' => ?_⟩
    · rw [← F.ctrl c hc]
      refine State.ctrl_resume_of_ne (s := s.relay.withRouter _) ?_
      rintro rfl
      have first : c = 0 ∨ c = 1 := by simpa [callers] using mem
      omega
    · have other : k' ≠ k := fun same => hk' (by rwa [same])
      rw [Interleaved.call_called_of_ne other]
      exact F.call k' hk'
  | scan | scanned =>
    simp only [Interleaved.step] at h
    split at h
    · cases h
      exact ⟨F.ctrl, F.call⟩
    · cases h
  | visit =>
    simp only [Interleaved.step] at h
    split at h
    · split_ifs at h
      cases h
      exact ⟨F.ctrl, F.call⟩
    · cases h

/-- The loops have run to their ends and no call is under way. -/
def isOver (s : Interleaved) : Bool :=
  [0, 1].all (fun c => match (s.relay.ctrl c).pc with | .done => true | _ => false) &&
    callers.all fun k => (s.call k).over

/-- The streams that the stale-stream task and device stream 0 have removed. -/
def removedStreams (s : Interleaved) : List String × List String :=
  (match s.relay.reaper with
    | .removing _ removed => removed.map (·.streamId)
    | _ => [],
  match (s.relay.dev 0).pc with
    | .draining _ _ _ removed => removed.map (·.streamId)
    | _ => [])

end Small

namespace Interleaved

/-- Two loops, of which one loses its stream to the stale-stream task and one to the device's
cleanup, leave nothing behind. -/
theorem nothing_is_left_of_two_loops :
    ∃ s, Reachable Small.config s ∧ s.Finished ∧ s.Quiet ∧ s.drawn = ["strm-1", "strm-2"] ∧
      Small.removedStreams s = (["strm-1"], ["strm-2"]) ∧
      s.relay.shared.relay.controllerConnectionCount = 0 ∧
      s.relay.shared.router.mappings = ∅ ∧ s.relay.shared.router.deviceToStreams = ∅ ∧
      s.relay.shared.router.controllerToStreams = ∅ := by
  obtain ⟨⟨log, s⟩, run, hf⟩ : ∃ out, Runs.executeLogged (step Small.config)
      (fun _ a => Small.ofFew a) (fun _ _ _ => ([] : List Unit)) [] (init Small.config)
      Small.twoLoops = some out ∧
      (Small.isOver out.2, out.2.drawn, Small.removedStreams out.2) =
        (true, ["strm-1", "strm-2"], ["strm-1"], ["strm-2"]) :=
    Option.map_eq_some_iff.1 (by decide +kernel)
  rw [Prod.mk.injEq, Prod.mk.injEq] at hf
  obtain ⟨ended, drawn, removed⟩ := hf
  obtain ⟨logged, few⟩ : Runs.Logged (step Small.config) (fun _ _ => True)
      (fun _ _ _ => ([] : List Unit)) (init Small.config) log s ∧ Small.Few s :=
    Runs.Logged.of_executeLogged_keeping (fun _ _ _ _ => trivial)
      (fun _ _ _ F h hs => F.step h hs) _ .start ⟨fun _ _ => rfl, fun _ _ => rfl⟩ run
  simp only [Small.isOver, Bool.and_eq_true, List.all_eq_true] at ended
  have finished : s.Finished := by
    intro c
    rcases lt_or_ge c 2 with hc | hc
    · have done := ended.1 c (by simp only [List.mem_cons, List.not_mem_nil]; omega)
      split at done
      · exact Or.inl ‹_›
      · cases done
    · exact Or.inr (few.ctrl c hc)
  have quiet : s.Quiet := by
    intro k
    by_cases hk : k ∈ Small.callers
    · exact ended.2 k hk
    · exact few.call k hk
  obtain ⟨count, rest⟩ := nothing_is_left logged.reach finished quiet
  exact ⟨s, logged.reach, finished, quiet, drawn, removed, count, rest (by rw [drawn]; decide)⟩

/-- After 2^64 stream ids a loop gets an id that another has, and the id stays in the set of the
other's device when both loops are over. -/
theorem repeated_id_is_left :
    ∃ s, Reachable Small.oneStream s ∧ s.Finished ∧ s.Quiet ∧
      s.relay.shared.router.deviceToStreams ≠ ∅ := by
  obtain ⟨t, R⟩ := Small.exists_repeated
  obtain ⟨t', reach, done₀, done₁, rest, has⟩ := R.left
  obtain ⟨s, reach', A⟩ := exists_at reach
  refine ⟨s, reach', fun c => ?_, A.quiet, fun empty => ?_⟩
  · rw [A.same.ctrl]
    match c with
    | 0 => exact Or.inl done₀
    | 1 => exact Or.inl done₁
    | c + 2 => exact Or.inr (rest _ (by omega))
  · rw [A.same.shared] at empty
    rw [empty] at has
    exact Index.not_has_empty has

end Interleaved

end GrpcRelay
