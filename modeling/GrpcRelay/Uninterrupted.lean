import GrpcRelay.Interleaved

/-!
# Calls that are not interrupted

The interleaved relay can do what the relay can do whose router calls are single steps (`At.step`):
a call that is not interrupted is such a step (`At.call`), and so is a scan that meets the streams
in their order (`At.scan_step`).  So every state of that relay is one of the interleaved relay
(`exists_at`).
-/

namespace GrpcRelay

open StreamRouter

/-- The relays stand at the same place.  What the events say may differ. -/
structure State.Same (s t : State) : Prop where
  shared : s.shared = t.shared
  ctrl : s.ctrl = t.ctrl
  dev : s.dev = t.dev
  reaper : s.reaper = t.reaper
  trace : s.trace.length = t.trace.length

namespace State.Same

variable {cfg : Config} {s t t' : State} {a : Action}

theorem eq (h : s.Same t) : s = { t with trace := s.trace } := by
  obtain ⟨shared, ctrl, dev, reaper, -⟩ := h
  cases s
  cases shared
  cases ctrl
  cases dev
  cases reaper
  rfl

theorem nextCall (h : s.Same t) (k : Caller) : s.nextCall k = t.nextCall k := by
  rw [h.eq]
  cases k <;> rfl

theorem callsRouter (h : s.Same t) (a : Action) : s.callsRouter a = t.callsRouter a := by
  rw [h.eq]
  cases a <;> rfl

/-- A task goes on in the same way. -/
theorem resume (h : s.Same t) (r : StreamRouter) (k : Caller) (p : CallPc) :
    ((s.withRouter r).resume k p).Same ((t.withRouter r).resume k p) := by
  have trace := h.trace
  rw [h.eq]
  unfold State.resume
  split
  · dsimp only [State.withRouter]
    split
    · exact ⟨rfl, rfl, rfl, rfl, by simp [State.afterCtrl, trace]⟩
    · exact ⟨rfl, rfl, rfl, rfl, by simp [State.afterCtrl, trace]⟩
    · exact ⟨rfl, rfl, rfl, rfl, trace⟩
  · dsimp only [State.withRouter]
    split
    · exact ⟨rfl, rfl, rfl, rfl, by simp [State.afterDev, trace]⟩
    · exact ⟨rfl, rfl, rfl, rfl, trace⟩
  · dsimp only [State.withRouter]
    split
    · exact ⟨rfl, rfl, rfl, rfl, trace⟩
    · exact ⟨rfl, rfl, rfl, rfl, trace⟩
  · exact ⟨rfl, rfl, rfl, rfl, trace⟩

/-- A step needs of the history only its length. -/
theorem step (h : s.Same t) (ht : GrpcRelay.step cfg t a = some t') :
    ∃ s', GrpcRelay.step cfg s a = some s' ∧ s'.Same t' := by
  have same := h.trace
  rw [h.eq]
  generalize s.trace = trace at same
  cases a with
  | ctrl c input =>
    obtain ⟨next, hn, rfl⟩ := Option.map_eq_some_iff.1 ht
    refine ⟨State.afterCtrl { t with trace := trace } c next, ?_, rfl, rfl, rfl, rfl, ?_⟩
    · simp only [GrpcRelay.step, hn, Option.map_some]
    · simp [State.afterCtrl, same]
  | dev i input =>
    obtain ⟨next, hn, rfl⟩ := Option.map_eq_some_iff.1 ht
    refine ⟨State.afterDev { t with trace := trace } i next, ?_, rfl, rfl, rfl, rfl, ?_⟩
    · simp only [GrpcRelay.step, same, hn, Option.map_some]
    · simp [State.afterDev, same]
  | timer e =>
    obtain ⟨next, hn, rfl⟩ := Option.map_eq_some_iff.1 ht
    refine ⟨State.afterTimer { t with trace := trace } e next, ?_, rfl, rfl, rfl, rfl, ?_⟩
    · simp only [GrpcRelay.step, hn, Option.map_some]
    · simp [State.afterTimer, same]
  | reaper =>
    cases ht
    exact ⟨_, rfl, rfl, rfl, rfl, rfl, by simp [same]⟩
  | advance now =>
    simp only [GrpcRelay.step] at ht ⊢
    split_ifs at ht with later
    cases ht
    exact ⟨_, if_pos later, rfl, rfl, rfl, rfl, same⟩
  | evict key =>
    simp only [GrpcRelay.step] at ht ⊢
    split_ifs at ht with cached
    cases ht
    exact ⟨_, if_pos cached, rfl, rfl, rfl, rfl, by simp [same]⟩
  | revokeControllerToken p | revokeDeviceToken p | allow d c | closeOutbound i =>
    cases ht
    exact ⟨_, rfl, rfl, rfl, rfl, rfl, same⟩

end State.Same

namespace Interleaved

variable {cfg : Config} {s : Interleaved} {t t' : State} {k : Caller} {p : CallPc}
  {r : StreamRouter} {result : CallResult}

/-- The interleaved relay stands where the relay stands, with no router call under way. -/
structure At (s : Interleaved) (t : State) : Prop where
  same : s.relay.Same t
  quiet : ∀ k, (s.call k).over = true
  scan : s.scan = none

variable (cfg) in
/-- A call that is not interrupted. -/
theorem reach_of_leads (leads : CallPc.Leads (s.relay.shared.router, p) (r, .returned result))
    (h : s.current k = some p) (running : p.over = false) :
    ∃ s', Runs.Reach (step cfg) (fun _ _ => True) s s' ∧
      s'.relay = (s.relay.withRouter r).resume k (.returned result) ∧
      s'.call = Function.update s.call k (.returned result) ∧ s'.scan = s.scan := by
  obtain ⟨n, leads⟩ := leads
  induction n generalizing s p with
  | zero =>
    cases leads
    cases running
  | succ n ih =>
    rw [Function.iterate_succ_apply] at leads
    have next : Runs.Reach (step cfg) (fun _ _ => True) s (s.called k p) :=
      .next (.call k) .start trivial (by simp [step, h])
    cases ended : (p.step s.relay.shared.router).2.over with
    | true =>
      obtain ⟨result', hp⟩ := CallPc.over_cases ended
      have returned : (fun x : StreamRouter × CallPc => CallPc.step x.1 x.2)
          ((p.step s.relay.shared.router).1, .returned result') =
          ((p.step s.relay.shared.router).1, .returned result') := rfl
      dsimp only at leads
      rw [← Prod.eta (p.step s.relay.shared.router), hp, Function.iterate_fixed returned n] at leads
      cases leads
      refine ⟨s.called k p, next, ?_, ?_, rfl⟩
      · rw [called, hp]
      · rw [called, hp]
    | false =>
      have relay : (s.called k p).relay = s.relay.withRouter (p.step s.relay.shared.router).1 :=
        State.resume_of_running ended
      have current : (s.called k p).current k = some (p.step s.relay.shared.router).2 := by
        rw [Interleaved.current, call_called_self, if_neg (by rw [ended]; exact Bool.false_ne_true)]
      obtain ⟨s', reach, relay', call', scan'⟩ := ih (s := s.called k p) current ended (by
        rw [relay]
        exact leads)
      refine ⟨s', next.trans reach, ?_, ?_, scan'⟩
      · rw [relay', relay]
        rfl
      · rw [call', called, Function.update_idem]

/-- A task whose call returns what the function returns goes on as in one step. -/
theorem At.call (A : At s t) (leads : CallPc.Leads (t.shared.router, p) (r, .returned result))
    (calls : t.nextCall k = some p) (running : p.over = false)
    (same : ((t.withRouter r).resume k (.returned result)).Same t') :
    ∃ s', Runs.Reach (step cfg) (fun _ _ => True) s s' ∧ At s' t' := by
  rw [← A.same.shared] at leads
  have current : s.current k = some p := by
    rw [Interleaved.current, if_pos (A.quiet k), A.same.nextCall, calls]
  obtain ⟨s', reach, relay, call, scan⟩ := reach_of_leads cfg leads current running
  refine ⟨s', reach, ?_, fun j => ?_, scan.trans A.scan⟩
  · rw [relay]
    have := A.same.resume r k (.returned result)
    exact ⟨this.shared.trans same.shared, this.ctrl.trans same.ctrl, this.dev.trans same.dev,
      this.reaper.trans same.reaper, this.trace.trans same.trace⟩
  · rw [call]
    by_cases hj : j = k
    · rw [hj, Function.update_self]
      rfl
    · rw [Function.update_of_ne hj]
      exact A.quiet j

/-- A loop creates its stream or removes it. -/
theorem At.ctrl {c : ℕ} {input : CtrlInput} (A : At s t)
    (h : GrpcRelay.step cfg t (.ctrl c input) = some t')
    (calls : (t.nextCall (.loop c)).isSome = true) :
    ∃ s', Runs.Reach (step cfg) (fun _ _ => True) s s' ∧ At s' t' := by
  obtain ⟨p, hp⟩ := Option.isSome_iff_exists.1 calls
  obtain ⟨next, hn, rfl⟩ := Option.map_eq_some_iff.1 h
  have call := hp
  simp only [State.nextCall] at call
  split at call
  · rename_i m at_pc
    cases call
    have tick : input = .tick := by
      cases input with
      | tick => rfl
      | _ => simp [Controller.step, at_pc] at hn
    subst tick
    simp only [Controller.step, at_pc] at hn
    cases hn
    refine A.call (CallPc.leads_createMapping ..) hp rfl ?_
    simp only [State.resume, State.withRouter, at_pc, Controller.createMapping, Controller.mapped]
    cases created : t.shared.router.createMapping t.shared.now m.targetDeviceId m.controllerId
      m.methodName c with
    | mk result router =>
      cases result with
      | ok sid => exact ⟨rfl, rfl, rfl, rfl, by simp [State.afterCtrl]⟩
      | error err =>
        dsimp only
        split_ifs <;> exact ⟨rfl, rfl, rfl, rfl, rfl⟩
  · rename_i at_pc
    obtain ⟨sid, own, rfl⟩ := Option.map_eq_some_iff.1 call
    have tick : input = .tick := by
      cases input with
      | tick => rfl
      | _ => simp [Controller.step, at_pc] at hn
    subst tick
    simp only [Controller.step, at_pc, Controller.close, own] at hn
    cases hn
    refine A.call (CallPc.leads_removeMapping ..) hp rfl ?_
    simp only [State.resume, State.withRouter, at_pc]
    exact ⟨rfl, rfl, rfl, rfl, rfl⟩
  · cases call

/-- A device stream removes the streams of its device. -/
theorem At.dev {i : ℕ} {input : DevInput} (A : At s t)
    (h : GrpcRelay.step cfg t (.dev i input) = some t')
    (calls : (t.nextCall (.stream i)).isSome = true) :
    ∃ s', Runs.Reach (step cfg) (fun _ _ => True) s s' ∧ At s' t' := by
  obtain ⟨p, hp⟩ := Option.isSome_iff_exists.1 calls
  obtain ⟨next, hn, rfl⟩ := Option.map_eq_some_iff.1 h
  have call := hp
  simp only [State.nextCall] at call
  split at call <;> cases call
  rename_i did reason taken at_pc
  have tick : input = .tick := by
    cases input with
    | tick => rfl
    | _ => simp [Device.step, at_pc] at hn
  subst tick
  simp only [Device.step, at_pc, Device.sweep] at hn
  cases hn
  refine A.call (CallPc.leads_removeAllForDevice ..) hp rfl ?_
  simp only [State.resume, State.withRouter, at_pc]
  exact ⟨rfl, rfl, rfl, rfl, rfl⟩

/-- The stale-stream task removes the next stream. -/
theorem At.remove (A : At s t) (calls : (t.nextCall .reaper).isSome = true)
    (h : GrpcRelay.step cfg t .reaper = some t') :
    ∃ s', Runs.Reach (step cfg) (fun _ _ => True) s s' ∧ At s' t' := by
  obtain ⟨p, hp⟩ := Option.isSome_iff_exists.1 calls
  cases h
  have call := hp
  simp only [State.nextCall] at call
  split at call <;> cases call
  rename_i sid stale removed at_pc
  refine A.call (CallPc.leads_removeMapping ..) hp rfl ?_
  simp only [State.resume, State.withRouter, at_pc, Reaper.step]
  cases found : t.shared.router.removeMapping sid with
  | mk mapping router =>
    cases mapping with
    | none =>
      have unchanged : router = t.shared.router := by
        unfold removeMapping at found
        split at found <;> cases found
        rfl
      rw [unchanged]
      exact ⟨rfl, rfl, rfl, by simp, by simp⟩
    | some mapping => exact ⟨rfl, rfl, rfl, rfl, by simp⟩

variable (cfg) in
/-- The scan meets streams one after the other. -/
theorem reach_of_visits {now : Instant} {stale : List String}
    (entries : List (Σ _ : String, StreamMapping))
    (scan : s.scan = some (now, stale))
    (stored : ∀ entry ∈ entries, s.relay.shared.router.mappings.lookup entry.1 = some entry.2) :
    Runs.Reach (step cfg) (fun _ _ => True) s { s with
      scan := some (now, stale ++ entries.filterMap fun entry =>
        if entry.2.activeRequests = 0 ∧
            s.relay.shared.router.idleTimeout ≤
              saturatingDurationSince now entry.2.lastActivity
        then some entry.2.streamId else none) } := by
  induction entries generalizing s stale with
  | nil =>
    rw [List.filterMap_nil, List.append_nil, ← scan]
    exact .start
  | cons entry entries ih =>
    have rest (e) (he : e ∈ entries) := stored e (List.mem_cons_of_mem _ he)
    rw [List.filterMap_cons]
    split_ifs with idle
    · have visit : step cfg s (.visit entry.1) =
          some { s with scan := some (now, stale ++ [entry.2.streamId]) } := by
        simp only [step, scan, stored entry List.mem_cons_self, if_pos idle]
      have reach := ih (s := { s with scan := some (now, stale ++ [entry.2.streamId]) }) rfl rest
      refine (Runs.Reach.next _ .start trivial visit).trans ?_
      simpa using reach
    · exact ih scan rest

/-- The stale-stream task scans the mappings. -/
theorem At.scan_step (A : At s t) (sleeping : t.reaper = .sleeping)
    (h : GrpcRelay.step cfg t .reaper = some t') :
    ∃ s', Runs.Reach (step cfg) (fun _ _ => True) s s' ∧ At s' t' := by
  have asleep := A.same.reaper.trans sleeping
  have scan : step cfg s .scan = some { s with scan := some (s.relay.shared.now, []) } := by
    simp only [step, asleep, A.scan]
  have visits := reach_of_visits cfg
    (s := { s with scan := some (s.relay.shared.now, []) })
    s.relay.shared.router.mappings.entries rfl fun entry he =>
      (DashMap.mem_entries_iff ..).1 he
  refine ⟨_, .next .scanned ((Runs.Reach.next _ .start trivial scan).trans visits) trivial rfl, ?_⟩
  cases h
  refine ⟨⟨?_, A.same.ctrl, A.same.dev, ?_, ?_⟩, A.quiet, rfl⟩
  · rw [sleeping]
    exact A.same.shared
  · rw [sleeping]
    dsimp only [Reaper.step]
    rw [List.nil_append, A.same.shared, staleStreams]
  · rw [sleeping]
    simpa [Reaper.step] using A.same.trace

/-- The interleaved relay makes every step of the relay. -/
theorem At.step {a : Action} (A : At s t) (h : GrpcRelay.step cfg t a = some t') :
    ∃ s', Runs.Reach (step cfg) (fun _ _ => True) s s' ∧ At s' t' := by
  cases calls : t.callsRouter a with
  | false =>
    obtain ⟨relay, hr, same⟩ := A.same.step h
    refine ⟨{ s with relay := relay }, .next (.other a) .start trivial ?_, same, A.quiet, A.scan⟩
    simp [Interleaved.step, A.same.callsRouter, calls, hr]
  | true =>
    cases a with
    | ctrl c input => exact A.ctrl h calls
    | dev i input => exact A.dev h calls
    | reaper =>
      cases hr : t.reaper with
      | sleeping => exact A.scan_step hr h
      | removing stale removed | notifying removed =>
        refine A.remove ?_ h
        simpa only [State.callsRouter, hr] using calls
    | _ => cases calls

/-- Every state of the relay is one of the interleaved relay. -/
theorem exists_at (h : GrpcRelay.Reachable cfg t) : ∃ s, Reachable cfg s ∧ At s t := by
  refine h.invariant (I := fun t => ∃ s, Reachable cfg s ∧ At s t) ?_ ?_
  · exact ⟨init cfg, .start, ⟨rfl, rfl, rfl, rfl, rfl⟩, fun _ => rfl, rfl⟩
  · intro t a t' _ ih _ ht
    obtain ⟨s, reach, A⟩ := ih
    obtain ⟨s', reach', A'⟩ := A.step ht
    exact ⟨s', reach.trans reach', A'⟩

end Interleaved

end GrpcRelay
