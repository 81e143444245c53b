import GrpcRelay.Leaks

/-!
# Requests in brackets

A loop calls `begin_request` when it takes up a request and `finish_request` on each of its ways out
of it.  So the calls of a loop alternate, and `active_requests` of a stored stream is 1 while its
loop is between the two and 0 otherwise (`requests_are_bracketed`).  That a call meets the loop's
own stream needs the stream ids to differ: after 2^64 of them a loop can count its request on
another's stream (`counted_on_foreign_stream`).
-/

namespace GrpcRelay

open StreamRouter

/-- The loop is between `begin_request` and `finish_request`. -/
def CtrlPc.between : CtrlPc → Bool
  | .lookingUp _ | .joining _ | .routing .. | .metering .. | .forwarding .. | .refusing _
  | .offlineTaking .. | .offlineCompleting .. | .offlineFinishing _ | .waiting .. | .caching ..
  | .finishing .. => true
  | _ => false

/-- The loop is about to call `begin_request`. -/
def CtrlPc.begins : CtrlPc → Bool
  | .beginning _ => true
  | _ => false

/-- The loop is about to call `finish_request`. -/
def CtrlPc.finishes : CtrlPc → Bool
  | .refusing _ | .offlineFinishing _ | .finishing .. => true
  | _ => false

theorem CtrlPc.between_of_begins {pc : CtrlPc} (h : pc.begins = true) : pc.between = false := by
  cases pc <;> first | rfl | cases h

theorem CtrlPc.between_of_finishes {pc : CtrlPc} (h : pc.finishes = true) :
    pc.between = true ∧ pc.begins = false := by
  cases pc <;> first | exact ⟨rfl, rfl⟩ | cases h

/-- A call of `begin_request` or `finish_request` by loop `c`. -/
inductive Bracket where
  | began (c : ℕ) (streamId : String)
  | finished (c : ℕ) (streamId : String)
  deriving DecidableEq

namespace Bracket

/-- The loop that makes the call. -/
def loop : Bracket → ℕ
  | .began c _ | .finished c _ => c

/-- The calls of `n` requests of loop `c`. -/
def rounds (c : ℕ) (sid : String) (n : ℕ) : List Bracket :=
  (List.replicate n [began c sid, finished c sid]).flatten

theorem rounds_succ (c : ℕ) (sid : String) (n : ℕ) :
    rounds c sid (n + 1) = rounds c sid n ++ [began c sid, finished c sid] := by
  rw [rounds, List.replicate_succ', List.flatten_append]
  rfl

end Bracket

namespace StreamRouter.CallPc

variable {r : StreamRouter} {p : CallPc} {sid : String} {m : StreamMapping} {tx : ControllerTx}

/-- The loop for which a stream is created. -/
def creator : CallPc → Option ControllerTx
  | .numbering _ _ _ _ tx => some tx
  | .trackingDevice m | .trackingController m | .rollingBack m _ | .inserting m =>
    some m.controllerTx
  | _ => none

/-- An operation stores the stream being created and no other. -/
theorem lookup_mappings_step (h : (p.step r).1.mappings.lookup sid = some m) :
    r.mappings.lookup sid = some m ∨ (p = .inserting m ∧ sid = m.streamId) := by
  cases p with
  | inserting m' =>
    dsimp only [step] at h
    rw [DashMap.lookup_insert_ite] at h
    split_ifs at h with same
    · cases h
      exact Or.inr ⟨rfl, same⟩
    · exact Or.inl h
  | sweeping ids removed =>
    refine Or.inl ?_
    cases ids with
    | nil => exact h
    | cons sid' ids =>
      dsimp only [step] at h
      split at h
      · exact h
      · dsimp only at h
        rw [DashMap.lookup_erase_ite] at h
        split_ifs at h
        exact h
  | removing sid' =>
    refine Or.inl ?_
    dsimp only [step] at h
    split at h
    · exact h
    · dsimp only at h
      rw [DashMap.lookup_erase_ite] at h
      split_ifs at h
      exact h
  | trackingDevice | trackingController | taking =>
    refine Or.inl ?_
    dsimp only [step] at h
    split at h <;> exact h
  | _ => exact Or.inl h

/-- A stream is created for the loop that asked for it, without a request. -/
theorem creating_step (h : (p.step r).2.creating = some m) :
    (∃ now d c methodName, p = .numbering now d c methodName m.controllerTx ∧
      m = r.newMapping now d c methodName m.controllerTx) ∨
    p.creating = some m ∧ ∀ m', p ≠ .inserting m' := by
  cases p with
  | numbering now d c methodName tx =>
    cases h
    exact Or.inl ⟨now, d, c, methodName, rfl, rfl⟩
  | trackingDevice | trackingController =>
    refine Or.inr ⟨?_, nofun⟩
    dsimp only [step] at h
    split at h <;> first | exact h | cases h
  | removing | taking =>
    dsimp only [step] at h
    split at h <;> cases h
  | sweeping ids removed =>
    cases ids with
    | nil => cases h
    | cons sid ids =>
      dsimp only [step] at h
      split at h <;> cases h
  | _ => cases h

theorem creator_step (h : (p.step r).2.creator = some tx) : p.creator = some tx := by
  cases p with
  | trackingDevice | trackingController | removing | taking =>
    dsimp only [step] at h
    split at h <;> first | exact h | cases h
  | sweeping ids removed =>
    cases ids with
    | nil => cases h
    | cons sid ids =>
      dsimp only [step] at h
      split at h <;> cases h
  | _ => first | exact h | cases h

/-- A stream is created by storing it. -/
theorem inserting_of_created (running : p.over = false)
    (h : (p.step r).2 = .returned (.created (.ok sid))) :
    ∃ m, p = .inserting m ∧ sid = m.streamId := by
  cases p with
  | inserting m =>
    cases h
    exact ⟨m, rfl, rfl⟩
  | trackingDevice | trackingController | removing | taking =>
    dsimp only [step] at h
    split at h <;> cases h
  | sweeping ids removed =>
    cases ids with
    | nil => cases h
    | cons sid ids =>
      dsimp only [step] at h
      split at h <;> cases h
  | returned => cases running
  | _ => cases h

end StreamRouter.CallPc

/-- The call that a loop is about to make. -/
def Controller.bracket (c : ℕ) (l : Controller) : List Bracket :=
  match l.streamId with
  | none => []
  | some sid =>
    if l.pc.begins then [.began c sid] else if l.pc.finishes then [.finished c sid] else []

/-- The call of `begin_request` or `finish_request` that a step makes. -/
def Interleaved.brackets (s : Interleaved) (a : Access) (_ : Interleaved) : List Bracket :=
  match a with
  | .other (.ctrl c _) => (s.relay.ctrl c).bracket c
  | _ => []

/-! ## Steps of a loop -/

namespace Controller

variable {cfg : Config} {sh : Shared} {c : ℕ} {l : Controller} {input : CtrlInput}
  {next : Next Controller}

/-- A step of a loop that does not create or remove its stream. -/
inductive Brackets (sh : Shared) (l : Controller) (r' : StreamRouter) (l' : Controller) : Prop
  | begins (at_pc : l.pc.begins = true) (within : l'.pc.between = true)
      (router : r' = (beginRequest sh l).router)
  | finishes (at_pc : l.pc.finishes = true) (ended : l'.pc.between = false)
      (router : r' = (finishRequest sh l).router)
  | other (begins : l.pc.begins = false) (finishes : l.pc.finishes = false)
      (still : l'.pc.between = l.pc.between) (router : r' = sh.router)

theorem brackets_of_step (h : step cfg sh c l input = some next)
    (mapping : ∀ m, l.pc ≠ .mapping m) (closing : l.pc = .closing → l.streamId = none) :
    Brackets sh l next.shared.router next.loc := by
  have router := router_of_step h
  cases moves_of_step h with
  | refused m resp sh' connected counts at_pc =>
    rcases at_pc with at_pc | at_pc | at_pc
    · refine .other ?_ ?_ ?_ (router.trans ?_) <;> simp [routerAfter, at_pc] <;> rfl
    · refine .other ?_ ?_ ?_ (router.trans ?_) <;> simp [routerAfter, at_pc] <;> rfl
    · exact absurd at_pc (mapping m)
  | mapped m _ _ at_pc => exact absurd at_pc (mapping m)
  | begun m sh' at_pc =>
    exact .begins (by rw [at_pc]; rfl) rfl (router.trans (by rw [routerAfter, at_pc]))
  | finished m r status sh' at_pc =>
    exact .finishes (by rw [at_pc]; rfl) rfl (router.trans (by rw [routerAfter, at_pc]))
  | rested m sh' at_pc =>
    rcases at_pc with at_pc | at_pc <;>
      exact .finishes (by rw [at_pc]; rfl) rfl (router.trans (by rw [routerAfter, at_pc]))
  | ended input pc' sh' at_pc =>
    rcases at_pc with ⟨at_pc, rfl⟩ | ⟨at_pc, rfl⟩ | ⟨at_pc, rfl⟩
    · exact .other (by rw [at_pc]; rfl) (by rw [at_pc]; rfl) (by rw [at_pc]; rfl)
        (router.trans (by rw [routerAfter, at_pc]))
    · refine .other (by rw [at_pc]; rfl) (by rw [at_pc]; rfl) (by rw [at_pc]; rfl)
        (router.trans ?_)
      rw [routerAfter, at_pc]
      simp only [close, closing at_pc]
    · exact .other (by rw [at_pc]; rfl) (by rw [at_pc]; rfl) (by rw [at_pc]; rfl)
        (router.trans (by rw [routerAfter, at_pc]))
  | _ =>
    exact .other (by rw [‹l.pc = _›]; rfl) (by rw [‹l.pc = _›]; rfl) (by rw [‹l.pc = _›]; rfl)
      (router.trans (by rw [routerAfter, ‹l.pc = _›]))

/-- The mapping of a stream before and after a step of a loop, which counts its requests. -/
structure Counts (l l' : Controller) (sid : String) (m m' : StreamMapping) : Prop where
  tx : m'.controllerTx = m.controllerTx
  foreign : l.streamId ≠ some sid → m'.activeRequests = m.activeRequests
  own : l.streamId = some sid → m.activeRequests = (if l.pc.between then 1 else 0) →
    m'.activeRequests = if l'.pc.between then 1 else 0

variable {r' : StreamRouter} {l' : Controller} {sid own : String} {m' : StreamMapping}

/-- The loop notes something about its stream. -/
theorem counts_of_modify {g : StreamMapping → StreamMapping} (stream : l.streamId = some own)
    (router : r'.mappings = DashMap.modify sh.router.mappings own g)
    (tx : ∀ m, (g m).controllerTx = m.controllerTx)
    (active : ∀ m, m.activeRequests = (if l.pc.between then 1 else 0) →
      (g m).activeRequests = if l'.pc.between then 1 else 0)
    (found : r'.mappings.lookup sid = some m') :
    ∃ m, sh.router.mappings.lookup sid = some m ∧ Counts l l' sid m m' := by
  rw [router, DashMap.lookup_modify] at found
  split_ifs at found with same
  · obtain ⟨m, old, rfl⟩ := Option.map_eq_some_iff.1 found
    refine ⟨m, old, tx m, fun other => absurd ?_ other, fun _ => active m⟩
    rw [stream, same]
  · refine ⟨m', found, rfl, fun _ => rfl, fun own' => absurd ?_ same⟩
    rw [stream, Option.some.injEq] at own'
    exact own'.symm

/-- A stream is what it was, but for the requests that its own loop begins and finishes. -/
theorem Brackets.lookup (h : Brackets sh l r' l') (found : r'.mappings.lookup sid = some m') :
    ∃ m, sh.router.mappings.lookup sid = some m ∧ Counts l l' sid m m' := by
  -- A step without a call.
  have silent (router : r' = sh.router)
      (still : l.streamId = some sid → l'.pc.between = l.pc.between) :
      ∃ m, sh.router.mappings.lookup sid = some m ∧ Counts l l' sid m m' := by
    rw [router] at found
    exact ⟨m', found, rfl, fun _ => rfl, fun own active => by rw [active, still own]⟩
  cases h with
  | begins at_pc within router =>
    have outside := CtrlPc.between_of_begins at_pc
    unfold beginRequest at router
    split at router
    · rename_i own stream
      have mappings := congrArg (·.mappings) router
      dsimp only [StreamRouter.beginRequest] at mappings
      refine counts_of_modify stream mappings (fun _ => rfl) ?_ found
      intro m active
      simp [active, outside, within]
    · rename_i none
      refine silent router fun own => ?_
      cases none.symm.trans own
  | finishes at_pc ended router =>
    have within := (CtrlPc.between_of_finishes at_pc).1
    unfold finishRequest at router
    split at router
    · rename_i own stream
      have mappings := congrArg (·.mappings) router
      dsimp only [StreamRouter.finishRequest] at mappings
      refine counts_of_modify stream mappings (fun _ => rfl) ?_ found
      intro m active
      simp [active, ended, within]
    · rename_i none
      refine silent router fun own => ?_
      cases none.symm.trans own
  | other begins finishes still router => exact silent router fun _ => still

/-- A loop has a stream from its creation on, and works on requests only then. -/
structure Settled (l : Controller) : Prop where
  unbound : l.pc.opening → l.streamId = none
  bound : l.streamBinding ≠ none → l.streamId ≠ none
  underway : l.pc.begins ∨ l.pc.between → l.streamId ≠ none

theorem Settled.step (S : Settled l) (h : step cfg sh c l input = some next)
    (mapping : ∀ m, l.pc ≠ .mapping m) : Settled next.loc := by
  obtain ⟨same, opens, -⟩ := stream_of_step h mapping
  refine ⟨fun opening => ?_, ?_, ?_⟩
  · rw [same]
    rcases opens opening with opening | none
    · exact S.unbound opening
    · exact none
  · rw [same]
    have binding : next.loc.streamBinding = l.streamBinding := by
      cases moves_of_step h with
      | mapped m _ _ at_pc => exact absurd at_pc (mapping m)
      | _ => rfl
    rw [binding]
    exact S.bound
  · rw [same]
    intro underway
    cases moves_of_step h with
    | pulledBound m at_pc bound => exact S.bound (by rw [bound]; exact nofun)
    | mapped m _ _ at_pc => exact absurd at_pc (mapping m)
    | begun m _ at_pc => exact S.underway (Or.inl (by rw [at_pc]; rfl))
    | pulled | pulledBad | refused | authorized | allowed | finished | sent | rested =>
      rcases underway with h | h <;> cases h
    | ended input pc' sh' at_pc =>
      rcases at_pc with ⟨-, rfl⟩ | ⟨-, rfl⟩ | ⟨-, rfl⟩ <;> rcases underway with h | h <;> cases h
    | _ => exact S.underway (Or.inr (by rw [‹l.pc = _›]; rfl))

end Controller

namespace Interleaved

variable {cfg : Config} {s s' : Interleaved} {k : Caller} {p : CallPc} {c : ℕ} {sid : String}
  {log : List Bracket}

/-! ## The calls of a loop -/

/-- The loop begins and finishes one request after the other, all on its stream. -/
def Alternates (log : List Bracket) (c : ℕ) (l : Controller) : Prop :=
  ∃ n, log.filter (·.loop = c) =
    match l.streamId with
    | none => []
    | some sid => Bracket.rounds c sid n ++ if l.pc.between then [.began c sid] else []

/-- A loop that goes on after a call. -/
theorem ctrl_called (c : ℕ) :
    (s.called k p).relay.ctrl c = s.relay.ctrl c ∨
    ((s.relay.ctrl c).pc = .closing ∧
      (s.called k p).relay.ctrl c = (s.relay.ctrl c).goto .disconnecting) ∨
    ∃ m, (s.relay.ctrl c).pc = .mapping m ∧
      ((s.called k p).relay.ctrl c = (s.relay.ctrl c).goto .idle ∨
        ∃ sid, (p.step s.relay.shared.router).2 = .returned (.created (.ok sid)) ∧ k = .loop c ∧
          (s.called k p).relay.ctrl c =
            ⟨some sid, some m.binding, (s.relay.ctrl c).controllerConnected, .beginning m⟩) := by
  by_cases hk : k = .loop c
  · subst hk
    cases running : (p.step s.relay.shared.router).2.over with
    | false =>
      rw [called, State.resume_of_running running]
      exact Or.inl rfl
    | true =>
      obtain ⟨result, hp⟩ := CallPc.over_cases running
      rw [called, hp]
      rcases State.ctrl_resume (s := s.relay.withRouter (p.step s.relay.shared.router).1) (c := c)
        result with same | gone | ⟨m, at_pc, idle | ⟨sid, rfl, mapped⟩⟩
      · exact Or.inl same
      · exact Or.inr (Or.inl gone)
      · exact Or.inr (Or.inr ⟨m, at_pc, Or.inl idle⟩)
      · exact Or.inr (Or.inr ⟨m, at_pc, Or.inr ⟨sid, rfl, rfl, mapped⟩⟩)
  · exact Or.inl (State.ctrl_resume_of_ne (s := s.relay.withRouter _) hk)

theorem settled_called (S : (s.relay.ctrl c).Settled) : ((s.called k p).relay.ctrl c).Settled := by
  rcases ctrl_called (s := s) (k := k) (p := p) c with same | ⟨at_pc, gone⟩ |
    ⟨m, at_pc, idle | ⟨sid, -, -, mapped⟩⟩
  · rwa [same]
  · rw [gone]
    exact ⟨nofun, S.bound, fun h => by rcases h with h | h <;> cases h⟩
  · rw [idle]
    exact ⟨nofun, S.bound, fun h => by rcases h with h | h <;> cases h⟩
  · rw [mapped]
    exact ⟨nofun, nofun, nofun⟩

/-- A loop that steps outside of the router. -/
theorem free_of_callsRouter {s : State} {input : CtrlInput}
    (free : s.callsRouter (.ctrl c input) = false) :
    (∀ m, (s.ctrl c).pc ≠ .mapping m) ∧
      ((s.ctrl c).pc = .closing → (s.ctrl c).streamId = none) := by
  simp only [State.callsRouter, State.nextCall] at free
  refine ⟨fun m at_pc => ?_, fun at_pc => ?_⟩
  · rw [at_pc] at free
    cases free
  · rwa [at_pc, Option.isSome_map, Option.isSome_eq_false_iff, Option.isNone_iff_eq_none] at free

/-- A loop that stays where it is, while another makes a call. -/
theorem Alternates.keep {l l' : Controller} {calls : List Bracket} (A : Alternates log c l)
    (others : ∀ b ∈ calls, b.loop ≠ c) (stream : l'.streamId = l.streamId)
    (still : l'.pc.between = l.pc.between) : Alternates (log ++ calls) c l' := by
  obtain ⟨n, hn⟩ := A
  refine ⟨n, ?_⟩
  have none : calls.filter (·.loop = c) = [] :=
    List.filter_eq_nil_iff.2 fun b hb => by simpa using others b hb
  rw [List.filter_append, none, List.append_nil, hn, stream, still]

/-- A step of the loop itself. -/
theorem Alternates.own {sh : Shared} {r' : StreamRouter} {l l' : Controller} (S : l.Settled)
    (A : Alternates log c l) (h : Controller.Brackets sh l r' l')
    (same : l'.streamId = l.streamId) : Alternates (log ++ l.bracket c) c l' := by
  cases h with
  | other begins finishes still router =>
    refine A.keep (fun b hb => ?_) same still
    unfold Controller.bracket at hb
    split at hb
    · cases hb
    · rw [begins, finishes] at hb
      cases hb
  | begins at_pc within router =>
    obtain ⟨n, hn⟩ := A
    obtain ⟨sid, own⟩ := Option.ne_none_iff_exists'.1 (S.underway (Or.inl at_pc))
    refine ⟨n, ?_⟩
    rw [List.filter_append, hn, same]
    simp [Controller.bracket, own, at_pc, within, CtrlPc.between_of_begins at_pc, Bracket.loop]
  | finishes at_pc ended router =>
    obtain ⟨n, hn⟩ := A
    obtain ⟨between, begins⟩ := CtrlPc.between_of_finishes at_pc
    obtain ⟨sid, own⟩ := Option.ne_none_iff_exists'.1 (S.underway (Or.inr between))
    refine ⟨n + 1, ?_⟩
    rw [List.filter_append, hn, same]
    simp [Controller.bracket, own, at_pc, ended, between, begins, Bracket.loop,
      Bracket.rounds_succ]

/-- A loop and its calls, after any step. -/
theorem alternates_step {a : Access} (S : (s.relay.ctrl c).Settled)
    (A : Alternates log c (s.relay.ctrl c)) (h : step cfg s a = some s') :
    (s'.relay.ctrl c).Settled ∧ Alternates (log ++ s.brackets a s') c (s'.relay.ctrl c) := by
  -- Another task makes the step.
  have stays (same : s'.relay.ctrl c = s.relay.ctrl c)
      (others : ∀ b ∈ s.brackets a s', b.loop ≠ c) :
      (s'.relay.ctrl c).Settled ∧ Alternates (log ++ s.brackets a s') c (s'.relay.ctrl c) := by
    rw [same]
    exact ⟨S, A.keep others rfl rfl⟩
  cases a with
  | other b =>
    simp only [step] at h
    split_ifs at h with free
    obtain ⟨relay, hr, rfl⟩ := Option.map_eq_some_iff.1 h
    by_cases own : ∃ input, b = .ctrl c input
    · obtain ⟨input, rfl⟩ := own
      obtain ⟨mapping, closing⟩ := free_of_callsRouter (by simpa using free)
      obtain ⟨next, hn, rfl⟩ := Option.map_eq_some_iff.1 hr
      simp only [State.afterCtrl, Function.update_self]
      exact ⟨S.step hn mapping, A.own S (Controller.brackets_of_step hn mapping closing)
        (Controller.stream_of_step hn mapping).1⟩
    · refine stays (ctrl_of_cases (GrpcRelay.step_cases hr) fun input h => own ⟨input, h⟩) ?_
      intro b' hb' same
      cases b with
      | ctrl c' input =>
        have hc : c' ≠ c := by
          rintro rfl
          exact own ⟨input, rfl⟩
        simp only [brackets, Controller.bracket] at hb'
        split at hb'
        · cases hb'
        · split_ifs at hb' <;> simp at hb' <;> subst hb' <;> exact hc same
      | _ => cases hb'
  | call k =>
    obtain ⟨p, hp, rfl⟩ := Option.map_eq_some_iff.1 h
    refine ⟨settled_called S, ?_⟩
    have nil : brackets s (.call k) (s.called k p) = [] := rfl
    rcases ctrl_called (s := s) (k := k) (p := p) c with same | ⟨at_pc, gone⟩ |
      ⟨m, at_pc, idle | ⟨sid, -, -, mapped⟩⟩
    · exact A.keep (by simp [brackets]) (by rw [same]) (by rw [same])
    · exact A.keep (by simp [brackets]) (by rw [gone]; rfl) (by rw [gone, at_pc]; rfl)
    · exact A.keep (by simp [brackets]) (by rw [idle]; rfl) (by rw [idle, at_pc]; rfl)
    · -- The loop had no stream, so it made no call.
      obtain ⟨n, hn⟩ := A
      have none := S.unbound (by rw [at_pc]; rfl)
      rw [none] at hn
      refine ⟨0, ?_⟩
      rw [mapped, nil, List.append_nil, hn]
      rfl
  | scan | visit sid | scanned =>
    have ctrl := (step_of_scan h (by simp) (by simp)).2.1
    exact stays (congrFun ctrl c) (by simp [brackets])

/-! ## The requests of a stream -/

/-- What the streams stored and those being created say about their loops. -/
structure Bracketed (s : Interleaved) : Prop where
  held : ∀ c sid, (s.relay.ctrl c).streamId = some sid → sid ∈ s.drawn
  apart : ∀ c c' sid, (s.relay.ctrl c).streamId = some sid →
    (s.relay.ctrl c').streamId = some sid → c = c'
  creator : ∀ k tx, (s.call k).creator = some tx → k = .loop tx
  creating : ∀ k m, (s.call k).creating = some m →
    m.activeRequests = 0 ∧ ∀ c, (s.relay.ctrl c).streamId ≠ some m.streamId
  stored : ∀ sid m, s.relay.shared.router.mappings.lookup sid = some m →
    (s.relay.ctrl m.controllerTx).streamId = some sid ∧
      m.activeRequests = if (s.relay.ctrl m.controllerTx).pc.between then 1 else 0

namespace Bracketed

theorem init (cfg : Config) : Bracketed (init cfg) where
  held _ _ h := by cases h
  apart _ _ _ h := by cases h
  creator _ _ h := by cases h
  creating _ _ h := by cases h
  stored _ _ h := by cases h

/-- A step that is no router call. -/
theorem other {a : Action} {relay : State} (B : Bracketed s)
    (h : GrpcRelay.step cfg s.relay a = some relay) (free : s.relay.callsRouter a = false) :
    Bracketed { s with relay := relay } := by
  have streams (c : ℕ) := (ctrl_of_other h free c).1
  refine ⟨fun c sid own => ?_, fun c c' sid own own' => ?_, B.creator, fun k m creating => ?_,
    fun sid m found => ?_⟩
  · exact B.held c sid (by rwa [← streams])
  · exact B.apart c c' sid (by rwa [← streams]) (by rwa [← streams])
  · obtain ⟨idle, fresh⟩ := B.creating k m creating
    exact ⟨idle, fun c => by rw [streams]; exact fresh c⟩
  · dsimp only at found ⊢
    rw [streams]
    by_cases own : ∃ c input, a = .ctrl c input
    · obtain ⟨c, input, rfl⟩ := own
      obtain ⟨mapping, closing⟩ := free_of_callsRouter free
      obtain ⟨next, hn, rfl⟩ := Option.map_eq_some_iff.1 h
      obtain ⟨m₀, old, tx, foreign, same⟩ :=
        (Controller.brackets_of_step hn mapping closing).lookup found
      obtain ⟨stream, active⟩ := B.stored sid m₀ old
      rw [tx]
      refine ⟨stream, ?_⟩
      by_cases hc : m₀.controllerTx = c
      · rw [hc] at stream active ⊢
        simp only [State.afterCtrl, Function.update_self]
        exact same stream active
      · rw [foreign fun own => hc (B.apart _ _ sid stream own), active]
        simp only [State.afterCtrl, Function.update_of_ne hc]
    · have router := router_of_other h free fun c input h => own ⟨c, input, h⟩
      have ctrl (c : ℕ) : relay.ctrl c = s.relay.ctrl c :=
        ctrl_of_cases (GrpcRelay.step_cases h) fun input h => own ⟨c, input, h⟩
      rw [router] at found
      rw [ctrl]
      exact B.stored sid m found

/-- The call that a task is about to make or go on with. -/
theorem current_cases (B : Bracketed s) (h : s.current k = some p) :
    p.over = false ∧ (∀ tx, p.creator = some tx → k = .loop tx) ∧
      ∀ m, p.creating = some m → (s.call k).creating = some m := by
  unfold current at h
  split_ifs at h with ended
  · unfold State.nextCall at h
    split at h
    · split at h
      · cases h
        exact ⟨rfl, fun tx h => by cases h; rfl, nofun⟩
      · obtain ⟨sid, -, rfl⟩ := Option.map_eq_some_iff.1 h
        exact ⟨rfl, nofun, nofun⟩
      · cases h
    · split at h <;> cases h
      exact ⟨rfl, nofun, nofun⟩
    · split at h <;> cases h
      exact ⟨rfl, nofun, nofun⟩
  · cases h
    exact ⟨by simpa using ended, B.creator k, fun _ h => h⟩

/-- A loop gets its stream when it is stored; otherwise it keeps what it has. -/
theorem stream_called (B : Bracketed s) (h : s.current k = some p) (c : ℕ) :
    ((s.called k p).relay.ctrl c).streamId = (s.relay.ctrl c).streamId ∨
      ∃ m, p = .inserting m ∧ k = .loop c ∧
        ((s.called k p).relay.ctrl c).streamId = some m.streamId := by
  rcases ctrl_called (s := s) (k := k) (p := p) c with same | ⟨-, gone⟩ |
    ⟨msg, -, idle | ⟨sid, created, own, mapped⟩⟩
  · exact Or.inl (by rw [same])
  · exact Or.inl (by rw [gone]; rfl)
  · exact Or.inl (by rw [idle]; rfl)
  · obtain ⟨m, rfl, rfl⟩ := CallPc.inserting_of_created (B.current_cases h).1 created
    exact Or.inr ⟨m, rfl, own, by rw [mapped]⟩

/-- The next operation of the call of a task. -/
theorem called (B : Bracketed s) (T : Tidy s) (h : s.current k = some p)
    (few : (s.called k p).drawn.length ≤ UInt64.size) : Bracketed (s.called k p) := by
  have router : (s.called k p).relay.shared.router = (p.step s.relay.shared.router).1 := by
    rw [Interleaved.called, State.shared_resume]
    rfl
  obtain ⟨-, creator, creating⟩ := B.current_cases h
  have ids := (T.accounted_current h).toIds
  have stream := B.stream_called h
  refine ⟨fun c sid own => ?_, fun c c' sid own own' => ?_, fun j tx hj => ?_, fun j m hj => ?_,
    fun sid m found => ?_⟩
  · refine List.mem_append_left _ ?_
    rcases stream c with same | ⟨m, rfl, -, new⟩
    · exact B.held c sid (same ▸ own)
    · cases new.symm.trans own
      exact (ids.creating k m (by rw [Function.update_self]; rfl)).1
  · -- A stream that is new is no other loop's.
    rcases stream c with same | ⟨m, rfl, rfl, new⟩ <;>
      rcases stream c' with same' | ⟨m', hp, hk, new'⟩
    · exact B.apart c c' sid (same ▸ own) (same' ▸ own')
    · subst hp
      cases new'.symm.trans own'
      exact absurd (same ▸ own) ((B.creating k m' (creating m' rfl)).2 c)
    · cases new.symm.trans own
      exact absurd (same' ▸ own') ((B.creating _ m (creating m rfl)).2 c')
    · cases hk
      rfl
  · by_cases hk : j = k
    · subst hk
      rw [call_called_self] at hj
      exact creator tx (CallPc.creator_step hj)
    · rw [call_called_of_ne hk] at hj
      exact B.creator j tx hj
  · by_cases hk : j = k
    · subst hk
      rw [call_called_self] at hj
      rcases CallPc.creating_step hj with ⟨now, d, c', methodName, rfl, hm⟩ | ⟨old, running⟩
      · refine ⟨by rw [hm]; rfl, fun c own => ?_⟩
        have fresh : s.relay.shared.router.nextStreamId ∉ s.drawn := by
          refine T.numbered.fresh ?_
          rw [Interleaved.called, List.length_append] at few
          exact few
        rcases stream c with same | ⟨m', hp, -, -⟩
        · rw [same, hm] at own
          exact fresh (B.held c _ own)
        · cases hp
      · obtain ⟨idle, fresh⟩ := B.creating j m (creating m old)
        refine ⟨idle, fun c own => ?_⟩
        rcases stream c with same | ⟨m', hp, -, -⟩
        · exact fresh c (same ▸ own)
        · exact running m' hp
    · rw [call_called_of_ne hk] at hj
      obtain ⟨idle, fresh⟩ := B.creating j m hj
      refine ⟨idle, fun c own => ?_⟩
      rcases stream c with same | ⟨m', rfl, -, new⟩
      · exact fresh c (same ▸ own)
      · have same := Option.some.inj (new.symm.trans own)
        refine hk (ids.unique j k m m' ?_ ?_ same.symm)
        · rwa [Function.update_of_ne hk]
        · rw [Function.update_self]
          rfl
  · rw [router] at found
    rcases CallPc.lookup_mappings_step found with old | ⟨rfl, rfl⟩
    · obtain ⟨own, active⟩ := B.stored sid m old
      rcases ctrl_called (s := s) (k := k) (p := p) m.controllerTx with same | ⟨at_pc, gone⟩ |
        ⟨msg, at_pc, -⟩
      · rw [same]
        exact ⟨own, active⟩
      · rw [gone]
        refine ⟨own, active.trans ?_⟩
        rw [at_pc]
        rfl
      · cases (T.unbound m.controllerTx (by rw [at_pc]; rfl)).symm.trans own
    · obtain rfl := creator m.controllerTx rfl
      obtain ⟨msg, at_pc⟩ := T.suits_current h
      rw [ctrl_called_inserting at_pc]
      exact ⟨rfl, (B.creating _ m (creating m rfl)).1⟩

/-- A step that leaves the loops, the router and the calls as they are. -/
theorem keep (B : Bracketed s) (shared : s'.relay.shared = s.relay.shared)
    (ctrl : s'.relay.ctrl = s.relay.ctrl) (call : s'.call = s.call)
    (drawn : s'.drawn = s.drawn) : Bracketed s' := by
  refine ⟨?_, ?_, ?_, ?_, ?_⟩
  · rw [ctrl, drawn]
    exact B.held
  · rw [ctrl]
    exact B.apart
  · rw [call]
    exact B.creator
  · rw [ctrl, call]
    exact B.creating
  · rw [ctrl, shared]
    exact B.stored

end Bracketed

theorem bracketed_of_reachable (h : Reachable cfg s) (few : s.drawn.length ≤ UInt64.size) :
    Bracketed s := by
  refine h.invariant (I := fun s => s.drawn.length ≤ UInt64.size → Bracketed s)
    (fun _ => .init cfg) ?_ few
  intro s a s' reach B _ hs few
  rcases step_cases hs with ⟨b, relay, hr, free, rfl⟩ | ⟨k, p, hp, rfl⟩ |
    ⟨shared, ctrl, call, drawn⟩
  · exact (B few).other hr free
  · have fewer : s.drawn.length ≤ UInt64.size := by
      refine le_trans ?_ few
      rw [called, List.length_append]
      exact Nat.le_add_right _ _
    exact (B fewer).called (tidy_of_reachable reach fewer) hp few
  · exact (B (drawn ▸ few)).keep shared ctrl call drawn

/-- Every loop begins and finishes its requests in turn, all on its own stream; and if no more than
2^64 stream ids were drawn, a stored stream belongs to one loop, has one active request while that
loop is between `begin_request` and `finish_request` and none otherwise, and has one when its loop
is about to take it off. -/
theorem requests_are_bracketed
    (h : Runs.Logged (step cfg) (fun _ _ => True) brackets (init cfg) log s) :
    (∀ c, Alternates log c (s.relay.ctrl c)) ∧
    (s.drawn.length ≤ UInt64.size →
      ∀ sid m, s.relay.shared.router.mappings.lookup sid = some m →
        (∀ c, (s.relay.ctrl c).streamId = some sid ↔ c = m.controllerTx) ∧
        m.activeRequests = (if (s.relay.ctrl m.controllerTx).pc.between then 1 else 0) ∧
        ((s.relay.ctrl m.controllerTx).pc.finishes = true → m.activeRequests = 1)) := by
  refine ⟨fun c => ?_, fun few sid m found => ?_⟩
  · have start : ((init cfg).relay.ctrl c).Settled :=
      ⟨nofun, fun bound => absurd rfl bound, fun h => by rcases h with h | h <;> cases h⟩
    refine (h.invariant (I := fun log s => (s.relay.ctrl c).Settled ∧
      Alternates log c (s.relay.ctrl c)) ⟨start, 0, rfl⟩ ?_).2
    rintro log s a s' _ ⟨S, A⟩ _ hs
    exact alternates_step S A hs
  · have B := bracketed_of_reachable h.reach few
    obtain ⟨own, active⟩ := B.stored sid m found
    refine ⟨fun c => ⟨fun h => B.apart c _ sid h own, fun h => h ▸ own⟩, active, fun finishes => ?_⟩
    rw [active, (CtrlPc.between_of_finishes finishes).1]
    rfl

/-- A loop within its second request has one active request, while another loop is within its
first. -/
theorem second_request_is_bracketed :
    ∃ log s m,
      Runs.Logged (step Small.config) (fun _ _ => True) brackets (init Small.config) log s ∧
      s.relay.shared.router.mappings.lookup "strm-1" = some m ∧
      (s.relay.ctrl 0).pc.between = true ∧
      log = [.began 0 "strm-1", .began 1 "strm-2", .finished 0 "strm-1", .began 0 "strm-1"] ∧
      m.controllerTx = 0 ∧ m.activeRequests = 1 := by
  obtain ⟨⟨log, s⟩, run, hf⟩ : ∃ out, Runs.executeLogged (step Small.config) (fun _ _ => true)
      brackets [] (init Small.config) (Small.twoStreams ++
        [.other (.ctrl 0 (.recv (Small.request 3))), .other (.ctrl 0 .tick)]) = some out ∧
      (out.1, (out.2.relay.ctrl 0).pc.between, out.2.drawn,
        (out.2.relay.shared.router.mappings.lookup "strm-1").map (·.controllerTx)) =
        ([.began 0 "strm-1", .began 1 "strm-2", .finished 0 "strm-1", .began 0 "strm-1"], true,
          ["strm-1", "strm-2"], some 0) :=
    Option.map_eq_some_iff.1 (by decide +kernel)
  simp only [Prod.mk.injEq] at hf
  obtain ⟨calls, between, drawn, found⟩ := hf
  obtain ⟨m, found, tx⟩ := Option.map_eq_some_iff.1 found
  have logged : Runs.Logged (step Small.config) (fun _ _ => True) brackets (init Small.config)
      log s := .of_executeLogged (fun _ _ _ => trivial) _ .start run
  obtain ⟨-, active, -⟩ := (requests_are_bracketed logged).2 (by rw [drawn]; decide) _ m found
  rw [tx, between] at active
  exact ⟨log, s, m, logged, found, between, calls, tx, active⟩

/-- After 2^64 stream ids two loops can have one stream, and count their requests on it. -/
theorem counted_on_foreign_stream :
    ∃ s m, Reachable Small.oneStream s ∧
      s.relay.shared.router.mappings.lookup "strm-1" = some m ∧ m.activeRequests = 2 := by
  obtain ⟨t, R⟩ := Small.exists_repeated
  obtain ⟨now, mapped⟩ := R.mapped
  obtain ⟨t₁, solo₁, shared₁, -⟩ := solo_ctrl Small.oneStream .tick _ _ rfl R.first rfl
  obtain ⟨t₂, solo₂, shared₂, -⟩ := solo_ctrl Small.oneStream .tick _ _ rfl
    ((solo₁.others 1 one_ne_zero).trans R.second) rfl
  obtain ⟨s, reach, A⟩ := exists_at ((R.reach.trans solo₁.reach).trans solo₂.reach)
  have found : t₂.shared.router.mappings.lookup "strm-1" =
      some ⟨"strm-1", "e", "x", "M", now, t₁.shared.now, 2, 1⟩ := by
    rw [shared₂]
    simp only [Controller.beginRequest, StreamRouter.beginRequest]
    rw [DashMap.lookup_modify, if_pos rfl, shared₁]
    simp only [Controller.beginRequest, StreamRouter.beginRequest]
    rw [DashMap.lookup_modify, if_pos rfl, mapped]
    rfl
  rw [← A.same.shared] at found
  exact ⟨s, _, reach, found, rfl⟩

end Interleaved

end GrpcRelay
