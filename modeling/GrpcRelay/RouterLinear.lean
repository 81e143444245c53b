import GrpcRelay.RouterRuns
import Mathlib.Data.List.Permutation

/-!
# The calls of the stream router in an order

When all calls have returned, the maps of the router are those of the same calls one after the
other, up to the names of the streams (`router_is_linearizable`).  A call takes effect when it
stores or removes its mapping, takes the set of its device, or is refused.
-/

namespace GrpcRelay

namespace StreamRouter

open Linearize Tickets Runs

/-! ## Calls under way -/

/-- The call stands where calls of its kind do. -/
def Fits (call : Option Call) : CallPc → Prop
  | .numbering now d c methodName tx => call = some (.createMapping now d c methodName tx)
  | .trackingDevice m | .trackingController m | .rollingBack m _ | .inserting m =>
    call = some (.createMapping m.createdAt m.deviceId m.controllerId m.methodName
      m.controllerTx) ∧ m.lastActivity = m.createdAt ∧ m.activeRequests = 0
  | .removing sid | .untrackingDevice sid _ | .untrackingController sid _ =>
    call = some (.removeMapping sid)
  | .taking d => call = some (.removeAllForDevice d)
  | .sweeping _ _ | .untrackingSwept _ _ _ _ => ∃ d, call = some (.removeAllForDevice d)
  | .returned _ => True

theorem Fits.entry {call : Call} {p : CallPc} (h : call.entry = some p) : Fits (some call) p := by
  cases call <;> cases h <;> rfl

theorem Fits.step {call : Option Call} {p : CallPc} (h : Fits call p) (r : StreamRouter) :
    Fits call (p.step r).2 := by
  cases p with
  | numbering => exact ⟨h, rfl, rfl⟩
  | trackingDevice | trackingController | removing =>
    dsimp only [CallPc.step]
    split
    · first | exact trivial | exact h
    · exact h
  | taking d =>
    dsimp only [CallPc.step]
    split
    · exact trivial
    · exact ⟨d, h⟩
  | sweeping ids removed =>
    cases ids with
    | nil => exact trivial
    | cons sid ids =>
      dsimp only [CallPc.step]
      split <;> exact h
  | rollingBack | inserting | untrackingController | returned => exact trivial
  | untrackingDevice | untrackingSwept => exact h

/-- The call has taken effect and not returned. -/
def CallPc.effected : CallPc → Bool
  | .rollingBack .. | .untrackingDevice .. | .untrackingController .. | .sweeping ..
  | .untrackingSwept .. => true
  | _ => false

/-- The call of caller `k`, if it has taken effect and not returned. -/
def Callers.taken (s : Callers) (k : ℕ) : List Done :=
  if (s.pc k).effected then s.made k else []

namespace Callers

variable {s s' : Callers} {a : CallAction} {config : StreamConfig} {k : ℕ} {done : Done}
  {log log' order : List Done} {m : StreamMapping} {sid d : String} {p : CallPc} {r : StreamRouter}

/-- The callers after a step of caller `k`. -/
def advanced (s : Callers) (k : ℕ) : Callers :=
  { s with
    router := ((s.pc k).step s.router).1
    pc := Function.update s.pc k ((s.pc k).step s.router).2
    drawn := s.drawn ++ (s.pc k).draws s.router }

/-- The callers after caller `k` has made a call. -/
def invoked (s : Callers) (k : ℕ) (call : Call) (p : CallPc) : Callers :=
  { s with call := Function.update s.call k (some call), pc := Function.update s.pc k p }

theorem step_cases (h : s.step a = some s') :
    (∃ k call p, a = .invoke k call ∧ call.entry = some p ∧ (s.pc k).over ∧
      s' = s.invoked k call p) ∨
    ∃ k, a = .advance k ∧ (s.pc k).over = false ∧ s' = s.advanced k := by
  cases a with
  | invoke k call =>
    simp only [step] at h
    split_ifs at h with ended
    obtain ⟨p, entry, rfl⟩ := Option.map_eq_some_iff.1 h
    exact Or.inl ⟨k, call, p, rfl, entry, ended, rfl⟩
  | advance k =>
    simp only [step] at h
    split_ifs at h with ended
    cases h
    exact Or.inr ⟨k, rfl, by simpa using ended, rfl⟩

/-- What every orderly run keeps: the streams are accounted for and where they belong, and the ids
drawn are the first tickets. -/
structure Sound (config : StreamConfig) (s : Callers) : Prop where
  accounted : Accounted s.router s.pc s.drawn
  placed : Placed s.router s.pc
  fits : ∀ k, Fits (s.call k) (s.pc k)
  caps : SameCaps (.new config) s.router
  numbered : Numbered s.router s.drawn
  few : s.drawn.length ≤ UInt64.size

namespace Sound

theorem init (config : StreamConfig) : Sound config (.init config) where
  accounted := .new _ fun _ => ⟨_, rfl⟩
  placed := by
    refine ⟨⟨?_, fun d => Nat.zero_le _⟩, ⟨?_, ?_, fun c => Nat.zero_le _⟩⟩
    · intro sid m h
      cases h
    · intro sid m h
      cases h
    · intro k m h
      cases h
  fits _ := trivial
  caps := ⟨rfl, rfl⟩
  numbered := ⟨rfl, rfl⟩
  few := Nat.zero_le _

theorem invoke (S : Sound config s) {k : ℕ} {call : Call} {p : CallPc}
    (entry : call.entry = some p) (ended : (s.pc k).over) : Sound config (s.invoked k call p) := by
  have fits (j : ℕ) : Fits ((s.invoked k call p).call j) ((s.invoked k call p).pc j) := by
    by_cases hj : j = k
    · simpa [hj, invoked] using Fits.entry entry
    · simpa [hj, invoked] using S.fits j
  obtain ⟨result, hp⟩ := CallPc.over_cases ended
  have accounted : Accounted s.router (Function.update s.pc k p) s.drawn := by
    cases call <;> cases entry <;>
      (refine S.accounted.move ?_ ?_ ?_ ?_ ?_ ?_ ?_ ?_ <;> simp [hp])
  have placed : Placed s.router (Function.update s.pc k p) := by
    cases call <;> cases entry <;> exact S.placed.move (by simp [hp]) rfl
  exact ⟨accounted, placed, fits, S.caps, S.numbered, S.few⟩

theorem advance (S : Sound config s) {k : ℕ} (orderly : s.Orderly (.advance k)) :
    Sound config (s.advanced k) := by
  have listed (m : StreamMapping) (hp : s.pc k = .inserting m) :
      Index.Has s.router.deviceToStreams m.deviceId m.streamId := by
    rwa [Orderly, hp] at orderly
  have fits (j : ℕ) : Fits ((s.advanced k).call j) ((s.advanced k).pc j) := by
    by_cases hj : j = k
    · simpa [hj, advanced] using (S.fits k).step s.router
    · simpa [hj, advanced] using S.fits j
  have caps := S.caps.trans (CallPc.caps_step s.router (s.pc k))
  have placed := Placed.step S.accounted S.placed k listed
  have numbered := S.numbered.step (s.pc k)
  rcases CallPc.counter_step s.router (s.pc k) with
    ⟨draws, -⟩ | ⟨⟨now, d, c, methodName, tx, hp⟩, draws, -⟩
  · refine ⟨S.accounted.step k (Or.inl draws), placed, fits, caps, numbered, ?_⟩
    rw [advanced, draws, List.append_nil]
    exact S.few
  · have room : s.drawn.length < UInt64.size := by rwa [Orderly, hp] at orderly
    refine ⟨S.accounted.step k (Or.inr (S.numbered.fresh room)), placed, fits, caps, numbered, ?_⟩
    rw [advanced, draws, List.length_append, List.length_singleton]
    exact room

end Sound

/-! ## Calls that take effect -/

theorem effected_of_over {p : CallPc} (h : p.over) : p.effected = false := by
  cases p <;> first | rfl | cases h

theorem creating_of_over {p : CallPc} (h : p.over) : p.creating = none := by
  cases p <;> first | rfl | cases h

theorem taken_advanced_of_ne {j : ℕ} (hj : j ≠ k) : (s.advanced k).taken j = s.taken j := by
  simp [taken, made, advanced, hj]

theorem taken_advanced (same : ((s.pc k).step s.router).2.streamId = (s.pc k).streamId) :
    (s.advanced k).taken k = if ((s.pc k).step s.router).2.effected then s.made k else [] := by
  simp [taken, made, advanced, same]

theorem taken_advanced_of_over (ended : ((s.pc k).step s.router).2.over) :
    (s.advanced k).taken k = [] := by
  simp [taken, advanced, effected_of_over ended]

theorem returns_advanced : s.returns (.advance k) (s.advanced k) =
    if ((s.pc k).step s.router).2.over then s.made k else [] := by
  simp [returns, advanced]

theorem caller_of_made (h : s.made k = [done]) : done.caller = k := by
  unfold made at h
  split at h
  · cases h
    rfl
  · cases h

/-- A step with which the call of caller `k` neither takes effect nor returns. -/
theorem arranged_keep (A : Arranges Done.caller log s.taken order)
    (ended : ((s.pc k).step s.router).2.over = false)
    (effected : ((s.pc k).step s.router).2.effected = (s.pc k).effected)
    (same : (s.pc k).effected →
      ((s.pc k).step s.router).2.streamId = (s.pc k).streamId) :
    Arranges Done.caller (log ++ s.returns (.advance k) (s.advanced k)) (s.advanced k).taken
      order := by
  rw [returns_advanced, ended, if_neg Bool.false_ne_true, List.append_nil]
  refine A.keep fun j => ?_
  by_cases hj : j = k
  · rw [hj]
    cases h : (s.pc k).effected with
    | true => rw [taken_advanced (same h), effected, taken]
    | false => simp [taken, advanced, effected, h]
  · exact taken_advanced_of_ne hj

/-- The call of caller `k` took effect and returns. -/
theorem arranged_return (A : Arranges Done.caller log s.taken order) (made : s.made k = [done])
    (effected : (s.pc k).effected) (ended : ((s.pc k).step s.router).2.over) :
    Arranges Done.caller (log ++ s.returns (.advance k) (s.advanced k)) (s.advanced k).taken
      order := by
  rw [returns_advanced, if_pos ended, made]
  refine A.returns (caller_of_made made) ?_ fun j hj => taken_advanced_of_ne hj
  rw [taken_advanced_of_over ended, taken, if_pos effected, made]

/-- The call of caller `k` takes effect, and may return. -/
theorem arranged_effect (A : Arranges Done.caller log s.taken order) (made : s.made k = [done])
    (before : (s.pc k).effected = false)
    (after : ((s.pc k).step s.router).2.over ∨
      (((s.pc k).step s.router).2.over = false ∧ ((s.pc k).step s.router).2.effected ∧
        ((s.pc k).step s.router).2.streamId = (s.pc k).streamId)) :
    Arranges Done.caller (log ++ s.returns (.advance k) (s.advanced k)) (s.advanced k).taken
      (order ++ [done]) := by
  have caller := caller_of_made made
  have none : s.taken k = [] := by rw [taken, before, if_neg Bool.false_ne_true]
  rw [returns_advanced]
  rcases after with ended | ⟨ended, effected, same⟩
  · rw [if_pos ended, made]
    refine A.atOnce (by rw [caller, none]) fun j => ?_
    by_cases hj : j = k
    · rw [hj, taken_advanced_of_over ended, none]
    · exact taken_advanced_of_ne hj
  · rw [ended, if_neg Bool.false_ne_true, List.append_nil]
    refine A.effect caller ?_ fun j hj => taken_advanced_of_ne hj
    rw [taken_advanced same, if_pos effected, made, none, List.nil_append]

/-- The calls that have taken effect, in an order that leads to the streams stored. -/
structure Orders (config : StreamConfig) (log : List Done) (s : Callers) (order : List Done) :
    Prop where
  arranged : Arranges Done.caller log s.taken order
  nodup : (drawnIn order).Nodup
  drawn : ∀ sid ∈ drawnIn order, sid ∈ s.drawn
  pending : ∀ k m, (s.pc k).creating = some m → (s.pc k).effected = false →
    m.streamId ∉ drawnIn order
  matched : ∀ ρ : Equiv.Perm String, Names ρ order →
    Matches ρ s.router.mappings s.pc (inOrder config ρ order).mappings

namespace Orders

theorem init (config : StreamConfig) : Orders config [] (.init config) [] where
  arranged := Arranges.start
  nodup := List.nodup_nil
  drawn _ h := by cases h
  pending _ _ h := by cases h
  matched _ _ := by
    refine ⟨fun sid h => rfl, fun sid h => rfl⟩

theorem few (S : Sound config s) (O : Orders config log s order) :
    (drawnIn order).length ≤ UInt64.size :=
  (O.nodup.subperm O.drawn).length_le.trans S.few

/-- No call takes effect. -/
theorem quiet (O : Orders config log s order)
    (arranged : Arranges Done.caller log' (s.advanced k).taken order)
    (creating : ∀ m, ((s.pc k).step s.router).2.creating = some m →
      ((s.pc k).step s.router).2.effected = false →
      ((s.pc k).creating = some m ∧ (s.pc k).effected = false) ∨ m.streamId ∉ s.drawn)
    (matched : ∀ (ρ : Equiv.Perm String) (mappings' : DashMap String StreamMapping),
      Matches ρ s.router.mappings s.pc mappings' →
      Matches ρ (s.advanced k).router.mappings (s.advanced k).pc mappings') :
    Orders config log' (s.advanced k) order where
  arranged := arranged
  nodup := O.nodup
  drawn sid h := List.mem_append_left _ (O.drawn sid h)
  pending j m at_pc pending := by
    by_cases hj : j = k
    · rw [hj, advanced] at at_pc pending
      simp only [Function.update_self] at at_pc pending
      rcases creating m at_pc pending with ⟨at_pc, pending⟩ | new
      · exact O.pending k m at_pc pending
      · exact fun mem => new (O.drawn _ mem)
    · simp only [advanced, Function.update_of_ne hj] at at_pc pending
      exact O.pending j m at_pc pending
  matched ρ names := matched ρ _ (O.matched ρ names)

/-- The call of caller `k` takes effect. -/
theorem extend (S : Sound config s) (O : Orders config log s order) (made : s.made k = [done])
    (before : (s.pc k).effected = false)
    (after : ((s.pc k).step s.router).2.over ∨
      (((s.pc k).step s.router).2.over = false ∧ ((s.pc k).step s.router).2.effected ∧
        ((s.pc k).step s.router).2.streamId = (s.pc k).streamId))
    (creates : done.call.creates → ∃ m, (s.pc k).creating = some m)
    (matched : ∀ (ρ : Equiv.Perm String), SameCaps s.router (inOrder config ρ order) →
      Indexed (inOrder config ρ order) →
      (done.call.creates → (inOrder config ρ order).nextStreamId = ρ (s.pc k).streamId) →
      Matches ρ s.router.mappings s.pc (inOrder config ρ order).mappings →
      Matches ρ (s.advanced k).router.mappings (s.advanced k).pc
        ((inOrder config ρ order).perform (done.call.rename ρ)).2.mappings) :
    Orders config (log ++ s.returns (.advance k) (s.advanced k)) (s.advanced k)
      (order ++ [done]) := by
  have id : done.streamId = (s.pc k).streamId := by
    unfold Callers.made at made
    split at made <;> cases made
    rfl
  -- The id that the call drew, if any, is new to the order.
  have new {sid : String} (h : sid ∈ drawnIn [done]) :
      ∃ m, (s.pc k).creating = some m ∧ m.streamId = sid := by
    obtain ⟨done', mem, drew⟩ := List.mem_filterMap.1 h
    rw [List.mem_singleton.1 mem, Done.newId] at drew
    split_ifs at drew with hc
    obtain ⟨m, at_pc⟩ := creates hc
    refine ⟨m, at_pc, ?_⟩
    rw [← Option.some.inj drew, id, CallPc.streamId, at_pc]
    rfl
  have single : (drawnIn [done]).Nodup := by
    unfold drawnIn Done.newId
    cases h : done.call.creates <;> simp [h]
  refine ⟨arranged_effect O.arranged made before after, ?_, ?_, ?_, fun ρ names => ?_⟩
  · rw [drawnIn_append]
    refine O.nodup.append single fun sid old mem => ?_
    obtain ⟨m, at_pc, rfl⟩ := new mem
    exact O.pending k m at_pc before old
  · intro sid mem
    rw [drawnIn_append] at mem
    refine List.mem_append_left _ ?_
    rcases List.mem_append.1 mem with old | mem
    · exact O.drawn sid old
    · obtain ⟨m, at_pc, rfl⟩ := new mem
      exact (S.accounted.creating k m at_pc).1
  · intro j m at_pc pending
    have hj : j ≠ k := by
      rintro rfl
      simp only [advanced, Function.update_self] at at_pc pending
      rcases after with ended | ⟨-, effected, -⟩
      · rw [creating_of_over ended] at at_pc
        cases at_pc
      · rw [effected] at pending
        cases pending
    simp only [advanced, Function.update_of_ne hj] at at_pc pending
    rw [drawnIn_append, List.mem_append, not_or]
    refine ⟨O.pending j m at_pc pending, fun mem => ?_⟩
    obtain ⟨m', at_pc', same⟩ := new mem
    exact hj (S.accounted.unique j k m m' at_pc at_pc' same.symm)
  · obtain ⟨caps, indexed, next⟩ := inOrder_spec config ρ (O.few S)
    rw [inOrder_append]
    refine matched ρ ⟨caps.1.trans S.caps.1.symm, caps.2.trans S.caps.2.symm⟩ indexed
      (fun hc => ?_) (O.matched ρ names.init)
    rw [next, ← id, names.last hc]

/-- The log and the order after a step of caller `k`. -/
abbrev Goes (config : StreamConfig) (log : List Done) (s : Callers) (k : ℕ) : Prop :=
  ∃ order, Orders config (log ++ s.returns (.advance k) (s.advanced k)) (s.advanced k) order

/-- The call of caller `k` goes on. -/
theorem goOn (O : Orders config log s order) (next : (s.pc k).step s.router = (r, p))
    (ended : p.over = false) (effected : p.effected = (s.pc k).effected)
    (same : (s.pc k).effected → p.streamId = (s.pc k).streamId)
    (creating : ∀ m, p.creating = some m → (s.pc k).creating = some m ∨ m.streamId ∉ s.drawn)
    (matched : ∀ (ρ : Equiv.Perm String) (mappings' : DashMap String StreamMapping),
      Matches ρ s.router.mappings s.pc mappings' →
      Matches ρ r.mappings (Function.update s.pc k p) mappings') :
    Goes config log s k := by
  refine ⟨order, O.quiet (arranged_keep O.arranged ?_ ?_ ?_) ?_ ?_⟩
  · rw [next, ended]
  · rw [next, effected]
  · rwa [next]
  · rw [next]
    intro m at_pc pending
    rcases creating m at_pc with old | new
    · exact Or.inl ⟨old, effected ▸ pending⟩
    · exact Or.inr new
  · simp only [advanced, next]
    exact matched

/-- The call of caller `k` took effect and returns. -/
theorem goBack (O : Orders config log s order) (next : (s.pc k).step s.router = (r, p))
    (made : s.made k = [done]) (ended : p.over) (effected : (s.pc k).effected)
    (matched : ∀ (ρ : Equiv.Perm String) (mappings' : DashMap String StreamMapping),
      Matches ρ s.router.mappings s.pc mappings' →
      Matches ρ r.mappings (Function.update s.pc k p) mappings') :
    Goes config log s k := by
  refine ⟨order, O.quiet (arranged_return O.arranged made effected ?_) ?_ ?_⟩
  · rw [next, ended]
  · rw [next]
    intro m at_pc
    rw [creating_of_over ended] at at_pc
    cases at_pc
  · simp only [advanced, next]
    exact matched

theorem made_of_call {call : Call} (h : s.call k = some call) :
    s.made k = [⟨k, call, (s.pc k).streamId⟩] := by
  rw [made, h]

theorem number (S : Sound config s) (O : Orders config log s order) {now : Instant}
    {c methodName : String} {tx : ControllerTx} (hp : s.pc k = .numbering now d c methodName tx)
    (room : s.drawn.length < UInt64.size) : Goes config log s k := by
  have next : (s.pc k).step s.router = (s.router.counted,
      .trackingDevice ⟨s.router.nextStreamId, d, c, methodName, now, now, 0, tx⟩) := by
    rw [hp]
    rfl
  refine O.goOn next rfl (by rw [hp]; rfl) (by simp [hp, CallPc.effected]) ?_ ?_
  · intro m at_pc
    cases at_pc
    exact Or.inr (S.numbered.fresh room)
  · exact fun ρ mappings' M => M.keep (by simp [hp])

/-- A stream that is refused is refused after the calls in their order. -/
theorem refuse (S : Sound config s) (O : Orders config log s order)
    (next : (s.pc k).step s.router = (s.router, p)) (before : (s.pc k).effected = false)
    (after : p.over ∨ (p.over = false ∧ p.effected ∧ p.streamId = (s.pc k).streamId))
    (at_pc : (s.pc k).creating = some m) (held : p.held = (s.pc k).held)
    (call : s.call k = some (.createMapping m.createdAt m.deviceId m.controllerId m.methodName
      m.controllerTx))
    (full : ∀ (ρ : Equiv.Perm String) (r : StreamRouter), SameCaps s.router r → Indexed r →
      Matches ρ s.router.mappings s.pc r.mappings →
      (m.deviceId ∈ r.deviceToStreams ∧
        r.maxActiveStreams ≤ Index.count r.deviceToStreams m.deviceId) ∨
      (m.controllerId ∈ r.controllerToStreams ∧
        r.maxConcurrentStreamsPerController ≤
          Index.count r.controllerToStreams m.controllerId)) :
    Goes config log s k := by
  refine ⟨_, O.extend S (made_of_call call) before ?_ (fun _ => ⟨m, at_pc⟩)
    fun ρ caps indexed _ M => ?_⟩
  · rwa [next]
  · simp only [advanced, next]
    dsimp only [Call.rename, perform]
    rw [mappings_createMapping_of_full (full ρ _ caps indexed M)]
    exact M.keep held

theorem trackDevice (S : Sound config s) (O : Orders config log s order)
    (orderly : s.Orderly (.advance k)) (hp : s.pc k = .trackingDevice m) :
    Goes config log s k := by
  obtain ⟨call, activity, idle⟩ : Fits (s.call k) (.trackingDevice m) := hp ▸ S.fits k
  cases tracked : track s.router.deviceToStreams m.deviceId m.streamId
      s.router.maxActiveStreams with
  | error current =>
    have settled : ∀ sid, Index.Has s.router.deviceToStreams m.deviceId sid → s.Settled sid := by
      simp only [Orderly, hp] at orderly
      exact orderly current tracked
    have next : (s.pc k).step s.router = (s.router, .returned (.created (.error
        (maxStreamsExceeded "device" m.deviceId current s.router.maxActiveStreams)))) := by
      simp only [hp, CallPc.step, tracked]
    obtain ⟨mem, full⟩ := track_error tracked
    refine O.refuse S next (by rw [hp]; rfl) (Or.inl rfl) (by rw [hp]; rfl) (by rw [hp]; rfl) call
      fun ρ r caps indexed M => Or.inl ?_
    rw [caps.1]
    refine full_of_full (ρ := ρ) S.accounted.devices.noEmpty (fun sid has => ?_) mem full
    exact M.settled_device S.accounted indexed has (settled sid has).1 (settled sid has).2
  | ok devices =>
    have next : (s.pc k).step s.router =
        ({ s.router with deviceToStreams := devices }, .trackingController m) := by
      simp only [hp, CallPc.step, tracked]
    refine O.goOn next rfl (by rw [hp]; rfl) (by simp [hp, CallPc.effected]) (by simp [hp]) ?_
    exact fun ρ mappings' M => M.keep (by simp [hp])

theorem trackController (S : Sound config s) (O : Orders config log s order)
    (orderly : s.Orderly (.advance k)) (hp : s.pc k = .trackingController m) :
    Goes config log s k := by
  obtain ⟨call, activity, idle⟩ : Fits (s.call k) (.trackingController m) := hp ▸ S.fits k
  cases tracked : track s.router.controllerToStreams m.controllerId m.streamId
      s.router.maxConcurrentStreamsPerController with
  | error current =>
    have settled : ∀ sid, Index.Has s.router.controllerToStreams m.controllerId sid →
        s.Settled sid := by
      simp only [Orderly, hp] at orderly
      exact orderly current tracked
    have next : (s.pc k).step s.router = (s.router, .rollingBack m current) := by
      simp only [hp, CallPc.step, tracked]
    obtain ⟨mem, full⟩ := track_error tracked
    refine O.refuse S next (by rw [hp]; rfl) (Or.inr ⟨rfl, rfl, by rw [hp]; rfl⟩) (by rw [hp]; rfl)
      (by rw [hp]; rfl) call fun ρ r caps indexed M => Or.inr ?_
    rw [caps.2]
    refine full_of_full (ρ := ρ) S.accounted.controllers.noEmpty (fun sid has => ?_) mem full
    exact M.settled_controller S.accounted indexed has (settled sid has).1 (settled sid has).2
  | ok controllers =>
    have next : (s.pc k).step s.router =
        ({ s.router with controllerToStreams := controllers }, .inserting m) := by
      simp only [hp, CallPc.step, tracked]
    refine O.goOn next rfl (by rw [hp]; rfl) (by simp [hp, CallPc.effected]) (by simp [hp]) ?_
    exact fun ρ mappings' M => M.keep (by simp [hp])

theorem insert (S : Sound config s) (O : Orders config log s order)
    (hp : s.pc k = .inserting m)
    (has : Index.Has s.router.deviceToStreams m.deviceId m.streamId) : Goes config log s k := by
  obtain ⟨call, activity, idle⟩ : Fits (s.call k) (.inserting m) := hp ▸ S.fits k
  have at_pc : (s.pc k).creating = some m := by rw [hp]; rfl
  have next : (s.pc k).step s.router =
      ({ s.router with mappings := s.router.mappings.insert m.streamId m },
        .returned (.created (.ok m.streamId))) := by
    rw [hp]
    rfl
  refine ⟨_, O.extend S (made_of_call call) (by rw [hp]; rfl) (Or.inl (by rw [next]; rfl))
    (fun _ => ⟨m, at_pc⟩) fun ρ caps indexed name M => ?_⟩
  simp only [advanced, next]
  refine M.create S.accounted S.placed indexed caps hp has ?_ activity idle rfl
  rw [name rfl, hp]
  rfl

theorem rollBack (S : Sound config s) (O : Orders config log s order) {current : ℕ}
    (hp : s.pc k = .rollingBack m current) : Goes config log s k := by
  obtain ⟨call, activity, idle⟩ : Fits (s.call k) (.rollingBack m current) := hp ▸ S.fits k
  refine O.goBack (by rw [hp, CallPc.step]) (made_of_call call) rfl (by rw [hp]; rfl) ?_
  exact fun ρ mappings' M => M.keep (by simp [hp])

theorem remove (S : Sound config s) (O : Orders config log s order) (hp : s.pc k = .removing sid) :
    Goes config log s k := by
  have call : Fits (s.call k) (.removing sid) := hp ▸ S.fits k
  cases found : s.router.mappings.lookup sid with
  | none =>
    have next : (s.pc k).step s.router = (s.router, .returned (.removed none)) := by
      simp only [hp, CallPc.step, found]
    refine ⟨_, O.extend S (made_of_call call) (by rw [hp]; rfl) (Or.inl (by rw [next]; rfl))
      (by simp [Call.creates]) fun ρ caps indexed name M => ?_⟩
    simp only [advanced, next]
    rw [← DashMap.erase_of_lookup_none found]
    exact M.erase (by simp [hp]) (lookup_removeMapping _ (ρ sid))
  | some m =>
    have next : (s.pc k).step s.router =
        ({ s.router with mappings := s.router.mappings.erase sid }, .untrackingDevice sid m) := by
      simp only [hp, CallPc.step, found]
    refine ⟨_, O.extend S (made_of_call call) (by rw [hp]; rfl)
      (Or.inr (by rw [next, hp]; exact ⟨rfl, rfl, rfl⟩)) (by simp [Call.creates])
      fun ρ caps indexed name M => ?_⟩
    simp only [advanced, next]
    exact M.erase (by simp [hp]) (lookup_removeMapping _ (ρ sid))

theorem untrackDevice (O : Orders config log s order) (hp : s.pc k = .untrackingDevice sid m) :
    Goes config log s k := by
  refine O.goOn (by rw [hp, CallPc.step]) rfl (by rw [hp]; rfl) (fun _ => by rw [hp]; rfl)
    (by simp) ?_
  exact fun ρ mappings' M => M.keep (by simp [hp])

theorem untrackController (S : Sound config s) (O : Orders config log s order)
    (hp : s.pc k = .untrackingController sid m) : Goes config log s k := by
  have call : Fits (s.call k) (.untrackingController sid m) := hp ▸ S.fits k
  refine O.goBack (by rw [hp, CallPc.step]) (made_of_call call) rfl (by rw [hp]; rfl) ?_
  exact fun ρ mappings' M => M.keep (by simp [hp])

theorem take (S : Sound config s) (O : Orders config log s order) (hp : s.pc k = .taking d) :
    Goes config log s k := by
  have call : Fits (s.call k) (.taking d) := hp ▸ S.fits k
  cases found : s.router.deviceToStreams.lookup d with
  | none =>
    have next : (s.pc k).step s.router = (s.router, .returned (.removedAll [])) := by
      simp only [hp, CallPc.step, found]
    refine ⟨_, O.extend S (made_of_call call) (by rw [hp]; rfl) (Or.inl (by rw [next]; rfl))
      (by simp [Call.creates]) fun ρ caps indexed name M => ?_⟩
    simp only [advanced, next]
    refine M.take S.accounted S.placed indexed fun sid => ?_
    rw [held_update_of_same (by simp [hp])]
    refine ⟨Or.inl, fun h => h.resolve_right fun has => ?_⟩
    exact AList.lookup_eq_none.1 found (Index.mem_of_has has)
  | some ids =>
    have next : (s.pc k).step s.router =
        ({ s.router with deviceToStreams := s.router.deviceToStreams.erase d },
          .sweeping ids.keys []) := by
      simp only [hp, CallPc.step, found]
    refine ⟨_, O.extend S (made_of_call call) (by rw [hp]; rfl)
      (Or.inr (by rw [next, hp]; exact ⟨rfl, rfl, rfl⟩)) (by simp [Call.creates])
      fun ρ caps indexed name M => ?_⟩
    simp only [advanced, next]
    refine M.take S.accounted S.placed indexed fun sid => ?_
    rw [held_update, Index.Has, Index.ids_of_lookup found, or_comm]
    refine or_congr ⟨?_, ?_⟩ Iff.rfl
    · rintro ⟨j, -, h⟩
      exact ⟨j, h⟩
    · rintro ⟨j, h⟩
      refine ⟨j, ?_, h⟩
      rintro rfl
      rw [hp] at h
      cases h

theorem sweep (S : Sound config s) (O : Orders config log s order) {ids : List String}
    {removed : List StreamMapping} (hp : s.pc k = .sweeping ids removed) :
    Goes config log s k := by
  obtain ⟨d, call⟩ : Fits (s.call k) (.sweeping ids removed) := hp ▸ S.fits k
  cases ids with
  | nil =>
    refine O.goBack (by rw [hp, CallPc.step]) (made_of_call call) rfl (by rw [hp]; rfl) ?_
    exact fun ρ mappings' M => M.keep (by simp [hp])
  | cons sid ids =>
    cases found : s.router.mappings.lookup sid with
    | none =>
      have next : (s.pc k).step s.router = (s.router, .sweeping ids removed) := by
        simp only [hp, CallPc.step, found]
      refine O.goOn next rfl (by rw [hp]; rfl) (fun _ => by rw [hp]; rfl) (by simp) ?_
      intro ρ mappings' M
      rw [← DashMap.erase_of_lookup_none found]
      exact M.sweep (by simp [hp])
    | some m =>
      have next : (s.pc k).step s.router =
          ({ s.router with mappings := s.router.mappings.erase sid },
            .untrackingSwept sid m ids removed) := by
        simp only [hp, CallPc.step, found]
      refine O.goOn next rfl (by rw [hp]; rfl) (fun _ => by rw [hp]; rfl) (by simp) ?_
      exact fun ρ mappings' M => M.sweep (by simp [hp])

theorem untrackSwept (O : Orders config log s order) {ids : List String}
    {removed : List StreamMapping} (hp : s.pc k = .untrackingSwept sid m ids removed) :
    Goes config log s k := by
  refine O.goOn (by rw [hp, CallPc.step]) rfl (by rw [hp]; rfl) (fun _ => by rw [hp]; rfl)
    (by simp) ?_
  exact fun ρ mappings' M => M.keep (by simp [hp])

/-- Every orderly step of a call under way keeps an order. -/
theorem advance (S : Sound config s) (O : Orders config log s order)
    (orderly : s.Orderly (.advance k)) (running : (s.pc k).over = false) :
    Goes config log s k := by
  cases hp : s.pc k with
  | numbering => exact O.number S hp (by rwa [Orderly, hp] at orderly)
  | trackingDevice => exact O.trackDevice S orderly hp
  | trackingController => exact O.trackController S orderly hp
  | rollingBack => exact O.rollBack S hp
  | inserting => exact O.insert S hp (by rwa [Orderly, hp] at orderly)
  | removing => exact O.remove S hp
  | untrackingDevice => exact O.untrackDevice hp
  | untrackingController => exact O.untrackController S hp
  | taking => exact O.take S hp
  | sweeping => exact O.sweep S hp
  | untrackingSwept => exact O.untrackSwept hp
  | returned =>
    rw [hp] at running
    cases running

theorem invoke (O : Orders config log s order) {call : Call} (entry : call.entry = some p)
    (ended : (s.pc k).over) : Orders config log (s.invoked k call p) order := by
  have idle : p.effected = false ∧ p.creating = none ∧ p.held = [] := by
    cases call <;> cases entry <;> exact ⟨rfl, rfl, rfl⟩
  have held : (s.pc k).held = [] := by
    cases h : s.pc k <;> rw [h] at ended <;> first | rfl | cases ended
  refine ⟨O.arranged.keep fun j => ?_, O.nodup, O.drawn, fun j m at_pc pending => ?_,
    fun ρ names => (O.matched ρ names).keep (by rw [idle.2.2, held])⟩
  · by_cases hj : j = k
    · simp [hj, taken, invoked, idle.1, effected_of_over ended]
    · simp [hj, taken, invoked, made]
  · by_cases hj : j = k
    · simp only [hj, invoked, Function.update_self, idle.2.1] at at_pc
      cases at_pc
    · simp only [invoked, Function.update_of_ne hj] at at_pc pending
      exact O.pending j m at_pc pending

end Orders

/-- In every orderly run the calls have an order. -/
theorem sound_and_ordered (run : Logged step Orderly returns (.init config) log s) :
    Sound config s ∧ ∃ order, Orders config log s order := by
  refine run.invariant (I := fun log s => Sound config s ∧ ∃ order, Orders config log s order)
    ⟨.init config, [], .init config⟩ ?_
  rintro log s a s' - ⟨S, order, O⟩ orderly hs
  rcases step_cases hs with ⟨k, call, p, rfl, entry, ended, rfl⟩ | ⟨k, rfl, running, rfl⟩
  · refine ⟨S.invoke entry ended, order, ?_⟩
    rw [returns, List.append_nil]
    exact O.invoke entry ended
  · exact ⟨S.advance orderly, O.advance S orderly running⟩

/-- When all calls have returned, the maps are those of the same calls one after the other, up to
the names of the streams drawn, and every stream stored is in the set of its device. -/
structure Linearizable (config : StreamConfig) (log : List Done) (s : Callers) : Prop where
  order : s.AllReturned → ∃ order, SameOrders Done.caller log order ∧
    ∃ ρ : Equiv.Perm String, (∀ sid, sid ∉ s.drawn → ρ sid = sid) ∧
      SameMaps ρ s.router (inOrder config ρ order)
  listed : s.AllReturned → ∀ sid m, s.router.mappings.lookup sid = some m →
    Index.Has s.router.deviceToStreams m.deviceId sid

/-- When all calls have returned, an index has the streams stored and no others. -/
theorem has_iff_of_over {pc : ℕ → CallPc} {index : Index String String}
    {mappings : DashMap String StreamMapping} {f : StreamMapping → String}
    {tracked : CallPc → Option StreamMapping} {left : CallPc → Option (String × StreamMapping)}
    (L : Listed index mappings pc f tracked left)
    (listed : ∀ sid m, mappings.lookup sid = some m → index.Has (f m) sid)
    (none : ∀ k, tracked (pc k) = none ∧ left (pc k) = none) (key sid : String) :
    index.Has key sid ↔ ∃ m, mappings.lookup sid = some m ∧ f m = key := by
  constructor
  · intro h
    cases L.has key sid h with
    | stored m found own => exact ⟨m, found, own⟩
    | tracked k m at_pc own id => cases (none k).1.symm.trans at_pc
    | left k m at_pc own => cases (none k).2.symm.trans at_pc
  · rintro ⟨m, found, rfl⟩
    exact listed sid m found

/-- Indexes of the same streams under other names are the same up to the names. -/
theorem sameIndex {ρ : Equiv.Perm String} {index index' : Index String String}
    {mappings mappings' : DashMap String StreamMapping} {f : StreamMapping → String}
    (own : ∀ m : StreamMapping, f (m.rename ρ) = f m) (filed : Filed index mappings f)
    (filed' : Filed index' mappings' f)
    (same : ∀ sid, mappings'.lookup (ρ sid) = (mappings.lookup sid).map (·.rename ρ)) :
    SameIndex ρ index index' := by
  have has (key sid : String) : index'.Has key (ρ sid) ↔ index.Has key sid := by
    rw [filed.has, filed'.has, same]
    simp [own]
  refine ⟨fun key => ⟨fun mem => ?_, fun mem => ?_⟩, has⟩
  · obtain ⟨sid, h⟩ := filed'.noEmpty key mem
    rw [← ρ.apply_symm_apply sid, has] at h
    exact Index.mem_of_has h
  · obtain ⟨sid, h⟩ := filed.noEmpty key mem
    exact Index.mem_of_has ((has key sid).2 h)

/-- If a stream is stored only while its id is in the set of its device, and refused only because of
streams that are stored and stay so, the calls of the router are linearizable. -/
theorem router_is_linearizable (config : StreamConfig)
    (run : Logged step Orderly returns (.init config) log s) : Linearizable config log s := by
  obtain ⟨S, order, O⟩ := sound_and_ordered run
  have unheld (ended : s.AllReturned) (sid : String) : ¬ Held s.pc sid := by
    rintro ⟨k, h⟩
    obtain ⟨result, hp⟩ := CallPc.over_cases (ended k)
    rw [hp] at h
    cases h
  have listed (ended : s.AllReturned) (sid : String) (m : StreamMapping)
      (found : s.router.mappings.lookup sid = some m) :
      Index.Has s.router.deviceToStreams m.deviceId sid :=
    S.placed.devices.listed sid m found (unheld ended sid)
  refine ⟨fun ended => ?_, listed⟩
  have none (k : ℕ) : (s.pc k).deviceTracked = none ∧ (s.pc k).controllerTracked = none ∧
      (s.pc k).deviceLeft = none ∧ (s.pc k).controllerLeft = none ∧ s.taken k = [] := by
    have untaken : s.taken k = [] := by
      rw [taken, effected_of_over (ended k), if_neg Bool.false_ne_true]
    refine ⟨?_, ?_, ?_, ?_, untaken⟩ <;>
      (obtain ⟨result, hp⟩ := CallPc.over_cases (ended k); rw [hp]; rfl)
  refine ⟨order, O.arranged.sameOrders fun k => (none k).2.2.2.2, ?_⟩
  have drawn : (Tickets.drawn "strm-" UInt64.size (drawnIn order).length).Nodup :=
    nodup_drawn (O.few S)
  obtain ⟨ρ, names, rest⟩ := exists_perm O.nodup drawn (length_drawn ..).symm
  refine ⟨ρ, fun sid new => rest sid (fun mem => new (O.drawn sid mem)) fun mem => new ?_, ?_⟩
  · rw [S.numbered.drawn]
    exact drawn_subset (O.nodup.subperm O.drawn).length_le mem
  · have M := O.matched ρ names
    obtain ⟨-, indexed, -⟩ := inOrder_spec config ρ (O.few S)
    have same (sid : String) := M.free sid (unheld ended sid)
    exact ⟨same,
      sameIndex (fun _ => rfl) ⟨has_iff_of_over S.accounted.devices (listed ended)
        fun k => ⟨(none k).1, (none k).2.2.1⟩, S.accounted.devices.noEmpty⟩ indexed.devices same,
      sameIndex (fun _ => rfl) ⟨has_iff_of_over S.accounted.controllers S.placed.controllers.listed
        fun k => ⟨(none k).2.1, (none k).2.2.2.1⟩, S.accounted.controllers.noEmpty⟩
        indexed.controllers same⟩

/-! ## Small runs -/

namespace Small

/-- Two callers and no others. -/
def Two (s : Callers) : Prop := ∀ k, 2 ≤ k → (s.pc k).over = true

/-- The step is one of callers 0 and 1. -/
def ofTwo : CallAction → Bool
  | .invoke k _ | .advance k => k < 2

theorem two_of_step (J : Two s) (two : ofTwo a = true) (h : s.step a = some s') : Two s' := by
  intro j hj
  rcases step_cases h with ⟨k, call, p, rfl, entry, ended, rfl⟩ | ⟨k, rfl, running, rfl⟩
  all_goals
    have other : j ≠ k := by
      rintro rfl
      simp only [ofTwo, decide_eq_true_eq] at two
      omega
    simp only [invoked, advanced, Function.update_of_ne other]
    exact J j hj

/-- Neither of the two callers has a call under way. -/
def twoReturned (s : Callers) : Bool := (s.pc 0).over && (s.pc 1).over

theorem allReturned (J : Two s) (h : twoReturned s = true) : s.AllReturned := by
  rw [twoReturned, Bool.and_eq_true] at h
  intro k
  match k with
  | 0 => exact h.1
  | 1 => exact h.2
  | k + 2 => exact J (k + 2) (by omega)

/-- One stream for each device and each controller. -/
def one : StreamConfig := ⟨60, 1, 1⟩

/-- The set of the device is taken between the two steps of `create_mapping` that add the stream to
it and store the stream. -/
def takenRun : List CallAction :=
  [.invoke 0 (.createMapping 0 "d" "c" "M" 0), .advance 0, .advance 0,
    .invoke 1 (.removeAllForDevice "d"), .advance 1, .advance 1, .advance 1,
    .advance 0, .advance 0]

/-- The second stream of a controller is refused, but before it is taken from the set of its device
another stream of the device is refused because of it. -/
def refusedRun : List CallAction :=
  [.invoke 0 (.createMapping 0 "e" "c" "M" 0), .advance 0, .advance 0, .advance 0, .advance 0,
    .invoke 1 (.createMapping 0 "d" "c" "M" 1), .advance 1, .advance 1, .advance 1,
    .invoke 0 (.createMapping 0 "d" "b" "M" 2), .advance 0, .advance 0, .advance 1]

/-- The calls that `refusedRun` makes. -/
def refusedCalls : List Done :=
  [⟨0, .createMapping 0 "e" "c" "M" 0, "strm-1"⟩, ⟨0, .createMapping 0 "d" "b" "M" 2, "strm-3"⟩,
    ⟨1, .createMapping 0 "d" "c" "M" 1, "strm-2"⟩]

/-- Creations do not depend on the names of streams. -/
theorem inOrder_creations (config : StreamConfig) (ρ : String → String) {order : List Done}
    (creations : ∀ done ∈ order, done.call.creates) :
    inOrder config ρ order = inOrder config id order := by
  unfold inOrder
  congr 2
  refine List.map_congr_left fun done mem => ?_
  have creates := creations done mem
  cases h : done.call <;> rw [h] at creates <;> first | rfl | cases creates

/-- A step that meets the conditions, if there are two callers. -/
def orderly (s : Callers) (a : CallAction) : Bool :=
  ofTwo a && match a with
  | .invoke _ _ => true
  | .advance k =>
    match s.pc k with
    | .numbering .. => s.drawn.length < UInt64.size
    | .trackingDevice m => (Index.ids s.router.deviceToStreams m.deviceId).keys.all (settled s)
    | .trackingController m =>
      (Index.ids s.router.controllerToStreams m.controllerId).keys.all (settled s)
    | .inserting m => m.streamId ∈ (Index.ids s.router.deviceToStreams m.deviceId).keys
    | _ => true
where
  settled (s : Callers) (sid : String) : Bool :=
    (s.router.mappings.lookup sid).isSome && sid ∉ (s.pc 0).held && sid ∉ (s.pc 1).held

theorem ofTwo_of_orderly (h : orderly s a = true) : ofTwo a = true := by
  unfold orderly at h
  exact (Bool.and_eq_true_iff.1 h).1

theorem settled_sound (J : Two s) (h : orderly.settled s sid = true) : s.Settled sid := by
  simp only [orderly.settled, Bool.and_eq_true, decide_eq_true_eq] at h
  refine ⟨AList.lookup_isSome.1 h.1.1, ?_⟩
  rintro ⟨k, held⟩
  match k with
  | 0 => exact h.1.2 held
  | 1 => exact h.2 held
  | k + 2 =>
    obtain ⟨result, hp⟩ := CallPc.over_cases (J (k + 2) (by omega))
    rw [hp] at held
    cases held

theorem orderly_sound (J : Two s) (h : orderly s a = true) : s.Orderly a := by
  cases a with
  | invoke k call => exact trivial
  | advance k =>
    rw [orderly, Bool.and_eq_true] at h
    replace h := h.2
    unfold Orderly
    dsimp only at h ⊢
    split
    · rename_i hp
      rw [hp] at h
      exact of_decide_eq_true h
    · rename_i m hp
      rw [hp] at h
      intro current _ sid has
      exact settled_sound J (List.all_eq_true.1 h sid has)
    · rename_i m hp
      rw [hp] at h
      intro current _ sid has
      exact settled_sound J (List.all_eq_true.1 h sid has)
    · rename_i m hp
      rw [hp] at h
      exact AList.mem_keys.2 (of_decide_eq_true h)
    · exact trivial

/-- Two streams are created at once; then one of them is removed while all streams of its device
are, and another stream of the controller of the other is refused. -/
def orderlyRun : List CallAction :=
  [.invoke 0 (.createMapping 0 "d" "b" "M" 0), .invoke 1 (.createMapping 0 "e" "c" "M" 1),
    .advance 1, .advance 0, .advance 0, .advance 0, .advance 1, .advance 1, .advance 1,
    .advance 0,
    .invoke 0 (.removeAllForDevice "d"), .invoke 1 (.removeMapping "strm-2"), .advance 0,
    .advance 1, .advance 0, .advance 1, .advance 1, .advance 0,
    .invoke 0 (.createMapping 0 "d" "c" "M" 2), .advance 0, .advance 0, .advance 0, .advance 0]

end Small

/-- A stream that is stored after the set of its device was taken is in no set. -/
theorem stored_stream_survives_removal :
    ∃ log s, Logged step (fun _ _ => True) returns (.init Small.one) log s ∧ s.AllReturned ∧
      ("strm-1" ∈ s.router.mappings ∧
        ¬ Index.Has s.router.deviceToStreams "d" "strm-1") ∧
      ¬ ∃ order, order.Perm log ∧ ∃ ρ : Equiv.Perm String,
        SameMaps ρ s.router (inOrder Small.one ρ order) := by
  obtain ⟨⟨log, s⟩, run, hf⟩ : ∃ out, executeLogged step (fun _ a => Small.ofTwo a) returns []
      (.init Small.one) Small.takenRun = some out ∧
      (Small.twoReturned out.2, out.1.length, out.2.router.mappings.lookup "strm-1",
        out.2.router.deviceToStreams.keys) =
        (true, 2, some ⟨"strm-1", "d", "c", "M", 0, 0, 0, 0⟩, []) :=
    Option.map_eq_some_iff.1 (by decide +kernel)
  simp only [Prod.mk.injEq] at hf
  obtain ⟨returned, length, found, empty⟩ := hf
  obtain ⟨logged, J⟩ : Logged step (fun _ _ => True) returns (.init Small.one) log s ∧
      Small.Two s :=
    Logged.of_executeLogged_keeping (fun _ _ _ _ => trivial)
      (fun _ _ _ J h hs => Small.two_of_step J h hs) _ .start (fun _ _ => rfl) run
  have unlisted : ¬ Index.Has s.router.deviceToStreams "d" "strm-1" := by
    intro has
    have mem := AList.mem_keys.1 (Index.mem_of_has has)
    rw [empty] at mem
    cases mem
  refine ⟨log, s, logged, Small.allReturned J returned, ⟨?_, unlisted⟩, ?_⟩
  · exact AList.lookup_isSome.1 (by rw [found]; rfl)
  · rintro ⟨order, perm, ρ, maps⟩
    -- After calls one after the other every stream is in the set of its device.
    have few : (drawnIn order).length ≤ UInt64.size := by
      refine (List.length_filterMap_le ..).trans ?_
      rw [perm.length_eq, length]
      decide
    obtain ⟨-, indexed, -⟩ := inOrder_spec Small.one ρ few
    have stored := maps.mappings "strm-1"
    rw [found] at stored
    exact unlisted ((maps.devices.has _ _).1 ((indexed.devices.has _ _).2 ⟨_, stored, rfl⟩))

/-- A stream that is only being rolled back makes another one be refused. -/
theorem refused_by_passing_stream :
    ∃ log s, Logged step (fun _ _ => True) returns (.init Small.one) log s ∧ s.AllReturned ∧
      (∀ sid m, s.router.mappings.lookup sid = some m →
        Index.Has s.router.deviceToStreams m.deviceId sid) ∧
      ¬ ∃ order, order.Perm log ∧ ∃ ρ : Equiv.Perm String,
        SameMaps ρ s.router (inOrder Small.one ρ order) := by
  obtain ⟨⟨log, s⟩, run, hf⟩ : ∃ out, executeLogged step (fun _ a => Small.ofTwo a) returns []
      (.init Small.one) Small.refusedRun = some out ∧
      (out.1, Small.twoReturned out.2,
        out.2.router.mappings.entries.map fun entry => (entry.1, entry.2.deviceId),
        (Index.ids out.2.router.deviceToStreams "e").keys) =
        (Small.refusedCalls, true, [("strm-1", "e")], ["strm-1"]) :=
    Option.map_eq_some_iff.1 (by decide +kernel)
  simp only [Prod.mk.injEq] at hf
  obtain ⟨rfl, returned, mappings, ids⟩ := hf
  obtain ⟨logged, J⟩ : Logged step (fun _ _ => True) returns (.init Small.one)
      Small.refusedCalls s ∧ Small.Two s :=
    Logged.of_executeLogged_keeping (fun _ _ _ _ => trivial)
      (fun _ _ _ J h hs => Small.two_of_step J h hs) _ .start (fun _ _ => rfl) run
  have only (sid : String) (m : StreamMapping) (found : s.router.mappings.lookup sid = some m) :
      sid = "strm-1" ∧ m.deviceId = "e" := by
    have mem := List.mem_map_of_mem (f := fun entry => (entry.1, entry.2.deviceId))
      ((DashMap.mem_entries_iff _ _ _).2 found)
    rw [mappings, List.mem_singleton] at mem
    exact Prod.mk.inj mem
  refine ⟨_, s, logged, Small.allReturned J returned, fun sid m found => ?_, ?_⟩
  · obtain ⟨rfl, own⟩ := only sid m found
    rw [own, Index.Has, AList.mem_keys, ids]
    exact List.mem_singleton.2 rfl
  · rintro ⟨order, perm, ρ, maps⟩
    -- In every order of the calls a stream of device `d` is stored.
    have stored : ∀ order ∈ Small.refusedCalls.permutations',
        ∃ entry ∈ (inOrder Small.one id order).mappings.entries, entry.2.deviceId = "d" := by
      decide +kernel
    obtain ⟨⟨sid, m⟩, mem, device⟩ := stored order (List.mem_permutations'.2 perm)
    have creations : ∀ done ∈ order, done.call.creates := fun done mem =>
      (by decide : ∀ done ∈ Small.refusedCalls, done.call.creates) done (perm.subset mem)
    have found := maps.mappings (ρ.symm sid)
    rw [Small.inOrder_creations _ _ creations, ρ.apply_symm_apply,
      (DashMap.mem_entries_iff _ _ _).1 mem] at found
    obtain ⟨m', found', rfl⟩ := Option.map_eq_some_iff.1 found.symm
    have other := (only _ m' found').2.symm.trans device
    simp at other

/-- A stream is removed both by its caller and with its device, and another one refused. -/
theorem streams_removed_at_once :
    ∃ log s, Logged step Orderly returns (.init Small.one) log s ∧ s.AllReturned ∧
      log.map (·.caller) = [1, 0, 1, 0, 0] ∧ s.router.mappings.keys = ["strm-1"] ∧
      Linearizable Small.one log s := by
  obtain ⟨⟨log, s⟩, run, hf⟩ : ∃ out, executeLogged step Small.orderly returns []
      (.init Small.one) Small.orderlyRun = some out ∧
      (Small.twoReturned out.2, out.1.map (·.caller), out.2.router.mappings.keys) =
        (true, [1, 0, 1, 0, 0], ["strm-1"]) :=
    Option.map_eq_some_iff.1 (by decide +kernel)
  simp only [Prod.mk.injEq] at hf
  obtain ⟨logged, J⟩ : Logged step Orderly returns (.init Small.one) log s ∧ Small.Two s :=
    Logged.of_executeLogged_keeping (fun _ _ => Small.orderly_sound)
      (fun _ _ _ J h hs => Small.two_of_step J (Small.ofTwo_of_orderly h) hs) _ .start
      (fun _ _ => rfl) run
  exact ⟨log, s, logged, Small.allReturned J hf.1, hf.2.1, hf.2.2,
    router_is_linearizable Small.one logged⟩

end Callers

end StreamRouter

end GrpcRelay
