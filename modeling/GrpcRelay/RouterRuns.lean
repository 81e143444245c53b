import GrpcRelay.RouterOrder
import GrpcRelay.Lib.Linearize

/-!
# The stream router after calls in an order

The streams of interleaved calls are drawn in another order than those of the same calls one after
the other, so they have other names; a permutation of all names leads from the one to the other
(`SameMaps`).  In the middle of a run the streams stored are those of the calls that have taken
effect, but for the streams that a `remove_all_for_device` has still to remove (`Matches`): each
lemma here says how a call that takes effect keeps that.
-/

namespace GrpcRelay

/-- The stream under another name. -/
def StreamMapping.rename (ρ : String → String) (m : StreamMapping) : StreamMapping :=
  { m with streamId := ρ m.streamId }

namespace StreamRouter

open Linearize Tickets

/-! ## Names -/

/-- The call with other names of streams. -/
def Call.rename (ρ : String → String) : Call → Call
  | .createMapping now d c methodName tx => .createMapping now d c methodName tx
  | .removeMapping sid => .removeMapping (ρ sid)
  | .removeAllForDevice d => .removeAllForDevice d
  | .touchStream sid now => .touchStream (ρ sid) now
  | .beginRequest sid now => .beginRequest (ρ sid) now
  | .finishRequest sid now => .finishRequest (ρ sid) now
  | .cleanupStale now => .cleanupStale now

/-- The same sets of the same keys, under other names of streams. -/
structure SameIndex (ρ : String → String) (index index' : Index String String) : Prop where
  keys : ∀ key, key ∈ index' ↔ key ∈ index
  has : ∀ key sid, index'.Has key (ρ sid) ↔ index.Has key sid

/-- The same maps, under other names of streams. -/
structure SameMaps (ρ : String → String) (r r' : StreamRouter) : Prop where
  mappings : ∀ sid, r'.mappings.lookup (ρ sid) = (r.mappings.lookup sid).map (·.rename ρ)
  devices : SameIndex ρ r.deviceToStreams r'.deviceToStreams
  controllers : SameIndex ρ r.controllerToStreams r'.controllerToStreams

/-- The router after the calls one after the other, with the streams under other names. -/
def inOrder (config : StreamConfig) (ρ : String → String) (order : List Done) : StreamRouter :=
  (performAll (.new config) (order.map fun done => done.call.rename ρ)).2

variable {config : StreamConfig} {ρ : Equiv.Perm String} {r r' : StreamRouter} {pc : ℕ → CallPc}
  {k : ℕ} {p : CallPc} {sid d c : String} {m : StreamMapping} {log order : List Done}
  {drawn : List String}

/-- The stream id that a call drew. -/
def Done.newId (done : Done) : Option String :=
  if done.call.creates then some done.streamId else none

/-- The stream ids that calls drew, in their order. -/
def drawnIn (order : List Done) : List String := order.filterMap Done.newId

/-- The permutation gives the streams the names that they get when the calls are made one after the
other. -/
def Names (ρ : Equiv.Perm String) (order : List Done) : Prop :=
  (drawnIn order).map ρ = Tickets.drawn "strm-" UInt64.size (drawnIn order).length

theorem drawnIn_append (order order' : List Done) :
    drawnIn (order ++ order') = drawnIn order ++ drawnIn order' :=
  List.filterMap_append ..

theorem creations_rename (ρ : String → String) (order : List Done) :
    creations (order.map fun done => done.call.rename ρ) = (drawnIn order).length := by
  induction order with
  | nil => rfl
  | cons done order ih =>
    have same : (done.call.rename ρ).creates = done.call.creates := by
      cases done.call <;> rfl
    rw [List.map_cons, creations, List.countP_cons, ← creations, ih, same, drawnIn, drawnIn]
    cases h : done.call.creates <;> simp [Done.newId, h]

/-- The first names are right if all are. -/
theorem Names.init {done : Done} (h : Names ρ (order ++ [done])) : Names ρ order := by
  unfold Names at h ⊢
  rw [drawnIn_append, List.map_append, List.length_append] at h
  cases hd : done.newId with
  | none =>
    have none : drawnIn [done] = [] := by simp [drawnIn, hd]
    simpa [none] using h
  | some sid =>
    have one : drawnIn [done] = [sid] := by simp [drawnIn, hd]
    rw [one, List.length_singleton, drawn_succ] at h
    exact (List.append_inj' h rfl).1

/-- The name of the stream drawn last. -/
theorem Names.last {done : Done} (h : Names ρ (order ++ [done])) (creates : done.call.creates) :
    ρ done.streamId = ticket "strm-" (((drawnIn order).length + 1) % UInt64.size) := by
  have one : drawnIn [done] = [done.streamId] := by simp [drawnIn, Done.newId, creates]
  unfold Names at h
  rw [drawnIn_append, List.map_append, List.length_append, one, List.length_singleton,
    drawn_succ] at h
  exact List.singleton_inj.1 (List.append_inj' h rfl).2

/-! ## The router after the calls in their order -/

theorem inOrder_append (config : StreamConfig) (ρ : String → String) (order : List Done)
    (done : Done) : inOrder config ρ (order ++ [done]) =
      ((inOrder config ρ order).perform (done.call.rename ρ)).2 := by
  rw [inOrder, performAll, List.map_append, List.foldl_append]
  rfl

/-- The two routers have the same limits. -/
def SameCaps (r r' : StreamRouter) : Prop :=
  r'.maxActiveStreams = r.maxActiveStreams ∧
    r'.maxConcurrentStreamsPerController = r.maxConcurrentStreamsPerController

theorem SameCaps.trans {r'' : StreamRouter} (h : SameCaps r r') (h' : SameCaps r' r'') :
    SameCaps r r'' :=
  ⟨h'.1.trans h.1, h'.2.trans h.2⟩

theorem CallPc.Leads.sameCaps {now next : StreamRouter × CallPc} (h : CallPc.Leads now next) :
    SameCaps now.1 next.1 := by
  obtain ⟨n, rfl⟩ := h
  induction n with
  | zero => exact ⟨rfl, rfl⟩
  | succ n ih =>
    rw [Function.iterate_succ_apply']
    exact ih.trans (CallPc.caps_step _ _)

theorem sameCaps_perform (r : StreamRouter) (call : Call) : SameCaps r (r.perform call).2 := by
  cases call with
  | createMapping now d c methodName tx =>
    exact (CallPc.leads_createMapping now d c methodName tx).sameCaps
  | removeMapping sid => exact (CallPc.leads_removeMapping sid).sameCaps
  | removeAllForDevice d => exact (CallPc.leads_removeAllForDevice d).sameCaps
  | touchStream | beginRequest | finishRequest => exact ⟨rfl, rfl⟩
  | cleanupStale now =>
    dsimp only [perform, cleanupStale]
    suffices h : ∀ acc : List StreamMapping × StreamRouter, SameCaps r acc.2 →
        SameCaps r ((r.staleStreams now).foldl removeStale acc).2 from h _ ⟨rfl, rfl⟩
    induction r.staleStreams now with
    | nil => exact fun acc h => h
    | cons sid stale ih =>
      intro acc h
      refine ih _ (h.trans ?_)
      have := (CallPc.leads_removeMapping (r := acc.2) sid).sameCaps
      unfold removeStale
      split <;> rename_i h <;> rwa [h] at this

variable (config) in
/-- The router after the calls one after the other has the limits of its configuration, the streams
are in their sets, and the next stream id is the one after those drawn. -/
theorem inOrder_spec (ρ : String → String) (few : (drawnIn order).length ≤ UInt64.size) :
    SameCaps (.new config) (inOrder config ρ order) ∧ Indexed (inOrder config ρ order) ∧
      (inOrder config ρ order).nextStreamId =
        ticket "strm-" (((drawnIn order).length + 1) % UInt64.size) := by
  have start : Issued 0 [] (.new config) :=
    ⟨.new config, rfl, fun sid mem => absurd mem (AList.notMem_empty sid), List.Sublist.refl _⟩
  have I := Issued.performAll (order.map fun done => done.call.rename ρ) ([], .new config) start
    (by rwa [Nat.zero_add, creations_rename])
  rw [Nat.zero_add, creations_rename] at I
  refine ⟨?_, I.indexed, congrArg (ticket "strm-") I.counter⟩
  clear I few
  induction order using List.reverseRecOn with
  | nil => exact ⟨rfl, rfl⟩
  | append_singleton order done ih =>
    rw [inOrder_append]
    exact ih.trans (sameCaps_perform _ _)

/-! ## The streams of the callers in the order of their calls -/

/-- The streams stored, but for those about to be removed, are those of `mappings'` under other
names. -/
structure Matches (ρ : String → String) (mappings : DashMap String StreamMapping)
    (pc : ℕ → CallPc) (mappings' : DashMap String StreamMapping) : Prop where
  held : ∀ sid, Held pc sid → mappings'.lookup (ρ sid) = none
  free : ∀ sid, ¬ Held pc sid →
    mappings'.lookup (ρ sid) = (mappings.lookup sid).map (·.rename ρ)

variable {mappings mappings' mappings'' : DashMap String StreamMapping}

namespace Matches

theorem keep (M : Matches ρ mappings pc mappings') (same : p.held = (pc k).held) :
    Matches ρ mappings (Function.update pc k p) mappings' where
  held sid h := M.held sid ((held_update_of_same same).1 h)
  free sid h := M.free sid fun old => h ((held_update_of_same same).2 old)

/-- A stream is stored. -/
theorem store (M : Matches ρ mappings pc mappings') (same : p.held = (pc k).held)
    (unheld : ¬ Held pc m.streamId) :
    Matches ρ (mappings.insert m.streamId m) (Function.update pc k p)
      (mappings'.insert (ρ m.streamId) (m.rename ρ)) where
  held sid h := by
    rw [held_update_of_same same] at h
    have other : ρ sid ≠ ρ m.streamId := fun eq => by
      rw [ρ.injective eq] at h
      exact unheld h
    rw [DashMap.lookup_insert_ite, if_neg other, M.held sid h]
  free sid h := by
    rw [held_update_of_same same] at h
    rw [DashMap.lookup_insert_ite, DashMap.lookup_insert_ite, M.free sid h]
    by_cases hs : sid = m.streamId
    · rw [if_pos (congrArg ρ hs), if_pos hs]
      rfl
    · rw [if_neg fun eq => hs (ρ.injective eq), if_neg hs]

/-- A stream is removed. -/
theorem erase (M : Matches ρ mappings pc mappings') (same : p.held = (pc k).held)
    (removed : ∀ sid', mappings''.lookup sid' =
      if sid' = ρ sid then none else mappings'.lookup sid') :
    Matches ρ (mappings.erase sid) (Function.update pc k p) mappings'' where
  held sid' h := by
    rw [held_update_of_same same] at h
    rw [removed, M.held sid' h, ite_self]
  free sid' h := by
    rw [held_update_of_same same] at h
    rw [removed, DashMap.lookup_erase_ite, M.free sid' h]
    by_cases hs : sid' = sid
    · rw [if_pos (congrArg ρ hs), if_pos hs]
      rfl
    · rw [if_neg fun eq => hs (ρ.injective eq), if_neg hs]

/-- The mapping of the next id of a set that was taken is removed, if there is one. -/
theorem sweep (M : Matches ρ mappings pc mappings') (held : (pc k).held = sid :: p.held) :
    Matches ρ (mappings.erase sid) (Function.update pc k p) mappings' := by
  have old {sid' : String} (h : Held (Function.update pc k p) sid') : Held pc sid' := by
    rcases held_update.1 h with h | ⟨j, -, h⟩
    · exact ⟨k, held ▸ List.mem_cons_of_mem _ h⟩
    · exact ⟨j, h⟩
  refine ⟨fun sid' h => M.held sid' (old h), fun sid' h => ?_⟩
  rw [DashMap.lookup_erase_ite]
  split_ifs with hs
  · rw [hs, M.held sid ⟨k, held ▸ List.mem_cons_self⟩]
    rfl
  · refine M.free sid' ?_
    rintro ⟨j, mem⟩
    by_cases hj : j = k
    · rw [hj, held] at mem
      exact h (held_update.2 (Or.inl ((List.mem_cons.1 mem).resolve_left hs)))
    · exact h (held_update.2 (Or.inr ⟨j, hj, mem⟩))

/-- The set of a device is taken, with all streams of the device. -/
theorem take (A : Accounted r pc drawn) (L : Placed r pc) (I : Indexed r')
    (M : Matches ρ r.mappings pc r'.mappings) {pc' : ℕ → CallPc}
    (held : ∀ sid, Held pc' sid ↔ Held pc sid ∨ Index.Has r.deviceToStreams d sid) :
    Matches ρ r.mappings pc' (r'.removeAllForDevice d).2.mappings where
  held sid h := by
    rw [I.lookup_removeAllForDevice]
    by_cases old : Held pc sid
    · rw [M.held sid old]
      rfl
    · have has := ((held sid).1 h).resolve_left old
      rw [M.free sid old]
      cases found : r.mappings.lookup sid with
      | none => rfl
      | some m => simp [Option.filter, StreamMapping.rename, A.device_of_stored has found]
  free sid h := by
    have old : ¬ Held pc sid := fun old => h ((held sid).2 (Or.inl old))
    rw [I.lookup_removeAllForDevice, M.free sid old]
    cases found : r.mappings.lookup sid with
    | none => rfl
    | some m =>
      have other : m.deviceId ≠ d := by
        rintro rfl
        exact h ((held sid).2 (Or.inr (L.devices.listed sid m found old)))
      simp [Option.filter, StreamMapping.rename, other]

/-- A stream of the router after the calls in their order is stored under another name. -/
theorem stored (M : Matches ρ mappings pc mappings') {m' : StreamMapping}
    (found' : mappings'.lookup sid = some m') :
    ∃ m, mappings.lookup (ρ.symm sid) = some m ∧ m.rename ρ = m' ∧ ¬ Held pc (ρ.symm sid) := by
  rw [← ρ.apply_symm_apply sid] at found'
  have unheld : ¬ Held pc (ρ.symm sid) := fun held => by
    cases (M.held _ held).symm.trans found'
  obtain ⟨m, found, renamed⟩ := Option.map_eq_some_iff.1 ((M.free _ unheld).symm.trans found')
  exact ⟨m, found, renamed, unheld⟩

end Matches

variable {index index' : Index String String} {key : String} {cap : ℕ}

/-- A set that is not too large and has one more stream than another leaves room for it there. -/
theorem room_of_more (noEmpty : index'.NoEmpty)
    (old : ∀ sid', index'.Has key sid' → index.Has key (ρ.symm sid') ∧ ρ.symm sid' ≠ sid)
    (more : index.Has key sid) (room : index.count key ≤ max cap 1) (mem : key ∈ index') :
    index'.count key < cap := by
  obtain ⟨sid', has⟩ := noEmpty key mem
  have positive := Index.count_pos has
  have fewer := Index.count_lt_of_injective ρ.symm.injective (fun sid' h => (old sid' h).1) more
    fun sid' h => (old sid' h).2
  omega

/-- A set with all the streams of a full one is full. -/
theorem full_of_full (noEmpty : index.NoEmpty)
    (new : ∀ sid, index.Has key sid → index'.Has key (ρ sid)) (mem : key ∈ index)
    (full : cap ≤ index.count key) : key ∈ index' ∧ cap ≤ index'.count key := by
  obtain ⟨sid, has⟩ := noEmpty key mem
  exact ⟨Index.mem_of_has (new sid has),
    full.trans (Index.count_le_of_injective ρ.injective new)⟩

namespace Matches

/-- `create_mapping` that stores its stream does so after the calls in their order. -/
theorem create (A : Accounted r pc drawn) (L : Placed r pc) (I : Indexed r')
    (caps : SameCaps r r') (M : Matches ρ r.mappings pc r'.mappings)
    (hp : pc k = .inserting m) (has : Index.Has r.deviceToStreams m.deviceId m.streamId)
    (name : r'.nextStreamId = ρ m.streamId) (activity : m.lastActivity = m.createdAt)
    (idle : m.activeRequests = 0) (same : p.held = []) :
    Matches ρ (r.mappings.insert m.streamId m) (Function.update pc k p)
      (r'.createMapping m.createdAt m.deviceId m.controllerId m.methodName
        m.controllerTx).2.mappings := by
  have fresh := (A.creating k m (by simp [hp])).2
  have other {sid' : String} {m' : StreamMapping}
      (found : r.mappings.lookup (ρ.symm sid') = some m') : ρ.symm sid' ≠ m.streamId := by
    intro eq
    rw [eq] at found
    cases fresh.symm.trans found
  rw [mappings_createMapping_of_room]
  · have new : r'.newMapping m.createdAt m.deviceId m.controllerId m.methodName m.controllerTx =
        m.rename ρ := by
      rw [newMapping, name, StreamMapping.rename, activity, idle]
    rw [new, name]
    refine M.store (by rw [same, hp]; rfl) ?_
    rintro ⟨j, held⟩
    exact (A.swept j _ held).2.1 _ has
  · rw [caps.1]
    refine room_of_more (ρ := ρ) I.devices.noEmpty (fun sid' h => ?_) has (L.devices.room _)
    obtain ⟨m', found', own⟩ := (I.devices.has _ sid').1 h
    obtain ⟨m₀, found, rfl, unheld⟩ := M.stored found'
    exact ⟨own ▸ L.devices.listed _ m₀ found unheld, other found⟩
  · rw [caps.2]
    refine room_of_more (ρ := ρ) I.controllers.noEmpty (fun sid' h => ?_)
      (L.controllers.inserting k m (by simp [hp])) (L.controllers.room _)
    obtain ⟨m', found', own⟩ := (I.controllers.has _ sid').1 h
    obtain ⟨m₀, found, rfl, unheld⟩ := M.stored found'
    exact ⟨own ▸ L.controllers.listed _ m₀ found, other found⟩

/-- A stream that is settled is in the set of its device after the calls in their order. -/
theorem settled_device (A : Accounted r pc drawn) (I : Indexed r')
    (M : Matches ρ r.mappings pc r'.mappings) (has : Index.Has r.deviceToStreams d sid)
    (mem : sid ∈ r.mappings) (unheld : ¬ Held pc sid) :
    Index.Has r'.deviceToStreams d (ρ sid) := by
  obtain ⟨m, found⟩ := Option.isSome_iff_exists.1 (AList.lookup_isSome.2 mem)
  have own : m.deviceId = d := A.device_of_stored has found
  refine (I.devices.has d _).2 ⟨m.rename ρ, ?_, own⟩
  rw [M.free sid unheld, found]
  rfl

theorem settled_controller (A : Accounted r pc drawn) (I : Indexed r')
    (M : Matches ρ r.mappings pc r'.mappings) (has : Index.Has r.controllerToStreams c sid)
    (mem : sid ∈ r.mappings) (unheld : ¬ Held pc sid) :
    Index.Has r'.controllerToStreams c (ρ sid) := by
  obtain ⟨m, found⟩ := Option.isSome_iff_exists.1 (AList.lookup_isSome.2 mem)
  have own : m.controllerId = c := A.controller_of_stored has found
  refine (I.controllers.has c _).2 ⟨m.rename ρ, ?_, own⟩
  rw [M.free sid unheld, found]
  rfl

end Matches

end StreamRouter

end GrpcRelay
