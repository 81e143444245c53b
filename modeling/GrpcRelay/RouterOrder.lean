import GrpcRelay.RouterCalls
import GrpcRelay.Lib.Runs

/-!
# Interleaved calls of the stream router

Any number of callers make calls of the router, whose operations are interleaved in any way
(`Callers.step`).  `Orderly` excludes the two races that leave traces in the maps:

* a stream is stored although a `remove_all_for_device` took the set of its device after its id had
  been added to it;
* a stream is refused because of streams that are themselves only being created or removed.

Without the first of them the streams that are stored are in their sets (`Placed`).
-/

namespace GrpcRelay

namespace StreamRouter

/-! ## Calls and callers -/

/-- Where a call starts; the other calls are single operations. -/
def Call.entry : Call → Option CallPc
  | .createMapping now d c methodName tx => some (.numbering now d c methodName tx)
  | .removeMapping sid => some (.removing sid)
  | .removeAllForDevice d => some (.taking d)
  | _ => none

/-- The call has returned. -/
def CallPc.over : CallPc → Bool
  | .returned _ => true
  | _ => false

theorem CallPc.over_cases {p : CallPc} (h : p.over) : ∃ result, p = .returned result := by
  cases p <;> first | exact ⟨_, rfl⟩ | cases h

/-- A `remove_all_for_device` under way has still to remove the stream. -/
def Held (pc : ℕ → CallPc) (sid : String) : Prop := ∃ k, sid ∈ (pc k).held

/-- The router with its callers: the last call of each and where it stands, and the stream ids that
were drawn. -/
structure Callers where
  router : StreamRouter
  call : ℕ → Option Call
  pc : ℕ → CallPc
  drawn : List String

/-- No call has been made. -/
def Callers.init (config : StreamConfig) : Callers where
  router := .new config
  call := fun _ => none
  pc := fun _ => .returned (.removedAll [])
  drawn := []

/-- A step of the callers. -/
inductive CallAction where
  /-- Caller `k` makes a call. -/
  | invoke (k : ℕ) (call : Call)
  /-- The call of caller `k` makes its next operation. -/
  | advance (k : ℕ)
  deriving DecidableEq

namespace Callers

/-- One step: a call begins when the one before it has returned, and makes one operation at a time.
-/
def step (s : Callers) : CallAction → Option Callers
  | .invoke k call =>
    if (s.pc k).over then
      call.entry.map fun pc =>
        { s with
          call := Function.update s.call k (some call)
          pc := Function.update s.pc k pc }
    else none
  | .advance k =>
    if (s.pc k).over then none
    else
      some { s with
        router := ((s.pc k).step s.router).1
        pc := Function.update s.pc k ((s.pc k).step s.router).2
        drawn := s.drawn ++ (s.pc k).draws s.router }

end Callers

/-- A call that was made: by whom, and the stream id that it drew, if it is `create_mapping`. -/
structure Done where
  caller : ℕ
  call : Call
  streamId : String
  deriving DecidableEq

/-- The stream id that the call has drawn. -/
def CallPc.streamId (pc : CallPc) : String := (pc.creating.map (·.streamId)).getD ""

namespace Callers

/-- The call of caller `k`, as long as it is under way. -/
def made (s : Callers) (k : ℕ) : List Done :=
  match s.call k with
  | some call => [⟨k, call, (s.pc k).streamId⟩]
  | none => []

/-- The call that returns with a step. -/
def returns (s : Callers) (a : CallAction) (s' : Callers) : List Done :=
  match a with
  | .advance k => if (s'.pc k).over then s.made k else []
  | .invoke _ _ => []

/-- The stream is stored, and not about to be removed. -/
def Settled (s : Callers) (sid : String) : Prop := sid ∈ s.router.mappings ∧ ¬ Held s.pc sid

/-- The next stream id is among the first 2^64; a stream is refused because of streams that are
settled; and a stream is stored only if its id is in the set of its device. -/
def Orderly (s : Callers) : CallAction → Prop
  | .advance k =>
    match s.pc k with
    | .numbering .. => s.drawn.length < UInt64.size
    | .trackingDevice m => ∀ current,
        track s.router.deviceToStreams m.deviceId m.streamId s.router.maxActiveStreams =
          .error current →
        ∀ sid, Index.Has s.router.deviceToStreams m.deviceId sid → s.Settled sid
    | .trackingController m => ∀ current,
        track s.router.controllerToStreams m.controllerId m.streamId
          s.router.maxConcurrentStreamsPerController = .error current →
        ∀ sid, Index.Has s.router.controllerToStreams m.controllerId sid → s.Settled sid
    | .inserting m => Index.Has s.router.deviceToStreams m.deviceId m.streamId
    | _ => True
  | .invoke _ _ => True

/-- No call is under way. -/
def AllReturned (s : Callers) : Prop := ∀ k, (s.pc k).over = true

end Callers

/-! ## Stored streams are in their sets -/

variable {r : StreamRouter} {pc : ℕ → CallPc} {k : ℕ} {p : CallPc} {sid d c : String}
  {m : StreamMapping} {mappings mappings' : DashMap String StreamMapping}
  {index : Index String String} {cap : ℕ} {drawn : List String}

theorem held_update :
    Held (Function.update pc k p) sid ↔ sid ∈ p.held ∨ ∃ j, j ≠ k ∧ sid ∈ (pc j).held := by
  constructor
  · rintro ⟨j, h⟩
    rcases Locals.mem_of_update h with ⟨-, h⟩ | ⟨hj, h⟩
    · exact Or.inl h
    · exact Or.inr ⟨j, hj, h⟩
  · rintro (h | ⟨j, hj, h⟩)
    · exact ⟨k, by rwa [Function.update_self]⟩
    · exact ⟨j, by rwa [Function.update_of_ne hj]⟩

theorem held_update_of_same (same : p.held = (pc k).held) :
    Held (Function.update pc k p) sid ↔ Held pc sid := by
  rw [held_update, same]
  constructor
  · rintro (h | ⟨j, -, h⟩)
    · exact ⟨k, h⟩
    · exact ⟨j, h⟩
  · rintro ⟨j, h⟩
    by_cases hj : j = k
    · exact Or.inl (hj ▸ h)
    · exact Or.inr ⟨j, hj, h⟩

/-- A set takes an id if it is new or has room for it. -/
theorem room_insert (room : ∀ key, index.count key ≤ max cap 1)
    (tracked : d ∈ index → index.count d < cap) (key : String) :
    (index.insert d sid).count key ≤ max cap 1 := by
  by_cases hd : key = d
  · subst hd
    refine Index.count_insert_le.trans ?_
    by_cases mem : key ∈ index
    · exact (Nat.succ_le_of_lt (tracked mem)).trans (le_max_left _ _)
    · rw [Index.count_eq_zero_of_not_mem mem]
      exact le_max_right _ _
  · rw [Index.count_insert_of_ne hd]
    exact room key

/-- The streams that are stored are in the sets of their devices, unless they are about to be
removed, and no set is too large. -/
structure InDevices (index : Index String String) (cap : ℕ)
    (mappings : DashMap String StreamMapping) (pc : ℕ → CallPc) : Prop where
  listed : ∀ sid m, mappings.lookup sid = some m → ¬ Held pc sid → index.Has m.deviceId sid
  room : ∀ d, index.count d ≤ max cap 1

namespace InDevices

/-- Streams become fewer. -/
theorem shrink (L : InDevices index cap mappings pc)
    (stored : ∀ sid m, mappings'.lookup sid = some m → mappings.lookup sid = some m)
    (held : ∀ sid m, mappings'.lookup sid = some m → Held pc sid →
      Held (Function.update pc k p) sid) :
    InDevices index cap mappings' (Function.update pc k p) where
  listed sid m found free := L.listed sid m (stored sid m found) fun h => free (held sid m found h)
  room := L.room

theorem track (L : InDevices index cap mappings pc) (same : p.held = (pc k).held)
    (tracked : d ∈ index → index.count d < cap) :
    InDevices (index.insert d sid) cap mappings (Function.update pc k p) where
  listed sid' m found free :=
    Index.has_insert.2 (Or.inr (L.listed sid' m found fun h =>
      free ((held_update_of_same same).2 h)))
  room := room_insert L.room tracked

/-- The id of a stream that is not stored is taken from a set. -/
theorem remove (L : InDevices index cap mappings pc) (same : p.held = (pc k).held)
    (absent : mappings.lookup sid = none) :
    InDevices (index.remove d sid) cap mappings (Function.update pc k p) where
  listed sid' m found free := by
    refine Index.has_remove.2 ⟨L.listed sid' m found fun h =>
      free ((held_update_of_same same).2 h), ?_⟩
    rintro ⟨-, rfl⟩
    cases absent.symm.trans found
  room d' := (Index.count_le fun _ h => (Index.has_remove.1 h).1).trans (L.room d')

/-- A stream whose id is in the set of its device is stored. -/
theorem store (L : InDevices index cap mappings pc) (same : p.held = (pc k).held)
    (has : index.Has m.deviceId m.streamId) :
    InDevices index cap (mappings.insert m.streamId m) (Function.update pc k p) where
  listed sid' m' found free := by
    rw [DashMap.lookup_insert_ite] at found
    split_ifs at found with hs
    · cases found
      exact hs ▸ has
    · exact L.listed sid' m' found fun h => free ((held_update_of_same same).2 h)
  room := L.room

/-- The set of a device is taken. -/
theorem take (L : InDevices index cap mappings pc) (none : (pc k).held = [])
    (held : ∀ sid, index.Has d sid → sid ∈ p.held) :
    InDevices (AList.erase d index) cap mappings (Function.update pc k p) where
  listed sid' m found free := by
    have old : ¬ Held pc sid' := by
      rintro ⟨j, h⟩
      have hj : j ≠ k := by
        rintro rfl
        rw [none] at h
        cases h
      exact free (held_update.2 (Or.inr ⟨j, hj, h⟩))
    have has := L.listed sid' m found old
    refine Index.has_erase.2 ⟨?_, has⟩
    rintro rfl
    exact free (held_update.2 (Or.inl (held sid' has)))
  room d' := (Index.count_le fun _ h => (Index.has_erase.1 h).2).trans (L.room d')

end InDevices

/-- The streams that are stored, and those about to be, are in the sets of their controllers, and no
set is too large. -/
structure InControllers (index : Index String String) (cap : ℕ)
    (mappings : DashMap String StreamMapping) (pc : ℕ → CallPc) : Prop where
  listed : ∀ sid m, mappings.lookup sid = some m → index.Has m.controllerId sid
  inserting : ∀ k m, (pc k).controllerTracked = some m → index.Has m.controllerId m.streamId
  room : ∀ c, index.count c ≤ max cap 1

namespace InControllers

/-- Streams become fewer. -/
theorem shrink (L : InControllers index cap mappings pc)
    (stored : ∀ sid m, mappings'.lookup sid = some m → mappings.lookup sid = some m)
    (tracked : p.controllerTracked = none) :
    InControllers index cap mappings' (Function.update pc k p) where
  listed sid m found := L.listed sid m (stored sid m found)
  inserting j m h := by
    rcases Locals.of_update h with ⟨-, h⟩ | ⟨-, h⟩
    · cases tracked.symm.trans h
    · exact L.inserting j m h
  room := L.room

theorem track (L : InControllers index cap mappings pc) (at_pc : p.controllerTracked = some m)
    (tracked : m.controllerId ∈ index → index.count m.controllerId < cap) :
    InControllers (index.insert m.controllerId m.streamId) cap mappings
      (Function.update pc k p) where
  listed sid m' found := Index.has_insert.2 (Or.inr (L.listed sid m' found))
  inserting j m' h := by
    rcases Locals.of_update h with ⟨-, h⟩ | ⟨-, h⟩
    · cases at_pc.symm.trans h
      exact Index.has_insert.2 (Or.inl ⟨rfl, rfl⟩)
    · exact Index.has_insert.2 (Or.inr (L.inserting j m' h))
  room := room_insert L.room tracked

theorem store (L : InControllers index cap mappings pc)
    (at_pc : (pc k).controllerTracked = some m) (ended : p.controllerTracked = none) :
    InControllers index cap (mappings.insert m.streamId m) (Function.update pc k p) where
  listed sid m' found := by
    rw [DashMap.lookup_insert_ite] at found
    split_ifs at found with hs
    · cases found
      exact hs ▸ L.inserting k m at_pc
    · exact L.listed sid m' found
  inserting j m' h := by
    rcases Locals.of_update h with ⟨-, h⟩ | ⟨-, h⟩
    · cases ended.symm.trans h
    · exact L.inserting j m' h
  room := L.room

/-- The id of a stream that is neither stored nor about to be is taken from a set. -/
theorem remove (L : InControllers index cap mappings pc)
    (absent : mappings.lookup sid = none)
    (others : ∀ j m, (pc j).creating = some m → m.streamId ≠ sid)
    (ended : p.controllerTracked = none) :
    InControllers (index.remove c sid) cap mappings (Function.update pc k p) where
  listed sid' m found := by
    refine Index.has_remove.2 ⟨L.listed sid' m found, ?_⟩
    rintro ⟨-, rfl⟩
    cases absent.symm.trans found
  inserting j m h := by
    rcases Locals.of_update h with ⟨-, h⟩ | ⟨-, h⟩
    · cases ended.symm.trans h
    · refine Index.has_remove.2 ⟨L.inserting j m h, fun same => ?_⟩
      exact others j m (CallPc.creating_of_controllerTracked h) same.2
  room c' := (Index.count_le fun _ h => (Index.has_remove.1 h).1).trans (L.room c')

end InControllers

/-- The limits are never changed. -/
theorem CallPc.caps_step (r : StreamRouter) (p : CallPc) :
    (p.step r).1.maxActiveStreams = r.maxActiveStreams ∧
      (p.step r).1.maxConcurrentStreamsPerController = r.maxConcurrentStreamsPerController := by
  cases p with
  | sweeping ids removed =>
    cases ids with
    | nil => exact ⟨rfl, rfl⟩
    | cons sid ids =>
      dsimp only [step]
      split <;> exact ⟨rfl, rfl⟩
  | trackingDevice | trackingController | removing | taking =>
    dsimp only [step]
    split <;> exact ⟨rfl, rfl⟩
  | _ => exact ⟨rfl, rfl⟩

/-- The streams of the router and the callers are where they belong. -/
structure Placed (r : StreamRouter) (pc : ℕ → CallPc) : Prop where
  devices : InDevices r.deviceToStreams r.maxActiveStreams r.mappings pc
  controllers : InControllers r.controllerToStreams r.maxConcurrentStreamsPerController r.mappings
    pc

namespace Placed

/-- A call starts, or makes a step that changes nothing. -/
theorem move (L : Placed r pc) (same : p.held = (pc k).held)
    (tracked : p.controllerTracked = none) : Placed r (Function.update pc k p) :=
  ⟨L.devices.shrink (fun _ _ h => h) fun _ _ _ h => (held_update_of_same same).2 h,
    L.controllers.shrink (fun _ _ h => h) tracked⟩

theorem trackDevice (L : Placed r pc) (hp : pc k = .trackingDevice m) :
    Placed ((pc k).step r).1 (Function.update pc k ((pc k).step r).2) := by
  rw [hp]
  dsimp only [CallPc.step]
  split
  · exact L.move (by simp [hp]) rfl
  · rename_i devices tracked
    obtain ⟨rfl, room⟩ := track_ok tracked
    exact ⟨L.devices.track (by simp [hp]) room, L.controllers.shrink (fun _ _ h => h) rfl⟩

theorem trackController (L : Placed r pc) (hp : pc k = .trackingController m) :
    Placed ((pc k).step r).1 (Function.update pc k ((pc k).step r).2) := by
  rw [hp]
  dsimp only [CallPc.step]
  split
  · exact L.move (by simp [hp]) rfl
  · rename_i controllers tracked
    obtain ⟨rfl, room⟩ := track_ok tracked
    refine ⟨L.devices.shrink (fun _ _ h => h) fun _ _ _ h => ?_, L.controllers.track rfl room⟩
    exact (held_update_of_same (by simp [hp])).2 h

theorem rollBack (A : Accounted r pc drawn) (L : Placed r pc) {current : ℕ}
    (hp : pc k = .rollingBack m current) :
    Placed ((pc k).step r).1 (Function.update pc k ((pc k).step r).2) := by
  have fresh := (A.creating k m (by simp [hp])).2
  rw [hp]
  dsimp only [CallPc.step]
  rw [untrack_eq]
  exact ⟨L.devices.remove (by simp [hp]) fresh, L.controllers.shrink (fun _ _ h => h) rfl⟩

theorem insert (L : Placed r pc) (hp : pc k = .inserting m)
    (has : Index.Has r.deviceToStreams m.deviceId m.streamId) :
    Placed ((pc k).step r).1 (Function.update pc k ((pc k).step r).2) := by
  rw [hp]
  dsimp only [CallPc.step]
  exact ⟨L.devices.store (by simp [hp]) has, L.controllers.store (by simp [hp]) rfl⟩

theorem remove (L : Placed r pc) (hp : pc k = .removing sid) :
    Placed ((pc k).step r).1 (Function.update pc k ((pc k).step r).2) := by
  rw [hp]
  dsimp only [CallPc.step]
  split
  · exact L.move (by simp [hp]) rfl
  · have stored (sid' : String) (m : StreamMapping)
        (h : (r.mappings.erase sid).lookup sid' = some m) : r.mappings.lookup sid' = some m := by
      rw [DashMap.lookup_erase_ite] at h
      split_ifs at h
      exact h
    refine ⟨L.devices.shrink stored fun _ _ _ h => ?_, L.controllers.shrink stored rfl⟩
    exact (held_update_of_same (by simp [hp])).2 h

theorem untrackDevice (A : Accounted r pc drawn) (L : Placed r pc)
    (hp : pc k = .untrackingDevice sid m) :
    Placed ((pc k).step r).1 (Function.update pc k ((pc k).step r).2) := by
  have absent := (A.left k sid m (by simp [hp])).2.1
  rw [hp]
  dsimp only [CallPc.step]
  rw [untrack_eq]
  exact ⟨L.devices.remove (by simp [hp]) absent, L.controllers.shrink (fun _ _ h => h) rfl⟩

theorem untrackController (A : Accounted r pc drawn) (L : Placed r pc)
    (hp : pc k = .untrackingController sid m) :
    Placed ((pc k).step r).1 (Function.update pc k ((pc k).step r).2) := by
  obtain ⟨-, absent, others⟩ := A.left k sid m (by simp [hp])
  rw [hp]
  dsimp only [CallPc.step]
  rw [untrack_eq]
  refine ⟨L.devices.shrink (fun _ _ h => h) fun _ _ _ h => ?_,
    L.controllers.remove absent others rfl⟩
  exact (held_update_of_same (by simp [hp])).2 h

theorem take (L : Placed r pc) (hp : pc k = .taking d) :
    Placed ((pc k).step r).1 (Function.update pc k ((pc k).step r).2) := by
  rw [hp]
  dsimp only [CallPc.step]
  split
  · exact L.move (by simp [hp]) rfl
  · rename_i ids found
    refine ⟨L.devices.take (by simp [hp]) fun sid h => ?_,
      L.controllers.shrink (fun _ _ h => h) rfl⟩
    rwa [Index.Has, Index.ids_of_lookup found] at h

theorem sweep (L : Placed r pc) {ids : List String} {removed : List StreamMapping}
    (hp : pc k = .sweeping ids removed) :
    Placed ((pc k).step r).1 (Function.update pc k ((pc k).step r).2) := by
  rw [hp]
  cases ids with
  | nil =>
    dsimp only [CallPc.step]
    exact L.move (by simp [hp]) rfl
  | cons sid ids =>
    -- The ids that are left are those of streams other than `sid`.
    have held {p : CallPc} (hh : p.held = ids) {sid' : String} (other : sid' ≠ sid)
        (h : Held pc sid') : Held (Function.update pc k p) sid' := by
      obtain ⟨j, h⟩ := h
      by_cases hj : j = k
      · rw [hj, hp] at h
        refine held_update.2 (Or.inl (hh ▸ ?_))
        exact (List.mem_cons.1 h).resolve_left other
      · exact held_update.2 (Or.inr ⟨j, hj, h⟩)
    dsimp only [CallPc.step]
    split
    · rename_i absent
      refine ⟨L.devices.shrink (fun _ _ h => h) fun sid' m found h => held rfl ?_ h,
        L.controllers.shrink (fun _ _ h => h) rfl⟩
      rintro rfl
      cases absent.symm.trans found
    · have stored (sid' : String) (m : StreamMapping)
          (h : (r.mappings.erase sid).lookup sid' = some m) :
          sid' ≠ sid ∧ r.mappings.lookup sid' = some m := by
        rw [DashMap.lookup_erase_ite] at h
        split_ifs at h with hs
        exact ⟨hs, h⟩
      exact ⟨L.devices.shrink (fun sid' m h => (stored sid' m h).2) fun sid' m found h =>
        held rfl (stored sid' m found).1 h,
        L.controllers.shrink (fun sid' m h => (stored sid' m h).2) rfl⟩

theorem untrackSwept (A : Accounted r pc drawn) (L : Placed r pc) {ids : List String}
    {removed : List StreamMapping} (hp : pc k = .untrackingSwept sid m ids removed) :
    Placed ((pc k).step r).1 (Function.update pc k ((pc k).step r).2) := by
  obtain ⟨-, absent, others⟩ := A.left k sid m (by simp [hp])
  rw [hp]
  dsimp only [CallPc.step]
  rw [untrack_eq]
  refine ⟨L.devices.shrink (fun _ _ h => h) fun _ _ _ h => ?_,
    L.controllers.remove absent others rfl⟩
  exact (held_update_of_same (by simp [hp])).2 h

/-- Every operation keeps the streams where they belong, if a stream is stored only while its id is
in the set of its device. -/
theorem step (A : Accounted r pc drawn) (L : Placed r pc) (k : ℕ)
    (listed : ∀ m, pc k = .inserting m → Index.Has r.deviceToStreams m.deviceId m.streamId) :
    Placed ((pc k).step r).1 (Function.update pc k ((pc k).step r).2) := by
  cases hp : pc k <;> rw [← hp]
  case numbering now d c methodName tx =>
    rw [hp]
    have moved : Placed r (Function.update pc k
        (CallPc.step r (.numbering now d c methodName tx)).2) :=
      L.move (by simp [hp, CallPc.step]) rfl
    exact ⟨moved.devices, moved.controllers⟩
  case trackingDevice m => exact L.trackDevice hp
  case trackingController m => exact L.trackController hp
  case rollingBack m current => exact rollBack A L hp
  case inserting m => exact L.insert hp (listed m hp)
  case removing sid => exact L.remove hp
  case untrackingDevice sid m => exact untrackDevice A L hp
  case untrackingController sid m => exact untrackController A L hp
  case taking d => exact L.take hp
  case sweeping ids removed => exact L.sweep hp
  case untrackingSwept sid m ids removed => exact untrackSwept A L hp
  case returned result =>
    rw [hp, CallPc.step]
    exact L.move (by simp [hp]) rfl

end Placed

end StreamRouter

end GrpcRelay
