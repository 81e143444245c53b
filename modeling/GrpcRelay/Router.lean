import GrpcRelay.Stream
import GrpcRelay.Lib.Index
import GrpcRelay.Lib.Tickets

/-!
# The indexes of the stream router

The sets of stream ids by device and by controller are indexes of the mappings: a stream is filed
under the device and the controller of its mapping and nowhere else.  Every call keeps that
(`Indexed`), as long as the stream ids differ; a sequence of calls draws them from a counter that
wraps around after 2^64 of them (`router_is_indexed`).
-/

namespace GrpcRelay

open Tickets

namespace StreamRouter

/-! ## Tracking -/

variable {index index' : Index String String} {key streamId : String} {cap : ℕ}

theorem untrack_eq (index : Index String String) (key streamId : String) :
    untrack index key streamId = index.remove key streamId := by
  unfold untrack Index.remove
  split <;> rename_i h <;> simp only [h]

/-- A stream that is let in is filed under its key, which had no streams or fewer than `cap`. -/
theorem track_ok (h : track index key streamId cap = .ok index') :
    index' = index.insert key streamId ∧ (key ∈ index → index.count key < cap) := by
  unfold track at h
  split at h
  · rename_i ids found
    have same := Index.ids_of_lookup found
    split_ifs at h with full
    cases h
    exact ⟨by rw [Index.insert, same], fun _ => by rw [Index.count, same]; omega⟩
  · rename_i absent
    cases h
    refine ⟨?_, fun mem => absurd mem (AList.lookup_eq_none.1 absent)⟩
    rw [Index.insert, Index.ids, absent]
    rfl

/-- A stream is refused when its key has `cap` streams. -/
theorem track_error {current : ℕ} (h : track index key streamId cap = .error current) :
    key ∈ index ∧ cap ≤ index.count key := by
  unfold track at h
  split at h
  · rename_i ids found
    split_ifs at h with full
    refine ⟨AList.lookup_isSome.1 (by rw [found]; rfl), ?_⟩
    rwa [Index.count, Index.ids_of_lookup found]
  · cases h

/-- A key with fewer than `cap` streams lets a stream in. -/
theorem track_of_room (room : key ∈ index → index.count key < cap) :
    track index key streamId cap = .ok (index.insert key streamId) := by
  cases h : track index key streamId cap with
  | error current =>
    obtain ⟨mem, full⟩ := track_error h
    exact absurd (room mem) (by omega)
  | ok index' => rw [(track_ok h).1]

/-- A key with `cap` streams lets none in. -/
theorem track_of_full (mem : key ∈ index) (full : cap ≤ index.count key) :
    ∃ current, track index key streamId cap = .error current := by
  cases h : track index key streamId cap with
  | error current => exact ⟨current, rfl⟩
  | ok index' => exact absurd ((track_ok h).2 mem) (by omega)

/-! ## Calls -/

/-- What a stream is filed under. -/
structure Filed (index : Index String String) (mappings : DashMap String StreamMapping)
    (key : StreamMapping → String) : Prop where
  has : ∀ k sid, index.Has k sid ↔ ∃ m, mappings.lookup sid = some m ∧ key m = k
  noEmpty : index.NoEmpty

/-- A stream is filed under the device and the controller of its mapping and nowhere else. -/
structure Indexed (r : StreamRouter) : Prop where
  streamId : ∀ sid m, r.mappings.lookup sid = some m → m.streamId = sid
  devices : Filed r.deviceToStreams r.mappings (·.deviceId)
  controllers : Filed r.controllerToStreams r.mappings (·.controllerId)

variable {mappings mappings' : DashMap String StreamMapping} {f : StreamMapping → String}
  {m : StreamMapping}

namespace Filed

/-- A new stream is filed under its key. -/
theorem insert (F : Filed index mappings f) (fresh : mappings.lookup streamId = none) :
    Filed (index.insert (f m) streamId) (mappings.insert streamId m) f := by
  refine ⟨fun k sid => ?_, Index.noEmpty_insert F.noEmpty⟩
  rw [Index.has_insert, F.has, DashMap.lookup_insert_ite]
  split_ifs with hs
  · subst hs
    simp [fresh, eq_comm]
  · simp [hs]

/-- A stream is removed from the mappings and from its key. -/
theorem remove (F : Filed index mappings f) (found : mappings.lookup streamId = some m) :
    Filed (index.remove (f m) streamId) (mappings.erase streamId) f := by
  refine ⟨fun k sid => ?_, Index.noEmpty_remove F.noEmpty⟩
  rw [Index.has_remove, F.has, DashMap.lookup_erase_ite]
  split_ifs with hs
  · subst hs
    simp [found, eq_comm]
  · simp [hs]

/-- Mappings may change but for their keys. -/
theorem congr (F : Filed index mappings f)
    (same : ∀ sid, (mappings'.lookup sid).map f = (mappings.lookup sid).map f) :
    Filed index mappings' f := by
  refine ⟨fun k sid => ?_, F.noEmpty⟩
  rw [F.has]
  have := same sid
  cases h : mappings.lookup sid <;> cases h' : mappings'.lookup sid <;> simp_all

/-- An id that was filed and taken back leaves the index as it was. -/
theorem rollback (F : Filed index mappings f) (fresh : mappings.lookup streamId = none) :
    Filed ((index.insert key streamId).remove key streamId) mappings f := by
  refine ⟨fun k sid => ?_, Index.noEmpty_remove (Index.noEmpty_insert F.noEmpty)⟩
  rw [Index.has_remove, Index.has_insert, ← F.has]
  constructor
  · rintro ⟨same | old, other⟩
    · exact absurd same other
    · exact old
  · intro old
    refine ⟨Or.inr old, ?_⟩
    rintro ⟨rfl, rfl⟩
    obtain ⟨m, hm, -⟩ := (F.has k sid).1 old
    rw [fresh] at hm
    cases hm

end Filed

variable {r : StreamRouter} {now : Instant} {d c methodName : String} {tx : ControllerTx}

/-- The stream id that is drawn next. -/
def nextStreamId (r : StreamRouter) : String := ticket "strm-" r.counter

/-- The router with the counter moved on. -/
def counted (r : StreamRouter) : StreamRouter :=
  { r with counter := (r.counter + 1) % UInt64.size }

/-- The mapping of a new stream. -/
def newMapping (r : StreamRouter) (now : Instant) (d c methodName : String) (tx : ControllerTx) :
    StreamMapping :=
  ⟨r.nextStreamId, d, c, methodName, now, now, 0, tx⟩

/-- What `create_mapping` comes to. -/
inductive Creates (r : StreamRouter) (now : Instant) (d c methodName : String)
    (tx : ControllerTx) : Except StreamRouterError String × StreamRouter → Prop
  | deviceFull (err : StreamRouterError) (kind : err.kind = .maxStreamsExceeded) :
      Creates r now d c methodName tx (.error err, r.counted)
  | controllerFull (err : StreamRouterError) (kind : err.kind = .maxStreamsExceeded) :
      Creates r now d c methodName tx (.error err, { r.counted with
        deviceToStreams := (Index.insert r.deviceToStreams d r.nextStreamId).remove d
          r.nextStreamId })
  | created : Creates r now d c methodName tx (.ok r.nextStreamId, { r.counted with
      deviceToStreams := Index.insert r.deviceToStreams d r.nextStreamId
      controllerToStreams := Index.insert r.controllerToStreams c r.nextStreamId
      mappings := r.mappings.insert r.nextStreamId (r.newMapping now d c methodName tx) })

theorem creates_createMapping :
    Creates r now d c methodName tx (r.createMapping now d c methodName tx) := by
  unfold createMapping generateStreamId
  dsimp only
  split
  · exact .deviceFull _ rfl
  · rename_i devices tracked
    obtain ⟨rfl, -⟩ := track_ok tracked
    split
    · rw [untrack_eq]
      exact .controllerFull _ rfl
    · rename_i controllers tracked'
      obtain ⟨rfl, -⟩ := track_ok tracked'
      exact .created

/-- A stream is stored if its device and its controller have room for it. -/
theorem mappings_createMapping_of_room
    (device : d ∈ r.deviceToStreams → Index.count r.deviceToStreams d < r.maxActiveStreams)
    (controller : c ∈ r.controllerToStreams →
      Index.count r.controllerToStreams c < r.maxConcurrentStreamsPerController) :
    (r.createMapping now d c methodName tx).2.mappings =
      r.mappings.insert r.nextStreamId (r.newMapping now d c methodName tx) := by
  unfold createMapping generateStreamId
  dsimp only
  rw [track_of_room device]
  dsimp only
  rw [track_of_room controller]
  rfl

/-- No stream is stored if its device or its controller has no room for it. -/
theorem mappings_createMapping_of_full
    (full : (d ∈ r.deviceToStreams ∧ r.maxActiveStreams ≤ Index.count r.deviceToStreams d) ∨
      (c ∈ r.controllerToStreams ∧
        r.maxConcurrentStreamsPerController ≤ Index.count r.controllerToStreams c)) :
    (r.createMapping now d c methodName tx).2.mappings = r.mappings := by
  unfold createMapping generateStreamId
  dsimp only
  split
  · rfl
  · rename_i devices tracked
    rcases full with ⟨mem, full⟩ | ⟨mem, full⟩
    · exact absurd ((track_ok tracked).2 mem) (by omega)
    · split
      · rfl
      · rename_i controllers tracked'
        exact absurd ((track_ok tracked').2 mem) (by omega)

theorem mappings_removeForDevice (acc : List StreamMapping × StreamRouter) (sid : String) :
    (removeForDevice acc sid).2.mappings = acc.2.mappings.erase sid := by
  unfold removeForDevice
  split
  · rename_i absent
    exact (DashMap.erase_of_lookup_none absent).symm
  · rfl

theorem lookup_foldl_removeForDevice (ids : List String)
    (acc : List StreamMapping × StreamRouter) (sid : String) :
    (ids.foldl removeForDevice acc).2.mappings.lookup sid =
      if sid ∈ ids then none else acc.2.mappings.lookup sid :=
  DashMap.lookup_foldl_erase (fun acc : List StreamMapping × StreamRouter => acc.2.mappings)
    mappings_removeForDevice ids acc sid

theorem removeAllForDevice_eq (r : StreamRouter) (d : String) :
    r.removeAllForDevice d = r.removeInOrder d (Index.ids r.deviceToStreams d).keys := by
  unfold removeAllForDevice
  cases filed : r.deviceToStreams.lookup d with
  | none =>
    have none_ : Index.ids r.deviceToStreams d = ∅ := by rw [Index.ids, filed]; rfl
    rw [none_, removeInOrder, DashMap.erase_of_lookup_none filed]
    rfl
  | some ids => rw [Index.ids_of_lookup filed]

theorem lookup_removeInOrder (r : StreamRouter) (d : String) (ids : List String) (sid : String) :
    (r.removeInOrder d ids).2.mappings.lookup sid =
      if sid ∈ ids then none else r.mappings.lookup sid :=
  lookup_foldl_removeForDevice ids _ sid

/-- The mappings of the streams filed under a device are gone. -/
theorem lookup_removeAllForDevice {ids : HashSet String}
    (filed : r.deviceToStreams.lookup d = some ids) (sid : String) :
    (r.removeAllForDevice d).2.mappings.lookup sid =
      if sid ∈ ids.keys then none else r.mappings.lookup sid := by
  rw [removeAllForDevice_eq, Index.ids_of_lookup filed]
  exact lookup_removeInOrder r d ids.keys sid

/-- The mappings of different streams are removed one after the other. -/
theorem removed_foldl_removeForDevice {ids : List String} (nodup : ids.Nodup)
    (acc : List StreamMapping × StreamRouter) :
    (ids.foldl removeForDevice acc).1 =
      acc.1 ++ ids.filterMap fun sid => acc.2.mappings.lookup sid := by
  induction ids generalizing acc with
  | nil => simp
  | cons sid ids ih =>
    obtain ⟨new, nodup⟩ := List.nodup_cons.1 nodup
    have kept : (ids.filterMap fun sid' => (removeForDevice acc sid).2.mappings.lookup sid') =
        ids.filterMap fun sid' => acc.2.mappings.lookup sid' := by
      refine List.filterMap_congr fun sid' mem => ?_
      rw [mappings_removeForDevice, AList.lookup_erase_ne (ne_of_mem_of_not_mem mem new)]
    rw [List.foldl_cons, ih nodup, kept, List.filterMap_cons, removeForDevice]
    cases acc.2.mappings.lookup sid with
    | none => rfl
    | some mapping => exact List.append_assoc ..

theorem removed_removeInOrder {ids : List String} (nodup : ids.Nodup) (r : StreamRouter)
    (d : String) :
    (r.removeInOrder d ids).1 = ids.filterMap fun sid => r.mappings.lookup sid :=
  removed_foldl_removeForDevice nodup _

theorem getMappingsForDevice_eq (r : StreamRouter) (d : String) :
    r.getMappingsForDevice d =
      (Index.ids r.deviceToStreams d).keys.filterMap fun sid => r.mappings.lookup sid := by
  unfold getMappingsForDevice Index.ids
  cases r.deviceToStreams.lookup d <;> rfl

/-- The mappings removed are those of the device. -/
theorem removed_removeAllForDevice (r : StreamRouter) (d : String) :
    (r.removeAllForDevice d).1 = r.getMappingsForDevice d := by
  rw [removeAllForDevice_eq, removed_removeInOrder (AList.keys_nodup _), getMappingsForDevice_eq]

/-- The ids filed under a device, in any order. -/
def Lists (r : StreamRouter) (d : String) (ids : List String) : Prop :=
  ids.Perm (Index.ids r.deviceToStreams d).keys

/-- In another order the same mappings are removed. -/
theorem perm_removeInOrder {ids : List String} (all : Lists r d ids) :
    (r.removeInOrder d ids).1.Perm (r.removeAllForDevice d).1 := by
  rw [removeAllForDevice_eq, removed_removeInOrder (all.nodup_iff.2 (AList.keys_nodup _)),
    removed_removeInOrder (AList.keys_nodup _)]
  exact all.filterMap _

theorem lookup_removeMapping (r : StreamRouter) (sid sid' : String) :
    (r.removeMapping sid).2.mappings.lookup sid' =
      if sid' = sid then none else r.mappings.lookup sid' := by
  unfold removeMapping
  split
  · rename_i absent
    split_ifs with hs
    · rw [hs, absent]
    · rfl
  · exact DashMap.lookup_erase_ite ..

namespace Indexed

theorem new (config : StreamConfig) : Indexed (.new config) := by
  refine ⟨?_, ⟨?_, Index.noEmpty_empty⟩, ⟨?_, Index.noEmpty_empty⟩⟩
  · intro sid m h
    cases h
  all_goals
    intro k sid
    refine ⟨fun h => absurd h Index.not_has_empty, ?_⟩
    rintro ⟨m, h, -⟩
    cases h

/-- A call that creates a mapping keeps the indexes, if the stream id is new. -/
theorem create (I : Indexed r) (fresh : r.mappings.lookup r.nextStreamId = none)
    {out : Except StreamRouterError String × StreamRouter}
    (h : Creates r now d c methodName tx out) : Indexed out.2 := by
  cases h with
  | deviceFull err kind => exact ⟨I.streamId, I.devices, I.controllers⟩
  | controllerFull err kind => exact ⟨I.streamId, I.devices.rollback fresh, I.controllers⟩
  | created =>
    refine ⟨fun sid m h => ?_, I.devices.insert (m := r.newMapping now d c methodName tx) fresh,
      I.controllers.insert (m := r.newMapping now d c methodName tx) fresh⟩
    rw [DashMap.lookup_insert_ite] at h
    split_ifs at h with hs
    · cases h
      exact hs.symm
    · exact I.streamId sid m h

theorem removeMapping (I : Indexed r) (streamId : String) :
    Indexed (r.removeMapping streamId).2 := by
  unfold StreamRouter.removeMapping
  split
  · exact I
  · rename_i mapping found
    simp only [untrack_eq]
    refine ⟨fun sid m h => ?_, I.devices.remove found, I.controllers.remove found⟩
    rw [DashMap.lookup_erase_ite] at h
    split_ifs at h
    exact I.streamId sid m h

/-- A loop that removes mappings keeps the controllers' index. -/
theorem controllers_foldl (ids : List String) {acc : List StreamMapping × StreamRouter}
    (F : Filed acc.2.controllerToStreams acc.2.mappings (·.controllerId)) :
    Filed (ids.foldl removeForDevice acc).2.controllerToStreams
      (ids.foldl removeForDevice acc).2.mappings (·.controllerId) := by
  induction ids generalizing acc with
  | nil => exact F
  | cons sid ids ih =>
    refine ih ?_
    unfold removeForDevice
    split
    · exact F
    · rename_i mapping found
      simp only [untrack_eq]
      exact F.remove found

theorem deviceToStreams_foldl (ids : List String) (acc : List StreamMapping × StreamRouter) :
    (ids.foldl removeForDevice acc).2.deviceToStreams = acc.2.deviceToStreams := by
  induction ids generalizing acc with
  | nil => rfl
  | cons sid ids ih =>
    rw [List.foldl_cons, ih, removeForDevice]
    split <;> rfl

theorem mem_lists (I : Indexed r) {ids : List String} (all : Lists r d ids) {sid : String} :
    sid ∈ ids ↔ ∃ m, r.mappings.lookup sid = some m ∧ m.deviceId = d := by
  rw [all.mem_iff, ← I.devices.has, Index.Has, AList.mem_keys]

/-- The streams of the device are gone. -/
theorem lookup_removeInOrder (I : Indexed r) {ids : List String} (all : Lists r d ids)
    (sid : String) :
    (r.removeInOrder d ids).2.mappings.lookup sid =
      (r.mappings.lookup sid).filter fun m => m.deviceId ≠ d := by
  rw [StreamRouter.lookup_removeInOrder]
  split_ifs with mem
  · obtain ⟨m, found, hd⟩ := (I.mem_lists all).1 mem
    simp [found, Option.filter, hd]
  · rw [I.mem_lists all] at mem
    cases found : r.mappings.lookup sid with
    | none => rfl
    | some m =>
      have other : m.deviceId ≠ d := fun hd => mem ⟨m, found, hd⟩
      simp [Option.filter, other]

theorem removeInOrder (I : Indexed r) {ids : List String} (all : Lists r d ids) :
    Indexed (r.removeInOrder d ids).2 := by
  have rest : (r.removeInOrder d ids).2.deviceToStreams = r.deviceToStreams.erase d :=
    deviceToStreams_foldl ids _
  refine ⟨fun sid m h => ?_, ⟨fun k sid => ?_, ?_⟩, controllers_foldl ids I.controllers⟩
  · rw [StreamRouter.lookup_removeInOrder] at h
    split_ifs at h
    exact I.streamId sid m h
  · rw [rest, StreamRouter.lookup_removeInOrder, Index.has_erase, I.devices.has]
    split_ifs with hs
    · obtain ⟨m, hm, rfl⟩ := (I.mem_lists all).1 hs
      simp [hm, eq_comm]
    · refine ⟨fun h => h.2, fun h => ⟨?_, h⟩⟩
      rintro rfl
      exact hs ((I.mem_lists all).2 h)
  · rw [rest]
    exact Index.noEmpty_erase I.devices.noEmpty

theorem removeAllForDevice (I : Indexed r) : Indexed (r.removeAllForDevice d).2 := by
  rw [removeAllForDevice_eq]
  exact I.removeInOrder (List.Perm.refl _)

/-- The streams of the device are gone. -/
theorem lookup_removeAllForDevice (I : Indexed r) (sid : String) :
    (r.removeAllForDevice d).2.mappings.lookup sid =
      (r.mappings.lookup sid).filter fun m => m.deviceId ≠ d := by
  rw [removeAllForDevice_eq]
  exact I.lookup_removeInOrder (List.Perm.refl _) sid

/-- A change of a mapping that is not to its ids keeps the indexes. -/
theorem modify (I : Indexed r) {g : StreamMapping → StreamMapping}
    (ids : ∀ m, (g m).streamId = m.streamId ∧ (g m).deviceId = m.deviceId ∧
      (g m).controllerId = m.controllerId) :
    Indexed { r with mappings := DashMap.modify r.mappings streamId g } := by
  have same {f : StreamMapping → String} (hf : ∀ m, f (g m) = f m) (sid : String) :
      ((DashMap.modify r.mappings streamId g).lookup sid).map f =
        (r.mappings.lookup sid).map f := by
    rw [DashMap.lookup_modify]
    split_ifs
    · cases r.mappings.lookup sid <;> simp [hf]
    · rfl
  refine ⟨fun sid m h => ?_, I.devices.congr (same fun m => (ids m).2.1),
    I.controllers.congr (same fun m => (ids m).2.2)⟩
  rw [DashMap.lookup_modify] at h
  split_ifs at h
  · obtain ⟨m', hm, rfl⟩ := Option.map_eq_some_iff.1 h
    rw [(ids m').1, I.streamId sid m' hm]
  · exact I.streamId sid m h

theorem cleanupStale (I : Indexed r) : Indexed (r.cleanupStale now).2 := by
  unfold StreamRouter.cleanupStale
  generalize r.staleStreams now = stale
  suffices h : ∀ acc : List StreamMapping × StreamRouter, Indexed acc.2 →
      Indexed (stale.foldl removeStale acc).2 from h _ I
  induction stale with
  | nil => exact fun acc I => I
  | cons sid stale ih =>
    intro acc I
    refine ih _ ?_
    have := I.removeMapping sid
    unfold removeStale
    split <;> rename_i h <;> rwa [h] at this

end Indexed

/-! ## Sequences of calls -/

/-- A call, with the clock reading that it makes. -/
inductive Call where
  | createMapping (now : Instant) (deviceId controllerId methodName : String)
      (controllerTx : ControllerTx)
  | removeMapping (streamId : String)
  | removeAllForDevice (deviceId : String)
  | touchStream (streamId : String) (now : Instant)
  | beginRequest (streamId : String) (now : Instant)
  | finishRequest (streamId : String) (now : Instant)
  | cleanupStale (now : Instant)
  deriving DecidableEq

/-- The stream id that a call returns to the caller of `create_mapping`, and the router after it. -/
def perform (r : StreamRouter) : Call → Option String × StreamRouter
  | .createMapping now d c methodName tx =>
    ((r.createMapping now d c methodName tx).1.toOption, (r.createMapping now d c methodName tx).2)
  | .removeMapping sid => (none, (r.removeMapping sid).2)
  | .removeAllForDevice d => (none, (r.removeAllForDevice d).2)
  | .touchStream sid now => (none, r.touchStream sid now)
  | .beginRequest sid now => (none, r.beginRequest sid now)
  | .finishRequest sid now => (none, r.finishRequest sid now)
  | .cleanupStale now => (none, (r.cleanupStale now).2)

/-- One call after others, of which the stream ids issued are kept. -/
def performNext (acc : List String × StreamRouter) (call : Call) : List String × StreamRouter :=
  (acc.1 ++ (acc.2.perform call).1.toList, (acc.2.perform call).2)

/-- The stream ids that a sequence of calls issues, and the router after it. -/
def performAll (r : StreamRouter) (calls : List Call) : List String × StreamRouter :=
  calls.foldl performNext ([], r)

/-- The call is a call of `create_mapping`. -/
def Call.creates : Call → Bool
  | .createMapping .. => true
  | _ => false

/-- The number of calls of `create_mapping`. -/
def creations (calls : List Call) : ℕ := calls.countP Call.creates

/-- After `n` creations: the indexes are right, the counter has moved on by `n`, and the streams
stored have ids that were issued, each of them once. -/
structure Issued (n : ℕ) (issued : List String) (r : StreamRouter) : Prop where
  indexed : Indexed r
  counter : r.counter = (n + 1) % UInt64.size
  stored : ∀ sid ∈ r.mappings, sid ∈ issued
  drawn : issued.Sublist (drawn "strm-" UInt64.size n)

/-- No stream id is drawn and no stream is new. -/
structure Shrinks (r r' : StreamRouter) : Prop where
  counter : r'.counter = r.counter
  stored : ∀ sid ∈ r'.mappings, sid ∈ r.mappings

theorem Shrinks.refl (r : StreamRouter) : Shrinks r r := ⟨rfl, fun _ h => h⟩

theorem Shrinks.trans {r' r'' : StreamRouter} (h : Shrinks r r') (h' : Shrinks r' r'') :
    Shrinks r r'' :=
  ⟨h'.counter.trans h.counter, fun sid mem => h.stored sid (h'.stored sid mem)⟩

/-- A loop shrinks the router if its rounds do. -/
theorem shrinks_foldl
    {round : List StreamMapping × StreamRouter → String → List StreamMapping × StreamRouter}
    (shrinks : ∀ acc sid, Shrinks acc.2 (round acc sid).2) (ids : List String)
    (acc : List StreamMapping × StreamRouter) : Shrinks acc.2 (ids.foldl round acc).2 := by
  induction ids generalizing acc with
  | nil => exact .refl _
  | cons sid ids ih => exact (shrinks acc sid).trans (ih _)

theorem shrinks_removeMapping (r : StreamRouter) (streamId : String) :
    Shrinks r (r.removeMapping streamId).2 := by
  unfold removeMapping
  split
  · exact .refl _
  · exact ⟨rfl, fun sid mem => (AList.mem_erase.1 mem).2⟩

theorem shrinks_removeForDevice (acc : List StreamMapping × StreamRouter) (sid : String) :
    Shrinks acc.2 (removeForDevice acc sid).2 := by
  unfold removeForDevice
  split
  · exact .refl _
  · exact ⟨rfl, fun sid mem => (AList.mem_erase.1 mem).2⟩

theorem shrinks_removeAllForDevice : Shrinks r (r.removeAllForDevice d).2 := by
  unfold removeAllForDevice
  split
  · exact .refl _
  · rename_i ids _
    have taken : Shrinks r { r with deviceToStreams := r.deviceToStreams.erase d } :=
      ⟨rfl, fun _ h => h⟩
    exact taken.trans (shrinks_foldl shrinks_removeForDevice ids.keys ([], _))

theorem shrinks_cleanupStale : Shrinks r (r.cleanupStale now).2 := by
  refine shrinks_foldl (fun acc sid => ?_) _ ([], r)
  have := shrinks_removeMapping acc.2 sid
  unfold removeStale
  split <;> rename_i h <;> rwa [h] at this

theorem shrinks_modify {g : StreamMapping → StreamMapping} :
    Shrinks r { r with mappings := DashMap.modify r.mappings streamId g } := by
  refine ⟨rfl, fun sid mem => ?_⟩
  rw [← AList.lookup_isSome] at mem ⊢
  rw [DashMap.lookup_modify] at mem
  split_ifs at mem
  · simpa using mem
  · exact mem

namespace Issued

variable {n : ℕ} {issued : List String}

/-- The next stream id was not issued before. -/
theorem fresh (I : Issued n issued r) (few : n < UInt64.size) : r.nextStreamId ∉ issued := by
  intro old
  have nodup : (Tickets.drawn "strm-" UInt64.size (n + 1)).Nodup := nodup_drawn few
  rw [drawn_succ, List.nodup_append] at nodup
  refine nodup.2.2 _ (I.drawn.subset old) _ (List.mem_singleton.2 rfl) ?_
  rw [nextStreamId, I.counter]

theorem unmapped (I : Issued n issued r) (few : n < UInt64.size) :
    r.mappings.lookup r.nextStreamId = none :=
  AList.lookup_eq_none.2 fun mem => I.fresh few (I.stored _ mem)

theorem create (I : Issued n issued r) (few : n < UInt64.size)
    {out : Except StreamRouterError String × StreamRouter}
    (h : Creates r now d c methodName tx out) :
    Issued (n + 1) (issued ++ out.1.toOption.toList) out.2 := by
  have counter : (r.counter + 1) % UInt64.size = (n + 1 + 1) % UInt64.size := by
    rw [I.counter, Nat.mod_add_mod]
  have longer : issued.Sublist (Tickets.drawn "strm-" UInt64.size (n + 1)) := by
    rw [drawn_succ]
    exact I.drawn.trans (List.sublist_append_left _ _)
  refine ⟨I.indexed.create (I.unmapped few) h, ?_, ?_, ?_⟩
  · cases h <;> exact counter
  · intro sid mem
    cases h with
    | deviceFull | controllerFull => exact List.mem_append_left _ (I.stored sid mem)
    | created =>
      rcases (AList.mem_insert _).1 mem with rfl | mem
      · exact List.mem_append_right _ (List.mem_singleton.2 rfl)
      · exact List.mem_append_left _ (I.stored sid mem)
  · cases h with
    | deviceFull | controllerFull =>
      rw [show issued ++ (Except.error _ : Except StreamRouterError String).toOption.toList =
        issued from List.append_nil _]
      exact longer
    | created =>
      rw [drawn_succ, ← I.counter]
      exact I.drawn.append (List.Sublist.refl _)

theorem shrink (I : Issued n issued r) {r' : StreamRouter} (indexed : Indexed r')
    (shrinks : Shrinks r r') : Issued n (issued ++ (none : Option String).toList) r' := by
  refine ⟨indexed, shrinks.counter.trans I.counter, fun sid mem => ?_, ?_⟩
  · exact List.mem_append_left _ (I.stored sid (shrinks.stored sid mem))
  · exact (List.append_nil issued).symm ▸ I.drawn

theorem perform (I : Issued n issued r) (call : Call)
    (few : n + creations [call] ≤ UInt64.size) :
    Issued (n + creations [call]) (issued ++ (r.perform call).1.toList) (r.perform call).2 := by
  have ids {m : StreamMapping} {t : Instant} {k : ℕ} :
      ({ m with lastActivity := t, activeRequests := k } : StreamMapping).streamId = m.streamId ∧
      ({ m with lastActivity := t, activeRequests := k } : StreamMapping).deviceId = m.deviceId ∧
      ({ m with lastActivity := t, activeRequests := k } : StreamMapping).controllerId =
        m.controllerId := ⟨rfl, rfl, rfl⟩
  cases call with
  | createMapping now d c methodName tx => exact I.create few creates_createMapping
  | removeMapping sid => exact I.shrink (I.indexed.removeMapping sid) (shrinks_removeMapping r sid)
  | removeAllForDevice d =>
    exact I.shrink I.indexed.removeAllForDevice shrinks_removeAllForDevice
  | touchStream sid now | beginRequest sid now | finishRequest sid now =>
    exact I.shrink (I.indexed.modify fun _ => ids) shrinks_modify
  | cleanupStale now => exact I.shrink I.indexed.cleanupStale shrinks_cleanupStale

theorem performAll (calls : List Call) (acc : List String × StreamRouter)
    (I : Issued n acc.1 acc.2) (few : n + creations calls ≤ UInt64.size) :
    Issued (n + creations calls) (calls.foldl performNext acc).1
      (calls.foldl performNext acc).2 := by
  induction calls generalizing n acc with
  | nil => exact I
  | cons call calls ih =>
    have count : n + creations (call :: calls) = n + creations [call] + creations calls := by
      rw [creations, ← List.singleton_append, List.countP_append, ← Nat.add_assoc]
      rfl
    rw [count] at few ⊢
    exact ih _ (I.perform call (le_trans (Nat.le_add_right _ _) few)) few

end Issued

theorem issued_performAll (config : StreamConfig) (calls : List Call)
    (few : creations calls ≤ UInt64.size) :
    Issued (creations calls) (performAll (.new config) calls).1
      (performAll (.new config) calls).2 := by
  have start : Issued 0 [] (.new config) :=
    ⟨.new config, rfl, fun sid mem => absurd mem (AList.notMem_empty sid), List.Sublist.refl _⟩
  have I := Issued.performAll calls ([], .new config) start (by rwa [Nat.zero_add])
  rwa [Nat.zero_add] at I

theorem count_deviceToStreams (r : StreamRouter) (d : String) :
    Index.count r.deviceToStreams d = r.deviceStreamCount d := by
  unfold Index.count Index.ids deviceStreamCount
  cases r.deviceToStreams.lookup d <;> rfl

/-- Any sequence of calls with at most 2^64 creations leaves the streams filed under their devices
and controllers and nowhere else; every stream has an id that was issued, no id is issued twice,
and the streams are as many as those of all devices and as those of all controllers. -/
theorem router_is_indexed (config : StreamConfig) (calls : List Call)
    (few : creations calls ≤ UInt64.size) :
    Indexed (performAll (.new config) calls).2 ∧
    (∀ sid ∈ (performAll (.new config) calls).2.mappings,
      sid ∈ (performAll (.new config) calls).1) ∧
    (performAll (.new config) calls).1.Nodup ∧
    (performAll (.new config) calls).2.totalActiveStreams =
      ((performAll (.new config) calls).2.deviceToStreams.keys.map
        (performAll (.new config) calls).2.deviceStreamCount).sum ∧
    (performAll (.new config) calls).2.totalActiveStreams =
      ((performAll (.new config) calls).2.controllerToStreams.keys.map
        (Index.count (performAll (.new config) calls).2.controllerToStreams)).sum := by
  have I := issued_performAll config calls few
  refine ⟨I.indexed, I.stored, (nodup_drawn few).sublist I.drawn, ?_, ?_⟩
  · rw [← funext (count_deviceToStreams _)]
    exact Index.len_eq_sum_count I.indexed.devices.has
  · exact Index.len_eq_sum_count I.indexed.controllers.has

/-- A second stream of a controller that may have one is refused and rolled back. -/
def refusedCalls : List Call :=
  [.createMapping 0 "d" "c" "M" 0, .createMapping 0 "d" "c" "M" 1,
    .createMapping 0 "d" "e" "M" 2, .beginRequest "strm-1" 1, .cleanupStale 100]

theorem refused_stream_is_rolled_back :
    (performAll (.new ⟨60, 2, 1⟩) refusedCalls).1 = ["strm-1", "strm-3"] ∧
    Indexed (performAll (.new ⟨60, 2, 1⟩) refusedCalls).2 ∧
    (performAll (.new ⟨60, 2, 1⟩) refusedCalls).2.totalActiveStreams = 1 ∧
    1 = ((performAll (.new ⟨60, 2, 1⟩) refusedCalls).2.deviceToStreams.keys.map
      (performAll (.new ⟨60, 2, 1⟩) refusedCalls).2.deviceStreamCount).sum := by
  have few : creations refusedCalls ≤ UInt64.size := by decide
  obtain ⟨indexed, -, -, devices, -⟩ := router_is_indexed ⟨60, 2, 1⟩ refusedCalls few
  have total : (performAll (.new ⟨60, 2, 1⟩) refusedCalls).2.totalActiveStreams = 1 := by
    decide +kernel
  exact ⟨by decide +kernel, indexed, total, total.symm.trans devices⟩

end StreamRouter

end GrpcRelay
