import GrpcRelay.Router

/-!
# Admission and removal of streams

`create_mapping` is to let a stream in exactly if its device and its controller have fewer streams
than their limits.  It compares the limit only with a set that exists: a limit of zero lets the
first stream in (`admission_is_exact`).

A stream that is refused leaves the maps as they were (`refused_create_changes_nothing`), and
removing all streams of a device at once is removing them one by one
(`bulk_removal_is_one_by_one`), until the counter comes back to the id of a stream that still
exists.
-/

namespace GrpcRelay

namespace StreamRouter

variable {config : StreamConfig} {r r' : StreamRouter} {index index' : Index String String}
  {cap : ℕ} {key streamId d c methodName : String} {now : Instant} {tx : ControllerTx}

/-- What every call keeps holds after any sequence of calls. -/
theorem performAll_invariant {I : StreamRouter → Prop} (start : I (.new config))
    (next : ∀ r call, I r → I (r.perform call).2) (calls : List Call) :
    I (performAll (.new config) calls).2 := by
  suffices h : ∀ acc : List String × StreamRouter, I acc.2 → I (calls.foldl performNext acc).2 from
    h _ start
  induction calls with
  | nil => exact fun acc h => h
  | cons call calls ih => exact fun acc h => ih _ (next acc.2 call h)

/-! ## Limits -/

/-- No key has more than `cap` streams. -/
def Capped (cap : ℕ) (index : Index String String) : Prop := ∀ key, Index.count index key ≤ cap

/-- A key that lets a stream in has room for it. -/
theorem isOk_track (positive : 1 ≤ cap) :
    (∃ index', track index key streamId cap = .ok index') ↔ Index.count index key < cap := by
  constructor
  · rintro ⟨index', h⟩
    by_cases mem : key ∈ index
    · exact (track_ok h).2 mem
    · rw [Index.count_eq_zero_of_not_mem mem]
      omega
  · exact fun room => ⟨_, track_of_room fun _ => room⟩

namespace Capped

theorem thin (C : Capped cap index)
    (fewer : ∀ key sid, Index.Has index' key sid → Index.Has index key sid) : Capped cap index' :=
  fun key => (Index.count_le (fewer key)).trans (C key)

theorem remove (C : Capped cap index) : Capped cap (Index.remove index key streamId) :=
  C.thin fun _ _ h => (Index.has_remove.1 h).1

theorem track (C : Capped cap index) (positive : 1 ≤ cap)
    (h : track index key streamId cap = .ok index') : Capped cap index' := by
  have room := (isOk_track positive).1 ⟨index', h⟩
  obtain ⟨rfl, -⟩ := track_ok h
  intro key'
  by_cases same : key' = key
  · subst same
    have : Index.count (Index.insert index key' streamId) key' ≤ Index.count index key' + 1 :=
      Index.count_insert_le
    omega
  · rw [Index.count_insert_of_ne same]
    exact C key'

end Capped

/-- The limits are those of the configuration, and no set exceeds its own. -/
structure Bounded (config : StreamConfig) (r : StreamRouter) : Prop where
  maxActive : r.maxActiveStreams = config.maxActiveStreams
  maxConcurrent : r.maxConcurrentStreamsPerController = config.maxConcurrentStreamsPerController
  devices : Capped config.maxActiveStreams r.deviceToStreams
  controllers : Capped config.maxConcurrentStreamsPerController r.controllerToStreams

namespace Bounded

theorem new (config : StreamConfig) : Bounded config (.new config) :=
  ⟨rfl, rfl, fun _ => Nat.zero_le _, fun _ => Nat.zero_le _⟩

theorem createMapping (B : Bounded config r) (device : 1 ≤ config.maxActiveStreams)
    (controller : 1 ≤ config.maxConcurrentStreamsPerController) :
    Bounded config (r.createMapping now d c methodName tx).2 := by
  unfold StreamRouter.createMapping generateStreamId
  dsimp only
  rw [B.maxActive, B.maxConcurrent]
  split
  · exact ⟨rfl, rfl, B.devices, B.controllers⟩
  · rename_i devices tracked
    have capped := B.devices.track device tracked
    split
    · refine ⟨rfl, rfl, ?_, B.controllers⟩
      rw [untrack_eq]
      exact capped.remove
    · rename_i controllers tracked'
      exact ⟨rfl, rfl, capped, B.controllers.track controller tracked'⟩

theorem removeMapping (B : Bounded config r) (streamId : String) :
    Bounded config (r.removeMapping streamId).2 := by
  unfold StreamRouter.removeMapping
  split
  · exact B
  · simp only [untrack_eq]
    exact ⟨B.maxActive, B.maxConcurrent, B.devices.remove, B.controllers.remove⟩

theorem removeForDevice {acc : List StreamMapping × StreamRouter} (B : Bounded config acc.2)
    (streamId : String) : Bounded config (removeForDevice acc streamId).2 := by
  unfold StreamRouter.removeForDevice
  split
  · exact B
  · simp only [untrack_eq]
    exact ⟨B.maxActive, B.maxConcurrent, B.devices, B.controllers.remove⟩

theorem removeStale {acc : List StreamMapping × StreamRouter} (B : Bounded config acc.2)
    (streamId : String) : Bounded config (removeStale acc streamId).2 := by
  have := B.removeMapping streamId
  unfold StreamRouter.removeStale
  split <;> rename_i h <;> rwa [h] at this

theorem foldl {round : List StreamMapping × StreamRouter → String →
      List StreamMapping × StreamRouter}
    (keeps : ∀ acc sid, Bounded config acc.2 → Bounded config (round acc sid).2)
    (ids : List String) {acc : List StreamMapping × StreamRouter} (B : Bounded config acc.2) :
    Bounded config (ids.foldl round acc).2 := by
  induction ids generalizing acc with
  | nil => exact B
  | cons sid ids ih => exact ih (keeps acc sid B)

theorem removeAllForDevice (B : Bounded config r) : Bounded config (r.removeAllForDevice d).2 := by
  unfold StreamRouter.removeAllForDevice
  split
  · exact B
  · have taken : Capped config.maxActiveStreams (r.deviceToStreams.erase d) :=
      B.devices.thin fun _ _ h => (Index.has_erase.1 h).2
    exact foldl (fun _ sid B => B.removeForDevice sid) _
      ⟨B.maxActive, B.maxConcurrent, taken, B.controllers⟩

theorem perform (B : Bounded config r) (device : 1 ≤ config.maxActiveStreams)
    (controller : 1 ≤ config.maxConcurrentStreamsPerController) (call : Call) :
    Bounded config (r.perform call).2 := by
  cases call with
  | createMapping now d c methodName tx => exact B.createMapping device controller
  | removeMapping sid => exact B.removeMapping sid
  | removeAllForDevice d => exact B.removeAllForDevice
  | touchStream sid now | beginRequest sid now | finishRequest sid now =>
    exact ⟨B.maxActive, B.maxConcurrent, B.devices, B.controllers⟩
  | cleanupStale now => exact foldl (fun _ sid B => B.removeStale sid) _ B

end Bounded

/-- The `stream_count` that `create_mapping` asserts to be at most `max_active_streams`. -/
def streamCount (r : StreamRouter) (deviceId : String) : ℕ :=
  match r.deviceToStreams.lookup deviceId with
  | some ids => DashMap.len ids + 1
  | none => 1

theorem streamCount_eq (r : StreamRouter) (d : String) :
    r.streamCount d = r.deviceStreamCount d + 1 := by
  unfold streamCount deviceStreamCount
  cases r.deviceToStreams.lookup d <;> rfl

/-- Number of active streams of a controller. -/
def controllerStreamCount (r : StreamRouter) (controllerId : String) : ℕ :=
  ((r.controllerToStreams.lookup controllerId).map DashMap.len).getD 0

theorem count_controllerToStreams (r : StreamRouter) (c : String) :
    Index.count r.controllerToStreams c = r.controllerStreamCount c := by
  unfold Index.count Index.ids controllerStreamCount
  cases r.controllerToStreams.lookup c <;> rfl

/-- A stream is let in if and only if its device and its controller have fewer streams than their
limits, no device and no controller has more, and the assertion of `create_mapping` holds. -/
structure AdmitsExactly (config : StreamConfig) (r : StreamRouter) : Prop where
  admits : ∀ now d c methodName tx,
    (∃ streamId, (r.createMapping now d c methodName tx).1 = .ok streamId) ↔
      r.deviceStreamCount d < config.maxActiveStreams ∧
        r.controllerStreamCount c < config.maxConcurrentStreamsPerController
  devices : ∀ d, r.deviceStreamCount d ≤ config.maxActiveStreams
  controllers : ∀ c, r.controllerStreamCount c ≤ config.maxConcurrentStreamsPerController
  assertion : ∀ now d c methodName tx streamId,
    (r.createMapping now d c methodName tx).1 = .ok streamId →
      r.streamCount d ≤ config.maxActiveStreams

theorem createMapping_isOk (device : 1 ≤ r.maxActiveStreams)
    (controller : 1 ≤ r.maxConcurrentStreamsPerController) :
    (∃ streamId, (r.createMapping now d c methodName tx).1 = .ok streamId) ↔
      r.deviceStreamCount d < r.maxActiveStreams ∧
        r.controllerStreamCount c < r.maxConcurrentStreamsPerController := by
  have devices : (∃ index', track r.deviceToStreams d r.nextStreamId r.maxActiveStreams =
      .ok index') ↔ Index.count r.deviceToStreams d < r.maxActiveStreams := isOk_track device
  have controllers : (∃ index', track r.controllerToStreams c r.nextStreamId
      r.maxConcurrentStreamsPerController = .ok index') ↔
      Index.count r.controllerToStreams c < r.maxConcurrentStreamsPerController :=
    isOk_track controller
  rw [← count_deviceToStreams, ← count_controllerToStreams, ← devices, ← controllers]
  unfold createMapping generateStreamId nextStreamId Tickets.ticket
  dsimp only
  cases track r.deviceToStreams d ("strm-" ++ toString r.counter) r.maxActiveStreams with
  | error current => simp
  | ok devices =>
    cases track r.controllerToStreams c ("strm-" ++ toString r.counter)
      r.maxConcurrentStreamsPerController with
    | error current => simp
    | ok controllers => simp

theorem Bounded.admitsExactly (B : Bounded config r) (device : 1 ≤ config.maxActiveStreams)
    (controller : 1 ≤ config.maxConcurrentStreamsPerController) : AdmitsExactly config r := by
  have admits (now : Instant) (d c methodName : String) (tx : ControllerTx) :
      (∃ streamId, (r.createMapping now d c methodName tx).1 = .ok streamId) ↔
        r.deviceStreamCount d < config.maxActiveStreams ∧
          r.controllerStreamCount c < config.maxConcurrentStreamsPerController := by
    rw [← B.maxActive, ← B.maxConcurrent] at *
    exact createMapping_isOk device controller
  refine ⟨admits, fun d => ?_, fun c => ?_, fun now d c methodName tx streamId h => ?_⟩
  · rw [← count_deviceToStreams]
    exact B.devices d
  · rw [← count_controllerToStreams]
    exact B.controllers c
  · rw [streamCount_eq]
    exact ((admits now d c methodName tx).1 ⟨streamId, h⟩).1

/-- The first stream of all is let in, whatever the limits are. -/
theorem first_stream_is_admitted (config : StreamConfig) :
    ((StreamRouter.new config).createMapping 0 "d" "c" "M" 0).1 =
      .ok (StreamRouter.new config).nextStreamId := rfl

/-- After any sequence of calls streams are let in exactly up to the limits, if and only if no
limit is zero. -/
theorem admission_is_exact (config : StreamConfig) :
    (∀ calls, AdmitsExactly config (performAll (.new config) calls).2) ↔
      1 ≤ config.maxActiveStreams ∧ 1 ≤ config.maxConcurrentStreamsPerController := by
  constructor
  · intro exact
    have room := ((exact []).admits 0 "d" "c" "M" 0).1 ⟨_, first_stream_is_admitted config⟩
    exact ⟨Nat.one_le_of_lt room.1, Nat.one_le_of_lt room.2⟩
  · rintro ⟨device, controller⟩ calls
    refine Bounded.admitsExactly ?_ device controller
    exact performAll_invariant (.new config) (fun r call B => B.perform device controller call)
      calls

/-- A device that may have no stream gets one. -/
theorem zero_limit_admits_a_stream :
    ¬ ∀ config calls, AdmitsExactly config (performAll (.new config) calls).2 := by
  intro exact
  have room := ((exact ⟨60, 0, 100⟩ []).admits 0 "d" "c" "M" 0).1
    ⟨_, first_stream_is_admitted ⟨60, 0, 100⟩⟩
  exact absurd room.1 (by decide)

/-! ## Refused streams -/

/-- The same sets under the same keys. -/
structure SameSets (index index' : Index String String) : Prop where
  keys : ∀ key, key ∈ index' ↔ key ∈ index
  ids : ∀ key sid, Index.Has index' key sid ↔ Index.Has index key sid

/-- The three maps are the same. -/
structure SameContents (r r' : StreamRouter) : Prop where
  mappings : ∀ sid, r'.mappings.lookup sid = r.mappings.lookup sid
  devices : SameSets r.deviceToStreams r'.deviceToStreams
  controllers : SameSets r.controllerToStreams r'.controllerToStreams

theorem Filed.mem_iff {mappings : DashMap String StreamMapping} {f : StreamMapping → String}
    (F : Filed index mappings f) : key ∈ index ↔ ∃ sid, Index.Has index key sid :=
  ⟨F.noEmpty key, fun ⟨_, has⟩ => Index.mem_of_has has⟩

/-- The sets are known from the mappings. -/
theorem Filed.sameSets {mappings mappings' : DashMap String StreamMapping}
    {f : StreamMapping → String} (F : Filed index mappings f) (F' : Filed index' mappings' f)
    (same : ∀ sid, mappings'.lookup sid = mappings.lookup sid) : SameSets index index' := by
  have ids (key sid : String) : Index.Has index' key sid ↔ Index.Has index key sid := by
    rw [F.has, F'.has, same]
  refine ⟨fun key => ?_, ids⟩
  rw [F.mem_iff, F'.mem_iff]
  exact exists_congr (ids key)

theorem Indexed.sameContents (I : Indexed r) (I' : Indexed r')
    (same : ∀ sid, r'.mappings.lookup sid = r.mappings.lookup sid) : SameContents r r' :=
  ⟨same, I.devices.sameSets I'.devices same, I.controllers.sameSets I'.controllers same⟩

theorem mappings_of_refused {out : Except StreamRouterError String × StreamRouter}
    (h : Creates r now d c methodName tx out) {err : StreamRouterError}
    (refused : out.1 = .error err) : out.2.mappings = r.mappings := by
  cases h with
  | deviceFull | controllerFull => rfl
  | created => cases refused

/-- After any sequence of calls, a stream that is refused leaves the maps as they were, if it draws
one of the first 2^64 ids. -/
theorem refused_create_changes_nothing (config : StreamConfig) (calls : List Call)
    (few : creations calls < UInt64.size) (now : Instant) (d c methodName : String)
    (tx : ControllerTx) {err : StreamRouterError}
    (refused : ((performAll (.new config) calls).2.createMapping now d c methodName tx).1 =
      .error err) :
    SameContents (performAll (.new config) calls).2
      ((performAll (.new config) calls).2.createMapping now d c methodName tx).2 := by
  have I := issued_performAll config calls few.le
  refine I.indexed.sameContents ?_ fun sid => ?_
  · exact I.indexed.create (I.unmapped few) creates_createMapping
  · rw [mappings_of_refused creates_createMapping refused]

/-- The stream of a controller that may have one. -/
def onlyStream : Call := .createMapping 0 "d" "c" "M" 0

/-- Device `d` has a stream and room for another; its controller has no room. -/
def held (n : ℕ) : StreamRouter :=
  { StreamRouter.new ⟨60, 2, 1⟩ with
    counter := n
    mappings := (∅ : DashMap String StreamMapping).insert (Tickets.ticket "strm-" 1)
      ⟨Tickets.ticket "strm-" 1, "d", "c", "M", 0, 0, 0, 0⟩
    deviceToStreams := Index.insert ∅ "d" (Tickets.ticket "strm-" 1)
    controllerToStreams := Index.insert ∅ "c" (Tickets.ticket "strm-" 1) }

theorem first_perform : ((StreamRouter.new ⟨60, 2, 1⟩).perform onlyStream).2 = held 2 := rfl

theorem rollback_held {i j : String} (other : i ≠ j) :
    untrack (Index.insert (Index.insert ∅ "d" j) "d" i) "d" i = Index.insert ∅ "d" j := by
  have absent : i ∉ (∅ : HashSet String).insert j () := by
    rw [AList.mem_insert]
    exact not_or.2 ⟨other, AList.notMem_empty i⟩
  have rolledBack : (((∅ : HashSet String).insert j ()).insert i ()).erase i =
      (∅ : HashSet String).insert j () := by
    apply AList.ext
    rw [AList.insert_of_notMem absent]
    exact List.kerase_cons_eq rfl
  have found : (Index.insert (Index.insert ∅ "d" j) "d" i).lookup "d" =
      some (((∅ : HashSet String).insert j ()).insert i ()) := rfl
  unfold untrack
  rw [found]
  dsimp only
  rw [rolledBack]
  rfl

/-- Another stream is refused, and takes a number. -/
theorem held_perform {n : ℕ} (other : n ≠ 1) :
    ((held n).perform onlyStream).2 = held ((n + 1) % UInt64.size) := by
  have fresh : Tickets.ticket "strm-" n ≠ Tickets.ticket "strm-" 1 := fun h =>
    other (Tickets.ticket_inj.1 h)
  have refused : ((held n).perform onlyStream).2 = { held n with
      counter := (n + 1) % UInt64.size
      deviceToStreams := untrack (Index.insert (held n).deviceToStreams "d"
        (Tickets.ticket "strm-" n)) "d" (Tickets.ticket "strm-" n) } := rfl
  rw [refused]
  unfold held
  rw [rollback_held fresh]

theorem performAll_concat (r : StreamRouter) (calls : List Call) (call : Call) :
    (performAll r (calls ++ [call])).2 = ((performAll r calls).2.perform call).2 := by
  rw [performAll, List.foldl_append]
  rfl

theorem performAll_onlyStream {k : ℕ} (few : k < UInt64.size) :
    (performAll (.new ⟨60, 2, 1⟩) (List.replicate (k + 1) onlyStream)).2 =
      held ((k + 2) % UInt64.size) := by
  induction k with
  | zero => exact first_perform
  | succ k ih =>
    have other : (k + 2) % UInt64.size ≠ 1 := by
      rcases Nat.lt_or_ge (k + 2) UInt64.size with small | large
      · rw [Nat.mod_eq_of_lt small]
        omega
      · rw [show k + 2 = UInt64.size by omega, Nat.mod_self]
        omega
    rw [List.replicate_succ', performAll_concat, ih (by omega), held_perform other,
      Nat.mod_add_mod]

/-- All ids are drawn, and the first stream still exists. -/
theorem performAll_allIds :
    (performAll (.new ⟨60, 2, 1⟩) (List.replicate UInt64.size onlyStream)).2 = held 1 :=
  performAll_onlyStream (k := UInt64.size - 1) (by decide)

/-- A stream that draws the id of another stream of its device and is refused takes that one out of
the device's set. -/
theorem refused_create_removes_older_stream :
    ¬ ∀ config calls now d c methodName tx err,
      ((performAll (.new config) calls).2.createMapping now d c methodName tx).1 = .error err →
      SameContents (performAll (.new config) calls).2
        ((performAll (.new config) calls).2.createMapping now d c methodName tx).2 := by
  intro claim
  have same := claim ⟨60, 2, 1⟩ (List.replicate UInt64.size onlyStream) 0 "d" "c" "M" 0
    (maxStreamsExceeded "controller" "c" 1 1)
  rw [performAll_allIds] at same
  have kept := (same rfl).devices.keys "d"
  exact absurd (kept.2 (by decide +kernel)) (by decide +kernel)

/-- The second stream of a controller that may have one is refused without a trace. -/
theorem second_stream_changes_nothing :
    ((performAll (.new ⟨60, 2, 1⟩) [onlyStream]).2.createMapping 0 "e" "c" "M" 1).1 =
      .error (maxStreamsExceeded "controller" "c" 1 1) ∧
    SameContents (performAll (.new ⟨60, 2, 1⟩) [onlyStream]).2
      ((performAll (.new ⟨60, 2, 1⟩) [onlyStream]).2.createMapping 0 "e" "c" "M" 1).2 :=
  ⟨rfl, refused_create_changes_nothing ⟨60, 2, 1⟩ [onlyStream] (by decide) 0 "e" "c" "M" 1 rfl⟩

/-! ## Removing all streams of a device -/

/-- Remove mappings one by one. -/
def removeEach (r : StreamRouter) (ids : List String) : StreamRouter :=
  ids.foldl (fun r sid => (r.removeMapping sid).2) r

namespace Indexed

theorem removeEach (I : Indexed r) (ids : List String) : Indexed (r.removeEach ids) := by
  unfold StreamRouter.removeEach
  induction ids generalizing r with
  | nil => exact I
  | cons sid ids ih => exact ih (I.removeMapping sid)

end Indexed

theorem lookup_removeEach (r : StreamRouter) (ids : List String) (sid : String) :
    (r.removeEach ids).mappings.lookup sid = if sid ∈ ids then none else r.mappings.lookup sid := by
  unfold removeEach
  induction ids generalizing r with
  | nil => rfl
  | cons sid' ids ih =>
    rw [List.foldl_cons, ih, lookup_removeMapping]
    by_cases hs : sid = sid' <;> simp [hs]

namespace Indexed

/-- Both ways remove the mappings of the device and no others. -/
theorem lookup_removeEach (I : Indexed r) {ids : List String} (all : Lists r d ids)
    (sid : String) :
    (r.removeAllForDevice d).2.mappings.lookup sid = (r.removeEach ids).mappings.lookup sid := by
  rw [I.lookup_removeAllForDevice, StreamRouter.lookup_removeEach, ← I.lookup_removeInOrder all]
  exact StreamRouter.lookup_removeInOrder r d ids sid

/-- The order in which the ids are met makes no difference to the maps. -/
theorem sameContents_removeInOrder (I : Indexed r) {ids : List String} (all : Lists r d ids) :
    SameContents (r.removeAllForDevice d).2 (r.removeInOrder d ids).2 := by
  refine I.removeAllForDevice.sameContents (I.removeInOrder all) fun sid => ?_
  rw [I.lookup_removeInOrder all, I.lookup_removeAllForDevice]

theorem mem_getMappingsForDevice (I : Indexed r) {m : StreamMapping} :
    m ∈ r.getMappingsForDevice d ↔ ∃ sid, r.mappings.lookup sid = some m ∧ m.deviceId = d := by
  rw [getMappingsForDevice_eq, List.mem_filterMap]
  refine exists_congr fun sid => ?_
  rw [I.mem_lists (List.Perm.refl _)]
  constructor
  · rintro ⟨⟨m', found', hd⟩, found⟩
    rw [found] at found'
    cases found'
    exact ⟨found, hd⟩
  · rintro ⟨found, hd⟩
    exact ⟨⟨m, found, hd⟩, found⟩

theorem nodup_getMappingsForDevice (I : Indexed r) : (r.getMappingsForDevice d).Nodup := by
  rw [getMappingsForDevice_eq]
  refine List.Nodup.filterMap (fun sid sid' m found found' => ?_) (AList.keys_nodup _)
  rw [← I.streamId sid m found, ← I.streamId sid' m found']

/-- The streams of other devices stay where they are filed. -/
theorem kept_removeAllForDevice (I : Indexed r) {sid : String} {m : StreamMapping}
    (found : r.mappings.lookup sid = some m) (other : m.deviceId ≠ d) :
    (r.removeAllForDevice d).2.mappings.lookup sid = some m ∧
      ∀ c, Index.Has (r.removeAllForDevice d).2.controllerToStreams c sid ↔
        Index.Has r.controllerToStreams c sid := by
  have kept : (r.removeAllForDevice d).2.mappings.lookup sid = some m := by
    rw [I.lookup_removeAllForDevice, found]
    simp [Option.filter, other]
  refine ⟨kept, fun c => ?_⟩
  rw [I.removeAllForDevice.controllers.has, I.controllers.has, kept, found]

end Indexed

/-- After any sequence of calls with at most 2^64 creations, removing all streams of a device at
once leaves the maps that removing them one by one in any order leaves.  It returns the mappings of
the device, each of them once, and leaves those of the other devices as they are.  In whatever order
it meets the ids, it removes the same mappings and leaves the same maps. -/
theorem bulk_removal_is_one_by_one (config : StreamConfig) (calls : List Call)
    (few : creations calls ≤ UInt64.size) (reached : (performAll (.new config) calls).2 = r)
    (d : String) {ids : List String} (all : Lists r d ids) :
    SameContents (r.removeEach ids) (r.removeAllForDevice d).2 ∧
    (r.removeAllForDevice d).1.Nodup ∧
    (∀ m, m ∈ (r.removeAllForDevice d).1 ↔
      ∃ sid, r.mappings.lookup sid = some m ∧ m.deviceId = d) ∧
    (∀ sid m, r.mappings.lookup sid = some m → m.deviceId ≠ d →
      (r.removeAllForDevice d).2.mappings.lookup sid = some m ∧
      ∀ c, Index.Has (r.removeAllForDevice d).2.controllerToStreams c sid ↔
        Index.Has r.controllerToStreams c sid) ∧
    (r.removeInOrder d ids).1.Perm (r.removeAllForDevice d).1 ∧
    SameContents (r.removeAllForDevice d).2 (r.removeInOrder d ids).2 := by
  have I : Indexed r := reached ▸ (issued_performAll config calls few).indexed
  refine ⟨?_, ?_, fun m => ?_, ?_, perm_removeInOrder all, I.sameContents_removeInOrder all⟩
  · exact (I.removeEach ids).sameContents I.removeAllForDevice (I.lookup_removeEach all)
  · rw [removed_removeAllForDevice]
    exact I.nodup_getMappingsForDevice
  · rw [removed_removeAllForDevice]
    exact I.mem_getMappingsForDevice
  · exact fun sid m found other => I.kept_removeAllForDevice found other

/-- A controller with streams to two devices and two streams of one device. -/
def sharedCalls : List Call :=
  [.createMapping 0 "d" "c" "M" 0, .createMapping 0 "d" "c" "M" 1, .createMapping 0 "e" "c" "M" 2]

theorem shared_controller_keeps_other_stream :
    SameContents ((performAll (.new ⟨60, 2, 3⟩) sharedCalls).2.removeEach ["strm-1", "strm-2"])
      ((performAll (.new ⟨60, 2, 3⟩) sharedCalls).2.removeAllForDevice "d").2 ∧
    ((performAll (.new ⟨60, 2, 3⟩) sharedCalls).2.removeAllForDevice "d").1.Nodup ∧
    (((performAll (.new ⟨60, 2, 3⟩) sharedCalls).2.removeAllForDevice "d").1.map
      (·.streamId)).Perm ["strm-1", "strm-2"] ∧
    (((performAll (.new ⟨60, 2, 3⟩) sharedCalls).2.removeAllForDevice "d").2.mappings.lookup
      "strm-3").isSome ∧
    ((performAll (.new ⟨60, 2, 3⟩) sharedCalls).2.removeInOrder "d" ["strm-1", "strm-2"]).1.map
      (·.streamId) = ["strm-1", "strm-2"] ∧
    ((performAll (.new ⟨60, 2, 3⟩) sharedCalls).2.removeInOrder "d" ["strm-1", "strm-2"]).1.Perm
      ((performAll (.new ⟨60, 2, 3⟩) sharedCalls).2.removeAllForDevice "d").1 := by
  have all : Lists (performAll (.new ⟨60, 2, 3⟩) sharedCalls).2 "d" ["strm-1", "strm-2"] := by
    unfold Lists
    decide +kernel
  obtain ⟨same, nodup, -, -, perm, -⟩ :=
    bulk_removal_is_one_by_one ⟨60, 2, 3⟩ sharedCalls (by decide) rfl "d" all
  exact ⟨same, nodup, by decide +kernel, by decide +kernel, by decide +kernel, perm⟩

/-- A stream of device `e` that draws the id of a stream of device `d` is removed with it. -/
theorem bulk_removal_removes_newer_stream :
    ¬ ∀ config calls r d ids, (performAll (.new config) calls).2 = r → Lists r d ids →
      SameContents (r.removeEach ids) (r.removeAllForDevice d).2 ∧
      (r.removeAllForDevice d).1.Nodup ∧
      (∀ m, m ∈ (r.removeAllForDevice d).1 ↔
        ∃ sid, r.mappings.lookup sid = some m ∧ m.deviceId = d) ∧
      ∀ sid m, r.mappings.lookup sid = some m → m.deviceId ≠ d →
        (r.removeAllForDevice d).2.mappings.lookup sid = some m ∧
        ∀ c, Index.Has (r.removeAllForDevice d).2.controllerToStreams c sid ↔
          Index.Has r.controllerToStreams c sid := by
  intro claim
  have reached : (performAll (.new ⟨60, 2, 1⟩) (List.replicate UInt64.size onlyStream ++
      [.createMapping 0 "e" "f" "M" 1])).2 =
      ((held 1).perform (.createMapping 0 "e" "f" "M" 1)).2 := by
    rw [performAll_concat, performAll_allIds]
  obtain ⟨-, -, removed, -⟩ := claim _ _ _ "d" _ reached (List.Perm.refl _)
  obtain ⟨sid, -, device⟩ := (removed ⟨"strm-1", "e", "f", "M", 0, 0, 0, 1⟩).1 (by decide +kernel)
  exact absurd device (by decide)

end StreamRouter

end GrpcRelay
