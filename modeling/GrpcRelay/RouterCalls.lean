import GrpcRelay.Router
import GrpcRelay.Lib.Locals

/-!
# The calls of the stream router, operation by operation

`create_mapping`, `remove_mapping` and `remove_all_for_device` (`stream.rs`) are not atomic: they
work on three maps and a counter, one entry at a time.  `CallPc` says where a call stands between
two of its operations and `CallPc.step` makes the next one; a call that is not interrupted does what
its function says (`leads_createMapping`, `leads_removeMapping`, `leads_removeAllForDevice`).

When calls are interleaved, a stream id may be in an index without a mapping only while a call is
under way that puts it there or takes it away (`Accounted`).
-/

namespace GrpcRelay

namespace StreamRouter

/-- What a call returns. -/
inductive CallResult where
  | created (result : Except StreamRouterError String)
  | removed (mapping : Option StreamMapping)
  | removedAll (mappings : List StreamMapping)

/-- Where a call stands. -/
inductive CallPc where
  /-- `create_mapping`, about to draw the stream id. -/
  | numbering (now : Instant) (deviceId controllerId methodName : String)
      (controllerTx : ControllerTx)
  /-- About to add the id to the device's set. -/
  | trackingDevice (mapping : StreamMapping)
  /-- About to add the id to the controller's set. -/
  | trackingController (mapping : StreamMapping)
  /-- The controller has `current` streams; about to take the id from the device's set again. -/
  | rollingBack (mapping : StreamMapping) (current : ℕ)
  /-- About to insert the mapping. -/
  | inserting (mapping : StreamMapping)
  /-- `remove_mapping`, about to remove the mapping. -/
  | removing (streamId : String)
  /-- About to remove the id from the device's set. -/
  | untrackingDevice (streamId : String) (mapping : StreamMapping)
  /-- About to remove the id from the controller's set. -/
  | untrackingController (streamId : String) (mapping : StreamMapping)
  /-- `remove_all_for_device`, about to take the device's set. -/
  | taking (deviceId : String)
  /-- About to remove the mapping of the next id of the set. -/
  | sweeping (streamIds : List String) (removed : List StreamMapping)
  /-- About to remove the id of the mapping removed from the controller's set. -/
  | untrackingSwept (streamId : String) (mapping : StreamMapping) (streamIds : List String)
      (removed : List StreamMapping)
  | returned (result : CallResult)

namespace CallPc

/-- The next operation of a call. -/
def step (r : StreamRouter) : CallPc → StreamRouter × CallPc
  | .numbering now deviceId controllerId methodName controllerTx =>
    let (streamId, r) := r.generateStreamId
    (r, .trackingDevice
      ⟨streamId, deviceId, controllerId, methodName, now, now, 0, controllerTx⟩)
  | .trackingDevice mapping =>
    match track r.deviceToStreams mapping.deviceId mapping.streamId r.maxActiveStreams with
    | .error current =>
      (r, .returned (.created (.error
        (maxStreamsExceeded "device" mapping.deviceId current r.maxActiveStreams))))
    | .ok devices => ({ r with deviceToStreams := devices }, .trackingController mapping)
  | .trackingController mapping =>
    match track r.controllerToStreams mapping.controllerId mapping.streamId
      r.maxConcurrentStreamsPerController with
    | .error current => (r, .rollingBack mapping current)
    | .ok controllers => ({ r with controllerToStreams := controllers }, .inserting mapping)
  | .rollingBack mapping current =>
    ({ r with deviceToStreams := untrack r.deviceToStreams mapping.deviceId mapping.streamId },
      .returned (.created (.error (maxStreamsExceeded "controller" mapping.controllerId current
        r.maxConcurrentStreamsPerController))))
  | .inserting mapping =>
    ({ r with mappings := r.mappings.insert mapping.streamId mapping },
      .returned (.created (.ok mapping.streamId)))
  | .removing streamId =>
    match r.mappings.lookup streamId with
    | none => (r, .returned (.removed none))
    | some mapping =>
      ({ r with mappings := r.mappings.erase streamId }, .untrackingDevice streamId mapping)
  | .untrackingDevice streamId mapping =>
    ({ r with deviceToStreams := untrack r.deviceToStreams mapping.deviceId streamId },
      .untrackingController streamId mapping)
  | .untrackingController streamId mapping =>
    ({ r with
        controllerToStreams := untrack r.controllerToStreams mapping.controllerId streamId },
      .returned (.removed (some mapping)))
  | .taking deviceId =>
    match r.deviceToStreams.lookup deviceId with
    | none => (r, .returned (.removedAll []))
    | some streamIds =>
      ({ r with deviceToStreams := r.deviceToStreams.erase deviceId },
        .sweeping streamIds.keys [])
  | .sweeping (streamId :: streamIds) removed =>
    match r.mappings.lookup streamId with
    | none => (r, .sweeping streamIds removed)
    | some mapping =>
      ({ r with mappings := r.mappings.erase streamId },
        .untrackingSwept streamId mapping streamIds removed)
  | .sweeping [] removed => (r, .returned (.removedAll removed))
  | .untrackingSwept streamId mapping streamIds removed =>
    ({ r with
        controllerToStreams := untrack r.controllerToStreams mapping.controllerId streamId },
      .sweeping streamIds (removed ++ [mapping]))
  | .returned result => (r, .returned result)

/-- The stream id that the next operation draws. -/
def draws (r : StreamRouter) : CallPc → List String
  | .numbering .. => [r.nextStreamId]
  | _ => []

/-- Only `create_mapping` draws a stream id. -/
theorem counter_step (r : StreamRouter) (p : CallPc) :
    (p.draws r = [] ∧ (p.step r).1.counter = r.counter) ∨
      ((∃ now d c methodName tx, p = .numbering now d c methodName tx) ∧
        p.draws r = [r.nextStreamId] ∧ (p.step r).1.counter = (r.counter + 1) % UInt64.size) := by
  cases p with
  | numbering now d c methodName tx => exact Or.inr ⟨⟨now, d, c, methodName, tx, rfl⟩, rfl, rfl⟩
  | sweeping ids removed =>
    refine Or.inl ⟨rfl, ?_⟩
    cases ids with
    | nil => rfl
    | cons sid ids =>
      dsimp only [step]
      split <;> rfl
  | trackingDevice | trackingController | removing | taking =>
    refine Or.inl ⟨rfl, ?_⟩
    dsimp only [step]
    split <;> rfl
  | _ => exact Or.inl ⟨rfl, rfl⟩

/-- Only `create_mapping` stores a stream. -/
theorem mem_mappings_step {r : StreamRouter} {p : CallPc} {sid : String}
    (h : sid ∈ (p.step r).1.mappings) :
    sid ∈ r.mappings ∨ ∃ m, p = .inserting m ∧ sid = m.streamId := by
  cases p with
  | inserting m =>
    rcases (AList.mem_insert _).1 h with rfl | h
    · exact Or.inr ⟨m, rfl, rfl⟩
    · exact Or.inl h
  | sweeping ids removed =>
    refine Or.inl ?_
    cases ids with
    | nil => exact h
    | cons sid ids =>
      dsimp only [step] at h
      split at h
      · exact h
      · exact (AList.mem_erase.1 h).2
  | removing =>
    refine Or.inl ?_
    dsimp only [step] at h
    split at h
    · exact h
    · exact (AList.mem_erase.1 h).2
  | trackingDevice | trackingController | taking =>
    refine Or.inl ?_
    dsimp only [step] at h
    split at h <;> exact h
  | _ => exact Or.inl h

/-- Operations of a call without an interruption. -/
def Leads (now next : StreamRouter × CallPc) : Prop :=
  ∃ n : ℕ, (fun x : StreamRouter × CallPc => step x.1 x.2)^[n] now = next

variable {r : StreamRouter} {now next last : StreamRouter × CallPc}

theorem Leads.refl (now : StreamRouter × CallPc) : Leads now now := ⟨0, rfl⟩

theorem Leads.trans (h : Leads now next) (h' : Leads next last) : Leads now last := by
  obtain ⟨n, rfl⟩ := h
  obtain ⟨n', rfl⟩ := h'
  exact ⟨n' + n, Function.iterate_add_apply ..⟩

theorem Leads.head {pc : CallPc} (h : Leads (step r pc) last) : Leads (r, pc) last :=
  Leads.trans ⟨1, rfl⟩ h

/-- `create_mapping` without an interruption. -/
theorem leads_createMapping (now : Instant) (d c methodName : String) (tx : ControllerTx) :
    Leads (r, .numbering now d c methodName tx)
      ((r.createMapping now d c methodName tx).2,
        .returned (.created (r.createMapping now d c methodName tx).1)) := by
  refine .head (.head ?_)
  unfold createMapping
  dsimp only [step, generateStreamId]
  cases hd : track r.deviceToStreams d ("strm-" ++ toString r.counter) r.maxActiveStreams with
  | error current => exact .refl _
  | ok devices =>
    refine .head ?_
    dsimp only [step]
    cases hc : track r.controllerToStreams c ("strm-" ++ toString r.counter)
        r.maxConcurrentStreamsPerController with
    | error current => exact .head (.refl _)
    | ok controllers => exact .head (.refl _)

/-- `remove_mapping` without an interruption. -/
theorem leads_removeMapping (sid : String) :
    Leads (r, .removing sid)
      ((r.removeMapping sid).2, .returned (.removed (r.removeMapping sid).1)) := by
  refine .head ?_
  unfold removeMapping
  dsimp only [step]
  cases r.mappings.lookup sid with
  | none => exact .refl _
  | some mapping => exact .head (.head (.refl _))

theorem leads_sweeping (ids : List String) (removed : List StreamMapping) :
    Leads (r, .sweeping ids removed)
      ((ids.foldl removeForDevice (removed, r)).2,
        .returned (.removedAll (ids.foldl removeForDevice (removed, r)).1)) := by
  induction ids generalizing r removed with
  | nil => exact .head (.refl _)
  | cons sid ids ih =>
    refine .head ?_
    rw [List.foldl_cons, removeForDevice]
    dsimp only [step]
    cases r.mappings.lookup sid with
    | none => exact ih removed
    | some mapping => exact .head (ih _)

/-- `remove_all_for_device` without an interruption. -/
theorem leads_removeAllForDevice (d : String) :
    Leads (r, .taking d)
      ((r.removeAllForDevice d).2, .returned (.removedAll (r.removeAllForDevice d).1)) := by
  refine .head ?_
  unfold removeAllForDevice
  dsimp only [step]
  cases r.deviceToStreams.lookup d with
  | none => exact .refl _
  | some ids => exact leads_sweeping _ []

/-! ## What calls under way account for -/

/-- The mapping of a stream whose id is drawn and that is not stored yet. -/
@[simp] def creating : CallPc → Option StreamMapping
  | .trackingDevice m | .trackingController m | .rollingBack m _ | .inserting m => some m
  | _ => none

/-- The mapping whose id was added to the device's set and that is not stored. -/
@[simp] def deviceTracked : CallPc → Option StreamMapping
  | .trackingController m | .rollingBack m _ | .inserting m => some m
  | _ => none

/-- The mapping whose id was added to the controller's set and that is not stored. -/
@[simp] def controllerTracked : CallPc → Option StreamMapping
  | .inserting m => some m
  | _ => none

/-- The stream that is to be removed from the device's set, its mapping being removed. -/
@[simp] def deviceLeft : CallPc → Option (String × StreamMapping)
  | .untrackingDevice sid m => some (sid, m)
  | _ => none

/-- The stream that is to be removed from the controller's set, its mapping being removed. -/
@[simp] def controllerLeft : CallPc → Option (String × StreamMapping)
  | .untrackingDevice sid m | .untrackingController sid m | .untrackingSwept sid m _ _ =>
    some (sid, m)
  | _ => none

/-- The ids of the set taken whose mappings are still to be removed. -/
@[simp] def held : CallPc → List String
  | .sweeping ids _ | .untrackingSwept _ _ ids _ => ids
  | _ => []

theorem creating_of_deviceTracked {pc : CallPc} {m : StreamMapping}
    (h : pc.deviceTracked = some m) : pc.creating = some m := by
  cases pc <;> first | exact h | cases h

theorem creating_of_controllerTracked {pc : CallPc} {m : StreamMapping}
    (h : pc.controllerTracked = some m) : pc.creating = some m := by
  cases pc <;> first | exact h | cases h

theorem controllerLeft_of_deviceLeft {pc : CallPc} {x : String × StreamMapping}
    (h : pc.deviceLeft = some x) : pc.controllerLeft = some x := by
  cases pc <;> first | exact h | cases h

end CallPc

/-! ## Stream ids -/

section Accounts

variable {κ : Type} [DecidableEq κ] {pc : κ → CallPc} {k : κ} {p : CallPc}
  {mappings mappings' : DashMap String StreamMapping} {drawn drawn' : List String}
  {index index' : Index String String} {sid : String} {m : StreamMapping}

/-- The streams stored, those being created and those being removed have different ids, which were
drawn. -/
structure Ids (mappings : DashMap String StreamMapping) (pc : κ → CallPc) (drawn : List String) :
    Prop where
  streamId : ∀ sid m, mappings.lookup sid = some m → m.streamId = sid
  stored : ∀ sid m, mappings.lookup sid = some m → sid ∈ drawn
  creating : ∀ k m, (pc k).creating = some m →
    m.streamId ∈ drawn ∧ mappings.lookup m.streamId = none
  unique : ∀ k k' m m', (pc k).creating = some m → (pc k').creating = some m' →
    m.streamId = m'.streamId → k = k'
  left : ∀ k sid m, (pc k).controllerLeft = some (sid, m) →
    sid ∈ drawn ∧ mappings.lookup sid = none ∧
      ∀ k' m', (pc k').creating = some m' → m'.streamId ≠ sid
  leftUnique : ∀ k k' sid m m', (pc k).controllerLeft = some (sid, m) →
    (pc k').controllerLeft = some (sid, m') → k = k'

namespace Ids

open Locals

/-- Streams become fewer. -/
theorem move (I : Ids mappings pc drawn)
    (stored : ∀ sid m, mappings'.lookup sid = some m → mappings.lookup sid = some m)
    (creating : ∀ m, p.creating = some m → (pc k).creating = some m)
    (left : ∀ x, p.controllerLeft = some x → (pc k).controllerLeft = some x) :
    Ids mappings' (Function.update pc k p) drawn := by
  have absent {sid : String} (h : mappings.lookup sid = none) : mappings'.lookup sid = none := by
    rw [Option.eq_none_iff_forall_ne_some]
    intro m found
    rw [stored sid m found] at h
    cases h
  have creates {j : κ} {m : StreamMapping}
      (h : (Function.update pc k p j).creating = some m) : (pc j).creating = some m := by
    rcases of_update h with ⟨hj, h⟩ | ⟨-, h⟩
    · exact hj ▸ creating m h
    · exact h
  have leaves {j : κ} {x : String × StreamMapping}
      (h : (Function.update pc k p j).controllerLeft = some x) :
      (pc j).controllerLeft = some x := by
    rcases of_update h with ⟨hj, h⟩ | ⟨-, h⟩
    · exact hj ▸ left x h
    · exact h
  constructor
  · exact fun sid m h => I.streamId sid m (stored sid m h)
  · exact fun sid m h => I.stored sid m (stored sid m h)
  · intro j m h
    obtain ⟨mem, fresh⟩ := I.creating j m (creates h)
    exact ⟨mem, absent fresh⟩
  · exact fun j j' m m' h h' => I.unique j j' m m' (creates h) (creates h')
  · intro j sid m h
    obtain ⟨mem, fresh, others⟩ := I.left j sid m (leaves h)
    exact ⟨mem, absent fresh, fun j' m' h' => others j' m' (creates h')⟩
  · exact fun j j' sid m m' h h' => I.leftUnique j j' sid m m' (leaves h) (leaves h')

/-- An id is drawn that was not drawn before. -/
theorem draw (I : Ids mappings pc drawn) (fresh : m.streamId ∉ drawn) :
    Ids mappings (Function.update pc k (.trackingDevice m)) (drawn ++ [m.streamId]) := by
  have creates {j : κ} {m' : StreamMapping}
      (h : (Function.update pc k (.trackingDevice m) j).creating = some m') :
      (j = k ∧ m' = m) ∨ (pc j).creating = some m' := by
    rcases of_update h with ⟨hj, h⟩ | ⟨-, h⟩
    · exact Or.inl ⟨hj, (Option.some.inj h).symm⟩
    · exact Or.inr h
  have leaves {j : κ} {x : String × StreamMapping}
      (h : (Function.update pc k (.trackingDevice m) j).controllerLeft = some x) :
      (pc j).controllerLeft = some x := by
    rcases of_update h with ⟨hj, h⟩ | ⟨-, h⟩
    · cases h
    · exact h
  have old {sid : String} (h : sid ∈ drawn) : sid ∈ drawn ++ [m.streamId] :=
    List.mem_append_left _ h
  constructor
  · exact I.streamId
  · exact fun sid m' h => old (I.stored sid m' h)
  · intro j m' h
    rcases creates h with ⟨-, rfl⟩ | h
    · refine ⟨List.mem_append_right _ (List.mem_singleton.2 rfl), ?_⟩
      rw [Option.eq_none_iff_forall_ne_some]
      exact fun m'' found => fresh (I.stored _ m'' found)
    · exact ⟨old (I.creating j m' h).1, (I.creating j m' h).2⟩
  · intro j j' m₁ m₂ h h' same
    rcases creates h with ⟨rfl, rfl⟩ | created
    · rcases creates h' with ⟨rfl, -⟩ | created'
      · rfl
      · exact absurd (same ▸ (I.creating j' m₂ created').1) fresh
    · rcases creates h' with ⟨rfl, rfl⟩ | created'
      · exact absurd (same ▸ (I.creating j m₁ created).1) fresh
      · exact I.unique j j' m₁ m₂ created created' same
  · intro j sid m' h
    obtain ⟨mem, absent, others⟩ := I.left j sid m' (leaves h)
    refine ⟨old mem, absent, fun j' m'' h' => ?_⟩
    rcases creates h' with ⟨-, rfl⟩ | h'
    · rintro rfl
      exact fresh mem
    · exact others j' m'' h'
  · exact fun j j' sid m₁ m₂ h h' => I.leftUnique j j' sid m₁ m₂ (leaves h) (leaves h')

/-- The mapping of a stream being created is stored. -/
theorem insert (I : Ids mappings pc drawn) (creates : (pc k).creating = some m)
    (ended : p.creating = none) (idle : p.controllerLeft = none) :
    Ids (mappings.insert m.streamId m) (Function.update pc k p) drawn := by
  have others {j : κ} {m' : StreamMapping}
      (h : (Function.update pc k p j).creating = some m') :
      (pc j).creating = some m' ∧ m'.streamId ≠ m.streamId := by
    rcases of_update h with ⟨-, h⟩ | ⟨hj, h⟩
    · cases ended.symm.trans h
    · exact ⟨h, fun same => hj (I.unique j k m' m h creates same)⟩
  have leaves {j : κ} {x : String × StreamMapping}
      (h : (Function.update pc k p j).controllerLeft = some x) :
      (pc j).controllerLeft = some x := by
    rcases of_update h with ⟨-, h⟩ | ⟨-, h⟩
    · cases idle.symm.trans h
    · exact h
  have absent {sid : String} (other : sid ≠ m.streamId) (h : mappings.lookup sid = none) :
      (mappings.insert m.streamId m).lookup sid = none :=
    (AList.lookup_insert_ne other).trans h
  constructor
  · intro sid m' h
    rw [DashMap.lookup_insert_ite] at h
    split_ifs at h with hs
    · cases h
      exact hs.symm
    · exact I.streamId sid m' h
  · intro sid m' h
    rw [DashMap.lookup_insert_ite] at h
    split_ifs at h with hs
    · exact hs ▸ (I.creating k m creates).1
    · exact I.stored sid m' h
  · intro j m' h
    obtain ⟨h, other⟩ := others h
    exact ⟨(I.creating j m' h).1, absent other (I.creating j m' h).2⟩
  · exact fun j j' m₁ m₂ h h' => I.unique j j' m₁ m₂ (others h).1 (others h').1
  · intro j sid m' h
    obtain ⟨mem, fresh, created⟩ := I.left j sid m' (leaves h)
    exact ⟨mem, absent (created k m creates).symm fresh,
      fun j' m'' h' => created j' m'' (others h').1⟩
  · exact fun j j' sid m₁ m₂ h h' => I.leftUnique j j' sid m₁ m₂ (leaves h) (leaves h')

/-- A stream is removed from the mappings. -/
theorem erase (I : Ids mappings pc drawn) (found : mappings.lookup sid = some m)
    (idle : p.creating = none) (left : ∀ x, p.controllerLeft = some x → x.1 = sid) :
    Ids (mappings.erase sid) (Function.update pc k p) drawn := by
  have creates {j : κ} {m' : StreamMapping}
      (h : (Function.update pc k p j).creating = some m') : (pc j).creating = some m' := by
    rcases of_update h with ⟨-, h⟩ | ⟨-, h⟩
    · cases idle.symm.trans h
    · exact h
  have leaves {j : κ} {sid' : String} {m' : StreamMapping}
      (h : (Function.update pc k p j).controllerLeft = some (sid', m')) :
      (j = k ∧ sid' = sid) ∨ (pc j).controllerLeft = some (sid', m') := by
    rcases of_update h with ⟨hj, h⟩ | ⟨-, h⟩
    · exact Or.inl ⟨hj, left _ h⟩
    · exact Or.inr h
  have stored {sid' : String} {m' : StreamMapping}
      (h : (mappings.erase sid).lookup sid' = some m') : mappings.lookup sid' = some m' := by
    rw [DashMap.lookup_erase_ite] at h
    split_ifs at h
    exact h
  have absent {sid' : String} (h : mappings.lookup sid' = none) :
      (mappings.erase sid).lookup sid' = none := by
    rw [DashMap.lookup_erase_ite, h, ite_self]
  have foreign {j : κ} {m' m'' : StreamMapping}
      (h : (pc j).controllerLeft = some (sid, m')) (h' : mappings.lookup sid = some m'') :
      False := by
    cases (I.left j sid m' h).2.1.symm.trans h'
  constructor
  · exact fun sid' m' h => I.streamId sid' m' (stored h)
  · exact fun sid' m' h => I.stored sid' m' (stored h)
  · intro j m' h
    exact ⟨(I.creating j m' (creates h)).1, absent (I.creating j m' (creates h)).2⟩
  · exact fun j j' m₁ m₂ h h' => I.unique j j' m₁ m₂ (creates h) (creates h')
  · intro j sid' m' h
    rcases leaves h with ⟨-, rfl⟩ | h
    · refine ⟨I.stored sid' m found, AList.lookup_erase .., fun j' m'' h' => ?_⟩
      rintro rfl
      cases (I.creating j' m'' (creates h')).2.symm.trans found
    · obtain ⟨mem, fresh, others⟩ := I.left j sid' m' h
      exact ⟨mem, absent fresh, fun j' m'' h' => others j' m'' (creates h')⟩
  · intro j j' sid' m₁ m₂ h h'
    rcases leaves h with ⟨rfl, rfl⟩ | old
    · rcases leaves h' with ⟨rfl, -⟩ | old'
      · rfl
      · exact (foreign old' found).elim
    · rcases leaves h' with ⟨rfl, rfl⟩ | old'
      · exact (foreign old found).elim
      · exact I.leftUnique j j' sid' m₁ m₂ old old'

end Ids

/-! ## Indexes -/

variable {f : StreamMapping → String} {tracked : CallPc → Option StreamMapping}
  {left : CallPc → Option (String × StreamMapping)} {key : String}

/-- Why an id is in the set of a key: it is that of a stream with this key that is stored, that a
call has added and not stored, or that a call has removed and not taken from the set. -/
inductive Accountable (mappings : DashMap String StreamMapping) (pc : κ → CallPc)
    (f : StreamMapping → String) (tracked : CallPc → Option StreamMapping)
    (left : CallPc → Option (String × StreamMapping)) (key sid : String) : Prop
  | stored (m : StreamMapping) (found : mappings.lookup sid = some m) (own : f m = key)
  | tracked (k : κ) (m : StreamMapping) (at_pc : tracked (pc k) = some m) (own : f m = key)
      (id : m.streamId = sid)
  | left (k : κ) (m : StreamMapping) (at_pc : left (pc k) = some (sid, m)) (own : f m = key)

/-- A step of call `k` keeps the account of an id, if it does so where the id is stored or it is
call `k` that accounts for it. -/
theorem Accountable.step (h : Accountable mappings pc f tracked left key sid)
    (stored : ∀ m, mappings.lookup sid = some m → f m = key →
      Accountable mappings' (Function.update pc k p) f tracked left key sid)
    (own : ∀ m, tracked (pc k) = some m → f m = key → m.streamId = sid →
      Accountable mappings' (Function.update pc k p) f tracked left key sid)
    (gone : ∀ m, left (pc k) = some (sid, m) → f m = key →
      Accountable mappings' (Function.update pc k p) f tracked left key sid) :
    Accountable mappings' (Function.update pc k p) f tracked left key sid := by
  cases h with
  | stored m found hm => exact stored m found hm
  | tracked j m at_pc hm id =>
    by_cases hj : j = k
    · exact own m (hj ▸ at_pc) hm id
    · exact .tracked j m (by rwa [Function.update_of_ne hj]) hm id
  | left j m at_pc hm =>
    by_cases hj : j = k
    · exact gone m (hj ▸ at_pc) hm
    · exact .left j m (by rwa [Function.update_of_ne hj]) hm

/-- Every id in the index is accounted for, and there are no empty sets. -/
structure Listed (index : Index String String) (mappings : DashMap String StreamMapping)
    (pc : κ → CallPc) (f : StreamMapping → String) (tracked : CallPc → Option StreamMapping)
    (left : CallPc → Option (String × StreamMapping)) : Prop where
  has : ∀ key sid, index.Has key sid → Accountable mappings pc f tracked left key sid
  noEmpty : index.NoEmpty

namespace Listed

/-- The call goes on without a change. -/
theorem keep (L : Listed index mappings pc f tracked left)
    (tracks : ∀ m, tracked (pc k) = some m → tracked p = some m)
    (leaves : ∀ x, left (pc k) = some x → left p = some x) :
    Listed index mappings (Function.update pc k p) f tracked left := by
  refine ⟨fun key sid h => (L.has key sid h).step .stored ?_ ?_, L.noEmpty⟩
  · intro m at_pc own id
    exact .tracked k m (by rw [Function.update_self, tracks m at_pc]) own id
  · intro m at_pc own
    exact .left k m (by rw [Function.update_self, leaves _ at_pc]) own

/-- A call adds the id of a stream to the set of its key. -/
theorem track (L : Listed index mappings pc f tracked left) (untracked : tracked (pc k) = none)
    (unleft : left (pc k) = none) (at_pc : tracked p = some m) :
    Listed (index.insert (f m) m.streamId) mappings (Function.update pc k p) f tracked left := by
  refine ⟨fun key sid h => ?_, Index.noEmpty_insert L.noEmpty⟩
  rcases Index.has_insert.1 h with ⟨rfl, rfl⟩ | h
  · exact .tracked k m (by rw [Function.update_self, at_pc]) rfl rfl
  · refine (L.has key sid h).step .stored ?_ ?_
    · intro m' at_pc'
      cases untracked.symm.trans at_pc'
    · intro m' at_pc'
      cases unleft.symm.trans at_pc'

/-- A call takes the id that it added from the set again. -/
theorem rollBack (L : Listed index mappings pc f tracked left) (at_pc : tracked (pc k) = some m)
    (unleft : left (pc k) = none) :
    Listed (index.remove (f m) m.streamId) mappings (Function.update pc k p) f tracked left := by
  refine ⟨fun key sid h => ?_, Index.noEmpty_remove L.noEmpty⟩
  obtain ⟨h, other⟩ := Index.has_remove.1 h
  refine (L.has key sid h).step .stored ?_ ?_
  · intro m' at_pc' own id
    cases at_pc.symm.trans at_pc'
    exact absurd ⟨own.symm, id.symm⟩ other
  · intro m' at_pc'
    cases unleft.symm.trans at_pc'

/-- The stream whose id a call added is stored. -/
theorem store (L : Listed index mappings pc f tracked left) (at_pc : tracked (pc k) = some m)
    (unleft : left (pc k) = none) (fresh : mappings.lookup m.streamId = none) :
    Listed index (mappings.insert m.streamId m) (Function.update pc k p) f tracked left := by
  refine ⟨fun key sid h => (L.has key sid h).step ?_ ?_ ?_, L.noEmpty⟩
  · intro m' found own
    refine .stored m' ((AList.lookup_insert_ne ?_).trans found) own
    rintro rfl
    cases fresh.symm.trans found
  · intro m' at_pc' own id
    cases at_pc.symm.trans at_pc'
    exact .stored m (by rw [← id, AList.lookup_insert]) own
  · intro m' at_pc'
    cases unleft.symm.trans at_pc'

/-- A stream is removed from the mappings, by a call that will take it from its set. -/
theorem erase (L : Listed index mappings pc f tracked left)
    (found : mappings.lookup sid = some m) (untracked : tracked (pc k) = none)
    (unleft : left (pc k) = none) (at_pc : left p = some (sid, m)) :
    Listed index (mappings.erase sid) (Function.update pc k p) f tracked left := by
  refine ⟨fun key sid' h => (L.has key sid' h).step ?_ ?_ ?_, L.noEmpty⟩
  · intro m' found' own
    by_cases hs : sid' = sid
    · subst hs
      cases found.symm.trans found'
      exact .left k m (by rw [Function.update_self, at_pc]) own
    · exact .stored m' ((AList.lookup_erase_ne hs).trans found') own
  · intro m' at_pc'
    cases untracked.symm.trans at_pc'
  · intro m' at_pc'
    cases unleft.symm.trans at_pc'

/-- A stream that is in no set is removed from the mappings. -/
theorem eraseUnlisted (L : Listed index mappings pc f tracked left)
    (unlisted : ∀ key, ¬ index.Has key sid) (untracked : tracked (pc k) = none)
    (unleft : left (pc k) = none) :
    Listed index (mappings.erase sid) (Function.update pc k p) f tracked left := by
  refine ⟨fun key sid' h => (L.has key sid' h).step ?_ ?_ ?_, L.noEmpty⟩
  · intro m' found' own
    refine .stored m' ((AList.lookup_erase_ne ?_).trans found') own
    rintro rfl
    exact unlisted key h
  · intro m' at_pc'
    cases untracked.symm.trans at_pc'
  · intro m' at_pc'
    cases unleft.symm.trans at_pc'

/-- A call takes a stream that it removed from its set. -/
theorem remove (L : Listed index mappings pc f tracked left)
    (at_pc : left (pc k) = some (sid, m)) (untracked : tracked (pc k) = none) :
    Listed (index.remove (f m) sid) mappings (Function.update pc k p) f tracked left := by
  refine ⟨fun key sid' h => ?_, Index.noEmpty_remove L.noEmpty⟩
  obtain ⟨h, other⟩ := Index.has_remove.1 h
  refine (L.has key sid' h).step .stored ?_ ?_
  · intro m' at_pc'
    cases untracked.symm.trans at_pc'
  · intro m' at_pc' own
    cases at_pc.symm.trans at_pc'
    exact absurd ⟨own.symm, rfl⟩ other

/-- The set of a key is taken. -/
theorem take (L : Listed index mappings pc f tracked left) (untracked : tracked (pc k) = none)
    (unleft : left (pc k) = none) :
    Listed (AList.erase key index) mappings (Function.update pc k p) f tracked left := by
  refine ⟨fun key' sid' h => ?_, Index.noEmpty_erase L.noEmpty⟩
  refine (L.has key' sid' (Index.has_erase.1 h).2).step .stored ?_ ?_
  · intro m' at_pc'
    cases untracked.symm.trans at_pc'
  · intro m' at_pc'
    cases unleft.symm.trans at_pc'

end Listed

/-- The ids of the sets taken that have still to be visited are in no set of a device, and will not
be added to one. -/
def Swept (index : Index String String) (pc : κ → CallPc) (drawn : List String) : Prop :=
  ∀ k sid, sid ∈ (pc k).held → sid ∈ drawn ∧ (∀ d, ¬ index.Has d sid) ∧
    ∀ k' m, pc k' = .trackingDevice m → m.streamId ≠ sid

/-- Sets, ids to be visited and calls become fewer. -/
theorem Swept.move (S : Swept index pc drawn) (has : ∀ d sid, index'.Has d sid → index.Has d sid)
    (held : ∀ sid ∈ p.held, sid ∈ (pc k).held) (ended : ∀ m, p ≠ .trackingDevice m) :
    Swept index' (Function.update pc k p) drawn := by
  intro j sid h
  replace h : sid ∈ (pc j).held := by
    rcases Locals.mem_of_update h with ⟨hj, h⟩ | ⟨-, h⟩
    · exact hj ▸ held sid h
    · exact h
  obtain ⟨mem, unlisted, others⟩ := S j sid h
  refine ⟨mem, fun d h' => unlisted d (has d sid h'), fun j' m h' => ?_⟩
  rcases Locals.eq_of_update h' with ⟨-, h'⟩ | ⟨-, h'⟩
  · exact absurd h' (ended m)
  · exact others j' m h'

/-- The router and the calls under way, after the ids `drawn`. -/
structure Accounted (r : StreamRouter) (pc : κ → CallPc) (drawn : List String) : Prop extends
    Ids r.mappings pc drawn where
  devices : Listed r.deviceToStreams r.mappings pc (·.deviceId) CallPc.deviceTracked
    CallPc.deviceLeft
  controllers : Listed r.controllerToStreams r.mappings pc (·.controllerId)
    CallPc.controllerTracked CallPc.controllerLeft
  swept : Swept r.deviceToStreams pc drawn

variable {r : StreamRouter} {d d' : String}

namespace Accounted

omit [DecidableEq κ] in
/-- A new router, and no call under way. -/
theorem new (config : StreamConfig) (idle : ∀ k, ∃ result, pc k = .returned result) :
    Accounted (.new config) pc [] := by
  have creating (k : κ) : (pc k).creating = none := by
    obtain ⟨result, hp⟩ := idle k
    rw [hp]
    rfl
  have left (k : κ) : (pc k).controllerLeft = none := by
    obtain ⟨result, hp⟩ := idle k
    rw [hp]
    rfl
  have held (k : κ) : (pc k).held = [] := by
    obtain ⟨result, hp⟩ := idle k
    rw [hp]
    rfl
  refine ⟨⟨?_, ?_, ?_, ?_, ?_, ?_⟩, ⟨?_, Index.noEmpty_empty⟩, ⟨?_, Index.noEmpty_empty⟩, ?_⟩
  · intro sid m h
    cases h
  · intro sid m h
    cases h
  · intro k m h
    cases (creating k).symm.trans h
  · intro k k' m m' h
    cases (creating k).symm.trans h
  · intro k sid m h
    cases (left k).symm.trans h
  · intro k k' sid m m' h
    cases (left k).symm.trans h
  · exact fun key sid h => absurd h Index.not_has_empty
  · exact fun key sid h => absurd h Index.not_has_empty
  · intro k sid h
    rw [held k] at h
    cases h

omit [DecidableEq κ] in
/-- The id of a stream that is to be added to the set of its device is in no set. -/
theorem not_has_of_tracking (A : Accounted r pc drawn) (at_pc : pc k = .trackingDevice m) :
    ¬ Index.Has r.deviceToStreams d m.streamId := by
  intro h
  have creating : (pc k).creating = some m := by
    rw [at_pc]
    rfl
  cases A.devices.has d m.streamId h with
  | stored m' found own => cases (A.creating k m creating).2.symm.trans found
  | tracked j m' at_pc' own id =>
    obtain rfl := A.unique j k m' m (CallPc.creating_of_deviceTracked at_pc') creating id
    rw [at_pc] at at_pc'
    cases at_pc'
  | left j m' at_pc' own =>
    exact (A.left j _ m' (CallPc.controllerLeft_of_deviceLeft at_pc')).2.2 k m creating rfl

omit [DecidableEq κ] in
theorem drawn_of_has (A : Accounted r pc drawn) (h : Index.Has r.deviceToStreams d sid) :
    sid ∈ drawn := by
  cases A.devices.has d sid h with
  | stored m found own => exact A.stored sid m found
  | tracked j m at_pc own id =>
    exact id ▸ (A.creating j m (CallPc.creating_of_deviceTracked at_pc)).1
  | left j m at_pc own =>
    exact (A.left j sid m (CallPc.controllerLeft_of_deviceLeft at_pc)).1

omit [DecidableEq κ] in
/-- A stream that is stored is in no other set than that of its device. -/
theorem device_of_stored (A : Accounted r pc drawn) (h : Index.Has r.deviceToStreams d sid)
    (found : r.mappings.lookup sid = some m) : m.deviceId = d := by
  cases A.devices.has d sid h with
  | stored m' found' own =>
    cases found.symm.trans found'
    exact own
  | tracked j m' at_pc own id =>
    have fresh := (A.creating j m' (CallPc.creating_of_deviceTracked at_pc)).2
    rw [id] at fresh
    cases fresh.symm.trans found
  | left j m' at_pc own =>
    cases (A.left j sid m' (CallPc.controllerLeft_of_deviceLeft at_pc)).2.1.symm.trans found

omit [DecidableEq κ] in
/-- A stream that is stored is in no other set than that of its controller. -/
theorem controller_of_stored (A : Accounted r pc drawn)
    (h : Index.Has r.controllerToStreams d sid) (found : r.mappings.lookup sid = some m) :
    m.controllerId = d := by
  cases A.controllers.has d sid h with
  | stored m' found' own =>
    cases found.symm.trans found'
    exact own
  | tracked j m' at_pc own id =>
    have fresh := (A.creating j m' (CallPc.creating_of_controllerTracked at_pc)).2
    rw [id] at fresh
    cases fresh.symm.trans found
  | left j m' at_pc own => cases (A.left j sid m' at_pc).2.1.symm.trans found

omit [DecidableEq κ] in
/-- An id is in the set of one device. -/
theorem device_unique (A : Accounted r pc drawn) (h : Index.Has r.deviceToStreams d sid)
    (h' : Index.Has r.deviceToStreams d' sid) : d = d' := by
  cases A.devices.has d sid h with
  | stored m found own => exact own.symm.trans (A.device_of_stored h' found)
  | tracked j m at_pc own id =>
    have creating := CallPc.creating_of_deviceTracked at_pc
    cases A.devices.has d' sid h' with
    | stored m' found own' => exact (A.device_of_stored h found).symm.trans own'
    | tracked j' m' at_pc' own' id' =>
      obtain rfl := A.unique j j' m m' creating (CallPc.creating_of_deviceTracked at_pc')
        (id.trans id'.symm)
      cases at_pc.symm.trans at_pc'
      exact own.symm.trans own'
    | left j' m' at_pc' own' =>
      exact absurd id ((A.left j' sid m' (CallPc.controllerLeft_of_deviceLeft at_pc')).2.2 j m
        creating)
  | left j m at_pc own =>
    have left := CallPc.controllerLeft_of_deviceLeft at_pc
    cases A.devices.has d' sid h' with
    | stored m' found own' => exact (A.device_of_stored h found).symm.trans own'
    | tracked j' m' at_pc' own' id =>
      exact absurd id ((A.left j sid m left).2.2 j' m' (CallPc.creating_of_deviceTracked at_pc'))
    | left j' m' at_pc' own' =>
      obtain rfl := A.leftUnique j j' sid m m' left (CallPc.controllerLeft_of_deviceLeft at_pc')
      cases at_pc.symm.trans at_pc'
      exact own.symm.trans own'

/-- A call starts, or makes a step that changes nothing. -/
theorem move (A : Accounted r pc drawn)
    (creating : ∀ m, p.creating = some m → (pc k).creating = some m)
    (left : ∀ x, p.controllerLeft = some x → (pc k).controllerLeft = some x)
    (tracks : ∀ m, (pc k).deviceTracked = some m → p.deviceTracked = some m)
    (tracks' : ∀ m, (pc k).controllerTracked = some m → p.controllerTracked = some m)
    (leaves : ∀ x, (pc k).deviceLeft = some x → p.deviceLeft = some x)
    (leaves' : ∀ x, (pc k).controllerLeft = some x → p.controllerLeft = some x)
    (held : ∀ sid ∈ p.held, sid ∈ (pc k).held) (ended : ∀ m, p ≠ .trackingDevice m) :
    Accounted r (Function.update pc k p) drawn where
  toIds := A.toIds.move (fun _ _ h => h) creating left
  devices := A.devices.keep tracks leaves
  controllers := A.controllers.keep tracks' leaves'
  swept := A.swept.move (fun _ _ h => h) held ended

/-- The id of a stream to be created is drawn. -/
theorem draw (A : Accounted r pc drawn) {now : Instant} {c methodName : String} {tx : ControllerTx}
    (hp : pc k = .numbering now d c methodName tx) (fresh : r.nextStreamId ∉ drawn) :
    Accounted ((pc k).step r).1 (Function.update pc k ((pc k).step r).2)
      (drawn ++ [r.nextStreamId]) := by
  rw [hp]
  refine ⟨A.toIds.draw fresh, A.devices.keep ?_ ?_, A.controllers.keep ?_ ?_, ?_⟩
  iterate 4 simp [hp]
  intro j sid h
  rcases Locals.mem_of_update h with ⟨-, h⟩ | ⟨-, h⟩
  · cases h
  obtain ⟨mem, unlisted, others⟩ := A.swept j sid h
  refine ⟨List.mem_append_left _ mem, unlisted, fun j' m h' => ?_⟩
  rcases Locals.eq_of_update h' with ⟨-, h'⟩ | ⟨-, h'⟩
  · cases h'
    rintro rfl
    exact fresh mem
  · exact others j' m h'

/-- The id is added to the set of the device, or refused. -/
theorem trackDevice (A : Accounted r pc drawn) (hp : pc k = .trackingDevice m) :
    Accounted ((pc k).step r).1 (Function.update pc k ((pc k).step r).2) drawn := by
  have unlisted (d : String) := A.not_has_of_tracking (d := d) hp
  rw [hp]
  dsimp only [CallPc.step]
  split
  · refine A.move ?_ ?_ ?_ ?_ ?_ ?_ ?_ ?_ <;> simp [hp]
  · rename_i devices tracked
    obtain ⟨rfl, -⟩ := track_ok tracked
    refine ⟨A.toIds.move (fun _ _ h => h) ?_ ?_, A.devices.track ?_ ?_ rfl,
      A.controllers.keep ?_ ?_, ?_⟩
    iterate 6 simp [hp]
    intro j sid h
    rcases Locals.mem_of_update h with ⟨-, h⟩ | ⟨-, h⟩
    · cases h
    obtain ⟨mem, swept, others⟩ := A.swept j sid h
    refine ⟨mem, fun d h => ?_, fun j' m' h' => ?_⟩
    · rcases Index.has_insert.1 h with ⟨-, rfl⟩ | h
      · exact others k m hp rfl
      · exact swept d h
    · rcases Locals.eq_of_update h' with ⟨-, h'⟩ | ⟨-, h'⟩
      · cases h'
      · exact others j' m' h'

/-- The id is added to the set of the controller, or refused. -/
theorem trackController (A : Accounted r pc drawn) (hp : pc k = .trackingController m) :
    Accounted ((pc k).step r).1 (Function.update pc k ((pc k).step r).2) drawn := by
  rw [hp]
  dsimp only [CallPc.step]
  split
  · refine A.move ?_ ?_ ?_ ?_ ?_ ?_ ?_ ?_ <;> simp [hp]
  · rename_i controllers tracked
    obtain ⟨rfl, -⟩ := track_ok tracked
    refine ⟨A.toIds.move (fun _ _ h => h) ?_ ?_, A.devices.keep ?_ ?_,
      A.controllers.track ?_ ?_ rfl, A.swept.move (fun _ _ h => h) ?_ ?_⟩ <;> simp [hp]

/-- A refused stream is taken from the set of its device. -/
theorem rollBack (A : Accounted r pc drawn) {current : ℕ} (hp : pc k = .rollingBack m current) :
    Accounted ((pc k).step r).1 (Function.update pc k ((pc k).step r).2) drawn := by
  rw [hp]
  dsimp only [CallPc.step]
  rw [untrack_eq]
  refine ⟨A.toIds.move (fun _ _ h => h) ?_ ?_, A.devices.rollBack ?_ ?_,
    A.controllers.keep ?_ ?_, A.swept.move (fun _ _ h => (Index.has_remove.1 h).1) ?_ ?_⟩ <;>
    simp [hp]

/-- The mapping is stored. -/
theorem insert (A : Accounted r pc drawn) (hp : pc k = .inserting m) :
    Accounted ((pc k).step r).1 (Function.update pc k ((pc k).step r).2) drawn := by
  have creating : (pc k).creating = some m := by simp [hp]
  have fresh := (A.creating k m creating).2
  rw [hp]
  dsimp only [CallPc.step]
  refine ⟨A.toIds.insert creating ?_ ?_, A.devices.store ?_ ?_ fresh,
    A.controllers.store ?_ ?_ fresh, A.swept.move (fun _ _ h => h) ?_ ?_⟩ <;> simp [hp]

/-- `remove_mapping` removes the mapping, if there is one. -/
theorem remove (A : Accounted r pc drawn) (hp : pc k = .removing sid) :
    Accounted ((pc k).step r).1 (Function.update pc k ((pc k).step r).2) drawn := by
  rw [hp]
  dsimp only [CallPc.step]
  split
  · refine A.move ?_ ?_ ?_ ?_ ?_ ?_ ?_ ?_ <;> simp [hp]
  · rename_i m found
    refine ⟨A.toIds.erase found ?_ ?_, A.devices.erase found ?_ ?_ ?_,
      A.controllers.erase found ?_ ?_ ?_, A.swept.move (fun _ _ h => h) ?_ ?_⟩ <;> simp [hp]

theorem untrackDevice (A : Accounted r pc drawn) (hp : pc k = .untrackingDevice sid m) :
    Accounted ((pc k).step r).1 (Function.update pc k ((pc k).step r).2) drawn := by
  rw [hp]
  dsimp only [CallPc.step]
  rw [untrack_eq]
  refine ⟨A.toIds.move (fun _ _ h => h) ?_ ?_, A.devices.remove ?_ ?_, A.controllers.keep ?_ ?_,
    A.swept.move (fun _ _ h => (Index.has_remove.1 h).1) ?_ ?_⟩ <;> simp [hp]

theorem untrackController (A : Accounted r pc drawn)
    (hp : pc k = .untrackingController sid m) :
    Accounted ((pc k).step r).1 (Function.update pc k ((pc k).step r).2) drawn := by
  rw [hp]
  dsimp only [CallPc.step]
  rw [untrack_eq]
  refine ⟨A.toIds.move (fun _ _ h => h) ?_ ?_, A.devices.keep ?_ ?_, A.controllers.remove ?_ ?_,
    A.swept.move (fun _ _ h => h) ?_ ?_⟩ <;> simp [hp]

/-- `remove_all_for_device` takes the set of the device, if there is one. -/
theorem take (A : Accounted r pc drawn) (hp : pc k = .taking d) :
    Accounted ((pc k).step r).1 (Function.update pc k ((pc k).step r).2) drawn := by
  rw [hp]
  dsimp only [CallPc.step]
  split
  · refine A.move ?_ ?_ ?_ ?_ ?_ ?_ ?_ ?_ <;> simp [hp]
  · rename_i ids found
    refine ⟨A.toIds.move (fun _ _ h => h) ?_ ?_, A.devices.take ?_ ?_, A.controllers.keep ?_ ?_,
      ?_⟩
    iterate 6 simp [hp]
    intro j sid h
    have others (j' : κ) (m' : StreamMapping)
        (h' : Function.update pc k (.sweeping ids.keys []) j' = .trackingDevice m') :
        pc j' = .trackingDevice m' := by
      rcases Locals.eq_of_update h' with ⟨-, h'⟩ | ⟨-, h'⟩
      · cases h'
      · exact h'
    rcases Locals.mem_of_update h with ⟨-, h⟩ | ⟨-, h⟩
    · have listed : Index.Has r.deviceToStreams d sid := by
        rwa [Index.Has, Index.ids_of_lookup found]
      refine ⟨A.drawn_of_has listed, fun d' h' => ?_, fun j' m' h' => ?_⟩
      · obtain ⟨hd, h'⟩ := Index.has_erase.1 h'
        exact hd (A.device_unique h' listed)
      · rintro rfl
        exact A.not_has_of_tracking (others j' m' h') listed
    · obtain ⟨mem, unlisted, tracking⟩ := A.swept j sid h
      exact ⟨mem, fun d' h' => unlisted d' (Index.has_erase.1 h').2,
        fun j' m' h' => tracking j' m' (others j' m' h')⟩

/-- The mapping of the next id of the set is removed, if there is one. -/
theorem sweep (A : Accounted r pc drawn) {ids : List String} {removed : List StreamMapping}
    (hp : pc k = .sweeping ids removed) :
    Accounted ((pc k).step r).1 (Function.update pc k ((pc k).step r).2) drawn := by
  rw [hp]
  cases ids with
  | nil =>
    dsimp only [CallPc.step]
    refine A.move ?_ ?_ ?_ ?_ ?_ ?_ ?_ ?_ <;> simp [hp]
  | cons sid ids =>
    have unlisted := (A.swept k sid (by simp [hp])).2.1
    dsimp only [CallPc.step]
    split
    · refine A.move ?_ ?_ ?_ ?_ ?_ ?_ ?_ ?_ <;> simp +contextual [hp]
    · rename_i m found
      refine ⟨A.toIds.erase found ?_ ?_, A.devices.eraseUnlisted unlisted ?_ ?_,
        A.controllers.erase found ?_ ?_ ?_, A.swept.move (fun _ _ h => h) ?_ ?_⟩ <;>
        simp +contextual [hp]

theorem untrackSwept (A : Accounted r pc drawn) {ids : List String}
    {removed : List StreamMapping} (hp : pc k = .untrackingSwept sid m ids removed) :
    Accounted ((pc k).step r).1 (Function.update pc k ((pc k).step r).2) drawn := by
  rw [hp]
  dsimp only [CallPc.step]
  rw [untrack_eq]
  refine ⟨A.toIds.move (fun _ _ h => h) ?_ ?_, A.devices.keep ?_ ?_, A.controllers.remove ?_ ?_,
    A.swept.move (fun _ _ h => h) ?_ ?_⟩ <;> simp [hp]

omit [DecidableEq κ] in
/-- A change of a mapping that is not to its ids keeps the accounts. -/
theorem modify (A : Accounted r pc drawn) {g : StreamMapping → StreamMapping}
    (ids : ∀ m, (g m).streamId = m.streamId ∧ (g m).deviceId = m.deviceId ∧
      (g m).controllerId = m.controllerId) :
    Accounted { r with mappings := DashMap.modify r.mappings sid g } pc drawn := by
  have old {sid' : String} {m' : StreamMapping}
      (h : (DashMap.modify r.mappings sid g).lookup sid' = some m') :
      ∃ m, r.mappings.lookup sid' = some m ∧ m'.streamId = m.streamId := by
    rw [DashMap.lookup_modify] at h
    split_ifs at h
    · obtain ⟨m, found, rfl⟩ := Option.map_eq_some_iff.1 h
      exact ⟨m, found, (ids m).1⟩
    · exact ⟨m', h, rfl⟩
  have absent {sid' : String} (h : r.mappings.lookup sid' = none) :
      (DashMap.modify r.mappings sid g).lookup sid' = none := by
    rw [DashMap.lookup_modify, h]
    split_ifs <;> rfl
  have stored {sid' : String} {m : StreamMapping} {f : StreamMapping → String}
      (same : ∀ m, f (g m) = f m) (h : r.mappings.lookup sid' = some m) :
      ∃ m', (DashMap.modify r.mappings sid g).lookup sid' = some m' ∧ f m' = f m := by
    rw [DashMap.lookup_modify, h]
    split_ifs
    · exact ⟨g m, rfl, same m⟩
    · exact ⟨m, rfl, rfl⟩
  have accountable {f : StreamMapping → String} {tracked : CallPc → Option StreamMapping}
      {left : CallPc → Option (String × StreamMapping)} {key sid' : String}
      (same : ∀ m, f (g m) = f m)
      (h : Accountable r.mappings pc f tracked left key sid') :
      Accountable (DashMap.modify r.mappings sid g) pc f tracked left key sid' := by
    cases h with
    | stored m found own =>
      obtain ⟨m', found', own'⟩ := stored same found
      exact .stored m' found' (own'.trans own)
    | tracked k m at_pc own id => exact .tracked k m at_pc own id
    | left k m at_pc own => exact .left k m at_pc own
  refine ⟨⟨?_, ?_, ?_, A.unique, ?_, A.leftUnique⟩,
    ⟨fun key sid' h => accountable (fun m => (ids m).2.1) (A.devices.has key sid' h),
      A.devices.noEmpty⟩,
    ⟨fun key sid' h => accountable (fun m => (ids m).2.2) (A.controllers.has key sid' h),
      A.controllers.noEmpty⟩, A.swept⟩
  · intro sid' m' h
    obtain ⟨m, found, same⟩ := old h
    rw [same, A.streamId sid' m found]
  · intro sid' m' h
    obtain ⟨m, found, -⟩ := old h
    exact A.stored sid' m found
  · intro k m h
    exact ⟨(A.creating k m h).1, absent (A.creating k m h).2⟩
  · intro k sid' m h
    obtain ⟨mem, fresh, others⟩ := A.left k sid' m h
    exact ⟨mem, absent fresh, others⟩

/-- Every operation of a call keeps the accounts, if the ids drawn are new. -/
theorem step (A : Accounted r pc drawn) (k : κ)
    (fresh : (pc k).draws r = [] ∨ r.nextStreamId ∉ drawn) :
    Accounted ((pc k).step r).1 (Function.update pc k ((pc k).step r).2)
      (drawn ++ (pc k).draws r) := by
  have silent (none : (pc k).draws r = [])
      (A' : Accounted ((pc k).step r).1 (Function.update pc k ((pc k).step r).2) drawn) :
      Accounted ((pc k).step r).1 (Function.update pc k ((pc k).step r).2)
        (drawn ++ (pc k).draws r) := by
    rwa [none, List.append_nil]
  cases hp : pc k <;> rw [← hp]
  case numbering now d c methodName tx =>
    have draws : (pc k).draws r = [r.nextStreamId] := by
      rw [hp]
      rfl
    rw [draws] at fresh ⊢
    exact A.draw hp (fresh.resolve_left (by simp))
  case trackingDevice m => exact silent (by rw [hp]; rfl) (A.trackDevice hp)
  case trackingController m => exact silent (by rw [hp]; rfl) (A.trackController hp)
  case rollingBack m current => exact silent (by rw [hp]; rfl) (A.rollBack hp)
  case inserting m => exact silent (by rw [hp]; rfl) (A.insert hp)
  case removing sid => exact silent (by rw [hp]; rfl) (A.remove hp)
  case untrackingDevice sid m => exact silent (by rw [hp]; rfl) (A.untrackDevice hp)
  case untrackingController sid m => exact silent (by rw [hp]; rfl) (A.untrackController hp)
  case taking d => exact silent (by rw [hp]; rfl) (A.take hp)
  case sweeping ids removed => exact silent (by rw [hp]; rfl) (A.sweep hp)
  case untrackingSwept sid m ids removed => exact silent (by rw [hp]; rfl) (A.untrackSwept hp)
  case returned result =>
    refine silent (by rw [hp]; rfl) ?_
    rw [hp, CallPc.step]
    refine A.move ?_ ?_ ?_ ?_ ?_ ?_ ?_ ?_ <;> simp [hp]

end Accounted

end Accounts

/-! ## The ids drawn -/

/-- The stream ids drawn are the first ones, and the counter stands at the next. -/
structure Numbered (r : StreamRouter) (drawn : List String) : Prop where
  counter : r.counter = (drawn.length + 1) % UInt64.size
  drawn : drawn = Tickets.drawn "strm-" UInt64.size drawn.length

namespace Numbered

variable {r : StreamRouter} {drawn : List String}

/-- The next stream id is new. -/
theorem fresh (N : Numbered r drawn) (room : drawn.length < UInt64.size) :
    r.nextStreamId ∉ drawn := by
  have nodup : (Tickets.drawn "strm-" UInt64.size (drawn.length + 1)).Nodup :=
    Tickets.nodup_drawn room
  rw [Tickets.drawn_succ, List.nodup_append] at nodup
  rw [N.drawn]
  intro mem
  refine nodup.2.2 _ mem _ (List.mem_singleton.2 rfl) ?_
  rw [nextStreamId, N.counter]

theorem step (N : Numbered r drawn) (p : CallPc) :
    Numbered (p.step r).1 (drawn ++ p.draws r) := by
  rcases CallPc.counter_step r p with ⟨draws, counter⟩ | ⟨-, draws, counter⟩
  · rw [draws, List.append_nil]
    exact ⟨counter.trans N.counter, N.drawn⟩
  · rw [draws]
    constructor
    · rw [counter, N.counter, Nat.mod_add_mod, List.length_append, List.length_singleton]
    · rw [List.length_append, List.length_singleton, Tickets.drawn_succ, ← N.drawn, nextStreamId,
        N.counter]

end Numbered

end StreamRouter

end GrpcRelay
