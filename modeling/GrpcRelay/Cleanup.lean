import GrpcRelay.Sessions
import GrpcRelay.Router

/-!
# The cleanup of a stream that does not own its device's session

A device stream can end while the active session of its device belongs to another stream: a later
`Register` replaced its session, or its own `Register` was accepted and then refused by a limit.
The cleanup removes the session only if it is the stream's own, but takes the requests in flight and
removes the stream mappings of the device in any case.  `foreign_cleanup_undisturbed_iff` says when
such a cleanup does no harm: when the device has neither.
-/

namespace GrpcRelay

namespace RelayState

/-- The entries collected are gone. -/
theorem lookup_takeInflightForDevice (st : RelayState) (did : String) (k : RequestKey) :
    (st.takeInflightForDevice did).2.inflightBySequence.entries.lookup k = none ↔
      k ∈ st.inflightKeysForDevice did ∨ st.inflightBySequence.entries.lookup k = none := by
  have erases (acc : List (ℤ × ℕ) × RelayState) (key : RequestKey) :
      (takeInflightOne acc key).2.inflightBySequence.entries =
        acc.2.inflightBySequence.entries.erase key := by
    rw [takeInflightOne_state]
    exact SingleFlight.Table.entries_take _ _
  rw [takeInflightForDevice, DashMap.lookup_foldl_erase
    (fun acc : List (ℤ × ℕ) × RelayState => acc.2.inflightBySequence.entries) erases]
  split_ifs with collected <;> simp [collected]

theorem sessions_takeInflightForDevice (st : RelayState) (did : String) :
    (st.takeInflightForDevice did).2.sessionsByDeviceId = st.sessionsByDeviceId :=
  congrArg SessionMaps.sessionsByDeviceId (maps_takeInflightForDevice st did)

theorem sessions_completeAll (st : RelayState) (did : String) (inflight : List (ℤ × ℕ)) :
    (st.completeAll did inflight).sessionsByDeviceId = st.sessionsByDeviceId :=
  congrArg SessionMaps.sessionsByDeviceId (maps_completeAll st did inflight)

theorem entries_completeAll (st : RelayState) (did : String) (inflight : List (ℤ × ℕ)) :
    (st.completeAll did inflight).inflightBySequence.entries = st.inflightBySequence.entries := by
  unfold completeAll
  induction inflight generalizing st with
  | nil => rfl
  | cons e inflight ih => exact ih _

end RelayState

namespace StreamRouter

/-- Without mappings for the streams filed under a device, nothing is removed. -/
theorem removeAllForDevice_unmapped {r : StreamRouter} {did : String}
    (unmapped : ∀ ids, r.deviceToStreams.lookup did = some ids → ∀ sid ∈ ids,
      r.mappings.lookup sid = none) :
    (r.removeAllForDevice did).1 = [] ∧ (r.removeAllForDevice did).2.mappings = r.mappings := by
  have rounds (ids : List String) (acc : List StreamMapping × StreamRouter)
      (absent : ∀ sid ∈ ids, acc.2.mappings.lookup sid = none) :
      ids.foldl removeForDevice acc = acc := by
    induction ids with
    | nil => rfl
    | cons sid ids ih =>
      rw [List.foldl_cons, show removeForDevice acc sid = acc by
        simp [removeForDevice, absent sid (by simp)]]
      exact ih fun sid' h => absent sid' (List.mem_cons_of_mem _ h)
  unfold removeAllForDevice
  cases filed : r.deviceToStreams.lookup did with
  | none => exact ⟨rfl, rfl⟩
  | some ids =>
    simp only
    rw [removeInOrder, rounds ids.keys _ (unmapped ids filed)]
    exact ⟨rfl, rfl⟩

end StreamRouter

/-! ## What a cleanup leaves -/

/-- Sessions, requests in flight and stream mappings are as before, and no controller was told that
a device is offline. -/
structure Undisturbed (s s' : State) : Prop where
  sessions : s'.shared.relay.sessionsByDeviceId = s.shared.relay.sessionsByDeviceId
  inflight : s'.shared.relay.inflightBySequence = s.shared.relay.inflightBySequence
  mappings : s'.shared.router.mappings = s.shared.router.mappings
  untold : ∀ events, s'.trace = s.trace ++ events → ∀ c r, .notified c r ∉ events

/-- The device has no request in flight, and none of the streams filed under it has a mapping. -/
structure Unused (s : State) (did : String) : Prop where
  inflight : ∀ q, s.shared.relay.inflightBySequence.entries.lookup (did, q) = none
  mappings : ∀ ids, s.shared.router.deviceToStreams.lookup did = some ids → ∀ sid ∈ ids,
    s.shared.router.mappings.lookup sid = none

namespace Device

variable {cfg : Config} {sh : Shared} {l : Device} {reason : DisconnectReason} {did : String}

theorem ownsSession_congr {sh' : Shared}
    (sessions : sh'.relay.sessionsByDeviceId = sh.relay.sessionsByDeviceId) :
    ownsSession sh' l did = ownsSession sh l did := by
  unfold ownsSession RelayState.hasActiveDeviceConnection
  rw [sessions]

/-- The cleanup of a stream that does not own the session. -/
theorem cleanupOf_foreign (foreign : ownsSession sh l did = false) :
    cleanupOf cfg sh l reason did =
      ⟨{ sh with
          relay := (sh.relay.takeInflightForDevice did).2.completeAll did
            (sh.relay.takeInflightForDevice did).1
          router := (sh.router.removeAllForDevice did).2 },
        l.goto .done,
        (sh.relay.takeInflightForDevice did).1.map
            (fun e => Event.inflight sh.now (.taken (did, e.1) e.2)) ++
          (sh.relay.takeInflightForDevice did).1.map
            (fun e => Event.inflight sh.now (.completed e.2 (Controller.offlineReply did e.1))) ++
          notices did (sh.router.removeAllForDevice did).1⟩ := by
  unfold cleanupOf
  refine if_neg ?_
  rw [Bool.not_eq_true, ownsSession_congr, foreign]
  exact (RelayState.sessions_completeAll _ _ _).trans
    (RelayState.sessions_takeInflightForDevice _ _)

end Device

variable {cfg : Config} {s s' : State} {i : ℕ} {did : String}

/-- The scan collects the keys of the requests to the device. -/
theorem mem_inflightKeysForDevice (h : Reachable cfg s) {q : ℤ} {a : ℕ}
    (mapped : s.shared.relay.inflightBySequence.entries.lookup (did, q) = some a) :
    (did, q) ∈ s.shared.relay.inflightKeysForDevice did := by
  have C := custody_of_reachable h
  obtain ⟨c, hc, hk⟩ := C.run.ledger.sound.mapped (did, q) a mapped
  have tag : s.shared.relay.inflightDeviceId a = some did := by
    rw [RelayState.inflightDeviceId, hc, Option.map_some, C.tagged a c hc, hk]
  refine List.mem_filterMap.2 ⟨⟨(did, q), a⟩, (DashMap.mem_entries_iff _ _ _).2 mapped, ?_⟩
  exact if_pos tag

/-- With no request in flight for the device, the scan collects nothing. -/
theorem inflightKeysForDevice_eq_nil (h : Reachable cfg s)
    (unused : ∀ q, s.shared.relay.inflightBySequence.entries.lookup (did, q) = none) :
    s.shared.relay.inflightKeysForDevice did = [] := by
  rw [List.eq_nil_iff_forall_not_mem]
  intro k hk
  have own := key_of_inflightKeysForDevice h did k hk
  obtain ⟨⟨k', a⟩, he, hk'⟩ := List.mem_filterMap.1 hk
  split_ifs at hk'
  cases hk'
  have mapped := (DashMap.mem_entries_iff _ _ _).1 he
  rw [show k' = (did, k'.2) from Prod.ext own rfl, unused] at mapped
  cases mapped

/-- The cleanup of a stream that does not own the active session of its device leaves the sessions,
the requests in flight and the stream mappings as they are, and tells no controller that the device
is offline, exactly when the device has no request in flight and no mapped stream. -/
theorem foreign_cleanup_undisturbed_iff (h : Atomic.Reachable cfg s)
    (device : (s.dev i).currentDeviceId = some did)
    (foreign : Device.ownsSession s.shared (s.dev i) did = false)
    (cleaned : Atomic.step cfg s (.cleanup i) = some s') :
    Undisturbed s s' ↔ Unused s did := by
  have hr := reachable_of_atomic h
  obtain ⟨reason, rfl⟩ : ∃ reason, s' = s.afterDev i
      (Device.cleanupOf cfg s.shared (s.dev i) reason did) := by
    simp only [Atomic.step] at cleaned
    split at cleaned
    · rename_i reason _
      refine ⟨reason, ?_⟩
      simpa [Device.cleanup, device] using cleaned.symm
    · cases cleaned
  rw [Device.cleanupOf_foreign foreign]
  constructor
  · intro U
    constructor
    · intro q
      by_contra mapped
      obtain ⟨a, mapped⟩ := Option.ne_none_iff_exists'.1 mapped
      have gone := (RelayState.lookup_takeInflightForDevice s.shared.relay did (did, q)).2
        (Or.inl (mem_inflightKeysForDevice hr mapped))
      have same := congrArg (fun t : InflightTable => t.entries.lookup (did, q)) U.inflight
      simp only [State.afterDev, RelayState.entries_completeAll, gone, mapped] at same
      cases same
    · intro ids filed sid hsid
      have gone := StreamRouter.lookup_removeAllForDevice filed sid
      rw [if_pos (AList.mem_keys.1 hsid)] at gone
      rw [← U.mappings]
      exact gone
  · rintro ⟨inflight, mappings⟩
    have taken : s.shared.relay.takeInflightForDevice did = ([], s.shared.relay) := by
      rw [RelayState.takeInflightForDevice, inflightKeysForDevice_eq_nil hr inflight]
      rfl
    obtain ⟨removed, router⟩ := StreamRouter.removeAllForDevice_unmapped mappings
    rw [taken, removed]
    refine ⟨rfl, rfl, router, ?_⟩
    intro events trace c r
    rw [← List.append_cancel_left trace]
    simp [Device.notices]

/-! ### Concrete runs -/

namespace Small

/-- A `Register` for device `"d"`. -/
def registration : DeviceMessage := ⟨"d", "t", some (.register ⟨"d", [], ""⟩)⟩

/-- Stream 1 replaces the session of stream 0, and stream 0 ends. -/
def supersededRun : List Atomic.Action :=
  [.message 0 registration true, .message 1 registration true, .hangUp 0 .gracefulShutdown]

/-- The same with a request in flight on the new session. -/
def supersededBusyRun : List Atomic.Action :=
  [Atomic.Action.message 0 registration true, .message 1 registration true] ++
    (join 0 (request 1) ++ forward 0).map Atomic.Action.other ++
    [Atomic.Action.hangUp 0 .gracefulShutdown]

end Small

/-- A stream whose session was replaced takes the request that is in flight on the new session. -/
theorem superseded_stream_takes_request :
    ¬ ∀ cfg s s' i did, Atomic.Reachable cfg s → (s.dev i).currentDeviceId = some did →
      Device.ownsSession s.shared (s.dev i) did = false →
      Atomic.step cfg s (.cleanup i) = some s' → Undisturbed s s' := by
  intro claim
  obtain ⟨s, hs, hf⟩ : ∃ s, Atomic.execute Small.config Small.supersededBusyRun = some s ∧
      ((s.dev 0).currentDeviceId, Device.ownsSession s.shared (s.dev 0) "d",
        s.shared.table.entries.lookup ("d", 1),
        (Atomic.step Small.config s (.cleanup 0)).map
          (·.shared.table.entries.lookup ("d", 1))) = (some "d", false, some 0, some none) :=
    Option.map_eq_some_iff.1 (by decide +kernel)
  simp only [Prod.mk.injEq] at hf
  obtain ⟨device, foreign, mapped, cleaned⟩ := hf
  obtain ⟨s', hs', gone⟩ := Option.map_eq_some_iff.1 cleaned
  have U := claim _ s s' 0 "d" (Atomic.reachable_of_execute hs) device foreign hs'
  rw [Shared.table, U.inflight, mapped] at gone
  cases gone

theorem superseded_idle_stream_leaves_session :
    ∃ s s', Atomic.Reachable Small.config s ∧ (s.dev 0).currentDeviceId = some "d" ∧
      Device.ownsSession s.shared (s.dev 0) "d" = false ∧
      Atomic.step Small.config s (.cleanup 0) = some s' ∧ Unused s "d" ∧ Undisturbed s s' := by
  obtain ⟨s, hs, hf⟩ : ∃ s, Atomic.execute Small.config Small.supersededRun = some s ∧
      ((s.dev 0).currentDeviceId, Device.ownsSession s.shared (s.dev 0) "d",
        s.shared.table.entries.keys.isEmpty, (s.shared.router.deviceToStreams.lookup "d").isNone,
        (Atomic.step Small.config s (.cleanup 0)).isSome) = (some "d", false, true, true, true) :=
    Option.map_eq_some_iff.1 (by decide +kernel)
  simp only [Prod.mk.injEq] at hf
  obtain ⟨device, foreign, inflight, streams, cleaned⟩ := hf
  obtain ⟨s', hs'⟩ := Option.isSome_iff_exists.1 cleaned
  have hr := Atomic.reachable_of_execute hs
  have unused : Unused s "d" := by
    constructor
    · intro q
      rw [AList.lookup_eq_none, AList.mem_keys, List.isEmpty_iff.1 inflight]
      exact List.not_mem_nil
    · intro ids filed
      simp [filed] at streams
  exact ⟨s, s', hr, device, foreign, hs', unused,
    (foreign_cleanup_undisturbed_iff hr device foreign hs').2 unused⟩

end GrpcRelay
