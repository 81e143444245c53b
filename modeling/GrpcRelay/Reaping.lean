import GrpcRelay.Admission
import GrpcRelay.Lib.Runs
import Mathlib.Tactic.Linarith

/-!
# The idle reaper

`cleanup_stale` first collects the streams that are idle and then removes them by their ids, without
looking at them again.  In between the owners of the streams go on: a stream that gets a request
after it was collected is removed with the request (`busy_stream_is_reaped`).

The reaper is right about a stream in every run in which no owner writes to that stream between its
being collected and its removal (`reaped_streams_are_stale`).
-/

namespace GrpcRelay

namespace Reaping

open StreamRouter

/-- The calls that the owners of streams make. -/
inductive OwnerCall where
  | createMapping (deviceId controllerId methodName : String) (controllerTx : ControllerTx)
  | removeMapping (streamId : String)
  | removeAllForDevice (deviceId : String)
  | touchStream (streamId : String)
  | beginRequest (streamId : String)
  | finishRequest (streamId : String)
  deriving DecidableEq

/-- The call with its reading of the clock. -/
def OwnerCall.at (now : Instant) : OwnerCall → Call
  | .createMapping d c methodName tx => .createMapping now d c methodName tx
  | .removeMapping sid => .removeMapping sid
  | .removeAllForDevice d => .removeAllForDevice d
  | .touchStream sid => .touchStream sid now
  | .beginRequest sid => .beginRequest sid now
  | .finishRequest sid => .finishRequest sid now

/-- The stream to whose mapping a call writes. -/
def OwnerCall.writes (r : StreamRouter) (now : Instant) : OwnerCall → Option String
  | .createMapping d c methodName tx => (r.createMapping now d c methodName tx).1.toOption
  | .touchStream sid | .beginRequest sid | .finishRequest sid =>
    if sid ∈ r.mappings then some sid else none
  | .removeMapping _ | .removeAllForDevice _ => none

/-- The router, the clock and, while `cleanup_stale` runs, the time of its scan with the streams
that it has still to remove. -/
structure State where
  router : StreamRouter
  now : Instant
  cleanup : Option (Instant × List String)

/-- A fresh router, at time zero. -/
def State.init (config : StreamConfig) : State := ⟨.new config, 0, none⟩

/-- A step of an owner, of the clock or of `cleanup_stale`. -/
inductive Action where
  | owner (call : OwnerCall)
  | advance (now : Instant)
  /-- The first loop of `cleanup_stale`. -/
  | scan
  /-- One round of the second loop, or its end. -/
  | remove
  deriving DecidableEq

/-- One step of an owner, of the clock or of `cleanup_stale`. -/
def step (s : State) : Action → Option State
  | .owner call => some { s with router := (s.router.perform (call.at s.now)).2 }
  | .advance now => if s.now ≤ now then some { s with now := now } else none
  | .scan =>
    match s.cleanup with
    | none => some { s with cleanup := some (s.now, s.router.staleStreams s.now) }
    | some _ => none
  | .remove =>
    match s.cleanup with
    | some (scanned, sid :: stale) =>
      some { s with router := (s.router.removeMapping sid).2, cleanup := some (scanned, stale) }
    | some (_, []) => some { s with cleanup := none }
    | none => none

/-- The mapping that a step of `cleanup_stale` removes, with the time of the scan. -/
def removal (s : State) (a : Action) (_ : State) : List (Instant × StreamMapping) :=
  match a, s.cleanup with
  | .remove, some (scanned, sid :: _) =>
    (s.router.removeMapping sid).1.toList.map fun mapping => (scanned, mapping)
  | _, _ => []

/-- The runs whose steps meet `ok`, with the mappings that `cleanup_stale` removes. -/
abbrev Run (config : StreamConfig) (ok : State → Action → Prop) :
    List (Instant × StreamMapping) → State → Prop :=
  Runs.Logged step ok removal (State.init config)

/-- The streams that `cleanup_stale` has collected and not yet removed. -/
def State.collected (s : State) : List String := (s.cleanup.map Prod.snd).getD []

/-- No owner writes to the stream while it is collected. -/
def Spares (sid : String) (s : State) : Action → Prop
  | .owner call => call.writes s.router s.now = some sid → sid ∉ s.collected
  | _ => True

/-- The stream has no active request and was idle for `timeout` before the scan. -/
structure StaleAt (timeout : Duration) (scanned : Instant) (m : StreamMapping) : Prop where
  idle : m.activeRequests = 0
  old : m.lastActivity + timeout ≤ scanned

/-! ## What the owners do -/

variable {config : StreamConfig} {r : StreamRouter} {now : Instant} {sid : String}
  {m : StreamMapping} {s s' : State} {a : Action} {log : List (Instant × StreamMapping)}

/-- Every mapping is stored under its id. -/
def Keyed (r : StreamRouter) : Prop := ∀ sid m, r.mappings.lookup sid = some m → m.streamId = sid

/-- A mapping that is stored after a removal was stored before it. -/
theorem lookup_of_removeMapping {sid' : String}
    (found : (r.removeMapping sid').2.mappings.lookup sid = some m) :
    r.mappings.lookup sid = some m := by
  rw [lookup_removeMapping] at found
  split_ifs at found
  exact found

theorem lookup_of_removeAllForDevice {d : String}
    (found : (r.removeAllForDevice d).2.mappings.lookup sid = some m) :
    r.mappings.lookup sid = some m := by
  cases filed : r.deviceToStreams.lookup d with
  | none =>
    unfold removeAllForDevice at found
    rwa [filed] at found
  | some ids =>
    rw [lookup_removeAllForDevice filed] at found
    split_ifs at found
    exact found

/-- What a call of an owner leaves of a mapping: it was there before, or the call wrote to it. -/
inductive Written (r : StreamRouter) (now : Instant) (call : OwnerCall) (sid : String)
    (m : StreamMapping) : Prop
  | old (found : r.mappings.lookup sid = some m)
  | new (writes : call.writes r now = some sid) (activity : m.lastActivity = now)
      (streamId : m.streamId = sid)

theorem written_modify {call : OwnerCall} {sid' : String} {g : StreamMapping → StreamMapping}
    (K : Keyed r) (found : (DashMap.modify r.mappings sid' g).lookup sid = some m)
    (writes : call.writes r now = if sid' ∈ r.mappings then some sid' else none)
    (activity : ∀ m, (g m).lastActivity = now) (streamId : ∀ m, (g m).streamId = m.streamId) :
    Written r now call sid m := by
  rw [DashMap.lookup_modify] at found
  split_ifs at found with hs
  · subst hs
    obtain ⟨m', old, rfl⟩ := Option.map_eq_some_iff.1 found
    have mem : sid ∈ r.mappings := AList.lookup_isSome.1 (by rw [old]; rfl)
    exact .new (by rw [writes, if_pos mem]) (activity m') ((streamId m').trans (K sid m' old))
  · exact .old found

theorem written_of_owner (K : Keyed r) (call : OwnerCall)
    (found : (r.perform (call.at now)).2.mappings.lookup sid = some m) :
    Written r now call sid m := by
  cases call with
  | createMapping d c methodName tx =>
    have creates : Creates r now d c methodName tx (r.createMapping now d c methodName tx) :=
      creates_createMapping
    have writes : (OwnerCall.createMapping d c methodName tx).writes r now =
        (r.createMapping now d c methodName tx).1.toOption := rfl
    change (r.createMapping now d c methodName tx).2.mappings.lookup sid = some m at found
    generalize r.createMapping now d c methodName tx = out at creates writes found
    cases creates with
    | deviceFull | controllerFull => exact .old found
    | created =>
      rw [DashMap.lookup_insert_ite] at found
      split_ifs at found with hs
      · cases found
        exact .new (by rw [writes, hs]; rfl) rfl hs.symm
      · exact .old found
  | removeMapping sid' => exact .old (lookup_of_removeMapping found)
  | removeAllForDevice d => exact .old (lookup_of_removeAllForDevice found)
  | touchStream sid' | beginRequest sid' | finishRequest sid' =>
    exact written_modify K found rfl (fun _ => rfl) fun _ => rfl

/-! ## Runs -/

/-- Mappings are stored under their ids and were last active in the past; the stream is stale while
it is collected. -/
structure Sound (config : StreamConfig) (sid : String) (s : State) : Prop where
  timeout : s.router.idleTimeout = config.idleTimeoutSeconds
  keyed : Keyed s.router
  past : ∀ sid m, s.router.mappings.lookup sid = some m → m.lastActivity ≤ s.now
  stale : ∀ scanned stale, s.cleanup = some (scanned, stale) → sid ∈ stale → ∀ m,
    s.router.mappings.lookup sid = some m → StaleAt config.idleTimeoutSeconds scanned m

theorem Sound.init (config : StreamConfig) (sid : String) : Sound config sid (.init config) := by
  refine ⟨rfl, ?_, ?_, ?_⟩
  · intro sid m found
    cases found
  · intro sid m found
    cases found
  · intro scanned stale running
    cases running

theorem idleTimeout_removeForDevice (acc : List StreamMapping × StreamRouter) (sid : String) :
    (removeForDevice acc sid).2.idleTimeout = acc.2.idleTimeout := by
  unfold removeForDevice
  split <;> rfl

theorem idleTimeout_removeMapping (r : StreamRouter) (sid : String) :
    (r.removeMapping sid).2.idleTimeout = r.idleTimeout := by
  unfold removeMapping
  split <;> rfl

theorem idleTimeout_owner (r : StreamRouter) (now : Instant) (call : OwnerCall) :
    (r.perform (call.at now)).2.idleTimeout = r.idleTimeout := by
  cases call with
  | createMapping d c methodName tx =>
    have creates : Creates r now d c methodName tx (r.createMapping now d c methodName tx) :=
      creates_createMapping
    change (r.createMapping now d c methodName tx).2.idleTimeout = r.idleTimeout
    generalize r.createMapping now d c methodName tx = out at creates
    cases creates <;> rfl
  | removeMapping sid => exact idleTimeout_removeMapping r sid
  | removeAllForDevice d =>
    change (r.removeAllForDevice d).2.idleTimeout = r.idleTimeout
    unfold removeAllForDevice
    split
    · rfl
    · refine List.foldlRecOn (motive := fun acc : List StreamMapping × StreamRouter =>
        acc.2.idleTimeout = r.idleTimeout) _ _ ?_ ?_
      · rfl
      · exact fun acc same sid _ => (idleTimeout_removeForDevice acc sid).trans same
  | touchStream sid | beginRequest sid | finishRequest sid => rfl

/-- A call of an owner that spares the stream. -/
theorem Sound.owner (S : Sound config sid s) (call : OwnerCall) (ok : Spares sid s (.owner call)) :
    Sound config sid { s with router := (s.router.perform (call.at s.now)).2 } := by
  refine ⟨(idleTimeout_owner _ _ _).trans S.timeout, ?_, ?_, ?_⟩
  · intro sid m found
    rcases written_of_owner S.keyed call found with old | ⟨-, -, streamId⟩
    · exact S.keyed sid m old
    · exact streamId
  · intro sid m found
    rcases written_of_owner S.keyed call found with old | ⟨-, activity, -⟩
    · exact S.past sid m old
    · exact activity.le
  · intro scanned stale running mem m found
    rcases written_of_owner S.keyed call found with old | ⟨writes, -, -⟩
    · exact S.stale scanned stale running mem m old
    · have collected : s.collected = stale := by
        rw [State.collected, show s.cleanup = some (scanned, stale) from running]
        rfl
      exact absurd mem (collected ▸ ok writes)

/-- The streams that the scan finds are stale. -/
theorem Sound.staleAt (S : Sound config sid s) (mem : sid ∈ s.router.staleStreams s.now)
    (found : s.router.mappings.lookup sid = some m) :
    StaleAt config.idleTimeoutSeconds s.now m := by
  obtain ⟨⟨key, m'⟩, entry, collected⟩ := List.mem_filterMap.1 mem
  have stored := (DashMap.mem_entries_iff _ _ _).1 entry
  split_ifs at collected with stale
  obtain rfl := Option.some.inj collected
  rw [S.keyed key m' stored, stored] at found
  obtain rfl := Option.some.inj found
  have past := S.past key m' stored
  obtain ⟨idle, old⟩ := stale
  rw [S.timeout, saturatingDurationSince, max_eq_right (sub_nonneg.2 past)] at old
  exact ⟨idle, by linarith⟩

/-- The mapping of the stream is stale when it is removed. -/
theorem Sound.removal (S : Sound config sid s) {x : Instant × StreamMapping}
    (removed : x ∈ removal s a s') (own : x.2.streamId = sid) :
    StaleAt config.idleTimeoutSeconds x.1 x.2 := by
  unfold Reaping.removal at removed
  split at removed
  · rename_i scanned sid' stale running
    obtain ⟨m, mem, rfl⟩ := List.mem_map.1 removed
    have found : s.router.mappings.lookup sid' = some m := by
      rw [Option.mem_toList, removeMapping] at mem
      split at mem
      · cases mem
      · rename_i m' found
        cases mem
        exact found
    obtain rfl : sid' = sid := (S.keyed sid' m found).symm.trans own
    exact S.stale scanned (sid' :: stale) running List.mem_cons_self m found
  · cases removed

theorem Sound.step (S : Sound config sid s) (ok : Spares sid s a) (h : step s a = some s') :
    Sound config sid s' := by
  cases a with
  | owner call =>
    cases h
    exact S.owner call ok
  | advance now =>
    simp only [Reaping.step] at h
    split_ifs at h with later
    cases h
    exact ⟨S.timeout, S.keyed, fun sid m found => (S.past sid m found).trans later, S.stale⟩
  | scan =>
    simp only [Reaping.step] at h
    split at h
    · cases h
      refine ⟨S.timeout, S.keyed, S.past, ?_⟩
      rintro scanned stale ⟨⟩ mem m found
      exact S.staleAt mem found
    · cases h
  | remove =>
    simp only [Reaping.step] at h
    split at h
    · rename_i scanned sid' stale running
      cases h
      refine ⟨(idleTimeout_removeMapping _ _).trans S.timeout, ?_, ?_, ?_⟩
      · exact fun sid m found => S.keyed sid m (lookup_of_removeMapping found)
      · exact fun sid m found => S.past sid m (lookup_of_removeMapping found)
      · rintro scanned stale ⟨⟩ mem m found
        exact S.stale _ _ running (List.mem_cons_of_mem _ mem) m (lookup_of_removeMapping found)
    · cases h
      refine ⟨S.timeout, S.keyed, S.past, ?_⟩
      intro scanned stale running
      cases running
    · cases h

/-- In every run in which no owner writes to a stream while it is collected, `cleanup_stale` removes
the mapping of that stream only if it has no active request and was idle for the timeout before the
scan. -/
theorem reaped_streams_are_stale (config : StreamConfig) (sid : String)
    (h : Run config (Spares sid) log s) :
    ∀ x ∈ log, x.2.streamId = sid → x.2.activeRequests = 0 ∧
      x.2.lastActivity + config.idleTimeoutSeconds ≤ x.1 := by
  have invariant : Sound config sid s ∧
      ∀ x ∈ log, x.2.streamId = sid → StaleAt config.idleTimeoutSeconds x.1 x.2 := by
    refine Runs.Logged.invariant (I := fun log s => Sound config sid s ∧
      ∀ x ∈ log, x.2.streamId = sid → StaleAt config.idleTimeoutSeconds x.1 x.2)
      ⟨.init config sid, by simp⟩ ?_ h
    rintro log s a s' - ⟨S, stale⟩ ok hs
    refine ⟨S.step ok hs, fun x mem own => ?_⟩
    rcases List.mem_append.1 mem with old | new
    · exact stale x old own
    · exact S.removal new own
  intro x mem own
  exact ⟨(invariant.2 x mem own).idle, (invariant.2 x mem own).old⟩

/-! ### Concrete runs -/

/-- The owner starts a request after its stream was collected. -/
def lateRequest : List Action :=
  [.owner (.createMapping "d" "c" "M" 0), .advance 60, .scan, .owner (.beginRequest "strm-1"),
    .remove]

/-- Both streams are collected, and the owner of the second starts a request. -/
def otherRequest : List Action :=
  [.owner (.createMapping "d" "c" "M" 0), .owner (.createMapping "d" "c" "M" 0), .advance 60, .scan,
    .owner (.beginRequest "strm-2"), .remove, .remove]

/-- A stream is removed with its request. -/
theorem busy_stream_is_reaped :
    ¬ ∀ config log s, Run config (fun _ _ => True) log s → ∀ x ∈ log,
      x.2.activeRequests = 0 ∧ x.2.lastActivity + config.idleTimeoutSeconds ≤ x.1 := by
  intro claim
  obtain ⟨⟨log, s⟩, run, busy⟩ : ∃ out, Runs.executeLogged step (fun _ _ => true) removal []
      (State.init ⟨60, 10, 100⟩) lateRequest = some out ∧
      out.1.any (fun x => x.2.activeRequests ≠ 0) = true :=
    Option.map_eq_some_iff.1 (by decide +kernel)
  obtain ⟨x, mem, active⟩ := List.any_eq_true.1 busy
  have idle := (claim ⟨60, 10, 100⟩ log s
    (.of_executeLogged (fun _ _ _ => trivial) _ .start run) x mem).1
  simp [idle] at active

/-- No owner writes to the first stream while it is collected. -/
def isSpared (s : State) : Action → Bool
  | .owner call => call.writes s.router s.now ≠ some "strm-1" || "strm-1" ∉ s.collected
  | _ => true

theorem isSpared_sound (s : State) (a : Action) (h : isSpared s a = true) :
    Spares "strm-1" s a := by
  cases a with
  | owner call =>
    intro writes
    simpa [isSpared, writes] using h
  | advance | scan | remove => trivial

theorem idle_stream_is_reaped :
    ∃ log s, Run ⟨60, 10, 100⟩ (Spares "strm-1") log s ∧
      log.map (fun x => (x.2.streamId, x.2.activeRequests)) = [("strm-2", 1), ("strm-1", 0)] ∧
      ∀ x ∈ log, x.2.streamId = "strm-1" → x.2.activeRequests = 0 ∧
        x.2.lastActivity + (⟨60, 10, 100⟩ : StreamConfig).idleTimeoutSeconds ≤ x.1 := by
  obtain ⟨⟨log, s⟩, run, ids⟩ : ∃ out, Runs.executeLogged step isSpared removal []
      (State.init ⟨60, 10, 100⟩) otherRequest = some out ∧
      out.1.map (fun x => (x.2.streamId, x.2.activeRequests)) = [("strm-2", 1), ("strm-1", 0)] :=
    Option.map_eq_some_iff.1 (by decide +kernel)
  have spared : Run ⟨60, 10, 100⟩ (Spares "strm-1") log s :=
    .of_executeLogged isSpared_sound _ .start run
  exact ⟨log, s, spared, ids, reaped_streams_are_stale ⟨60, 10, 100⟩ "strm-1" spared⟩

end Reaping

end GrpcRelay
