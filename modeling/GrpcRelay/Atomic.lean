import GrpcRelay.Custody

/-!
# Device streams in whole steps

Here the handling of an inbound message and the cleanup after the loop are one step each, as if
nothing else ran meanwhile.  `Device.cleanup` is the cleanup block of `run_device_connect_stream`,
with `take_inflight_for_device` and `remove_all_for_device` called as a whole.

Every step of this system is a run of the steps of the relay (`reachable_of_atomic`), so what holds
of every run of the relay holds here too.
-/

namespace GrpcRelay

/-- `InFlight::complete` of the entries taken from a device. -/
def RelayState.completeAll (did : String) (inflight : List (ℤ × ℕ)) (st : RelayState) :
    RelayState :=
  inflight.foldl (fun st e => st.complete e.2 (Controller.offlineReply did e.1)) st

namespace Device

/-- The notices to the idle streams among the mappings removed. -/
def notices (did : String) (removed : List StreamMapping) : List Event :=
  removed.flatMap fun mapping =>
    if mapping.activeRequests = 0 then
      [.notified mapping.controllerTx (Controller.offlineReply did 0)]
    else []

/-- The notice to the MQTT publisher. -/
def offlineNotice (cfg : Config) (did : String) (reason : DisconnectReason) :
    Option String → List Event
  | some connectionId =>
    if cfg.mqtt then [.mqtt (.deviceOffline did connectionId reason)] else []
  | none => []

/-- The cleanup of a stream whose device id is `did`. -/
def cleanupOf (cfg : Config) (sh : Shared) (l : Device) (reason : DisconnectReason)
    (did : String) : Next Device :=
  let (inflight, relay) := sh.relay.takeInflightForDevice did
  let (removed, router) := sh.router.removeAllForDevice did
  let relay := relay.completeAll did inflight
  let shared := { sh with relay := relay, router := router }
  let events := inflight.map (fun e => Event.inflight sh.now (.taken (did, e.1) e.2)) ++
    inflight.map
      (fun e => Event.inflight sh.now (.completed e.2 (Controller.offlineReply did e.1))) ++
    notices did removed
  let current := (relay.sessionsByDeviceId.lookup did).map (·.connectionId)
  if ownsSession shared l did then
    ⟨{ shared with relay := relay.removeDeviceSession did }, l.goto .done,
      events ++ offlineNotice cfg did reason current⟩
  else ⟨shared, l.goto .done, events⟩

/-- The cleanup after the loop. -/
def cleanup (cfg : Config) (sh : Shared) (l : Device) (reason : DisconnectReason) : Next Device :=
  match l.currentDeviceId with
  | none => ⟨sh, l.goto .done, []⟩
  | some did => cleanupOf cfg sh l reason did

/-- A stream that made some steps makes another one; `n` is the number of events before them. -/
def advance (cfg : Config) (n i : ℕ) (now : Next Device) (input : DevInput) :
    Option (Next Device) :=
  (step cfg now.shared (n + now.events.length) i now.loc input).map fun next =>
    ⟨next.shared, next.loc, now.events ++ next.events⟩

end Device

/-- The next input of a stream that handles a message; `none` when it is done with it. -/
def DevPc.due (isHealthy : Bool) : DevPc → Option DevInput
  | .reading | .closing _ | .done => none
  | .checkingHealth .. => some (.health isHealthy)
  | _ => some .tick

namespace Device

/-- The steps of a stream until it is done with a message, at most `fuel` of them. -/
def settle (cfg : Config) (n i : ℕ) (isHealthy : Bool) : ℕ → Next Device → Option (Next Device)
  | 0, now =>
    match now.loc.pc.due isHealthy with
    | none => some now
    | some _ => none
  | fuel + 1, now =>
    match now.loc.pc.due isHealthy with
    | none => some now
    | some input => (advance cfg n i now input).bind (settle cfg n i isHealthy fuel)

/-- The handling of an inbound message, which takes at most ten steps after its arrival. -/
def handleMessage (cfg : Config) (sh : Shared) (n i : ℕ) (l : Device) (msg : DeviceMessage)
    (isHealthy : Bool) : Option (Next Device) :=
  match l.pc with
  | .reading => settle cfg n i isHealthy 10 (receive sh l msg)
  | _ => none

end Device

/-! ## The system -/

namespace Atomic

/-- The steps of the system: those of the other tasks, the handling of a message, the end of the
inbound stream, and the cleanup. -/
inductive Action where
  | other (a : GrpcRelay.Action)
  | message (i : ℕ) (msg : DeviceMessage) (isHealthy : Bool)
  | hangUp (i : ℕ) (reason : DisconnectReason)
  | cleanup (i : ℕ)
  deriving DecidableEq

/-- How the inbound stream ends. -/
def ending : DisconnectReason → DevInput
  | .gracefulShutdown => .eof
  | .timeout => .timeout
  | .error => .recvError

/-- One step; whole messages and whole cleanups take the place of the steps of the device streams.
-/
def step (cfg : Config) (s : State) : Action → Option State
  | .other (.dev _ _) => none
  | .other a => GrpcRelay.step cfg s a
  | .message i msg isHealthy =>
    (Device.handleMessage cfg s.shared s.trace.length i (s.dev i) msg isHealthy).map (s.afterDev i)
  | .hangUp i reason => GrpcRelay.step cfg s (.dev i (ending reason))
  | .cleanup i =>
    match (s.dev i).pc with
    | .closing reason => some (s.afterDev i (Device.cleanup cfg s.shared (s.dev i) reason))
    | _ => none

/-- The states of all runs of whole steps. -/
def Reachable (cfg : Config) (s : State) : Prop :=
  Runs.Reach (step cfg) (fun _ _ => True) (State.init cfg) s

/-- The state that a list of whole steps leads to from the start. -/
def execute (cfg : Config) (actions : List Action) : Option State :=
  Runs.execute (step cfg) (State.init cfg) actions

theorem reachable_of_execute {cfg : Config} {s : State} {actions : List Action}
    (h : execute cfg actions = some s) : Reachable cfg s :=
  Runs.Reach.of_execute (fun _ _ => trivial) actions .start h

/-- The steps of the other tasks are those of the relay. -/
theorem step_other {cfg : Config} {s s' : State} {a : GrpcRelay.Action}
    (h : step cfg s (.other a) = some s') :
    GrpcRelay.step cfg s a = some s' ∧ ∀ i input, a ≠ .dev i input := by
  cases a with
  | dev i input => cases h
  | ctrl | timer | reaper | advance | revokeControllerToken | revokeDeviceToken | allow
  | closeOutbound | evict => exact ⟨h, by simp⟩

end Atomic

/-! ## Whole steps are runs -/

namespace Device

variable {cfg : Config} {n i : ℕ} {now next last : Next Device}

/-- The stream gets from one point to another by steps of its own. -/
def Leads (cfg : Config) (n i : ℕ) (now next : Next Device) : Prop :=
  ∃ inputs, Runs.execute (advance cfg n i) now inputs = some next

theorem Leads.refl (now : Next Device) : Leads cfg n i now now := ⟨[], rfl⟩

theorem Leads.trans (h : Leads cfg n i now next) (h' : Leads cfg n i next last) :
    Leads cfg n i now last := by
  obtain ⟨xs, hx⟩ := h
  obtain ⟨ys, hy⟩ := h'
  exact ⟨xs ++ ys, by rw [Runs.execute_append, hx]; exact hy⟩

theorem Leads.one (input : DevInput) (h : advance cfg n i now input = some next) :
    Leads cfg n i now next :=
  ⟨[input], by simp [Runs.execute, h]⟩

theorem leads_of_settle {isHealthy : Bool} {fuel : ℕ}
    (h : settle cfg n i isHealthy fuel now = some next) : Leads cfg n i now next := by
  induction fuel generalizing now with
  | zero =>
    unfold settle at h
    split at h
    · cases h
      exact .refl _
    · cases h
  | succ fuel ih =>
    unfold settle at h
    split at h
    · cases h
      exact .refl _
    · rename_i input _
      obtain ⟨mid, hmid, hrest⟩ := Option.bind_eq_some_iff.1 h
      exact (Leads.one input hmid).trans (ih hrest)

/-! ### The handling of a message -/

/-- How many steps a stream is away from being done with a message; the cleanup has no rank. -/
def rank : DevPc → Option ℕ
  | .reading | .closing _ => some 0
  | .confirming .. | .completing .. => some 1
  | .linking .. => some 2
  | .unlinking .. => some 3
  | .installing .. => some 4
  | .resuming .. => some 5
  | .numbering .. => some 6
  | .checkingHealth .. => some 7
  | .admitting .. => some 8
  | .handling _ => some 9
  | .touching _ => some 10
  | _ => none

theorem rank_handle (sh : Shared) (n i : ℕ) (l : Device) (msg : DeviceMessage) :
    ∃ r ≤ 8, rank (handle sh n i l msg).loc.pc = some r := by
  unfold handle
  split_ifs
  · split
    · unfold register
      split
      · exact ⟨8, le_rfl, rfl⟩
      · exact ⟨0, by omega, rfl⟩
    · unfold heartbeat
      split <;> exact ⟨0, by omega, rfl⟩
    · unfold data
      split
      · exact ⟨0, by omega, rfl⟩
      · split
        · exact ⟨1, by omega, rfl⟩
        · exact ⟨0, by omega, rfl⟩
    · exact ⟨0, by omega, rfl⟩
  · exact ⟨0, by omega, rfl⟩

theorem rank_allowDevice (sh : Shared) (l : Device) (msg : DeviceMessage)
    (request : RegisterRequest) :
    ∃ r ≤ 7, rank (allowDevice sh l msg request).loc.pc = some r := by
  unfold allowDevice
  split
  · exact ⟨7, le_rfl, rfl⟩
  · exact ⟨0, by omega, rfl⟩

theorem rank_install (sh : Shared) (i : ℕ) (l : Device) (msg : DeviceMessage)
    (request : RegisterRequest) (connectionId : String) (resumed : Bool) :
    ∃ r ≤ 3, rank (install sh i l msg request connectionId resumed).loc.pc = some r := by
  unfold install goto
  cases sh.relay.sessionsByDeviceId.lookup msg.deviceId with
  | none => exact ⟨2, by omega, rfl⟩
  | some previous => exact ⟨3, le_rfl, rfl⟩

/-- A stream that handles a message can go on, and comes closer to being done with it. -/
theorem rank_step (cfg : Config) (sh : Shared) (n i : ℕ) (l : Device) (isHealthy : Bool)
    {r : ℕ} (h : rank l.pc = some (r + 1)) : ∃ input next, l.pc.due isHealthy = some input ∧
      step cfg sh n i l input = some next ∧ ∃ r' ≤ r, rank next.loc.pc = some r' := by
  cases hpc : l.pc <;> rw [hpc] at h <;> cases h
  case touching msg => exact ⟨.tick, _, rfl, by rw [step, hpc], 9, le_rfl, rfl⟩
  case handling msg => exact ⟨.tick, _, rfl, by rw [step, hpc], rank_handle sh n i l msg⟩
  case admitting msg request =>
    exact ⟨.tick, _, rfl, by rw [step, hpc], rank_allowDevice sh l msg request⟩
  case checkingHealth msg request =>
    refine ⟨.health isHealthy, _, rfl, by rw [step, hpc], ?_⟩
    cases isHealthy with
    | true => exact ⟨6, le_rfl, rfl⟩
    | false => exact ⟨0, by omega, rfl⟩
  case numbering msg request => exact ⟨.tick, _, rfl, by rw [step, hpc], 5, le_rfl, rfl⟩
  case resuming msg request cid => exact ⟨.tick, _, rfl, by rw [step, hpc], 4, le_rfl, rfl⟩
  case installing msg request cid resumed =>
    exact ⟨.tick, _, rfl, by rw [step, hpc], rank_install sh i l msg request cid resumed⟩
  case unlinking => exact ⟨.tick, _, rfl, by rw [step, hpc], 2, le_rfl, rfl⟩
  case linking => exact ⟨.tick, _, rfl, by rw [step, hpc], 1, le_rfl, rfl⟩
  case confirming => exact ⟨.tick, _, rfl, by rw [step, hpc], 0, le_rfl, rfl⟩
  case completing => exact ⟨.tick, _, rfl, by rw [step, hpc], 0, le_rfl, rfl⟩

theorem due_of_rank_zero {pc : DevPc} (h : rank pc = some 0) (isHealthy : Bool) :
    pc.due isHealthy = none := by
  cases pc <;> first | rfl | cases h

/-- Nothing is left to do for a stream that is done with a message. -/
theorem settle_of_rank_zero (cfg : Config) (n i : ℕ) (isHealthy : Bool) (fuel : ℕ)
    {now : Next Device} (h : rank now.loc.pc = some 0) :
    settle cfg n i isHealthy fuel now = some now := by
  cases fuel <;> rw [settle, due_of_rank_zero h]

theorem settle_total (cfg : Config) (n i : ℕ) (isHealthy : Bool) {fuel r : ℕ} {now : Next Device}
    (h : rank now.loc.pc = some r) (enough : r ≤ fuel) :
    ∃ next, settle cfg n i isHealthy fuel now = some next ∧ rank next.loc.pc = some 0 := by
  induction fuel generalizing now r with
  | zero =>
    obtain rfl : r = 0 := by omega
    exact ⟨now, settle_of_rank_zero cfg n i isHealthy 0 h, h⟩
  | succ fuel ih =>
    cases r with
    | zero => exact ⟨now, settle_of_rank_zero cfg n i isHealthy (fuel + 1) h, h⟩
    | succ r =>
      obtain ⟨input, next, hdue, hs, r', hr', hrank⟩ :=
        rank_step cfg now.shared (n + now.events.length) i now.loc isHealthy h
      obtain ⟨last, hlast, hzero⟩ :=
        @ih r' ⟨next.shared, next.loc, now.events ++ next.events⟩ hrank (by omega)
      refine ⟨last, ?_, hzero⟩
      rw [settle, hdue]
      simp only [advance, hs, Option.map_some, Option.bind_some]
      exact hlast

/-- A stream that waits for a message handles it to the end: it waits for the next one, or its loop
has ended. -/
theorem handleMessage_total (cfg : Config) (sh : Shared) (n i : ℕ) (l : Device)
    (msg : DeviceMessage) (isHealthy : Bool) (at_pc : l.pc = .reading) :
    ∃ next, handleMessage cfg sh n i l msg isHealthy = some next ∧
      rank next.loc.pc = some 0 := by
  unfold handleMessage
  rw [at_pc]
  have start : ∃ r ≤ 10, rank (receive sh l msg).loc.pc = some r := by
    unfold receive
    split_ifs
    · exact ⟨10, le_rfl, rfl⟩
    · exact ⟨9, by omega, rfl⟩
  obtain ⟨r, hr, hrank⟩ := start
  exact settle_total cfg n i isHealthy hrank hr

/-! ### The cleanup -/

section Cleanup

variable {l : Device} {sh : Shared} {events : List Event} {did : String}
  {reason : DisconnectReason}

/-- A step that leaves no event. -/
theorem Leads.silent {sh' : Shared} {pc pc' : DevPc} (input : DevInput)
    (h : ∀ n, step cfg sh n i (l.goto pc) input = some ⟨sh', l.goto pc', []⟩) :
    Leads cfg n i ⟨sh, l.goto pc, events⟩ ⟨sh', l.goto pc', events⟩ :=
  .one input (by simp [advance, h])

/-- The scan meets the entries of the device one by one. -/
theorem leads_scan (keys found : List RequestKey)
    (met : ∀ k ∈ keys, ∃ entry, sh.relay.inflightBySequence.entries.lookup k = some entry ∧
      sh.relay.inflightDeviceId entry = some did) :
    Leads cfg n i ⟨sh, l.goto (.scanning did reason found), events⟩
      ⟨sh, l.goto (.scanning did reason (found ++ keys)), events⟩ := by
  induction keys generalizing found with
  | nil =>
    rw [List.append_nil]
    exact .refl _
  | cons key keys ih =>
    obtain ⟨entry, hl, htag⟩ := met key (by simp)
    have first : Leads cfg n i ⟨sh, l.goto (.scanning did reason found), events⟩
        ⟨sh, l.goto (.scanning did reason (found ++ [key])), events⟩ := by
      refine .silent (.visit key) fun n => ?_
      simp [step, goto, visit, hl, htag]
    have rest := ih (found ++ [key]) fun k hk => met k (List.mem_cons_of_mem _ hk)
    rw [List.append_assoc, List.singleton_append] at rest
    exact first.trans rest

/-- The entries collected are taken one by one. -/
theorem leads_sweep (keys : List RequestKey) (own : ∀ k ∈ keys, k.1 = did)
    (taken : List (ℤ × ℕ)) (sh : Shared) (events : List Event) :
    ∃ more, (keys.foldl RelayState.takeInflightOne (taken, sh.relay)).1 = taken ++ more ∧
      Leads cfg n i ⟨sh, l.goto (.sweeping did reason keys taken), events⟩
        ⟨{ sh with relay := (keys.foldl RelayState.takeInflightOne (taken, sh.relay)).2 },
          l.goto (.sweeping did reason [] (taken ++ more)),
          events ++ more.map fun e => .inflight sh.now (.taken (did, e.1) e.2)⟩ := by
  induction keys generalizing taken sh events with
  | nil => exact ⟨[], by simp, by simpa using Leads.refl _⟩
  | cons key keys ih =>
    have own' : ∀ k ∈ keys, k.1 = did := fun k hk => own k (List.mem_cons_of_mem _ hk)
    rw [List.foldl_cons]
    cases ht : (sh.relay.takeInflight key.1 key.2).2 with
    | none =>
      have same := RelayState.takeInflight_of_none ht
      have one : RelayState.takeInflightOne (taken, sh.relay) key = (taken, sh.relay) := by
        simp [RelayState.takeInflightOne, same]
      have first : Leads cfg n i ⟨sh, l.goto (.sweeping did reason (key :: keys) taken), events⟩
          ⟨sh, l.goto (.sweeping did reason keys taken), events⟩ := by
        refine .silent .tick fun n => ?_
        simp [step, goto, sweep, same]
      obtain ⟨more, hmore, hrest⟩ := ih own' taken sh events
      rw [one]
      exact ⟨more, hmore, first.trans hrest⟩
    | some entry =>
      obtain ⟨relay, hrelay⟩ : ∃ relay, sh.relay.takeInflight key.1 key.2 = (relay, some entry) :=
        ⟨_, Prod.ext rfl ht⟩
      have one : RelayState.takeInflightOne (taken, sh.relay) key =
          (taken ++ [(key.2, entry)], relay) := by
        simp [RelayState.takeInflightOne, hrelay]
      have first : Leads cfg n i ⟨sh, l.goto (.sweeping did reason (key :: keys) taken), events⟩
          ⟨{ sh with relay := relay },
            l.goto (.sweeping did reason keys (taken ++ [(key.2, entry)])),
            events ++ [Event.inflight sh.now (.taken (did, key.2) entry)]⟩ := by
        refine .one .tick ?_
        simp [advance, step, goto, sweep, hrelay, ← own key (by simp)]
      obtain ⟨more, hmore, hrest⟩ := ih own' (taken ++ [(key.2, entry)]) { sh with relay := relay }
        (events ++ [Event.inflight sh.now (.taken (did, key.2) entry)])
      rw [one]
      refine ⟨(key.2, entry) :: more, by simpa using hmore, first.trans ?_⟩
      simpa using hrest

/-- The entries taken are completed one by one. -/
theorem leads_drain (taken : List (ℤ × ℕ)) (removed : List StreamMapping) (sh : Shared)
    (events : List Event) :
    Leads cfg n i ⟨sh, l.goto (.draining did reason taken removed), events⟩
      ⟨{ sh with relay := sh.relay.completeAll did taken },
        l.goto (.notifying did reason removed),
        events ++ taken.map fun e =>
          .inflight sh.now (.completed e.2 (Controller.offlineReply did e.1))⟩ := by
  induction taken generalizing sh events with
  | nil =>
    rw [List.map_nil, List.append_nil]
    exact .silent .tick fun n => by simp [step, goto, drain, RelayState.completeAll]
  | cons e taken ih =>
    have first : Leads cfg n i ⟨sh, l.goto (.draining did reason (e :: taken) removed), events⟩
        ⟨{ sh with relay := sh.relay.complete e.2 (Controller.offlineReply did e.1) },
          l.goto (.draining did reason taken removed),
          events ++ [Event.inflight sh.now (.completed e.2 (Controller.offlineReply did e.1))]⟩ :=
      .one .tick (by simp [advance, step, goto, drain])
    refine first.trans ?_
    rw [List.map_cons, List.append_cons events _ (taken.map _)]
    exact ih { sh with relay := sh.relay.complete e.2 (Controller.offlineReply did e.1) } _

/-- The idle streams are told one by one. -/
theorem leads_notify (removed : List StreamMapping) (events : List Event) :
    Leads cfg n i ⟨sh, l.goto (.notifying did reason removed), events⟩
      ⟨sh, l.goto (.inspecting did reason), events ++ notices did removed⟩ := by
  induction removed generalizing events with
  | nil =>
    rw [notices, List.flatMap_nil, List.append_nil]
    exact .silent .tick fun n => by simp [step, goto, notify]
  | cons mapping removed ih =>
    have first : Leads cfg n i ⟨sh, l.goto (.notifying did reason (mapping :: removed)), events⟩
        ⟨sh, l.goto (.notifying did reason removed), events ++ notices did [mapping]⟩ :=
      .one .tick (by simp [advance, step, goto, notify, notices])
    refine first.trans ?_
    simpa [notices] using ih (events ++ notices did [mapping])

/-- The session is removed, then its connection id and the time the device was last seen. -/
theorem leads_removeSession (events : List Event) :
    Leads cfg n i ⟨sh, l.goto (.removingSession did), events⟩
      ⟨{ sh with relay := sh.relay.removeDeviceSession did }, l.goto .done, events⟩ := by
  cases hs : sh.relay.sessionsByDeviceId.lookup did with
  | none =>
    refine .silent .tick fun n => ?_
    simp [step, goto, removeSession, RelayState.removeDeviceSession, hs]
  | some session =>
    have first : Leads cfg n i ⟨sh, l.goto (.removingSession did), events⟩
        ⟨{ sh with relay := { sh.relay with
            sessionsByDeviceId := sh.relay.sessionsByDeviceId.erase did } },
          l.goto (.removingConnection did session.connectionId), events⟩ :=
      .silent .tick fun n => by simp [step, goto, removeSession, hs]
    have second (sh : Shared) :
        Leads cfg n i ⟨sh, l.goto (.removingConnection did session.connectionId), events⟩
          ⟨{ sh with relay := { sh.relay with
              connectionToDeviceId := sh.relay.connectionToDeviceId.erase session.connectionId } },
            l.goto (.removingLastSeen did), events⟩ :=
      .silent .tick fun n => rfl
    refine first.trans ((second _).trans (.silent .tick fun n => ?_))
    simp [step, goto, removeLastSeen, RelayState.removeDeviceSession, hs]

/-- The session is removed if it is the stream's own. -/
theorem leads_verify (events : List Event) :
    Leads cfg n i ⟨sh, l.goto (.inspecting did reason), events⟩
      (if ownsSession sh l did then
        ⟨{ sh with relay := sh.relay.removeDeviceSession did }, l.goto .done,
          events ++ offlineNotice cfg did reason
            ((sh.relay.sessionsByDeviceId.lookup did).map (·.connectionId))⟩
      else ⟨sh, l.goto .done, events⟩) := by
  have first : Leads cfg n i ⟨sh, l.goto (.inspecting did reason), events⟩
      ⟨sh, l.goto (.verifying did reason
        ((sh.relay.sessionsByDeviceId.lookup did).map (·.connectionId))), events⟩ :=
    .silent .tick fun n => by simp [step, goto, inspect]
  have verifies (n : ℕ) (current : Option String) :
      step cfg sh n i (l.goto (.verifying did reason current)) .tick =
        some (if ownsSession sh l did then
          ⟨sh, l.goto (.removingSession did), offlineNotice cfg did reason current⟩
        else ⟨sh, l.goto .done, []⟩) := by
    cases current <;> rfl
  refine first.trans ?_
  split_ifs with own
  · have second : Leads cfg n i ⟨sh, l.goto (.verifying did reason
          ((sh.relay.sessionsByDeviceId.lookup did).map (·.connectionId))), events⟩
        ⟨sh, l.goto (.removingSession did), events ++ offlineNotice cfg did reason
          ((sh.relay.sessionsByDeviceId.lookup did).map (·.connectionId))⟩ := by
      refine .one .tick ?_
      rw [advance, verifies, if_pos own]
      rfl
    exact second.trans (leads_removeSession _)
  · refine .silent .tick fun n => ?_
    rw [verifies, if_neg own]

theorem leads_cleanupOf (own : ∀ k ∈ sh.relay.inflightKeysForDevice did, k.1 = did) :
    Leads cfg n i ⟨sh, l.goto (.scanning did reason []), []⟩ (cleanupOf cfg sh l reason did) := by
  have met : ∀ k ∈ sh.relay.inflightKeysForDevice did, ∃ entry,
      sh.relay.inflightBySequence.entries.lookup k = some entry ∧
        sh.relay.inflightDeviceId entry = some did := by
    intro k hk
    obtain ⟨⟨k', entry⟩, he, hk'⟩ := List.mem_filterMap.1 hk
    split_ifs at hk' with htag
    cases hk'
    exact ⟨entry, (DashMap.mem_entries_iff _ _ _).1 he, htag⟩
  obtain ⟨inflight, hinflight, swept⟩ := @leads_sweep cfg n i l did reason _ own [] sh []
  rw [List.nil_append] at hinflight swept
  have collect : Leads cfg n i
      ⟨sh, l.goto (.scanning did reason (sh.relay.inflightKeysForDevice did)), []⟩
      ⟨sh, l.goto (.sweeping did reason (sh.relay.inflightKeysForDevice did) []), []⟩ :=
    .silent .tick fun n => rfl
  refine (leads_scan _ [] met).trans (collect.trans (swept.trans ?_))
  have remove (sh : Shared) (events : List Event) :
      Leads cfg n i ⟨sh, l.goto (.sweeping did reason [] inflight), events⟩
        ⟨{ sh with router := (sh.router.removeAllForDevice did).2 },
          l.goto (.draining did reason inflight (sh.router.removeAllForDevice did).1), events⟩ :=
    .silent .tick fun n => rfl
  refine (remove _ _).trans ((leads_drain _ _ _ _).trans ((leads_notify _ _).trans ?_))
  unfold cleanupOf RelayState.takeInflightForDevice
  simp only [hinflight]
  exact leads_verify _

/-- The cleanup is a run of the stream's own steps, if the entries filed under its device have keys
of that device. -/
theorem leads_cleanup (at_pc : l.pc = .closing reason)
    (own : ∀ did, ∀ k ∈ sh.relay.inflightKeysForDevice did, k.1 = did) :
    Leads cfg n i ⟨sh, l, []⟩ (cleanup cfg sh l reason) := by
  have here : l = l.goto (.closing reason) := by
    rw [← at_pc]
    rfl
  unfold cleanup
  cases hid : l.currentDeviceId with
  | none =>
    rw [here]
    exact .silent .tick fun n => by simp [step, goto, close, hid]
  | some did =>
    have first : Leads cfg n i ⟨sh, l, []⟩ ⟨sh, l.goto (.scanning did reason []), []⟩ := by
      nth_rewrite 1 [here]
      exact .silent .tick fun n => by simp [step, goto, close, hid]
    exact first.trans (leads_cleanupOf (own did))

end Cleanup

end Device

variable {cfg : Config} {s s' : State}

theorem State.afterDev_self (s : State) (i : ℕ) : s.afterDev i ⟨s.shared, s.dev i, []⟩ = s := by
  simp [State.afterDev]

theorem step_afterDev (i : ℕ) (now : Next Device) (input : DevInput) :
    step cfg (s.afterDev i now) (.dev i input) =
      (Device.advance cfg s.trace.length i now input).map (s.afterDev i) := by
  simp only [step, Device.advance, Option.map_map, State.afterDev, List.length_append,
    Function.update_self]
  cases Device.step cfg now.shared (s.trace.length + now.events.length) i now.loc input with
  | none => rfl
  | some next => simp [State.afterDev]

theorem execute_afterDev (i : ℕ) (inputs : List DevInput) (now : Next Device) :
    Runs.execute (step cfg) (s.afterDev i now) (inputs.map (.dev i)) =
      (Runs.execute (Device.advance cfg s.trace.length i) now inputs).map (s.afterDev i) := by
  induction inputs generalizing now with
  | nil => rfl
  | cons input inputs ih =>
    simp only [List.map_cons, Runs.execute, step_afterDev]
    cases Device.advance cfg s.trace.length i now input with
    | none => rfl
    | some next => exact ih next

/-- What a stream gets to by its own steps, the relay gets to. -/
theorem reach_of_leads {i : ℕ} {next : Next Device}
    (leads : Device.Leads cfg s.trace.length i ⟨s.shared, s.dev i, []⟩ next) :
    Runs.Reach (step cfg) (fun _ _ => True) s (s.afterDev i next) := by
  obtain ⟨inputs, hrun⟩ := leads
  refine Runs.Reach.of_execute (fun _ _ => trivial) (inputs.map (.dev i)) .start ?_
  have run := @execute_afterDev cfg s i inputs ⟨s.shared, s.dev i, []⟩
  rwa [State.afterDev_self, hrun] at run

/-- The entries filed under a device have keys of that device. -/
theorem key_of_inflightKeysForDevice (h : Reachable cfg s) (did : String) :
    ∀ k ∈ s.shared.relay.inflightKeysForDevice did, k.1 = did := by
  intro k hk
  obtain ⟨⟨k', entry⟩, he, hk'⟩ := List.mem_filterMap.1 hk
  split_ifs at hk' with htag
  cases hk'
  have C := custody_of_reachable h
  obtain ⟨c, hc, rfl⟩ := C.run.ledger.sound.mapped k' entry ((DashMap.mem_entries_iff _ _ _).1 he)
  rw [RelayState.inflightDeviceId, hc, Option.map_some, Option.some.injEq] at htag
  rw [← C.tagged entry c hc, htag]

/-- Every run of whole steps is a run of the relay. -/
theorem reachable_of_atomic (h : Atomic.Reachable cfg s) : Reachable cfg s := by
  refine h.invariant .start ?_
  intro s a s' _ hr _ hs
  cases a with
  | other a => exact .next a hr trivial (Atomic.step_other hs).1
  | message i msg isHealthy =>
    obtain ⟨next, hnext, rfl⟩ := Option.map_eq_some_iff.1 hs
    apply hr.trans
    apply reach_of_leads
    unfold Device.handleMessage at hnext
    split at hnext
    · rename_i hpc
      refine .trans (.one (.recv msg) ?_) (Device.leads_of_settle hnext)
      simp [Device.advance, Device.step, hpc]
    · cases hnext
  | hangUp i reason =>
    simp only [Atomic.step] at hs
    exact .next _ hr trivial hs
  | cleanup i =>
    simp only [Atomic.step] at hs
    split at hs
    · rename_i reason hpc
      cases hs
      exact hr.trans (reach_of_leads
        (Device.leads_cleanup hpc (key_of_inflightKeysForDevice hr)))
    · cases hs

end GrpcRelay
