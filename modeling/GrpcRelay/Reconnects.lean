import GrpcRelay.DeviceClient
import Mathlib.Data.List.TakeWhile

/-!
# Reconnecting

What a run of the device client comes to, in terms of what the network does: which outcomes `run`
survives, how long it sleeps, and which connection id it offers for recovery.
-/

namespace GrpcRelay.DeviceSdk

/-! ## What an attempt comes to -/

/-- The message is a request over the limit whose rejection the client cannot send. -/
def Incoming.cuts (config : Config) (i : Incoming) : Bool :=
  match i.payload with
  | some (.dataRequest request) =>
    config.maxPayloadBytes < request.encryptedPayload.length && !i.outboundOpen
  | _ => false

/-- The connection id that the message gives to the device. -/
def Incoming.connectionId (i : Incoming) : Option String :=
  match i.payload with
  | some (.registerResponse cid _) => some cid
  | _ => none

/-- A rejection that could not be sent ends the session. -/
def Session.cut (config : Config) (session : Session) : Bool :=
  session.inbound.any fun i => i.cuts config

/-- The connection id that the session was given: that of the last register response read. -/
def Session.given (config : Config) (session : Session) : Option String :=
  if session.takesRegister then
    ((session.inbound.takeWhile fun i => !i.cuts config).filterMap Incoming.connectionId).getLast?
  else none

/-- The relay opens the stream. -/
def Attempt.isOpened : Attempt → Bool
  | .opened _ _ => true
  | _ => false

/-- The relay is not reached. -/
def Attempt.isUnreachable : Attempt → Bool
  | .unreachable _ => true
  | _ => false

/-- The connection id of the session that the attempt registered. -/
def Attempt.given (config : Config) : Attempt → Option String
  | .opened _ session => session.given config
  | _ => none

/-- The connection id that the client keeps of the attempt: a session that a failed rejection ends
leaves none. -/
def Attempt.kept (config : Config) : Attempt → Option String
  | .opened _ session => if session.cut config then none else session.given config
  | _ => none

theorem Reader.receive_result (reader : Reader) (config : Config) (i : Incoming) :
    (reader.receive config i).2 =
      if i.cuts config then .error .connectionClosed
      else .ok ⟨reader.heartbeatTask.or i.connectionId,
        i.connectionId.or reader.registeredConnectionId⟩ := by
  obtain ⟨heartbeat, registered⟩ := reader
  obtain ⟨payload, isOpen⟩ := i
  match payload with
  | none => simp [receive, Incoming.cuts, Incoming.connectionId]
  | some (.registerResponse cid _) =>
    cases heartbeat <;> simp [receive, Incoming.cuts, Incoming.connectionId]
  | some .heartbeatResponse => simp [receive, Incoming.cuts, Incoming.connectionId]
  | some (.dataRequest request) =>
    by_cases hlarge : config.maxPayloadBytes < request.encryptedPayload.length
    · cases isOpen <;> simp [receive, Incoming.cuts, Incoming.connectionId, hlarge]
    · simp [receive, Incoming.cuts, Incoming.connectionId, hlarge]

theorem readResponses_cons (config : Config) (stop : StreamEnd) (reader : Reader) (i : Incoming)
    (rest : List Incoming) :
    (readResponses config stop reader (i :: rest)).2 =
      if i.cuts config then .error .connectionClosed
      else (readResponses config stop ⟨reader.heartbeatTask.or i.connectionId,
        i.connectionId.or reader.registeredConnectionId⟩ rest).2 := by
  have hresult := reader.receive_result config i
  rw [readResponses]
  split
  · rename_i effects reader' hreceive
    rw [hreceive] at hresult
    split_ifs at hresult ⊢ with hcuts
    cases hresult
    rfl
  · rename_i effects e hreceive
    rw [hreceive] at hresult
    split_ifs at hresult ⊢ with hcuts
    cases hresult
    rfl

/-- The result of a reader that no failed rejection stops. -/
def finished (stop : StreamEnd) : Option String → Except DeviceSdkError String
  | some cid => .ok cid
  | none => .error (match stop with | .closed => .connectionClosed | .failed status => .grpc status)

theorem Reader.finish_result (reader : Reader) (stop : StreamEnd) :
    (reader.finish stop).2 = finished stop reader.registeredConnectionId := by
  obtain ⟨heartbeat, registered⟩ := reader
  cases stop <;> cases registered <;> rfl

theorem getLast?_filterMap_cons {α β : Type} (f : α → Option β) (a : α) (as : List α) :
    ((a :: as).filterMap f).getLast? = (as.filterMap f).getLast?.or (f a) := by
  cases ha : f a with
  | none => rw [List.filterMap_cons_none ha, Option.or_none]
  | some b => rw [List.filterMap_cons_some ha, List.getLast?_cons, Option.or_some]

/-- A reader returns the last connection id that it has read. -/
theorem readResponses_result (config : Config) (stop : StreamEnd) (inbound : List Incoming) :
    ∀ reader : Reader, (readResponses config stop reader inbound).2 =
      if inbound.any fun i => i.cuts config then .error .connectionClosed
      else finished stop
        ((inbound.filterMap Incoming.connectionId).getLast?.or reader.registeredConnectionId) := by
  induction inbound with
  | nil => exact fun reader => reader.finish_result stop
  | cons i rest ih =>
    intro reader
    rw [readResponses_cons, ih]
    by_cases hcuts : i.cuts config = true
    · simp [hcuts]
    · rw [getLast?_filterMap_cons]
      simp [hcuts, Option.or_assoc]

theorem Session.given_of_not_cut {config : Config} {session : Session}
    (htakes : session.takesRegister = true) (hcut : session.cut config = false) :
    session.given config = (session.inbound.filterMap Incoming.connectionId).getLast? := by
  have hall : (session.inbound.takeWhile fun i => !i.cuts config) = session.inbound := by
    refine List.takeWhile_eq_self_iff.mpr fun i hi => ?_
    simpa using (List.any_eq_false.mp hcut) i hi
  rw [Session.given, if_pos htakes, hall]

section Network

variable {fromShared : String → Except String Unit} {config : Config}

/-! ## One turn of the loop -/

/-- The variables of `run` after an attempt whose connection id is kept, before the retry. -/
def RunState.keep (s : RunState) : Option String → RunState
  | some cid => { s with lastConnectionId := some cid, attempt := 0 }
  | none => s

/-- Everything that a turn can come to. -/
theorem turn_eq (huri : fromShared (normalizeHttpUri config.tcpAddr) = .ok ()) (s : RunState)
    (o : Outcome) :
    turn fromShared config s o =
      match o.attempt with
      | .unreachable e => .error (.tonic e)
      | .refused _ => .ok (retry config s o.disconnectAt)
      | .opened _ _ =>
        if s.lastConnectionId.isSome ∧ config.sessionRecoveryWindowSeconds = 0 then
          .error .recoveryDisabled
        else .ok (retry config (s.keep (o.attempt.kept config)) o.disconnectAt) := by
  obtain ⟨attempt, disconnectAt⟩ := o
  cases attempt with
  | unreachable e => simp [turn, connectOnce, huri]
  | refused status => simp [turn, connectOnce, huri]
  | opened now session =>
    simp only [turn, connectOnce, huri, Attempt.kept]
    split_ifs with hdisabled htakes hcut hcut
    · rfl
    · simp only [readResponses_result, Session.cut] at hcut ⊢
      simp [hcut, RunState.keep]
    · simp only [readResponses_result]
      rw [if_neg (by simpa [Session.cut] using hcut), Option.or_none,
        ← Session.given_of_not_cut htakes (by simpa using hcut)]
      cases session.given config with
      | some cid => rfl
      | none => cases session.finish <;> rfl
    · rfl
    · rw [Session.given, if_neg htakes]
      rfl

/-! ## Which outcomes a run survives -/

theorem one_le_nextSleepSeconds (backoff : RetryBackoff) (attempt : ℕ) :
    1 ≤ backoff.nextSleepSeconds attempt := by
  rw [RetryBackoff.nextSleepSeconds]
  have clamped (q : ℚ) : 1 ≤ ⌊max 1 q⌋ := Int.le_floor.2 (by simp)
  exact le_min (Int.toNat_le_toNat (clamped _)) (by decide)

theorem RunState.isSome_keep (s : RunState) (kept : Option String) :
    (s.keep kept).lastConnectionId.isSome = (s.lastConnectionId.isSome || kept.isSome) := by
  cases kept <;> simp [keep]

/-- `run` survives the outcome: the relay was reached, and no connection id is kept while recovery
is switched off. -/
def Survives (config : Config) (known : Bool) (o : Outcome) : Prop :=
  o.attempt.isUnreachable = false ∧
    (config.sessionRecoveryWindowSeconds = 0 → known = true → o.attempt.isOpened = false)

theorem turn_of_survives (huri : fromShared (normalizeHttpUri config.tcpAddr) = .ok ())
    {s : RunState} {o : Outcome} (ho : Survives config s.lastConnectionId.isSome o) :
    turn fromShared config s o =
      .ok (retry config (s.keep (o.attempt.kept config)) o.disconnectAt) := by
  rw [turn_eq huri]
  obtain ⟨hreach, hopen⟩ := ho
  cases hattempt : o.attempt with
  | unreachable e => simp [hattempt, Attempt.isUnreachable] at hreach
  | refused status => rfl
  | opened now session =>
    simp only [hattempt, Attempt.isOpened, Bool.true_eq_false, imp_false] at hopen
    exact if_neg fun h => hopen h.2 h.1

theorem turn_of_not_survives (huri : fromShared (normalizeHttpUri config.tcpAddr) = .ok ())
    {s : RunState} {o : Outcome} (ho : ¬ Survives config s.lastConnectionId.isSome o) :
    ∃ e, turn fromShared config s o = .error e := by
  rw [turn_eq huri]
  cases hattempt : o.attempt with
  | unreachable e => exact ⟨_, rfl⟩
  | refused status => simp [Survives, hattempt, Attempt.isUnreachable, Attempt.isOpened] at ho
  | opened now session =>
    simp only [Survives, hattempt, Attempt.isUnreachable, Attempt.isOpened, Bool.true_eq_false,
      imp_false, true_and, Classical.not_imp, not_not] at ho
    exact ⟨_, if_pos ho.symm⟩

/-- A run survives its outcomes from variables that know a connection id or not. -/
theorem runFrom_ok_iff (huri : fromShared (normalizeHttpUri config.tcpAddr) = .ok ())
    (os : List Outcome) : ∀ s : RunState,
    (∃ r, runFrom fromShared config s os = .ok r) ↔
      (∀ o ∈ os, Survives config s.lastConnectionId.isSome o) ∧
        os.Pairwise fun p o => Survives config (p.attempt.kept config).isSome o := by
  induction os with
  | nil => exact fun s => ⟨fun _ => by simp, fun _ => ⟨_, rfl⟩⟩
  | cons o os ih =>
    intro s
    by_cases ho : Survives config s.lastConnectionId.isSome o
    · have hturn := turn_of_survives huri ho
      have hrest : (∃ r, runFrom fromShared config s (o :: os) = .ok r) ↔
          ∃ r, runFrom fromShared config
            (retry config (s.keep (o.attempt.kept config)) o.disconnectAt).2 os = .ok r := by
        simp only [runFrom, hturn]
        split <;> simp_all
      rw [hrest, ih, List.pairwise_cons]
      have hknown : ∀ p, Survives config
          (retry config (s.keep (o.attempt.kept config)) o.disconnectAt).2.lastConnectionId.isSome p
          ↔ Survives config s.lastConnectionId.isSome p ∧
            Survives config (o.attempt.kept config).isSome p := by
        intro p
        simp only [retry, RunState.isSome_keep, Survives, Bool.or_eq_true]
        tauto
      simp only [hknown, List.mem_cons, forall_eq_or_imp, ho, true_and]
      constructor
      · exact fun h => ⟨fun p hp => (h.1 p hp).1, fun p hp => (h.1 p hp).2, h.2⟩
      · exact fun h => ⟨fun p hp => ⟨h.1 p hp, h.2.1 p hp⟩, h.2.2⟩
    · obtain ⟨e, he⟩ := turn_of_not_survives huri ho
      constructor
      · rintro ⟨r, hr⟩
        simp [runFrom, he] at hr
      · exact fun h => absurd (h.1 o List.mem_cons_self) ho

/-- What a run that has not returned did with its first outcome. -/
theorem runFrom_cons_ok (huri : fromShared (normalizeHttpUri config.tcpAddr) = .ok ())
    {s s' : RunState} {o : Outcome} {os : List Outcome} {sleeps : List ℕ}
    (h : runFrom fromShared config s (o :: os) = .ok (sleeps, s')) :
    ∃ rest, runFrom fromShared config
        (retry config (s.keep (o.attempt.kept config)) o.disconnectAt).2 os = .ok (rest, s') ∧
      sleeps = (retry config (s.keep (o.attempt.kept config)) o.disconnectAt).1 :: rest := by
  have ho : Survives config s.lastConnectionId.isSome o :=
    ((runFrom_ok_iff huri (o :: os) s).mp ⟨_, h⟩).1 o List.mem_cons_self
  rw [runFrom, turn_of_survives huri ho] at h
  dsimp only at h
  split at h
  · cases h
  · rename_i rest s₂ hrest
    cases h
    exact ⟨rest, hrest, rfl⟩

theorem sleeps_of_runFrom (huri : fromShared (normalizeHttpUri config.tcpAddr) = .ok ())
    {os : List Outcome} : ∀ {s s' : RunState} {sleeps : List ℕ},
    runFrom fromShared config s os = .ok (sleeps, s') →
      sleeps.length = os.length ∧ ∀ seconds ∈ sleeps, 1 ≤ seconds := by
  induction os with
  | nil =>
    intro s s' sleeps h
    cases h
    simp
  | cons o os ih =>
    intro s s' sleeps h
    obtain ⟨rest, hrest, rfl⟩ := runFrom_cons_ok huri h
    obtain ⟨hlength, hpos⟩ := ih hrest
    refine ⟨by simp [hlength], ?_⟩
    rintro seconds (_ | ⟨_, hmem⟩)
    · exact one_le_nextSleepSeconds _ _
    · exact hpos seconds hmem

/-- `run` has not returned after the outcomes: after each of them it has slept for at least a
second, to try again. -/
def KeepsRunning (fromShared : String → Except String Unit) (config : Config)
    (os : List Outcome) : Prop :=
  ∃ sleeps s, run fromShared config os = .ok (sleeps, s) ∧
    sleeps.length = os.length ∧ ∀ seconds ∈ sleeps, 1 ≤ seconds

/-- The client keeps running exactly if the relay can always be reached and, where recovery is
switched off, no stream is opened after one whose connection id was kept. -/
theorem keeps_running_iff (huri : fromShared (normalizeHttpUri config.tcpAddr) = .ok ())
    (os : List Outcome) :
    KeepsRunning fromShared config os ↔
      (∀ o ∈ os, o.attempt.isUnreachable = false) ∧
        (config.sessionRecoveryWindowSeconds = 0 → os.Pairwise fun p o =>
          (p.attempt.kept config).isSome = true → o.attempt.isOpened = false) := by
  have hruns : KeepsRunning fromShared config os ↔ ∃ r, run fromShared config os = .ok r := by
    constructor
    · rintro ⟨sleeps, s, h, -⟩
      exact ⟨_, h⟩
    · rintro ⟨⟨sleeps, s⟩, h⟩
      exact ⟨sleeps, s, h, sleeps_of_runFrom huri h⟩
  rw [hruns, run, runFrom_ok_iff huri]
  simp only [Survives, Option.isSome_none, Bool.false_eq_true, false_implies, implies_true,
    and_true]
  refine and_congr_right fun hreach => ⟨fun h hoff => ?_, fun h => ?_⟩
  · exact h.imp fun hs => hs.2 hoff
  · by_cases hoff : config.sessionRecoveryWindowSeconds = 0
    · refine (h hoff).imp_of_mem fun _ ho hs => ⟨hreach _ ho, fun _ => hs⟩
    · refine List.pairwise_of_forall_mem_list fun _ _ o ho => ?_
      exact ⟨hreach o ho, fun h0 => absurd h0 hoff⟩

end Network

/-- A device with the default settings. -/
def station : Config :=
  { tcpAddr := "127.0.0.1:50051", deviceId := "dev-1", token := "tok-1" }

/-- A stream that registers the device as `cid` and is then closed. -/
def registers (now : EpochMillis) (cid : String) : Attempt :=
  .opened now ⟨true, [⟨some (.registerResponse cid false), true⟩], .closed⟩

/-- A session, a refused call and another session are survived. -/
theorem keeps_running_after_refusal :
    KeepsRunning (fun _ => .ok ()) station
      [⟨registers 0 "conn-1", 5⟩, ⟨.refused ⟨14, "unavailable"⟩, 1005⟩,
        ⟨registers 3000 "conn-2", 9000⟩] :=
  (keeps_running_iff rfl _).mpr (by decide +kernel)

/-- A relay that cannot be reached for a moment stops the client for good, and so does, without
recovery, the second stream of a device. -/
theorem unreachable_relay_stops_client :
    station.validate = .ok () ∧
      run (fun _ => .ok ()) station
          [⟨registers 0 "conn-1", 5⟩, ⟨.unreachable "connection refused", 1005⟩] =
        .error (.tonic "connection refused") ∧
      ¬ KeepsRunning (fun _ => .ok ()) station
        [⟨registers 0 "conn-1", 5⟩, ⟨.unreachable "connection refused", 1005⟩] ∧
      { station with sessionRecoveryWindowSeconds := 0 }.validate = .ok () ∧
      ¬ KeepsRunning (fun _ => .ok ()) { station with sessionRecoveryWindowSeconds := 0 }
        [⟨registers 0 "conn-1", 5⟩, ⟨registers 2000 "conn-2", 3000⟩] := by
  have hunreachable : run (fun _ => .ok ()) station
      [⟨registers 0 "conn-1", 5⟩, ⟨.unreachable "connection refused", 1005⟩] =
        .error (.tonic "connection refused") := by
    decide +kernel
  have hdisabled : run (fun _ => .ok ()) { station with sessionRecoveryWindowSeconds := 0 }
      [⟨registers 0 "conn-1", 5⟩, ⟨registers 2000 "conn-2", 3000⟩] =
        .error .recoveryDisabled := by
    decide +kernel
  refine ⟨by decide +kernel, hunreachable, ?_, by decide +kernel, ?_⟩
  · rintro ⟨sleeps, s, h, -⟩
    rw [hunreachable] at h
    cases h
  · rintro ⟨sleeps, s, h, -⟩
    rw [hdisabled] at h
    cases h

/-! ## The recovery window -/

/-- The connection id that `run` keeps of the outcomes. -/
def lastKept (config : Config) (os : List Outcome) : Option String :=
  (os.filterMap fun o => o.attempt.kept config).getLast?

/-- The most recent registered session: the id it was given and the time of its end. -/
def lastSession (config : Config) (os : List Outcome) : Option (String × EpochMillis) :=
  (os.filterMap fun o => (o.attempt.given config).map fun cid => (cid, o.disconnectAt)).getLast?

/-- The time is within the recovery window of a session or an attempt that ended at `ended`. -/
def InWindow (config : Config) (ended now : EpochMillis) : Prop :=
  now.val ≤ ended.val + config.sessionRecoveryWindowSeconds * 1000

instance (config : Config) (ended now : EpochMillis) : Decidable (InWindow config ended now) :=
  inferInstanceAs (Decidable (_ ≤ _))

/-- The clock readings of an outcome, in order. -/
def Outcome.readings (o : Outcome) : List EpochMillis :=
  match o.attempt with
  | .opened now _ => [now, o.disconnectAt]
  | _ => [o.disconnectAt]

/-- A register message offers a connection id exactly within the recovery window of the most recent
registered session, and then the one of that session. -/
def OffersLastSession (config : Config) (os : List Outcome) (now : EpochMillis)
    (request : RegisterRequest) : Prop :=
  (request.previousConnectionId ≠ "" ↔
    ∃ cid ended, lastSession config os = some (cid, ended) ∧ InWindow config ended now) ∧
  (request.previousConnectionId ≠ "" →
    ∃ ended, lastSession config os = some (request.previousConnectionId, ended))

/-- Within the window of the most recent registered session its id is the one kept, and after it
the window of the last attempt is over too, unless no id is kept. -/
def WindowsAgree (config : Config) (os : List Outcome) (now : EpochMillis) : Prop :=
  ∀ cid ended, lastSession config os = some (cid, ended) →
    if InWindow config ended now then cid ≠ "" ∧ lastKept config os = some cid
    else ∀ kept ∈ lastKept config os, kept ≠ "" →
      ∀ last ∈ os.getLast?, ¬ InWindow config last.disconnectAt now

section Recovery

variable {fromShared : String → Except String Unit} {config : Config}

/-- The variables of a run: the id kept last, and the time of the last attempt. -/
theorem state_of_runFrom (huri : fromShared (normalizeHttpUri config.tcpAddr) = .ok ())
    {os : List Outcome} : ∀ {s s' : RunState} {sleeps : List ℕ},
    runFrom fromShared config s os = .ok (sleeps, s') →
      s'.lastConnectionId = (lastKept config os).or s.lastConnectionId ∧
        s'.lastDisconnectAtMillis =
          (os.getLast?.map Outcome.disconnectAt).or s.lastDisconnectAtMillis := by
  induction os with
  | nil =>
    intro s s' sleeps h
    cases h
    exact ⟨rfl, rfl⟩
  | cons o os ih =>
    intro s s' sleeps h
    obtain ⟨rest, hrest, -⟩ := runFrom_cons_ok huri h
    obtain ⟨hid, htime⟩ := ih hrest
    have hkept : lastKept config (o :: os) = (lastKept config os).or (o.attempt.kept config) :=
      getLast?_filterMap_cons _ o os
    rw [hid, htime, hkept]
    refine ⟨?_, ?_⟩
    · cases o.attempt.kept config <;> simp [retry, RunState.keep]
    · cases hlast : os.getLast? with
      | none => simp [retry, List.getLast?_eq_none_iff.mp hlast]
      | some last => simp [List.getLast?_cons, hlast]

/-- Neither a rejection nor anything else that the reader does is a register message. -/
theorem register_notMem_readResponses (stop : StreamEnd) (request : RegisterRequest)
    (inbound : List Incoming) : ∀ reader : Reader,
    Effect.sent (message config (.register request)) ∉
      (readResponses config stop reader inbound).1 := by
  induction inbound with
  | nil =>
    intro reader
    unfold readResponses Reader.finish
    split
    · simp
    · split_ifs <;> simp
    · split_ifs <;> simp
  | cons i rest ih =>
    intro reader
    have hreceive : Effect.sent (message config (.register request)) ∉
        (reader.receive config i).1 := by
      unfold Reader.receive
      repeat' split
      all_goals simp [message]
    rw [readResponses]
    split <;> rename_i hstep <;> rw [hstep] at hreceive
    · simpa using ⟨hreceive, ih _⟩
    · exact hreceive

theorem register_of_mem_connectOnce {previous : Option String} {disconnect : Option EpochMillis}
    {now : EpochMillis} {session : Session} {request : RegisterRequest}
    (h : Effect.sent (message config (.register request)) ∈
      (connectOnce fromShared config previous disconnect (.opened now session)).1) :
    request = registerRequest config previous disconnect now := by
  unfold connectOnce at h
  split at h
  · cases h
  · dsimp only at h
    split_ifs at h
    · cases h
    · rcases List.mem_cons.mp h with h | h
      · simpa [message] using h
      · exact absurd h (register_notMem_readResponses _ _ _ _)
    · cases h

theorem inWindow_iff (ended now : EpochMillis) :
    saturatingSub now.val ended.val ≤ config.windowMillis ↔ InWindow config ended now := by
  have hnow := now.isLt
  have hended := ended.isLt
  unfold saturatingSub Config.windowMillis InWindow i64Max u64Max
  omega

/-- The id that a register message offers. -/
theorem previousConnectionId_registerRequest (previous : Option String) (last : Option EpochMillis)
    (now : EpochMillis) (offered : String) (hoffered : offered ≠ "") :
    (registerRequest config previous last now).previousConnectionId = offered ↔
      previous = some offered ∧ ∃ ended ∈ last, InWindow config ended now := by
  simp only [registerRequest, previousForRegister, inWindow_iff]
  cases previous with
  | none => simp [hoffered.symm]
  | some cid =>
    cases last with
    | none => simp [hoffered.symm]
    | some ended =>
      by_cases hin : InWindow config ended now <;> simp [hin, hoffered.symm]

theorem exists_of_lastSession {os : List Outcome} {cid : String} {ended : EpochMillis}
    (h : lastSession config os = some (cid, ended)) : ∃ o ∈ os, o.disconnectAt = ended := by
  have hmem := List.mem_of_getLast? h
  obtain ⟨o, ho, heq⟩ := List.mem_filterMap.mp hmem
  obtain ⟨cid', -, heq⟩ := Option.map_eq_some_iff.mp heq
  exact ⟨o, ho, congrArg Prod.snd heq⟩

theorem lastKept_of_lastSession_none {os : List Outcome} (h : lastSession config os = none) :
    lastKept config os = none := by
  unfold lastSession lastKept at *
  rw [List.getLast?_eq_none_iff, List.filterMap_eq_nil_iff] at h ⊢
  intro o ho
  have hgiven : o.attempt.given config = none := by simpa using h o ho
  unfold Attempt.given at hgiven
  unfold Attempt.kept
  split
  · rename_i now session hattempt
    rw [hattempt] at hgiven
    split_ifs
    · rfl
    · exact hgiven
  · rfl

/-- The last attempt ends no earlier than any other. -/
theorem le_disconnectAt_getLast {os : List Outcome} {o last : Outcome}
    (hclock : (os.flatMap Outcome.readings).Pairwise (· ≤ ·)) (ho : o ∈ os)
    (hlast : os.getLast? = some last) : o.disconnectAt ≤ last.disconnectAt := by
  obtain ⟨init, rfl⟩ := List.getLast?_eq_some_iff.mp hlast
  have hmem (p : Outcome) : p.disconnectAt ∈ p.readings := by
    unfold Outcome.readings
    split <;> simp
  rcases List.mem_append.mp ho with ho | ho
  · rw [List.flatMap_append, List.pairwise_append] at hclock
    refine hclock.2.2 _ (List.mem_flatMap.mpr ⟨o, ho, hmem o⟩) _ ?_
    simpa using hmem last
  · obtain rfl := List.mem_singleton.mp ho
    exact Nat.le_refl _

/-- A register message offers the last session in its window, and only it, exactly if the windows of
the session and of the last attempt agree. -/
theorem offers_last_session_iff (huri : fromShared (normalizeHttpUri config.tcpAddr) = .ok ())
    {os : List Outcome} {sleeps : List ℕ} {s : RunState}
    (hrun : run fromShared config os = .ok (sleeps, s)) {now : EpochMillis}
    (hclock : (os.flatMap Outcome.readings ++ [now]).Pairwise (· ≤ ·)) (session : Session)
    {request : RegisterRequest}
    (hsent : Effect.sent (message config (.register request)) ∈
      (connectOnce fromShared config s.lastConnectionId s.lastDisconnectAtMillis
        (.opened now session)).1) :
    OffersLastSession config os now request ↔ WindowsAgree config os now := by
  obtain ⟨hid, htime⟩ := state_of_runFrom huri hrun
  simp only [Option.or_none] at hid htime
  have hrequest := register_of_mem_connectOnce hsent
  rw [hid, htime] at hrequest
  have hoffer (offered : String) (h : offered ≠ "") :
      request.previousConnectionId = offered ↔ lastKept config os = some offered ∧
        ∃ last ∈ os.getLast?, InWindow config last.disconnectAt now := by
    rw [hrequest, previousConnectionId_registerRequest _ _ _ _ h]
    simp
  cases hsession : lastSession config os with
  | none =>
    have hempty : request.previousConnectionId = "" := by
      by_contra hne
      have := ((hoffer _ hne).mp rfl).1
      rw [lastKept_of_lastSession_none hsession] at this
      cases this
    simp [OffersLastSession, WindowsAgree, hsession, hempty]
  | some found =>
    obtain ⟨cid, ended⟩ := found
    obtain ⟨o, ho, rfl⟩ := exists_of_lastSession hsession
    obtain ⟨last, hlast⟩ :=
      Option.isSome_iff_exists.mp (List.getLast?_isSome.mpr (List.ne_nil_of_mem ho))
    have hle := le_disconnectAt_getLast (List.pairwise_append.mp hclock).1 ho hlast
    simp only [hlast, Option.mem_some_iff, exists_eq_left'] at hoffer
    by_cases hin : InWindow config o.disconnectAt now
    · have hinLast : InWindow config last.disconnectAt now :=
        hin.trans (Nat.add_le_add_right hle _)
      simp only [hinLast, and_true] at hoffer
      constructor
      · rintro ⟨hoffers, hlastId⟩ cid' ended' heq
        cases hsession.symm.trans heq
        have hne := hoffers.mpr ⟨_, _, hsession, hin⟩
        obtain ⟨ended, hsame⟩ := hlastId hne
        cases hsession.symm.trans hsame
        rw [if_pos hin]
        exact ⟨hne, (hoffer _ hne).mp rfl⟩
      · intro hagree
        have hkept := hagree _ _ hsession
        rw [if_pos hin] at hkept
        have hprevious := (hoffer cid hkept.1).mpr hkept.2
        refine ⟨⟨fun _ => ⟨_, _, hsession, hin⟩, fun _ => hprevious ▸ hkept.1⟩, fun _ => ?_⟩
        exact ⟨_, hprevious ▸ hsession⟩
    · constructor
      · rintro ⟨hoffers, -⟩ cid' ended' heq
        cases hsession.symm.trans heq
        rw [if_neg hin]
        intro kept hkept hne last' hlast' hinLast
        cases hlast.symm.trans hlast'
        have hprevious := (hoffer kept hne).mpr ⟨hkept, hinLast⟩
        obtain ⟨cid₂, ended₂, hsame, hin₂⟩ := hoffers.mp (hprevious ▸ hne)
        cases hsession.symm.trans hsame
        exact hin hin₂
      · intro hagree
        have hover := hagree _ _ hsession
        rw [if_neg hin] at hover
        have hempty : request.previousConnectionId = "" := by
          by_contra hne
          obtain ⟨hkept, hinLast⟩ := (hoffer _ hne).mp rfl
          exact hover _ hkept hne last hlast hinLast
        refine ⟨⟨fun hne => absurd hempty hne, ?_⟩, fun hne => absurd hempty hne⟩
        rintro ⟨cid₂, ended₂, hsame, hin₂⟩
        cases hsession.symm.trans hsame
        exact absurd hin₂ hin

end Recovery

/-- A device that comes back within its window offers the session that was closed, also after a call
that was refused. -/
theorem closed_session_is_offered :
    OffersLastSession station
      [⟨registers 0 "conn-1", 5⟩, ⟨.refused ⟨14, "unavailable"⟩, 1010⟩] 3020
      ⟨"dev-1", [], "conn-1"⟩ := by
  have huri : (fun _ => .ok () : String → Except String Unit)
      (normalizeHttpUri station.tcpAddr) = .ok () := rfl
  have hrun : run (fun _ => .ok ()) station
      [⟨registers 0 "conn-1", 5⟩, ⟨.refused ⟨14, "unavailable"⟩, 1010⟩] =
      .ok ([1, 2], ⟨some "conn-1", some 1010, 2⟩) := by
    decide +kernel
  refine (offers_last_session_iff huri hrun (by decide) ⟨true, [], .closed⟩
    (by decide +kernel)).mpr ?_
  intro cid ended hsession
  have hlast : lastSession station
      [⟨registers 0 "conn-1", 5⟩, ⟨.refused ⟨14, "unavailable"⟩, 1010⟩] = some ("conn-1", 5) := by
    decide +kernel
  cases hlast.symm.trans hsession
  decide +kernel

/-- With a window of two seconds, calls that are refused every second after the end of a session let
the client offer that session after three seconds. -/
theorem stale_session_is_offered :
    let config := { station with sessionRecoveryWindowSeconds := 2, backoffMaxSeconds := 1 }
    let os := [⟨registers 0 "conn-1", 10⟩, ⟨.refused ⟨14, "unavailable"⟩, 1021⟩,
      ⟨.refused ⟨14, "unavailable"⟩, 2066⟩]
    config.validate = .ok () ∧
      (os.flatMap Outcome.readings ++ [3069]).Pairwise (· ≤ ·) ∧
      ∃ s request, run (fun _ => .ok ()) config os = .ok ([1, 1, 1], s) ∧
        Effect.sent (message config (.register request)) ∈
          (connectOnce (fun _ => .ok ()) config s.lastConnectionId s.lastDisconnectAtMillis
            (registers 3069 "conn-2")).1 ∧
        ¬ OffersLastSession config os 3069 request := by
  refine ⟨by decide +kernel, by decide, ⟨some "conn-1", some 2066, 3⟩,
    ⟨"dev-1", [], "conn-1"⟩, by decide +kernel, by decide +kernel, ?_⟩
  rintro ⟨hoffers, -⟩
  obtain ⟨cid, ended, hsession, hin⟩ := hoffers.mp (by decide)
  have hlast :
      lastSession { station with sessionRecoveryWindowSeconds := 2, backoffMaxSeconds := 1 }
      [⟨registers 0 "conn-1", 10⟩, ⟨.refused ⟨14, "unavailable"⟩, 1021⟩,
        ⟨.refused ⟨14, "unavailable"⟩, 2066⟩] = some ("conn-1", 10) := by
    decide +kernel
  cases hlast.symm.trans hsession
  exact absurd hin (by decide)

end GrpcRelay.DeviceSdk
