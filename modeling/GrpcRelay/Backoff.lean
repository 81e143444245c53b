import GrpcRelay.Publications
import Mathlib.Data.List.TakeWhile

/-!
# The backoff of the MQTT worker

The worker counts its failed sessions in `attempt`.  It would forget them when a session returns
normally, but a session does so only when the channel is closed, and then no other session follows.
So the delay after a failed session is that of the number of all failed sessions before it
(`delays_of_run`), whether these had connected or not.
-/

namespace GrpcRelay.Mqtt

/-! ## What a run shows of its sessions -/

/-- What can be seen of the sessions of the worker. -/
inductive Report where
  /-- A session reached `ConnAck`. -/
  | connected
  /-- A session has failed, and the worker sleeps. -/
  | slept (seconds : ℕ)
  deriving DecidableEq, Repr

/-- What a step reports. -/
def reports (_ : State) (a : Action) (s' : State) : List Report :=
  match a, s'.worker with
  | .poll .connAck, _ => [.connected]
  | .backoff, .sleeping seconds => [.slept seconds]
  | _, _ => []

/-- The runs of the publisher and its worker, with what they report. -/
abbrev Reported (config : Config) : List Report → State → Prop :=
  Runs.Logged (step config) (fun _ _ => True) reports {}

/-- A failed session: whether it had reached `ConnAck`, and the delay that followed it. -/
structure Failure where
  reached : Bool
  delay : ℕ
  deriving DecidableEq, Repr

/-- The failed sessions so far, and whether the one that runs has reached `ConnAck`. -/
structure SessionLog where
  failures : List Failure := []
  reached : Bool := false
  deriving DecidableEq, Repr

/-- A report is read: a sleep ends a session that failed. -/
def SessionLog.read (h : SessionLog) : Report → SessionLog
  | .connected => { h with reached := true }
  | .slept seconds => { failures := h.failures ++ [⟨h.reached, seconds⟩] }

/-- The sessions that the reports tell of. -/
def sessions (log : List Report) : SessionLog := log.foldl SessionLog.read {}

/-! ## The law -/

/-- The shortest delay. -/
def Config.initial (config : Config) : ℕ := max 1 config.reconnectInitialSeconds

/-- The longest delay. -/
def Config.longest (config : Config) : ℕ := max config.initial config.reconnectMaxSeconds

/-- The number of consecutive failures that count for the delay after a session, given which of the
failed sessions before it had connected: none if the session itself had connected, else those back
to the last that had connected. -/
def consecutive (before : List Bool) (reached : Bool) : ℕ :=
  if reached then 0
  else min before.length ((before.reverse.takeWhile fun flag => !flag).length + 1)

/-- The delay after `n` consecutive failures. -/
def exponential (config : Config) (n : ℕ) : ℕ :=
  min config.longest (config.initial * 2 ^ min n 20)

/-- The delays of a list of failed sessions count consecutive failures. -/
def Consecutive (config : Config) (failures : List Failure) : Prop :=
  ∀ i f, failures[i]? = some f →
    f.delay = exponential config (consecutive ((failures.take i).map Failure.reached) f.reached)

/-- No session but the first had connected. -/
def OnlyFirst (before : List Bool) (reached : Bool) : Prop :=
  (reached = true → before = []) ∧ ∀ flag ∈ before.tail, flag = false

/-- Forgetting a failed session makes no difference to the delay. -/
def Unaffected (config : Config) (before : List Bool) (reached : Bool) : Prop :=
  OnlyFirst before reached ∨ 20 ≤ consecutive before reached ∨
    config.longest ≤ config.initial * 2 ^ consecutive before reached

theorem Config.initial_pos (config : Config) : 0 < config.initial :=
  lt_of_lt_of_le Nat.one_pos (le_max_left _ _)

theorem consecutive_le (before : List Bool) (reached : Bool) :
    consecutive before reached ≤ before.length := by
  unfold consecutive
  split_ifs
  · exact Nat.zero_le _
  · exact min_le_left _ _

/-- All but the first failed session are counted exactly when none of them had connected. -/
theorem length_le_takeWhile_iff (b : Bool) (rest : List Bool) :
    rest.length ≤ ((b :: rest).reverse.takeWhile fun flag => !flag).length ↔
      ∀ flag ∈ rest, flag = false := by
  have all : (rest.reverse.takeWhile fun flag => !flag).length = rest.reverse.length ↔
      ∀ flag ∈ rest, flag = false := by
    have whole := List.takeWhile_prefix (fun flag => !flag) (l := rest.reverse)
    rw [show _ ↔ rest.reverse.takeWhile _ = rest.reverse from
      ⟨whole.eq_of_length, congrArg List.length⟩, List.takeWhile_eq_self_iff]
    simp
  rw [List.reverse_cons, List.takeWhile_append]
  split_ifs with h
  · simp only [List.length_append, List.length_reverse]
    exact iff_of_true (Nat.le_add_right _ _) (all.1 h)
  · have le := (List.takeWhile_prefix (fun flag => !flag) (l := rest.reverse)).length_le
    rw [List.length_reverse] at h le
    rw [← all, List.length_reverse]
    omega

theorem consecutive_eq_length_iff (before : List Bool) (reached : Bool) :
    consecutive before reached = before.length ↔ OnlyFirst before reached := by
  unfold consecutive OnlyFirst
  cases reached with
  | true =>
    cases before <;> simp
  | false =>
    cases before with
    | nil => simp
    | cons b rest =>
      rw [List.tail_cons, ← length_le_takeWhile_iff b rest, List.length_cons]
      simp only [Bool.false_eq_true, if_false, false_implies, true_and]
      omega

/-- The worker's delay, without the limits of the machine integers. -/
theorem backoffSeconds_eq {config : Config} (hinitial : config.reconnectInitialSeconds < 2 ^ 64)
    (hmax : config.reconnectMaxSeconds < 2 ^ 64) (n : ℕ) :
    backoffSeconds config n = exponential config n := by
  have longest : config.longest < 2 ^ 64 := by
    unfold Config.longest Config.initial
    omega
  have pow : checkedPow2 (min n 20) = 2 ^ min n 20 := if_pos (by omega)
  change min config.longest (min (config.initial * checkedPow2 (min n 20)) (2 ^ 64 - 1)) =
    min config.longest (config.initial * 2 ^ min n 20)
  rw [pow]
  omega

/-- The counter of the worker is wide enough. -/
theorem backoffSeconds_min (config : Config) (n : ℕ) :
    backoffSeconds config (min n (2 ^ 32 - 1)) = backoffSeconds config n := by
  have same : min (min n (2 ^ 32 - 1)) 20 = min n 20 := by omega
  unfold backoffSeconds
  rw [same]

/-- Two numbers of failures have the same delay only if the difference does not show. -/
theorem exponential_eq_iff {config : Config} {n m : ℕ} (le : n ≤ m) :
    exponential config m = exponential config n ↔
      n = m ∨ 20 ≤ n ∨ config.longest ≤ config.initial * 2 ^ n := by
  unfold exponential
  rcases Nat.lt_or_ge n 20 with lt | ge
  · rw [min_eq_left lt.le]
    rcases le.eq_or_lt with rfl | less
    · simp [min_eq_left lt.le]
    · have more : config.initial * 2 ^ n < config.initial * 2 ^ min m 20 :=
        Nat.mul_lt_mul_of_pos_left (Nat.pow_lt_pow_right (by decide) (by omega))
          config.initial_pos
      omega
  · rw [min_eq_right ge, min_eq_right (ge.trans le)]
    exact iff_of_true rfl (.inr (.inl ge))

/-! ## The worker -/

/-- The worker goes on to give up the queue of a session whose channel is closed. -/
def Resume.Ends : Resume → Prop
  | .draining _ => True
  | _ => False

/-- The worker gives up the queue of a session whose channel is closed. -/
def Worker.Ends : Worker → Prop
  | .draining _ => True
  | .dropping next | .settling next => next.Ends
  | _ => False

@[simp] theorem Resume.ends_worker (next : Resume) : next.worker.Ends = next.Ends := by
  cases next <;> rfl

/-- The last session has ended. -/
def State.Ended (s : State) : Prop :=
  s.hasSenders = false ∧ (s.worker = .between ∨ s.worker = .returned)

section Step

variable {config : Config} {s s' : State} {a : Action} {log : List Report}

/-- The attempts are counted by a backoff, and forgotten at the end of a session. -/
theorem attempt_of_step (h : step config s a = some s') :
    (a = .backoff ∧ s.worker = .failed ∧ s'.attempt = min (s.attempt + 1) (2 ^ 32 - 1) ∧
      s'.worker = .sleeping (backoffSeconds config s.attempt)) ∨
    (a = .drain ∧ s.worker.Ends ∧ s'.worker = .between ∧ s'.hasSenders = s.hasSenders) ∨
    a ≠ .backoff ∧ s'.attempt = s.attempt := by
  cases a with
  | backoff =>
    simp only [step] at h
    split at h
    · rename_i failed
      cases h
      exact .inl ⟨rfl, failed, rfl, rfl⟩
    · cases h
  | drain =>
    simp only [step] at h
    split at h
    · rename_i empty
      cases h
      exact .inr (.inl ⟨rfl, by simp [empty, Worker.Ends], rfl, rfl⟩)
    · cases h
      exact .inr (.inr ⟨by simp, rfl⟩)
    · cases h
  | offer request | countPending | countRefused | close | begin | flush | poll event
    | snapshot ok | receive | receiveClosed | tick ok | publish ok | drop | settle | wake =>
    refine .inr (.inr ⟨by simp, ?_⟩)
    simp only [step] at h
    repeat' split at h
    all_goals cases h
    all_goals rfl

/-- A session ends only when the channel is closed, and the channel stays closed. -/
theorem ends_of_step (h : step config s a = some s')
    (closed : s.worker.Ends → s.hasSenders = false) (ends : s'.worker.Ends) :
    s'.hasSenders = false := by
  cases a with
  | settle =>
    simp only [step] at h
    split at h
    · rename_i next settling
      cases h
      rw [Resume.ends_worker] at ends
      exact closed (settling ▸ ends)
    · cases h
  | receive =>
    simp only [step] at h
    split at h
    · split_ifs at h
      cases h
      simp only [received] at ends
      split_ifs at ends
      all_goals exact ends.elim
    · cases h
  | offer request | countPending | countRefused | close | begin | flush | poll event
    | snapshot ok | receiveClosed | tick ok | publish ok | drop | drain | backoff | wake =>
    simp only [step] at h
    repeat' split at h
    all_goals cases h
    all_goals simp_all [Worker.Ends, Resume.Ends]

/-- No session follows the last one. -/
theorem ended_of_step (h : step config s a = some s') (ended : s.Ended) : s'.Ended := by
  obtain ⟨closed, worker⟩ := ended
  cases a with
  | begin =>
    simp only [step, closed] at h
    split at h
    · cases h
      exact ⟨rfl, .inr rfl⟩
    · cases h
  | countPending | countRefused =>
    simp only [step] at h
    split_ifs at h
    cases h
    exact ⟨closed, worker⟩
  | offer request | close | flush | poll event | snapshot ok | receive | receiveClosed | tick ok
    | publish ok | drop | settle | drain | backoff | wake =>
    rcases worker with worker | worker <;> simp [step, closed, worker] at h

/-! ## Runs -/

theorem sessions_concat (log new : List Report) :
    sessions (log ++ new) = new.foldl SessionLog.read (sessions log) := by
  unfold sessions
  exact List.foldl_append

/-- What is reported without a backoff adds no failed session. -/
theorem failures_of_reports (log : List Report) (s s' : State) (h : a ≠ .backoff) :
    (sessions (log ++ reports s a s')).failures = (sessions log).failures := by
  rw [sessions_concat]
  unfold reports
  split
  · rfl
  · exact absurd rfl h
  · rfl

/-- The delays so far, and the attempts that the worker has counted. -/
structure Counted (config : Config) (log : List Report) (s : State) : Prop where
  delays : ∀ i f, (sessions log).failures[i]? = some f → f.delay = backoffSeconds config i
  attempt : s.Ended ∨ s.attempt = min (sessions log).failures.length (2 ^ 32 - 1)
  closed : s.worker.Ends → s.hasSenders = false

theorem counted_of_step (counted : Counted config log s) (h : step config s a = some s') :
    Counted config (log ++ reports s a s') s' := by
  have closed := ends_of_step h counted.closed
  obtain ⟨rfl, failed, more, sleeping⟩ | ⟨rfl, ends, between, senders⟩ | ⟨other, same⟩ :=
    attempt_of_step h
  · have attempt : s.attempt = min (sessions log).failures.length (2 ^ 32 - 1) :=
      counted.attempt.resolve_left fun ended => by
        rcases ended.2 with worker | worker <;> simp [failed] at worker
    have failures : (sessions (log ++ reports s .backoff s')).failures =
        (sessions log).failures ++
          [⟨(sessions log).reached, backoffSeconds config s.attempt⟩] := by
      have report : reports s .backoff s' = [.slept (backoffSeconds config s.attempt)] := by
        simp [reports, sleeping]
      rw [sessions_concat, report]
      rfl
    refine ⟨?_, .inr ?_, closed⟩
    · intro i f hf
      rw [failures, List.getElem?_append] at hf
      split_ifs at hf with lt
      · exact counted.delays i f hf
      · rw [List.getElem?_singleton] at hf
        split_ifs at hf with last
        cases hf
        have length : i = (sessions log).failures.length := by omega
        rw [length, attempt, backoffSeconds_min]
    · rw [more, failures, attempt, List.length_append, List.length_singleton]
      omega
  · have failures := failures_of_reports (a := .drain) log s s' (by simp)
    refine ⟨failures ▸ counted.delays, .inl ⟨?_, .inl between⟩, closed⟩
    rw [senders, counted.closed ends]
  · have failures := failures_of_reports log s s' other
    refine ⟨failures ▸ counted.delays, ?_, closed⟩
    rw [failures, same]
    exact counted.attempt.imp_left (ended_of_step h)

theorem counted_of_run (h : Reported config log s) : Counted config log s := by
  refine Runs.Logged.invariant (I := Counted config) ⟨?_, .inr rfl, False.elim⟩ ?_ h
  · intro i f hf
    simp [sessions] at hf
  · intro log s a s' _ counted _ hs
    exact counted_of_step counted hs

/-- The delays count the consecutive failures in a run exactly when no failed session but the first
had connected, as far as it shows. -/
theorem backoff_counts_consecutive_iff (hinitial : config.reconnectInitialSeconds < 2 ^ 64)
    (hmax : config.reconnectMaxSeconds < 2 ^ 64) (h : Reported config log s) :
    Consecutive config (sessions log).failures ↔
      ∀ i f, (sessions log).failures[i]? = some f →
        Unaffected config (((sessions log).failures.take i).map Failure.reached) f.reached := by
  refine forall₃_congr fun i f hf => ?_
  have lt : i < (sessions log).failures.length := (List.getElem?_eq_some_iff.1 hf).1
  have length : (((sessions log).failures.take i).map Failure.reached).length = i := by
    simp [lt.le]
  have le := consecutive_le (((sessions log).failures.take i).map Failure.reached) f.reached
  rw [length] at le
  rw [(counted_of_run h).delays i f hf, backoffSeconds_eq hinitial hmax, exponential_eq_iff le,
    Unaffected, ← consecutive_eq_length_iff, length]

end Step

/-- The first session connects and is lost; the second does not connect. -/
def lostRun : List Action :=
  [.begin, .poll .connAck, .snapshot true, .poll .error, .backoff, .wake,
    .begin, .poll .error, .backoff]

/-- The first session does not connect; the second connects and is lost. -/
def recoveredRun : List Action :=
  [.begin, .poll .error, .backoff, .wake,
    .begin, .poll .connAck, .snapshot true, .poll .error, .backoff]

theorem reported_of_execute {config : Config} {log : List Report} (as : List Action)
    (h : (Runs.executeLogged (step config) (fun _ _ => true) reports [] {} as).map Prod.fst =
      some log) : ∃ s, Reported config log s := by
  obtain ⟨⟨log', s⟩, run, rfl⟩ := Option.map_eq_some_iff.1 h
  exact ⟨s, .of_executeLogged (fun _ _ _ => trivial) _ .start run⟩

theorem lost_session_counts_once :
    ∃ s, Reported broker [.connected, .slept 1, .slept 2] s ∧
      Consecutive broker (sessions [.connected, .slept 1, .slept 2]).failures := by
  obtain ⟨s, run⟩ : ∃ s, Reported broker [.connected, .slept 1, .slept 2] s :=
    reported_of_execute lostRun (by decide +kernel)
  refine ⟨s, run, (backoff_counts_consecutive_iff (by decide) (by decide) run).2 ?_⟩
  intro i f hf
  rcases i with _ | _ | i
  · cases hf
    exact .inl ⟨fun _ => rfl, by decide⟩
  · cases hf
    exact .inl ⟨fun h => (by cases h), by decide⟩
  · cases hf

/-- After a session that had connected the worker waits two seconds, not one. -/
theorem recovered_session_keeps_backoff :
    ∃ s, Reported broker [.slept 1, .connected, .slept 2] s ∧
      ¬ Consecutive broker (sessions [.slept 1, .connected, .slept 2]).failures := by
  obtain ⟨s, run⟩ : ∃ s, Reported broker [.slept 1, .connected, .slept 2] s :=
    reported_of_execute recoveredRun (by decide +kernel)
  refine ⟨s, run, fun law => ?_⟩
  exact absurd (law 1 ⟨true, 2⟩ rfl) (by decide)

end GrpcRelay.Mqtt
