import GrpcRelay.Alerting
import GrpcRelay.Lib.Episodes

/-!
# The episodes of an alert

The rules share the three maps of the loop, but if their names are distinct each has entries of its
own: what the loop keeps for a rule is a tracker of episodes, and the round of the rule is a tick of
it (`track_evaluateAt`).  So each run of ticks at which the condition holds has at most one alert,
at its first tick that is due (`alert_is_emitted_once_an_episode`).
-/

namespace GrpcRelay.Alerting

open Episodes (Tracker Signal)

/-! ## What an alert is -/

section Statement

variable (relayId : String) (config : AlertingConfig) (ticks : ℕ → Tick)

/-- The condition of a rule holds at a tick. -/
def Holds (rule : AlertRuleConfig) (n : ℕ) : Prop :=
  evaluateCondition rule.condition (ticks n).context = true

/-- The alert of a rule is emitted at a tick. -/
def Emits (rule : AlertRuleConfig) (n : ℕ) : Prop :=
  ∃ record ∈ emitted relayId config ticks n, record.alertName = rule.name

/-- The maximal run of ticks at which the condition holds and that has tick `n` begins at
`start`. -/
structure RunFrom (rule : AlertRuleConfig) (start n : ℕ) : Prop where
  le : start ≤ n
  holds : ∀ k, start ≤ k → k ≤ n → Holds ticks rule k
  maximal : ∀ k, k + 1 = start → ¬ Holds ticks rule k

/-- The alert before tick `n` was emitted at tick `m`. -/
structure Previous (rule : AlertRuleConfig) (m n : ℕ) : Prop where
  lt : m < n
  emits : Emits relayId config ticks rule m
  none : ∀ k, m < k → k < n → ¬ Emits relayId config ticks rule k

/-- The time at which the rule at position `i` is evaluated. -/
def timeAt (i n : ℕ) : Instant := (ticks n).clock i

/-- Tick `n` is at least the duration of the rule after tick `start`, and at least the suppression
interval after the alert before. -/
structure AlertDue (i : ℕ) (rule : AlertRuleConfig) (start n : ℕ) : Prop where
  duration : timeAt ticks i start + (rule.durationSeconds.getD 0 : ℕ) ≤ timeAt ticks i n
  interval : ∀ m, Previous relayId config ticks rule m n →
    timeAt ticks i m + config.suppression.minIntervalSeconds ≤ timeAt ticks i n

end Statement

/-! ## One round -/

variable {relayId : String} {config : AlertingConfig} {context : AlertContext}
  {rule other : AlertRuleConfig} {now : Instant} {st : AlertState}

/-- What the loop keeps for a rule. -/
def track (rule : AlertRuleConfig) (st : AlertState) : Tracker Instant where
  since := st.conditionActiveSince.lookup rule.name
  sent := st.lastSent.lookup rule.name
  reported := decide (st.lastState.lookup rule.name = some rule.severity)

/-- The tick of the tracker of a rule. -/
def trackerTick (config : AlertingConfig) (rule : AlertRuleConfig) :
    Tracker Instant → Bool → Instant → Bool × Tracker Instant :=
  Episodes.tick (fun since now => !tooShort rule since now)
    (fun last now => !suppressed config (some last) now)

/-- The last alert of the tracker suppresses the next as it does in the loop. -/
theorem sent_all (rule : AlertRuleConfig) (now : Instant) (st : AlertState) :
    (track rule st).sent.all (fun last => !suppressed config (some last) now) =
      !suppressed config (st.lastSent.lookup rule.name) now := by
  unfold track
  cases st.lastSent.lookup rule.name with
  | none => rfl
  | some last => rfl

/-- The round of a rule is a tick of its tracker. -/
theorem track_evaluateAt (relayId : String) (config : AlertingConfig) (context : AlertContext)
    (rule : AlertRuleConfig) (now : Instant) (st : AlertState) :
    track rule (evaluateAt relayId config context rule now st).2 =
      (trackerTick config rule (track rule st) (evaluateCondition rule.condition context) now).2 ∧
    (evaluateAt relayId config context rule now st).1 =
      if (trackerTick config rule (track rule st) (evaluateCondition rule.condition context)
        now).1 then [emitAlert relayId config.channels rule rule.severity context] else [] := by
  unfold trackerTick Episodes.tick
  rw [sent_all]
  unfold evaluateAt evaluateRule
  cases holds : evaluateCondition rule.condition context with
  | false => simp [track]
  | true =>
    have since : (track rule st).since.getD now =
        (st.conditionActiveSince.lookup rule.name).getD now := rfl
    simp only [if_true, since]
    cases short : tooShort rule ((st.conditionActiveSince.lookup rule.name).getD now) now with
    | true => simp [track]
    | false =>
      cases early : suppressed config (st.lastSent.lookup rule.name) now with
      | true => simp [track]
      | false =>
        by_cases reported : st.lastState.lookup rule.name = some rule.severity
        · simp [track, reported]
        · simp [track, reported]

/-- The round of another rule leaves the tracker alone. -/
theorem track_evaluateAt_of_ne (ne : other.name ≠ rule.name) (relayId : String)
    (config : AlertingConfig) (context : AlertContext) (now : Instant) (st : AlertState) :
    track rule (evaluateAt relayId config context other now st).2 = track rule st ∧
    (evaluateAt relayId config context other now st).1.filter (·.alertName = rule.name) = [] := by
  have name (severity : AlertingSeverity) :
      (emitAlert relayId config.channels other severity context).alertName ≠ rule.name := ne
  unfold evaluateAt
  split
  · simp [track, ne.symm]
  · dsimp only
    split_ifs
    · simp [track, ne.symm]
    · simp [track, ne.symm]
    · simp [track, ne.symm]
    · simp [track, ne.symm, name]

/-! ## The loop over the rules -/

/-- Rules of other names leave the tracker alone. -/
theorem track_evaluateRules_of_ne (relayId : String) (config : AlertingConfig)
    (context : AlertContext) {rules : List AlertRuleConfig}
    (others : ∀ r ∈ rules, r.name ≠ rule.name) (clock : ℕ → Instant) (st : AlertState) :
    track rule (evaluateRules relayId config context rules clock st).2 = track rule st ∧
    (evaluateRules relayId config context rules clock st).1.filter (·.alertName = rule.name) =
      [] := by
  induction rules generalizing clock st with
  | nil => exact ⟨rfl, rfl⟩
  | cons r rules ih =>
    obtain ⟨same, silent⟩ := track_evaluateAt_of_ne (others r List.mem_cons_self) relayId config
      context (clock 0) st
    obtain ⟨same', silent'⟩ := ih (fun r' hr => others r' (List.mem_cons_of_mem _ hr))
      (fun i => clock (i + 1)) (evaluateAt relayId config context r (clock 0) st).2
    refine ⟨same'.trans same, ?_⟩
    rw [evaluateRules, List.filter_append, silent, silent', List.append_nil]

/-- The loop over the rules is a tick of the tracker of each. -/
theorem track_evaluateRules (relayId : String) (config : AlertingConfig) (context : AlertContext)
    {rules : List AlertRuleConfig} (distinct : (rules.map (·.name)).Nodup) {i : ℕ}
    (found : rules[i]? = some rule) (clock : ℕ → Instant) (st : AlertState) :
    track rule (evaluateRules relayId config context rules clock st).2 =
      (trackerTick config rule (track rule st) (evaluateCondition rule.condition context)
        (clock i)).2 ∧
    (evaluateRules relayId config context rules clock st).1.filter (·.alertName = rule.name) =
      if (trackerTick config rule (track rule st) (evaluateCondition rule.condition context)
        (clock i)).1 then [emitAlert relayId config.channels rule rule.severity context]
      else [] := by
  induction rules generalizing clock st i with
  | nil => cases found
  | cons r rules ih =>
    rw [List.map_cons, List.nodup_cons] at distinct
    cases i with
    | zero =>
      obtain rfl : r = rule := by simpa using found
      have others : ∀ r' ∈ rules, r'.name ≠ r.name := fun r' mem same =>
        distinct.1 (same ▸ List.mem_map_of_mem mem)
      obtain ⟨next, first⟩ := track_evaluateAt relayId config context r (clock 0) st
      obtain ⟨same, silent⟩ := track_evaluateRules_of_ne relayId config context others
        (fun i => clock (i + 1)) (evaluateAt relayId config context r (clock 0) st).2
      refine ⟨same.trans next, ?_⟩
      rw [evaluateRules, List.filter_append, first, silent, List.append_nil]
      split_ifs
      · simp [emitAlert]
      · rfl
    | succ i =>
      have found : rules[i]? = some rule := by simpa using found
      have ne : r.name ≠ rule.name := fun same =>
        distinct.1 (same ▸ List.mem_map_of_mem (List.mem_of_getElem? found))
      obtain ⟨same, silent⟩ := track_evaluateAt_of_ne ne relayId config context (clock 0) st
      obtain ⟨next, rest⟩ := ih distinct.2 found (fun i => clock (i + 1))
        (evaluateAt relayId config context r (clock 0) st).2
      rw [same] at next rest
      refine ⟨next, ?_⟩
      rw [evaluateRules, List.filter_append, silent, List.nil_append]
      exact rest

/-! ## The sequence of ticks -/

variable {ticks : ℕ → Tick} {i n : ℕ}

/-- The signal that the loop follows for the rule at position `i`. -/
def signal (config : AlertingConfig) (ticks : ℕ → Tick) (i : ℕ) (rule : AlertRuleConfig) :
    Signal Instant where
  lasted since now := !tooShort rule since now
  rested last now := !suppressed config (some last) now
  active n := evaluateCondition rule.condition (ticks n).context
  time := timeAt ticks i

section Rule

variable (relayId : String) (ticks : ℕ → Tick) (distinct : (config.rules.map (·.name)).Nodup)
  (found : config.rules[i]? = some rule)
include distinct found

theorem track_alertState (n : ℕ) :
    track rule (alertState relayId config ticks n) = (signal config ticks i rule).before n := by
  induction n with
  | zero => rfl
  | succ n ih =>
    have next := (track_evaluateRules relayId config (ticks n).context distinct found
      (ticks n).clock (alertState relayId config ticks n)).1
    rw [ih] at next
    exact next

/-- The records of a rule at a tick: one if its alarm is raised, else none. -/
theorem filter_emitted (n : ℕ) [Decidable ((signal config ticks i rule).Raises n)] :
    (emitted relayId config ticks n).filter (·.alertName = rule.name) =
      if (signal config ticks i rule).Raises n then
        [emitAlert relayId config.channels rule rule.severity (ticks n).context] else [] := by
  have records := (track_evaluateRules relayId config (ticks n).context distinct found
    (ticks n).clock (alertState relayId config ticks n)).2
  rw [track_alertState relayId ticks distinct found] at records
  unfold emitted
  rw [records]
  exact if_congr Iff.rfl rfl rfl

theorem emits_iff_raises (n : ℕ) :
    Emits relayId config ticks rule n ↔ (signal config ticks i rule).Raises n := by
  classical
  have records := filter_emitted relayId ticks distinct found n
  have some : Emits relayId config ticks rule n ↔
      (emitted relayId config ticks n).filter (·.alertName = rule.name) ≠ [] := by
    rw [Ne, List.filter_eq_nil_iff]
    simp [Emits]
  rw [some, records]
  split_ifs with raised
  · exact iff_of_true (by simp) raised
  · exact iff_of_false (by simp) raised

theorem previous_iff_last (m n : ℕ) :
    Previous relayId config ticks rule m n ↔ (signal config ticks i rule).Last m n := by
  have emits (k : ℕ) := emits_iff_raises relayId ticks distinct found k
  constructor
  · rintro ⟨lt, at_m, none⟩
    exact ⟨lt, (emits m).1 at_m, fun k hk hn raised => none k hk hn ((emits k).2 raised)⟩
  · rintro ⟨lt, at_m, none⟩
    exact ⟨lt, (emits m).2 at_m, fun k hk hn raised => none k hk hn ((emits k).1 raised)⟩

end Rule

theorem runFrom_iff_began (start n : ℕ) :
    RunFrom ticks rule start n ↔ (signal config ticks i rule).Began start (n + 1) := by
  constructor
  · rintro ⟨le, holds, maximal⟩
    refine ⟨Nat.lt_succ_of_le le, fun k hk hn => holds k hk (Nat.le_of_lt_succ hn), ?_⟩
    exact fun k hk => Bool.eq_false_iff.2 (maximal k hk)
  · rintro ⟨lt, on, first⟩
    refine ⟨Nat.le_of_lt_succ lt, fun k hk hn => on k hk (Nat.lt_succ_of_le hn), ?_⟩
    exact fun k hk => Bool.eq_false_iff.1 (first k hk)

/-- The clock has gone on by `d` seconds. -/
theorem not_saturating_lt_iff {earlier now : Instant} (le : earlier ≤ now) (d : ℚ) :
    ¬ saturatingDurationSince now earlier < d ↔ earlier + d ≤ now := by
  rw [saturatingDurationSince, max_eq_right (sub_nonneg.2 le), not_lt, le_sub_iff_add_le']

theorem lasted_iff (config : AlertingConfig) (ticks : ℕ → Tick) (i : ℕ) (rule : AlertRuleConfig)
    {since now : Instant} (le : since ≤ now) :
    (signal config ticks i rule).lasted since now = true ↔
      since + (rule.durationSeconds.getD 0 : ℕ) ≤ now := by
  unfold signal tooShort
  cases rule.durationSeconds with
  | none => simpa using le
  | some seconds => simpa using not_saturating_lt_iff le seconds

theorem rested_iff {last now : Instant} (le : last ≤ now) :
    (signal config ticks i rule).rested last now = true ↔
      last + config.suppression.minIntervalSeconds ≤ now := by
  simpa [signal, suppressed] using not_saturating_lt_iff le config.suppression.minIntervalSeconds

/-- For rules of distinct names and clock readings that do not decrease: within a maximal run of
ticks at which the condition of a rule holds, its alert is emitted exactly at the first tick that is
at least its duration after the first tick of the run and at least the suppression interval after
its alert before; at a tick at which the condition does not hold it is not emitted; and it is
emitted at most once a tick. -/
theorem alert_is_emitted_once_an_episode (relayId : String) (config : AlertingConfig)
    (ticks : ℕ → Tick) (distinct : (config.rules.map (·.name)).Nodup) {i : ℕ}
    {rule : AlertRuleConfig} (found : config.rules[i]? = some rule)
    (ordered : ∀ m n, m ≤ n → timeAt ticks i m ≤ timeAt ticks i n) (n : ℕ) :
    (Emits relayId config ticks rule n ↔
      ∃ start, RunFrom ticks rule start n ∧ AlertDue relayId config ticks i rule start n ∧
        ∀ k, start ≤ k → k < n → ¬ AlertDue relayId config ticks i rule start k) ∧
    (¬ Holds ticks rule n → ¬ Emits relayId config ticks rule n) ∧
    ((emitted relayId config ticks n).filter (·.alertName = rule.name)).length ≤ 1 := by
  classical
  have due {start k : ℕ} (le : start ≤ k) : AlertDue relayId config ticks i rule start k ↔
      (signal config ticks i rule).Due start k := by
    have lasted := lasted_iff config ticks i rule (ordered start k le)
    constructor
    · rintro ⟨duration, interval⟩
      refine ⟨lasted.2 duration, fun m last => (rested_iff (ordered m k last.lt.le)).2 ?_⟩
      exact interval m ((previous_iff_last relayId ticks distinct found m k).2 last)
    · rintro ⟨enough, rested⟩
      refine ⟨lasted.1 enough, fun m previous => ?_⟩
      exact (rested_iff (ordered m k previous.lt.le)).1
        (rested m ((previous_iff_last relayId ticks distinct found m k).1 previous))
  have emits : Emits relayId config ticks rule n ↔
      ∃ start, RunFrom ticks rule start n ∧ AlertDue relayId config ticks i rule start n ∧
        ∀ k, start ≤ k → k < n → ¬ AlertDue relayId config ticks i rule start k := by
    rw [emits_iff_raises relayId ticks distinct found, Signal.raises_iff]
    refine exists_congr fun start => ?_
    rw [← runFrom_iff_began]
    refine and_congr_right fun run => and_congr (due run.le).symm ?_
    exact forall₂_congr fun k hk => imp_congr_right fun _ => not_congr (due hk).symm
  refine ⟨emits, fun off at_n => ?_, ?_⟩
  · obtain ⟨start, run, -⟩ := emits.1 at_n
    exact off (run.holds n run.le le_rfl)
  · rw [filter_emitted relayId ticks distinct found n]
    split_ifs
    · exact le_rfl
    · exact Nat.zero_le _

/-- The default rule for a broker that is away for a minute. -/
def mqttRule : AlertRuleConfig :=
  ⟨"mqtt_disconnected", "mqtt_connected == false", .critical, "MQTT disconnected", some 60⟩

/-- One rule, about the broker, with a cooldown of five minutes. -/
def mqttAlerting : AlertingConfig := ⟨[], [mqttRule], ⟨300⟩⟩

/-- The broker is away at every tick, a minute apart. -/
def awayTicks (n : ℕ) : Tick where
  context := ⟨.zero, .zero, .zero, .zero, false, .zero⟩
  clock _ := 60 * n

theorem alert_waits_for_duration :
    ¬ Emits "relay-1" mqttAlerting awayTicks mqttRule 0 ∧
      Emits "relay-1" mqttAlerting awayTicks mqttRule 1 := by
  have ordered (m n : ℕ) (le : m ≤ n) : timeAt awayTicks 0 m ≤ timeAt awayTicks 0 n := by
    have cast : (m : ℚ) ≤ n := Nat.cast_le.2 le
    simpa [timeAt, awayTicks] using cast
  have holds (n : ℕ) : Holds awayTicks mqttRule n := by
    have evaluated : evaluateCondition mqttRule.condition (awayTicks 0).context = true := by
      decide +kernel
    exact evaluated
  have found : mqttAlerting.rules[0]? = some mqttRule := rfl
  have law (n : ℕ) := alert_is_emitted_once_an_episode "relay-1" mqttAlerting awayTicks (by decide)
    found ordered n
  have early : ¬ AlertDue "relay-1" mqttAlerting awayTicks 0 mqttRule 0 0 := fun due =>
    absurd due.duration (by norm_num [timeAt, awayTicks, mqttRule])
  have first : ¬ Emits "relay-1" mqttAlerting awayTicks mqttRule 0 := by
    intro emits
    obtain ⟨start, run, due, -⟩ := (law 0).1.1 emits
    obtain rfl : start = 0 := Nat.le_zero.1 run.le
    exact early due
  refine ⟨first, (law 1).1.2 ⟨0, ⟨Nat.zero_le 1, fun k _ _ => holds k, fun k hk => ?_⟩, ?_, ?_⟩⟩
  · cases hk
  · refine ⟨by norm_num [timeAt, awayTicks, mqttRule], fun m previous => ?_⟩
    obtain rfl : m = 0 := Nat.lt_one_iff.1 previous.lt
    exact absurd previous.emits first
  · intro k _ hk
    obtain rfl : k = 0 := Nat.lt_one_iff.1 hk
    exact early

end GrpcRelay.Alerting
