import GrpcRelay.Alerting
import GrpcRelay.Splitting

/-!
# Conditions that are not well formed

A condition that is not well formed is not meant to hold: an unknown metric is not compared, and a
threshold that is not a number is replaced by the largest number.  It does hold in two cases
(`malformed_condition_is_false_iff`).  Of `mqtt_connected`, whatever it is compared with other than
`true` counts as `false`; and a metric that is itself the largest number passes `>=`.
-/

namespace GrpcRelay.Alerting

open Float64 Mqtt

/-- `read_metric` knows the metric. -/
def Known (metric : List Char) : Prop := ∃ context value, readMetric metric context = some value

/-- A metric, `>=` or `>`, and a number; or `mqtt_connected` compared with `true` or `false`. -/
def WellFormed (normalized : List Char) : Prop :=
  (∃ metric number, Known metric ∧ (parse number).isSome ∧
    (normalized = metric ++ ">=".toList ++ number ∨ normalized = metric ++ ['>'] ++ number)) ∨
  normalized = "mqtt_connected==true".toList ∨ normalized = "mqtt_connected==false".toList

/-- Every metric of the context is a finite number. -/
structure AlertContext.FiniteMetrics (context : AlertContext) : Prop where
  activeDeviceConnections : context.activeDeviceConnections.IsFinite
  activeStreams : context.activeStreams.IsFinite
  cpuUsagePercent : context.cpuUsagePercent.IsFinite
  memoryUsagePercent : context.memoryUsagePercent.IsFinite
  authFailuresTotal : context.authFailuresTotal.IsFinite

/-- `mqtt_connected` is compared with something, without a `>`. -/
def ComparesConnected (normalized : List Char) : Prop :=
  ∃ expected, '>' ∉ expected ∧ normalized = "mqtt_connected".toList ++ "==".toList ++ expected

/-- A metric whose value is `f64::MAX` is compared by `>=`. -/
def ComparesLargest (normalized : List Char) (context : AlertContext) : Prop :=
  ∃ metric threshold value, normalized = metric ++ ">=".toList ++ threshold ∧
    readMetric metric context = some value ∧ value.eq .max = true

variable {context : AlertContext} {normalized metric threshold : List Char} {value : F64}

theorem AlertContext.FiniteMetrics.isFinite (finite : context.FiniteMetrics)
    (h : readMetric metric context = some value) : value.IsFinite := by
  unfold readMetric at h
  split_ifs at h
  all_goals cases h
  · exact finite.activeDeviceConnections
  · exact finite.activeStreams
  · exact finite.cpuUsagePercent
  · exact finite.memoryUsagePercent
  · exact finite.authFailuresTotal

theorem notMem_metric (h : readMetric metric context = some value) : '>' ∉ metric := by
  unfold readMetric at h
  split_ifs at h with same same same same same
  all_goals
    rw [same]
    decide

/-- A condition on a known metric is split after the metric. -/
theorem splitOnce_metric (h : readMetric metric context = some value) (threshold : List Char) :
    splitOnce ">=".toList (metric ++ ">=".toList ++ threshold) = some (metric, threshold) :=
  splitOnce_of_notMem (notMem_metric h)

theorem splitOnce_connected (expected : List Char) :
    splitOnce "==".toList ("mqtt_connected".toList ++ "==".toList ++ expected) =
      some ("mqtt_connected".toList, expected) :=
  splitOnce_of_notMem (by decide)

theorem not_comparesConnected (h : '>' ∈ normalized) : ¬ ComparesConnected normalized := by
  rintro ⟨expected, absent, rfl⟩
  have mem := List.mem_append.1 h
  exact absent (mem.resolve_left (by decide))

theorem notMem_of_splitOnce (h : splitOnce ['>'] normalized = none) : '>' ∉ normalized := by
  intro mem
  obtain ⟨before, rest, parts⟩ := List.append_of_mem mem
  exact not_infix_of_splitOnce (by decide) h ⟨before, rest, by simp [parts]⟩

theorem mem_of_ge (h : normalized = metric ++ ">=".toList ++ threshold) : '>' ∈ normalized := by
  simp [h]

/-- The threshold of a condition on a known metric that is not well formed is no number. -/
theorem readThreshold_eq_max (malformed : ¬ WellFormed normalized)
    (h : readMetric metric context = some value)
    (split : normalized = metric ++ ">=".toList ++ threshold ∨
      normalized = metric ++ ['>'] ++ threshold) : readThreshold threshold = .max := by
  have none : parse threshold = none := by
    rw [← Option.not_isSome_iff_eq_none]
    intro number
    exact malformed (.inl ⟨metric, threshold, ⟨context, value, h⟩, number, split⟩)
  rw [readThreshold, none]
  rfl

/-- A comparison with `>=` of a condition that is not well formed holds for the largest number. -/
theorem ge_of_malformed (malformed : ¬ WellFormed normalized) (finite : context.FiniteMetrics)
    (split : splitOnce ">=".toList normalized = some (metric, threshold)) :
    ((readMetric metric context).map fun value => value.ge (readThreshold threshold)).getD false =
      false ↔ ¬ ComparesLargest normalized context := by
  have parts := splitOnce_eq_some split
  have only {metric' threshold' : List Char} {value' : F64}
      (parts' : normalized = metric' ++ ">=".toList ++ threshold')
      (known : readMetric metric' context = some value') : metric' = metric := by
    rw [parts', splitOnce_metric known] at split
    exact congrArg Prod.fst (Option.some.inj split)
  cases known : readMetric metric context with
  | none =>
    refine iff_of_true rfl ?_
    rintro ⟨metric', threshold', value', parts', known', -⟩
    rw [only parts' known', known] at known'
    cases known'
  | some value =>
    have largest : ComparesLargest normalized context ↔ value.eq .max = true := by
      constructor
      · rintro ⟨metric', threshold', value', parts', known', equal⟩
        rw [only parts' known', known] at known'
        cases known'
        exact equal
      · intro equal
        exact ⟨metric, threshold, value, parts, known, equal⟩
    rw [largest, readThreshold_eq_max malformed known (.inl parts), Option.map_some,
      Option.getD_some, (finite.isFinite known).ge_max, Bool.not_eq_true]

/-- A comparison with `>` of a condition that is not well formed does not hold. -/
theorem gt_of_malformed (malformed : ¬ WellFormed normalized) (finite : context.FiniteMetrics)
    (split : splitOnce ['>'] normalized = some (metric, threshold)) :
    ((readMetric metric context).map fun value => value.gt (readThreshold threshold)).getD false =
      false := by
  cases known : readMetric metric context with
  | none => rfl
  | some value =>
    rw [readThreshold_eq_max malformed known (.inr (splitOnce_eq_some split)), Option.map_some,
      Option.getD_some, (finite.isFinite known).gt_max]

/-- A condition that is not well formed does not hold, in a context of finite metrics, exactly
unless it compares `mqtt_connected` while there is no connection, or compares by `>=` a metric whose
value is the largest number. -/
theorem malformed_condition_is_false_iff (condition : String) (context : AlertContext)
    (malformed : ¬ WellFormed (normalize condition)) (finite : context.FiniteMetrics) :
    evaluateCondition condition context = false ↔
      ¬ (context.mqttConnected = false ∧ ComparesConnected (normalize condition)) ∧
      ¬ ComparesLargest (normalize condition) context := by
  unfold evaluateCondition
  generalize normalize condition = normalized at malformed ⊢
  dsimp only
  cases ge : splitOnce ">=".toList normalized with
  | some parts =>
    have other := not_comparesConnected (mem_of_ge (splitOnce_eq_some ge))
    rw [ge_of_malformed malformed finite ge]
    exact (and_iff_right fun h => other h.2).symm
  | none =>
    have absent : ¬ ComparesLargest normalized context := by
      rintro ⟨metric, threshold, value, parts, -, -⟩
      exact not_infix_of_splitOnce (by decide) ge ⟨metric, threshold, parts.symm⟩
    rw [and_iff_left absent]
    cases gt : splitOnce ['>'] normalized with
    | some parts =>
      have other : ¬ ComparesConnected normalized :=
        not_comparesConnected (by simp [splitOnce_eq_some gt])
      rw [iff_true_intro (gt_of_malformed malformed finite gt), true_iff]
      exact fun h => other h.2
    | none =>
      cases eq : splitOnce "==".toList normalized with
      | none =>
        refine iff_of_true rfl ?_
        rintro ⟨-, expected, -, parts⟩
        exact not_infix_of_splitOnce (by decide) eq ⟨_, expected, parts.symm⟩
      | some parts =>
        obtain ⟨metric, expected⟩ := parts
        dsimp only
        split_ifs with connected
        · subst connected
          have whole := splitOnce_eq_some eq
          have other : expected ≠ "true".toList := by
            intro same
            refine malformed (.inr (.inl ?_))
            rw [whole, same]
            decide +kernel
          have compared : ComparesConnected normalized := by
            refine ⟨expected, fun mem => notMem_of_splitOnce gt ?_, whole⟩
            rw [whole]
            exact List.mem_append_right _ mem
          rw [decide_eq_false other, and_iff_left compared]
          cases context.mqttConnected <;> simp
        · refine iff_of_true rfl ?_
          rintro ⟨-, expected', -, parts⟩
          rw [parts, splitOnce_connected] at eq
          exact connected (congrArg Prod.fst (Option.some.inj eq)).symm

/-- A context in which nothing is connected. -/
def disconnected : AlertContext := ⟨.zero, .zero, .zero, .zero, false, .zero⟩

theorem finiteMetrics_disconnected : disconnected.FiniteMetrics :=
  ⟨trivial, trivial, trivial, trivial, trivial⟩

theorem not_wellFormed_of_notMem {normalized : List Char} (absent : '>' ∉ normalized)
    (notTrue : normalized ≠ "mqtt_connected==true".toList)
    (notFalse : normalized ≠ "mqtt_connected==false".toList) : ¬ WellFormed normalized := by
  rintro (⟨metric, number, -, -, parts | parts⟩ | parts | parts)
  · exact absent (by simp [parts])
  · exact absent (by simp [parts])
  · exact notTrue parts
  · exact notFalse parts

/-- An unknown metric. -/
theorem unknown_metric_is_false :
    evaluateCondition "disk_usage_percent == 90" disconnected = false := by
  refine (malformed_condition_is_false_iff _ _ ?_ finiteMetrics_disconnected).2 ⟨?_, ?_⟩
  · exact not_wellFormed_of_notMem (by decide +kernel) (by decide +kernel) (by decide +kernel)
  · rintro ⟨-, expected, -, parts⟩
    have split : (splitOnce "==".toList (normalize "disk_usage_percent == 90")).map Prod.fst =
        some "mqtt_connected".toList := by
      rw [parts, splitOnce_connected]
      rfl
    exact absurd split (by decide +kernel)
  · rintro ⟨metric, threshold, value, parts, -⟩
    exact absurd (mem_of_ge parts) (by decide +kernel)

/-- `mqtt_connected == yes` holds while there is no connection. -/
theorem malformed_condition_holds :
    ¬ ∀ condition context, ¬ WellFormed (normalize condition) → context.FiniteMetrics →
      evaluateCondition condition context = false := by
  intro claim
  have malformed : ¬ WellFormed (normalize "mqtt_connected == yes") :=
    not_wellFormed_of_notMem (by decide +kernel) (by decide +kernel) (by decide +kernel)
  have never := claim "mqtt_connected == yes" disconnected malformed finiteMetrics_disconnected
  exact absurd never (by decide +kernel)

end GrpcRelay.Alerting
