import GrpcRelay.Proto
import GrpcRelay.Mqtt
import GrpcRelay.Lib.DashMap
import GrpcRelay.Lib.Float64

/-!
# Alerts

The alerting loop (`alerting.rs`): at every tick each rule is evaluated in turn, with its own
reading of the clock.  What the loop does with an alert is to log it; the records are its output.
The loop runs if alerting is enabled; how often it ticks is left open.

The metrics are binary64 numbers here, since the conditions compare them as such with what they
parse; where their exact values matter, they are those of the context in `Observability`.
-/

namespace GrpcRelay.Alerting

open Float64

/-- The severities of rules. -/
inductive AlertingSeverity where
  | warning
  | critical
  deriving DecidableEq, Repr

/-- The name of a severity in the log. -/
def AlertingSeverity.asStr : AlertingSeverity → String
  | .warning => "warning"
  | .critical => "critical"

/-- A rule: its condition, and how long that must hold. -/
structure AlertRuleConfig where
  name : String
  condition : String
  severity : AlertingSeverity
  message : String
  durationSeconds : Option ℕ
  deriving DecidableEq, Repr

/-- Of a channel, its type is logged. -/
structure AlertChannelConfig where
  channelType : String
  deriving DecidableEq, Repr

/-- How long an alert is not repeated. -/
structure AlertSuppressionConfig where
  minIntervalSeconds : ℕ
  deriving DecidableEq, Repr

/-- The alerting section of the configuration. -/
structure AlertingConfig where
  channels : List AlertChannelConfig
  rules : List AlertRuleConfig
  suppression : AlertSuppressionConfig
  deriving DecidableEq, Repr

/-- The numbers that the conditions of the rules are about. -/
structure AlertContext where
  activeDeviceConnections : F64
  activeStreams : F64
  cpuUsagePercent : F64
  memoryUsagePercent : F64
  mqttConnected : Bool
  authFailuresTotal : F64
  deriving DecidableEq

/-! ## Conditions -/

/-- The metric of that name; `mqtt_connected` is none of them. -/
def readMetric (metric : List Char) (context : AlertContext) : Option F64 :=
  if metric = "active_device_connections".toList then some context.activeDeviceConnections
  else if metric = "active_streams".toList then some context.activeStreams
  else if metric = "cpu_usage_percent".toList then some context.cpuUsagePercent
  else if metric = "memory_usage_percent".toList then some context.memoryUsagePercent
  else if metric = "auth_failures_total".toList then some context.authFailuresTotal
  else none

/-- The condition without its spaces. -/
def normalize (condition : String) : List Char := condition.toList.filter fun c => c ≠ ' '

/-- A threshold that is not a number is replaced by `f64::MAX`. -/
def readThreshold (threshold : List Char) : F64 := (parse threshold).getD .max

/-- The operators `>=`, `>` and `==` are looked for in this order; with none of them the condition
is false. -/
def evaluateCondition (condition : String) (context : AlertContext) : Bool :=
  let normalized := normalize condition
  match Mqtt.splitOnce ">=".toList normalized with
  | some (metric, threshold) =>
    ((readMetric metric context).map fun value => value.ge (readThreshold threshold)).getD false
  | none =>
    match Mqtt.splitOnce ['>'] normalized with
    | some (metric, threshold) =>
      ((readMetric metric context).map fun value => value.gt (readThreshold threshold)).getD false
    | none =>
      match Mqtt.splitOnce "==".toList normalized with
      | some (metric, expected) =>
        if metric = "mqtt_connected".toList then
          context.mqttConnected == decide (expected = "true".toList)
        else false
      | none => false

/-- The severity of a rule whose condition holds. -/
def evaluateRule (rule : AlertRuleConfig) (context : AlertContext) : Option AlertingSeverity :=
  if evaluateCondition rule.condition context then some rule.severity else none

/-! ## The loop -/

/-- The log record of an alert. -/
structure AlertRecord where
  relayId : String
  alertName : String
  severity : String
  condition : String
  message : String
  activeDeviceConnections : F64
  activeStreams : F64
  cpuUsagePercent : F64
  memoryUsagePercent : F64
  mqttConnected : Bool
  channels : String
  deriving DecidableEq

/-- The types of the channels, as they are logged. -/
def channelsSummary (channels : List AlertChannelConfig) : String :=
  ",".intercalate (channels.map (·.channelType))

/-- The record of an alert. -/
def emitAlert (relayId : String) (channels : List AlertChannelConfig) (rule : AlertRuleConfig)
    (severity : AlertingSeverity) (context : AlertContext) : AlertRecord where
  relayId := relayId
  alertName := rule.name
  severity := severity.asStr
  condition := rule.condition
  message := rule.message
  activeDeviceConnections := context.activeDeviceConnections
  activeStreams := context.activeStreams
  cpuUsagePercent := context.cpuUsagePercent
  memoryUsagePercent := context.memoryUsagePercent
  mqttConnected := context.mqttConnected
  channels := channelsSummary channels

/-- The three maps of the loop. -/
structure AlertState where
  lastSent : DashMap String Instant := ∅
  lastState : DashMap String AlertingSeverity := ∅
  conditionActiveSince : DashMap String Instant := ∅

/-- The condition does not hold long enough for a rule that has a duration. -/
def tooShort (rule : AlertRuleConfig) (activeSince now : Instant) : Bool :=
  match rule.durationSeconds with
  | some seconds => decide (saturatingDurationSince now activeSince < seconds)
  | none => false

/-- The last alert is not long enough ago. -/
def suppressed (config : AlertingConfig) (lastSent : Option Instant) (now : Instant) : Bool :=
  (lastSent.map fun value =>
    decide (saturatingDurationSince now value < config.suppression.minIntervalSeconds)).getD false

/-- One round of the loop over the rules, with the clock reading that it makes if the condition
holds. -/
def evaluateAt (relayId : String) (config : AlertingConfig) (context : AlertContext)
    (rule : AlertRuleConfig) (now : Instant) (st : AlertState) : List AlertRecord × AlertState :=
  match evaluateRule rule context with
  | none =>
    ([], { st with
      conditionActiveSince := st.conditionActiveSince.erase rule.name
      lastState := st.lastState.erase rule.name })
  | some severity =>
    -- `entry(..).or_insert(now)`
    let activeSince := (st.conditionActiveSince.lookup rule.name).getD now
    let st := { st with
      conditionActiveSince := st.conditionActiveSince.insert rule.name activeSince }
    if tooShort rule activeSince now then ([], st)
    else if suppressed config (st.lastSent.lookup rule.name) now then ([], st)
    else if st.lastState.lookup rule.name = some severity then ([], st)
    else
      ([emitAlert relayId config.channels rule severity context],
        { st with
          lastSent := st.lastSent.insert rule.name now
          lastState := st.lastState.insert rule.name severity })

/-- The loop over the rules.  `clock` are the readings, by the position of the rule. -/
def evaluateRules (relayId : String) (config : AlertingConfig) (context : AlertContext) :
    List AlertRuleConfig → (ℕ → Instant) → AlertState → List AlertRecord × AlertState
  | [], _, st => ([], st)
  | rule :: rules, clock, st =>
    let (first, st) := evaluateAt relayId config context rule (clock 0) st
    let (rest, st) := evaluateRules relayId config context rules (fun i => clock (i + 1)) st
    (first ++ rest, st)

/-- What a tick of the loop finds. -/
structure Tick where
  context : AlertContext
  clock : ℕ → Instant

/-- The maps before a tick. -/
def alertState (relayId : String) (config : AlertingConfig) (ticks : ℕ → Tick) : ℕ → AlertState
  | 0 => {}
  | n + 1 =>
    (evaluateRules relayId config (ticks n).context config.rules (ticks n).clock
      (alertState relayId config ticks n)).2

/-- The alerts of a tick. -/
def emitted (relayId : String) (config : AlertingConfig) (ticks : ℕ → Tick) (n : ℕ) :
    List AlertRecord :=
  (evaluateRules relayId config (ticks n).context config.rules (ticks n).clock
    (alertState relayId config ticks n)).1

end GrpcRelay.Alerting
