import GrpcRelay.Interleaved
import GrpcRelay.Mqtt

/-!
# The relay process

The relay as `run` of `main.rs` puts it together: the gRPC service, the health server
(`observability.rs`) and the alerting loop (`alerting.rs`).

A clone of a `StreamRouter` shares the maps of the original.  `run` makes a router and hands clones
of it to the health server and to the alerting loop; `RelayGrpcService::new` makes a router of its
own, which is the one in the state of the service.
-/

namespace GrpcRelay

/-- The relay process: the gRPC service, and the router that `run` has made. -/
structure Process where
  service : Interleaved
  streamRouter : StreamRouter

/-- The process as `run` starts it. -/
def Process.run (cfg : Config) : Process where
  service := .init cfg
  streamRouter := .new cfg.stream

/-- A step of the process is one of the service.  The health server and the alerting loop only read
the state, and nothing else uses the router of `run`. -/
def Process.step (cfg : Config) (p : Process) (a : Access) : Option Process :=
  (p.service.step cfg a).map fun service => { p with service := service }

/-- The states of all runs of the process. -/
def Process.Reachable (cfg : Config) (p : Process) : Prop :=
  Runs.Reach (Process.step cfg) (fun _ _ => True) (.run cfg) p

/-! ## Health -/

/-- The states of a component, and of the relay. -/
inductive HealthStatus where
  | healthy
  | degraded
  | unhealthy
  deriving DecidableEq, Repr

/-- The state of a component, and what is said about it. -/
structure ComponentHealth where
  status : HealthStatus
  message : String
  deriving DecidableEq, Repr

/-- The components of the relay. -/
structure HealthComponents where
  grpcServer : ComponentHealth
  quicListener : ComponentHealth
  mqttClient : ComponentHealth
  authService : ComponentHealth
  metricsCollector : ComponentHealth
  deriving DecidableEq, Repr

/-- The states of the components. -/
def HealthComponents.statuses (c : HealthComponents) : List HealthStatus :=
  [c.grpcServer.status, c.quicListener.status, c.mqttClient.status, c.authService.status,
    c.metricsCollector.status]

/-- The relay is as well as the worst of its components. -/
def deriveOverallStatus (c : HealthComponents) : HealthStatus :=
  if .unhealthy ∈ c.statuses then .unhealthy
  else if .degraded ∈ c.statuses then .degraded
  else .healthy

/-- The numbers in a health response. -/
structure HealthMetrics where
  activeDeviceConnections : ℕ
  activeControllerConnections : ℕ
  activeStreams : ℕ
  cpuUsagePercent : ℚ
  memoryUsagePercent : ℚ
  deriving DecidableEq, Repr

/-- The response to a health request. -/
structure HealthResponse where
  status : HealthStatus
  timestamp : String
  uptimeSeconds : ℕ
  version : String
  components : HealthComponents
  metrics : HealthMetrics
  deriving DecidableEq, Repr

/-- What a health request or a tick of the alerting loop reads besides the relay's state: the
clocks, the resource monitor, the MQTT runtime and a counter. -/
structure Readings where
  timestamp : String
  uptimeSeconds : ℕ
  cpuUsagePercent : ℚ
  memoryUsagePercent : ℚ
  usedMemoryMb : ℕ
  mqttEnabled : Bool
  mqtt : Mqtt.Runtime
  authFailuresTotal : ℕ
  deriving DecidableEq, Repr

/-- The gauges that a health request sets. -/
structure Gauges where
  activeDeviceConnections : ℤ
  activeControllerConnections : ℤ
  activeStreams : ℤ
  cpuUsagePercent : ℚ
  memoryUsagePercent : ℚ
  memoryUsedBytes : ℚ
  mqttConnected : ℤ
  mqttReconnectCount : ℤ
  mqttDroppedCount : ℤ
  mqttQueuePending : ℤ
  healthStatus : ℤ
  componentHealth : List (String × ℚ)
  deriving DecidableEq, Repr

/-- What the health server holds of the relay. -/
structure HealthState where
  version : String
  relayState : RelayState
  streamRouter : StreamRouter

/-- The MQTT client is disabled, connected or disconnected. -/
def mqttClientHealth (r : Readings) : ComponentHealth :=
  if !r.mqttEnabled then ⟨.healthy, "MQTT disabled by config"⟩
  else if r.mqtt.connected then ⟨.healthy, "MQTT connected"⟩
  else ⟨.degraded, "MQTT disconnected; gRPC discovery fallback required"⟩

/-- All components but the MQTT client are what they always are. -/
def healthComponents (r : Readings) : HealthComponents where
  grpcServer := ⟨.healthy, "gRPC server running"⟩
  quicListener := ⟨.degraded, "QUIC listener runtime is not active in this crate"⟩
  mqttClient := mqttClientHealth r
  authService := ⟨.healthy, "auth service running"⟩
  metricsCollector := ⟨.healthy, "metrics collector running"⟩

/-- The value of a component's gauge. -/
def componentMetric : HealthStatus → ℚ
  | .healthy => 2
  | .degraded => 1
  | .unhealthy => 0

/-- The gauges that go with a response. -/
def refreshRuntimeMetricsWithResponse (r : Readings) (response : HealthResponse) : Gauges where
  activeDeviceConnections := response.metrics.activeDeviceConnections
  activeControllerConnections := response.metrics.activeControllerConnections
  activeStreams := response.metrics.activeStreams
  cpuUsagePercent := response.metrics.cpuUsagePercent
  memoryUsagePercent := response.metrics.memoryUsagePercent
  memoryUsedBytes := r.usedMemoryMb * 1024 * 1024
  mqttConnected := if r.mqtt.connected then 1 else 0
  mqttReconnectCount := r.mqtt.reconnectCount
  mqttDroppedCount := r.mqtt.droppedTotal
  mqttQueuePending := r.mqtt.queuePending
  healthStatus := match response.status with
    | .healthy => 2
    | .degraded => 1
    | .unhealthy => 0
  componentHealth :=
    [("grpc_server", componentMetric response.components.grpcServer.status),
      ("quic_listener", componentMetric response.components.quicListener.status),
      ("mqtt_client", componentMetric response.components.mqttClient.status),
      ("auth_service", componentMetric response.components.authService.status),
      ("metrics_collector", componentMetric response.components.metricsCollector.status)]

/-- The response, and the gauges that are set on the way. -/
def buildHealthResponse (state : HealthState) (r : Readings) : HealthResponse × Gauges :=
  let response : HealthResponse :=
    { status := deriveOverallStatus (healthComponents r)
      timestamp := r.timestamp
      uptimeSeconds := r.uptimeSeconds
      version := state.version
      components := healthComponents r
      metrics :=
        { activeDeviceConnections := state.relayState.sessionsByDeviceId.len
          activeControllerConnections := state.relayState.controllerConnectionCount
          activeStreams := state.streamRouter.totalActiveStreams
          cpuUsagePercent := r.cpuUsagePercent
          memoryUsagePercent := r.memoryUsagePercent } }
  (response, refreshRuntimeMetricsWithResponse r response)

/-- The gauges that a metrics request sets before it encodes them. -/
def refreshRuntimeMetrics (state : HealthState) (r : Readings) : Gauges :=
  (buildHealthResponse state r).2

/-! ## Alerting -/

/-- The numbers that the conditions of the rules are about. -/
structure AlertContext where
  activeDeviceConnections : ℚ
  activeStreams : ℚ
  cpuUsagePercent : ℚ
  memoryUsagePercent : ℚ
  mqttConnected : Bool
  authFailuresTotal : ℚ
  deriving DecidableEq, Repr

/-- What a tick of the alerting loop evaluates its rules on. -/
def alertContext (relayState : RelayState) (streamRouter : StreamRouter) (r : Readings) :
    AlertContext where
  activeDeviceConnections := relayState.sessionsByDeviceId.len
  activeStreams := streamRouter.totalActiveStreams
  cpuUsagePercent := r.cpuUsagePercent
  memoryUsagePercent := r.memoryUsagePercent
  mqttConnected := r.mqtt.connected
  authFailuresTotal := r.authFailuresTotal

/-! ## The wiring -/

namespace Process

variable {cfg : Config} {p : Process}

/-- The health server's state: the relay state of the service, and a clone of the router of
`run`. -/
def healthState (p : Process) (version : String) : HealthState :=
  ⟨version, p.service.relay.shared.relay, p.streamRouter⟩

/-- The context of the alerting loop: the relay state of the service, and a clone of the router of
`run`. -/
def alerting (p : Process) (r : Readings) : AlertContext :=
  alertContext p.service.relay.shared.relay p.streamRouter r

/-- The controller streams that the router of the service maps. -/
def activeStreams (p : Process) : ℕ := p.service.relay.shared.router.totalActiveStreams

/-- Whatever is read besides, a health request reports the number of active streams and sets the
gauge to it, a metrics request sets the gauge to it, and the alerting loop reads it. -/
def ReportsStreams (p : Process) : Prop :=
  ∀ version readings,
    (buildHealthResponse (p.healthState version) readings).1.metrics.activeStreams =
        p.activeStreams ∧
      (buildHealthResponse (p.healthState version) readings).2.activeStreams = p.activeStreams ∧
      (refreshRuntimeMetrics (p.healthState version) readings).activeStreams = p.activeStreams ∧
      (p.alerting readings).activeStreams = p.activeStreams

/-- No step touches the router that `run` has made. -/
theorem streamRouter_of_reachable (h : p.Reachable cfg) : p.streamRouter = .new cfg.stream := by
  refine Runs.Reach.invariant (I := fun p : Process => p.streamRouter = .new cfg.stream) rfl ?_ h
  intro p a p' _ hp _ hstep
  obtain ⟨service, -, rfl⟩ := Option.map_eq_some_iff.mp hstep
  exact hp

/-- The process can go on as its service does. -/
theorem reachable_of_service {s : Interleaved} (h : Interleaved.Reachable cfg s) :
    Process.Reachable cfg ⟨s, .new cfg.stream⟩ := by
  unfold Interleaved.Reachable at h
  induction h with
  | start => exact .start
  | next a _ _ hstep ih =>
    refine .next a ih trivial ?_
    rw [Process.step, hstep]
    rfl

/-- In every run, health, metrics and alerting report the streams of the service exactly while it
has none: they read a router that nothing is ever mapped in. -/
theorem reports_streams_iff (h : p.Reachable cfg) : p.ReportsStreams ↔ p.activeStreams = 0 := by
  have hmain : p.streamRouter.totalActiveStreams = 0 := by
    rw [streamRouter_of_reachable h]
    rfl
  constructor
  · intro hreports
    have hzero := (hreports "" ⟨"", 0, 0, 0, 0, false, {}, 0⟩).1
    simp only [buildHealthResponse, healthState, hmain] at hzero
    exact hzero.symm
  · intro hzero version readings
    simp [buildHealthResponse, refreshRuntimeMetrics, refreshRuntimeMetricsWithResponse,
      healthState, alerting, alertContext, hmain, hzero]

/-- A relay that has just been started reports its streams. -/
theorem started_reports_streams : (Process.run Small.config).ReportsStreams := by
  have hstart : Process.Reachable Small.config (.run Small.config) := .start
  exact (reports_streams_iff hstart).mpr rfl

/-- With one controller stream mapped, all three report none. -/
theorem mapped_stream_is_not_reported :
    ∃ p, Process.Reachable Small.config p ∧ p.activeStreams = 1 ∧ ¬ p.ReportsStreams := by
  obtain ⟨s, hrun, hone⟩ : ∃ s, Runs.execute (Interleaved.step Small.config)
      (.init Small.config)
      ([Access.other (.ctrl 0 (.recv (Small.request 1))), .other (.ctrl 0 .tick),
        .other (.ctrl 0 .tick)] ++ List.replicate 4 (Access.call (.loop 0))) = some s ∧
      s.relay.shared.router.totalActiveStreams = 1 :=
    Option.map_eq_some_iff.1 (by decide +kernel)
  have hreach : Interleaved.Reachable Small.config s :=
    Runs.Reach.of_execute (fun _ _ => trivial) _ .start hrun
  refine ⟨_, reachable_of_service hreach, hone, fun hreports => ?_⟩
  have hzero := (hreports "" ⟨"", 0, 0, 0, 0, false, {}, 0⟩).1
  have hempty : (0 : ℕ) = 1 := hzero.trans hone
  cases hempty

end Process

end GrpcRelay
