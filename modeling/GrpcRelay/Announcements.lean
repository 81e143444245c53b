import GrpcRelay.Lib.Json
import GrpcRelay.Lib.Replica
import GrpcRelay.EventLog
import GrpcRelay.Discovery
import GrpcRelay.PublishOrder

/-!
# What subscribers learn

The MQTT messages of the publisher (`publish_device_event`) and a subscriber that follows them.

The relay, the worker of the publisher and its snapshot of the online sessions run at the same time.
An iteration over a `DashMap` locks one shard after the other, so the snapshot reads each shard at a
time of its own.  The publisher lives as long as the relay.

Each message of a device and each cleanup of a device stream is one step here (`Atomic.step`), so
that a change of the registry and its notice are not apart.  Step by step they are: of two streams
that register one device, the first to insert its session may be the last to publish it
(`crossed_notices_mislead`), and a subscriber is then left with a connection that was replaced.

Sessions that change while the snapshot is taken or while requests are queued reach a subscriber
twice or late.  It still ends with the connections of the registry (`subscriber_follows_registry`),
unless the channel of the publisher has been full: requests are lost at the front of the queue
everywhere else, and the next snapshot makes up for those.
-/

namespace GrpcRelay.Mqtt

open Json

/-! ## Messages -/

/-- What is handed to the MQTT client. -/
structure Message where
  topic : String
  retain : Bool
  payload : String
  deriving DecidableEq

/-- The members of a `serde_json` object are sorted by their names. -/
def metadataObject (metadata : Metadata) : Json.Value :=
  .object ((metadata.mergeSort fun a b => decide (a.1 ≤ b.1)).map fun e => (e.1, .string e.2))

/-- The members of the payload of a device event. -/
def payload : MqttPublishRequest → String → Members
  | .deviceOnline deviceId connectionId relayAddress metadata, timestamp =>
    field "connection_id" (.string connectionId) <| field "device_id" (.string deviceId) <|
    field "metadata" (metadataObject metadata) <| field "relay_address" (.string relayAddress) <|
    field "timestamp" (.string timestamp) []
  | .deviceOffline deviceId connectionId reason, timestamp =>
    field "connection_id" (.string connectionId) <| field "device_id" (.string deviceId) <|
    field "reason" (.string reason) <| field "timestamp" (.string timestamp) []

/-- The message of `publish_device_event`. -/
def publishDeviceEvent (request : MqttPublishRequest) (timestamp : String) : Message :=
  let text := String.ofList (render (.object (payload request timestamp)))
  match request with
  | .deviceOnline .. => ⟨"relay/device/online", true, text⟩
  | .deviceOffline .. => ⟨"relay/device/offline", false, text⟩

/-- What a request says of the connection of a device. -/
def MqttPublishRequest.update : MqttPublishRequest → Replica.Update String String
  | .deviceOnline deviceId connectionId _ _ => .set deviceId connectionId
  | .deviceOffline deviceId connectionId _ => .clear deviceId connectionId

/-- What a subscriber reads in a message. -/
def Message.read (m : Message) : Option (Replica.Update String String) :=
  match parse m.payload.toList with
  | some (.object ms) => do
    let deviceId ← text "device_id" ms
    let connectionId ← text "connection_id" ms
    if m.topic = "relay/device/online" then return .set deviceId connectionId
    else if m.topic = "relay/device/offline" then return .clear deviceId connectionId
    else none
  | _ => none

theorem read_publishDeviceEvent (request : MqttPublishRequest) (timestamp : String) :
    (publishDeviceEvent request timestamp).read = some request.update := by
  cases request <;>
    simp [publishDeviceEvent, Message.read, parse_render, payload, text, required, readString,
      MqttPublishRequest.update]

/-! ## The queue -/

/-- The requests that may still be published, oldest first. -/
def State.rest (s : State) : List MqttPublishRequest :=
  s.worker.held ++ (s.worker.pending ++ s.channel)

/-- The worker goes on in its session. -/
def Resume.inSession : Resume → Bool
  | .looping _ => true
  | _ => false

/-- The worker is in a session that has not failed. -/
def Worker.inSession : Worker → Bool
  | .looping _ | .snapshotting _ | .publishing .. => true
  | .dropping next | .settling next => next.inSession
  | _ => false

/-- The worker publishes the sessions that it found. -/
def Worker.isSnapshotting : Worker → Bool
  | .snapshotting _ => true
  | _ => false

/-- The session is connected. -/
def State.live (s : State) : Bool := s.runtime.connected && s.worker.inSession

/-- The publisher lives, so the worker runs; between two sessions it is not connected. -/
structure State.Parted (s : State) : Prop where
  senders : s.hasSenders = true
  running : s.worker ≠ .returned
  idle : s.worker = .between ∨ (∃ n, s.worker = .sleeping n) → s.runtime.connected = false

/-- The steps that the worker and the counters of the publish calls take on their own. -/
def Action.own : Action → Bool
  | .offer _ | .close | .snapshot _ => false
  | _ => true

@[simp] theorem Resume.inSession_worker (next : Resume) :
    next.worker.inSession = next.inSession := by
  cases next <;> rfl

@[simp] theorem Resume.isSnapshotting_worker (next : Resume) :
    next.worker.isSnapshotting = false := by
  cases next <;> rfl

section Step

variable {config : Config} {s s' : State} {a : Action}

/-- What a step of the worker does to the queue: it publishes the oldest request, the session gets
connected, or requests are given up at the front, which no connected session does. -/
inductive Advances (s : State) (a : Action) (s' : State) : Prop
  | published (request : MqttPublishRequest) (rest : s.rest = request :: s'.rest)
      (publish : a = .publish true) (holds : s.worker.held = [request])
      (live : s'.live = true → s.live = true) (past : s.worker.isSnapshotting = false)
      (past' : s'.worker.isSnapshotting = false)
  | connected (rest : s'.rest = s.rest) (acked : a = .poll .connAck)
      (snapshotting : s'.worker.isSnapshotting = true)
  | shortened (rest : s'.rest <:+ s.rest) (quiet : a ≠ .publish true ∧ a ≠ .poll .connAck)
      (live : s'.live = true → s.live = true ∧ s'.rest = s.rest ∧
        s'.worker.isSnapshotting = s.worker.isSnapshotting)

/-- A step that leaves the worker and the channel alone. -/
theorem advances_of_same (worker : s'.worker = s.worker) (channel : s'.channel = s.channel)
    (connected : s'.runtime.connected = s.runtime.connected)
    (quiet : a ≠ .publish true ∧ a ≠ .poll .connAck) : Advances s a s' := by
  have rest : s'.rest = s.rest := by rw [State.rest, State.rest, worker, channel]
  refine .shortened (rest ▸ List.suffix_refl _) quiet fun live => ⟨?_, rest, by rw [worker]⟩
  rw [State.live, worker, connected] at live
  exact live

/-- A step after which the session is over or not connected. -/
theorem advances_of_lost (rest : s'.rest <:+ s.rest) (lost : s'.live = false)
    (quiet : a ≠ .publish true ∧ a ≠ .poll .connAck) : Advances s a s' :=
  .shortened rest quiet fun live => by cases lost.symm.trans live

theorem advances_of_step (parted : s.Parted) (own : a.own = true)
    (h : step config s a = some s') : Advances s a s' ∧ s'.Parted := by
  obtain ⟨senders, running, idle⟩ := parted
  cases a with
  | offer | close | snapshot => cases own
  | countPending | countRefused =>
    simp only [step] at h
    split_ifs at h
    cases h
    exact ⟨advances_of_same rfl rfl rfl (by simp), senders, running, idle⟩
  | publish ok =>
    simp only [step] at h
    split at h
    · rename_i request pending hworker
      split_ifs at h with hok
      · cases h
        refine ⟨.published request ?_ (by rw [hok]) ?_ ?_ ?_ rfl, senders, by simp, by simp⟩
        · simp [State.rest, hworker, Worker.held, Worker.pending, Resume.pending]
        · rw [hworker]
          rfl
        · intro live
          simpa [State.live, hworker, Worker.inSession, Resume.inSession] using live
        · rw [hworker]
          rfl
      · cases h
        refine ⟨advances_of_lost ?_ ?_ (by simp [hok]), senders, by simp, by simp⟩
        · simp [State.rest, hworker, Worker.held, Worker.pending, Resume.pending]
        · simp [State.live, Worker.inSession, Resume.inSession]
    · cases h
  | poll event =>
    simp only [step] at h
    split at h
    · rename_i pending hworker
      split at h
      · cases event with
        | connAck =>
          cases h
          refine ⟨.connected ?_ rfl rfl, senders, by simp, by simp⟩
          simp [State.rest, hworker, Worker.held, Worker.pending]
        | other =>
          cases h
          exact ⟨advances_of_same rfl rfl rfl (by simp), senders, running, idle⟩
        | error =>
          cases h
          refine ⟨advances_of_lost ?_ ?_ (by simp), senders, by simp, by simp⟩
          · simp [State.rest, hworker, Worker.held, Worker.pending]
          · simp [State.live, Worker.inSession]
      · cases h
    · cases h
  | receive =>
    simp only [step] at h
    split at h
    · rename_i pending request channel hworker hchannel
      split_ifs at h with selects
      cases h
      unfold received
      split_ifs with now full
      · refine ⟨.shortened ?_ (by simp) fun _ => ⟨?_, ?_, ?_⟩, senders, by simp, by simp⟩
        · simp [State.rest, hworker, hchannel, now.2, Worker.held, Worker.pending]
        · simp [State.live, hworker, now.1, Worker.inSession]
        · simp [State.rest, hworker, hchannel, now.2, Worker.held, Worker.pending]
        · simp [hworker, Worker.isSnapshotting]
      · -- A full queue is not empty, so the session is not connected.
        have down : s.runtime.connected = false := by
          by_contra up
          rw [Bool.not_eq_false] at up
          rw [up] at selects
          rw [pending_eq_nil_of_selects selects] at full
          simp [queueCapacity] at full
        refine ⟨advances_of_lost ?_ ?_ (by simp), senders, by simp, by simp⟩
        · simp only [State.rest, hworker, hchannel, Worker.held, Worker.pending, Resume.pending,
            List.nil_append, List.append_assoc, List.singleton_append]
          obtain ⟨oldest, split⟩ := List.tail_suffix pending
          exact ⟨oldest, by rw [← List.append_assoc, split]⟩
        · simp [State.live, down]
      · refine ⟨.shortened ?_ (by simp) fun live => ⟨?_, ?_, ?_⟩, senders, by simp, by simp⟩
        · simp [State.rest, hworker, hchannel, Worker.held, Worker.pending]
        · simpa [State.live, hworker, Worker.inSession] using live
        · simp [State.rest, hworker, hchannel, Worker.held, Worker.pending]
        · simp [hworker, Worker.isSnapshotting]
    · cases h
  | settle =>
    simp only [step] at h
    split at h
    · rename_i next hworker
      cases h
      have rest : next.worker.held ++ (next.worker.pending ++ s.channel) = s.rest := by
        rw [Resume.held_worker, Resume.pending_worker, State.rest, hworker]
        rfl
      refine ⟨.shortened (rest ▸ List.suffix_refl _) (by simp) fun live => ⟨?_, rest, ?_⟩, senders,
        ?_, ?_⟩
      · rw [State.live, Resume.inSession_worker] at live
        rw [State.live, hworker]
        exact live
      · rw [Resume.isSnapshotting_worker, hworker]
        rfl
      · cases next <;> simp [Resume.worker]
      · cases next <;> simp [Resume.worker]
    · cases h
  | begin | flush | receiveClosed | tick ok | drop | drain | backoff | wake =>
    simp only [step] at h
    repeat' split at h
    all_goals cases h
    all_goals refine ⟨.shortened ?_ (by simp) ?_, ?_, ?_, ?_⟩
    all_goals simp_all [State.rest, State.live, Worker.held, Worker.pending, Worker.inSession,
      Worker.isSnapshotting, Resume.pending, Resume.inSession, Runtime.setConnected]

end Step

end GrpcRelay.Mqtt

namespace GrpcRelay.Announcements

open Mqtt (publishDeviceEvent)
open Replica (Update Agrees)

/-! ## The relay and its publisher -/

/-- The configurations, and the shards of the map of the sessions. -/
structure Setting where
  relay : Config
  mqtt : Mqtt.Config
  shards : ℕ
  shardOf : String → Fin shards

/-- The relay, the publisher, and what the snapshot of a session has read: `shard` is the next shard
to read, `snapshot` what was read and is not published. -/
structure World where
  relay : State
  mqtt : Mqtt.State := {}
  shard : ℕ := 0
  snapshot : List Mqtt.MqttPublishRequest := []

/-- The text of a reason. -/
def disconnectReason : DisconnectReason → String
  | .gracefulShutdown => "graceful_shutdown"
  | .timeout => "timeout"
  | .error => "error"

/-- The request of a publish call. -/
def request : MqttPublishRequest → Mqtt.MqttPublishRequest
  | .deviceOnline deviceId connectionId relayAddress metadata =>
    .deviceOnline deviceId connectionId relayAddress metadata
  | .deviceOffline deviceId connectionId reason =>
    .deviceOffline deviceId connectionId (disconnectReason reason)

/-- The requests of the publish calls, oldest first. -/
def requests (s : State) : List Mqtt.MqttPublishRequest := (publishRequests s.trace).map request

/-- The request of a session in the snapshot. -/
def sessionRequest (relayAddress : String) (session : DeviceSession) : Mqtt.MqttPublishRequest :=
  .deviceOnline session.deviceId session.connectionId relayAddress session.metadata

/-- The part of `online_session_snapshot` that one shard gives. -/
def shardSnapshot (cfg : Setting) (s : State) (k : ℕ) : List Mqtt.MqttPublishRequest :=
  (s.maps.sessionsByDeviceId.entries.filter fun e => (cfg.shardOf e.1).val = k).map fun e =>
    sessionRequest cfg.relay.relayAddress e.2

/-- A step of the relay or of its MQTT worker. -/
inductive Action where
  /-- A step of the relay, with its publish call if it has one. -/
  | relay (a : Atomic.Action)
  /-- A step of the worker, at a time. -/
  | worker (a : Mqtt.Action) (timestamp : String)
  | readShard
  | announce (ok : Bool) (timestamp : String)
  | finishSnapshot

/-- The publish calls of a step of the relay. -/
def calls (s s' : State) : List Mqtt.MqttPublishRequest := (requests s').drop (requests s).length

/-- One step of the relay or of its MQTT worker. -/
def step (cfg : Setting) (w : World) : Action → Option World
  | .relay a =>
    (Atomic.step cfg.relay w.relay a).bind fun relay =>
      (Runs.execute (Mqtt.step cfg.mqtt) w.mqtt ((calls w.relay relay).map .offer)).map fun mqtt =>
        { w with relay := relay, mqtt := mqtt }
  | .worker a _ =>
    if a.own then
      (Mqtt.step cfg.mqtt w.mqtt a).map fun mqtt =>
        if a = .poll .connAck then { w with mqtt := mqtt, shard := 0, snapshot := [] }
        else { w with mqtt := mqtt }
    else none
  | .readShard =>
    if w.mqtt.worker.isSnapshotting ∧ w.shard < cfg.shards then
      some { w with
        shard := w.shard + 1
        snapshot := w.snapshot ++ shardSnapshot cfg w.relay w.shard }
    else none
  | .announce ok _ =>
    match w.snapshot with
    | [] => none
    | _ :: snapshot =>
      if w.mqtt.worker.isSnapshotting ∧ w.shard = cfg.shards then
        if ok then some { w with snapshot := snapshot }
        else (Mqtt.step cfg.mqtt w.mqtt (.snapshot false)).map fun mqtt => { w with mqtt := mqtt }
      else none
  | .finishSnapshot =>
    if w.snapshot = [] ∧ w.shard = cfg.shards then
      (Mqtt.step cfg.mqtt w.mqtt (.snapshot true)).map fun mqtt => { w with mqtt := mqtt }
    else none

/-- The relay and the worker at their start. -/
def init (cfg : Setting) : World := { relay := State.init cfg.relay }

/-- What a subscriber can see: the session gets connected, or a message is handed to the client. -/
inductive Note where
  | connAck
  | message (m : Mqtt.Message)
  deriving DecidableEq

/-- What a subscriber sees of a step. -/
def emit (w : World) (a : Action) (_ : World) : List Note :=
  match a with
  | .worker (.poll .connAck) _ => [.connAck]
  | .worker (.publish true) timestamp =>
    w.mqtt.worker.held.map fun r => .message (publishDeviceEvent r timestamp)
  | .announce true timestamp =>
    (w.snapshot.take 1).map fun r => .message (publishDeviceEvent r timestamp)
  | _ => []

/-- The channel has a place for the publish calls of the step. -/
def Taken (cfg : Setting) (w : World) : Action → Prop
  | .relay a => ∀ relay, Atomic.step cfg.relay w.relay a = some relay →
    calls w.relay relay = [] ∨ w.mqtt.channel.length < Mqtt.queueCapacity
  | _ => True

/-- The runs in which the channel takes every request. -/
abbrev Run (cfg : Setting) : List Note → World → Prop :=
  Runs.Logged (step cfg) (Taken cfg) emit (init cfg)

/-- What a subscriber does with a note: it starts from what it knew before whenever the session gets
connected, and follows the messages. -/
def follow (before view : String → Option String) : Note → String → Option String
  | .connAck => before
  | .message m =>
    match m.read with
    | some u => u.apply view
    | none => view

/-- What a subscriber knows that knew something before the session. -/
def subscriber (before : String → Option String) (notes : List Note) : String → Option String :=
  notes.foldl (follow before) before

/-! ## The registry as a subscriber could know it -/

/-- The updates of requests. -/
def updates (rs : List Mqtt.MqttPublishRequest) : List (Update String String) :=
  rs.map Mqtt.MqttPublishRequest.update

/-- What the publish calls say, from the start. -/
def truth (s : State) : String → Option String :=
  Replica.replay (fun _ => none) (updates (requests s))

theorem replayOne_eq (online : String → Option String) (r : MqttPublishRequest) :
    replayOne online r = (request r).update.apply online := by
  cases r <;> rfl

theorem truth_eq_replay (s : State) : truth s = replay (publishRequests s.trace) := by
  unfold truth updates requests replay
  induction publishRequests s.trace using List.reverseRecOn with
  | nil => rfl
  | append_singleton rs r ih =>
    rw [List.map_append, List.map_append, Replica.replay_append, ih, List.foldl_append]
    exact (replayOne_eq _ r).symm

variable {cfg : Setting} {w w' : World} {notes : List Note}

/-- The connection of a session. -/
theorem truth_of_reachable (on : cfg.relay.mqtt = true) {s : State}
    (h : Atomic.Reachable cfg.relay s) (d : String) :
    truth s d = (s.maps.sessionsByDeviceId.lookup d).map (·.connectionId) := by
  rw [truth_eq_replay]
  exact (logged_of_reachable on h).replayed d

/-- The publish call of a step of the relay, if it has one. -/
theorem requests_of_step (on : cfg.relay.mqtt = true) {s s' : State} {a : Atomic.Action}
    (h : Atomic.step cfg.relay s a = some s') :
    requests s' = requests s ++ calls s s' ∧ (calls s s' = [] ∨ ∃ r, calls s s' = [r]) := by
  have grown : ∃ new, publishRequests s'.trace = publishRequests s.trace ++ new ∧
      (new = [] ∨ ∃ r, new = [r]) := by
    cases publishes_of_sessionStep on (Atomic.sessionStep_of_step h) with
    | nothing requests => exact ⟨[], by simpa using requests, .inl rfl⟩
    | online session relayAddress requests => exact ⟨_, requests, .inr ⟨_, rfl⟩⟩
    | offline did session reason found requests => exact ⟨_, requests, .inr ⟨_, rfl⟩⟩
  obtain ⟨new, eq, few⟩ := grown
  have calls_eq : calls s s' = new.map request := by
    rw [calls, requests, requests, eq, List.map_append, List.drop_left' rfl]
  refine ⟨?_, ?_⟩
  · rw [calls_eq, requests, requests, eq, List.map_append]
  · obtain rfl | ⟨r, rfl⟩ := few
    · exact .inl calls_eq
    · exact .inr ⟨request r, calls_eq⟩

/-- The updates of the entries of a shard. -/
theorem replay_shardSnapshot (reachable : Atomic.Reachable cfg.relay w.relay)
    (m : String → Option String) (k : ℕ) (d : String) :
    Replica.replay m (updates (shardSnapshot cfg w.relay k)) d =
      if (cfg.shardOf d).val = k then
        ((w.relay.maps.sessionsByDeviceId.lookup d).map (·.connectionId)).or (m d)
      else m d := by
  have known := known_of_reachable (reachable_of_atomic reachable)
  have members {u : Update String String} (h : u ∈ updates (shardSnapshot cfg w.relay k)) :
      ∃ session, w.relay.maps.sessionsByDeviceId.lookup u.key = some session ∧
        (cfg.shardOf u.key).val = k ∧ u = .set u.key session.connectionId := by
    simp only [updates, shardSnapshot, List.map_map, List.mem_map, List.mem_filter] at h
    obtain ⟨⟨key, session⟩, ⟨mem, shard⟩, rfl⟩ := h
    have found := (DashMap.mem_entries_iff ..).1 mem
    have own : session.deviceId = key := (known.sessions key session found).1
    subst own
    have inShard : (cfg.shardOf session.deviceId).val = k := by simpa using shard
    exact ⟨session, found, inShard, rfl⟩
  split_ifs with shard
  · cases found : w.relay.maps.sessionsByDeviceId.lookup d with
    | none =>
      rw [Replica.replay_of_untouched]
      · rfl
      intro u mem key
      obtain ⟨session, found', -⟩ := members mem
      rw [key, found] at found'
      cases found'
    | some session =>
      refine Replica.replay_of_set ?_ ?_
      · intro u mem key
        obtain ⟨session', found', -, eq⟩ := members mem
        rw [key] at found' eq
        cases found.symm.trans found'
        exact eq
      · obtain rfl : session.deviceId = d := (known.sessions d session found).1
        refine ⟨.set session.deviceId session.connectionId, ?_, rfl⟩
        simp only [updates, shardSnapshot, List.map_map, List.mem_map, List.mem_filter]
        exact ⟨⟨_, session⟩, ⟨(DashMap.mem_entries_iff ..).2 found, by simpa using shard⟩, rfl⟩
  · refine Replica.replay_of_untouched fun u mem key => ?_
    obtain ⟨session, -, shard', -⟩ := members mem
    exact shard (key ▸ shard')

/-! ## Following the registry -/

/-- What a subscriber knows once the snapshot is published. -/
def knownAfter (before : String → Option String) (notes : List Note) (w : World) :
    String → Option String :=
  Replica.replay (subscriber before notes) (updates w.snapshot)

/-- The snapshot has not read the shard of a device. -/
def Unread (cfg : Setting) (w : World) (d : String) : Prop :=
  w.mqtt.worker.isSnapshotting = true ∧ w.shard ≤ (cfg.shardOf d).val

/-- How a subscriber stands in a run: once the rest of the snapshot and of the queue have come it
agrees with the registry, but for the devices whose shard was not read. -/
structure Follows (cfg : Setting) (notes : List Note) (w : World) : Prop where
  reachable : Atomic.Reachable cfg.relay w.relay
  parted : w.mqtt.Parted
  queued : w.mqtt.rest <:+ requests w.relay
  published : w.mqtt.live = true → w.mqtt.worker.isSnapshotting = false → w.snapshot = []
  unread : w.mqtt.live = true → ∀ before d, Unread cfg w d → knownAfter before notes w d = before d
  read : w.mqtt.live = true → ∀ before d, ¬ Unread cfg w d →
    Agrees before (Replica.replay (knownAfter before notes w) (updates w.mqtt.rest))
      (truth w.relay) d

theorem subscriber_snoc (before : String → Option String) (n : Note) :
    subscriber before (notes ++ [n]) = follow before (subscriber before notes) n := by
  rw [subscriber, List.foldl_append]
  rfl

theorem follow_message (before view : String → Option String) (r : Mqtt.MqttPublishRequest)
    (timestamp : String) :
    follow before view (.message (publishDeviceEvent r timestamp)) = r.update.apply view := by
  rw [follow, Mqtt.read_publishDeviceEvent]

namespace Follows

theorem start (cfg : Setting) : Follows cfg [] (init cfg) := by
  refine ⟨.start, ⟨rfl, by simp [init], fun _ => rfl⟩, List.suffix_refl _, fun live => ?_,
    fun live => ?_, fun live => ?_⟩
  all_goals cases live

/-- Nothing but the relay and its calls have changed. -/
theorem relayStep (on : cfg.relay.mqtt = true) (h : Follows cfg notes w) {a : Atomic.Action}
    {relay : State} (hs : Atomic.step cfg.relay w.relay a = some relay) {mqtt : Mqtt.State}
    (worker : mqtt.worker = w.mqtt.worker) (runtime : mqtt.runtime = w.mqtt.runtime)
    (senders : mqtt.hasSenders = w.mqtt.hasSenders)
    (channel : mqtt.channel = w.mqtt.channel ++ calls w.relay relay) :
    Follows cfg notes { w with relay := relay, mqtt := mqtt } := by
  obtain ⟨grown, few⟩ := requests_of_step on hs
  have rest : mqtt.rest = w.mqtt.rest ++ calls w.relay relay := by
    rw [Mqtt.State.rest, Mqtt.State.rest, worker, channel]
    simp
  have live : mqtt.live = w.mqtt.live := by rw [Mqtt.State.live, Mqtt.State.live, worker, runtime]
  have parted : mqtt.Parted := by
    obtain ⟨senders', running, idle⟩ := h.parted
    refine ⟨senders.trans senders', ?_, ?_⟩
    · rwa [worker]
    · rwa [worker, runtime]
  refine ⟨h.reachable.next a trivial hs, parted, ?_, ?_, ?_, ?_⟩
  · obtain ⟨past, split⟩ := h.queued
    refine ⟨past, ?_⟩
    simp only
    rw [grown, rest, ← List.append_assoc, split]
  · simp only
    rw [live, worker]
    exact h.published
  · simp only [Unread]
    rw [live, worker]
    exact h.unread
  · simp only [Unread]
    rw [live, worker, rest]
    intro up before d shard
    have agrees := h.read up before d shard
    obtain none | ⟨r, one⟩ := few
    · rw [none, List.append_nil] at grown ⊢
      rwa [truth, grown]
    · rw [one] at grown ⊢
      rw [truth, grown]
      unfold updates
      rw [List.map_append, List.map_append, List.map_singleton, Replica.replay_snoc,
        Replica.replay_snoc]
      exact agrees.apply _

/-- A step of the worker. -/
theorem workerStep (h : Follows cfg notes w) {a : Mqtt.Action} {timestamp : String}
    (hs : step cfg w (.worker a timestamp) = some w') :
    Follows cfg (notes ++ emit w (.worker a timestamp) w') w' := by
  simp only [step] at hs
  split at hs
  · rename_i own
    obtain ⟨mqtt, stepped, rfl⟩ := Option.map_eq_some_iff.1 hs
    obtain ⟨advances, parted⟩ := Mqtt.advances_of_step h.parted own stepped
    cases advances with
    | published r rest publish holds live past past' =>
      subst publish
      rw [if_neg (by simp)]
      have emits : emit w (.worker (.publish true) timestamp) { w with mqtt := mqtt } =
          [.message (publishDeviceEvent r timestamp)] := by
        rw [emit, holds]
        rfl
      have queued : mqtt.rest <:+ requests w.relay :=
        (rest ▸ List.suffix_cons r mqtt.rest).trans h.queued
      rw [emits]
      refine ⟨h.reachable, parted, queued, ?_, ?_, ?_⟩
      · exact fun up _ => h.published (live up) past
      · rintro up before d ⟨snapshotting, -⟩
        cases past'.symm.trans snapshotting
      · intro up before d _
        have agrees := h.read (live up) before d fun unread => by
          cases past.symm.trans unread.1
        rw [rest] at agrees
        unfold knownAfter at agrees ⊢
        rw [h.published (live up) past] at agrees ⊢
        rw [subscriber_snoc, follow_message]
        exact agrees
    | connected rest acked snapshotting =>
      subst acked
      rw [if_pos rfl]
      refine ⟨h.reachable, parted, rest.symm ▸ h.queued, ?_, ?_, ?_⟩
      · intro _ past
        cases snapshotting.symm.trans past
      · intro _ before d _
        show subscriber before (notes ++ [.connAck]) d = before d
        rw [subscriber_snoc]
        rfl
      · intro _ before d unread
        exact absurd ⟨snapshotting, Nat.zero_le _⟩ unread
    | shortened rest quiet live =>
      rw [if_neg quiet.2]
      have emits : emit w (.worker a timestamp) { w with mqtt := mqtt } = [] := by
        unfold emit
        split
        · exact absurd (by simp_all) quiet.2
        · exact absurd (by simp_all) quiet.1
        · simp_all
        · rfl
      rw [emits, List.append_nil]
      refine ⟨h.reachable, parted, rest.trans h.queued, ?_, ?_, ?_⟩
      · intro up past
        obtain ⟨up, -, same⟩ := live up
        exact h.published up (same ▸ past)
      · rintro up before d ⟨snapshotting, shard⟩
        obtain ⟨up, -, same⟩ := live up
        exact h.unread up before d ⟨same ▸ snapshotting, shard⟩
      · intro up before d unread
        obtain ⟨up, kept, same⟩ := live up
        have agrees := h.read up before d fun h => unread ⟨same ▸ h.1, h.2⟩
        rw [← kept] at agrees
        exact agrees
  · cases hs

/-- The snapshot reads a shard. -/
theorem readShard (on : cfg.relay.mqtt = true) (h : Follows cfg notes w)
    (hs : step cfg w .readShard = some w') : Follows cfg notes w' := by
  simp only [step] at hs
  split at hs
  · rename_i enabled
    obtain ⟨snapshotting, -⟩ := enabled
    cases hs
    have known (before : String → Option String) (d : String) :
        Replica.replay (subscriber before notes)
          (updates (w.snapshot ++ shardSnapshot cfg w.relay w.shard)) d =
        if (cfg.shardOf d).val = w.shard then
          (truth w.relay d).or (knownAfter before notes w d)
        else knownAfter before notes w d := by
      rw [updates, List.map_append, Replica.replay_append, truth_of_reachable on h.reachable]
      exact replay_shardSnapshot h.reachable _ w.shard d
    refine ⟨h.reachable, h.parted, h.queued, ?_, ?_, ?_⟩
    · intro _ past
      cases snapshotting.symm.trans past
    · rintro up before d ⟨-, shard⟩
      simp only at shard
      refine (known before d).trans ?_
      rw [if_neg (by omega)]
      exact h.unread up before d ⟨snapshotting, by omega⟩
    · intro up before d unread
      simp only [Unread, not_and, not_le] at unread
      have shard : (cfg.shardOf d).val < w.shard + 1 := unread snapshotting
      have knownNow := known before d
      obtain ⟨past, split⟩ := h.queued
      have whole : truth w.relay =
          Replica.replay (Replica.replay (fun _ => none) (updates past)) (updates w.mqtt.rest) := by
        rw [truth, ← split, updates, List.map_append, Replica.replay_append]
        rfl
      split_ifs at knownNow with now
      · have untold := h.unread up before d ⟨snapshotting, by omega⟩
        rw [whole]
        cases found : truth w.relay d with
        | none =>
          rw [found, Option.none_or, untold] at knownNow
          exact Replica.agrees_of_absent (whole ▸ found) knownNow
        | some cid =>
          rw [found, Option.some_or] at knownNow
          exact Replica.agrees_of_read (knownNow.trans (whole ▸ found).symm)
      · have agrees := h.read up before d fun unread => by
          have := unread.2
          omega
        exact agrees.of_eq (Replica.replay_congr knownNow)
  · cases hs

/-- The snapshot fails. -/
theorem failedSnapshot (h : Follows cfg notes w) {mqtt : Mqtt.State}
    (hs : Mqtt.step cfg.mqtt w.mqtt (.snapshot false) = some mqtt) :
    Follows cfg notes { w with mqtt := mqtt } := by
  simp only [Mqtt.step] at hs
  split at hs
  · rename_i pending hworker
    cases hs
    refine ⟨h.reachable, ⟨h.parted.senders, by simp, by simp⟩, ?_, fun up => ?_, fun up => ?_,
      fun up => ?_⟩
    · refine List.IsSuffix.trans ?_ h.queued
      simp [Mqtt.State.rest, hworker, Mqtt.Worker.held, Mqtt.Worker.pending]
    all_goals simp [Mqtt.State.live, Mqtt.Worker.inSession] at up
  · cases hs

/-- A message of the snapshot. -/
theorem announce (h : Follows cfg notes w) {ok : Bool} {timestamp : String}
    (hs : step cfg w (.announce ok timestamp) = some w') :
    Follows cfg (notes ++ emit w (.announce ok timestamp) w') w' := by
  simp only [step] at hs
  split at hs
  · cases hs
  · rename_i r snapshot hsnapshot
    split at hs
    · rename_i enabled
      cases ok with
      | false =>
        obtain ⟨mqtt, failed, rfl⟩ := Option.map_eq_some_iff.1 hs
        show Follows cfg (notes ++ []) _
        rw [List.append_nil]
        exact h.failedSnapshot failed
      | true =>
        cases hs
        have same (before : String → Option String) :
            knownAfter before (notes ++ [.message (publishDeviceEvent r timestamp)])
              { w with snapshot := snapshot } = knownAfter before notes w := by
          rw [knownAfter, knownAfter, subscriber_snoc, follow_message, hsnapshot]
          rfl
        rw [emit, hsnapshot]
        refine ⟨h.reachable, h.parted, h.queued, ?_, ?_, ?_⟩
        · intro _ past
          cases enabled.1.symm.trans past
        · intro up before d unread
          exact (congrFun (same before) d).trans (h.unread up before d unread)
        · intro up before d unread
          have agrees := h.read up before d unread
          rw [← same before] at agrees
          exact agrees
    · cases hs

/-- The snapshot is complete. -/
theorem finishSnapshot (h : Follows cfg notes w) (hs : step cfg w .finishSnapshot = some w') :
    Follows cfg notes w' := by
  simp only [step] at hs
  split at hs
  · rename_i complete
    obtain ⟨mqtt, finished, rfl⟩ := Option.map_eq_some_iff.1 hs
    simp only [Mqtt.step] at finished
    split at finished
    · rename_i pending hworker
      cases finished
      have live : w.mqtt.live = w.mqtt.runtime.connected := by
        simp [Mqtt.State.live, hworker, Mqtt.Worker.inSession]
      have rest : Mqtt.State.rest { w.mqtt with worker := .looping pending } = w.mqtt.rest := by
        simp [Mqtt.State.rest, hworker, Mqtt.Worker.held, Mqtt.Worker.pending]
      refine ⟨h.reachable, ⟨h.parted.senders, by simp, by simp⟩, rest.symm ▸ h.queued,
        fun _ _ => complete.1, fun _ _ _ unread => ?_, fun up before d _ => ?_⟩
      · cases unread.1
      · have up : w.mqtt.live = true := by
          rw [live]
          simpa [Mqtt.State.live, Mqtt.Worker.inSession] using up
        have agrees := h.read up before d fun unread => by
          have shard := unread.2
          have := (cfg.shardOf d).isLt
          omega
        rw [← rest] at agrees
        exact agrees
    · cases finished
  · cases hs

/-- A step of the relay whose publish call is taken. -/
theorem relay (on : cfg.relay.mqtt = true) (h : Follows cfg notes w) {a : Atomic.Action}
    (taken : Taken cfg w (.relay a)) (hs : step cfg w (.relay a) = some w') :
    Follows cfg notes w' := by
  simp only [step] at hs
  obtain ⟨relay, moved, hs⟩ := Option.bind_eq_some_iff.1 hs
  obtain ⟨mqtt, offered, rfl⟩ := Option.map_eq_some_iff.1 hs
  obtain none | ⟨r, one⟩ := (requests_of_step on moved).2
  · rw [none] at offered
    cases offered
    exact h.relayStep on moved rfl rfl rfl (by rw [none, List.append_nil])
  · have room : w.mqtt.channel.length < Mqtt.queueCapacity :=
      (taken relay moved).resolve_left (by simp [one])
    simp only [one, List.map_cons, List.map_nil, Runs.execute, Mqtt.step, h.parted.senders, room,
      h.parted.running, ne_eq, not_false_eq_true, and_self, if_true, Option.bind_some,
      Option.some.injEq] at offered
    subst offered
    exact h.relayStep on moved rfl rfl h.parted.senders.symm (by rw [one])

theorem step (on : cfg.relay.mqtt = true) (h : Follows cfg notes w) {a : Action}
    (taken : Taken cfg w a) (hs : step cfg w a = some w') :
    Follows cfg (notes ++ emit w a w') w' := by
  cases a with
  | relay a =>
    show Follows cfg (notes ++ []) w'
    rw [List.append_nil]
    exact h.relay on taken hs
  | worker a timestamp => exact h.workerStep hs
  | readShard =>
    show Follows cfg (notes ++ []) w'
    rw [List.append_nil]
    exact h.readShard on hs
  | announce ok timestamp => exact h.announce hs
  | finishSnapshot =>
    show Follows cfg (notes ++ []) w'
    rw [List.append_nil]
    exact h.finishSnapshot hs

theorem run (on : cfg.relay.mqtt = true) (h : Run cfg notes w) : Follows cfg notes w := by
  refine h.invariant (start cfg) ?_
  intro notes w a w' _ ih taken hs
  exact ih.step on taken hs

end Follows

/-- The worker is connected and has nothing left to publish. -/
def Settled (w : World) : Prop :=
  w.mqtt.runtime.connected = true ∧ w.mqtt.worker = .looping [] ∧ w.mqtt.channel = []

/-- In every run of the relay, with device messages and cleanups as one step each, whose publish
calls find a place in the channel, a subscriber to a session that has nothing left to publish has
the connections of the registry, but for devices that are offline and that it took for online before
the session; so one that knew nothing has exactly the registry. -/
theorem subscriber_follows_registry (on : cfg.relay.mqtt = true) (run : Run cfg notes w)
    (settled : Settled w) (before : String → Option String) (d : String) :
    Agrees before (subscriber before notes)
      (fun d => (w.relay.shared.relay.sessionsByDeviceId.lookup d).map (·.connectionId)) d := by
  obtain ⟨connected, worker, channel⟩ := settled
  have follows := Follows.run on run
  have live : w.mqtt.live = true := by
    rw [Mqtt.State.live, connected, worker]
    rfl
  have past : w.mqtt.worker.isSnapshotting = false := by
    rw [worker]
    rfl
  have rest : w.mqtt.rest = [] := by
    rw [Mqtt.State.rest, worker, channel]
    rfl
  have agrees := follows.read live before d fun unread => by cases past.symm.trans unread.1
  rw [rest, knownAfter, follows.published live past,
    funext (truth_of_reachable on follows.reachable)] at agrees
  exact agrees

/-! ### A concrete run -/

/-- The small relay, with two shards. -/
def twoShards : Setting :=
  ⟨Small.published, Mqtt.broker, 2, fun d => if d = "d" then 0 else 1⟩

/-- The device registers before the session is connected and leaves after its shard was read. -/
def leavingRun : List Action :=
  [.worker .begin "", .relay (Small.resuming 0 ""), .worker (.poll .connAck) "", .readShard,
    .relay (.hangUp 0 .error), .relay (.cleanup 0), .readShard, .announce true "1", .finishSnapshot,
    .worker .receive "", .worker (.publish true) "2", .worker .settle "", .worker .receive "",
    .worker (.publish true) "3", .worker .settle ""]

/-- The snapshot announces a device that is gone, and the queue takes it back. -/
theorem outdated_snapshot_is_corrected :
    ∃ notes w, Run twoShards notes w ∧ Settled w ∧ notes.length = 4 ∧
      w.relay.shared.relay.sessionsByDeviceId.lookup "d" = none ∧
      subscriber (fun _ => none) notes "d" = none := by
  obtain ⟨⟨notes, w⟩, executed, facts⟩ : ∃ r : List Note × World,
      Runs.executeLogged (step twoShards)
        (fun w _ => decide (w.mqtt.channel.length < Mqtt.queueCapacity)) emit [] (init twoShards)
        leavingRun = some r ∧
      (r.1.length, r.2.mqtt.runtime.connected, r.2.mqtt.worker, r.2.mqtt.channel,
        (r.2.relay.shared.relay.sessionsByDeviceId.lookup "d").isNone) =
        (4, true, .looping [], [], true) :=
    Option.map_eq_some_iff.1 (by decide +kernel)
  simp only [Prod.mk.injEq, Option.isNone_iff_eq_none] at facts
  obtain ⟨length, connected, worker, channel, gone⟩ := facts
  have run : Run twoShards notes w := by
    refine .of_executeLogged (fun w a room => ?_) _ .start executed
    cases a with
    | relay a => exact fun _ _ => .inr (of_decide_eq_true room)
    | _ => trivial
  have settled : Settled w := ⟨connected, worker, channel⟩
  refine ⟨notes, w, run, settled, length, gone, ?_⟩
  have agrees := subscriber_follows_registry rfl run settled (fun _ => none) "d"
  obtain same | ⟨-, kept⟩ := agrees
  · simp [same, gone]
  · exact kept

/-- Two streams register device `"d"`; the second one installs and publishes its session before the
first has published its own. -/
def crossedRun : List GrpcRelay.Action :=
  let message : DeviceMessage := ⟨"d", "t", some (.register ⟨"d", [], ""⟩)⟩
  .dev 0 (.recv message) :: Small.devTicks 0 2 ++ .dev 0 (.health true) :: Small.devTicks 0 3 ++
    .dev 1 (.recv message) :: Small.devTicks 1 2 ++ .dev 1 (.health true) :: Small.devTicks 1 5 ++
    Small.devTicks 0 1

/-- Where a message is not one step, the publish calls can end with a connection that the registry
has replaced. -/
theorem crossed_notices_mislead :
    ∃ s, GrpcRelay.Reachable Small.published s ∧ truth s "d" = some "conn-1" ∧
      (s.shared.relay.sessionsByDeviceId.lookup "d").map (·.connectionId) = some "conn-2" := by
  obtain ⟨s, executed, facts⟩ : ∃ s, GrpcRelay.execute Small.published crossedRun = some s ∧
      (truth s "d", (s.shared.relay.sessionsByDeviceId.lookup "d").map (·.connectionId)) =
        (some "conn-1", some "conn-2") :=
    Option.map_eq_some_iff.1 (by decide +kernel)
  obtain ⟨said, installed⟩ := Prod.mk.inj facts
  exact ⟨s, reachable_of_execute executed, said, installed⟩

end GrpcRelay.Announcements
