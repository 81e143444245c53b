import GrpcRelay.Device
import GrpcRelay.Lib.Runs

/-!
# Steps of the relay

The timeout tasks, the stale-stream task, the steps of the environment, and the interleaving of
all tasks.
-/

namespace GrpcRelay

/-- The timeout task of an in-flight entry: sleep, look the entry up by device and sequence number,
take it and complete it. -/
def Timer.step (sh : Shared) (e : ℕ) : Option (Next Timer) :=
  match sh.timer e with
  | .sleeping d q deadline =>
    if deadline ≤ sh.now then
      match sh.relay.takeInflight d q with
      | (relay, some entry) =>
        some ⟨{ sh with relay := relay }, .completing d q entry,
          [.inflight sh.now (.taken (d, q) entry), .timedOut sh.now e entry]⟩
      | (_, none) => some ⟨sh, .done, []⟩
    else none
  | .completing d q entry =>
    let reply := Controller.offlineReply d q
    some ⟨{ sh with relay := sh.relay.complete entry reply }, .done,
      [.inflight sh.now (.completed entry reply)]⟩
  | .unset | .done => none

/-- `spawn_stale_stream_cleanup`: scan, remove the streams found, tell their controllers. -/
def Reaper.step (sh : Shared) : Reaper → Next Reaper
  | .sleeping => ⟨sh, .removing (sh.router.staleStreams sh.now) [], []⟩
  | .removing (sid :: stale) removed =>
    match sh.router.removeMapping sid with
    | (some mapping, router) =>
      ⟨{ sh with router := router }, .removing stale (removed ++ [mapping]), []⟩
    | (none, _) => ⟨sh, .removing stale removed, []⟩
  | .removing [] removed => ⟨sh, .notifying removed, []⟩
  | .notifying (mapping :: removed) =>
    ⟨sh, .notifying removed,
      [.notified mapping.controllerTx (Controller.offlineReply mapping.deviceId 0)]⟩
  | .notifying [] => ⟨sh, .sleeping, []⟩

/-- The steps of the system. -/
inductive Action where
  /-- A step of `ConnectToDevice` loop `c`. -/
  | ctrl (c : ℕ) (input : CtrlInput)
  /-- A step of device stream `i`. -/
  | dev (i : ℕ) (input : DevInput)
  /-- A step of the timeout task of entry `e`. -/
  | timer (e : ℕ)
  /-- A step of the stale-stream task. -/
  | reaper
  /-- The clock moves on. -/
  | advance (now : Instant)
  /-- `RevokeToken` writes a revoked controller token. -/
  | revokeControllerToken (tokenHashOrPrefix : String)
  /-- `RevokeToken` writes a revoked device token. -/
  | revokeDeviceToken (tokenHashOrPrefix : String)
  /-- `ListOnlineDevices` asks the rate limiter. -/
  | allow (deviceId controllerId : String)
  /-- The receiving half of device stream `i`'s outbound channel is dropped. -/
  | closeOutbound (i : ℕ)
  /-- The idempotency cache drops an entry: expired, or least recently used when it is full. -/
  | evict (k : RequestKey)
  deriving DecidableEq

/-- The state after a step of the whole system, or `none` if the action is not enabled. -/
def step (cfg : Config) (s : State) : Action → Option State
  | .ctrl c input => (Controller.step cfg s.shared c (s.ctrl c) input).map (s.afterCtrl c)
  | .dev i input =>
    (Device.step cfg s.shared s.trace.length i (s.dev i) input).map (s.afterDev i)
  | .timer e => (Timer.step s.shared e).map (s.afterTimer e)
  | .reaper =>
    let n := Reaper.step s.shared s.reaper
    some { s with shared := n.shared, reaper := n.loc, trace := s.trace ++ n.events }
  | .advance now =>
    if s.shared.now ≤ now then some { s with shared := { s.shared with now := now } } else none
  | .revokeControllerToken p =>
    some { s with shared := { s.shared with auth := s.shared.auth.revokeControllerToken p } }
  | .revokeDeviceToken p =>
    some { s with shared := { s.shared with auth := s.shared.auth.revokeDeviceToken p } }
  | .allow d c =>
    some { s with shared := { s.shared with
      rateLimiter := (s.shared.rateLimiter.allow s.shared.now d c).2 } }
  | .closeOutbound i =>
    some { s with shared := { s.shared with
      outboundOpen := Function.update s.shared.outboundOpen i false } }
  | .evict k =>
    if (s.shared.cache.lookup k).isSome then
      some { s with
        shared := { s.shared with cache := s.shared.cache.erase k }
        trace := s.trace ++ [Event.evicted k] }
    else none

/-- The states of the runs whose steps all meet `ok`. -/
def ReachableWhen (cfg : Config) (ok : State → Action → Prop) (s : State) : Prop :=
  Runs.Reach (step cfg) ok (State.init cfg) s

/-- The states of all runs. -/
def Reachable (cfg : Config) (s : State) : Prop := ReachableWhen cfg (fun _ _ => True) s

theorem reachable_of_when {cfg : Config} {ok : State → Action → Prop} {s : State}
    (h : ReachableWhen cfg ok s) : Reachable cfg s :=
  h.mono fun _ _ _ => trivial

/-- The state that a list of steps leads to from the start. -/
def execute (cfg : Config) (actions : List Action) : Option State :=
  Runs.execute (step cfg) (State.init cfg) actions

/-- The state that a list of steps leads to from the start, if each passes the test. -/
def executeWhen (cfg : Config) (test : State → Action → Bool) (actions : List Action) :
    Option State :=
  Runs.executeWhen (step cfg) test (State.init cfg) actions

theorem reachable_of_execute {cfg : Config} {s : State} {actions : List Action}
    (h : execute cfg actions = some s) : Reachable cfg s :=
  Runs.Reach.of_execute (fun _ _ => trivial) actions .start h

theorem reachableWhen_of_execute {cfg : Config} {ok : State → Action → Prop}
    {test : State → Action → Bool} {s : State} {actions : List Action}
    (sound : ∀ s a, Reachable cfg s → test s a = true → ok s a)
    (h : executeWhen cfg test actions = some s) : ReachableWhen cfg ok s :=
  Runs.Reach.of_executeWhen sound actions .start h

/-! ## A small relay

A configuration and pieces of runs for concrete cases. -/

namespace Small

/-- No authentication, generous limits, and requests that time out after a minute. -/
def config : Config where
  auth := ⟨false, ∅, ∅, [], ⟨false, "", none, none, 0⟩⟩
  stream := ⟨60, 100, 100⟩
  rateLimiting := ⟨100, 6000, 1000, 10, 100, 1000, 1000, 1000⟩
  relayAddress := "127.0.0.1:50051"
  inflightTimeout := 60
  mqtt := false
  decode := fun _ _ _ _ => none

/-- The same with authentication: token `"ct"` for controller `"c"`, `"dt"` for device `"d"`. -/
def guarded : Config :=
  { config with
    auth := ⟨true, (∅ : DashMap String ControllerAuthEntry).insert "ct" ⟨"c", "admin", []⟩,
      (∅ : DashMap String DeviceAuthEntry).insert "dt" ⟨"d", "p"⟩, [],
      ⟨false, "", none, none, 0⟩⟩ }

/-- A request of controller `"c"` to device `"d"`. -/
def request (sequenceNumber : ℤ) : ControllerMessage :=
  ⟨"c", "ct", "d", "M", sequenceNumber, [1]⟩

/-- Loop `c` makes `n` steps of its own. -/
def ticks (c n : ℕ) : List Action := List.replicate n (.ctrl c .tick)

/-- Loop `c` receives its first message and joins an entry. -/
def join (c : ℕ) (m : ControllerMessage) : List Action := .ctrl c (.recv m) :: ticks c 6

/-- Loop `c` receives another message and joins an entry. -/
def joinAgain (c : ℕ) (m : ControllerMessage) : List Action := .ctrl c (.recv m) :: ticks c 3

/-- Loop `c`, a new forwarder, finds the session and passes the bandwidth check. -/
def route (c : ℕ) : List Action := [.ctrl c .tick, .ctrl c (.clock ⟨0, 0, 0⟩)]

/-- Loop `c`, a new forwarder, puts its request on the device's outbound channel. -/
def forward (c : ℕ) : List Action := route c ++ ticks c 1

/-- Stream `i` makes `n` steps of its own. -/
def devTicks (i n : ℕ) : List Action := List.replicate n (.dev i .tick)

/-- Stream `i` receives a `Register` for a device that has no session, and carries it out. -/
def register (i : ℕ) (deviceId token : String) : List Action :=
  .dev i (.recv ⟨deviceId, token, some (.register ⟨deviceId, [], ""⟩)⟩) ::
    (devTicks i 2 ++ Action.dev i (.health true) :: devTicks i 5)

/-- Stream `i` receives a `Data` message and takes the entry it answers. -/
def data (i : ℕ) (deviceId : String) (sequenceNumber : ℤ) : List Action :=
  .dev i (.recv ⟨deviceId, "t", some (.data ⟨"", sequenceNumber, [2], 0⟩)⟩) :: devTicks i 2

/-- The requests placed: loop, stream, message and request. -/
def placement : Event → Option (ℕ × ℕ × ControllerMessage × DataRequest)
  | .placed c i m request => some (c, i, m, request)
  | _ => none

/-- The messages pulled, with their loops. -/
def pull : Event → Option (ℕ × ControllerMessage)
  | .pulled c m => some (c, m)
  | _ => none

/-- The responses that loops sent. -/
def answer : Event → Option (ℕ × Reply)
  | .answered c r => some (c, r)
  | _ => none

/-- An event is part of a run if a projection of the run's events that only this event can
explain has it. -/
theorem mem_of_filterMap {β : Type} {f : Event → Option β} {y : β} {e : Event}
    (only : ∀ x, f x = some y → x = e) {events : List Event} (h : y ∈ events.filterMap f) :
    e ∈ events := by
  obtain ⟨x, hx, hy⟩ := List.mem_filterMap.1 h
  exact only x hy ▸ hx

/-- An event is the last of a run if a projection that only this event can explain says so. -/
theorem eq_snoc_of_map {β : Type} {f : Event → Option β} {y : β} {e : Event}
    (only : ∀ x, f x = some y → x = e) {events : List Event} {n : ℕ}
    (h : (events.drop n).map f = [some y]) : events = events.take n ++ e :: [] := by
  obtain ⟨x, hx, hy⟩ := List.map_eq_singleton_iff.1 h
  rw [← only x hy, ← hx, List.take_append_drop]

theorem eq_pulled {x : Event} {c : ℕ} {m : ControllerMessage} (h : pull x = some (c, m)) :
    x = .pulled c m := by
  unfold pull at h
  split at h
  · simpa using h
  · cases h

theorem eq_answered {x : Event} {c : ℕ} {r : Reply} (h : answer x = some (c, r)) :
    x = .answered c r := by
  unfold answer at h
  split at h
  · simpa using h
  · cases h

theorem mem_of_placement {events : List Event} {c i : ℕ} {m : ControllerMessage}
    {request : DataRequest} (h : (c, i, m, request) ∈ events.filterMap placement) :
    .placed c i m request ∈ events := by
  refine mem_of_filterMap ?_ h
  intro x hx
  unfold placement at hx
  split at hx
  · simpa using hx
  · cases hx

end Small

end GrpcRelay
