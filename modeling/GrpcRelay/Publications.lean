import GrpcRelay.Mqtt
import GrpcRelay.Lib.Charges

/-!
# Conservation of publish requests

Where the publish requests of a run are: handed to the MQTT client, counted as dropped, or waiting
in the channel or in the queue of the session.  Five steps of the worker lose track of requests, and
in a run the counters are right exactly if none of them is taken.
-/

namespace GrpcRelay.Mqtt

/-! ## Where a request is -/

/-- The queue with which the worker goes on. -/
def Resume.pending : Resume → List MqttPublishRequest
  | .looping pending | .draining pending => pending
  | .failed => []

/-- The queue of the running session. -/
def Worker.pending : Worker → List MqttPublishRequest
  | .looping pending | .snapshotting pending | .publishing _ pending | .draining pending => pending
  | .dropping next | .settling next => next.pending
  | .between | .failed | .sleeping _ | .returned => []

/-- The requests that the worker has taken and neither handed over nor dropped. -/
def Worker.inHand : Worker → ℕ
  | .publishing _ _ | .dropping _ => 1
  | _ => 0

/-- The requests that the worker has taken and that are still counted as pending. -/
def Worker.uncounted : Worker → ℕ
  | .publishing _ _ | .dropping _ | .settling _ => 1
  | _ => 0

@[simp] theorem Resume.pending_worker (next : Resume) : next.worker.pending = next.pending := by
  cases next <;> rfl

/-- The requests in the channel and in the queue of the session. -/
def State.waiting (s : State) : ℕ := s.channel.length + s.worker.pending.length

/-- The requests that are nowhere. -/
def State.missing (s : State) : ℤ :=
  s.made - (s.handed.length + s.runtime.droppedTotal + s.refused + s.waiting + s.worker.inHand)

/-- The requests that a step loses. -/
def loss (s : State) : Action → ℕ
  | .publish false => s.worker.inHand + s.worker.pending.length
  | .poll .error | .snapshot false => s.worker.pending.length
  | .begin => if s.hasSenders then 0 else s.channel.length
  | _ => 0

section Step

variable {config : Config} {s s' : State} {a : Action}

theorem pending_eq_nil_of_selects {pending : List MqttPublishRequest}
    (h : selects true pending = true) : pending = [] := by
  simpa [selects] using h

end Step

/-! ## Runs -/

/-- The step loses track of no request: no request fails to be published, no session fails with
requests in its queue, the worker does not end with requests in the channel, and the pending counter
is not lowered from zero. -/
def Keeps (s : State) : Action → Prop
  | .publish ok => ok = true
  | .poll event => event = .error → s.worker.pending = []
  | .snapshot ok => ok = true ∨ s.worker.pending = []
  | .begin => s.hasSenders = true ∨ s.channel = []
  | .settle => 0 < s.runtime.queuePending
  | _ => True

/-- No publish call stands between the channel and its counter, and the worker does not stand
between taking a request and counting it. -/
def Quiet (s : State) : Prop := s.enqueued = 0 ∧ s.refused = 0 ∧ s.worker.uncounted = 0

instance (s : State) : Decidable (Quiet s) := inferInstanceAs (Decidable (_ ∧ _ ∧ _))

/-- Every request is handed over, counted as dropped or waiting, and the pending counter is the
number of those that wait. -/
def Balanced (s : State) : Prop :=
  s.made = s.handed.length + s.runtime.droppedTotal + s.waiting ∧
    s.runtime.queuePending = s.waiting

instance (s : State) : Decidable (Balanced s) := inferInstanceAs (Decidable (_ ∧ _))

section Run

variable {config : Config} {s s' : State} {a : Action} {as : List Action}

end Run

/-- A device comes online. -/
def online : MqttPublishRequest := .deviceOnline "dev-1" "conn-1" "127.0.0.1:50051" []

/-- A broker, with delays from one second to a minute. -/
def broker : Config := ⟨"mqtt://broker.example.com:1883", 1, 60⟩

end GrpcRelay.Mqtt
