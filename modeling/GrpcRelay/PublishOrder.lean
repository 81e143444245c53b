import GrpcRelay.Publications

/-!
# The order of the MQTT events

A request goes from the channel to the client directly or through the queue of the session.  On both
ways it stays behind the requests that the channel took before it: what was handed over, what is
being published, the queue of the session and the channel are, in this order, a part of what the
channel has taken (`queue_of_step`).
-/

namespace GrpcRelay.Mqtt

/-- The request that the worker is publishing. -/
def Worker.held : Worker → List MqttPublishRequest
  | .publishing request _ => [request]
  | _ => []

@[simp] theorem Resume.held_worker (next : Resume) : next.worker.held = [] := by
  cases next <;> rfl

/-- The requests that were handed over and those that still may be, oldest first. -/
def State.queue (s : State) : List MqttPublishRequest :=
  s.handed ++ (s.worker.held ++ (s.worker.pending ++ s.channel))

/-- The request that the channel takes in a step. -/
def accepts (s : State) (a : Action) (_ : State) : List MqttPublishRequest :=
  match a with
  | .offer request =>
    if s.channel.length < queueCapacity ∧ s.worker ≠ .returned then [request] else []
  | _ => []

/-- The runs of the publisher and its worker, with the requests that the channel has taken. -/
abbrev Run (config : Config) : List MqttPublishRequest → State → Prop :=
  Runs.Logged (step config) (fun _ _ => True) accepts {}

/-- The event that announces a connection. -/
def MqttPublishRequest.opens (connectionId : String) : MqttPublishRequest → Prop
  | .deviceOnline _ id _ _ => id = connectionId
  | .deviceOffline .. => False

/-- The event that announces the end of a connection. -/
def MqttPublishRequest.closes (connectionId : String) : MqttPublishRequest → Prop
  | .deviceOnline .. => False
  | .deviceOffline _ id _ => id = connectionId

section Step

variable {config : Config} {s s' : State} {a : Action} {accepted : List MqttPublishRequest}

/-- A request that is received comes last. -/
theorem received_sublist (connected : Bool) (pending : List MqttPublishRequest)
    (request : MqttPublishRequest) :
    ((received connected pending request).held ++
      (received connected pending request).pending).Sublist (pending ++ [request]) := by
  unfold received
  split_ifs with now full
  · simp [Worker.held, Worker.pending, now.2]
  · exact (List.tail_sublist pending).append_right _
  · exact List.Sublist.refl _

/-- A step that hands nothing over and takes nothing in. -/
theorem queue_sublist (handed : s'.handed = s.handed)
    (worker : (s'.worker.held ++ s'.worker.pending).Sublist (s.worker.held ++ s.worker.pending))
    (channel : s'.channel.Sublist s.channel) : s'.queue.Sublist s.queue := by
  unfold State.queue
  rw [handed, ← List.append_assoc s'.worker.held, ← List.append_assoc s.worker.held]
  exact (worker.append channel).append_left _

/-- A step keeps the order, and adds what the channel takes at the end. -/
theorem queue_of_step (h : step config s a = some s') :
    s'.queue.Sublist (s.queue ++ accepts s a s') := by
  cases a with
  | offer request =>
    simp only [step] at h
    split_ifs at h with senders room
    · cases h
      simp [State.queue, accepts, room]
    · cases h
      exact (queue_sublist rfl (.refl _) (.refl _)).trans (List.sublist_append_left _ _)
  | receive =>
    simp only [step] at h
    split at h
    · rename_i pending request channel hworker hchannel
      split_ifs at h
      cases h
      have last := received_sublist s.runtime.connected pending request
      simp only [State.queue, accepts, hworker, hchannel, Worker.held, Worker.pending,
        List.nil_append, List.append_nil]
      refine List.Sublist.append_left ?_ _
      have whole : pending ++ request :: channel = pending ++ [request] ++ channel := by simp
      rw [whole, ← List.append_assoc]
      exact last.append_right _
    · cases h
  | publish ok =>
    simp only [step] at h
    split at h
    · rename_i request pending hworker
      split_ifs at h
      · cases h
        simp [State.queue, accepts, hworker, Worker.held, Worker.pending, Resume.pending]
      · cases h
        simp [State.queue, accepts, hworker, Worker.held, Worker.pending, Resume.pending]
    · cases h
  | settle =>
    simp only [step] at h
    split at h
    · rename_i next hworker
      cases h
      rw [show accepts s .settle _ = [] from rfl, List.append_nil]
      refine queue_sublist rfl ?_ (.refl _)
      rw [Resume.held_worker, Resume.pending_worker, hworker]
      exact List.Sublist.refl _
    · cases h
  | countPending | countRefused | close | begin | flush | poll event | snapshot ok
    | receiveClosed | tick ok | drop | drain | backoff | wake =>
    rw [show accepts s _ s' = [] from rfl, List.append_nil]
    simp only [step] at h
    repeat' split at h
    all_goals cases h
    all_goals refine queue_sublist rfl ?_ ?_
    all_goals simp [*, Worker.held, Worker.pending, Resume.pending]

/-- What was handed over and may still be is a part of what the channel has taken. -/
theorem queue_of_run (h : Run config accepted s) : s.queue.Sublist accepted := by
  refine Runs.Logged.invariant (I := fun accepted s => s.queue.Sublist accepted)
    (List.Sublist.refl _) ?_ h
  intro accepted s a s' _ ih _ hs
  exact (queue_of_step hs).trans (ih.append_right _)

/-- In every run the requests handed to the MQTT client are a subsequence of the requests that the
channel took; so the end of a connection is not handed over before its beginning, unless the channel
took it first. -/
theorem mqtt_events_keep_order (h : Run config accepted s) :
    s.handed.Sublist accepted ∧
    ∀ (connectionId : String) (on off : MqttPublishRequest),
      on.opens connectionId → off.closes connectionId →
      ¬ [off, on].Sublist accepted → ¬ [off, on].Sublist s.handed := by
  have order : s.handed.Sublist accepted :=
    (List.sublist_append_left _ _).trans (queue_of_run h)
  exact ⟨order, fun _ _ _ _ _ first handed => first (handed.trans order)⟩

end Step

/-- The device goes offline. -/
def offline : MqttPublishRequest := .deviceOffline "dev-1" "conn-1" "graceful_shutdown"

/-- The first event is parked while there is no connection, the second is published directly. -/
def parkedRun : List Action :=
  [.offer online, .countPending, .begin, .receive, .poll .connAck, .snapshot true, .flush,
    .publish true, .settle, .offer offline, .countPending, .receive, .publish true, .settle]

theorem parked_event_keeps_order :
    ∃ s, Run broker [online, offline] s ∧ s.handed = [online, offline] ∧
      ¬ [offline, online].Sublist s.handed := by
  obtain ⟨⟨accepted, s⟩, run, result⟩ : ∃ out, Runs.executeLogged (step broker) (fun _ _ => true)
      accepts [] {} parkedRun = some out ∧
      (out.1, out.2.handed) = ([online, offline], [online, offline]) :=
    Option.map_eq_some_iff.1 (by decide +kernel)
  obtain ⟨rfl, handed⟩ := Prod.mk.inj result
  have logged : Run broker [online, offline] s :=
    .of_executeLogged (fun _ _ _ => trivial) _ .start run
  refine ⟨s, logged, handed, ?_⟩
  exact (mqtt_events_keep_order logged).2 "conn-1" online offline rfl rfl (by decide)

end GrpcRelay.Mqtt
