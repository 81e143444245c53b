import GrpcRelay.Moves
import GrpcRelay.Router

/-!
# Streams in the steps of the relay

`routerAfter` is the router after a step, read off from where the task stands that makes it: the
loops create and remove mappings and count requests, the cleanup of a device stream removes the
mappings of its device, and the stale-stream task removes those that are idle.

A loop does not notice that its mapping was removed, and goes on forwarding.  What a loop sends to a
device is on a mapped stream as long as the loop does not use its stream after the mapping is gone
(`placed_on_mapped_stream`).
-/

namespace GrpcRelay

/-! ## The router after a step -/

/-- The router after a step of loop `c`. -/
def Controller.routerAfter (sh : Shared) (c : ℕ) (l : Controller) : StreamRouter :=
  match l.pc with
  | .mapping m =>
    (sh.router.createMapping sh.now m.targetDeviceId m.controllerId m.methodName c).2
  | .beginning _ => (beginRequest sh l).router
  | .refusing _ | .offlineFinishing _ | .finishing .. => (finishRequest sh l).router
  | .closing => (close sh l).shared.router
  | _ => sh.router

/-- The router after a step of a device stream. -/
def Device.routerAfter (sh : Shared) (l : Device) : StreamRouter :=
  match l.pc with
  | .sweeping did _ [] _ => (sh.router.removeAllForDevice did).2
  | _ => sh.router

/-- The router after a step of the stale-stream task. -/
def Reaper.routerAfter (sh : Shared) : Reaper → StreamRouter
  | .removing (sid :: _) _ => (sh.router.removeMapping sid).2
  | _ => sh.router

/-- The router after a step. -/
def routerAfter (s : State) : Action → StreamRouter
  | .ctrl c _ => Controller.routerAfter s.shared c (s.ctrl c)
  | .dev i _ => Device.routerAfter s.shared (s.dev i)
  | .reaper => s.reaper.routerAfter s.shared
  | _ => s.shared.router

namespace Controller

variable {cfg : Config} {sh : Shared} {c : ℕ} {l : Controller} {m : ControllerMessage}

theorem router_connect : (connect sh l).1.router = sh.router := by
  unfold connect
  split_ifs <;> rfl

theorem router_authenticate : (authenticate cfg sh c l m).shared.router = sh.router := by
  unfold authenticate
  split
  · rfl
  · dsimp only
    split
    · exact router_connect
    · split <;> exact router_connect

theorem router_createMapping : (createMapping sh c l m).shared.router =
    (sh.router.createMapping sh.now m.targetDeviceId m.controllerId m.methodName c).2 := by
  unfold createMapping
  split
  · rename_i h
    rw [h]
  · rename_i h
    rw [h]
    split_ifs <;> rfl

theorem router_receive : (receive sh c l m).shared.router = sh.router := by
  unfold receive
  split
  · rfl
  · split_ifs <;> rfl

theorem router_of_step {input : CtrlInput} {next : Next Controller}
    (h : step cfg sh c l input = some next) : next.shared.router = routerAfter sh c l := by
  unfold step at h
  split at h
  case h_1 =>
    split at h <;> rename_i hpc <;> cases h
    rw [routerAfter, hpc]
    exact router_receive
  case h_2 | h_3 =>
    split at h <;> rename_i hpc <;> cases h
    rw [routerAfter, hpc]
  case h_4 =>
    split at h <;> rename_i hpc <;> cases h
    rw [routerAfter, hpc]
    unfold meter
    split <;> rfl
  case h_5 =>
    split at h <;> rename_i hpc <;> try cases h
    all_goals rw [routerAfter, hpc]
    case h_1 => exact router_authenticate
    case h_2 => unfold limit; split <;> rfl
    case h_3 => exact router_createMapping
    case h_5 => unfold lookUp; split <;> rfl
    case h_6 => unfold join; split <;> rfl
    case h_7 => unfold route; split <;> rfl
    case h_8 => unfold forward; split_ifs <;> rfl
    case h_10 => unfold takeOffline; split <;> rfl
    case h_13 => unfold await at h; split at h <;> split_ifs at h <;> cases h <;> rfl
    case h_18 => unfold disconnect; split_ifs <;> rfl
    all_goals rfl

end Controller

namespace Device

variable {cfg : Config} {sh : Shared} {n i : ℕ} {l : Device} {msg : DeviceMessage}
  {did : String} {reason : DisconnectReason}

theorem router_handle : (handle sh n i l msg).shared.router = sh.router := by
  unfold handle
  split_ifs
  · split
    · unfold register
      split <;> rfl
    · unfold heartbeat
      split <;> rfl
    · unfold data
      split
      · rfl
      · split <;> rfl
    · rfl
  · rfl

theorem router_sweep {keys : List RequestKey} {taken : List (ℤ × ℕ)} :
    (sweep sh l did reason taken keys).shared.router =
      match keys with
      | [] => (sh.router.removeAllForDevice did).2
      | _ :: _ => sh.router := by
  cases keys with
  | nil => rfl
  | cons key keys =>
    simp only [sweep]
    split <;> rfl

theorem router_of_step {input : DevInput} {next : Next Device}
    (h : step cfg sh n i l input = some next) : next.shared.router = routerAfter sh l := by
  unfold step at h
  split at h
  case h_1 =>
    split at h <;> rename_i hpc <;> cases h
    rw [routerAfter, hpc]
    unfold receive
    split_ifs <;> rfl
  case h_2 | h_3 | h_4 | h_5 =>
    split at h <;> rename_i hpc <;> cases h
    rw [routerAfter, hpc]
  case h_6 =>
    split at h <;> rename_i hpc
    · rw [routerAfter, hpc]
      unfold visit at h
      split at h
      · cases h
      · split_ifs at h
        cases h
        rfl
    · cases h
  case h_7 =>
    split at h <;> rename_i hpc <;> cases h
    all_goals rw [routerAfter, hpc]
    case h_2 => exact router_handle
    case h_3 => unfold allowDevice; split <;> rfl
    case h_11 => unfold close; split <;> rfl
    case h_13 keys _ =>
      rw [router_sweep]
      cases keys <;> rfl
    case h_14 taken _ => cases taken <;> rfl
    case h_15 removed => cases removed <;> rfl
    case h_17 => unfold verify; split_ifs <;> rfl
    case h_18 => unfold removeSession; split <;> rfl
    all_goals rfl

end Device

variable {cfg : Config} {s s' : State}

theorem Reaper.router_step (sh : Shared) (reaper : Reaper) :
    (Reaper.step sh reaper).shared.router = reaper.routerAfter sh := by
  cases reaper with
  | sleeping => rfl
  | removing stale removed =>
    cases stale with
    | nil => rfl
    | cons sid stale =>
      simp only [Reaper.step, Reaper.routerAfter]
      split <;> rename_i h
      · rw [h]
      · unfold StreamRouter.removeMapping at h ⊢
        split at h
        · rfl
        · cases h
  | notifying removed => cases removed <;> rfl

theorem router_of_step {a : Action} (h : step cfg s a = some s') :
    s'.shared.router = routerAfter s a := by
  cases a with
  | ctrl c input =>
    obtain ⟨next, hn, rfl⟩ := Option.map_eq_some_iff.1 h
    exact Controller.router_of_step hn
  | dev i input =>
    obtain ⟨next, hn, rfl⟩ := Option.map_eq_some_iff.1 h
    exact Device.router_of_step hn
  | timer e =>
    obtain ⟨next, hn, rfl⟩ := Option.map_eq_some_iff.1 h
    unfold Timer.step at hn
    split at hn
    · split_ifs at hn
      split at hn <;> cases hn <;> rfl
    all_goals cases hn
    rfl
  | reaper =>
    cases h
    exact Reaper.router_step s.shared s.reaper
  | advance now | evict k =>
    simp only [step] at h
    split_ifs at h
    cases h
    rfl
  | revokeControllerToken p | revokeDeviceToken p | allow d c | closeOutbound i =>
    cases h
    rfl

/-! ## Mapped streams -/

/-- The streams that a step removes from the mappings. -/
def removedStreams (s : State) : Action → List String
  | .ctrl c _ =>
    match (s.ctrl c).pc with
    | .closing => (s.ctrl c).streamId.toList
    | _ => []
  | .dev i _ =>
    match (s.dev i).pc with
    | .sweeping did _ [] _ => (Index.ids s.shared.router.deviceToStreams did).keys
    | _ => []
  | .reaper =>
    match s.reaper with
    | .removing (sid :: _) _ => [sid]
    | _ => []
  | _ => []

namespace StreamRouter

variable {r : StreamRouter} {sid sid' d : String}

theorem mem_removeMapping (h : sid ∈ r.mappings) (other : sid ≠ sid') :
    sid ∈ (r.removeMapping sid').2.mappings := by
  unfold removeMapping
  split
  · exact h
  · exact AList.mem_erase.2 ⟨other, h⟩

theorem mem_removeAllForDevice (h : sid ∈ r.mappings)
    (other : sid ∉ (Index.ids r.deviceToStreams d).keys) :
    sid ∈ (r.removeAllForDevice d).2.mappings := by
  cases filed : r.deviceToStreams.lookup d with
  | none =>
    unfold removeAllForDevice
    rwa [filed]
  | some ids =>
    rw [Index.ids_of_lookup filed] at other
    rw [← AList.lookup_isSome, lookup_removeAllForDevice filed, if_neg other]
    exact AList.lookup_isSome.2 h

theorem Creates.mem {now : Instant} {c methodName : String} {tx : ControllerTx}
    {out : Except StreamRouterError String × StreamRouter}
    (hc : Creates r now d c methodName tx out) (h : sid ∈ r.mappings) :
    sid ∈ out.2.mappings := by
  cases hc with
  | deviceFull | controllerFull => exact h
  | created => exact (AList.mem_insert _).2 (Or.inr h)

theorem Creates.mem_new {now : Instant} {c methodName : String} {tx : ControllerTx}
    {out : Except StreamRouterError String × StreamRouter}
    (hc : Creates r now d c methodName tx out) (h : out.1 = .ok sid) :
    sid ∈ out.2.mappings := by
  cases hc with
  | deviceFull | controllerFull => cases h
  | created =>
    cases h
    exact (AList.mem_insert _).2 (Or.inl rfl)

theorem mem_modify {g : StreamMapping → StreamMapping} (h : sid ∈ r.mappings) :
    sid ∈ DashMap.modify r.mappings sid' g := by
  rw [← AList.lookup_isSome] at h ⊢
  rw [DashMap.lookup_modify]
  split_ifs
  · simpa using h
  · exact h

end StreamRouter

theorem Controller.mem_finishRequest {sh : Shared} {l : Controller} {sid : String}
    (h : sid ∈ sh.router.mappings) : sid ∈ (finishRequest sh l).router.mappings := by
  unfold finishRequest
  split
  · exact StreamRouter.mem_modify h
  · exact h

/-- A stream that a step does not remove stays mapped. -/
theorem mem_routerAfter {a : Action} {sid : String} (h : sid ∈ s.shared.router.mappings)
    (kept : sid ∉ removedStreams s a) : sid ∈ (routerAfter s a).mappings := by
  cases a with
  | ctrl c input =>
    simp only [routerAfter, Controller.routerAfter]
    simp only [removedStreams] at kept
    split
    · exact StreamRouter.creates_createMapping.mem h
    · unfold Controller.beginRequest
      split
      · exact StreamRouter.mem_modify h
      · exact h
    · exact Controller.mem_finishRequest h
    · exact Controller.mem_finishRequest h
    · exact Controller.mem_finishRequest h
    · rename_i hpc
      rw [hpc] at kept
      unfold Controller.close
      split
      · rename_i sid' hs
        rw [hs] at kept
        exact StreamRouter.mem_removeMapping h (by simpa using kept)
      · exact h
    · exact h
  | dev i input =>
    simp only [routerAfter, Device.routerAfter]
    simp only [removedStreams] at kept
    split
    · rename_i hpc
      rw [hpc] at kept
      exact StreamRouter.mem_removeAllForDevice h kept
    · exact h
  | reaper =>
    simp only [routerAfter, Reaper.routerAfter]
    simp only [removedStreams] at kept
    split
    · rename_i hpc
      rw [hpc] at kept
      exact StreamRouter.mem_removeMapping h (by simpa using kept)
    · exact h
  | timer | advance | revokeControllerToken | revokeDeviceToken | allow | closeOutbound
  | evict => exact h

/-- The loop has a request that it may still place. -/
def CtrlPc.underway : CtrlPc → Bool
  | .beginning _ | .lookingUp _ | .joining _ | .routing .. | .metering .. | .forwarding .. => true
  | _ => false

/-- The stream of a loop does not lose its mapping while the loop has a request underway, and the
loop takes up no request on a stream that has lost its mapping. -/
structure SparesStream (c : ℕ) (s : State) (a : Action) : Prop where
  removed : ∀ sid, (s.ctrl c).streamId = some sid → (s.ctrl c).pc.underway = true →
    sid ∉ removedStreams s a
  taken : ∀ m sid, a = .ctrl c (.recv m) → (s.ctrl c).streamId = some sid →
    (s.ctrl c).streamBinding = some m.binding → validateControllerMessage m = .ok () →
    trimIsEmpty m.token = false → sid ∈ s.shared.router.mappings

/-- The stream of a loop is mapped while the loop has a request underway. -/
def UnderwayMapped (c : ℕ) (s : State) : Prop :=
  (s.ctrl c).pc.underway = true →
    ∃ sid, (s.ctrl c).streamId = some sid ∧ sid ∈ s.shared.router.mappings

namespace Controller

variable {sh : Shared} {c : ℕ} {l : Controller} {m : ControllerMessage}

/-- A message that a loop takes up on its stream. -/
theorem taken_of_receive (h : (receive sh c l m).loc.pc.underway = true) :
    validateControllerMessage m = .ok () ∧ trimIsEmpty m.token = false ∧
      (∃ sid, l.streamId = some sid) ∧ l.streamBinding = some m.binding ∧
      (receive sh c l m).loc.streamId = l.streamId := by
  unfold receive at h ⊢
  split at h
  · cases h
  · rename_i valid
    rw [valid]
    split_ifs at h ⊢ with ht hs hb
    · cases h
    · cases h
    · cases h
    · exact ⟨rfl, by simpa using ht, Option.ne_none_iff_exists'.1 hs, not_not.1 hb, rfl⟩

/-- How a loop comes to have a request underway: it had one, it takes one up on its stream, or its
stream was just created for it. -/
theorem underway_of_step {cfg : Config} {input : CtrlInput} {next : Next Controller}
    (h : step cfg sh c l input = some next) (underway : next.loc.pc.underway = true) :
    (l.pc.underway = true ∧ next.loc.streamId = l.streamId) ∨
    (∃ m sid, input = .recv m ∧ l.pc = .idle ∧ validateControllerMessage m = .ok () ∧
      trimIsEmpty m.token = false ∧ l.streamId = some sid ∧ l.streamBinding = some m.binding ∧
      next.loc.streamId = some sid) ∨
    ∃ m sid, l.pc = .mapping m ∧ next.loc.streamId = some sid ∧
      (sh.router.createMapping sh.now m.targetDeviceId m.controllerId m.methodName c).1 =
        .ok sid := by
  by_cases hin : ∃ m, input = .recv m
  · obtain ⟨m, rfl⟩ := hin
    simp only [step] at h
    split at h <;> rename_i idle <;> cases h
    obtain ⟨valid, token, ⟨sid, hs⟩, bound, same⟩ := taken_of_receive underway
    exact Or.inr (Or.inl ⟨m, sid, rfl, idle, valid, token, hs, bound, same.trans hs⟩)
  · cases moves_of_step h
    case pulledBound => exact absurd ⟨_, rfl⟩ hin
    case mapped m sid sh' at_pc _ created =>
      exact Or.inr (Or.inr ⟨m, sid, at_pc, rfl, created⟩)
    case begun at_pc _ | missed at_pc _ | opened at_pc _ | routed at_pc _ | metered at_pc _ =>
      exact Or.inl ⟨by rw [at_pc]; rfl, rfl⟩
    case ended pc' sh' at_pc _ =>
      rcases at_pc with ⟨-, rfl⟩ | ⟨-, rfl⟩ | ⟨-, rfl⟩ <;> cases underway
    all_goals cases underway

end Controller

/-! ## Whole runs -/

theorem UnderwayMapped.step {c : ℕ} (U : UnderwayMapped c s) {a : Action} (ok : SparesStream c s a)
    (h : step cfg s a = some s') : UnderwayMapped c s' := by
  have router := router_of_step h
  intro underway
  by_cases moved : ∃ input, a = .ctrl c input
  · obtain ⟨input, rfl⟩ := moved
    obtain ⟨next, hn, rfl⟩ := Option.map_eq_some_iff.1 h
    simp only [State.afterCtrl, Function.update_self] at underway router ⊢
    rw [router]
    rcases Controller.underway_of_step hn underway with
      ⟨before, same⟩ | ⟨m, sid, rfl, idle, valid, token, hs, bound, same⟩ |
      ⟨m, sid, at_pc, hs, created⟩
    · obtain ⟨sid, hs, mapped⟩ := U before
      exact ⟨sid, same.trans hs, mem_routerAfter mapped (ok.removed sid hs before)⟩
    · refine ⟨sid, same, mem_routerAfter (ok.taken m sid rfl hs bound valid token) ?_⟩
      simp [removedStreams, idle]
    · refine ⟨sid, hs, ?_⟩
      simp only [routerAfter, Controller.routerAfter, at_pc]
      exact StreamRouter.creates_createMapping.mem_new created
  · have same := ctrl_of_cases (step_cases h) fun input hin => moved ⟨input, hin⟩
    rw [same] at underway ⊢
    obtain ⟨sid, hs, mapped⟩ := U underway
    exact ⟨sid, hs, router ▸ mem_routerAfter mapped (ok.removed sid hs underway)⟩

theorem underwayMapped_of_reachable {c : ℕ} (h : ReachableWhen cfg (SparesStream c) s) :
    UnderwayMapped c s :=
  Runs.Reach.invariant (fun underway => by cases underway)
    (fun _ _ _ _ U ok hs => U.step ok hs) h

/-- In every run in which the stream of a loop does not lose its mapping while it has a request
underway, and is not used after it lost it, the loop places a request on the outbound channel of a
device only while its stream is mapped. -/
theorem placed_on_mapped_stream {c : ℕ} (h : ReachableWhen cfg (SparesStream c) s) {a : Action}
    (hs : step cfg s a = some s') {i : ℕ} {m : ControllerMessage} {request : DataRequest}
    (placed : .placed c i m request ∈ s'.trace.drop s.trace.length) :
    ∃ sid, (s.ctrl c).streamId = some sid ∧ sid ∈ s.shared.router.mappings := by
  have cases := step_cases hs
  obtain ⟨events, trace⟩ := trace_of_cases cases
  rw [trace, List.drop_left] at placed
  obtain ⟨rx, session, at_pc, -⟩ := places_of_cases cases trace placed
  exact underwayMapped_of_reachable h (by rw [at_pc]; rfl)

/-! ### Concrete runs -/

namespace Small

/-- Loop 0 sends a request to device `"d"` and answers with what the device says. -/
def firstExchange : List Action :=
  register 0 "d" "t" ++ join 0 (request 1) ++ forward 0 ++ data 0 "d" 1 ++ devTicks 0 1 ++ ticks 0 4

/-- Loop 0 is about to place another request. -/
def secondRequest : List Action := joinAgain 0 (request 2) ++ route 0

/-- The stream is idle for a minute and the stale-stream task removes it. -/
def reaped : List Action := [.advance 60, .reaper, .reaper]

/-- Loop 0 places the second request next. -/
def placesSecond (s : State) : Bool :=
  ((step config s (.ctrl 0 .tick)).map fun s' => (s'.trace.drop s.trace.length).filterMap placement)
    == some [(0, 0, request 2, ⟨"conn-1", 2, [1]⟩)]

theorem placesSecond_sound {s : State} (h : placesSecond s = true) :
    ∃ s', step config s (.ctrl 0 .tick) = some s' ∧
      .placed 0 0 (request 2) ⟨"conn-1", 2, [1]⟩ ∈ s'.trace.drop s.trace.length := by
  obtain ⟨s', hs, placed⟩ := Option.map_eq_some_iff.1 (beq_iff_eq.1 h)
  exact ⟨s', hs, mem_of_placement (by rw [placed]; simp)⟩

/-- Loops 1 and 0 answer a request each. The stream of loop 1 is then removed as stale and used
again, and loop 0 is about to place its second request. -/
def reapedBeside : List Action :=
  register 0 "d" "t" ++ join 1 (request 3) ++ forward 1 ++ data 0 "d" 3 ++ devTicks 0 1 ++
    ticks 1 4 ++ Action.advance 30 :: (join 0 (request 1) ++ forward 0 ++ data 0 "d" 1 ++
    devTicks 0 1 ++ ticks 0 4) ++ reaped ++ joinAgain 1 (request 4) ++ forward 1 ++ secondRequest

/-- Loop 0 takes up a request only while its stream is mapped. -/
def takesMapped (s : State) : Action → Bool
  | .ctrl 0 (.recv _) => (s.ctrl 0).streamId.all fun sid =>
      (s.shared.router.mappings.lookup sid).isSome
  | _ => true

/-- The stream of loop 0 is not removed, and is mapped when it is used. -/
def sparesStream (s : State) (a : Action) : Bool :=
  ((s.ctrl 0).streamId.all fun sid => sid ∉ removedStreams s a) && takesMapped s a

theorem sparesStream_sound (s : State) (a : Action) (h : sparesStream s a = true) :
    SparesStream 0 s a := by
  rw [sparesStream, Bool.and_eq_true] at h
  obtain ⟨kept, mapped⟩ := h
  constructor
  · intro sid hs _
    rw [hs, Option.all_some, decide_eq_true_eq] at kept
    exact kept
  · rintro m sid rfl hs - - -
    simp only [takesMapped, hs, Option.all_some] at mapped
    exact AList.lookup_isSome.1 mapped

end Small

/-- A stream that was removed as stale carries another request. -/
theorem reaped_stream_forwards :
    ¬ ∀ cfg s a s' c i m request, Reachable cfg s → step cfg s a = some s' →
      .placed c i m request ∈ s'.trace.drop s.trace.length →
      ∃ sid, (s.ctrl c).streamId = some sid ∧ sid ∈ s.shared.router.mappings := by
  intro claim
  obtain ⟨s, hs, hf⟩ : ∃ s, execute Small.config
      (Small.firstExchange ++ Small.reaped ++ Small.secondRequest) = some s ∧
      (s.shared.router.mappings.keys.isEmpty, Small.placesSecond s) = (true, true) :=
    Option.map_eq_some_iff.1 (by decide +kernel)
  simp only [Prod.mk.injEq, List.isEmpty_iff] at hf
  obtain ⟨unmapped, next⟩ := hf
  obtain ⟨s', hs', placed⟩ := Small.placesSecond_sound next
  obtain ⟨sid, -, mapped⟩ := claim _ s _ s' 0 0 (Small.request 2) ⟨"conn-1", 2, [1]⟩
    (reachable_of_execute hs) hs' placed
  rw [AList.mem_keys, unmapped] at mapped
  cases mapped

theorem second_request_is_on_mapped_stream :
    ∃ s s', ReachableWhen Small.config (SparesStream 0) s ∧
      (s.ctrl 1).streamId = some "strm-1" ∧ "strm-1" ∉ s.shared.router.mappings ∧
      step Small.config s (.ctrl 0 .tick) = some s' ∧
      .placed 0 0 (Small.request 2) ⟨"conn-1", 2, [1]⟩ ∈ s'.trace.drop s.trace.length ∧
      ∃ sid, (s.ctrl 0).streamId = some sid ∧ sid ∈ s.shared.router.mappings := by
  obtain ⟨s, hs, hf⟩ : ∃ s,
      executeWhen Small.config Small.sparesStream Small.reapedBeside = some s ∧
      ((s.ctrl 1).streamId, s.shared.router.mappings.lookup "strm-1" |>.isNone,
        Small.placesSecond s) = (some "strm-1", true, true) :=
    Option.map_eq_some_iff.1 (by decide +kernel)
  simp only [Prod.mk.injEq, Option.isNone_iff_eq_none, AList.lookup_eq_none] at hf
  obtain ⟨stream, unmapped, next⟩ := hf
  obtain ⟨s', hs', placed⟩ := Small.placesSecond_sound next
  have run : ReachableWhen Small.config (SparesStream 0) s :=
    reachableWhen_of_execute (fun s a _ => Small.sparesStream_sound s a) hs
  exact ⟨s, s', run, stream, unmapped, hs', placed, placed_on_mapped_stream run hs' placed⟩

end GrpcRelay
