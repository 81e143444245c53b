import GrpcRelay.Buckets
import GrpcRelay.Streams

/-!
# Runs that come back to a stream id

The counter of the stream router wraps around, so a run that asks for streams often enough draws an
id that another loop still has.  The requests that are refused take a number too: a single loop can
draw all numbers while the limiter rests between its requests (`Poised.succ`).
-/

namespace GrpcRelay

open StreamRouter

namespace RateLimiter

variable {rl : RateLimiter} {now now' : Instant} {rate : ℚ}

/-- The bucket was last refilled before `now`. -/
structure Past (b : Bucket) (now : Instant) : Prop where
  tokens : 0 ≤ b.tokens
  last : b.last ≤ now

/-- No rate is below one, and all buckets were last refilled before `now`. -/
structure Rested (rl : RateLimiter) (now : Instant) : Prop where
  rates : 1 ≤ rl.globalRate ∧ 1 ≤ rl.deviceRate ∧ 1 ≤ rl.controllerRate
  past : ∀ key b, rl.buckets.lookup key = some b → Past b now

/-- A bucket that has rested for a second lets a request through. -/
theorem checkKey_of_past (rl : RateLimiter) (key : String) (one : 1 ≤ rate) (later : now + 1 ≤ now')
    (past : ∀ b, rl.buckets.lookup key = some b → Past b now) :
    ∃ b, rl.checkKey key rate now' = (true, { rl with buckets := rl.buckets.insert key b }) ∧
      Past b now' := by
  unfold checkKey
  rw [if_neg (by linarith)]
  split
  · rename_i b found
    obtain ⟨tokens, last⟩ := past b found
    have elapsed : 1 ≤ saturatingDurationSince now' b.last := by
      rw [saturatingDurationSince, le_max_iff]
      exact Or.inr (by linarith)
    have positive : 0 < saturatingDurationSince now' b.last := by linarith
    have enough : 1 ≤ b.tokens + saturatingDurationSince now' b.last * rate := by
      have := one_le_mul_of_one_le_of_one_le elapsed one
      linarith
    dsimp only
    rw [refill, if_pos positive, if_pos (le_min one enough)]
    exact ⟨_, rfl, sub_nonneg.2 (le_min one enough), le_rfl⟩
  · exact ⟨_, rfl, le_max_right _ _, le_rfl⟩

theorem rested_maybeCleanup (R : Rested rl now) (now' : Instant) :
    Rested (rl.maybeCleanup now') now := by
  have rates := sameRates_maybeCleanup rl now'
  refine ⟨?_, fun key b found => R.past key b ?_⟩
  · rw [rates.global, rates.device, rates.controller]
    exact R.rates
  · rcases cleaned rl now' key with same | ⟨gone, -⟩
    · rwa [same] at found
    · rw [gone] at found
      cases found

/-- A second after the last request a request is allowed. -/
theorem allow_of_rested (R : Rested rl now) (later : now + 1 ≤ now') (d c : String) :
    (rl.allow now' d c).1 = true ∧ Rested (rl.allow now' d c).2 now' := by
  have C := rested_maybeCleanup R now'
  have older {b : Bucket} (P : Past b now) : Past b now' := ⟨P.tokens, P.last.trans (by linarith)⟩
  have keys (k k' : RateKey) (h : k ≠ k') : k.key ≠ k'.key := fun eq => h (RateKey.key_inj.1 eq)
  have controller_ne_global : "controller:" ++ c ≠ "global" :=
    keys (.controller c) .global (by simp)
  have controller_ne_device : "controller:" ++ c ≠ "device:" ++ d :=
    keys (.controller c) (.device d) (by simp)
  have device_ne_global : "device:" ++ d ≠ "global" := keys (.device d) .global (by simp)
  unfold allow
  generalize rl.maybeCleanup now' = rl at C
  dsimp only
  obtain ⟨b₁, check₁, past₁⟩ := checkKey_of_past rl "global" C.rates.1 later (C.past _)
  rw [check₁]
  dsimp only
  obtain ⟨b₂, check₂, past₂⟩ := checkKey_of_past
    { rl with buckets := rl.buckets.insert "global" b₁ } ("device:" ++ d) C.rates.2.1 later
    fun b found => C.past _ b (by
      rwa [DashMap.lookup_insert_ite, if_neg device_ne_global] at found)
  rw [check₂]
  dsimp only
  obtain ⟨b₃, check₃, past₃⟩ := checkKey_of_past
    { rl with buckets := (rl.buckets.insert "global" b₁).insert ("device:" ++ d) b₂ }
    ("controller:" ++ c) C.rates.2.2 later fun b found => C.past _ b (by
      rwa [DashMap.lookup_insert_ite, if_neg controller_ne_device, DashMap.lookup_insert_ite,
        if_neg controller_ne_global] at found)
  rw [check₃]
  refine ⟨rfl, C.rates, fun key b found => ?_⟩
  simp only [DashMap.lookup_insert_ite] at found
  split_ifs at found
  · cases found
    exact past₃
  · cases found
    exact past₂
  · cases found
    exact past₁
  · exact older (C.past key b found)

end RateLimiter

/-! ## Creating a stream -/

namespace StreamRouter

variable {r : StreamRouter} {d c : String}

/-- A device without room. -/
theorem createMapping_of_full (now : Instant) (c methodName : String) (tx : ControllerTx)
    (mem : d ∈ r.deviceToStreams)
    (full : r.maxActiveStreams ≤ Index.count r.deviceToStreams d) :
    ∃ err : StreamRouterError, err.kind = .maxStreamsExceeded ∧
      r.createMapping now d c methodName tx = (.error err, r.counted) := by
  obtain ⟨current, tracked⟩ : ∃ current, track r.deviceToStreams d
      ("strm-" ++ toString r.counter) r.maxActiveStreams = .error current := track_of_full mem full
  refine ⟨maxStreamsExceeded "device" d current r.maxActiveStreams, rfl, ?_⟩
  simp only [createMapping, generateStreamId, tracked]
  rfl

/-- A device and a controller with room. -/
theorem createMapping_of_room (now : Instant) (methodName : String) (tx : ControllerTx)
    (device : d ∈ r.deviceToStreams → Index.count r.deviceToStreams d < r.maxActiveStreams)
    (controller : c ∈ r.controllerToStreams →
      Index.count r.controllerToStreams c < r.maxConcurrentStreamsPerController) :
    r.createMapping now d c methodName tx = (.ok r.nextStreamId, { r.counted with
      deviceToStreams := Index.insert r.deviceToStreams d r.nextStreamId
      controllerToStreams := Index.insert r.controllerToStreams c r.nextStreamId
      mappings := r.mappings.insert r.nextStreamId (r.newMapping now d c methodName tx) }) := by
  simp only [createMapping, generateStreamId]
  rw [track_of_room device]
  dsimp only
  rw [track_of_room controller]
  rfl

end StreamRouter

/-! ## Runs of one loop -/

/-- Steps of loop `c` alone, and of the clock. -/
structure Solo (cfg : Config) (c : ℕ) (s s' : State) : Prop where
  reach : Runs.Reach (step cfg) (fun _ _ => True) s s'
  others : ∀ c', c' ≠ c → s'.ctrl c' = s.ctrl c'

section

variable {cfg : Config} {s s' s'' : State} {c : ℕ} {l : Controller} {m : ControllerMessage}

theorem Solo.trans (h : Solo cfg c s s') (h' : Solo cfg c s' s'') : Solo cfg c s s'' :=
  ⟨h.reach.trans h'.reach, fun c' hc => (h'.others c' hc).trans (h.others c' hc)⟩

theorem solo_advance {now : Instant} (later : s.shared.now ≤ now) :
    Solo cfg c s { s with shared := { s.shared with now := now } } where
  reach := .next (.advance now) .start trivial (if_pos later)
  others _ _ := rfl

/-- A step of the loop. -/
theorem solo_ctrl (cfg : Config) (input : CtrlInput) (sh' : Shared) (l' : Controller)
    {sh : Shared} {events : List Event} (shared : s.shared = sh) (loc : s.ctrl c = l)
    (h : Controller.step cfg sh c l input = some ⟨sh', l', events⟩) :
    ∃ s', Solo cfg c s s' ∧ s'.shared = sh' ∧ s'.ctrl c = l' := by
  refine ⟨s.afterCtrl c ⟨sh', l', events⟩, ⟨.next (.ctrl c input) .start trivial ?_, ?_⟩, rfl, ?_⟩
  · simp only [step, shared, loc, h, Option.map_some]
  · exact fun c' hc => Function.update_of_ne hc ..
  · exact Function.update_self ..

/-- No device is known, and no request is in flight. -/
structure Still (sh : Shared) : Prop where
  uncached : ∀ key, sh.cache.lookup key = none
  offline : ∀ d, sh.relay.sessionsByDeviceId.lookup d = none
  unopened : ∀ key, sh.table.entries.lookup key = none

theorem Still.quiet {sh sh' : Shared} (S : Still sh) (quiet : sh.Quiet sh') : Still sh' := by
  refine ⟨fun key => ?_, fun d => ?_, fun key => ?_⟩
  · rw [quiet.cache]
    exact S.uncached key
  · rw [quiet.sessions]
    exact S.offline d
  · rw [Shared.table, quiet.inflight]
    exact S.unopened key

/-- Authentication is off, the rate limiter has rested, and no device is known. -/
structure Calm (sh : Shared) : Prop extends Still sh where
  unguarded : sh.auth.enabled = false
  rested : sh.rateLimiter.Rested sh.now

/-- Without authentication every controller may send. -/
theorem authenticate_of_unguarded (c : ℕ) (l : Controller) (m : ControllerMessage) (sh : Shared)
    (off : cfg.auth.enabled = false) (unguarded : sh.auth.enabled = false) :
    ∃ sh' events, Controller.authenticate cfg sh c l m =
        ⟨sh', { l with controllerConnected := true, pc := .limiting m }, events⟩ ∧
      sh.Quiet sh' ∧ sh'.router = sh.router ∧ sh'.rateLimiter = sh.rateLimiter := by
  have policy (p : ControllerPrincipal) (d : DevicePrincipal) :
      (RbacPolicyEngine.new cfg.auth).authorizeControllerToDevice p d m.methodName = .ok () := by
    simp [RbacPolicyEngine.authorizeControllerToDevice, RbacPolicyEngine.new, off]
  simp only [Controller.authenticate, AuthService.authenticateController, unguarded, Bool.not_false,
    if_true, Controller.connect]
  cases connected : l.controllerConnected with
  | true =>
    simp only [AuthService.getDevicePrincipalById, unguarded, Bool.not_false, if_true, policy,
      Controller.goto]
    exact ⟨_, _, by rw [connected], .refl sh, rfl, rfl⟩
  | false =>
    simp only [AuthService.getDevicePrincipalById, unguarded, Bool.not_false, if_true, policy,
      Controller.goto, Bool.false_eq_true, if_false]
    exact ⟨_, _, rfl, ⟨rfl, rfl, rfl, rfl, rfl, rfl⟩, rfl, rfl⟩

/-- A loop without a stream comes to the creation of one. -/
theorem solo_ask (off : cfg.auth.enabled = false) {binding : Option (String × String × String)}
    {connected : Bool} (C : Calm s.shared) (loc : s.ctrl c = ⟨none, binding, connected, .idle⟩)
    (valid : validateControllerMessage m = .ok ()) (token : trimIsEmpty m.token = false) :
    ∃ s', Solo cfg c s s' ∧ Calm s'.shared ∧ s'.shared.router = s.shared.router ∧
      s'.ctrl c = ⟨none, binding, true, .mapping m⟩ := by
  have later : s.shared.now ≤ s.shared.now + 1 := by linarith
  have advance : Solo cfg c s _ := solo_advance later
  obtain ⟨s₁, solo₁, shared₁, loc₁⟩ := solo_ctrl cfg (.recv m)
    { s.shared with now := s.shared.now + 1 } ⟨none, binding, connected, .authenticating m⟩
    (s := { s with shared := { s.shared with now := s.shared.now + 1 } }) rfl loc (by
      simp only [Controller.step, Controller.receive, valid, token, Controller.goto, if_true,
        Bool.false_eq_true, if_false]
      rfl)
  obtain ⟨sh₂, events, authenticates, quiet, router₂, limiter₂⟩ := authenticate_of_unguarded c
    ⟨none, binding, connected, .authenticating m⟩ m { s.shared with now := s.shared.now + 1 } off
    C.unguarded
  obtain ⟨s₂, solo₂, shared₂, loc₂⟩ := solo_ctrl cfg .tick sh₂
    ⟨none, binding, true, .limiting m⟩ shared₁ loc₁ (congrArg some authenticates)
  obtain ⟨allowed, rested⟩ := RateLimiter.allow_of_rested C.rested le_rfl m.targetDeviceId
    m.controllerId
  obtain ⟨limiter₃, allows⟩ : ∃ limiter, sh₂.rateLimiter.allow sh₂.now m.targetDeviceId
      m.controllerId = (true, limiter) := by
    rw [limiter₂, quiet.now]
    exact ⟨_, Prod.ext allowed rfl⟩
  obtain ⟨s₃, solo₃, shared₃, loc₃⟩ := solo_ctrl cfg .tick { sh₂ with rateLimiter := limiter₃ }
    ⟨none, binding, true, .mapping m⟩ shared₂ loc₂ (by
      simp only [Controller.step, Controller.limit, allows, Controller.goto]
      rfl)
  refine ⟨s₃, ((advance.trans solo₁).trans solo₂).trans solo₃, ?_, ?_, loc₃⟩
  · rw [shared₃]
    refine ⟨?_, ?_, ?_⟩
    · have still : Still { s.shared with now := s.shared.now + 1 } :=
        ⟨C.uncached, C.offline, C.unopened⟩
      have still₂ := still.quiet quiet
      exact ⟨still₂.uncached, still₂.offline, still₂.unopened⟩
    · rw [quiet.auth]
      exact C.unguarded
    · rw [limiter₂, quiet.now] at allows
      have := congrArg (·.2) allows
      dsimp only at this ⊢
      rw [← this, quiet.now]
      exact rested
  · rw [shared₃]
    exact router₂

/-- A loop asks for a stream of a device without room. -/
theorem solo_refused (cfg : Config) (m : ControllerMessage) (off : cfg.auth.enabled = false)
    {binding : Option (String × String × String)} {connected : Bool} (C : Calm s.shared)
    (loc : s.ctrl c = ⟨none, binding, connected, .idle⟩)
    (valid : validateControllerMessage m = .ok ()) (token : trimIsEmpty m.token = false)
    (mem : m.targetDeviceId ∈ s.shared.router.deviceToStreams)
    (full : s.shared.router.maxActiveStreams ≤
      Index.count s.shared.router.deviceToStreams m.targetDeviceId) :
    ∃ s', Solo cfg c s s' ∧ Calm s'.shared ∧ s'.shared.router = s.shared.router.counted ∧
      s'.ctrl c = ⟨none, binding, true, .idle⟩ := by
  obtain ⟨s₁, solo₁, C₁, router₁, loc₁⟩ := solo_ask off C loc valid token
  obtain ⟨err, kind, refused⟩ := createMapping_of_full s₁.shared.now m.controllerId m.methodName c
    mem full
  obtain ⟨s₂, solo₂, shared₂, loc₂⟩ := solo_ctrl cfg .tick
    { s₁.shared with router := s.shared.router.counted } ⟨none, binding, true, .idle⟩ rfl loc₁ (by
      simp only [Controller.step, Controller.createMapping, router₁, refused, if_pos kind,
        Controller.refuse, Controller.goto]
      rfl)
  refine ⟨s₂, solo₁.trans solo₂, ?_, ?_, loc₂⟩
  · rw [shared₂]
    exact ⟨⟨C₁.uncached, C₁.offline, C₁.unopened⟩, C₁.unguarded, C₁.rested⟩
  · rw [shared₂]

/-- A loop asks for a stream of a device with room. -/
theorem solo_created (cfg : Config) (m : ControllerMessage) (off : cfg.auth.enabled = false)
    {binding : Option (String × String × String)} {connected : Bool} (C : Calm s.shared)
    (loc : s.ctrl c = ⟨none, binding, connected, .idle⟩)
    (valid : validateControllerMessage m = .ok ()) (token : trimIsEmpty m.token = false)
    (device : m.targetDeviceId ∈ s.shared.router.deviceToStreams →
      Index.count s.shared.router.deviceToStreams m.targetDeviceId <
        s.shared.router.maxActiveStreams)
    (controller : m.controllerId ∈ s.shared.router.controllerToStreams →
      Index.count s.shared.router.controllerToStreams m.controllerId <
        s.shared.router.maxConcurrentStreamsPerController) :
    ∃ s' now, Solo cfg c s s' ∧ Calm s'.shared ∧
      s'.shared.router = (s.shared.router.createMapping now m.targetDeviceId m.controllerId
        m.methodName c).2 ∧
      s'.ctrl c = ⟨some s.shared.router.nextStreamId, some m.binding, true, .beginning m⟩ := by
  obtain ⟨s₁, solo₁, C₁, router₁, loc₁⟩ := solo_ask off C loc valid token
  have created := createMapping_of_room s₁.shared.now m.methodName c device controller
  obtain ⟨s₂, solo₂, shared₂, loc₂⟩ := solo_ctrl cfg .tick
    { s₁.shared with router := (s.shared.router.createMapping s₁.shared.now m.targetDeviceId
      m.controllerId m.methodName c).2 }
    ⟨some s.shared.router.nextStreamId, some m.binding, true, .beginning m⟩ rfl loc₁ (by
      simp only [Controller.step, Controller.createMapping, router₁, created]
      rfl)
  refine ⟨s₂, s₁.shared.now, solo₁.trans solo₂, ?_, ?_, loc₂⟩
  · rw [shared₂]
    exact ⟨⟨C₁.uncached, C₁.offline, C₁.unopened⟩, C₁.unguarded, C₁.rested⟩
  · rw [shared₂]

/-- The router has the same streams in the same sets. -/
structure SameStreams (r r' : StreamRouter) : Prop where
  devices : r'.deviceToStreams = r.deviceToStreams
  mappings : ∀ sid, (r'.mappings.lookup sid).map (·.deviceId) =
    (r.mappings.lookup sid).map (·.deviceId)

theorem SameStreams.trans {r r' r'' : StreamRouter} (h : SameStreams r r')
    (h' : SameStreams r' r'') : SameStreams r r'' :=
  ⟨h'.devices.trans h.devices, fun sid => (h'.mappings sid).trans (h.mappings sid)⟩

theorem SameStreams.modify {r : StreamRouter} {sid : String} {g : StreamMapping → StreamMapping}
    (device : ∀ m, (g m).deviceId = m.deviceId) :
    SameStreams r { r with mappings := DashMap.modify r.mappings sid g } := by
  refine ⟨rfl, fun sid' => ?_⟩
  rw [DashMap.lookup_modify]
  split_ifs
  · cases r.mappings.lookup sid' with
    | none => rfl
    | some m => simp [device]
  · rfl

theorem sameStreams_beginRequest (sh : Shared) (l : Controller) :
    SameStreams sh.router (Controller.beginRequest sh l).router := by
  unfold Controller.beginRequest
  split
  · exact .modify fun _ => rfl
  · exact ⟨rfl, fun _ => rfl⟩

theorem sameStreams_finishRequest (sh : Shared) (l : Controller) :
    SameStreams sh.router (Controller.finishRequest sh l).router := by
  unfold Controller.finishRequest
  split
  · exact .modify fun _ => rfl
  · exact ⟨rfl, fun _ => rfl⟩

/-- A new forwarder joins the entry that it opens. -/
theorem join_of_absent (cfg : Config) {sh : Shared}
    (absent : sh.table.entries.lookup m.key = none) :
    ∃ sh' rx events, Controller.join cfg sh l m = ⟨sh', l.goto (.routing m rx), events⟩ ∧
      sh'.router = sh.router ∧ sh'.cache = sh.cache ∧
      sh'.relay.sessionsByDeviceId = sh.relay.sessionsByDeviceId ∧
      sh'.table.entries = sh.table.entries.insert m.key sh.table.cells := by
  obtain ⟨t, ht, entries⟩ : ∃ t, sh.relay.inflightBySequence.join
      (m.targetDeviceId, m.sequenceNumber) m.targetDeviceId =
        (t, sh.table.cells, sh.table.receivers, true) ∧
      t.entries = sh.table.entries.insert m.key sh.table.cells := by
    simp only [Shared.table, ControllerMessage.key] at absent
    simp only [SingleFlight.Table.join, absent]
    exact ⟨_, rfl, rfl⟩
  simp only [Controller.join, RelayState.ensureInflightWaiter, ht]
  exact ⟨_, _, _, rfl, rfl, rfl, rfl, entries⟩

/-- A request to a device without a session comes to an end. -/
theorem solo_offline (cfg : Config) (S : Still s.shared)
    (loc : s.ctrl c = l.goto (.beginning m)) :
    ∃ s', Solo cfg c s s' ∧ s'.ctrl c = l.goto .idle ∧ Still s'.shared ∧
      SameStreams s.shared.router s'.shared.router := by
  have quiet := Controller.beginRequest_quiet s.shared l
  have S₁ := S.quiet quiet
  have same₁ := sameStreams_beginRequest s.shared l
  generalize begun : Controller.beginRequest s.shared l = sh₁ at quiet S₁ same₁
  obtain ⟨s₁, solo₁, shared₁, loc₁⟩ := solo_ctrl cfg .tick sh₁ (l.goto (.lookingUp m)) rfl loc
    (by rw [← begun]; rfl)
  obtain ⟨s₂, solo₂, shared₂, loc₂⟩ := solo_ctrl cfg .tick sh₁ (l.goto (.joining m)) shared₁ loc₁
    (by
      simp only [Controller.step, Controller.goto, Controller.lookUp, S₁.uncached]
      rfl)
  obtain ⟨sh₃, rx, events, joins, router₃, cache₃, sessions₃, entries₃⟩ :=
    join_of_absent cfg (l := l.goto (.joining m)) (S₁.unopened m.key)
  obtain ⟨s₃, solo₃, shared₃, loc₃⟩ := solo_ctrl cfg .tick sh₃ (l.goto (.routing m rx)) shared₂ loc₂
    (congrArg some joins)
  obtain ⟨s₄, solo₄, shared₄, loc₄⟩ := solo_ctrl cfg .tick sh₃ (l.goto (.offlineTaking m rx))
    shared₃ loc₃ (by
      simp only [Controller.step, Controller.goto, Controller.route, sessions₃, S₁.offline]
      rfl)
  have taken : sh₃.relay.takeInflight m.targetDeviceId m.sequenceNumber =
      ({ sh₃.relay with inflightBySequence :=
        { sh₃.table with entries := sh₃.table.entries.erase m.key } }, some sh₁.table.cells) := by
    have found : sh₃.table.entries.lookup m.key = some sh₁.table.cells := by
      rw [entries₃, AList.lookup_insert]
    simp only [Shared.table, ControllerMessage.key] at found
    simp [RelayState.takeInflight, SingleFlight.Table.take, found, ControllerMessage.key]
  obtain ⟨s₅, solo₅, shared₅, loc₅⟩ := solo_ctrl cfg .tick _
    (l.goto (.offlineCompleting m sh₁.table.cells)) shared₄ loc₄ (by
      simp only [Controller.step, Controller.goto, Controller.takeOffline, taken]
      rfl)
  obtain ⟨s₆, solo₆, shared₆, loc₆⟩ := solo_ctrl cfg .tick _ (l.goto (.offlineFinishing m)) shared₅
    loc₅ rfl
  obtain ⟨s₇, solo₇, shared₇, loc₇⟩ := solo_ctrl cfg .tick _ (l.goto .idle) shared₆ loc₆ rfl
  have router₆ : s₆.shared.router = sh₁.router := by
    rw [shared₆]
    exact router₃
  have same₇ : SameStreams sh₁.router s₇.shared.router := by
    rw [← router₆, shared₇, ← shared₆]
    exact sameStreams_finishRequest s₆.shared _
  refine ⟨s₇, ?_, loc₇, ?_, same₁.trans same₇⟩
  · exact (((((solo₁.trans solo₂).trans solo₃).trans solo₄).trans solo₅).trans solo₆).trans solo₇
  · rw [shared₇]
    refine Still.quiet ⟨fun key => ?_, fun d => ?_, fun key => ?_⟩
      (Controller.finishRequest_quiet _ _)
    · dsimp only
      rw [cache₃]
      exact S₁.uncached key
    · show sh₃.relay.sessionsByDeviceId.lookup d = none
      rw [sessions₃]
      exact S₁.offline d
    · show (sh₃.table.entries.erase m.key).lookup key = none
      rw [DashMap.lookup_erase_ite, entries₃, DashMap.lookup_insert_ite]
      split_ifs
      · rfl
      · exact S₁.unopened key

/-- A loop ends: it removes its stream and its connection. -/
theorem solo_close (cfg : Config) {sid : String} (loc : s.ctrl c = l.goto .idle)
    (own : l.streamId = some sid) (connected : l.controllerConnected = true) :
    ∃ s', Solo cfg c s s' ∧ (s'.ctrl c).pc = .done ∧
      s'.shared.router = (s.shared.router.removeMapping sid).2 := by
  obtain ⟨s₁, solo₁, shared₁, loc₁⟩ := solo_ctrl cfg .eof s.shared (l.goto .closing) rfl loc rfl
  obtain ⟨s₂, solo₂, shared₂, loc₂⟩ := solo_ctrl cfg .tick
    { s.shared with router := (s.shared.router.removeMapping sid).2 } (l.goto .disconnecting)
    shared₁ loc₁ (by
      simp only [Controller.step, Controller.goto, Controller.close, own]
      rfl)
  obtain ⟨s₃, solo₃, shared₃, loc₃⟩ := solo_ctrl cfg .tick
    { s.shared with
      router := (s.shared.router.removeMapping sid).2
      relay := s.shared.relay.decrementControllerConnections } (l.goto .done) shared₂ loc₂ (by
      simp only [Controller.step, Controller.goto, Controller.disconnect, connected]
      rfl)
  refine ⟨s₃, (solo₁.trans solo₂).trans solo₃, ?_, ?_⟩
  · rw [loc₃]
    rfl
  · rw [shared₃]

end

/-! ## A run that comes back to a stream id -/

namespace Small

/-- A device has room for one stream. -/
def oneStream : Config := { config with stream := ⟨60, 1, 100⟩ }

/-- The request that gets the first stream. -/
def firstRequest : ControllerMessage := ⟨"c", "t", "d", "M", 1, [1]⟩

/-- Device `"d"` has no room for a stream of controller `"x"`. -/
def refusedRequest : ControllerMessage := ⟨"x", "t", "d", "M", 1, [1]⟩

/-- The request of the streams that take the counter on. -/
def repeatingRequest : ControllerMessage := ⟨"x", "t", "e", "M", 1, [1]⟩

/-- Loop 0 has the first stream, and the counter stands at `n`. -/
structure Poised (n : ℕ) (s : State) : Prop where
  reach : Reachable oneStream s
  calm : Calm s.shared
  counter : s.shared.router.counter = n % UInt64.size
  cap : s.shared.router.maxActiveStreams = 1
  has : Index.Has s.shared.router.deviceToStreams "d" "strm-1"
  device : "e" ∉ s.shared.router.deviceToStreams
  controller : "x" ∉ s.shared.router.controllerToStreams
  first : s.ctrl 0 = ⟨some "strm-1", some firstRequest.binding, true, .beginning firstRequest⟩
  second : ∃ connected, s.ctrl 1 = ⟨none, none, connected, .idle⟩
  rest : ∀ c, 1 < c → s.ctrl c = ⟨none, none, false, .idle⟩

theorem exists_poised : ∃ s, Poised 2 s := by
  have calm : Calm (State.init oneStream).shared := by
    refine ⟨⟨fun _ => rfl, fun _ => rfl, fun _ => rfl⟩, rfl, ?_, ?_⟩
    · decide +kernel
    · intro key b found
      cases found
  have empty (key : String) : key ∉ (∅ : Index String String) := AList.notMem_empty key
  obtain ⟨s, now, solo, C, router, loc⟩ := solo_created (c := 0) oneStream firstRequest rfl calm rfl
    (by decide) (by decide) (fun mem => absurd mem (empty _)) fun mem => absurd mem (empty _)
  rw [createMapping_of_room _ _ _ (fun mem => absurd mem (empty _))
    fun mem => absurd mem (empty _)] at router
  refine ⟨s, solo.reach, C, ?_, ?_, ?_, ?_, ?_, ?_, ⟨false, ?_⟩, fun c hc => ?_⟩
  · rw [router]
    rfl
  · rw [router]
    rfl
  · rw [router]
    exact Index.has_insert.2 (Or.inl ⟨rfl, rfl⟩)
  · rw [router]
    intro mem
    rcases (AList.mem_insert _).1 mem with same | mem
    · exact absurd same (by decide)
    · exact empty _ mem
  · rw [router]
    intro mem
    rcases (AList.mem_insert _).1 mem with same | mem
    · exact absurd same (by decide)
    · exact empty _ mem
  · rw [loc]
    rfl
  · rw [solo.others 1 one_ne_zero]
    rfl
  · rw [solo.others c (by omega)]
    rfl

/-- A request that is refused takes a number. -/
theorem Poised.succ {n : ℕ} {s : State} (P : Poised n s) : ∃ s', Poised (n + 1) s' := by
  obtain ⟨connected, loc⟩ := P.second
  obtain ⟨s', solo, C, router, loc'⟩ := solo_refused oneStream refusedRequest rfl P.calm loc
    (by decide) (by decide) (Index.mem_of_has P.has) (P.cap.trans_le (Index.count_pos P.has))
  refine ⟨s', P.reach.trans solo.reach, C, ?_, ?_, ?_, ?_, ?_, ?_, ⟨true, loc'⟩, fun c hc => ?_⟩
  · rw [router, counted, P.counter, Nat.mod_add_mod]
  · rw [router]
    exact P.cap
  · rw [router]
    exact P.has
  · rw [router]
    exact P.device
  · rw [router]
    exact P.controller
  · rw [solo.others 0 zero_ne_one]
    exact P.first
  · rw [solo.others c (by omega)]
    exact P.rest c hc

theorem exists_poised_of_le {n : ℕ} (h : 2 ≤ n) : ∃ s, Poised n s := by
  induction n, h using Nat.le_induction with
  | base => exact exists_poised
  | succ n _ ih =>
    obtain ⟨s, P⟩ := ih
    exact P.succ

/-- Two loops have the first stream id, and its mapping is that of loop 1. -/
structure Repeated (s : State) : Prop where
  reach : Reachable oneStream s
  calm : Calm s.shared
  has : Index.Has s.shared.router.deviceToStreams "d" "strm-1"
  mapped : ∃ now, s.shared.router.mappings.lookup "strm-1" =
    some ⟨"strm-1", "e", "x", "M", now, now, 0, 1⟩
  first : s.ctrl 0 = ⟨some "strm-1", some firstRequest.binding, true, .beginning firstRequest⟩
  second : s.ctrl 1 =
    ⟨some "strm-1", some repeatingRequest.binding, true, .beginning repeatingRequest⟩
  rest : ∀ c, 1 < c → s.ctrl c = ⟨none, none, false, .idle⟩

theorem exists_repeated : ∃ s, Repeated s := by
  obtain ⟨s, P⟩ := exists_poised_of_le (n := UInt64.size + 1) (by decide)
  obtain ⟨connected, loc⟩ := P.second
  have next : s.shared.router.nextStreamId = "strm-1" := by
    rw [nextStreamId, P.counter]
    decide +kernel
  have device : repeatingRequest.targetDeviceId ∉ s.shared.router.deviceToStreams := P.device
  have controller : repeatingRequest.controllerId ∉ s.shared.router.controllerToStreams :=
    P.controller
  obtain ⟨s', now, solo, C, router, loc'⟩ := solo_created oneStream repeatingRequest rfl P.calm loc
    (by decide) (by decide) (fun mem => absurd mem device)
    fun mem => absurd mem controller
  rw [createMapping_of_room _ _ _ (fun mem => absurd mem device)
    fun mem => absurd mem controller, next] at router
  refine ⟨s', P.reach.trans solo.reach, C, ?_, ⟨now, ?_⟩, ?_, ?_, fun c hc => ?_⟩
  · rw [router]
    exact Index.has_insert.2 (Or.inr P.has)
  · rw [router, AList.lookup_insert, newMapping, next]
    rfl
  · rw [solo.others 0 zero_ne_one]
    exact P.first
  · rw [loc', next]
  · rw [solo.others c (by omega)]
    exact P.rest c hc

/-- From there both loops come to their end, and the id stays in the set of the first device. -/
theorem Repeated.left {s : State} (R : Repeated s) :
    ∃ s', Reachable oneStream s' ∧ (s'.ctrl 0).pc = .done ∧ (s'.ctrl 1).pc = .done ∧
      (∀ c, 1 < c → s'.ctrl c = ⟨none, none, false, .idle⟩) ∧
      Index.Has s'.shared.router.deviceToStreams "d" "strm-1" := by
  obtain ⟨s₁, solo₁, loc₁, still₁, same₁⟩ := solo_offline oneStream R.calm.toStill (c := 1)
    (l := ⟨some "strm-1", some repeatingRequest.binding, true, .idle⟩) R.second
  have first₁ := (solo₁.others 0 zero_ne_one).trans R.first
  obtain ⟨s₂, solo₂, loc₂, -, same₂⟩ := solo_offline oneStream still₁ (c := 0)
    (l := ⟨some "strm-1", some firstRequest.binding, true, .idle⟩) first₁
  have second₂ := (solo₂.others 1 one_ne_zero).trans loc₁
  obtain ⟨s₃, solo₃, done₃, router₃⟩ := solo_close oneStream second₂ rfl rfl
  have first₃ := (solo₃.others 0 zero_ne_one).trans loc₂
  obtain ⟨s₄, solo₄, done₄, router₄⟩ := solo_close oneStream first₃ rfl rfl
  refine ⟨s₄, ?_, done₄, ?_, fun c hc => ?_, ?_⟩
  · exact (((R.reach.trans solo₁.reach).trans solo₂.reach).trans solo₃.reach).trans solo₄.reach
  · rw [solo₄.others 1 one_ne_zero]
    exact done₃
  · rw [solo₄.others c (by omega), solo₃.others c (by omega), solo₂.others c (by omega),
      solo₁.others c (by omega)]
    exact R.rest c hc
  · have same := same₁.trans same₂
    -- The mapping that loop 1 removes is that of device `"e"`; loop 0 finds none.
    obtain ⟨now, mapped⟩ := R.mapped
    obtain ⟨μ, found, device⟩ : ∃ μ, s₂.shared.router.mappings.lookup "strm-1" = some μ ∧
        μ.deviceId = "e" := by
      have := same.mappings "strm-1"
      rw [mapped] at this
      obtain ⟨μ, found, device⟩ := Option.map_eq_some_iff.1 this
      exact ⟨μ, found, device⟩
    rw [removeMapping, found] at router₃
    have gone : s₃.shared.router.mappings.lookup "strm-1" = none := by
      rw [router₃]
      exact AList.lookup_erase _ _
    rw [removeMapping, gone] at router₄
    rw [router₄, router₃]
    dsimp only
    rw [untrack_eq, device, same.devices]
    exact Index.has_remove.2 ⟨R.has, by simp⟩

end Small

end GrpcRelay
