import GrpcRelay.Moves

/-!
# Authorization on the forwarding path

The checks of a loop run on the message that creates its stream mapping; later messages are only
compared with the saved binding.  `Clearance` follows the checks through the loop, and
`forwarded_is_authorized` says what they amount to: a request reaches a device's outbound channel
only from a message of the stream whose device, controller and method are those of a message that
passed every check on the same stream.
-/

namespace GrpcRelay

/-! ## What the checks found -/

/-- The answers of the authentication and the policy to a message. -/
structure Grants (cfg : Config) (auth : AuthService) (now : Instant) (m : ControllerMessage)
    (controller : ControllerPrincipal) (device : DevicePrincipal) : Prop where
  enabled : auth.enabled = cfg.auth.enabled
  authenticated : auth.authenticateController cfg.decode now m.controllerId m.token =
    .ok controller
  known : auth.getDevicePrincipalById m.targetDeviceId = .ok device
  permitted : (RbacPolicyEngine.new cfg.auth).authorizeControllerToDevice controller device
    m.methodName = .ok ()

/-- Loop `c` pulled `m` and then found it authentic and permitted. -/
def Authorized (cfg : Config) (past : List Event) (c : ℕ) (m : ControllerMessage) : Prop :=
  ∃ auth now controller device,
    [.pulled c m, .authorized c m auth now controller device].Sublist past ∧
      Grants cfg auth now m controller device

/-- Then the rate limiter allowed it. -/
def Allowed (cfg : Config) (past : List Event) (c : ℕ) (m : ControllerMessage) : Prop :=
  ∃ auth now controller device limiter now',
    [.pulled c m, .authorized c m auth now controller device,
      .allowed c m limiter now'].Sublist past ∧
      Grants cfg auth now m controller device ∧
      (limiter.allow now' m.targetDeviceId m.controllerId).1 = true

/-- Then the stream mapping was created. -/
def Admitted (cfg : Config) (past : List Event) (c : ℕ) (m : ControllerMessage) : Prop :=
  ∃ auth now controller device limiter now' router now'' streamId,
    [.pulled c m, .authorized c m auth now controller device, .allowed c m limiter now',
      .mapped c m router now'' streamId].Sublist past ∧
      Grants cfg auth now m controller device ∧
      (limiter.allow now' m.targetDeviceId m.controllerId).1 = true ∧
      (router.createMapping now'' m.targetDeviceId m.controllerId m.methodName c).1 = .ok streamId

section Append

variable {cfg : Config} {past : List Event} {c : ℕ} {m : ControllerMessage}

theorem Admitted.append (h : Admitted cfg past c m) (events : List Event) :
    Admitted cfg (past ++ events) c m := by
  obtain ⟨auth, now, controller, device, limiter, now', router, now'', streamId, hs, hg⟩ := h
  exact ⟨auth, now, controller, device, limiter, now', router, now'', streamId,
    hs.trans (List.sublist_append_left ..), hg⟩

theorem authorized_snoc {auth : AuthService} {now : Instant} {controller : ControllerPrincipal}
    {device : DevicePrincipal} (h : [.pulled c m].Sublist past)
    (hg : Grants cfg auth now m controller device) :
    Authorized cfg (past ++ [Event.authorized c m auth now controller device]) c m :=
  ⟨auth, now, controller, device, h.append (List.Sublist.refl [_]), hg⟩

theorem Authorized.snoc {limiter : RateLimiter} {now : Instant} (h : Authorized cfg past c m)
    (ok : (limiter.allow now m.targetDeviceId m.controllerId).1 = true) :
    Allowed cfg (past ++ [Event.allowed c m limiter now]) c m := by
  obtain ⟨auth, now', controller, device, hs, hg⟩ := h
  exact ⟨auth, now', controller, device, limiter, now, hs.append (List.Sublist.refl [_]), hg, ok⟩

theorem Allowed.snoc {router : StreamRouter} {now : Instant} {streamId : String}
    (h : Allowed cfg past c m)
    (ok : (router.createMapping now m.targetDeviceId m.controllerId m.methodName c).1 =
      .ok streamId) :
    Admitted cfg (past ++ [Event.mapped c m router now streamId]) c m := by
  obtain ⟨auth, now', controller, device, limiter, now'', hs, hg, hl⟩ := h
  exact ⟨auth, now', controller, device, limiter, now'', router, now, streamId,
    hs.append (List.Sublist.refl [_]), hg, hl, ok⟩

end Append

/-! ## The invariant -/

/-- The checks that the message of a loop has passed so far. -/
def CtrlPc.Cleared (cfg : Config) (past : List Event) (c : ℕ) : CtrlPc → Prop
  | .authenticating m => [Event.pulled c m].Sublist past
  | .limiting m => Authorized cfg past c m
  | .mapping m => Allowed cfg past c m
  | _ => True

/-- The message of a loop that has passed all checks. -/
def CtrlPc.admitted : CtrlPc → Option ControllerMessage
  | .beginning m | .lookingUp m | .joining m | .routing m _ | .metering m _ _ | .forwarding m _ _
  | .refusing m | .offlineTaking m _ | .offlineCompleting m _ | .offlineFinishing m
  | .waiting m _ _ | .caching m _ | .finishing m _ _ | .sending m _ => some m
  | .idle | .authenticating _ | .limiting _ | .mapping _ | .closing | .disconnecting | .done =>
    none

/-- What loop `c` saved as its binding was admitted, and the message it works on has that
binding. -/
structure Clearance (cfg : Config) (s : State) (c : ℕ) : Prop where
  cleared : (s.ctrl c).pc.Cleared cfg s.trace c
  bound : ∀ b, (s.ctrl c).streamBinding = some b →
    ∃ m₀, m₀.binding = b ∧ Admitted cfg s.trace c m₀
  current : ∀ m, (s.ctrl c).pc.admitted = some m →
    .pulled c m ∈ s.trace ∧ (s.ctrl c).streamBinding = some m.binding

theorem CtrlPc.Cleared.append {cfg : Config} {past : List Event} {c : ℕ} {pc : CtrlPc}
    (h : pc.Cleared cfg past c) (events : List Event) : pc.Cleared cfg (past ++ events) c := by
  cases pc with
  | authenticating m => exact List.Sublist.trans h (List.sublist_append_left ..)
  | limiting m =>
    obtain ⟨auth, now, controller, device, hs, hg⟩ := h
    exact ⟨auth, now, controller, device, hs.trans (List.sublist_append_left ..), hg⟩
  | mapping m =>
    obtain ⟨auth, now, controller, device, limiter, now', hs, hg⟩ := h
    exact ⟨auth, now, controller, device, limiter, now', hs.trans (List.sublist_append_left ..), hg⟩
  | _ => trivial

variable {cfg : Config} {s s' : State} {c : ℕ}

theorem clearance_init : Clearance cfg (State.init cfg) c where
  cleared := trivial
  bound := by simp [State.init]
  current := by simp [State.init, CtrlPc.admitted]

/-- Whether authentication is on never changes. -/
theorem auth_enabled_of_reachable (h : Reachable cfg s) :
    s.shared.auth.enabled = cfg.auth.enabled := by
  refine Runs.Reach.invariant (I := fun s => s.shared.auth.enabled = cfg.auth.enabled) rfl ?_ h
  intro s a s' _ ih _ hs
  cases step_cases hs with
  | ctrl c input next move =>
    have : next.shared.auth = s.shared.auth := by
      cases move
      all_goals first | rfl | exact Shared.Quiet.auth ‹_›
    exact (congrArg _ this).trans ih
  | dev i input next move =>
    have : next.shared.auth = s.shared.auth := by
      cases move
      all_goals first | rfl | exact Shared.Quiet.auth ‹_›
    exact (congrArg _ this).trans ih
  | ambient _ sh' reaper' events _ _ _ _ _ auth _ _ => exact auth.trans ih
  | fired | firedLate | completed | evicted => exact ih

namespace Clearance

variable (K : Clearance cfg s c)

include K

/-- A step of another task. -/
theorem keep (ctrl : s'.ctrl c = s.ctrl c) {events : List Event}
    (trace : s'.trace = s.trace ++ events) : Clearance cfg s' c := by
  refine ⟨?_, ?_, ?_⟩
  · rw [ctrl, trace]
    exact K.cleared.append events
  · rw [ctrl, trace]
    intro b hb
    obtain ⟨m₀, hm, ha⟩ := K.bound b hb
    exact ⟨m₀, hm, ha.append events⟩
  · rw [ctrl, trace]
    intro m hm
    obtain ⟨hp, hb⟩ := K.current m hm
    exact ⟨List.mem_append_left _ hp, hb⟩

/-- A step of the loop itself that saves no new binding. -/
theorem move {next : Next Controller} (cleared : next.loc.pc.Cleared cfg (s.trace ++ next.events) c)
    (binding : next.loc.streamBinding = (s.ctrl c).streamBinding)
    (current : ∀ m, next.loc.pc.admitted = some m → (s.ctrl c).pc.admitted = some m ∨
      .pulled c m ∈ next.events ∧ (s.ctrl c).streamBinding = some m.binding) :
    Clearance cfg (s.afterCtrl c next) c := by
  have hloc : (s.afterCtrl c next).ctrl c = next.loc := by simp [State.afterCtrl]
  refine ⟨by rw [hloc]; exact cleared, ?_, ?_⟩
  · rw [hloc, binding]
    intro b hb
    obtain ⟨m₀, hm, ha⟩ := K.bound b hb
    exact ⟨m₀, hm, ha.append next.events⟩
  · rw [hloc, binding]
    intro m hm
    rcases current m hm with h | ⟨hp, hb⟩
    · obtain ⟨hp, hb⟩ := K.current m h
      exact ⟨List.mem_append_left _ hp, hb⟩
    · exact ⟨List.mem_append_right _ hp, hb⟩

theorem self (enabled : s.shared.auth.enabled = cfg.auth.enabled) {input : CtrlInput}
    {next : Next Controller} (move : Controller.Moves cfg s.shared c (s.ctrl c) input next) :
    Clearance cfg (s.afterCtrl c next) c := by
  have hcleared := K.cleared
  cases move
  case pulled m at_pc _ =>
    exact K.move (List.sublist_append_right ..) rfl (by simp [Controller.goto, CtrlPc.admitted])
  case pulledBound m at_pc bound =>
    refine K.move trivial rfl ?_
    intro m' hm'
    obtain rfl : m = m' := by simpa [Controller.goto, CtrlPc.admitted] using hm'
    exact Or.inr ⟨List.mem_singleton.2 rfl, bound⟩
  case authorized m controller device sh' connected at_pc _ authenticated known permitted =>
    refine K.move ?_ rfl (by simp [CtrlPc.admitted])
    rw [at_pc] at hcleared
    exact authorized_snoc hcleared ⟨enabled, authenticated, known, permitted⟩
  case allowed m sh' at_pc _ within =>
    refine K.move ?_ rfl (by simp [Controller.goto, CtrlPc.admitted])
    rw [at_pc] at hcleared
    exact Authorized.snoc hcleared within
  case mapped m streamId sh' at_pc _ created =>
    rw [at_pc] at hcleared
    have hadmitted := Allowed.snoc hcleared created
    obtain ⟨auth, now, controller, device, limiter, now', hs, -⟩ := id hcleared
    have hpulled : .pulled c m ∈ s.trace := hs.subset (by simp)
    refine ⟨by simp [State.afterCtrl, CtrlPc.Cleared], ?_, ?_⟩
    · intro b hb
      obtain rfl : m.binding = b := by simpa [State.afterCtrl] using hb
      exact ⟨m, rfl, hadmitted⟩
    · intro m' hm'
      obtain rfl : m = m' := by simpa [State.afterCtrl, CtrlPc.admitted] using hm'
      exact ⟨List.mem_append_left _ hpulled, by simp [State.afterCtrl]⟩
  case refused => exact K.move trivial rfl (by simp [CtrlPc.admitted])
  case ended at_pc _ =>
    rcases at_pc with ⟨-, rfl⟩ | ⟨-, rfl⟩ | ⟨-, rfl⟩ <;>
      exact K.move trivial rfl (by simp [Controller.goto, CtrlPc.admitted])
  case pulledBad | sent | rested =>
    exact K.move trivial rfl (by simp [Controller.goto, CtrlPc.admitted])
  all_goals
    refine K.move trivial rfl (fun m hm => Or.inl ?_)
    simpa [*, Controller.goto, CtrlPc.admitted] using hm

theorem stepCases (enabled : s.shared.auth.enabled = cfg.auth.enabled) {a : Action}
    (h : StepCases cfg s a s') : Clearance cfg s' c := by
  cases h with
  | ctrl c' input next move =>
    by_cases hc : c' = c
    · subst hc
      exact K.self enabled move
    · exact K.keep (by simp [State.afterCtrl, Ne.symm hc]) rfl
  | dev | fired | firedLate | completed | evicted | ambient => exact K.keep rfl rfl

end Clearance

theorem clearance_of_reachable (h : Reachable cfg s) : Clearance cfg s c := by
  refine Runs.Reach.invariant (I := fun s => Clearance cfg s c) clearance_init ?_ h
  intro s a s' hr K _ hs
  exact K.stepCases (auth_enabled_of_reachable hr) (step_cases hs)

/-- A request on an outbound channel is that of a message that loop `c` pulled, and a message with
the same binding passed every check on the same stream before. -/
def Forwardable (cfg : Config) (past : List Event) : Event → Prop
  | .placed c _ m request => .pulled c m ∈ past ∧
      request.sequenceNumber = m.sequenceNumber ∧ request.encryptedPayload = m.encryptedPayload ∧
      ∃ m₀, m₀.binding = m.binding ∧ Admitted cfg past c m₀
  | _ => True

theorem forwardable_of_reachable (h : Reachable cfg s) :
    History.Justified (Forwardable cfg) s.trace := by
  refine Runs.Reach.invariant (I := fun s => History.Justified (Forwardable cfg) s.trace)
    History.justified_nil ?_ h
  intro s a s' hr ih _ hs
  obtain ⟨events, trace⟩ := trace_of_cases (step_cases hs)
  rw [trace]
  refine ih.extend ?_
  rintro e he
  cases e with
  | placed c i m request =>
    refine Or.inr ?_
    obtain ⟨rx, session, hpc, rfl, -, rfl⟩ := places_of_cases (step_cases hs) trace he
    have K : Clearance cfg s c := clearance_of_reachable hr
    obtain ⟨hpulled, hbinding⟩ := K.current m (by rw [hpc]; rfl)
    refine ⟨[], (List.append_cancel_left trace).symm, by simp, hpulled, rfl, rfl, ?_⟩
    exact K.bound _ hbinding
  | _ => exact Or.inl fun _ => trivial

/-- With authentication on, a request is put on an outbound channel only for a message that the
loop pulled and whose device, controller and method are those of a message of the same stream that
was authenticated with a token not revoked then, for a known device, permitted by the policy,
allowed by the rate limiter and mapped, in this order and before the request. -/
theorem forwarded_is_authorized (on : cfg.auth.enabled = true) (h : Reachable cfg s)
    {past later : List Event} {c i : ℕ} {m : ControllerMessage} {request : DataRequest}
    (placed : s.trace = past ++ Event.placed c i m request :: later) :
    .pulled c m ∈ past ∧ request.sequenceNumber = m.sequenceNumber ∧
      request.encryptedPayload = m.encryptedPayload ∧
      ∃ m₀ auth now controller device limiter now' router now'' streamId,
        m₀.binding = m.binding ∧
        [.pulled c m₀, .authorized c m₀ auth now controller device, .allowed c m₀ limiter now',
          .mapped c m₀ router now'' streamId].Sublist past ∧
        auth.authenticateController cfg.decode now m₀.controllerId m₀.token = .ok controller ∧
        auth.isControllerTokenRevoked m₀.token = false ∧
        (∃ entry, auth.deviceById.lookup m₀.targetDeviceId = some entry ∧
          device = ⟨entry.deviceId, entry.projectId⟩) ∧
        (RbacPolicyEngine.new cfg.auth).authorizeControllerToDevice controller device
          m₀.methodName = .ok () ∧
        (limiter.allow now' m₀.targetDeviceId m₀.controllerId).1 = true ∧
        (router.createMapping now'' m₀.targetDeviceId m₀.controllerId m₀.methodName c).1 =
          .ok streamId := by
  obtain ⟨hpulled, hseq, hpayload, m₀, hbinding, auth, now, controller, device, limiter, now',
    router, now'', streamId, hs, hg, hl, hmap⟩ := forwardable_of_reachable h past _ later placed
  have enabled : auth.enabled = true := hg.enabled.trans on
  refine ⟨hpulled, hseq, hpayload, m₀, auth, now, controller, device, limiter, now', router, now'',
    streamId, hbinding, hs, hg.authenticated, ?_, ?_, hg.permitted, hl, hmap⟩
  · exact AuthService.not_revoked_of_authenticateController enabled hg.authenticated
  · exact AuthService.getDevicePrincipalById_ok enabled hg.known

theorem forwarded_is_authorized_guarded :
    ∃ s past later, execute Small.guarded (Small.register 0 "d" "dt" ++
        Small.join 0 (Small.request 1) ++ Small.forward 0) = some s ∧
      s.trace = past ++ Event.placed 0 0 (Small.request 1) ⟨"conn-1", 1, [1]⟩ :: later ∧
      .pulled 0 (Small.request 1) ∈ past := by
  obtain ⟨s, hs, hf⟩ : ∃ s, execute Small.guarded (Small.register 0 "d" "dt" ++
      Small.join 0 (Small.request 1) ++ Small.forward 0) = some s ∧
      s.trace.filterMap Small.placement = [(0, 0, Small.request 1, ⟨"conn-1", 1, [1]⟩)] :=
    Option.map_eq_some_iff.1 (by decide +kernel)
  have hmem : .placed 0 0 (Small.request 1) ⟨"conn-1", 1, [1]⟩ ∈ s.trace :=
    Small.mem_of_placement (by rw [hf]; exact List.mem_singleton.2 rfl)
  obtain ⟨past, later, hsplit⟩ := List.append_of_mem hmem
  exact ⟨s, past, later, hs, hsplit,
    (forwarded_is_authorized rfl (reachable_of_execute hs) hsplit).1⟩

end GrpcRelay
