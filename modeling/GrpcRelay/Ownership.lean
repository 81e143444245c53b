import GrpcRelay.Discovery

/-!
# The project of a device

The entries of a device are found by its token and by its id.  The map by id is filled in the order
in which the map of the tokens is iterated, which is not specified, so that of several tokens of one
device any can decide.  The project of a device is well defined exactly if its tokens agree on it
(`project_is_well_defined_iff`).
-/

namespace GrpcRelay

namespace AuthService

/-- The same configuration, with the tokens of the devices in another order. -/
def Reorders (config' config : AuthConfig) : Prop :=
  ∃ tokens, tokens.entries.Perm config.deviceTokens.entries ∧
    config' = { config with deviceTokens := tokens }

/-- What the policy says of a controller and a device that is looked up by its id. -/
def decision (auth : AuthService) (config : AuthConfig) (controller : ControllerPrincipal)
    (deviceId methodName : String) : Option (Except AuthorizationError Unit) :=
  (auth.getDevicePrincipalById deviceId).toOption.map fun device =>
    (RbacPolicyEngine.new config).authorizeControllerToDevice controller device methodName

/-- In every order of the tokens, and whatever was revoked, a device that is authenticated by a
token has the project that is found by its id, and the policy decides the same. -/
def WellDefined (config : AuthConfig) (d : String) : Prop :=
  ∀ config' auth, Reorders config' config → Agrees auth config' →
    (∀ token p, auth.authenticateDeviceByToken d token = .ok p →
      ∃ q, auth.getDevicePrincipalById d = .ok q ∧ q.projectId = p.projectId) ∧
    ∀ controller methodName,
      decision auth config' controller d methodName =
        decision (new config) config controller d methodName

/-- The tokens of a device agree on its project. -/
def OneProject (config : AuthConfig) (d : String) : Prop :=
  ∀ token token' entry entry', config.deviceTokens.lookup token = some entry →
    config.deviceTokens.lookup token' = some entry' → entry.deviceId = d → entry'.deviceId = d →
    entry.projectId = entry'.projectId

variable {config config' : AuthConfig} {auth : AuthService} {d token : String}

theorem Reorders.lookup (h : Reorders config' config) (token : String) :
    config'.deviceTokens.lookup token = config.deviceTokens.lookup token := by
  obtain ⟨tokens, perm, rfl⟩ := h
  exact AList.perm_lookup perm

theorem Reorders.refl (config : AuthConfig) : Reorders config config :=
  ⟨config.deviceTokens, .refl _, rfl⟩

theorem OneProject.reorders (one : OneProject config d) (h : Reorders config' config) :
    OneProject config' d := by
  intro token token' entry entry' found found'
  rw [h.lookup] at found found'
  exact one token token' entry entry' found found'

/-- Any token can be the last one. -/
theorem exists_reorders_last {entry : DeviceAuthEntry}
    (h : config.deviceTokens.lookup token = some entry) :
    ∃ config', Reorders config' config ∧
      (new config').deviceById.lookup entry.deviceId = some entry := by
  obtain ⟨before, rest, split⟩ := List.append_of_mem ((DashMap.mem_entries_iff ..).2 h)
  have perm : (before ++ rest ++ [Sigma.mk token entry]).Perm config.deviceTokens.entries := by
    rw [split]
    exact (List.perm_append_singleton _ _).trans List.perm_middle.symm
  have distinct := (List.perm_nodupKeys perm).2 config.deviceTokens.nodupKeys
  refine ⟨{ config with deviceTokens := ⟨_, distinct⟩ }, ⟨_, perm, rfl⟩, ?_⟩
  rw [lookup_deviceById, List.reverse_append, List.reverse_singleton, List.singleton_append,
    List.find?_cons_of_pos (by simp)]
  rfl

/-- The entry found by an id belongs to one of the tokens of the device. -/
theorem exists_token_of_lookup_deviceById {entry : DeviceAuthEntry}
    (h : (new config).deviceById.lookup d = some entry) :
    entry.deviceId = d ∧ ∃ token, config.deviceTokens.lookup token = some entry := by
  rw [lookup_deviceById] at h
  obtain ⟨⟨token, _⟩, found, rfl⟩ := Option.map_eq_some_iff.1 h
  refine ⟨by simpa using List.find?_some found, token, ?_⟩
  exact (DashMap.mem_entries_iff ..).1 (List.mem_reverse.1 (List.mem_of_find?_eq_some found))

/-- If the tokens of a device agree, its id finds the entry of any of them. -/
theorem lookup_deviceById_iff (one : OneProject config d) (entry : DeviceAuthEntry) :
    (new config).deviceById.lookup d = some entry ↔
      entry.deviceId = d ∧ ∃ token, config.deviceTokens.lookup token = some entry := by
  refine ⟨exists_token_of_lookup_deviceById, ?_⟩
  rintro ⟨rfl, token, found⟩
  obtain ⟨entry', byId⟩ := Option.isSome_iff_exists.1
    (AList.lookup_isSome.2 (mem_deviceById found))
  obtain ⟨device, token', found'⟩ := exists_token_of_lookup_deviceById byId
  have project := one token' token entry' entry found' found device rfl
  have same : entry' = entry := by
    cases entry'
    cases entry
    simp_all
  rw [byId, same]

/-- Then the order of the tokens makes no difference. -/
theorem lookup_deviceById_reorders (one : OneProject config d) (h : Reorders config' config) :
    (new config').deviceById.lookup d = (new config).deviceById.lookup d := by
  ext entry
  rw [lookup_deviceById_iff (one.reorders h), lookup_deviceById_iff one]
  simp only [h.lookup]

/-! ## The services of a configuration -/

theorem Reorders.enabled (h : Reorders config' config) : config'.enabled = config.enabled := by
  obtain ⟨tokens, -, rfl⟩ := h
  rfl

section On

variable (on : config.enabled = true)
include on

/-- A device is authenticated by a token with the project of that token. -/
theorem authenticateDeviceByToken_agrees (A : Agrees auth config) {p : DevicePrincipal}
    (h : auth.authenticateDeviceByToken d token = .ok p) :
    ∃ entry, config.deviceTokens.lookup token = some entry ∧ entry.deviceId = d ∧
      p.projectId = entry.projectId := by
  obtain ⟨valid, entry, found, device⟩ := authenticateDeviceByToken_ok (A.enabled.trans on) h
  refine ⟨entry, A.deviceTokens ▸ found, device, ?_⟩
  unfold authenticateDeviceByToken at h
  rw [if_neg (by simp [A.enabled, on]), if_neg (by simp [valid]), found] at h
  simp only [device, ne_eq, not_true_eq_false, if_false, Except.ok.injEq] at h
  rw [← h]

theorem authenticateDeviceByToken_new {entry : DeviceAuthEntry}
    (h : config.deviceTokens.lookup token = some entry) :
    (new config).authenticateDeviceByToken entry.deviceId token =
      .ok ⟨entry.deviceId, entry.projectId⟩ := by
  have fresh : (new config).isDeviceTokenRevoked token = false := rfl
  have tokens : (new config).deviceTokens = config.deviceTokens := rfl
  unfold authenticateDeviceByToken
  rw [if_neg (by simp [new, on]), fresh, tokens, h]
  simp

theorem getDevicePrincipalById_agrees (A : Agrees auth config) {entry : DeviceAuthEntry}
    (h : (new config).deviceById.lookup d = some entry) :
    auth.getDevicePrincipalById d = .ok ⟨entry.deviceId, entry.projectId⟩ := by
  unfold getDevicePrincipalById
  rw [if_neg (by simp [A.enabled, on]), A.deviceById, h]

theorem decision_agrees (A : Agrees auth config) (controller : ControllerPrincipal)
    (methodName : String) :
    decision auth config controller d methodName =
      ((new config).deviceById.lookup d).map fun entry =>
        (RbacPolicyEngine.new config).authorizeControllerToDevice controller
          ⟨entry.deviceId, entry.projectId⟩ methodName := by
  unfold decision getDevicePrincipalById
  rw [if_neg (by simp [A.enabled, on]), A.deviceById]
  cases (new config).deviceById.lookup d <;> rfl

end On

/-- The project of a device is well defined exactly if all tokens that are configured for the device
have the same project. -/
theorem project_is_well_defined_iff (config : AuthConfig) (on : config.enabled = true)
    (d : String) : WellDefined config d ↔ OneProject config d := by
  constructor
  · intro well token token' entry entry' found found' device device'
    -- The first token decides when it comes last.
    obtain ⟨config', reordered, last⟩ := exists_reorders_last found
    have on' := reordered.enabled.trans on
    have authenticated := authenticateDeviceByToken_new on' ((reordered.lookup token').trans found')
    rw [device'] at authenticated
    obtain ⟨q, byId, same⟩ :=
      (well config' (new config') reordered (agrees_new config')).1 token' _ authenticated
    rw [← device, getDevicePrincipalById_agrees on' (agrees_new config') last] at byId
    cases byId
    exact same
  · intro one config' auth reordered A
    have on' := reordered.enabled.trans on
    refine ⟨fun token p h => ?_, fun controller methodName => ?_⟩
    · obtain ⟨entry, found, device, project⟩ := authenticateDeviceByToken_agrees on' A h
      have byId := (lookup_deviceById_iff (one.reorders reordered) entry).2 ⟨device, token, found⟩
      exact ⟨_, getDevicePrincipalById_agrees on' A byId, project.symm⟩
    · rw [decision_agrees on' A, decision_agrees on (agrees_new config),
        lookup_deviceById_reorders one reordered]
      obtain ⟨tokens, -, rfl⟩ := reordered
      rfl

/-- Two tokens for one device. -/
def twoTokens (project project' : String) : AuthConfig where
  enabled := true
  controllerTokens := ∅
  deviceTokens := ((∅ : DashMap String DeviceAuthEntry).insert "token-1" ⟨"dev-1", project⟩).insert
    "token-2" ⟨"dev-1", project'⟩
  methodWhitelist := []
  jwt := ⟨false, "", none, none, 0⟩

theorem tokens_of_one_project : WellDefined (twoTokens "proj-1" "proj-1") "dev-1" := by
  have only (token : String) (entry : DeviceAuthEntry)
      (h : (twoTokens "proj-1" "proj-1").deviceTokens.lookup token = some entry) :
      entry.projectId = "proj-1" := by
    simp only [twoTokens, DashMap.lookup_insert_ite, AList.lookup_empty] at h
    split_ifs at h
    all_goals cases h
    all_goals rfl
  refine (project_is_well_defined_iff (twoTokens "proj-1" "proj-1") rfl "dev-1").2 ?_
  intro token token' entry entry' found found' _ _
  rw [only token entry found, only token' entry' found']

/-- The device is authenticated for the second project and found to be of the first. -/
theorem tokens_of_two_projects : ¬ WellDefined (twoTokens "proj-1" "proj-2") "dev-1" := by
  intro well
  have authenticated : (new (twoTokens "proj-1" "proj-2")).authenticateDeviceByToken "dev-1"
      "token-2" = .ok ⟨"dev-1", "proj-2"⟩ := by decide +kernel
  have byId : (new (twoTokens "proj-1" "proj-2")).getDevicePrincipalById "dev-1" =
      .ok ⟨"dev-1", "proj-1"⟩ := by decide +kernel
  obtain ⟨q, found, same⟩ := (well _ _ (.refl _) (agrees_new _)).1 "token-2" _ authenticated
  rw [byId] at found
  cases found
  exact absurd same (by decide)

end AuthService

end GrpcRelay
