import GrpcRelay.Buckets
import GrpcRelay.Moves

/-!
# The limit of requests to a device

The bucket of a device is a credit for requests that grows at `device_requests_per_second` and is
capped by it, so the limiter allows at most `r + r * t` requests for the device in `t` seconds.

The loops ask the limiter only for the first request of a stream; what they forward to a device is
within the limit when every request forwarded to it was allowed just before
(`forwarded_within_limit`).
-/

namespace GrpcRelay

open Credit

/-! ## Buckets -/

namespace RateLimiter

variable {rl : RateLimiter} {now now' : Instant} {d : String}

/-- What the bucket of a device would hold now. -/
def credit (rl : RateLimiter) (d : String) (now : Instant) : ℚ :=
  match rl.buckets.lookup ("device:" ++ d) with
  | none => rl.deviceRate
  | some b => min rl.deviceRate (b.tokens + (now - b.last) * rl.deviceRate)

/-- The devices have a positive rate, and their buckets were filled in the past. -/
structure Sound (rl : RateLimiter) (now : Instant) : Prop where
  rate : 1 ≤ rl.deviceRate
  ttl : 1 ≤ rl.bucketTtl
  nonneg : ∀ d b, rl.buckets.lookup ("device:" ++ d) = some b → 0 ≤ b.tokens
  capped : ∀ d b, rl.buckets.lookup ("device:" ++ d) = some b → b.tokens ≤ rl.deviceRate
  past : ∀ d b, rl.buckets.lookup ("device:" ++ d) = some b → b.last ≤ now

/-- The rates stay, and no device has more credit. -/
structure Keeps (rl rl' : RateLimiter) (now : Instant) : Prop where
  rate : rl'.deviceRate = rl.deviceRate
  sound : Sound rl' now
  credit : ∀ d, rl'.credit d now ≤ rl.credit d now

theorem Keeps.trans {rl' rl'' : RateLimiter} (h : Keeps rl rl' now) (h' : Keeps rl' rl'' now) :
    Keeps rl rl'' now :=
  ⟨h'.rate.trans h.rate, h'.sound, fun d => (h'.credit d).trans (h.credit d)⟩

theorem credit_eq_level (rl : RateLimiter) (d : String) (now : Instant) :
    rl.credit d now =
      level rl.deviceRate rl.deviceRate now (rl.buckets.lookup ("device:" ++ d)) := by
  unfold credit
  cases rl.buckets.lookup ("device:" ++ d) <;> rfl

theorem Sound.positive (S : Sound rl now) : 0 < rl.deviceRate := zero_lt_one.trans_le S.rate

theorem Sound.filledAt (S : Sound rl now) (d : String) :
    FilledAt rl.deviceRate now (rl.buckets.lookup ("device:" ++ d)) :=
  fun b h => ⟨S.nonneg d b h, S.capped d b h, S.past d b h⟩

theorem Sound.credit_nonneg (S : Sound rl now) (d : String) : 0 ≤ rl.credit d now := by
  rw [credit_eq_level]
  exact (S.filledAt d).level_nonneg S.positive.le S.positive.le

theorem credit_le_rate (rl : RateLimiter) (d : String) (now : Instant) :
    rl.credit d now ≤ rl.deviceRate := by
  rw [credit_eq_level]
  exact level_le_cap _ _ _ _

/-- The credit grows at the rate of the devices. -/
theorem Sound.credit_later (S : Sound rl now) (later : now ≤ now') :
    rl.credit d now' ≤ rl.credit d now + rl.deviceRate * (now' - now) := by
  rw [credit_eq_level, credit_eq_level, level_later S.positive.le later, mul_comm rl.deviceRate]
  exact min_le_right _ _

theorem Sound.later (S : Sound rl now) (later : now ≤ now') : Sound rl now' :=
  ⟨S.rate, S.ttl, S.nonneg, S.capped, fun d b h => (S.past d b h).trans later⟩

/-- The buckets of the devices are filled, and no level is higher. -/
theorem keeps_of_levels {rl' : RateLimiter} (S : Sound rl now) (same : SameRates rl rl')
    (filled : ∀ d, FilledAt rl.deviceRate now (rl'.buckets.lookup ("device:" ++ d)))
    (less : ∀ d, level rl.deviceRate rl.deviceRate now (rl'.buckets.lookup ("device:" ++ d)) ≤
      level rl.deviceRate rl.deviceRate now (rl.buckets.lookup ("device:" ++ d))) :
    Keeps rl rl' now := by
  refine ⟨same.device, ⟨?_, ?_, ?_, ?_, ?_⟩, fun d => ?_⟩
  · rw [same.device]
    exact S.rate
  · rw [same.ttl]
    exact S.ttl
  · exact fun d b h => (filled d b h).nonneg
  · intro d b h
    rw [same.device]
    exact (filled d b h).capped
  · exact fun d b h => (filled d b h).past
  · rw [credit_eq_level, credit_eq_level, same.device]
    exact less d

/-- Keys of another kind do not concern the devices. -/
theorem keeps_checkAt {k : RateKey} (S : Sound rl now) (other : ∀ d, RateKey.device d ≠ k) :
    Keeps rl (rl.checkAt k now).2 now := by
  have same (d : String) : (rl.checkAt k now).2.buckets.lookup ("device:" ++ d) =
      rl.buckets.lookup ("device:" ++ d) :=
    lookup_checkKey_of_ne _ _ _ fun h => other d (RateKey.key_inj.1 h)
  refine keeps_of_levels S (sameRates_checkAt rl k now) (fun d => ?_) fun d => ?_
  · rw [same]
    exact S.filledAt d
  · rw [same]

/-- The check of a device that succeeds takes one unit of its credit. -/
theorem checkAt_device (S : Sound rl now) (d : String) :
    Keeps rl (rl.checkAt (.device d) now).2 now ∧
      ((rl.checkAt (.device d) now).1 = true →
        (rl.checkAt (.device d) now).2.credit d now + 1 ≤ rl.credit d now) := by
  have eq : rl.checkAt (.device d) now = _ := checkKey_eq rl ("device:" ++ d) S.positive now
  have cost := check_credit S.positive (S.filledAt d)
  rw [max_eq_right S.rate] at cost
  rw [credit_eq_level, credit_eq_level, eq]
  dsimp only
  rw [AList.lookup_insert]
  refine ⟨keeps_of_levels S ⟨rfl, rfl, rfl, rfl⟩ (fun d' => ?_) fun d' => ?_, fun passed => ?_⟩
  · rw [DashMap.lookup_insert_ite]
    split_ifs
    · exact filledAt_some.2 (filled_check S.positive (S.filledAt d))
    · exact S.filledAt d'
  · rw [DashMap.lookup_insert_ite]
    split_ifs with same
    · rw [same]
      refine le_trans (le_add_of_nonneg_right ?_) cost
      split_ifs <;> simp
    · exact le_rfl
  · rwa [if_pos passed] at cost

/-- The buckets that are dropped were full. -/
theorem keeps_maybeCleanup (S : Sound rl now) : Keeps rl (rl.maybeCleanup now) now := by
  refine keeps_of_levels S (sameRates_maybeCleanup rl now) (fun d => ?_) fun d => ?_
  · rcases cleaned rl now ("device:" ++ d) with same | ⟨gone, -⟩
    · rw [same]
      exact S.filledAt d
    · rw [gone]
      exact filledAt_none
  · rcases cleaned rl now ("device:" ++ d) with same | ⟨gone, b, found, old⟩
    · rw [same]
    · have F := S.filledAt d b found
      have enough := le_mul_of_one_le_left S.positive.le S.ttl
      rw [gone, found, F.level_of_old old S.positive.le enough]
      exact level_le_cap _ _ _ _

/-- A request that is allowed takes one unit of its device's credit. -/
theorem allow_spec (S : Sound rl now) (d c : String) :
    Keeps rl (rl.allow now d c).2 now ∧
      ((rl.allow now d c).1 = true → (rl.allow now d c).2.credit d now + 1 ≤ rl.credit d now) := by
  have cleaned := keeps_maybeCleanup S
  have before := cleaned.trans (keeps_checkAt (k := .global) cleaned.sound fun _ h => by cases h)
  obtain ⟨keeps, spends⟩ := checkAt_device before.sound d
  have last := keeps_checkAt (k := .controller c) keeps.sound fun _ h => by cases h
  rw [allow_eq_checks]
  split_ifs with global device
  · refine ⟨before.trans (keeps.trans last), fun _ => ?_⟩
    have := spends device
    have := last.credit d
    have := before.credit d
    linarith
  · exact ⟨before.trans keeps, fun h => by cases h⟩
  · exact ⟨before, fun h => by cases h⟩

/-- Devices with rate zero are refused. -/
theorem allow_of_rate_zero (zero : rl.deviceRate = 0) (d c : String) :
    (rl.allow now d c).1 = false ∧ (rl.allow now d c).2.deviceRate = 0 := by
  refine ⟨allow_of_zero (Or.inr (Or.inl zero.le)) d c, ?_⟩
  exact (sameRates_allow rl now d c).device.trans zero

end RateLimiter

/-! ## The limiter in the steps of the relay -/

/-- The clock and the limiter. -/
abbrev Shared.metered (sh : Shared) : Instant × RateLimiter := (sh.now, sh.rateLimiter)

namespace Controller

variable {cfg : Config} {sh : Shared} {c : ℕ} {l : Controller} {m : ControllerMessage}

/-- The limiter after a step of a loop. -/
def limiterAfter (sh : Shared) (l : Controller) : RateLimiter :=
  match l.pc with
  | .limiting m => (sh.rateLimiter.allow sh.now m.targetDeviceId m.controllerId).2
  | _ => sh.rateLimiter

theorem metered_connect : (connect sh l).1.metered = sh.metered := by
  unfold connect
  split_ifs <;> rfl

theorem metered_authenticate : (authenticate cfg sh c l m).shared.metered = sh.metered := by
  unfold authenticate
  split
  · rfl
  · dsimp only
    split
    · exact metered_connect
    · split <;> exact metered_connect

theorem metered_limit : (limit sh c l m).shared.metered =
    (sh.now, (sh.rateLimiter.allow sh.now m.targetDeviceId m.controllerId).2) := by
  unfold limit
  split <;> rename_i h <;> rw [h]
  rfl

theorem metered_createMapping : (createMapping sh c l m).shared.metered = sh.metered := by
  unfold createMapping
  split
  · rfl
  · split_ifs <;> rfl

theorem metered_beginRequest : (beginRequest sh l).metered = sh.metered := by
  unfold beginRequest
  split <;> rfl

theorem metered_finishRequest : (finishRequest sh l).metered = sh.metered := by
  unfold finishRequest
  split <;> rfl

theorem metered_of_step {input : CtrlInput} {next : Next Controller}
    (h : step cfg sh c l input = some next) :
    next.shared.metered = (sh.now, limiterAfter sh l) := by
  unfold step at h
  split at h
  case h_1 =>
    split at h <;> rename_i hpc <;> cases h
    rw [limiterAfter, hpc]
    unfold receive
    split
    · rfl
    · split_ifs <;> rfl
  case h_2 | h_3 =>
    split at h <;> rename_i hpc <;> cases h
    rw [limiterAfter, hpc]
  case h_4 =>
    split at h <;> rename_i hpc <;> cases h
    rw [limiterAfter, hpc]
    unfold meter
    split <;> rfl
  case h_5 =>
    split at h <;> rename_i hpc <;> try cases h
    all_goals rw [limiterAfter, hpc]
    case h_1 => exact metered_authenticate
    case h_2 => exact metered_limit
    case h_3 => exact metered_createMapping
    case h_4 => exact metered_beginRequest
    case h_5 => unfold lookUp; split <;> rfl
    case h_6 => unfold join; split <;> rfl
    case h_7 => unfold route; split <;> rfl
    case h_8 => unfold forward; split_ifs <;> rfl
    case h_9 | h_12 | h_15 => exact metered_finishRequest
    case h_10 => unfold takeOffline; split <;> rfl
    case h_13 => unfold await at h; split at h <;> split_ifs at h <;> cases h <;> rfl
    case h_17 => unfold close; split <;> rfl
    case h_18 => unfold disconnect; split_ifs <;> rfl
    all_goals rfl

end Controller

/-- The loop whose request for a device was allowed. -/
def Event.allowedFor (d : String) : Event → Option ℕ
  | .allowed c m _ _ => if m.targetDeviceId = d then some c else none
  | _ => none

/-- What a step does to the clock and the limiter, and what it allows. -/
inductive LimitStep (s s' : State) : Prop
  | granted (c : ℕ) (m : ControllerMessage)
      (within : (s.shared.rateLimiter.allow s.shared.now m.targetDeviceId m.controllerId).1 = true)
      (limiter : s'.shared.rateLimiter =
        (s.shared.rateLimiter.allow s.shared.now m.targetDeviceId m.controllerId).2)
      (now : s'.shared.now = s.shared.now)
      (trace : s'.trace = s.trace ++ [Event.allowed c m s.shared.rateLimiter s.shared.now])
  | asked (d c : String)
      (limiter : s'.shared.rateLimiter = (s.shared.rateLimiter.allow s.shared.now d c).2)
      (now : s'.shared.now = s.shared.now)
      (silent : ∀ d, ∀ e ∈ s'.trace.drop s.trace.length, e.allowedFor d = none)
  | waited (limiter : s'.shared.rateLimiter = s.shared.rateLimiter)
      (now : s.shared.now ≤ s'.shared.now)
      (silent : ∀ d, ∀ e ∈ s'.trace.drop s.trace.length, e.allowedFor d = none)

variable {cfg : Config} {s s' : State}

/-- A loop is allowed a request in one step, and that step does nothing else. -/
theorem Controller.allowed_of_moves {sh : Shared} {c : ℕ} {l : Controller} {input : CtrlInput}
    {next : Next Controller} (move : Moves cfg sh c l input next) {c' : ℕ}
    {m : ControllerMessage} {limiter : RateLimiter} {now : Instant}
    (h : .allowed c' m limiter now ∈ next.events) :
    l.pc = .limiting m ∧
      (sh.rateLimiter.allow sh.now m.targetDeviceId m.controllerId).1 = true ∧
      next.events = [.allowed c m sh.rateLimiter sh.now] := by
  cases move
  case allowed m' sh' at_pc quiet within =>
    obtain ⟨-, rfl, -⟩ : c' = c ∧ m = m' ∧ limiter = sh.rateLimiter ∧ now = sh.now := by
      simpa using h
    exact ⟨at_pc, within, rfl⟩
  case refused m' resp sh' connected counts _ _ _ counted =>
    rcases List.mem_append.1 h with h | h
    · obtain ⟨status, hs⟩ := counted _ h
      cases hs
    · simp at h
  all_goals simp at h

theorem allowedFor_eq_none {e : Event} (h : ∀ c m limiter now, e ≠ .allowed c m limiter now)
    (d : String) : e.allowedFor d = none := by
  cases e with
  | allowed c m limiter now => exact absurd rfl (h c m limiter now)
  | _ => rfl

theorem limitStep_ctrl {c : ℕ} {input : CtrlInput} {next : Next Controller}
    (h : Controller.step cfg s.shared c (s.ctrl c) input = some next) :
    LimitStep s (s.afterCtrl c next) := by
  have metered := Controller.metered_of_step h
  have now : next.shared.now = s.shared.now := congrArg Prod.fst metered
  have limiter : next.shared.rateLimiter = Controller.limiterAfter s.shared (s.ctrl c) :=
    congrArg Prod.snd metered
  by_cases allowed : ∃ c' m limiter now, .allowed c' m limiter now ∈ next.events
  · obtain ⟨c', m, rl, t, mem⟩ := allowed
    obtain ⟨hpc, within, events⟩ := Controller.allowed_of_moves (Controller.moves_of_step h) mem
    rw [Controller.limiterAfter, hpc] at limiter
    exact .granted c m within limiter now (by rw [State.afterCtrl, events])
  · have silent (d : String) : ∀ e ∈ (s.afterCtrl c next).trace.drop s.trace.length,
        e.allowedFor d = none := by
      intro e he
      rw [State.afterCtrl, List.drop_left] at he
      exact allowedFor_eq_none (fun c' m rl t eq => allowed ⟨c', m, rl, t, eq ▸ he⟩) d
    unfold Controller.limiterAfter at limiter
    split at limiter
    · exact .asked _ _ limiter now silent
    · exact .waited limiter now.ge silent

theorem limitStep_of_step {a : Action} (h : step cfg s a = some s') : LimitStep s s' := by
  -- The events of the other tasks.
  have silent (other : ∀ c input, a ≠ .ctrl c input) (d : String) :
      ∀ e ∈ s'.trace.drop s.trace.length, e.allowedFor d = none := by
    have cases := step_cases h
    intro e he
    refine allowedFor_eq_none (fun c m rl t eq => ?_) d
    subst eq
    cases cases with
    | ctrl c input => exact other c input rfl
    | dev i input next move =>
      rw [State.afterDev, List.drop_left] at he
      cases Device.events_of_moves move _ he with
      | plain _ plain => cases plain
    | fired | firedLate | completed | evicted =>
      simp [State.afterTimer] at he
    | ambient a sh' reaper' events now inflight sessions cache timer auth plain notices =>
      rw [List.drop_left] at he
      cases plain _ he
  cases a with
  | ctrl c input =>
    obtain ⟨next, hn, rfl⟩ := Option.map_eq_some_iff.1 h
    exact limitStep_ctrl hn
  | dev i input =>
    have events := silent (by simp)
    obtain ⟨next, hn, rfl⟩ := Option.map_eq_some_iff.1 h
    have frame := Device.frame_of_step hn
    refine .waited ?_ ?_ events
    · rw [State.afterDev, frame]
    · rw [State.afterDev, frame]
  | timer e =>
    have events := silent (by simp)
    obtain ⟨next, hn, rfl⟩ := Option.map_eq_some_iff.1 h
    unfold Timer.step at hn
    split at hn
    · split_ifs at hn
      split at hn <;> cases hn <;> exact .waited rfl le_rfl events
    · cases hn
      exact .waited rfl le_rfl events
    · cases hn
    · cases hn
  | reaper =>
    have events := silent (by simp)
    cases h
    have same : (Reaper.step s.shared s.reaper).shared.metered = s.shared.metered := by
      unfold Reaper.step
      split
      · rfl
      · split <;> rfl
      all_goals rfl
    exact .waited (congrArg Prod.snd same) (congrArg Prod.fst same).ge events
  | advance now =>
    have events := silent (by simp)
    simp only [step] at h
    split_ifs at h with later
    cases h
    exact .waited rfl later events
  | allow d c =>
    have events := silent (by simp)
    cases h
    exact .asked d c rfl rfl events
  | evict k =>
    have events := silent (by simp)
    simp only [step] at h
    split_ifs at h
    cases h
    exact .waited rfl le_rfl events
  | revokeControllerToken p | revokeDeviceToken p | closeOutbound i =>
    have events := silent (by simp)
    cases h
    exact .waited rfl le_rfl events

/-! ## Timed histories -/

/-- The loop that placed a request for a device. -/
def Event.placedFor (d : String) : Event → Option ℕ
  | .placed c _ m _ => if m.targetDeviceId = d then some c else none
  | _ => none

/-- The events of a step with the time at which they happen. -/
def stamp (s : State) (_ : Action) (s' : State) : List (Instant × Event) :=
  (s'.trace.drop s.trace.length).map fun e => (s.shared.now, e)

/-- The runs whose steps all meet `ok`, with their timed histories. -/
def TimedRun (cfg : Config) (ok : State → Action → Prop) (log : List (Instant × Event))
    (s : State) : Prop :=
  Runs.Logged (step cfg) ok stamp (State.init cfg) log s

/-- The values that `f` reads off the events from `t₀` to `t₁`. -/
def during (t₀ t₁ : Instant) (f : Event → Option ℕ) (log : List (Instant × Event)) : List ℕ :=
  log.filterMap fun x => if t₀ ≤ x.1 ∧ x.1 ≤ t₁ then f x.2 else none

/-- The times of the events that `f` reads a value off. -/
def times (f : Event → Option ℕ) (log : List (Instant × Event)) : List Instant :=
  log.filterMap fun x => (f x.2).map fun _ => x.1

theorem length_during (t₀ t₁ : Instant) (f : Event → Option ℕ) (log : List (Instant × Event)) :
    (during t₀ t₁ f log).length = (between t₀ t₁ (times f log)).length := by
  induction log with
  | nil => rfl
  | cons x log ih =>
    unfold during times between at ih ⊢
    cases hf : f x.2 with
    | none => simpa [hf] using ih
    | some c =>
      by_cases inside : t₀ ≤ x.1 ∧ x.1 ≤ t₁
      · simpa [hf, inside] using ih
      · simpa [hf, inside] using ih

theorem during_snoc (t₀ t₁ : Instant) (f : Event → Option ℕ) (log : List (Instant × Event))
    (x : Instant × Event) : during t₀ t₁ f (log ++ [x]) =
      during t₀ t₁ f log ++ (if t₀ ≤ x.1 ∧ x.1 ≤ t₁ then f x.2 else none).toList := by
  rw [during, List.filterMap_append]
  rfl

/-- What the limiter has said to a loop since its last message: the request it allowed and that is
not yet placed. -/
def Event.grant (c : ℕ) : Event → Option (Option (ControllerMessage × Instant))
  | .allowed c' m _ now => if c' = c then some (some (m, now)) else none
  | .pulled c' _ | .placed c' _ _ _ => if c' = c then some none else none
  | _ => none

/-- The request that the limiter allowed to loop `c` since its last message, and when. -/
def granted (c : ℕ) (events : List Event) : Option (ControllerMessage × Instant) :=
  (History.latest (Event.grant c) events).join

/-- The limiter allowed the request for the device that a loop is about to place, since the message
came and at the same time. -/
def PlacesAllowed (d : String) (s : State) (a : Action) : Prop :=
  ∀ c m rx session, a = .ctrl c .tick → (s.ctrl c).pc = .forwarding m rx session →
    m.targetDeviceId = d → s.shared.outboundOpen session.outboundTx = true →
    granted c s.trace = some (m, s.shared.now)

/-- Requests are allowed at the time that the limiter says, and those for the device are placed when
they are allowed. -/
def Prompt (d : String) (log : List (Instant × Event)) : Prop :=
  History.Justified (fun past x =>
    (∀ c m limiter now, x.2 = .allowed c m limiter now → now = x.1) ∧
    ∀ c i m request, x.2 = .placed c i m request → m.targetDeviceId = d →
      granted c (past.map Prod.snd) = some (m, x.1)) log

/-- Whether a request that was allowed counts for a device in an interval. -/
def counts (d : String) (t₀ t₁ : Instant) : Option (ControllerMessage × Instant) → ℕ
  | some (m, t) => if m.targetDeviceId = d ∧ t₀ ≤ t ∧ t ≤ t₁ then 1 else 0
  | none => 0

/-- A loop places no more requests for the device than it is allowed. -/
theorem count_placed_le {d : String} {log : List (Instant × Event)} (prompt : Prompt d log)
    (t₀ t₁ : Instant) (c : ℕ) :
    (during t₀ t₁ (Event.placedFor d) log).count c +
        counts d t₀ t₁ (granted c (log.map Prod.snd)) ≤
      (during t₀ t₁ (Event.allowedFor d) log).count c := by
  induction log using List.reverseRecOn with
  | nil => exact le_rfl
  | append_singleton log x ih =>
    obtain ⟨before, last⟩ := History.justified_snoc.1 prompt
    have ih := ih before
    obtain ⟨t, e⟩ := x
    rw [during_snoc, during_snoc, List.map_append, List.map_singleton, List.count_append,
      List.count_append]
    -- Events that say nothing of the requests of this loop.
    have silent (grant : e.grant c = none)
        (placed : (if t₀ ≤ t ∧ t ≤ t₁ then e.placedFor d else none).toList.count c = 0)
        (allowed : (if t₀ ≤ t ∧ t ≤ t₁ then e.allowedFor d else none).toList.count c = 0) :
        (during t₀ t₁ (Event.placedFor d) log).count c +
            (if t₀ ≤ t ∧ t ≤ t₁ then e.placedFor d else none).toList.count c +
            counts d t₀ t₁ (granted c (log.map Prod.snd ++ [e])) ≤
          (during t₀ t₁ (Event.allowedFor d) log).count c +
            (if t₀ ≤ t ∧ t ≤ t₁ then e.allowedFor d else none).toList.count c := by
      rw [placed, allowed, granted, History.latest_snoc, grant, Option.none_or]
      exact ih
    cases e with
    | allowed c' m limiter now =>
      obtain rfl : now = t := last.1 c' m limiter now rfl
      by_cases hc : c' = c
      · subst hc
        rw [granted, History.latest_snoc]
        simp only [Event.grant, if_true, Option.some_or, Option.join_some, counts,
          Event.allowedFor, Event.placedFor, ite_self, Option.toList_none, List.count_nil]
        split_ifs <;> simp_all <;> omega
      · refine silent (by simp [Event.grant, hc]) (by simp [Event.placedFor]) ?_
        simp only [Event.allowedFor]
        split_ifs <;> simp [hc]
    | placed c' i m request =>
      by_cases hc : c' = c
      · subst hc
        rw [granted, History.latest_snoc]
        by_cases hd : m.targetDeviceId = d
        · rw [last.2 c' i m request rfl hd] at ih
          simp only [Event.grant, if_true, Option.some_or, Option.join_some, counts,
            Event.allowedFor, Event.placedFor, ite_self, Option.toList_none, List.count_nil] at ih ⊢
          split_ifs at ih ⊢ <;> simp_all
        · simp only [Event.grant, if_true, Option.some_or, Option.join_some, counts,
            Event.allowedFor, Event.placedFor, if_neg hd, ite_self, Option.toList_none,
            List.count_nil]
          exact le_trans (Nat.le_add_right _ _) ih
      · refine silent (by simp [Event.grant, hc]) ?_ (by simp [Event.allowedFor])
        simp only [Event.placedFor]
        split_ifs <;> simp [hc]
    | pulled c' m =>
      by_cases hc : c' = c
      · rw [granted, History.latest_snoc]
        simp only [Event.grant, hc, if_true, Option.some_or, counts, Event.allowedFor,
          Event.placedFor, ite_self, Option.toList_none, List.count_nil]
        exact le_trans (Nat.le_add_right _ _) ih
      · exact silent (by simp [Event.grant, hc]) (by simp [Event.placedFor])
          (by simp [Event.allowedFor])
    | _ => exact silent rfl (by simp [Event.placedFor]) (by simp [Event.allowedFor])

/-- The requests placed for the device in an interval are at most those allowed in it. -/
theorem length_placed_le {d : String} {log : List (Instant × Event)} (prompt : Prompt d log)
    (t₀ t₁ : Instant) : (during t₀ t₁ (Event.placedFor d) log).length ≤
      (during t₀ t₁ (Event.allowedFor d) log).length := by
  refine List.Subperm.length_le (List.subperm_ext_iff.2 fun c _ => ?_)
  exact le_trans (Nat.le_add_right _ _) (count_placed_le prompt t₀ t₁ c)

/-! ## Whole runs -/

section Runs

variable {ok : State → Action → Prop} {log : List (Instant × Event)}

theorem map_stamp {a : Action} (h : step cfg s a = some s') :
    s.trace ++ (stamp s a s').map Prod.snd = s'.trace := by
  obtain ⟨events, trace⟩ := trace_of_cases (step_cases h)
  simp [stamp, trace]

theorem map_snd_log (h : TimedRun cfg ok log s) : log.map Prod.snd = s.trace := by
  refine Runs.Logged.invariant (I := fun log s => log.map Prod.snd = s.trace) rfl ?_ h
  intro log s a s' _ ih _ hs
  rw [List.map_append, ih, map_stamp hs]

/-- A request is placed by a loop that is about to place it, on a channel that is open. -/
theorem open_of_placed {a : Action} {events : List Event} (h : step cfg s a = some s')
    (trace : s'.trace = s.trace ++ events) {c i : ℕ} {m : ControllerMessage}
    {request : DataRequest} (placed : .placed c i m request ∈ events) :
    a = .ctrl c .tick ∧ events = [.placed c i m request] ∧
      ∃ rx session, (s.ctrl c).pc = .forwarding m rx session ∧
        s.shared.outboundOpen session.outboundTx = true := by
  obtain ⟨input, next, rfl, rfl, rfl, move⟩ := ctrl_of_placed (step_cases h) trace placed
  obtain ⟨rx, session, at_pc, hnext, -⟩ := Controller.placed_of_moves move placed
  obtain ⟨next', hn, eq⟩ := Option.map_eq_some_iff.1 h
  have events : next'.events = next.events :=
    List.append_cancel_left (congrArg State.trace eq)
  cases input <;> simp only [Controller.step, at_pc] at hn <;> cases hn
  refine ⟨rfl, by rw [hnext], rx, session, at_pc, ?_⟩
  by_contra shut
  rw [Controller.forward, if_neg shut] at events
  rw [← events] at placed
  cases placed

/-- The limiter says the time at which it allows a request. -/
theorem allowed_now {a : Action} {events : List Event} (h : step cfg s a = some s')
    (trace : s'.trace = s.trace ++ events) {c : ℕ} {m : ControllerMessage}
    {limiter : RateLimiter} {now : Instant} (allowed : .allowed c m limiter now ∈ events) :
    now = s.shared.now := by
  have quiet (silent : ∀ d, ∀ e ∈ s'.trace.drop s.trace.length, e.allowedFor d = none) :
      now = s.shared.now := by
    rw [trace, List.drop_left] at silent
    have := silent m.targetDeviceId _ allowed
    simp [Event.allowedFor] at this
  cases limitStep_of_step h with
  | granted c' m' within limiter' now' trace' =>
    rw [trace'] at trace
    rw [← List.append_cancel_left trace] at allowed
    simp only [List.mem_singleton, Event.allowed.injEq] at allowed
    exact allowed.2.2.2
  | asked d c limiter now silent => exact quiet silent
  | waited limiter now silent => exact quiet silent

theorem prompt_of_run {d : String} (h : TimedRun cfg (PlacesAllowed d) log s) : Prompt d log := by
  refine Runs.Logged.invariant (I := fun log _ => Prompt d log) History.justified_nil ?_ h
  intro log s a s' hr ih ok hs
  obtain ⟨events, trace⟩ := trace_of_cases (step_cases hs)
  have new : stamp s a s' = events.map fun e => (s.shared.now, e) := by
    rw [stamp, trace, List.drop_left]
  refine History.Justified.extend ih fun x hx => ?_
  rw [new] at hx ⊢
  obtain ⟨e, he, rfl⟩ := List.mem_map.1 hx
  cases e with
  | allowed c m limiter now =>
    refine Or.inl fun past => ⟨?_, by simp⟩
    rintro _ _ _ _ ⟨⟩
    exact allowed_now hs trace he
  | placed c i m request =>
    obtain ⟨rfl, rfl, rx, session, at_pc, isOpen⟩ := open_of_placed hs trace he
    refine Or.inr ⟨[], rfl, by simp, by simp, ?_⟩
    rintro _ _ _ _ ⟨⟩ target
    rw [map_snd_log hr]
    exact ok c m rx session rfl at_pc target isOpen
  | _ => exact Or.inl fun past => ⟨by simp, by simp⟩

/-- The limiter and what it has allowed so far are within the rate of the devices. -/
structure Limited (r : ℚ) (log : List (Instant × Event)) (s : State) : Prop where
  rate : s.shared.rateLimiter.deviceRate = r
  sound : s.shared.rateLimiter.Sound s.shared.now
  within : ∀ d, Within r r (times (Event.allowedFor d) log) s.shared.now
    (s.shared.rateLimiter.credit d s.shared.now)

theorem times_append (f : Event → Option ℕ) (log new : List (Instant × Event)) :
    times f (log ++ new) = times f log ++ times f new := List.filterMap_append ..

theorem times_stamp_of_silent {f : Event → Option ℕ} {a : Action}
    (silent : ∀ e ∈ s'.trace.drop s.trace.length, f e = none) : times f (stamp s a s') = [] := by
  rw [times, List.filterMap_eq_nil_iff]
  intro x hx
  obtain ⟨e, he, rfl⟩ := List.mem_map.1 hx
  simp [silent e he]

theorem Limited.step {r : ℚ} (positive : 1 ≤ r) (L : Limited r log s) {a : Action}
    (h : step cfg s a = some s') : Limited r (log ++ stamp s a s') s' := by
  have nonneg : 0 ≤ r := zero_le_one.trans positive
  cases limitStep_of_step h with
  | granted c m within limiter now trace =>
    obtain ⟨keeps, spends⟩ := RateLimiter.allow_spec L.sound m.targetDeviceId m.controllerId
    have new : stamp s a s' =
        [(s.shared.now, .allowed c m s.shared.rateLimiter s.shared.now)] := by
      rw [stamp, trace, List.drop_left]
      rfl
    refine ⟨?_, ?_, fun d => ?_⟩
    · rw [limiter, keeps.rate, L.rate]
    · rw [limiter, now]
      exact keeps.sound
    · rw [limiter, now, times_append, new]
      by_cases hd : m.targetDeviceId = d
      · subst hd
        simp only [times, List.filterMap_cons, Event.allowedFor, if_true, Option.map_some,
          List.filterMap_nil]
        exact (L.within _).spend nonneg (keeps.sound.credit_nonneg _) (spends within)
      · simp only [times, List.filterMap_cons, Event.allowedFor, if_neg hd, Option.map_none,
          List.filterMap_nil, List.append_nil]
        exact (L.within d).lower (keeps.sound.credit_nonneg d) (keeps.credit d)
  | asked d' c limiter now silent =>
    obtain ⟨keeps, -⟩ := RateLimiter.allow_spec L.sound d' c
    refine ⟨?_, ?_, fun d => ?_⟩
    · rw [limiter, keeps.rate, L.rate]
    · rw [limiter, now]
      exact keeps.sound
    · rw [limiter, now, times_append, times_stamp_of_silent (silent d), List.append_nil]
      exact (L.within d).lower (keeps.sound.credit_nonneg d) (keeps.credit d)
  | waited limiter now silent =>
    have sound := L.sound.later now
    refine ⟨?_, ?_, fun d => ?_⟩
    · rw [limiter, L.rate]
    · rw [limiter]
      exact sound
    · rw [limiter, times_append, times_stamp_of_silent (silent d), List.append_nil]
      have capped := RateLimiter.credit_le_rate s.shared.rateLimiter d s'.shared.now
      have grown := L.sound.credit_later (d := d) now
      rw [L.rate] at capped grown
      exact (L.within d).wait nonneg now (sound.credit_nonneg d) capped grown

theorem limited_of_run (positive : 1 ≤ cfg.rateLimiting.deviceRequestsPerSecond)
    (h : TimedRun cfg ok log s) :
    Limited cfg.rateLimiting.deviceRequestsPerSecond log s := by
  have rate : (1 : ℚ) ≤ cfg.rateLimiting.deviceRequestsPerSecond := by exact_mod_cast positive
  refine Runs.Logged.invariant (I := Limited cfg.rateLimiting.deviceRequestsPerSecond) ?_ ?_ h
  · refine ⟨rfl, ⟨rate, ?_, ?_, ?_, ?_⟩, fun d => ?_⟩
    · exact (by norm_num : (1 : ℚ) ≤ 300)
    · intro d b h
      cases h
    · intro d b h
      cases h
    · intro d b h
      cases h
    · exact Within.start _ (zero_le_one.trans rate) (zero_le_one.trans rate) _
  · intro log s a s' _ L _ hs
    exact L.step rate hs

/-- With rate zero nothing is ever allowed. -/
theorem times_of_rate_zero (zero : cfg.rateLimiting.deviceRequestsPerSecond = 0)
    (h : TimedRun cfg ok log s) (d : String) : times (Event.allowedFor d) log = [] := by
  refine (Runs.Logged.invariant (I := fun log s => s.shared.rateLimiter.deviceRate = 0 ∧
    times (Event.allowedFor d) log = []) ⟨?_, rfl⟩ ?_ h).2
  · exact (congrArg (Nat.cast : ℕ → ℚ) zero).trans Nat.cast_zero
  · rintro log s a s' - ⟨rate, none⟩ - hs
    have refused (d' c : String) :
        (s.shared.rateLimiter.allow s.shared.now d' c).1 = false ∧
          (s.shared.rateLimiter.allow s.shared.now d' c).2.deviceRate = 0 :=
      RateLimiter.allow_of_rate_zero rate d' c
    cases limitStep_of_step hs with
    | granted c m within limiter now trace =>
      rw [(refused _ _).1] at within
      cases within
    | asked d' c limiter now silent =>
      rw [times_append, none, times_stamp_of_silent (silent d), limiter]
      exact ⟨(refused _ _).2, rfl⟩
    | waited limiter now silent =>
      rw [times_append, none, times_stamp_of_silent (silent d), limiter]
      exact ⟨rate, rfl⟩

/-- In every run in which each request for a device is placed at the time at which the limiter
allowed it, the device gets at most `max 1 r + r * T` requests in `T` seconds if its limit is
`r`. -/
theorem forwarded_within_limit (d : String) (h : TimedRun cfg (PlacesAllowed d) log s)
    (t₀ : Instant) {T : Duration} (length : 0 ≤ T) :
    ((during t₀ (t₀ + T) (Event.placedFor d) log).length : ℚ) ≤
      max 1 cfg.rateLimiting.deviceRequestsPerSecond +
        cfg.rateLimiting.deviceRequestsPerSecond * T := by
  have placed : ((during t₀ (t₀ + T) (Event.placedFor d) log).length : ℚ) ≤
      (between t₀ (t₀ + T) (times (Event.allowedFor d) log)).length := by
    rw [← length_during]
    exact_mod_cast length_placed_le (prompt_of_run h) t₀ (t₀ + T)
  refine placed.trans ?_
  rcases Nat.eq_zero_or_pos cfg.rateLimiting.deviceRequestsPerSecond with zero | positive
  · rw [times_of_rate_zero zero h, zero]
    simp [between]
  · have windows := ((limited_of_run positive h).within d).windows t₀ (t₀ + T) (by linarith)
    rw [add_sub_cancel_left] at windows
    exact windows.trans (by gcongr; exact le_max_right _ _)

end Runs

/-! ### Concrete runs -/

namespace Small

/-- The small relay with a limit of one request per second for a device. -/
def slow : Config :=
  { config with rateLimiting := { config.rateLimiting with deviceRequestsPerSecond := 1 } }

/-- Loop 0 sends two requests on one stream, at one time. -/
def burstRun : List Action :=
  register 0 "d" "t" ++ join 0 (request 1) ++ forward 0 ++ data 0 "d" 1 ++ devTicks 0 1 ++
    ticks 0 4 ++ joinAgain 0 (request 2) ++ forward 0

/-- A request of controller `"c"` to some device. -/
def requestTo (deviceId : String) (sequenceNumber : ℤ) : ControllerMessage :=
  { request sequenceNumber with targetDeviceId := deviceId }

/-- Loop 2 sends two requests to device `"e"` at once; loops 0 and 1 send one each to device `"d"`,
the second of them a second later. -/
def steadyRun : List Action :=
  register 0 "d" "t" ++ register 1 "e" "t" ++ join 2 (requestTo "e" 1) ++ forward 2 ++
    data 1 "e" 1 ++ devTicks 1 1 ++ ticks 2 4 ++ joinAgain 2 (requestTo "e" 2) ++ forward 2 ++
    join 0 (request 1) ++ forward 0 ++ Action.advance 1 :: (join 1 (request 2) ++ forward 1)

/-- A loop places a request for device `"d"` only when it was just allowed. -/
def isAllowed (s : State) : Action → Bool
  | .ctrl c .tick =>
    match (s.ctrl c).pc with
    | .forwarding m _ _ =>
      m.targetDeviceId != "d" || granted c s.trace == some (m, s.shared.now)
    | _ => true
  | _ => true

theorem isAllowed_sound (s : State) (a : Action) (h : isAllowed s a = true) :
    PlacesAllowed "d" s a := by
  rintro c m rx session rfl at_pc target -
  simp only [isAllowed, at_pc, target] at h
  simpa using h

end Small

/-- A stream sends two requests at once to a device that may get one in a second. -/
theorem burst_exceeds_limit :
    ¬ ∀ cfg log s d (t₀ T : ℚ), TimedRun cfg (fun _ _ => True) log s → 0 ≤ T →
      ((during t₀ (t₀ + T) (Event.placedFor d) log).length : ℚ) ≤
        max 1 cfg.rateLimiting.deviceRequestsPerSecond +
          cfg.rateLimiting.deviceRequestsPerSecond * T := by
  intro claim
  obtain ⟨⟨log, s⟩, run, count⟩ : ∃ out, Runs.executeLogged (step Small.slow) (fun _ _ => true)
      stamp [] (State.init Small.slow) Small.burstRun = some out ∧
      (during 0 (0 + 0) (Event.placedFor "d") out.1).length = 2 :=
    Option.map_eq_some_iff.1 (by decide +kernel)
  have bound := claim Small.slow log s "d" 0 0
    (.of_executeLogged (fun _ _ _ => trivial) _ .start run) le_rfl
  simp only at count
  rw [count] at bound
  norm_num [Small.slow] at bound

theorem steady_requests_are_within_limit :
    ∃ log s, TimedRun Small.slow (PlacesAllowed "d") log s ∧
      (during 0 0 (Event.placedFor "e") log).length = 2 ∧
      (during 0 (0 + 1) (Event.placedFor "d") log).length = 2 ∧
      ((during 0 (0 + 1) (Event.placedFor "d") log).length : ℚ) ≤
        max 1 Small.slow.rateLimiting.deviceRequestsPerSecond +
          Small.slow.rateLimiting.deviceRequestsPerSecond * 1 := by
  obtain ⟨⟨log, s⟩, run, count⟩ : ∃ out, Runs.executeLogged (step Small.slow) Small.isAllowed
      stamp [] (State.init Small.slow) Small.steadyRun = some out ∧
      ((during 0 0 (Event.placedFor "e") out.1).length,
        (during 0 (0 + 1) (Event.placedFor "d") out.1).length) = (2, 2) :=
    Option.map_eq_some_iff.1 (by decide +kernel)
  simp only [Prod.mk.injEq] at count
  have timed : TimedRun Small.slow (PlacesAllowed "d") log s :=
    .of_executeLogged Small.isAllowed_sound _ .start run
  exact ⟨log, s, timed, count.1, count.2, forwarded_within_limit "d" timed 0 zero_le_one⟩

end GrpcRelay
