import GrpcRelay.Buckets

/-!
# What refused requests cost

`allow` checks the global limit, then that of the device and then that of the controller, and each
check takes its token before the next one is made.  A request that the limit of its device or of its
controller refuses has taken a token of the global limit, which another tenant then lacks.

So refused requests cost nobody else only where there are none: if a limit is zero and nothing is
allowed, or if the limits of devices and controllers are not below the global one, which then
refuses first (`refused_requests_cost_nobody_iff`).
-/

namespace GrpcRelay

namespace RateLimiter

variable {rl : RateLimiter} {now now' : Instant} {d c : String} {k : RateKey}
  {config : RateLimitConfig}

/-! ## One request -/

/-- The bucket that the check of a key finds. -/
def bucketAt (rl : RateLimiter) (now : Instant) (k : RateKey) : Option Bucket :=
  (rl.maybeCleanup now).buckets.lookup k.key

/-- The key has a token. -/
def passes (rl : RateLimiter) (now : Instant) (k : RateKey) : Bool :=
  (check (rl.keyRate k) now (rl.bucketAt now k)).1

/-- The keys that a request gets to. -/
def reaches (rl : RateLimiter) (now : Instant) (d c : String) : RateKey → Bool
  | .global => true
  | .device d' => d' = d && rl.passes now .global
  | .controller c' => c' = c && rl.passes now .global && rl.passes now (.device d)

/-- A check of a key whose bucket was not changed since the cleanup. -/
structure ChecksAt (rl rl' : RateLimiter) (now : Instant) (k : RateKey) : Prop where
  result : (rl'.checkAt k now).1 = rl.passes now k
  rates : SameRates rl (rl'.checkAt k now).2
  buckets : ∀ k' : RateKey, (rl'.checkAt k now).2.buckets.lookup k'.key =
    if k' = k then some (check (rl.keyRate k) now (rl.bucketAt now k)).2
    else rl'.buckets.lookup k'.key

theorem checksAt {rl' : RateLimiter} (same : SameRates rl rl') (positive : 0 < rl.keyRate k)
    (untouched : rl'.buckets.lookup k.key = rl.bucketAt now k) : ChecksAt rl rl' now k := by
  refine ⟨?_, same.trans (sameRates_checkKey rl' _ _ _), fun k' => ?_⟩
  · rw [checkAt, same.keyRate, checkKey_eq _ _ positive, untouched]
    rfl
  · rw [checkAt, same.keyRate]
    split_ifs with eq
    · rw [eq, lookup_checkKey _ _ positive, untouched]
    · exact lookup_checkKey_of_ne _ _ _ fun h => eq (RateKey.key_inj.1 h)

/-- A request checks the keys in turn, each of which only changes its own bucket. -/
theorem allow_eq (positive : ∀ k, 0 < rl.keyRate k) (now : Instant) (d c : String) :
    (rl.allow now d c).1 = (rl.passes now .global && rl.passes now (.device d) &&
      rl.passes now (.controller c)) ∧
    ∀ k, (rl.allow now d c).2.buckets.lookup k.key =
      if rl.reaches now d c k then some (check (rl.keyRate k) now (rl.bucketAt now k)).2
      else rl.bucketAt now k := by
  have global : ChecksAt rl (rl.maybeCleanup now) now .global :=
    checksAt (sameRates_maybeCleanup rl now) (positive _) rfl
  have device : ChecksAt rl ((rl.maybeCleanup now).checkAt .global now).2 now (.device d) := by
    refine checksAt global.rates (positive _) ?_
    rw [global.buckets, if_neg (by simp)]
    rfl
  have controller : ChecksAt rl
      (((rl.maybeCleanup now).checkAt .global now).2.checkAt (.device d) now).2 now
      (.controller c) := by
    refine checksAt device.rates (positive _) ?_
    rw [device.buckets, if_neg (by simp), global.buckets, if_neg (by simp)]
    rfl
  rw [allow_eq_checks, global.result, device.result]
  cases hg : rl.passes now .global with
  | false =>
    refine ⟨rfl, fun k => ?_⟩
    rw [if_neg (by simp), global.buckets]
    cases k <;> simp [reaches, hg, bucketAt]
  | true =>
    cases hd : rl.passes now (.device d) with
    | false =>
      refine ⟨rfl, fun k => ?_⟩
      rw [if_pos rfl, if_neg (by simp), device.buckets, global.buckets]
      cases k with
      | global | controller c' => simp [reaches, hg, hd, bucketAt]
      | device d' =>
        by_cases same : d' = d
        · simp [reaches, hg, same]
        · simp [reaches, same, bucketAt]
    | true =>
      refine ⟨by simpa using controller.result, fun k => ?_⟩
      rw [if_pos rfl, if_pos rfl, controller.buckets, device.buckets, global.buckets]
      cases k with
      | global => simp [reaches]
      | device d' =>
        by_cases same : d' = d
        · simp [reaches, hg, same]
        · simp [reaches, same, bucketAt]
      | controller c' =>
        by_cases same : c' = c
        · simp [reaches, hg, hd, same]
        · simp [reaches, same, bucketAt]

/-! ## Sequences of requests -/

/-- A call of `allow`, with the clock reading that it makes. -/
structure Ask where
  now : Instant
  deviceId : String
  controllerId : String
  deriving DecidableEq

/-- The call is allowed. -/
def allows (rl : RateLimiter) (q : Ask) : Bool := (rl.allow q.now q.deviceId q.controllerId).1

/-- The limiter after a call. -/
def serve (rl : RateLimiter) (q : Ask) : RateLimiter := (rl.allow q.now q.deviceId q.controllerId).2

/-- The limiter after a sequence of calls. -/
def serveAll (config : RateLimitConfig) (asks : List Ask) : RateLimiter :=
  asks.foldl serve (.new config)

theorem sameRates_serveAll (config : RateLimitConfig) (asks : List Ask) :
    SameRates (.new config) (serveAll config asks) := by
  refine List.foldlRecOn (motive := SameRates (.new config)) asks serve (.refl _) ?_
  exact fun rl same q _ => same.trans (sameRates_allow rl _ _ _)

/-! ### A limit of zero -/

/-- What a key lacks at a time. -/
def deficit (config : RateLimitConfig) (now : Instant) (rl : RateLimiter) (k : RateKey) : ℚ :=
  (RateLimiter.new config).keyRate k - level ((RateLimiter.new config).keyRate k)
    ((RateLimiter.new config).keyRate k) now (rl.buckets.lookup k.key)

/-- A check of the key finds what the key does not lack, and takes a token of it. -/
structure Regular (config : RateLimitConfig) (now : Instant) (rl : RateLimiter) (k : RateKey) :
    Prop where
  filled : FilledAt ((RateLimiter.new config).keyRate k) now (rl.bucketAt now k)
  held : level ((RateLimiter.new config).keyRate k) ((RateLimiter.new config).keyRate k) now
    (rl.bucketAt now k) = (RateLimiter.new config).keyRate k - deficit config now rl k
  check : check ((RateLimiter.new config).keyRate k) now (rl.bucketAt now k) =
    if 1 ≤ (RateLimiter.new config).keyRate k - deficit config now rl k
    then (true, ⟨(RateLimiter.new config).keyRate k - deficit config now rl k - 1, now⟩)
    else (false, ⟨(RateLimiter.new config).keyRate k - deficit config now rl k, now⟩)

namespace Regular

theorem passes_iff (R : Regular config now rl k) (rates : SameRates (.new config) rl) :
    rl.passes now k = true ↔
      1 ≤ (RateLimiter.new config).keyRate k - deficit config now rl k := by
  rw [passes, rates.keyRate, R.check]
  split_ifs with enough
  · exact ⟨fun _ => enough, fun _ => rfl⟩
  · exact ⟨fun h => (by cases h), fun h => absurd h enough⟩

/-- A key that a request gets to and that passes it lacks one token more. -/
theorem deficit_allow (R : Regular config now rl k) (rates : SameRates (.new config) rl)
    (positive : ∀ k, 0 < (RateLimiter.new config).keyRate k) (d c : String) :
    deficit config now (rl.allow now d c).2 k = deficit config now rl k +
      if rl.reaches now d c k && rl.passes now k then 1 else 0 := by
  have passes := R.passes_iff rates
  have positive' (k : RateKey) : 0 < rl.keyRate k := by
    rw [rates.keyRate]
    exact positive k
  rw [deficit, (allow_eq positive' now d c).2 k, rates.keyRate]
  cases rl.reaches now d c k with
  | false =>
    rw [if_neg (by simp), R.held, Bool.false_and, if_neg (by simp)]
    ring
  | true =>
    rw [if_pos rfl, level_check (positive k) R.filled le_rfl, R.check, Bool.true_and]
    by_cases enough : 1 ≤ (RateLimiter.new config).keyRate k - deficit config now rl k
    · rw [if_pos enough, if_pos (passes.2 enough)]
      ring
    · rw [if_neg enough, if_neg (mt passes.1 enough)]
      ring

end Regular

/-- No key lacks more than the global one. -/
structure Dominated (config : RateLimitConfig) (now : Instant) (rl : RateLimiter) : Prop where
  rates : SameRates (.new config) rl
  filled : ∀ k, FilledAt ((RateLimiter.new config).keyRate k) now (rl.buckets.lookup k.key)
  deficits : ∀ k, deficit config now rl k ≤ deficit config now rl .global

theorem one_le_cast {n : ℕ} (h : 1 ≤ n) : (1 : ℚ) ≤ n := by exact_mod_cast h

/-- The global rate is at least one, and no rate is below it. -/
structure Generous (config : RateLimitConfig) : Prop where
  global : 1 ≤ (RateLimiter.new config).keyRate .global
  least : ∀ k, (RateLimiter.new config).keyRate .global ≤ (RateLimiter.new config).keyRate k

theorem Generous.one_le (G : Generous config) (k : RateKey) :
    1 ≤ (RateLimiter.new config).keyRate k := G.global.trans (G.least k)

theorem Generous.positive (G : Generous config) (k : RateKey) :
    0 < (RateLimiter.new config).keyRate k := zero_lt_one.trans_le (G.one_le k)

namespace Dominated

theorem start (config : RateLimitConfig) (now : Instant) : Dominated config now (.new config) := by
  have full (k : RateKey) : deficit config now (.new config) k = 0 := sub_self _
  refine ⟨.refl _, fun _ => filledAt_none, fun k => ?_⟩
  rw [full, full]

/-- A key makes up at least as much as the global one. -/
theorem later (D : Dominated config now rl) (G : Generous config) (h : now ≤ now') :
    Dominated config now' rl := by
  refine ⟨D.rates, fun k => (D.filled k).later h, fun k => ?_⟩
  have before := D.deficits k
  have faster := mul_le_mul_of_nonneg_left (G.least k) (sub_nonneg.2 h)
  unfold deficit at before ⊢
  rw [level_later (G.positive k).le h, level_later (G.positive .global).le h]
  rcases le_total ((RateLimiter.new config).keyRate .global)
    (level ((RateLimiter.new config).keyRate .global) ((RateLimiter.new config).keyRate .global) now
      (rl.buckets.lookup (RateKey.global).key) +
        (now' - now) * (RateLimiter.new config).keyRate .global) with full | short
  · rw [min_eq_left full, sub_self, sub_nonpos]
    exact le_min le_rfl (by linarith)
  · rw [min_eq_right short, sub_le_comm]
    exact le_min (by linarith) (by linarith)

/-- A bucket that a cleanup drops was full. -/
theorem regular (D : Dominated config now rl) (G : Generous config) (k : RateKey) :
    Regular config now rl k := by
  set rate := (RateLimiter.new config).keyRate k with rate_eq
  have F : FilledAt rate now (rl.buckets.lookup k.key) := D.filled k
  have spec : FilledAt rate now (rl.bucketAt now k) ∧
      level rate rate now (rl.bucketAt now k) = rate - deficit config now rl k := by
    rw [deficit, ← rate_eq, sub_sub_cancel]
    unfold bucketAt
    rcases cleaned rl now k.key with same | ⟨gone, b, found, old⟩
    · rw [same]
      exact ⟨F, rfl⟩
    · rw [show rl.bucketTtl = 300 from D.rates.ttl] at old
      have nonneg := (G.positive k).le
      rw [gone, found, (F b found).level_of_old old nonneg (by linarith)]
      exact ⟨filledAt_none, rfl⟩
  refine ⟨spec.1, spec.2, ?_⟩
  rw [check_of_one_le (G.one_le k) spec.1, spec.2]

/-- If the global key passes a request, every key does. -/
theorem passes (D : Dominated config now rl) (G : Generous config)
    (global : rl.passes now .global = true) (k : RateKey) : rl.passes now k = true := by
  rw [(D.regular G _).passes_iff D.rates] at global ⊢
  have less := D.deficits k
  have least := G.least k
  linarith

theorem positive (D : Dominated config now rl) (G : Generous config) (k : RateKey) :
    0 < rl.keyRate k := by
  rw [D.rates.keyRate]
  exact G.positive k

theorem allow (D : Dominated config now rl) (G : Generous config) (d c : String) :
    Dominated config now (rl.allow now d c).2 := by
  refine ⟨D.rates.trans (sameRates_allow rl now d c), fun k => ?_, fun k => ?_⟩
  · rw [(allow_eq (D.positive G) now d c).2 k, D.rates.keyRate]
    split_ifs
    · exact filledAt_some.2 (filled_check (G.positive k) (D.regular G k).filled)
    · exact (D.regular G k).filled
  · have before := D.deficits k
    rw [(D.regular G _).deficit_allow D.rates G.positive,
      (D.regular G _).deficit_allow D.rates G.positive]
    cases hg : rl.passes now .global with
    | true =>
      have cost : (if rl.reaches now d c k && rl.passes now k then (1 : ℚ) else 0) ≤ 1 := by
        split_ifs <;> norm_num
      rw [show (rl.reaches now d c .global && true) = true from rfl, if_pos rfl]
      linarith
    | false =>
      -- The request gets to no other key.
      have silent : (rl.reaches now d c k && rl.passes now k) = false := by
        cases k <;> simp [reaches, hg]
      rw [silent, Bool.and_false, if_neg (by simp)]
      linarith

end Dominated

/-- The request of device `d` and controller `c`. -/
def busyAsk (now : Instant) : Ask := ⟨now, "d", "c"⟩

/-- One second after the first request, `j` requests were made at once. -/
structure Burst (config : RateLimitConfig) (j : ℕ) (rl : RateLimiter) : Prop where
  rates : SameRates (.new config) rl
  recent : ∀ (k : RateKey) b, rl.buckets.lookup k.key = some b →
    Filled ((RateLimiter.new config).keyRate k) 1 b ∧ 0 ≤ b.last
  known : rl.buckets.lookup (RateKey.controller "c").key ≠ none
  others : rl.buckets.lookup (RateKey.device "e").key = none ∧
    rl.buckets.lookup (RateKey.controller "f").key = none
  global : deficit config 1 rl .global = j
  spent : (RateLimiter.new config).keyRate (.device "d") - deficit config 1 rl (.device "d") < 1 ∨
    (RateLimiter.new config).keyRate (.controller "c") - deficit config 1 rl (.controller "c") < 1 ∨
    j ≤ deficit config 1 rl (.device "d") ∧ j ≤ deficit config 1 rl (.controller "c")

/-- The limits are positive, and one of them is below the global one. -/
structure Tight (config : RateLimitConfig) : Prop extends PositiveLimits config where
  less : config.deviceRequestsPerSecond < config.globalRequestsPerSecond ∨
    config.controllerRequestsPerMinute < 60 * config.globalRequestsPerSecond

theorem Tight.positive (T : Tight config) (k : RateKey) :
    0 < (RateLimiter.new config).keyRate k := by
  have large := sixtieth_le_keyRate T.device T.controller T.global k
  linarith

namespace Burst

variable {j : ℕ}

/-- No bucket is old enough to be dropped. -/
theorem bucketAt (S : Burst config j rl) (k : RateKey) :
    rl.bucketAt 1 k = rl.buckets.lookup k.key := by
  rcases cleaned rl 1 k.key with same | ⟨-, b, found, old⟩
  · exact same
  · obtain ⟨filled, recent⟩ := S.recent k b found
    rw [filled.elapsed, show rl.bucketTtl = 300 from S.rates.ttl] at old
    linarith

theorem regular (S : Burst config j rl)
    (h : 1 ≤ (RateLimiter.new config).keyRate k ∨ rl.buckets.lookup k.key ≠ none) :
    Regular config 1 rl k := by
  have filled : FilledAt ((RateLimiter.new config).keyRate k) 1 (rl.buckets.lookup k.key) :=
    fun b found => (S.recent k b found).1
  refine ⟨?_, ?_, ?_⟩
  · rw [S.bucketAt]
    exact filled
  · rw [S.bucketAt, deficit, sub_sub_cancel]
  · rw [S.bucketAt, deficit, sub_sub_cancel]
    rcases h with one | present
    · exact check_of_one_le one filled
    · obtain ⟨b, found⟩ := Option.ne_none_iff_exists'.1 present
      rw [found] at filled ⊢
      exact (filledAt_some.1 filled).check

theorem global_regular (S : Burst config j rl) (T : Tight config) :
    Regular config 1 rl .global := S.regular (Or.inl (one_le_cast T.global))

theorem device_regular (S : Burst config j rl) (T : Tight config) :
    Regular config 1 rl (.device "d") := S.regular (Or.inl (one_le_cast T.device))

theorem controller_regular (S : Burst config j rl) : Regular config 1 rl (.controller "c") :=
  S.regular (Or.inr S.known)

theorem passes_global (S : Burst config j rl) (T : Tight config) :
    rl.passes 1 .global = true ↔ j < config.globalRequestsPerSecond := by
  have rate : (RateLimiter.new config).keyRate .global = config.globalRequestsPerSecond := rfl
  rw [(S.global_regular T).passes_iff S.rates, S.global, rate, le_sub_iff_add_le, add_comm]
  exact_mod_cast Iff.rfl

theorem positive (S : Burst config j rl) (T : Tight config) (k : RateKey) : 0 < rl.keyRate k := by
  rw [S.rates.keyRate]
  exact T.positive k

/-- Once all tokens of the device or of the controller are spent they stay so. -/
theorem spent_allow (S : Burst config j rl) (T : Tight config)
    (few : j < config.globalRequestsPerSecond) :
    (RateLimiter.new config).keyRate (.device "d") -
        deficit config 1 (rl.allow 1 "d" "c").2 (.device "d") < 1 ∨
      (RateLimiter.new config).keyRate (.controller "c") -
        deficit config 1 (rl.allow 1 "d" "c").2 (.controller "c") < 1 ∨
      (j + 1 : ℕ) ≤ deficit config 1 (rl.allow 1 "d" "c").2 (.device "d") ∧
        (j + 1 : ℕ) ≤ deficit config 1 (rl.allow 1 "d" "c").2 (.controller "c") := by
  have global := (S.passes_global T).2 few
  have device := (S.device_regular T).passes_iff S.rates
  have controller := S.controller_regular.passes_iff S.rates
  rw [(S.device_regular T).deficit_allow S.rates T.positive,
    S.controller_regular.deficit_allow S.rates T.positive]
  have reaches : rl.reaches 1 "d" "c" (.device "d") = true := by simp [RateLimiter.reaches, global]
  have reaches' : rl.reaches 1 "d" "c" (.controller "c") = rl.passes 1 (.device "d") := by
    simp [RateLimiter.reaches, global]
  rw [reaches, reaches', Bool.true_and]
  cases hd : rl.passes 1 (.device "d") with
  | false =>
    rw [hd] at device
    exact Or.inl (not_le.1 fun h => by simpa using device.2 (by simpa using h))
  | true =>
    cases hc : rl.passes 1 (.controller "c") with
    | false =>
      rw [hc] at controller
      exact Or.inr (Or.inl (not_le.1 fun h => by simpa using controller.2 (by simpa using h)))
    | true =>
      have hd := device.1 hd
      have hc := controller.1 hc
      rcases S.spent with empty | empty | ⟨less, less'⟩
      · linarith
      · linarith
      · refine Or.inr (Or.inr ⟨?_, ?_⟩) <;> push_cast <;> simp <;> assumption

theorem allow (S : Burst config j rl) (T : Tight config)
    (few : j < config.globalRequestsPerSecond) : Burst config (j + 1) (rl.allow 1 "d" "c").2 := by
  have lookups (k : RateKey) : (rl.allow 1 "d" "c").2.buckets.lookup k.key =
      if rl.reaches 1 "d" "c" k
      then some (check ((RateLimiter.new config).keyRate k) 1 (rl.buckets.lookup k.key)).2
      else rl.buckets.lookup k.key := by
    rw [(allow_eq (S.positive T) 1 "d" "c").2, S.bucketAt, S.rates.keyRate]
  have filled (k : RateKey) :
      FilledAt ((RateLimiter.new config).keyRate k) 1 (rl.buckets.lookup k.key) :=
    fun b found => (S.recent k b found).1
  refine ⟨S.rates.trans (sameRates_allow rl 1 "d" "c"), ?_, ?_, ⟨?_, ?_⟩, ?_, S.spent_allow T few⟩
  · intro k b found
    rw [lookups] at found
    split_ifs at found
    · obtain rfl := Option.some.inj found
      refine ⟨filled_check (T.positive k) (filled k), ?_⟩
      rw [last_check (filled k)]
      exact zero_le_one
    · exact S.recent k b found
  · rw [lookups]
    split_ifs
    · simp
    · exact S.known
  · rw [lookups, if_neg (by simp [reaches])]
    exact S.others.1
  · rw [lookups, if_neg (by simp [reaches])]
    exact S.others.2
  · rw [(S.global_regular T).deficit_allow S.rates T.positive, S.global,
      (S.passes_global T).2 few]
    simp [reaches]

/-- One second after the first request nothing is spent. -/
theorem start (T : Tight config) : Burst config 0 (serveAll config [busyAsk 0]) := by
  have empty (k : RateKey) : (RateLimiter.new config).bucketAt 0 k = none := by
    rcases cleaned (.new config) 0 k.key with same | ⟨gone, -⟩
    · exact same
    · exact gone
  have passes (k : RateKey) : (RateLimiter.new config).passes 0 k = true := by
    rw [RateLimiter.passes, empty]
    rfl
  have lookups (k : RateKey) : (serveAll config [busyAsk 0]).buckets.lookup k.key =
      if (RateLimiter.new config).reaches 0 "d" "c" k
      then some ⟨max ((RateLimiter.new config).keyRate k - 1) 0, 0⟩ else none := by
    rw [serveAll, List.foldl_cons, List.foldl_nil, serve, busyAsk,
      (allow_eq T.positive 0 "d" "c").2, empty]
    rfl
  refine ⟨sameRates_serveAll config _, ?_, ?_, ⟨?_, ?_⟩, ?_, Or.inr (Or.inr ⟨?_, ?_⟩)⟩
  · intro k b found
    rw [lookups] at found
    split_ifs at found
    obtain rfl := Option.some.inj found
    have filled : Filled _ 0 (check ((RateLimiter.new config).keyRate k) 0 none).2 :=
      filled_check (T.positive k) filledAt_none
    exact ⟨filled.later zero_le_one, le_rfl⟩
  · rw [lookups, if_pos (by simp [reaches, passes])]
    simp
  · rw [lookups, if_neg (by simp [reaches])]
  · rw [lookups, if_neg (by simp [reaches])]
  · have held := le_max_right ((RateLimiter.new config).keyRate .global - 1) 0
    rw [deficit, lookups, if_pos (by simp [reaches]), level, min_eq_left (by linarith), sub_self,
      Nat.cast_zero]
  · rw [Nat.cast_zero]
    exact sub_nonneg.2 (level_le_cap _ _ _ _)
  · rw [Nat.cast_zero]
    exact sub_nonneg.2 (level_le_cap _ _ _ _)

theorem replicate (T : Tight config) (few : j ≤ config.globalRequestsPerSecond) :
    Burst config j (serveAll config (busyAsk 0 :: List.replicate j (busyAsk 1))) := by
  induction j with
  | zero => exact start T
  | succ j ih =>
    rw [List.replicate_succ', ← List.cons_append, serveAll, List.foldl_append]
    exact (ih (by omega)).allow T few

end Burst

end RateLimiter

end GrpcRelay
