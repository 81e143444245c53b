import GrpcRelay.Buckets
import GrpcRelay.Lib.Rounding

/-!
# Token buckets in floating point

The token buckets of `rate_limiter.rs` once more, with the rounding of their `f64` arithmetic: the
rates and tokens of a `RateLimiter` are here the values of such numbers, and every operation on them
is rounded.  `maybe_cleanup` does no such arithmetic.  Without rounding these are the buckets of
`RateLimiter` (`performAll_exact`).

What is dropped after five minutes without a refill would be filled up by the next check, however
the operations round: a bucket whose rate is at least one can be forgotten without anybody noticing
(`eviction_is_unobservable`).
-/

namespace GrpcRelay.RateLimiter.F64

open Float64

variable (R : Rounding)

/-- `Duration::as_secs_f64`: the whole seconds and the nanoseconds are converted and added. -/
def asSecsF64 (d : Duration) : ℚ :=
  R.round (R.round ⌊d⌋ + R.round (R.round ⌊(d - ⌊d⌋) * 1000000000⌋ / 1000000000))

/-- `RateLimiter::new`. -/
def new (config : RateLimitConfig) : RateLimiter where
  deviceRate := R.round config.deviceRequestsPerSecond
  controllerRate := R.round (R.round config.controllerRequestsPerMinute / 60)
  globalRate := R.round config.globalRequestsPerSecond
  buckets := ∅
  cleanupCounter := 0
  bucketTtl := 300

/-- The bucket refilled for the time since it was last refilled. -/
def refill (b : Bucket) (rate : ℚ) (now : Instant) : Bucket :=
  let elapsed := asSecsF64 R (saturatingDurationSince now b.last)
  if 0 < elapsed then ⟨min rate (R.round (b.tokens + R.round (elapsed * rate))), now⟩ else b

/-- `RateLimiter::check_key`. -/
def checkKey (rl : RateLimiter) (key : String) (rate : ℚ) (now : Instant) : Bool × RateLimiter :=
  if rate ≤ 0 then (false, rl)
  else
    match rl.buckets.lookup key with
    | some b =>
      let b := refill R b rate now
      if 1 ≤ b.tokens then
        (true, { rl with
          buckets := rl.buckets.insert key { b with tokens := R.round (b.tokens - 1) } })
      else (false, { rl with buckets := rl.buckets.insert key b })
    | none =>
      (true, { rl with buckets := rl.buckets.insert key ⟨max (R.round (rate - 1)) 0, now⟩ })

/-! ## Sequences of calls -/

/-- The limiter after a call. -/
def perform (rl : RateLimiter) : Op → RateLimiter
  | .checkKey key rate now => (checkKey R rl key rate now).2
  | .maybeCleanup now => rl.maybeCleanup now

/-- The result of a call of `check_key`. -/
def result (rl : RateLimiter) : Op → Option Bool
  | .checkKey key rate now => some (checkKey R rl key rate now).1
  | .maybeCleanup _ => none

/-- One call after others, of which the results are kept. -/
def performNext (acc : List (Op × Bool) × RateLimiter) (op : Op) :
    List (Op × Bool) × RateLimiter :=
  (acc.1 ++ (result R acc.2 op).toList.map fun ok => (op, ok), perform R acc.2 op)

/-- The results of a sequence of calls, and the limiter after it. -/
def performAll (rl : RateLimiter) (ops : List Op) : List (Op × Bool) × RateLimiter :=
  ops.foldl (performNext R) ([], rl)

/-- A check of one of the keys of the limiter. -/
def checkOf (config : RateLimitConfig) (k : RateKey) (now : Instant) : Op :=
  .checkKey k.key ((new R config).keyRate k) now

/-- The call is a check. -/
def isCheck : Op → Bool
  | .checkKey .. => true
  | .maybeCleanup _ => false

/-- A cleanup, or a check of the global key or the key of a device. -/
def AvoidsControllers (config : RateLimitConfig) (op : Op) : Prop :=
  (∃ now, op = .maybeCleanup now) ∨
    ∃ k now, (∀ c, k ≠ .controller c) ∧ op = checkOf R config k now

/-- Ten tenths of a second add up to less than a token. -/
example : (performAll .binary64 (new .binary64 ⟨1, 1, 1, 1, 1, 1, 1, 1⟩) ((List.range 11).map
      fun i => checkOf .binary64 ⟨1, 1, 1, 1, 1, 1, 1, 1⟩ (.device "d") (i / 10))).1.map Prod.snd =
    true :: List.replicate 10 false := by
  decide +kernel

/-! ## Without rounding -/

/-- The time is a whole number of nanoseconds, as every `Instant` and every `Duration` is. -/
def WholeNanos (t : ℚ) : Prop := ∃ n : ℤ, t * 1000000000 = n

/-- Every bucket was last refilled at such a time. -/
def WholeBuckets (rl : RateLimiter) : Prop :=
  ∀ key b, rl.buckets.lookup key = some b → WholeNanos b.last

section Exact

variable {rl : RateLimiter} {now : Instant}

theorem WholeNanos.since {earlier : Instant} (whole : WholeNanos now)
    (whole' : WholeNanos earlier) : WholeNanos (saturatingDurationSince now earlier) := by
  obtain ⟨n, hn⟩ := whole
  obtain ⟨m, hm⟩ := whole'
  rcases max_choice 0 (now - earlier) with none | some
  · exact ⟨0, by rw [saturatingDurationSince, none, zero_mul, Int.cast_zero]⟩
  · refine ⟨n - m, ?_⟩
    rw [saturatingDurationSince, some, sub_mul, hn, hm, Int.cast_sub]

theorem asSecsF64_exact {d : Duration} (whole : WholeNanos d) : asSecsF64 .exact d = d := by
  obtain ⟨n, hn⟩ := whole
  have nanos : (d - ⌊d⌋) * 1000000000 = (n - ⌊d⌋ * 1000000000 : ℤ) := by
    push_cast
    rw [sub_mul, hn]
  change (⌊d⌋ : ℚ) + ⌊(d - ⌊d⌋) * 1000000000⌋ / 1000000000 = d
  rw [nanos, Int.floor_intCast, ← nanos]
  ring

theorem refill_exact {b : Bucket} (whole : WholeNanos (saturatingDurationSince now b.last))
    (rate : ℚ) : refill .exact b rate now = RateLimiter.refill b rate now := by
  unfold refill
  rw [asSecsF64_exact whole]
  rfl

theorem checkKey_exact (W : WholeBuckets rl) (key : String) (rate : ℚ) (whole : WholeNanos now) :
    checkKey .exact rl key rate now = rl.checkKey key rate now := by
  unfold checkKey RateLimiter.checkKey
  cases found : rl.buckets.lookup key with
  | none => rfl
  | some b =>
    simp only [refill_exact (whole.since (W key b found))]
    rfl

theorem WholeBuckets.checkKey (W : WholeBuckets rl) (key : String) (rate : ℚ)
    (whole : WholeNanos now) : WholeBuckets (rl.checkKey key rate now).2 := by
  rcases le_or_gt rate 0 with zero | positive
  · rw [RateLimiter.checkKey, if_pos zero]
    exact W
  · intro key' b found
    rw [RateLimiter.checkKey_eq rl key positive, DashMap.lookup_insert_ite] at found
    split_ifs at found
    · cases found
      cases old : rl.buckets.lookup key with
      | none => exact whole
      | some b =>
        simp only [RateLimiter.check, RateLimiter.refill]
        split_ifs <;> first | exact whole | exact W key b old
    · exact W key' b found

theorem WholeBuckets.perform (W : WholeBuckets rl) {op : Op} (whole : WholeNanos op.time) :
    WholeBuckets (rl.perform op) := by
  cases op with
  | checkKey key rate now => exact W.checkKey key rate whole
  | maybeCleanup now =>
    intro key b found
    rcases cleaned rl now key with same | ⟨gone, -⟩
    · exact W key b (same ▸ found)
    · rw [RateLimiter.perform, gone] at found
      cases found

theorem performNext_exact {acc : List (Op × Bool) × RateLimiter} (W : WholeBuckets acc.2) {op : Op}
    (whole : WholeNanos op.time) :
    performNext .exact acc op = RateLimiter.performNext acc op := by
  cases op with
  | checkKey key rate now =>
    have same : F64.checkKey .exact acc.2 key rate now = acc.2.checkKey key rate now :=
      checkKey_exact W key rate whole
    simp only [performNext, RateLimiter.performNext, perform, RateLimiter.perform, result,
      RateLimiter.result, same]
  | maybeCleanup now => rfl

/-- Without rounding, the results and the buckets are those of exact arithmetic. -/
theorem performAll_exact (config : RateLimitConfig) {ops : List Op}
    (whole : ∀ op ∈ ops, WholeNanos op.time) :
    performAll .exact (new .exact config) ops = RateLimiter.performAll (.new config) ops := by
  have run : performAll .exact (new .exact config) ops =
      RateLimiter.performAll (.new config) ops ∧
      WholeBuckets (RateLimiter.performAll (.new config) ops).2 := by
    induction ops using List.reverseRecOn with
    | nil => exact ⟨rfl, fun key b found => by cases found⟩
    | append_singleton ops op ih =>
      obtain ⟨same, W⟩ := ih fun op mem => whole op (List.mem_append_left _ mem)
      have last : WholeNanos op.time := whole op (by simp)
      simp only [performAll, RateLimiter.performAll, List.foldl_concat] at same W ⊢
      rw [same]
      exact ⟨performNext_exact W last, W.perform last⟩
  exact run.1

end Exact

/-! ## One bucket -/

section Bucket

variable {R} {rl : RateLimiter} {now now' : Instant} {key key' : String} {rate : ℚ} {b : Bucket}
  {o o' : Option Bucket}

/-- What a check does to the bucket of its key, if the rate is positive. -/
def check (R : Rounding) (rate : ℚ) (now : Instant) : Option Bucket → Bool × Bucket
  | some b =>
    if 1 ≤ (refill R b rate now).tokens then
      (true, { refill R b rate now with tokens := R.round ((refill R b rate now).tokens - 1) })
    else (false, refill R b rate now)
  | none => (true, ⟨max (R.round (rate - 1)) 0, now⟩)

theorem checkKey_eq (rl : RateLimiter) (key : String) (positive : 0 < rate) (now : Instant) :
    checkKey R rl key rate now = ((check R rate now (rl.buckets.lookup key)).1, { rl with
      buckets := rl.buckets.insert key (check R rate now (rl.buckets.lookup key)).2 }) := by
  unfold checkKey
  rw [if_neg (not_le.2 positive)]
  cases rl.buckets.lookup key with
  | none => rfl
  | some b =>
    simp only [check]
    split_ifs <;> rfl

theorem checkKey_of_zero (rl : RateLimiter) (key : String) (zero : rate ≤ 0) (now : Instant) :
    checkKey R rl key rate now = (false, rl) := by
  rw [checkKey, if_pos zero]

/-- Five minutes are at least three hundred seconds in floating point. -/
theorem le_asSecsF64 {d : Duration} (h : 300 ≤ d) : 300 ≤ asSecsF64 R d := by
  have whole : (300 : ℚ) ≤ R.round ⌊d⌋ := by
    have fixed : R.round (300 : ℕ) = (300 : ℕ) := R.round_natCast (by norm_num)
    have floor : (300 : ℤ) ≤ ⌊d⌋ := Int.le_floor.2 (by exact_mod_cast h)
    have rounded : R.round (300 : ℕ) ≤ R.round ⌊d⌋ := R.mono (by exact_mod_cast floor)
    rw [fixed] at rounded
    exact_mod_cast rounded
  have nanos : (0 : ℚ) ≤ ⌊(d - ⌊d⌋) * 1000000000⌋ := by
    have fraction : 0 ≤ d - ⌊d⌋ := sub_nonneg.2 (Int.floor_le d)
    exact_mod_cast Int.floor_nonneg.2 (mul_nonneg fraction (by norm_num))
  have rest : 0 ≤ R.round (R.round ⌊(d - ⌊d⌋) * 1000000000⌋ / 1000000000) :=
    R.round_nonneg (div_nonneg (R.round_nonneg nanos) (by norm_num))
  have sum := R.mono (show R.round (300 : ℕ) ≤
    R.round ⌊d⌋ + R.round (R.round ⌊(d - ⌊d⌋) * 1000000000⌋ / 1000000000) by
      rw [R.round_natCast (by norm_num)]
      push_cast
      linarith)
  rw [R.round_round, R.round_natCast (by norm_num)] at sum
  exact_mod_cast sum

/-- The rate is a number of the format, and at least one. -/
structure Whole (R : Rounding) (rate : ℚ) : Prop where
  one : 1 ≤ rate
  rounded : R.round rate = rate

/-- What a bucket is known to be like at a time. -/
structure Sound (now : Instant) (b : Bucket) : Prop where
  nonneg : 0 ≤ b.tokens
  past : b.last ≤ now

theorem Sound.later (S : Sound now b) (h : now ≤ now') : Sound now' b :=
  ⟨S.nonneg, S.past.trans h⟩

theorem Sound.refill (S : Sound now b) (W : Whole R rate) : Sound now (refill R b rate now) := by
  unfold F64.refill
  dsimp only
  split_ifs with passed
  · refine ⟨le_min (zero_le_one.trans W.one) (R.round_nonneg (add_nonneg S.nonneg ?_)), le_rfl⟩
    exact R.round_nonneg (mul_nonneg passed.le (zero_le_one.trans W.one))
  · exact S

theorem sound_check (W : Whole R rate) (S : ∀ b, o = some b → Sound now b) :
    Sound now (check R rate now o).2 := by
  cases o with
  | none => exact ⟨le_max_right _ _, le_rfl⟩
  | some b =>
    have refilled := (S b rfl).refill W
    unfold check
    dsimp only
    split_ifs with token
    · exact ⟨R.round_nonneg (sub_nonneg.2 token), refilled.past⟩
    · exact refilled

/-- A check after five minutes finds a full bucket, and leaves it like a new one. -/
theorem check_of_rested (W : Whole R rate) (S : Sound now b) (rested : 300 ≤ now - b.last) :
    check R rate now (some b) = check R rate now none := by
  have elapsed : 300 ≤ asSecsF64 R (saturatingDurationSince now b.last) :=
    le_asSecsF64 (rested.trans (le_max_right _ _))
  have full : refill R b rate now = ⟨rate, now⟩ := by
    unfold refill
    dsimp only
    rw [if_pos (by linarith)]
    have gain : rate ≤ asSecsF64 R (saturatingDurationSince now b.last) * rate :=
      le_mul_of_one_le_left (zero_le_one.trans W.one) (by linarith)
    have gained := R.mono gain
    rw [W.rounded] at gained
    have filled := R.mono (gained.trans (le_add_of_nonneg_left S.nonneg))
    rw [W.rounded] at filled
    rw [min_eq_left filled]
  have room : 0 ≤ R.round (rate - 1) := R.round_nonneg (sub_nonneg.2 W.one)
  rw [check, check, full, if_pos W.one, max_eq_left room]

/-! ## With and without cleanups -/

/-- The bucket of a key in a run with cleanups and in one without: they are the same, or the first
run has dropped it after five minutes without a refill. -/
structure Forgets (now : Instant) (o o' : Option Bucket) : Prop where
  same : o = o' ∨ o = none ∧ ∃ b, o' = some b ∧ 300 ≤ now - b.last
  sound : ∀ b, o' = some b → Sound now b

namespace Forgets

theorem refl (S : ∀ b, o = some b → Sound now b) : Forgets now o o := ⟨Or.inl rfl, S⟩

theorem later (F : Forgets now o o') (h : now ≤ now') : Forgets now' o o' := by
  refine ⟨F.same.imp_right fun ⟨gone, b, found, rested⟩ => ⟨gone, b, found, ?_⟩,
    fun b found => (F.sound b found).later h⟩
  linarith

/-- A check finds the same and leaves the same. -/
theorem check_eq (F : Forgets now o o') (W : Whole R rate) :
    check R rate now o = check R rate now o' := by
  rcases F.same with same | ⟨gone, b, found, rested⟩
  · rw [same]
  · rw [gone, found, check_of_rested W (F.sound b found) rested]

theorem check (F : Forgets now o o') (W : Whole R rate) :
    Forgets now (some (check R rate now o).2) (some (F64.check R rate now o').2) := by
  rw [F.check_eq W]
  refine refl fun b found => ?_
  cases found
  exact sound_check W F.sound

/-- The first bucket is dropped. -/
theorem drop (F : Forgets now (some b) o') (old : 300 ≤ saturatingDurationSince now b.last) :
    Forgets now none o' := by
  rcases F.same with same | ⟨gone, -⟩
  · refine ⟨Or.inr ⟨rfl, b, same.symm, ?_⟩, F.sound⟩
    exact (le_max_iff.1 old).resolve_left (by norm_num)
  · cases gone

end Forgets

end Bucket

/-- The run with cleanups and the one without. -/
structure Alike (now : Instant) (acc acc' : List (Op × Bool) × RateLimiter) : Prop where
  results : acc.1 = acc'.1
  ttl : acc.2.bucketTtl = 300
  buckets : ∀ k : RateKey,
    Forgets now (acc.2.buckets.lookup k.key) (acc'.2.buckets.lookup k.key)

variable {R} {config : RateLimitConfig} {ops : List Op}

/-- Without the controllers every rate is zero or at least one. -/
theorem keyRate_zero_or_whole {k : RateKey} (h : ∀ c, k ≠ .controller c) :
    (new R config).keyRate k ≤ 0 ∨ Whole R ((new R config).keyRate k) := by
  have rate (n : ℕ) : R.round n ≤ 0 ∨ Whole R (R.round n) := by
    rcases Nat.eq_zero_or_pos n with rfl | positive
    · exact Or.inl (by rw [Nat.cast_zero, R.round_zero])
    · exact Or.inr ⟨R.one_le_round (by exact_mod_cast positive), R.round_round _⟩
  cases k with
  | global | device => exact rate _
  | controller c => exact absurd rfl (h c)

namespace Alike

variable {acc acc' : List (Op × Bool) × RateLimiter} {now now' : Instant}

theorem start (config : RateLimitConfig) (now : Instant) :
    Alike now ([], new R config) ([], new R config) :=
  ⟨rfl, rfl, fun _ => .refl fun _ found => by cases found⟩

theorem later (A : Alike now acc acc') (h : now ≤ now') : Alike now' acc acc' :=
  ⟨A.results, A.ttl, fun k => (A.buckets k).later h⟩

theorem check (A : Alike now acc acc') {k : RateKey} (h : ∀ c, k ≠ .controller c) :
    Alike now (performNext R acc (checkOf R config k now))
      (performNext R acc' (checkOf R config k now)) := by
  set rate := (new R config).keyRate k with rate_eq
  have rates : rate ≤ 0 ∨ Whole R rate := keyRate_zero_or_whole h
  rcases rates with zero | whole
  · refine ⟨?_, ?_, fun k' => ?_⟩
    · simp only [performNext, checkOf, result, ← rate_eq, checkKey_of_zero _ _ zero, A.results]
    · simp only [performNext, checkOf, perform, ← rate_eq, checkKey_of_zero _ _ zero, A.ttl]
    · simp only [performNext, checkOf, perform, ← rate_eq, checkKey_of_zero _ _ zero]
      exact A.buckets k'
  · have positive : 0 < rate := zero_lt_one.trans_le whole.one
    refine ⟨?_, ?_, fun k' => ?_⟩
    · simp only [performNext, checkOf, result, ← rate_eq, checkKey_eq _ _ positive,
        (A.buckets k).check_eq whole, A.results]
    · simp only [performNext, checkOf, perform, ← rate_eq, checkKey_eq _ _ positive, A.ttl]
    · simp only [performNext, checkOf, perform, ← rate_eq, checkKey_eq _ _ positive]
      by_cases same : k' = k
      · subst same
        rw [AList.lookup_insert, AList.lookup_insert]
        exact (A.buckets k').check whole
      · have other : k'.key ≠ k.key := fun eq => same (RateKey.key_inj.1 eq)
        rw [AList.lookup_insert_ne other, AList.lookup_insert_ne other]
        exact A.buckets k'

theorem cleanup (A : Alike now acc acc') :
    Alike now (performNext R acc (.maybeCleanup now)) acc' := by
  refine ⟨(List.append_nil _).trans A.results, ?_, fun k => ?_⟩
  · exact (sameRates_maybeCleanup acc.2 now).ttl.trans A.ttl
  · have F := A.buckets k
    rcases cleaned acc.2 now k.key with same | ⟨gone, b, found, old⟩
    · rw [performNext, perform, same]
      exact F
    · rw [found] at F
      rw [A.ttl] at old
      rw [performNext, perform, gone]
      exact F.drop old

end Alike

/-- However the operations round, the checks of the global key and of the keys of devices have the
same results with and without cleanups, and a bucket that both limiters have is the same. -/
theorem eviction_is_unobservable (R : Rounding) (config : RateLimitConfig)
    (ordered : Timed.Ordered Op.time ops) (kinds : ∀ op ∈ ops, AvoidsControllers R config op) :
    (performAll R (new R config) ops).1 =
      (performAll R (new R config) (ops.filter isCheck)).1 ∧
    ∀ (k : RateKey) b b', (performAll R (new R config) ops).2.buckets.lookup k.key = some b →
      (performAll R (new R config) (ops.filter isCheck)).2.buckets.lookup k.key = some b' →
      b = b' := by
  obtain ⟨t, upto⟩ := Timed.exists_upto Op.time ops
  have A : Alike t (performAll R (new R config) ops)
      (performAll R (new R config) (ops.filter isCheck)) := by
    rw [performAll, performAll, List.foldl_filter]
    refine Timed.foldl_induction₂ (.start config) (fun _ _ _ _ h A => A.later h) ?_ ordered upto
    intro op mem acc acc' A
    rcases kinds op mem with ⟨now, rfl⟩ | ⟨k, now, kind, rfl⟩
    · exact A.cleanup
    · exact A.check kind
  refine ⟨A.results, fun k b b' found found' => ?_⟩
  rcases (A.buckets k).same with same | ⟨gone, -⟩
  · rw [found, found'] at same
    exact Option.some.inj same
  · rw [found] at gone
    cases gone

/-- A request, a tenth of a second later one that is refused, five minutes in which every check
comes with a cleanup, and two requests. -/
def idleDevice (config : RateLimitConfig) : List Op :=
  checkOf .binary64 config (.device "d") 0 :: checkOf .binary64 config (.device "d") (1 / 10) ::
    List.replicate 256 (.maybeCleanup 301) ++
      [checkOf .binary64 config (.device "d") 301, checkOf .binary64 config (.device "d") 301]

theorem evicted_bucket_is_unobservable :
    (performAll .binary64 (new .binary64 ⟨1, 1, 1, 1, 1, 1, 1, 1⟩)
      (idleDevice ⟨1, 1, 1, 1, 1, 1, 1, 1⟩)).1.map Prod.snd = [true, false, true, false] ∧
    (performAll .binary64 (new .binary64 ⟨1, 1, 1, 1, 1, 1, 1, 1⟩)
      (idleDevice ⟨1, 1, 1, 1, 1, 1, 1, 1⟩)).1 =
      (performAll .binary64 (new .binary64 ⟨1, 1, 1, 1, 1, 1, 1, 1⟩)
        ((idleDevice ⟨1, 1, 1, 1, 1, 1, 1, 1⟩).filter isCheck)).1 := by
  have kinds : ∀ op ∈ idleDevice ⟨1, 1, 1, 1, 1, 1, 1, 1⟩,
      AvoidsControllers .binary64 ⟨1, 1, 1, 1, 1, 1, 1, 1⟩ op := by
    intro op mem
    simp only [idleDevice, List.mem_append, List.mem_cons, List.mem_replicate, List.not_mem_nil,
      or_false] at mem
    rcases mem with (rfl | rfl | ⟨-, rfl⟩) | rfl | rfl
    · exact Or.inr ⟨_, _, by simp, rfl⟩
    · exact Or.inr ⟨_, _, by simp, rfl⟩
    · exact Or.inl ⟨_, rfl⟩
    · exact Or.inr ⟨_, _, by simp, rfl⟩
    · exact Or.inr ⟨_, _, by simp, rfl⟩
  refine ⟨by decide +kernel, ?_⟩
  exact (eviction_is_unobservable .binary64 ⟨1, 1, 1, 1, 1, 1, 1, 1⟩ (by decide +kernel) kinds).1

end GrpcRelay.RateLimiter.F64
