import GrpcRelay.RateLimiter
import GrpcRelay.Lib.Credit
import GrpcRelay.Lib.Timed

/-!
# Token buckets

A check concerns the bucket of its key alone (`checkKey_eq`), and a cleanup drops buckets that were
not refilled for `bucket_ttl` (`cleaned`).

A bucket with a rate of at least one is known by what it would hold at a time (`level`): a check
that finds a token takes it, and a bucket that is dropped was full.  With a rate below one the cap
is below one too, so a bucket lets one request through when it is created and none after that until
it is dropped (`bucket_refills_iff`).
-/

namespace GrpcRelay

open Credit

namespace RateLimiter

variable {rl : RateLimiter} {now now' : Instant} {key key' : String} {rate : ℚ} {b : Bucket}
  {o : Option Bucket}

/-- The rate of a key, in tokens per second. -/
def keyRate (rl : RateLimiter) : RateKey → ℚ
  | .global => rl.globalRate
  | .device _ => rl.deviceRate
  | .controller _ => rl.controllerRate

/-! ## One bucket -/

/-- What a check does to the bucket of its key, if the rate is positive. -/
def check (rate : ℚ) (now : Instant) : Option Bucket → Bool × Bucket
  | some b =>
    if 1 ≤ (refill b rate now).tokens then
      (true, { refill b rate now with tokens := (refill b rate now).tokens - 1 })
    else (false, refill b rate now)
  | none => (true, ⟨max (rate - 1) 0, now⟩)

theorem checkKey_eq (rl : RateLimiter) (key : String) (positive : 0 < rate) (now : Instant) :
    rl.checkKey key rate now = ((check rate now (rl.buckets.lookup key)).1,
      { rl with buckets := rl.buckets.insert key (check rate now (rl.buckets.lookup key)).2 }) := by
  unfold checkKey
  rw [if_neg (not_le.2 positive)]
  cases rl.buckets.lookup key with
  | none => rfl
  | some b =>
    simp only [check]
    split_ifs <;> rfl

/-- The buckets of other keys stay. -/
theorem lookup_checkKey_of_ne (rl : RateLimiter) (rate : ℚ) (now : Instant) (other : key' ≠ key) :
    (rl.checkKey key rate now).2.buckets.lookup key' = rl.buckets.lookup key' := by
  rcases le_or_gt rate 0 with zero | positive
  · rw [checkKey, if_pos zero]
  · rw [checkKey_eq rl key positive]
    exact AList.lookup_insert_ne other

theorem lookup_checkKey (rl : RateLimiter) (key : String) (positive : 0 < rate) (now : Instant) :
    (rl.checkKey key rate now).2.buckets.lookup key =
      some (check rate now (rl.buckets.lookup key)).2 := by
  rw [checkKey_eq rl key positive]
  exact AList.lookup_insert _

/-- The buckets that were not refilled for `bucket_ttl` may be dropped, the others are kept. -/
theorem cleaned (rl : RateLimiter) (now : Instant) (key : String) :
    (rl.maybeCleanup now).buckets.lookup key = rl.buckets.lookup key ∨
      (rl.maybeCleanup now).buckets.lookup key = none ∧
        ∃ b, rl.buckets.lookup key = some b ∧
          rl.bucketTtl ≤ saturatingDurationSince now b.last := by
  unfold maybeCleanup
  dsimp only
  split_ifs
  · exact Or.inl rfl
  · set stale := rl.buckets.entries.filterMap fun entry =>
      if rl.bucketTtl ≤ saturatingDurationSince now entry.2.last then some entry.1 else none
    have lookups : (stale.foldl (fun buckets key => buckets.erase key) rl.buckets).lookup key =
        if key ∈ stale then none else rl.buckets.lookup key :=
      DashMap.lookup_foldl_erase id (fun _ _ => rfl) stale rl.buckets key
    dsimp only
    rw [lookups]
    split_ifs with dropped
    · obtain ⟨⟨key', b⟩, mem, collected⟩ := List.mem_filterMap.1 dropped
      split_ifs at collected with old
      obtain rfl := Option.some.inj collected
      exact Or.inr ⟨rfl, b, (DashMap.mem_entries_iff _ _ _).1 mem, old⟩
    · exact Or.inl rfl

/-- The bucket holds at most `rate` tokens and was last refilled before `now`. -/
structure Filled (rate : ℚ) (now : Instant) (b : Bucket) : Prop where
  nonneg : 0 ≤ b.tokens
  capped : b.tokens ≤ rate
  past : b.last ≤ now

theorem Filled.later (F : Filled rate now b) (h : now ≤ now') : Filled rate now' b :=
  ⟨F.nonneg, F.capped, F.past.trans h⟩

theorem Filled.elapsed (F : Filled rate now b) :
    saturatingDurationSince now b.last = now - b.last :=
  max_eq_right (sub_nonneg.2 F.past)

/-- What a bucket would hold at a time, if it could hold `cap`; a bucket that is missing is full. -/
def level (rate cap : ℚ) (now : Instant) : Option Bucket → ℚ
  | none => cap
  | some b => min cap (b.tokens + (now - b.last) * rate)

theorem Filled.refill (F : Filled rate now b) :
    refill b rate now = ⟨level rate rate now (some b), now⟩ := by
  unfold RateLimiter.refill
  rw [F.elapsed]
  dsimp only
  split_ifs with h
  · rfl
  · have same : now = b.last := le_antisymm (sub_nonpos.1 (not_lt.1 h)) F.past
    rw [level, same, sub_self, zero_mul, add_zero, min_eq_right F.capped]

variable {cap : ℚ}

theorem level_le_cap (rate cap : ℚ) (now : Instant) (o : Option Bucket) :
    level rate cap now o ≤ cap := by
  cases o with
  | none => exact le_rfl
  | some b => exact min_le_left _ _

/-- The bucket of a key, if there is one, is filled. -/
def FilledAt (rate : ℚ) (now : Instant) (o : Option Bucket) : Prop :=
  ∀ b, o = some b → Filled rate now b

theorem FilledAt.later (F : FilledAt rate now o) (h : now ≤ now') : FilledAt rate now' o :=
  fun b hb => (F b hb).later h

theorem filledAt_none : FilledAt rate now none := fun b h => by cases h

theorem filledAt_some : FilledAt rate now (some b) ↔ Filled rate now b :=
  ⟨fun F => F b rfl, fun F _ h => Option.some.inj h ▸ F⟩

theorem FilledAt.level_nonneg (F : FilledAt rate now o) (nonneg : 0 ≤ rate) (room : 0 ≤ cap) :
    0 ≤ level rate cap now o := by
  cases o with
  | none => exact room
  | some b =>
    have F := filledAt_some.1 F
    have grown := mul_nonneg (sub_nonneg.2 F.past) nonneg
    exact le_min room (add_nonneg F.nonneg grown)

/-- The level grows at the rate, up to the cap. -/
theorem level_later (nonneg : 0 ≤ rate) (later : now ≤ now') (o : Option Bucket) :
    level rate cap now' o = min cap (level rate cap now o + (now' - now) * rate) := by
  have grown := mul_nonneg (sub_nonneg.2 later) nonneg
  cases o with
  | none => exact (min_eq_left (le_add_of_nonneg_right grown)).symm
  | some b =>
    have whole : b.tokens + (now' - b.last) * rate =
        b.tokens + (now - b.last) * rate + (now' - now) * rate := by ring
    simp only [level]
    rw [← min_add_add_right, ← min_assoc, min_eq_left (le_add_of_nonneg_right grown), whole]

/-- A bucket that was just filled holds its tokens. -/
theorem level_now (h : b.tokens ≤ cap) : level rate cap b.last (some b) = b.tokens := by
  rw [level, sub_self, zero_mul, add_zero, min_eq_right h]

/-- A bucket that was not refilled for long is full. -/
theorem Filled.level_of_old (F : Filled rate now b) {ttl : Duration}
    (old : ttl ≤ saturatingDurationSince now b.last) (nonneg : 0 ≤ rate)
    (enough : cap ≤ ttl * rate) : level rate cap now (some b) = cap := by
  rw [F.elapsed] at old
  have grown := mul_le_mul_of_nonneg_right old nonneg
  have tokens := F.nonneg
  exact min_eq_left (by linarith)

/-- A check takes a token from a bucket that has one. -/
theorem Filled.check (F : Filled rate now b) :
    check rate now (some b) = if 1 ≤ level rate rate now (some b)
      then (true, ⟨level rate rate now (some b) - 1, now⟩)
      else (false, ⟨level rate rate now (some b), now⟩) := by
  rw [RateLimiter.check, F.refill]

/-- With a rate of at least one, a missing bucket is like a full one. -/
theorem check_of_one_le (one : 1 ≤ rate) (F : FilledAt rate now o) :
    check rate now o = if 1 ≤ level rate rate now o
      then (true, ⟨level rate rate now o - 1, now⟩) else (false, ⟨level rate rate now o, now⟩) := by
  cases o with
  | none =>
    have tokens : max (rate - 1) 0 = rate - 1 := max_eq_left (sub_nonneg.2 one)
    rw [check, level, if_pos one, tokens]
  | some b => exact (filledAt_some.1 F).check

/-- With a rate below one, a bucket never gets back to a token. -/
theorem check_of_lt_one (less : rate < 1) (F : Filled rate now b) :
    check rate now (some b) = (false, ⟨level rate rate now (some b), now⟩) := by
  have empty : ¬ 1 ≤ level rate rate now (some b) := by
    have := level_le_cap rate rate now (some b)
    linarith
  rw [F.check, if_neg empty]

theorem filled_check (positive : 0 < rate) (F : FilledAt rate now o) :
    Filled rate now (check rate now o).2 := by
  have nonneg := F.level_nonneg positive.le positive.le
  have capped := level_le_cap rate rate now o
  cases o with
  | none => exact ⟨le_max_right _ _, max_le (by linarith) positive.le, le_rfl⟩
  | some b =>
    rw [check, (filledAt_some.1 F).refill]
    dsimp only
    split_ifs with enough
    · exact ⟨sub_nonneg.2 enough, by dsimp only; linarith, le_rfl⟩
    · exact ⟨nonneg, capped, le_rfl⟩

theorem last_check (F : FilledAt rate now o) : (check rate now o).2.last = now := by
  cases o with
  | none => rfl
  | some b =>
    rw [check, (filledAt_some.1 F).refill]
    split_ifs <;> rfl

/-- A bucket that was just checked holds its tokens. -/
theorem level_check (positive : 0 < rate) (F : FilledAt rate now o) (room : rate ≤ cap) :
    level rate cap now (some (check rate now o).2) = (check rate now o).2.tokens := by
  have held : level rate cap (check rate now o).2.last (some (check rate now o).2) =
      (check rate now o).2.tokens := level_now ((filled_check positive F).capped.trans room)
  rwa [last_check F] at held

/-- A check that succeeds costs one unit of what a bucket could hold if it held at least one. -/
theorem check_credit (positive : 0 < rate) (F : FilledAt rate now o) :
    level rate (max 1 rate) now (some (check rate now o).2) +
      (if (check rate now o).1 then 1 else 0) ≤ level rate (max 1 rate) now o := by
  rw [level_check positive F (le_max_right 1 rate)]
  rcases le_or_gt 1 rate with one | less
  · rw [check_of_one_le one F, max_eq_right one]
    by_cases enough : 1 ≤ level rate rate now o
    · rw [if_pos enough]
      simp
    · rw [if_neg enough]
      simp
  · rw [max_eq_left less.le]
    cases o with
    | none =>
      have tokens : max (rate - 1) 0 = 0 := max_eq_right (by linarith)
      rw [check, tokens]
      simp [level]
    | some b =>
      rw [check_of_lt_one less (filledAt_some.1 F)]
      have smaller : level rate rate now (some b) ≤ level rate 1 now (some b) :=
        min_le_min_right _ less.le
      simpa using smaller

/-! ## One request -/

/-- The rates and the time to live stay. -/
structure SameRates (rl rl' : RateLimiter) : Prop where
  device : rl'.deviceRate = rl.deviceRate
  controller : rl'.controllerRate = rl.controllerRate
  global : rl'.globalRate = rl.globalRate
  ttl : rl'.bucketTtl = rl.bucketTtl

theorem SameRates.refl (rl : RateLimiter) : SameRates rl rl := ⟨rfl, rfl, rfl, rfl⟩

theorem SameRates.trans {rl' rl'' : RateLimiter} (h : SameRates rl rl') (h' : SameRates rl' rl'') :
    SameRates rl rl'' :=
  ⟨h'.device.trans h.device, h'.controller.trans h.controller, h'.global.trans h.global,
    h'.ttl.trans h.ttl⟩

theorem SameRates.keyRate {rl' : RateLimiter} (h : SameRates rl rl') (k : RateKey) :
    rl'.keyRate k = rl.keyRate k := by
  cases k with
  | global => exact h.global
  | device d => exact h.device
  | controller c => exact h.controller

theorem sameRates_checkKey (rl : RateLimiter) (key : String) (rate : ℚ) (now : Instant) :
    SameRates rl (rl.checkKey key rate now).2 := by
  rcases le_or_gt rate 0 with zero | positive
  · rw [checkKey, if_pos zero]
    exact .refl rl
  · rw [checkKey_eq rl key positive]
    exact ⟨rfl, rfl, rfl, rfl⟩

theorem sameRates_maybeCleanup (rl : RateLimiter) (now : Instant) :
    SameRates rl (rl.maybeCleanup now) := by
  unfold maybeCleanup
  dsimp only
  split_ifs <;> exact ⟨rfl, rfl, rfl, rfl⟩

/-- The check of a key. -/
def checkAt (rl : RateLimiter) (k : RateKey) (now : Instant) : Bool × RateLimiter :=
  rl.checkKey k.key (rl.keyRate k) now

theorem allow_eq_checks (rl : RateLimiter) (now : Instant) (d c : String) :
    rl.allow now d c =
      (if ((rl.maybeCleanup now).checkAt .global now).1 then
        (if (((rl.maybeCleanup now).checkAt .global now).2.checkAt (.device d) now).1 then
          (((rl.maybeCleanup now).checkAt .global now).2.checkAt (.device d) now).2.checkAt
            (.controller c) now
        else (false, (((rl.maybeCleanup now).checkAt .global now).2.checkAt (.device d) now).2))
      else (false, ((rl.maybeCleanup now).checkAt .global now).2)) := by
  have first : (rl.maybeCleanup now).checkKey "global" (rl.maybeCleanup now).globalRate now =
      (rl.maybeCleanup now).checkAt .global now := rfl
  have second (rl : RateLimiter) : rl.checkKey ("device:" ++ d) rl.deviceRate now =
      rl.checkAt (.device d) now := rfl
  unfold allow
  dsimp only
  rw [first]
  rcases (rl.maybeCleanup now).checkAt .global now with ⟨_ | _, rl₁⟩
  · rfl
  · dsimp only
    rw [second]
    rcases rl₁.checkAt (.device d) now with ⟨_ | _, rl₂⟩ <;> rfl

theorem sameRates_checkAt (rl : RateLimiter) (k : RateKey) (now : Instant) :
    SameRates rl (rl.checkAt k now).2 := sameRates_checkKey rl _ _ now

theorem sameRates_allow (rl : RateLimiter) (now : Instant) (d c : String) :
    SameRates rl (rl.allow now d c).2 := by
  have global := (sameRates_maybeCleanup rl now).trans (sameRates_checkAt _ .global now)
  have device := global.trans (sameRates_checkAt _ (.device d) now)
  rw [allow_eq_checks]
  split_ifs
  · exact device.trans (sameRates_checkAt _ (.controller c) now)
  · exact device
  · exact global

/-- A key with rate zero refuses. -/
theorem checkAt_of_zero {k : RateKey} (zero : rl.keyRate k ≤ 0) : (rl.checkAt k now).1 = false := by
  rw [checkAt, checkKey, if_pos zero]

/-- If a rate is zero no request is allowed. -/
theorem allow_of_zero (zero : rl.globalRate ≤ 0 ∨ rl.deviceRate ≤ 0 ∨ rl.controllerRate ≤ 0)
    (d c : String) : (rl.allow now d c).1 = false := by
  have global := sameRates_maybeCleanup rl now
  have device := global.trans (sameRates_checkAt _ .global now)
  have controller := device.trans (sameRates_checkAt _ (.device d) now)
  rw [allow_eq_checks]
  split_ifs with hg hd
  · rcases zero with zero | zero | zero
    · rw [checkAt_of_zero (k := .global) (global.global.trans_le zero)] at hg
      cases hg
    · rw [checkAt_of_zero (k := .device d) (device.device.trans_le zero)] at hd
      cases hd
    · exact checkAt_of_zero (k := .controller c) (controller.controller.trans_le zero)
  · rfl
  · rfl

/-! ## Sequences of checks -/

/-- A call of `check_key` or `maybe_cleanup`, with the clock reading that it makes. -/
inductive Op where
  | checkKey (key : String) (rate : ℚ) (now : Instant)
  | maybeCleanup (now : Instant)
  deriving DecidableEq

/-- The clock reading of a call. -/
def Op.time : Op → Instant
  | .checkKey _ _ now => now
  | .maybeCleanup now => now

/-- The limiter after a call. -/
def perform (rl : RateLimiter) : Op → RateLimiter
  | .checkKey key rate now => (rl.checkKey key rate now).2
  | .maybeCleanup now => rl.maybeCleanup now

/-- The result of a call of `check_key`. -/
def result (rl : RateLimiter) : Op → Option Bool
  | .checkKey key rate now => some (rl.checkKey key rate now).1
  | .maybeCleanup _ => none

/-- One call after others, of which the results are kept. -/
def performNext (acc : List (Op × Bool) × RateLimiter) (op : Op) :
    List (Op × Bool) × RateLimiter :=
  (acc.1 ++ (acc.2.result op).toList.map fun ok => (op, ok), acc.2.perform op)

/-- The results of a sequence of calls, and the limiter after it. -/
def performAll (rl : RateLimiter) (ops : List Op) : List (Op × Bool) × RateLimiter :=
  ops.foldl performNext ([], rl)

variable {ops : List Op} {op : Op} {config : RateLimitConfig}

theorem sameRates_perform (rl : RateLimiter) (op : Op) : SameRates rl (rl.perform op) := by
  cases op with
  | checkKey key rate now => exact sameRates_checkKey rl key rate now
  | maybeCleanup now => exact sameRates_maybeCleanup rl now

/-- All checks of the key are made with the rate. -/
def Rated (key : String) (rate : ℚ) (ops : List Op) : Prop :=
  ∀ rate' now, .checkKey key rate' now ∈ ops → rate' = rate

/-- The times at which a check of the key succeeded. -/
def granted (key : String) (results : List (Op × Bool)) : List Instant :=
  results.filterMap fun
    | (.checkKey key' _ now, true) => if key' = key then some now else none
    | _ => none

/-- The bucket of a key is filled, and the checks that succeeded are within its rate. -/
structure Metered (rate : ℚ) (key : String) (now : Instant)
    (acc : List (Op × Bool) × RateLimiter) : Prop where
  ttl : acc.2.bucketTtl = 300
  filled : FilledAt rate now (acc.2.buckets.lookup key)
  within : Within rate (max 1 rate) (granted key acc.1) now
    (level rate (max 1 rate) now (acc.2.buckets.lookup key))

namespace Metered

variable {acc : List (Op × Bool) × RateLimiter}

theorem start (nonneg : 0 ≤ rate) (config : RateLimitConfig) (key : String) (now : Instant) :
    Metered rate key now ([], .new config) :=
  ⟨rfl, filledAt_none, .start rate nonneg (zero_le_one.trans (le_max_left 1 rate)) now⟩

theorem later (M : Metered rate key now acc) (nonneg : 0 ≤ rate) (h : now ≤ now') :
    Metered rate key now' acc := by
  have room : 0 ≤ max 1 rate := zero_le_one.trans (le_max_left 1 rate)
  have filled := M.filled.later h
  refine ⟨M.ttl, filled, M.within.wait nonneg h (filled.level_nonneg nonneg room)
    (level_le_cap _ _ _ _) ?_⟩
  rw [level_later nonneg h, mul_comm rate]
  exact min_le_right _ _

/-- A check of another key. -/
theorem other (M : Metered rate key now acc) {rate' : ℚ} {now' : Instant} (ne : key' ≠ key) :
    Metered rate key now (performNext acc (.checkKey key' rate' now')) := by
  have same : (acc.2.perform (.checkKey key' rate' now')).buckets.lookup key =
      acc.2.buckets.lookup key := lookup_checkKey_of_ne acc.2 rate' now' ne.symm
  have silent : granted key (performNext acc (.checkKey key' rate' now')).1 =
      granted key acc.1 := by
    rw [performNext, granted, List.filterMap_append, granted]
    cases h : (acc.2.checkKey key' rate' now').1 <;> simp [result, h, ne]
  refine ⟨(sameRates_perform acc.2 _).ttl.trans M.ttl, ?_, ?_⟩
  · rw [performNext, same]
    exact M.filled
  · rw [silent, performNext, same]
    exact M.within

/-- A check of the key. -/
theorem check (M : Metered rate key now acc) (positive : 0 < rate) :
    Metered rate key now (performNext acc (.checkKey key rate now)) := by
  have room : 0 ≤ max 1 rate := zero_le_one.trans (le_max_left 1 rate)
  have found : (acc.2.perform (.checkKey key rate now)).buckets.lookup key =
      some (RateLimiter.check rate now (acc.2.buckets.lookup key)).2 :=
    lookup_checkKey acc.2 key positive now
  have filled := filledAt_some.2 (filled_check positive M.filled)
  have nonneg := filled.level_nonneg positive.le room
  have credit := check_credit positive M.filled
  have new : granted key (performNext acc (.checkKey key rate now)).1 = granted key acc.1 ++
      if (RateLimiter.check rate now (acc.2.buckets.lookup key)).1 then [now] else [] := by
    rw [performNext, granted, List.filterMap_append, granted, result, checkKey_eq _ _ positive]
    cases (RateLimiter.check rate now (acc.2.buckets.lookup key)).1 <;> simp
  refine ⟨(sameRates_perform acc.2 _).ttl.trans M.ttl, ?_, ?_⟩
  · rw [performNext, found]
    exact filled
  · rw [new, performNext, found]
    split_ifs at credit ⊢ with ok
    · exact M.within.spend positive.le nonneg credit
    · rw [List.append_nil]
      exact M.within.lower nonneg (by linarith)

/-- A cleanup: a bucket that is dropped was full. -/
theorem cleanup (M : Metered rate key now acc) (large : 1 / 60 ≤ rate) :
    Metered rate key now (performNext acc (.maybeCleanup now)) := by
  have nonneg : 0 ≤ rate := by linarith
  have enough : max 1 rate ≤ acc.2.bucketTtl * rate := by
    rw [M.ttl]
    exact max_le (by linarith) (by linarith)
  have silent : granted key (performNext acc (.maybeCleanup now)).1 = granted key acc.1 := by
    simp [performNext, result]
  have ttl := (sameRates_perform acc.2 (.maybeCleanup now)).ttl.trans M.ttl
  rcases cleaned acc.2 now key with same | ⟨none, b, found, old⟩
  · refine ⟨ttl, ?_, ?_⟩
    · rw [performNext, perform, same]
      exact M.filled
    · rw [silent, performNext, perform, same]
      exact M.within
  · refine ⟨ttl, ?_, ?_⟩
    · rw [performNext, perform, none]
      exact filledAt_none
    · have within := M.within
      rw [found, (M.filled b found).level_of_old old nonneg enough] at within
      rw [silent, performNext, perform, none]
      exact within

theorem next (M : Metered rate key op.time acc) (large : 1 / 60 ≤ rate)
    (rated : ∀ rate' now, op = .checkKey key rate' now → rate' = rate) :
    Metered rate key op.time (performNext acc op) := by
  cases op with
  | checkKey key' rate' now =>
    by_cases same : key' = key
    · subst same
      obtain rfl := rated rate' now rfl
      exact M.check (by linarith)
    · exact M.other same
  | maybeCleanup now => exact M.cleanup large

end Metered

theorem metered_performAll (config : RateLimitConfig) (large : 1 / 60 ≤ rate)
    (ordered : Timed.Ordered Op.time ops) (rated : Rated key rate ops)
    (upto : ∀ op ∈ ops, op.time ≤ now) : Metered rate key now (performAll (.new config) ops) := by
  have nonneg : 0 ≤ rate := by linarith
  exact Timed.foldl_induction (.start nonneg config key) (fun _ _ _ h M => M.later nonneg h)
    (fun op mem acc M => M.next large fun rate' now h => rated rate' now (h ▸ mem)) ordered upto

/-- The checks of a key with a rate of at least one per minute that succeed in `T` seconds are at
most `max 1 rate + rate * T`, wherever cleanups happen, and its bucket holds from 0 to `rate`
tokens. -/
theorem checks_within_rate (config : RateLimitConfig) (large : 1 / 60 ≤ rate)
    (ordered : Timed.Ordered Op.time ops) (rated : Rated key rate ops) :
    (∀ t₀ T : ℚ, 0 ≤ T →
      ((between t₀ (t₀ + T) (granted key (performAll (.new config) ops).1)).length : ℚ) ≤
        max 1 rate + rate * T) ∧
    ∀ b, (performAll (.new config) ops).2.buckets.lookup key = some b →
      0 ≤ b.tokens ∧ b.tokens ≤ rate := by
  obtain ⟨t, upto⟩ := Timed.exists_upto Op.time ops
  have M := metered_performAll config large ordered rated upto
  refine ⟨fun t₀ T length => ?_, fun b found => ?_⟩
  · have windows := M.within.windows t₀ (t₀ + T) (by linarith)
    rwa [add_sub_cancel_left] at windows
  · exact ⟨(M.filled b found).nonneg, (M.filled b found).capped⟩

/-- A burst on a key with two requests per second, and a request a second later. -/
def burst : List Op :=
  [.checkKey "device:d" 2 0, .checkKey "device:d" 2 0, .checkKey "device:d" 2 0, .maybeCleanup 1,
    .checkKey "device:d" 2 1]

theorem burst_within_rate :
    granted "device:d" (performAll (.new ⟨2, 1, 3, 1, 1, 1, 1, 1⟩) burst).1 = [0, 0, 1] ∧
      ((between 0 (0 + 1) (granted "device:d"
        (performAll (.new ⟨2, 1, 3, 1, 1, 1, 1, 1⟩) burst).1)).length : ℚ) ≤ max 1 2 + 2 * 1 := by
  have rated : Rated "device:d" 2 burst := by
    intro rate now mem
    simp only [burst, List.mem_cons, Op.checkKey.injEq, reduceCtorEq, List.not_mem_nil, or_false,
      false_or] at mem
    rcases mem with h | h | h | h <;> exact h.2.1
  refine ⟨by decide +kernel, ?_⟩
  exact (checks_within_rate ⟨2, 1, 3, 1, 1, 1, 1, 1⟩ (by norm_num) (by decide +kernel) rated).1 0 1
    zero_le_one

/-! ## Tokens come back -/

/-- A check of one of the keys of the limiter. -/
def checkOf (config : RateLimitConfig) (k : RateKey) (now : Instant) : Op :=
  .checkKey k.key ((RateLimiter.new config).keyRate k) now

theorem checkOf_key_inj {k k' : RateKey} {rate' : ℚ} :
    checkOf config k now = .checkKey k'.key rate' now' →
      k = k' ∧ rate' = (RateLimiter.new config).keyRate k' := by
  intro h
  simp only [checkOf, Op.checkKey.injEq, RateKey.key_inj] at h
  exact ⟨h.1, by rw [← h.2.1, h.1]⟩

theorem rated_of_checks {k : RateKey}
    (checks : ∀ op ∈ ops, ∃ k now, op = checkOf config k now) :
    Rated k.key ((RateLimiter.new config).keyRate k) ops := by
  intro rate' now mem
  obtain ⟨k', now', h⟩ := checks _ mem
  exact (checkOf_key_inj h.symm).2

theorem snd_foldl_performNext (acc : List (Op × Bool) × RateLimiter) (ops : List Op) :
    (ops.foldl performNext acc).2 = ops.foldl perform acc.2 := by
  induction ops generalizing acc with
  | nil => rfl
  | cons op ops ih => exact ih _

/-- Checks of other keys leave the bucket of a key. -/
theorem lookup_foldl_of_others (rl : RateLimiter) {k : RateKey}
    (others : ∀ op ∈ ops, ∃ k' now, k' ≠ k ∧ op = checkOf config k' now) :
    (ops.foldl perform rl).buckets.lookup k.key = rl.buckets.lookup k.key := by
  induction ops generalizing rl with
  | nil => rfl
  | cons op ops ih =>
    obtain ⟨k', now, ne, rfl⟩ := others op List.mem_cons_self
    rw [List.foldl_cons, ih _ fun op mem => others op (List.mem_cons_of_mem _ mem)]
    exact lookup_checkKey_of_ne rl _ now fun h => ne (RateKey.key_inj.1 h).symm

/-- A check that comes `1 / rate` after the last one succeeds if and only if the rate is at least
one. -/
theorem check_of_rested (positive : 0 < rate) (F : Filled rate now b)
    (rested : 1 / rate ≤ now - b.last) : (check rate now (some b)).1 = true ↔ 1 ≤ rate := by
  constructor
  · intro ok
    by_contra less
    rw [check_of_lt_one (not_le.1 less) F] at ok
    cases ok
  · intro one
    have token : 1 ≤ (now - b.last) * rate := (div_le_iff₀ positive).1 rested
    have enough : 1 ≤ level rate rate now (some b) := le_min one (by linarith [F.nonneg])
    rw [check_of_one_le one (filledAt_some.2 F), if_pos enough]

end RateLimiter

open RateLimiter

variable {config : RateLimitConfig} {k : RateKey} {before after : List Op} {t₀ now : Instant}

/-- The rate of a key is at least one if it is not that of a controller with fewer than 60 requests
per minute. -/
theorem one_le_keyRate (device : 1 ≤ config.deviceRequestsPerSecond)
    (global : 1 ≤ config.globalRequestsPerSecond) :
    1 ≤ (RateLimiter.new config).keyRate k ↔
      ∀ c, k = .controller c → 60 ≤ config.controllerRequestsPerMinute := by
  cases k with
  | global =>
    have rate : (1 : ℚ) ≤ config.globalRequestsPerSecond := by exact_mod_cast global
    exact ⟨fun _ c h => (by cases h), fun _ => rate⟩
  | device d =>
    have rate : (1 : ℚ) ≤ config.deviceRequestsPerSecond := by exact_mod_cast device
    exact ⟨fun _ c h => (by cases h), fun _ => rate⟩
  | controller c =>
    have rate : 1 ≤ (config.controllerRequestsPerMinute : ℚ) / 60 ↔
        60 ≤ config.controllerRequestsPerMinute := by
      rw [le_div_iff₀ (by norm_num), one_mul]
      exact_mod_cast Iff.rfl
    exact rate.trans ⟨fun h _ _ => h, fun h => h c rfl⟩

theorem sixtieth_le_keyRate (device : 1 ≤ config.deviceRequestsPerSecond)
    (controller : 1 ≤ config.controllerRequestsPerMinute)
    (global : 1 ≤ config.globalRequestsPerSecond) (k : RateKey) :
    1 / 60 ≤ (RateLimiter.new config).keyRate k := by
  cases k with
  | global =>
    have rate : (1 : ℚ) ≤ config.globalRequestsPerSecond := by exact_mod_cast global
    exact le_trans (by norm_num) rate
  | device d =>
    have rate : (1 : ℚ) ≤ config.deviceRequestsPerSecond := by exact_mod_cast device
    exact le_trans (by norm_num) rate
  | controller c =>
    have rate : (1 : ℚ) ≤ config.controllerRequestsPerMinute := by exact_mod_cast controller
    exact div_le_div_of_nonneg_right rate (by norm_num)

/-- The limits of requests are positive. -/
structure PositiveLimits (config : RateLimitConfig) : Prop where
  device : 1 ≤ config.deviceRequestsPerSecond
  controller : 1 ≤ config.controllerRequestsPerMinute
  global : 1 ≤ config.globalRequestsPerSecond

/-- Checks of the keys of the limiter in the order of their times, of which the last one of `k` is
at `t₀`, and a time at least `1 / rate` after that. -/
structure Rests (config : RateLimitConfig) (k : RateKey) (before after : List Op)
    (t₀ now : Instant) : Prop where
  checks : ∀ op ∈ before ++ checkOf config k t₀ :: after, ∃ k now, op = checkOf config k now
  last : ∀ now, checkOf config k now ∉ after
  ordered : Timed.Ordered Op.time
    (before ++ checkOf config k t₀ :: after ++ [checkOf config k now])
  rested : 1 / (RateLimiter.new config).keyRate k ≤ now - t₀

/-- A check that comes `1 / rate` after the last one of its key succeeds if and only if the key is
not that of a controller with fewer than 60 requests per minute. -/
theorem bucket_refills_iff (P : PositiveLimits config) (R : Rests config k before after t₀ now) :
    ((performAll (.new config) (before ++ checkOf config k t₀ :: after)).2.checkKey k.key
        ((RateLimiter.new config).keyRate k) now).1 = true ↔
      ∀ c, k = .controller c → 60 ≤ config.controllerRequestsPerMinute := by
  rw [← one_le_keyRate P.device P.global]
  set rate := (RateLimiter.new config).keyRate k
  have large : 1 / 60 ≤ rate := sixtieth_le_keyRate P.device P.controller P.global k
  have positive : 0 < rate := by linarith
  obtain ⟨ordered, upto⟩ := Timed.ordered_concat.1 R.ordered
  obtain ⟨ordered, -, across⟩ := List.pairwise_append.1 ordered
  have later : t₀ ≤ now :=
    upto (checkOf config k t₀) (List.mem_append_right _ List.mem_cons_self)
  -- The bucket of the key after its last check.
  have M : Metered rate k.key t₀ (performAll (.new config) before) :=
    metered_performAll config large ordered
      (rated_of_checks fun op mem => R.checks op (List.mem_append_left _ mem))
      fun op mem => across op mem _ List.mem_cons_self
  have filled := filled_check positive M.filled
  have rest : ∀ op ∈ after, ∃ k' now, k' ≠ k ∧ op = checkOf config k' now := by
    intro op mem
    obtain ⟨k', now', rfl⟩ := R.checks op
      (List.mem_append_right _ (List.mem_cons_of_mem _ mem))
    refine ⟨k', now', ?_, rfl⟩
    rintro rfl
    exact R.last now' mem
  have found : (performAll (.new config) (before ++ checkOf config k t₀ :: after)).2.buckets.lookup
      k.key = some (check rate t₀
        ((performAll (.new config) before).2.buckets.lookup k.key)).2 := by
    rw [performAll, snd_foldl_performNext, List.foldl_append, List.foldl_cons,
      lookup_foldl_of_others _ rest, ← snd_foldl_performNext ([], _)]
    exact lookup_checkKey _ k.key positive t₀
  rw [checkKey_eq _ _ positive, found]
  refine check_of_rested positive (filled.later later) ?_
  rw [last_check M.filled]
  exact R.rested

namespace Small

/-- Limits of two requests per second to a device, `n` per minute from a controller and three per
second in all. -/
def limits (n : ℕ) : RateLimitConfig := ⟨2, n, 3, 1, 1, 1, 1, 1⟩

theorem positive_limits {n : ℕ} (h : 1 ≤ n) : PositiveLimits (limits n) :=
  ⟨show 1 ≤ 2 by decide, h, show 1 ≤ 3 by decide⟩

/-- One check of a controller, and a check of a device at the same time. -/
theorem rests {n : ℕ} {now : Instant} (later : 0 ≤ now) (rested : 60 / n ≤ now) :
    Rests (limits n) (.controller "c") [] [checkOf (limits n) (.device "d") 0] 0 now := by
  refine ⟨?_, ?_, ?_, ?_⟩
  · intro op mem
    rcases List.mem_cons.1 mem with rfl | mem
    · exact ⟨_, _, rfl⟩
    · exact ⟨_, _, List.mem_singleton.1 mem⟩
  · intro now mem
    have same := List.mem_singleton.1 mem
    simp only [checkOf, Op.checkKey.injEq, RateKey.key_inj] at same
    exact absurd same.1 (by decide)
  · simp [Timed.Ordered, checkOf, Op.time, later]
  · rwa [sub_zero, keyRate, RateLimiter.new, limits, one_div_div]

end Small

/-- A controller that may send one request per minute is refused a minute after its first one. -/
theorem slow_controller_starves :
    ¬ ∀ config k before after t₀ now, PositiveLimits config →
      Rests config k before after t₀ now →
      ((performAll (.new config) (before ++ checkOf config k t₀ :: after)).2.checkKey k.key
        ((RateLimiter.new config).keyRate k) now).1 = true := by
  intro claim
  have ok := claim (Small.limits 1) _ _ _ 0 60 (Small.positive_limits le_rfl)
    (Small.rests (by norm_num) (by norm_num))
  exact absurd ok (by decide +kernel)

theorem fast_controller_is_served :
    ((performAll (.new (Small.limits 60)) ([] ++ checkOf (Small.limits 60) (.controller "c") 0 ::
      [checkOf (Small.limits 60) (.device "d") 0])).2.checkKey "controller:c"
        ((60 : ℚ) / 60) 1).1 = true := by
  have R : Rests (Small.limits 60) (.controller "c") []
      [checkOf (Small.limits 60) (.device "d") 0] 0 1 := Small.rests (by norm_num) (by norm_num)
  exact (bucket_refills_iff (Small.positive_limits (by norm_num)) R).2 fun _ _ => le_rfl

end GrpcRelay
