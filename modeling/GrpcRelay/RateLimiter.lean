import GrpcRelay.Proto
import GrpcRelay.Lib.DashMap

/-!
# Rate limits

The token buckets, the sliding windows and the bandwidth windows of `rate_limiter.rs`.  Rates and
tokens are exact rational numbers where the code has `f64`; `GrpcRelay.FloatBuckets` has the buckets
with rounded operations.  Every operation takes the clock reading it would make.
-/

namespace GrpcRelay

/-- The limits of the configuration: requests, connections and bytes. -/
structure RateLimitConfig where
  deviceRequestsPerSecond : ℕ
  controllerRequestsPerMinute : ℕ
  globalRequestsPerSecond : ℕ
  deviceConnectionPerMinute : ℕ
  globalConnectionsPerSecond : ℕ
  deviceBandwidthBytesPerSec : ℕ
  controllerBandwidthBytesPerSec : ℕ
  globalBandwidthBytesPerSec : ℕ
  deriving DecidableEq, Repr

/-! ## Keys -/

/-- What a limit is for. -/
inductive RateKey where
  | global
  | device (deviceId : String)
  | controller (controllerId : String)
  deriving DecidableEq

/-- The key of a limit in the maps. -/
def RateKey.key : RateKey → String
  | .global => "global"
  | .device d => "device:" ++ d
  | .controller c => "controller:" ++ c

theorem RateKey.key_inj {k k' : RateKey} : k.key = k'.key ↔ k = k' := by
  refine ⟨fun h => ?_, fun h => by rw [h]⟩
  have chars := congrArg String.toList h
  cases k <;> cases k' <;> simp [RateKey.key] at chars ⊢
  · exact String.toList_inj.1 chars
  · exact String.toList_inj.1 chars

/-! ## Token buckets -/

/-- The tokens left, and when the bucket was last refilled. -/
structure Bucket where
  tokens : ℚ
  last : Instant
  deriving DecidableEq, Repr

/-- Token-bucket rate limiter per device, per controller, and globally. -/
structure RateLimiter where
  deviceRate : ℚ
  controllerRate : ℚ
  globalRate : ℚ
  buckets : DashMap String Bucket
  cleanupCounter : ℕ
  bucketTtl : Duration

namespace RateLimiter

/-- Rates are per second; the limit of controllers is configured per minute. -/
def new (config : RateLimitConfig) : RateLimiter where
  deviceRate := config.deviceRequestsPerSecond
  controllerRate := (config.controllerRequestsPerMinute : ℚ) / 60
  globalRate := config.globalRequestsPerSecond
  buckets := ∅
  cleanupCounter := 0
  bucketTtl := 300

/-- The bucket refilled for the time since it was last refilled. -/
def refill (b : Bucket) (rate : ℚ) (now : Instant) : Bucket :=
  let elapsed := saturatingDurationSince now b.last
  if 0 < elapsed then ⟨min rate (b.tokens + elapsed * rate), now⟩ else b

/-- Take a token from the bucket of the key.  A new bucket is full. -/
def checkKey (rl : RateLimiter) (key : String) (rate : ℚ) (now : Instant) : Bool × RateLimiter :=
  if rate ≤ 0 then (false, rl)
  else
    match rl.buckets.lookup key with
    | some b =>
      let b := refill b rate now
      if 1 ≤ b.tokens then
        (true, { rl with buckets := rl.buckets.insert key { b with tokens := b.tokens - 1 } })
      else (false, { rl with buckets := rl.buckets.insert key b })
    | none => (true, { rl with buckets := rl.buckets.insert key ⟨max (rate - 1) 0, now⟩ })

/-- `CLEANUP_EVERY`. -/
def cleanupEvery : ℕ := 256

/-- Every 256th call drops the buckets that were not refilled for `bucketTtl`. -/
def maybeCleanup (rl : RateLimiter) (now : Instant) : RateLimiter :=
  let count := rl.cleanupCounter + 1
  let rl := { rl with cleanupCounter := count % UInt64.size }
  if count % cleanupEvery ≠ 0 then rl
  else
    let stale := rl.buckets.entries.filterMap fun entry =>
      if rl.bucketTtl ≤ saturatingDurationSince now entry.2.last then some entry.1 else none
    { rl with buckets := stale.foldl (fun buckets key => buckets.erase key) rl.buckets }

/-- Check the global limit, the device's and the controller's.  The first that refuses ends the
call. -/
def allow (rl : RateLimiter) (now : Instant) (deviceId controllerId : String) :
    Bool × RateLimiter :=
  let rl := rl.maybeCleanup now
  match rl.checkKey "global" rl.globalRate now with
  | (false, rl) => (false, rl)
  | (true, rl) =>
    match rl.checkKey ("device:" ++ deviceId) rl.deviceRate now with
    | (false, rl) => (false, rl)
    | (true, rl) => rl.checkKey ("controller:" ++ controllerId) rl.controllerRate now

end RateLimiter

/-! ## Sliding windows of connection attempts -/

/-- The attempts of each device in the last minute, and all attempts in the last second. -/
structure ConnectionRateLimiter where
  deviceLimit : ℕ
  deviceWindow : Duration
  globalLimit : ℕ
  globalWindow : Duration
  deviceWindows : DashMap String (List Instant)
  globalWindowData : List Instant

namespace ConnectionRateLimiter

/-- No attempts. -/
def new (config : RateLimitConfig) : ConnectionRateLimiter where
  deviceLimit := config.deviceConnectionPerMinute
  deviceWindow := 60
  globalLimit := config.globalConnectionsPerSecond
  globalWindow := 1
  deviceWindows := ∅
  globalWindowData := []

/-- Drop the attempts that left the window, then let this one in if there is room. -/
def pruneAndCheck (window : List Instant) (limit : ℕ) (windowDur : Duration) (now : Instant) :
    Bool × List Instant :=
  let window := window.dropWhile fun t => windowDur ≤ saturatingDurationSince now t
  if limit ≤ window.length then (false, window) else (true, window ++ [now])

/-- Check a device connection attempt. -/
def allowDevice (rl : ConnectionRateLimiter) (now : Instant) (deviceId : String) :
    Bool × ConnectionRateLimiter :=
  let window := (rl.deviceWindows.lookup deviceId).getD []
  let (ok, window) := pruneAndCheck window rl.deviceLimit rl.deviceWindow now
  (ok, { rl with deviceWindows := rl.deviceWindows.insert deviceId window })

/-- Check a global connection attempt. -/
def allowGlobal (rl : ConnectionRateLimiter) (now : Instant) : Bool × ConnectionRateLimiter :=
  let (ok, window) := pruneAndCheck rl.globalWindowData rl.globalLimit rl.globalWindow now
  (ok, { rl with globalWindowData := window })

end ConnectionRateLimiter

/-! ## Bandwidth windows -/

/-- Tracks bandwidth usage via rotating 1-second windows. -/
structure BandwidthTracker where
  deviceLimit : ℕ
  controllerLimit : ℕ
  globalLimit : ℕ
  windows : DashMap String (ℕ × ℕ)

namespace BandwidthTracker

/-- No bytes. -/
def new (config : RateLimitConfig) : BandwidthTracker where
  deviceLimit := config.deviceBandwidthBytesPerSec
  controllerLimit := config.controllerBandwidthBytesPerSec
  globalLimit := config.globalBandwidthBytesPerSec
  windows := ∅

/-- Add bytes to the current one-second window of a key, whose entry is (bytes, start in
nanoseconds).  `nowNs` is the reading of the system clock. -/
def recordKey (bt : BandwidthTracker) (key : String) (bytes limit nowNs : ℕ) :
    Bool × BandwidthTracker :=
  let (used, start) := (bt.windows.lookup key).getD (0, nowNs)
  let (used, start) := if 1000000000 ≤ nowNs - start then (0, nowNs) else (used, start)
  if UInt64.size ≤ used + bytes then
    (false, { bt with windows := bt.windows.insert key (used, start) })
  else
    (decide (used + bytes ≤ limit),
      { bt with windows := bt.windows.insert key (used + bytes, start) })

/-- The three readings of the system clock that one call of `record_and_check` makes. -/
structure ClockReadings where
  global : ℕ
  device : ℕ
  controller : ℕ
  deriving DecidableEq, Repr

/-- Record bytes transferred for a device, controller, and globally; all three windows get them
whatever the checks say. -/
def recordAndCheck (bt : BandwidthTracker) (clock : ClockReadings)
    (deviceId controllerId : String) (bytes : ℕ) : Bool × BandwidthTracker :=
  let (globalOk, bt) := bt.recordKey "global" bytes bt.globalLimit clock.global
  let (deviceOk, bt) := bt.recordKey ("device:" ++ deviceId) bytes bt.deviceLimit clock.device
  let (controllerOk, bt) :=
    bt.recordKey ("controller:" ++ controllerId) bytes bt.controllerLimit clock.controller
  (globalOk && deviceOk && controllerOk, bt)

end BandwidthTracker

end GrpcRelay
