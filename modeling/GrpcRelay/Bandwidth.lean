import GrpcRelay.RateLimiter
import GrpcRelay.Lib.RotatingWindow

/-!
# Bandwidth

`record_and_check` counts the bytes of a message in three windows, that of the relay, that of the
device and that of the controller, each of which rotates by its own clock reading.  A message that
is accepted fits in all three, so the messages accepted in a window have at most the bytes of its
limit, and those accepted in one second at most twice as many (`bandwidth_is_bounded`).
-/

namespace GrpcRelay

namespace BandwidthTracker

open RotatingWindow

/-- One second, in nanoseconds. -/
def second : ℕ := 1000000000

theorem second_pos : 0 < second := Nat.succ_pos _

/-- A call of `record_and_check`, with the clock readings that it makes. -/
structure Call where
  clock : ClockReadings
  deviceId : String
  controllerId : String
  bytes : ℕ
  deriving DecidableEq

/-- The clock reading with which a call counts its bytes for a key. -/
def Call.reading (call : Call) : RateKey → Option ℕ
  | .global => some call.clock.global
  | .device d => if d = call.deviceId then some call.clock.device else none
  | .controller c => if c = call.controllerId then some call.clock.controller else none

variable {bt bt' : BandwidthTracker} {k : RateKey} {call : Call} {calls : List Call}

theorem Call.reading_cases (call : Call) {now : ℕ} (h : call.reading k = some now) :
    (k = .global ∧ now = call.clock.global) ∨
    (k = .device call.deviceId ∧ now = call.clock.device) ∨
    (k = .controller call.controllerId ∧ now = call.clock.controller) := by
  cases k with
  | global => exact Or.inl ⟨rfl, (Option.some.inj h).symm⟩
  | device d =>
    rw [reading] at h
    split_ifs at h with same
    exact Or.inr (Or.inl ⟨by rw [same], (Option.some.inj h).symm⟩)
  | controller c =>
    rw [reading] at h
    split_ifs at h with same
    exact Or.inr (Or.inr ⟨by rw [same], (Option.some.inj h).symm⟩)

/-- The limit of a key, in bytes per second. -/
def keyLimit (bt : BandwidthTracker) : RateKey → ℕ
  | .global => bt.globalLimit
  | .device _ => bt.deviceLimit
  | .controller _ => bt.controllerLimit

/-- The result of a call and the tracker after it. -/
def perform (bt : BandwidthTracker) (call : Call) : Bool × BandwidthTracker :=
  bt.recordAndCheck call.clock call.deviceId call.controllerId call.bytes

/-- The window of a key. -/
def window (bt : BandwidthTracker) (k : RateKey) : Option Window := bt.windows.lookup k.key

/-- What a call is for a key: a visit of its window, accepted if the call returns true. -/
def visit (k : RateKey) (bt : BandwidthTracker) (call : Call) : List Visit :=
  (call.reading k).toList.map fun now =>
    ⟨now, call.bytes, (current second now (bt.window k)).2, rotates second now (bt.window k),
      (bt.perform call).1⟩

/-- One call after others, of which the visits of a key are kept. -/
def performNext (k : RateKey) (acc : List Visit × BandwidthTracker) (call : Call) :
    List Visit × BandwidthTracker :=
  (acc.1 ++ visit k acc.2 call, (acc.2.perform call).2)

/-- The visits of a key in a sequence of calls, and the tracker after it. -/
def performAll (k : RateKey) (bt : BandwidthTracker) (calls : List Call) :
    List Visit × BandwidthTracker :=
  calls.foldl (performNext k) ([], bt)

/-! ## One call -/

/-- The total of a window after a message is counted: it stays if it would overflow. -/
def tally (total bytes : ℕ) : ℕ := if UInt64.size ≤ total + bytes then total else total + bytes

/-- The limits stay. -/
structure SameLimits (bt bt' : BandwidthTracker) : Prop where
  device : bt'.deviceLimit = bt.deviceLimit
  controller : bt'.controllerLimit = bt.controllerLimit
  global : bt'.globalLimit = bt.globalLimit

theorem SameLimits.trans {bt'' : BandwidthTracker} (h : SameLimits bt bt')
    (h' : SameLimits bt' bt'') : SameLimits bt bt'' :=
  ⟨h'.device.trans h.device, h'.controller.trans h.controller, h'.global.trans h.global⟩

theorem SameLimits.keyLimit (h : SameLimits bt bt') (k : RateKey) :
    bt'.keyLimit k = bt.keyLimit k := by
  cases k with
  | global => exact h.global
  | device d => exact h.device
  | controller c => exact h.controller

/-- `record_key` for one of the keys of the tracker. -/
def recordAt (bt : BandwidthTracker) (k : RateKey) (bytes now : ℕ) : Bool × BandwidthTracker :=
  bt.recordKey k.key bytes (bt.keyLimit k) now

/-- What `record_key` does for a key. -/
structure Records (bt : BandwidthTracker) (k : RateKey) (bytes now : ℕ)
    (out : Bool × BandwidthTracker) : Prop where
  result : out.1 = true →
    tally (current second now (bt.window k)).1 bytes =
        (current second now (bt.window k)).1 + bytes ∧
      (current second now (bt.window k)).1 + bytes ≤ bt.keyLimit k
  stored : out.2.window k = some (tally (current second now (bt.window k)).1 bytes,
    (current second now (bt.window k)).2)
  others : ∀ k', k' ≠ k → out.2.window k' = bt.window k'
  limits : SameLimits bt out.2

theorem recordKey_eq (bt : BandwidthTracker) (k : RateKey) (bytes limit now : ℕ) :
    bt.recordKey k.key bytes limit now =
      (decide ((current second now (bt.window k)).1 + bytes < UInt64.size ∧
        (current second now (bt.window k)).1 + bytes ≤ limit),
      { bt with
        windows := bt.windows.insert k.key
          (tally (current second now (bt.window k)).1 bytes,
            (current second now (bt.window k)).2) }) := by
  have entry : (if 1000000000 ≤ now - ((bt.windows.lookup k.key).getD (0, now)).2 then (0, now)
      else (bt.windows.lookup k.key).getD (0, now)) = current second now (bt.window k) := by
    unfold window current
    cases bt.windows.lookup k.key with
    | none => simp
    | some w => rfl
  unfold recordKey
  dsimp only
  rw [entry]
  unfold tally
  split_ifs with overflow
  · simp [not_lt.2 overflow]
  · simp [not_le.1 overflow]

theorem records (bt : BandwidthTracker) (k : RateKey) (bytes now : ℕ) :
    Records bt k bytes now (bt.recordAt k bytes now) := by
  rw [recordAt, recordKey_eq]
  refine ⟨fun h => ?_, AList.lookup_insert _, fun k' other => ?_, ⟨rfl, rfl, rfl⟩⟩
  · obtain ⟨small, fits⟩ := of_decide_eq_true h
    exact ⟨if_neg (not_le.2 small), fits⟩
  · have ne : k'.key ≠ k.key := fun h => other (RateKey.key_inj.1 h)
    exact AList.lookup_insert_ne ne

/-- What a call does for every key. -/
structure Performs (bt : BandwidthTracker) (call : Call) (out : Bool × BandwidthTracker) :
    Prop where
  result : out.1 = true → ∀ k now, call.reading k = some now →
    tally (current second now (bt.window k)).1 call.bytes =
        (current second now (bt.window k)).1 + call.bytes ∧
      (current second now (bt.window k)).1 + call.bytes ≤ bt.keyLimit k
  stored : ∀ k now, call.reading k = some now →
    out.2.window k = some (tally (current second now (bt.window k)).1 call.bytes,
      (current second now (bt.window k)).2)
  others : ∀ k, call.reading k = none → out.2.window k = bt.window k
  limits : SameLimits bt out.2

/-- A call records its bytes for three keys in turn. -/
theorem perform_eq (bt : BandwidthTracker) (call : Call) :
    bt.perform call =
      ((bt.recordAt .global call.bytes call.clock.global).1 &&
        ((bt.recordAt .global call.bytes call.clock.global).2.recordAt (.device call.deviceId)
          call.bytes call.clock.device).1 &&
        (((bt.recordAt .global call.bytes call.clock.global).2.recordAt (.device call.deviceId)
          call.bytes call.clock.device).2.recordAt (.controller call.controllerId) call.bytes
            call.clock.controller).1,
        (((bt.recordAt .global call.bytes call.clock.global).2.recordAt (.device call.deviceId)
          call.bytes call.clock.device).2.recordAt (.controller call.controllerId) call.bytes
            call.clock.controller).2) := by
  unfold perform recordAndCheck recordAt
  dsimp only [RateKey.key, keyLimit]

theorem recordAt_fst (bt : BandwidthTracker) (k : RateKey) (bytes now : ℕ) :
    (bt.recordAt k bytes now).1 = true ↔
      (current second now (bt.window k)).1 + bytes < UInt64.size ∧
        (current second now (bt.window k)).1 + bytes ≤ bt.keyLimit k := by
  rw [recordAt, recordKey_eq]
  exact decide_eq_true_iff

/-- Each window is still as it was when the call records for it. -/
theorem windows_while_recording (bt : BandwidthTracker) (call : Call) :
    (bt.recordAt .global call.bytes call.clock.global).2.window (.device call.deviceId) =
        bt.window (.device call.deviceId) ∧
      ((bt.recordAt .global call.bytes call.clock.global).2.recordAt (.device call.deviceId)
        call.bytes call.clock.device).2.window (.controller call.controllerId) =
        bt.window (.controller call.controllerId) := by
  have global := (records bt .global call.bytes call.clock.global).others
  have device := (records (bt.recordAt .global call.bytes call.clock.global).2
    (.device call.deviceId) call.bytes call.clock.device).others
  exact ⟨global _ (by simp), (device _ (by simp)).trans (global _ (by simp))⟩

/-- A call returns true exactly if all of its windows accept it. -/
theorem perform_eq_true_iff (bt : BandwidthTracker) (call : Call) :
    (bt.perform call).1 = true ↔ ∀ k now, call.reading k = some now →
      (current second now (bt.window k)).1 + call.bytes < UInt64.size ∧
        (current second now (bt.window k)).1 + call.bytes ≤ bt.keyLimit k := by
  obtain ⟨before₂, before₃⟩ := windows_while_recording bt call
  have limits := (records bt .global call.bytes call.clock.global).limits
  have limits' := limits.trans (records (bt.recordAt .global call.bytes call.clock.global).2
    (.device call.deviceId) call.bytes call.clock.device).limits
  rw [perform_eq]
  simp only [Bool.and_eq_true, recordAt_fst, before₂, before₃, limits.keyLimit, limits'.keyLimit]
  constructor
  · rintro ⟨⟨fits₁, fits₂⟩, fits₃⟩ k now reading
    rcases call.reading_cases reading with ⟨rfl, rfl⟩ | ⟨rfl, rfl⟩ | ⟨rfl, rfl⟩
    · exact fits₁
    · exact fits₂
    · exact fits₃
  · intro fits
    exact ⟨⟨fits _ _ rfl, fits _ _ (if_pos rfl)⟩, fits _ _ (if_pos rfl)⟩

theorem performs (bt : BandwidthTracker) (call : Call) : Performs bt call (bt.perform call) := by
  have accepted := perform_eq_true_iff bt call
  obtain ⟨before₂, before₃⟩ := windows_while_recording bt call
  rw [perform_eq] at accepted ⊢
  set out₁ := bt.recordAt .global call.bytes call.clock.global
  set out₂ := out₁.2.recordAt (.device call.deviceId) call.bytes call.clock.device
  set out₃ := out₂.2.recordAt (.controller call.controllerId) call.bytes call.clock.controller
  have global : Records bt .global call.bytes call.clock.global out₁ := records ..
  have device : Records out₁.2 (.device call.deviceId) call.bytes call.clock.device out₂ :=
    records ..
  have controller : Records out₂.2 (.controller call.controllerId) call.bytes
    call.clock.controller out₃ := records ..
  clear_value out₃ out₂ out₁
  refine ⟨fun ok k now reading => ?_, fun k now reading => ?_, fun k silent => ?_,
    (global.limits.trans device.limits).trans controller.limits⟩
  · obtain ⟨small, fits⟩ := accepted.1 ok k now reading
    exact ⟨if_neg (not_le.2 small), fits⟩
  · rcases call.reading_cases reading with ⟨rfl, rfl⟩ | ⟨rfl, rfl⟩ | ⟨rfl, rfl⟩
    · rw [controller.others _ (by simp), device.others _ (by simp), global.stored]
    · rw [controller.others _ (by simp), device.stored, before₂]
    · rw [controller.stored, before₃]
  · have other₁ : k ≠ .global := fun h => by simp [h, Call.reading] at silent
    have other₂ : k ≠ .device call.deviceId := fun h => by simp [h, Call.reading] at silent
    have other₃ : k ≠ .controller call.controllerId := fun h => by
      simp [h, Call.reading] at silent
    rw [controller.others k other₃, device.others k other₂, global.others k other₁]

/-! ## Sequences of calls -/

/-- The visits of a key are tallied in its window, and the total fits in 64 bits. -/
structure Metered (limit : ℕ) (k : RateKey) (acc : List Visit × BandwidthTracker) : Prop where
  limited : acc.2.keyLimit k = limit
  tallied : Tallied second limit acc.1 (acc.2.window k)
  small : ∀ total start, acc.2.window k = some (total, start) → total < UInt64.size

theorem current_small {w : Option Window} {now : ℕ}
    (small : ∀ total start, w = some (total, start) → total < UInt64.size) :
    (current second now w).1 < UInt64.size := by
  cases w with
  | none => exact Nat.zero_lt_succ _
  | some w =>
    rw [current]
    split_ifs
    · exact Nat.zero_lt_succ _
    · exact small w.1 w.2 rfl

theorem tally_small {total bytes : ℕ} (h : total < UInt64.size) :
    tally total bytes < UInt64.size := by
  unfold tally
  split_ifs with overflow
  · exact h
  · exact not_le.1 overflow

theorem le_tally (total bytes : ℕ) : total ≤ tally total bytes := by
  unfold tally
  split_ifs
  · exact le_rfl
  · exact Nat.le_add_right _ _

namespace Metered

variable {limit : ℕ} {acc : List Visit × BandwidthTracker}

theorem next (M : Metered limit k acc)
    (upto : ∀ now, call.reading k = some now → ∀ v ∈ acc.1, v.now ≤ now) :
    Metered limit k (performNext k acc call) := by
  have P := performs acc.2 call
  refine ⟨(P.limits.keyLimit k).trans M.limited, ?_, ?_⟩
  · cases reading : call.reading k with
    | none =>
      have silent : visit k acc.2 call = [] := by simp [visit, reading]
      rw [performNext, silent, List.append_nil, P.others k reading]
      exact M.tallied
    | some now =>
      have visited : visit k acc.2 call = [⟨now, call.bytes,
          (current second now (acc.2.window k)).2, rotates second now (acc.2.window k),
          (acc.2.perform call).1⟩] := by simp [visit, reading]
      rw [performNext, visited, P.stored k now reading]
      refine M.tallied.visit second_pos (upto now reading) (le_tally _ _) fun ok => ?_
      obtain ⟨whole, fits⟩ := P.result ok k now reading
      rw [M.limited] at fits
      exact ⟨whole.ge, whole.trans_le fits⟩
  · cases reading : call.reading k with
    | none =>
      rw [performNext, P.others k reading]
      exact M.small
    | some now =>
      rw [performNext, P.stored k now reading]
      rintro _ _ ⟨⟩
      exact tally_small (current_small M.small)

end Metered

theorem performAll_concat (k : RateKey) (bt : BandwidthTracker) (calls : List Call) (call : Call) :
    performAll k bt (calls ++ [call]) = performNext k (performAll k bt calls) call := by
  rw [performAll, List.foldl_append]
  rfl

/-- A key is visited at the readings that the calls make for it. -/
theorem map_now_performAll (k : RateKey) (bt : BandwidthTracker) (calls : List Call) :
    (performAll k bt calls).1.map Visit.now = calls.filterMap (·.reading k) := by
  induction calls using List.reverseRecOn with
  | nil => rfl
  | append_singleton calls call ih =>
    rw [performAll_concat, performNext, List.map_append, ih, List.filterMap_append]
    cases reading : call.reading k <;> simp [visit, reading]

theorem metered_performAll (config : RateLimitConfig)
    (ordered : (calls.filterMap (·.reading k)).Pairwise (· ≤ ·)) :
    Metered ((BandwidthTracker.new config).keyLimit k) k (performAll k (.new config) calls) := by
  induction calls using List.reverseRecOn with
  | nil => exact ⟨rfl, .start _ _, fun _ _ h => by cases h⟩
  | append_singleton calls call ih =>
    rw [List.filterMap_append, List.pairwise_append] at ordered
    rw [performAll_concat]
    refine (ih ordered.1).next fun now reading v mem => ?_
    have old : v.now ∈ calls.filterMap (·.reading k) := by
      rw [← map_now_performAll k (.new config)]
      exact List.mem_map_of_mem mem
    exact ordered.2.2 v.now old now (by simp [reading])

/-- In every sequence of calls whose clock readings for a key do not decrease, the bytes of the
calls that return true are at most the limit of the key from one rotation of its window to the next,
and at most twice the limit in any second; and the total of the window fits in 64 bits. -/
theorem bandwidth_is_bounded (config : RateLimitConfig) (calls : List Call) (k : RateKey)
    (ordered : (calls.filterMap (·.reading k)).Pairwise (· ≤ ·)) :
    (∀ group, group <:+: (performAll k (.new config) calls).1 →
      (∀ v ∈ group.tail, v.rotated = false) →
      total group ≤ (BandwidthTracker.new config).keyLimit k) ∧
    (∀ t, total ((performAll k (.new config) calls).1.filter fun v =>
      t ≤ v.now ∧ v.now < t + second) ≤ 2 * (BandwidthTracker.new config).keyLimit k) ∧
    ∀ total start, (performAll k (.new config) calls).2.windows.lookup k.key = some (total, start) →
      total < UInt64.size := by
  have M := metered_performAll config ordered
  exact ⟨fun _ part between => M.tallied.segment part between, M.tallied.interval, M.small⟩

/-- A device that may get 100 bytes in a second is sent 70 bytes around each rotation. -/
def messages : List Call :=
  [⟨⟨0, 0, 0⟩, "d", "c", 10⟩, ⟨⟨900000000, 900000000, 900000000⟩, "d", "c", 70⟩,
    ⟨⟨950000000, 950000000, 950000000⟩, "d", "c", 70⟩,
    ⟨⟨1000000000, 1000000000, 1000000000⟩, "d", "c", 70⟩]

/-- The windows before and after a rotation have 140 bytes in 100 milliseconds. -/
theorem rotation_within_twice_the_limit :
    ((performAll (.device "d") (.new ⟨1, 1, 1, 1, 1, 100, 1000, 1000⟩) messages).1.map fun v =>
      (v.rotated, v.accepted)) = [(false, true), (false, true), (false, false), (true, true)] ∧
    total ((performAll (.device "d") (.new ⟨1, 1, 1, 1, 1, 100, 1000, 1000⟩) messages).1.filter
      fun v => 900000000 ≤ v.now ∧ v.now < 900000000 + second) = 140 ∧
    total ((performAll (.device "d") (.new ⟨1, 1, 1, 1, 1, 100, 1000, 1000⟩) messages).1.filter
      fun v => 900000000 ≤ v.now ∧ v.now < 900000000 + second) ≤ 2 * 100 := by
  refine ⟨by decide +kernel, by decide +kernel, ?_⟩
  exact (bandwidth_is_bounded ⟨1, 1, 1, 1, 1, 100, 1000, 1000⟩ messages (.device "d")
    (by decide +kernel)).2.1 900000000

end BandwidthTracker

end GrpcRelay
