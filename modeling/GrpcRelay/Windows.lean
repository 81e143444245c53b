import GrpcRelay.RateLimiter
import GrpcRelay.Lib.SlidingWindow
import GrpcRelay.Lib.Timed

/-!
# The windows of connection attempts

Each device, and the relay as a whole, has a queue of the times at which a connection was let in.
The queues do not concern each other, and each of them is a sliding window, so an attempt is let in
exactly if fewer than the limit were let in during the window that ends with it
(`connection_limit_is_exact`).
-/

namespace GrpcRelay

namespace ConnectionRateLimiter

open SlidingWindow

/-- A call of `allow_device` or `allow_global`, with the clock reading that it makes. -/
inductive Attempt where
  | device (deviceId : String) (now : Instant)
  | global (now : Instant)
  deriving DecidableEq

namespace Attempt

/-- The time of an attempt. -/
def now : Attempt → Instant
  | device _ now => now
  | global now => now

/-- The device whose window is asked, or none for the global one. -/
def key : Attempt → Option String
  | device d _ => some d
  | global _ => none

end Attempt

variable {rl : ConnectionRateLimiter} {key : Option String} {a : Attempt} {attempts : List Attempt}

/-- The limit of a key. -/
def keyLimit (rl : ConnectionRateLimiter) : Option String → ℕ
  | some _ => rl.deviceLimit
  | none => rl.globalLimit

/-- The length of the window of a key. -/
def keyWindow (rl : ConnectionRateLimiter) : Option String → Duration
  | some _ => rl.deviceWindow
  | none => rl.globalWindow

/-- The queue of a key. -/
def queue (rl : ConnectionRateLimiter) : Option String → List Instant
  | some d => (rl.deviceWindows.lookup d).getD []
  | none => rl.globalWindowData

/-- Whether an attempt is let in, and the limiter after it. -/
def perform (rl : ConnectionRateLimiter) : Attempt → Bool × ConnectionRateLimiter
  | .device d now => rl.allowDevice now d
  | .global now => rl.allowGlobal now

/-- One attempt after others, of which the results are kept. -/
def performNext (acc : List (Attempt × Bool) × ConnectionRateLimiter) (a : Attempt) :
    List (Attempt × Bool) × ConnectionRateLimiter :=
  (acc.1 ++ [(a, (acc.2.perform a).1)], (acc.2.perform a).2)

/-- The results of a sequence of attempts, and the limiter after it. -/
def performAll (rl : ConnectionRateLimiter) (attempts : List Attempt) :
    List (Attempt × Bool) × ConnectionRateLimiter :=
  attempts.foldl performNext ([], rl)

/-- The times at which attempts on a key were let in. -/
def accepted (key : Option String) (results : List (Attempt × Bool)) : List Instant :=
  results.filterMap fun x => if x.1.key = key ∧ x.2 = true then some x.1.now else none

/-! ## One attempt -/

/-- The limits and windows stay. -/
structure SameLimits (rl rl' : ConnectionRateLimiter) : Prop where
  limit : ∀ key, rl'.keyLimit key = rl.keyLimit key
  window : ∀ key, rl'.keyWindow key = rl.keyWindow key

/-- An attempt asks the window of its key and changes no other. -/
structure Asks (rl : ConnectionRateLimiter) (a : Attempt)
    (out : Bool × ConnectionRateLimiter) : Prop where
  result : out.1 = (pruneAndCheck (rl.queue a.key) (rl.keyLimit a.key) (rl.keyWindow a.key)
    a.now).1
  same : out.2.queue a.key = (pruneAndCheck (rl.queue a.key) (rl.keyLimit a.key)
    (rl.keyWindow a.key) a.now).2
  others : ∀ key, key ≠ a.key → out.2.queue key = rl.queue key
  limits : SameLimits rl out.2

theorem asks_perform (rl : ConnectionRateLimiter) (a : Attempt) : Asks rl a (rl.perform a) := by
  cases a with
  | device d now =>
    refine ⟨rfl, ?_, fun key other => ?_, ⟨fun key => ?_, fun key => ?_⟩⟩
    · change ((rl.deviceWindows.insert d _).lookup d).getD [] = _
      rw [AList.lookup_insert]
      rfl
    · cases key with
      | none => rfl
      | some d' =>
        have ne : d' ≠ d := fun h => other (by rw [h]; rfl)
        change ((rl.deviceWindows.insert d _).lookup d').getD [] = _
        rw [AList.lookup_insert_ne ne]
        rfl
    · cases key <;> rfl
    · cases key <;> rfl
  | global now =>
    refine ⟨rfl, rfl, fun key other => ?_, ⟨fun key => ?_, fun key => ?_⟩⟩
    · cases key with
      | none => exact absurd rfl other
      | some d => rfl
    · cases key <;> rfl
    · cases key <;> rfl

/-- In a queue of the past, an attempt is one on a sliding window. -/
theorem pruneAndCheck_eq_attempt {window : List Instant} {limit : ℕ} {width : Duration}
    {now : Instant} (past : ∀ t ∈ window, t ≤ now) :
    pruneAndCheck window limit width now = attempt limit width window now := by
  have dropped : (window.dropWhile fun t => width ≤ saturatingDurationSince now t) =
      window.dropWhile fun t => t + width ≤ now := by
    induction window with
    | nil => rfl
    | cons t window ih =>
      have expired : width ≤ saturatingDurationSince now t ↔ t + width ≤ now := by
        rw [saturatingDurationSince, max_eq_right (sub_nonneg.2 (past t List.mem_cons_self)),
          le_sub_iff_add_le']
      simp only [List.dropWhile_cons, expired,
        ih fun t mem => past t (List.mem_cons_of_mem _ mem)]
  unfold pruneAndCheck attempt
  rw [dropped]

/-! ## The window of a key -/

/-- The attempt is on the key. -/
def Attempt.on (key : Option String) (a : Attempt) : Bool := a.key = key

/-- What one attempt makes of the times let in and of the queue of its key. -/
def windowNext (limit : ℕ) (width : Duration) (acc : List Instant × List Instant) (a : Attempt) :
    List Instant × List Instant :=
  (acc.1 ++ (if (pruneAndCheck acc.2 limit width a.now).1 then [a.now] else []),
    (pruneAndCheck acc.2 limit width a.now).2)

theorem SameLimits.trans {rl' rl'' : ConnectionRateLimiter} (h : SameLimits rl rl')
    (h' : SameLimits rl' rl'') : SameLimits rl rl'' :=
  ⟨fun key => (h'.limit key).trans (h.limit key), fun key => (h'.window key).trans (h.window key)⟩

theorem sameLimits_performAll (rl : ConnectionRateLimiter) (attempts : List Attempt) :
    SameLimits rl (performAll rl attempts).2 := by
  refine List.foldlRecOn (motive := fun acc : List (Attempt × Bool) × ConnectionRateLimiter =>
    SameLimits rl acc.2) attempts performNext ⟨fun _ => rfl, fun _ => rfl⟩ ?_
  exact fun acc same a _ => same.trans (asks_perform acc.2 a).limits

/-- What is known of a key after some attempts depends on those on the key. -/
theorem foldl_performNext (key : Option String) (attempts : List Attempt)
    (acc : List (Attempt × Bool) × ConnectionRateLimiter) :
    (accepted key (attempts.foldl performNext acc).1,
      (attempts.foldl performNext acc).2.queue key) =
    (attempts.filter (Attempt.on key)).foldl
      (windowNext (acc.2.keyLimit key) (acc.2.keyWindow key))
      (accepted key acc.1, acc.2.queue key) := by
  induction attempts generalizing acc with
  | nil => rfl
  | cons a attempts ih =>
    have asks := asks_perform acc.2 a
    have added : accepted key (performNext acc a).1 = accepted key acc.1 ++
        if a.key = key ∧ (acc.2.perform a).1 = true then [a.now] else [] := by
      rw [performNext, accepted, List.filterMap_append, ← accepted]
      split_ifs with h <;> simp [h]
    rw [List.foldl_cons, ih, added, show (performNext acc a).2 = (acc.2.perform a).2 from rfl,
      asks.limits.limit, asks.limits.window]
    by_cases same : a.key = key
    · subst same
      rw [List.filter_cons_of_pos (by simp [Attempt.on]), List.foldl_cons, windowNext, asks.same,
        asks.result]
      simp
    · rw [List.filter_cons_of_neg (by simp [Attempt.on, same]), asks.others key (Ne.symm same),
        if_neg fun h => same h.1, List.append_nil]

/-- The queue of a key tracks the attempts on it that were let in. -/
theorem tracks_performAll (new : ∀ key, rl.queue key = []) {now : Instant}
    (ordered : Timed.Ordered Attempt.now (attempts.filter (Attempt.on key)))
    (upto : ∀ a ∈ attempts.filter (Attempt.on key), a.now ≤ now) :
    Tracks (rl.keyLimit key) (rl.keyWindow key) now (accepted key (performAll rl attempts).1)
      ((performAll rl attempts).2.queue key) := by
  have window := foldl_performNext key attempts ([], rl)
  rw [show accepted key [] = [] from rfl, new key] at window
  have tracks := Timed.foldl_induction
    (I := fun now acc => Tracks (rl.keyLimit key) (rl.keyWindow key) now acc.1 acc.2)
    (f := windowNext (rl.keyLimit key) (rl.keyWindow key)) (s := ([], []))
    (fun now => .start _ _ now) (fun _ _ _ h T => T.later h)
    (fun a _ acc T => by
      rw [windowNext, pruneAndCheck_eq_attempt T.queue_past]
      exact T.attempt) ordered upto
  rwa [← window] at tracks

theorem filter_on_concat : (attempts ++ [a]).filter (Attempt.on a.key) =
    attempts.filter (Attempt.on a.key) ++ [a] := by
  rw [List.filter_append, List.filter_cons_of_pos (by simp [Attempt.on]), List.filter_nil]

/-- The result of an attempt depends on the queue of its key. -/
theorem result_performAll (rl : ConnectionRateLimiter) (attempts : List Attempt) (a : Attempt) :
    ((performAll rl attempts).2.perform a).1 =
      (pruneAndCheck ((performAll rl attempts).2.queue a.key) (rl.keyLimit a.key)
        (rl.keyWindow a.key) a.now).1 := by
  have limits := sameLimits_performAll rl attempts
  rw [(asks_perform _ a).result, limits.limit, limits.window]

theorem queue_performAll_filter (rl : ConnectionRateLimiter) (attempts : List Attempt)
    (key : Option String) :
    (performAll rl (attempts.filter (Attempt.on key))).2.queue key =
      (performAll rl attempts).2.queue key := by
  have all := foldl_performNext key attempts ([], rl)
  have own := foldl_performNext key (attempts.filter (Attempt.on key)) ([], rl)
  rw [List.filter_filter] at own
  simp only [Bool.and_self] at own
  exact (Prod.mk.inj (own.trans all.symm)).2

/-- After any attempts of which those on a key are in the order of their times, an attempt on the
key is let in if and only if fewer than the limit were let in during the window that ends with it.
So no window has more than the limit, and attempts on other keys make no difference. -/
theorem connection_limit_is_exact (new : ∀ key, rl.queue key = []) (attempts : List Attempt)
    (a : Attempt)
    (ordered : Timed.Ordered Attempt.now ((attempts ++ [a]).filter (Attempt.on a.key))) :
    (((performAll rl attempts).2.perform a).1 = true ↔
      (after (a.now - rl.keyWindow a.key) a.now
        (accepted a.key (performAll rl attempts).1)).length < rl.keyLimit a.key) ∧
    (∀ t, (after t (t + rl.keyWindow a.key)
        (accepted a.key (performAll rl (attempts ++ [a])).1)).length ≤ rl.keyLimit a.key ∧
      (before t (t + rl.keyWindow a.key)
        (accepted a.key (performAll rl (attempts ++ [a])).1)).length ≤ rl.keyLimit a.key) ∧
    ((performAll rl attempts).2.perform a).1 =
      ((performAll rl (attempts.filter (Attempt.on a.key))).2.perform a).1 := by
  have whole := ordered
  rw [filter_on_concat] at whole
  obtain ⟨earlier, upto⟩ := Timed.ordered_concat.1 whole
  have T := tracks_performAll new earlier upto
  obtain ⟨t, upto'⟩ := Timed.exists_upto Attempt.now ((attempts ++ [a]).filter (Attempt.on a.key))
  have T' := tracks_performAll new ordered upto'
  refine ⟨?_, fun t => ⟨T'.windows t, T'.windows' t⟩, ?_⟩
  · rw [result_performAll, pruneAndCheck_eq_attempt T.queue_past]
    exact T.attempt_iff
  · rw [result_performAll, result_performAll, queue_performAll_filter]

theorem queue_new (config : RateLimitConfig) (key : Option String) :
    (ConnectionRateLimiter.new config).queue key = [] := by
  cases key <;> rfl

/-- Two connections of a device are let in, one of them a minute before the next attempt. -/
def connections : List Attempt :=
  [.device "d" 0, .global 0, .device "d" 30, .device "d" 40, .device "e" 40]

/-- The connection of a minute ago has left the window. -/
theorem third_connection_is_let_in :
    accepted (some "d") (performAll (.new ⟨1, 1, 1, 2, 1, 1, 1, 1⟩) connections).1 = [0, 30] ∧
    ((performAll (.new ⟨1, 1, 1, 2, 1, 1, 1, 1⟩) connections).2.perform (.device "d" 60)).1 =
      true := by
  refine ⟨by decide +kernel, ?_⟩
  exact ((connection_limit_is_exact (queue_new ⟨1, 1, 1, 2, 1, 1, 1, 1⟩) connections
    (.device "d" 60) (by decide +kernel)).1).2 (by decide +kernel)

end ConnectionRateLimiter

end GrpcRelay
