import GrpcRelay.Bandwidth

/-!
# Refused messages and the bandwidth windows

`record_and_check` counts a message in each of its three windows before it is known whether all of
them accept it.  A window that a message does not fit in counts it as well, unless its counter would
overflow.  So the totals of the windows are those of the accepted messages only as long as every
message fits (`refusals_are_accurate_iff`).
-/

namespace GrpcRelay

namespace BandwidthTracker

open RotatingWindow

/-- The tracker after a sequence of calls. -/
def after (bt : BandwidthTracker) (calls : List Call) : BandwidthTracker :=
  calls.foldl (fun bt call => (bt.perform call).2) bt

/-- The bytes accepted in the window of a key that is current at a clock reading. -/
def spent (config : RateLimitConfig) (before : List Call) (k : RateKey) (now : ℕ) : ℕ :=
  total ((performAll k (.new config) before).1.filter
    (·.start = (current second now ((after (.new config) before).window k)).2))

/-- A call that returns false leaves the totals of its windows as they are. -/
def Harmless (bt : BandwidthTracker) (call : Call) : Prop :=
  (bt.perform call).1 = false → ∀ k now, call.reading k = some now →
    (bt.perform call).2.window k = some (current second now (bt.window k))

/-- A call that returns false would exceed the limit of one of its keys together with what was
accepted, and is counted in none of its windows. -/
def Accurate (config : RateLimitConfig) (before : List Call) (call : Call) : Prop :=
  (((after (.new config) before).perform call).1 = false → ∃ k now, call.reading k = some now ∧
    (BandwidthTracker.new config).keyLimit k < spent config before k now + call.bytes) ∧
  Harmless (after (.new config) before) call

/-- All calls of a sequence are accurate. -/
def AllAccurate (config : RateLimitConfig) (calls : List Call) : Prop :=
  ∀ before call rest, calls = before ++ call :: rest → Accurate config before call

/-- The call fits in all of its windows. -/
def Fits (bt : BandwidthTracker) (call : Call) : Prop :=
  ∀ k now, call.reading k = some now →
    (current second now (bt.window k)).1 + call.bytes ≤ bt.keyLimit k

/-- The call would overflow the counters of all of its windows. -/
def Overflows (bt : BandwidthTracker) (call : Call) : Prop :=
  ∀ k now, call.reading k = some now →
    UInt64.size ≤ (current second now (bt.window k)).1 + call.bytes

variable {bt : BandwidthTracker} {k : RateKey} {call : Call} {calls before : List Call}
  {config : RateLimitConfig}

/-! ## One call -/

/-- A message that is accepted fits; one that fits is accepted. -/
theorem perform_eq_true_iff_fits (limits : ∀ k, bt.keyLimit k < UInt64.size) :
    (bt.perform call).1 = true ↔ Fits bt call := by
  rw [perform_eq_true_iff]
  refine forall₃_congr fun k now reading => and_iff_right_of_imp fun fits => ?_
  exact lt_of_le_of_lt fits (limits k)

/-- A total stays as it is if there are no bytes or they would overflow it. -/
theorem tally_eq_iff (total bytes : ℕ) :
    tally total bytes = total ↔ bytes = 0 ∨ UInt64.size ≤ total + bytes := by
  unfold tally
  split_ifs with overflow
  · simp [overflow]
  · omega

theorem harmless_iff (bt : BandwidthTracker) (call : Call) :
    Harmless bt call ↔
      (bt.perform call).1 = true ∨ call.bytes = 0 ∨ Overflows bt call := by
  have unchanged : (∀ k now, call.reading k = some now →
      (bt.perform call).2.window k = some (current second now (bt.window k))) ↔
      ∀ k now, call.reading k = some now → call.bytes = 0 ∨
        UInt64.size ≤ (current second now (bt.window k)).1 + call.bytes := by
    refine forall₃_congr fun k now reading => ?_
    rw [(performs bt call).stored k now reading, ← tally_eq_iff, Option.some_inj, Prod.ext_iff]
    exact and_iff_left rfl
  unfold Harmless Overflows
  rw [unchanged]
  cases (bt.perform call).1 with
  | true => simp
  | false =>
    by_cases none : call.bytes = 0 <;> simp [none]

/-! ## Sequences of calls -/

theorem performAll_snd (k : RateKey) (bt : BandwidthTracker) (calls : List Call) :
    (performAll k bt calls).2 = after bt calls := by
  induction calls using List.reverseRecOn with
  | nil => rfl
  | append_singleton calls call ih =>
    rw [performAll_concat, performNext, ih, after, after, List.foldl_append]
    rfl

theorem keyLimit_after (bt : BandwidthTracker) (calls : List Call) (k : RateKey) :
    (after bt calls).keyLimit k = bt.keyLimit k := by
  induction calls using List.reverseRecOn with
  | nil => rfl
  | append_singleton calls call ih =>
    rw [← ih, after, after, List.foldl_append]
    exact (performs _ call).limits.keyLimit k

/-- A call that does no harm keeps the count of its windows exact. -/
theorem exact_next {acc : List Visit × BandwidthTracker}
    (E : Exact (acc.2.keyLimit k) acc.1 (acc.2.window k)) (harmless : Harmless acc.2 call) :
    Exact (acc.2.keyLimit k) (performNext k acc call).1 ((performNext k acc call).2.window k) := by
  have P := performs acc.2 call
  cases reading : call.reading k with
  | none =>
    have silent : visit k acc.2 call = [] := by simp [visit, reading]
    rw [performNext, silent, List.append_nil, P.others k reading]
    exact E
  | some now =>
    have visited : visit k acc.2 call = [⟨now, call.bytes,
        (current second now (acc.2.window k)).2, rotates second now (acc.2.window k),
        (acc.2.perform call).1⟩] := by simp [visit, reading]
    rw [performNext, visited]
    cases ok : (acc.2.perform call).1 with
    | true =>
      obtain ⟨whole, fits⟩ := P.result ok k now reading
      rw [P.stored k now reading]
      exact E.visit second_pos whole (whole.trans_le fits)
    | false =>
      rw [harmless ok k now reading]
      exact E.visit second_pos rfl (E.current second_pos now).2.2

/-- While the calls do no harm, every window counts what was accepted in it. -/
theorem exact_performAll (k : RateKey)
    (harmless : ∀ before call rest, calls = before ++ call :: rest →
      Harmless (after (.new config) before) call) :
    Exact ((BandwidthTracker.new config).keyLimit k) (performAll k (.new config) calls).1
      ((after (.new config) calls).window k) := by
  induction calls using List.reverseRecOn with
  | nil => exact .start _
  | append_singleton calls call ih =>
    have E := ih fun before call' rest split =>
      harmless before call' (rest ++ [call]) (by simp [split])
    rw [← performAll_snd k, ← keyLimit_after _ calls, ← performAll_snd k] at E ⊢
    rw [performAll_concat]
    refine exact_next E ?_
    rw [performAll_snd]
    exact harmless calls call [] rfl

/-- After calls that did no harm, the next is accurate exactly if it fits in all windows, or would
overflow all of them. -/
theorem accurate_iff (limits : ∀ k, (BandwidthTracker.new config).keyLimit k < UInt64.size)
    (harmless : ∀ before' call' rest, before = before' ++ call' :: rest →
      Harmless (after (.new config) before') call') :
    Accurate config before call ↔
      Fits (after (.new config) before) call ∨ Overflows (after (.new config) before) call := by
  have limit (k : RateKey) := keyLimit_after (.new config) before k
  have accepted : ((after (.new config) before).perform call).1 = true ↔
      Fits (after (.new config) before) call :=
    perform_eq_true_iff_fits fun k => (limit k).trans_lt (limits k)
  have E (k : RateKey) (now : ℕ) :=
    (exact_performAll k harmless).current second_pos now
  rw [Accurate, harmless_iff, accepted]
  constructor
  · rintro ⟨-, fits | empty | overflows⟩
    · exact .inl fits
    · refine .inl fun k now _ => ?_
      rw [empty, Nat.add_zero, limit]
      exact (E k now).2.2
    · exact .inr overflows
  · rintro (fits | overflows)
    · refine ⟨fun refused => ?_, .inl fits⟩
      rw [accepted.2 fits] at refused
      cases refused
    · refine ⟨fun _ => ⟨.global, call.clock.global, rfl, ?_⟩, .inr (.inr overflows)⟩
      rw [spent, ← (E .global call.clock.global).2.1]
      exact (limits .global).trans_le (overflows .global call.clock.global rfl)

/-- In a sequence of calls every refusal is accurate exactly if every call fits in its three windows
when it is made, or would overflow the counters of all three. -/
theorem refusals_are_accurate_iff (config : RateLimitConfig) (calls : List Call)
    (limits : ∀ k, (BandwidthTracker.new config).keyLimit k < UInt64.size) :
    AllAccurate config calls ↔
      ∀ before call rest, calls = before ++ call :: rest →
        Fits (after (.new config) before) call ∨ Overflows (after (.new config) before) call := by
  constructor
  · intro accurate before call rest split
    refine (accurate_iff limits ?_).1 (accurate before call rest split)
    intro before' call' rest' split'
    exact (accurate before' call' (rest' ++ call :: rest) (by simp [split, split'])).2
  · intro clean before call rest split
    refine (accurate_iff limits ?_).2 (clean before call rest split)
    intro before' call' rest' split'
    have limits' (k : RateKey) : (after (.new config) before').keyLimit k < UInt64.size :=
      (keyLimit_after _ before' k).trans_lt (limits k)
    rw [harmless_iff, perform_eq_true_iff_fits limits']
    exact (clean before' call' (rest' ++ call :: rest) (by simp [split, split'])).imp_right .inr

/-- A device that may get 100 bytes in a second. -/
def metered : RateLimitConfig := ⟨1, 1, 1, 1, 1, 100, 1000, 1000⟩

/-- A message of some bytes, metered at one time. -/
def message (now bytes : ℕ) : Call := ⟨⟨now, now, now⟩, "d", "c", bytes⟩

theorem keyLimit_metered_lt (k : RateKey) :
    (BandwidthTracker.new metered).keyLimit k < UInt64.size := by
  cases k with
  | global => decide
  | device d => exact show 100 < UInt64.size by decide
  | controller c => exact show 1000 < UInt64.size by decide

theorem fitting_messages_are_accurate : AllAccurate metered [message 0 60, message 1 40] := by
  refine (refusals_are_accurate_iff metered _ keyLimit_metered_lt).2 ?_
  have limits (before : List Call) (k : RateKey) :
      (after (.new metered) before).keyLimit k < UInt64.size :=
    (keyLimit_after _ before k).trans_lt (keyLimit_metered_lt k)
  intro before call rest split
  left
  rw [← perform_eq_true_iff_fits (limits before)]
  rcases before with _ | ⟨first, _ | ⟨second, before⟩⟩
  · cases split
    decide +kernel
  · cases split
    decide +kernel
  · simp at split

/-- A message that was refused uses up the second for the next, which is refused although the device
was sent nothing. -/
theorem refused_message_uses_budget :
    ¬ AllAccurate metered [message 0 150, message 1 50] := by
  intro accurate
  obtain ⟨k, now, reading, exceeded⟩ :=
    (accurate [message 0 150] (message 1 50) [] rfl).1 (by decide +kernel)
  rcases Call.reading_cases _ reading with ⟨rfl, rfl⟩ | ⟨rfl, rfl⟩ | ⟨rfl, rfl⟩
  all_goals exact absurd exceeded (by decide +kernel)

end BandwidthTracker

end GrpcRelay
