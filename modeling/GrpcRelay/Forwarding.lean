import GrpcRelay.Responses

/-!
# At most one forward

A loop that opens an entry forwards the request and, when it has the response, inserts it into the
idempotency cache.  Between these steps the in-flight table can lose the entry: it is taken before
the response is stored.  `phase` says where a loop stands in this window; as long as no entry is
opened inside the window of its key, or with a response in the cache, a request is forwarded at
most once.
-/

namespace GrpcRelay

/-- The key that a loop is forwarding, and whether its request is on the way to the device. -/
def CtrlPc.phase : CtrlPc → Option (RequestKey × Bool)
  | .routing m _ | .metering m _ _ | .forwarding m _ _ => some (m.key, false)
  | .waiting m _ true | .caching m _ => some (m.key, true)
  | _ => none

/-- The key of a request put on an outbound channel. -/
def Event.placedKey : Event → Option RequestKey
  | .placed _ _ m _ => some m.key
  | _ => none

/-- How many requests with this key were put on outbound channels. -/
def placements (k : RequestKey) (events : List Event) : ℕ :=
  (events.filterMap Event.placedKey).count k

theorem placements_append (k : RequestKey) (xs ys : List Event) :
    placements k (xs ++ ys) = placements k xs + placements k ys := by
  simp [placements, List.filterMap_append]

theorem placements_eq_zero {k : RequestKey} {events : List Event}
    (h : ∀ c i m request, .placed c i m request ∉ events) : placements k events = 0 := by
  unfold placements
  rw [List.count_eq_zero, List.mem_filterMap]
  rintro ⟨e, he, hk⟩
  cases e with
  | placed c i m request => exact h c i m request he
  | _ => cases hk

/-- The step opens no entry for the key while a loop is forwarding a request with that key, or while
the cache holds a response for it. -/
def OpensAfresh (k : RequestKey) (s : State) : Action → Prop
  | .ctrl c _ =>
    match (s.ctrl c).pc with
    | .joining m => m.key = k → s.shared.table.entries.lookup k = none →
        s.shared.cache.lookup k = none ∧ ∀ c' placed, (s.ctrl c').pc.phase ≠ some (k, placed)
    | _ => True
  | _ => True

namespace Controller

/-- What a step of a loop does to the window of a key. -/
inductive PhaseStep (sh : Shared) (l : Controller) (next : Next Controller) : Prop
  | same (phase : next.loc.pc.phase = l.pc.phase) (cache : next.shared.cache = sh.cache)
      (quiet : ∀ k, placements k next.events = 0)
  | opened (m : ControllerMessage) (at_pc : l.pc = .joining m)
      (absent : sh.table.entries.lookup m.key = none)
      (phase : next.loc.pc.phase = some (m.key, false)) (cache : next.shared.cache = sh.cache)
      (quiet : ∀ k, placements k next.events = 0)
      (entry : ∃ a rx, .inflight sh.now (.joined m.key a rx true) ∈ next.events)
  | placed (k : RequestKey) (before : l.pc.phase = some (k, false))
      (phase : next.loc.pc.phase = some (k, true)) (cache : next.shared.cache = sh.cache)
      (counted : ∀ k', placements k' next.events = if k' = k then 1 else 0)
  | refused (k : RequestKey) (before : l.pc.phase = some (k, false))
      (phase : next.loc.pc.phase = none) (cache : next.shared.cache = sh.cache)
      (quiet : ∀ k, placements k next.events = 0)
  | stored (k : RequestKey) (r : Reply) (before : l.pc.phase = some (k, true))
      (phase : next.loc.pc.phase = none) (cache : next.shared.cache = sh.cache.insert k r)
      (quiet : ∀ k, placements k next.events = 0)
  | closed (m : ControllerMessage) (rx : ℕ) (at_pc : l.pc = .waiting m rx true)
      (gone : sh.table.closed rx = true)

variable {cfg : Config} {sh : Shared} {c : ℕ} {l : Controller} {input : CtrlInput}
  {next : Next Controller}

theorem phaseStep_of_moves (move : Moves cfg sh c l input next) : PhaseStep sh l next := by
  cases move
  case refused m resp sh' connected counts at_pc quiet _ counted =>
    refine .same ?_ quiet.cache ?_
    · rcases at_pc with h | h | h <;> rw [h] <;> rfl
    · intro k
      apply placements_eq_zero
      intro c i m request h
      rcases List.mem_append.1 h with h | h
      · obtain ⟨status, hs⟩ := counted _ h
        cases hs
      · simp at h
  case opened m at_pc absent => 
    exact .opened m at_pc absent rfl rfl (fun _ => rfl) ⟨_, _, List.mem_singleton.2 rfl⟩
  case unrouted m rx at_pc _ =>
    exact .refused m.key (by rw [at_pc]; rfl) rfl rfl fun _ => rfl
  case throttled m rx session _ sh' resp at_pc quiet _ _ =>
    exact .refused m.key (by rw [at_pc]; rfl) rfl quiet.cache fun _ => rfl
  case unsent m rx session at_pc _ =>
    exact .refused m.key (by rw [at_pc]; rfl) rfl rfl fun _ => rfl
  case placed m rx session at_pc =>
    refine .placed m.key (by rw [at_pc]; rfl) rfl rfl fun k => ?_
    simp only [placements, List.filterMap_cons, Event.placedKey, List.filterMap_nil,
      List.count_singleton, beq_iff_eq]
    exact if_congr eq_comm rfl rfl
  case closed m rx isNewForwarder resp at_pc gone _ =>
    cases isNewForwarder with
    | true => exact .closed m rx at_pc gone
    | false => exact .same (by rw [at_pc]; rfl) rfl fun _ => rfl
  case cached m r at_pc => exact .stored m.key r (by rw [at_pc]; rfl) rfl rfl fun _ => rfl
  case rested m sh' at_pc quiet =>
    refine .same ?_ quiet.cache fun _ => rfl
    rcases at_pc with h | h <;> rw [h] <;> rfl
  case ended pc' sh' at_pc quiet =>
    refine .same ?_ quiet.cache fun _ => rfl
    rcases at_pc with ⟨h, rfl⟩ | ⟨h, rfl⟩ | ⟨h, rfl⟩ <;> rw [h] <;> rfl
  all_goals
    refine .same ?_ ?_ fun _ => rfl
    · rw [‹l.pc = _›]
      rfl
    · first | rfl | exact Shared.Quiet.cache ‹_›

end Controller

/-! ## The invariant -/

/-- At most one loop is in the window of the key; while its request is not on the way none was; and
a request that was forwarded is on the way or has its response in the cache. -/
structure ForwardedOnce (k : RequestKey) (s : State) : Prop where
  single : ∀ c c' placed placed', (s.ctrl c).pc.phase = some (k, placed) →
    (s.ctrl c').pc.phase = some (k, placed') → c = c'
  unplaced : ∀ c, (s.ctrl c).pc.phase = some (k, false) → placements k s.trace = 0
  accounted : placements k s.trace = 0 ∨ placements k s.trace = 1 ∧
    ((∃ c, (s.ctrl c).pc.phase = some (k, true)) ∨ (s.shared.cache.lookup k).isSome)

variable {cfg : Config} {s s' : State} {k : RequestKey}

theorem forwardedOnce_init : ForwardedOnce k (State.init cfg) where
  single := by simp [State.init, CtrlPc.phase]
  unplaced := by simp [State.init, CtrlPc.phase]
  accounted := Or.inl rfl

/-- The receiver of a waiting loop is not closed: its sender is in an entry, or has sent. -/
theorem open_of_waiting (hr : Reachable cfg s) {c : ℕ} {m : ControllerMessage} {rx : ℕ}
    {isNewForwarder : Bool} (at_pc : (s.ctrl c).pc = .waiting m rx isNewForwarder) :
    s.shared.table.closed rx = false := by
  have L := (custody_of_reachable hr).run.ledger
  obtain ⟨a, new, hj⟩ := (provenance_of_reachable hr).receiver c m rx (by rw [at_pc]; rfl)
  obtain ⟨hlt, hplaced⟩ := L.sound.placed rx (L.joined _ a rx new hj).1
  rw [Bool.eq_false_iff]
  intro hclosed
  simp only [SingleFlight.Table.closed, Bool.and_eq_true, List.isEmpty_iff, List.all_eq_true,
    List.mem_range, Bool.not_eq_true', List.contains_eq_mem, decide_eq_false_iff_not] at hclosed
  rcases hplaced with h | ⟨-, v, hv⟩
  · exact hclosed.2 _ hlt h
  · simp [hclosed.1] at hv

namespace ForwardedOnce

variable (F : ForwardedOnce k s)

include F

/-- A step that places no request with the key and lets no loop into its window. -/
theorem shrink (count : placements k s'.trace = placements k s.trace)
    (phase : ∀ c placed, (s'.ctrl c).pc.phase = some (k, placed) →
      (s.ctrl c).pc.phase = some (k, placed))
    (accounted : placements k s.trace = 0 ∨ placements k s.trace = 1 ∧
      ((∃ c, (s'.ctrl c).pc.phase = some (k, true)) ∨ (s'.shared.cache.lookup k).isSome)) :
    ForwardedOnce k s' := by
  refine ⟨?_, ?_, ?_⟩
  · intro c c' placed placed' h h'
    exact F.single c c' placed placed' (phase c placed h) (phase c' placed' h')
  · intro c h
    rw [count]
    exact F.unplaced c (phase c false h)
  · rwa [count]

/-- A step that does nothing to the window of the key. -/
theorem frame (count : placements k s'.trace = placements k s.trace)
    (phase : ∀ c placed, (s'.ctrl c).pc.phase = some (k, placed) ↔
      (s.ctrl c).pc.phase = some (k, placed))
    (cache : (s.shared.cache.lookup k).isSome → (s'.shared.cache.lookup k).isSome) :
    ForwardedOnce k s' := by
  refine F.shrink count (fun c placed => (phase c placed).1) ?_
  rcases F.accounted with h | ⟨h, ⟨c, hc⟩ | hc⟩
  · exact Or.inl h
  · exact Or.inr ⟨h, Or.inl ⟨c, (phase c true).2 hc⟩⟩
  · exact Or.inr ⟨h, Or.inr (cache hc)⟩

/-- A step of a loop. -/
theorem phaseStep (hr : Reachable cfg s) {c : ℕ} {input : CtrlInput} {next : Next Controller}
    (ok : OpensAfresh k s (.ctrl c input)) (h : Controller.PhaseStep s.shared (s.ctrl c) next) :
    ForwardedOnce k (s.afterCtrl c next) := by
  have count : placements k (s.afterCtrl c next).trace =
      placements k s.trace + placements k next.events := placements_append ..
  have self : ((s.afterCtrl c next).ctrl c).pc.phase = next.loc.pc.phase := by
    simp [State.afterCtrl]
  have other {c' : ℕ} (hc : c' ≠ c) :
      ((s.afterCtrl c next).ctrl c').pc.phase = (s.ctrl c').pc.phase := by
    simp [State.afterCtrl, hc]
  have elsewhere (before : ∀ placed, (s.ctrl c).pc.phase ≠ some (k, placed))
      (after : ∀ placed, next.loc.pc.phase ≠ some (k, placed)) (c' : ℕ) (placed : Bool) :
      ((s.afterCtrl c next).ctrl c').pc.phase = some (k, placed) ↔
        (s.ctrl c').pc.phase = some (k, placed) := by
    by_cases hc : c' = c
    · subst hc
      rw [self]
      exact iff_of_false (after placed) (before placed)
    · rw [other hc]
  have left (after : next.loc.pc.phase = none) (c' : ℕ) (placed : Bool)
      (h : ((s.afterCtrl c next).ctrl c').pc.phase = some (k, placed)) :
      (s.ctrl c').pc.phase = some (k, placed) := by
    have hc : c' ≠ c := by
      rintro rfl
      simp [self, after] at h
    rwa [other hc] at h
  cases h with
  | same phase cache quiet =>
    refine F.frame (by rw [count, quiet, Nat.add_zero]) ?_ (by simp [State.afterCtrl, cache])
    intro c' placed
    by_cases hc : c' = c
    · subst hc
      rw [self, phase]
    · rw [other hc]
  | opened m at_pc absent phase cache quiet _ =>
    by_cases hk : m.key = k
    · subst hk
      simp only [OpensAfresh, at_pc, forall_const] at ok
      obtain ⟨uncached, alone⟩ := ok absent
      have zero : placements m.key s.trace = 0 := by
        rcases F.accounted with h | ⟨-, ⟨c', hc'⟩ | hc'⟩
        · exact h
        · exact absurd hc' (alone c' true)
        · rw [uncached] at hc'
          cases hc'
      have only {c' : ℕ} {placed : Bool}
          (h : ((s.afterCtrl c next).ctrl c').pc.phase = some (m.key, placed)) : c' = c := by
        by_contra hc
        exact alone c' placed (by rwa [other hc] at h)
      refine ⟨fun c₁ c₂ _ _ h₁ h₂ => (only h₁).trans (only h₂).symm, fun _ _ => ?_, Or.inl ?_⟩
      · rw [count, zero, quiet]
      · rw [count, zero, quiet]
    · refine F.frame (by rw [count, quiet, Nat.add_zero]) (elsewhere ?_ ?_)
        (by simp [State.afterCtrl, cache])
      · simp [at_pc, CtrlPc.phase]
      · simp [phase, hk]
  | placed k' before phase cache counted =>
    by_cases hk : k' = k
    · subst hk
      have zero : placements k' s.trace = 0 := F.unplaced c before
      have one : placements k' (s.afterCtrl c next).trace = 1 := by
        rw [count, zero, counted, if_pos rfl]
      have only {c' : ℕ} {placed : Bool}
          (h : ((s.afterCtrl c next).ctrl c').pc.phase = some (k', placed)) : c' = c := by
        by_contra hc
        rw [other hc] at h
        exact hc (F.single c' c placed false h before)
      refine ⟨fun c₁ c₂ _ _ h₁ h₂ => (only h₁).trans (only h₂).symm, ?_,
        Or.inr ⟨one, Or.inl ⟨c, ?_⟩⟩⟩
      · intro c' h
        obtain rfl := only h
        simp [self, phase] at h
      · rw [self, phase]
    · refine F.frame ?_ (elsewhere ?_ ?_) (by simp [State.afterCtrl, cache])
      · rw [count, counted, if_neg (Ne.symm hk), Nat.add_zero]
      · simp [before, hk]
      · simp [phase, hk]
  | refused k' before phase cache quiet =>
    refine F.shrink (by rw [count, quiet, Nat.add_zero]) (left phase) ?_
    by_cases hk : k' = k
    · exact Or.inl (F.unplaced c (hk ▸ before))
    · rcases F.accounted with h | ⟨h, ⟨c', hc'⟩ | hc'⟩
      · exact Or.inl h
      · have hc : c' ≠ c := by
          rintro rfl
          simp [before] at hc'
        exact Or.inr ⟨h, Or.inl ⟨c', by rwa [other hc]⟩⟩
      · exact Or.inr ⟨h, Or.inr (by simpa [State.afterCtrl, cache] using hc')⟩
  | stored k' r before phase cache quiet =>
    refine F.shrink (by rw [count, quiet, Nat.add_zero]) (left phase) ?_
    have lookup : (s.afterCtrl c next).shared.cache.lookup k =
        if k = k' then some r else s.shared.cache.lookup k := by
      simp only [State.afterCtrl, cache, DashMap.lookup_insert_ite]
    rcases F.accounted with h | ⟨h, ⟨c', hc'⟩ | hc'⟩
    · exact Or.inl h
    · by_cases hc : c' = c
      · subst hc
        obtain rfl : k' = k := by simpa [before] using hc'
        exact Or.inr ⟨h, Or.inr (by simp [lookup])⟩
      · exact Or.inr ⟨h, Or.inl ⟨c', by rwa [other hc]⟩⟩
    · refine Or.inr ⟨h, Or.inr ?_⟩
      rw [lookup]
      split_ifs
      · rfl
      · exact hc'
  | closed m rx at_pc gone =>
    rw [open_of_waiting hr at_pc] at gone
    cases gone

theorem stepCases (hr : Reachable cfg s) {a : Action} (ok : OpensAfresh k s a)
    (kept : .evicted k ∉ s'.trace) (h : StepCases cfg s a s') : ForwardedOnce k s' := by
  have silent {events : List Event} (trace : s'.trace = s.trace ++ events)
      (quiet : ∀ c i m request, .placed c i m request ∉ events) :
      placements k s'.trace = placements k s.trace := by
    rw [trace, placements_append, placements_eq_zero quiet, Nat.add_zero]
  cases h with
  | ctrl c input next move =>
    exact F.phaseStep hr ok (Controller.phaseStep_of_moves move)
  | dev i input next move =>
    refine F.frame (silent rfl ?_) (fun _ _ => Iff.rfl) ?_
    · intro c i' m request he
      cases Device.events_of_moves move _ he with
      | plain _ plain => cases plain
    · simp [State.afterDev, Device.cache_of_moves move]
  | evicted k' =>
    refine F.frame (silent rfl (by simp)) (fun _ _ => Iff.rfl) ?_
    have hk : k ≠ k' := by
      rintro rfl
      simp at kept
    simp [hk]
  | ambient _ sh' reaper' events _ _ _ cache _ _ plain _ =>
    refine F.frame (silent rfl ?_) (fun _ _ => Iff.rfl) (by simp [cache])
    intro c i m request he
    cases plain _ he
  | fired | firedLate | completed =>
    exact F.frame (silent rfl (by simp)) (fun _ _ => Iff.rfl) id

end ForwardedOnce

theorem forwardedOnce_of_reachable (h : ReachableWhen cfg (OpensAfresh k) s) :
    .evicted k ∉ s.trace → ForwardedOnce k s := by
  refine Runs.Reach.invariant (I := fun s => .evicted k ∉ s.trace → ForwardedOnce k s)
    (fun _ => forwardedOnce_init) ?_ h
  intro s a s' hr F ok hs kept
  have hcases := step_cases hs
  obtain ⟨events, trace⟩ := trace_of_cases hcases
  have kept' : .evicted k ∉ s.trace := by
    intro hm
    exact kept (by rw [trace]; exact List.mem_append_left _ hm)
  exact (F kept').stepCases (reachable_of_when hr) ok kept hcases

/-- In every run in which no entry for a key is opened while another loop is forwarding a request
with that key, or while the cache holds a response for it, at most one request with the key is put
on an outbound channel as long as the cache has not dropped an entry for it. -/
theorem forwarded_at_most_once (h : ReachableWhen cfg (OpensAfresh k) s)
    (kept : .evicted k ∉ s.trace) : placements k s.trace ≤ 1 := by
  rcases (forwardedOnce_of_reachable h kept).accounted with h | ⟨h, -⟩
  · rw [h]
    exact Nat.zero_le 1
  · rw [h]

/-- A loop in the window of a key opened an entry for it. -/
theorem opened_of_phase (h : Reachable cfg s) {c : ℕ} {placed : Bool}
    (phase : (s.ctrl c).pc.phase = some (k, placed)) : ∃ a rx, .joined k a rx true ∈ s.history := by
  revert c placed
  refine Runs.Reach.invariant (I := fun s => ∀ {c : ℕ} {placed : Bool},
    (s.ctrl c).pc.phase = some (k, placed) → ∃ a rx, .joined k a rx true ∈ s.history)
    (by simp [State.init, CtrlPc.phase]) ?_ h
  intro s a s' hr ih _ hs c placed phase
  have hcases := step_cases hs
  obtain ⟨events, trace⟩ := trace_of_cases hcases
  have old (h : (s.ctrl c).pc.phase = some (k, placed)) :
      ∃ a rx, .joined k a rx true ∈ s'.history := by
    obtain ⟨a, rx, hj⟩ := ih h
    rw [history_of_trace trace]
    exact ⟨a, rx, List.mem_append_left _ hj⟩
  cases hcases with
  | ctrl c' input next move =>
    by_cases hc : c = c'
    · subst hc
      simp only [State.afterCtrl, Function.update_self] at phase
      cases Controller.phaseStep_of_moves move with
      | same h => exact old (h ▸ phase)
      | opened m _ _ h _ _ entry =>
        obtain ⟨rfl, -⟩ : m.key = k ∧ false = placed := by simpa [h] using phase
        obtain ⟨a, rx, he⟩ := entry
        exact ⟨a, rx, List.mem_filterMap.2 ⟨_, List.mem_append_right _ he, rfl⟩⟩
      | placed k' before h =>
        obtain ⟨rfl, -⟩ : k' = k ∧ true = placed := by simpa [h] using phase
        obtain ⟨a, rx, hj⟩ := ih before
        rw [history_of_trace rfl]
        exact ⟨a, rx, List.mem_append_left _ hj⟩
      | refused _ _ h => simp [h] at phase
      | stored _ _ _ h => simp [h] at phase
      | closed m rx at_pc gone =>
        rw [open_of_waiting hr at_pc] at gone
        cases gone
    · simp only [State.afterCtrl, Function.update_of_ne hc] at phase
      exact old phase
  | dev | fired | firedLate | completed | evicted | ambient => exact old phase

/-! ### Concrete runs -/

namespace Small

/-- The response of the first request is taken from the table and not yet stored when the second
one, which missed the cache, asks for an entry. -/
def raceRun : List Action :=
  register 0 "d" "t" ++ join 0 (request 1) ++ forward 0 ++ data 0 "d" 1 ++
    join 1 (request 1) ++ forward 1

/-- One duplicate arrives while the request is in flight, and one after its response is stored. -/
def duplicatesRun : List Action :=
  register 0 "d" "t" ++ join 0 (request 1) ++ forward 0 ++ join 1 (request 1) ++ data 0 "d" 1 ++
    devTicks 0 1 ++ ticks 0 4 ++ ticks 1 3 ++ Action.ctrl 1 (.recv (request 1)) :: ticks 1 4

/-- The step joins an entry, or opens the first one of the run with an empty cache. -/
def joinsOrFirst (s : State) : Action → Bool
  | .ctrl c _ =>
    match (s.ctrl c).pc with
    | .joining m => (s.shared.table.entries.lookup m.key).isSome ||
        (s.shared.table.cells == 0 && (s.shared.cache.lookup m.key).isNone)
    | _ => true
  | _ => true

theorem opensAfresh_of_joinsOrFirst {cfg : Config} {k : RequestKey} (s : State) (a : Action)
    (hr : Reachable cfg s) (h : joinsOrFirst s a = true) : OpensAfresh k s a := by
  cases a with
  | ctrl c input =>
    cases hpc : (s.ctrl c).pc with
    | joining m =>
      simp only [OpensAfresh, hpc]
      rintro rfl absent
      simp only [joinsOrFirst, hpc, absent, Option.isSome_none, Bool.false_or, Bool.and_eq_true,
        beq_iff_eq, Option.isNone_iff_eq_none] at h
      refine ⟨h.2, fun c' placed phase => ?_⟩
      obtain ⟨a, rx, hj⟩ := opened_of_phase hr phase
      have L := (custody_of_reachable hr).run.ledger
      obtain ⟨-, -, cell, hc, -⟩ := L.joined _ a rx true hj
      have hlt := (L.sound.allocated a).1 (by simp [hc])
      omega
    | _ => simp [OpensAfresh, hpc]
  | _ => trivial

/-- The keys that the cache dropped. -/
def eviction : Event → Option RequestKey
  | .evicted k => some k
  | _ => none

theorem not_mem_of_eviction {events : List Event} {k : RequestKey}
    (h : events.filterMap eviction = []) : .evicted k ∉ events := by
  intro hm
  have : k ∈ events.filterMap eviction := List.mem_filterMap.2 ⟨_, hm, rfl⟩
  simp [h] at this

end Small

/-- A second request arrives between the device's answer and its insertion into the cache: both are
forwarded. -/
theorem race_forwards_twice :
    ¬ ∀ cfg s k, Reachable cfg s → .evicted k ∉ s.trace → placements k s.trace ≤ 1 := by
  intro claim
  obtain ⟨s, hs, hf⟩ : ∃ s, execute Small.config Small.raceRun = some s ∧
      (s.trace.filterMap Small.eviction, placements ("d", 1) s.trace) = ([], 2) :=
    Option.map_eq_some_iff.1 (by decide +kernel)
  obtain ⟨hkept, hcount⟩ := Prod.mk.inj hf
  have h := claim _ s ("d", 1) (reachable_of_execute hs) (Small.not_mem_of_eviction hkept)
  omega

theorem duplicates_are_not_forwarded :
    ∃ s, ReachableWhen Small.config (OpensAfresh ("d", 1)) s ∧ .evicted ("d", 1) ∉ s.trace ∧
      0 < placements ("d", 1) s.trace ∧ placements ("d", 1) s.trace ≤ 1 := by
  obtain ⟨s, hs, hf⟩ : ∃ s,
      executeWhen Small.config Small.joinsOrFirst Small.duplicatesRun = some s ∧
      (s.trace.filterMap Small.eviction, placements ("d", 1) s.trace) = ([], 1) :=
    Option.map_eq_some_iff.1 (by decide +kernel)
  obtain ⟨hkept, hcount⟩ := Prod.mk.inj hf
  have hr : ReachableWhen Small.config (OpensAfresh ("d", 1)) s :=
    reachableWhen_of_execute Small.opensAfresh_of_joinsOrFirst hs
  have kept := Small.not_mem_of_eviction (k := ("d", 1)) hkept
  exact ⟨s, hr, kept, by omega, forwarded_at_most_once hr kept⟩

end GrpcRelay
