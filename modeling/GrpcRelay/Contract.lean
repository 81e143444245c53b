import GrpcRelay.Custody

/-!
# The contract of the in-flight table

`Calls h st` collects every sequence of calls of `ensure_inflight_waiter`, `take_inflight` and
`InFlight::complete`, by any tasks and on any keys, in which only entries that were taken are
completed, each of them once.  `take_inflight_for_device` scans the map and then calls
`take_inflight` for every key found, so its removals are among these calls
(`Calls.takeInflightForDevice`).

Every such sequence keeps the `Contract`, and what the relay does to its table in a run is such a
sequence, in which the response of a completion names the key of the entry.
-/

namespace GrpcRelay

open SingleFlight

/-- Sequences of calls on the in-flight table: their outcomes, oldest first, and the state. -/
inductive Calls : List InflightOutcome → RelayState → Prop
  | new : Calls [] .new
  | ensureInflightWaiter {h : List InflightOutcome} {st : RelayState} (sequenceNumber : ℤ)
      (deviceId : String) : Calls h st →
      Calls (h ++ [Outcome.joined (deviceId, sequenceNumber)
          (st.ensureInflightWaiter sequenceNumber deviceId).2.1
          (st.ensureInflightWaiter sequenceNumber deviceId).2.2.1
          (st.ensureInflightWaiter sequenceNumber deviceId).2.2.2])
        (st.ensureInflightWaiter sequenceNumber deviceId).1
  | takeInflight {h : List InflightOutcome} {st : RelayState} (deviceId : String)
      (sequenceNumber : ℤ) (entry : ℕ) : Calls h st →
      (st.takeInflight deviceId sequenceNumber).2 = some entry →
      Calls (h ++ [Outcome.taken (deviceId, sequenceNumber) entry])
        (st.takeInflight deviceId sequenceNumber).1
  | complete {h : List InflightOutcome} {st : RelayState} (k : RequestKey) (entry : ℕ)
      (resp : Reply) : Calls h st → .taken k entry ∈ h → (∀ r, .completed entry r ∉ h) →
      Calls (h ++ [Outcome.completed entry resp]) (st.complete entry resp)

/-- What the table promises about a sequence of calls.

* `openers`: between the start or a removal of a key and its next removal, exactly the first call
  of `ensure_inflight_waiter` on the key returns `is_new_forwarder = true`.
* `noLateJoin`: no waiter is pushed into an entry that has left the map.
* `settled`: a receiver handed out waits in the mapped entry of its key, or in an entry taken and
  not completed, or was sent one response, the one its entry was completed with. -/
structure Contract (h : List InflightOutcome) (t : InflightTable) : Prop where
  openers : ∀ k a old since later, h = old ++ since ++ Outcome.taken k a :: later →
    (old = [] ∨ ∃ o b, old = o ++ [Outcome.taken k b]) → Untaken k since →
    ∃ n, openings k since = true :: List.replicate n false
  noLateJoin : ∀ k k' a rx new old later, h = old ++ Outcome.taken k a :: later →
    .joined k' a rx new ∉ later
  settled : ∀ k a rx new, .joined k a rx new ∈ h →
    ExactlyOne (Waits t k a rx) (InTransit h t a rx) (Answered h t a rx)

theorem contract_of_run {h : List InflightOutcome} {t : InflightTable} (r : Run h t) :
    Contract h t where
  openers k a old since later eq hold hun := by
    subst eq
    exact r.openers hold hun
  noLateJoin k k' a rx new old later eq := by
    subst eq
    exact r.no_late_join
  settled k a rx new hm := r.settled hm

namespace Calls

variable {h : List InflightOutcome} {st : RelayState}

theorem run (calls : Calls h st) : Run h st.inflightBySequence := by
  induction calls with
  | new => exact .start
  | ensureInflightWaiter sequenceNumber deviceId _ ih =>
    exact ih.join (deviceId, sequenceNumber) deviceId
  | takeInflight deviceId sequenceNumber entry _ found ih =>
    exact ih.take (deviceId, sequenceNumber) entry found
  | complete k entry resp _ taken once ih => exact ih.complete k entry resp taken once

/-- One round of the second loop of `take_inflight_for_device`. -/
theorem takeInflightOne (calls : Calls h st) (acc : List (ℤ × ℕ)) (key : RequestKey) :
    ∃ later, Calls (h ++ later) (RelayState.takeInflightOne (acc, st) key).2 := by
  unfold RelayState.takeInflightOne
  cases ht : (st.takeInflight key.1 key.2).2 with
  | some entry =>
    refine ⟨[.taken key entry], ?_⟩
    have := calls.takeInflight key.1 key.2 entry ht
    rwa [show st.takeInflight key.1 key.2 = ((st.takeInflight key.1 key.2).1, some entry) by
      rw [← ht]]
  | none =>
    refine ⟨[], ?_⟩
    rw [List.append_nil]
    simpa [RelayState.takeInflight_of_none ht] using calls

/-- A call of `take_inflight_for_device` is a sequence of calls of `take_inflight`. -/
theorem takeInflightForDevice (calls : Calls h st) (deviceId : String) :
    ∃ later, Calls (h ++ later) (st.takeInflightForDevice deviceId).2 := by
  have rounds (keys : List RequestKey) (acc : List (ℤ × ℕ)) :
      ∀ (h : List InflightOutcome) (st : RelayState), Calls h st →
        ∃ later, Calls (h ++ later) (keys.foldl RelayState.takeInflightOne (acc, st)).2 := by
    induction keys generalizing acc with
    | nil => exact fun h st calls => ⟨[], by rwa [List.append_nil]⟩
    | cons key keys ih =>
      intro h st calls
      obtain ⟨l₁, h₁⟩ := calls.takeInflightOne acc key
      obtain ⟨l₂, h₂⟩ := ih (RelayState.takeInflightOne (acc, st) key).1 _ _ h₁
      exact ⟨l₁ ++ l₂, by rwa [← List.append_assoc]⟩
  exact rounds _ _ h st calls

end Calls

variable {cfg : Config} {s s' : State}

/-- A step of the relay makes at most one call on the table. -/
theorem calls_of_tableStep (C : Custody s) (step : TableStep s s') {st : RelayState}
    (calls : Calls s.history st) (table : st.inflightBySequence = s.shared.table) :
    ∃ st', Calls s'.history st' ∧ st'.inflightBySequence = s'.shared.table := by
  cases step with
  | same htable _ history => exact ⟨st, by rwa [history], table.trans htable.symm⟩
  | join m htable _ history =>
    have h := calls.ensureInflightWaiter m.sequenceNumber m.targetDeviceId
    simp only [RelayState.ensureInflightWaiter, table] at h
    refine ⟨_, by rw [history]; exact h, htable.symm⟩
  | take τ k a r _ _ found htable _ history =>
    rw [← table] at found htable
    have h := calls.takeInflight k.1 k.2 a found
    exact ⟨_, by rw [history]; exact h, htable.symm⟩
  | complete τ a r rest head htable _ history =>
    obtain ⟨taken, once⟩ := C.held τ a r (by simp [head])
    have h := calls.complete _ a r taken once
    rw [← table] at htable
    exact ⟨_, by rw [history]; exact h, htable.symm⟩

theorem calls_of_reachable (h : Reachable cfg s) :
    ∃ st, Calls s.history st ∧ st.inflightBySequence = s.shared.table := by
  refine Runs.Reach.invariant (I := fun s => ∃ st, Calls s.history st ∧
    st.inflightBySequence = s.shared.table) ⟨.new, .new, rfl⟩ ?_ h
  rintro s a s' hr ⟨st, calls, table⟩ - hs
  have C := custody_of_reachable hr
  exact calls_of_tableStep C (tableStep_of_cases C.collected (step_cases hs)) calls table

/-- Whoever joined an entry is answered with a response that names the key it asked for. -/
theorem completed_key_of_reachable (h : Reachable cfg s) {k : RequestKey} {a rx : ℕ} {new : Bool}
    {r : Reply} (joined : .joined k a rx new ∈ s.history) (completed : .completed a r ∈ s.history) :
    r.resp.key = k := by
  have C := custody_of_reachable h
  obtain ⟨c, hc, hk⟩ := C.run.taken_key (C.named a r completed)
  obtain ⟨-, -, c', hc', hk'⟩ := C.run.ledger.joined k a rx new joined
  obtain rfl : c = c' := by simpa [hc] using hc'
  exact hk.symm.trans hk'

/-- The in-flight table keeps its contract under every sequence of calls; the relay's own calls in
a run are such a sequence, and complete every entry with a response that names its key. -/
theorem inflight_table_contract :
    (∀ h st, Calls h st → Contract h st.inflightBySequence) ∧
    ∀ cfg s, Reachable cfg s →
      (∃ st, Calls s.history st ∧
        st.inflightBySequence = s.shared.relay.inflightBySequence) ∧
      ∀ k a rx new r, .joined k a rx new ∈ s.history → .completed a r ∈ s.history →
        r.resp.key = k := by
  refine ⟨fun h st calls => contract_of_run calls.run, fun cfg s hr => ?_⟩
  exact ⟨calls_of_reachable hr, fun k a rx new r hj hc => completed_key_of_reachable hr hj hc⟩

/-- A request that the device answers: a call of each kind. -/
theorem inflight_table_contract_answered :
    (∃ st, Contract [.joined ("d", 1) 0 0 true, .taken ("d", 1) 0]
      (RelayState.inflightBySequence st)) ∧
    ∃ s r, execute Small.config (Small.register 0 "d" "t" ++ Small.join 0 (Small.request 1) ++
        Small.forward 0 ++ Small.data 0 "d" 1 ++ Small.devTicks 0 1) = some s ∧
      .joined ("d", 1) 0 0 true ∈ s.history ∧ .completed 0 r ∈ s.history ∧
      r.resp.key = ("d", 1) := by
  constructor
  · exact ⟨_, inflight_table_contract.1 _ _
      ((Calls.new.ensureInflightWaiter 1 "d").takeInflight "d" 1 0 rfl)⟩
  · obtain ⟨s, hs, hf⟩ : ∃ s, execute Small.config (Small.register 0 "d" "t" ++
        Small.join 0 (Small.request 1) ++ Small.forward 0 ++ Small.data 0 "d" 1 ++
        Small.devTicks 0 1) = some s ∧
        s.history = [.joined ("d", 1) 0 0 true, .taken ("d", 1) 0,
          .completed 0 ⟨⟨"d", 1, [2], 0⟩, .device 9⟩] :=
      Option.map_eq_some_iff.1 (by decide +kernel)
    refine ⟨s, ⟨⟨"d", 1, [2], 0⟩, .device 9⟩, hs, by simp [hf], by simp [hf], ?_⟩
    exact (inflight_table_contract.2 _ s (reachable_of_execute hs)).2 ("d", 1) 0 0 true _
      (by simp [hf]) (by simp [hf])

end GrpcRelay
