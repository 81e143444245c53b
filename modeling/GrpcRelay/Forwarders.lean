import GrpcRelay.Responses

/-!
# New forwarders

A loop that `ensure_inflight_waiter` made the new forwarder of an entry keeps the receiver it got
there until it refuses the request or receives the response.
-/

namespace GrpcRelay

/-- The message and the receiver of a new forwarder. -/
def CtrlPc.forwarder : CtrlPc → Option (ControllerMessage × ℕ)
  | .routing m rx | .metering m rx _ | .forwarding m rx _ | .waiting m rx true => some (m, rx)
  | _ => none

/-- A loop becomes a new forwarder by a join that finds no entry. -/
theorem Controller.forwarder_of_moves {cfg : Config} {sh : Shared} {c : ℕ} {l : Controller}
    {input : CtrlInput} {next : Next Controller} (move : Moves cfg sh c l input next)
    {m : ControllerMessage} {rx : ℕ} (h : next.loc.pc.forwarder = some (m, rx)) :
    l.pc.forwarder = some (m, rx) ∨
      next.events = [.inflight sh.now (.joined m.key sh.table.cells rx true)] := by
  cases move
  case opened m' at_pc absent =>
    obtain ⟨rfl, rfl⟩ : m' = m ∧ sh.table.receivers = rx := by
      simpa [CtrlPc.forwarder, goto] using h
    exact Or.inr rfl
  case routed at_pc _ | metered at_pc _ | placed at_pc =>
    rw [at_pc]
    exact Or.inl h
  case ended at_pc _ =>
    rcases at_pc with ⟨-, rfl⟩ | ⟨-, rfl⟩ | ⟨-, rfl⟩ <;> simp [CtrlPc.forwarder, goto] at h
  all_goals simp [CtrlPc.forwarder, goto] at h

variable {cfg : Config} {s s' : State}

/-- A step makes at most one loop a new forwarder, of an entry that did not exist. -/
theorem forwarder_of_cases {a : Action} (h : StepCases cfg s a s') {c : ℕ} {m : ControllerMessage}
    {rx : ℕ} (forwarder : (s'.ctrl c).pc.forwarder = some (m, rx)) :
    (s.ctrl c).pc.forwarder = some (m, rx) ∨
      s'.history = s.history ++
        [SingleFlight.Outcome.joined m.key s.shared.table.cells rx true] := by
  cases h with
  | ctrl c' input next move =>
    by_cases hc : c = c'
    · subst hc
      simp only [State.afterCtrl, Function.update_self] at forwarder
      rcases Controller.forwarder_of_moves move forwarder with h | h
      · exact Or.inl h
      · refine Or.inr ?_
        rw [history_of_trace (show (s.afterCtrl c next).trace = s.trace ++ next.events from rfl), h]
        rfl
    · simp only [State.afterCtrl, Function.update_of_ne hc] at forwarder
      exact Or.inl forwarder
  | dev | fired | firedLate | completed | evicted | ambient => exact Or.inl forwarder

/-- A new forwarder holds the receiver that it was handed out with the entry it opened. -/
theorem opened_of_forwarder (h : Reachable cfg s) {c : ℕ} {m : ControllerMessage} {rx : ℕ}
    (forwarder : (s.ctrl c).pc.forwarder = some (m, rx)) :
    ∃ a, .joined m.key a rx true ∈ s.history := by
  revert c m rx
  refine Runs.Reach.invariant (I := fun s => ∀ {c : ℕ} {m : ControllerMessage} {rx : ℕ},
    (s.ctrl c).pc.forwarder = some (m, rx) → ∃ a, .joined m.key a rx true ∈ s.history)
    (by simp [State.init, CtrlPc.forwarder]) ?_ h
  intro s a s' _ ih _ hs c m rx forwarder
  have hcases := step_cases hs
  rcases forwarder_of_cases hcases forwarder with h | h
  · obtain ⟨events, trace⟩ := trace_of_cases hcases
    obtain ⟨b, hj⟩ := ih h
    rw [history_of_trace trace]
    exact ⟨b, List.mem_append_left _ hj⟩
  · exact ⟨s.shared.table.cells, by rw [h]; simp⟩

/-- Whoever joined an entry waits in it as long as the entry is in the table. -/
theorem waiter_of_mapped (h : Reachable cfg s) {k k' : RequestKey} {a rx : ℕ} {new : Bool}
    (joined : .joined k' a rx new ∈ s.history)
    (mapped : s.shared.table.entries.lookup k = some a) : rx ∈ s.shared.table.waiters a := by
  have L := (custody_of_reachable h).run.ledger
  obtain ⟨hlt, rfl, -⟩ := L.joined k' a rx new joined
  rcases (L.sound.placed rx hlt).2 with hw | ⟨hw, -⟩
  · exact hw
  · exact absurd hw (L.sound.busy k _ mapped)

/-- An entry is in the table under the key it was joined for. -/
theorem key_of_mapped (h : Reachable cfg s) {k k' : RequestKey} {a rx : ℕ} {new : Bool}
    (joined : .joined k' a rx new ∈ s.history)
    (mapped : s.shared.table.entries.lookup k = some a) : k = k' := by
  have L := (custody_of_reachable h).run.ledger
  obtain ⟨-, -, cell, hc, rfl⟩ := L.joined k' a rx new joined
  obtain ⟨cell', hc', rfl⟩ := L.sound.mapped k a mapped
  rw [hc, Option.some.injEq] at hc'
  rw [hc']

end GrpcRelay
