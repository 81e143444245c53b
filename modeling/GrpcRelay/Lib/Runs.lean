import Mathlib.Logic.Basic
import Mathlib.Data.List.Basic

/-!
# Runs of a partial step function

A system is an initial state and a function `step` that says which state an action leads to, or
that the action is not enabled.  `execute` runs a list of actions; `Reach ok` collects the states
of the runs all of whose steps meet a condition `ok` on the state before the step and the action.
-/

namespace Runs

variable {σ α : Type} {step : σ → α → Option σ} {ok ok' : σ → α → Prop} {init s s' : σ}

/-- Run a list of actions; `none` as soon as one of them is not enabled. -/
def execute (step : σ → α → Option σ) : σ → List α → Option σ
  | s, [] => some s
  | s, a :: rest => (step s a).bind fun s' => execute step s' rest

/-- The states that steps meeting `ok` reach from `init`. -/
inductive Reach (step : σ → α → Option σ) (ok : σ → α → Prop) (init : σ) : σ → Prop
  | start : Reach step ok init init
  | next {s s' : σ} (a : α) : Reach step ok init s → ok s a → step s a = some s' →
      Reach step ok init s'

/-- The invariant rule: what holds initially and is kept by every step that meets `ok` holds of
every state reached.  The step may use that its first state is reached. -/
theorem Reach.invariant {I : σ → Prop} (start : I init)
    (next : ∀ s a s', Reach step ok init s → I s → ok s a → step s a = some s' → I s')
    (h : Reach step ok init s) : I s := by
  induction h with
  | start => exact start
  | next a hr ha hs ih => exact next _ a _ hr ih ha hs

theorem Reach.mono (weaker : ∀ s a, ok s a → ok' s a) (h : Reach step ok init s) :
    Reach step ok' init s := by
  induction h with
  | start => exact .start
  | next a _ ha hs ih => exact .next a ih (weaker _ a ha) hs

theorem Reach.trans (h : Reach step ok init s) (h' : Reach step ok s s') :
    Reach step ok init s' := by
  induction h' with
  | start => exact h
  | next a _ ha hs ih => exact .next a ih ha hs

theorem execute_append (s : σ) (as bs : List α) :
    execute step s (as ++ bs) = (execute step s as).bind fun s' => execute step s' bs := by
  induction as generalizing s with
  | nil => rfl
  | cons a as ih =>
    simp only [List.cons_append, execute]
    cases step s a with
    | none => rfl
    | some s₁ => exact ih s₁

/-- Run a list of actions, with a test of each before it is taken. -/
def executeWhen (step : σ → α → Option σ) (test : σ → α → Bool) : σ → List α → Option σ
  | s, [] => some s
  | s, a :: rest =>
    if test s a then (step s a).bind fun s' => executeWhen step test s' rest else none

/-- A run whose tests all succeed reaches the state it ends in, if the test of a step tells that
it meets the condition.  The test may rely on what every run reaches. -/
theorem Reach.of_executeWhen {test : σ → α → Bool}
    (sound : ∀ s a, Reach step (fun _ _ => True) init s → test s a = true → ok s a) (as : List α)
    (h : Reach step ok init s) (run : executeWhen step test s as = some s') :
    Reach step ok init s' := by
  induction as generalizing s with
  | nil => cases run; exact h
  | cons a as ih =>
    simp only [executeWhen] at run
    split_ifs at run with ht
    cases hs : step s a with
    | none => simp [hs] at run
    | some s₁ =>
      rw [hs] at run
      exact ih (.next a h (sound s a (h.mono fun _ _ _ => trivial) ht) hs) run

/-- A run whose steps are unconstrained reaches the state it ends in. -/
theorem Reach.of_execute (trivially : ∀ s a, ok s a) (as : List α) (h : Reach step ok init s)
    (run : execute step s as = some s') : Reach step ok init s' := by
  induction as generalizing s with
  | nil => cases run; exact h
  | cons a as ih =>
    simp only [execute] at run
    cases hs : step s a with
    | none => simp [hs] at run
    | some s₁ =>
      rw [hs] at run
      exact ih (.next a h (trivially s a) hs) run

/-! ## Runs with a log -/

section Log

variable {ε : Type} {emit : σ → α → σ → List ε} {log : List ε}

/-- The states that steps meeting `ok` reach from `init`, with the log of what the steps emit. -/
inductive Logged (step : σ → α → Option σ) (ok : σ → α → Prop) (emit : σ → α → σ → List ε)
    (init : σ) : List ε → σ → Prop
  | start : Logged step ok emit init [] init
  | next {log : List ε} {s s' : σ} (a : α) : Logged step ok emit init log s → ok s a →
      step s a = some s' → Logged step ok emit init (log ++ emit s a s') s'

theorem Logged.reach (h : Logged step ok emit init log s) : Reach step ok init s := by
  induction h with
  | start => exact .start
  | next a _ ha hs ih => exact .next a ih ha hs

theorem Logged.mono (weaker : ∀ s a, ok s a → ok' s a) (h : Logged step ok emit init log s) :
    Logged step ok' emit init log s := by
  induction h with
  | start => exact .start
  | next a _ ha hs ih => exact .next a ih (weaker _ a ha) hs

/-- The invariant rule, for a property of the log and the state. -/
theorem Logged.invariant {I : List ε → σ → Prop} (start : I [] init)
    (next : ∀ log s a s', Logged step ok emit init log s → I log s → ok s a → step s a = some s' →
      I (log ++ emit s a s') s')
    (h : Logged step ok emit init log s) : I log s := by
  induction h with
  | start => exact start
  | next a hr ha hs ih => exact next _ _ a _ hr ih ha hs

/-- Run a list of actions with a test of each, and keep the log. -/
def executeLogged (step : σ → α → Option σ) (test : σ → α → Bool) (emit : σ → α → σ → List ε) :
    List ε → σ → List α → Option (List ε × σ)
  | log, s, [] => some (log, s)
  | log, s, a :: rest =>
    if test s a then
      (step s a).bind fun s' => executeLogged step test emit (log ++ emit s a s') s' rest
    else none

/-- A run whose tests all succeed, if the test of a step tells that it meets the condition.  The
test may rely on what every step that passes it keeps. -/
theorem Logged.of_executeLogged_keeping {test : σ → α → Bool} {J : σ → Prop}
    (sound : ∀ s a, J s → test s a = true → ok s a)
    (keeps : ∀ s a s', J s → test s a = true → step s a = some s' → J s')
    (as : List α) {log' : List ε} (h : Logged step ok emit init log s) (start : J s)
    (run : executeLogged step test emit log s as = some (log', s')) :
    Logged step ok emit init log' s' ∧ J s' := by
  induction as generalizing log s with
  | nil =>
    cases run
    exact ⟨h, start⟩
  | cons a as ih =>
    simp only [executeLogged] at run
    split_ifs at run with ht
    obtain ⟨s₁, hs, run⟩ := Option.bind_eq_some_iff.1 run
    exact ih (.next a h (sound s a start ht) hs) (keeps s a s₁ start ht hs) run

theorem Logged.of_executeLogged {test : σ → α → Bool} (sound : ∀ s a, test s a = true → ok s a)
    (as : List α) {log' : List ε} (h : Logged step ok emit init log s)
    (run : executeLogged step test emit log s as = some (log', s')) :
    Logged step ok emit init log' s' :=
  (of_executeLogged_keeping (J := fun _ => True) (fun s a _ => sound s a)
    (fun _ _ _ _ _ _ => trivial) as h trivial run).1

end Log

end Runs
