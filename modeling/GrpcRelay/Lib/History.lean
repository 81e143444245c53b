import Mathlib.Data.List.Basic

/-!
# Histories

A history is the list of events of a run, oldest first.  `Justified P h` says that every event of
`h` satisfies `P` with the events before it; it is kept when the events a step appends are
justified by what precedes them.  `latest f h` is the last value that `f` reads off an event.
-/

namespace History

variable {ε : Type} {P : List ε → ε → Prop}

/-- Every event is justified by the events before it. -/
def Justified (P : List ε → ε → Prop) (h : List ε) : Prop :=
  ∀ past e later, h = past ++ e :: later → P past e

/-- A split of a history that ends in `o` cuts after `o` or before it. -/
theorem append_eq_snoc {old since h : List ε} {o : ε} (eq : old ++ since = h ++ [o]) :
    (since = [] ∧ old = h ++ [o]) ∨ ∃ since', since = since' ++ [o] ∧ old ++ since' = h := by
  rcases List.eq_nil_or_concat since with rfl | ⟨since', o', rfl⟩
  · exact Or.inl ⟨rfl, by simpa using eq⟩
  · rw [List.concat_eq_append, ← List.append_assoc] at eq
    obtain ⟨rfl, ho⟩ := List.append_inj' eq rfl
    exact Or.inr ⟨since', by rw [List.concat_eq_append, ho], rfl⟩

theorem justified_nil : Justified P [] := by
  intro past e later h
  simp at h

theorem justified_snoc {h : List ε} {e : ε} : Justified P (h ++ [e]) ↔ Justified P h ∧ P h e := by
  constructor
  · intro hj
    refine ⟨fun past e' later eq => hj past e' (later ++ [e]) (by simp [eq]), hj h e [] rfl⟩
  · rintro ⟨hj, he⟩ past e' later eq
    rcases append_eq_snoc eq.symm with ⟨h1, -⟩ | ⟨later', h1, h2⟩
    · simp at h1
    · cases later' with
      | nil =>
        obtain ⟨rfl, rfl⟩ : e' = e ∧ later = [] := by simpa using h1
        rw [List.append_nil] at h2
        exact h2 ▸ he
      | cons x xs =>
        obtain ⟨rfl, rfl⟩ : e' = x ∧ later = xs ++ [e] := by simpa using h1
        exact hj past e' xs h2.symm

/-- A block of events keeps the history justified when each is justified by the history and the
part of the block before it. -/
theorem Justified.append {h new : List ε} (hj : Justified P h)
    (block : ∀ past e later, new = past ++ e :: later → P (h ++ past) e) :
    Justified P (h ++ new) := by
  induction new generalizing h with
  | nil => simpa using hj
  | cons e new ih =>
    rw [← List.singleton_append, ← List.append_assoc]
    refine ih (justified_snoc.2 ⟨hj, by simpa using block [] e new rfl⟩) ?_
    intro past e' later eq
    simpa using block (e :: past) e' later (by simp [eq])

/-- A block keeps the history justified when each of its events needs no justification or is the
first of the block and justified by the history. -/
theorem Justified.extend {h new : List ε} (hj : Justified P h)
    (each : ∀ e ∈ new, (∀ past, P past e) ∨ ∃ later, new = e :: later ∧ e ∉ later ∧ P h e) :
    Justified P (h ++ new) := by
  refine hj.append ?_
  intro past e later eq
  rcases each e (by simp [eq]) with free | ⟨later', first, fresh, he⟩
  · exact free _
  · cases past with
    | nil => simpa using he
    | cons x past =>
      rw [first, List.cons_append] at eq
      obtain ⟨-, rfl⟩ := List.cons.inj eq
      exact absurd (by simp) fresh

/-! ## The latest value -/

variable {β : Type} {f : ε → Option β}

/-- The last value that `f` reads off an event. -/
def latest (f : ε → Option β) (h : List ε) : Option β := (h.filterMap f).getLast?

theorem latest_append (h new : List ε) : latest f (h ++ new) = (latest f new).or (latest f h) := by
  simp [latest, List.filterMap_append, List.getLast?_append]

theorem latest_eq_none {h : List ε} (silent : ∀ e ∈ h, f e = none) : latest f h = none := by
  unfold latest
  rw [List.filterMap_eq_nil_iff.2 silent]
  rfl

/-- The latest value was read off an event. -/
theorem exists_of_latest {h : List ε} {b : β} (eq : latest f h = some b) : ∃ e ∈ h, f e = some b :=
  List.mem_filterMap.1 (List.mem_of_mem_getLast? eq)

/-- Events that `f` reads nothing off do not change the latest value. -/
theorem latest_append_of_silent {h new : List ε} (silent : ∀ e ∈ new, f e = none) :
    latest f (h ++ new) = latest f h := by
  rw [latest_append, latest_eq_none silent, Option.none_or]

theorem latest_snoc (h : List ε) (e : ε) : latest f (h ++ [e]) = (f e).or (latest f h) := by
  rw [latest_append]
  cases he : f e <;> simp [latest, he]

end History
