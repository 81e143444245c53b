import Mathlib.Data.List.Basic
import Mathlib.Data.List.Count

/-!
# Orders of operations

Processes carry out operations one after the other; an operation takes effect at some moment
before it returns.  `Arranges process log pending order` says that `order` lists the operations
that have taken effect, those that returned (`log`) and those that did not (`pending`), each
process's in the order in which it carried them out.
-/

namespace Linearize

variable {ι ω : Type} [DecidableEq ι] {process : ω → ι} {log order : List ω}
  {pending pending' : ι → List ω} {i : ι} {op : ω}

/-- The operations of process `i`. -/
def own (process : ω → ι) (i : ι) (ops : List ω) : List ω :=
  ops.filter fun op => process op = i

@[simp] theorem own_nil : own process i [] = [] := rfl

@[simp] theorem own_append (ops ops' : List ω) :
    own process i (ops ++ ops') = own process i ops ++ own process i ops' :=
  List.filter_append ..

theorem own_singleton_self (h : process op = i) : own process i [op] = [op] := by
  simp [own, h]

theorem own_singleton_of_ne (h : process op ≠ i) : own process i [op] = [] := by
  simp [own, h]

/-- The two lists hold the same operations, each process's in the same order. -/
def SameOrders (process : ω → ι) (log order : List ω) : Prop :=
  ∀ i, own process i order = own process i log

/-- The one is an order of the other. -/
theorem SameOrders.perm [DecidableEq ω] (h : SameOrders process log order) : order.Perm log := by
  rw [List.perm_iff_count]
  intro op
  have counts := congrArg (List.count op) (h (process op))
  rwa [own, own, List.count_filter (by simp), List.count_filter (by simp)] at counts

/-- The order has of each process what it logged, and then what it has pending, in its order. -/
def Arranges (process : ω → ι) (log : List ω) (pending : ι → List ω) (order : List ω) : Prop :=
  ∀ i, own process i order = own process i log ++ pending i

namespace Arranges

theorem start : Arranges process [] (fun _ => []) [] := fun _ => rfl

/-- Nothing takes effect and nothing returns. -/
theorem keep (A : Arranges process log pending order) (same : ∀ j, pending' j = pending j) :
    Arranges process log pending' order := by
  intro j
  rw [same, A]

/-- An operation of process `i` takes effect. -/
theorem effect (A : Arranges process log pending order) (by_i : process op = i)
    (new : pending' i = pending i ++ [op]) (same : ∀ j, j ≠ i → pending' j = pending j) :
    Arranges process log pending' (order ++ [op]) := by
  intro j
  by_cases hj : j = i
  · rw [hj, own_append, own_singleton_self by_i, A, new, List.append_assoc]
  · rw [own_append, own_singleton_of_ne fun h => hj (h.symm.trans by_i), List.append_nil, A,
      same j hj]

/-- An operation of process `i` that took effect returns. -/
theorem returns (A : Arranges process log pending order) (by_i : process op = i)
    (old : pending i = op :: pending' i) (same : ∀ j, j ≠ i → pending' j = pending j) :
    Arranges process (log ++ [op]) pending' order := by
  intro j
  by_cases hj : j = i
  · rw [hj, own_append, own_singleton_self by_i, A, old, List.append_assoc]
    rfl
  · rw [own_append, own_singleton_of_ne fun h => hj (h.symm.trans by_i), List.append_nil, A,
      same j hj]

/-- An operation takes effect and returns at once. -/
theorem atOnce (A : Arranges process log pending order) (none : pending (process op) = [])
    (same : ∀ j, pending' j = pending j) :
    Arranges process (log ++ [op]) pending' (order ++ [op]) := by
  intro j
  by_cases hj : process op = j
  · rw [own_append, own_append, own_singleton_self hj, A, same, ← hj, none, List.append_nil,
      List.append_nil]
  · rw [own_append, own_append, own_singleton_of_ne hj, List.append_nil, List.append_nil, A,
      same]

/-- When every operation has returned, the log and the order differ only between processes. -/
theorem sameOrders (A : Arranges process log pending order) (none : ∀ i, pending i = []) :
    SameOrders process log order := by
  intro i
  rw [A, none, List.append_nil]

end Arranges

end Linearize
