import Mathlib.Algebra.BigOperators.Group.List.Basic
import Mathlib.Algebra.Ring.Nat
import Mathlib.Data.List.Perm.Basic

/-!
# Lists that change at an index

What an item is replaced by, or erased, stands before the rest of the list up to the order
(`perm_cons_eraseIdx`, `set_perm_cons`): so the other items stay, and a sum changes by that item.
-/

namespace Indexed

variable {α : Type*} {l : List α} {i : ℕ} {a b : α}

theorem perm_cons_eraseIdx (h : l[i]? = some a) : l.Perm (a :: l.eraseIdx i) := by
  obtain ⟨hi, ha⟩ := List.getElem?_eq_some_iff.mp h
  simpa only [ha] using (List.getElem_cons_eraseIdx_perm hi).symm

theorem set_perm_cons (h : l[i]? = some a) (b : α) : (l.set i b).Perm (b :: l.eraseIdx i) :=
  List.set_perm_cons_eraseIdx (List.getElem?_eq_some_iff.mp h).1 b

/-- Another item stays when one is erased, -/
theorem mem_eraseIdx (h : l[i]? = some b) (ha : a ∈ l) (hab : a ≠ b) : a ∈ l.eraseIdx i :=
  List.mem_of_ne_of_mem hab ((perm_cons_eraseIdx h).subset ha)

/-- and when one is replaced. -/
theorem mem_set_of_ne (b' : α) (h : l[i]? = some b) (ha : a ∈ l) (hab : a ≠ b) : a ∈ l.set i b' :=
  (set_perm_cons h b').symm.subset (List.mem_cons_of_mem b' (mem_eraseIdx h ha hab))

theorem mem_set_self (b' : α) (h : l[i]? = some b) : b' ∈ l.set i b' :=
  (set_perm_cons h b').symm.subset List.mem_cons_self

section Sums

variable (f : α → ℕ)

theorem sum_map_eraseIdx (h : l[i]? = some a) : ((l.eraseIdx i).map f).sum + f a = (l.map f).sum := by
  rw [((perm_cons_eraseIdx h).map f).sum_eq, List.map_cons, List.sum_cons, Nat.add_comm]

theorem sum_map_set (h : l[i]? = some a) (b : α) : ((l.set i b).map f).sum + f a = (l.map f).sum + f b := by
  have hset : ((l.set i b).map f).sum = f b + ((l.eraseIdx i).map f).sum := by
    rw [((set_perm_cons h b).map f).sum_eq, List.map_cons, List.sum_cons]
  have herase := sum_map_eraseIdx f h
  omega

end Sums

end Indexed
