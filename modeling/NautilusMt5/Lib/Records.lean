import Mathlib.Data.List.Basic
import Mathlib.Order.Lattice

/-!
# Records of a sequence

A record is an item whose value is past the values of all earlier ones. Records are a part of the sequence
(`records_sublist`) and increase (`records_increasing`), and those of a sequence in two parts are those of the first
part and then those of the second that are past it (`records_append`).
-/

namespace Records

variable {α β : Type*} [LinearOrder β] (f : α → β)

/-- The records of a sequence that comes after `earlier`. -/
def records (earlier : List α) : List α → List α
  | [] => []
  | a :: l =>
    if ∀ b ∈ earlier, f b < f a then a :: records (earlier ++ [a]) l else records (earlier ++ [a]) l

variable {f} {earlier l m : List α} {a : α}

theorem records_cons_of_lt (h : ∀ b ∈ earlier, f b < f a) :
    records f earlier (a :: l) = a :: records f (earlier ++ [a]) l := if_pos h

theorem records_cons_of_not_lt (h : ¬ ∀ b ∈ earlier, f b < f a) :
    records f earlier (a :: l) = records f (earlier ++ [a]) l := if_neg h

theorem records_append (earlier l m : List α) :
    records f earlier (l ++ m) = records f earlier l ++ records f (earlier ++ l) m := by
  induction l generalizing earlier with
  | nil => simp [records]
  | cons a l ih =>
    rw [List.cons_append]
    by_cases h : ∀ b ∈ earlier, f b < f a
    · rw [records_cons_of_lt h, records_cons_of_lt h, ih, List.append_assoc]
      rfl
    · rw [records_cons_of_not_lt h, records_cons_of_not_lt h, ih, List.append_assoc]
      rfl

theorem records_sublist (earlier l : List α) : (records f earlier l).Sublist l := by
  induction l generalizing earlier with
  | nil => exact .slnil
  | cons a l ih =>
    by_cases h : ∀ b ∈ earlier, f b < f a
    · rw [records_cons_of_lt h]
      exact (ih _).cons_cons a
    · rw [records_cons_of_not_lt h]
      exact (ih _).cons a

/-- A record is past everything earlier. -/
theorem lt_of_mem_records (h : a ∈ records f earlier l) : ∀ b ∈ earlier, f b < f a := by
  induction l generalizing earlier with
  | nil => cases h
  | cons c l ih =>
    intro b hb
    by_cases hc : ∀ b ∈ earlier, f b < f c
    · rw [records_cons_of_lt hc] at h
      rcases List.mem_cons.mp h with rfl | h
      · exact hc b hb
      · exact ih h b (List.mem_append_left _ hb)
    · rw [records_cons_of_not_lt hc] at h
      exact ih h b (List.mem_append_left _ hb)

theorem records_increasing (earlier l : List α) : (records f earlier l).Pairwise fun a b => f a < f b := by
  induction l generalizing earlier with
  | nil => exact .nil
  | cons a l ih =>
    by_cases h : ∀ b ∈ earlier, f b < f a
    · rw [records_cons_of_lt h]
      refine .cons (fun b hb => ?_) (ih _)
      exact lt_of_mem_records hb a (List.mem_append_right _ (List.mem_singleton_self a))
    · rw [records_cons_of_not_lt h]
      exact ih _

end Records
