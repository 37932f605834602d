import Mathlib.Data.List.Basic

/-!
# Lists with separators

Core has how `splitOn` inverts `intercalate`. The lemmas here say which elements the parts of a split have, and what is
split at the front of a longer list.
-/

namespace Separators

variable {α : Type*} [DecidableEq α] {c d : α} {s u : List α}

/-- The parts of a split have elements of the list, but not the separator. -/
theorem mem_of_mem_splitOn {part : List α} (hp : part ∈ s.splitOn c) (hd : d ∈ part) : d ∈ s ∧ d ≠ c := by
  induction s generalizing part with
  | nil =>
    rw [List.splitOn_nil, List.mem_singleton] at hp
    subst hp
    cases hd
  | cons e s ih =>
    rw [List.splitOn_cons_eq_if_modifyHead] at hp
    split_ifs at hp with he
    · rcases List.mem_cons.mp hp with rfl | hp
      · cases hd
      · obtain ⟨hds, hdc⟩ := ih hp hd
        exact ⟨List.mem_cons_of_mem e hds, hdc⟩
    · obtain ⟨first, others, hparts⟩ := List.exists_cons_of_ne_nil (List.splitOn_ne_nil c s)
      rw [hparts] at hp ih
      rcases List.mem_cons.mp hp with rfl | hp
      · rcases List.mem_cons.mp hd with rfl | hd
        · exact ⟨List.mem_cons_self, by simpa using he⟩
        · obtain ⟨hds, hdc⟩ := ih List.mem_cons_self hd
          exact ⟨List.mem_cons_of_mem e hds, hdc⟩
      · obtain ⟨hds, hdc⟩ := ih (List.mem_cons_of_mem first hp) hd
        exact ⟨List.mem_cons_of_mem e hds, hdc⟩

/-- No part of a split has the separator. -/
theorem not_mem_of_mem_splitOn {part : List α} (hp : part ∈ s.splitOn c) : c ∉ part :=
  fun hmem => (mem_of_mem_splitOn hp hmem).2 rfl

/-- What has no separator goes to the front of the first part. -/
theorem splitOn_append_of_not_mem (h : c ∉ u) (s : List α) :
    (u ++ s).splitOn c = (s.splitOn c).modifyHead (u ++ ·) := by
  obtain ⟨first, rest, hs⟩ := List.exists_cons_of_ne_nil (List.splitOn_ne_nil c s)
  rw [hs]
  induction u with
  | nil => exact hs
  | cons d u ih =>
    obtain ⟨hd, hu⟩ := not_or.mp (List.mem_cons.not.mp h)
    have hne : ¬ (d == c) = true := by simpa using Ne.symm hd
    rw [List.cons_append, List.splitOn_cons_eq_if_modifyHead, if_neg hne, ih hu]
    rfl

omit [DecidableEq α] in
/-- Parts without an element are joined to a list without it, unless it is the separator. -/
theorem not_mem_intercalate {parts : List (List α)} (hne : c ≠ d) (h : ∀ part ∈ parts, c ∉ part) :
    c ∉ [d].intercalate parts := by
  induction parts with
  | nil => exact List.not_mem_nil
  | cons t parts ih =>
    obtain ⟨ht, hparts⟩ := List.forall_mem_cons.mp h
    cases parts with
    | nil => rwa [List.intercalate_singleton]
    | cons u parts =>
      rw [List.intercalate_cons_cons, List.mem_append, List.mem_append, List.mem_singleton]
      exact not_or.mpr ⟨not_or.mpr ⟨ht, hne⟩, ih hparts⟩

end Separators
