import Mathlib.Data.List.Basic

/-!
# The last write to a key

A list of writes `(key, value)` says of each key what it was written last (`lastWrite`), and turns a table into the
one that the writes leave behind (`overwrite`). Writes that wait in a queue and writes that have been carried out
compose by `overwrite_append`: carrying out the head of the queue does not change where it ends (`overwrite_cons`).

Operations that each write one key at most leave the same table in every order if and only if no two of them write
different values to one key (`perm_iff`).
-/

namespace LastWrite

variable {κ ν : Type*} [DecidableEq κ]

/-- The value that `k` was written last. -/
def lastWrite : List (κ × ν) → κ → Option ν
  | [], _ => none
  | (k', v) :: l, k => (lastWrite l k).or (if k' = k then some v else none)

/-- The table after the writes. -/
def overwrite (f : κ → ν) (l : List (κ × ν)) (k : κ) : ν := (lastWrite l k).getD (f k)

@[simp] theorem lastWrite_nil (k : κ) : lastWrite ([] : List (κ × ν)) k = none := rfl

theorem lastWrite_append (l m : List (κ × ν)) (k : κ) : lastWrite (l ++ m) k = (lastWrite m k).or (lastWrite l k) := by
  induction l with
  | nil => simp
  | cons e l ih => simp only [List.cons_append, lastWrite, ih, Option.or_assoc]

@[simp] theorem lastWrite_singleton (k' k : κ) (v : ν) : lastWrite [(k', v)] k = if k' = k then some v else none := by
  simp [lastWrite]

/-- Writing one value to several keys. -/
theorem lastWrite_map_const (ks : List κ) (v : ν) (k : κ) :
    lastWrite (ks.map (fun k' => (k', v))) k = if k ∈ ks then some v else none := by
  induction ks with
  | nil => rfl
  | cons k' ks ih =>
    simp only [List.map_cons, lastWrite, ih, List.mem_cons]
    by_cases hm : k ∈ ks
    · simp [hm]
    · by_cases hk : k = k'
      · subst hk
        simp [hm]
      · simp [hm, hk, Ne.symm hk]

/-- A key that is not written has no last write. -/
theorem mem_keys_of_lastWrite {l : List (κ × ν)} {k : κ} {v : ν} (h : lastWrite l k = some v) : k ∈ l.map Prod.fst := by
  induction l with
  | nil => cases h
  | cons e l ih =>
    rw [lastWrite] at h
    by_cases hk : e.1 = k
    · exact hk ▸ List.mem_cons_self
    · rw [if_neg hk, Option.or_none] at h
      exact List.mem_cons_of_mem _ (ih h)

@[simp] theorem overwrite_nil (f : κ → ν) (k : κ) : overwrite f [] k = f k := rfl

theorem overwrite_append (f : κ → ν) (l m : List (κ × ν)) (k : κ) :
    overwrite f (l ++ m) k = overwrite (overwrite f l) m k := by
  unfold overwrite
  rw [lastWrite_append]
  cases lastWrite m k <;> rfl

theorem overwrite_map_const (f : κ → ν) (ks : List κ) (v : ν) (k : κ) :
    overwrite f (ks.map (fun k' => (k', v))) k = if k ∈ ks then v else f k := by
  unfold overwrite
  rw [lastWrite_map_const]
  split <;> rfl

/-- Where a key was written last it has that value. -/
theorem overwrite_of_lastWrite {f : κ → ν} {l : List (κ × ν)} {k : κ} {v : ν} (h : lastWrite l k = some v) :
    overwrite f l k = v := by
  unfold overwrite
  rw [h]
  rfl

/-- The writes after a point leave a key alone unless they write it. -/
theorem overwrite_of_not_mem {f : κ → ν} {l : List (κ × ν)} {k : κ} (h : k ∉ l.map Prod.fst) :
    overwrite f l k = f k := by
  unfold overwrite
  cases hl : lastWrite l k with
  | none => rfl
  | some v => exact absurd (mem_keys_of_lastWrite hl) h

/-! ## Orders of writes -/

/-- What was written last was written. -/
theorem mem_of_lastWrite {l : List (κ × ν)} {k : κ} {v : ν} (h : lastWrite l k = some v) : (k, v) ∈ l := by
  induction l with
  | nil => cases h
  | cons e l ih =>
    obtain ⟨k', v'⟩ := e
    rw [lastWrite] at h
    rcases Option.or_eq_some_iff.mp h with h | ⟨-, h⟩
    · exact List.mem_cons_of_mem _ (ih h)
    · split_ifs at h with hk
      cases h
      rw [hk]
      exact List.mem_cons_self

/-- A key that is written has a last write. -/
theorem exists_lastWrite {l : List (κ × ν)} {k : κ} {v : ν} (h : (k, v) ∈ l) : ∃ v', lastWrite l k = some v' := by
  obtain ⟨s, t, rfl⟩ := List.append_of_mem h
  rw [lastWrite_append, lastWrite]
  cases lastWrite t k with
  | some v' => exact ⟨v', rfl⟩
  | none => exact ⟨v, by simp⟩

section Perm

variable {α μ : Type*} (write : α → Option (κ × ν)) (view : ν → μ) (init : κ → Option ν)

/-- The operation that comes last is the one that counts. -/
theorem lastWrite_filterMap_snoc (l : List α) {a : α} {k : κ} {v : ν} (ha : write a = some (k, v)) :
    lastWrite ((l ++ [a]).filterMap write) k = some v := by
  rw [List.filterMap_append, lastWrite_append]
  simp [ha]

/-- **Orders of operations**: as far as one looks at the values, all orders leave the same behind if and only if the
operations that write one key agree. -/
theorem perm_iff {l : List α} :
    (∀ l' : List α, l'.Perm l → ∀ k, ((lastWrite (l'.filterMap write) k).or (init k)).map view =
      ((lastWrite (l.filterMap write) k).or (init k)).map view) ↔
      ∀ a ∈ l, ∀ b ∈ l, ∀ k v v', write a = some (k, v) → write b = some (k, v') → view v = view v' := by
  constructor
  · intro hperm a ha b hb k v v' hwa hwb
    -- each of the two may come last
    have hlast : ∀ c ∈ l, ∀ w, write c = some (k, w) →
        ((lastWrite (l.filterMap write) k).or (init k)).map view = some (view w) := by
      intro c hc w hw
      obtain ⟨s, t, rfl⟩ := List.append_of_mem hc
      have hmoved : (s ++ t ++ [c]).Perm (s ++ c :: t) :=
        (List.perm_append_singleton c (s ++ t)).trans List.perm_middle.symm
      rw [← hperm _ hmoved k, lastWrite_filterMap_snoc write _ hw]
      rfl
    exact Option.some.inj ((hlast a ha v hwa).symm.trans (hlast b hb v' hwb))
  · intro hagree l' hperm k
    have hmem : ∀ w, (k, w) ∈ l'.filterMap write ↔ (k, w) ∈ l.filterMap write := fun w =>
      (hperm.filterMap write).mem_iff
    cases hl : lastWrite (l.filterMap write) k with
    | none =>
      cases hl' : lastWrite (l'.filterMap write) k with
      | none => rfl
      | some v' =>
        obtain ⟨v, hv⟩ := exists_lastWrite ((hmem v').mp (mem_of_lastWrite hl'))
        rw [hl] at hv
        cases hv
    | some v =>
      obtain ⟨v', hv'⟩ := exists_lastWrite ((hmem v).mpr (mem_of_lastWrite hl))
      obtain ⟨a, ha, hwa⟩ := List.mem_filterMap.mp ((hmem v').mp (mem_of_lastWrite hv'))
      obtain ⟨b, hb, hwb⟩ := List.mem_filterMap.mp (mem_of_lastWrite hl)
      rw [hv', Option.some_or, Option.some_or, Option.map_some, Option.map_some, hagree a ha b hb k v' v hwa hwb]

end Perm

end LastWrite
