import Mathlib.Order.Lattice

/-!
# Items that close when a later one begins

A source sends revisions of items in the order of their times, but some come late. A filter keeps the latest revision,
ignores what is older than it, and hands an item out when an item of a later time begins.

`mem_closed`: an item is handed out exactly when nothing later came before it, and after it only older ones until one of
a later time (`Closes`). `closed_increasing`: the times of what is handed out increase, so that nothing is handed out
twice.
-/

namespace ClosedItems

variable {α τ : Type*} [LinearOrder τ] (time : α → τ)

/-- The revision that is kept. -/
def keep (last : Option α) (x : α) : α :=
  match last with
  | none => x
  | some y => if time x < time y then y else x

/-- The item that `x` closes. -/
def closes (last : Option α) (x : α) : List (α × α) :=
  match last with
  | none => []
  | some y => if time y < time x then [(y, x)] else []

/-- What is handed out, with the item that closed it. -/
def closed : Option α → List α → List (α × α)
  | _, [] => []
  | last, x :: l => closes time last x ++ closed (some (keep time last x)) l

/-- After `a` come only older items until `b`, which is later. -/
def NextAfter (l : List α) (a b : α) : Prop :=
  ∃ between after, l = between ++ b :: after ∧ (∀ x ∈ between, time x < time a) ∧ time a < time b

/-- `a` is not late, nor has it a later revision that is not late, when `b` closes it. -/
def Closes (l : List α) (a b : α) : Prop :=
  ∃ before after, l = before ++ a :: after ∧ (∀ x ∈ before, time x ≤ time a) ∧ NextAfter time after a b

variable {time} {l : List α} {a b x y : α}

theorem nextAfter_cons :
    NextAfter time (x :: l) a b ↔ x = b ∧ time a < time b ∨ time x < time a ∧ NextAfter time l a b := by
  constructor
  · rintro ⟨between, after, heq, hlate, hlt⟩
    cases between with
    | nil =>
      cases heq
      exact .inl ⟨rfl, hlt⟩
    | cons y between =>
      cases heq
      exact .inr ⟨hlate _ List.mem_cons_self, between, after, rfl, fun z hz => hlate z (.tail _ hz), hlt⟩
  · rintro (⟨rfl, hlt⟩ | ⟨hx, between, after, rfl, hlate, hlt⟩)
    · exact ⟨[], l, rfl, by simp, hlt⟩
    · exact ⟨x :: between, after, rfl, by simpa using ⟨hx, hlate⟩, hlt⟩

theorem closes_cons :
    Closes time (x :: l) a b ↔ x = a ∧ NextAfter time l a b ∨ time x ≤ time a ∧ Closes time l a b := by
  constructor
  · rintro ⟨before, after, heq, hold, hnext⟩
    cases before with
    | nil =>
      cases heq
      exact .inl ⟨rfl, hnext⟩
    | cons y before =>
      cases heq
      exact .inr ⟨hold _ List.mem_cons_self, before, after, rfl, fun z hz => hold z (.tail _ hz), hnext⟩
  · rintro (⟨rfl, hnext⟩ | ⟨hx, before, after, rfl, hold, hnext⟩)
    · exact ⟨[], l, rfl, by simp, hnext⟩
    · exact ⟨x :: before, after, rfl, by simpa using ⟨hx, hold⟩, hnext⟩

/-- What closes is not older than the first item. -/
theorem le_of_closes (h : Closes time (x :: l) a b) : time x ≤ time a := by
  rcases closes_cons.mp h with ⟨rfl, -⟩ | ⟨hle, -⟩
  · exact le_rfl
  · exact hle

theorem not_closes_nil : ¬ Closes time ([] : List α) a b := by
  rintro ⟨before, after, heq, -⟩
  simp at heq

theorem not_nextAfter_nil : ¬ NextAfter time ([] : List α) a b := by
  rintro ⟨between, after, heq, -⟩
  simp at heq

/-- A late item makes no difference. -/
theorem closes_late (h : time x < time y) : Closes time (y :: x :: l) a b ↔ Closes time (y :: l) a b := by
  simp only [closes_cons (x := y), nextAfter_cons, closes_cons (x := x)]
  constructor
  · rintro (⟨rfl, ⟨rfl, hlt⟩ | ⟨-, hnext⟩⟩ | ⟨hle, ⟨rfl, -⟩ | ⟨-, hclose⟩⟩)
    · exact absurd h hlt.asymm
    · exact .inl ⟨rfl, hnext⟩
    · exact absurd h hle.not_gt
    · exact .inr ⟨hle, hclose⟩
  · rintro (⟨rfl, hnext⟩ | ⟨hle, hclose⟩)
    · exact .inl ⟨rfl, .inr ⟨h, hnext⟩⟩
    · exact .inr ⟨hle, .inr ⟨(h.trans_le hle).le, hclose⟩⟩

/-- A revision takes the place of the item. -/
theorem closes_revision (h : time x = time y) : Closes time (y :: x :: l) a b ↔ Closes time (x :: l) a b := by
  rw [closes_cons (x := y), nextAfter_cons]
  constructor
  · rintro (⟨rfl, ⟨rfl, hlt⟩ | ⟨hlt, -⟩⟩ | ⟨-, hclose⟩)
    · exact absurd h hlt.ne'
    · exact absurd h hlt.ne
    · exact hclose
  · intro hclose
    exact .inr ⟨h ▸ le_of_closes hclose, hclose⟩

/-- A later item closes the one before. -/
theorem closes_later (h : time y < time x) :
    Closes time (y :: x :: l) a b ↔ a = y ∧ b = x ∨ Closes time (x :: l) a b := by
  rw [closes_cons (x := y), nextAfter_cons]
  constructor
  · rintro (⟨rfl, ⟨rfl, -⟩ | ⟨hlt, -⟩⟩ | ⟨-, hclose⟩)
    · exact .inl ⟨rfl, rfl⟩
    · exact absurd h hlt.asymm
    · exact .inr hclose
  · rintro (⟨rfl, rfl⟩ | hclose)
    · exact .inl ⟨rfl, .inl ⟨rfl, h⟩⟩
    · exact .inr ⟨h.le.trans (le_of_closes hclose), hclose⟩

/-- The filter with an item kept is the filter that begins with the item. -/
theorem mem_closed_some (y : α) (l : List α) : (a, b) ∈ closed time (some y) l ↔ Closes time (y :: l) a b := by
  induction l generalizing y with
  | nil =>
    simp only [closed, List.not_mem_nil, false_iff, closes_cons, not_or, not_and]
    exact ⟨fun _ => not_nextAfter_nil, fun _ => not_closes_nil⟩
  | cons x l ih =>
    rw [closed, List.mem_append, ih]
    rcases lt_trichotomy (time x) (time y) with h | h | h
    · rw [closes_late h]
      simp [closes, keep, h, h.le.not_gt]
    · rw [closes_revision h]
      simp [closes, keep, h]
    · rw [closes_later h]
      simp [closes, keep, h, h.le.not_gt]

/-- **What is handed out.** -/
theorem mem_closed : (a, b) ∈ closed time none l ↔ Closes time l a b := by
  cases l with
  | nil => simpa [closed] using not_closes_nil
  | cons x l => exact mem_closed_some x l

variable (time) in
/-- **In the order of their times.** -/
theorem closed_increasing (last : Option α) (l : List α) :
    (closed time last l).Pairwise fun p q => time p.1 < time q.1 := by
  induction l generalizing last with
  | nil => exact List.Pairwise.nil
  | cons x l ih =>
    rw [closed, List.pairwise_append]
    refine ⟨?_, ih _, ?_⟩
    · unfold closes
      split
      · exact List.Pairwise.nil
      · split_ifs
        · exact List.pairwise_singleton _ _
        · exact List.Pairwise.nil
    · rintro ⟨y, x'⟩ hp ⟨a, b⟩ hq
      cases last with
      | none => cases hp
      | some z =>
        simp only [closes] at hp
        split_ifs at hp with h
        · obtain ⟨rfl, rfl⟩ := Prod.mk.inj (List.mem_singleton.mp hp)
          have hle := le_of_closes ((mem_closed_some _ l).mp hq)
          rw [keep, if_neg h.asymm] at hle
          exact h.trans_le hle
        · cases hp

end ClosedItems
