import Mathlib.Data.List.Basic

/-!
# A lock with a queue (`asyncio.Lock`)

Who asks for the lock waits in a queue; a free lock goes to the first of it (`take?`). A user that finishes at once
gives the lock back in the step in which it got it, the others hold it until they `release` it.
-/

/-- A lock: who holds it, and who waits, the first first. -/
structure FifoLock (υ : Type*) where
  holder : Option υ := none
  waiters : List υ := []

namespace FifoLock

variable {υ : Type*}

/-- `lock.acquire()`. -/
def request (l : FifoLock υ) (u : υ) : FifoLock υ := { l with waiters := l.waiters ++ [u] }

/-- The free lock wakes the first that waits. -/
def take? (l : FifoLock υ) : Option (υ × FifoLock υ) :=
  match l.holder, l.waiters with
  | none, u :: us => some (u, ⟨some u, us⟩)
  | _, _ => none

/-- `lock.release()`. -/
def release (l : FifoLock υ) : FifoLock υ := { l with holder := none }

/-- All that have asked and have not given back, in their order. -/
def users (l : FifoLock υ) : List υ := l.holder.toList ++ l.waiters

variable {l l' : FifoLock υ} {u : υ}

@[simp] theorem holder_request : (l.request u).holder = l.holder := rfl

@[simp] theorem holder_release : l.release.holder = none := rfl

@[simp] theorem users_request : (l.request u).users = l.users ++ [u] := by simp [users, request]

theorem take?_eq_some : l.take? = some (u, l') ↔ l.holder = none ∧ l.users = u :: l'.waiters ∧ l'.holder = some u := by
  obtain ⟨_ | v, _ | ⟨w, ws⟩⟩ := l
  · simp [take?, users]
  · obtain ⟨h, us⟩ := l'
    simp only [take?, users, Option.some.injEq, Prod.mk.injEq, mk.injEq, Option.toList_none, List.nil_append,
      List.cons.injEq, true_and]
    constructor
    · rintro ⟨rfl, rfl, rfl⟩
      exact ⟨⟨rfl, rfl⟩, rfl⟩
    · rintro ⟨⟨rfl, rfl⟩, rfl⟩
      exact ⟨rfl, rfl, rfl⟩
  · simp [take?]
  · simp [take?]

theorem users_of_take? (h : l.take? = some (u, l')) : l'.users = l.users := by
  obtain ⟨-, hu, hholder⟩ := take?_eq_some.mp h
  rw [hu, users, hholder]
  rfl

/-- The holder is the first user. -/
theorem users_of_holder (h : l.holder = some u) : l.users = u :: l.release.users := by
  rw [users, h]
  rfl

end FifoLock
