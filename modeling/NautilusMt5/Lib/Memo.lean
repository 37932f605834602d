import NautilusMt5.Lib.Dict

/-!
# Memo tables

A memo makes something for a key when it is asked for the key the first time, and has it from then on. What it has made
is known by its number, so that two keys never share one, however alike what was made for them is.
-/

/-- The numbers of the keys, and what was made. -/
structure Memo (κ α : Type*) where
  ids : Dict κ ℕ := .empty
  made : List α := []

namespace Memo

variable {κ α ε : Type*} [DecidableEq κ] {m m' : Memo κ α} {k k' : κ} {make : Except ε α} {r : Except ε ℕ} {id : ℕ}

/-- The number for a key; `make` is what making something for it gives or raises. -/
def get (m : Memo κ α) (k : κ) (make : Except ε α) : Memo κ α × Except ε ℕ :=
  match m.ids.get? k with
  | some id => (m, .ok id)
  | none =>
    match make with
    | .error e => (m, .error e)
    | .ok a => (⟨m.ids.set k m.made.length, m.made ++ [a]⟩, .ok m.made.length)

/-- What has the number is changed. -/
def modify (m : Memo κ α) (id : ℕ) (f : α → α) : Memo κ α := { m with made := m.made.modify id f }

/-- **What `get` does**: the key is known, or making raises, or something new comes last. -/
theorem get_cases (h : m.get k make = (m', r)) :
    (∃ id, m.ids.get? k = some id ∧ m' = m ∧ r = .ok id) ∨
      (∃ e, make = .error e ∧ m' = m ∧ r = .error e) ∨
      ∃ a, m.ids.get? k = none ∧ make = .ok a ∧ m' = ⟨m.ids.set k m.made.length, m.made ++ [a]⟩ ∧
        r = .ok m.made.length := by
  unfold get at h
  cases hk : m.ids.get? k with
  | some id =>
    rw [hk] at h
    cases h
    exact .inl ⟨id, rfl, rfl, rfl⟩
  | none =>
    rw [hk] at h
    cases make with
    | error e =>
      cases h
      exact .inr (.inl ⟨e, rfl, rfl, rfl⟩)
    | ok a =>
      cases h
      exact .inr (.inr ⟨a, rfl, rfl, rfl, rfl⟩)

/-- Numbers are of something made, and of one key. -/
structure Valid (m : Memo κ α) : Prop where
  lt : ∀ {k id}, m.ids.get? k = some id → id < m.made.length
  inj : ∀ {k k' id}, m.ids.get? k = some id → m.ids.get? k' = some id → k = k'

theorem valid_empty : ({} : Memo κ α).Valid := ⟨fun h => (by cases h), fun h => (by cases h)⟩

/-- A new key has the number behind all others. -/
theorem Valid.push (h : m.Valid) (k : κ) (a : α) :
    Valid ⟨m.ids.set k m.made.length, m.made ++ [a]⟩ := by
  constructor
  · intro k' id hid
    rw [Dict.get?_set] at hid
    rw [List.length_append, List.length_singleton]
    split_ifs at hid
    · cases hid
      omega
    · have hlt := h.lt hid
      omega
  · intro k₁ k₂ id h₁ h₂
    rw [Dict.get?_set] at h₁ h₂
    split_ifs at h₁ h₂ with hk₁ hk₂ hk₂
    · exact hk₁.trans hk₂.symm
    · cases h₁
      have hlt := h.lt h₂
      omega
    · cases h₂
      have hlt := h.lt h₁
      omega
    · exact h.inj h₁ h₂

theorem Valid.modify (h : m.Valid) (id : ℕ) (f : α → α) : (m.modify id f).Valid :=
  ⟨fun hid => (List.length_modify f m.made id).symm ▸ h.lt hid, h.inj⟩

theorem Valid.get (h : m.Valid) (hget : m.get k make = (m', r)) : m'.Valid := by
  rcases get_cases hget with ⟨id, -, rfl, -⟩ | ⟨e, -, rfl, -⟩ | ⟨a, -, -, rfl, -⟩
  · exact h
  · exact h
  · exact h.push k a

end Memo
