import Mathlib.Data.List.Basic

/-!
# Readers of a stream that comes in pieces

One round of a reader takes something from the front of its data, changes its state and calls out. It `Eats` data when
its rounds take all of it. A reader `Resumes` when more data behind what it has read changes nothing: either the round
goes the same way, or it was a round that only waits, and with the data behind it the reader does at once what it would
have done next.

* `eats_append_iff`: a reader that resumes may read its data in two parts;
* `eatsAll_iff`: it may read its data in any pieces, as long as none of them ends where it has nothing to go on with.
-/

namespace Incremental

variable {σ β ω : Type*}

/-- What a round makes of the state and the data: the new state, the calls and the rest. -/
abbrev Round (σ β ω : Type*) := σ → List β → Option (σ × List ω × List β)

/-- All of the data is taken. -/
inductive Eats (round : Round σ β ω) : σ → List β → σ → List ω → Prop
  | nil (s : σ) : Eats round s [] s []
  | cons {s s₁ s₂ : σ} {a rest : List β} {o o' : List ω} (hne : a ≠ []) (hround : round s a = some (s₁, o, rest))
      (h : Eats round s₁ rest s₂ o') : Eats round s a s₂ (o ++ o')

/-- More data behind what has been read changes nothing. -/
def Resumes (round : Round σ β ω) : Prop :=
  ∀ {s s₁ : σ} {a rest : List β} {o : List ω} (b : List β), b ≠ [] → round s a = some (s₁, o, rest) →
    round s (a ++ b) = some (s₁, o, rest ++ b) ∨ (rest = [] ∧ o = [] ∧ round s (a ++ b) = round s₁ b)

variable {round : Round σ β ω} {s s₁ s₂ : σ} {a b : List β} {o o₁ o₂ : List ω}

theorem eats_nil_iff : Eats round s [] s₁ o ↔ s₁ = s ∧ o = [] := by
  constructor
  · intro h
    cases h with
    | nil => exact ⟨rfl, rfl⟩
    | cons hne => exact absurd rfl hne
  · rintro ⟨rfl, rfl⟩
    exact .nil _

theorem eats_iff (hne : a ≠ []) : Eats round s a s₂ o ↔
    ∃ s₁ o₁ rest o₂, round s a = some (s₁, o₁, rest) ∧ Eats round s₁ rest s₂ o₂ ∧ o = o₁ ++ o₂ := by
  constructor
  · intro h
    cases h with
    | nil => exact absurd rfl hne
    | cons _ hround hrest => exact ⟨_, _, _, _, hround, hrest, rfl⟩
  · rintro ⟨s₁, o₁, rest, o₂, hround, hrest, rfl⟩
    exact .cons hne hround hrest

theorem Eats.unique (h₁ : Eats round s a s₁ o₁) (h₂ : Eats round s a s₂ o₂) : s₂ = s₁ ∧ o₂ = o₁ := by
  induction h₁ generalizing s₂ o₂ with
  | nil s => exact eats_nil_iff.mp h₂
  | cons hne hround _ ih =>
    obtain ⟨_, _, _, _, hround', hrest', rfl⟩ := (eats_iff hne).mp h₂
    rw [hround] at hround'
    cases hround'
    obtain ⟨rfl, rfl⟩ := ih hrest'
    exact ⟨rfl, rfl⟩

/-- **The rule of two parts.** -/
theorem eats_append_iff (hresumes : Resumes round) (h : Eats round s a s₁ o₁) :
    Eats round s (a ++ b) s₂ o ↔ ∃ o₂, Eats round s₁ b s₂ o₂ ∧ o = o₁ ++ o₂ := by
  by_cases hb : b = []
  · subst hb
    rw [List.append_nil]
    constructor
    · intro h'
      obtain ⟨rfl, rfl⟩ := h.unique h'
      exact ⟨[], .nil _, (List.append_nil _).symm⟩
    · rintro ⟨o₂, hnil, rfl⟩
      obtain ⟨rfl, rfl⟩ := eats_nil_iff.mp hnil
      rwa [List.append_nil]
  · induction h generalizing o with
    | nil s => simp
    | cons hne hround hrest ih =>
      have hne' := List.append_ne_nil_of_left_ne_nil hne b
      rcases hresumes b hb hround with hsame | ⟨rfl, rfl, hnext⟩
      · rw [eats_iff hne']
        constructor
        · rintro ⟨_, _, _, o', hround', hrest', rfl⟩
          rw [hsame] at hround'
          cases hround'
          obtain ⟨o₂, ho₂, rfl⟩ := ih.mp hrest'
          exact ⟨o₂, ho₂, (List.append_assoc ..).symm⟩
        · rintro ⟨o₂, ho₂, rfl⟩
          exact ⟨_, _, _, _, hsame, ih.mpr ⟨o₂, ho₂, rfl⟩, List.append_assoc ..⟩
      · obtain ⟨rfl, rfl⟩ := eats_nil_iff.mp hrest
        rw [eats_iff hne', hnext, ← eats_iff hb]
        simp

/-! ## Pieces -/

/-- The pieces are read one after the other. -/
def EatsAll (round : Round σ β ω) : List (List β) → σ → σ → List ω → Prop
  | [], s, s', o => s' = s ∧ o = []
  | piece :: pieces, s, s', o =>
    ∃ s₁ o₁ o₂, Eats round s piece s₁ o₁ ∧ EatsAll round pieces s₁ s' o₂ ∧ o = o₁ ++ o₂

/-- **The rule of pieces**: when the reader can go on after each of them, they give what the whole gives. -/
theorem eatsAll_iff (hresumes : Resumes round) {pieces : List (List β)}
    (hcuts : ∀ read, read <+: pieces → ∃ s' o', Eats round s read.flatten s' o') :
    EatsAll round pieces s s₂ o ↔ Eats round s pieces.flatten s₂ o := by
  induction pieces generalizing s o with
  | nil => exact eats_nil_iff.symm
  | cons piece pieces ih =>
    obtain ⟨s₁, o₁, hpiece⟩ := hcuts [piece] (List.prefix_append [piece] pieces)
    rw [List.flatten_singleton] at hpiece
    have hcuts' : ∀ read, read <+: pieces → ∃ s' o', Eats round s₁ read.flatten s' o' := by
      intro read hread
      obtain ⟨s', o', h⟩ := hcuts (piece :: read) (List.cons_prefix_cons.mpr ⟨rfl, hread⟩)
      rw [List.flatten_cons, eats_append_iff hresumes hpiece] at h
      obtain ⟨o₂, h, -⟩ := h
      exact ⟨s', o₂, h⟩
    rw [List.flatten_cons, eats_append_iff hresumes hpiece]
    constructor
    · rintro ⟨_, _, o₂, hpiece', hrest, rfl⟩
      obtain ⟨rfl, rfl⟩ := hpiece.unique hpiece'
      exact ⟨o₂, (ih hcuts').mp hrest, rfl⟩
    · rintro ⟨o₂, hrest, rfl⟩
      exact ⟨s₁, o₁, o₂, hpiece, (ih hcuts').mpr hrest, rfl⟩

end Incremental
