import Mathlib.Data.List.Induction

/-!
# What has happened since

`Since P Q l`: in the list of events `l`, one that meets `P` has happened, and none that meets `Q` has since. A property
of a state that the events of `P` set and those of `Q` clear holds exactly then (`foldl_iff_since`).
-/

namespace History

variable {α σ : Type*} {P P' Q Q' : α → Prop} {l : List α} {a : α}

/-- An event that meets `P`, and none after it that meets `Q`. -/
def Since (P Q : α → Prop) (l : List α) : Prop :=
  ∃ before a after, l = before ++ a :: after ∧ P a ∧ ∀ b ∈ after, ¬ Q b

@[simp] theorem not_since_nil : ¬ Since P Q [] := by
  rintro ⟨before, a, after, h, -⟩
  exact List.append_ne_nil_of_right_ne_nil _ (List.cons_ne_nil _ _) h.symm

/-- The last event is the one, or leaves what has been since. -/
theorem since_concat : Since P Q (l ++ [a]) ↔ P a ∨ (¬ Q a ∧ Since P Q l) := by
  constructor
  · rintro ⟨before, b, after, h, hP, hQ⟩
    rcases List.eq_nil_or_concat after with rfl | ⟨after, c, rfl⟩
    · obtain ⟨-, hlast⟩ := List.append_inj' h rfl
      cases hlast
      exact .inl hP
    · rw [List.concat_eq_append] at h hQ
      rw [← List.cons_append, ← List.append_assoc] at h
      obtain ⟨hl, hlast⟩ := List.append_inj' h rfl
      cases hlast
      refine .inr ⟨hQ a (List.mem_append_right _ List.mem_cons_self), before, b, after, hl, hP, fun c hc => ?_⟩
      exact hQ c (List.mem_append_left _ hc)
  · rintro (hP | ⟨hQ, before, b, after, rfl, hP, hafter⟩)
    · exact ⟨l, a, [], rfl, hP, List.forall_mem_nil _⟩
    · refine ⟨before, b, after ++ [a], by simp, hP, fun c hc => ?_⟩
      rcases List.mem_append.mp hc with hc | hc
      · exact hafter c hc
      · rwa [List.mem_singleton.mp hc]

/-- What the events of `P` set, and those of `Q` clear, holds after the events. -/
theorem foldl_iff_since (holds : σ → Prop) {step : σ → α → σ} {init : σ} (hinit : ¬ holds init)
    (hstep : ∀ s a, holds (step s a) ↔ P a ∨ (¬ Q a ∧ holds s)) (l : List α) :
    holds (l.foldl step init) ↔ Since P Q l := by
  induction l using List.reverseRecOn with
  | nil => exact iff_of_false hinit not_since_nil
  | append_singleton l a ih => rw [List.foldl_append, List.foldl_cons, List.foldl_nil, hstep, since_concat, ih]

/-- Of two events that clear each other only one has happened last. -/
theorem not_since_of_since (hPQ : ∀ a, P a → Q' a) (hPQ' : ∀ a, P' a → Q a) (hP : ∀ a, P a → ¬ P' a) (h : Since P Q l) :
    ¬ Since P' Q' l := by
  induction l using List.reverseRecOn with
  | nil => exact not_since_nil
  | append_singleton l a ih =>
    rw [since_concat] at h ⊢
    rintro (h' | ⟨hQ', h'⟩)
    · rcases h with h | ⟨hQ, -⟩
      · exact hP a h h'
      · exact hQ (hPQ' a h')
    · rcases h with h | ⟨-, h⟩
      · exact hQ' (hPQ a h)
      · exact ih h h'

end History
