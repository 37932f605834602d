import Mathlib.Data.Nat.Basic

/-!
# While loops

One round of a loop ends it with a result or goes on in a new state. `run` does at most so many rounds; a loop
`Returns` a result when enough rounds give it, and `Finishes` when it returns one.

* `Returns.unique`: the number of rounds allowed does not change the result;
* `finishes_of_measure`: a loop finishes when a measure goes down with every round;
* `not_finishes_of_inv`: it never does when some invariant always leads to one more round;
* `Returns.simulates`: a loop whose rounds are matched by those of another returns what that one matches.
-/

namespace Loop

variable {σ ρ : Type*}

/-- How a round ends. -/
inductive Step (σ ρ : Type*)
  | done (r : ρ)
  | next (s : σ)

/-- The result after at most so many rounds. -/
def run (step : σ → Step σ ρ) : ℕ → σ → Option ρ
  | 0, _ => none
  | n + 1, s =>
    match step s with
    | .done r => some r
    | .next s' => run step n s'

/-- The loop returns `r`. -/
def Returns (step : σ → Step σ ρ) (s : σ) (r : ρ) : Prop := ∃ n, run step n s = some r

/-- The loop finishes. -/
def Finishes (step : σ → Step σ ρ) (s : σ) : Prop := ∃ r, Returns step s r

variable {step : σ → Step σ ρ} {s s' : σ} {r r' : ρ}

theorem run_succ_of_next (h : step s = .next s') (n : ℕ) : run step (n + 1) s = run step n s' := by
  rw [run, h]

theorem run_succ_of_done (h : step s = .done r) (n : ℕ) : run step (n + 1) s = some r := by
  rw [run, h]

/-- A loop that is done returns. -/
theorem returns_of_done (h : step s = .done r) : Returns step s r := ⟨1, run_succ_of_done h 0⟩

/-- A loop that goes on returns what it returns from there. -/
theorem returns_of_next (h : step s = .next s') : Returns step s r ↔ Returns step s' r := by
  constructor
  · rintro ⟨n, hn⟩
    cases n with
    | zero => cases hn
    | succ n => exact ⟨n, (run_succ_of_next h n).symm.trans hn⟩
  · rintro ⟨n, hn⟩
    exact ⟨n + 1, (run_succ_of_next h n).trans hn⟩

theorem finishes_of_next (h : step s = .next s') : Finishes step s ↔ Finishes step s' :=
  exists_congr fun _ => returns_of_next h

/-- A loop returns one result. -/
theorem Returns.unique (h : Returns step s r) (h' : Returns step s r') : r = r' := by
  obtain ⟨n, hn⟩ := h
  induction n generalizing s with
  | zero => cases hn
  | succ n ih =>
    cases hs : step s with
    | done r'' =>
      rw [run_succ_of_done hs] at hn
      obtain ⟨m, hm⟩ := h'
      cases m with
      | zero => cases hm
      | succ m =>
        rw [run_succ_of_done hs] at hm
        exact Option.some.inj (hn.symm.trans hm)
    | next s' =>
      rw [run_succ_of_next hs] at hn
      exact ih ((returns_of_next hs).mp h') hn

/-- **Termination by a measure.** -/
theorem finishes_of_measure (m : σ → ℕ) (Inv : σ → Prop) (h0 : Inv s)
    (hnext : ∀ s s', Inv s → step s = .next s' → Inv s' ∧ m s' < m s) : Finishes step s := by
  induction hm : m s using Nat.strong_induction_on generalizing s with
  | _ k ih =>
    cases hs : step s with
    | done r => exact ⟨r, returns_of_done hs⟩
    | next s' =>
      obtain ⟨h', hlt⟩ := hnext s s' h0 hs
      exact (finishes_of_next hs).mpr (ih (m s') (hm ▸ hlt) h' rfl)

/-- **Divergence by an invariant.** -/
theorem not_finishes_of_inv (Inv : σ → Prop) (h0 : Inv s)
    (hnext : ∀ s, Inv s → ∃ s', step s = .next s' ∧ Inv s') : ¬ Finishes step s := by
  rintro ⟨r, n, hn⟩
  induction n generalizing s with
  | zero => cases hn
  | succ n ih =>
    obtain ⟨s', hs, h'⟩ := hnext s h0
    rw [run_succ_of_next hs] at hn
    exact ih h' hn

/-- **Simulation**: each round is matched by a round of the other loop. -/
theorem Returns.simulates {σ' ρ' : Type*} {step' : σ' → Step σ' ρ'} {R : σ → σ' → Prop} {S : ρ → ρ' → Prop} {t : σ'}
    (hdone : ∀ s t r, R s t → step s = .done r → ∃ r', step' t = .done r' ∧ S r r')
    (hnext : ∀ s t s', R s t → step s = .next s' → ∃ t', step' t = .next t' ∧ R s' t') (hs : R s t)
    (h : Returns step s r) : ∃ r', Returns step' t r' ∧ S r r' := by
  obtain ⟨n, hn⟩ := h
  induction n generalizing s t with
  | zero => cases hn
  | succ n ih =>
    cases hround : step s with
    | done r₁ =>
      rw [run_succ_of_done hround] at hn
      cases hn
      obtain ⟨r', hround', hr'⟩ := hdone s t r hs hround
      exact ⟨r', returns_of_done hround', hr'⟩
    | next s₁ =>
      rw [run_succ_of_next hround] at hn
      obtain ⟨t₁, hround', hs₁⟩ := hnext s t s₁ hs hround
      obtain ⟨r', hr', hmatch⟩ := ih hs₁ hn
      exact ⟨r', (returns_of_next hround').mpr hr', hmatch⟩

end Loop
