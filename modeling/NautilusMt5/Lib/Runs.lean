import Mathlib.Data.List.Induction

/-!
# Runs of a partial step function

A system is a function `step : σ → ε → Option σ`: `none` says that the event is not enabled in the state. A run is
the list of its events (`run`), so that a concrete run evaluates.

* `run_inv`: what every step keeps holds after every run (`run_inv_every`, `run_inv_forall`: after runs whose steps
  meet a condition);
* `run_inv_trace`: the same for an invariant that also speaks about the events so far;
* `Every`: every step of a run meets a condition on the state before it and its event;
* `Reaches`: a state is reached by such a run;
* `run_purge`: events that a relation of states does not see can be left out of a run;
* `cost_le`: what the steps of a run cost is paid from a potential of its first state;
* `every_iff`: such a condition is exact when it keeps an invariant and its failure breaks what the invariant gives;
* `every_iff_last`: the same for what is asked of the last state alone, when a failure is never made up for.
-/

namespace Runs

variable {σ ε : Type*} (step : σ → ε → Option σ)

/-- The state after the events `es`, `none` when one of them was not enabled. -/
def run (s : σ) : List ε → Option σ
  | [] => some s
  | e :: es => (step s e).bind (fun s' => run s' es)

/-- Every step of the run of `es` from `s` meets `P`. -/
def Every (P : σ → ε → Prop) : σ → List ε → Prop
  | _, [] => True
  | s, e :: es => P s e ∧ ∀ s', step s e = some s' → Every P s' es

/-- A condition that is decidable on each step is decidable on a run. -/
def decEvery (P : σ → ε → Prop) [∀ s e, Decidable (P s e)] : ∀ (s : σ) (es : List ε), Decidable (Every step P s es)
  | _, [] => .isTrue trivial
  | s, e :: es =>
    match h : step s e with
    | none => decidable_of_iff (P s e) ⟨fun hp => ⟨hp, fun s' hs => by rw [h] at hs; cases hs⟩, fun hp => hp.1⟩
    | some t =>
      have := decEvery P t es
      decidable_of_iff (P s e ∧ Every step P t es)
        ⟨fun hp => ⟨hp.1, fun s' hs => by rw [h] at hs; cases hs; exact hp.2⟩, fun hp => ⟨hp.1, hp.2 t h⟩⟩

instance (P : σ → ε → Prop) [∀ s e, Decidable (P s e)] (s : σ) (es : List ε) : Decidable (Every step P s es) :=
  decEvery step P s es

variable {step}

theorem run_cons {s s' : σ} {e : ε} {es : List ε} (h : run step s (e :: es) = some s') :
    ∃ t, step s e = some t ∧ run step t es = some s' := by
  simpa [run, Option.bind_eq_some_iff] using h

/-- Where every event is enabled every run goes to its end. -/
theorem exists_run (htotal : ∀ s e, ∃ s', step s e = some s') (s : σ) (es : List ε) : ∃ t, run step s es = some t := by
  induction es generalizing s with
  | nil => exact ⟨s, rfl⟩
  | cons e es ih =>
    obtain ⟨s', hs⟩ := htotal s e
    obtain ⟨t, ht⟩ := ih s'
    exact ⟨t, by rw [run, hs]; exact ht⟩

theorem run_append (s : σ) (es fs : List ε) :
    run step s (es ++ fs) = (run step s es).bind (fun s' => run step s' fs) := by
  induction es generalizing s with
  | nil => rfl
  | cons e es ih =>
    simp only [List.cons_append, run]
    cases step s e with
    | none => rfl
    | some t => exact ih t

/-- A run that ends with `e` is a run up to the last state and one step. -/
theorem run_snoc {s s' : σ} {e : ε} {es : List ε} (h : run step s (es ++ [e]) = some s') :
    ∃ t, run step s es = some t ∧ step t e = some s' := by
  rw [run_append, Option.bind_eq_some_iff] at h
  obtain ⟨t, ht, hs⟩ := h
  exact ⟨t, ht, by simpa [run] using hs⟩

/-- **The invariant rule** for runs whose steps all meet a condition. -/
theorem run_inv_every {P : σ → ε → Prop} {I : σ → Prop}
    (hI : ∀ s e s', I s → P s e → step s e = some s' → I s') {s s' : σ} {es : List ε} (hs : I s)
    (hP : Every step P s es) (h : run step s es = some s') : I s' := by
  induction es generalizing s with
  | nil => cases h; exact hs
  | cons e es ih =>
    obtain ⟨t, ht, hr⟩ := run_cons h
    exact ih (hI s e t hs hP.1 ht) (hP.2 t ht) hr

theorem every_of_forall {P : ε → Prop} {es : List ε} (h : ∀ e ∈ es, P e) (s : σ) :
    Every step (fun _ e => P e) s es := by
  induction es generalizing s with
  | nil => trivial
  | cons e es ih =>
    obtain ⟨he, hes⟩ := List.forall_mem_cons.mp h
    exact ⟨he, fun s' _ => ih hes s'⟩

/-- The invariant rule for runs whose events all meet a condition. -/
theorem run_inv_forall {P : ε → Prop} {I : σ → Prop} (hI : ∀ s e s', I s → P e → step s e = some s' → I s') {s s' : σ}
    {es : List ε} (hs : I s) (hP : ∀ e ∈ es, P e) (h : run step s es = some s') : I s' :=
  run_inv_every hI hs (every_of_forall hP s) h

/-- The invariant rule for all runs: what every step keeps, every run keeps. -/
theorem run_inv {I : σ → Prop} (hI : ∀ s e s', I s → step s e = some s' → I s') {s s' : σ} {es : List ε}
    (hs : I s) (h : run step s es = some s') : I s' :=
  run_inv_forall (fun s e s' hs _ => hI s e s' hs) hs (fun _ _ => trivial) h

/-- The invariant rule for an invariant over the events so far and the state. -/
theorem run_inv_trace {I : List ε → σ → Prop} {s₀ : σ} (h₀ : I [] s₀)
    (hI : ∀ es s e s', I es s → step s e = some s' → I (es ++ [e]) s') {s : σ} {es : List ε}
    (h : run step s₀ es = some s) : I es s := by
  induction es using List.reverseRecOn generalizing s with
  | nil => cases h; exact h₀
  | append_singleton es e ih =>
    obtain ⟨t, ht, hs⟩ := run_snoc h
    exact hI es t e s (ih ht) hs

theorem Every.mono {P Q : σ → ε → Prop} (hPQ : ∀ s e, P s e → Q s e) {s : σ} {es : List ε}
    (h : Every step P s es) : Every step Q s es := by
  induction es generalizing s with
  | nil => trivial
  | cons e es ih => exact ⟨hPQ s e h.1, fun s' hs' => ih (h.2 s' hs')⟩

theorem Every.and {P Q : σ → ε → Prop} {s : σ} {es : List ε} (h : Every step P s es) (h' : Every step Q s es) :
    Every step (fun s e => P s e ∧ Q s e) s es := by
  induction es generalizing s with
  | nil => trivial
  | cons e es ih => exact ⟨⟨h.1, h'.1⟩, fun s' hs => ih (h.2 s' hs) (h'.2 s' hs)⟩

/-- Conditions that agree where an invariant holds agree on runs. -/
theorem every_congr {P Q : σ → ε → Prop} {I : σ → Prop} (hI : ∀ s e s', I s → step s e = some s' → I s')
    (hPQ : ∀ s e, I s → (P s e ↔ Q s e)) {s : σ} {es : List ε} (hs : I s) : Every step P s es ↔ Every step Q s es := by
  induction es generalizing s with
  | nil => exact Iff.rfl
  | cons e es ih =>
    exact and_congr (hPQ s e hs) (forall_congr' fun s' => forall_congr' fun hstep => ih (hI s e s' hs hstep))

/-- A condition that an invariant gives is met all along. -/
theorem every_of_inv {P : σ → ε → Prop} {I : σ → Prop} (hI : ∀ s e s', I s → step s e = some s' → I s')
    (hP : ∀ s e, I s → P s e) {s : σ} {es : List ε} (hs : I s) : Every step P s es := by
  induction es generalizing s with
  | nil => trivial
  | cons e es ih => exact ⟨hP s e hs, fun s' hstep => ih (hI s e s' hs hstep)⟩

theorem every_append {P : σ → ε → Prop} {s : σ} {es fs : List ε} :
    Every step P s (es ++ fs) ↔ Every step P s es ∧ ∀ t, run step s es = some t → Every step P t fs := by
  induction es generalizing s with
  | nil => simp [Every, run]
  | cons e es ih =>
    simp only [List.cons_append, Every, ih, run, Option.bind_eq_some_iff]
    constructor
    · rintro ⟨hP, h⟩
      exact ⟨⟨hP, fun s' hs => (h s' hs).1⟩, fun t ⟨s', hs, ht⟩ => (h s' hs).2 t ht⟩
    · rintro ⟨⟨hP, h⟩, hrest⟩
      exact ⟨hP, fun s' hs => ⟨h s' hs, fun t ht => hrest t ⟨s', hs, ht⟩⟩⟩

variable (step) in
/-- `t` is reached from `s` by steps that all meet `P`. -/
def Reaches (P : σ → ε → Prop) (s t : σ) : Prop := ∃ es, run step s es = some t ∧ Every step P s es

theorem Reaches.single {P : σ → ε → Prop} {s t : σ} {e : ε} (hP : P s e) (hs : step s e = some t) :
    Reaches step P s t :=
  ⟨[e], by rw [run, hs]; rfl, hP, fun _ _ => trivial⟩

theorem Reaches.trans {P : σ → ε → Prop} {s t u : σ} (h : Reaches step P s t) (h' : Reaches step P t u) :
    Reaches step P s u := by
  obtain ⟨es, hes, hP⟩ := h
  obtain ⟨fs, hfs, hP'⟩ := h'
  refine ⟨es ++ fs, by rw [run_append, hes]; exact hfs, every_append.mpr ⟨hP, fun t' ht' => ?_⟩⟩
  rw [hes] at ht'
  cases ht'
  exact hP'

/-- **The purge rule**: where seen events are the same step on both sides and the others leave the relation, a run and
the run of its seen events end in related states, or neither goes to its end. -/
theorem run_purge {τ : Type*} {step' : τ → ε → Option τ} {R : σ → τ → Prop} {seen : ε → Bool}
    (hseen : ∀ s t e, R s t → seen e = true → Option.Rel R (step s e) (step' t e))
    (hunseen : ∀ s t e, R s t → seen e = false → ∃ s', step s e = some s' ∧ R s' t) {s : σ} {t : τ} (hR : R s t)
    (es : List ε) : Option.Rel R (run step s es) (run step' t (es.filter seen)) := by
  induction es generalizing s t with
  | nil => exact .some hR
  | cons e es ih =>
    cases he : seen e with
    | true =>
      rw [List.filter_cons_of_pos he, run, run]
      have hrel := hseen s t e hR he
      revert hrel
      cases step s e <;> cases step' t e <;> rintro ⟨⟩
      · exact .none
      · rename_i hR'
        exact ih hR'
    | false =>
      obtain ⟨s', hstep, hR'⟩ := hunseen s t e hR he
      rw [List.filter_cons_of_neg (by simp [he]), run, hstep]
      exact ih hR'

variable (step) in
/-- What the steps of a run cost, up to the first that is not enabled. -/
def cost (price : σ → σ → ℕ) : σ → List ε → ℕ
  | _, [] => 0
  | s, e :: es =>
    match step s e with
    | none => 0
    | some s' => price s s' + cost price s' es

/-- **The potential rule**: where every step is paid from a potential, no run costs more than the potential it starts
with. -/
theorem cost_le {price : σ → σ → ℕ} {V : σ → ℕ} {P : σ → ε → Prop} {I : σ → Prop}
    (hI : ∀ s e s', I s → P s e → step s e = some s' → I s')
    (hV : ∀ s e s', I s → P s e → step s e = some s' → price s s' + V s' ≤ V s) {s : σ} {es : List ε} (hs : I s)
    (hP : Every step P s es) : cost step price s es ≤ V s := by
  induction es generalizing s with
  | nil => exact Nat.zero_le _
  | cons e es ih =>
    rw [cost]
    cases hstep : step s e with
    | none => exact Nat.zero_le _
    | some s' =>
      have hrest := ih (hI s e s' hs hP.1 hstep) (hP.2 s' hstep)
      have hpaid := hV s e s' hs hP.1 hstep
      simp only
      omega

/-- **The exactness rule**: `I` holds all along a run if and only if its steps meet `P`, when steps that meet it keep an
invariant that gives `I` and a step that does not leads out of `I`. -/
theorem every_iff {P : σ → ε → Prop} {I J : σ → Prop} (hJI : ∀ s, J s → I s)
    (hkeep : ∀ s e s', J s → P s e → step s e = some s' → J s')
    (hbreak : ∀ s e s', J s → ¬ P s e → step s e = some s' → ¬ I s') {s t : σ} {es : List ε} (hs : J s)
    (ht : run step s es = some t) :
    (∀ es' s', es' <+: es → run step s es' = some s' → I s') ↔ Every step P s es := by
  induction es generalizing s with
  | nil =>
    refine iff_of_true (fun es' s' hpre hrun => ?_) trivial
    rw [List.prefix_nil.mp hpre] at hrun
    cases hrun
    exact hJI s hs
  | cons e es ih =>
    obtain ⟨s₁, hstep, hrun⟩ := run_cons ht
    constructor
    · intro hall
      have hP : P s e := by
        by_contra hP
        refine hbreak s e s₁ hs hP hstep (hall [e] s₁ ⟨es, rfl⟩ ?_)
        rw [run, hstep]
        rfl
      refine ⟨hP, fun s' hs' => ?_⟩
      rw [hstep] at hs'
      cases hs'
      apply (ih (hkeep s e s₁ hs hP hstep) hrun).mp
      intro es' s' hpre hr
      refine hall (e :: es') s' (List.cons_prefix_cons.mpr ⟨rfl, hpre⟩) ?_
      rw [run, hstep]
      exact hr
    · rintro ⟨hP, hrest⟩ es' s' hpre hr
      cases es' with
      | nil =>
        cases hr
        exact hJI s hs
      | cons e' es' =>
        obtain ⟨rfl, htail⟩ := List.cons_prefix_cons.mp hpre
        rw [run, hstep] at hr
        exact (ih (hkeep s e' s₁ hs hP hstep) hrun).mpr (hrest s₁ hstep) es' s' htail hr

/-- What is so after a run was so before it, when it was so before every step. -/
theorem of_run {A : σ → Prop} (hA : ∀ s e s', step s e = some s' → A s' → A s) {s t : σ} {es : List ε}
    (ht : run step s es = some t) (h : A t) : A s := by
  by_contra hs
  exact run_inv (I := fun s => ¬ A s) (fun s e s' hs hstep h' => hs (hA s e s' hstep h')) hs ht h

/-- **The exactness rule for what is never made up for**: `I` holds at the end of a run if and only if its steps meet
`P`, when steps that meet it keep `I`, and one that does not leads to `B`, which stays and excludes `I`. `A` is known of
the end. -/
theorem every_iff_last {P : σ → ε → Prop} {A I J B : σ → Prop} (hJ : ∀ s e s', J s → step s e = some s' → J s')
    (hA : ∀ s e s', step s e = some s' → A s' → A s)
    (hkeep : ∀ s e s', J s → I s → A s' → P s e → step s e = some s' → I s')
    (hbreak : ∀ s e s', J s → I s → ¬ P s e → step s e = some s' → B s')
    (hstay : ∀ s e s', J s → B s → step s e = some s' → B s') (hBI : ∀ s, B s → ¬ I s) {s t : σ} {es : List ε}
    (hs : J s) (hI : I s) (ht : run step s es = some t) (hAt : A t) : I t ↔ Every step P s es := by
  induction es generalizing s with
  | nil =>
    cases ht
    exact iff_of_true hI trivial
  | cons e es ih =>
    obtain ⟨s₁, hstep, hrun⟩ := run_cons ht
    have hJ₁ := hJ s e s₁ hs hstep
    by_cases hP : P s e
    · rw [ih hJ₁ (hkeep s e s₁ hs hI (of_run hA hrun hAt) hP hstep) hrun, Every]
      constructor
      · intro h
        refine ⟨hP, fun s' hs' => ?_⟩
        rw [hstep] at hs'
        cases hs'
        exact h
      · exact fun h => h.2 s₁ hstep
    · have hB : J t ∧ B t := by
        refine run_inv (I := fun s => J s ∧ B s) ?_ ⟨hJ₁, hbreak s e s₁ hs hI hP hstep⟩ hrun
        exact fun s e s' h hs' => ⟨hJ s e s' h.1 hs', hstay s e s' h.1 h.2 hs'⟩
      exact iff_of_false (hBI t hB.2) fun h => hP h.1

end Runs
