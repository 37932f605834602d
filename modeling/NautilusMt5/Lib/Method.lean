import Mathlib.Logic.Basic

/-!
# Methods that emit, change a state and may raise

`Method ω ε σ α` is a method of an object with state `σ`: it emits items `ω` as it goes (requests that leave, events
that are published), then returns an `α` or raises an `ε`. What was emitted and changed before an exception stays, so
that a handler runs in the state at the raise.

* `run_bind_of_ok`, `run_bind_of_error`: the run of a sequence from the run of its first part;
* `run_tryCatch_of_ok`, `run_tryCatch_of_error`, `run_tryCatch_ignore`: the run of a handler;
* `run_emitAll`, `run_ofExcept`, `run_via`: the primitive methods;
* `Emits p`: all that is emitted meets `p`, in every run (`emits_bind`, `emits_tryCatch`);
* `Preserves I`: the state keeps `I`, also when the method raises (`preserves_bind`).
-/

/-- What a call leaves: the items emitted, the state, and the value returned or raised. -/
structure Outcome (ω ε σ α : Type) where
  emitted : List ω
  state : σ
  value : Except ε α

namespace Outcome

variable {ω ω' ε σ α : Type}

/-- The outcome after `l` was emitted before. -/
def after (l : List ω) (o : Outcome ω ε σ α) : Outcome ω ε σ α := { o with emitted := l ++ o.emitted }

@[simp] theorem emitted_after (l : List ω) (o : Outcome ω ε σ α) : (o.after l).emitted = l ++ o.emitted := rfl

@[simp] theorem after_nil (o : Outcome ω ε σ α) : o.after [] = o := rfl

end Outcome

/-- A computation over a state `σ` that emits `ω` and may raise `ε`. -/
def Method (ω ε σ α : Type) := σ → Outcome ω ε σ α

namespace Method

variable {ω ω' ε σ α β : Type}

def run (x : Method ω ε σ α) (s : σ) : Outcome ω ε σ α := x s

instance : Monad (Method ω ε σ) where
  pure a := fun s => ⟨[], s, .ok a⟩
  bind x f := fun s =>
    match x s with
    | ⟨l, s', .ok a⟩ => (f a s').after l
    | ⟨l, s', .error e⟩ => ⟨l, s', .error e⟩

instance : MonadExcept ε (Method ω ε σ) where
  throw e := fun s => ⟨[], s, .error e⟩
  tryCatch x h := fun s =>
    match x s with
    | ⟨l, s', .ok a⟩ => ⟨l, s', .ok a⟩
    | ⟨l, s', .error e⟩ => (h e s').after l

/-- Emit `l`. -/
def emitAll (l : List ω) : Method ω ε σ Unit := fun s => ⟨l, s, .ok ()⟩

/-- A pure call that may raise. -/
def ofExcept (x : Except ε α) : Method ω ε σ α := fun s => ⟨[], s, x⟩

/-- Read the state. -/
def getState : Method ω ε σ σ := fun s => ⟨[], s, .ok s⟩

/-- Change the state. -/
def modifyState (f : σ → σ) : Method ω ε σ Unit := fun s => ⟨[], f s, .ok ()⟩

/-- The action `x` where what it emits is seen through `f`. -/
def via (f : ω → ω') (x : Method ω ε σ α) : Method ω' ε σ α :=
  fun s => ⟨(x s).emitted.map f, (x s).state, (x s).value⟩

/-! ## Runs of the primitive methods -/

section Primitive

variable (s : σ)

@[simp] theorem run_pure (a : α) : (pure a : Method ω ε σ α).run s = ⟨[], s, .ok a⟩ := rfl

@[simp] theorem run_throw (e : ε) : (throw e : Method ω ε σ α).run s = ⟨[], s, .error e⟩ := rfl

@[simp] theorem run_emitAll (l : List ω) : (emitAll l : Method ω ε σ Unit).run s = ⟨l, s, .ok ()⟩ := rfl

@[simp] theorem run_ofExcept (x : Except ε α) : (ofExcept x : Method ω ε σ α).run s = ⟨[], s, x⟩ := rfl

@[simp] theorem run_getState : (getState : Method ω ε σ σ).run s = ⟨[], s, .ok s⟩ := rfl

@[simp] theorem run_modifyState (f : σ → σ) : (modifyState f : Method ω ε σ Unit).run s = ⟨[], f s, .ok ()⟩ := rfl

@[simp] theorem run_via (f : ω → ω') (x : Method ω ε σ α) :
    (x.via f).run s = ⟨(x.run s).emitted.map f, (x.run s).state, (x.run s).value⟩ := rfl

end Primitive

/-! ## Sequences and handlers -/

section Sequence

variable {s s' : σ} {l : List ω} {x : Method ω ε σ α}

/-- **The sequence rule**: after the first part has returned, the rest runs in the state it left. -/
theorem run_bind_of_ok {a : α} (f : α → Method ω ε σ β) (h : x.run s = ⟨l, s', .ok a⟩) :
    (x >>= f).run s = ((f a).run s').after l := by
  simp only [run] at h
  simp only [run, bind, h]

/-- After an exception the rest does not run. -/
theorem run_bind_of_error {e : ε} (f : α → Method ω ε σ β) (h : x.run s = ⟨l, s', .error e⟩) :
    (x >>= f).run s = ⟨l, s', .error e⟩ := by
  simp only [run] at h
  simp only [run, bind, h]

@[simp] theorem run_ofExcept_ok_bind (a : α) (f : α → Method ω ε σ β) :
    (ofExcept (.ok a) >>= f).run s = (f a).run s := rfl

@[simp] theorem run_ofExcept_error_bind (e : ε) (f : α → Method ω ε σ β) :
    (ofExcept (.error e) >>= f).run s = ⟨[], s, .error e⟩ := rfl

@[simp] theorem run_getState_bind (f : σ → Method ω ε σ β) : (getState >>= f).run s = (f s).run s := rfl

@[simp] theorem run_modifyState_bind (g : σ → σ) (f : Unit → Method ω ε σ β) :
    (modifyState g >>= f).run s = (f ()).run (g s) := rfl

@[simp] theorem run_emitAll_bind (f : Unit → Method ω ε σ β) :
    (emitAll l >>= f).run s = ((f ()).run s).after l := rfl

theorem run_tryCatch_of_ok {a : α} (f : ε → Method ω ε σ α) (h : x.run s = ⟨l, s', .ok a⟩) :
    (tryCatch x f).run s = ⟨l, s', .ok a⟩ := by
  simp only [run] at h
  simp only [run, tryCatch, h]

theorem run_tryCatch_of_error {e : ε} (f : ε → Method ω ε σ α) (h : x.run s = ⟨l, s', .error e⟩) :
    (tryCatch x f).run s = ((f e).run s').after l := by
  simp only [run] at h
  simp only [run, tryCatch, h]

/-- A handler that only ignores: what was emitted and changed stays. -/
theorem run_tryCatch_ignore (x : Method ω ε σ Unit) (s : σ) :
    (tryCatch x fun _ => pure ()).run s = ⟨(x.run s).emitted, (x.run s).state, .ok ()⟩ := by
  cases hx : x.run s with
  | mk l s' value =>
    cases value with
    | error e =>
      rw [run_tryCatch_of_error _ hx, run_pure]
      simp [Outcome.after]
    | ok u => rw [run_tryCatch_of_ok _ hx]

end Sequence

/-! ## What a method may emit -/

/-- Whatever is emitted meets `p`. -/
def Emits (p : ω → Prop) (x : Method ω ε σ α) : Prop := ∀ s, ∀ w ∈ (x.run s).emitted, p w

section Emits

variable {p : ω → Prop} {x : Method ω ε σ α}

theorem emits_pure (a : α) : Emits p (pure a : Method ω ε σ α) := fun _ _ h => absurd h List.not_mem_nil

theorem emits_throw (e : ε) : Emits p (throw e : Method ω ε σ α) := fun _ _ h => absurd h List.not_mem_nil

theorem emits_emitAll {l : List ω} (h : ∀ w ∈ l, p w) : Emits p (emitAll l : Method ω ε σ Unit) := fun _ => h

theorem emits_via {ω' : Type} {f : ω' → ω} {x : Method ω' ε σ α} (h : Emits (fun w => p (f w)) x) :
    Emits p (x.via f) := by
  intro s w hw
  rw [run_via] at hw
  obtain ⟨v, hv, rfl⟩ := List.mem_map.mp hw
  exact h s v hv

theorem emits_bind {f : α → Method ω ε σ β} (hx : Emits p x) (hf : ∀ a, Emits p (f a)) : Emits p (x >>= f) := by
  intro s w hw
  cases hr : x.run s with
  | mk l s' value =>
    have hl : ∀ v ∈ l, p v := by
      have := hx s
      rwa [hr] at this
    cases value with
    | error e =>
      rw [run_bind_of_error f hr] at hw
      exact hl w hw
    | ok a =>
      rw [run_bind_of_ok f hr, Outcome.emitted_after] at hw
      rcases List.mem_append.mp hw with hw | hw
      · exact hl w hw
      · exact hf a s' w hw

/-- After a pure call the rest may use what the call returned. -/
theorem emits_ofExcept_bind {y : Except ε α} {f : α → Method ω ε σ β} (hf : ∀ a, y = .ok a → Emits p (f a)) :
    Emits p (ofExcept y >>= f) := by
  intro s w hw
  cases hy : y with
  | error e =>
    rw [hy, run_bind_of_error f (run_ofExcept s _)] at hw
    exact absurd hw List.not_mem_nil
  | ok a =>
    rw [hy, run_bind_of_ok f (run_ofExcept s _), Outcome.after_nil] at hw
    exact hf a hy s w hw

theorem emits_tryCatch {f : ε → Method ω ε σ α} (hx : Emits p x) (hf : ∀ e, Emits p (f e)) :
    Emits p (tryCatch x f) := by
  intro s w hw
  cases hr : x.run s with
  | mk l s' value =>
    have hl : ∀ v ∈ l, p v := by
      have := hx s
      rwa [hr] at this
    cases value with
    | ok a =>
      rw [run_tryCatch_of_ok f hr] at hw
      exact hl w hw
    | error e =>
      rw [run_tryCatch_of_error f hr, Outcome.emitted_after] at hw
      rcases List.mem_append.mp hw with hw | hw
      · exact hl w hw
      · exact hf e s' w hw

end Emits

/-! ## What a method keeps -/

/-- The state meets `I` afterwards when it did before. -/
def Preserves (I : σ → Prop) (x : Method ω ε σ α) : Prop := ∀ s, I s → I (x.run s).state

section Preserves

variable {I : σ → Prop} {x : Method ω ε σ α}

theorem preserves_pure (a : α) : Preserves I (pure a : Method ω ε σ α) := fun _ h => h

theorem preserves_emitAll (l : List ω) : Preserves I (emitAll l : Method ω ε σ Unit) := fun _ h => h

theorem preserves_ofExcept (y : Except ε α) : Preserves I (ofExcept y : Method ω ε σ α) := fun _ h => h

theorem preserves_getState : Preserves I (getState : Method ω ε σ σ) := fun _ h => h

theorem preserves_modifyState {f : σ → σ} (h : ∀ s, I s → I (f s)) :
    Preserves I (modifyState f : Method ω ε σ Unit) := h

theorem preserves_bind {f : α → Method ω ε σ β} (hx : Preserves I x) (hf : ∀ a, Preserves I (f a)) :
    Preserves I (x >>= f) := by
  intro s hs
  cases hr : x.run s with
  | mk l s' value =>
    have hs' : I s' := by
      have hkept := hx s hs
      rwa [hr] at hkept
    cases value with
    | error e => rwa [run_bind_of_error f hr]
    | ok a =>
      rw [run_bind_of_ok f hr]
      exact hf a s' hs'

/-- After a pure call the rest may use what the call returned. -/
theorem preserves_ofExcept_bind {y : Except ε α} {f : α → Method ω ε σ β} (hf : ∀ a, y = .ok a → Preserves I (f a)) :
    Preserves I (ofExcept y >>= f) := by
  intro s hs
  cases hy : y with
  | error e => rwa [run_bind_of_error f (run_ofExcept s _)]
  | ok a =>
    rw [run_bind_of_ok f (run_ofExcept s _)]
    exact hf a hy s hs

end Preserves

end Method
