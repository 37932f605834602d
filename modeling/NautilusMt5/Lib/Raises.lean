import NautilusMt5.Lib.Py

/-!
# What a call raises

`RaisesOnly P x`: when the call `x` raises, then an exception of the kind `P`. A call that reads one thing after the
other fails with the first reading that does not work out; `Follows` says that a call goes by a list of readings, each
of which may be rejected (with a `ValueError`) or escape (with something else). Such a call raises no other than
`ValueError`s just when no reading escapes before one is rejected (`Guarded`).

`Follows.bind` and `Follows.mapM` compose calls, and with them their readings.
-/

namespace Py

/-! ## Kinds of exceptions -/

section RaisesOnly

variable {α β : Type} {P Q : Error → Prop} {x : Except Error α} {f : α → Except Error β} {e : Error}

/-- What `x` raises is of the kind `P`. -/
def RaisesOnly (P : Error → Prop) (x : Except Error α) : Prop := ∀ e, x = .error e → P e

@[simp] theorem raisesOnly_ok (a : α) : RaisesOnly P (.ok a : Except Error α) := by
  intro e h
  cases h

@[simp] theorem raisesOnly_pure (a : α) : RaisesOnly P (pure a : Except Error α) := raisesOnly_ok a

@[simp] theorem raisesOnly_error : RaisesOnly P (.error e : Except Error α) ↔ P e := by
  constructor
  · intro h
    exact h e rfl
  · intro h e' he
    cases he
    exact h

@[simp] theorem raisesOnly_bind :
    RaisesOnly P (x >>= f) ↔ RaisesOnly P x ∧ ∀ a, x = .ok a → RaisesOnly P (f a) := by
  cases x with
  | error e => simp [bind, Except.bind]
  | ok a => simp [bind, Except.bind]

theorem map_eq_error {ε : Type} {x : Except ε α} {g : α → β} {e : ε} : x.map g = .error e ↔ x = .error e := by
  cases x <;> simp [Except.map]

@[simp] theorem raisesOnly_map {g : α → β} : RaisesOnly P (x.map g) ↔ RaisesOnly P x := by
  simp only [RaisesOnly, map_eq_error]

theorem RaisesOnly.mono (h : RaisesOnly P x) (hPQ : ∀ e, P e → Q e) : RaisesOnly Q x := fun e he => hPQ e (h e he)

end RaisesOnly

/-! ## Readings -/

/-- How a reading works out. -/
inductive Outcome
  | passes
  | rejected
  | escapes
  deriving DecidableEq

section Follows

variable {ρ α β γ : Type} (outcome : ρ → Outcome)

/-- No reading escapes before one is rejected. -/
def Guarded : List ρ → Prop
  | [] => True
  | r :: rs => outcome r = .rejected ∨ outcome r = .passes ∧ Guarded rs

instance decidableGuarded : DecidablePred (Guarded outcome)
  | [] => .isTrue trivial
  | r :: rs =>
    have := decidableGuarded rs
    inferInstanceAs (Decidable (outcome r = .rejected ∨ outcome r = .passes ∧ Guarded outcome rs))

/-- Every reading passes. -/
def Passed (rs : List ρ) : Prop := ∀ r ∈ rs, outcome r = .passes

variable {outcome} {rs rs' : List ρ}

/-- Later readings count when the earlier ones pass. -/
theorem guarded_append :
    Guarded outcome (rs ++ rs') ↔ Guarded outcome rs ∧ (Passed outcome rs → Guarded outcome rs') := by
  induction rs with
  | nil => simp [Guarded, Passed]
  | cons r rs ih =>
    simp only [List.cons_append, Guarded, Passed, List.forall_mem_cons] at *
    rw [ih]
    cases outcome r with
    | passes => simp
    | rejected => simp
    | escapes => simp

theorem passed_append : Passed outcome (rs ++ rs') ↔ Passed outcome rs ∧ Passed outcome rs' := by
  simp only [Passed, List.forall_mem_append]

variable (outcome) in
/-- The call goes by these readings. -/
structure Follows (x : Except Error α) (rs : List ρ) : Prop where
  raisesOnly_iff : RaisesOnly Error.IsValueError x ↔ Guarded outcome rs
  returns_iff : (∃ a, x = .ok a) ↔ Passed outcome rs

variable {x : Except Error α} {f : α → Except Error β}

theorem follows_ok (a : α) : Follows outcome (.ok a : Except Error α) [] where
  raisesOnly_iff := by simp [Guarded]
  returns_iff := by simp [Passed]

theorem follows_pure (a : α) : Follows outcome (pure a : Except Error α) [] := follows_ok a

section Single

variable {r : ρ} {e : Error}

theorem follows_passes (h : outcome r = .passes) (a : α) : Follows outcome (.ok a : Except Error α) [r] where
  raisesOnly_iff := by simp [Guarded, h]
  returns_iff := by simp [Passed, h]

theorem follows_rejected (h : outcome r = .rejected) (he : e.IsValueError) :
    Follows outcome (.error e : Except Error α) [r] where
  raisesOnly_iff := by simp [Guarded, h, he]
  returns_iff := by simp [Passed, h]

theorem follows_escapes (h : outcome r = .escapes) (he : ¬ e.IsValueError) :
    Follows outcome (.error e : Except Error α) [r] where
  raisesOnly_iff := by simp [Guarded, h, he]
  returns_iff := by simp [Passed, h]

end Single

/-- **The rule of `bind`**: a call goes by its readings in their order. -/
theorem Follows.bind (hx : Follows outcome x rs) (hf : ∀ a, x = .ok a → Follows outcome (f a) rs') :
    Follows outcome (x >>= f) (rs ++ rs') where
  raisesOnly_iff := by
    rw [raisesOnly_bind, guarded_append, hx.raisesOnly_iff, ← hx.returns_iff]
    constructor
    · rintro ⟨h, hall⟩
      refine ⟨h, ?_⟩
      rintro ⟨a, ha⟩
      exact (hf a ha).raisesOnly_iff.mp (hall a ha)
    · rintro ⟨h, hrest⟩
      exact ⟨h, fun a ha => (hf a ha).raisesOnly_iff.mpr (hrest ⟨a, ha⟩)⟩
  returns_iff := by
    rw [passed_append, ← hx.returns_iff]
    constructor
    · rintro ⟨b, hb⟩
      obtain ⟨a, ha, hfa⟩ := bind_eq_ok.mp hb
      exact ⟨⟨a, ha⟩, (hf a ha).returns_iff.mp ⟨b, hfa⟩⟩
    · rintro ⟨⟨a, ha⟩, hrest⟩
      obtain ⟨b, hb⟩ := (hf a ha).returns_iff.mpr hrest
      exact ⟨b, bind_eq_ok.mpr ⟨a, ha, hb⟩⟩

/-- The rule of `bind` behind a single reading. -/
theorem Follows.cons {r : ρ} (hx : Follows outcome x [r]) (hf : ∀ a, x = .ok a → Follows outcome (f a) rs) :
    Follows outcome (x >>= f) (r :: rs) := hx.bind hf

theorem Follows.map (hx : Follows outcome x rs) (g : α → β) : Follows outcome (x.map g) rs where
  raisesOnly_iff := by rw [raisesOnly_map, hx.raisesOnly_iff]
  returns_iff := by
    rw [← hx.returns_iff]
    cases x <;> simp [Except.map]

/-- The rule of a loop over a list. -/
theorem Follows.mapM {call : γ → Except Error α} {readings : γ → List ρ}
    (h : ∀ c, Follows outcome (call c) (readings c)) (cs : List γ) :
    Follows outcome (cs.mapM call) (cs.flatMap readings) := by
  induction cs with
  | nil => exact follows_pure []
  | cons c cs ih =>
    rw [List.mapM_cons, List.flatMap_cons]
    refine (h c).bind fun a _ => ?_
    rw [← List.append_nil (cs.flatMap readings)]
    exact ih.bind fun as _ => follows_pure (a :: as)

end Follows

end Py
