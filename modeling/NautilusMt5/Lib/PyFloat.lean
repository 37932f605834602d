import Mathlib.Algebra.Order.Ring.Rat

/-!
# Python floats

A float is a finite number, an infinity or a NaN. Comparisons are IEEE's: a NaN is neither less than anything nor equal
to anything (`le_zero_or_pos`). Tuples, however, compare their items by identity before they compare them by value, so
a NaN in a tuple equals itself as long as it is the same object; `nan` has the object.
-/

namespace Py

/-- A float. -/
inductive PyFloat
  | finite (q : ℚ)
  | inf
  | negInf
  | nan (object : ℕ)
  deriving DecidableEq, Repr

namespace PyFloat

instance : Zero PyFloat := ⟨.finite 0⟩

instance : Inhabited PyFloat := ⟨0⟩

/-- It is a NaN. -/
def IsNan : PyFloat → Prop
  | .nan _ => True
  | _ => False

instance : DecidablePred IsNan
  | .nan _ => .isTrue trivial
  | .finite _ | .inf | .negInf => .isFalse id

/-- `x <= y`. -/
def le : PyFloat → PyFloat → Bool
  | .nan _, _ => false
  | _, .nan _ => false
  | .negInf, _ => true
  | _, .inf => true
  | .inf, _ => false
  | _, .negInf => false
  | .finite p, .finite q => decide (p ≤ q)

/-- `x < y`. -/
def lt (x y : PyFloat) : Bool := le x y && !le y x

instance : LE PyFloat := ⟨fun x y => le x y⟩

instance : LT PyFloat := ⟨fun x y => lt x y⟩

instance : DecidableRel (· ≤ · : PyFloat → PyFloat → Prop) := fun x y => inferInstanceAs (Decidable (le x y = true))

instance : DecidableRel (· < · : PyFloat → PyFloat → Prop) := fun x y => inferInstanceAs (Decidable (lt x y = true))

@[simp] theorem finite_le_zero {q : ℚ} : PyFloat.finite q ≤ 0 ↔ q ≤ 0 := decide_eq_true_iff

@[simp] theorem zero_lt_finite {q : ℚ} : 0 < PyFloat.finite q ↔ 0 < q := by
  show (decide (0 ≤ q) && !decide (q ≤ 0)) = true ↔ 0 < q
  rw [Bool.and_eq_true, Bool.not_eq_true', decide_eq_true_iff, decide_eq_false_iff_not, not_le]
  exact ⟨fun h => h.2, fun h => ⟨h.le, h⟩⟩

theorem not_nan_le (n : ℕ) (x : PyFloat) : ¬ PyFloat.nan n ≤ x := Bool.false_ne_true

theorem not_lt_nan (n : ℕ) : ¬ 0 < PyFloat.nan n := Bool.false_ne_true

/-- What is not at most zero is positive, unless it is a NaN. -/
theorem not_le_zero_iff {x : PyFloat} : ¬ x ≤ 0 ↔ 0 < x ∨ x.IsNan := by
  cases x with
  | finite q =>
    rw [finite_le_zero, zero_lt_finite, not_le]
    exact (or_iff_left id).symm
  | inf => exact ⟨fun _ => .inl rfl, fun _ => Bool.false_ne_true⟩
  | negInf => exact ⟨fun h => absurd rfl h, fun h => h.elim (fun h => absurd h Bool.false_ne_true) False.elim⟩
  | nan n => exact ⟨fun _ => .inr trivial, fun _ => not_nan_le n 0⟩

/-- A positive number is not a NaN. -/
theorem not_isNan_of_pos {x : PyFloat} (h : 0 < x) : ¬ x.IsNan := by
  cases x with
  | nan n => exact absurd h (not_lt_nan n)
  | _ => exact id

end PyFloat

end Py
