import Mathlib.Algebra.Order.Field.Basic
import Mathlib.Algebra.Order.Ring.Cast
import Mathlib.Tactic.Linarith
import Mathlib.Tactic.Push
import Mathlib.Tactic.Ring

/-!
# Rounding to a nearest integer

`NearestInt r` says that `r` rounds to a nearest integer, whatever it does with a tie. A difference is rounded to the
difference of what its parts are rounded to just when the errors of the parts are less than one half apart
(`NearestInt.sub_iff`); at one half the tie decides.
-/

variable {K : Type*} [Field K] [LinearOrder K] [IsStrictOrderedRing K]

/-- `r` rounds to a nearest integer. -/
def NearestInt (r : K → ℤ) : Prop := ∀ x, |x - r x| ≤ 1 / 2

namespace NearestInt

variable {r : K → ℤ} {x y : K} {n : ℤ}

/-- What the rounding takes away. -/
def error (r : K → ℤ) (x : K) : K := x - r x

/-- The integer that is nearer than one half is the rounded one. -/
theorem eq_of_lt (h : NearestInt r) (hn : |x - n| < 1 / 2) : r x = n := by
  have hr := h x
  have hdist : |((r x - n : ℤ) : K)| < 1 := by
    have htri : |((r x - n : ℤ) : K)| ≤ |x - n| + |x - r x| := by
      have hsplit : ((r x - n : ℤ) : K) = (x - n) - (x - r x) := by
        push_cast
        ring
      rw [hsplit]
      exact abs_sub _ _
    linarith
  have hzero : |r x - n| < 1 := by exact_mod_cast hdist
  have := Int.abs_lt_one_iff.mp hzero
  omega

theorem intCast (h : NearestInt r) (n : ℤ) : r (n : K) = n := by
  refine h.eq_of_lt ?_
  rw [sub_self, abs_zero]
  linarith

theorem nonneg (h : NearestInt r) (hx : 0 ≤ x) : 0 ≤ r x := by
  have hr := (abs_le.mp (h x)).2
  have hlt : (-1 : K) < r x := by linarith
  have : (-1 : ℤ) < r x := by exact_mod_cast hlt
  omega

omit [LinearOrder K] [IsStrictOrderedRing K] in
theorem error_sub (r : K → ℤ) (x y : K) : error r x - error r y = (x - y) - ((r x - r y : ℤ) : K) := by
  unfold error
  push_cast
  ring

/-- **Differences**: rounding respects a difference if and only if the errors are less than one half apart, or one half
apart and the tie goes that way. -/
theorem sub_iff (h : NearestInt r) : r (x - y) = r x - r y ↔
    |error r x - error r y| < 1 / 2 ∨ |error r x - error r y| = 1 / 2 ∧ r (x - y) = r x - r y := by
  rw [error_sub]
  constructor
  · intro heq
    have hr := h (x - y)
    rw [heq] at hr
    rcases hr.lt_or_eq with hlt | htie
    · exact .inl hlt
    · exact .inr ⟨htie, heq⟩
  · rintro (hlt | ⟨-, heq⟩)
    · exact h.eq_of_lt hlt
    · exact heq

end NearestInt
