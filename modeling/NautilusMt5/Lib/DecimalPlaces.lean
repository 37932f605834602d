import Mathlib.Algebra.Order.Field.Rat
import NautilusMt5.Lib.MqlFormat

/-!
# Decimal places

`places k n` counts the digits that are left of the last `k` digits of `n` when the zeros at their end are taken off.
For a number that is `n` units of `10 ^ -k` this is the least number of decimals that writes it exactly
(`isLeast_places`).
-/

namespace Mql

/-- The last `k` digits without the zeros at their end. -/
def places (k n : ℕ) : ℕ := ((lastDigits k n).reverse.dropWhile (· = '0')).length

variable {k n d : ℕ} {q : ℚ}

theorem digitChar_eq_zero_iff : ∀ m < 10, Nat.digitChar m = '0' ↔ m = 0 := by decide

/-- A zero at the end is taken off, another digit keeps all before it. -/
theorem places_succ (k n : ℕ) : places (k + 1) n = if n % 10 = 0 then places k (n / 10) else k + 1 := by
  have hzero := digitChar_eq_zero_iff (n % 10) (Nat.mod_lt n (by decide))
  rw [places, lastDigits, List.reverse_append, List.reverse_singleton, List.singleton_append, List.dropWhile_cons]
  simp only [hzero, decide_eq_true_eq]
  split_ifs with h
  · rfl
  · rw [List.length_cons, List.length_reverse, length_lastDigits]

theorem places_le (k n : ℕ) : places k n ≤ k := by
  induction k generalizing n with
  | zero => exact Nat.le_refl 0
  | succ k ih =>
    rw [places_succ]
    split_ifs
    · exact (ih (n / 10)).trans (Nat.le_succ k)
    · exact Nat.le_refl _

/-- `d` decimals are enough when the digits behind them are zeros. -/
theorem places_le_iff_dvd : places k n ≤ d ↔ 10 ^ (k - d) ∣ n := by
  induction k generalizing n with
  | zero => simp [places, lastDigits]
  | succ k ih =>
    rcases Nat.lt_or_ge k d with hd | hd
    · have hpow : k + 1 - d = 0 := by omega
      rw [hpow, pow_zero]
      exact iff_of_true ((places_le _ _).trans hd) (one_dvd n)
    · have hpow : k + 1 - d = (k - d) + 1 := by omega
      rw [places_succ, hpow, pow_succ']
      split_ifs with hn
      · obtain ⟨m, rfl⟩ := Nat.dvd_of_mod_eq_zero hn
        rw [ih, Nat.mul_div_cancel_left m (by decide), Nat.mul_dvd_mul_iff_left (by decide)]
      · refine iff_of_false (by omega) fun hdvd => ?_
        exact hn (Nat.mod_eq_zero_of_dvd ((dvd_mul_right 10 _).trans hdvd))

/-- `d` decimals are enough when the number is exact with them. -/
theorem places_le_iff (h : q * 10 ^ k = n) : places k n ≤ d ↔ ∃ i : ℤ, q * 10 ^ d = i := by
  rw [places_le_iff_dvd]
  rcases Nat.le_total d k with hd | hd
  · have hsplit : q * 10 ^ d * 10 ^ (k - d) = n := by
      rw [mul_assoc, ← pow_add, Nat.add_sub_cancel' hd, h]
    have hpos : (10 : ℚ) ^ (k - d) ≠ 0 := by positivity
    constructor
    · rintro ⟨m, rfl⟩
      refine ⟨m, ?_⟩
      push_cast at hsplit ⊢
      rw [mul_comm] at hsplit
      exact mul_left_cancel₀ hpos hsplit
    · rintro ⟨i, hi⟩
      rw [hi] at hsplit
      have hint : i * 10 ^ (k - d) = (n : ℤ) := by exact_mod_cast hsplit
      have hdvd : ((10 ^ (k - d) : ℕ) : ℤ) ∣ n := ⟨i, by rw [← hint]; push_cast; ring⟩
      exact Int.natCast_dvd_natCast.mp hdvd
  · refine iff_of_true ?_ ⟨n * 10 ^ (d - k), ?_⟩
    · rw [Nat.sub_eq_zero_of_le hd, pow_zero]
      exact one_dvd n
    · rw [← Nat.add_sub_cancel' hd, pow_add, ← mul_assoc, h]
      push_cast
      rw [Nat.add_sub_cancel' hd]

/-- **Decimal places**: they are the fewest with which the number is exact. -/
theorem isLeast_places (h : q * 10 ^ k = n) : IsLeast {d : ℕ | ∃ i : ℤ, q * 10 ^ d = i} (places k n) :=
  ⟨(places_le_iff h).mp (Nat.le_refl _), fun _ hd => (places_le_iff h).mpr hd⟩

end Mql
