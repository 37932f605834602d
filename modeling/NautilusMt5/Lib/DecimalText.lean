import Mathlib.Data.List.TakeWhile
import NautilusMt5.Lib.MqlFormat
import NautilusMt5.Lib.Py

/-!
# Decimal texts and their values

`valueOf` is the number that a decimal text stands for. `decimal x digits` is the one that `DoubleToString` writes:
the nearest to `x` with so many decimals (`valueOf_doubleToString`). A double is given back by it when it is the
double of some number with so many decimals, and in no other case (`round_decimal_iff`).
-/

namespace Mql

open Binary64

/-- The number of digits, with a point between them or without one. -/
def unsigned (s : List Char) : Option ℚ :=
  match s.takeWhile Char.isDigit, s.dropWhile Char.isDigit with
  | [], _ => none
  | whole, [] => some (Nat.ofDigitChars 10 whole 0)
  | whole, c :: fraction =>
    if c = '.' ∧ fraction ≠ [] ∧ fraction.all Char.isDigit then
      some (Nat.ofDigitChars 10 (whole ++ fraction) 0 / 10 ^ fraction.length)
    else none

/-- The number of a decimal text. -/
def valueOf (s : List Char) : Option ℚ := if s.head? = some '-' then (unsigned s.tail).map (-·) else unsigned s

/-- The number that `DoubleToString` writes. -/
def decimal (x : ℚ) (digits : ℕ) : ℚ :=
  (if x < 0 then -1 else 1) * ((roundHalfEven (|x| * 10 ^ digits)).toNat / 10 ^ digits)

/-! ## The value of a text -/

variable {x : ℚ} {digits : ℕ}

theorem isDigit_toDigits {n : ℕ} : ∀ c ∈ Nat.toDigits 10 n, c.isDigit = true :=
  fun _ h => Nat.isDigit_of_mem_toDigits (by decide) (by decide) h

/-- Digits, and decimals behind a point if there are any. -/
theorem unsigned_text (n : ℕ) {fraction : List Char} (hfraction : ∀ c ∈ fraction, c.isDigit = true) :
    unsigned (Nat.toDigits 10 n ++ if fraction = [] then [] else '.' :: fraction) =
      some ((Nat.ofDigitChars 10 (Nat.toDigits 10 n ++ fraction) 0 : ℚ) / 10 ^ fraction.length) := by
  obtain ⟨d, ds, hd⟩ := List.exists_cons_of_ne_nil (Nat.toDigits_ne_nil (n := n) (b := 10))
  have hdigits : ∀ c ∈ d :: ds, c.isDigit = true := hd ▸ isDigit_toDigits
  rw [hd]
  unfold unsigned
  by_cases hnone : fraction = []
  · subst hnone
    rw [if_pos rfl, List.append_nil, List.takeWhile_eq_self_iff.mpr hdigits, List.dropWhile_eq_nil_iff.mpr hdigits]
    simp
  · have hall : fraction.all Char.isDigit = true := List.all_eq_true.mpr hfraction
    rw [if_neg hnone, List.takeWhile_append_of_pos hdigits, List.dropWhile_append_of_pos hdigits]
    have htake : ('.' :: fraction).takeWhile Char.isDigit = [] := rfl
    have hdrop : ('.' :: fraction).dropWhile Char.isDigit = '.' :: fraction := rfl
    rw [htake, hdrop, List.append_nil]
    simp only [hnone, hall, ne_eq, not_false_eq_true, and_self, if_true]

/-- A sign changes the value. -/
theorem valueOf_sign (negative : Prop) [Decidable negative] (n : ℕ) (s : List Char) :
    valueOf ((if negative then ['-'] else []) ++ (Nat.toDigits 10 n ++ s)) =
      (unsigned (Nat.toDigits 10 n ++ s)).map fun q => (if negative then -1 else 1) * q := by
  split_ifs
  · simp [valueOf]
  · obtain ⟨d, ds, hd⟩ := List.exists_cons_of_ne_nil (Nat.toDigits_ne_nil (n := n) (b := 10))
    have hdigit : d.isDigit = true := isDigit_toDigits d (hd ▸ List.mem_cons_self)
    have hsign : d ≠ '-' := by
      rintro rfl
      cases hdigit
    simp [hd, valueOf, hsign]

theorem valueOf_formatInt (z : ℤ) : valueOf (formatInt z) = some (z : ℚ) := by
  have htext := unsigned_text z.natAbs (List.forall_mem_nil fun c : Char => c.isDigit = true)
  rw [if_pos rfl, List.append_nil, List.length_nil, pow_zero, div_one, Nat.ofDigitChars_ten_toDigits] at htext
  rw [formatInt, ← List.append_nil (Nat.toDigits 10 z.natAbs), valueOf_sign, List.append_nil, htext, Option.map_some]
  congr 1
  have habs : (z.natAbs : ℚ) = |(z : ℚ)| := by rw [Nat.cast_natAbs, Int.cast_abs]
  rw [habs]
  split_ifs with hz
  · rw [abs_of_neg (by exact_mod_cast hz)]
    ring
  · rw [abs_of_nonneg (by exact_mod_cast Int.not_lt.mp hz)]
    ring

/-- The digits of the units, the last ones apart. -/
theorem ofDigitChars_units (units digits : ℕ) :
    Nat.ofDigitChars 10 (Nat.toDigits 10 (units / 10 ^ digits) ++ lastDigits digits (units % 10 ^ digits)) 0 =
      units := by
  rw [Nat.ofDigitChars_append, Nat.ofDigitChars_ten_toDigits, ofDigitChars_lastDigits, Nat.mod_mod,
    Nat.div_add_mod']

/-- **What `DoubleToString` writes.** -/
theorem valueOf_doubleToString (x : ℚ) (digits : ℕ) : valueOf (doubleToString x digits) = some (decimal x digits) := by
  have hlast : ∀ n, ∀ c ∈ lastDigits digits n, c.isDigit = true := fun n c h => isDigit_of_mem_lastDigits h
  generalize hunits : (roundHalfEven (|x| * 10 ^ digits)).toNat = units
  have htext := unsigned_text (units / 10 ^ digits) (hlast (units % 10 ^ digits))
  rw [ofDigitChars_units, length_lastDigits] at htext
  have hpoint : (if lastDigits digits (units % 10 ^ digits) = [] then []
      else '.' :: lastDigits digits (units % 10 ^ digits)) =
        if digits = 0 then [] else '.' :: lastDigits digits (units % 10 ^ digits) := by
    have hempty : lastDigits digits (units % 10 ^ digits) = [] ↔ digits = 0 := by
      rw [← List.length_eq_zero_iff, length_lastDigits]
    simp only [hempty]
  rw [hpoint] at htext
  simp only [doubleToString, decimal, hunits, valueOf_sign, htext, Option.map_some]

/-! ## What comes back -/

/-- A number and its double are half a last bit apart at most. -/
theorem abs_round_sub_le_half (q : ℚ) : |Binary64.round q - q| ≤ 2 ^ exponent q / 2 := by
  have hpos := two_zpow_pos (exponent q)
  have hscale : Binary64.round q - q = (roundHalfEven (q / 2 ^ exponent q) - q / 2 ^ exponent q) * 2 ^ exponent q := by
    rw [Binary64.round, sub_mul, div_mul_cancel₀ _ hpos.ne']
  rw [hscale, abs_mul, abs_of_pos hpos]
  calc _ ≤ 1 / 2 * 2 ^ exponent q := mul_le_mul_of_nonneg_right (abs_roundHalfEven_sub_le _) hpos.le
    _ = 2 ^ exponent q / 2 := by ring

/-- The double of a short decimal is nearer to it than to any other. -/
theorem abs_round_mul_sub_lt {k : ℤ} (hdigits : digits ≤ 8) (hk : |k| < 2 ^ 51) :
    |Binary64.round (k / 10 ^ digits) * 10 ^ digits - k| < 1 / 2 := by
  have hten : (0 : ℚ) < 10 ^ digits := by positivity
  have hscale : Binary64.round (k / 10 ^ digits) * 10 ^ digits - k =
      (Binary64.round (k / 10 ^ digits) - k / 10 ^ digits) * 10 ^ digits := by
    rw [sub_mul, div_mul_cancel₀ _ hten.ne']
  rw [hscale, abs_mul, abs_of_pos hten]
  by_cases hzero : k = 0
  · subst hzero
    simp [round_zero]
  have hq : (k : ℚ) / 10 ^ digits ≠ 0 := div_ne_zero (by exact_mod_cast hzero) hten.ne'
  have hhalf := mul_le_mul_of_nonneg_right (abs_round_sub_le_half ((k : ℚ) / 10 ^ digits)) hten.le
  refine hhalf.trans_lt ?_
  by_cases hexp : exponent ((k : ℚ) / 10 ^ digits) = -1074
  · -- the least exponent: half a last bit is next to nothing
    have hle : (10 : ℚ) ^ digits ≤ 10 ^ 8 := pow_le_pow_right₀ (by norm_num) hdigits
    have hbit : (2 : ℚ) ^ (-1074 : ℤ) ≤ 2 ^ (-30 : ℤ) := zpow_le_zpow_right₀ (by norm_num) (by decide)
    rw [hexp]
    calc (2 : ℚ) ^ (-1074 : ℤ) / 2 * 10 ^ digits ≤ 2 ^ (-30 : ℤ) / 2 * 10 ^ 8 :=
          mul_le_mul (div_le_div_of_nonneg_right hbit two_pos.le) hle hten.le (div_pos (two_zpow_pos _) two_pos).le
      _ < 1 / 2 := by norm_num
  · have hbit := two_zpow_le_abs hq hexp
    rw [two_zpow_add, abs_div, abs_of_pos hten, le_div_iff₀ hten] at hbit
    have hk' : |(k : ℚ)| < 2 ^ 51 := by exact_mod_cast hk
    push_cast at hbit
    linarith

theorem decimal_round {k : ℤ} (hdigits : digits ≤ 8) (hk : |k| < 2 ^ 51) :
    decimal (Binary64.round (k / 10 ^ digits)) digits = k / 10 ^ digits := by
  have hnear := abs_round_mul_sub_lt hdigits hk
  generalize Binary64.round (k / 10 ^ digits) = x at hnear ⊢
  have hten : (0 : ℚ) < 10 ^ digits := by positivity
  have habs : |x| * 10 ^ digits = |x * 10 ^ digits| := by rw [abs_mul, abs_of_pos hten]
  have hunits : roundHalfEven (|x| * 10 ^ digits) = |k| := by
    refine nearestInt_roundHalfEven.eq_of_lt ?_
    rw [habs, Int.cast_abs]
    exact (abs_abs_sub_abs_le_abs_sub _ _).trans_lt hnear
  have hcast : ((|k|.toNat : ℕ) : ℚ) = |(k : ℚ)| := by
    rw [← Int.cast_natCast, Int.toNat_of_nonneg (abs_nonneg k), Int.cast_abs]
  rw [decimal, hunits, hcast, ← mul_div_assoc]
  congr 1
  -- the sign of the decimal is that of its double
  have hbounds := abs_lt.mp hnear
  rcases lt_trichotomy k 0 with hneg | rfl | hpos
  · have hk' : (k : ℚ) ≤ -1 := by exact_mod_cast Int.le_sub_one_of_lt hneg
    have hx : x < 0 := by
      by_contra hx
      have := mul_nonneg (not_lt.mp hx) hten.le
      linarith
    rw [if_pos hx, abs_of_nonpos (by linarith)]
    ring
  · simp
  · have hk' : (1 : ℚ) ≤ k := by exact_mod_cast hpos
    have hx : ¬ x < 0 := by
      intro hx
      have := mul_neg_of_neg_of_pos hx hten
      linarith
    rw [if_neg hx, abs_of_nonneg (by linarith)]
    ring

/-- **What comes back**: `DoubleToString` gives a double back when it is the double of a number with so many decimals,
and in no other case. -/
theorem round_decimal_iff (hdigits : digits ≤ 8) (hx : |x| * 10 ^ digits < 2 ^ 50) :
    Binary64.round (decimal x digits) = x ↔ ∃ k : ℤ, |k| < 2 ^ 51 ∧ x = Binary64.round (k / 10 ^ digits) := by
  constructor
  · intro h
    have hten : (0 : ℚ) ≤ 10 ^ digits := by positivity
    have hunits : |roundHalfEven (|x| * 10 ^ digits)| ≤ 2 ^ 50 := by
      refine abs_roundHalfEven_le ?_
      rw [abs_of_nonneg (mul_nonneg (abs_nonneg x) hten)]
      exact_mod_cast hx
    have hvalue : decimal x digits =
        (((if x < 0 then -1 else 1) * (roundHalfEven (|x| * 10 ^ digits)).toNat : ℤ) : ℚ) / 10 ^ digits := by
      rw [decimal]
      push_cast
      ring
    refine ⟨(if x < 0 then -1 else 1) * (roundHalfEven (|x| * 10 ^ digits)).toNat, ?_, by rw [← hvalue, h]⟩
    have hbounds := abs_le.mp hunits
    split_ifs <;> rw [abs_lt] <;> constructor <;> omega
  · rintro ⟨k, hk, rfl⟩
    rw [decimal_round hdigits hk]

end Mql
