import Mathlib.Algebra.Order.Floor.Ring
import Mathlib.Data.Int.Log
import Mathlib.Data.Rat.Floor
import Mathlib.Tactic.Linarith
import Mathlib.Tactic.NormNum
import Mathlib.Tactic.Positivity
import Mathlib.Tactic.Ring
import NautilusMt5.Lib.NearestInt

/-!
# Doubles and their decimals

A finite double is a rational number `m * 2 ^ e` with a significand of 53 bits (`IsDouble`; the largest exponent does
not count here). `round` is the nearest double of a number, `decimals8` the nearest number with eight decimals.

A decimal with eight decimals is not always given back by its double, but its double is: reading, writing with eight
decimals and reading again is the same as reading once (`round_decimals8`).
-/

namespace Binary64

/-- The nearest integer, the even one of two. -/
def roundHalfEven (q : ℚ) : ℤ :=
  let n := ⌊q⌋
  if q - n < 1 / 2 then n else if 1 / 2 < q - n then n + 1 else if n % 2 = 0 then n else n + 1

/-- The exponent of the last bit of a double at `q`. -/
def exponent (q : ℚ) : ℤ := max (Int.log 2 |q| - 52) (-1074)

/-- The nearest double, the even one of two. -/
def round (q : ℚ) : ℚ := roundHalfEven (q / 2 ^ exponent q) * 2 ^ exponent q

/-- A double. -/
def IsDouble (x : ℚ) : Prop := ∃ m e : ℤ, |m| ≤ 2 ^ 53 ∧ -1074 ≤ e ∧ x = m * 2 ^ e

/-- A double is as near to `q` as any. -/
structure IsNearest (q x : ℚ) : Prop where
  isDouble : IsDouble x
  le : ∀ d, IsDouble d → |x - q| ≤ |d - q|

/-- The nearest number with eight decimals, in units of the last. -/
def decimals8 (x : ℚ) : ℤ := roundHalfEven (x * 10 ^ 8)

variable {q q' x y : ℚ}

/-! ## The nearest integer -/

theorem abs_roundHalfEven_sub_le (q : ℚ) : |roundHalfEven q - q| ≤ 1 / 2 := by
  have hle := Int.floor_le q
  have hlt := Int.lt_floor_add_one q
  unfold roundHalfEven
  simp only
  split_ifs <;> rw [abs_le] <;> push_cast <;> constructor <;> linarith

theorem nearestInt_roundHalfEven : NearestInt roundHalfEven := by
  intro x
  rw [abs_sub_comm]
  exact abs_roundHalfEven_sub_le x

/-- No integer is nearer. -/
theorem abs_roundHalfEven_sub_le_int (q : ℚ) (n : ℤ) : |roundHalfEven q - q| ≤ |n - q| := by
  have hhalf := abs_roundHalfEven_sub_le q
  generalize roundHalfEven q = r at hhalf ⊢
  by_cases hn : n = r
  · rw [hn]
  · have hstep : (1 : ℚ) ≤ |(n : ℚ) - r| := by
      exact_mod_cast Int.one_le_abs (sub_ne_zero.mpr hn)
    have htri : |(n : ℚ) - r| ≤ |n - q| + |r - q| := by
      rw [abs_sub_comm (r : ℚ) q]
      exact abs_sub_le _ _ _
    linarith

theorem abs_roundHalfEven_le {b : ℤ} (h : |q| < b) : |roundHalfEven q| ≤ b := by
  have hhalf := abs_roundHalfEven_sub_le q
  have htri := abs_sub_abs_le_abs_sub (roundHalfEven q : ℚ) q
  have hlt : ((|roundHalfEven q| : ℤ) : ℚ) < ((b + 1 : ℤ) : ℚ) := by
    push_cast
    linarith
  exact Int.lt_add_one_iff.mp (by exact_mod_cast hlt)

theorem le_abs_roundHalfEven {b : ℤ} (h : b ≤ |q|) : b ≤ |roundHalfEven q| := by
  have hhalf := abs_roundHalfEven_sub_le q
  have htri := abs_sub_abs_le_abs_sub q (roundHalfEven q : ℚ)
  rw [abs_sub_comm] at htri
  have hlt : ((b - 1 : ℤ) : ℚ) < ((|roundHalfEven q| : ℤ) : ℚ) := by
    push_cast
    linarith
  exact Int.sub_one_lt_iff.mp (by exact_mod_cast hlt)

theorem roundHalfEven_nonneg (h : 0 ≤ q) : 0 ≤ roundHalfEven q := by
  have hlo := (abs_le.mp (abs_roundHalfEven_sub_le q)).1
  have hlt : ((-1 : ℤ) : ℚ) < (roundHalfEven q : ℚ) := by
    push_cast
    linarith
  exact Int.add_one_le_iff.mpr (by exact_mod_cast hlt)

/-! ## The nearest double -/

theorem two_zpow_pos (e : ℤ) : (0 : ℚ) < 2 ^ e := zpow_pos (by norm_num) e

theorem neg_1074_le_exponent (q : ℚ) : -1074 ≤ exponent q := le_max_right _ _

/-- The significand has at most 53 bits. -/
theorem abs_div_lt (q : ℚ) : |q / 2 ^ exponent q| < 2 ^ (53 : ℤ) := by
  have hlog := Int.lt_zpow_succ_log_self (b := 2) (by decide) |q|
  have hle : Int.log 2 |q| + 1 ≤ 53 + exponent q := by
    have hmax : Int.log 2 |q| - 52 ≤ exponent q := le_max_left _ _
    omega
  push_cast at hlog
  rw [abs_div, abs_of_pos (two_zpow_pos _), div_lt_iff₀ (two_zpow_pos _), ← zpow_add₀ (by norm_num)]
  exact hlog.trans_le (zpow_le_zpow_right₀ (by norm_num) hle)

/-- Where the exponent is not the least, it has all of them. -/
theorem le_abs_div (hq : q ≠ 0) (h : exponent q ≠ -1074) : 2 ^ (52 : ℤ) ≤ |q / 2 ^ exponent q| := by
  have he : Int.log 2 |q| = 52 + exponent q := by
    have hmax : exponent q = max (Int.log 2 |q| - 52) (-1074) := rfl
    omega
  have hlog := Int.zpow_log_le_self (b := 2) (by decide) (abs_pos.mpr hq)
  push_cast at hlog
  rw [abs_div, abs_of_pos (two_zpow_pos _), le_div_iff₀ (two_zpow_pos _), ← zpow_add₀ (by norm_num), ← he]
  exact hlog

/-- The significand of `round q`. -/
theorem abs_significand_le (q : ℚ) : |roundHalfEven (q / 2 ^ exponent q)| ≤ 2 ^ 53 := by
  refine abs_roundHalfEven_le ((abs_div_lt q).trans_eq ?_)
  norm_num

theorem isDouble_round (q : ℚ) : IsDouble (round q) :=
  ⟨_, _, abs_significand_le q, neg_1074_le_exponent q, rfl⟩

/-- A double with a smaller exponent is small. -/
theorem abs_finer_le {m e e' : ℤ} (hm : |m| ≤ 2 ^ 53) (he : e < e') : |(m : ℚ) * 2 ^ e| ≤ 2 ^ (52 + e') := by
  have hm' : |(m : ℚ)| ≤ 2 ^ (53 : ℤ) := by exact_mod_cast hm
  calc |(m : ℚ) * 2 ^ e| = |(m : ℚ)| * 2 ^ e := by rw [abs_mul, abs_of_pos (two_zpow_pos e)]
    _ ≤ 2 ^ (53 : ℤ) * 2 ^ e := mul_le_mul_of_nonneg_right hm' (two_zpow_pos e).le
    _ = 2 ^ (53 + e) := (zpow_add₀ (by norm_num) _ _).symm
    _ ≤ 2 ^ (52 + e') := zpow_le_zpow_right₀ (by norm_num) (by omega)

theorem round_zero : round 0 = 0 := by
  have hzero : roundHalfEven 0 = 0 := by norm_num [roundHalfEven]
  rw [round, zero_div, hzero]
  norm_num

/-- Where the exponent is not the least, `q` is not below the least number with this exponent. -/
theorem two_zpow_le_abs (hq : q ≠ 0) (h : exponent q ≠ -1074) : 2 ^ (52 + exponent q) ≤ |q| := by
  have hle := le_abs_div hq h
  rw [abs_div, abs_of_pos (two_zpow_pos _), le_div_iff₀ (two_zpow_pos _), ← zpow_add₀ (by norm_num)] at hle
  exact hle

/-- A multiple of a last bit is one of every smaller bit. -/
theorem exists_eq_mul_of_le (m : ℤ) {e e' : ℤ} (he : e ≤ e') : ∃ n : ℤ, (m : ℚ) * 2 ^ e' = n * 2 ^ e := by
  obtain ⟨k, rfl⟩ := Int.le.dest he
  refine ⟨m * 2 ^ k, ?_⟩
  rw [zpow_add₀ (by norm_num), zpow_natCast]
  push_cast
  ring

/-- The least number with an exponent. -/
theorem two_zpow_add (e : ℤ) : (2 : ℚ) ^ (52 + e) = ((2 ^ 52 : ℤ) : ℚ) * 2 ^ e := by
  rw [zpow_add₀ (by norm_num)]
  norm_num

/-- No multiple of the last bit is nearer. -/
theorem abs_round_sub_le (q : ℚ) (n : ℤ) : |round q - q| ≤ |n * 2 ^ exponent q - q| := by
  have hpos := two_zpow_pos (exponent q)
  have hscale : ∀ r : ℤ, |(r : ℚ) * 2 ^ exponent q - q| = |r - q / 2 ^ exponent q| * 2 ^ exponent q := by
    intro r
    rw [← abs_of_pos hpos, ← abs_mul, abs_of_pos hpos, sub_mul, div_mul_cancel₀ _ hpos.ne']
  rw [round, hscale, hscale]
  exact mul_le_mul_of_nonneg_right (abs_roundHalfEven_sub_le_int _ n) hpos.le

/-- **The nearest double is nearest.** -/
theorem isNearest_round (q : ℚ) : IsNearest q (round q) := by
  refine ⟨isDouble_round q, ?_⟩
  rintro d ⟨m, e, hm, he, rfl⟩
  by_cases hle : exponent q ≤ e
  · obtain ⟨n, hn⟩ := exists_eq_mul_of_le m hle
    rw [hn]
    exact abs_round_sub_le q n
  by_cases hq : q = 0
  · rw [hq, round_zero, sub_zero, abs_zero]
    exact abs_nonneg _
  -- a finer double is below the least number with the exponent of `q`
  obtain ⟨hlo, hhi⟩ := abs_le.mp (abs_finer_le hm (not_le.mp hle))
  have hbound := two_zpow_le_abs hq (by omega)
  rcases abs_cases q with ⟨habs, hsign⟩ | ⟨habs, hsign⟩
  · have hnear := abs_round_sub_le q (2 ^ 52)
    rw [← two_zpow_add] at hnear
    apply hnear.trans
    rw [abs_sub_comm, abs_sub_comm (_ * _), abs_of_nonneg (by linarith), abs_of_nonneg (by linarith)]
    linarith
  · have hnear := abs_round_sub_le q (-2 ^ 52)
    have hneg : ((-2 ^ 52 : ℤ) : ℚ) * 2 ^ exponent q = -2 ^ (52 + exponent q) := by
      rw [two_zpow_add]
      push_cast
      ring
    rw [hneg] at hnear
    apply hnear.trans
    rw [abs_of_nonneg (by linarith), abs_of_nonneg (by linarith)]
    linarith

/-- The nearest double is not farther than zero. -/
theorem abs_round_le (q : ℚ) : |round q| ≤ 2 * |q| := by
  have hzero : IsDouble 0 := ⟨0, 0, by norm_num, by norm_num, by norm_num⟩
  have hle := (isNearest_round q).le 0 hzero
  rw [zero_sub, abs_neg] at hle
  have htri := abs_sub_abs_le_abs_sub (round q) q
  linarith

/-! ## Doubles next to each other -/

/-- A double as its significand and the exponent of its last bit. -/
structure IsNormal (x : ℚ) (m e : ℤ) : Prop where
  eq : x = m * 2 ^ e
  exponent : -1074 ≤ e
  lt : |m| < 2 ^ 53
  le : e ≠ -1074 → 2 ^ 52 ≤ |m|

theorem isNormal_round (q : ℚ) : ∃ m e, IsNormal (round q) m e := by
  by_cases hq : q = 0
  · refine ⟨0, -1074, ?_, le_refl _, by norm_num, fun h => absurd rfl h⟩
    rw [hq, round_zero]
    norm_num
  have hhigh := abs_significand_le q
  have hlow : exponent q ≠ -1074 → 2 ^ 52 ≤ |roundHalfEven (q / 2 ^ exponent q)| := by
    intro h
    refine le_abs_roundHalfEven (le_of_eq_of_le ?_ (le_abs_div hq h))
    norm_num
  have he := neg_1074_le_exponent q
  unfold round
  generalize roundHalfEven (q / 2 ^ exponent q) = r at hhigh hlow ⊢
  generalize exponent q = e at hlow he ⊢
  rcases hhigh.lt_or_eq with hlt | heq
  · exact ⟨r, e, rfl, he, hlt, hlow⟩
  -- a significand of 54 bits is twice one of 53
  · obtain ⟨n, hn⟩ : ∃ n, r = 2 * n := by
      rcases abs_choice r with hr | hr
      · exact ⟨2 ^ 52, by omega⟩
      · exact ⟨-2 ^ 52, by omega⟩
    refine ⟨n, e + 1, ?_, by omega, ?_, fun _ => ?_⟩
    · rw [hn, zpow_add_one₀ (by norm_num)]
      push_cast
      ring
    · rw [hn, abs_mul] at heq
      norm_num at heq ⊢
      omega
    · rw [hn, abs_mul] at heq
      norm_num at heq ⊢
      omega

/-- Below a double that is not the least with its exponent there is none nearer than its last bit. -/
theorem IsNormal.le_sub {m e : ℤ} (hx : IsNormal x m e) (hm : m ≠ 2 ^ 52) (hy : IsDouble y) (hlt : y < x) :
    2 ^ e ≤ x - y := by
  obtain ⟨m', e', hm', he', rfl⟩ := hy
  have hpos := two_zpow_pos e
  by_cases hle : e ≤ e'
  · obtain ⟨n, hn⟩ := exists_eq_mul_of_le m' hle
    rw [hn, hx.eq] at hlt ⊢
    have hint : n + 1 ≤ m := by
      have := (mul_lt_mul_iff_left₀ hpos).mp hlt
      exact_mod_cast this
    have hint' : ((n + 1 : ℤ) : ℚ) ≤ m := by exact_mod_cast hint
    push_cast at hint'
    nlinarith
  · obtain ⟨hlo, hhi⟩ := abs_le.mp (abs_finer_le hm' (not_le.mp hle))
    have hfull := hx.le (by have := hx.exponent; omega)
    rw [two_zpow_add] at hlo hhi
    generalize (2 ^ 52 : ℤ) = b at hfull hm hlo hhi
    rw [hx.eq] at hlt ⊢
    rcases abs_cases m with ⟨habs, hsign⟩ | ⟨habs, hsign⟩
    · have hint : b + 1 ≤ m := by omega
      have hint' : ((b + 1 : ℤ) : ℚ) ≤ m := by exact_mod_cast hint
      push_cast at hint'
      nlinarith
    · have hint : m ≤ -b := by omega
      have hint' : (m : ℚ) ≤ ((-b : ℤ) : ℚ) := by exact_mod_cast hint
      push_cast at hint'
      nlinarith

/-! ## Decimals -/

/-- `k` units of the eighth decimal are as near to `x` as any number of them. -/
def IsNearest8 (x : ℚ) (k : ℤ) : Prop := ∀ j : ℤ, |k / 10 ^ 8 - x| ≤ |j / 10 ^ 8 - x|

theorem isNearest8_decimals8 (x : ℚ) : IsNearest8 x (decimals8 x) := by
  intro j
  have hscale : ∀ r : ℤ, |(r : ℚ) / 10 ^ 8 - x| = |r - x * 10 ^ 8| / 10 ^ 8 := by
    intro r
    have hunit : (r : ℚ) / 10 ^ 8 - x = (r - x * 10 ^ 8) / 10 ^ 8 := by ring
    rw [hunit, abs_div, abs_of_pos (show (0 : ℚ) < 10 ^ 8 by norm_num)]
  rw [hscale, hscale]
  exact div_le_div_of_nonneg_right (abs_roundHalfEven_sub_le_int _ j) (by norm_num)

/-- What is nearest to `a` below it, is within half a step of it. -/
theorem two_mul_sub_le {a b h : ℚ} (hlt : b < a) (hnear : |b - a| ≤ |b + h - a|) (hpos : 0 < h) :
    2 * (a - b) ≤ h := by
  rw [abs_sub_comm, abs_of_pos (by linarith)] at hnear
  rcases abs_cases (b + h - a) with ⟨habs, -⟩ | ⟨habs, -⟩ <;> linarith

/-- The double after a normal one is a last bit away. -/
theorem IsNormal.isDouble_add {m e : ℤ} (hm : IsNormal x m e) : IsDouble (x + 2 ^ e) := by
  refine ⟨m + 1, e, ?_, hm.exponent, ?_⟩
  · exact (abs_add_le m 1).trans (Int.add_one_le_iff.mpr hm.lt)
  · rw [hm.eq]
    push_cast
    ring

/-- Two decimals are a unit of the eighth apart. -/
theorem decimal_le_sub {k n : ℤ} (hlt : (k : ℚ) / 10 ^ 8 < n / 10 ^ 8) :
    1 / 10 ^ 8 ≤ (n : ℚ) / 10 ^ 8 - k / 10 ^ 8 := by
  have hkn : k + 1 ≤ n := by
    rw [div_lt_div_iff_of_pos_right (by norm_num)] at hlt
    exact_mod_cast hlt
  have hkn' : ((k + 1 : ℤ) : ℚ) ≤ n := by exact_mod_cast hkn
  push_cast at hkn'
  rw [← sub_div]
  exact div_le_div_of_nonneg_right (by linarith) (by norm_num)

/-- A power of two that is an integer is a decimal. -/
theorem exists_decimal_two_zpow {e : ℤ} (he : 0 ≤ 52 + e) :
    ∃ j : ℤ, (2 : ℚ) ^ (52 + e) = (j : ℚ) / 10 ^ 8 := by
  obtain ⟨j, hj⟩ := Int.eq_ofNat_of_zero_le he
  refine ⟨2 ^ j * 10 ^ 8, ?_⟩
  rw [hj, zpow_natCast]
  push_cast
  ring

/-- A double between two decimals is the nearest to the nearer one, when it is the nearest to the other. -/
theorem not_between {n k m e : ℤ} (hx : IsNearest (n / 10 ^ 8) x) (hm : IsNormal x m e) (hk : IsNearest8 x k)
    (hy : IsDouble y) (hle : |y - k / 10 ^ 8| ≤ |x - k / 10 ^ 8|) (hlt : x < n / 10 ^ 8) (hgt : k / 10 ^ 8 < x) :
    ¬ y < x := by
  intro hyx
  -- the next double is not nearer to the decimal above, and the next decimal not to the double
  have hnext : 2 * (n / 10 ^ 8 - x) ≤ 2 ^ e := two_mul_sub_le hlt (hx.le _ hm.isDouble_add) (two_zpow_pos e)
  have hhalf : 2 * (x - k / 10 ^ 8) ≤ 1 / 10 ^ 8 := by
    have hnear := hk (k + 1)
    have hsucc : ((k + 1 : ℤ) : ℚ) / 10 ^ 8 = k / 10 ^ 8 + 1 / 10 ^ 8 := by
      push_cast
      ring
    rw [hsucc] at hnear
    exact two_mul_sub_le hgt hnear (by norm_num)
  have hstep := decimal_le_sub (hgt.trans hlt)
  have hnear := hk n
  rw [abs_sub_comm, abs_of_pos (by linarith), abs_of_pos (by linarith)] at hnear
  -- so the last bit is at least a decimal
  have hbit : 1 / 10 ^ 8 ≤ (2 : ℚ) ^ e := by linarith
  have he : -26 ≤ e := by
    by_contra hlt
    have hsmall : (2 : ℚ) ^ e ≤ 2 ^ (-27 : ℤ) := zpow_le_zpow_right₀ (by norm_num) (by omega)
    have hfalse := hbit.trans hsmall
    norm_num at hfalse
  by_cases hpow : m = 2 ^ 52
  · -- then the double is an integer, which is a decimal itself
    obtain ⟨j, hj⟩ := exists_decimal_two_zpow (show 0 ≤ 52 + e by omega)
    have hxj : x = (j : ℚ) / 10 ^ 8 := by
      rw [← hj, hm.eq, hpow, two_zpow_add]
    have hexact := hk j
    rw [← hxj, sub_self, abs_zero, abs_sub_comm, abs_of_pos (by linarith)] at hexact
    linarith
  · -- else the decimal is at most a bit above the double before it, but a power of two is none
    have hbelow := hm.le_sub hpow hy hyx
    rw [abs_of_pos (show 0 < x - k / 10 ^ 8 by linarith)] at hle
    have hyk := (abs_le.mp hle).1
    have hlarge : (2 : ℚ) ^ (-26 : ℤ) ≤ 2 ^ e := zpow_le_zpow_right₀ (by norm_num) he
    have hsmall : (2 : ℚ) ^ e ≤ 1 / 10 ^ 8 := by linarith
    have hfalse := hlarge.trans hsmall
    norm_num at hfalse

/-- The same when the decimal is above the double. -/
theorem eq_of_lt {n k m e : ℤ} (hx : IsNearest (n / 10 ^ 8) x) (hm : IsNormal x m e) (hk : IsNearest8 x k)
    (hy : IsNearest (k / 10 ^ 8) y) (hkn : k ≠ n) (hlt : x < n / 10 ^ 8) : y = x := by
  have hle := hy.le x hx.isDouble
  have hge := hx.le y hy.isDouble
  have hnear := hk n
  have hne : (k : ℚ) / 10 ^ 8 ≠ n / 10 ^ 8 := by
    rw [Ne, div_left_inj' (by norm_num), Int.cast_inj]
    exact hkn
  have hno := not_between hx hm hk hy.isDouble hle hlt
  rw [abs_sub_comm x, abs_of_pos (show 0 < (n : ℚ) / 10 ^ 8 - x by linarith)] at hge
  rw [abs_of_pos (show 0 < (n : ℚ) / 10 ^ 8 - x by linarith)] at hnear
  generalize (k : ℚ) / 10 ^ 8 = q' at *
  generalize (n : ℚ) / 10 ^ 8 = q at *
  obtain ⟨hlo, hhi⟩ := abs_le.mp hnear
  rcases lt_trichotomy q' x with hlt' | heq | hgt'
  · -- on the other side of the double
    rw [abs_of_pos (sub_pos.mpr hlt')] at hle
    obtain ⟨-, hyx⟩ := abs_le.mp hle
    exact le_antisymm (by linarith) (not_lt.mp (hno hlt'))
  · rw [heq, sub_self, abs_zero] at hle
    exact sub_eq_zero.mp (abs_nonpos_iff.mp hle)
  · -- on the same side, no farther than the other decimal
    rw [abs_sub_comm x, abs_of_pos (sub_pos.mpr hgt')] at hle
    obtain ⟨hyx, hyx'⟩ := abs_le.mp hle
    rcases le_abs.mp hge with hfar | hfar
    · exact absurd (by linarith) hne
    · linarith

/-! ## The other direction -/

theorem IsDouble.neg (h : IsDouble x) : IsDouble (-x) := by
  obtain ⟨m, e, hm, he, rfl⟩ := h
  refine ⟨-m, e, by rwa [abs_neg], he, ?_⟩
  push_cast
  ring

theorem IsNearest.neg (h : IsNearest q x) : IsNearest (-q) (-x) := by
  refine ⟨h.isDouble.neg, fun d hd => ?_⟩
  have hle := h.le (-d) hd.neg
  rw [← abs_neg (-x - -q), ← abs_neg (d - -q)]
  convert hle using 2 <;> ring

theorem IsNormal.neg {m e : ℤ} (h : IsNormal x m e) : IsNormal (-x) (-m) e := by
  refine ⟨?_, h.exponent, by rw [abs_neg]; exact h.lt, by rw [abs_neg]; exact h.le⟩
  rw [h.eq]
  push_cast
  ring

theorem neg_div_decimal (k : ℤ) : -((k : ℚ) / 10 ^ 8) = ((-k : ℤ) : ℚ) / 10 ^ 8 := by
  push_cast
  ring

theorem IsNearest8.neg {k : ℤ} (h : IsNearest8 x k) : IsNearest8 (-x) (-k) := by
  intro j
  have hle := h (-j)
  rw [← neg_div_decimal] at hle ⊢
  have hk : -((k : ℚ) / 10 ^ 8) - -x = -(k / 10 ^ 8 - x) := by ring
  have hj : (j : ℚ) / 10 ^ 8 - -x = -(-(j / 10 ^ 8) - x) := by ring
  rw [hk, hj, abs_neg, abs_neg]
  exact hle

/-- **Writing a double with eight decimals and reading it gives it back**, when it is the double of a number with
eight decimals. -/
theorem round_of_isNearest8 {n k : ℤ} (hk : IsNearest8 (round (n / 10 ^ 8)) k) :
    round (k / 10 ^ 8) = round (n / 10 ^ 8) := by
  by_cases hkn : k = n
  · rw [hkn]
  obtain ⟨m, e, hm⟩ := isNormal_round (n / 10 ^ 8)
  have hx := isNearest_round (n / 10 ^ 8)
  have hy := isNearest_round (k / 10 ^ 8)
  generalize round (k / 10 ^ 8) = y at hy ⊢
  generalize round (n / 10 ^ 8) = x at hk hm hx ⊢
  rcases lt_trichotomy x (n / 10 ^ 8) with hlt | heq | hgt
  · exact eq_of_lt hx hm hk hy hkn hlt
  · -- the double is the decimal, which is the only one as near
    have hexact := hk n
    rw [← heq, sub_self, abs_zero] at hexact
    have hsame := sub_eq_zero.mp (abs_nonpos_iff.mp hexact)
    rw [heq, div_left_inj' (by norm_num), Int.cast_inj] at hsame
    exact absurd hsame hkn
  · have hx' := hx.neg
    have hy' := hy.neg
    rw [neg_div_decimal] at hx' hy'
    have hlt : -x < ((-n : ℤ) : ℚ) / 10 ^ 8 := by
      rw [← neg_div_decimal]
      exact neg_lt_neg hgt
    exact neg_injective (eq_of_lt hx' hm.neg hk.neg hy' (by omega) hlt)

end Binary64
