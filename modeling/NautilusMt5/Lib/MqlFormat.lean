import NautilusMt5.Lib.Binary64

/-!
# `StringFormat` of MQL5

A format is split at its directives (`formatParts`), the texts of the arguments go between the parts. Integers are
written in decimal, doubles with eight decimals, and with any number of them by `DoubleToString`.
-/

namespace Mql

/-- The text between the directives of a format, each of which ends with one of the letters; `directive` when the text
starts inside one. -/
def formatParts (directive : Bool) : List Char → List (List Char)
  | [] => [[]]
  | c :: s =>
    if directive then formatParts (c ∉ ['d', 's', 'u', 'f']) s
    else if c = '%' then [] :: formatParts true s
    else (formatParts false s).modifyHead (c :: ·)

/-- The parts with the arguments between them. -/
def fillIn : List (List Char) → List (List Char) → List Char
  | part :: parts, arg :: args => part ++ (arg ++ fillIn parts args)
  | parts, _ => parts.flatten

/-- `StringFormat(format, ...)`, with the arguments as they are written. -/
def stringFormat (format : List Char) (args : List (List Char)) : List Char := fillIn (formatParts false format) args

/-- `%I64d`, `%d` and `%u`. -/
def formatInt (z : ℤ) : List Char := (if z < 0 then ['-'] else []) ++ Nat.toDigits 10 z.natAbs

/-- The last `k` digits. -/
def lastDigits : ℕ → ℕ → List Char
  | 0, _ => []
  | k + 1, n => lastDigits k (n / 10) ++ [Nat.digitChar (n % 10)]

/-- `%.8f`. -/
def formatFixed8 (x : ℚ) : List Char :=
  let units := (Binary64.decimals8 |x|).toNat
  (if x < 0 then ['-'] else []) ++ (Nat.toDigits 10 (units / 10 ^ 8) ++ '.' :: lastDigits 8 (units % 10 ^ 8))

/-- `DoubleToString(x, digits)`. -/
def doubleToString (x : ℚ) (digits : ℕ) : List Char :=
  let units := (Binary64.roundHalfEven (|x| * 10 ^ digits)).toNat
  let point := if digits = 0 then [] else '.' :: lastDigits digits (units % 10 ^ digits)
  (if x < 0 then ['-'] else []) ++ (Nat.toDigits 10 (units / 10 ^ digits) ++ point)

/-- `(long)n`, of an `ulong`. -/
def asLong (n : ℕ) : ℤ := Int.bmod n (2 ^ 64)

/-- A number of type `long`. -/
def IsLong (z : ℤ) : Prop := -2 ^ 63 ≤ z ∧ z < 2 ^ 63

instance : DecidablePred IsLong := fun _ => inferInstanceAs (Decidable (_ ∧ _))

theorem length_lastDigits (k n : ℕ) : (lastDigits k n).length = k := by
  induction k generalizing n with
  | zero => rfl
  | succ k ih => rw [lastDigits, List.length_append, ih, List.length_singleton]

theorem isDigit_of_mem_lastDigits {k n : ℕ} {c : Char} (h : c ∈ lastDigits k n) : c.isDigit = true := by
  induction k generalizing n with
  | zero => cases h
  | succ k ih =>
    rcases List.mem_append.mp h with h | h
    · exact ih h
    · rw [List.mem_singleton.mp h, Nat.isDigit_digitChar, decide_eq_true_iff]
      exact Nat.mod_lt n (by decide)

/-- The last digits count as many units. -/
theorem ofDigitChars_lastDigits (k n a : ℕ) : Nat.ofDigitChars 10 (lastDigits k n) a = a * 10 ^ k + n % 10 ^ k := by
  induction k generalizing n with
  | zero => simp [lastDigits, Nat.mod_one]
  | succ k ih =>
    have hlt : n % 10 < 10 := Nat.mod_lt n (by decide)
    rw [lastDigits, Nat.ofDigitChars_append, ih, Nat.ofDigitChars_cons_digitChar_of_lt_ten hlt, Nat.ofDigitChars_nil,
      pow_succ', Nat.mod_mul]
    ring

/-! ## The characters of numbers -/

theorem mem_formatInt {z : ℤ} {c : Char} (h : c ∈ formatInt z) : c = '-' ∨ c.isDigit = true := by
  unfold formatInt at h
  rcases List.mem_append.mp h with h | h
  · split_ifs at h with hz
    · exact .inl (List.mem_singleton.mp h)
    · cases h
  · exact .inr (Nat.isDigit_of_mem_toDigits (by decide) (by decide) h)

theorem formatInt_ne_nil (z : ℤ) : formatInt z ≠ [] := by
  intro h
  exact Nat.toDigits_ne_nil (List.append_eq_nil_iff.mp h).2

theorem mem_doubleToString {x : ℚ} {digits : ℕ} {c : Char} (h : c ∈ doubleToString x digits) :
    c = '-' ∨ c = '.' ∨ c.isDigit = true := by
  unfold doubleToString at h
  rcases List.mem_append.mp h with h | h
  · split_ifs at h with hx
    · exact .inl (List.mem_singleton.mp h)
    · cases h
  · rcases List.mem_append.mp h with h | h
    · exact .inr (.inr (Nat.isDigit_of_mem_toDigits (by decide) (by decide) h))
    · split_ifs at h with hdigits
      · cases h
      · rcases List.mem_cons.mp h with h | h
        · exact .inr (.inl h)
        · exact .inr (.inr (isDigit_of_mem_lastDigits h))

theorem not_mem_formatInt {c : Char} (hdigit : c.isDigit = false) (hsign : c ≠ '-') (z : ℤ) : c ∉ formatInt z := by
  intro h
  rcases mem_formatInt h with rfl | h
  · exact hsign rfl
  · rw [hdigit] at h
    cases h

theorem not_mem_doubleToString {c : Char} (hdigit : c.isDigit = false) (hsign : c ≠ '-') (hpoint : c ≠ '.') (x : ℚ)
    (digits : ℕ) : c ∉ doubleToString x digits := by
  intro h
  rcases mem_doubleToString h with rfl | rfl | h
  · exact hsign rfl
  · exact hpoint rfl
  · rw [hdigit] at h
    cases h

theorem point_mem_doubleToString (x : ℚ) {digits : ℕ} (h : digits ≠ 0) : '.' ∈ doubleToString x digits := by
  refine List.mem_append_right _ (List.mem_append_right _ ?_)
  rw [if_neg h]
  exact List.mem_cons_self

theorem doubleToString_ne_nil (x : ℚ) (digits : ℕ) : doubleToString x digits ≠ [] := by
  intro h
  exact Nat.toDigits_ne_nil (List.append_eq_nil_iff.mp (List.append_eq_nil_iff.mp h).2).1

theorem isLong_asLong (n : ℕ) : IsLong (asLong n) := by
  unfold IsLong asLong
  have hlo := Int.le_bmod (x := (n : ℤ)) (m := 2 ^ 64) (by norm_num)
  have hhi := Int.bmod_lt (x := (n : ℤ)) (m := 2 ^ 64) (by norm_num)
  omega

theorem asLong_of_lt {n : ℕ} (h : n < 2 ^ 63) : asLong n = n := by
  unfold asLong
  rw [Int.bmod_eq_of_le] <;> omega

end Mql
