import Mathlib.Data.List.Basic
import Mathlib.Data.String.Basic

/-!
# Python strings

`strip` takes the blanks off both ends; a string that neither starts nor ends with one keeps all of itself
(`strip_eq_self`). `splitOnce` is `split` at the first occurrence of a character. What `upper` makes of other letters
than those of ASCII is left open.
-/

namespace Py

/-- `c.isspace()`. -/
def isSpace (c : Char) : Bool :=
  let n := c.toNat
  (9 ≤ n && n ≤ 13) || (28 ≤ n && n ≤ 32) || n == 0x85 || n == 0xA0 || n == 0x1680 || (0x2000 ≤ n && n ≤ 0x200A) ||
    n == 0x2028 || n == 0x2029 || n == 0x202F || n == 0x205F || n == 0x3000

/-- `s.strip()`. -/
def strip (s : String) : String :=
  String.ofList ((s.toList.dropWhile isSpace).reverse.dropWhile isSpace).reverse

/-- `s.split(c, 1)`, when `c` is in `s`. -/
def splitOnce (c : Char) (s : String) : Option (String × String) :=
  if c ∈ s.toList then
    some (String.ofList (s.toList.takeWhile (· ≠ c)), String.ofList (s.toList.dropWhile (· ≠ c)).tail)
  else none

/-- `str.upper`. A text of capitals and digits of ASCII stays as it is. -/
structure Upper where
  toFun : String → String
  of_capitals : ∀ s : String, (∀ c ∈ s.toList, c.isUpper ∨ c.isDigit) → toFun s = s

instance : CoeFun Upper fun _ => String → String := ⟨Upper.toFun⟩

/-- `str.upper`, as far as ASCII goes. -/
def Upper.ascii : Upper where
  toFun := String.toUpper
  of_capitals s h := by
    have hchar : ∀ c ∈ s.toList, c.toUpper = c := by
      intro c hc
      refine dif_neg ?_
      rintro ⟨hlow, -⟩
      rcases h c hc with hup | hdig
      · have hle : c.val ≤ 'Z'.val := (of_decide_eq_true hup).2
        exact absurd (UInt32.le_trans hlow hle) (by decide)
      · have hle : c.val ≤ '9'.val := by simpa using (Bool.and_eq_true_iff.mp hdig).2
        exact absurd (UInt32.le_trans hlow hle) (by decide)
    rw [← String.toList_inj, String.toUpper, String.toList_map, List.map_congr_left hchar, List.map_id']

/-- There is a blank at neither end. -/
def Trimmed (s : String) : Prop :=
  (∀ c, s.toList.head? = some c → isSpace c = false) ∧ ∀ c, s.toList.getLast? = some c → isSpace c = false

theorem dropWhile_eq_self {α : Type*} {p : α → Bool} {l : List α} (h : ∀ a, l.head? = some a → p a = false) :
    l.dropWhile p = l := by
  cases l with
  | nil => rfl
  | cons a l => rw [List.dropWhile_cons, h a rfl, if_neg Bool.false_ne_true]

theorem strip_eq_self {s : String} (h : Trimmed s) : strip s = s := by
  have hlast : ∀ c, s.toList.reverse.head? = some c → isSpace c = false := by
    intro c hc
    rw [List.head?_reverse] at hc
    exact h.2 c hc
  rw [strip, dropWhile_eq_self h.1, dropWhile_eq_self hlast, List.reverse_reverse, String.ofList_toList]

theorem takeWhile_append_cons {α : Type*} {p : α → Bool} {l r : List α} {a : α} (hl : ∀ b ∈ l, p b = true)
    (ha : p a = false) : (l ++ a :: r).takeWhile p = l := by
  rw [List.takeWhile_append_of_pos hl, List.takeWhile_cons, ha, if_neg Bool.false_ne_true, List.append_nil]

theorem dropWhile_append_cons {α : Type*} {p : α → Bool} {l r : List α} {a : α} (hl : ∀ b ∈ l, p b = true)
    (ha : p a = false) : (l ++ a :: r).dropWhile p = a :: r := by
  rw [List.dropWhile_append_of_pos hl, List.dropWhile_cons, ha, if_neg Bool.false_ne_true]

/-- What is joined with a character that the first part does not have is split there. -/
theorem splitOnce_join {c : Char} {s t : String} (h : c ∉ s.toList) :
    splitOnce c (s ++ String.singleton c ++ t) = some (s, t) := by
  have hlist : (s ++ String.singleton c ++ t).toList = s.toList ++ c :: t.toList := by
    simp
  have hs : ∀ b ∈ s.toList, decide (b ≠ c) = true := by
    intro b hb
    rw [decide_eq_true_iff]
    rintro rfl
    exact h hb
  have hc : decide (c ≠ c) = false := by
    rw [decide_eq_false_iff_not]
    exact fun hne => hne rfl
  rw [splitOnce, hlist, if_pos (List.mem_append_right _ List.mem_cons_self), takeWhile_append_cons hs hc,
    dropWhile_append_cons hs hc, List.tail_cons, String.ofList_toList, String.ofList_toList]

end Py
