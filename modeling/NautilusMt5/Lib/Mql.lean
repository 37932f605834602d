import Mathlib.Data.List.Basic
import NautilusMt5.Lib.Separators

/-!
# Strings of MQL5

A string is the list of its characters. `stringFind` searches from a position and gives a position; the lemmas give it
for texts that are written as a concatenation: the first occurrence of a character (`indexOf_char`), and of a word
between quotes in a text whose other words are between quotes, too (`indexOf_quoted`).
-/

namespace Mql

/-- The position of the first occurrence of `needle`. -/
def indexOf (needle : List Char) : List Char → Option ℕ
  | [] => if needle = [] then some 0 else none
  | c :: s => if needle.isPrefixOf (c :: s) then some 0 else (indexOf needle s).map (· + 1)

/-- `StringFind(s, needle, start)`; `none` for -1. -/
def stringFind (s needle : List Char) (start : ℕ) : Option ℕ := (indexOf needle (s.drop start)).map (· + start)

/-- `StringSubstr(s, pos, length)`. -/
def stringSubstr (s : List Char) (pos length : ℕ) : List Char := (s.drop pos).take length

/-- `StringReplace(s, find, replacement)` for a character. -/
def stringReplace (s : List Char) (find : Char) (replacement : List Char) : List Char :=
  s.flatMap fun c => if c = find then replacement else [c]

/-- `StringSplit(s, separator, parts)`. -/
def stringSplit (s : List Char) (separator : Char) : List (List Char) := s.splitOn separator

variable {a b s w : List Char} {c q : Char} {n : ℕ}

/-! ## The first occurrence -/

theorem indexOf_of_prefix {needle : List Char} (h : needle <+: s) : indexOf needle s = some 0 := by
  cases s with
  | nil =>
    rw [List.prefix_nil.mp h]
    rfl
  | cons c s =>
    rw [indexOf, if_pos (List.isPrefixOf_iff_prefix.mpr h)]

/-- What does not have the first character of the needle is passed over. -/
theorem indexOf_append (h : q ∉ a) (s : List Char) :
    indexOf (q :: w) (a ++ s) = (indexOf (q :: w) s).map (· + a.length) := by
  induction a with
  | nil => simp
  | cons c a ih =>
    obtain ⟨hc, ha⟩ := not_or.mp (List.mem_cons.not.mp h)
    have hno : ¬ (q :: w).isPrefixOf (c :: (a ++ s)) = true := by
      rw [List.isPrefixOf_iff_prefix, List.cons_prefix_cons]
      exact fun hp => hc hp.1
    rw [List.cons_append, indexOf, if_neg hno, ih ha, Option.map_map]
    congr 1

theorem indexOf_char (h : c ∉ a) (b : List Char) : indexOf [c] (a ++ c :: b) = some a.length := by
  have hpre : [c] <+: c :: b := List.prefix_append [c] b
  rw [indexOf_append h, indexOf_of_prefix hpre, Option.map_some, Nat.zero_add]

/-- The word before the first quote is given by the text. -/
theorem word_eq_of_append_eq {u x y : List Char} (hu : q ∉ u) (hw : q ∉ w) (h : u ++ q :: x = w ++ q :: y) : u = w := by
  induction u generalizing w with
  | nil =>
    cases w with
    | nil => rfl
    | cons c w => exact absurd (List.cons.inj h).1 fun hc => hw (hc ▸ List.mem_cons_self)
  | cons d u ih =>
    obtain ⟨hd, hu⟩ := not_or.mp (List.mem_cons.not.mp hu)
    cases w with
    | nil => exact absurd (List.cons.inj h).1.symm hd
    | cons c w =>
      obtain ⟨rfl, ht⟩ := List.cons.inj h
      rw [ih hu (fun hm => hw (List.mem_cons_of_mem d hm)) ht]

/-- A string that has a character is split at its first occurrence. -/
theorem eq_takeWhile_append (h : c ∈ s) : ∃ b, s = s.takeWhile (· ≠ c) ++ c :: b := by
  induction s with
  | nil => cases h
  | cons d s ih =>
    by_cases hd : d = c
    · subst hd
      exact ⟨s, by simp⟩
    · obtain ⟨b, hb⟩ := ih ((List.mem_cons.mp h).resolve_left (Ne.symm hd))
      refine ⟨b, ?_⟩
      rw [List.takeWhile_cons_of_pos (by simpa using hd), List.cons_append, ← hb]

/-- Among words between quotes, the needle between quotes is found where its word is. -/
theorem indexOf_quoted (first w : List Char) {words : List (List Char)} (hf : q ∉ first) (hq : ∀ u ∈ words, q ∉ u)
    (hw : q ∉ w) (hne : w ∉ words) (rest : List Char) :
    indexOf (q :: (w ++ [q])) (first ++ words.flatMap (q :: ·) ++ q :: (w ++ q :: rest)) =
      some (first ++ words.flatMap (q :: ·)).length := by
  induction words generalizing first with
  | nil =>
    have hpre : q :: (w ++ [q]) <+: q :: (w ++ q :: rest) := by simp
    rw [List.flatMap_nil, List.append_nil, indexOf_append hf, indexOf_of_prefix hpre, Option.map_some, Nat.zero_add]
  | cons u words ih =>
    obtain ⟨hqu, hqs⟩ := List.forall_mem_cons.mp hq
    obtain ⟨hwu, hws⟩ := not_or.mp (List.mem_cons.not.mp hne)
    -- the word after the first quote is another one
    have hno : ¬ (q :: (w ++ [q])).isPrefixOf (q :: (u ++ words.flatMap (q :: ·) ++ q :: (w ++ q :: rest))) = true := by
      rw [List.isPrefixOf_iff_prefix, List.cons_prefix_cons]
      rintro ⟨-, t, ht⟩
      obtain ⟨y, hy⟩ : ∃ y, words.flatMap (q :: ·) ++ q :: (w ++ q :: rest) = q :: y := by
        cases words with
        | nil => exact ⟨_, rfl⟩
        | cons v words => exact ⟨_, rfl⟩
      rw [List.append_assoc, List.append_assoc, hy, List.singleton_append] at ht
      exact hwu (word_eq_of_append_eq hw hqu ht)
    rw [List.flatMap_cons, List.append_assoc, List.cons_append, List.cons_append, indexOf_append hf, indexOf,
      if_neg hno, ih u hqu hqs hws]
    simp
    omega

/-! ## Positions -/

theorem stringFind_append (a s needle : List Char) :
    stringFind (a ++ s) needle a.length = (indexOf needle s).map (· + a.length) := by
  rw [stringFind, List.drop_left]

theorem stringFind_zero (s needle : List Char) : stringFind s needle 0 = indexOf needle s := by
  simp [stringFind]

/-- The next occurrence of a character from a position on. -/
theorem stringFind_char {pos : ℕ} (hpos : a.length = pos) (h : c ∉ b) (s : List Char) :
    stringFind (a ++ (b ++ c :: s)) [c] pos = some (pos + b.length) := by
  rw [← hpos, stringFind_append, indexOf_char h, Option.map_some, Nat.add_comm]

theorem stringSubstr_append (a b s : List Char) : stringSubstr (a ++ (b ++ s)) a.length b.length = b := by
  rw [stringSubstr, List.drop_left, List.take_left]

/-! ## Replacing and splitting -/

theorem stringReplace_eq_self {r : List Char} (h : c ∉ s) : stringReplace s c r = s := by
  unfold stringReplace
  induction s with
  | nil => rfl
  | cons d s ih =>
    obtain ⟨hd, hs⟩ := not_or.mp (List.mem_cons.not.mp h)
    rw [List.flatMap_cons, if_neg (Ne.symm hd), ih hs]
    rfl

@[simp] theorem stringReplace_append (a b r : List Char) (c : Char) :
    stringReplace (a ++ b) c r = stringReplace a c r ++ stringReplace b c r := List.flatMap_append

/-- Removing a character removes it everywhere, and nothing else. -/
theorem mem_stringReplace_nil {d : Char} : d ∈ stringReplace s c [] ↔ d ∈ s ∧ d ≠ c := by
  unfold stringReplace
  rw [List.mem_flatMap]
  constructor
  · rintro ⟨e, he, hd⟩
    split_ifs at hd with hec
    · cases hd
    · rw [List.mem_singleton.mp hd]
      exact ⟨he, hec⟩
  · rintro ⟨hd, hne⟩
    exact ⟨d, hd, by simp [hne]⟩

/-- The parts of a split have characters of the string, but not the separator. -/
theorem mem_of_mem_stringSplit {part : List Char} {d : Char} (hp : part ∈ stringSplit s c) (hd : d ∈ part) :
    d ∈ s ∧ d ≠ c := Separators.mem_of_mem_splitOn hp hd

end Mql
