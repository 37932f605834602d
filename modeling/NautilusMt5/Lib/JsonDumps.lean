import Mathlib.Data.List.Basic
import Mathlib.Data.Nat.Notation

/-!
# `json.dumps`

Strings, lists and objects as `json.dumps` writes them with `separators=(",", ":")`. By default the text is ASCII:
whatever is not printable there is escaped (`printable_escapeAscii`).
-/

namespace Py

/-- The characters that `json.dumps` writes as they are, but for `"` and the backslash. -/
def Printable (c : Char) : Prop := ' ' ≤ c ∧ c ≤ '~'

instance : DecidablePred Printable := fun _ => inferInstanceAs (Decidable (_ ∧ _))

/-- A test of every character of a text. -/
theorem forall_mem_of_all {p : Char → Prop} [DecidablePred p] {s : List Char} (h : (s.all fun c => p c) = true) :
    ∀ c ∈ s, p c := by simpa using h

/-- Four hexadecimal digits. -/
def hex4 (n : ℕ) : List Char :=
  [Nat.digitChar (n / 4096 % 16), Nat.digitChar (n / 256 % 16), Nat.digitChar (n / 16 % 16), Nat.digitChar (n % 16)]

/-- The escape of a character by its code, a pair of surrogates where four digits do not do. -/
def unicodeEscape (n : ℕ) : List Char :=
  if n < 0x10000 then '\\' :: 'u' :: hex4 n
  else '\\' :: 'u' :: hex4 (0xd800 + (n - 0x10000) / 0x400) ++ '\\' :: 'u' :: hex4 (0xdc00 + (n - 0x10000) % 0x400)

/-- `py_encode_basestring_ascii`, for a character. -/
def escapeAscii (c : Char) : List Char :=
  match c with
  | '\\' => ['\\', '\\']
  | '"' => ['\\', '"']
  | '\n' => ['\\', 'n']
  | '\r' => ['\\', 'r']
  | '\t' => ['\\', 't']
  | '\x0c' => ['\\', 'f']
  | '\x08' => ['\\', 'b']
  | c => if Printable c then [c] else unicodeEscape c.toNat

/-- A string. -/
def dumpsStr (s : List Char) : List Char := '"' :: (s.flatMap escapeAscii ++ ['"'])

/-- A list of values that are written already. -/
def dumpsList (items : List (List Char)) : List Char := '[' :: ([','].intercalate items ++ [']'])

/-- An object, by its keys and the values that are written already. -/
def dumpsDict (members : List (List Char × List Char)) : List Char :=
  '{' :: ([','].intercalate (members.map fun m => dumpsStr m.1 ++ ':' :: m.2) ++ ['}'])

theorem printable_digitChar (n : ℕ) : Printable (Nat.digitChar (n % 16)) := by
  have hall : ∀ m < 16, Printable (Nat.digitChar m) := by decide
  exact hall _ (Nat.mod_lt n (by decide))

theorem printable_hex4 (n : ℕ) : ∀ c ∈ hex4 n, Printable c := by
  simp [hex4, printable_digitChar]

theorem printable_unicodeEscape (n : ℕ) : ∀ c ∈ unicodeEscape n, Printable c := by
  have hb : Printable '\\' := by decide
  have hu : Printable 'u' := by decide
  intro c hc
  unfold unicodeEscape at hc
  split_ifs at hc
  · rcases List.mem_cons.mp hc with rfl | hc
    · exact hb
    · rcases List.mem_cons.mp hc with rfl | hc
      · exact hu
      · exact printable_hex4 _ c hc
  · simp only [List.cons_append, List.mem_cons, List.mem_append] at hc
    rcases hc with rfl | rfl | hc | rfl | rfl | hc
    · exact hb
    · exact hu
    · exact printable_hex4 _ c hc
    · exact hb
    · exact hu
    · exact printable_hex4 _ c hc

/-- What is written for a character is printable ASCII. -/
theorem printable_escapeAscii (c : Char) : ∀ d ∈ escapeAscii c, Printable d := by
  unfold escapeAscii
  split
  all_goals first
    | exact forall_mem_of_all (by decide)
    | skip
  split_ifs with hp
  · exact List.forall_mem_singleton.mpr hp
  · exact printable_unicodeEscape c.toNat

/-- A printable character but `"` and the backslash is written as it is. -/
theorem escapeAscii_eq_self {c : Char} (hp : Printable c) (hq : c ≠ '"') (hb : c ≠ '\\') : escapeAscii c = [c] := by
  unfold escapeAscii
  split
  · exact absurd rfl hb
  · exact absurd rfl hq
  all_goals first
    | exact absurd hp (by decide)
    | exact if_pos hp

/-- A word that needs no escape is only put between quotes. -/
theorem dumpsStr_of_plain {s : List Char} (h : ∀ c ∈ s, Printable c ∧ c ≠ '"' ∧ c ≠ '\\') :
    dumpsStr s = '"' :: (s ++ ['"']) := by
  have hmap : s.flatMap escapeAscii = s := by
    induction s with
    | nil => rfl
    | cons c s ih =>
      obtain ⟨⟨hp, hq, hb⟩, hs⟩ := List.forall_mem_cons.mp h
      rw [List.flatMap_cons, escapeAscii_eq_self hp hq hb, ih hs]
      rfl
  rw [dumpsStr, hmap]

/-- What is joined stands one after the other, all but the first behind a separator. -/
theorem intercalate_cons (separator : Char) (first : List Char) (parts : List (List Char)) :
    [separator].intercalate (first :: parts) = first ++ parts.flatMap (separator :: ·) := by
  induction parts generalizing first with
  | nil => simp
  | cons part parts ih =>
    rw [List.intercalate_cons_cons, ih, List.flatMap_cons]
    simp

/-- The members of an object stand one after the other. -/
theorem dumpsDict_cons (key value : List Char) (more : List (List Char × List Char)) :
    dumpsDict ((key, value) :: more) =
      '{' :: (dumpsStr key ++
        ':' :: (value ++ (more.flatMap (fun m => ',' :: (dumpsStr m.1 ++ ':' :: m.2)) ++ ['}']))) := by
  rw [dumpsDict, List.map_cons, intercalate_cons, List.flatMap_map]
  simp

/-- Without quotes, what is printable is written with the same characters. -/
theorem mem_of_mem_escapeAscii {c d : Char} (hp : Printable c) (hq : c ≠ '"') (hd : d ∈ escapeAscii c) : d = c := by
  by_cases hb : c = '\\'
  · subst hb
    rcases List.mem_cons.mp hd with rfl | hd
    · rfl
    · exact List.mem_singleton.mp hd
  · rw [escapeAscii_eq_self hp hq hb] at hd
    exact List.mem_singleton.mp hd

theorem escapeAscii_ne_nil (c : Char) : escapeAscii c ≠ [] := by
  unfold escapeAscii
  split
  all_goals first
    | exact List.cons_ne_nil _ _
    | skip
  unfold unicodeEscape
  split_ifs <;> exact List.cons_ne_nil _ _

/-- A string without quotes is written as it is only if it has no backslash. -/
theorem flatMap_escapeAscii_eq_self_iff {s : List Char} (h : ∀ c ∈ s, Printable c ∧ c ≠ '"') :
    s.flatMap escapeAscii = s ↔ '\\' ∉ s := by
  have hlen : ∀ s : List Char, s.length ≤ (s.flatMap escapeAscii).length := by
    intro s
    induction s with
    | nil => exact Nat.le_refl 0
    | cons c s ih =>
      have hpos := List.length_pos_iff.mpr (escapeAscii_ne_nil c)
      rw [List.flatMap_cons, List.length_append, List.length_cons]
      omega
  induction s with
  | nil => simp
  | cons c s ih =>
    obtain ⟨⟨hp, hq⟩, hs⟩ := List.forall_mem_cons.mp h
    by_cases hb : c = '\\'
    · -- a backslash is written as two, and nothing gets shorter
      refine iff_of_false (fun heq => ?_) fun hno => hno (hb ▸ List.mem_cons_self)
      have hlong := congrArg List.length heq
      have hrest := hlen s
      subst hb
      rw [List.flatMap_cons, List.length_append, List.length_cons] at hlong
      change 2 + _ = _ at hlong
      omega
    · rw [List.flatMap_cons, escapeAscii_eq_self hp hq hb, List.singleton_append, List.cons.injEq, List.mem_cons,
      not_or]
      exact ⟨fun heq => ⟨Ne.symm hb, (ih hs).mp heq.2⟩, fun hno => ⟨rfl, (ih hs).mpr hno.2⟩⟩

end Py
