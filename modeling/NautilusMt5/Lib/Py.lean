import Mathlib.Algebra.GroupWithZero.Defs
import Mathlib.Data.Int.Notation
import Mathlib.Tactic.SplitIfs

/-!
# Python exceptions and dict fields

An exception is its class, as far as a handler tells classes apart, and its text. A field of a dict that comes from
outside is `none` when the key is missing, and otherwise what the conversion of its value gives or raises.
-/

namespace Py

/-- An exception. `valueError` and `runtimeError` include their subclasses; `other` has the name of its class. -/
inductive Error
  | valueError (msg : String)
  | runtimeError (msg : String)
  | attributeError (msg : String)
  | typeError (msg : String)
  | other (cls : String) (msg : String)
  deriving DecidableEq, Repr

/-- `except ValueError` catches it. -/
def Error.IsValueError : Error → Prop
  | .valueError _ => True
  | _ => False

instance : DecidablePred Error.IsValueError
  | .valueError _ => .isTrue trivial
  | .runtimeError _ | .attributeError _ | .typeError _ | .other _ _ => .isFalse id

/-- The call raises a `ValueError`. -/
def RaisesValueError {α : Type} (x : Except Error α) : Prop := ∃ msg, x = .error (.valueError msg)

@[simp] theorem raisesValueError_ok {α : Type} (a : α) : ¬ RaisesValueError (.ok a : Except Error α) := by
  rintro ⟨msg, h⟩
  cases h

theorem raisesValueError_error {α : Type} {e : Error} :
    RaisesValueError (.error e : Except Error α) ↔ e.IsValueError := by
  constructor
  · rintro ⟨msg, h⟩
    cases h
    trivial
  · intro h
    cases e with
    | valueError msg => exact ⟨msg, rfl⟩
    | _ => exact h.elim

/-- `s.rsplit(c, 1)[0]`: what is before the last `c`, the whole string without one. -/
def rsplitHead (c : Char) (s : String) : String :=
  if c ∈ s.toList then String.ofList (s.toList.reverse.dropWhile (· ≠ c)).tail.reverse else s

theorem rsplitHead_of_not_mem {c : Char} {s : String} (h : c ∉ s.toList) : rsplitHead c s = s := if_neg h

theorem rsplitHead_eq_self {c : Char} {s : String} : rsplitHead c s = s ↔ c ∉ s.toList := by
  refine ⟨fun h hmem => ?_, rsplitHead_of_not_mem⟩
  rw [rsplitHead, if_pos hmem] at h
  have hlen := congrArg (fun t : String => t.toList.length) h
  have hpos := List.length_pos_of_mem hmem
  have hle := (List.dropWhile_sublist (· ≠ c) (l := s.toList.reverse)).length_le
  simp only [String.toList_ofList, List.length_reverse, List.length_tail] at hlen hle
  omega

/-- What was written behind a separator is split off when it has none itself. -/
theorem rsplitHead_append {c : Char} {s t : String} (ht : c ∉ t.toList) :
    rsplitHead c (s ++ String.singleton c ++ t) = s := by
  have hlist : (s ++ String.singleton c ++ t).toList = s.toList ++ c :: t.toList := by simp
  have htail : ∀ x ∈ t.toList.reverse, decide (x ≠ c) = true := fun x hx => by
    have hne : x ≠ c := fun h => ht (h ▸ List.mem_reverse.mp hx)
    simpa using hne
  have hdrop : (t.toList.reverse ++ c :: s.toList.reverse).dropWhile (· ≠ c) = c :: s.toList.reverse := by
    rw [List.dropWhile_append_of_pos htail]
    simp
  rw [rsplitHead, if_pos (by rw [hlist]; simp), hlist]
  rw [List.reverse_append, List.reverse_cons, List.append_assoc, List.singleton_append, hdrop]
  simp

/-- What is not a digit or a sign is not in the text of a number. -/
theorem not_mem_toString {c : Char} (hdigit : c.isDigit = false) (hsign : c ≠ '-') (n : ℤ) :
    c ∉ (toString n).toList := by
  have hnat : ∀ m : ℕ, c ∉ m.repr.toList := by
    intro m hm
    rw [Nat.toList_repr] at hm
    simpa [hdigit] using Nat.isDigit_of_mem_toDigits (by decide) (by decide) hm
  rw [Int.toString_eq_repr, Int.repr_eq_if]
  split_ifs
  · exact hnat _
  · rw [String.toList_append, List.mem_append]
    exact not_or.mpr ⟨by simpa using hsign, hnat _⟩

/-- A sequence of calls returns when each of them does. -/
theorem bind_eq_ok {ε α β : Type} {x : Except ε α} {f : α → Except ε β} {b : β} :
    (x >>= f) = .ok b ↔ ∃ a, x = .ok a ∧ f a = .ok b := by
  rcases x with e | a <;> simp [bind, Except.bind]

/-- A sequence of calls raises what the first of them raises that does. -/
theorem bind_eq_error {ε α β : Type} {x : Except ε α} {f : α → Except ε β} {e : ε} :
    (x >>= f) = .error e ↔ x = .error e ∨ ∃ a, x = .ok a ∧ f a = .error e := by
  rcases x with e' | a <;> simp [bind, Except.bind]

/-- A decimal number. -/
def natOfDigits (l : List Char) : Option ℕ :=
  if l = [] then none
  else l.foldlM (fun n c => if c.isDigit then some (10 * n + (c.toNat - '0'.toNat)) else none) 0

/-- `int(s)` for a string without blanks and underscores: an optional sign and a decimal number. -/
def intOfStr (s : String) : Except Error ℤ :=
  let value : Option ℤ :=
    match s.toList with
    | '-' :: l => (natOfDigits l).map fun n => -(n : ℤ)
    | '+' :: l => (natOfDigits l).map fun n => (n : ℤ)
    | l => (natOfDigits l).map fun n => (n : ℤ)
  match value with
  | none => .error (.valueError ("invalid literal for int() with base 10: '" ++ s ++ "'"))
  | some n => .ok n

/-- A field of a dict: `none` without the key, else the converted value or the exception of the conversion. -/
abbrev DictField (α : Type) := Option (Except Error α)

namespace DictField

variable {α : Type}

/-- `convert(row.get(key, default))`. -/
def getD (f : DictField α) (default : α) : Except Error α := Option.getD f (.ok default)

@[simp] theorem getD_none (a : α) : getD (none : DictField α) a = .ok a := rfl

@[simp] theorem getD_some (x : Except Error α) (a : α) : getD (some x) a = x := rfl

/-- `f or g`: a missing value and zero are falsy, a value that does not convert is not. -/
def orElse [Zero α] [DecidableEq α] (f g : DictField α) : DictField α :=
  match f with
  | none => g
  | some (.ok a) => if a = 0 then g else some (.ok a)
  | some (.error e) => some (.error e)

variable [Zero α] [DecidableEq α]

@[simp] theorem orElse_none (g : DictField α) : orElse none g = g := rfl

@[simp] theorem orElse_zero (g : DictField α) : orElse (some (.ok 0)) g = g := if_pos rfl

theorem orElse_of_ne {a : α} (g : DictField α) (h : a ≠ 0) : orElse (some (.ok a)) g = some (.ok a) := if_neg h

/-- With a default of zero behind it, `or` only skips values that the default stands for. -/
theorem getD_orElse_none (a : α) : getD (orElse (some (.ok a)) none) 0 = .ok a := by
  by_cases h : a = 0
  · subst h
    simp
  · rw [orElse_of_ne _ h, getD_some]

end DictField

end Py
