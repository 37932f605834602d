import NautilusMt5.Lib.PyFloat
import Mathlib.Data.List.Basic

/-!
# JSON values

What `json.loads` makes of a text: the values of Python that a JSON text can stand for. An object lists its members in
the order of the text; a key that comes twice has its last value (`Json.lookup`).
-/

namespace Py

/-- A value that `json.loads` returns. -/
inductive Json
  | null
  | bool (b : Bool)
  | int (n : ℤ)
  | float (x : PyFloat)
  | str (s : String)
  | list (items : List Json)
  | dict (members : List (String × Json))
  deriving Repr

namespace Json

/-- `d.get(key)` of the dict with these members; the last member of a key counts. -/
def lookup (key : String) (members : List (String × Json)) : Option Json :=
  (members.reverse.find? fun m => m.1 = key).map Prod.snd

/-- `bool(value)`. -/
def truthy : Json → Bool
  | .null => false
  | .bool b => b
  | .int n => decide (n ≠ 0)
  | .float x => decide (x ≠ 0)
  | .str s => decide (s ≠ "")
  | .list items => !items.isEmpty
  | .dict members => !members.isEmpty

@[simp] theorem truthy_str (s : String) : (Json.str s).truthy = true ↔ s ≠ "" := decide_eq_true_iff

@[simp] theorem lookup_nil (key : String) : lookup key [] = none := rfl

/-- A later member of the key hides an earlier one. -/
theorem lookup_cons (key : String) (m : String × Json) (members : List (String × Json)) :
    lookup key (m :: members) = (lookup key members).or (if m.1 = key then some m.2 else none) := by
  unfold lookup
  rw [List.reverse_cons, List.find?_append]
  cases members.reverse.find? fun m => m.1 = key with
  | some m' => rfl
  | none =>
    by_cases hm : m.1 = key
    · simp [hm]
    · simp [hm]

end Json

end Py
