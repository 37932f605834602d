import NautilusMt5.Lib.Mql

/-!
# Reading commands at the Service (`NT5FeedWire.mqh`)

The Service does not parse JSON: it searches the text for the quoted name of a field and takes what follows, up to the
next quote or bracket, and it splits an array at its commas. `extractStringField_of_split` and
`extractStringArray_of_split` say what comes out of a text by where the characters that count come first.
-/

namespace NautilusMt5

open Mql

/-- `NT5ExtractJsonStringField`; `none` when it returns false. -/
def nt5ExtractJsonStringField (json field : List Char) : Option (List Char) := do
  let pos ← stringFind json ('"' :: (field ++ ['"'])) 0
  let pos ← stringFind json [':'] pos
  let pos ← stringFind json ['"'] (pos + 1)
  let stop ← stringFind json ['"'] (pos + 1)
  return stringSubstr json (pos + 1) (stop - pos - 1)

/-- `NT5ParseWireOp`. -/
def nt5ParseWireOp (json : List Char) : Option (List Char) := nt5ExtractJsonStringField json "op".toList

/-- The loop over the parts in `NT5ExtractJsonStringArray`: quotes are taken out, empty parts are left out. -/
def arrayItems (parts : List (List Char)) : List (List Char) :=
  (parts.map fun part => stringReplace part '"' []).filter (· ≠ [])

/-- `NT5ExtractJsonStringArray`; `none` when it returns false. -/
def nt5ExtractJsonStringArray (json field : List Char) : Option (List (List Char)) := do
  let pos ← stringFind json ('"' :: (field ++ ['"'])) 0
  let pos ← stringFind json ['['] pos
  let stop ← stringFind json [']'] pos
  let inner := stringReplace (stringSubstr json (pos + 1) (stop - pos - 1)) ' ' []
  if inner = [] then return []
  return arrayItems (stringSplit inner ',')

variable {json field before after gap value rest inner : List Char}

/-- The value of a field: after the quoted name and a gap up to the first colon, what is between the next two quotes. -/
theorem extractStringField_of_split (before mid rest : List Char)
    (hjson : json = before ++ ('"' :: (field ++ '"' :: gap) ++ ':' :: (mid ++ '"' :: (value ++ '"' :: rest))))
    (hfind : indexOf ('"' :: (field ++ ['"'])) json = some before.length)
    (hcolon : ':' ∉ '"' :: (field ++ '"' :: gap)) (hmid : '"' ∉ mid) (hvalue : '"' ∉ value) :
    nt5ExtractJsonStringField json field = some value := by
  generalize '"' :: (field ++ '"' :: gap) = head at hjson hcolon
  -- the three searches, each from where the one before ended
  have hcolonAt : stringFind json [':'] before.length = some (before.length + head.length) := by
    rw [hjson]
    exact stringFind_char rfl hcolon _
  have hquoteAt : stringFind json ['"'] (before.length + head.length + 1) =
      some (before.length + head.length + 1 + mid.length) := by
    have hsplit : json = (before ++ head ++ [':']) ++ (mid ++ '"' :: (value ++ '"' :: rest)) := by simp [hjson]
    rw [hsplit]
    exact stringFind_char (by simp only [List.length_append, List.length_singleton]) hmid _
  have hsplit : json = (before ++ head ++ [':'] ++ mid ++ ['"']) ++ (value ++ '"' :: rest) := by simp [hjson]
  have hlen : (before ++ head ++ [':'] ++ mid ++ ['"']).length = before.length + head.length + 1 + mid.length + 1 := by
    simp only [List.length_append, List.length_singleton]
  have hendAt : stringFind json ['"'] (before.length + head.length + 1 + mid.length + 1) =
      some (before.length + head.length + 1 + mid.length + 1 + value.length) := by
    rw [hsplit]
    exact stringFind_char hlen hvalue _
  have hsub : stringSubstr json (before.length + head.length + 1 + mid.length + 1) value.length = value := by
    rw [hsplit, ← hlen]
    exact stringSubstr_append _ value _
  rw [nt5ExtractJsonStringField, stringFind_zero, hfind]
  simp only [Option.bind_eq_bind, Option.bind_some, hcolonAt, hquoteAt, hendAt]
  rw [show ∀ n m : ℕ, n + 1 + m - n - 1 = m from fun n m => by omega, hsub]
  rfl

/-- The items of an array: after the quoted name and a gap up to the first bracket, what is before the next closing
bracket. -/
theorem extractStringArray_of_split
    (hjson : json = before ++ ('"' :: (field ++ '"' :: gap) ++ '[' :: (inner ++ ']' :: rest)))
    (hfind : indexOf ('"' :: (field ++ ['"'])) json = some before.length)
    (hopen : '[' ∉ '"' :: (field ++ '"' :: gap)) (hinner : ']' ∉ inner) :
    nt5ExtractJsonStringArray json field = some (arrayItems (stringSplit (stringReplace inner ' ' []) ',')) := by
  generalize '"' :: (field ++ '"' :: gap) = head at hjson hopen
  have hopenAt : stringFind json ['['] before.length = some (before.length + head.length) := by
    rw [hjson]
    exact stringFind_char rfl hopen _
  have hcloseAt : stringFind json [']'] (before.length + head.length) =
      some (before.length + head.length + (inner.length + 1)) := by
    have hsplit : json = (before ++ head) ++ ('[' :: inner ++ ']' :: rest) := by simp [hjson]
    have hclose : ']' ∉ '[' :: inner := List.not_mem_cons_of_ne_of_not_mem (by decide) hinner
    rw [hsplit]
    exact stringFind_char List.length_append hclose _
  have hsub : stringSubstr json (before.length + head.length + 1) inner.length = inner := by
    have hsplit : json = (before ++ head ++ ['[']) ++ (inner ++ ']' :: rest) := by simp [hjson]
    have hlen : (before ++ head ++ ['[']).length = before.length + head.length + 1 := by
      simp only [List.length_append, List.length_singleton]
    rw [hsplit, ← hlen]
    exact stringSubstr_append _ inner _
  rw [nt5ExtractJsonStringArray, stringFind_zero, hfind]
  simp only [Option.bind_eq_bind, Option.bind_some, hopenAt, hcloseAt]
  rw [show ∀ n m : ℕ, n + (m + 1) - n - 1 = m from fun n m => by omega, hsub]
  split_ifs with hnil
  · rw [hnil]
    rfl
  · rfl

end NautilusMt5
