import Mathlib.Data.List.Nodup

/-!
# Dictionaries in insertion order

A `Dict` lists its entries in the order in which their keys first came in; no key comes twice. `get?` after `set` and
`pop` is given by `get?_set` and `get?_pop`, membership of a key by `mem_keys`. `keyOf?` looks a key up by its value:
where no two keys share a value it is the inverse of `get?` (`keyOf?_eq_some`).
-/

/-- A dictionary that lists its keys in the order of their insertion. -/
@[ext] structure Dict (κ ν : Type*) where
  entries : List (κ × ν)
  nodup : (entries.map Prod.fst).Nodup

namespace Dict

variable {κ ν : Type*}

instance [DecidableEq κ] [DecidableEq ν] : DecidableEq (Dict κ ν) := fun a b =>
  decidable_of_iff (a.entries = b.entries) ⟨fun h => Dict.ext h, fun h => by rw [h]⟩

def empty : Dict κ ν := ⟨[], List.nodup_nil⟩

instance : Inhabited (Dict κ ν) := ⟨empty⟩

def keys (d : Dict κ ν) : List κ := d.entries.map Prod.fst

def values (d : Dict κ ν) : List ν := d.entries.map Prod.snd

@[simp] theorem keys_empty : (empty : Dict κ ν).keys = [] := rfl

variable [DecidableEq κ]

def get? (d : Dict κ ν) (k : κ) : Option ν := (d.entries.find? (fun e => e.1 = k)).map Prod.snd

theorem keys_replace (k : κ) (v : ν) (l : List (κ × ν)) :
    (l.map (fun e => if e.1 = k then (k, v) else e)).map Prod.fst = l.map Prod.fst := by
  rw [List.map_map]
  refine List.map_congr_left (fun e _ => ?_)
  by_cases h : e.1 = k <;> simp [h]

/-- `d[k] = v`: an old key keeps its place, a new one comes last. -/
def set (d : Dict κ ν) (k : κ) (v : ν) : Dict κ ν :=
  if h : k ∈ d.keys then ⟨d.entries.map (fun e => if e.1 = k then (k, v) else e), by rw [keys_replace]; exact d.nodup⟩
  else ⟨d.entries ++ [(k, v)], by
    rw [List.map_append, List.nodup_append]
    refine ⟨d.nodup, List.nodup_singleton k, fun a ha b hb => ?_⟩
    rw [List.mem_singleton.1 hb]
    rintro rfl
    exact h ha⟩

/-- `d.pop(k, None)`. -/
def pop (d : Dict κ ν) (k : κ) : Dict κ ν :=
  ⟨d.entries.filter (fun e => e.1 ≠ k), List.Nodup.sublist (List.Sublist.map _ List.filter_sublist) d.nodup⟩

@[simp] theorem get?_empty (k : κ) : (empty : Dict κ ν).get? k = none := rfl

/-- A key is in the dictionary iff it has a value. -/
theorem mem_keys {d : Dict κ ν} {k : κ} : k ∈ d.keys ↔ ∃ v, d.get? k = some v := by
  unfold keys get?
  cases hf : d.entries.find? (fun e => e.1 = k) with
  | none =>
    rw [List.find?_eq_none] at hf
    simp only [List.mem_map, Option.map_none, reduceCtorEq, exists_false, iff_false, not_exists, not_and]
    intro e he hk
    exact hf e he (by simpa using hk)
  | some e =>
    have hk : e.1 = k := by simpa using List.find?_some hf
    simp only [Option.map_some, Option.some.injEq, exists_eq', iff_true]
    exact hk ▸ List.mem_map_of_mem (List.mem_of_find?_eq_some hf)

theorem get?_eq_none {d : Dict κ ν} {k : κ} : d.get? k = none ↔ k ∉ d.keys := by
  rw [mem_keys]
  cases d.get? k <;> simp

/-- An entry is what its key looks up. -/
theorem get?_eq_some {d : Dict κ ν} {k : κ} {v : ν} : d.get? k = some v ↔ (k, v) ∈ d.entries := by
  unfold get?
  constructor
  · intro h
    obtain ⟨e, he, rfl⟩ := Option.map_eq_some_iff.1 h
    have hk : e.1 = k := by simpa using List.find?_some he
    rw [← hk]
    exact List.mem_of_find?_eq_some he
  · intro h
    cases hf : d.entries.find? (fun e => e.1 = k) with
    | none => exact absurd (List.find?_eq_none.1 hf (k, v) h) (by simp)
    | some e =>
      have hk : e.1 = k := by simpa using List.find?_some hf
      -- no key comes twice, so both entries are the same
      have := List.inj_on_of_nodup_map d.nodup (List.mem_of_find?_eq_some hf) h hk
      rw [this]; rfl

theorem mem_values {d : Dict κ ν} {v : ν} : v ∈ d.values ↔ ∃ k, d.get? k = some v := by
  simp only [values, List.mem_map, get?_eq_some, Prod.exists, exists_eq_right]

theorem get?_set (d : Dict κ ν) (k k' : κ) (v : ν) : (d.set k v).get? k' = if k' = k then some v else d.get? k' := by
  refine Option.ext (fun u => ?_)
  rw [get?_eq_some]
  unfold set
  split
  · rename_i hk
    simp only [List.mem_map, Prod.exists]
    by_cases hkk : k' = k
    · subst hkk
      obtain ⟨w, hw⟩ := mem_keys.1 hk
      constructor
      · rintro ⟨a, b, _, hab⟩
        by_cases ha : a = k' <;> simp_all
      · intro hu
        refine ⟨k', w, get?_eq_some.1 hw, ?_⟩
        simp_all
    · rw [if_neg hkk, get?_eq_some]
      constructor
      · rintro ⟨a, b, hm, hab⟩
        by_cases ha : a = k
        · simp_all
        · simp_all
      · intro hm
        exact ⟨k', u, hm, by simp [hkk]⟩
  · rename_i hk
    simp only [List.mem_append, List.mem_singleton, Prod.mk.injEq]
    by_cases hkk : k' = k
    · subst hkk
      have hno : (k', u) ∉ d.entries := fun hm => hk (List.mem_map_of_mem (f := Prod.fst) hm)
      simp [hno, eq_comm]
    · rw [if_neg hkk, get?_eq_some]
      simp [hkk]

theorem get?_pop (d : Dict κ ν) (k k' : κ) : (d.pop k).get? k' = if k' = k then none else d.get? k' := by
  refine Option.ext (fun u => ?_)
  by_cases hkk : k' = k
  · simp [get?_eq_some, pop, hkk]
  · rw [if_neg hkk, get?_eq_some, get?_eq_some]
    simp [pop, hkk]

theorem keys_set_of_not_mem {d : Dict κ ν} {k : κ} (h : k ∉ d.keys) (v : ν) : (d.set k v).keys = d.keys ++ [k] := by
  unfold set
  rw [dif_neg h]
  simp [keys]

theorem values_set_of_not_mem {d : Dict κ ν} {k : κ} (h : k ∉ d.keys) (v : ν) :
    (d.set k v).values = d.values ++ [v] := by
  unfold set
  rw [dif_neg h]
  simp [values]

theorem values_pop_sublist (d : Dict κ ν) (k : κ) : (d.pop k).values.Sublist d.values :=
  List.Sublist.map _ List.filter_sublist

theorem keys_pop (d : Dict κ ν) (k : κ) : (d.pop k).keys = d.keys.filter (· ≠ k) := by
  simp only [keys, pop, List.filter_map]
  rfl

theorem pop_of_not_mem {d : Dict κ ν} {k : κ} (h : k ∉ d.keys) : d.pop k = d := by
  refine Dict.ext (List.filter_eq_self.mpr fun e he => ?_)
  have hne : e.1 ≠ k := fun hk => h (hk ▸ List.mem_map_of_mem he)
  simpa using hne

/-- A new key taken out again. -/
theorem pop_set_of_not_mem {d : Dict κ ν} {k : κ} (h : k ∉ d.keys) (v : ν) : (d.set k v).pop k = d := by
  have hset : (d.set k v).entries = d.entries ++ [(k, v)] := by
    unfold set
    rw [dif_neg h]
  have hpop : (d.set k v).pop k = d.pop k := Dict.ext (by simp [pop, hset])
  rw [hpop, pop_of_not_mem h]

/-- A dictionary is what its keys and its lookups are. -/
theorem ext_keys {d d' : Dict κ ν} (hk : d.keys = d'.keys) (h : ∀ k, d.get? k = d'.get? k) : d = d' := by
  refine Dict.ext (List.ext_getElem (by simpa [keys] using congrArg List.length hk) fun i hi hi' => ?_)
  have hkey : (d.entries[i]).1 = (d'.entries[i]).1 := by
    have hget := List.getElem_of_eq hk (by simpa [keys] using hi)
    simpa [keys] using hget
  have hi1 : d.get? (d.entries[i]).1 = some (d.entries[i]).2 := get?_eq_some.mpr (List.getElem_mem hi)
  have hi2 : d'.get? (d'.entries[i]).1 = some (d'.entries[i]).2 := get?_eq_some.mpr (List.getElem_mem hi')
  rw [h, hkey, hi2] at hi1
  exact Prod.ext hkey (Option.some.inj hi1).symm

theorem keys_set_of_mem {d : Dict κ ν} {k : κ} (h : k ∈ d.keys) (v : ν) : (d.set k v).keys = d.keys := by
  unfold set
  rw [dif_pos h]
  exact keys_replace k v d.entries

/-- Setting what is there changes nothing. -/
theorem set_of_get? {d : Dict κ ν} {k : κ} {v : ν} (h : d.get? k = some v) : d.set k v = d := by
  refine ext_keys (keys_set_of_mem (mem_keys.mpr ⟨v, h⟩) v) fun k' => ?_
  rw [get?_set]
  split_ifs with hk
  · rw [hk, h]
  · rfl

/-! ## Many entries at once -/

/-- `for k, v in entries: d[k] = v`. -/
def setAll (d : Dict κ ν) (l : List (κ × ν)) : Dict κ ν := l.foldl (fun d e => d.set e.1 e.2) d

@[simp] theorem setAll_nil (d : Dict κ ν) : d.setAll [] = d := rfl

@[simp] theorem setAll_cons (d : Dict κ ν) (e : κ × ν) (l : List (κ × ν)) :
    d.setAll (e :: l) = (d.set e.1 e.2).setAll l := rfl

theorem setAll_append (d : Dict κ ν) (l l' : List (κ × ν)) : d.setAll (l ++ l') = (d.setAll l).setAll l' :=
  List.foldl_append

theorem entries_set_of_not_mem {d : Dict κ ν} {k : κ} (h : k ∉ d.keys) (v : ν) :
    (d.set k v).entries = d.entries ++ [(k, v)] := by
  unfold set
  rw [dif_neg h]

/-- New keys come last, in their order. -/
theorem entries_setAll {d : Dict κ ν} {l : List (κ × ν)} (h : (d.keys ++ l.map Prod.fst).Nodup) :
    (d.setAll l).entries = d.entries ++ l := by
  induction l generalizing d with
  | nil => simp
  | cons e l ih =>
    have hk : e.1 ∉ d.keys := fun hm => (List.nodup_append.mp h).2.2 e.1 hm e.1 (by simp) rfl
    have hkeys : (d.set e.1 e.2).keys = d.keys ++ [e.1] := keys_set_of_not_mem hk e.2
    rw [setAll_cons, ih (by simpa [hkeys] using h), entries_set_of_not_mem hk]
    simp

/-- Whatever is set under other keys leaves the entries at the front alone, and adds only what is set. -/
theorem entries_setAll_append {d : Dict κ ν} {l a b : List (κ × ν)} (h : d.entries = a ++ b)
    (hl : ∀ e ∈ l, e.1 ∉ a.map Prod.fst) :
    ∃ c, (d.setAll l).entries = a ++ c ∧ ∀ e ∈ c, e ∈ b ∨ e ∈ l := by
  induction l generalizing d b with
  | nil => exact ⟨b, h, fun e he => .inl he⟩
  | cons e l ih =>
    have he := hl e List.mem_cons_self
    obtain ⟨b', hb', hm⟩ : ∃ b', (d.set e.1 e.2).entries = a ++ b' ∧ ∀ x ∈ b', x ∈ b ∨ x = e := by
      by_cases hk : e.1 ∈ d.keys
      · refine ⟨b.map (fun x => if x.1 = e.1 then (e.1, e.2) else x), ?_, ?_⟩
        · unfold set
          rw [dif_pos hk]
          simp only [h, List.map_append]
          congr 1
          rw [List.map_eq_iff]
          intro i
          cases hi : a[i]? with
          | none => simp
          | some x =>
            have hx : x.1 ≠ e.1 := fun hx => he (hx ▸ List.mem_map_of_mem (List.mem_of_getElem? hi))
            simp [hx]
        · intro x hx
          obtain ⟨y, hy, rfl⟩ := List.mem_map.mp hx
          by_cases hye : y.1 = e.1
          · exact .inr (if_pos hye)
          · exact .inl (by rwa [if_neg hye])
      · refine ⟨b ++ [e], ?_, ?_⟩
        · rw [entries_set_of_not_mem hk, h, List.append_assoc]
        · intro x hx
          simpa using hx
    obtain ⟨c, hc, hcm⟩ := ih hb' fun x hx => hl x (List.mem_cons_of_mem e hx)
    refine ⟨c, hc, fun x hx => ?_⟩
    rcases hcm x hx with hx | hx
    · rcases hm x hx with hx | rfl
      · exact .inl hx
      · exact .inr List.mem_cons_self
    · exact .inr (List.mem_cons_of_mem e hx)

/-- `for v in l: d.setdefault(key(v), []).append(v)`. -/
def groupBy (key : ν → κ) (l : List ν) : Dict κ (List ν) :=
  l.foldl (fun d v => d.set (key v) ((d.get? (key v)).getD [] ++ [v])) empty

/-- A group has the values of its key, in their order. -/
theorem get?_groupBy (key : ν → κ) (l : List ν) (k : κ) :
    ((groupBy key l).get? k).getD [] = l.filter (fun v => key v = k) := by
  have hfold : ∀ (l : List ν) (d : Dict κ (List ν)),
      ((l.foldl (fun d v => d.set (key v) ((d.get? (key v)).getD [] ++ [v])) d).get? k).getD [] =
        (d.get? k).getD [] ++ l.filter (fun v => key v = k) := by
    intro l
    induction l with
    | nil => simp
    | cons v l ih =>
      intro d
      rw [List.foldl_cons, ih, get?_set]
      by_cases hk : k = key v
      · rw [if_pos hk, hk, List.filter_cons_of_pos (by simp)]
        simp
      · rw [if_neg hk, List.filter_cons_of_neg (by simpa using Ne.symm hk)]
  exact hfold l empty

/-! ## Looking a key up by its value -/

section KeyOf

variable [DecidableEq ν]

/-- The first key whose value is `v`. -/
def keyOf? (d : Dict κ ν) (v : ν) : Option κ := (d.entries.find? (fun e => e.2 = v)).map Prod.fst

omit [DecidableEq κ] in
theorem keyOf?_eq_none {d : Dict κ ν} {v : ν} : d.keyOf? v = none ↔ v ∉ d.values := by
  unfold keyOf? values
  rw [Option.map_eq_none_iff, List.find?_eq_none]
  simp only [decide_eq_true_eq, Prod.forall, List.mem_map, Prod.exists, exists_eq_right, not_exists]
  exact ⟨fun h a hm => h a v hm rfl, fun h a b hm hb => h a (hb ▸ hm)⟩

theorem get?_of_keyOf? {d : Dict κ ν} {k : κ} {v : ν} (h : d.keyOf? v = some k) : d.get? k = some v := by
  obtain ⟨e, he, rfl⟩ := Option.map_eq_some_iff.1 h
  have hv : e.2 = v := by simpa using List.find?_some he
  rw [get?_eq_some, ← hv]
  exact List.mem_of_find?_eq_some he

/-- Where no value comes twice, `keyOf?` inverts `get?`. -/
theorem keyOf?_eq_some {d : Dict κ ν} (hd : d.values.Nodup) {k : κ} {v : ν} :
    d.keyOf? v = some k ↔ d.get? k = some v := by
  refine ⟨get?_of_keyOf?, fun h => ?_⟩
  cases hk : d.keyOf? v with
  | none => exact absurd (mem_values.2 ⟨k, h⟩) (keyOf?_eq_none.1 hk)
  | some k' =>
    have h' := get?_eq_some.1 (get?_of_keyOf? hk)
    have : (k', v) = (k, v) := List.inj_on_of_nodup_map hd h' (get?_eq_some.1 h) rfl
    rw [(Prod.mk.inj this).1]

end KeyOf

end Dict
