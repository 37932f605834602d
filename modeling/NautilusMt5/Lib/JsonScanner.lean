import NautilusMt5.Lib.JsonLoads
import NautilusMt5.Lib.Raises

/-!
# What the scanner raises and how far it reads

* What `json.loads` raises is a `ValueError` or the `RecursionError` (`loads_raises`).
* What the scanner leaves is behind what it takes (`scanOnce_consumes`), so an array or an object has no more items
  than characters, and the bounds of `scanArray` and `scanObject` cut nothing off (`scanItems_bound`,
  `scanMembers_bound`).
* A text is nested no deeper than it has opening brackets (`not_tooDeep_of_brackets`).
-/

namespace Py.Json

/-- The arrays and objects of the text are nested deeper than the scanner gets. -/
def TooDeep (nesting : ℕ) (text : List Char) : Prop := loads nesting text = .error recursionError

/-- What the scanner may raise. -/
def IsScanError (e : Error) : Prop := e.IsValueError ∨ e = recursionError

@[simp] theorem isValueError_decodeError (reason : String) : (decodeError reason).IsValueError := trivial

@[simp] theorem isScanError_decodeError (reason : String) : IsScanError (decodeError reason) := .inl trivial

/-! ## Strings and numbers -/

theorem scanCodes_raises (s : List Char) : RaisesOnly Error.IsValueError (scanCodes s) := by
  fun_induction scanCodes s <;> simp_all

theorem scanString_raises (s : List Char) : RaisesOnly Error.IsValueError (scanString s) := by
  simp [scanString, scanCodes_raises s]

theorem numberValue_raises (negative : Bool) (digits fraction : List Char) (exponent : Option ℤ) :
    RaisesOnly Error.IsValueError (numberValue negative digits fraction exponent) := by
  unfold numberValue
  split_ifs
  · simp
  · rw [raisesOnly_error]
    trivial
  · simp

theorem scanNumber_raises (s : List Char) : RaisesOnly Error.IsValueError (scanNumber s) := by
  unfold scanNumber
  simp only
  split
  · simp
  · rw [raisesOnly_map]
    exact numberValue_raises _ _ _ _

theorem scanPlain_raises (s : List Char) : RaisesOnly Error.IsValueError (scanPlain s) := by
  unfold scanPlain
  split
  · simp
  · exact scanNumber_raises s

/-! ## Arrays and objects -/

section Containers

variable {value : List Char → Except Error (Json × List Char)}

theorem scanItems_raises (hv : ∀ s, RaisesOnly IsScanError (value s)) (n : ℕ) (s : List Char) :
    RaisesOnly IsScanError (scanItems value n s) := by
  induction n generalizing s with
  | zero => simp [scanItems]
  | succ n ih =>
    unfold scanItems
    rw [raisesOnly_bind]
    refine ⟨hv s, ?_⟩
    rintro ⟨item, s'⟩ -
    simp only
    split
    · simp
    · rw [raisesOnly_bind]
      exact ⟨ih _, fun _ _ => raisesOnly_pure _⟩
    · simp

theorem scanArray_raises (hv : ∀ s, RaisesOnly IsScanError (value s)) (s : List Char) :
    RaisesOnly IsScanError (scanArray value s) := by
  unfold scanArray
  split
  · simp
  · exact scanItems_raises hv _ _

theorem scanMembers_raises (hv : ∀ s, RaisesOnly IsScanError (value s)) (n : ℕ) (s : List Char) :
    RaisesOnly IsScanError (scanMembers value n s) := by
  induction n generalizing s with
  | zero => simp [scanMembers]
  | succ n ih =>
    unfold scanMembers
    split
    · cases ‹n + 1 = _ + 1›
      rw [raisesOnly_bind]
      refine ⟨(scanString_raises _).mono fun _ => .inl, ?_⟩
      rintro ⟨key, s'⟩ -
      simp only
      split
      · rw [raisesOnly_bind]
        refine ⟨hv _, ?_⟩
        rintro ⟨v, s''⟩ -
        simp only
        split
        · simp
        · rw [raisesOnly_bind]
          exact ⟨ih _, fun _ _ => raisesOnly_pure _⟩
        · simp
      · simp
    · simp

theorem scanObject_raises (hv : ∀ s, RaisesOnly IsScanError (value s)) (s : List Char) :
    RaisesOnly IsScanError (scanObject value s) := by
  unfold scanObject
  split
  · simp
  · exact scanMembers_raises hv _ _

end Containers

/-- **The rule of the scanner**: what holds of strings and plain values, where the depth ends, and of arrays and objects
when it holds one level down, holds of every value. -/
theorem scanOnce_rule {P : ℕ → List Char → Except Error (Json × List Char) → Prop}
    (string : ∀ n s, P n ('"' :: s) ((scanString s).map fun r => (.str r.1, r.2)))
    (plain : ∀ n s, P n s (scanPlain s)) (deep : ∀ c s, c = '[' ∨ c = '{' → P 0 (c :: s) (.error recursionError))
    (array : ∀ n s, (∀ t, P n t (scanOnce n t)) →
      P (n + 1) ('[' :: s) ((scanArray (scanOnce n) s).map fun r => (.list r.1, r.2)))
    (object : ∀ n s, (∀ t, P n t (scanOnce n t)) →
      P (n + 1) ('{' :: s) ((scanObject (scanOnce n) s).map fun r => (.dict r.1, r.2))) (n : ℕ) (s : List Char) :
    P n s (scanOnce n s) := by
  induction n generalizing s with
  | zero =>
    unfold scanOnce
    split
    · exact string 0 _
    · exact deep '[' _ (.inl rfl)
    · exact deep '{' _ (.inr rfl)
    · contradiction
    · contradiction
    · exact plain 0 _
  | succ n ih =>
    unfold scanOnce
    split
    · exact string _ _
    · contradiction
    · contradiction
    · cases ‹_ + 1 = _ + 1›
      exact array n _ ih
    · cases ‹_ + 1 = _ + 1›
      exact object n _ ih
    · exact plain _ _

theorem scanOnce_raises (n : ℕ) (s : List Char) : RaisesOnly IsScanError (scanOnce n s) := by
  apply scanOnce_rule (P := fun _ _ x => RaisesOnly IsScanError x)
  case string =>
    intro n s
    rw [raisesOnly_map]
    exact (scanString_raises s).mono fun _ => .inl
  case plain =>
    intro n s
    exact (scanPlain_raises s).mono fun _ => .inl
  case deep =>
    intro c s hc
    exact raisesOnly_error.mpr (.inr rfl)
  case array =>
    intro n s ih
    rw [raisesOnly_map]
    exact scanArray_raises ih s
  case object =>
    intro n s ih
    rw [raisesOnly_map]
    exact scanObject_raises ih s

/-- What `json.loads` raises is a `ValueError` or the `RecursionError`. -/
theorem loads_raises (nesting : ℕ) (text : List Char) : RaisesOnly IsScanError (loads nesting text) := by
  unfold loads
  split_ifs
  · simp
  · rw [raisesOnly_bind]
    refine ⟨scanOnce_raises _ _, ?_⟩
    rintro ⟨v, s⟩ -
    simp only
    split_ifs <;> simp

/-! ## What is left -/

section Consumes

variable {α β : Type} {s s' t : List Char} {c : Char} {x : Except Error (α × List Char)}

/-- `s'` is the end of `s`, behind at least one character. -/
def Behind (s' s : List Char) : Prop := s' <:+ s ∧ s'.length < s.length

theorem Behind.of_cons (h : s' <:+ s) : Behind s' (c :: s) := by
  refine ⟨h.trans (List.suffix_cons c s), ?_⟩
  have hle := h.length_le
  rw [List.length_cons]
  omega

theorem Behind.trans_suffix (h : Behind s' s) (ht : s <:+ t) : Behind s' t :=
  ⟨h.1.trans ht, Nat.lt_of_lt_of_le h.2 ht.length_le⟩

theorem Behind.of_suffix (h : s' <:+ s) (hs : Behind s t) : Behind s' t :=
  ⟨h.trans hs.1, Nat.lt_of_le_of_lt h.length_le hs.2⟩

theorem skipBlanks_suffix (s : List Char) : skipBlanks s <:+ s := List.dropWhile_suffix _

theorem suffix_of_skipBlanks (h : skipBlanks s = c :: s') : Behind s' s := by
  have hs := skipBlanks_suffix s
  rw [h] at hs
  exact (Behind.of_cons List.suffix_rfl).trans_suffix hs

/-- The scanner leaves less than it got. -/
def Consumes (x : Except Error (α × List Char)) (s : List Char) : Prop := ∀ a s', x = .ok (a, s') → Behind s' s

theorem consumes_error (e : Error) : Consumes (.error e : Except Error (α × List Char)) s := by
  intro a s' h
  cases h

theorem consumes_ok {a : α} (h : Behind s' s) : Consumes (.ok (a, s')) s := by
  intro a' t ht
  cases ht
  exact h

theorem Consumes.map (h : Consumes x s) (f : α → β) : Consumes (x.map fun r => (f r.1, r.2)) s := by
  intro b s' hb
  cases x with
  | error e => cases hb
  | ok r =>
    cases hb
    exact h r.1 r.2 rfl

theorem Consumes.of_suffix (h : Consumes x s) (ht : s <:+ t) : Consumes x t := fun a s' ha =>
  (h a s' ha).trans_suffix ht

end Consumes

theorem scanCodes_consumes (s : List Char) : Consumes (scanCodes s) s := by
  fun_induction scanCodes s with
  | case1 => exact consumes_error _
  | case2 s => exact consumes_ok (.of_cons List.suffix_rfl)
  | case3 => exact consumes_error _
  | case4 a b c d s n h ih => exact (ih.map _).of_suffix ⟨['\\', 'u', a, b, c, d], rfl⟩
  | case5 => exact consumes_error _
  | case6 => exact consumes_error _
  | case7 => exact (Consumes.map ‹_› _).of_suffix ⟨['\\', _], rfl⟩
  | case8 => exact consumes_error _
  | case9 => exact consumes_error _
  | case10 c s => exact (Consumes.map ‹_› _).of_suffix ⟨[c], rfl⟩

theorem scanString_consumes (s : List Char) : Consumes (scanString s) s :=
  (scanCodes_consumes s).map fun codes => String.ofList (ofCodes codes)

theorem scanDigits_behind {s digits s' : List Char} (h : scanDigits s = some (digits, s')) : Behind s' s := by
  unfold scanDigits at h
  split at h
  · cases h
    exact .of_cons List.suffix_rfl
  · split_ifs at h with hd
    cases h
    refine ⟨List.dropWhile_suffix _, ?_⟩
    have hlen := congrArg List.length (List.takeWhile_append_dropWhile (p := Char.isDigit) (l := s))
    have hpos := List.length_pos_of_ne_nil hd
    rw [List.length_append] at hlen
    omega

theorem scanFraction_suffix (s : List Char) : (scanFraction s).2 <:+ s := by
  unfold scanFraction
  split
  · split_ifs
    · exact List.suffix_rfl
    · exact (List.dropWhile_suffix _).trans (List.suffix_cons _ _)
  · exact List.suffix_rfl

theorem scanSign_suffix (s : List Char) : (scanSign s).2 <:+ s := by
  unfold scanSign
  split
  · exact List.suffix_cons _ _
  · exact List.suffix_cons _ _
  · exact List.suffix_rfl

theorem scanExponent_suffix (s : List Char) : (scanExponent s).2 <:+ s := by
  unfold scanExponent
  split
  · exact List.suffix_rfl
  · simp only
    split_ifs
    · exact ((List.dropWhile_suffix _).trans (scanSign_suffix _)).trans (List.suffix_cons _ _)
    · exact List.suffix_rfl

theorem scanNumber_consumes (s : List Char) : Consumes (scanNumber s) s := by
  unfold scanNumber
  simp only
  intro v s' h
  split at h
  · cases h
  · rename_i digits rest hdigits
    have hrest : (scanExponent (scanFraction rest).2).2 <:+ rest :=
      (scanExponent_suffix _).trans (scanFraction_suffix rest)
    have hsign : (if s.head? = some '-' then s.tail else s) <:+ s := by
      split_ifs
      · exact List.tail_suffix s
      · exact List.suffix_rfl
    have hbehind := ((scanDigits_behind hdigits).of_suffix hrest).trans_suffix (by simpa using hsign)
    cases hv : numberValue (decide (s.head? = some '-')) digits (scanFraction rest).1
        (scanExponent (scanFraction rest).2).1 with
    | error e => simp [hv, Except.map] at h
    | ok w =>
      simp only [hv, Except.map, Except.ok.injEq, Prod.mk.injEq] at h
      rw [← h.2]
      exact hbehind

theorem scanPlain_consumes (s : List Char) : Consumes (scanPlain s) s := by
  unfold scanPlain
  split
  · rename_i word hword
    have hmem := List.mem_of_find?_eq_some hword
    have hpre : word.1 <+: s := List.isPrefixOf_iff_prefix.mp (by simpa using List.find?_some hword)
    have hpos : ∀ word ∈ words, 0 < word.1.length := by decide
    refine consumes_ok ⟨List.drop_suffix _ _, ?_⟩
    have hle := hpre.length_le
    have hword := hpos word hmem
    rw [List.length_drop]
    omega
  · exact scanNumber_consumes s

section Containers

variable {value : List Char → Except Error (Json × List Char)} (hv : ∀ s, Consumes (value s) s)

include hv

theorem scanItems_consumes (n : ℕ) (s : List Char) : Consumes (scanItems value n s) s := by
  induction n generalizing s with
  | zero => exact consumes_error _
  | succ n ih =>
    intro items s' h
    obtain ⟨⟨item, t⟩, ht, h⟩ := bind_eq_ok.mp h
    simp only at h
    split at h
    · rename_i hclose
      cases h
      exact (hv s item t ht).of_suffix (suffix_of_skipBlanks hclose).1
    · rename_i rest hcomma
      obtain ⟨⟨items', u⟩, hu, h⟩ := bind_eq_ok.mp h
      cases h
      have hrest := (ih (skipBlanks rest) items' u hu).1.trans (skipBlanks_suffix rest)
      exact (hv s item t ht).of_suffix (hrest.trans (suffix_of_skipBlanks hcomma).1)
    · cases h

theorem scanArray_consumes (s : List Char) : Consumes (scanArray value s) s := by
  unfold scanArray
  split
  · rename_i hclose
    exact consumes_ok (suffix_of_skipBlanks hclose)
  · exact (scanItems_consumes hv _ _).of_suffix (skipBlanks_suffix s)

theorem scanMembers_consumes (n : ℕ) (s : List Char) : Consumes (scanMembers value n s) s := by
  induction n generalizing s with
  | zero => exact consumes_error _
  | succ n ih =>
    unfold scanMembers
    split
    · cases ‹n + 1 = _ + 1›
      rename_i s
      intro members s' h
      obtain ⟨⟨key, t⟩, ht, h⟩ := bind_eq_ok.mp h
      have hkey := (scanString_consumes s key t ht).1.trans (List.suffix_cons '"' s)
      simp only at h
      split at h
      · rename_i rest hcolon
        obtain ⟨⟨v, u⟩, hu, h⟩ := bind_eq_ok.mp h
        have hvalue := hv _ v u hu
        have hcolon := ((suffix_of_skipBlanks hcolon).1.trans hkey)
        have hu := hvalue.trans_suffix ((skipBlanks_suffix rest).trans hcolon)
        simp only at h
        split at h
        · rename_i hclose
          cases h
          exact hu.of_suffix (suffix_of_skipBlanks hclose).1
        · rename_i rest' hcomma
          obtain ⟨⟨members', w⟩, hw, h⟩ := bind_eq_ok.mp h
          cases h
          have hrest := (ih (skipBlanks rest') members' w hw).1.trans (skipBlanks_suffix rest')
          exact hu.of_suffix (hrest.trans (suffix_of_skipBlanks hcomma).1)
        · cases h
      · cases h
    · exact consumes_error _

theorem scanObject_consumes (s : List Char) : Consumes (scanObject value s) s := by
  unfold scanObject
  split
  · rename_i hclose
    exact consumes_ok (suffix_of_skipBlanks hclose)
  · exact (scanMembers_consumes hv _ _).of_suffix (skipBlanks_suffix s)

/-- There are at most as many items as characters: more fuel changes nothing. -/
theorem scanItems_bound {n m : ℕ} {s : List Char} (hn : s.length < n) (hm : s.length < m) :
    scanItems value n s = scanItems value m s := by
  induction n generalizing m s with
  | zero => exact absurd hn (Nat.not_lt_zero _)
  | succ n ih =>
    obtain ⟨m, rfl⟩ := Nat.exists_eq_succ_of_ne_zero (Nat.ne_zero_of_lt hm)
    rw [scanItems, scanItems]
    cases hvs : value s with
    | error e => rfl
    | ok r =>
      obtain ⟨item, t⟩ := r
      have ht := hv s item t hvs
      simp only [bind, Except.bind]
      split
      · rfl
      · rename_i rest hcomma
        have hrest := (ht.of_suffix ((skipBlanks_suffix rest).trans (suffix_of_skipBlanks hcomma).1)).2
        have hnext := @ih m (skipBlanks rest) (by omega) (by omega)
        rw [hnext]
      · rfl

theorem scanMembers_bound {n m : ℕ} {s : List Char} (hn : s.length < n) (hm : s.length < m) :
    scanMembers value n s = scanMembers value m s := by
  induction n generalizing m s with
  | zero => exact absurd hn (Nat.not_lt_zero _)
  | succ n ih =>
    obtain ⟨m, rfl⟩ := Nat.exists_eq_succ_of_ne_zero (Nat.ne_zero_of_lt hm)
    unfold scanMembers
    split
    · cases ‹n + 1 = _ + 1›
      rename_i s
      cases hk : scanString s with
      | error e => rfl
      | ok r =>
        obtain ⟨key, t⟩ := r
        have hkey := (scanString_consumes s key t hk).1.trans (List.suffix_cons '"' s)
        simp only [bind, Except.bind]
        split
        · rename_i rest hcolon
          cases hvs : value (skipBlanks rest) with
          | error e => rfl
          | ok r =>
            obtain ⟨v, u⟩ := r
            have hcolon := (suffix_of_skipBlanks hcolon).1.trans hkey
            have hu := (hv _ v u hvs).trans_suffix ((skipBlanks_suffix rest).trans hcolon)
            simp only
            split
            · rfl
            · rename_i rest' hcomma
              have hrest := (hu.of_suffix ((skipBlanks_suffix rest').trans (suffix_of_skipBlanks hcomma).1)).2
              have hnext := @ih m (skipBlanks rest') (by omega) (by omega)
              rw [hnext]
            · rfl
        · rfl
    · rename_i hno
      split
      · exact (hno n _ rfl rfl).elim
      · rfl

end Containers

theorem scanOnce_consumes (n : ℕ) (s : List Char) : Consumes (scanOnce n s) s := by
  apply scanOnce_rule (P := fun _ s x => Consumes x s)
  case string =>
    intro n s
    exact ((scanString_consumes s).map _).of_suffix (List.suffix_cons _ _)
  case plain =>
    intro n s
    exact scanPlain_consumes s
  case deep =>
    intro c s hc
    exact consumes_error _
  case array =>
    intro n s ih
    exact ((scanArray_consumes ih s).map _).of_suffix (List.suffix_cons _ _)
  case object =>
    intro n s ih
    exact ((scanObject_consumes ih s).map _).of_suffix (List.suffix_cons _ _)

/-! ## The depth of a text -/

/-- The opening brackets of a text. -/
def brackets (s : List Char) : ℕ := s.countP fun c => c = '[' ∨ c = '{'

theorem brackets_le {s' s : List Char} (h : s' <:+ s) : brackets s' ≤ brackets s := h.sublist.countP_le

theorem ne_recursionError {α : Type} {x : Except Error α} (h : RaisesOnly Error.IsValueError x) :
    x ≠ .error recursionError := fun he => h _ he

section Containers

variable {value : List Char → Except Error (Json × List Char)} {n : ℕ} (hc : ∀ s, Consumes (value s) s)
  (hv : ∀ s, value s = .error recursionError → n < brackets s)

include hc hv

/-- Items that are nested too deep have their brackets in the text. -/
theorem scanItems_tooDeep {m : ℕ} {s : List Char} (h : scanItems value m s = .error recursionError) :
    n < brackets s := by
  induction m generalizing s with
  | zero => cases h
  | succ m ih =>
    rcases bind_eq_error.mp h with h | ⟨⟨item, t⟩, ht, h⟩
    · exact hv s h
    · have hbehind := hc s item t ht
      simp only at h
      split at h
      · cases h
      · rename_i rest hcomma
        have hrest := hbehind.of_suffix ((skipBlanks_suffix rest).trans (suffix_of_skipBlanks hcomma).1)
        rcases bind_eq_error.mp h with h | ⟨_, _, h⟩
        · exact Nat.lt_of_lt_of_le (ih h) (brackets_le hrest.1)
        · cases h
      · cases h

theorem scanArray_tooDeep {s : List Char} (h : scanArray value s = .error recursionError) : n < brackets s := by
  unfold scanArray at h
  split at h
  · cases h
  · exact Nat.lt_of_lt_of_le (scanItems_tooDeep hc hv h) (brackets_le (skipBlanks_suffix s))

theorem scanMembers_tooDeep {m : ℕ} {s : List Char} (h : scanMembers value m s = .error recursionError) :
    n < brackets s := by
  induction m generalizing s with
  | zero => cases h
  | succ m ih =>
    unfold scanMembers at h
    split at h
    · cases ‹m + 1 = _ + 1›
      rename_i s
      rcases bind_eq_error.mp h with h | ⟨⟨key, t⟩, ht, h⟩
      · exact absurd h (ne_recursionError (scanString_raises s))
      · have hkey := (scanString_consumes s key t ht).1.trans (List.suffix_cons '"' s)
        simp only at h
        split at h
        · rename_i rest hcolon
          have hcolon := (skipBlanks_suffix rest).trans ((suffix_of_skipBlanks hcolon).1.trans hkey)
          rcases bind_eq_error.mp h with h | ⟨⟨v, u⟩, hu, h⟩
          · exact Nat.lt_of_lt_of_le (hv _ h) (brackets_le hcolon)
          · have hbehind := (hc _ v u hu).trans_suffix hcolon
            simp only at h
            split at h
            · cases h
            · rename_i rest' hcomma
              have hrest := hbehind.of_suffix ((skipBlanks_suffix rest').trans (suffix_of_skipBlanks hcomma).1)
              rcases bind_eq_error.mp h with h | ⟨_, _, h⟩
              · exact Nat.lt_of_lt_of_le (ih h) (brackets_le hrest.1)
              · cases h
            · cases h
        · cases h
    · cases h

theorem scanObject_tooDeep {s : List Char} (h : scanObject value s = .error recursionError) : n < brackets s := by
  unfold scanObject at h
  split at h
  · cases h
  · exact Nat.lt_of_lt_of_le (scanMembers_tooDeep hc hv h) (brackets_le (skipBlanks_suffix s))

end Containers

/-- Every level that is missing has a bracket. -/
theorem scanOnce_tooDeep (n : ℕ) (s : List Char) (h : scanOnce n s = .error recursionError) : n < brackets s := by
  revert h
  apply scanOnce_rule (P := fun n s x => x = .error recursionError → n < brackets s)
  case string =>
    intro n s h
    exact absurd (map_eq_error.mp h) (ne_recursionError (scanString_raises s))
  case plain =>
    intro n s h
    exact absurd h (ne_recursionError (scanPlain_raises s))
  case deep =>
    intro c s hc _
    simp [brackets, hc]
  case array =>
    intro n s ih h
    have hlt := scanArray_tooDeep (scanOnce_consumes n) ih (map_eq_error.mp h)
    simpa [brackets] using hlt
  case object =>
    intro n s ih h
    have hlt := scanObject_tooDeep (scanOnce_consumes n) ih (map_eq_error.mp h)
    simpa [brackets] using hlt

/-- **A text is nested no deeper than it has opening brackets.** -/
theorem not_tooDeep_of_brackets {nesting : ℕ} {text : List Char} (h : brackets text ≤ nesting) :
    ¬ TooDeep nesting text := by
  intro hdeep
  unfold TooDeep loads at hdeep
  split_ifs at hdeep
  · cases hdeep
  · rcases bind_eq_error.mp hdeep with hscan | ⟨⟨v, s⟩, -, hend⟩
    · have hlt := scanOnce_tooDeep nesting _ hscan
      have hle := brackets_le (skipBlanks_suffix text)
      omega
    · simp only at hend
      split_ifs at hend <;> cases hend

end Py.Json
