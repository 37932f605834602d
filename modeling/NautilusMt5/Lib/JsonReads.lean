import NautilusMt5.Lib.JsonLoads
import NautilusMt5.Lib.JsonDumps

/-!
# Texts that `json.loads` reads

`Reads n text v` says that the scanner takes the value `v` off a text that starts with `text`, whatever delimiter
follows. The rules compose: strings, integers and decimals are read, and so are arrays and objects of texts that are
read, one level deeper (`reads_list`, `reads_dict`).
-/

namespace Py.Json

/-- What follows a value in an array or an object, or at the end of the text. -/
def Delimited (rest : List Char) : Prop := ∀ c, rest.head? = some c → c = ',' ∨ c = ']' ∨ c = '}'

/-- The scanner takes the value off a text that starts with `text`. -/
structure Reads (n : ℕ) (text : List Char) (v : Json) : Prop where
  scan : ∀ rest, Delimited rest → scanOnce n (text ++ rest) = .ok (v, rest)
  head : ∃ c t, text = c :: t ∧ isBlank c = false ∧ c ≠ ']' ∧ c ≠ '\uFEFF'

variable {n : ℕ} {s text rest : List Char} {v : Json}

theorem delimited_nil : Delimited [] := fun _ h => nomatch h

theorem delimited_comma (s : List Char) : Delimited (',' :: s) := by simp [Delimited]

theorem delimited_bracket (s : List Char) : Delimited (']' :: s) := by simp [Delimited]

theorem delimited_brace (s : List Char) : Delimited ('}' :: s) := by simp [Delimited]

@[simp] theorem skipBlanks_nil : skipBlanks [] = [] := rfl

theorem skipBlanks_cons {c : Char} (h : isBlank c = false) (s : List Char) : skipBlanks (c :: s) = c :: s := by
  rw [skipBlanks, List.dropWhile_cons, h, if_neg Bool.false_ne_true]

theorem Reads.skipBlanks (h : Reads n text v) (rest : List Char) : Json.skipBlanks (text ++ rest) = text ++ rest := by
  obtain ⟨c, t, rfl, hc, -⟩ := h.head
  exact skipBlanks_cons hc _

/-- A text that is read is a document. -/
theorem Reads.loads (h : Reads n text v) : Json.loads n text = .ok v := by
  have hscan := h.scan [] delimited_nil
  have hskip := h.skipBlanks []
  rw [List.append_nil] at hscan hskip
  obtain ⟨c, t, rfl, -, -, hbom⟩ := h.head
  rw [Json.loads, List.head?_cons, if_neg (by simpa using hbom), hskip, hscan]
  rfl

/-! ## Strings -/

/-- A quote and a backslash are escaped, nothing else. -/
def escapeQuotes (c : Char) : List Char := if c = '\\' then ['\\', '\\'] else if c = '"' then ['\\', '"'] else [c]

theorem scanCodes_escapeQuotes (c : Char) (hc : ' ' ≤ c) (s : List Char) :
    scanCodes (escapeQuotes c ++ s) = (scanCodes s).map fun r => (c.toNat :: r.1, r.2) := by
  unfold escapeQuotes
  split_ifs with hb hq
  · subst hb
    rfl
  · subst hq
    rfl
  · have hplain : ¬ c < ' ' := Char.not_lt.mpr hc
    rw [List.singleton_append, scanCodes, if_neg hb, if_neg hplain]
    · exact hq
    · exact fun _ h => absurd h hb
    · exact fun _ _ h => absurd h hb

/-- An escaped string is scanned to its characters. -/
theorem scanCodes_escaped (hs : ∀ c ∈ s, ' ' ≤ c) (rest : List Char) :
    scanCodes (s.flatMap escapeQuotes ++ '"' :: rest) = .ok (s.map Char.toNat, rest) := by
  induction s with
  | nil => rfl
  | cons c s ih =>
    obtain ⟨hc, hs⟩ := List.forall_mem_cons.mp hs
    rw [List.flatMap_cons, List.append_assoc, scanCodes_escapeQuotes c hc, ih hs]
    rfl

theorem charOf_toNat (c : Char) : charOf c.toNat = c := by
  have hvalid : c.toNat.isValidChar := c.valid
  rw [charOf, if_pos hvalid, Char.ofNat_toNat]

/-- No character is half of a pair. -/
theorem isHigh_toNat (c : Char) : isHigh c.toNat = false := by
  have hvalid : c.toNat.isValidChar := c.valid
  unfold Nat.isValidChar at hvalid
  simp only [isHigh, Bool.and_eq_false_iff, decide_eq_false_iff_not]
  omega

theorem ofCodes_map_toNat (s : List Char) : ofCodes (s.map Char.toNat) = s := by
  induction s with
  | nil => rfl
  | cons c s ih =>
    cases s with
    | nil => rw [List.map_cons, List.map_nil, ofCodes, charOf_toNat]
    | cons d s =>
      rw [List.map_cons, List.map_cons, ofCodes, isHigh_toNat, Bool.false_and, if_neg Bool.false_ne_true, charOf_toNat,
        ← List.map_cons, ih]

theorem scanString_escaped (hs : ∀ c ∈ s, ' ' ≤ c) (rest : List Char) :
    scanString (s.flatMap escapeQuotes ++ '"' :: rest) = .ok (String.ofList s, rest) := by
  rw [scanString, scanCodes_escaped hs]
  show Except.ok (String.ofList (ofCodes (s.map Char.toNat)), rest) = _
  rw [ofCodes_map_toNat]

/-- Strings are read. -/
theorem reads_str (n : ℕ) (hs : ∀ c ∈ s, ' ' ≤ c) :
    Reads n ('"' :: (s.flatMap escapeQuotes ++ ['"'])) (.str (String.ofList s)) := by
  refine ⟨fun rest _ => ?_, '"', _, rfl, by decide, by decide, by decide⟩
  have hscan := scanString_escaped hs rest
  rw [List.cons_append, List.append_assoc, List.singleton_append, scanOnce, hscan]
  rfl

/-! ## Numbers -/

/-- The digits of a number. -/
def digitsText (n : ℕ) : List Char := Nat.toDigits 10 n

/-- An integer. -/
def intText (z : ℤ) : List Char := (if z < 0 then ['-'] else []) ++ digitsText z.natAbs

theorem isDigit_of_mem_digitsText {k : ℕ} {c : Char} (h : c ∈ digitsText k) : c.isDigit = true :=
  Nat.isDigit_of_mem_toDigits (by decide) (by decide) h

theorem digitsText_ne_nil (k : ℕ) : digitsText k ≠ [] := Nat.toDigits_ne_nil

/-- No number but zero starts with a zero. -/
theorem head_digitsText {k : ℕ} (hk : 0 < k) : (digitsText k).head? ≠ some '0' := by
  induction k using Nat.strong_induction_on with
  | _ k ih =>
    unfold digitsText at ih ⊢
    by_cases hlt : k < 10
    · have hdigit : ∀ d < 10, 0 < d → [Nat.digitChar d].head? ≠ some '0' := by decide
      rw [Nat.toDigits_of_lt_base hlt]
      exact hdigit k hlt hk
    · rw [Nat.toDigits_of_base_le (by decide) (by omega), List.head?_append_of_ne_nil _ Nat.toDigits_ne_nil]
      exact ih (k / 10) (by omega) (by omega)

/-- The text does not go on with a digit. -/
def NoDigit (rest : List Char) : Prop := rest.takeWhile Char.isDigit = []

theorem Delimited.noDigit (h : Delimited rest) : NoDigit rest := by
  cases rest with
  | nil => rfl
  | cons c rest => rcases h c rfl with rfl | rfl | rfl <;> rfl

section Digits

variable {digits : List Char} (hd : ∀ c ∈ digits, c.isDigit = true) (hr : NoDigit rest)

include hd hr

theorem takeWhile_digits : (digits ++ rest).takeWhile Char.isDigit = digits := by
  rw [List.takeWhile_append_of_pos hd, hr, List.append_nil]

theorem dropWhile_digits : (digits ++ rest).dropWhile Char.isDigit = rest := by
  have hsplit := List.takeWhile_append_dropWhile (p := Char.isDigit) (l := rest)
  rw [hr, List.nil_append] at hsplit
  rw [List.dropWhile_append_of_pos hd, hsplit]

theorem scanFraction_digits (hne : digits ≠ []) : scanFraction ('.' :: (digits ++ rest)) = (digits, rest) := by
  rw [scanFraction, takeWhile_digits hd hr, dropWhile_digits hd hr, if_neg hne]

end Digits

theorem scanDigits_digitsText (k : ℕ) (hr : NoDigit rest) :
    scanDigits (digitsText k ++ rest) = some (digitsText k, rest) := by
  have hd : ∀ c ∈ digitsText k, c.isDigit = true := fun _ => isDigit_of_mem_digitsText
  have hne := digitsText_ne_nil k
  by_cases hk : k = 0
  · subst hk
    rfl
  · have hhead := head_digitsText (Nat.pos_of_ne_zero hk)
    have htake := takeWhile_digits hd hr
    have hdrop := dropWhile_digits hd hr
    generalize digitsText k = digits at *
    cases digits with
    | nil => exact absurd rfl hne
    | cons c digits =>
      rw [List.cons_append] at htake hdrop ⊢
      rw [scanDigits, htake, hdrop, if_neg hne]
      rintro _ ⟨rfl, -⟩
      exact hhead rfl

/-- A word starts with a letter, or with a sign and a letter. -/
theorem find?_words {c : Char} (hc : c.isDigit = true) (s : List Char) :
    (words.find? fun word => word.1.isPrefixOf (c :: s)) = none ∧
      (words.find? fun word => word.1.isPrefixOf ('-' :: c :: s)) = none := by
  have hne : ∀ d ∈ ['n', 't', 'f', 'N', 'I', '-'], (d == c) = false := by
    intro d hd
    rw [beq_eq_false_iff_ne]
    rintro rfl
    have hletter : ∀ d ∈ ['n', 't', 'f', 'N', 'I', '-'], d.isDigit = false :=
      forall_mem_of_all (by decide)
    rw [hletter d hd] at hc
    cases hc
  simp only [List.forall_mem_cons] at hne
  simp [words, List.isPrefixOf, hne]

/-- A number is scanned by its parts. -/
theorem scanPlain_digits (negative : Bool) {digits : List Char} (hd : ∀ c ∈ digits, c.isDigit = true)
    (hne : digits ≠ []) (hscan : scanDigits (digits ++ s) = some (digits, s)) :
    scanPlain ((if negative then ['-'] else []) ++ (digits ++ s)) =
      (numberValue negative digits (scanFraction s).1 (scanExponent (scanFraction s).2).1).map
        fun v => (v, (scanExponent (scanFraction s).2).2) := by
  cases digits with
  | nil => exact absurd rfl hne
  | cons c digits =>
    have hc := hd c List.mem_cons_self
    obtain ⟨hword, hsign⟩ := find?_words hc (digits ++ s)
    have hminus : c ≠ '-' := by
      rintro rfl
      exact absurd hc (by decide)
    rw [List.cons_append] at hscan ⊢
    cases negative with
    | true =>
      simp only [if_true, List.singleton_append]
      rw [scanPlain, hsign]
      simp [scanNumber, hscan]
    | false =>
      simp only [Bool.false_eq_true, if_false, List.nil_append]
      rw [scanPlain, hword]
      simp [scanNumber, hscan, hminus]

/-- What starts like a number is neither a string nor a container. -/
theorem scanOnce_digits (n : ℕ) (negative : Bool) {digits : List Char} (hd : ∀ c ∈ digits, c.isDigit = true)
    (hne : digits ≠ []) (s : List Char) :
    scanOnce n ((if negative then ['-'] else []) ++ (digits ++ s)) =
      scanPlain ((if negative then ['-'] else []) ++ (digits ++ s)) := by
  cases negative with
  | true =>
    rw [if_pos rfl, List.singleton_append, scanOnce] <;> simp
  | false =>
    cases digits with
    | nil => exact absurd rfl hne
    | cons c digits =>
      have hc := hd c List.mem_cons_self
      have hother : c ≠ '"' ∧ c ≠ '[' ∧ c ≠ '{' := by
        refine ⟨?_, ?_, ?_⟩ <;> (rintro rfl; cases hc)
      rw [if_neg Bool.false_ne_true, List.nil_append, List.cons_append, scanOnce] <;> simp [hother]

/-- The first character of a number starts a value. -/
theorem head_digits (negative : Bool) {digits : List Char} (hd : ∀ c ∈ digits, c.isDigit = true) (hne : digits ≠ [])
    (s : List Char) : ∃ c t, (if negative then ['-'] else []) ++ (digits ++ s) = c :: t ∧ isBlank c = false ∧ c ≠ ']' ∧
      c ≠ '﻿' := by
  cases negative with
  | true => exact ⟨'-', _, rfl, by decide, by decide, by decide⟩
  | false =>
    cases digits with
    | nil => exact absurd rfl hne
    | cons c digits =>
      have hc := hd c List.mem_cons_self
      refine ⟨c, _, rfl, ?_, ?_, ?_⟩
      · rw [← Bool.not_eq_true]
        intro hb
        simp only [isBlank, Bool.or_eq_true, decide_eq_true_eq] at hb
        rcases hb with ((rfl | rfl) | rfl) | rfl <;> cases hc
      · rintro rfl
        cases hc
      · rintro rfl
        cases hc

/-- A number is read by its parts. -/
theorem reads_number (n : ℕ) (negative : Bool) {digits s : List Char} {v : Json}
    (hd : ∀ c ∈ digits, c.isDigit = true) (hne : digits ≠ [])
    (h : ∀ rest, Delimited rest → scanDigits (digits ++ (s ++ rest)) = some (digits, s ++ rest) ∧
      ∃ fraction exponent, scanFraction (s ++ rest) = fraction ∧ scanExponent fraction.2 = (exponent, rest) ∧
        numberValue negative digits fraction.1 exponent = .ok v) :
    Reads n ((if negative then ['-'] else []) ++ (digits ++ s)) v := by
  refine ⟨fun rest hrest => ?_, head_digits negative hd hne s⟩
  obtain ⟨hscan, fraction, exponent, rfl, hexp, hvalue⟩ := h rest hrest
  rw [List.append_assoc, List.append_assoc, scanOnce_digits n negative hd hne, scanPlain_digits negative hd hne hscan,
    hexp, hvalue]
  rfl

theorem Delimited.scanFraction (h : Delimited rest) : Json.scanFraction rest = ([], rest) := by
  cases rest with
  | nil => rfl
  | cons c rest => rcases h c rfl with rfl | rfl | rfl <;> rfl

theorem Delimited.scanExponent (h : Delimited rest) : Json.scanExponent rest = (none, rest) := by
  cases rest with
  | nil => rfl
  | cons c rest =>
    have hc : ¬ (c = 'e' ∨ c = 'E') := by rcases h c rfl with rfl | rfl | rfl <;> decide
    rw [Json.scanExponent]
    simp [hc]

/-- Integers are read, when they are not too long. -/
theorem reads_int (n : ℕ) {z : ℤ} (hz : (digitsText z.natAbs).length ≤ 4300) : Reads n (intText z) (.int z) := by
  have hd : ∀ c ∈ digitsText z.natAbs, c.isDigit = true := fun _ => isDigit_of_mem_digitsText
  have htext : intText z = (if decide (z < 0) then ['-'] else []) ++ (digitsText z.natAbs ++ []) := by
    simp [intText]
  rw [htext]
  refine reads_number n _ hd (digitsText_ne_nil _) fun rest hrest => ?_
  refine ⟨scanDigits_digitsText _ hrest.noDigit, _, _, hrest.scanFraction, hrest.scanExponent, ?_⟩
  have hvalue : signed (decide (z < 0)) (Nat.ofDigitChars 10 (digitsText z.natAbs) 0) = z := by
    rw [digitsText, Nat.ofDigitChars_ten_toDigits, signed]
    split_ifs with hneg
    · have hlt : z < 0 := by simpa using hneg
      omega
    · have hge : ¬ z < 0 := by simpa using hneg
      omega
  rw [numberValue, if_pos ⟨rfl, rfl⟩, if_pos hz, hvalue]

/-- Decimals are read as doubles. -/
theorem reads_decimal (n : ℕ) (negative : Bool) (k : ℕ) {fraction : List Char}
    (hf : ∀ c ∈ fraction, c.isDigit = true) (hne : fraction ≠ []) :
    Reads n ((if negative then ['-'] else []) ++ (digitsText k ++ '.' :: fraction))
      (.float (.ofRat (signed negative
        (Nat.ofDigitChars 10 (digitsText k ++ fraction) 0) / 10 ^ fraction.length))) := by
  have hd : ∀ c ∈ digitsText k, c.isDigit = true := fun _ => isDigit_of_mem_digitsText
  refine reads_number n _ hd (digitsText_ne_nil _) fun rest hrest => ?_
  have hdot : NoDigit ('.' :: (fraction ++ rest)) := rfl
  refine ⟨scanDigits_digitsText k hdot, _, _, scanFraction_digits hf hrest.noDigit hne, hrest.scanExponent, ?_⟩
  rw [numberValue, if_neg fun h => hne h.1, Option.getD_none, zero_sub, zpow_neg, zpow_natCast, div_eq_mul_inv]

/-! ## Arrays and objects -/

theorem length_le_flatMap {α : Type*} (f : α → List Char) (l : List α) :
    l.length ≤ (l.flatMap fun a => ',' :: f a).length := by
  induction l with
  | nil => exact Nat.le_refl 0
  | cons a l ih =>
    rw [List.flatMap_cons, List.length_append, List.length_cons, List.length_cons]
    omega

section Steps

variable {value : List Char → Except Error (Json × List Char)} {s s' rest : List Char} {v : Json}

/-- The last item. -/
theorem scanItems_close (hv : value s = .ok (v, s')) (h : skipBlanks s' = ']' :: rest) (m : ℕ) :
    scanItems value (m + 1) s = .ok ([v], rest) := by
  simp only [scanItems, hv, h, bind, Except.bind, pure, Except.pure]

/-- An item with others behind it. -/
theorem scanItems_comma (hv : value s = .ok (v, s')) (h : skipBlanks s' = ',' :: rest) (m : ℕ) :
    scanItems value (m + 1) s = (scanItems value m (skipBlanks rest)).map fun r => (v :: r.1, r.2) := by
  simp only [scanItems, hv, h, bind, Except.bind]
  cases scanItems value m (skipBlanks rest) <;> rfl

variable {key : String} {t : List Char}

/-- The last member. -/
theorem scanMembers_close (hk : scanString s = .ok (key, ':' :: t)) (hv : value (skipBlanks t) = .ok (v, s'))
    (h : skipBlanks s' = '}' :: rest) (m : ℕ) : scanMembers value (m + 1) ('"' :: s) = .ok ([(key, v)], rest) := by
  have hcolon : skipBlanks (':' :: t) = ':' :: t := skipBlanks_cons rfl t
  simp only [scanMembers, hk, hcolon, hv, h, bind, Except.bind, pure, Except.pure]

/-- A member with others behind it. -/
theorem scanMembers_comma (hk : scanString s = .ok (key, ':' :: t)) (hv : value (skipBlanks t) = .ok (v, s'))
    (h : skipBlanks s' = ',' :: rest) (m : ℕ) :
    scanMembers value (m + 1) ('"' :: s) =
      (scanMembers value m (skipBlanks rest)).map fun r => ((key, v) :: r.1, r.2) := by
  have hcolon : skipBlanks (':' :: t) = ':' :: t := skipBlanks_cons rfl t
  simp only [scanMembers, hk, hcolon, hv, h, bind, Except.bind]
  cases scanMembers value m (skipBlanks rest) <;> rfl

end Steps

theorem scanItems_texts {items : List (List Char × Json)} {m : ℕ} (hm : items.length < m) (h : Reads n text v)
    (hs : ∀ i ∈ items, Reads n i.1 i.2) (rest : List Char) :
    scanItems (scanOnce n) m (text ++ (items.flatMap (fun i => ',' :: i.1) ++ ']' :: rest)) =
      .ok (v :: items.map Prod.snd, rest) := by
  induction items generalizing text v m with
  | nil =>
    obtain ⟨m, rfl⟩ := Nat.exists_eq_succ_of_ne_zero (Nat.ne_of_gt hm)
    exact scanItems_close (h.scan (']' :: rest) (delimited_bracket rest)) rfl m
  | cons i items ih =>
    obtain ⟨m, rfl⟩ := Nat.exists_eq_succ_of_ne_zero (Nat.ne_zero_of_lt hm)
    obtain ⟨hi, hs⟩ := List.forall_mem_cons.mp hs
    have hnext := ih (Nat.lt_of_succ_lt_succ hm) hi hs
    have hscan := h.scan _ (delimited_comma (i.1 ++ (items.flatMap (fun i => ',' :: i.1) ++ ']' :: rest)))
    rw [List.flatMap_cons, List.append_assoc, List.cons_append, scanItems_comma hscan rfl, hi.skipBlanks, hnext]
    rfl

/-- An array of texts that are read is read. -/
theorem reads_list {items : List (List Char × Json)} (hs : ∀ i ∈ items, Reads n i.1 i.2) :
    Reads (n + 1) (dumpsList (items.map Prod.fst)) (.list (items.map Prod.snd)) := by
  refine ⟨fun rest _ => ?_, '[', _, rfl, by decide, by decide, by decide⟩
  rw [dumpsList, List.cons_append, List.append_assoc, List.singleton_append, scanOnce]
  cases items with
  | nil => rfl
  | cons i items =>
    obtain ⟨hi, hs⟩ := List.forall_mem_cons.mp hs
    have hlen : items.length < (i.1 ++ (items.flatMap (fun i => ',' :: i.1) ++ ']' :: rest)).length + 1 := by
      have hle := length_le_flatMap Prod.fst items
      simp only [List.length_append]
      omega
    have hscan := scanItems_texts hlen hi hs rest
    have hskip := hi.skipBlanks (items.flatMap (fun i => ',' :: i.1) ++ ']' :: rest)
    obtain ⟨c, t, ht, -, hc, -⟩ := hi.head
    rw [List.map_cons, intercalate_cons, List.flatMap_map, List.append_assoc, scanArray, hskip]
    split
    · rename_i heq
      rw [ht, List.cons_append] at heq
      exact absurd (List.cons.inj heq).1 hc
    · rw [hscan]
      rfl

/-- The members of an object as they are written, and their values. -/
structure Member where
  key : String
  text : List Char
  value : Json

/-- The key needs no escape, and the value is read. -/
def Member.Reads (n : ℕ) (m : Member) : Prop :=
  (∀ c ∈ m.key.toList, Printable c ∧ c ≠ '"' ∧ c ≠ '\\') ∧ Json.Reads n m.text m.value

/-- The text of a member. -/
def Member.written (m : Member) : List Char := dumpsStr m.key.toList ++ ':' :: m.text

theorem scanString_plain {key : String} (h : ∀ c ∈ key.toList, Printable c ∧ c ≠ '"' ∧ c ≠ '\\') (rest : List Char) :
    scanString (key.toList ++ '"' :: rest) = .ok (key, rest) := by
  have hplain : key.toList.flatMap escapeQuotes = key.toList := by
    generalize key.toList = s at h
    induction s with
    | nil => rfl
    | cons c s ih =>
      obtain ⟨⟨-, hq, hb⟩, hs⟩ := List.forall_mem_cons.mp h
      rw [List.flatMap_cons, ih hs, escapeQuotes, if_neg hb, if_neg hq]
      rfl
  have hscan := scanString_escaped (fun c hc => (h c hc).1.1) rest
  rw [hplain, String.ofList_toList] at hscan
  exact hscan

section Member

variable {m : Member} (h : m.Reads n)

include h

/-- The text of a member is its key between quotes, a colon and the value. -/
theorem Member.written_eq (rest : List Char) :
    m.written ++ rest = '"' :: (m.key.toList ++ '"' :: ':' :: (m.text ++ rest)) := by
  rw [Member.written, dumpsStr_of_plain h.1]
  simp

/-- A member is scanned up to its end. -/
theorem Member.scan (hrest : Delimited rest) :
    scanString (m.key.toList ++ '"' :: ':' :: (m.text ++ rest)) = .ok (m.key, ':' :: (m.text ++ rest)) ∧
      scanOnce n (skipBlanks (m.text ++ rest)) = .ok (m.value, rest) := by
  refine ⟨scanString_plain h.1 _, ?_⟩
  rw [h.2.skipBlanks, h.2.scan rest hrest]

end Member

theorem scanMembers_texts {m : Member} {members : List Member} {fuel : ℕ} (hf : members.length < fuel) (h : m.Reads n)
    (hs : ∀ i ∈ members, i.Reads n) (rest : List Char) :
    scanMembers (scanOnce n) fuel (m.written ++ (members.flatMap (fun i => ',' :: i.written) ++ '}' :: rest)) =
      .ok ((m.key, m.value) :: members.map fun i => (i.key, i.value), rest) := by
  induction members generalizing m fuel with
  | nil =>
    obtain ⟨fuel, rfl⟩ := Nat.exists_eq_succ_of_ne_zero (Nat.ne_of_gt hf)
    obtain ⟨hkey, hvalue⟩ := Member.scan h (delimited_brace rest)
    rw [List.flatMap_nil, List.nil_append, Member.written_eq h]
    exact scanMembers_close hkey hvalue rfl fuel
  | cons i members ih =>
    obtain ⟨fuel, rfl⟩ := Nat.exists_eq_succ_of_ne_zero (Nat.ne_zero_of_lt hf)
    obtain ⟨hi, hs⟩ := List.forall_mem_cons.mp hs
    have hnext := ih (Nat.lt_of_succ_lt_succ hf) hi hs
    have hskip : skipBlanks (i.written ++ (members.flatMap (fun i => ',' :: i.written) ++ '}' :: rest)) =
        i.written ++ (members.flatMap (fun i => ',' :: i.written) ++ '}' :: rest) := skipBlanks_cons rfl _
    obtain ⟨hkey, hvalue⟩ := Member.scan h
      (delimited_comma (i.written ++ (members.flatMap (fun i => ',' :: i.written) ++ '}' :: rest)))
    rw [List.flatMap_cons, List.append_assoc, List.cons_append, Member.written_eq h,
      scanMembers_comma hkey hvalue rfl, hskip, hnext]
    rfl

/-- An object of values that are read is read. -/
theorem reads_dict {members : List Member} (hs : ∀ m ∈ members, m.Reads n) :
    Reads (n + 1) (dumpsDict (members.map fun m => (m.key.toList, m.text)))
      (.dict (members.map fun m => (m.key, m.value))) := by
  refine ⟨fun rest _ => ?_, '{', _, rfl, by decide, by decide, by decide⟩
  have hmap : (members.map fun m => (m.key.toList, m.text)).map (fun m => dumpsStr m.1 ++ ':' :: m.2) =
      members.map Member.written := by
    rw [List.map_map]
    rfl
  rw [dumpsDict, hmap, List.cons_append, List.append_assoc, List.singleton_append, scanOnce]
  cases members with
  | nil => rfl
  | cons m members =>
    obtain ⟨hm, hs⟩ := List.forall_mem_cons.mp hs
    have hlen : members.length <
        (m.written ++ (members.flatMap (fun i => ',' :: i.written) ++ '}' :: rest)).length + 1 := by
      have hle := length_le_flatMap Member.written members
      simp only [List.length_append]
      omega
    have hscan := scanMembers_texts hlen hm hs rest
    have hskip : skipBlanks (m.written ++ (members.flatMap (fun i => ',' :: i.written) ++ '}' :: rest)) =
        m.written ++ (members.flatMap (fun i => ',' :: i.written) ++ '}' :: rest) := skipBlanks_cons rfl _
    rw [List.map_cons, intercalate_cons, List.flatMap_map, List.append_assoc, scanObject, hskip]
    split
    · rename_i heq
      exact absurd (List.cons.inj heq).1 (by decide)
    · rw [hscan]
      rfl

end Py.Json
