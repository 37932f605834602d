import NautilusMt5.Feed.FeedWire
import NautilusMt5.Feed.Subscriptions
import NautilusMt5.Lib.JsonDumps
import Mathlib.Data.List.TakeWhile

/-!
# Commands on the wire

`feed/messages.py` writes a command as JSON, the Service reads it with the searches of `NT5FeedWire.mqh`. Reading
gives back what was written for symbols of characters that neither JSON escapes nor the Service takes for its own:
`command_recovered_iff`.
-/

namespace NautilusMt5

open Py Mql

/-! ## Writing -/

/-- The text of a command: its op, its symbols, and what else it has. -/
def symbolsCommand (op : String) (symbols : List String) (more : List (List Char × List Char)) : List Char :=
  dumpsDict (("op".toList, dumpsStr op.toList) ::
    ("symbols".toList, dumpsList (symbols.map fun s => dumpsStr s.toList)) :: more)

/-- `build_subscribe_command`. -/
def buildSubscribeCommand (symbols : List String) : List Char := symbolsCommand "subscribe" symbols []

/-- `build_unsubscribe_command`. -/
def buildUnsubscribeCommand (symbols : List String) : List Char := symbolsCommand "unsubscribe" symbols []

/-- `build_subscribe_bars_command`. -/
def buildSubscribeBarsCommand (symbols : List String) (timeframe : String) : List Char :=
  symbolsCommand "subscribe_bars" symbols [("timeframe".toList, dumpsStr timeframe.toList)]

/-- `build_unsubscribe_bars_command`. -/
def buildUnsubscribeBarsCommand (symbols : List String) (timeframe : String) : List Char :=
  symbolsCommand "unsubscribe_bars" symbols [("timeframe".toList, dumpsStr timeframe.toList)]

namespace Command

/-- The op on the wire. -/
def op : Command → String
  | .subscribe _ => "subscribe"
  | .unsubscribe _ => "unsubscribe"
  | .subscribeBars _ _ => "subscribe_bars"
  | .unsubscribeBars _ _ => "unsubscribe_bars"

def symbols : Command → List String
  | .subscribe symbols | .unsubscribe symbols | .subscribeBars symbols _ | .unsubscribeBars symbols _ => symbols

def timeframe? : Command → Option Timeframe
  | .subscribe _ | .unsubscribe _ => none
  | .subscribeBars _ tf | .unsubscribeBars _ tf => some tf

/-- The command as it is sent. -/
def encode : Command → List Char
  | .subscribe symbols => buildSubscribeCommand symbols
  | .unsubscribe symbols => buildUnsubscribeCommand symbols
  | .subscribeBars symbols tf => buildSubscribeBarsCommand symbols tf.token
  | .unsubscribeBars symbols tf => buildUnsubscribeBarsCommand symbols tf.token

/-- The Service reads the op, the symbols and the timeframe of the command. -/
structure Recovered (c : Command) : Prop where
  op : nt5ParseWireOp c.encode = some c.op.toList
  symbols : nt5ExtractJsonStringArray c.encode "symbols".toList = some (c.symbols.map String.toList)
  timeframe : ∀ tf, c.timeframe? = some tf →
    nt5ExtractJsonStringField c.encode "timeframe".toList = some tf.token.toList

end Command

/-- A character that arrives: printable ASCII, not escaped by JSON, and not taken for a blank, the end of a symbol or
the end of the array. -/
def WireSafe (c : Char) : Prop := Printable c ∧ c ≠ ' ' ∧ c ≠ '"' ∧ c ≠ ',' ∧ c ≠ ']' ∧ c ≠ '\\'

instance : DecidablePred WireSafe := fun _ => inferInstanceAs (Decidable (_ ∧ _))

/-- A symbol is called like the field of the timeframe, and a later one has a colon. -/
def HidesTimeframe (symbols : List String) : Prop :=
  ∃ before after, symbols = before ++ "timeframe" :: after ∧ ∃ s ∈ after, ':' ∈ s.toList

/-- The command has only characters that arrive, and its symbols do not hide its timeframe. -/
structure Command.Recoverable (c : Command) : Prop where
  safe : ∀ s ∈ c.symbols, ∀ ch ∈ s.toList, WireSafe ch
  notHidden : c.timeframe? ≠ none → ¬ HidesTimeframe c.symbols

/-! ## The text of a command -/

/-- The symbols between the brackets. -/
def symbolsText (symbols : List String) : List Char := [','].intercalate (symbols.map fun s => dumpsStr s.toList)

/-- What follows the closing bracket. -/
def restText (timeframe? : Option Timeframe) : List Char :=
  match timeframe? with
  | none => ['}']
  | some tf => ',' :: '"' :: ("timeframe".toList ++ '"' :: ':' :: '"' :: (tf.token.toList ++ ['"', '}']))

/-- The fields and the ops of the commands are written as they are. -/
theorem dumpsStr_word {s : String} (h : s ∈ ["op", "symbols", "timeframe", "subscribe", "unsubscribe", "subscribe_bars",
    "unsubscribe_bars"]) : dumpsStr s.toList = '"' :: (s.toList ++ ['"']) := by
  apply dumpsStr_of_plain
  apply forall_mem_of_all
  revert s
  decide

theorem dumpsStr_token (tf : Timeframe) : dumpsStr tf.token.toList = '"' :: (tf.token.toList ++ ['"']) := by
  apply dumpsStr_of_plain
  apply forall_mem_of_all
  cases tf <;> decide

/-- The text of a command whose op needs no escape. -/
theorem symbolsCommand_eq {op : String} (hop : dumpsStr op.toList = '"' :: (op.toList ++ ['"'])) (symbols : List String)
    (more : List (List Char × List Char)) :
    symbolsCommand op symbols more =
      '{' :: ('"' :: ("op".toList ++ '"' :: ':' :: '"' :: (op.toList ++ '"' :: ',' :: '"' :: ("symbols".toList ++
        '"' :: ':' :: '[' :: (symbolsText symbols ++ ']' ::
          (more.flatMap (fun m => ',' :: (dumpsStr m.1 ++ ':' :: m.2)) ++ ['}'])))))) := by
  have hkey := dumpsStr_word (show "op" ∈ _ by simp)
  have hsymbols := dumpsStr_word (show "symbols" ∈ _ by simp)
  rw [symbolsCommand, dumpsDict_cons, List.flatMap_cons, hkey, hsymbols, hop]
  generalize "op".toList = key
  generalize "symbols".toList = key'
  simp [dumpsList, symbolsText]

/-- All commands have one form. -/
theorem encode_eq (c : Command) : c.encode =
    '{' :: ('"' :: ("op".toList ++ '"' :: ':' :: '"' :: (c.op.toList ++ '"' :: ',' :: '"' :: ("symbols".toList ++
      '"' :: ':' :: '[' :: (symbolsText c.symbols ++ ']' :: restText c.timeframe?))))) := by
  have hmore : ∀ tf : Timeframe, [("timeframe".toList, dumpsStr tf.token.toList)].flatMap
      (fun m => ',' :: (dumpsStr m.1 ++ ':' :: m.2)) ++ ['}'] = restText (some tf) := by
    intro tf
    rw [List.flatMap_singleton, dumpsStr_word (by simp), dumpsStr_token, restText]
    generalize "timeframe".toList = key
    simp
  cases c with
  | subscribe symbols => exact symbolsCommand_eq (dumpsStr_word (by simp)) symbols []
  | unsubscribe symbols => exact symbolsCommand_eq (dumpsStr_word (by simp)) symbols []
  | subscribeBars symbols tf => exact (symbolsCommand_eq (dumpsStr_word (by simp)) symbols _).trans (by rw [hmore]; rfl)
  | unsubscribeBars symbols tf =>
    exact (symbolsCommand_eq (dumpsStr_word (by simp)) symbols _).trans (by rw [hmore]; rfl)

/-! ## The op -/

/-- The ops are words of their own. -/
theorem op_plain (c : Command) :
    '"' ∉ c.op.toList ∧ c.op.toList ≠ "symbols".toList ∧ c.op.toList ≠ "timeframe".toList := by
  have hall : ∀ op ∈ ["subscribe", "unsubscribe", "subscribe_bars", "unsubscribe_bars"],
      '"' ∉ op.toList ∧ op.toList ≠ "symbols".toList ∧ op.toList ≠ "timeframe".toList := by decide
  apply hall c.op
  cases c <;> simp [Command.op]

/-- The words between quotes up to the symbols, and words behind them. -/
theorem not_mem_headWords (c : Command) (more : List (List Char)) (h : ∀ u ∈ more, '"' ∉ u) :
    ∀ u ∈ "op".toList :: [':'] :: c.op.toList :: [','] :: more, '"' ∉ u := by
  simp only [List.forall_mem_cons]
  exact ⟨by decide, by simp, (op_plain c).1, by simp, h⟩

/-- The other fields are not among them. -/
theorem ne_headWords (c : Command) (key : String) (hkey : key = "symbols" ∨ key = "timeframe")
    (more : List (List Char)) (h : key.toList ∉ more) :
    key.toList ∉ "op".toList :: [':'] :: c.op.toList :: [','] :: more := by
  obtain ⟨-, hsymbols, htimeframe⟩ := op_plain c
  simp only [List.mem_cons, not_or]
  rcases hkey with rfl | rfl
  · exact ⟨by decide, by decide, Ne.symm hsymbols, by decide, h⟩
  · exact ⟨by decide, by decide, Ne.symm htimeframe, by decide, h⟩

/-- The op is always read. -/
theorem op_recovered (c : Command) : nt5ParseWireOp c.encode = some c.op.toList := by
  have hop := (op_plain c).1
  have hjson : c.encode = ['{'] ++ ('"' :: ("op".toList ++ '"' :: []) ++ ':' :: ([] ++ '"' :: (c.op.toList ++ '"' ::
      (',' :: '"' :: ("symbols".toList ++ '"' :: ':' :: '[' :: (symbolsText c.symbols ++
        ']' :: restText c.timeframe?)))))) := by
    rw [encode_eq]
    generalize "op".toList = key
    simp
  refine extractStringField_of_split ['{'] [] _ hjson ?_ (by decide) List.not_mem_nil hop
  rw [encode_eq]
  have hfirst : '"' ∉ ['{'] := by simp
  have hkey : '"' ∉ "op".toList := by decide
  exact indexOf_quoted ['{'] "op".toList hfirst (List.forall_mem_nil _) hkey List.not_mem_nil _

/-! ## The symbols -/

theorem mem_symbolsText {symbols : List String} {d : Char} (hd : d ∈ symbolsText symbols) :
    d = '"' ∨ d = ',' ∨ ∃ s ∈ symbols, d ∈ s.toList.flatMap escapeAscii := by
  have hquoted : ∀ s : String, d ∈ dumpsStr s.toList → d = '"' ∨ d ∈ s.toList.flatMap escapeAscii := by
    intro s hs
    simpa [dumpsStr, or_comm, or_assoc] using hs
  cases symbols with
  | nil => cases hd
  | cons s symbols =>
    rw [symbolsText, List.map_cons, intercalate_cons, List.mem_append, List.flatMap_map, List.mem_flatMap] at hd
    rcases hd with hd | ⟨t, ht, hd⟩
    · rcases hquoted s hd with h | h
      · exact .inl h
      · exact .inr (.inr ⟨s, List.mem_cons_self, h⟩)
    · rcases List.mem_cons.mp hd with h | hd
      · exact .inr (.inl h)
      · rcases hquoted t hd with h | h
        · exact .inl h
        · exact .inr (.inr ⟨t, List.mem_cons_of_mem s ht, h⟩)

theorem printable_restText (timeframe? : Option Timeframe) : ∀ d ∈ restText timeframe?, Printable d := by
  cases timeframe? with
  | none => exact forall_mem_of_all (by decide)
  | some tf => cases tf <;> exact forall_mem_of_all (by decide)

/-- Between the brackets the Service has what is before the first closing bracket. -/
theorem extractSymbols_eq (c : Command) : nt5ExtractJsonStringArray c.encode "symbols".toList =
    some (arrayItems (stringSplit (stringReplace
      ((symbolsText c.symbols ++ ']' :: restText c.timeframe?).takeWhile (· ≠ ']')) ' ' []) ',')) := by
  obtain ⟨rest, hrest⟩ := eq_takeWhile_append
    (show ']' ∈ symbolsText c.symbols ++ ']' :: restText c.timeframe? from List.mem_append_right _ List.mem_cons_self)
  have hwords := not_mem_headWords c [] (List.forall_mem_nil _)
  have hne := ne_headWords c "symbols" (.inl rfl) [] List.not_mem_nil
  have hjson : c.encode = (['{'] ++ ["op".toList, [':'], c.op.toList, [',']].flatMap ('"' :: ·)) ++
      ('"' :: ("symbols".toList ++ '"' :: [':']) ++
        '[' :: (symbolsText c.symbols ++ ']' :: restText c.timeframe?)) := by
    rw [encode_eq]
    generalize "op".toList = key
    generalize "symbols".toList = key'
    simp
  have hsplit := hjson
  rw [hrest] at hsplit
  refine extractStringArray_of_split hsplit ?_ (by decide) (fun hm => ?_)
  · rw [hjson]
    have hfind := indexOf_quoted ['{'] "symbols".toList (by decide) hwords (by decide) hne
      (':' :: '[' :: (symbolsText c.symbols ++ ']' :: restText c.timeframe?))
    generalize "symbols".toList = key' at hfind ⊢
    simpa using hfind
  · have hpos := List.mem_takeWhile_imp hm
    simp at hpos

/-- What is read has no character that the reading takes for something else. -/
theorem mem_extracted {c : Command} {items : List (List Char)}
    (h : nt5ExtractJsonStringArray c.encode "symbols".toList = some items) {item : List Char} (hitem : item ∈ items)
    {d : Char} (hd : d ∈ item) :
    Printable d ∧ d ≠ ' ' ∧ d ≠ '"' ∧ d ≠ ',' ∧ d ≠ ']' := by
  rw [extractSymbols_eq, Option.some_inj] at h
  subst h
  unfold arrayItems at hitem
  obtain ⟨part, hpart, rfl⟩ := List.mem_map.mp (List.mem_of_mem_filter hitem)
  obtain ⟨hd, hquote⟩ := mem_stringReplace_nil.mp hd
  obtain ⟨hd, hcomma⟩ := mem_of_mem_stringSplit hpart hd
  obtain ⟨hd, hblank⟩ := mem_stringReplace_nil.mp hd
  have hclose : d ≠ ']' := by simpa using List.mem_takeWhile_imp hd
  refine ⟨?_, hblank, hquote, hcomma, hclose⟩
  rcases List.mem_append.mp ((List.takeWhile_sublist _).subset hd) with hd | hd
  · rcases mem_symbolsText hd with rfl | rfl | ⟨s, -, hd⟩
    · decide
    · decide
    · obtain ⟨e, -, hd⟩ := List.mem_flatMap.mp hd
      exact printable_escapeAscii e d hd
  · rcases List.mem_cons.mp hd with rfl | hd
    · decide
    · exact printable_restText _ d hd

/-- The commas between the symbols are the only ones. -/
theorem split_symbolsText {symbols : List String} (hne : symbols ≠ [])
    (h : ∀ s ∈ symbols, ',' ∉ s.toList.flatMap escapeAscii) :
    stringSplit (symbolsText symbols) ',' = symbols.map fun s => dumpsStr s.toList := by
  refine List.splitOn_intercalate ',' (fun l hl => ?_) fun hmap => hne (List.map_eq_nil_iff.mp hmap)
  obtain ⟨s, hs, rfl⟩ := List.mem_map.mp hl
  simp only [dumpsStr, List.mem_cons, List.mem_append, List.not_mem_nil, or_false, not_or]
  exact ⟨by simp, h s hs, by simp⟩

/-- The quotes around a symbol are the only ones. -/
theorem unquote_dumpsStr {s : String} (h : '"' ∉ s.toList.flatMap escapeAscii) :
    stringReplace (dumpsStr s.toList) '"' [] = s.toList.flatMap escapeAscii := by
  rw [dumpsStr, ← List.singleton_append, stringReplace_append, stringReplace_append, stringReplace_eq_self h]
  exact List.append_nil _

/-- What was quoted symbol by symbol is read symbol by symbol. -/
theorem arrayItems_symbolsText {symbols : List String} (hne : ∀ s ∈ symbols, s ≠ "")
    (hcomma : ∀ s ∈ symbols, ',' ∉ s.toList.flatMap escapeAscii)
    (hquote : ∀ s ∈ symbols, '"' ∉ s.toList.flatMap escapeAscii) :
    arrayItems (stringSplit (symbolsText symbols) ',') = symbols.map fun s => s.toList.flatMap escapeAscii := by
  by_cases hnil : symbols = []
  · rw [hnil]
    rfl
  · have hitems : (symbols.map fun s => dumpsStr s.toList).map (fun part => stringReplace part '"' []) =
        symbols.map fun s => s.toList.flatMap escapeAscii := by
      rw [List.map_map]
      exact List.map_congr_left fun s hs => unquote_dumpsStr (hquote s hs)
    rw [split_symbolsText hnil hcomma, arrayItems, hitems, List.filter_eq_self.mpr]
    intro l hl
    obtain ⟨s, hs, rfl⟩ := List.mem_map.mp hl
    obtain ⟨d, rest, hd⟩ := List.exists_cons_of_ne_nil (fun hnil => hne s hs (String.toList_eq_nil_iff.mp hnil))
    rw [hd, List.flatMap_cons, decide_eq_true_iff]
    exact List.append_ne_nil_of_left_ne_nil (escapeAscii_ne_nil d) _

/-- Symbols without blanks, quotes, commas and closing brackets are read as JSON wrote them. -/
theorem extractSymbols_of_plain (c : Command) (hne : ∀ s ∈ c.symbols, s ≠ "")
    (h : ∀ s ∈ c.symbols, ∀ d ∈ s.toList, Printable d ∧ d ≠ ' ' ∧ d ≠ '"' ∧ d ≠ ',' ∧ d ≠ ']') :
    nt5ExtractJsonStringArray c.encode "symbols".toList =
      some (c.symbols.map fun s => s.toList.flatMap escapeAscii) := by
  -- escaping adds no character that the reading takes for something else
  have hescape : ∀ s ∈ c.symbols, ∀ d ∈ s.toList.flatMap escapeAscii, d ≠ ' ' ∧ d ≠ '"' ∧ d ≠ ',' ∧ d ≠ ']' := by
    intro s hs d hd
    obtain ⟨e, he, hd⟩ := List.mem_flatMap.mp hd
    obtain ⟨hp, hplain⟩ := h s hs e he
    rw [mem_of_mem_escapeAscii hp hplain.2.1 hd]
    exact hplain
  have htext : ∀ d ∈ symbolsText c.symbols, d ≠ ' ' ∧ d ≠ ']' := by
    intro d hd
    rcases mem_symbolsText hd with rfl | rfl | ⟨s, hs, hd⟩
    · simp
    · simp
    · obtain ⟨hblank, -, -, hclose⟩ := hescape s hs d hd
      exact ⟨hblank, hclose⟩
  have hinner :
      (symbolsText c.symbols ++ ']' :: restText c.timeframe?).takeWhile (· ≠ ']') = symbolsText c.symbols := by
    rw [List.takeWhile_append_of_pos fun d hd => decide_eq_true (htext d hd).2, List.takeWhile_cons_of_neg (by simp),
      List.append_nil]
  rw [extractSymbols_eq, hinner, stringReplace_eq_self fun hm => (htext ' ' hm).1 rfl, Option.some_inj]
  exact arrayItems_symbolsText hne (fun s hs hm => (hescape s hs ',' hm).2.2.1 rfl)
    fun s hs hm => (hescape s hs '"' hm).2.1 rfl

/-- The symbols are read as they are exactly when all their characters are safe. -/
theorem symbols_recovered_iff (c : Command) (hne : ∀ s ∈ c.symbols, s ≠ "") :
    nt5ExtractJsonStringArray c.encode "symbols".toList = some (c.symbols.map String.toList) ↔
      ∀ s ∈ c.symbols, ∀ d ∈ s.toList, WireSafe d := by
  have hsame : (∀ s ∈ c.symbols, ∀ d ∈ s.toList, Printable d ∧ d ≠ ' ' ∧ d ≠ '"' ∧ d ≠ ',' ∧ d ≠ ']') →
      (nt5ExtractJsonStringArray c.encode "symbols".toList = some (c.symbols.map String.toList) ↔
        ∀ s ∈ c.symbols, '\\' ∉ s.toList) := by
    intro h
    rw [extractSymbols_of_plain c hne h, Option.some_inj, List.map_inj_left]
    refine forall_congr' fun s => forall_congr' fun hs => ?_
    exact flatMap_escapeAscii_eq_self_iff fun d hd => ⟨(h s hs d hd).1, (h s hs d hd).2.2.1⟩
  constructor
  · intro hread s hs d hd
    have hplain : ∀ s ∈ c.symbols, ∀ d ∈ s.toList, Printable d ∧ d ≠ ' ' ∧ d ≠ '"' ∧ d ≠ ',' ∧ d ≠ ']' :=
      fun s hs d hd => mem_extracted hread (List.mem_map_of_mem hs) hd
    obtain ⟨hp, hblank, hquote, hcomma, hclose⟩ := hplain s hs d hd
    refine ⟨hp, hblank, hquote, hcomma, hclose, ?_⟩
    rintro rfl
    exact (hsame hplain).mp hread s hs hd
  · intro hsafe
    refine (hsame fun s hs d hd => ?_).mpr fun s hs hb => (hsafe s hs '\\' hb).2.2.2.2.2 rfl
    obtain ⟨hp, hblank, hquote, hcomma, hclose, -⟩ := hsafe s hs d hd
    exact ⟨hp, hblank, hquote, hcomma, hclose⟩

/-! ## The timeframe -/

/-- A symbol between quotes. -/
def quoted (s : String) : List Char := '"' :: (s.toList ++ ['"'])

/-- The words between quotes before the symbols, and up to a symbol. -/
def wordsBefore (c : Command) (before : List String) : List (List Char) :=
  ["op".toList, [':'], c.op.toList, [','], "symbols".toList, [':', '[']] ++ before.flatMap fun s => [s.toList, [',']]

section Timeframe

variable {c : Command} {before after : List String}

/-- Safe symbols are written between quotes. -/
theorem symbolsText_of_safe {symbols : List String} (h : ∀ s ∈ symbols, ∀ d ∈ s.toList, WireSafe d) :
    symbolsText symbols = [','].intercalate (symbols.map quoted) := by
  have hmap : symbols.map (fun s => dumpsStr s.toList) = symbols.map quoted := by
    refine List.map_congr_left fun s hs => dumpsStr_of_plain fun d hd => ?_
    obtain ⟨hp, -, hq, -, -, hb⟩ := h s hs d hd
    exact ⟨hp, hq, hb⟩
  rw [symbolsText, hmap]

theorem intercalate_quoted_append (before : List String) (s : String) (after : List String) :
    [','].intercalate ((before ++ s :: after).map quoted) =
      (before.flatMap fun t => [t.toList, [',']]).flatMap ('"' :: ·) ++
        (quoted s ++ after.flatMap fun t => ',' :: quoted t) := by
  induction before with
  | nil => rw [List.nil_append, List.map_cons, intercalate_cons, List.flatMap_map]; rfl
  | cons t before ih =>
    have hne : (before ++ s :: after).map quoted ≠ [] := by simp
    rw [List.cons_append, List.map_cons, List.intercalate_cons_of_ne_nil hne, ih]
    simp [quoted]

/-- No word before a symbol has a quote in it. -/
theorem not_mem_wordsBefore (c : Command) (h : ∀ s ∈ before, ∀ d ∈ s.toList, WireSafe d) :
    ∀ u ∈ wordsBefore c before, '"' ∉ u := by
  have hall : ∀ u ∈ ["symbols".toList, [':', '[']], '"' ∉ u := by decide
  apply not_mem_headWords c
  intro u hu
  rcases List.mem_append.mp hu with hu | hu
  · exact hall u hu
  · obtain ⟨s, hs, hu⟩ := List.mem_flatMap.mp hu
    simp only [List.mem_cons, List.not_mem_nil, or_false] at hu
    rcases hu with rfl | rfl
    · exact fun hq => (h s hs '"' hq).2.2.1 rfl
    · simp

/-- The field is not among the words before, when no symbol there is called like it. -/
theorem timeframe_not_mem_wordsBefore (c : Command) (h : "timeframe" ∉ before) :
    "timeframe".toList ∉ wordsBefore c before := by
  have hno : "timeframe".toList ∉ ["symbols".toList, [':', '[']] := by decide
  apply ne_headWords c "timeframe" (.inr rfl)
  intro hu
  rcases List.mem_append.mp hu with hu | hu
  · exact hno hu
  · obtain ⟨s, hs, hu⟩ := List.mem_flatMap.mp hu
    simp only [List.mem_cons, List.not_mem_nil, or_false] at hu
    rcases hu with hu | hu
    · rw [String.toList_inj] at hu
      exact h (hu ▸ hs)
    · exact absurd hu (by decide)

/-- What is read for the timeframe, by the text behind the first word that is called like the field. -/
theorem timeframe_of_split (gap mid value rest : List Char) {words : List (List Char)}
    (hjson : c.encode = '{' :: (words.flatMap ('"' :: ·) ++
      '"' :: ("timeframe".toList ++ '"' :: (gap ++ ':' :: (mid ++ '"' :: (value ++ '"' :: rest))))))
    (hwords : ∀ u ∈ words, '"' ∉ u) (hne : "timeframe".toList ∉ words) (hgap : ':' ∉ gap) (hmid : '"' ∉ mid)
    (hvalue : '"' ∉ value) : nt5ExtractJsonStringField c.encode "timeframe".toList = some value := by
  have hfirst : '"' ∉ ['{'] := by simp
  have hkey : '"' ∉ "timeframe".toList := by decide
  have hcolon : ':' ∉ '"' :: ("timeframe".toList ++ '"' :: gap) := by
    have hno : ':' ∉ '"' :: "timeframe".toList := by decide
    intro hm
    rw [← List.cons_append, List.mem_append] at hm
    rcases hm with hm | hm
    · exact hno hm
    rcases List.mem_cons.mp hm with hm | hm
    · cases hm
    · exact hgap hm
  refine extractStringField_of_split (['{'] ++ words.flatMap ('"' :: ·)) mid rest ?_ ?_ hcolon hmid hvalue
  · rw [hjson]
    generalize "timeframe".toList = key
    simp
  · rw [hjson]
    exact indexOf_quoted ['{'] "timeframe".toList hfirst hwords hkey hne _

/-- The text of a command up to one of its symbols, and from there. -/
theorem encode_split {s : String} (hs : c.symbols = before ++ s :: after)
    (h : ∀ s ∈ c.symbols, ∀ d ∈ s.toList, WireSafe d) :
    c.encode = '{' :: ((wordsBefore c before).flatMap ('"' :: ·) ++
      (quoted s ++ (after.flatMap (fun t => ',' :: quoted t) ++ ']' :: restText c.timeframe?))) := by
  rw [encode_eq, symbolsText_of_safe h, hs, intercalate_quoted_append, wordsBefore, List.flatMap_append]
  generalize "op".toList = key
  generalize "symbols".toList = key'
  simp

theorem token_plain (tf : Timeframe) :
    '"' ∉ tf.token.toList ∧ tf.token.toList ≠ [','] ∧ tf.token.toList ≠ [']', ','] := by
  cases tf <;> decide

/-- Without a symbol that is called like the field, the timeframe is read. -/
theorem timeframe_of_not_mem {tf : Timeframe} (htf : c.timeframe? = some tf)
    (h : ∀ s ∈ c.symbols, ∀ d ∈ s.toList, WireSafe d) (hno : "timeframe" ∉ c.symbols) :
    nt5ExtractJsonStringField c.encode "timeframe".toList = some tf.token.toList := by
  rcases List.eq_nil_or_concat' c.symbols with hnil | ⟨before, z, hlast⟩
  · -- the words up to the field, with an empty array
    have hwords := not_mem_headWords c ["symbols".toList, [':', '[', ']', ',']] (by decide)
    have hne := ne_headWords c "timeframe" (.inr rfl) ["symbols".toList, [':', '[', ']', ',']] (by decide)
    refine timeframe_of_split [] [] _ ['}'] ?_ hwords hne List.not_mem_nil List.not_mem_nil
      (token_plain tf).1
    rw [encode_eq, hnil, htf, restText]
    generalize "op".toList = key
    generalize "symbols".toList = key'
    generalize "timeframe".toList = key''
    simp [symbolsText]
  · have hsplit : c.symbols = before ++ z :: [] := hlast
    have hsafe : ∀ s ∈ before, ∀ d ∈ s.toList, WireSafe d := fun s hs => h s (hsplit ▸ List.mem_append_left _ hs)
    have hz : z ∈ c.symbols := hsplit ▸ List.mem_append_right _ List.mem_cons_self
    have hwords : ∀ u ∈ wordsBefore c before ++ [z.toList, [']', ',']], '"' ∉ u := by
      intro u hu
      rcases List.mem_append.mp hu with hu | hu
      · exact not_mem_wordsBefore c hsafe u hu
      · simp only [List.mem_cons, List.not_mem_nil, or_false] at hu
        rcases hu with rfl | rfl
        · exact fun hq => (h z hz '"' hq).2.2.1 rfl
        · simp
    have hne : "timeframe".toList ∉ wordsBefore c before ++ [z.toList, [']', ',']] := by
      intro hu
      rcases List.mem_append.mp hu with hu | hu
      · exact timeframe_not_mem_wordsBefore c (fun hm => hno (hsplit ▸ List.mem_append_left _ hm)) hu
      · simp only [List.mem_cons, List.not_mem_nil, or_false, String.toList_inj] at hu
        rcases hu with hu | hu
        · exact hno (hu ▸ hz)
        · exact absurd hu (by decide)
    refine timeframe_of_split [] [] _ ['}'] ?_ hwords hne List.not_mem_nil List.not_mem_nil
      (token_plain tf).1
    rw [encode_split hsplit h, htf, restText, List.flatMap_append]
    generalize "timeframe".toList = key''
    simp [quoted]

/-- Quoted symbols without a colon have none between them either. -/
theorem colon_not_mem_quoted {symbols : List String} (h : ∀ s ∈ symbols, ':' ∉ s.toList) :
    ':' ∉ symbols.flatMap fun s => ',' :: quoted s := by
  intro hm
  obtain ⟨s, hs, hm⟩ := List.mem_flatMap.mp hm
  simp only [quoted, List.mem_cons, List.mem_append, List.not_mem_nil, or_false] at hm
  rcases hm with hm | hm | hm | hm
  · cases hm
  · cases hm
  · exact h s hs hm
  · cases hm

/-- Behind a symbol that is called like the field, without a colon after it, the timeframe is read all the same. -/
theorem timeframe_of_no_colon {tf : Timeframe} (htf : c.timeframe? = some tf)
    (h : ∀ s ∈ c.symbols, ∀ d ∈ s.toList, WireSafe d) (hs : c.symbols = before ++ "timeframe" :: after)
    (hb : "timeframe" ∉ before) (hcolon : ∀ s ∈ after, ':' ∉ s.toList) :
    nt5ExtractJsonStringField c.encode "timeframe".toList = some tf.token.toList := by
  have hsafe : ∀ s ∈ before, ∀ d ∈ s.toList, WireSafe d := fun s hm => h s (hs ▸ List.mem_append_left _ hm)
  have hgap :
      ':' ∉ after.flatMap (fun t => ',' :: quoted t) ++ (']' :: ',' :: '"' :: ("timeframe".toList ++ ['"'])) := by
    intro hm
    rcases List.mem_append.mp hm with hm | hm
    · exact colon_not_mem_quoted hcolon hm
    · exact absurd hm (by decide)
  refine timeframe_of_split _ [] _ ['}'] ?_ (not_mem_wordsBefore c hsafe)
    (timeframe_not_mem_wordsBefore c hb) hgap List.not_mem_nil (token_plain tf).1
  rw [encode_split hs h, htf, restText, quoted]
  generalize "timeframe".toList = key''
  simp

/-- The first symbol with a colon. -/
theorem exists_first_colon {symbols : List String} (h : ∃ s ∈ symbols, ':' ∈ s.toList) :
    ∃ m t r, symbols = m ++ t :: r ∧ ':' ∈ t.toList ∧ ∀ u ∈ m, ':' ∉ u.toList := by
  cases hf : symbols.find? fun s => ':' ∈ s.toList with
  | none =>
    obtain ⟨s, hmem, hc⟩ := h
    exact absurd hc (by simpa using List.find?_eq_none.mp hf s hmem)
  | some t =>
    obtain ⟨ht, m, r, hsymbols, hm⟩ := List.find?_eq_some_iff_append.mp hf
    exact ⟨m, t, r, hsymbols, by simpa using ht, by simpa using hm⟩

/-- A colon in a symbol after one that is called like the field hides the timeframe: what is read is a separator. -/
theorem timeframe_of_colon {tf : Timeframe} (htf : c.timeframe? = some tf)
    (h : ∀ s ∈ c.symbols, ∀ d ∈ s.toList, WireSafe d) (hs : c.symbols = before ++ "timeframe" :: after)
    (hb : "timeframe" ∉ before) (hcolon : ∃ s ∈ after, ':' ∈ s.toList) :
    nt5ExtractJsonStringField c.encode "timeframe".toList ≠ some tf.token.toList := by
  have hsafe : ∀ s ∈ before, ∀ d ∈ s.toList, WireSafe d := fun s hm => h s (hs ▸ List.mem_append_left _ hm)
  -- the first colon after the symbol
  obtain ⟨m, t, r, rfl, ht, hm⟩ := exists_first_colon hcolon
  obtain ⟨x, y, hy, hx⟩ := List.eq_append_cons_of_mem ht
  have hty : '"' ∉ y := fun hq =>
    (h t (hs ▸ List.mem_append_right _ (List.mem_cons_of_mem _ (List.mem_append_right _ List.mem_cons_self))) '"'
      (hy ▸ List.mem_append_right _ (List.mem_cons_of_mem _ hq))).2.2.1 rfl
  have hgap : ':' ∉ m.flatMap (fun t => ',' :: quoted t) ++ (',' :: '"' :: x) := by
    intro hin
    rcases List.mem_append.mp hin with hin | hin
    · exact colon_not_mem_quoted hm hin
    · have hin : ':' ∈ x := by simpa using hin
      exact hx hin
  have hquoted : quoted t = '"' :: (x ++ ':' :: (y ++ ['"'])) := by simp [quoted, hy]
  -- what is read is what stands between the quote of that symbol and the next one
  have hread : ∀ value rest,
      r.flatMap (fun t => ',' :: quoted t) ++ ']' :: restText c.timeframe? = value ++ '"' :: rest → '"' ∉ value →
      nt5ExtractJsonStringField c.encode "timeframe".toList = some value := by
    intro value rest htail hvalue
    refine timeframe_of_split _ y value rest ?_ (not_mem_wordsBefore c hsafe) (timeframe_not_mem_wordsBefore c hb) hgap
      hty hvalue
    rw [encode_split hs h, List.flatMap_append, List.flatMap_cons, hquoted, quoted, List.append_assoc,
      List.append_assoc, htail]
    generalize "timeframe".toList = key
    simp
  cases r with
  | nil =>
    have hnext := hread [']', ','] ("timeframe".toList ++ '"' :: ':' :: '"' :: (tf.token.toList ++ ['"', '}']))
      (by rw [htf]; rfl) (by decide)
    rw [hnext, Ne, Option.some_inj]
    exact fun heq => (token_plain tf).2.2 heq.symm
  | cons u r =>
    have hnext := hread [',']
      (u.toList ++ '"' :: (r.flatMap (fun t => ',' :: quoted t) ++ ']' :: restText c.timeframe?))
      (by rw [List.flatMap_cons]; simp [quoted]) (by decide)
    rw [hnext, Ne, Option.some_inj]
    exact fun heq => (token_plain tf).2.1 heq.symm

/-- What hides the timeframe comes after the first symbol that is called like the field. -/
theorem hidesTimeframe_iff {symbols : List String} (hs : symbols = before ++ "timeframe" :: after)
    (hb : "timeframe" ∉ before) : HidesTimeframe symbols ↔ ∃ s ∈ after, ':' ∈ s.toList := by
  constructor
  · rintro ⟨before', after', hs', s, hmem, hc⟩
    refine ⟨s, ?_, hc⟩
    rcases List.append_eq_append_iff.mp (hs.symm.trans hs') with ⟨a, rfl, ha⟩ | ⟨a, rfl, ha⟩
    · cases a with
      | nil => exact (List.cons.inj ha).2 ▸ hmem
      | cons t a =>
        rw [(List.cons.inj ha).2]
        exact List.mem_append_right _ (List.mem_cons_of_mem _ hmem)
    · cases a with
      | nil => exact (List.cons.inj ha).2 ▸ hmem
      | cons t a =>
        have ht : "timeframe" = t := (List.cons.inj ha).1
        exact absurd (List.mem_append_right _ (ht ▸ List.mem_cons_self)) hb
  · exact fun hlater => ⟨before, after, hs, hlater⟩

/-- With safe symbols the timeframe is read exactly when they do not hide it. -/
theorem timeframe_recovered_iff {tf : Timeframe} (htf : c.timeframe? = some tf)
    (h : ∀ s ∈ c.symbols, ∀ d ∈ s.toList, WireSafe d) :
    nt5ExtractJsonStringField c.encode "timeframe".toList = some tf.token.toList ↔ ¬ HidesTimeframe c.symbols := by
  by_cases hmem : "timeframe" ∈ c.symbols
  · obtain ⟨before, after, hs, hb⟩ := List.eq_append_cons_of_mem hmem
    rw [hidesTimeframe_iff hs hb]
    by_cases hcolon : ∃ s ∈ after, ':' ∈ s.toList
    · exact iff_of_false (timeframe_of_colon htf h hs hb hcolon) (not_not_intro hcolon)
    · push Not at hcolon
      exact iff_of_true (timeframe_of_no_colon htf h hs hb hcolon) (by push Not; exact hcolon)
  · apply iff_of_true (timeframe_of_not_mem htf h hmem)
    rintro ⟨before, after, hs, -⟩
    exact hmem (hs ▸ List.mem_append_right _ List.mem_cons_self)

end Timeframe

/-- **The Service reads a command as it was written** exactly when the command has only characters that arrive and its
symbols do not hide its timeframe. -/
theorem command_recovered_iff (c : Command) (hne : ∀ s ∈ c.symbols, s ≠ "") : c.Recovered ↔ c.Recoverable := by
  constructor
  · intro hread
    have hsafe := (symbols_recovered_iff c hne).mp hread.symbols
    refine ⟨hsafe, fun hsome => ?_⟩
    obtain ⟨tf, htf⟩ := Option.ne_none_iff_exists'.mp hsome
    exact (timeframe_recovered_iff htf hsafe).mp (hread.timeframe tf htf)
  · intro hok
    refine ⟨op_recovered c, (symbols_recovered_iff c hne).mpr hok.safe, fun tf htf => ?_⟩
    exact (timeframe_recovered_iff htf hok.safe).mpr (hok.notHidden (by simp [htf]))

/-- A subscription to the bars of two currency pairs is read. -/
theorem currency_pairs_recovered : (Command.subscribeBars ["EURUSD", "USDJPY"] .M1).Recovered := by
  have hall : ∀ s ∈ ["EURUSD", "USDJPY"], (s.toList.all fun c => WireSafe c) = true := by decide
  refine (command_recovered_iff (.subscribeBars ["EURUSD", "USDJPY"] .M1) (by simp [Command.symbols])).mpr
    ⟨fun s hs => forall_mem_of_all (hall s hs), fun _ => ?_⟩
  rintro ⟨before, after, hs, -⟩
  have hs' : ["EURUSD", "USDJPY"] = before ++ "timeframe" :: after := hs
  have hmem : "timeframe" ∈ ["EURUSD", "USDJPY"] := by simp [hs']
  simp at hmem

/-- **Blanks are lost**: the Service subscribes to another symbol. -/
theorem blanks_lost : ¬ (Command.subscribe ["Volatility 75 Index"]).Recovered := by
  intro hread
  have hsafe := (symbols_recovered_iff (.subscribe ["Volatility 75 Index"])
    (by simp [Command.symbols])).mp hread.symbols
  exact absurd (hsafe "Volatility 75 Index" List.mem_cons_self ' ' (by decide)) (by decide)

end NautilusMt5
