import NautilusMt5.Feed.ParseMessage
import NautilusMt5.Feed.WireMessages
import NautilusMt5.Lib.JsonReads

/-!
# Messages on the wire

What the Service writes with `StringFormat`, `parse_wire_message` reads: the text of a message is an object whose values
the JSON scanner reads (`ServiceMessage.reads_members`), and of these values the adapter makes the message again.

Integers have the ranges of their types at the Service. The volume of a tick is an `ulong` that is written as a `long`,
so from `2 ^ 63` on another number arrives (`large_volume_negative`).
-/

namespace NautilusMt5

open Py Mql

/-- The double of a number of units of the eighth decimal. -/
def price (n : ℤ) : ℚ := Binary64.round (n / 10 ^ 8)

/-- A price with at most eight decimals: the double of such a number. -/
structure IsPrice (x : ℚ) : Prop where
  decimal : ∃ n : ℤ, x = price n
  finite : |x| < 2 ^ 1024

/-! ## Values -/

/-- The two replacements escape character by character. -/
theorem nt5JsonEscape_eq (s : List Char) : nt5JsonEscape s = s.flatMap Json.escapeQuotes := by
  unfold nt5JsonEscape
  induction s with
  | nil => rfl
  | cons c s ih =>
    rw [List.flatMap_cons, ← ih]
    show stringReplace (stringReplace ([c] ++ s) '\\' ['\\', '\\']) '"' ['\\', '"'] = _
    rw [stringReplace_append, stringReplace_append]
    congr 1
    by_cases hb : c = '\\'
    · subst hb
      rfl
    · by_cases hq : c = '"'
      · subst hq
        rfl
      · simp [stringReplace, Json.escapeQuotes, hb, hq]

variable {n : ℕ} {s t : String}

theorem reads_quotedText (n : ℕ) (hs : ∀ c ∈ s.toList, ' ' ≤ c) : Json.Reads n (quotedText s.toList) (.str s) := by
  have hreads := Json.reads_str n hs
  rw [String.ofList_toList] at hreads
  rw [quotedText, nt5JsonEscape_eq]
  exact hreads

theorem reads_formatInt (n : ℕ) {z : ℤ} (hz : IsLong z) : Json.Reads n (formatInt z) (.int z) := by
  apply Json.reads_int n
  have hlen : (Json.digitsText z.natAbs).length ≤ 20 := by
    rw [Json.digitsText, Nat.length_toDigits_le_iff (by omega) (by omega)]
    obtain ⟨hlo, hhi⟩ := hz
    omega
  omega

theorem ofRat_of_lt {q : ℚ} (h : |Binary64.round q| < 2 ^ 1024) : PyFloat.ofRat q = .finite (Binary64.round q) := by
  unfold PyFloat.ofRat
  generalize (2 : ℚ) ^ 1024 = b at h ⊢
  obtain ⟨hlo, hhi⟩ := abs_lt.mp h
  rw [if_neg (not_le.mpr hhi), if_neg (not_le.mpr hlo)]

/-- What `%.8f` writes is nearest to the number. -/
theorem isNearest8_units (x : ℚ) :
    Binary64.IsNearest8 x (Json.signed (decide (x < 0)) (Binary64.decimals8 |x|).toNat) := by
  have hnonneg : 0 ≤ Binary64.decimals8 |x| := Binary64.roundHalfEven_nonneg (by positivity)
  have hnear := Binary64.isNearest8_decimals8 |x|
  rw [Json.signed, Int.toNat_of_nonneg hnonneg]
  by_cases hx : x < 0
  · rw [abs_of_neg hx] at hnear ⊢
    have hneg := hnear.neg
    rw [neg_neg] at hneg
    rw [if_pos (decide_eq_true hx)]
    exact hneg
  · rw [abs_of_nonneg (not_lt.mp hx)] at hnear ⊢
    rw [if_neg (by simpa using hx)]
    exact hnear

/-- A price is read as it was. -/
theorem reads_formatFixed8 (n : ℕ) {x : ℚ} (hx : IsPrice x) :
    Json.Reads n (formatFixed8 x) (.float (.finite x)) := by
  obtain ⟨⟨k, hk⟩, hfinite⟩ := hx
  rw [price] at hk
  have hnear := isNearest8_units x
  rw [formatFixed8]
  generalize (Binary64.decimals8 |x|).toNat = units at hnear ⊢
  have hd : ∀ c ∈ lastDigits 8 (units % 10 ^ 8), c.isDigit = true := fun _ => isDigit_of_mem_lastDigits
  have hlen := length_lastDigits 8 (units % 10 ^ 8)
  have hne : lastDigits 8 (units % 10 ^ 8) ≠ [] := List.ne_nil_of_length_pos (by omega)
  have hreads := Json.reads_decimal n (decide (x < 0)) (units / 10 ^ 8) hd hne
  -- the digits are the units
  have hunits : Nat.ofDigitChars 10 (Json.digitsText (units / 10 ^ 8) ++ lastDigits 8 (units % 10 ^ 8)) 0 = units := by
    rw [Nat.ofDigitChars_append, Json.digitsText, Nat.ofDigitChars_ten_toDigits, ofDigitChars_lastDigits, Nat.mod_mod]
    exact Nat.div_add_mod' units (10 ^ 8)
  rw [hunits, hlen] at hreads
  -- whose double is the price
  rw [hk] at hnear
  have hround := Binary64.round_of_isNearest8 hnear
  rw [← hk] at hround
  rw [ofRat_of_lt (by rw [hround]; exact hfinite), hround] at hreads
  simpa only [decide_eq_true_eq, Json.digitsText] using hreads

/-! ## Messages of the Service -/

/-- A message of the Service, by what it is made from. -/
inductive ServiceMessage
  | hello (terminal : String) (account : ℤ) (session : String) (symbols : List String) (bars : List BarKey)
  | ticks (symbol : String) (cursor : ℤ) (batch : List (MqlTick ℚ))
  | bar (symbol timeframe : String) (rate : MqlRates)

/-- A text that is not empty and has no control characters. -/
structure IsText (s : String) : Prop where
  ne : s ≠ ""
  le : ∀ c ∈ s.toList, ' ' ≤ c

/-- The name of a symbol. -/
structure IsSymbol (s : String) : Prop extends IsText s where
  noColon : ':' ∉ s.toList
  trimmed : Trimmed s

/-- A tick of the terminal, with prices of at most eight decimals. -/
structure IsTick (t : MqlTick ℚ) : Prop where
  timeMsc : IsLong t.timeMsc
  bid : IsPrice t.bid
  ask : IsPrice t.ask
  last : IsPrice t.last
  volume : t.volume < 2 ^ 64
  flags : t.flags < 2 ^ 32

/-- A bar of the terminal, with prices of at most eight decimals. -/
structure IsRates (r : MqlRates) : Prop where
  time : IsLong r.time
  openPrice : IsPrice r.openPrice
  high : IsPrice r.high
  low : IsPrice r.low
  close : IsPrice r.close
  tickVolume : IsLong r.tickVolume
  realVolume : IsLong r.realVolume
  spread : IsLong r.spread

namespace ServiceMessage

/-- What the Service sends. -/
def json : ServiceMessage → List Char
  | .hello terminal account session symbols bars =>
    nt5BuildHelloJson terminal.toList account session.toList (symbols.map String.toList)
      (bars.map fun k => nt5BarSpecToJson k.1.toList k.2.token.toList)
  | .ticks symbol cursor batch => nt5BuildTicksJson symbol.toList cursor batch batch.length
  | .bar symbol timeframe rate => nt5BuildBarJson symbol.toList timeframe.toList rate

/-- The parts of the message are what they are at the Service. -/
def WellFormed : ServiceMessage → Prop
  | .hello terminal account session symbols bars =>
    IsText terminal ∧ IsLong account ∧ IsText session ∧ (∀ s ∈ symbols, IsSymbol s) ∧ ∀ k ∈ bars, IsSymbol k.1
  | .ticks symbol cursor batch => IsSymbol symbol ∧ IsLong cursor ∧ ∀ t ∈ batch, IsTick t
  | .bar symbol timeframe rate => IsSymbol symbol ∧ IsText timeframe ∧ IsRates rate

/-- The volumes are volumes of a `long`, too. -/
def VolumesFit : ServiceMessage → Prop
  | .ticks _ _ batch => ∀ t ∈ batch, t.volume < 2 ^ 63
  | _ => True

end ServiceMessage

/-- A bar key as a spec. -/
def BarKey.spec (k : BarKey) : String := k.1 ++ String.singleton ':' ++ k.2.token

/-- A tick with the volume that is written. -/
def sentTick (t : MqlTick ℚ) (volume : ℤ) : WireTick :=
  { timeMsc := t.timeMsc, bid := .finite t.bid, ask := .finite t.ask, last := .finite t.last, volume := volume,
    flags := t.flags }

/-- A bar as the adapter has it. -/
def sentBar (symbol timeframe : String) (r : MqlRates) : WireBar :=
  { symbol, timeframe, time := r.time, openPrice := .finite r.openPrice, high := .finite r.high, low := .finite r.low,
    close := .finite r.close, tickVolume := r.tickVolume, realVolume := r.realVolume, spread := r.spread }

/-- The message of these parts, with the volumes of the ticks as they are written. -/
def ServiceMessage.messageWith (volume : ℕ → ℤ) : ServiceMessage → WireInboundMessage
  | .hello terminal account session symbols bars =>
    .hello {
      session, symbols, bars := bars.map BarKey.spec
      terminal := some (.str terminal), account := some (toString account) }
  | .ticks symbol cursor batch => .ticks { symbol, cursor, ticks := batch.map fun t => sentTick t (volume t.volume) }
  | .bar symbol timeframe rate => .bar (sentBar symbol timeframe rate)

/-- The message with the field values of the Service. -/
def ServiceMessage.message (m : ServiceMessage) : WireInboundMessage := m.messageWith fun volume => volume

/-! ## What the scanner reads -/

theorem plain_keys : ∀ key ∈ ["op", "session", "terminal", "account", "symbols", "bars", "symbol", "cursor", "data",
    "timeframe", "time", "open", "high", "low", "close", "tick_volume", "real_volume", "spread", "time_msc", "bid",
    "ask", "last", "volume", "flags"], ∀ c ∈ key.toList, Printable c ∧ c ≠ '"' ∧ c ≠ '\\' := by
  intro key hkey
  apply forall_mem_of_all
  revert key
  decide

/-- The members of a tick. -/
def tickMembers (t : MqlTick ℚ) : List Json.Member :=
  [⟨"time_msc", formatInt t.timeMsc, .int t.timeMsc⟩, ⟨"bid", formatFixed8 t.bid, .float (.finite t.bid)⟩,
    ⟨"ask", formatFixed8 t.ask, .float (.finite t.ask)⟩, ⟨"last", formatFixed8 t.last, .float (.finite t.last)⟩,
    ⟨"volume", formatInt (asLong t.volume), .int (asLong t.volume)⟩, ⟨"flags", formatInt t.flags, .int t.flags⟩]

theorem reads_tick (n : ℕ) {t : MqlTick ℚ} (h : IsTick t) :
    Json.Reads (n + 1) (nt5TickToJson t) (.dict ((tickMembers t).map fun m => (m.key, m.value))) := by
  have hplain := plain_keys
  have hreads : ∀ m ∈ tickMembers t, m.Reads n := by
    simp only [tickMembers, List.forall_mem_cons]
    refine ⟨⟨hplain _ (by simp), reads_formatInt n h.timeMsc⟩, ⟨hplain _ (by simp), reads_formatFixed8 n h.bid⟩,
      ⟨hplain _ (by simp), reads_formatFixed8 n h.ask⟩, ⟨hplain _ (by simp), reads_formatFixed8 n h.last⟩,
      ⟨hplain _ (by simp), reads_formatInt n (isLong_asLong t.volume)⟩,
      ⟨hplain _ (by simp), reads_formatInt n ?_⟩, List.forall_mem_nil _⟩
    have hflags := h.flags
    unfold IsLong
    omega
  rw [nt5TickToJson_eq]
  exact Json.reads_dict hreads

/-- The members of a message. -/
def ServiceMessage.members : ServiceMessage → List Json.Member
  | .hello terminal account session symbols bars =>
    [⟨"op", dumpsStr "hello".toList, .str "hello"⟩, ⟨"session", quotedText session.toList, .str session⟩,
      ⟨"terminal", quotedText terminal.toList, .str terminal⟩,
      ⟨"account", '"' :: (formatInt account ++ ['"']), .str (toString account)⟩,
      ⟨"symbols", dumpsList (symbols.map fun s => quotedText s.toList), .list (symbols.map .str)⟩,
      ⟨"bars", dumpsList (bars.map fun k => quotedText k.spec.toList), .list (bars.map fun k => .str k.spec)⟩]
  | .ticks symbol cursor batch =>
    [⟨"op", dumpsStr "ticks".toList, .str "ticks"⟩, ⟨"symbol", quotedText symbol.toList, .str symbol⟩,
      ⟨"cursor", formatInt cursor, .int cursor⟩,
      ⟨"data", dumpsList (batch.map nt5TickToJson),
        .list (batch.map fun t => .dict ((tickMembers t).map fun m => (m.key, m.value)))⟩]
  | .bar symbol timeframe r =>
    [⟨"op", dumpsStr "bar".toList, .str "bar"⟩, ⟨"symbol", quotedText symbol.toList, .str symbol⟩,
      ⟨"timeframe", quotedText timeframe.toList, .str timeframe⟩, ⟨"time", formatInt r.time, .int r.time⟩,
      ⟨"open", formatFixed8 r.openPrice, .float (.finite r.openPrice)⟩,
      ⟨"high", formatFixed8 r.high, .float (.finite r.high)⟩, ⟨"low", formatFixed8 r.low, .float (.finite r.low)⟩,
      ⟨"close", formatFixed8 r.close, .float (.finite r.close)⟩,
      ⟨"tick_volume", formatInt r.tickVolume, .int r.tickVolume⟩,
      ⟨"real_volume", formatInt r.realVolume, .int r.realVolume⟩, ⟨"spread", formatInt r.spread, .int r.spread⟩]

/-- A bar spec is one text, the colon is not escaped. -/
theorem nt5BarSpecToJson_spec (k : BarKey) :
    nt5BarSpecToJson k.1.toList k.2.token.toList = quotedText k.spec.toList := by
  have hspec : k.spec.toList = k.1.toList ++ ':' :: k.2.token.toList := by simp [BarKey.spec]
  rw [nt5BarSpecToJson_eq, quotedText, hspec, nt5JsonEscape_eq, nt5JsonEscape_eq, nt5JsonEscape_eq, List.flatMap_append,
    List.flatMap_cons, List.append_assoc]
  rfl

/-- The text of a message is an object of its members. -/
theorem ServiceMessage.json_eq (m : ServiceMessage) :
    m.json = dumpsDict (m.members.map fun m => (m.key.toList, m.text)) := by
  cases m with
  | hello terminal account session symbols bars =>
    rw [json, nt5BuildHelloJson_eq, List.map_map]
    simp only [nt5BarSpecToJson_spec]
    rfl
  | ticks symbol cursor batch => rw [json, nt5BuildTicksJson_eq]; rfl
  | bar symbol timeframe rate => rw [json, nt5BuildBarJson_eq]; rfl

theorem toList_toString (z : ℤ) : (toString z).toList = formatInt z := by
  rw [Int.toString_eq_repr, Int.repr_eq_if, formatInt]
  by_cases hz : z < 0
  · have hnot : ¬ 0 ≤ z := not_le.mpr hz
    have habs : (-z).toNat = z.natAbs := by omega
    simp [hz, hnot, habs, Nat.toList_repr]
  · have habs : z.toNat = z.natAbs := by omega
    simp [hz, not_lt.mp hz, habs, Nat.toList_repr]

/-- The digits of a number are between quotes as they are. -/
theorem quotedText_formatInt (z : ℤ) : quotedText (formatInt z) = '"' :: (formatInt z ++ ['"']) := by
  have hb : '\\' ∉ formatInt z := by
    intro h
    rcases mem_formatInt h with h | h <;> simp at h
  have hq : '"' ∉ formatInt z := by
    intro h
    rcases mem_formatInt h with h | h <;> simp at h
  rw [quotedText, nt5JsonEscape]
  simp only [stringReplace_eq_self hb, stringReplace_eq_self hq]

theorem reads_account (n : ℕ) (z : ℤ) : Json.Reads n ('"' :: (formatInt z ++ ['"'])) (.str (toString z)) := by
  rw [← quotedText_formatInt, ← toList_toString]
  refine reads_quotedText n fun c hc => ?_
  rw [toList_toString] at hc
  rcases mem_formatInt hc with rfl | hd
  · decide
  · have hle : '0' ≤ c := by
      simp only [Char.isDigit, Bool.and_eq_true, decide_eq_true_eq] at hd
      exact hd.1
    exact Char.le_trans (by decide) hle

/-- Texts between quotes are a list of strings. -/
theorem reads_strings {α : Type} (n : ℕ) {l : List α} (f : α → String) (h : ∀ a ∈ l, ∀ c ∈ (f a).toList, ' ' ≤ c) :
    Json.Reads (n + 1) (dumpsList (l.map fun a => quotedText (f a).toList)) (.list (l.map fun a => .str (f a))) := by
  have hall : ∀ i ∈ l.map fun a => (quotedText (f a).toList, Json.str (f a)), Json.Reads n i.1 i.2 := by
    intro i hi
    obtain ⟨a, ha, rfl⟩ := List.mem_map.mp hi
    exact reads_quotedText n (h a ha)
  have hreads := Json.reads_list hall
  rw [List.map_map, List.map_map] at hreads
  exact hreads

theorem reads_op (n : ℕ) {op : String} (hop : op ∈ ["hello", "ticks", "bar"]) :
    Json.Reads n (dumpsStr op.toList) (.str op) := by
  have hall : ∀ op ∈ ["hello", "ticks", "bar"],
      dumpsStr op.toList = quotedText op.toList ∧ (op.toList.all fun c => ' ' ≤ c) = true := by decide
  obtain ⟨htext, hle⟩ := hall op hop
  rw [htext]
  exact reads_quotedText n (forall_mem_of_all hle)

/-- The token of a timeframe. -/
theorem isText_token (tf : Timeframe) : IsText tf.token where
  ne := by cases tf <;> simp [Timeframe.token]
  le := by cases tf <;> exact forall_mem_of_all (by decide)

theorem BarKey.le_of_mem_spec {k : BarKey} (h : IsSymbol k.1) : ∀ c ∈ k.spec.toList, ' ' ≤ c := by
  intro c hc
  have hspec : k.spec.toList = k.1.toList ++ ':' :: k.2.token.toList := by simp [BarKey.spec]
  rw [hspec, List.mem_append, List.mem_cons] at hc
  rcases hc with hc | rfl | hc
  · exact h.le c hc
  · decide
  · exact (isText_token k.2).le c hc

/-- The values of a message are read. -/
theorem ServiceMessage.reads_members (n : ℕ) {m : ServiceMessage} (h : m.WellFormed) :
    ∀ i ∈ m.members, i.Reads (n + 2) := by
  have hplain := plain_keys
  cases m with
  | hello terminal account session symbols bars =>
    obtain ⟨hterminal, -, hsession, hsymbols, hbars⟩ := h
    simp only [members, List.forall_mem_cons]
    refine ⟨⟨hplain _ (by simp), reads_op _ (by simp)⟩, ⟨hplain _ (by simp), reads_quotedText _ hsession.le⟩,
      ⟨hplain _ (by simp), reads_quotedText _ hterminal.le⟩, ⟨hplain _ (by simp), reads_account _ account⟩,
      ⟨hplain _ (by simp), reads_strings _ id fun s hs => (hsymbols s hs).le⟩,
      ⟨hplain _ (by simp), reads_strings _ BarKey.spec fun k hk => BarKey.le_of_mem_spec (hbars k hk)⟩,
      List.forall_mem_nil _⟩
  | ticks symbol cursor batch =>
    obtain ⟨hsymbol, hcursor, hbatch⟩ := h
    have hticks : ∀ i ∈ batch.map fun t => (nt5TickToJson t, Json.dict ((tickMembers t).map fun m => (m.key, m.value))),
        Json.Reads (n + 1) i.1 i.2 := by
      intro i hi
      obtain ⟨t, ht, rfl⟩ := List.mem_map.mp hi
      exact reads_tick n (hbatch t ht)
    have hdata := Json.reads_list hticks
    rw [List.map_map, List.map_map] at hdata
    simp only [members, List.forall_mem_cons]
    exact ⟨⟨hplain _ (by simp), reads_op _ (by simp)⟩, ⟨hplain _ (by simp), reads_quotedText _ hsymbol.le⟩,
      ⟨hplain _ (by simp), reads_formatInt _ hcursor⟩, ⟨hplain _ (by simp), hdata⟩, List.forall_mem_nil _⟩
  | bar symbol timeframe r =>
    obtain ⟨hsymbol, htimeframe, hr⟩ := h
    simp only [members, List.forall_mem_cons]
    exact ⟨⟨hplain _ (by simp), reads_op _ (by simp)⟩, ⟨hplain _ (by simp), reads_quotedText _ hsymbol.le⟩,
      ⟨hplain _ (by simp), reads_quotedText _ htimeframe.le⟩, ⟨hplain _ (by simp), reads_formatInt _ hr.time⟩,
      ⟨hplain _ (by simp), reads_formatFixed8 _ hr.openPrice⟩, ⟨hplain _ (by simp), reads_formatFixed8 _ hr.high⟩,
      ⟨hplain _ (by simp), reads_formatFixed8 _ hr.low⟩, ⟨hplain _ (by simp), reads_formatFixed8 _ hr.close⟩,
      ⟨hplain _ (by simp), reads_formatInt _ hr.tickVolume⟩, ⟨hplain _ (by simp), reads_formatInt _ hr.realVolume⟩,
      ⟨hplain _ (by simp), reads_formatInt _ hr.spread⟩, List.forall_mem_nil _⟩

/-- The text of a message is read as the object of its members. -/
theorem ServiceMessage.loads_json (py : Interpreter) {m : ServiceMessage} (h : m.WellFormed) :
    Json.loads py.nesting m.json = .ok (.dict (m.members.map fun i => (i.key, i.value))) := by
  obtain ⟨n, hn⟩ := Nat.exists_eq_add_of_le py.le_nesting
  have hreads := Json.reads_dict (m.reads_members n h)
  rw [m.json_eq, hn, Nat.add_comm]
  exact hreads.loads

/-! ## What the adapter makes of it -/

section Parse

variable (py : Interpreter)

theorem parseTick_members (t : MqlTick ℚ) :
    parseTick py ((tickMembers t).map fun m => (m.key, m.value)) = .ok (sentTick t (asLong t.volume)) := by
  simp [parseTick, floatField, intField, tickMembers, Json.lookup_cons, Interpreter.int, Interpreter.float, sentTick]
  rfl

/-- A list of strings that are not empty is kept. -/
theorem textsTuple_strs {α : Type} {l : List α} (f : α → String) (h : ∀ a ∈ l, f a ≠ "") :
    textsTuple py (some (.list (l.map fun a => .str (f a)))) = l.map f := by
  have htruthy : (l.map fun a => Json.str (f a)).filter Json.truthy = l.map fun a => Json.str (f a) := by
    rw [List.filter_eq_self]
    intro v hv
    obtain ⟨a, ha, rfl⟩ := List.mem_map.mp hv
    exact (Json.truthy_str _).mpr (h a ha)
  rw [textsTuple, htruthy, List.map_map]
  rfl

theorem dictsOf_dicts {α : Type} (l : List α) (f : α → Payload) : dictsOf (l.map fun a => .dict (f a)) = l.map f := by
  induction l with
  | nil => rfl
  | cons a l ih =>
    rw [List.map_cons, List.map_cons, ← ih]
    rfl

theorem mapM_parseTick (batch : List (MqlTick ℚ)) :
    (batch.map fun t => (tickMembers t).map fun m => (m.key, m.value)).mapM (parseTick py) =
      .ok (batch.map fun t => sentTick t (asLong t.volume)) := by
  induction batch with
  | nil => rfl
  | cons t batch ih =>
    rw [List.map_cons, List.mapM_cons, parseTick_members, ih]
    rfl

theorem BarKey.spec_ne (k : BarKey) : k.spec ≠ "" := by
  intro h
  have hlist := congrArg String.toList h
  simp [BarKey.spec] at hlist

/-- The members of a message make the message. -/
theorem parsePayload_members {m : ServiceMessage} (h : m.WellFormed) :
    parsePayload py (m.members.map fun i => (i.key, i.value)) = .ok (m.messageWith asLong) := by
  cases m with
  | hello terminal account session symbols bars =>
    obtain ⟨hterminal, -, hsession, hsymbols, hbars⟩ := h
    have hs : textsTuple py (some (.list (symbols.map .str))) = symbols := by
      have htexts := textsTuple_strs py id fun s hs => (hsymbols s hs).ne
      rwa [List.map_id] at htexts
    have hb := textsTuple_strs py BarKey.spec fun k (_ : k ∈ bars) => k.spec_ne
    rw [parsePayload_of_op py "hello" (by simp [ServiceMessage.members, Json.lookup_cons]), parseOp, if_pos rfl]
    simp only [parseHello, ServiceMessage.members, List.map_cons, List.map_nil, Json.lookup_cons, Json.lookup_nil,
      String.reduceEq, ↓reduceIte, Option.or_self, Option.or_some, Option.getD_none, Option.or_none, ne_eq,
      hsession.ne, not_false_eq_true, nonEmptyStr?_str, required_some, symbolsTuple, hs, barsTuple, hb, given?,
      Option.map_some, Interpreter.str_str, ServiceMessage.messageWith]
    rfl
  | ticks symbol cursor batch =>
    obtain ⟨hsymbol, -, -⟩ := h
    rw [parsePayload_of_op py "ticks" (by simp [ServiceMessage.members, Json.lookup_cons]), parseOp, if_neg (by simp),
      if_pos rfl]
    simp only [parseTicks, ServiceMessage.members, List.map_cons, List.map_nil, Json.lookup_cons, Json.lookup_nil,
      String.reduceEq, ↓reduceIte, Option.or_self, Option.or_some, Option.getD_none, Option.or_none, ne_eq,
      hsymbol.ne, not_false_eq_true, nonEmptyStr?_str, required_some, given?, list?]
    show Except.map WireInboundMessage.ticks (do
      let ticks ← (dictsOf (batch.map fun t => .dict ((tickMembers t).map fun i => (i.key, i.value)))).mapM
        (parseTick py)
      _) = _
    rw [dictsOf_dicts, mapM_parseTick]
    rfl
  | bar symbol timeframe r =>
    obtain ⟨hsymbol, htimeframe, -⟩ := h
    rw [parsePayload_of_op py "bar" (by simp [ServiceMessage.members, Json.lookup_cons]), parseOp, if_neg (by simp),
      if_neg (by simp), if_pos rfl]
    simp only [parseBar, ServiceMessage.members, List.map_cons, List.map_nil, Json.lookup_cons, Json.lookup_nil,
      String.reduceEq, ↓reduceIte, Option.or_self, Option.or_some, Option.getD_none, Option.or_none, ne_eq,
      hsymbol.ne, htimeframe.ne, not_false_eq_true, nonEmptyStr?_str, required_some, given?, floatField,
      Option.getD_some, Interpreter.float_float, intField, Interpreter.int_int]
    rfl

end Parse

/-- Written with their volumes, all messages are read. -/
theorem parseWireMessage_json (py : Interpreter) {m : ServiceMessage} (h : m.WellFormed) :
    parseWireMessage py (.text m.json) = .ok (m.messageWith asLong) := by
  rw [parseWireMessage_of_loads py (ServiceMessage.loads_json py h)]
  exact parsePayload_members py h

/-- The bars of a hello. -/
def ServiceMessage.barKeys : ServiceMessage → List BarKey
  | .hello _ _ _ _ bars => bars
  | _ => []

/-- The adapter reads the message with all its field values, and of the specs of a hello the keys. -/
structure ServiceMessage.Recovered (py : Interpreter) (m : ServiceMessage) : Prop where
  parsed : parseWireMessage py (.text m.json) = .ok m.message
  keys : ∀ hello, parseWireMessage py (.text m.json) = .ok (.hello hello) →
    hello.bars.map parseBarSpec = m.barKeys.map fun k => some (k.1, k.2.token)

theorem parseBarSpec_spec {k : BarKey} (h : IsSymbol k.1) : parseBarSpec k.spec = some (k.1, k.2.token) := by
  have htrimmed : Trimmed k.2.token := by
    cases k.2 <;> refine ⟨fun c hc => ?_, fun c hc => ?_⟩ <;> cases hc <;> decide
  exact parseBarSpec_join h.noColon h.ne h.trimmed (isText_token k.2).ne htrimmed

/-- **The adapter reads a message as it was sent**, when the volumes of its ticks are volumes of a `long`. -/
theorem message_recovered (py : Interpreter) {m : ServiceMessage} (h : m.WellFormed) (hv : m.VolumesFit) :
    m.Recovered py := by
  have hparsed := parseWireMessage_json py h
  have hvolumes : m.messageWith asLong = m.message := by
    cases m with
    | ticks symbol cursor batch =>
      have hbatch : (batch.map fun t => sentTick t (asLong t.volume)) = batch.map fun t => sentTick t t.volume := by
        refine List.map_congr_left fun t ht => ?_
        rw [asLong_of_lt (hv t ht)]
      rw [ServiceMessage.message, ServiceMessage.messageWith, ServiceMessage.messageWith, hbatch]
    | hello terminal account session symbols bars => rw [ServiceMessage.message]; simp only [ServiceMessage.messageWith]
    | bar symbol timeframe rate => rw [ServiceMessage.message]; simp only [ServiceMessage.messageWith]
  rw [hvolumes] at hparsed
  refine ⟨hparsed, fun hello hhello => ?_⟩
  rw [hparsed] at hhello
  cases m with
  | hello terminal account session symbols bars =>
    obtain ⟨-, -, -, -, hbars⟩ := h
    cases hhello
    show (bars.map BarKey.spec).map parseBarSpec = bars.map _
    rw [List.map_map]
    exact List.map_congr_left fun k hk => parseBarSpec_spec (hbars k hk)
  | ticks symbol cursor batch => cases hhello
  | bar symbol timeframe rate => cases hhello

theorem isPrice_price {n : ℤ} (h : |n| ≤ 10 ^ 15) : IsPrice (price n) := by
  refine ⟨⟨n, rfl⟩, (Binary64.abs_round_le _).trans_lt ?_⟩
  have hn : |(n : ℚ)| ≤ 10 ^ 15 := by exact_mod_cast h
  have hsmall : 2 * |(n : ℚ) / 10 ^ 8| < 2 ^ 32 := by
    rw [abs_div, abs_of_pos (show (0 : ℚ) < 10 ^ 8 by norm_num)]
    linarith
  exact hsmall.trans (pow_lt_pow_right₀ (by norm_num) (by norm_num))

/-- A tick of a currency pair. -/
def sampleTick (volume : ℕ) : MqlTick ℚ where
  timeMsc := 1700000000000
  bid := price 110000000
  ask := price 110010000
  last := price 0
  volume := volume
  flags := 6

theorem isTick_sampleTick {volume : ℕ} (h : volume < 2 ^ 64) : IsTick (sampleTick volume) where
  timeMsc := show IsLong 1700000000000 by norm_num [IsLong]
  bid := isPrice_price (by norm_num)
  ask := isPrice_price (by norm_num)
  last := isPrice_price (by norm_num)
  volume := h
  flags := show 6 < 2 ^ 32 by norm_num

theorem isSymbol_eurusd : IsSymbol "EURUSD" where
  ne := by simp
  le := forall_mem_of_all (by decide)
  noColon := by decide
  trimmed := ⟨fun c hc => by cases hc; decide, fun c hc => by cases hc; decide⟩

/-- A batch of two ticks arrives. -/
theorem two_ticks_recovered :
    (ServiceMessage.ticks "EURUSD" 1700000000000 [sampleTick 0, sampleTick 5]).Recovered .plain := by
  refine message_recovered .plain ⟨isSymbol_eurusd, by decide, ?_⟩ ?_
  · simp only [List.forall_mem_cons]
    exact ⟨isTick_sampleTick (by norm_num), isTick_sampleTick (by norm_num), List.forall_mem_nil _⟩
  · simp only [ServiceMessage.VolumesFit, List.forall_mem_cons]
    exact ⟨by norm_num [sampleTick], by norm_num [sampleTick], List.forall_mem_nil _⟩

/-- **A volume beyond the largest `long` arrives as a negative number.** -/
theorem large_volume_negative :
    (ServiceMessage.ticks "EURUSD" 1700000000000 [sampleTick (2 ^ 63)]).WellFormed ∧
      ¬ (ServiceMessage.ticks "EURUSD" 1700000000000 [sampleTick (2 ^ 63)]).Recovered .plain := by
  have hwf : (ServiceMessage.ticks "EURUSD" 1700000000000 [sampleTick (2 ^ 63)]).WellFormed := by
    refine ⟨isSymbol_eurusd, by decide, ?_⟩
    rw [List.forall_mem_singleton]
    exact isTick_sampleTick (by norm_num)
  refine ⟨hwf, fun hrec => ?_⟩
  have hparsed := hrec.parsed
  rw [parseWireMessage_json .plain hwf] at hparsed
  have hvolume : asLong (2 ^ 63) = ((2 ^ 63 : ℕ) : ℤ) := by
    simpa [ServiceMessage.message, ServiceMessage.messageWith, sentTick, sampleTick] using hparsed
  exact absurd hvolume (by decide)

end NautilusMt5
