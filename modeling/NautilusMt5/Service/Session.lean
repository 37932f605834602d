import NautilusMt5.Feed.MessageCodec
import NautilusMt5.Service.Dispatch

/-!
# A session of the Service (`NT5TickFeedService.mq5`, `NT5FeedWire.mqh`)

`OnStart` activates what the inputs name. The Service says hello when a connection opens and when a text has changed its
subscriptions, and forgets the bars when it notices that the connection has ended. Ticks, bars and heartbeats go out in
between. A send may fail, and what is read on the connection after that, in whatever order, is handled as before.

`last_hello_current`: whatever texts arrive, the last hello that the adapter has read on an open connection without a
failed send lists exactly what is active at the Service. `onStart_eq`: what is active at first is what the inputs name.
-/

namespace NautilusMt5

open Mql Py Runs

/-! ## The inputs -/

namespace ServiceTerminal

variable (t : ServiceTerminal)

/-- The parts of `InpSymbols`, without blanks around them; empty ones are left out. -/
def nt5SplitCsvSymbols (csv : List Char) : List (List Char) :=
  if csv = [] then [] else ((stringSplit csv ',').map t.stringTrim).filter (· ≠ [])

/-- One part of `NT5SplitCsvBarSpecs`. -/
def csvBarSpec (part : List Char) : Option (List Char) :=
  match stringSplit part ':' with
  | [symbol, timeframe] =>
    let symbol := t.stringTrim symbol
    let timeframe := t.stringTrim timeframe
    if symbol = [] ∨ timeframe = [] then none
    else (t.nt5TimeframeFromString timeframe).map fun period => nt5BarSpecToJson symbol period.token.toList
  | _ => none

/-- `NT5SplitCsvBarSpecs`. -/
def nt5SplitCsvBarSpecs (csv : List Char) : List (List Char) := (t.nt5SplitCsvSymbols csv).filterMap t.csvBarSpec

/-- `NT5ParseBarSpecJson`; `none` when it returns false. -/
def nt5ParseBarSpecJson (specJson : List Char) : Option (List Char × List Char) :=
  match stringSplit (stringReplace specJson '"' []) ':' with
  | [symbol, timeframe] => if symbol = [] ∨ timeframe = [] then none else some (symbol, timeframe)
  | _ => none

/-- The keys that `NT5ActivateInitialBarSpecs` activates. -/
def initialBarKeys (inpBarSpecs : List Char) : List BarKey :=
  (t.nt5SplitCsvBarSpecs inpBarSpecs).filterMap fun spec =>
    (nt5ParseBarSpecJson spec).bind fun p => (t.nt5TimeframeFromString p.2).map fun period =>
      (String.ofList p.1, period)

/-- What `OnStart` activates. -/
def onStart (inpSymbols inpBarSpecs : List Char) : ServiceSubscriptions where
  symbols := (forEach t.nt5ActivateSymbol .empty ((t.nt5SplitCsvSymbols inpSymbols).map String.ofList)).1
  bars := (forEach t.nt5ActivateBar .empty (t.initialBarKeys inpBarSpecs)).1

end ServiceTerminal

/-! ## Sessions -/

/-- The Service between two messages; `sent` are the texts that went out on the open connection before a send on it
failed. -/
structure ServiceSession where
  connected : Bool := false
  subscriptions : ServiceSubscriptions
  sent : List (List Char) := []
  failed : Bool := false

/-- The connection opens, a text arrives, ticks, a bar or a heartbeat go out, or the connection ends. `sends` is whether
the send in it succeeds, `notified` whether `onDisconnect` is called: an end that is noticed only when the next
connection is opened calls nothing. -/
inductive SessionEvent
  | onConnected (sends : Bool)
  | onMessage (json : List Char) (sends : Bool)
  | ticks (symbol : String) (cursor : ℤ) (batch : List (MqlTick ℚ)) (sends : Bool)
  | bar (symbol timeframe : String) (rate : MqlRates) (sends : Bool)
  | heartbeat (timeGmt : ℕ) (sends : Bool)
  | disconnect (notified : Bool)

/-- What arrives has no control characters, and the parts of what goes out are what they are at the Service. -/
def SessionEvent.Clean : SessionEvent → Prop
  | .onMessage json _ => ∀ c ∈ json, ' ' ≤ c
  | .ticks symbol cursor batch _ => (ServiceMessage.ticks symbol cursor batch).WellFormed
  | .bar symbol timeframe rate _ => (ServiceMessage.bar symbol timeframe rate).WellFormed
  | _ => True

/-- `NT5BuildHeartbeatJson`. -/
def nt5BuildHeartbeatJson (timeGmt : ℕ) : List Char :=
  stringFormat "\x7b\"op\":\"heartbeat\",\"ts_msc\":%I64d\x7d".toList [formatInt (asLong (timeGmt * 1000))]

namespace ServiceSession

variable (t : ServiceTerminal) (session : List Char) (s : ServiceSession)

/-- Texts go out, or their send fails; behind a text that was cut off the adapter reads nothing more. -/
def put (texts : List (List Char)) (sends : Bool) : ServiceSession :=
  if texts = [] then s
  else if sends = true ∧ s.failed = false then { s with sent := s.sent ++ texts }
  else { s with failed := true }

/-- A text goes out on the open connection. -/
def send (text : List Char) (sends : Bool) : Option ServiceSession :=
  if s.connected then some (s.put [text] sends) else none

def step : SessionEvent → Option ServiceSession
  | .onConnected sends =>
    if s.connected then none
    else some (put ⟨true, s.subscriptions, [], false⟩ [t.hello session s.subscriptions] sends)
  | .onMessage json sends =>
    if s.connected then
      let r := t.nt5HandleWireMessage session s.subscriptions json
      some (put { s with subscriptions := r.1 } r.2 sends)
    else none
  | .ticks symbol cursor batch sends => s.send (ServiceMessage.ticks symbol cursor batch).json sends
  | .bar symbol timeframe rate sends => s.send (ServiceMessage.bar symbol timeframe rate).json sends
  | .heartbeat timeGmt sends => s.send (nt5BuildHeartbeatJson timeGmt) sends
  | .disconnect notified =>
    if s.connected then
      some ⟨false, if notified then s.subscriptions.nt5ClearActiveBarSubscriptions else s.subscriptions, [], false⟩
    else none

/-- Before the first connection. -/
def start (inpSymbols inpBarSpecs : List Char) : ServiceSession where
  subscriptions := t.onStart inpSymbols inpBarSpecs

end ServiceSession

/-- A terminal that knows one symbol, and cuts off blanks. -/
def sampleSessionTerminal : ServiceTerminal where
  terminalName := "MT5".toList
  accountLogin := 7
  symbolSelect := (· = "EU")
  stringTrim := fun s => ((s.dropWhile (· = ' ')).reverse.dropWhile (· = ' ')).reverse
  stringToUpper := fun s => some (s.map Char.toUpper)

/-- `_last_hello` after some texts. -/
def lastHello (py : Interpreter) (texts : List (List Char)) : Option Wire.HelloMessage :=
  texts.foldl (fun last text => match parseWireMessage py (.text text) with
    | .ok (.hello hello) => some hello
    | _ => last) none

/-! ## The tables -/

section Tables

variable {κ : Type} [DecidableEq κ] {d : Dict κ Bool} {k : κ}

theorem keys_deactivate (d : Dict κ Bool) (k : κ) : (deactivate d k).1.keys = d.keys := by
  unfold deactivate
  cases hk : d.get? k with
  | none => rfl
  | some active =>
    cases active with
    | false => rfl
    | true => exact Dict.keys_set_of_mem (Dict.mem_keys.mpr ⟨true, hk⟩) false

theorem mem_keys_activate {k' : κ} (h : k' ∈ (activate d k).1.keys) : k' = k ∨ k' ∈ d.keys := by
  unfold activate at h
  cases hk : d.get? k with
  | none =>
    rw [hk] at h
    have hkeys := Dict.keys_set_of_not_mem (Dict.get?_eq_none.mp hk) true
    rcases List.mem_append.mp (hkeys ▸ h) with h | h
    · exact .inr h
    · exact .inl (List.mem_singleton.mp h)
  | some active =>
    rw [hk] at h
    cases active with
    | true => exact .inr h
    | false => exact .inr (Dict.keys_set_of_mem (Dict.mem_keys.mpr ⟨false, hk⟩) true ▸ h)

omit [DecidableEq κ] in
/-- What every step keeps, a loop keeps. -/
theorem forEach_inv {f : Dict κ Bool → κ → Dict κ Bool × Bool} {I : Dict κ Bool → Prop}
    (hf : ∀ d k, I d → I (f d k).1) (hd : I d) (ks : List κ) : I (forEach f d ks).1 := by
  rw [forEach_table]
  induction ks generalizing d with
  | nil => exact hd
  | cons k ks ih => exact ih (hf d k hd)

omit [DecidableEq κ] in
/-- A loop that reports no change has made none. -/
theorem forEach_unchanged {f : Dict κ Bool → κ → Dict κ Bool × Bool} (hf : ∀ d k, (f d k).2 = false → (f d k).1 = d)
    {ks : List κ} (h : (forEach f d ks).2 = false) : (forEach f d ks).1 = d := by
  have hall : ∀ (ks : List κ) (r : Dict κ Bool × Bool),
      (ks.foldl (fun r k => ((f r.1 k).1, r.2 || (f r.1 k).2)) r).2 = false →
        r.2 = false ∧ (ks.foldl (fun r k => ((f r.1 k).1, r.2 || (f r.1 k).2)) r).1 = r.1 := by
    intro ks
    induction ks with
    | nil => exact fun r hr => ⟨hr, rfl⟩
    | cons k ks ih =>
      intro r hr
      obtain ⟨hchanged, htable⟩ := ih _ hr
      obtain ⟨hr, hk⟩ := Bool.or_eq_false_iff.mp hchanged
      exact ⟨hr, htable.trans (hf r.1 k hk)⟩
  exact (hall ks (d, false) h).2

theorem activate_unchanged (d : Dict κ Bool) (k : κ) (h : (activate d k).2 = false) : (activate d k).1 = d := by
  unfold activate at h ⊢
  cases hk : d.get? k with
  | none => simp [hk] at h
  | some active => cases active <;> simp [hk] at h ⊢

theorem deactivate_unchanged (d : Dict κ Bool) (k : κ) (h : (deactivate d k).2 = false) : (deactivate d k).1 = d := by
  unfold deactivate at h ⊢
  cases hk : d.get? k with
  | none => rfl
  | some active => cases active <;> simp [hk] at h ⊢

end Tables

/-! ## What a text does -/

namespace ServiceTerminal

variable {t : ServiceTerminal} {session : List Char} {sv : ServiceSubscriptions}

/-- The tables have symbols of the terminal only. -/
structure Knows (t : ServiceTerminal) (sv : ServiceSubscriptions) : Prop where
  symbols : ∀ s ∈ sv.symbols.keys, t.symbolSelect s = true
  bars : ∀ k ∈ sv.bars.keys, t.symbolSelect k.1 = true

theorem activateSymbol_inv (d : Dict String Bool) (s : String) (hd : ∀ s ∈ d.keys, t.symbolSelect s = true) :
    ∀ s' ∈ (t.nt5ActivateSymbol d s).1.keys, t.symbolSelect s' = true := by
  intro s' hs'
  unfold nt5ActivateSymbol at hs'
  split_ifs at hs' with hselect
  · rcases mem_keys_activate hs' with rfl | hs'
    · exact hselect
    · exact hd s' hs'
  · exact hd s' hs'

theorem activateBar_inv (d : Dict BarKey Bool) (k : BarKey) (hd : ∀ k ∈ d.keys, t.symbolSelect k.1 = true) :
    ∀ k' ∈ (t.nt5ActivateBar d k).1.keys, t.symbolSelect k'.1 = true := by
  intro k' hk'
  unfold nt5ActivateBar at hk'
  split_ifs at hk' with hselect
  · rcases mem_keys_activate hk' with rfl | hk'
    · exact hselect
    · exact hd k' hk'
  · exact hd k' hk'

theorem activateSymbol_unchanged (d : Dict String Bool) (s : String) (h : (t.nt5ActivateSymbol d s).2 = false) :
    (t.nt5ActivateSymbol d s).1 = d := by
  unfold nt5ActivateSymbol at h ⊢
  split_ifs at h ⊢
  · exact activate_unchanged d s h
  · rfl

theorem activateBar_unchanged (d : Dict BarKey Bool) (k : BarKey) (h : (t.nt5ActivateBar d k).2 = false) :
    (t.nt5ActivateBar d k).1 = d := by
  unfold nt5ActivateBar at h ⊢
  split_ifs at h ⊢
  · exact activate_unchanged d k h
  · rfl

theorem knows_onStart (inpSymbols inpBarSpecs : List Char) : t.Knows (t.onStart inpSymbols inpBarSpecs) where
  symbols := forEach_inv activateSymbol_inv (fun _ h => (by cases h)) _
  bars := forEach_inv activateBar_inv (fun _ h => (by cases h)) _

/-- A text that is sent, and is no hello. -/
inductive Aside : List Char → Prop
  | pong : Aside nt5BuildPongJson
  | heartbeat (timeGmt : ℕ) : Aside (nt5BuildHeartbeatJson timeGmt)
  | ticks {symbol : String} {cursor : ℤ} {batch : List (MqlTick ℚ)}
    (h : (ServiceMessage.ticks symbol cursor batch).WellFormed) : Aside (ServiceMessage.ticks symbol cursor batch).json
  | bar {symbol timeframe : String} {rate : MqlRates} (h : (ServiceMessage.bar symbol timeframe rate).WellFormed) :
    Aside (ServiceMessage.bar symbol timeframe rate).json
  | error {code message : List Char} (hcode : ∀ c ∈ code, ' ' ≤ c) (hmessage : ∀ c ∈ message, ' ' ≤ c) :
    Aside (nt5BuildErrorJson code message)

/-- **What a text does**: it changes the tables and a hello goes out, or it changes nothing and no hello goes out. -/
structure Handled (t : ServiceTerminal) (session : List Char) (sv : ServiceSubscriptions)
    (r : ServiceSubscriptions × List (List Char)) : Prop where
  knows : t.Knows sv → t.Knows r.1
  told : r.2 = [t.hello session r.1] ∨ r.1 = sv ∧ ∀ text ∈ r.2, Aside text

theorem Handled.same {texts : List (List Char)} (h : ∀ text ∈ texts, Aside text) : t.Handled session sv (sv, texts) :=
  ⟨id, .inr ⟨rfl, h⟩⟩

/-- The end of a loop that has changed something or nothing. -/
theorem handled_announce {sv' : ServiceSubscriptions} {changed : Bool} (hknows : t.Knows sv → t.Knows sv')
    (hsame : changed = false → sv' = sv) : t.Handled session sv (t.announce session sv' changed) := by
  cases changed with
  | true => exact ⟨hknows, .inl rfl⟩
  | false => exact ⟨hknows, .inr ⟨hsame rfl, fun _ h => (by cases h)⟩⟩

theorem handled_handleSubscribe (json : List Char) {f : Dict String Bool → String → Dict String Bool × Bool}
    (hinv : ∀ d s, (∀ s ∈ d.keys, t.symbolSelect s = true) → ∀ s' ∈ (f d s).1.keys, t.symbolSelect s' = true)
    (hsame : ∀ d s, (f d s).2 = false → (f d s).1 = d) :
    t.Handled session sv (t.handleSubscribe session sv json f) := by
  unfold handleSubscribe
  split
  · exact Handled.same (by simp)
  · refine handled_announce (fun h => ⟨forEach_inv hinv h.symbols _, h.bars⟩) fun h => ?_
    rw [forEach_unchanged hsame h]

/-- A field that is extracted has characters of the text. -/
theorem mem_of_extract {json field value : List Char} (h : nt5ExtractJsonStringField json field = some value) :
    ∀ c ∈ value, c ∈ json := by
  simp only [nt5ExtractJsonStringField, Option.bind_eq_bind, Option.bind_eq_some_iff, Option.pure_def,
    Option.some.injEq] at h
  obtain ⟨_, -, _, -, _, -, _, -, rfl⟩ := h
  exact fun c hc => List.mem_of_mem_drop (List.mem_of_mem_take hc)

theorem handled_subscribeBars {json : List Char} (hjson : ∀ c ∈ json, ' ' ≤ c) (subscribe : Bool) :
    t.Handled session sv (t.nt5HandleSubscribeBars session sv json subscribe) := by
  have hinv : ∀ d k, (∀ k ∈ d.keys, t.symbolSelect k.1 = true) →
      ∀ k' ∈ ((if subscribe then t.nt5ActivateBar else ServiceSubscriptions.nt5DeactivateBar) d k).1.keys,
        t.symbolSelect k'.1 = true := by
    intro d k hd
    cases subscribe with
    | true => exact activateBar_inv d k hd
    | false => exact fun k' hk' => hd k' (keys_deactivate d k ▸ hk')
  have hsame : ∀ d k, ((if subscribe then t.nt5ActivateBar else ServiceSubscriptions.nt5DeactivateBar) d k).2 = false →
      ((if subscribe then t.nt5ActivateBar else ServiceSubscriptions.nt5DeactivateBar) d k).1 = d := by
    intro d k h
    cases subscribe with
    | true => exact activateBar_unchanged d k h
    | false => exact deactivate_unchanged d k h
  unfold nt5HandleSubscribeBars
  split
  · exact Handled.same (by simp)
  · split
    · refine Handled.same (List.forall_mem_singleton.mpr (.error ?_ ?_)) <;> exact forall_mem_of_all (by decide)
    · rename_i raw hraw
      split
      · refine Handled.same (List.forall_mem_singleton.mpr (.error (forall_mem_of_all (by decide)) fun c hc => ?_))
        exact hjson c (mem_of_extract hraw c hc)
      · refine handled_announce (fun h => ⟨h.symbols, forEach_inv hinv h.bars _⟩) fun h => ?_
        rw [forEach_unchanged hsame h]

/-- **Any text** without control characters. -/
theorem handled_wireMessage {json : List Char} (hjson : ∀ c ∈ json, ' ' ≤ c) :
    t.Handled session sv (t.nt5HandleWireMessage session sv json) := by
  unfold nt5HandleWireMessage
  split
  · exact Handled.same (by simp)
  · split_ifs
    · exact handled_handleSubscribe json activateSymbol_inv activateSymbol_unchanged
    · exact handled_handleSubscribe json (fun d s hd s' hs' => hd s' (keys_deactivate d s ▸ hs')) deactivate_unchanged
    · exact handled_subscribeBars hjson true
    · exact handled_subscribeBars hjson false
    · exact Handled.same (List.forall_mem_singleton.mpr .pong)
    · exact Handled.same (by simp)

/-! ## What the adapter reads -/

/-- The terminal's own texts are texts, and what it knows are names of symbols. -/
structure Named (t : ServiceTerminal) (session : List Char) : Prop where
  terminalName : IsText (String.ofList t.terminalName)
  account : IsLong t.accountLogin
  session : IsText (String.ofList session)
  symbols : ∀ s, t.symbolSelect s = true → IsSymbol s

theorem Knows.mem_keys {κ : Type} {d : Dict κ Bool} {k : κ} (h : k ∈ (d.entries.filter Prod.snd).map Prod.fst) :
    k ∈ d.keys := (List.filter_sublist.map Prod.fst).subset h

/-- **A hello is read as what is active.** -/
theorem exists_hello (py : Interpreter) (ht : t.Named session) (h : t.Knows sv) :
    ∃ hello, parseWireMessage py (.text (t.hello session sv)) = .ok (.hello hello) ∧
      hello.symbols = sv.nt5ListActiveSymbols ∧
        hello.bars.map parseBarSpec = sv.nt5ListActiveBarSpecs.map fun k => some (k.1, k.2.token) := by
  have hwell : (ServiceMessage.hello (String.ofList t.terminalName) t.accountLogin (String.ofList session)
      sv.nt5ListActiveSymbols sv.nt5ListActiveBarSpecs).WellFormed :=
    ⟨ht.terminalName, ht.account, ht.session, fun s hs => ht.symbols s (h.symbols s (Knows.mem_keys hs)),
      fun k hk => ht.symbols k.1 (h.bars k (Knows.mem_keys hk))⟩
  obtain ⟨hparsed, hkeys⟩ := message_recovered py hwell trivial
  have hjson : (ServiceMessage.hello (String.ofList t.terminalName) t.accountLogin (String.ofList session)
      sv.nt5ListActiveSymbols sv.nt5ListActiveBarSpecs).json = t.hello session sv := by
    simp [ServiceMessage.json, hello]
  rw [hjson] at hparsed hkeys
  exact ⟨_, hparsed, rfl, hkeys _ hparsed⟩

/-- An object of an op and texts is read by its members. -/
theorem parse_members (py : Interpreter) (op : String) (members : List Json.Member)
    (hop : ∀ n, Json.Reads n (dumpsStr op.toList) (.str op)) (hreads : ∀ n, ∀ m ∈ members, m.Reads n)
    (hkeys : Json.lookup "op" (members.map fun m => (m.key, m.value)) = none) :
    parseWireMessage py (.text (dumpsDict ((⟨"op", dumpsStr op.toList, .str op⟩ :: members : List Json.Member).map
      fun m => (m.key.toList, m.text)))) =
        parseOp py (("op", .str op) :: members.map fun m => (m.key, m.value)) op := by
  obtain ⟨n, hn⟩ := Nat.exists_eq_add_of_le py.le_nesting
  have hall : ∀ m ∈ (⟨"op", dumpsStr op.toList, .str op⟩ :: members : List Json.Member), m.Reads (n + 2) :=
    List.forall_mem_cons.mpr ⟨⟨plain_keys _ (by simp), hop _⟩, hreads _⟩
  have hloads := (Json.reads_dict hall).loads
  rw [show n + 2 + 1 = py.nesting by omega] at hloads
  rw [parseWireMessage_of_loads py hloads]
  exact parsePayload_of_op py op (by simp [Json.lookup_cons, hkeys])

theorem nt5BuildErrorJson_eq (code message : List Char) : nt5BuildErrorJson code message =
    dumpsDict [("op".toList, dumpsStr "error".toList), ("code".toList, quotedText code),
      ("message".toList, quotedText message)] := by
  have hparts : formatParts false "\x7b\"op\":\"error\",\"code\":\"%s\",\"message\":\"%s\"\x7d".toList =
      (FormatField.parts [] [⟨"code", true⟩, ⟨"message", true⟩]).modifyHead
        ('{' :: (Py.dumpsStr "op".toList ++ ':' :: Py.dumpsStr "error".toList) ++ ·) := by decide +kernel
  rw [nt5BuildErrorJson, stringFormat_tagged hparts rfl]
  simp only [List.zipWith_cons_cons, List.zipWith_nil_left, FormatField.member_quoted]
  rfl

theorem nt5BuildHeartbeatJson_eq (timeGmt : ℕ) : nt5BuildHeartbeatJson timeGmt =
    dumpsDict [("op".toList, dumpsStr "heartbeat".toList), ("ts_msc".toList, formatInt (asLong (timeGmt * 1000)))] := by
  have hparts : formatParts false "\x7b\"op\":\"heartbeat\",\"ts_msc\":%I64d\x7d".toList =
      (FormatField.parts [] [⟨"ts_msc", false⟩]).modifyHead
        ('{' :: (Py.dumpsStr "op".toList ++ ':' :: Py.dumpsStr "heartbeat".toList) ++ ·) := by decide +kernel
  rw [nt5BuildHeartbeatJson]
  generalize formatInt (asLong (timeGmt * 1000)) = tsMsc
  rw [stringFormat_tagged hparts rfl]
  simp only [List.zipWith_cons_cons, List.zipWith_nil_left, FormatField.member_plain]

/-- The other texts are no hello. -/
theorem Aside.not_hello (py : Interpreter) {text : List Char} (h : Aside text) (hello : Wire.HelloMessage) :
    parseWireMessage py (.text text) ≠ .ok (.hello hello) := by
  have hops : ∀ op ∈ ["pong", "heartbeat", "error"], ∀ n, Json.Reads n (dumpsStr op.toList) (.str op) := by
    have hall : ∀ op ∈ ["pong", "heartbeat", "error"],
        dumpsStr op.toList = quotedText op.toList ∧ (op.toList.all fun c => ' ' ≤ c) = true := by decide
    intro op hop n
    obtain ⟨htext, hle⟩ := hall op hop
    rw [htext]
    exact reads_quotedText n (forall_mem_of_all hle)
  have hplain : ∀ key ∈ ["ts_msc", "code", "message"], ∀ c ∈ key.toList, Printable c ∧ c ≠ '"' ∧ c ≠ '\\' := by
    intro key hkey
    apply forall_mem_of_all
    revert key
    decide
  cases h with
  | pong =>
    have hparse := parse_members py "pong" [] (hops _ (by simp)) (fun _ _ h => (by cases h)) rfl
    have htext : nt5BuildPongJson = dumpsDict [("op".toList, dumpsStr "pong".toList)] := by decide +kernel
    rw [htext]
    simp only [List.map_cons, List.map_nil] at hparse
    rw [hparse, parseOp]
    simp
  | heartbeat timeGmt =>
    have hreads : ∀ n, ∀ m ∈ ([⟨"ts_msc", formatInt (asLong (timeGmt * 1000)), .int (asLong (timeGmt * 1000))⟩] :
        List Json.Member), m.Reads n :=
      fun n => List.forall_mem_singleton.mpr ⟨hplain _ (by simp), reads_formatInt n (isLong_asLong _)⟩
    have hparse := parse_members py "heartbeat" _ (hops _ (by simp)) hreads (by simp [Json.lookup_cons])
    rw [nt5BuildHeartbeatJson_eq]
    simp only [List.map_cons, List.map_nil] at hparse
    have hbeat : ∀ ts : ℤ, parseOp py [("op", .str "heartbeat"), ("ts_msc", .int ts)] "heartbeat" =
        .ok (.heartbeat ts) := by
      intro ts
      simp [parseOp, parseHeartbeat, Json.lookup_cons]
      rfl
    rw [hparse, hbeat]
    rintro ⟨⟩
  | ticks hwell =>
    rw [parseWireMessage_json py hwell]
    rintro ⟨⟩
  | bar hwell =>
    rw [parseWireMessage_json py hwell]
    rintro ⟨⟩
  | @error code message hcode hmessage =>
    have hreads : ∀ n, ∀ m ∈ ([⟨"code", quotedText code, .str (String.ofList code)⟩,
        ⟨"message", quotedText message, .str (String.ofList message)⟩] : List Json.Member), m.Reads n := by
      have hquoted : ∀ (n : ℕ) {value : List Char}, (∀ c ∈ value, ' ' ≤ c) →
          Json.Reads n (quotedText value) (.str (String.ofList value)) := by
        intro n value hvalue
        have hread := reads_quotedText (s := String.ofList value) n (by rwa [String.toList_ofList])
        rwa [String.toList_ofList] at hread
      intro n
      simp only [List.forall_mem_cons]
      exact ⟨⟨hplain _ (by simp), hquoted n hcode⟩, ⟨hplain _ (by simp), hquoted n hmessage⟩, List.forall_mem_nil _⟩
    have hparse := parse_members py "error" _ (hops _ (by simp)) hreads
      (by simp [Json.lookup_cons])
    rw [nt5BuildErrorJson_eq]
    simp only [List.map_cons, List.map_nil] at hparse
    have herror : parseOp py [("op", .str "error"), ("code", .str (String.ofList code)),
        ("message", .str (String.ofList message))] "error" =
          .ok (.error (String.ofList code) (String.ofList message)) := by
      simp [parseOp, parseError, Json.lookup_cons, str?]
      rfl
    rw [hparse, herror]
    rintro ⟨⟩

end ServiceTerminal

/-! ## Runs -/

namespace ServiceSession

open ServiceTerminal

variable {t : ServiceTerminal} {session : List Char} {py : Interpreter} {s s' : ServiceSession} {e : SessionEvent}

/-- The last hello that was sent tells what is active. -/
def Told (py : Interpreter) (s : ServiceSession) : Prop :=
  ∃ hello, lastHello py s.sent = some hello ∧ hello.symbols = s.subscriptions.nt5ListActiveSymbols ∧
    hello.bars.map parseBarSpec = s.subscriptions.nt5ListActiveBarSpecs.map fun k => some (k.1, k.2.token)

/-- The tables have known symbols, and the last hello of an open connection without a failed send tells what is
active. -/
structure Inv (t : ServiceTerminal) (py : Interpreter) (s : ServiceSession) : Prop where
  knows : t.Knows s.subscriptions
  told : s.connected = true → s.failed = false → s.Told py

/-- A hello that is sent is the last one. -/
theorem lastHello_append_hello {texts : List (List Char)} {text : List Char} {hello : Wire.HelloMessage}
    (h : parseWireMessage py (.text text) = .ok (.hello hello)) : lastHello py (texts ++ [text]) = some hello := by
  rw [lastHello, List.foldl_append, List.foldl_cons, List.foldl_nil, h]

theorem lastHello_append_asides {texts asides : List (List Char)} (h : ∀ text ∈ asides, Aside text) :
    lastHello py (texts ++ asides) = lastHello py texts := by
  induction asides generalizing texts with
  | nil => rw [List.append_nil]
  | cons text asides ih =>
    obtain ⟨htext, hasides⟩ := List.forall_mem_cons.mp h
    rw [List.append_cons, ih hasides, lastHello, List.foldl_append, List.foldl_cons, List.foldl_nil]
    split
    · rename_i hello hparse
      exact absurd hparse (htext.not_hello py hello)
    · rfl

theorem subscriptions_put (s : ServiceSession) (texts : List (List Char)) (sends : Bool) :
    (s.put texts sends).subscriptions = s.subscriptions := by
  unfold put
  split_ifs <;> rfl

/-- What is put where no send has failed in the end went out. -/
theorem sent_put {texts : List (List Char)} {sends : Bool} (h : (s.put texts sends).failed = false) :
    s.failed = false ∧ (s.put texts sends).sent = s.sent ++ texts := by
  unfold put at h ⊢
  split_ifs at h ⊢ with hnil hsends
  · exact ⟨h, by rw [hnil, List.append_nil]⟩
  · exact ⟨h, rfl⟩

/-- A hello that goes out tells what is active. -/
theorem told_put_hello (ht : t.Named session) (h : t.Knows s.subscriptions) {sends : Bool}
    (hfailed : (s.put [t.hello session s.subscriptions] sends).failed = false) :
    (s.put [t.hello session s.subscriptions] sends).Told py := by
  obtain ⟨hello, hparse, hread⟩ := exists_hello py ht h
  refine ⟨hello, ?_, by rw [subscriptions_put]; exact hread⟩
  rw [(sent_put hfailed).2]
  exact lastHello_append_hello hparse

/-- What goes out and is no hello changes nothing. -/
theorem told_put_asides {texts : List (List Char)} (htexts : ∀ text ∈ texts, Aside text) {sends : Bool}
    (htold : s.failed = false → s.Told py) (hfailed : (s.put texts sends).failed = false) :
    (s.put texts sends).Told py := by
  obtain ⟨hfailed', hsent⟩ := sent_put hfailed
  obtain ⟨hello, hlast, hread⟩ := htold hfailed'
  refine ⟨hello, ?_, by rw [subscriptions_put]; exact hread⟩
  rw [hsent, lastHello_append_asides htexts, hlast]

theorem inv_send {text : List Char} {sends : Bool} (h : Inv t py s) (htext : Aside text)
    (hsend : s.send text sends = some s') : Inv t py s' := by
  rw [send] at hsend
  split_ifs at hsend with hconnected
  cases hsend
  refine ⟨by rw [subscriptions_put]; exact h.knows, fun _ hfailed => ?_⟩
  exact told_put_asides (List.forall_mem_singleton.mpr htext) (h.told hconnected) hfailed

theorem keys_nt5ClearActiveBarSubscriptions (sv : ServiceSubscriptions) :
    sv.nt5ClearActiveBarSubscriptions.bars.keys = sv.bars.keys := by
  have hkeys : ∀ (ks : List BarKey) (d : Dict BarKey Bool),
      (ks.foldl (fun d k => (ServiceSubscriptions.nt5DeactivateBar d k).1) d).keys = d.keys := by
    intro ks
    induction ks with
    | nil => exact fun d => rfl
    | cons k ks ih => exact fun d => (ih _).trans (keys_deactivate d k)
  exact hkeys _ sv.bars

theorem inv_step (ht : t.Named session) (h : Inv t py s) (hclean : e.Clean)
    (hstep : s.step t session e = some s') : Inv t py s' := by
  cases e with
  | onConnected sends =>
    rw [step] at hstep
    split_ifs at hstep
    cases hstep
    exact ⟨by rw [subscriptions_put]; exact h.knows,
      fun _ hfailed => told_put_hello (s := ⟨true, s.subscriptions, [], false⟩) ht h.knows hfailed⟩
  | onMessage json sends =>
    rw [step] at hstep
    split_ifs at hstep with hconnected
    cases hstep
    obtain ⟨hknows, htold⟩ : t.Handled session s.subscriptions (t.nt5HandleWireMessage session s.subscriptions json) :=
      handled_wireMessage hclean
    refine ⟨by rw [subscriptions_put]; exact hknows h.knows, fun _ hfailed => ?_⟩
    rcases htold with htext | ⟨hsame, hasides⟩
    · rw [htext] at hfailed ⊢
      exact told_put_hello (s := { s with subscriptions := _ }) ht (hknows h.knows) hfailed
    · rw [hsame] at hfailed ⊢
      exact told_put_asides hasides (h.told hconnected) hfailed
  | ticks symbol cursor batch sends => exact inv_send h (.ticks hclean) hstep
  | bar symbol timeframe rate sends => exact inv_send h (.bar hclean) hstep
  | heartbeat timeGmt sends => exact inv_send h (.heartbeat timeGmt) hstep
  | disconnect notified =>
    rw [step] at hstep
    split_ifs at hstep
    · cases hstep
      have hbars : ∀ k ∈ s.subscriptions.nt5ClearActiveBarSubscriptions.bars.keys, t.symbolSelect k.1 = true :=
        fun k hk => h.knows.bars k (keys_nt5ClearActiveBarSubscriptions _ ▸ hk)
      exact ⟨⟨h.knows.symbols, hbars⟩, fun hfalse => (by cases hfalse)⟩
    · cases hstep
      exact ⟨h.knows, fun hfalse => (by cases hfalse)⟩

/-- **The adapter is told of every change**: in every run, whatever the inputs name, whatever texts arrive and
whatever goes out in between, whatever connections came before and however they ended, while the connection is open
and no send on it has failed the last hello on it lists the symbols and the bars that are active. -/
theorem last_hello_current (ht : t.Named session) (inpSymbols inpBarSpecs : List Char) {es : List SessionEvent}
    (hclean : ∀ e ∈ es, e.Clean) (hrun : run (step t session) (start t inpSymbols inpBarSpecs) es = some s)
    (hconnected : s.connected = true) (hsent : s.failed = false) :
    ∃ hello, lastHello py s.sent = some hello ∧ hello.symbols = s.subscriptions.nt5ListActiveSymbols ∧
      hello.bars.map parseBarSpec = s.subscriptions.nt5ListActiveBarSpecs.map fun k => some (k.1, k.2.token) := by
  have hstart : Inv t py (start t inpSymbols inpBarSpecs) := ⟨knows_onStart _ _, fun h => (by cases h)⟩
  exact (run_inv_forall (fun s e s' h hclean hstep => inv_step ht h hclean hstep) hstart hclean hrun).told hconnected
    hsent

theorem named_sample : sampleSessionTerminal.Named "nt5".toList := by
  refine ⟨⟨by decide, forall_mem_of_all (by decide)⟩, ⟨by decide, by decide⟩,
    ⟨by decide, forall_mem_of_all (by decide)⟩, fun s hs => ?_⟩
  obtain rfl : s = "EU" := of_decide_eq_true hs
  refine ⟨⟨by decide, forall_mem_of_all (by decide)⟩, by decide, fun c hc => ?_, fun c hc => ?_⟩ <;> cases hc <;> decide

/-- A hello fails, and the connection ends unnoticed. On the next one the symbol of the inputs is unsubscribed. -/
def sampleSession : List SessionEvent :=
  [.onConnected true,
    .onMessage "\x7b\"op\":\"subscribe_bars\",\"symbols\":[\"EU\"],\"timeframe\":\"M5\"\x7d".toList false,
    .disconnect false, .onConnected true,
    .onMessage "\x7b\"op\":\"unsubscribe\",\"symbols\":[\"EU\"]\x7d".toList true, .heartbeat 1 true]

/-- The bars of the first connection are told on the second. -/
theorem last_hello_current_sample :
    ∃ s, run (step sampleSessionTerminal "nt5".toList) (start sampleSessionTerminal " EU".toList []) sampleSession =
      some s ∧
      s.subscriptions.nt5ListActiveSymbols = [] ∧ s.subscriptions.nt5ListActiveBarSpecs = [("EU", .M5)] ∧
        ∃ hello, lastHello .plain s.sent = some hello ∧ hello.symbols = s.subscriptions.nt5ListActiveSymbols ∧
          hello.bars.map parseBarSpec = s.subscriptions.nt5ListActiveBarSpecs.map fun k => some (k.1, k.2.token) := by
  have hsome : ((run (step sampleSessionTerminal "nt5".toList) (start sampleSessionTerminal " EU".toList [])
      sampleSession).map fun s => (s.connected, s.failed, s.subscriptions.nt5ListActiveSymbols,
        s.subscriptions.nt5ListActiveBarSpecs)) = some (true, false, [], [("EU", .M5)]) := by decide +kernel
  obtain ⟨s, hrun, hs⟩ := Option.map_eq_some_iff.mp hsome
  simp only [Prod.mk.injEq] at hs
  obtain ⟨hconnected, hsent, hsymbols, hbars⟩ := hs
  have hclean : ∀ e ∈ sampleSession, e.Clean := by
    simp only [sampleSession, List.forall_mem_cons]
    exact ⟨trivial, forall_mem_of_all (by decide), trivial, trivial, forall_mem_of_all (by decide), trivial,
      List.forall_mem_nil _⟩
  exact ⟨s, hrun, hsymbols, hbars, last_hello_current named_sample _ _ hclean hrun hconnected hsent⟩

end ServiceSession

/-! ## What the inputs name -/

/-- A name of an input, with blanks around it. -/
structure Padded where
  before : List Char
  name : List Char
  after : List Char

namespace Padded

def text (p : Padded) : List Char := p.before ++ (p.name ++ p.after)

/-- The blanks are blanks, and the name begins and ends with something else. -/
structure Trims (p : Padded) : Prop where
  before : ∀ c ∈ p.before, c = ' '
  after : ∀ c ∈ p.after, c = ' '
  ne : p.name ≠ []
  head : p.name.head? ≠ some ' '
  last : p.name.getLast? ≠ some ' '

/-- The name has no separator of the inputs, and no character that JSON escapes. -/
def Plain (p : Padded) : Prop := ∀ c ∈ p.name, c ≠ ',' ∧ c ≠ ':' ∧ c ≠ '"' ∧ c ≠ '\\'

theorem not_mem_text {p : Padded} (h : p.Trims) {c : Char} (hc : c ≠ ' ') (hname : c ∉ p.name) : c ∉ p.text := by
  simp only [text, List.mem_append, not_or]
  exact ⟨fun hmem => hc (h.before c hmem), hname, fun hmem => hc (h.after c hmem)⟩

end Padded

/-- A bar spec of an input. -/
structure PaddedSpec where
  symbol : Padded
  timeframe : Timeframe
  before : List Char
  after : List Char

namespace PaddedSpec

def period (p : PaddedSpec) : Padded := ⟨p.before, p.timeframe.token.toList, p.after⟩

def text (p : PaddedSpec) : List Char := p.symbol.text ++ ':' :: p.period.text

def key (p : PaddedSpec) : BarKey := (String.ofList p.symbol.name, p.timeframe)

structure Plain (p : PaddedSpec) : Prop where
  trims : p.symbol.Trims
  plain : p.symbol.Plain
  before : ∀ c ∈ p.before, c = ' '
  after : ∀ c ∈ p.after, c = ' '

end PaddedSpec

namespace ServiceTerminal

variable {t : ServiceTerminal}

/-- `StringTrimLeft` and `StringTrimRight` take out the blanks around a name. -/
def TrimsBlanks (t : ServiceTerminal) : Prop := ∀ p : Padded, p.Trims → t.stringTrim p.text = p.name

/-- Parts with blanks around them are split and trimmed. -/
theorem splitCsv_intercalate (ht : t.TrimsBlanks) {parts : List Padded} (h : ∀ p ∈ parts, p.Trims ∧ ',' ∉ p.name) :
    t.nt5SplitCsvSymbols ([','].intercalate (parts.map Padded.text)) = parts.map Padded.name := by
  cases hparts : parts with
  | nil => rfl
  | cons first rest =>
    rw [← hparts]
    have hsplit : stringSplit ([','].intercalate (parts.map Padded.text)) ',' = parts.map Padded.text := by
      refine List.splitOn_intercalate ',' (fun text htext => ?_) (by simp [hparts])
      obtain ⟨p, hp, rfl⟩ := List.mem_map.mp htext
      exact Padded.not_mem_text (h p hp).1 (by decide) (h p hp).2
    have hne : [','].intercalate (parts.map Padded.text) ≠ [] := by
      intro hnil
      rw [hnil, hparts] at hsplit
      obtain ⟨hfirst, -⟩ := List.cons.inj hsplit
      have hname := (h first (hparts ▸ List.mem_cons_self)).1.ne
      simp [Padded.text, hname] at hfirst
    rw [nt5SplitCsvSymbols, if_neg hne, hsplit, List.map_map,
      List.map_congr_left fun p hp => show (t.stringTrim ∘ Padded.text) p = p.name from ht p (h p hp).1]
    refine List.filter_eq_self.mpr fun name hname => ?_
    obtain ⟨p, hp, rfl⟩ := List.mem_map.mp hname
    exact decide_eq_true (h p hp).1.ne

theorem plain_token (tf : Timeframe) : Padded.Plain ⟨[], tf.token.toList, []⟩ := by
  cases tf <;> exact forall_mem_of_all (by decide)

theorem trims_token (tf : Timeframe) {before after : List Char} (hbefore : ∀ c ∈ before, c = ' ')
    (hafter : ∀ c ∈ after, c = ' ') : Padded.Trims ⟨before, tf.token.toList, after⟩ := by
  have htoken : tf.token.toList ≠ [] ∧ tf.token.toList.head? ≠ some ' ' ∧ tf.token.toList.getLast? ≠ some ' ' := by
    cases tf <;> decide
  exact ⟨hbefore, hafter, htoken.1, htoken.2.1, htoken.2.2⟩

/-- A bar spec as a part of the input. -/
def PaddedSpec.part (p : PaddedSpec) : Padded :=
  ⟨p.symbol.before, p.symbol.name ++ (p.symbol.after ++ ':' :: (p.before ++ p.timeframe.token.toList)), p.after⟩

theorem PaddedSpec.text_part (p : PaddedSpec) : (PaddedSpec.part p).text = p.text := by
  simp [PaddedSpec.part, PaddedSpec.text, PaddedSpec.period, Padded.text]

theorem PaddedSpec.trims_part {p : PaddedSpec} (h : p.Plain) :
    (PaddedSpec.part p).Trims ∧ ',' ∉ (PaddedSpec.part p).name := by
  have hperiod := trims_token p.timeframe h.before h.after
  obtain ⟨c, name, hname⟩ := List.exists_cons_of_ne_nil h.trims.ne
  have hhead : c ≠ ' ' := by simpa [hname] using h.trims.head
  refine ⟨⟨h.trims.before, h.after, ?_, ?_, ?_⟩, ?_⟩
  · simp [PaddedSpec.part, hname]
  · simp [PaddedSpec.part, hname, hhead]
  · have hlast : (PaddedSpec.part p).name.getLast? = p.timeframe.token.toList.getLast? := by
      rw [PaddedSpec.part, ← List.append_assoc, ← List.cons_append, ← List.append_assoc]
      exact List.getLast?_append_of_ne_nil _ hperiod.ne
    rw [hlast]
    exact hperiod.last
  · have hblank : ∀ {blanks : List Char}, (∀ c ∈ blanks, c = ' ') → ',' ∉ blanks :=
      fun hblanks hmem => absurd (hblanks ',' hmem) (by decide)
    simp only [PaddedSpec.part, List.mem_append, List.mem_cons, not_or]
    exact ⟨fun hmem => (h.plain ',' hmem).1 rfl, hblank h.trims.after, by decide, hblank h.before,
      fun hmem => (plain_token p.timeframe ',' hmem).1 rfl⟩

/-- A part is made a spec. -/
theorem csvBarSpec_part (ht : t.TrimsBlanks) (htokens : t.KeepsTokens) {p : PaddedSpec} (h : p.Plain) :
    t.csvBarSpec (PaddedSpec.part p).name =
      some (nt5BarSpecToJson p.symbol.name p.timeframe.token.toList) := by
  have hsplit : stringSplit (PaddedSpec.part p).name ':' =
      [p.symbol.name ++ p.symbol.after, p.before ++ p.timeframe.token.toList] := by
    have hblank : ∀ {blanks : List Char}, (∀ c ∈ blanks, c = ' ') → ':' ∉ blanks :=
      fun hblanks hmem => absurd (hblanks ':' hmem) (by decide)
    have hfirst : ':' ∉ p.symbol.name ++ p.symbol.after := by
      rw [List.mem_append, not_or]
      exact ⟨fun hmem => (h.plain ':' hmem).2.1 rfl, hblank h.trims.after⟩
    have hsecond : ':' ∉ p.before ++ p.timeframe.token.toList := by
      rw [List.mem_append, not_or]
      exact ⟨hblank h.before, fun hmem => (plain_token p.timeframe ':' hmem).2.1 rfl⟩
    rw [PaddedSpec.part, ← List.append_assoc, stringSplit, List.splitOn_append_cons_self_of_not_mem hfirst,
      List.splitOn_eq_singleton hsecond]
  have hsymbol : t.stringTrim (p.symbol.name ++ p.symbol.after) = p.symbol.name :=
    ht ⟨[], p.symbol.name, p.symbol.after⟩
      ⟨fun c hc => (by cases hc), h.trims.after, h.trims.ne, h.trims.head, h.trims.last⟩
  have htimeframe : t.stringTrim (p.before ++ p.timeframe.token.toList) = p.timeframe.token.toList := by
    have htrim := ht ⟨p.before, p.timeframe.token.toList, []⟩
      (trims_token p.timeframe h.before fun c hc => (by cases hc))
    rwa [Padded.text, List.append_nil] at htrim
  have htoken : p.timeframe.token.toList ≠ [] := (trims_token p.timeframe h.before h.after).ne
  rw [csvBarSpec, hsplit]
  simp only [hsymbol, htimeframe]
  rw [if_neg (not_or.mpr ⟨h.trims.ne, htoken⟩), nt5TimeframeFromString_token htokens, Option.map_some]

/-- What is plain is written and parsed as it is. -/
theorem parseBarSpecJson_plain {name : List Char} (hne : name ≠ []) (hplain : Padded.Plain ⟨[], name, []⟩)
    (tf : Timeframe) :
    nt5ParseBarSpecJson (nt5BarSpecToJson name tf.token.toList) = some (name, tf.token.toList) := by
  have hescape : ∀ {name : List Char}, Padded.Plain ⟨[], name, []⟩ → nt5JsonEscape name = name := fun hplain => by
    rw [nt5JsonEscape, stringReplace_eq_self fun hmem => (hplain '\\' hmem).2.2.2 rfl,
      stringReplace_eq_self fun hmem => (hplain '"' hmem).2.2.1 rfl]
  have htoken := plain_token tf
  have hinner : stringReplace (nt5BarSpecToJson name tf.token.toList) '"' [] = name ++ ':' :: tf.token.toList := by
    have hquote : stringReplace ['"'] '"' [] = [] := rfl
    have hnone : '"' ∉ name ++ ':' :: tf.token.toList := by
      simp only [List.mem_append, List.mem_cons, not_or]
      exact ⟨fun hmem => (hplain '"' hmem).2.2.1 rfl, by decide, fun hmem => (htoken '"' hmem).2.2.1 rfl⟩
    have htext :
        '"' :: (name ++ ':' :: (tf.token.toList ++ ['"'])) = ['"'] ++ ((name ++ ':' :: tf.token.toList) ++ ['"']) := by
      simp
    rw [nt5BarSpecToJson_eq, hescape hplain, hescape htoken, htext, stringReplace_append, stringReplace_append, hquote,
      stringReplace_eq_self hnone, List.append_nil, List.nil_append]
  have hsplit : stringSplit (name ++ ':' :: tf.token.toList) ':' = [name, tf.token.toList] := by
    rw [stringSplit, List.splitOn_append_cons_self_of_not_mem fun hmem => (hplain ':' hmem).2.1 rfl,
      List.splitOn_eq_singleton fun hmem => (htoken ':' hmem).2.1 rfl]
  have htext : tf.token.toList ≠ [] := by cases tf <;> decide
  rw [nt5ParseBarSpecJson, hinner, hsplit]
  exact if_neg (not_or.mpr ⟨hne, htext⟩)

/-- Symbols that the terminal does not know are passed over. -/
theorem forEach_known {κ : Type} [DecidableEq κ] {p : κ → Bool} {f g : Dict κ Bool → κ → Dict κ Bool × Bool}
    (hf : ∀ d k, f d k = if p k then g d k else (d, false)) (d : Dict κ Bool) (ks : List κ) :
    (forEach f d ks).1 = (forEach g d (ks.filter p)).1 := by
  rw [forEach_table, forEach_table]
  induction ks generalizing d with
  | nil => rfl
  | cons k ks ih =>
    rw [List.foldl_cons, ih, hf]
    cases hp : p k <;> simp [hp]

/-- **The inputs**: `OnStart` activates the symbols and the bars that the inputs name, as far as the terminal knows
their symbols. -/
theorem onStart_eq (ht : t.TrimsBlanks) (htokens : t.KeepsTokens) (symbols : List Padded) (bars : List PaddedSpec)
    (hsymbols : ∀ p ∈ symbols, p.Trims ∧ p.Plain) (hbars : ∀ p ∈ bars, p.Plain) :
    t.onStart ([','].intercalate (symbols.map Padded.text)) ([','].intercalate (bars.map PaddedSpec.text)) =
      ServiceSubscriptions.onStart ((symbols.map fun p => String.ofList p.name).filter t.symbolSelect)
        ((bars.map PaddedSpec.key).filter fun k => t.symbolSelect k.1) := by
  have hkeys : t.initialBarKeys ([','].intercalate (bars.map PaddedSpec.text)) = bars.map PaddedSpec.key := by
    have hparts : bars.map PaddedSpec.text = (bars.map PaddedSpec.part).map Padded.text := by
      rw [List.map_map]
      exact List.map_congr_left fun p _ => (PaddedSpec.text_part p).symm
    have hspecs : t.nt5SplitCsvBarSpecs ([','].intercalate (bars.map PaddedSpec.text)) =
        bars.map fun p => nt5BarSpecToJson p.symbol.name p.timeframe.token.toList := by
      have hall : ∀ part ∈ bars.map PaddedSpec.part, part.Trims ∧ ',' ∉ part.name :=
        List.forall_mem_map.mpr fun p hp => PaddedSpec.trims_part (hbars p hp)
      rw [nt5SplitCsvBarSpecs, hparts, splitCsv_intercalate ht hall, List.map_map, List.filterMap_map,
        ← List.filterMap_eq_map]
      exact List.filterMap_congr fun p hp => csvBarSpec_part ht htokens (hbars p hp)
    have hparsed : ∀ p ∈ bars, ((nt5ParseBarSpecJson (nt5BarSpecToJson p.symbol.name p.timeframe.token.toList)).bind
        fun q => (t.nt5TimeframeFromString q.2).map fun period => (String.ofList q.1, period)) = some p.key := by
      intro p hp
      have hp := hbars p hp
      rw [parseBarSpecJson_plain hp.trims.ne hp.plain, Option.bind_some, nt5TimeframeFromString_token htokens]
      rfl
    rw [initialBarKeys, hspecs, List.filterMap_map, ← List.filterMap_eq_map]
    exact List.filterMap_congr hparsed
  have hnames : (t.nt5SplitCsvSymbols ([','].intercalate (symbols.map Padded.text))).map String.ofList =
      symbols.map fun p => String.ofList p.name := by
    rw [splitCsv_intercalate ht fun p hp => ⟨(hsymbols p hp).1, fun hmem => ((hsymbols p hp).2 ',' hmem).1 rfl⟩,
      List.map_map]
    rfl
  have hknown : ∀ d ks, (forEach t.nt5ActivateSymbol d ks).1 =
      (forEach ServiceSubscriptions.nt5ActivateSymbol d (ks.filter t.symbolSelect)).1 := forEach_known fun d s => rfl
  have hknownBars : ∀ d ks, (forEach t.nt5ActivateBar d ks).1 =
      (forEach ServiceSubscriptions.nt5ActivateBar d (ks.filter fun k => t.symbolSelect k.1)).1 :=
    forEach_known fun d k => rfl
  rw [onStart, hkeys, hnames, hknown, hknownBars]
  rfl

theorem trimsBlanks_sample : sampleSessionTerminal.TrimsBlanks := by
  have hcut :
      ∀ {blanks : List Char} (name rest : List Char), (∀ c ∈ blanks, c = ' ') → name ≠ [] → name.head? ≠ some ' ' →
      (blanks ++ (name ++ rest)).dropWhile (· = ' ') = name ++ rest := by
    intro blanks name rest hblanks hne hhead
    obtain ⟨c, tail, rfl⟩ := List.exists_cons_of_ne_nil hne
    have hc : c ≠ ' ' := by simpa using hhead
    rw [List.dropWhile_append_of_pos fun c hc => decide_eq_true (hblanks c hc)]
    simp [hc]
  intro p hp
  have hlast : p.name.reverse.head? ≠ some ' ' := by simpa using hp.last
  have hreverse : (p.name ++ p.after).reverse = p.after.reverse ++ (p.name.reverse ++ []) := by simp
  show ((p.text.dropWhile (· = ' ')).reverse.dropWhile (· = ' ')).reverse = p.name
  rw [Padded.text, hcut p.name p.after hp.before hp.ne hp.head, hreverse,
    hcut p.name.reverse [] (fun c hc => hp.after c (List.mem_reverse.mp hc)) (by simpa using hp.ne) hlast,
    List.append_nil, List.reverse_reverse]

/-- One symbol is known, the other is not. -/
theorem onStart_eq_sample :
    sampleSessionTerminal.onStart " EU, GB ".toList "EU : M5".toList =
      ServiceSubscriptions.onStart ["EU"] [("EU", .M5)] :=
  onStart_eq trimsBlanks_sample (fun tf => by cases tf <;> decide)
    [⟨[' '], "EU".toList, []⟩, ⟨[' '], "GB".toList, [' ']⟩] [⟨⟨[], "EU".toList, [' ']⟩, .M5, [' '], []⟩]
    (by
      simp only [List.forall_mem_cons]
      exact ⟨⟨⟨forall_mem_of_all (by decide), forall_mem_of_all (by decide), by decide, by decide, by decide⟩,
        forall_mem_of_all (by decide)⟩,
        ⟨⟨forall_mem_of_all (by decide), forall_mem_of_all (by decide), by decide, by decide, by decide⟩,
          forall_mem_of_all (by decide)⟩, List.forall_mem_nil _⟩)
    (List.forall_mem_singleton.mpr
      ⟨⟨forall_mem_of_all (by decide), forall_mem_of_all (by decide), by decide, by decide, by decide⟩,
        forall_mem_of_all (by decide), forall_mem_of_all (by decide), forall_mem_of_all (by decide)⟩)

end ServiceTerminal

end NautilusMt5
