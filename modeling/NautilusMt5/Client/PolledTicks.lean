import NautilusMt5.Client.QuoteSources
import NautilusMt5.Feed.TickDelivery

/-!
# Polled ticks (`client/client.py`, `client/market_data.py`, `data.py`)

The reader of the shared client asks the bridge for the last tick of every subscription and queues it under its MT5
symbol. The processor of the queue looks for a subscription of that symbol and takes the oldest one. In between,
subscriptions come and go.

* `ticks_routed_iff`: every tick goes to the subscription that it was polled for just when no two instruments share an
  MT5 symbol;
* `younger_starves`: of two subscriptions of one symbol the younger gets nothing.
-/

namespace NautilusMt5

open Py Runs

/-! ## The messages of the reader -/

/-- A message of the queue: the tick of a symbol. -/
structure TickMessage where
  symbol : String
  timeMsc : ℤ
  bid : PyFloat
  ask : PyFloat
  deriving DecidableEq, Repr

/-- What `symbol_info_tick` answers, where it answers a tick. -/
structure PolledTick where
  timeMsc : ℤ
  bid : PyFloat
  ask : PyFloat
  deriving DecidableEq, Repr

def PolledTick.message (t : PolledTick) (symbol : String) : TickMessage := ⟨symbol, t.timeMsc, t.bid, t.ask⟩

/-- The names of instruments, the cache, `_convert_mt5_timestamp_to_pandas_timestamp`, and what the constructor of a
quote raises. -/
structure PolledTickEnv where
  str : InstrumentId → String
  fromStr : String → Except Error InstrumentId
  instrument : InstrumentId → Option Instrument
  timestamp : ℤ → Except Error ℤ
  newQuote : QuoteTick → Except Error Unit

/-- The tick types of the data clients. -/
inductive TickType
  | bidAsk
  | allLast
  deriving DecidableEq, Repr

def TickType.text : TickType → String
  | .bidAsk => "BidAsk"
  | .allLast => "AllLast"

namespace PolledTickEnv

variable (env : PolledTickEnv)

/-- The MT5 symbol that a data client subscribes: without a symbol in its info an instrument has that of its id for
quotes, and none for trades. -/
def symbolOf (tickType : TickType) (id : InstrumentId) : Option String :=
  match tickType with
  | .bidAsk => (env.instrument id).map fun instrument => instrument.symbolInfo.getD id.symbol
  | .allLast => (env.instrument id).bind Instrument.symbolInfo

/-- The name of a subscription. -/
def tickName (tickType : TickType) (id : InstrumentId) : ReqName := .tuple [env.str id, tickType.text]

/-- The quote of `process_tick_by_tick_bid_ask`, for a subscription whose name begins so. -/
def quoteOf (first : String) (m : TickMessage) (now : ℤ) : Except Error (Option QuoteTick) :=
  if m.bid ≤ 0 ∨ m.ask ≤ 0 then .ok none
  else do
    let id ← env.fromStr first
    match env.instrument id with
    | none => return none
    | some instrument =>
      let tsEvent ← env.timestamp m.timeMsc
      let bidPrice ← instrument.makePriceOf m.bid
      let askPrice ← instrument.makePriceOf m.ask
      let bidSize ← instrument.makeQty 0
      let askSize ← instrument.makeQty 0
      let quote := { instrumentId := id, bidPrice, askPrice, bidSize, askSize, tsEvent, tsInit := max now tsEvent }
      env.newQuote quote
      return some quote

/-- The quote that a message gives the subscription of that name. -/
def quoteFor (name : ReqName) (m : TickMessage) (now : ℤ) : Option QuoteTick :=
  match name with
  | .tuple (first :: _) => (env.quoteOf first m now).toOption.join
  | _ => none

end PolledTickEnv

/-! ## The shared client -/

namespace QuoteClient

variable {ν : Type} (c : QuoteClient ν)

/-- `_unsubscribe`: whatever the bridge raises, the subscription is gone. -/
def unsubscribe (name : ReqName) : QuoteClient ν :=
  match c.subscriptions.get none (some name) with
  | .ok (some sub) => { c with subscriptions := ((Registry.remove (some sub.reqId) none).run c.subscriptions).state }
  | _ => c

/-- `unsubscribe_ticks`, where the bridge may raise when it is asked for its method. -/
def unsubscribeTicks (name : ReqName) (answer : StreamAnswer) : QuoteClient ν :=
  if answer = .lookupRaises then c else c.unsubscribe name

/-- The name is one of ticks that the processor looks at. -/
def isTickName : ReqName → Bool
  | .tuple (_ :: tickType :: _) => isPolledTickType tickType
  | _ => false

/-- The loop of `_process_message` over the names, for the first subscription of the symbol. -/
def findReqId (symbol : String) : List (ℕ × ReqName) → Except RegistryError (Option ℕ)
  | [] => .ok none
  | (rid, name) :: names =>
    if isTickName name then do
      let sub ← c.subscriptions.get (some rid) none
      if sub.any fun sub => sub.handle.symbol = symbol then return some rid else findReqId symbol names
    else findReqId symbol names

/-- `process_tick_by_tick_bid_ask` of a subscription: the quote that is handed to the engine. -/
def processTickByTickBidAsk (env : PolledTickEnv) (reqId : ℕ) (m : TickMessage) (now : ℤ) : Option QuoteTick :=
  match c.subscriptions.get (some reqId) none with
  | .ok (some sub) => env.quoteFor sub.name m now
  | _ => none

/-- `_process_message`. What it raises is logged, and the message is gone. -/
def processMessage (env : PolledTickEnv) (m : TickMessage) (now : ℤ) : Option QuoteTick :=
  match c.findReqId m.symbol c.subscriptions.reqIdToName.entries with
  | .ok (some reqId) => c.processTickByTickBidAsk env reqId m now
  | _ => none

end QuoteClient

/-! ## The system -/

/-- The shared client, its queue, and the quotes that went to the engine. `owners` are the subscriptions that the
messages of the queue were polled for; the code does not keep them. -/
structure TickQueue (ν : Type) where
  client : QuoteClient ν := {}
  queue : List TickMessage := []
  owners : List ReqName := []
  quotes : List QuoteTick := []

/-- A data client subscribes or unsubscribes, one with a feed is created, the reader makes a pass, or the processor
takes a message. `answers` are those of the bridge to the calls of a pass. -/
inductive TickQueueEvent
  | subscribe (tickType : TickType) (id : InstrumentId) (ignoreSize : Bool) (answer : StreamAnswer)
  | unsubscribe (tickType : TickType) (id : InstrumentId) (answer : StreamAnswer)
  | enableLiveQuoteFeed
  | pass (answers : ReqName → Option PolledTick)
  | process (now : ℤ)

namespace TickQueue

variable {ν : Type} (env : PolledTickEnv) (q : TickQueue ν)

/-- The messages of a pass, each with its subscription. -/
def passMessages (answers : ReqName → Option PolledTick) : List (ReqName × TickMessage) :=
  match q.client.pollPass with
  | .error _ => []
  | .ok polls => polls.filterMap fun p => (answers p.1).map fun t => (p.1, t.message p.2)

def step : TickQueueEvent → Option (TickQueue ν)
  | .subscribe tickType id ignoreSize answer =>
    match env.symbolOf tickType id with
    | none => some q
    | some symbol =>
      some { q with client := (q.client.subscribeTicks (env.str id) symbol tickType.text ignoreSize answer).1 }
  | .unsubscribe tickType id answer =>
    some { q with client := q.client.unsubscribeTicks (env.tickName tickType id) answer }
  | .enableLiveQuoteFeed => some { q with client := { q.client with liveQuoteFeedEnabled := true } }
  | .pass answers =>
    let messages := q.passMessages answers
    some { q with queue := q.queue ++ messages.map Prod.snd, owners := q.owners ++ messages.map Prod.fst }
  | .process now =>
    match q.queue with
    | [] => none
    | m :: queue =>
      some { q with queue, owners := q.owners.tail, quotes := q.quotes ++ (q.client.processMessage env m now).toList }

/-- **Routed**: the message that is processed gives a quote for the subscription it was polled for, if that is still
there, and otherwise none. -/
def Routed : TickQueueEvent → Prop
  | .process now => ∀ owner ∈ q.owners.head?, ∀ m ∈ q.queue.head?,
      q.client.processMessage env m now = if owner ∈ q.client.names then env.quoteFor owner m now else none
  | _ => True

end TickQueue

/-! ## What the client does with its subscriptions -/

/-- A subscription of the registry. -/
abbrev TickEntry (ν : Type) := RegistryEntry TickCall (SubscriptionDict.Value ν)

/-- The subscription is polled and is of the symbol. -/
def matchesTick {ν : Type} (symbol : String) (e : TickEntry ν) : Bool :=
  QuoteClient.isTickName e.name && decide (e.handle.symbol = symbol)

namespace QuoteClient

variable {ν : Type} {c : QuoteClient ν} {es : List (TickEntry ν)}

theorem isPolledTickType_allLast : isPolledTickType "AllLast" = false := by decide +kernel

/-- **Subscribing** under a new name: the subscription comes last. -/
theorem Ready.lists_subscribe (h : c.Ready) (hes : c.subscriptions.Lists es) {name : ReqName} (ht : name.truthy = true)
    (hname : name ∉ es.map RegistryEntry.name) (symbol tickType : String) (ignoreSize : Bool) (answer : StreamAnswer) :
    ∃ e, (c.subscribe name symbol tickType ignoreSize answer).1.subscriptions.Lists (es ++ [e]) ∧
      e.name = name ∧ e.handle.symbol = symbol := by
  have hid : c.requestIdSeq ∉ c.subscriptions.reqIdToName.keys := fun hmem => (h.fresh _ hmem).false
  have hvalues : name ∉ c.subscriptions.reqIdToName.values := hes.names ▸ hname
  rw [QuoteClient.subscribe, Registry.get_of_none (Registry.resolve_of_not_mem hvalues)]
  simp only [Registry.run_add_absent h.pos ht hid hvalues]
  exact ⟨_, hes.put hid, rfl, rfl⟩

/-- `subscribe_ticks` comes to a new subscription. -/
def Takes (c : QuoteClient ν) (name : ReqName) (tickType : String) (answer : StreamAnswer) : Prop :=
  (c.liveQuoteFeedEnabled && isQuoteTickSubscription tickType) = false ∧ answer ≠ .lookupRaises ∧ name ∉ c.names

/-- Otherwise nothing changes. -/
theorem Ready.subscribeTicks_of_not_takes (h : c.Ready) {instrumentId tickType : String} {answer : StreamAnswer}
    (hnot : ¬ c.Takes (.tuple [instrumentId, tickType]) tickType answer) (symbol : String) (ignoreSize : Bool) :
    (c.subscribeTicks instrumentId symbol tickType ignoreSize answer).1 = c := by
  unfold QuoteClient.subscribeTicks
  split_ifs with hlive hanswer
  · rfl
  · rfl
  · have hname : .tuple [instrumentId, tickType] ∈ c.names := by
      by_contra hname
      exact hnot ⟨Bool.eq_false_iff.mpr hlive, hanswer, hname⟩
    obtain ⟨es, hes⟩ := h.consistent.exists_lists
    rw [QuoteClient.names, hes.names] at hname
    obtain ⟨e, he, heq⟩ := List.mem_map.mp hname
    have hget := (hes.stores e he).get (h.consistent.truthy (hes.get?_name he))
      (h.consistent.resolve_name (hes.get?_name he))
    rw [QuoteClient.subscribe, ← heq, hget]

/-- A new subscription comes last. -/
theorem Ready.lists_of_takes (h : c.Ready) (hes : c.subscriptions.Lists es) {instrumentId tickType : String}
    {answer : StreamAnswer} (htakes : c.Takes (.tuple [instrumentId, tickType]) tickType answer) (symbol : String)
    (ignoreSize : Bool) :
    ∃ e, (c.subscribeTicks instrumentId symbol tickType ignoreSize answer).1.subscriptions.Lists (es ++ [e]) ∧
      e.name = .tuple [instrumentId, tickType] ∧ e.handle.symbol = symbol := by
  obtain ⟨hlive, hanswer, hname⟩ := htakes
  rw [QuoteClient.subscribeTicks, if_neg (by simp [hlive]), if_neg hanswer]
  exact h.lists_subscribe hes rfl (hes.names ▸ hname) symbol tickType ignoreSize answer

/-- **Unsubscribing**: the subscription of that name goes out, and the others stay in their order. -/
theorem Ready.lists_unsubscribe (h : c.Ready) (hes : c.subscriptions.Lists es) (name : ReqName) :
    (c.unsubscribe name).Ready ∧ (c.unsubscribe name).subscriptions.Lists (es.filter (·.name ≠ name)) := by
  unfold QuoteClient.unsubscribe
  by_cases hname : name ∈ c.subscriptions.reqIdToName.values
  · obtain ⟨e, he, rfl⟩ := List.mem_map.mp (hes.names ▸ hname)
    have hget := (hes.stores e he).get (h.consistent.truthy (hes.get?_name he))
      (h.consistent.resolve_name (hes.get?_name he))
    have hpos : 0 < e.reqId := h.consistent.pos (hes.get?_name he)
    have hsame : es.filter (·.reqId ≠ e.reqId) = es.filter (·.name ≠ e.name) := by
      refine List.filter_congr fun e' he' => ?_
      rw [decide_eq_decide]
      exact not_congr ⟨fun heq => hes.name_eq he' he heq, fun heq => hes.id_eq h.consistent he' he heq⟩
    simp only [hget, Registry.run_remove, Registry.resolve_id c.subscriptions hpos]
    refine ⟨⟨h.consistent.drop e.reqId, h.pos, fun id hid => h.fresh id ?_⟩, hsame ▸ hes.drop e.reqId⟩
    exact List.mem_of_mem_filter (Dict.keys_pop c.subscriptions.reqIdToName e.reqId ▸ hid)
  · have hall : es.filter (·.name ≠ name) = es :=
      List.filter_eq_self.mpr fun e he => decide_eq_true fun heq => hname (hes.names ▸ heq ▸ List.mem_map_of_mem he)
    rw [Registry.get_of_none (Registry.resolve_of_not_mem hname), hall]
    exact ⟨h, hes⟩

/-- The loop of `_process_message` takes the first subscription that is polled and of the symbol. -/
theorem Ready.findReqId (h : c.Ready) (hes : c.subscriptions.Lists es) (symbol : String) :
    c.findReqId symbol c.subscriptions.reqIdToName.entries =
      .ok ((es.find? (matchesTick symbol)).map RegistryEntry.reqId) := by
  have hloop :
      ∀ es' : List (TickEntry ν), (∀ e ∈ es', e ∈ es) → c.findReqId symbol (es'.map fun e => (e.reqId, e.name)) =
      .ok ((es'.find? (matchesTick symbol)).map RegistryEntry.reqId) := by
    intro es' hsub
    induction es' with
    | nil => rfl
    | cons e es' ih =>
      obtain ⟨he, hes'⟩ := List.forall_mem_cons.mp hsub
      have hrest := ih hes'
      rw [List.map_cons, QuoteClient.findReqId, List.find?_cons, matchesTick, hes.get h.consistent he]
      cases hname : isTickName e.name with
      | false => simpa using hrest
      | true =>
        by_cases hsymbol : e.handle.symbol = symbol
        · simp [hsymbol, bind, Except.bind, pure, Except.pure]
        · simpa [hsymbol, bind, Except.bind] using hrest
  rw [hes.entries]
  exact hloop es fun _ he => he

/-- **Processing**: the quote is that of the oldest subscription of the symbol. -/
theorem Ready.processMessage (h : c.Ready) (hes : c.subscriptions.Lists es) (env : PolledTickEnv) (m : TickMessage)
    (now : ℤ) : c.processMessage env m now =
      (es.find? (matchesTick m.symbol)).bind fun e => env.quoteFor e.name m now := by
  rw [QuoteClient.processMessage, h.findReqId hes]
  cases hfind : es.find? (matchesTick m.symbol) with
  | none => rfl
  | some e =>
    simp only [Option.map_some, processTickByTickBidAsk, hes.get h.consistent (List.mem_of_find?_eq_some hfind)]
    rfl

/-- A pass of the reader. -/
theorem Ready.pollPass (h : c.Ready) (hes : c.subscriptions.Lists es) : c.pollPass = .ok (es.filterMap c.poll) := by
  rw [QuoteClient.pollPass, hes.getAll h.consistent]
  simp [Except.map, List.filterMap_map]

end QuoteClient

/-! ## Runs -/

/-- `InstrumentId.from_str` reads the names of the cached instruments. -/
def PolledTickEnv.ReadsIds (env : PolledTickEnv) : Prop :=
  ∀ id instrument, env.instrument id = some instrument → env.fromStr (env.str id) = .ok id

/-- Some tick of a cached instrument is made a quote. -/
def PolledTickEnv.MakesQuotes (env : PolledTickEnv) : Prop :=
  ∀ id instrument, env.instrument id = some instrument →
    ∃ m now quote, env.quoteOf (env.str id) m now = .ok (some quote)

/-- No two instruments share an MT5 symbol. -/
def PolledTickEnv.OneSymbolEach (env : PolledTickEnv) : Prop :=
  ∀ id id' symbol, env.symbolOf .bidAsk id = some symbol → env.symbolOf .bidAsk id' = some symbol → id = id'

namespace PolledTickEnv

variable {env : PolledTickEnv} {tickType tickType' : TickType} {id id' : InstrumentId} {m : TickMessage} {now : ℤ}
  {quote : QuoteTick} {symbol symbol' : String}

/-- What has a symbol is cached. -/
theorem exists_instrument (h : env.symbolOf tickType id = some symbol) :
    ∃ instrument, env.instrument id = some instrument := by
  cases tickType with
  | bidAsk =>
    obtain ⟨instrument, hinstrument, -⟩ := Option.map_eq_some_iff.mp h
    exact ⟨instrument, hinstrument⟩
  | allLast =>
    obtain ⟨instrument, hinstrument, -⟩ := Option.bind_eq_some_iff.mp h
    exact ⟨instrument, hinstrument⟩

theorem ReadsIds.fromStr (h : env.ReadsIds) (hsymbol : env.symbolOf tickType id = some symbol) :
    env.fromStr (env.str id) = .ok id := by
  obtain ⟨instrument, hinstrument⟩ := exists_instrument hsymbol
  exact h id instrument hinstrument

theorem isTickName_tickName : QuoteClient.isTickName (env.tickName tickType id) = true ↔ tickType = .bidAsk := by
  cases tickType with
  | bidAsk => exact iff_of_true QuoteClient.isPolledTickType_bidAsk rfl
  | allLast => exact iff_of_false (by rw [tickName, QuoteClient.isTickName, TickType.text,
      QuoteClient.isPolledTickType_allLast]; decide) (by decide)

theorem tickName_eq_iff : env.tickName tickType id = env.tickName tickType' id' ↔
    env.str id = env.str id' ∧ tickType = tickType' := by
  have htext : tickType.text = tickType'.text ↔ tickType = tickType' := by
    cases tickType <;> cases tickType' <;> decide
  simp [tickName, htext]

theorem ReadsIds.tickName_inj (h : env.ReadsIds) (hsymbol : env.symbolOf tickType id = some symbol)
    (hsymbol' : env.symbolOf tickType' id' = some symbol')
    (hname : env.tickName tickType id = env.tickName tickType' id') : id = id' := by
  have hread := h.fromStr hsymbol
  rw [(tickName_eq_iff.mp hname).1, h.fromStr hsymbol'] at hread
  exact (Except.ok.inj hread).symm

/-- A quote is of the instrument in the name of its subscription. -/
theorem ReadsIds.instrumentId_eq (h : env.ReadsIds) (hsymbol : env.symbolOf tickType id = some symbol)
    (hquote : env.quoteFor (env.tickName tickType' id) m now = some quote) : quote.instrumentId = id := by
  have hmade : env.quoteOf (env.str id) m now = .ok (some quote) := by
    have hsome := Option.join_eq_some_iff.mp hquote
    cases hof : env.quoteOf (env.str id) m now with
    | error e =>
      rw [hof] at hsome
      cases hsome
    | ok made =>
      rw [hof] at hsome
      exact congrArg Except.ok (Option.some.inj hsome)
  unfold quoteOf at hmade
  split_ifs at hmade with hprices
  · cases hmade
  · obtain ⟨read, hread, hmade⟩ := bind_eq_ok.mp hmade
    rw [h.fromStr hsymbol] at hread
    cases hread
    split at hmade
    · cases hmade
    · simp only [bind_eq_ok] at hmade
      obtain ⟨_, -, _, -, _, -, _, -, _, -, _, -, hquote⟩ := hmade
      cases hquote
      rfl

end PolledTickEnv

namespace TickQueue

variable {ν : Type} {env : PolledTickEnv} {q q' : TickQueue ν} {e : TickQueueEvent}

/-- The invariant of all runs: a subscription is of an instrument and its MT5 symbol, and so is every message. -/
structure Inv (env : PolledTickEnv) (q : TickQueue ν) : Prop where
  ready : q.client.Ready
  listed : ∃ es, q.client.subscriptions.Lists es ∧ ∀ e ∈ es, ∃ tickType id, e.name = env.tickName tickType id ∧
    env.symbolOf tickType id = some e.handle.symbol
  owned : List.Forall₂ (fun owner m => ∃ id, owner = env.tickName .bidAsk id ∧
    env.symbolOf .bidAsk id = some m.symbol) q.owners q.queue

theorem inv_init : Inv env ({} : TickQueue ν) where
  ready := ⟨Registry.consistent_empty, Nat.succ_pos _, fun _ h => (by cases h)⟩
  listed := ⟨[], ⟨rfl, fun _ h => (by cases h)⟩, fun _ h => (by cases h)⟩
  owned := .nil

/-- What a pass polls is a registered subscription of quotes. -/
theorem poll_eq_some {c : QuoteClient ν} {e : TickEntry ν} {p : ReqName × String} (h : c.poll e = some p) :
    QuoteClient.isTickName e.name = true ∧ p = (e.name, e.handle.symbol) := by
  unfold QuoteClient.poll at h
  split at h
  · rename_i hname
    split_ifs at h with hpoll
    rw [hname]
    exact ⟨(Bool.and_eq_true_iff.mp hpoll).2, (Option.some.inj h).symm.trans (by rw [hname])⟩
  · cases h

/-- The messages of a pass are of the subscriptions they were polled for. -/
theorem Inv.passMessages (h : Inv env q) (answers : ReqName → Option PolledTick) :
    ∀ p ∈ q.passMessages answers, ∃ id, p.1 = env.tickName .bidAsk id ∧ env.symbolOf .bidAsk id = some p.2.symbol := by
  obtain ⟨es, hes, hnamed⟩ := h.listed
  intro p hp
  rw [TickQueue.passMessages, h.ready.pollPass hes] at hp
  obtain ⟨poll, hpoll, hanswer⟩ := List.mem_filterMap.mp hp
  obtain ⟨t, -, rfl⟩ := Option.map_eq_some_iff.mp hanswer
  obtain ⟨e, he, heq⟩ := List.mem_filterMap.mp hpoll
  obtain ⟨hpolled, rfl⟩ := poll_eq_some heq
  obtain ⟨tickType, id, hname, hsymbol⟩ := hnamed e he
  have htype : tickType = .bidAsk := PolledTickEnv.isTickName_tickName.mp (hname ▸ hpolled)
  exact ⟨id, htype ▸ hname, htype ▸ hsymbol⟩

/-- Subscriptions come in with the name and the symbol of their instrument, and go out. -/
theorem inv_step (h : Inv env q) (hstep : q.step env e = some q') : Inv env q' := by
  obtain ⟨es, hes, hnamed⟩ := h.listed
  cases e with
  | subscribe tickType id ignoreSize answer =>
    rw [step] at hstep
    cases hsymbol : env.symbolOf tickType id with
    | none =>
      rw [hsymbol] at hstep
      cases hstep
      exact h
    | some symbol =>
      rw [hsymbol] at hstep
      cases hstep
      refine ⟨(h.ready.subscribeTicks (env.str id) symbol tickType.text ignoreSize answer).1.ready, ?_, h.owned⟩
      by_cases htakes : q.client.Takes (env.tickName tickType id) tickType.text answer
      · obtain ⟨e, hlists, hname, rfl⟩ := h.ready.lists_of_takes hes htakes symbol ignoreSize
        exact ⟨es ++ [e], hlists, List.forall_mem_append.mpr ⟨hnamed, List.forall_mem_singleton.mpr
          ⟨tickType, id, hname, hsymbol⟩⟩⟩
      · exact ⟨es, (h.ready.subscribeTicks_of_not_takes htakes symbol ignoreSize).symm ▸ hes, hnamed⟩
  | unsubscribe tickType id answer =>
    cases hstep
    show Inv env { q with client := if answer = .lookupRaises then q.client else _ }
    split_ifs
    · exact h
    · obtain ⟨hready, hlists⟩ := h.ready.lists_unsubscribe hes (env.tickName tickType id)
      exact ⟨hready, ⟨_, hlists, fun e he => hnamed e (List.mem_of_mem_filter he)⟩, h.owned⟩
  | enableLiveQuoteFeed =>
    cases hstep
    exact ⟨⟨h.ready.consistent, h.ready.pos, h.ready.fresh⟩, h.listed, h.owned⟩
  | pass answers =>
    cases hstep
    refine ⟨h.ready, h.listed, List.rel_append h.owned ?_⟩
    rw [List.forall₂_map_left_iff, List.forall₂_map_right_iff]
    exact List.forall₂_same.mpr (h.passMessages answers)
  | process now =>
    rw [step] at hstep
    split at hstep
    · cases hstep
    · rename_i m queue hqueue
      cases hstep
      obtain ⟨owner, owners, -, hrest, howners⟩ := List.forall₂_cons_right_iff.mp (hqueue ▸ h.owned)
      refine ⟨h.ready, h.listed, ?_⟩
      show List.Forall₂ _ q.owners.tail queue
      rw [howners]
      exact hrest

/-- **Routing**: where no two instruments share a symbol, a message goes to the subscription it was polled for. -/
theorem Inv.routed (h : Inv env q) (hids : env.ReadsIds) (hone : env.OneSymbolEach) (e : TickQueueEvent) :
    q.Routed env e := by
  cases e with
  | process now =>
    intro owner howner m hm
    obtain ⟨es, hes, hnamed⟩ := h.listed
    obtain ⟨id, rfl, hsymbol⟩ : ∃ id, owner = env.tickName .bidAsk id ∧ env.symbolOf .bidAsk id = some m.symbol := by
      have howned := h.owned
      cases howners : q.owners with
      | nil => simp [howners] at howner
      | cons a owners => cases hqueue : q.queue with
        | nil => simp [hqueue] at hm
        | cons b queue =>
          rw [howners, hqueue] at howned
          simp only [howners, hqueue, List.head?_cons, Option.mem_def, Option.some.injEq] at howner hm
          subst howner hm
          cases howned
          assumption
    -- a subscription of the symbol is one of the instrument
    have hmatch : ∀ e ∈ es, matchesTick m.symbol e = true ↔ e.name = env.tickName .bidAsk id := by
      intro e he
      obtain ⟨tickType, id', hname, hsymbol'⟩ := hnamed e he
      rw [matchesTick, hname, Bool.and_eq_true, PolledTickEnv.isTickName_tickName, decide_eq_true_eq]
      constructor
      · rintro ⟨rfl, heq⟩
        rw [hone id' id m.symbol (heq ▸ hsymbol') hsymbol]
      · intro heq
        obtain rfl := hids.tickName_inj hsymbol' hsymbol heq
        obtain rfl := (PolledTickEnv.tickName_eq_iff.mp heq).2
        exact ⟨rfl, Option.some.inj (hsymbol'.symm.trans hsymbol)⟩
    rw [h.ready.processMessage hes]
    have hnames : q.client.names = es.map RegistryEntry.name := hes.names
    cases hfind : es.find? (matchesTick m.symbol) with
    | none =>
      have hnot : env.tickName .bidAsk id ∉ q.client.names := by
        rw [hnames, List.mem_map]
        rintro ⟨e, he, hname⟩
        exact List.find?_eq_none.mp hfind e he ((hmatch e he).mpr hname)
      rw [if_neg hnot]
      rfl
    | some e =>
      have he := List.mem_of_find?_eq_some hfind
      have hname := (hmatch e he).mp (List.find?_some hfind)
      rw [if_pos (hnames ▸ hname ▸ List.mem_map_of_mem he), ← hname]
      rfl
  | _ => trivial

/-! ### Two instruments of one symbol -/

/-- The reader polls for a subscription of quotes while there is no feed. -/
theorem poll_tickName {c : QuoteClient ν} (hlive : c.liveQuoteFeedEnabled = false) {e : TickEntry ν} {id : InstrumentId}
    (hname : e.name = env.tickName .bidAsk id) : c.poll e = some (e.name, e.handle.symbol) := by
  have hshould : (c.shouldPollQuoteTicks "BidAsk" && isPolledTickType "BidAsk") = true := by
    rw [QuoteClient.shouldPollQuoteTicks, hlive, QuoteClient.isPolledTickType_bidAsk]
    rfl
  rw [QuoteClient.poll, hname]
  exact if_pos hshould

/-- Another instrument is subscribed. -/
theorem Inv.exists_subscribe (h : Inv env q) (hlive : q.client.liveQuoteFeedEnabled = false)
    {es : List (TickEntry ν)} (hes : q.client.subscriptions.Lists es) {id : InstrumentId} {symbol : String}
    (hsymbol : env.symbolOf .bidAsk id = some symbol) (hnew : env.tickName .bidAsk id ∉ es.map RegistryEntry.name) :
    ∃ c e, q.step env (.subscribe .bidAsk id false .noMethods) = some { q with client := c } ∧
      c.liveQuoteFeedEnabled = false ∧ c.subscriptions.Lists (es ++ [e]) ∧ e.name = env.tickName .bidAsk id ∧
        e.handle.symbol = symbol := by
  obtain ⟨e, hlists, hname, he⟩ := h.ready.lists_subscribe hes rfl hnew symbol "BidAsk" false .noMethods
  have hsubscribe : q.client.subscribeTicks (env.str id) symbol "BidAsk" false .noMethods =
      q.client.subscribe (env.tickName .bidAsk id) symbol "BidAsk" false .noMethods := by
    rw [QuoteClient.subscribeTicks, hlive]
    rfl
  refine ⟨_, e, ?_, ?_, hlists, hname, he⟩
  · rw [step, hsymbol]
    exact congrArg (fun c => some { q with client := c }) (congrArg Prod.fst hsubscribe)
  · have hkeeps := (h.ready.subscribeTicks (env.str id) symbol "BidAsk" false .noMethods).1.live
    rw [hsubscribe, hlive] at hkeeps
    exact hkeeps

/-- **One symbol for two**: a tick that was polled for the second instrument goes to the first. -/
theorem exists_not_routed (hids : env.ReadsIds) (hquotes : env.MakesQuotes) {id id' : InstrumentId} {symbol : String}
    (hsymbol : env.symbolOf .bidAsk id = some symbol) (hsymbol' : env.symbolOf .bidAsk id' = some symbol)
    (hne : id ≠ id') : ∃ es, ¬ Every (step env) (Routed env) ({} : TickQueue ν) es := by
  obtain ⟨instrument, hinstrument⟩ := PolledTickEnv.exists_instrument hsymbol'
  obtain ⟨m, now, quote, hquote⟩ := hquotes id' instrument hinstrument
  have hnames : env.tickName .bidAsk id' ≠ env.tickName .bidAsk id :=
    fun hname => hne (hids.tickName_inj hsymbol' hsymbol hname).symm
  let t : PolledTick := ⟨m.timeMsc, m.bid, m.ask⟩
  let answers : ReqName → Option PolledTick := fun name => if name = env.tickName .bidAsk id' then some t else none
  -- both subscribe, the second gets an answer in the pass, and the message is processed
  have hempty : ({} : TickQueue ν).client.subscriptions.Lists [] := ⟨rfl, fun _ h => (by cases h)⟩
  obtain ⟨c₁, e₁, hstep₁, hlive₁, hlists₁, hname₁, hsymbol₁⟩ :=
    inv_init.exists_subscribe rfl hempty hsymbol List.not_mem_nil
  have hinv₁ := inv_step inv_init hstep₁
  obtain ⟨c₂, e₂, hstep₂, hlive₂, hlists₂, hname₂, hsymbol₂⟩ :=
    hinv₁.exists_subscribe hlive₁ hlists₁ hsymbol' (by simpa [hname₁] using hnames)
  have hready : c₂.Ready := (inv_step hinv₁ hstep₂).ready
  refine ⟨[.subscribe .bidAsk id false .noMethods, .subscribe .bidAsk id' false .noMethods, .pass answers,
    .process now], fun hevery => ?_⟩
  obtain ⟨hrouted, -⟩ := ((hevery.2 _ hstep₁).2 _ hstep₂).2 _ rfl
  have hmessages : passMessages { ({} : TickQueue ν) with client := c₂ } answers =
      [(env.tickName .bidAsk id', t.message symbol)] := by
    have hanswers : answers (env.tickName .bidAsk id) = none := if_neg hnames.symm
    have hanswers' : answers (env.tickName .bidAsk id') = some t := if_pos rfl
    rw [passMessages, hready.pollPass hlists₂]
    simp [poll_tickName hlive₂ hname₁, poll_tickName hlive₂ hname₂, hname₁, hname₂, hanswers, hanswers', hsymbol₂]
  have hrouted' := hrouted (env.tickName .bidAsk id') (by rw [hmessages]; rfl) (t.message symbol)
    (by rw [hmessages]; rfl)
  have hmatch : matchesTick symbol e₁ = true := by
    rw [matchesTick, hname₁, Bool.and_eq_true, decide_eq_true_eq]
    exact ⟨PolledTickEnv.isTickName_tickName.mpr rfl, hsymbol₁⟩
  have hmem : env.tickName .bidAsk id' ∈ c₂.names := by
    rw [QuoteClient.names, hlists₂.names]
    simp [hname₂]
  have hfind : ([] ++ [e₁] ++ [e₂]).find? (matchesTick (t.message symbol).symbol) = some e₁ :=
    List.find?_cons_of_pos hmatch
  have hmade : env.quoteFor (env.tickName .bidAsk id') (t.message symbol) now = some quote := by
    have hof : env.quoteOf (env.str id') (t.message symbol) now = .ok (some quote) := hquote
    rw [PolledTickEnv.tickName, PolledTickEnv.quoteFor, hof]
    rfl
  have hfirst : env.quoteFor (env.tickName .bidAsk id) (t.message symbol) now = some quote := by
    have hprocess := hready.processMessage hlists₂ env (t.message symbol) now
    rw [hfind, Option.bind_some, hname₁] at hprocess
    exact hprocess.symm.trans ((hrouted'.trans (if_pos hmem)).trans hmade)
  exact hne ((hids.instrumentId_eq hsymbol hfirst).symm.trans (hids.instrumentId_eq hsymbol' hmade))

/-- **Routing over all runs**: every tick goes to the subscription that it was polled for, or to none when that is gone,
exactly when no two instruments share an MT5 symbol. -/
theorem ticks_routed_iff (hids : env.ReadsIds) (hquotes : env.MakesQuotes) :
    (∀ es, Every (step env) (Routed env) ({} : TickQueue ν) es) ↔ env.OneSymbolEach := by
  constructor
  · intro hall id id' symbol hsymbol hsymbol'
    by_contra hne
    obtain ⟨es, hes⟩ := exists_not_routed (ν := ν) hids hquotes hsymbol hsymbol' hne
    exact hes (hall es)
  · exact fun hone es => every_of_inv (fun q e q' => inv_step) (fun q e hq => hq.routed hids hone e) inv_init

/-- Two instruments of one MT5 symbol. -/
def sampleTickEnv : PolledTickEnv where
  str id := id.symbol ++ "." ++ id.venue
  fromStr s := if s = "EURUSD.A" then .ok ⟨"EURUSD", "A"⟩ else if s = "EURUSD.B" then .ok ⟨"EURUSD", "B"⟩
    else .error (.valueError s)
  instrument id := if id = ⟨"EURUSD", "A"⟩ ∨ id = ⟨"EURUSD", "B"⟩ then some { eurusd with id } else none
  timestamp ms := .ok (ms * 1000000)
  newQuote _ := .ok ()

theorem eq_of_sampleTickEnv {id : InstrumentId} {instrument : Instrument}
    (h : sampleTickEnv.instrument id = some instrument) : id = ⟨"EURUSD", "A"⟩ ∨ id = ⟨"EURUSD", "B"⟩ := by
  by_contra hid
  exact absurd ((if_neg hid).symm.trans h) (by simp)

theorem readsIds_sampleTickEnv : sampleTickEnv.ReadsIds := by
  intro id instrument h
  rcases eq_of_sampleTickEnv h with rfl | rfl <;> decide

theorem ticks_routed_sample : (∀ es, Every (step sampleTickEnv) (Routed sampleTickEnv) ({} : TickQueue Unit) es) ↔
    sampleTickEnv.OneSymbolEach := by
  refine ticks_routed_iff readsIds_sampleTickEnv fun id instrument h => ⟨⟨"EURUSD", 0, .finite 1, .finite 2⟩, 0, ?_⟩
  rcases eq_of_sampleTickEnv h with rfl | rfl
  · exact ⟨⟨⟨"EURUSD", "A"⟩, 1, 2, 0, 0, 0, 0⟩, by decide⟩
  · exact ⟨⟨⟨"EURUSD", "B"⟩, 1, 2, 0, 0, 0, 0⟩, by decide⟩

/-! ### The younger of two subscriptions -/

/-- Nothing behind the first match is found. -/
theorem find?_ne_of_sublist {α : Type} {l : List α} {p : α → Bool} {x y : α} (hnd : l.Nodup) (h : [x, y].Sublist l)
    (hx : p x = true) : l.find? p ≠ some y := by
  induction l with
  | nil => cases h
  | cons a l ih =>
    obtain ⟨ha, hnd⟩ := List.nodup_cons.mp hnd
    cases h with
    | cons _ h =>
      cases hp : p a with
      | true =>
        rw [List.find?_cons_of_pos hp]
        rintro ⟨⟩
        exact ha (h.subset (by simp))
      | false =>
        rw [List.find?_cons_of_neg (by simp [hp])]
        exact ih hnd h
    | cons_cons _ h =>
      rw [List.find?_cons_of_pos hx]
      rintro ⟨⟩
      exact ha (h.subset (by simp))

/-- The older name is there, and the younger one is not there or behind it. -/
structure Behind (older younger : ReqName) (names : List ReqName) : Prop where
  registered : older ∈ names
  after : younger ∈ names → [older, younger].Sublist names

theorem Behind.append {older younger : ReqName} {names : List ReqName} (h : Behind older younger names)
    (name : ReqName) : Behind older younger (names ++ [name]) := by
  refine ⟨List.mem_append_left _ h.registered, fun hmem => ?_⟩
  rcases List.mem_append.mp hmem with hmem | hmem
  · exact (h.after hmem).trans (List.sublist_append_left names [name])
  · rw [List.mem_singleton.mp hmem]
    exact (List.singleton_sublist.mpr h.registered).append (List.Sublist.refl [name])

theorem Behind.filter {older younger name : ReqName} {names : List ReqName} (h : Behind older younger names)
    (hname : name ≠ older) : Behind older younger (names.filter (· ≠ name)) := by
  refine ⟨List.mem_filter.mpr ⟨h.registered, decide_eq_true hname.symm⟩, fun hmem => ?_⟩
  obtain ⟨hmem, hyounger⟩ := List.mem_filter.mp hmem
  have hboth : [older, younger].filter (· ≠ name) = [older, younger] :=
    List.filter_eq_self.mpr (by simpa [hname.symm] using hyounger)
  exact hboth ▸ (h.after hmem).filter (· ≠ name)

/-- **The names after a step**: a new one comes last, and one goes out when its instrument unsubscribes. -/
theorem Inv.names_step (h : Inv env q) (hstep : q.step env e = some q') :
    q'.client.names = q.client.names ∨
      (∃ tickType id ignoreSize answer symbol, e = .subscribe tickType id ignoreSize answer ∧
        env.symbolOf tickType id = some symbol ∧ q'.client.names = q.client.names ++ [env.tickName tickType id]) ∨
      ∃ tickType id answer, e = .unsubscribe tickType id answer ∧
        q'.client.names = q.client.names.filter (· ≠ env.tickName tickType id) := by
  obtain ⟨es, hes, -⟩ := h.listed
  have hnames : q.client.names = es.map RegistryEntry.name := hes.names
  cases e with
  | subscribe tickType id ignoreSize answer =>
    rw [step] at hstep
    split at hstep
    · cases hstep
      exact .inl rfl
    · rename_i symbol hsymbol
      cases hstep
      by_cases htakes : q.client.Takes (env.tickName tickType id) tickType.text answer
      · obtain ⟨e, hlists, hname, -⟩ := h.ready.lists_of_takes hes htakes symbol ignoreSize
        refine .inr (.inl ⟨tickType, id, ignoreSize, answer, symbol, rfl, hsymbol, hlists.names.trans ?_⟩)
        rw [List.map_append, hnames, List.map_singleton, hname]
        rfl
      · exact .inl (congrArg QuoteClient.names (h.ready.subscribeTicks_of_not_takes htakes symbol ignoreSize))
  | unsubscribe tickType id answer =>
    cases hstep
    by_cases hanswer : answer = .lookupRaises
    · left
      show (if answer = .lookupRaises then q.client else _).names = _
      rw [if_pos hanswer]
    · refine .inr (.inr ⟨tickType, id, answer, rfl, ?_⟩)
      show (if answer = .lookupRaises then q.client else _).names = _
      rw [if_neg hanswer, hnames, List.filter_map]
      exact (h.ready.lists_unsubscribe hes _).2.names
  | enableLiveQuoteFeed =>
    cases hstep
    exact .inl rfl
  | pass answers =>
    cases hstep
    exact .inl rfl
  | process now =>
    rw [step] at hstep
    split at hstep
    · cases hstep
    · cases hstep
      exact .inl rfl

/-- The quotes after a step. -/
theorem quotes_step (hstep : q.step env e = some q') :
    q'.quotes = q.quotes ∨ ∃ m now, q'.quotes = q.quotes ++ (q.client.processMessage env m now).toList := by
  cases e with
  | subscribe tickType id ignoreSize answer =>
    rw [step] at hstep
    split at hstep <;>
    · cases hstep
      exact .inl rfl
  | process now =>
    rw [step] at hstep
    split at hstep
    · cases hstep
    · rename_i m queue _
      cases hstep
      exact .inr ⟨m, now, rfl⟩
  | _ =>
    cases hstep
    exact .inl rfl

/-- The step does not take the name out. -/
def Spares (env : PolledTickEnv) (name : ReqName) : TickQueueEvent → Prop
  | .unsubscribe tickType id _ => env.tickName tickType id ≠ name
  | _ => True

variable {older younger : InstrumentId} {symbol : String}

theorem Behind.step {b : ReqName} (hb : Behind (env.tickName .bidAsk older) b q.client.names) (h : Inv env q)
    (hspares : Spares env (env.tickName .bidAsk older) e) (hstep : q.step env e = some q') :
    Behind (env.tickName .bidAsk older) b q'.client.names := by
  rcases h.names_step hstep with hsame | ⟨tickType, id, _, _, _, -, -, hmore⟩ | ⟨tickType, id, answer, rfl, hless⟩
  · exact hsame ▸ hb
  · exact hmore ▸ hb.append _
  · exact hless ▸ hb.filter hspares

/-- **The oldest is served**: no message gives a quote of the younger instrument. -/
theorem Inv.instrumentId_ne (h : Inv env q) (hids : env.ReadsIds)
    (hb : Behind (env.tickName .bidAsk older) (env.tickName .bidAsk younger) q.client.names)
    (holder : env.symbolOf .bidAsk older = some symbol) (hyounger : env.symbolOf .bidAsk younger = some symbol)
    {m : TickMessage} {now : ℤ} {quote : QuoteTick} (hquote : q.client.processMessage env m now = some quote) :
    quote.instrumentId ≠ younger := by
  obtain ⟨es, hes, hnamed⟩ := h.listed
  rw [h.ready.processMessage hes] at hquote
  obtain ⟨e, hfind, hquote⟩ := Option.bind_eq_some_iff.mp hquote
  have he := List.mem_of_find?_eq_some hfind
  obtain ⟨tickType, id, hname, hsymbol⟩ := hnamed e he
  rw [hids.instrumentId_eq hsymbol (hname ▸ hquote)]
  rintro rfl
  have hmatches : matchesTick m.symbol e = true := List.find?_some hfind
  obtain ⟨htype, hm⟩ := Bool.and_eq_true_iff.mp hmatches
  rw [hname] at htype
  obtain rfl := PolledTickEnv.isTickName_tickName.mp htype
  have hm : e.handle.symbol = m.symbol := of_decide_eq_true hm
  have hsame : m.symbol = symbol := Option.some.inj ((hm ▸ hsymbol).symm.trans hyounger)
  -- the older subscription matches too, and it comes first
  have hnames : q.client.names = es.map RegistryEntry.name := hes.names
  obtain ⟨es', hsub, hes'⟩ := List.sublist_map_iff.mp
    (hnames ▸ hb.after (hnames ▸ hname ▸ List.mem_map_of_mem he))
  obtain ⟨e₀, l, rfl, hname₀, hl⟩ := List.map_eq_cons_iff.mp hes'.symm
  obtain ⟨e₁, l, rfl, hname₁, hl⟩ := List.map_eq_cons_iff.mp hl
  obtain rfl := List.map_eq_nil_iff.mp hl
  have he₀ : e₀ ∈ es := hsub.subset (by simp)
  have he₁ : e₁ = e :=
    List.inj_on_of_nodup_map hes.ids_nodup (hsub.subset (by simp)) he
      (hes.id_eq h.ready.consistent (hsub.subset (by simp)) he (hname₁.trans hname.symm))
  subst he₁
  obtain ⟨tickType₀, id₀, hof₀, hsymbol₀⟩ := hnamed e₀ he₀
  obtain rfl := hids.tickName_inj hsymbol₀ holder (hof₀.symm.trans hname₀)
  obtain rfl := (PolledTickEnv.tickName_eq_iff.mp (hof₀.symm.trans hname₀)).2
  have hmatch : matchesTick m.symbol e₀ = true := by
    rw [matchesTick, hname₀, Bool.and_eq_true, decide_eq_true_eq, hsame]
    exact ⟨PolledTickEnv.isTickName_tickName.mpr rfl, Option.some.inj (hsymbol₀.symm.trans holder)⟩
  exact find?_ne_of_sublist (List.Nodup.of_map _ hes.ids_nodup) hsub hmatch hfind

/-- **The younger starves**: while the older subscription of a symbol is there, the younger one gets no quote in any
run. -/
theorem younger_starves (hids : env.ReadsIds) {older younger : InstrumentId} {symbol : String}
    (holder : env.symbolOf .bidAsk older = some symbol) (hyounger : env.symbolOf .bidAsk younger = some symbol)
    (es fs : List TickQueueEvent) {s t : TickQueue ν} (hs : run (step env) {} es = some s)
    (hb : Behind (env.tickName .bidAsk older) (env.tickName .bidAsk younger) s.client.names)
    (hspares : ∀ e ∈ fs, Spares env (env.tickName .bidAsk older) e) (ht : run (step env) s fs = some t) :
    ∃ quotes, t.quotes = s.quotes ++ quotes ∧ ∀ quote ∈ quotes, quote.instrumentId ≠ younger := by
  have hinv : Inv env s := run_inv (fun q e q' => inv_step) inv_init hs
  clear hs
  induction fs generalizing s with
  | nil =>
    cases ht
    exact ⟨[], (List.append_nil _).symm, fun _ h => (by cases h)⟩
  | cons e fs ih =>
    obtain ⟨hspare, hspares⟩ := List.forall_mem_cons.mp hspares
    obtain ⟨s₁, hstep, hrun⟩ := run_cons ht
    obtain ⟨rest, hrest, hnot⟩ := ih (hb.step hinv hspare hstep) hspares hrun (inv_step hinv hstep)
    obtain ⟨first, hfirst, hnot'⟩ : ∃ first, s₁.quotes = s.quotes ++ first ∧
        ∀ quote ∈ first, quote.instrumentId ≠ younger := by
      rcases quotes_step hstep with hsame | ⟨m, now, hmore⟩
      · exact ⟨[], by rw [hsame, List.append_nil], fun _ h => (by cases h)⟩
      · exact ⟨_, hmore, fun quote hquote =>
          hinv.instrumentId_ne hids hb holder hyounger (Option.mem_toList.mp hquote)⟩
    exact ⟨first ++ rest, by rw [hrest, hfirst, List.append_assoc], List.forall_mem_append.mpr ⟨hnot', hnot⟩⟩

/-- The first of the two instruments has subscribed. -/
def sampleTickQueue : TickQueue Unit where
  client := (QuoteClient.subscribeTicks {} "EURUSD.A" "EURUSD" "BidAsk" false .noMethods).1

/-- The second one subscribes behind it, and both are polled. -/
theorem younger_starves_sample : ∃ t, run (step sampleTickEnv) sampleTickQueue
      [.subscribe .bidAsk ⟨"EURUSD", "B"⟩ false .noMethods, .pass fun _ => some ⟨0, .finite 1, .finite 2⟩,
        .process 0, .process 0] = some t ∧
    ∃ quotes, t.quotes = sampleTickQueue.quotes ++ quotes ∧
      ∀ quote ∈ quotes, quote.instrumentId ≠ ⟨"EURUSD", "B"⟩ := by
  have hsome : (run (step sampleTickEnv) sampleTickQueue
      [.subscribe .bidAsk ⟨"EURUSD", "B"⟩ false .noMethods, .pass fun _ => some ⟨0, .finite 1, .finite 2⟩,
        .process 0, .process 0]).isSome = true := by decide +kernel
  obtain ⟨t, ht⟩ := Option.isSome_iff_exists.mp hsome
  have holder : sampleTickEnv.symbolOf .bidAsk ⟨"EURUSD", "A"⟩ = some "EURUSD" := by decide
  exact ⟨t, ht, younger_starves readsIds_sampleTickEnv holder (by decide)
    [.subscribe .bidAsk ⟨"EURUSD", "A"⟩ false .noMethods] _ rfl ⟨by decide, fun h => absurd h (by decide)⟩
    (by simp [Spares]) ht⟩

end TickQueue

end NautilusMt5
