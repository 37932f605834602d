import Mathlib.Data.List.Infix
import NautilusMt5.Client.Registry

/-!
# The sources of quotes (`factories.py`, `data.py`, `client/market_data.py`, `client/client.py`)

Data clients share one `MetaTrader5Client`. A data client with a feed asks its gateway for quotes, one without asks the
shared client, which registers the subscription and polls the bridge for it. The factory of a data client with a feed
sets `live_quote_feed_enabled` of the shared client, and then the shared client neither registers nor polls quotes, for
whomever they are.

`sources_exact`: every accepted subscription has its one source all along a run just when no data client without a feed
subscribes next to one with a feed (`Apart`).
-/

namespace NautilusMt5

open Runs

/-! ## The shared client -/

/-- `is_quote_tick_subscription`. -/
def isQuoteTickSubscription (tickType : String) : Bool := tickType.toLower = "bidask" || tickType.toLower = "bid_ask"

/-- The tick types that the reader asks the bridge for. -/
def isPolledTickType (tickType : String) : Bool :=
  let name1 := tickType.toLower.toList
  "tick".toList <:+: name1 || "bid".toList <:+: name1 || "ask".toList <:+: name1

/-- What is stored with a subscription: the call of a method of the bridge, or of a function that does nothing, with the
arguments that it has. -/
structure TickCall where
  method : Bool
  reqId : ℕ
  symbol : String
  tickType : String
  ignoreSize : Bool
  deriving DecidableEq, Repr

/-- The bridge when a subscription looks for its streaming methods and calls one. -/
inductive StreamAnswer
  | noMethods
  | streams
  | lookupRaises
  | callRaises
  deriving DecidableEq, Repr

/-- The shared client; `ν` is what a subscription has as its last value. -/
structure QuoteClient (ν : Type) where
  liveQuoteFeedEnabled : Bool := false
  subscriptions : Registry TickCall (SubscriptionDict.Value ν) := {}
  requestIdSeq : ℕ := 10000

namespace QuoteClient

variable {ν : Type} (c : QuoteClient ν)

/-- `_should_poll_quote_ticks`. -/
def shouldPollQuoteTicks (tickType : String) : Bool := !(c.liveQuoteFeedEnabled && isQuoteTickSubscription tickType)

/-- `_subscribe`, and whether it returns. -/
def subscribe (name : ReqName) (symbol tickType : String) (ignoreSize : Bool) (answer : StreamAnswer) :
    QuoteClient ν × Bool :=
  match c.subscriptions.get none (some name) with
  | .error _ => (c, false)
  | .ok (some _) => (c, true)
  | .ok none =>
    let reqId := c.requestIdSeq
    let call : TickCall := ⟨answer = .streams || answer = .callRaises, reqId, symbol, tickType, ignoreSize⟩
    let added := (Registry.add (SubscriptionDict.first ν ()) reqId name call call).run c.subscriptions
    let c := { c with requestIdSeq := c.requestIdSeq + 1, subscriptions := added.state }
    match added.value with
    | .error _ => (c, false)
    | .ok _ => (c, answer ≠ .callRaises)

/-- `subscribe_ticks`, and whether it returns. -/
def subscribeTicks (instrumentId symbol tickType : String) (ignoreSize : Bool) (answer : StreamAnswer) :
    QuoteClient ν × Bool :=
  if c.liveQuoteFeedEnabled && isQuoteTickSubscription tickType then (c, true)
  else if answer = .lookupRaises then (c, false)
  else c.subscribe (.tuple [instrumentId, tickType]) symbol tickType ignoreSize answer

/-- What `_run_terminal_incoming_msg_reader` asks the bridge for a subscription. -/
def poll (e : RegistryEntry TickCall (SubscriptionDict.Value ν)) : Option (ReqName × String) :=
  match e.name with
  | .tuple (_ :: tickType :: _) =>
    if c.shouldPollQuoteTicks tickType && isPolledTickType tickType then some (e.name, e.handle.symbol) else none
  | _ => none

/-- One pass of the reader over the registry: the names with the symbols that `symbol_info_tick` is called for. -/
def pollPass : Except RegistryError (List (ReqName × String)) :=
  c.subscriptions.getAll.map fun subs => subs.filterMap fun sub => sub.bind c.poll

end QuoteClient

/-! ## The data clients -/

/-- A `MetaTrader5DataClient`: `_feed_config.enabled`, `_ignore_quote_tick_size_updates`, `_feed_pending_symbols`. -/
structure QuoteDataClient where
  feedEnabled : Bool
  ignoreQuoteTickSizeUpdates : Bool
  feedPendingSymbols : List String := []
  deriving DecidableEq, Repr

/-- `_feed_pending_symbols.add`. -/
def QuoteDataClient.pend (d : QuoteDataClient) (symbol : String) : QuoteDataClient :=
  { d with feedPendingSymbols := d.feedPendingSymbols ++ [symbol] }

/-- A `SubscribeQuoteTicks` that was accepted: the number of its data client, the instrument and its MT5 symbol. -/
structure QuoteSubscription where
  dataClient : ℕ
  instrumentId : String
  symbol : String
  deriving DecidableEq, Repr

/-- The shared client, the data clients in the order of their creation, and the subscriptions they have accepted. -/
structure QuoteWorld (ν : Type) where
  client : QuoteClient ν := {}
  dataClients : List QuoteDataClient := []
  accepted : List QuoteSubscription := []

/-- A factory creates a data client, or a data client gets a `SubscribeQuoteTicks`. `symbol` is the MT5 symbol of the
cached instrument, `answer` what the bridge does, and `raises` says that the gateway raises. -/
inductive QuoteEvent
  | create (feedEnabled ignoreSize : Bool)
  | subscribe (i : ℕ) (instrumentId : String) (symbol : Option String) (answer : StreamAnswer) (raises : Bool)
  deriving DecidableEq, Repr

namespace QuoteWorld

variable {ν : Type} (w : QuoteWorld ν)

/-- `MT5LiveDataClientFactory.create`. -/
def create (feedEnabled ignoreSize : Bool) : QuoteWorld ν :=
  { w with
    client := if feedEnabled then { w.client with liveQuoteFeedEnabled := true } else w.client
    dataClients := w.dataClients ++ [⟨feedEnabled, ignoreSize, []⟩] }

/-- The subscription is accepted when the command returns. -/
def accept (s : QuoteSubscription) (returns : Bool) : QuoteWorld ν :=
  if returns then { w with accepted := w.accepted ++ [s] } else w

/-- `_subscribe_quote_ticks` of a data client with a feed. -/
def subscribeFeed (d : QuoteDataClient) (s : QuoteSubscription) (raises : Bool) : QuoteWorld ν :=
  { w with dataClients := w.dataClients.set s.dataClient (d.pend s.symbol) }.accept s (!raises)

/-- `_subscribe_quote_ticks` of a data client without one. -/
def subscribePoll (d : QuoteDataClient) (s : QuoteSubscription) (answer : StreamAnswer) : QuoteWorld ν :=
  let r := w.client.subscribeTicks s.instrumentId s.symbol "BidAsk" d.ignoreQuoteTickSizeUpdates answer
  { w with client := r.1 }.accept s r.2

def step (w : QuoteWorld ν) : QuoteEvent → Option (QuoteWorld ν)
  | .create feedEnabled ignoreSize => some (w.create feedEnabled ignoreSize)
  | .subscribe i instrumentId symbol answer raises =>
    match w.dataClients[i]?, symbol with
    | none, _ => none
    -- the instrument is not cached
    | some _, none => some w
    | some d, some symbol =>
      some (if d.feedEnabled then w.subscribeFeed d ⟨i, instrumentId, symbol⟩ raises
        else w.subscribePoll d ⟨i, instrumentId, symbol⟩ answer)

/-- The subscription is of a data client with a feed. -/
def ByFeed (s : QuoteSubscription) : Prop := ∃ d, w.dataClients[s.dataClient]? = some d ∧ d.feedEnabled = true

/-- The feed of its data client serves the subscription. -/
def Fed (s : QuoteSubscription) : Prop :=
  ∃ d, w.dataClients[s.dataClient]? = some d ∧ d.feedEnabled = true ∧ s.symbol ∈ d.feedPendingSymbols

/-- The reader of the shared client polls for the subscription. -/
def Polled (s : QuoteSubscription) : Prop :=
  ∃ polls symbol, w.client.pollPass = .ok polls ∧ (.tuple [s.instrumentId, "BidAsk"], symbol) ∈ polls

/-- **One source**: the feed serves what data clients with a feed have accepted, the reader what the others have, and no
subscription has both. -/
def OneSource : Prop :=
  ∀ s ∈ w.accepted, (w.ByFeed s → w.Fed s ∧ ¬ w.Polled s) ∧ (¬ w.ByFeed s → w.Polled s ∧ ¬ w.Fed s)

/-- The step brings no data client with a feed next to a subscription of one without. -/
def Apart (w : QuoteWorld ν) : QuoteEvent → Prop
  | .create feedEnabled _ => feedEnabled = true → ∀ s ∈ w.accepted, w.ByFeed s
  | .subscribe i _ symbol _ _ => ∀ d, w.dataClients[i]? = some d → d.feedEnabled = false → symbol ≠ none →
      ∀ d' ∈ w.dataClients, d'.feedEnabled = false

end QuoteWorld

/-! ## The registry of the shared client -/

namespace QuoteClient

variable {ν : Type} {c : QuoteClient ν} {name : ReqName} {symbol tickType : String} {ignoreSize : Bool}
  {answer : StreamAnswer}

/-- The ids in use are below the next one. -/
structure Ready (c : QuoteClient ν) : Prop where
  consistent : c.subscriptions.Consistent
  pos : 0 < c.requestIdSeq
  fresh : ∀ id ∈ c.subscriptions.reqIdToName.keys, id < c.requestIdSeq

/-- The names of the subscriptions. -/
def names (c : QuoteClient ν) : List ReqName := c.subscriptions.reqIdToName.values

/-- A step of the shared client: what is registered stays, and the flag. -/
structure Keeps (c c' : QuoteClient ν) : Prop where
  ready : c'.Ready
  live : c'.liveQuoteFeedEnabled = c.liveQuoteFeedEnabled
  names : ∀ name ∈ c.names, name ∈ c'.names

theorem Ready.keeps (h : c.Ready) : c.Keeps c := ⟨h, rfl, fun _ hname => hname⟩

/-- A name that is not there is registered under the next id. -/
theorem Ready.register (h : c.Ready) (ht : name.truthy = true) (hname : name ∉ c.names) (call : TickCall) :
    ∃ r' e, (Registry.add (SubscriptionDict.first ν ()) c.requestIdSeq name call call).run c.subscriptions =
      ⟨[], r', .ok (some e)⟩ ∧
        Keeps c { c with requestIdSeq := c.requestIdSeq + 1, subscriptions := r' } ∧ name ∈ r'.reqIdToName.values := by
  have hid : c.requestIdSeq ∉ c.subscriptions.reqIdToName.keys := fun hmem => (h.fresh _ hmem).false
  refine ⟨_, _, Registry.run_add_absent h.pos ht hid hname, ⟨⟨?_, Nat.succ_pos _, fun id hmem => ?_⟩, rfl, ?_⟩, ?_⟩
  · exact h.consistent.put h.pos ht hid hname
  · have hkeys := Dict.keys_set_of_not_mem hid name
    rcases List.mem_append.mp (hkeys ▸ hmem) with hmem | hmem
    · exact (h.fresh id hmem).trans (Nat.lt_succ_self _)
    · exact List.mem_singleton.mp hmem ▸ Nat.lt_succ_self _
  · intro name' hname'
    show name' ∈ (c.subscriptions.reqIdToName.set c.requestIdSeq name).values
    rw [Dict.values_set_of_not_mem hid name]
    exact List.mem_append_left _ hname'
  · show name ∈ (c.subscriptions.reqIdToName.set c.requestIdSeq name).values
    rw [Dict.values_set_of_not_mem hid name]
    exact List.mem_append_right _ (.head _)

/-- **Subscribing**: where it returns, the name is registered. -/
theorem Ready.subscribe (h : c.Ready) (ht : name.truthy = true) :
    Keeps c (c.subscribe name symbol tickType ignoreSize answer).1 ∧
      ((c.subscribe name symbol tickType ignoreSize answer).2 = true →
        name ∈ (c.subscribe name symbol tickType ignoreSize answer).1.names) := by
  unfold QuoteClient.subscribe
  obtain ⟨x, hx⟩ := h.consistent.get_ok none (some name)
  rw [hx]
  by_cases hname : name ∈ c.names
  · obtain ⟨id, hid⟩ := Dict.mem_values.mp hname
    obtain ⟨e, rfl, he⟩ := h.consistent.exists_entry (Dict.mem_keys.mpr ⟨name, hid⟩)
    have hget := he.get (h.consistent.truthy he.name) (h.consistent.resolve_name hid)
    rw [hx] at hget
    cases hget
    exact ⟨h.keeps, fun _ => hname⟩
  · rw [Registry.get_of_none (Registry.resolve_of_not_mem hname)] at hx
    cases hx
    obtain ⟨r', e, hadd, hkeeps, hmem⟩ := h.register ht hname
      ⟨answer = .streams || answer = .callRaises, c.requestIdSeq, symbol, tickType, ignoreSize⟩
    simp only [hadd]
    exact ⟨hkeeps, fun _ => hmem⟩

/-- **Ticks**: where `subscribe_ticks` returns, the name is registered, or the flag is set and the ticks are quotes. -/
theorem Ready.subscribeTicks (h : c.Ready) (instrumentId symbol tickType : String) (ignoreSize : Bool)
    (answer : StreamAnswer) :
    let r := c.subscribeTicks instrumentId symbol tickType ignoreSize answer
    Keeps c r.1 ∧ (r.2 = true → c.liveQuoteFeedEnabled = true ∨ .tuple [instrumentId, tickType] ∈ r.1.names) := by
  unfold QuoteClient.subscribeTicks
  split_ifs with hlive hlookup
  · exact ⟨h.keeps, fun _ => .inl (Bool.and_eq_true_iff.mp hlive).1⟩
  · exact ⟨h.keeps, fun hret => (by cases hret)⟩
  · obtain ⟨hkeeps, hmem⟩ := @Ready.subscribe ν c (.tuple [instrumentId, tickType]) symbol tickType ignoreSize
      answer h rfl
    exact ⟨hkeeps, fun hret => .inr (hmem hret)⟩

theorem isQuoteTickSubscription_bidAsk : isQuoteTickSubscription "BidAsk" = true := by decide +kernel

theorem isPolledTickType_bidAsk : isPolledTickType "BidAsk" = true := by decide +kernel

/-- With the flag `subscribe_ticks` of quotes returns and does nothing. -/
theorem subscribeTicks_of_live (hlive : c.liveQuoteFeedEnabled = true) (instrumentId symbol : String)
    (ignoreSize : Bool) (answer : StreamAnswer) :
    c.subscribeTicks instrumentId symbol "BidAsk" ignoreSize answer = (c, true) := by
  rw [QuoteClient.subscribeTicks, hlive, isQuoteTickSubscription_bidAsk]
  rfl

/-- **The poll**: quotes are polled for a name that is registered, while the flag is not set. -/
theorem Ready.mem_pollPass (h : c.Ready) (instrumentId : String) :
    (∃ polls symbol, c.pollPass = .ok polls ∧ (.tuple [instrumentId, "BidAsk"], symbol) ∈ polls) ↔
      c.liveQuoteFeedEnabled = false ∧ .tuple [instrumentId, "BidAsk"] ∈ c.names := by
  obtain ⟨es, hes, hkeys, hstores⟩ := h.consistent.getAll_ok
  have hpass : c.pollPass = .ok (es.filterMap c.poll) := by
    rw [pollPass, hes]
    simp [Except.map, List.filterMap_map]
  simp only [hpass, Except.ok.injEq, exists_and_left, exists_eq_left', List.mem_filterMap]
  constructor
  · rintro ⟨symbol, e, he, hpoll⟩
    have hname : e.name = .tuple [instrumentId, "BidAsk"] ∧ c.shouldPollQuoteTicks "BidAsk" = true := by
      unfold poll at hpoll
      split at hpoll
      · rename_i a tickType rest hname
        split_ifs at hpoll with hshould
        simp only [Option.some.injEq, Prod.mk.injEq] at hpoll
        rw [hpoll.1] at hname
        cases hname
        exact ⟨hpoll.1, (Bool.and_eq_true_iff.mp hshould).1⟩
      · cases hpoll
    refine ⟨?_, Dict.mem_values.mpr ⟨e.reqId, hname.1 ▸ (hstores e he).name⟩⟩
    simpa [shouldPollQuoteTicks, isQuoteTickSubscription_bidAsk] using hname.2
  · rintro ⟨hlive, hmem⟩
    obtain ⟨id, hid⟩ := Dict.mem_values.mp hmem
    have hmem : id ∈ es.map RegistryEntry.reqId := hkeys ▸ Dict.mem_keys.mpr ⟨_, hid⟩
    obtain ⟨e, he, rfl⟩ := List.mem_map.mp hmem
    have hname : e.name = .tuple [instrumentId, "BidAsk"] := Option.some.inj ((hstores e he).name.symm.trans hid)
    refine ⟨e.handle.symbol, e, he, ?_⟩
    have hshould : (c.shouldPollQuoteTicks "BidAsk" && isPolledTickType "BidAsk") = true := by
      rw [shouldPollQuoteTicks, hlive, isPolledTickType_bidAsk]
      rfl
    rw [poll, hname]
    exact if_pos hshould

end QuoteClient

/-! ## Runs of the data clients -/

namespace QuoteWorld

variable {ν : Type} {w w' : QuoteWorld ν} {s : QuoteSubscription}

/-- The invariant of all runs: the flag says that there is a data client with a feed; what one without has accepted is
registered, or the flag is set. -/
structure Inv (w : QuoteWorld ν) : Prop where
  ready : w.client.Ready
  flag : w.client.liveQuoteFeedEnabled = true ↔ ∃ d ∈ w.dataClients, d.feedEnabled = true
  owned : ∀ s ∈ w.accepted, s.dataClient < w.dataClients.length
  fed : ∀ s ∈ w.accepted, w.ByFeed s → w.Fed s
  registered : ∀ s ∈ w.accepted, ¬ w.ByFeed s → w.client.liveQuoteFeedEnabled = true ∨
    .tuple [s.instrumentId, "BidAsk"] ∈ w.client.names

/-- The data clients stay, with what is pending. -/
def Extends (w w' : QuoteWorld ν) : Prop :=
  ∀ (i : ℕ) (d : QuoteDataClient), w.dataClients[i]? = some d → ∃ d' : QuoteDataClient,
    w'.dataClients[i]? = some d' ∧ d'.feedEnabled = d.feedEnabled ∧ d.feedPendingSymbols ⊆ d'.feedPendingSymbols

theorem Fed.byFeed (h : w.Fed s) : w.ByFeed s := by
  obtain ⟨d, hd, he, -⟩ := h
  exact ⟨d, hd, he⟩

theorem Extends.byFeed (h : Extends w w') (hs : s.dataClient < w.dataClients.length) : w'.ByFeed s ↔ w.ByFeed s := by
  obtain ⟨d', hd', he, -⟩ := h s.dataClient _ (List.getElem?_eq_getElem hs)
  constructor
  · rintro ⟨d, hd, hfeed⟩
    rw [hd'] at hd
    cases hd
    exact ⟨_, List.getElem?_eq_getElem hs, he ▸ hfeed⟩
  · rintro ⟨d, hd, hfeed⟩
    rw [List.getElem?_eq_getElem hs] at hd
    cases hd
    exact ⟨d', hd', he.trans hfeed⟩

theorem Extends.fed (h : Extends w w') (hs : w.Fed s) : w'.Fed s := by
  obtain ⟨d, hd, hfeed, hmem⟩ := hs
  obtain ⟨d', hd', he, hsub⟩ := h s.dataClient d hd
  exact ⟨d', hd', he.trans hfeed, hsub hmem⟩

/-- A step of the shared client and of the data clients keeps the invariant when it does so for what is accepted new. -/
theorem Inv.step_of (h : w.Inv) (hext : Extends w w') (hready : w'.client.Ready)
    (hflag : w'.client.liveQuoteFeedEnabled = true ↔ ∃ d ∈ w'.dataClients, d.feedEnabled = true)
    (hlength : w.dataClients.length ≤ w'.dataClients.length)
    (hlive : w.client.liveQuoteFeedEnabled = true → w'.client.liveQuoteFeedEnabled = true)
    (hnames : ∀ name ∈ w.client.names, name ∈ w'.client.names)
    (hnew : ∀ s ∈ w'.accepted, s ∈ w.accepted ∨ s.dataClient < w'.dataClients.length ∧ (w'.ByFeed s → w'.Fed s) ∧
      (¬ w'.ByFeed s → w'.client.liveQuoteFeedEnabled = true ∨
        .tuple [s.instrumentId, "BidAsk"] ∈ w'.client.names)) : w'.Inv where
  ready := hready
  flag := hflag
  owned s hs := by
    rcases hnew s hs with hs | hs
    · exact (h.owned s hs).trans_le hlength
    · exact hs.1
  fed s hs hfeed := by
    rcases hnew s hs with hs | hs
    · exact hext.fed (h.fed s hs ((hext.byFeed (h.owned s hs)).mp hfeed))
    · exact hs.2.1 hfeed
  registered s hs hfeed := by
    rcases hnew s hs with hs | hs
    · have hold : ¬ w.ByFeed s := fun hold => hfeed ((hext.byFeed (h.owned s hs)).mpr hold)
      exact (h.registered s hs hold).imp hlive (hnames _)
    · exact hs.2.2 hfeed

theorem extends_create (w : QuoteWorld ν) (feedEnabled ignoreSize : Bool) :
    Extends w (w.create feedEnabled ignoreSize) := by
  intro i d hd
  refine ⟨d, ?_, rfl, List.Subset.refl _⟩
  rw [create, List.getElem?_append_left (List.getElem?_eq_some_iff.mp hd).1]
  exact hd

theorem inv_create (h : w.Inv) (feedEnabled ignoreSize : Bool) : (w.create feedEnabled ignoreSize).Inv := by
  have hlive : (w.create feedEnabled ignoreSize).client.liveQuoteFeedEnabled =
      (w.client.liveQuoteFeedEnabled || feedEnabled) := by
    cases feedEnabled <;> simp [QuoteWorld.create]
  have hsubs : (w.create feedEnabled ignoreSize).client.subscriptions = w.client.subscriptions ∧
      (w.create feedEnabled ignoreSize).client.requestIdSeq = w.client.requestIdSeq := by
    cases feedEnabled <;> exact ⟨rfl, rfl⟩
  refine h.step_of (extends_create w feedEnabled ignoreSize) ⟨?_, ?_, ?_⟩ ?_ ?_ ?_ ?_ fun s hs => .inl hs
  · rw [hsubs.1]
    exact h.ready.consistent
  · rw [hsubs.2]
    exact h.ready.pos
  · rw [hsubs.1, hsubs.2]
    exact h.ready.fresh
  · rw [hlive, Bool.or_eq_true, h.flag]
    simp only [QuoteWorld.create, List.mem_append, List.mem_singleton]
    constructor
    · rintro (⟨d, hd, hfeed⟩ | hfeed)
      · exact ⟨d, .inl hd, hfeed⟩
      · exact ⟨_, .inr rfl, hfeed⟩
    · rintro ⟨d, hd | rfl, hfeed⟩
      · exact .inl ⟨d, hd, hfeed⟩
      · exact .inr hfeed
  · simp [QuoteWorld.create]
  · intro hold
    rw [hlive, hold]
    rfl
  · intro name hname
    rw [QuoteClient.names, hsubs.1]
    exact hname

theorem accepted_accept {r : Bool} {s' : QuoteSubscription} :
    s' ∈ (w.accept s r).accepted ↔ s' ∈ w.accepted ∨ (r = true ∧ s' = s) := by
  cases r <;> simp [accept]

@[simp] theorem client_accept (w : QuoteWorld ν) (s : QuoteSubscription) (r : Bool) :
    (w.accept s r).client = w.client := by cases r <;> rfl

@[simp] theorem dataClients_accept (w : QuoteWorld ν) (s : QuoteSubscription) (r : Bool) :
    (w.accept s r).dataClients = w.dataClients := by cases r <;> rfl

theorem inv_subscribePoll (h : w.Inv) {d : QuoteDataClient} (hd : w.dataClients[s.dataClient]? = some d)
    (hfeed : d.feedEnabled = false) (answer : StreamAnswer) : (w.subscribePoll d s answer).Inv := by
  have hlt : s.dataClient < w.dataClients.length := (List.getElem?_eq_some_iff.mp hd).1
  obtain ⟨hkeeps, hret⟩ := h.ready.subscribeTicks s.instrumentId s.symbol "BidAsk" d.ignoreQuoteTickSizeUpdates answer
  unfold QuoteWorld.subscribePoll
  generalize w.client.subscribeTicks s.instrumentId s.symbol "BidAsk" d.ignoreQuoteTickSizeUpdates answer = r
    at hkeeps hret
  show Inv (accept { w with client := r.1 } s r.2)
  refine h.step_of (fun i d' hd' => ⟨d', by simpa using hd', rfl, List.Subset.refl _⟩) ?_ ?_ ?_ ?_ ?_ fun s' hs' => ?_
  · simpa using hkeeps.ready
  · simpa [hkeeps.live] using h.flag
  · simp
  · simp [hkeeps.live]
  · simpa using hkeeps.names
  · rcases accepted_accept.mp hs' with hs' | ⟨hr, rfl⟩
    · exact .inl hs'
    · refine .inr ⟨by simpa using hlt, ?_, fun _ => by simpa [hkeeps.live] using hret hr⟩
      rintro ⟨d', hd', hfeed'⟩
      simp only [dataClients_accept, hd, Option.some.injEq] at hd'
      rw [← hd', hfeed] at hfeed'
      cases hfeed'

/-- The data client with one more symbol pending. -/
theorem extends_set {d : QuoteDataClient} (hd : w.dataClients[s.dataClient]? = some d) (symbol : String) :
    Extends w { w with dataClients := w.dataClients.set s.dataClient (d.pend symbol) } := by
  intro i d' hd'
  by_cases hi : i = s.dataClient
  · subst hi
    rw [hd] at hd'
    cases hd'
    refine ⟨d.pend symbol, ?_, rfl, List.subset_append_left _ _⟩
    simp [(List.getElem?_eq_some_iff.mp hd).1]
  · exact ⟨d', by simpa [Ne.symm hi] using hd', rfl, List.Subset.refl _⟩

theorem inv_subscribeFeed (h : w.Inv) {d : QuoteDataClient} (hd : w.dataClients[s.dataClient]? = some d)
    (hfeed : d.feedEnabled = true) (raises : Bool) : (w.subscribeFeed d s raises).Inv := by
  have hlt : s.dataClient < w.dataClients.length := (List.getElem?_eq_some_iff.mp hd).1
  have hfed : (w.subscribeFeed d s raises).Fed s :=
    ⟨d.pend s.symbol, by simp [QuoteWorld.subscribeFeed, hlt], hfeed, List.mem_append_right _ (.head _)⟩
  have hext : Extends w (w.subscribeFeed d s raises) := by
    intro i d' hd'
    rw [QuoteWorld.subscribeFeed, dataClients_accept]
    exact extends_set hd s.symbol i d' hd'
  refine h.step_of hext ?_ ?_ ?_ ?_ ?_ fun s' hs' => ?_
  · simpa [QuoteWorld.subscribeFeed] using h.ready
  · rw [show (w.subscribeFeed d s raises).client = w.client by simp [QuoteWorld.subscribeFeed], h.flag]
    simp only [QuoteWorld.subscribeFeed, dataClients_accept]
    constructor
    · intro _
      exact ⟨_, List.mem_set hlt _, hfeed⟩
    · intro _
      exact ⟨d, List.mem_of_getElem? hd, hfeed⟩
  · simp [QuoteWorld.subscribeFeed]
  · simp [QuoteWorld.subscribeFeed]
  · simp [QuoteWorld.subscribeFeed]
  · rcases accepted_accept.mp hs' with hs' | ⟨-, rfl⟩
    · exact .inl hs'
    · exact .inr ⟨by simpa [QuoteWorld.subscribeFeed] using hlt, fun _ => hfed, fun hno => absurd hfed.byFeed hno⟩

/-! ## One source -/

/-- **One source** has every subscription just when the flag is not set, or all are of data clients with a feed. -/
theorem Inv.oneSource_iff (h : w.Inv) :
    w.OneSource ↔ w.client.liveQuoteFeedEnabled = false ∨ ∀ s ∈ w.accepted, w.ByFeed s := by
  constructor
  · intro hone
    cases hlive : w.client.liveQuoteFeedEnabled with
    | false => exact .inl rfl
    | true =>
      refine .inr fun s hs => ?_
      by_contra hfeed
      have hpolled := ((hone s hs).2 hfeed).1
      rw [Polled, h.ready.mem_pollPass, hlive] at hpolled
      cases hpolled.1
  · intro hcases s hs
    refine ⟨fun hfeed => ⟨h.fed s hs hfeed, ?_⟩, fun hfeed => ⟨?_, fun hfed => hfeed hfed.byFeed⟩⟩
    · obtain ⟨d, hd, he⟩ := hfeed
      rw [Polled, h.ready.mem_pollPass, h.flag.mpr ⟨d, List.mem_of_getElem? hd, he⟩]
      exact fun hpolled => by cases hpolled.1
    · have hlive : w.client.liveQuoteFeedEnabled = false := hcases.resolve_right fun hall => hfeed (hall s hs)
      have hname := (h.registered s hs hfeed).resolve_left (by simp [hlive])
      rw [Polled, h.ready.mem_pollPass]
      exact ⟨hlive, hname⟩

theorem inv_init : ({} : QuoteWorld ν).Inv where
  ready := ⟨Registry.consistent_empty, Nat.succ_pos 9999, fun id hid => by cases hid⟩
  flag := by simp
  owned s hs := by cases hs
  fed s hs := by cases hs
  registered s hs := by cases hs

/-- Every step keeps the invariant. -/
theorem inv_step (h : w.Inv) {e : QuoteEvent} (hstep : w.step e = some w') : w'.Inv := by
  cases e with
  | create feedEnabled ignoreSize =>
    cases hstep
    exact inv_create h feedEnabled ignoreSize
  | subscribe i instrumentId symbol answer raises =>
    simp only [QuoteWorld.step] at hstep
    split at hstep
    · cases hstep
    · cases hstep
      exact h
    · rename_i d symbol hd
      cases hstep
      split_ifs with hfeed
      · exact inv_subscribeFeed (s := ⟨i, instrumentId, symbol⟩) h hd hfeed raises
      · exact inv_subscribePoll (s := ⟨i, instrumentId, symbol⟩) h hd (by simpa using hfeed) answer

/-- A step that keeps data clients apart keeps one source. -/
theorem oneSource_step (h : w.Inv) (hone : w.OneSource) {e : QuoteEvent} (hapart : w.Apart e)
    (hstep : w.step e = some w') : w'.OneSource := by
  rw [(inv_step h hstep).oneSource_iff]
  have hcases := h.oneSource_iff.mp hone
  cases e with
  | create feedEnabled ignoreSize =>
    cases hstep
    have hext := extends_create w feedEnabled ignoreSize
    cases feedEnabled with
    | false => exact hcases.imp id fun hall s hs => (hext.byFeed (h.owned s hs)).mpr (hall s hs)
    | true => exact .inr fun s hs => (hext.byFeed (h.owned s hs)).mpr (hapart rfl s hs)
  | subscribe i instrumentId symbol answer raises =>
    simp only [QuoteWorld.step] at hstep
    split at hstep
    · cases hstep
    · cases hstep
      exact hcases
    · rename_i d symbol hd
      cases hstep
      split_ifs with hfeed
      · refine hcases.imp (fun hlive => by simpa [subscribeFeed] using hlive) fun hall s' hs' => ?_
        have hext := extends_set (s := ⟨i, instrumentId, symbol⟩) hd symbol
        simp only [ByFeed, subscribeFeed, dataClients_accept]
        rcases accepted_accept.mp hs' with hs' | ⟨-, rfl⟩
        · exact (hext.byFeed (h.owned s' hs')).mpr (hall s' hs')
        · obtain ⟨d', hd', he, -⟩ := hext i d hd
          exact ⟨d', hd', he.trans hfeed⟩
      · refine .inl ?_
        have hlive : w.client.liveQuoteFeedEnabled = false := by
          by_contra hlive
          obtain ⟨d', hd', he⟩ := h.flag.mp (by simpa using hlive)
          rw [hapart d hd (by simpa using hfeed) (by simp) d' hd'] at he
          cases he
        have hkeeps := (h.ready.subscribeTicks instrumentId symbol "BidAsk" d.ignoreQuoteTickSizeUpdates answer).1
        simpa [subscribePoll, hkeeps.live] using hlive

/-- A step that does not leaves a subscription without a source. -/
theorem not_oneSource_step (h : w.Inv) {e : QuoteEvent} (hapart : ¬ w.Apart e) (hstep : w.step e = some w') :
    ¬ w'.OneSource := by
  rw [(inv_step h hstep).oneSource_iff]
  cases e with
  | create feedEnabled ignoreSize =>
    cases hstep
    simp only [Apart, Classical.not_imp, not_forall] at hapart
    obtain ⟨rfl, s, hs, hfeed⟩ := hapart
    rintro (hlive | hall)
    · simp [QuoteWorld.create] at hlive
    · exact hfeed (((extends_create w true ignoreSize).byFeed (h.owned s hs)).mp (hall s hs))
  | subscribe i instrumentId symbol answer raises =>
    simp only [Apart, Classical.not_imp, not_forall] at hapart
    obtain ⟨d, hd, hfeed, hsymbol, d', hd', hfeed'⟩ := hapart
    obtain ⟨symbol, rfl⟩ := Option.ne_none_iff_exists'.mp hsymbol
    have hlive : w.client.liveQuoteFeedEnabled = true := h.flag.mpr ⟨d', hd', by simpa using hfeed'⟩
    simp only [QuoteWorld.step, hd, hfeed, Bool.false_eq_true, if_false, Option.some.injEq] at hstep
    rw [subscribePoll, QuoteClient.subscribeTicks_of_live hlive] at hstep
    subst hstep
    rintro (hnot | hall)
    · simp [hlive] at hnot
    · obtain ⟨d₁, hd₁, he⟩ := hall ⟨i, instrumentId, symbol⟩ (accepted_accept.mpr (.inr ⟨rfl, rfl⟩))
      simp only [dataClients_accept, hd, Option.some.injEq] at hd₁
      rw [← hd₁, hfeed] at he
      cases he

/-- **Sources of quotes**: all along a run every accepted subscription has its one source if and only if the steps of
the run keep the data clients apart. -/
theorem sources_exact {es : List QuoteEvent} (hrun : run step ({} : QuoteWorld ν) es = some w) :
    (∀ es' w', es' <+: es → run step ({} : QuoteWorld ν) es' = some w' → w'.OneSource) ↔
      Every step Apart ({} : QuoteWorld ν) es :=
  every_iff (I := OneSource) (J := fun w => w.Inv ∧ w.OneSource) (fun _ h => h.2)
    (fun _ _ _ h hapart hs => ⟨inv_step h.1 hs, oneSource_step h.1 h.2 hapart hs⟩)
    (fun _ _ _ h hapart hs => not_oneSource_step h.1 hapart hs)
    ⟨inv_init, fun s hs => by cases hs⟩ hrun

/-- Two data clients without a feed subscribe to one instrument, the bridge has no streaming methods. -/
def pollers : List QuoteEvent :=
  [.create false false, .create false true, .subscribe 0 "EURUSD.METATRADER_5" (some "EURUSD") .noMethods false,
    .subscribe 1 "EURUSD.METATRADER_5" (some "EURUSD") .noMethods false]

theorem pollers_oneSource : ∃ w : QuoteWorld Unit, run step {} pollers = some w ∧ w.accepted.length = 2 ∧
    w.OneSource := by
  have hrun : ∃ w : QuoteWorld Unit, run step {} pollers = some w ∧ w.accepted.length = 2 := ⟨_, rfl, rfl⟩
  obtain ⟨w, hw, hlength⟩ := hrun
  refine ⟨w, hw, hlength, (sources_exact hw).mpr ?_ pollers w (List.prefix_refl _) hw⟩
  simp [pollers, Every, Apart, step, create, subscribePoll]

/-- A data client without a feed next to one with a feed. -/
def besideFeed : List QuoteEvent :=
  [.create true false, .create false false, .subscribe 1 "EURUSD.METATRADER_5" (some "EURUSD") .noMethods false]

/-- Its subscription is accepted, and no source serves it. -/
theorem besideFeed_unserved : ∃ w : QuoteWorld Unit, run step {} besideFeed = some w ∧
    ∃ s ∈ w.accepted, ¬ w.ByFeed s ∧ ¬ w.Fed s ∧ ¬ w.Polled s := by
  have hrun : (run step ({} : QuoteWorld Unit) besideFeed).map (fun w => (w.accepted, w.dataClients)) =
      some ([⟨1, "EURUSD.METATRADER_5", "EURUSD"⟩], [⟨true, false, []⟩, ⟨false, false, []⟩]) := by decide +kernel
  obtain ⟨w, hw, hlogs⟩ := Option.map_eq_some_iff.mp hrun
  obtain ⟨haccepted, hclients⟩ := Prod.mk.inj hlogs
  have hinv : w.Inv := run_inv (fun _ _ _ h hs => inv_step h hs) inv_init hw
  have hfeed : ¬ w.ByFeed ⟨1, "EURUSD.METATRADER_5", "EURUSD"⟩ := by simp [ByFeed, hclients]
  have hlive : w.client.liveQuoteFeedEnabled = true := hinv.flag.mpr (by simp [hclients])
  refine ⟨w, hw, _, haccepted ▸ .head _, hfeed, fun hfed => hfeed hfed.byFeed, fun hpolled => ?_⟩
  rw [Polled, hinv.ready.mem_pollPass, hlive] at hpolled
  cases hpolled.1

end QuoteWorld

end NautilusMt5
