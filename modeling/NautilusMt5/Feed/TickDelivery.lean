import NautilusMt5.Feed.Handler
import NautilusMt5.Execution.Events
import NautilusMt5.Lib.Links
import NautilusMt5.Service.TickExportRuns

/-!
# Ticks from the Service to the engine

The Service exports the ticks of its symbols in batches (`TickExport`), its connections carry them (`Links`), the
handler dedups them and the data client makes quotes of them (`_handle_feed_ticks` of `data.py`, `feed/converter.py`).
Any message may be lost. A connection that is replaced is closed, but its handler is neither ended nor awaited: while
it is held up in the replay of its hello, what has arrived on it waits, and the next connection is read.

Two cursors meet here: the Service fetches past `last_msc`, the adapter drops what is before `last_cursor`. What the
exports send of a symbol is apart in time (`SentInv`), and the adapter's cursor is that of a batch that arrived
(`AdapterInv`). So the dedup drops no tick but for its prices, as long as no batch is overtaken by a later one
(`dedup_transparent_iff`).
-/

namespace NautilusMt5

open Py SortedLog Runs

/-! ## Quotes -/

/-- `QuoteTick`. -/
structure QuoteTick where
  instrumentId : InstrumentId
  bidPrice : ℚ
  askPrice : ℚ
  bidSize : ℚ
  askSize : ℚ
  tsEvent : ℤ
  tsInit : ℤ
  deriving DecidableEq, Repr

/-- What the adapter finds: `str.upper`, and the cached instrument of a symbol. `newQuote` is what the constructor of
a quote raises. -/
structure FeedEnv where
  upper : Upper
  instrument : String → Option Instrument
  newQuote : QuoteTick → Except Error Unit

/-- `make_price` of a float; only a finite one has a price. -/
def Instrument.makePriceOf (instrument : Instrument) : PyFloat → Except Error ℚ
  | .finite q => instrument.makePrice q
  | _ => .error (.valueError "invalid value")

/-- `wire_tick_to_quote_tick`. -/
def wireTickToQuoteTick (newQuote : QuoteTick → Except Error Unit) (instrument : Instrument) (tick : WireTick)
    (tsInit : ℤ) : Except Error (Option QuoteTick) :=
  if tick.bid ≤ 0 ∨ tick.ask ≤ 0 then .ok none
  else do
    let tsEvent := tick.timeMsc * 1000000
    let bidPrice ← instrument.makePriceOf tick.bid
    let askPrice ← instrument.makePriceOf tick.ask
    let bidSize ← instrument.makeQty 0
    let askSize ← instrument.makeQty 0
    let quote := {
      instrumentId := instrument.id, bidPrice, askPrice, bidSize, askSize, tsEvent, tsInit := max tsInit tsEvent }
    newQuote quote
    return some quote

/-- The loop of `_handle_feed_ticks`: the quotes that it passes on, and what it raises. -/
def FeedEnv.quotesOf (env : FeedEnv) (instrument : Instrument) (tsInit : ℤ) :
    List WireTick → List QuoteTick × Option Error
  | [] => ([], none)
  | tick :: ticks =>
    match wireTickToQuoteTick env.newQuote instrument tick tsInit with
    | .error e => ([], some e)
    | .ok none => env.quotesOf instrument tsInit ticks
    | .ok (some quote) =>
      let (quotes, raised) := env.quotesOf instrument tsInit ticks
      (quote :: quotes, raised)

/-- `_handle_feed_ticks`. -/
def FeedEnv.handleFeedTicks (env : FeedEnv) (batch : TickBatchMessage) (now : ℤ) : List QuoteTick × Option Error :=
  match env.instrument batch.symbol with
  | none => ([], none)
  | some instrument => env.quotesOf instrument now batch.ticks

/-! ## The system -/

/-- A tick as it arrives; `price` is what printing and reading make of a price. -/
def wireTick (price : ℚ → ℚ) (t : MqlTick ℚ) : WireTick where
  timeMsc := t.timeMsc
  bid := .finite (price t.bid)
  ask := .finite (price t.ask)
  last := .finite (price t.last)
  volume := t.volume
  flags := t.flags

/-- A batch of the Service as it arrives. -/
def wireBatch (price : ℚ → ℚ) (symbol : String) (ticks : List (MqlTick ℚ)) : TickBatchMessage where
  symbol := symbol
  cursor := (ticks.getLast?.map fun t => (t.timeMsc : ℤ)).getD 0
  ticks := ticks.map (wireTick price)

/-- The symbols of the Service, its connections, the data client, and the batches that arrived, each with the reading of
the clock. The gateway's handler is `feedHandler`. -/
structure DeliveryWorld where
  service : String → ExportWorld ℚ
  links : Links WireInboundMessage
  feedHandler : Option InboundFeedHandler
  feedGateway : Bool
  quotes : List QuoteTick
  delivered : List (TickBatchMessage × ℤ)

/-- The Service exports, sends another message, connects or disconnects; a message is lost, or is read from a
connection; the gateway starts or stops. -/
inductive DeliveryEvent
  | service (symbol : String) (event : ExportEvent ℚ)
  | other (m : WireInboundMessage)
  | connect
  | disconnect
  | lose (i : ℕ)
  | startGateway
  | stopGateway
  | deliver (link : ℕ) (now : ℤ)

namespace DeliveryWorld

/-- Before the first poll of the session. -/
def init (history : String → List (MqlTick ℚ)) : DeliveryWorld where
  service := fun symbol => ExportWorld.init symbol (history symbol)
  links := {}
  feedHandler := none
  feedGateway := false
  quotes := []
  delivered := []

/-- The Service makes a step with one of its symbols. -/
def serviceStep (price : ℚ → ℚ) (inpBatchSize : ℕ) (w : DeliveryWorld) (symbol : String) (event : ExportEvent ℚ) :
    Option DeliveryWorld :=
  ((w.service symbol).step inpBatchSize event).map fun sw =>
    { w with
      service := Function.update w.service symbol sw
      links := w.links.send
        ((sw.sent.drop (w.service symbol).sent.length).map fun ticks => .ticks (wireBatch price symbol ticks)) }

/-- The handler of the gateway. -/
def handler (w : DeliveryWorld) : InboundFeedHandler := w.feedHandler.getD {}

/-- The delivery of a message, if it is a batch. -/
def deliveryOf (now : ℤ) : WireInboundMessage → List (TickBatchMessage × ℤ)
  | .ticks batch => [(batch, now)]
  | _ => []

/-- `_handle_feed_event` on what the handler returned, as far as quotes go. -/
def onEvent (env : FeedEnv) (now : ℤ) : Option WireInboundMessage → List QuoteTick × Option Error
  | some (.ticks batch) => env.handleFeedTicks batch now
  | _ => ([], none)

/-- `_handle_raw` on the next message of a connection. What it raises ends the handler of the connection. -/
def receive (env : FeedEnv) (now : ℤ) (w : DeliveryWorld) (link : ℕ) (m : WireInboundMessage)
    (rest : Links WireInboundMessage) : DeliveryWorld :=
  let handled := w.handler.handleMessage env.upper m
  let passed := onEvent env now handled.2
  { w with
    links := if passed.2.isSome then rest.drop link else rest
    feedHandler := some handled.1
    quotes := w.quotes ++ passed.1
    delivered := w.delivered ++ deliveryOf now m }

def step (env : FeedEnv) (price : ℚ → ℚ) (inpBatchSize : ℕ) (w : DeliveryWorld) : DeliveryEvent → Option DeliveryWorld
  | .service symbol event => w.serviceStep price inpBatchSize symbol event
  | .other (.ticks _) => none
  | .other m => some { w with links := w.links.send [m] }
  | .connect => if w.feedGateway ∧ ¬ w.links.isOpen then some { w with links := w.links.connect } else none
  | .disconnect => some { w with links := w.links.disconnect }
  | .lose i => some { w with links := w.links.lose i }
  | .startGateway => some { w with feedGateway := true, feedHandler := some w.handler }
  | .stopGateway => some { w with feedGateway := false, links := w.links.stop }
  | .deliver link now =>
    match w.links.receive link with
    | none => none
    | some (m, rest) => if w.feedGateway then some (w.receive env now link m rest) else none

end DeliveryWorld

/-- Some tick of the batch has positive prices. -/
def TickBatchMessage.Quoted (batch : TickBatchMessage) : Prop := ∃ t ∈ batch.ticks, 0 < t.bid ∧ 0 < t.ask

instance : DecidablePred TickBatchMessage.Quoted := fun batch =>
  inferInstanceAs (Decidable (∃ t ∈ batch.ticks, 0 < t.bid ∧ 0 < t.ask))

/-- The batch that is next on the connection, if a batch is. -/
def DeliveryWorld.nextBatch (w : DeliveryWorld) (link : ℕ) : Option TickBatchMessage :=
  match w.links.receive link with
  | some (.ticks batch, _) => some batch
  | _ => none

/-- A batch with positive prices that is read was exported after all batches of its symbol with positive prices that
arrived before it. -/
def DeliveryWorld.Timely (w : DeliveryWorld) : DeliveryEvent → Prop
  | .deliver link _ => ∀ batch ∈ w.nextBatch link, batch.Quoted →
      ∀ d ∈ w.delivered, d.1.symbol = batch.symbol → d.1.Quoted → d.1.cursor < batch.cursor
  | _ => True

instance (w : DeliveryWorld) : DecidablePred w.Timely
  | .deliver link _ => inferInstanceAs (Decidable (∀ batch ∈ w.nextBatch link, batch.Quoted →
      ∀ d ∈ w.delivered, d.1.symbol = batch.symbol → d.1.Quoted → d.1.cursor < batch.cursor))
  | .service .. | .other _ | .connect | .disconnect | .lose _ | .startGateway | .stopGateway => .isTrue trivial

/-! ## One symbol -/

/-- The batch of the message, if it is one of the symbol. -/
def batchFor (symbol : String) : WireInboundMessage → Option TickBatchMessage
  | .ticks batch => if batch.symbol = symbol then some batch else none
  | _ => none

/-- The batches of the symbol. -/
def batchesFor (symbol : String) (msgs : List WireInboundMessage) : List TickBatchMessage :=
  msgs.filterMap (batchFor symbol)

/-- The ticks of a batch are past `low`, and the batch reaches to its cursor, which is not past `high`. -/
structure Fresh (low high : ℤ) (batch : TickBatchMessage) : Prop where
  ne_nil : batch.ticks ≠ []
  past : ∀ t ∈ batch.ticks, low < t.timeMsc
  le_cursor : ∀ t ∈ batch.ticks, t.timeMsc ≤ batch.cursor
  cursor_le : batch.cursor ≤ high

/-- The later batch begins past the cursor of the earlier. -/
def Before (earlier later : TickBatchMessage) : Prop := ∀ t ∈ later.ticks, earlier.cursor < t.timeMsc

/-- What was sent of a symbol reaches up to the Service's cursor, each batch past the ones before it. -/
structure SentInv (price : ℚ → ℚ) (symbol : String) (sw : ExportWorld ℚ) : Prop where
  sorted : Sorted MqlTick.timeMsc sw.history
  lastSent_le : ∀ t, sw.sym.lastSent = some t → t.timeMsc ≤ sw.sym.lastMsc
  fresh : ∀ batch ∈ sw.sent.map (wireBatch price symbol), Fresh 0 sw.sym.lastMsc batch
  ordered : (sw.sent.map (wireBatch price symbol)).Pairwise Before

/-- The adapter's cursor is the last of the batches with priced ticks that arrived. -/
structure AdapterInv (state : SymbolFeedState) (arrived : List TickBatchMessage) : Prop where
  behind : ∀ batch ∈ arrived, batch.Quoted → batch.cursor ≤ state.lastCursor
  reached : state.lastCursor = 0 ∨ ∃ batch ∈ arrived, batch.Quoted ∧ batch.cursor = state.lastCursor
  lastTick_le : ∀ t, state.lastTick = some t → t.timeMsc ≤ state.lastCursor

section Symbol

variable {price : ℚ → ℚ} {symbol : String} {sw sw' : ExportWorld ℚ} {state : SymbolFeedState}
  {arrived rest : List TickBatchMessage} {batch : TickBatchMessage}

theorem lastMsc_le_seedIfUnset (s : NT5SymbolState ℚ) (env : PollEnv ℚ) : s.lastMsc ≤ (seedIfUnset s env).lastMsc := by
  unfold seedIfUnset
  split_ifs with h0
  · rw [h0]
    exact Nat.zero_le _
  · exact Nat.le_refl _

/-- What a step of the Service sends: nothing, or one batch of ticks past the old cursor and up to the new one. -/
theorem exportStep_cases {b : ℕ} {event : ExportEvent ℚ} (hsorted : Sorted MqlTick.timeMsc sw.history)
    (hlast : ∀ t, sw.sym.lastSent = some t → t.timeMsc ≤ sw.sym.lastMsc) (hs : sw.step b event = some sw') :
    Sorted MqlTick.timeMsc sw'.history ∧ (∀ t, sw'.sym.lastSent = some t → t.timeMsc ≤ sw'.sym.lastMsc) ∧
      sw.sym.lastMsc ≤ sw'.sym.lastMsc ∧ (sw'.sent = sw.sent ∨ ∃ ticks z, sw'.sent = sw.sent ++ [ticks] ∧
        ticks.getLast? = some z ∧ z.timeMsc = sw'.sym.lastMsc ∧ Sorted MqlTick.timeMsc ticks ∧
          ∀ t ∈ ticks, sw.sym.lastMsc < t.timeMsc) := by
  cases event with
  | arrive t =>
    simp only [ExportWorld.step, ExportWorld.arrive] at hs
    split_ifs at hs with hle
    cases hs
    refine ⟨?_, hlast, Nat.le_refl _, .inl rfl⟩
    refine List.pairwise_append.mpr ⟨hsorted, List.pairwise_singleton _ t, fun u hu v hv => ?_⟩
    rw [List.mem_singleton.mp hv]
    exact hle u hu
  | setActive a =>
    cases hs
    exact ⟨hsorted, hlast, Nat.le_refl _, .inl rfl⟩
  | poll env =>
    cases hs
    have hseed : sw.sym.lastMsc ≤ (seedIfUnset sw.sym env).lastMsc := lastMsc_le_seedIfUnset sw.sym env
    have hseedLast := seedIfUnset_lastSent_le hlast env
    rcases poll_cases b hlast env with ⟨-, hp⟩ | ⟨-, hp, -⟩ | ⟨-, -, -, z, hz, hp⟩
    · rw [hp]
      exact ⟨hsorted, hlast, Nat.le_refl _, .inl rfl⟩
    · rw [hp]
      exact ⟨hsorted, hseedLast, hseed, .inl rfl⟩
    · rw [hp]
      have hpast : ∀ t ∈ (after MqlTick.timeMsc (seedIfUnset sw.sym env).lastMsc sw.history).take b,
          sw.sym.lastMsc < t.timeMsc :=
        fun t ht => hseed.trans_lt (mem_after.mp (List.mem_of_mem_take ht)).2
      refine ⟨hsorted, fun t ht => ?_, (hpast z (List.mem_of_getLast? hz)).le, .inr ⟨_, z, rfl, hz, rfl, ?_, hpast⟩⟩
      · cases ht
        exact Nat.le_refl _
      · exact (hsorted.after _).sublist (List.take_sublist _ _)

/-- A batch of the Service, as it arrives, is fresh. -/
theorem fresh_wireBatch (price : ℚ → ℚ) (symbol : String) {ticks : List (MqlTick ℚ)} {z : MqlTick ℚ} {low : ℕ}
    (hz : ticks.getLast? = some z) (hsorted : Sorted MqlTick.timeMsc ticks) (hpast : ∀ t ∈ ticks, low < t.timeMsc) :
    Fresh low z.timeMsc (wireBatch price symbol ticks) := by
  have hcursor : (wireBatch price symbol ticks).cursor = z.timeMsc := by
    unfold wireBatch
    rw [hz]
    rfl
  refine ⟨?_, fun t ht => ?_, fun t ht => ?_, hcursor.le⟩
  · intro hnil
    rw [List.map_eq_nil_iff.mp hnil] at hz
    cases hz
  · obtain ⟨u, hu, rfl⟩ := List.mem_map.mp ht
    exact Int.ofNat_lt.mpr (hpast u hu)
  · obtain ⟨u, hu, rfl⟩ := List.mem_map.mp ht
    rw [hcursor]
    exact Int.ofNat_le.mpr (hsorted.le_last hz hu)

/-- **Export**: what a step of the Service sends comes behind what it sent. -/
theorem SentInv.step {b : ℕ} {event : ExportEvent ℚ} (hi : SentInv price symbol sw) (hs : sw.step b event = some sw') :
    SentInv price symbol sw' ∧ sw'.sent = sw.sent ++ sw'.sent.drop sw.sent.length := by
  obtain ⟨hsorted, hlast, hmsc, hsent⟩ := exportStep_cases hi.sorted hi.lastSent_le hs
  have hmscZ : (sw.sym.lastMsc : ℤ) ≤ sw'.sym.lastMsc := Int.ofNat_le.mpr hmsc
  have hold : ∀ batch ∈ sw.sent.map (wireBatch price symbol), Fresh 0 sw'.sym.lastMsc batch := fun batch hb =>
    { hi.fresh batch hb with cursor_le := (hi.fresh batch hb).cursor_le.trans hmscZ }
  rcases hsent with hsent | ⟨ticks, z, hsent, hz, hzmsc, hticks, hpast⟩
  · rw [hsent, List.drop_length, List.append_nil]
    exact ⟨⟨hsorted, hlast, hsent ▸ hold, hsent ▸ hi.ordered⟩, rfl⟩
  · rw [hsent, List.drop_left]
    have hf := fresh_wireBatch price symbol hz hticks hpast
    rw [hzmsc] at hf
    refine ⟨⟨hsorted, hlast, fun batch hb => ?_, ?_⟩, rfl⟩
    · rw [hsent, List.map_append] at hb
      rcases List.mem_append.mp hb with hb | hb
      · exact hold batch hb
      · rw [List.mem_singleton.mp hb]
        exact { hf with past := fun t ht => (Int.natCast_nonneg _).trans_lt (hf.past t ht) }
    · rw [hsent, List.map_append]
      refine List.pairwise_append.mpr ⟨hi.ordered, List.pairwise_singleton _ _, fun earlier he later hl t ht => ?_⟩
      rw [List.mem_singleton.mp hl] at ht
      exact (hi.fresh earlier he).cursor_le.trans_lt (hf.past t ht)

/-- Before the first poll nothing was sent. -/
theorem sentInv_init {history : List (MqlTick ℚ)} (h : Sorted MqlTick.timeMsc history) :
    SentInv price symbol (ExportWorld.init symbol history) where
  sorted := h
  lastSent_le t ht := by cases ht
  fresh batch hb := by cases hb
  ordered := List.Pairwise.nil

/-! ## The dedup of one batch -/

theorem adapterInv_init : AdapterInv {} [] := by
  refine ⟨fun batch hb => ?_, .inl rfl, fun t ht => ?_⟩
  · cases hb
  · cases ht

/-- Only priced ticks are new. -/
theorem newTicks_sublist_priced : (state.newTicks batch).Sublist (batch.ticks.filter WireTick.Priced) := by
  unfold SymbolFeedState.newTicks
  split_ifs
  · exact List.nil_sublist _
  · exact List.monotone_filter_right _ fun t ht => decide_eq_true (of_decide_eq_true ht).2.2

/-- Of a batch past the adapter's cursor all priced ticks are new. -/
theorem newTicks_of_past (hlast : ∀ t, state.lastTick = some t → t.timeMsc ≤ state.lastCursor)
    (hc : state.lastCursor ≤ batch.cursor) (hpast : ∀ t ∈ batch.ticks, state.lastCursor < t.timeMsc) :
    state.newTicks batch = batch.ticks.filter WireTick.Priced := by
  rw [SymbolFeedState.newTicks, if_neg (not_lt.mpr hc)]
  refine List.filter_congr fun t ht => decide_eq_decide.mpr ⟨fun hp => hp.2.2, fun hp => ⟨?_, ?_, hp⟩⟩
  · exact not_lt.mpr (hpast t ht).le
  · -- a tick past the cursor is not the last tick, which is not
    intro hsame
    obtain ⟨u, hu, hkey⟩ := Option.map_eq_some_iff.mp hsame
    have htime : u.timeMsc = t.timeMsc := congrArg Prod.fst hkey
    have hle := hlast u hu
    have hlt := hpast t ht
    omega

/-- In the batch the ticks with prices that are not at most zero are those with positive prices. -/
def Plain (batch : TickBatchMessage) : Prop := ∀ t ∈ batch.ticks, t.Priced ↔ 0 < t.bid ∧ 0 < t.ask

theorem Plain.filter_priced (hp : Plain batch) :
    batch.ticks.filter WireTick.Priced = batch.ticks.filter fun t => 0 < t.bid ∧ 0 < t.ask :=
  List.filter_congr fun t ht => decide_eq_decide.mpr (hp t ht)

/-- The batches that arrived of a symbol, with the one that is read: all reach to their cursors, and any two of them are
apart. -/
structure Arrival (arrived : List TickBatchMessage) (batch : TickBatchMessage) : Prop where
  plain : Plain batch
  fresh : ∃ high, Fresh 0 high batch
  reach : ∀ earlier ∈ arrived, ∀ t ∈ earlier.ticks, t.timeMsc ≤ earlier.cursor
  apart : ∀ earlier ∈ arrived, Before earlier batch ∨ Before batch earlier

/-- The batch has no positive prices, or all that arrived with positive prices was exported before it. -/
def InTime (arrived : List TickBatchMessage) (batch : TickBatchMessage) : Prop :=
  batch.Quoted → ∀ earlier ∈ arrived, earlier.Quoted → earlier.cursor < batch.cursor

/-- **A batch in time** gives all its priced ticks. -/
theorem AdapterInv.newTicks_of_inTime (ha : AdapterInv state arrived) (hb : Arrival arrived batch)
    (ht : InTime arrived batch) : state.newTicks batch = batch.ticks.filter WireTick.Priced := by
  obtain ⟨high, hf⟩ := hb.fresh
  by_cases hq : batch.Quoted
  · have hpast : ∀ t ∈ batch.ticks, state.lastCursor < t.timeMsc := by
      rcases ha.reached with h0 | ⟨earlier, he, heq, hcur⟩
      · rw [h0]
        exact hf.past
      · rw [← hcur]
        rcases hb.apart earlier he with hbefore | hafter
        · exact hbefore
        · -- the earlier arrival would have been exported later
          obtain ⟨u, hu, hpos⟩ := heq
          have hlt := ht hq earlier he ⟨u, hu, hpos⟩
          have hle := hb.reach earlier he u hu
          have hgt := hafter u hu
          omega
    obtain ⟨t, htm⟩ := List.exists_mem_of_ne_nil _ hf.ne_nil
    exact newTicks_of_past ha.lastTick_le ((hpast t htm).le.trans (hf.le_cursor t htm)) hpast
  · have hnil : batch.ticks.filter WireTick.Priced = [] := by
      rw [hb.plain.filter_priced, List.filter_eq_nil_iff]
      exact fun t htm hpos => hq ⟨t, htm, of_decide_eq_true hpos⟩
    rw [hnil]
    exact List.eq_nil_of_sublist_nil (hnil ▸ newTicks_sublist_priced)

/-- **A batch that was overtaken** is behind the cursor, and gives nothing. -/
theorem AdapterInv.lt_of_not_inTime (ha : AdapterInv state arrived) (hb : Arrival arrived batch)
    (ht : ¬ InTime arrived batch) : batch.Quoted ∧ batch.cursor < state.lastCursor := by
  unfold InTime at ht
  push Not at ht
  obtain ⟨hq, earlier, he, heq, hle⟩ := ht
  refine ⟨hq, lt_of_lt_of_le ?_ (ha.behind earlier he heq)⟩
  obtain ⟨high, hf⟩ := hb.fresh
  rcases hb.apart earlier he with hbefore | hafter
  · obtain ⟨t, htm⟩ := List.exists_mem_of_ne_nil _ hf.ne_nil
    have hgt := hbefore t htm
    have hreach := hf.le_cursor t htm
    omega
  · obtain ⟨u, hu, -⟩ := heq
    exact (hafter u hu).trans_le (hb.reach earlier he u hu)

theorem newTicks_eq_nil (h : batch.cursor < state.lastCursor) : state.newTicks batch = [] := if_pos h

/-- A batch that gives nothing has no positive prices, or is behind the cursor. -/
theorem AdapterInv.behind_of_nil (ha : AdapterInv state arrived) (hb : Arrival arrived batch)
    (hnil : state.newTicks batch = []) (hq : batch.Quoted) : batch.cursor ≤ state.lastCursor := by
  by_cases ht : InTime arrived batch
  · rw [ha.newTicks_of_inTime hb ht, hb.plain.filter_priced, List.filter_eq_nil_iff] at hnil
    obtain ⟨t, htm, hpos⟩ := hq
    exact absurd (decide_eq_true hpos) (hnil t htm)
  · exact (ha.lt_of_not_inTime hb ht).2.le

/-- **An arrival** keeps the adapter's cursor the last of the batches with positive prices. -/
theorem AdapterInv.arrive (ha : AdapterInv state arrived) (hb : Arrival arrived batch) :
    AdapterInv (state.after batch (state.newTicks batch)) (arrived ++ [batch]) := by
  obtain ⟨high, hf⟩ := hb.fresh
  cases hlast : (state.newTicks batch).getLast? with
  | none =>
    have hnil := List.getLast?_eq_none_iff.mp hlast
    rw [hnil, SymbolFeedState.after_nil]
    refine ⟨fun b hm hq => ?_, ?_, ha.lastTick_le⟩
    · rcases List.mem_append.mp hm with hm | hm
      · exact ha.behind b hm hq
      · rw [List.mem_singleton.mp hm] at hq ⊢
        exact ha.behind_of_nil hb hnil hq
    · rcases ha.reached with h0 | ⟨b, hm, hq, hcur⟩
      · exact .inl h0
      · exact .inr ⟨b, List.mem_append_left _ hm, hq, hcur⟩
  | some last =>
    rw [SymbolFeedState.after_of_getLast? hlast]
    obtain ⟨hnot, hmem, hpass⟩ := SymbolFeedState.mem_newTicks.mp (List.mem_of_getLast? hlast)
    have hquoted : batch.Quoted := ⟨last, hmem, (hb.plain last hmem).mp hpass.2.2⟩
    refine ⟨fun b hm hq => ?_, .inr ⟨batch, List.mem_append_right _ (List.mem_singleton_self _), hquoted, rfl⟩,
      fun t ht => ?_⟩
    · rcases List.mem_append.mp hm with hm | hm
      · exact (ha.behind b hm hq).trans (not_lt.mp hnot)
      · rw [List.mem_singleton.mp hm]
    · rw [← Option.some.inj ht]
      exact hf.le_cursor last hmem

end Symbol

/-! ## Quotes of priced ticks -/

/-- The quote of a tick with these prices. -/
def Instrument.quoteAt (instrument : Instrument) (t : WireTick) (now : ℤ) (bidPrice askPrice size : ℚ) : QuoteTick where
  instrumentId := instrument.id
  bidPrice := bidPrice
  askPrice := askPrice
  bidSize := size
  askSize := size
  tsEvent := t.timeMsc * 1000000
  tsInit := max now (t.timeMsc * 1000000)

/-- The instrument has prices for the tick's, and the constructor takes the quote. -/
def Instrument.Accepts (newQuote : QuoteTick → Except Error Unit) (instrument : Instrument) (t : WireTick) (now : ℤ) :
    Prop :=
  ∃ bidPrice askPrice size, instrument.makePriceOf t.bid = .ok bidPrice ∧ instrument.makePriceOf t.ask = .ok askPrice ∧
    instrument.makeQty 0 = .ok size ∧ newQuote (instrument.quoteAt t now bidPrice askPrice size) = .ok ()

namespace FeedEnv

variable {env : FeedEnv} {instrument : Instrument} {ticks : List WireTick} {t : WireTick} {now : ℤ}
  {d : TickBatchMessage × ℤ}

/-- The instrument of the batch is cached and accepts its positive prices. -/
def Accepts (env : FeedEnv) (d : TickBatchMessage × ℤ) : Prop :=
  ∃ instrument, env.instrument d.1.symbol = some instrument ∧
    ∀ t ∈ d.1.ticks, 0 < t.bid → 0 < t.ask → instrument.Accepts env.newQuote t d.2

/-- The quote of a tick of the batch. -/
def quoteOf (env : FeedEnv) (d : TickBatchMessage × ℤ) (t : WireTick) : Option QuoteTick :=
  match env.instrument d.1.symbol with
  | none => none
  | some instrument =>
    match wireTickToQuoteTick env.newQuote instrument t d.2 with
    | .ok quote => quote
    | .error _ => none

/-- The quotes of all ticks of the batch with positive prices. -/
def answers (env : FeedEnv) (d : TickBatchMessage × ℤ) : List (Option QuoteTick) :=
  (d.1.ticks.filter fun t => 0 < t.bid ∧ 0 < t.ask).map (env.quoteOf d)

/-- A priced tick that is accepted becomes a quote. -/
theorem wireTickToQuoteTick_of_accepts (hp : t.Priced) (ha : instrument.Accepts env.newQuote t now) :
    ∃ quote, wireTickToQuoteTick env.newQuote instrument t now = .ok (some quote) := by
  obtain ⟨bidPrice, askPrice, size, hbid, hask, hsize, hnew⟩ := ha
  refine ⟨instrument.quoteAt t now bidPrice askPrice size, ?_⟩
  rw [wireTickToQuoteTick, if_neg hp, hbid, hask, hsize]
  show (env.newQuote (instrument.quoteAt t now bidPrice askPrice size) >>= fun _ => _) = _
  rw [hnew]
  rfl

/-- Accepted ticks all become quotes. -/
theorem quotesOf_of_accepts (hall : ∀ t ∈ ticks, t.Priced ∧ instrument.Accepts env.newQuote t now)
    (hi : env.instrument d.1.symbol = some instrument) (hd : d.2 = now) :
    (env.quotesOf instrument now ticks).1.map some = ticks.map (env.quoteOf d) := by
  induction ticks with
  | nil => rfl
  | cons t ticks ih =>
    obtain ⟨⟨hp, ha⟩, hrest⟩ := List.forall_mem_cons.mp hall
    obtain ⟨quote, hq⟩ := wireTickToQuoteTick_of_accepts hp ha
    have hone : env.quoteOf d t = some quote := by
      unfold quoteOf
      rw [hi]
      simp only [hd, hq]
    rw [List.map_cons, hone, ← ih hrest, quotesOf, hq]
    rfl

/-- A tick gives at most one quote. -/
theorem length_quotesOf_le (env : FeedEnv) (instrument : Instrument) (now : ℤ) (ticks : List WireTick) :
    (env.quotesOf instrument now ticks).1.length ≤ ticks.length := by
  induction ticks with
  | nil => exact Nat.le_refl 0
  | cons t ticks ih =>
    rw [quotesOf, List.length_cons]
    split
    · exact Nat.zero_le _
    · exact ih.trans (Nat.le_succ _)
    · exact Nat.succ_le_succ ih

theorem length_handleFeedTicks_le (env : FeedEnv) (batch : TickBatchMessage) (now : ℤ) :
    (env.handleFeedTicks batch now).1.length ≤ batch.ticks.length := by
  unfold handleFeedTicks
  split
  · exact Nat.zero_le _
  · exact env.length_quotesOf_le _ now batch.ticks

end FeedEnv

theorem priced_wireTick {price : ℚ → ℚ} (t : MqlTick ℚ) :
    (wireTick price t).Priced ↔ 0 < (wireTick price t).bid ∧ 0 < (wireTick price t).ask := by
  unfold WireTick.Priced
  rw [not_or, PyFloat.not_le_zero_iff, PyFloat.not_le_zero_iff]
  exact and_congr (or_iff_left id) (or_iff_left id)

/-- In a batch of the Service the priced ticks are those with positive prices. -/
theorem plain_wireBatch (price : ℚ → ℚ) (symbol : String) (ticks : List (MqlTick ℚ)) :
    Plain (wireBatch price symbol ticks) := by
  intro t ht
  obtain ⟨u, -, rfl⟩ := List.mem_map.mp ht
  exact priced_wireTick u

/-! ## The system -/

namespace DeliveryWorld

variable {env : FeedEnv} {price : ℚ → ℚ} {inpBatchSize : ℕ} {w w' : DeliveryWorld} {symbol : String} {now : ℤ}
  {link : ℕ} {m : WireInboundMessage} {batch : TickBatchMessage} {rest : Links WireInboundMessage}

/-- The batches of the symbol that arrived. -/
def deliveredFor (w : DeliveryWorld) (symbol : String) : List TickBatchMessage :=
  (w.delivered.map Prod.fst).filter fun batch => batch.symbol = symbol

/-- Every symbol has its invariants, and what arrived or is on its way was sent, each batch once. -/
structure Inv (price : ℚ → ℚ) (w : DeliveryWorld) : Prop where
  sent : ∀ symbol, SentInv price symbol (w.service symbol)
  once : ∀ symbol, (w.deliveredFor symbol ++ batchesFor symbol w.links.messages).Subperm
    ((w.service symbol).sent.map (wireBatch price symbol))
  adapter : ∀ symbol, AdapterInv (w.handler.stateFor symbol) (w.deliveredFor symbol)

/-- Every tick with positive prices that arrived was answered. -/
def Answered (env : FeedEnv) (w : DeliveryWorld) : Prop := w.quotes.map some = w.delivered.flatMap env.answers

/-- There are fewer quotes than ticks with positive prices that arrived. -/
def Short (env : FeedEnv) (w : DeliveryWorld) : Prop := w.quotes.length < (w.delivered.flatMap env.answers).length

/-- Losing messages keeps the invariant. -/
theorem Inv.lose (hi : w.Inv price) (links : Links WireInboundMessage) (hsub : links.messages.Sublist w.links.messages)
    {gateway : Bool} : Inv price { w with links := links, feedGateway := gateway } where
  sent := hi.sent
  once symbol := ((hsub.filterMap _).append_left _).subperm.trans (hi.once symbol)
  adapter := hi.adapter

theorem batchesFor_append (symbol : String) (l r : List WireInboundMessage) :
    batchesFor symbol (l ++ r) = batchesFor symbol l ++ batchesFor symbol r := List.filterMap_append

/-- The messages of one symbol are batches of no other. -/
theorem batchesFor_map_ticks (other : String) (batches : List (List (MqlTick ℚ))) :
    batchesFor other (batches.map fun ticks => .ticks (wireBatch price symbol ticks)) =
      if other = symbol then batches.map (wireBatch price symbol) else [] := by
  unfold batchesFor
  rw [List.filterMap_map]
  split_ifs with h
  · subst h
    rw [← List.filterMap_eq_map]
    exact List.filterMap_congr fun ticks _ => if_pos rfl
  · rw [List.filterMap_eq_nil_iff]
    exact fun ticks _ => if_neg (Ne.symm h)

theorem serviceStep_inv {event : ExportEvent ℚ} (hi : w.Inv price)
    (hs : w.serviceStep price inpBatchSize symbol event = some w') : w'.Inv price := by
  obtain ⟨sw, hsw, rfl⟩ := Option.map_eq_some_iff.mp hs
  obtain ⟨hsym, hsent⟩ := (hi.sent symbol).step hsw
  refine ⟨fun other => ?_, fun other => ?_, hi.adapter⟩
  · show SentInv price other (Function.update w.service symbol sw other)
    by_cases ho : other = symbol
    · subst ho
      rw [Function.update_self]
      exact hsym
    · rw [Function.update_of_ne ho]
      exact hi.sent other
  · -- what is sent goes on its way, or nowhere
    have hwire := ((Links.messages_send_sublist w.links
      ((sw.sent.drop (w.service symbol).sent.length).map fun ticks => .ticks (wireBatch price symbol ticks))).filterMap
      (batchFor other)).append_left (w.deliveredFor other)
    refine hwire.subperm.trans ?_
    show (w.deliveredFor other ++ batchesFor other (w.links.messages ++ _)).Subperm
      ((Function.update w.service symbol sw other).sent.map _)
    rw [batchesFor_append, batchesFor_map_ticks]
    by_cases ho : other = symbol
    · subst ho
      rw [Function.update_self, if_pos rfl, hsent, List.map_append, ← List.append_assoc, ← hsent]
      exact (hi.once other).append (List.Subperm.refl _)
    · rw [Function.update_of_ne ho, if_neg ho, List.append_nil]
      exact hi.once other

/-- What is handed on of a batch is its new ticks. -/
theorem onEvent_ticks (h : InboundFeedHandler) (batch : TickBatchMessage) :
    onEvent env now (h.handleMessage env.upper (.ticks batch)).2 =
      env.handleFeedTicks { batch with ticks := (h.stateFor batch.symbol).newTicks batch } now := by
  rw [InboundFeedHandler.handleMessage_ticks]
  split_ifs with hnil
  · rw [hnil]
    unfold FeedEnv.handleFeedTicks
    cases env.instrument batch.symbol <;> rfl
  · rfl

theorem onEvent_other (h : InboundFeedHandler) (hm : ∀ batch, m ≠ .ticks batch) :
    onEvent env now (h.handleMessage env.upper m).2 = ([], none) := by
  cases m with
  | ticks batch => exact absurd rfl (hm batch)
  | bar bar =>
    show onEvent env now ((h.dedupBar env.upper bar).2.map .bar) = _
    cases (h.dedupBar env.upper bar).2 <;> rfl
  | _ => rfl

/-- What has arrived of a symbol, after the next message. -/
theorem deliveredFor_receive (symbol : String) (m : WireInboundMessage) (rest : Links WireInboundMessage) :
    (w.receive env now link m rest).deliveredFor symbol = w.deliveredFor symbol ++ (batchFor symbol m).toList := by
  show ((w.delivered ++ deliveryOf now m).map Prod.fst).filter _ = _
  rw [List.map_append, List.filter_append]
  congr 1
  cases m with
  | ticks batch => by_cases hs : batch.symbol = symbol <;> simp [deliveryOf, batchFor, hs]
  | _ => rfl

theorem batchesFor_cons (symbol : String) (m : WireInboundMessage) (msgs : List WireInboundMessage) :
    batchesFor symbol (m :: msgs) = (batchFor symbol m).toList ++ batchesFor symbol msgs := by
  unfold batchesFor
  cases h : batchFor symbol m with
  | none => rw [List.filterMap_cons_none h, Option.toList_none, List.nil_append]
  | some batch => rw [List.filterMap_cons_some h, Option.toList_some, List.singleton_append]

/-- The next message leaves a symbol that it is no batch of as it is. -/
theorem stateFor_receive_of_ne (hm : ∀ batch, m = .ticks batch → batch.symbol ≠ symbol) :
    (w.receive env now link m rest).handler.stateFor symbol = w.handler.stateFor symbol := by
  show (w.handler.handleMessage env.upper m).1.stateFor symbol = _
  unfold InboundFeedHandler.stateFor
  rw [InboundFeedHandler.get?_handleMessage_of_ne hm]

/-- What remains on its way after the next message. -/
theorem messages_receive_sublist (m : WireInboundMessage) (rest : Links WireInboundMessage) :
    (w.receive env now link m rest).links.messages.Sublist rest.messages := by
  show (if _ then rest.drop link else rest).messages.Sublist rest.messages
  split_ifs
  · exact rest.messages_drop_sublist link
  · exact List.Sublist.refl _

/-- The next message goes from what is on its way to what has arrived. -/
theorem Inv.once_receive (hi : w.Inv price) (hw : w.links.receive link = some (m, rest)) (symbol : String) :
    (w.deliveredFor symbol ++ (batchFor symbol m).toList ++ batchesFor symbol rest.messages).Subperm
      ((w.service symbol).sent.map (wireBatch price symbol)) := by
  rw [List.append_assoc, ← batchesFor_cons]
  exact (((Links.perm_of_receive hw).symm.filterMap _).append_left _).subperm.trans (hi.once symbol)

/-- A batch that is read is apart from all that arrived of its symbol: all were sent, each at a place of its own. -/
theorem Inv.arrival (hi : w.Inv price) (hw : w.links.receive link = some (.ticks batch, rest)) :
    Arrival (w.deliveredFor batch.symbol) batch := by
  have hfor : batchFor batch.symbol (.ticks batch) = some batch := if_pos rfl
  have honce := hi.once_receive hw batch.symbol
  rw [hfor] at honce
  have hsub := (List.sublist_append_left (w.deliveredFor batch.symbol ++ [batch]) _).subperm.trans honce
  have hsent := hi.sent batch.symbol
  have hfresh : ∀ b ∈ w.deliveredFor batch.symbol ++ [batch],
      Fresh 0 (w.service batch.symbol).sym.lastMsc b := fun b hb => hsent.fresh b (hsub.subset hb)
  have hpair : (w.deliveredFor batch.symbol ++ [batch]).Pairwise fun b b' => Before b b' ∨ Before b' b := by
    obtain ⟨l, hperm, hl⟩ := hsub
    exact ((hsent.ordered.imp .inl).sublist hl).perm hperm fun h => h.symm
  have hmem : batch ∈ w.deliveredFor batch.symbol ++ [batch] := List.mem_append_right _ (List.mem_singleton_self _)
  obtain ⟨ticks, -, hticks⟩ := List.mem_map.mp (hsub.subset hmem)
  constructor
  · rw [← hticks]
    exact plain_wireBatch price _ ticks
  · exact ⟨_, hfresh batch hmem⟩
  · exact fun earlier he => (hfresh earlier (List.mem_append_left _ he)).le_cursor
  · exact fun earlier he => (List.pairwise_append.mp hpair).2.2 earlier he batch (List.mem_singleton_self _)

theorem nextBatch_of_receive (hw : w.links.receive link = some (m, rest)) :
    batch ∈ w.nextBatch link ↔ m = .ticks batch := by
  unfold nextBatch
  rw [hw]
  cases m <;> simp [eq_comm]

/-- The condition on a step, in terms of the batches that arrived of the symbol. -/
theorem timely_iff_inTime (hw : w.links.receive link = some (.ticks batch, rest)) :
    w.Timely (.deliver link now) ↔ InTime (w.deliveredFor batch.symbol) batch := by
  constructor
  · intro h hq earlier he
    obtain ⟨hmem, hs⟩ := List.mem_filter.mp he
    obtain ⟨d, hd, rfl⟩ := List.mem_map.mp hmem
    exact h batch ((nextBatch_of_receive hw).mpr rfl) hq d hd (of_decide_eq_true hs)
  · intro h batch' hb hq d hd hs
    cases (nextBatch_of_receive hw).mp hb
    exact h hq d.1 (List.mem_filter.mpr ⟨List.mem_map_of_mem hd, decide_eq_true hs⟩)

/-- **The next message** keeps the invariant: it changes at most its own symbol. -/
theorem receive_inv (hi : w.Inv price) (hw : w.links.receive link = some (m, rest)) :
    (w.receive env now link m rest).Inv price := by
  have hkept : Inv price { w.receive env now link m rest with links := rest } := by
    refine ⟨hi.sent, fun symbol => ?_, fun symbol => ?_⟩
    · show ((w.receive env now link m rest).deliveredFor symbol ++ _).Subperm _
      rw [deliveredFor_receive]
      exact hi.once_receive hw symbol
    · show AdapterInv ((w.receive env now link m rest).handler.stateFor symbol)
        ((w.receive env now link m rest).deliveredFor symbol)
      rw [deliveredFor_receive]
      by_cases hm : ∀ batch, m = .ticks batch → batch.symbol ≠ symbol
      · have hnone : batchFor symbol m = none := by
          cases m with
          | ticks batch => exact if_neg (hm batch rfl)
          | _ => rfl
        rw [stateFor_receive_of_ne hm, hnone, Option.toList_none, List.append_nil]
        exact hi.adapter symbol
      · push Not at hm
        obtain ⟨batch, rfl, rfl⟩ := hm
        have hfor : batchFor batch.symbol (.ticks batch) = some batch := if_pos rfl
        rw [hfor]
        show AdapterInv ((w.handler.handleMessage env.upper (.ticks batch)).1.stateFor batch.symbol) _
        rw [InboundFeedHandler.handleMessage_ticks, InboundFeedHandler.stateFor_dedupTicks]
        exact (hi.adapter batch.symbol).arrive (hi.arrival hw)
  exact hkept.lose _ (messages_receive_sublist m rest)

/-- Of a message no more quotes are made than it has ticks with positive prices. -/
theorem length_onEvent_le (hi : w.Inv price) (hw : w.links.receive link = some (m, rest)) :
    (onEvent env now (w.handler.handleMessage env.upper m).2).1.length ≤
      ((deliveryOf now m).flatMap env.answers).length := by
  cases m with
  | ticks batch =>
    rw [onEvent_ticks, deliveryOf, List.flatMap_singleton, FeedEnv.answers, List.length_map,
      ← (hi.arrival hw).plain.filter_priced]
    exact (env.length_handleFeedTicks_le _ now).trans newTicks_sublist_priced.length_le
  | _ => rw [onEvent_other _ (fun batch h => by cases h)]; exact Nat.zero_le _

/-- The quotes of a batch in time that is accepted are the answers to its ticks. -/
theorem quotes_of_inTime (hi : w.Inv price) (hw : w.links.receive link = some (.ticks batch, rest))
    (ht : InTime (w.deliveredFor batch.symbol) batch) (ha : env.Accepts (batch, now)) :
    (onEvent env now (w.handler.handleMessage env.upper (.ticks batch)).2).1.map some = env.answers (batch, now) := by
  have hb := hi.arrival hw
  obtain ⟨instrument, hinst, haccept⟩ := ha
  have hpriced : ∀ t ∈ batch.ticks.filter fun t => 0 < t.bid ∧ 0 < t.ask,
      t.Priced ∧ instrument.Accepts env.newQuote t now := by
    intro t htm
    obtain ⟨hmem, hpos⟩ := List.mem_filter.mp htm
    obtain ⟨hbid, hask⟩ := of_decide_eq_true hpos
    exact ⟨(hb.plain t hmem).mpr ⟨hbid, hask⟩, haccept t hmem hbid hask⟩
  rw [onEvent_ticks, (hi.adapter batch.symbol).newTicks_of_inTime hb ht, hb.plain.filter_priced]
  unfold FeedEnv.handleFeedTicks
  rw [hinst]
  exact FeedEnv.quotesOf_of_accepts (d := (batch, now)) hpriced hinst rfl

/-- A message in time is answered. -/
theorem answered_receive (hi : w.Inv price) (hw : w.links.receive link = some (m, rest)) (h : w.Answered env)
    (ht : w.Timely (.deliver link now)) (ha : ∀ d ∈ (w.receive env now link m rest).delivered, env.Accepts d) :
    (w.receive env now link m rest).Answered env := by
  show (w.quotes ++ (onEvent env now (w.handler.handleMessage env.upper m).2).1).map some =
    (w.delivered ++ deliveryOf now m).flatMap env.answers
  rw [List.map_append, List.flatMap_append, ← h]
  congr 1
  by_cases hm : ∃ batch, m = .ticks batch
  · obtain ⟨batch, rfl⟩ := hm
    have haccept : env.Accepts (batch, now) := ha _ (List.mem_append_right _ (List.mem_singleton_self _))
    rw [quotes_of_inTime hi hw ((timely_iff_inTime hw).mp ht) haccept]
    exact (List.flatMap_singleton env.answers (batch, now)).symm
  · push Not at hm
    rw [onEvent_other _ hm]
    cases m with
    | ticks batch => exact absurd rfl (hm batch)
    | _ => rfl

/-- **A batch that was overtaken is not answered**, and what is missing stays missing. -/
theorem short_of_not_timely (hi : w.Inv price) (hw : w.links.receive link = some (m, rest)) (h : w.Answered env)
    (ht : ¬ w.Timely (.deliver link now)) : (w.receive env now link m rest).Short env := by
  have hlen : w.quotes.length = (w.delivered.flatMap env.answers).length := by rw [← h, List.length_map]
  have hbatch : ∃ batch, m = .ticks batch := by
    by_contra hno
    exact ht fun batch hb => absurd ⟨batch, (nextBatch_of_receive hw).mp hb⟩ hno
  obtain ⟨batch, rfl⟩ := hbatch
  rw [timely_iff_inTime hw] at ht
  obtain ⟨⟨t, htm, hpos⟩, hlt⟩ := (hi.adapter batch.symbol).lt_of_not_inTime (hi.arrival hw) ht
  have hnone : (onEvent env now (w.handler.handleMessage env.upper (.ticks batch)).2).1 = [] := by
    rw [InboundFeedHandler.handleMessage_ticks, newTicks_eq_nil hlt, if_pos rfl]
    rfl
  have hone : 0 < (env.answers (batch, now)).length := by
    rw [FeedEnv.answers, List.length_map]
    exact List.length_pos_of_mem (List.mem_filter.mpr ⟨htm, decide_eq_true hpos⟩)
  show (w.quotes ++ _).length < ((w.delivered ++ [(batch, now)]).flatMap env.answers).length
  rw [hnone, List.append_nil, List.flatMap_append, List.flatMap_singleton, List.length_append]
  omega

theorem short_receive (hi : w.Inv price) (hw : w.links.receive link = some (m, rest)) (h : w.Short env) :
    (w.receive env now link m rest).Short env := by
  have hle : (onEvent env now (w.handler.handleMessage env.upper m).2).1.length ≤
      ((deliveryOf now m).flatMap env.answers).length := length_onEvent_le hi hw
  have hlt : w.quotes.length < (w.delivered.flatMap env.answers).length := h
  show (w.quotes ++ _).length < ((w.delivered ++ deliveryOf now m).flatMap env.answers).length
  rw [List.flatMap_append, List.length_append, List.length_append]
  omega

theorem step_deliver (hs : w.step env price inpBatchSize (.deliver link now) = some w') :
    ∃ m rest, w.links.receive link = some (m, rest) ∧ w' = w.receive env now link m rest := by
  simp only [step] at hs
  split at hs
  · cases hs
  · rename_i m rest hw
    split_ifs at hs
    cases hs
    exact ⟨m, rest, hw, rfl⟩

theorem step_connect (hs : w.step env price inpBatchSize .connect = some w') :
    w' = { w with links := w.links.connect } := by
  simp only [step] at hs
  split_ifs at hs
  exact (Option.some.inj hs).symm

/-- **What a step does** to quotes and arrivals: nothing, or it reads a message. -/
theorem step_cases {e : DeliveryEvent} (hs : w.step env price inpBatchSize e = some w') :
    (w'.quotes = w.quotes ∧ w'.delivered = w.delivered ∧ w.Timely e) ∨
      ∃ link now m rest, e = .deliver link now ∧ w.links.receive link = some (m, rest) ∧
        w' = w.receive env now link m rest := by
  cases e with
  | service symbol event =>
    obtain ⟨sw, -, rfl⟩ := Option.map_eq_some_iff.mp hs
    exact .inl ⟨rfl, rfl, trivial⟩
  | other m =>
    cases m with
    | ticks batch => cases hs
    | _ =>
      cases hs
      exact .inl ⟨rfl, rfl, trivial⟩
  | connect =>
    rw [step_connect hs]
    exact .inl ⟨rfl, rfl, trivial⟩
  | deliver link now =>
    obtain ⟨m, rest, hw, rfl⟩ := step_deliver hs
    exact .inr ⟨link, now, m, rest, rfl, hw, rfl⟩
  | _ =>
    cases hs
    exact .inl ⟨rfl, rfl, trivial⟩

/-- A message without ticks keeps the invariant. -/
theorem Inv.send_other (hi : w.Inv price) (hm : ∀ batch, m ≠ .ticks batch) :
    Inv price { w with links := w.links.send [m] } := by
  refine ⟨hi.sent, fun symbol => ?_, hi.adapter⟩
  have hnone : batchesFor symbol [m] = [] := by
    cases m with
    | ticks batch => exact absurd rfl (hm batch)
    | _ => rfl
  refine (((w.links.messages_send_sublist [m]).filterMap _).append_left _).subperm.trans ?_
  show (w.deliveredFor symbol ++ batchesFor symbol (w.links.messages ++ [m])).Subperm _
  rw [batchesFor_append, hnone, List.append_nil]
  exact hi.once symbol

theorem step_inv {e : DeliveryEvent} (hi : w.Inv price) (hs : w.step env price inpBatchSize e = some w') :
    w'.Inv price := by
  cases e with
  | service symbol event => exact serviceStep_inv hi hs
  | other m =>
    cases m with
    | ticks batch => cases hs
    | _ =>
      cases hs
      exact hi.send_other fun batch h => by cases h
  | connect =>
    rw [step_connect hs]
    exact hi.lose w.links.connect (List.Sublist.refl _)
  | disconnect =>
    cases hs
    exact hi.lose w.links.disconnect (List.Sublist.refl _)
  | lose i =>
    cases hs
    exact hi.lose _ (w.links.messages_lose_sublist i)
  | startGateway =>
    cases hs
    exact ⟨hi.sent, hi.once, hi.adapter⟩
  | stopGateway =>
    cases hs
    exact hi.lose w.links.stop (List.nil_sublist _)
  | deliver link now =>
    obtain ⟨m, rest, hw, rfl⟩ := step_deliver hs
    exact receive_inv hi hw

theorem init_inv {history : String → List (MqlTick ℚ)} (hh : ∀ symbol, Sorted MqlTick.timeMsc (history symbol)) :
    (init history).Inv price where
  sent symbol := sentInv_init (hh symbol)
  once _ := List.nil_subperm
  adapter _ := adapterInv_init

/-- **The quotes are those of what arrived** exactly when every batch is read in time. -/
theorem answered_iff {es : List DeliveryEvent} (hi : w.Inv price) (h : w.Answered env)
    (hr : run (step env price inpBatchSize) w es = some w') (ha : ∀ d ∈ w'.delivered, env.Accepts d) :
    w'.Answered env ↔ Every (step env price inpBatchSize) Timely w es := by
  refine every_iff_last (A := fun w => ∀ d ∈ w.delivered, env.Accepts d) (I := Answered env) (J := Inv price)
    (B := Short env) (fun s e s' hi hs => step_inv hi hs) (fun s e s' hs ha => ?_) (fun s e s' hi h ha ht hs => ?_)
    (fun s e s' hi h ht hs => ?_) (fun s e s' hi h hs => ?_) (fun s hshort h => ?_) hi h hr ha
  · rcases step_cases hs with ⟨-, hd, -⟩ | ⟨link, now, m, rest, -, -, rfl⟩
    · rwa [hd] at ha
    · exact fun d hd => ha d (List.mem_append_left _ hd)
  · rcases step_cases hs with ⟨hq, hd, -⟩ | ⟨link, now, m, rest, rfl, hw, rfl⟩
    · rw [Answered, hq, hd]
      exact h
    · exact answered_receive hi hw h ht ha
  · rcases step_cases hs with ⟨-, -, htimely⟩ | ⟨link, now, m, rest, rfl, hw, rfl⟩
    · exact absurd htimely ht
    · exact short_of_not_timely hi hw h ht
  · rcases step_cases hs with ⟨hq, hd, -⟩ | ⟨link, now, m, rest, rfl, hw, rfl⟩
    · rw [Short, hq, hd]
      exact h
    · exact short_receive hi hw h
  · have hlen := congrArg List.length h
    rw [List.length_map] at hlen
    exact absurd hlen hshort.ne

end DeliveryWorld

/-- **The dedup is transparent** to the Service's export loop exactly in the runs in which no batch is overtaken by a
later one: there the quotes are those of the ticks with positive prices that arrived, in order. In every run what
arrived of a symbol was sent by its exports, each batch once. -/
theorem dedup_transparent_iff (env : FeedEnv) (price : ℚ → ℚ) (inpBatchSize : ℕ) (history : String → List (MqlTick ℚ))
    (hh : ∀ symbol, Sorted MqlTick.timeMsc (history symbol)) (es : List DeliveryEvent) (w : DeliveryWorld)
    (hr : run (DeliveryWorld.step env price inpBatchSize) (DeliveryWorld.init history) es = some w)
    (ha : ∀ d ∈ w.delivered, env.Accepts d) :
    (w.quotes.map some = w.delivered.flatMap env.answers ↔
      Every (DeliveryWorld.step env price inpBatchSize) DeliveryWorld.Timely (DeliveryWorld.init history) es) ∧
    ∀ symbol, (w.deliveredFor symbol).Subperm ((w.service symbol).sent.map (wireBatch price symbol)) := by
  have hinit : (DeliveryWorld.init history).Inv price := DeliveryWorld.init_inv hh
  have hi : w.Inv price := run_inv (fun _ _ _ => DeliveryWorld.step_inv) hinit hr
  exact ⟨DeliveryWorld.answered_iff hinit rfl hr ha,
    fun symbol => (List.sublist_append_left _ _).subperm.trans (hi.once symbol)⟩

/-- An instrument is cached for every symbol. -/
def cachedFeedEnv : FeedEnv where
  upper := .ascii
  instrument := fun _ => some eurusd
  newQuote := fun _ => .ok ()

/-- A poll that finds the terminal and the connection working. -/
def goodPoll : ExportEvent ℚ :=
  .poll { latest := some ⟨1000, 1, 2, 0, 0, 6⟩, timeCurrent := 1, copyOk := true, sendOk := true }

/-- A session of two symbols with four batches: the first has a tick without a bid, the second is lost, and before the
last the gateway is restarted. -/
def fourBatches : List DeliveryEvent :=
  [.startGateway, .connect, .service "EURUSD" goodPoll, .service "USDJPY" goodPoll,
    .service "EURUSD" (.arrive ⟨1001, 1, 2, 0, 0, 6⟩), .service "EURUSD" (.arrive ⟨1001, 0, 2, 0, 0, 6⟩),
    .service "EURUSD" goodPoll, .service "USDJPY" (.arrive ⟨1001, 1, 2, 0, 0, 6⟩), .service "USDJPY" goodPoll,
    .deliver 1 5, .deliver 1 5,
    .service "EURUSD" (.arrive ⟨1002, 1, 2, 0, 0, 6⟩), .service "EURUSD" goodPoll, .lose 0,
    .stopGateway, .startGateway, .connect,
    .service "EURUSD" (.arrive ⟨1003, 1, 2, 0, 0, 6⟩), .service "EURUSD" goodPoll, .deliver 2 7]

/-- Three of its ticks arrive with both prices, and three quotes come out. -/
theorem four_batches_transparent : ∃ w,
    run (DeliveryWorld.step cachedFeedEnv id 100) (DeliveryWorld.init fun _ => []) fourBatches = some w ∧
      w.quotes.map some = w.delivered.flatMap cachedFeedEnv.answers ∧ w.quotes.length = 3 := by
  refine ⟨_, rfl, (dedup_transparent_iff cachedFeedEnv id 100 (fun _ => []) (fun _ => List.Pairwise.nil) fourBatches _
    rfl ?_).1.mpr (by decide +kernel), rfl⟩
  -- the batches that arrive have one tick with positive prices each, of 1 and 2
  intro d hd
  refine ⟨eurusd, rfl, fun t ht hbid _ => ?_⟩
  rcases hd with _ | ⟨_, _ | ⟨_, _ | ⟨_, ⟨⟩⟩⟩⟩
  · rcases ht with _ | ⟨_, _ | ⟨_, ⟨⟩⟩⟩
    · exact ⟨1, 2, 0, rfl, rfl, rfl, rfl⟩
    · exact absurd hbid (by decide)
  · rcases ht with _ | ⟨_, ⟨⟩⟩
    exact ⟨1, 2, 0, rfl, rfl, rfl, rfl⟩
  · rcases ht with _ | ⟨_, ⟨⟩⟩
    exact ⟨1, 2, 0, rfl, rfl, rfl, rfl⟩

/-- A batch waits on the first connection, whose handler is held up, while the Service connects again and the next
batch is read; then the first is. -/
def overtakenBatch : List DeliveryEvent :=
  [.startGateway, .connect, .service "EURUSD" goodPoll, .service "EURUSD" (.arrive ⟨1001, 1, 2, 0, 0, 6⟩),
    .service "EURUSD" goodPoll, .disconnect, .connect, .service "EURUSD" (.arrive ⟨1002, 1, 2, 0, 0, 6⟩),
    .service "EURUSD" goodPoll, .deliver 2 5, .deliver 1 7]

/-- **A valid tick is dropped**: two ticks with both prices arrive, and one quote comes out. -/
theorem overtaken_batch_dropped : ∃ w,
    run (DeliveryWorld.step cachedFeedEnv id 100) (DeliveryWorld.init fun _ => []) overtakenBatch = some w ∧
      (w.delivered.flatMap cachedFeedEnv.answers).length = 2 ∧ w.quotes.length = 1 ∧
      w.quotes.map some ≠ w.delivered.flatMap cachedFeedEnv.answers := by
  refine ⟨_, rfl, rfl, rfl, fun h => ?_⟩
  have hlen := congrArg List.length h
  cases hlen

end NautilusMt5
