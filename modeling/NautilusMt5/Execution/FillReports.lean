import NautilusMt5.Execution.MassStatus

/-!
# Fill reports (`execution.py`, `client/account.py`)

`generate_fill_reports` makes a report of every row of `history_deals_get` that passes the filters, has a volume and an
instrument in the cache. It reads `type` for the side only: what is not a BUY is a SELL, also a deal that is no trade;
and a row whose values do not convert raises out of the loop.

`fill_reports_iff`: the reports are those of the trades, one for each and in order, just when every row is clean: its
values convert as far as the loop reads them, and it is a BUY or a SELL if it passes the filters.
-/

namespace NautilusMt5

open Py

/-- DEAL_TYPE_SELL. -/
def dealTypeSell : ℤ := 1

/-- The filters of a `GenerateFillReports` command. -/
structure FillQuery where
  instrumentId : Option InstrumentId := none
  venueOrderId : Option String := none
  deriving DecidableEq, Repr

def FillQuery.AsksInstrument (q : FillQuery) (id : InstrumentId) : Prop :=
  q.instrumentId = none ∨ q.instrumentId = some id

def FillQuery.AsksOrder (q : FillQuery) (order : ℤ) : Prop :=
  q.venueOrderId = none ∨ q.venueOrderId = some (toString order)

/-- The side of a trade. -/
inductive TradeSide : ℤ → OrderSide → Prop
  | buy : TradeSide dealTypeBuy .buy
  | sell : TradeSide dealTypeSell .sell

/-- The values that a report is made of. -/
structure DealValues where
  type : ℤ
  price : ℚ
  ticket : ℤ
  commission : ℚ
  time : ℤ
  timeMsc : ℤ
  lastQty : ℚ
  lastPx : ℚ
  deriving DecidableEq, Repr

namespace DealRow

/-- The instrument id of the deal's symbol. -/
def instrumentId (deal : DealRow) : InstrumentId := ⟨deal.symbol.getD "", "METATRADER_5"⟩

/-- The deal of the volume and the order passes the filters. -/
structure Passes (q : FillQuery) (deal : DealRow) (volume : ℚ) (order : ℤ) : Prop where
  symbol : deal.symbol.getD "" ≠ ""
  volume_eq : deal.volume.getD 0 = .ok volume
  volume_ne : volume ≠ 0
  instrument : q.AsksInstrument deal.instrumentId
  order_eq : deal.order.getD 0 = .ok order
  order : q.AsksOrder order

/-- The other values of the deal, read and put on the grids of the instrument. -/
structure Reads (deal : DealRow) (instrument : Instrument) (volume : ℚ) (v : DealValues) : Prop where
  type : deal.type.getD 0 = .ok v.type
  price : deal.price.getD 0 = .ok v.price
  ticket : deal.ticket.getD 0 = .ok v.ticket
  commission : deal.commission.getD 0 = .ok v.commission
  time : deal.time.getD 0 = .ok v.time
  timeMsc : deal.timeMsc.getD (v.time * 1000) = .ok v.timeMsc
  lastQty : instrument.makeQty volume = .ok v.lastQty
  lastPx : instrument.makePrice v.price = .ok v.lastPx

/-- The report of a deal of the side. -/
def report (env : ReportEnv) (deal : DealRow) (instrument : Instrument) (order : ℤ) (side : OrderSide)
    (v : DealValues) : FillReport where
  accountId := env.accountId
  instrumentId := deal.instrumentId
  venueOrderId := toString order
  tradeId := toString v.ticket
  orderSide := side
  lastQty := v.lastQty
  lastPx := v.lastPx
  commission := |v.commission|
  currency := instrument.quoteCurrency
  tsEvent := v.timeMsc * 1000000

/-- **The report of a trade**: a BUY or a SELL with a volume that passes the filters, with its own side and values. -/
def TradeReport (env : ReportEnv) (q : FillQuery) (deal : DealRow) (r : FillReport) : Prop :=
  ∃ volume order instrument side v, deal.Passes q volume order ∧
    env.cache.instrument deal.instrumentId = some instrument ∧ deal.Reads instrument volume v ∧
    TradeSide v.type side ∧ r = deal.report env instrument order side v

/-- A trade that a report can be made of. -/
def Reportable (env : ReportEnv) (q : FillQuery) (deal : DealRow) : Prop := ∃ r, deal.TradeReport env q r

/-- The volume converts; and the order, if there are a symbol, a volume and an instrument that is asked for; and what
passes the filters is a BUY or a SELL whose values convert. -/
def Clean (env : ReportEnv) (q : FillQuery) (deal : DealRow) : Prop :=
  ∃ volume, deal.volume.getD 0 = .ok volume ∧
    (deal.symbol.getD "" ≠ "" → volume ≠ 0 → q.AsksInstrument deal.instrumentId →
      ∃ order, deal.order.getD 0 = .ok order ∧ (q.AsksOrder order →
        ∀ instrument, env.cache.instrument deal.instrumentId = some instrument →
          ∃ v, deal.Reads instrument volume v ∧ (v.type = dealTypeBuy ∨ v.type = dealTypeSell)))

end DealRow

open Classical in
/-- The reports are those of the trades, one for each and in order. -/
def FillsReported (env : ReportEnv) (q : FillQuery) (deals : Fetched DealRow) : Prop :=
  ∃ reports, generateFillReports env q.instrumentId q.venueOrderId deals = .ok reports ∧
    List.Forall₂ (fun deal r => deal.TradeReport env q r)
      (deals.allRaw.filter fun deal => decide (deal.Reportable env q)) reports

variable {env : ReportEnv} {q : FillQuery} {deal : DealRow} {volume : ℚ} {order : ℤ} {instrument : Instrument}

/-! ## One deal -/

theorem mt5SymbolToInstrumentId_deal (h : deal.symbol.getD "" ≠ "") :
    mt5SymbolToInstrumentId (deal.symbol.getD "") = .ok deal.instrumentId := if_neg h

theorem fillReport_of_volume_error {e : Error} (h : deal.volume.getD 0 = .error e) :
    fillReport env q.instrumentId q.venueOrderId deal = .error e := by
  rw [fillReport, h]
  rfl

/-- A deal without a symbol or a volume is skipped. -/
theorem fillReport_of_skipped (hv : deal.volume.getD 0 = .ok volume) (h : deal.symbol.getD "" = "" ∨ volume = 0) :
    fillReport env q.instrumentId q.venueOrderId deal = .ok [] := by
  rw [fillReport, hv]
  simp only [bind, Except.bind, if_pos h]
  rfl

theorem asksInstrument_iff (q : FillQuery) (id : InstrumentId) :
    (q.instrumentId ≠ none ∧ q.instrumentId ≠ some id) ↔ ¬ q.AsksInstrument id := not_or.symm

theorem asksOrder_iff (q : FillQuery) (order : ℤ) :
    (q.venueOrderId ≠ none ∧ q.venueOrderId ≠ some (toString order)) ↔ ¬ q.AsksOrder order := not_or.symm

/-- A deal of another instrument is skipped. -/
theorem fillReport_of_other_instrument (hv : deal.volume.getD 0 = .ok volume) (hs : deal.symbol.getD "" ≠ "")
    (hne : volume ≠ 0) (h : ¬ q.AsksInstrument deal.instrumentId) :
    fillReport env q.instrumentId q.venueOrderId deal = .ok [] := by
  rw [fillReport, hv]
  simp only [bind, Except.bind, if_neg (not_or.mpr ⟨hs, hne⟩), mt5SymbolToInstrumentId_deal hs,
    if_pos ((asksInstrument_iff q _).mpr h)]
  rfl

theorem fillReport_of_order_error {e : Error} (hv : deal.volume.getD 0 = .ok volume)
    (hs : deal.symbol.getD "" ≠ "") (hne : volume ≠ 0) (ha : q.AsksInstrument deal.instrumentId)
    (h : deal.order.getD 0 = .error e) : fillReport env q.instrumentId q.venueOrderId deal = .error e := by
  rw [fillReport, hv]
  simp only [bind, Except.bind, if_neg (not_or.mpr ⟨hs, hne⟩), mt5SymbolToInstrumentId_deal hs,
    if_neg fun hnot => (asksInstrument_iff q _).mp hnot ha, h]

/-- A deal of another order is skipped. -/
theorem fillReport_of_other_order (hv : deal.volume.getD 0 = .ok volume)
    (hs : deal.symbol.getD "" ≠ "") (hne : volume ≠ 0) (ha : q.AsksInstrument deal.instrumentId)
    (ho : deal.order.getD 0 = .ok order) (h : ¬ q.AsksOrder order) :
    fillReport env q.instrumentId q.venueOrderId deal = .ok [] := by
  rw [fillReport, hv]
  simp only [bind, Except.bind, if_neg (not_or.mpr ⟨hs, hne⟩), mt5SymbolToInstrumentId_deal hs,
    if_neg fun hnot => (asksInstrument_iff q _).mp hnot ha, ho, if_pos ((asksOrder_iff q _).mpr h)]
  rfl

namespace DealRow

/-- The side that the loop gives a deal. -/
def sideOf (type : ℤ) : OrderSide := if type = dealTypeBuy then .buy else .sell

/-- What passes the filters is read. -/
theorem Passes.fillReport_eq (h : deal.Passes q volume order)
    (hi : env.cache.instrument deal.instrumentId = some instrument) :
    fillReport env q.instrumentId q.venueOrderId deal = (do
      let type ← deal.type.getD 0
      let price ← deal.price.getD 0
      let ticket ← deal.ticket.getD 0
      let commission ← deal.commission.getD 0
      let time ← deal.time.getD 0
      let timeMsc ← deal.timeMsc.getD (time * 1000)
      let lastQty ← instrument.makeQty volume
      let lastPx ← instrument.makePrice price
      return [deal.report env instrument order (sideOf type)
        ⟨type, price, ticket, commission, time, timeMsc, lastQty, lastPx⟩]) := by
  rw [fillReport, h.volume_eq]
  simp only [bind, Except.bind, if_neg (not_or.mpr ⟨h.symbol, h.volume_ne⟩), mt5SymbolToInstrumentId_deal h.symbol,
    if_neg fun hnot => (asksInstrument_iff q _).mp hnot h.instrument, h.order_eq,
    if_neg fun hnot => (asksOrder_iff q _).mp hnot h.order, hi]
  rfl

/-- A row that passes the filters gives one report, or it raises. -/
theorem Passes.fillReport_eq_ok (h : deal.Passes q volume order)
    (hi : env.cache.instrument deal.instrumentId = some instrument) {reports : List FillReport} :
    fillReport env q.instrumentId q.venueOrderId deal = .ok reports ↔
      ∃ v, deal.Reads instrument volume v ∧ reports = [deal.report env instrument order (sideOf v.type) v] := by
  rw [h.fillReport_eq hi]
  simp only [bind_eq_ok, pure, Except.pure, Except.ok.injEq]
  constructor
  · rintro ⟨type, htype, price, hprice, ticket, hticket, commission, hcommission, time, htime, timeMsc, hmsc, lastQty,
      hqty, lastPx, hpx, rfl⟩
    exact ⟨_, ⟨htype, hprice, hticket, hcommission, htime, hmsc, hqty, hpx⟩, rfl⟩
  · rintro ⟨v, hv, rfl⟩
    exact ⟨_, hv.type, _, hv.price, _, hv.ticket, _, hv.commission, _, hv.time, _, hv.timeMsc, _, hv.lastQty, _,
      hv.lastPx, rfl⟩

theorem sideOf_of_tradeSide {type : ℤ} {side : OrderSide} (h : TradeSide type side) : sideOf type = side := by
  cases h with
  | buy => rfl
  | sell => rfl

theorem tradeSide_iff {type : ℤ} : (∃ side, TradeSide type side) ↔ type = dealTypeBuy ∨ type = dealTypeSell := by
  constructor
  · rintro ⟨side, h⟩
    cases h with
    | buy => exact .inl rfl
    | sell => exact .inr rfl
  · rintro (rfl | rfl)
    · exact ⟨.buy, .buy⟩
    · exact ⟨.sell, .sell⟩

/-- The loop makes the report of a trade. -/
theorem TradeReport.fillReport_eq {r : FillReport} (h : deal.TradeReport env q r) :
    fillReport env q.instrumentId q.venueOrderId deal = .ok [r] := by
  obtain ⟨volume, order, instrument, side, v, hp, hi, hv, hside, rfl⟩ := h
  rw [hp.fillReport_eq_ok hi]
  exact ⟨v, hv, by rw [sideOf_of_tradeSide hside]⟩

/-- A clean row does not raise, and it gives a report only if it is a trade. -/
theorem Clean.fillReport_eq_ok (h : deal.Clean env q) (hcached : deal.symbol.getD "" ≠ "" →
    ∃ instrument, env.cache.instrument deal.instrumentId = some instrument) :
    ∃ reports, fillReport env q.instrumentId q.venueOrderId deal = .ok reports ∧
      (reports ≠ [] → deal.Reportable env q) := by
  obtain ⟨volume, hv, hrest⟩ := h
  by_cases hs : deal.symbol.getD "" = ""
  · exact ⟨[], fillReport_of_skipped hv (.inl hs), fun hne => absurd rfl hne⟩
  by_cases hne : volume = 0
  · exact ⟨[], fillReport_of_skipped hv (.inr hne), fun hne => absurd rfl hne⟩
  by_cases ha : q.AsksInstrument deal.instrumentId
  swap
  · exact ⟨[], fillReport_of_other_instrument hv hs hne ha, fun hne => absurd rfl hne⟩
  obtain ⟨order, ho, hvalues⟩ := hrest hs hne ha
  by_cases hq : q.AsksOrder order
  swap
  · exact ⟨[], fillReport_of_other_order hv hs hne ha ho hq, fun hne => absurd rfl hne⟩
  obtain ⟨instrument, hi⟩ := hcached hs
  obtain ⟨v, hreads, htype⟩ := hvalues hq instrument hi
  obtain ⟨side, hside⟩ := tradeSide_iff.mpr htype
  have hp : deal.Passes q volume order := ⟨hs, hv, hne, ha, ho, hq⟩
  exact ⟨_, (hp.fillReport_eq_ok hi).mpr ⟨v, hreads, rfl⟩, fun _ =>
    ⟨_, volume, order, instrument, side, v, hp, hi, hreads, hside, rfl⟩⟩

/-- A row that does not raise, and is a trade if it gives a report, is clean. -/
theorem clean_of_fillReport {reports : List FillReport}
    (h : fillReport env q.instrumentId q.venueOrderId deal = .ok reports)
    (htrade : reports ≠ [] → deal.Reportable env q) : deal.Clean env q := by
  cases hv : deal.volume.getD 0 with
  | error e =>
    rw [fillReport_of_volume_error hv] at h
    cases h
  | ok volume =>
    refine ⟨volume, hv, fun hs hne ha => ?_⟩
    cases ho : deal.order.getD 0 with
    | error e =>
      rw [fillReport_of_order_error hv hs hne ha ho] at h
      cases h
    | ok order =>
      refine ⟨order, rfl, fun hq instrument hi => ?_⟩
      have hp : deal.Passes q volume order := ⟨hs, hv, hne, ha, ho, hq⟩
      obtain ⟨v, hreads, rfl⟩ := (hp.fillReport_eq_ok hi).mp h
      refine ⟨v, hreads, ?_⟩
      obtain ⟨r, volume', order', instrument', side, v', -, -, hreads', hside, -⟩ := htrade (List.cons_ne_nil _ _)
      have htype : v.type = v'.type := Except.ok.inj (hreads.type.symm.trans hreads'.type)
      rw [htype]
      exact tradeSide_iff.mp ⟨side, hside⟩

end DealRow

/-! ## All deals -/

/-- **Fill reports correspond to trades**: with the instruments in the cache, the reports are those of the BUY and SELL
deals that pass the filters, one for each and in order, if and only if every row is clean. -/
theorem fill_reports_iff {deals : Fetched DealRow} (hcached : ∀ deal ∈ deals.allRaw, deal.symbol.getD "" ≠ "" →
    ∃ instrument, env.cache.instrument deal.instrumentId = some instrument) :
    FillsReported env q deals ↔ ∀ deal ∈ deals.allRaw, deal.Clean env q := by
  classical
  have hitem : ∀ deal ∈ deals.allRaw, deal.Reportable env q →
      ∃ r, fillReport env q.instrumentId q.venueOrderId deal = .ok [r] ∧ deal.TradeReport env q r :=
    fun deal _ ⟨r, hr⟩ => ⟨r, hr.fillReport_eq, hr⟩
  unfold FillsReported generateFillReports
  rw [Collect.collect_matches_iff hitem]
  refine forall₂_congr fun deal hdeal => ⟨?_, fun hclean => hclean.fillReport_eq_ok (hcached deal hdeal)⟩
  rintro ⟨reports, hreports, htrade⟩
  exact DealRow.clean_of_fillReport hreports htrade

/-- The instruments of the cache are EURUSD. -/
def eurusdEnv : ReportEnv where
  cache := { instrument := fun id => if id = eurusd.id then some eurusd else none, order := fun _ => none }
  accountId := "METATRADER_5-1"
  find := fun _ => .ok none

/-- A row of EURUSD with a volume of one. -/
def eurusdDeal (type ticket : ℤ) : DealRow where
  symbol := some "EURUSD"
  volume := some (.ok 1)
  order := some (.ok 7)
  type := some (.ok type)
  price := some (.ok 2)
  ticket := some (.ok ticket)
  commission := some (.ok (-3))
  timeMsc := some (.ok 1000)

theorem cached_eurusdDeal (type ticket : ℤ) :
    eurusdEnv.cache.instrument (eurusdDeal type ticket).instrumentId = some eurusd := rfl

theorem clean_eurusdDeal (q : FillQuery) {type : ℤ} (ticket : ℤ) (h : type = dealTypeBuy ∨ type = dealTypeSell) :
    (eurusdDeal type ticket).Clean eurusdEnv q := by
  refine ⟨1, rfl, fun _ _ _ => ⟨7, rfl, fun _ instrument hi => ?_⟩⟩
  rw [cached_eurusdDeal, Option.some.injEq] at hi
  subst hi
  exact ⟨⟨type, 2, ticket, -3, 0, 1000, 1, 2⟩, ⟨rfl, rfl, rfl, rfl, rfl, rfl, rfl, rfl⟩, h⟩

theorem eurusdDeals_reported : FillsReported eurusdEnv { venueOrderId := some "7" }
    (.rows [eurusdDeal dealTypeBuy 1, {}, eurusdDeal dealTypeSell 2]) := by
  refine (fill_reports_iff fun deal hdeal hs => ?_).mpr fun deal hdeal => ?_
  · simp only [Fetched.allRaw, List.mem_cons, List.not_mem_nil, or_false] at hdeal
    rcases hdeal with rfl | rfl | rfl
    · exact ⟨eurusd, rfl⟩
    · exact absurd rfl hs
    · exact ⟨eurusd, rfl⟩
  · simp only [Fetched.allRaw, List.mem_cons, List.not_mem_nil, or_false] at hdeal
    rcases hdeal with rfl | rfl | rfl
    · exact clean_eurusdDeal _ 1 (.inl rfl)
    · exact ⟨0, rfl, fun hs => absurd rfl hs⟩
    · exact clean_eurusdDeal _ 2 (.inr rfl)

/-- DEAL_TYPE_BUY_CANCELED. -/
def dealTypeBuyCanceled : ℤ := 13

/-- A row whose price is `None`. -/
def noPriceDeal : DealRow :=
  { eurusdDeal dealTypeSell 2 with price := some (.error (.typeError "float() argument must be a string")) }

/-- A BUY that was canceled is reported as a SELL, and a row without a price takes the reports of the others with it. -/
theorem canceledDeal_reported : (∃ r, generateFillReports eurusdEnv none none
    (.rows [eurusdDeal dealTypeBuyCanceled 1]) = .ok [r] ∧ r.orderSide = .sell) ∧
      ¬ FillsReported eurusdEnv {} (.rows [eurusdDeal dealTypeBuyCanceled 1]) ∧
      ¬ FillsReported eurusdEnv {} (.rows [eurusdDeal dealTypeBuy 1, noPriceDeal]) := by
  refine ⟨⟨_, rfl, rfl⟩, ?_, ?_⟩
  · rintro ⟨reports, hreports, hmatch⟩
    have hnot : ¬ (eurusdDeal dealTypeBuyCanceled 1).Reportable eurusdEnv {} := by
      rintro ⟨r, volume, order, instrument, side, v, -, -, hreads, hside, -⟩
      have htype : dealTypeBuyCanceled = v.type := Except.ok.inj hreads.type
      rcases DealRow.tradeSide_iff.mp ⟨side, hside⟩ with hbuy | hsell
      · exact absurd (htype.trans hbuy) (by decide)
      · exact absurd (htype.trans hsell) (by decide)
    have hlength := hmatch.length_eq
    rw [← Except.ok.inj hreports] at hlength
    simp [Fetched.allRaw, hnot] at hlength
  · rintro ⟨reports, hreports, -⟩
    cases hreports

end NautilusMt5
