import NautilusMt5.Execution.StatusQuery
import NautilusMt5.Execution.Submit

/-!
# From a placed order to its report

`emits_submitOrder` is the request that a submission sends; `storedRow` is the row that the broker keeps of it, and
`report_of_stored` the report that is made of that row. `round_trip_iff` says for which pending orders the report has
the side, type, quantity, prices and time in force of the order.

The written order has the trigger of a stop order in `price` and the limit price of a stop limit order in `stoplimit`;
the report reads `price_open` as the price, `price_stoplimit` not at all, and has a trigger price of zero.
-/

namespace NautilusMt5

open Py

/-! ## The request of a submission -/

/-- `req` is what `place_order` writes for the order. -/
def Written (env : ExecEnv) (order : Order) (req : PlaceRequest) : Prop :=
  Supported order.orderType order.timeInForce ∧
    ∃ instrument symbol action mt5Type, env.cache.instrument order.instrumentId = some instrument ∧
      instrument.symbolInfo = some symbol ∧
      mapOrderTypeAndAction order.orderType order.side = .ok (action, mt5Type) ∧
      req = placeRequest { writeOrder env.accountId symbol action mt5Type order with
        positionTicket := hedgeTicket env.bridge order.side }

section Request

variable {env : ExecEnv} {order : Order}

theorem transform_eq_ok {accountId : String} {instrument : Option Instrument} {o : MT5Order}
    (h : transformOrderToMt5Order accountId order instrument = .ok o) :
    ∃ i symbol action mt5Type, instrument = some i ∧ i.symbolInfo = some symbol ∧
      mapOrderTypeAndAction order.orderType order.side = .ok (action, mt5Type) ∧
      o = writeOrder accountId symbol action mt5Type order := by
  simp only [transformOrderToMt5Order, bind_eq_ok] at h
  obtain ⟨symbol, hs, ⟨action, mt5Type⟩, hm, ho⟩ := h
  cases instrument with
  | none => cases hs
  | some i =>
    rw [instrumentSymbol] at hs
    cases hi : i.symbolInfo with
    | none =>
      rw [hi] at hs
      cases hs
    | some symbol' =>
      rw [hi] at hs
      cases hs
      exact ⟨i, symbol, action, mt5Type, rfl, hi, hm, (Except.ok.inj ho).symm⟩

/-- The order id and the tag of the reference are not in the request. -/
theorem placeRequest_tagOrderRef (o : MT5Order) (orderId : ℤ) (ticket : Option ℤ) :
    placeRequest (tagOrderRef { o with orderId := orderId, positionTicket := ticket }) =
      placeRequest { o with positionTicket := ticket } := rfl

theorem mem_placeSent {bridge : Bridge} {o : MT5Order} {req : PlaceRequest} (h : .place req ∈ placeSent bridge o) :
    req = placeRequest (tagOrderRef o) := by
  unfold placeSent at h
  split at h
  · exact absurd h List.not_mem_nil
  · split at h
    · exact Sent.place.inj (List.mem_singleton.mp h)
    · cases List.mem_singleton.mp h

/-- A request that is placed is the one written for the order. -/
def PlacesWritten (env : ExecEnv) (order : Order) (e : Effect) : Prop :=
  ∀ req, e = .send (.place req) → Written env order req

theorem emits_sendOrder (env : ExecEnv) (order : Order) :
    Method.Emits (PlacesWritten env order) (sendOrder env order) := by
  apply Method.emits_ofExcept_bind
  intro u hv
  apply Method.emits_ofExcept_bind
  intro o ho
  apply Method.emits_bind
  · apply Method.emits_via
    intro c w hw
    rw [run_nextOrderId] at hw
    exact absurd hw List.not_mem_nil
  · -- the only request: `place_order` of the written order
    intro orderId
    apply Method.emits_via
    intro c w hw req hreq
    rw [run_placeOrder] at hw
    cases hreq
    obtain ⟨i, symbol, action, mt5Type, hi, hs, hm, rfl⟩ := transform_eq_ok ho
    refine ⟨supported_of_validate hv, i, symbol, action, mt5Type, hi, hs, hm, ?_⟩
    rw [mem_placeSent hw, placeRequest_tagOrderRef]

/-- **What a submission places** is the request written for the order. -/
theorem emits_submitOrder (env : ExecEnv) (order : Order) :
    Method.Emits (PlacesWritten env order) (submitOrder env order) := by
  apply emits_submitOrder_of _ (emits_sendOrder env order)
  -- events are no requests
  intro e req hreq
  cases hreq

theorem written_of_sent {c : OrderClient} {req : PlaceRequest}
    (h : .place req ∈ sentOf ((submitOrder env order).run c).emitted) : Written env order req := by
  obtain ⟨e, he, hs⟩ := List.mem_filterMap.mp h
  cases e with
  | event x => cases hs
  | send sent =>
    cases hs
    exact emits_submitOrder env order c _ he req rfl

end Request

/-! ## The row that the broker keeps -/

/-- The `orders_get` row of a placed request: `price_open` is the price of the request, `price_stoplimit` its
`stoplimit`, and nothing was executed yet. -/
def storedRow (ticket state : ℤ) (req : PlaceRequest) : OrderDict where
  ticket := some (.ok ticket)
  symbol := some req.symbol
  volumeInitial := some (.ok req.volume)
  volumeCurrent := some (.ok req.volume)
  priceOpen := some (.ok req.price)
  priceStoplimit := some (.ok (req.stoplimit.getD 0))
  type := some (.ok req.type)
  typeTime := some (.ok req.typeTime)
  typeFilling := some (.ok req.typeFilling)
  state := some (.ok state)

/-- The row as `get_open_orders` reads it; a state of zero is read as 1. -/
def readBack (accountId : String) (ticket state : ℤ) (req : PlaceRequest) : MT5Order where
  orderId := ticket
  symbol := req.symbol
  volume := req.volume
  price := req.price
  type := req.type
  typeTime := req.typeTime
  typeFilling := req.typeFilling
  state := if state = 0 then 1 else state
  account := accountId

theorem getOpenOrders_stored {accountId : String} {ticket state : ℤ} (req : PlaceRequest) (ht : ticket ≠ 0) :
    getOpenOrders accountId (.rows [.dict (storedRow ticket state req)]) =
      .ok [.order (readBack accountId ticket state req)] := by
  have hd : decodeRow accountId (.dict (storedRow ticket state req)) =
      .ok [.order (readBack accountId ticket state req)] := by
    have hs : (DictField.orElse (some (.ok state)) none).getD 1 = .ok (if state = 0 then 1 else state) := by
      by_cases h : state = 0
      · simp [h]
      · rw [DictField.orElse_of_ne _ h, DictField.getD_some, if_neg h]
    simp only [decodeRow, decodeDict, storedRow, DictField.orElse_none, DictField.getD_orElse_none, hs]
    simp [bind, Except.bind, pure, Except.pure, ht, readBack]
  exact Collect.collect_cons_of_ok hd Collect.collect_nil

/-! ## The report of the row -/

/-- The instrument of the order is cached under the id that is made of its symbol. -/
structure ListedUnder (env : ExecEnv) (order : Order) (instrument : Instrument) (symbol : String) : Prop where
  cached : env.cache.instrument order.instrumentId = some instrument
  symbolInfo : instrument.symbolInfo = some symbol
  symbol_ne : symbol ≠ ""
  id : order.instrumentId = ⟨symbol, "METATRADER_5"⟩

/-- A pending order as Nautilus builds it: its quantity is positive, a limit order has no trigger price, a stop market
order no price. -/
structure PendingOrder (order : Order) : Prop where
  side : order.side ≠ .noOrderSide
  pending : order.orderType ∈ ([.limit, .stopMarket, .stopLimit] : List OrderType)
  quantity : 0 < order.quantity
  limit : order.orderType = .limit → order.triggerPrice = none
  stopMarket : order.orderType = .stopMarket → order.price = none

/-- The prices of the order, and zero, are on the price grid of the instrument. -/
def OnGrid (instrument : Instrument) (order : Order) : Prop :=
  ∀ p, p = order.price.getD 0 ∨ p = order.triggerPrice.getD 0 ∨ p = 0 → instrument.makePrice p = .ok p

/-- The report says of the order what it is. MT5 writes a price that an order does not have as zero. -/
def OrderStatusReport.Describes (report : OrderStatusReport) (order : Order) : Prop :=
  report.orderSide = order.side ∧ report.orderType = order.orderType ∧ report.quantity = order.quantity ∧
    report.price.getD 0 = order.price.getD 0 ∧ report.triggerPrice.getD 0 = order.triggerPrice.getD 0 ∧
    report.timeInForce = order.timeInForce

instance (report : OrderStatusReport) (order : Order) : Decidable (report.Describes order) :=
  inferInstanceAs (Decidable (_ ∧ _))

/-- Reports are made with the cache and the account of the submission. -/
def ExecEnv.reportEnv (env : ExecEnv) (find : InstrumentId → Except Error (Option Instrument)) : ReportEnv :=
  ⟨env.cache, env.accountId, find⟩

/-- The stored row of the request is read as one open order, and the report of it describes the order. -/
def RoundTrips (env : ReportEnv) (order : Order) (ticket state : ℤ) (req : PlaceRequest) : Prop :=
  ∃ o report, getOpenOrders env.accountId (.rows [.dict (storedRow ticket state req)]) = .ok [.order o] ∧
    parseMt5OrderToOrderStatusReport env (.order o) = .ok report ∧ report.Describes order

/-- The orders that the encoding keeps: no DAY order, and no stop order with a price. -/
def RoundTripKept (order : Order) : Prop :=
  order.timeInForce ≠ .day ∧
    (order.orderType = .limit ∨ order.price.getD 0 = 0 ∧ order.triggerPrice.getD 0 = 0)

section RoundTrip

variable {env : ExecEnv} {order : Order} {instrument : Instrument} {symbol : String} {ticket state : ℤ}
  {req : PlaceRequest} {find : InstrumentId → Except Error (Option Instrument)}

theorem resolveInstrument_listed (hl : ListedUnder env order instrument symbol) :
    resolveInstrument (env.reportEnv find) symbol = .ok instrument := by
  have hid : mt5SymbolToInstrumentId symbol = .ok order.instrumentId := by
    rw [mt5SymbolToInstrumentId, if_neg hl.symbol_ne, hl.id]
  have hc : (env.reportEnv find).cache.instrument order.instrumentId = some instrument := hl.cached
  simp only [resolveInstrument, hid, bind, Except.bind, hc]
  rfl

/-- The written price is one of the prices of the order, or zero. -/
theorem encodedPrice_on_grid (hg : OnGrid instrument order) :
    instrument.makePrice (encodedPrice order) = .ok (encodedPrice order) := by
  apply hg
  unfold encodedPrice
  split
  · exact .inr (.inl rfl)
  · exact .inr (.inl rfl)
  · exact .inl rfl

theorem reportPrice_on_grid (hg : OnGrid instrument order) :
    reportPrice instrument (encodedPrice order) =
      .ok (if encodedPrice order = 0 then none else some (encodedPrice order)) := by
  unfold reportPrice
  split
  · rfl
  · rw [encodedPrice_on_grid hg]
    rfl

/-- **The report of a placed order**: the written price as its price, and a trigger price of zero. -/
theorem report_of_stored (hl : ListedUnder env order instrument symbol) (hp : PendingOrder order)
    (hg : OnGrid instrument order) (hw : Written env order req) :
    ∃ report, parseMt5OrderToOrderStatusReport (env.reportEnv find) (.order (readBack env.accountId ticket state req)) =
        .ok report ∧ report.orderSide = order.side ∧ report.orderType = order.orderType ∧
      report.quantity = order.quantity ∧ report.price.getD 0 = encodedPrice order ∧
      report.triggerPrice.getD 0 = 0 ∧
      report.timeInForce = fillingToTimeInForce (mapFillingType order.timeInForce) := by
  obtain ⟨-, i, symbol', action, mt5Type, hi, hs, hm, rfl⟩ := hw
  rw [hl.cached] at hi
  cases hi
  rw [hl.symbolInfo] at hs
  cases hs
  have hr : Reportable (env.reportEnv find) (readBack env.accountId ticket state (placeRequest
      { writeOrder env.accountId symbol action mt5Type order with
        positionTicket := hedgeTicket env.bridge order.side })) instrument
      (if encodedPrice order = 0 then none else some (encodedPrice order)) 0 :=
    { resolved := resolveInstrument_listed hl
      volume := hp.quantity
      volumeFilled := le_refl 0
      price := reportPrice_on_grid hg
      noExpiry := fun h => h.2 rfl
      triggerPrice := hg 0 (.inr (.inr rfl)) }
  refine ⟨_, parse_eq_ok_iff.mpr ⟨_, _, _, hr, rfl⟩, orderSide_of_map hp.side hm, orderType_of_map hm, rfl, ?_, rfl,
    rfl⟩
  show (if encodedPrice order = 0 then none else some (encodedPrice order)).getD 0 = encodedPrice order
  split
  · rename_i h
    exact h.symm
  · rfl

/-- The written price and a zero trigger are the prices of the order for limit orders only. -/
theorem encoded_prices_iff (hp : PendingOrder order) :
    encodedPrice order = order.price.getD 0 ∧ 0 = order.triggerPrice.getD 0 ↔
      order.orderType = .limit ∨ order.price.getD 0 = 0 ∧ order.triggerPrice.getD 0 = 0 := by
  have hpend := hp.pending
  simp only [List.mem_cons, List.not_mem_nil, or_false] at hpend
  rcases hpend with ho | ho | ho
  · have ht := hp.limit ho
    simp [encodedPrice, ho, ht]
  · have hpr := hp.stopMarket ho
    simp [encodedPrice, ho, hpr, eq_comm]
  · have he : encodedPrice order = order.triggerPrice.getD 0 := by rw [encodedPrice, ho]
    rw [he, ho]
    constructor
    · rintro ⟨h₁, h₂⟩
      exact .inr ⟨by rw [← h₁, ← h₂], h₂.symm⟩
    · rintro (h | ⟨h₁, h₂⟩)
      · cases h
      · exact ⟨by rw [h₁, h₂], h₂.symm⟩

/-- **When a placed order comes back as it was.** -/
theorem round_trip_iff {c : OrderClient} (hl : ListedUnder env order instrument symbol) (hp : PendingOrder order)
    (hg : OnGrid instrument order) (ht : ticket ≠ 0)
    (hsent : .place req ∈ sentOf ((submitOrder env order).run c).emitted) :
    RoundTrips (env.reportEnv find) order ticket state req ↔ RoundTripKept order := by
  have hw := written_of_sent hsent
  obtain ⟨report, hr, hside, htype, hqty, hprice, htrig, htif⟩ :=
    @report_of_stored env order instrument symbol ticket state req find hl hp hg hw
  have hget := @getOpenOrders_stored env.accountId ticket state req ht
  have hd : report.Describes order ↔ RoundTripKept order := by
    unfold OrderStatusReport.Describes RoundTripKept
    rw [hprice, htrig, htif, timeInForce_of_filling hw.1.2, ← encoded_prices_iff hp]
    constructor
    · rintro ⟨-, -, -, h₁, h₂, h₃⟩
      exact ⟨h₃, h₁, h₂⟩
    · rintro ⟨h₃, h₁, h₂⟩
      exact ⟨hside, htype, hqty, h₁, h₂, h₃⟩
  rw [← hd]
  constructor
  · rintro ⟨o, report', ho, hr', hd'⟩
    have ho' : [OpenOrder.order (readBack env.accountId ticket state req)] = [.order o] :=
      Except.ok.inj (hget.symm.trans ho)
    cases ho'
    rw [hr] at hr'
    cases hr'
    exact hd'
  · exact fun h => ⟨_, report, hget, hr, h⟩

end RoundTrip

theorem listedUnder_sampleEnv (order : Order) (outcome : Except Error SendResult) (h : order.instrumentId = eurusd.id) :
    ListedUnder (sampleEnv order outcome) order eurusd "EURUSD" where
  cached := by rw [h]; rfl
  symbolInfo := rfl
  symbol_ne := by decide
  id := h

/-- The request of `restingBuyLimit`. -/
def restingRequest : PlaceRequest where
  action := 5
  symbol := "EURUSD"
  volume := 1
  type := 2
  price := 95
  sl := 0
  tp := 0
  deviation := 20
  magic := 0
  comment := "NautilusOrder"
  typeTime := 0
  typeFilling := 2
  position := 0
  stoplimit := none

theorem resting_limit_round_trip :
    RoundTrips ((sampleEnv restingBuyLimit (.ok .none)).reportEnv fun _ => .ok none) restingBuyLimit 77 1
      restingRequest := by
  have hp : PendingOrder restingBuyLimit := ⟨by decide, by decide, by decide +kernel, by decide, by decide⟩
  exact (round_trip_iff (c := freshClient) (listedUnder_sampleEnv _ _ rfl) hp (fun _ _ => rfl) (by decide)
    (by decide +kernel)).mpr ⟨by decide, .inl rfl⟩

/-- The request of `buyStopLimit`: the trigger as its price, the limit price as its `stoplimit`. -/
def stopLimitRequest : PlaceRequest :=
  { restingRequest with type := 6, price := 100, stoplimit := some 105 }

/-- **A stop limit order comes back garbled**: placed to buy at 105 once 100 is reached, it is reported with the price
100 and the trigger price 0. -/
theorem stop_limit_report_garbled :
    ∃ env order find, ListedUnder env order eurusd "EURUSD" ∧ PendingOrder order ∧ OnGrid eurusd order ∧
      .place stopLimitRequest ∈ sentOf ((submitOrder env order).run freshClient).emitted ∧
      ¬ RoundTrips (env.reportEnv find) order 77 1 stopLimitRequest := by
  have hp : PendingOrder buyStopLimit := ⟨by decide, by decide, by decide +kernel, by decide, by decide⟩
  refine ⟨sampleEnv buyStopLimit (.ok .none), buyStopLimit, fun _ => .ok none, listedUnder_sampleEnv _ _ rfl, hp,
    fun _ _ => rfl, by decide +kernel, ?_⟩
  rintro ⟨o, report, ho, hr, hd⟩
  have hread : getOpenOrders "1001" (.rows [.dict (storedRow 77 1 stopLimitRequest)]) =
      .ok [.order (readBack "1001" 77 1 stopLimitRequest)] := getOpenOrders_stored _ (by decide)
  have ho' : [OpenOrder.order (readBack "1001" 77 1 stopLimitRequest)] = [.order o] :=
    Except.ok.inj (hread.symm.trans ho)
  cases ho'
  have hparsed : (parseMt5OrderToOrderStatusReport ((sampleEnv buyStopLimit (.ok .none)).reportEnv fun _ => .ok none)
      (.order (readBack "1001" 77 1 stopLimitRequest))).map OrderStatusReport.price = .ok (some 100) := by
    decide +kernel
  have hprice : report.price = some 100 := by
    rw [hr] at hparsed
    exact Except.ok.inj hparsed
  have := hd.2.2.2.1
  rw [hprice] at this
  exact absurd this (by decide +kernel)

end NautilusMt5
