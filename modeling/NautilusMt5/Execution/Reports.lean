import NautilusMt5.Client.Account
import NautilusMt5.Execution.Events
import NautilusMt5.Parsing.Instruments
import Mathlib.Algebra.Order.Group.Abs

/-!
# Order status reports (`execution.py`)

`parseMt5OrderToOrderStatusReport` reads an open order, `generateOrderStatusReport` answers a query for one order and
`generateOrderStatusReports` lists open positions and open orders. Times, the report id and the constant trigger type
of a report are left out; so is the expiry, which is `None` whenever a report is made from an `MT5Order`.

* `parse_eq_ok_iff`: which open orders a report is made of, and which report;
* `findOrder_eq_none_iff`, `findOrder_eq_some_iff`: the row that a query takes;
* `generate_eq_ok_iff`: the reports of a whole account.
-/

namespace NautilusMt5

open Py

/-! ## The code -/

structure OrderStatusReport where
  accountId : String
  instrumentId : InstrumentId
  venueOrderId : String
  clientOrderId : String
  orderSide : OrderSide
  orderType : OrderType
  timeInForce : TimeInForce
  orderStatus : OrderStatus
  quantity : ℚ
  filledQty : ℚ
  avgPx : ℚ
  price : Option ℚ
  triggerPrice : Option ℚ
  deriving DecidableEq, Repr

/-- What reports are made with; `find` is the awaited `instrument_provider.find`. -/
structure ReportEnv where
  cache : Cache
  accountId : String
  find : InstrumentId → Except Error (Option Instrument)

/-- The check of the constructor of a report: its quantity is positive. -/
def OrderStatusReport.checked (report : OrderStatusReport) : Except Error OrderStatusReport :=
  if 0 < report.quantity then .ok report else .error (.valueError "'quantity' not a positive real")

/-- `Quantity.from_str(str(volume))`, which refuses a negative volume; a zero is `Quantity.from_int(0)`. -/
def quantityOfFloat (volume : ℚ) : Except Error ℚ :=
  if volume < 0 then .error (.valueError "invalid negative quantity") else .ok volume

/-- The instrument of a symbol: the cached one, else the one that the provider finds. -/
def resolveInstrument (env : ReportEnv) (symbol : String) : Except Error Instrument := do
  let instId ← mt5SymbolToInstrumentId symbol
  match env.cache.instrument instId with
  | some instrument => return instrument
  | none =>
    match ← env.find instId with
    | some instrument => return instrument
    | none => throw (.valueError ("Instrument not found for MT5 symbol '" ++ symbol ++ "'"))

/-- The price of a report: none for a zero. -/
def reportPrice (instrument : Instrument) (price : ℚ) : Except Error (Option ℚ) :=
  if price = 0 then .ok none else (instrument.makePrice price).map some

/-- `timestring_to_timestamp` is called for an order with an expiry, and takes no integer. -/
def checkExpireTime (o : MT5Order) : Except Error Unit :=
  if (o.typeTime = orderTimeSpecified ∨ o.typeTime = orderTimeSpecifiedDay) ∧ o.expireTime ≠ 0 then
    .error (.attributeError "'int' object has no attribute 'rsplit'")
  else .ok ()

/-- PARTIALLY_FILLED by the volumes, else by the state of the order. -/
def reportStatus (o : MT5Order) : OrderStatus :=
  if o.volumeFilled < o.volume ∧ 0 < o.volumeFilled then .partiallyFilled else mapOrderStatus o.state

/-- The report of an order, from the values that may raise. -/
def orderReport (env : ReportEnv) (o : MT5Order) (instrument : Instrument) (price : Option ℚ) (triggerPrice : ℚ) :
    OrderStatusReport where
  accountId := env.accountId
  instrumentId := instrument.id
  venueOrderId := toString o.orderId
  clientOrderId := if o.orderRef = "" then toString o.orderId else o.orderRef
  orderSide := mt5OrderTypeToOrderSide o.type
  orderType := mt5OrderTypeToOrderType o.type
  timeInForce := fillingToTimeInForce o.typeFilling
  orderStatus := reportStatus o
  quantity := o.volume
  filledQty := 0
  avgPx := 0
  price := price
  triggerPrice := some triggerPrice

/-- `_parse_mt5_order_to_order_status_report`. -/
def parseMt5OrderToOrderStatusReport (env : ReportEnv) : OpenOrder → Except Error OrderStatusReport
  | .native _ _ => .error (.attributeError "'TradeOrder' object has no attribute '__dict__'")
  | .order o => do
    let instrument ← resolveInstrument env o.symbol
    let _ ← quantityOfFloat o.volume
    let _ ← quantityOfFloat o.volumeFilled
    let price ← reportPrice instrument o.price
    checkExpireTime o
    let triggerPrice ← instrument.makePrice o.triggerPrice
    (orderReport env o instrument price triggerPrice).checked

/-- The ids of a `GenerateOrderStatusReport` command. -/
structure StatusQuery where
  clientOrderId : Option String
  venueOrderId : Option String
  deriving DecidableEq, Repr

/-- The query names the order, by its reference or by its ticket. -/
def StatusQuery.Matches (q : StatusQuery) (o : MT5Order) : Prop :=
  q.clientOrderId = some o.orderRef ∨ q.venueOrderId = some (toString o.orderId)

instance (q : StatusQuery) (o : MT5Order) : Decidable (q.Matches o) := inferInstanceAs (Decidable (_ ∨ _))

/-- The loop over the open orders, up to the first that matches; a native row has neither attribute. -/
def findOrder (q : StatusQuery) : List OpenOrder → Except Error (Option MT5Order)
  | [] => .ok none
  | .native _ _ :: _ => .error (.attributeError "'TradeOrder' object has no attribute 'orderRef' or 'order_id'")
  | .order o :: os => if q.Matches o then .ok (some o) else findOrder q os

/-- The method of a query: it publishes events. -/
abbrev Query (α : Type) := Method OrderEvent Error Unit α

/-- `client_order_id.value`. -/
def clientOrderIdValue : Option String → Except Error String
  | none => .error (.attributeError "'NoneType' object has no attribute 'value'")
  | some ref => .ok ref

/-- The end of a query that found no order: a cancel for its client order id. -/
def cancelNotFound (env : ReportEnv) (q : StatusQuery) : Query (Option OrderStatusReport) := do
  let orderRef ← Method.ofExcept (clientOrderIdValue q.clientOrderId)
  Method.emitAll (onOrderStatus env.cache orderRef "Cancelled" "Not found in query")
  return none

/-- The open order that a query takes. -/
def queriedOrder (env : ReportEnv) (fetch : Fetched OrderRow) (q : StatusQuery) : Except Error (Option MT5Order) := do
  let mt5Orders ← getOpenOrders env.accountId fetch
  findOrder q mt5Orders

/-- The report of the order that was found, or the cancel. -/
def answerQuery (env : ReportEnv) (q : StatusQuery) : Option MT5Order → Query (Option OrderStatusReport)
  | some o => Method.ofExcept ((parseMt5OrderToOrderStatusReport env (.order o)).map some)
  | none => cancelNotFound env q

/-- `generate_order_status_report`. -/
def generateOrderStatusReport (env : ReportEnv) (fetch : Fetched OrderRow) (q : StatusQuery) :
    Query (Option OrderStatusReport) :=
  if q.clientOrderId = none ∧ q.venueOrderId = none then return none
  else do
    let found ← Method.ofExcept (queriedOrder env fetch q)
    answerQuery env q found

/-- The report that is inferred from an open position, none for a closed one or one without a cached instrument. -/
def positionReport (env : ReportEnv) (p : MT5Position) : Except Error (List OrderStatusReport) :=
  if p.quantity = 0 then .ok []
  else do
    let instId ← mt5SymbolToInstrumentId p.symbol
    match env.cache.instrument instId with
    | none => return []
    | some instrument =>
      let avgPx ← instrument.makePrice (p.avgCost / instrument.multiplier)
      return [{
        accountId := env.accountId
        instrumentId := instrument.id
        venueOrderId := instrument.id.symbol ++ "." ++ instrument.id.venue
        clientOrderId := instrument.id.symbol ++ "." ++ instrument.id.venue
        orderSide := if 0 < p.quantity then .buy else .sell
        orderType := .market
        timeInForce := .fok
        orderStatus := .filled
        quantity := |p.quantity|
        filledQty := |p.quantity|
        avgPx := avgPx
        price := none
        triggerPrice := none }]

/-- The report of one open order. -/
def openOrderReport (env : ReportEnv) (o : OpenOrder) : Except Error (List OrderStatusReport) :=
  (parseMt5OrderToOrderStatusReport env o).map fun report => [report]

/-- `get_open_orders` under `except RuntimeError`. -/
def openOrdersOrNone (env : ReportEnv) (fetch : Fetched OrderRow) : Except Error (List OpenOrder) :=
  match getOpenOrders env.accountId fetch with
  | .error (.runtimeError _) => .ok []
  | x => x

/-- `generate_order_status_reports`. -/
def generateOrderStatusReports (env : ReportEnv) (positions : Fetched PositionRow) (orders : Fetched OrderRow) :
    Except Error (List OrderStatusReport) := do
  match ← getPositions env.accountId positions with
  | none => return []
  | some positions =>
    let report ← Collect.collect (positionReport env) positions
    let mt5Orders ← openOrdersOrNone env orders
    let openReport ← Collect.collect (openOrderReport env) mt5Orders
    return report ++ openReport

/-! ## Which reports can be made -/

/-- Nothing raises while the report of `o` is made of `instrument`. -/
structure Reportable (env : ReportEnv) (o : MT5Order) (instrument : Instrument) (price : Option ℚ)
    (triggerPrice : ℚ) : Prop where
  resolved : resolveInstrument env o.symbol = .ok instrument
  volume : 0 < o.volume
  volumeFilled : 0 ≤ o.volumeFilled
  price : reportPrice instrument o.price = .ok price
  noExpiry : ¬ ((o.typeTime = orderTimeSpecified ∨ o.typeTime = orderTimeSpecifiedDay) ∧ o.expireTime ≠ 0)
  triggerPrice : instrument.makePrice o.triggerPrice = .ok triggerPrice

section Parse

variable {env : ReportEnv} {o : MT5Order} {instrument : Instrument} {price : Option ℚ} {triggerPrice : ℚ}

theorem quantityOfFloat_eq_ok {v w : ℚ} : quantityOfFloat v = .ok w ↔ 0 ≤ v ∧ v = w := by
  unfold quantityOfFloat
  by_cases h : v < 0
  · simp [h, not_le.mpr h]
  · simp [h, not_lt.mp h]

theorem checkExpireTime_eq_ok {u : Unit} : checkExpireTime o = .ok u ↔
    ¬ ((o.typeTime = orderTimeSpecified ∨ o.typeTime = orderTimeSpecifiedDay) ∧ o.expireTime ≠ 0) := by
  unfold checkExpireTime
  split
  · rename_i h
    simp [h]
  · rename_i h
    simp [h]

theorem OrderStatusReport.checked_eq_ok {report report' : OrderStatusReport} :
    report.checked = .ok report' ↔ 0 < report.quantity ∧ report = report' := by
  unfold OrderStatusReport.checked
  by_cases h : 0 < report.quantity
  · simp [h]
  · simp [h]

/-- **A report is made** exactly of the reportable orders, of the values that make them so. -/
theorem parse_eq_ok_iff {report : OrderStatusReport} :
    parseMt5OrderToOrderStatusReport env (.order o) = .ok report ↔ ∃ instrument price triggerPrice,
      Reportable env o instrument price triggerPrice ∧ report = orderReport env o instrument price triggerPrice := by
  simp only [parseMt5OrderToOrderStatusReport, bind_eq_ok, quantityOfFloat_eq_ok, checkExpireTime_eq_ok,
    OrderStatusReport.checked_eq_ok]
  constructor
  · rintro ⟨instrument, hi, v, -, f, ⟨hf, -⟩, price, hp, u, he, triggerPrice, ht, hv, hr⟩
    exact ⟨instrument, price, triggerPrice, ⟨hi, hv, hf, hp, he, ht⟩, hr.symm⟩
  · rintro ⟨instrument, price, triggerPrice, h, rfl⟩
    exact ⟨instrument, h.resolved, _, ⟨h.volume.le, rfl⟩, _, ⟨h.volumeFilled, rfl⟩, price, h.price, (), h.noExpiry,
      triggerPrice, h.triggerPrice, h.volume, rfl⟩

end Parse

/-! ## The row that a query takes -/

/-- The open order is an `MT5Order` that the query does not name. -/
def StatusQuery.Passes (q : StatusQuery) (x : OpenOrder) : Prop := ∃ o, x = .order o ∧ ¬ q.Matches o

/-- `o` is the first open order that the query names, and the loop gets to it. -/
def StatusQuery.FirstMatch (q : StatusQuery) (orders : List OpenOrder) (o : MT5Order) : Prop :=
  q.Matches o ∧ ∃ before after, orders = before ++ .order o :: after ∧ ∀ x ∈ before, q.Passes x

section FindOrder

variable {q : StatusQuery} {orders : List OpenOrder}

theorem findOrder_order_of_not {o : MT5Order} (h : ¬ q.Matches o) :
    findOrder q (.order o :: orders) = findOrder q orders := by rw [findOrder, if_neg h]

/-- The first match of a list is its head, or comes after a head that passes. -/
theorem firstMatch_cons {x : OpenOrder} {o : MT5Order} : q.FirstMatch (x :: orders) o ↔
    x = .order o ∧ q.Matches o ∨ q.Passes x ∧ q.FirstMatch orders o := by
  constructor
  · rintro ⟨ho, before, after, h, hb⟩
    cases before with
    | nil =>
      cases h
      exact .inl ⟨rfl, ho⟩
    | cons y before =>
      cases h
      exact .inr ⟨hb _ List.mem_cons_self, ho, before, after, rfl, fun y hy => hb y (List.mem_cons_of_mem _ hy)⟩
  · rintro (⟨rfl, ho⟩ | ⟨hx, ho, before, after, rfl, hb⟩)
    · exact ⟨ho, [], orders, rfl, fun y hy => absurd hy List.not_mem_nil⟩
    · refine ⟨ho, x :: before, after, rfl, ?_⟩
      intro y hy
      rcases List.mem_cons.mp hy with rfl | hy
      · exact hx
      · exact hb y hy

theorem passes_order {o : MT5Order} : q.Passes (.order o) ↔ ¬ q.Matches o := by
  simp [StatusQuery.Passes]

theorem not_passes_native {ticket : ℤ} {symbol : String} : ¬ q.Passes (.native ticket symbol) := by
  simp [StatusQuery.Passes]

theorem findOrder_eq_none_iff : findOrder q orders = .ok none ↔ ∀ x ∈ orders, q.Passes x := by
  induction orders with
  | nil => simp [findOrder]
  | cons x orders ih =>
    rw [List.forall_mem_cons]
    cases x with
    | native ticket symbol => simp [findOrder, not_passes_native]
    | order o =>
      by_cases hm : q.Matches o
      · simp [findOrder, hm, passes_order]
      · rw [findOrder_order_of_not hm, ih, passes_order]
        simp [hm]

theorem findOrder_eq_some_iff {o : MT5Order} : findOrder q orders = .ok (some o) ↔ q.FirstMatch orders o := by
  induction orders with
  | nil =>
    simp [findOrder, StatusQuery.FirstMatch]
  | cons x orders ih =>
    rw [firstMatch_cons]
    cases x with
    | native ticket symbol => simp [findOrder, not_passes_native]
    | order o' =>
      by_cases hm : q.Matches o'
      · rw [findOrder, if_pos hm, passes_order]
        constructor
        · intro h
          cases h
          exact .inl ⟨rfl, hm⟩
        · rintro (⟨h, -⟩ | ⟨h, -⟩)
          · cases h
            rfl
          · exact absurd hm h
      · rw [findOrder_order_of_not hm, ih, passes_order]
        constructor
        · exact fun h => .inr ⟨hm, h⟩
        · rintro (⟨h, ho⟩ | ⟨-, h⟩)
          · cases h
            exact absurd ho hm
          · exact h

end FindOrder

/-! ## What is returned for a whole account -/

/-- Nothing raises, and these open orders are reported behind the positions. -/
structure Reported (env : ReportEnv) (positions : Fetched PositionRow) (orders : Fetched OrderRow)
    (listed : List OpenOrder) : Prop where
  rows : ∀ row ∈ positions.allRaw, Collect.Fine (decodePosition env.accountId) row
  notFlat : listedPositions env.accountId positions ≠ []
  positionsFine : ∀ p ∈ listedPositions env.accountId positions, Collect.Fine (positionReport env) p
  fetched : openOrdersOrNone env orders = .ok listed
  ordersFine : ∀ o ∈ listed, Collect.Fine (openOrderReport env) o

section Reported

variable {env : ReportEnv} {positions : Fetched PositionRow} {orders : Fetched OrderRow}
  {reports : List OrderStatusReport}

/-- **What is returned**: nothing for a flat account, else the reports of the positions and of the open orders. -/
theorem generate_eq_ok_iff : generateOrderStatusReports env positions orders = .ok reports ↔
    ((∀ row ∈ positions.allRaw, Collect.Fine (decodePosition env.accountId) row) ∧
      listedPositions env.accountId positions = [] ∧ reports = []) ∨
    ∃ listed, Reported env positions orders listed ∧
      reports = Collect.salvage (positionReport env) (listedPositions env.accountId positions) ++
        Collect.salvage (openOrderReport env) listed := by
  by_cases hrows : ∀ row ∈ positions.allRaw, Collect.Fine (decodePosition env.accountId) row
  · by_cases hflat : listedPositions env.accountId positions = []
    · rw [generateOrderStatusReports, getPositions_none hrows hflat]
      constructor
      · intro h
        exact .inl ⟨hrows, hflat, (Except.ok.inj h).symm⟩
      · rintro (⟨-, -, rfl⟩ | ⟨listed, hlisted, -⟩)
        · rfl
        · exact absurd hflat hlisted.notFlat
    · rw [generateOrderStatusReports, getPositions_some hrows hflat]
      refine (bind_eq_ok (x := .ok _)).trans ?_
      simp only [Except.ok.injEq, exists_eq_left', bind_eq_ok, Collect.collect_eq_ok_iff]
      constructor
      · rintro ⟨_, ⟨hpositions, rfl⟩, listed, hfetched, _, ⟨horders, rfl⟩, h⟩
        exact .inr ⟨listed, ⟨hrows, hflat, hpositions, hfetched, horders⟩, (Except.ok.inj h).symm⟩
      · rintro (⟨-, hflat', -⟩ | ⟨listed, hlisted, rfl⟩)
        · exact absurd hflat' hflat
        · exact ⟨_, ⟨hlisted.positionsFine, rfl⟩, listed, hlisted.fetched, _, ⟨hlisted.ordersFine, rfl⟩, rfl⟩
  · obtain ⟨e, he⟩ := getPositions_error hrows
    rw [generateOrderStatusReports, he]
    constructor
    · intro h
      cases h
    · rintro (⟨hrows', -⟩ | ⟨listed, hlisted, -⟩)
      · exact absurd hrows' hrows
      · exact absurd hlisted.rows hrows

end Reported

end NautilusMt5
