import NautilusMt5.Lib.Method
import NautilusMt5.Lib.Collect
import NautilusMt5.Lib.Dict
import NautilusMt5.Parsing.Execution
import Mathlib.Algebra.Order.Ring.Rat
import Mathlib.Algebra.Field.Rat

/-!
# Orders at the bridge (`client/order.py`)

`placeOrder` and `modifyOrder` write an `MT5Order` as a request of MT5 and send it, `getOpenOrders` reads the rows of
`orders_get` back. A float is the decimal that its `repr` prints, so that `float`, `str` and `as_double` keep values.

The two requests are the pure functions `placeRequest` and `modifyRequest`; `run_placeOrder` and `run_modifyOrder`
say that they are what is sent. `decodeRow_stored` is the row of a placed order as `getOpenOrders` reads it.
-/

namespace NautilusMt5

open Py

/-! ## Orders and requests -/

/-- `models.Order`, with its defaults. `positionTicket` is not a field there: `_submit_order` may set it. -/
structure MT5Order where
  orderId : ℤ := 0
  symbol : String := ""
  orderRef : String := ""
  action : ℤ := 0
  type : ℤ := 0
  volume : ℚ := 0
  price : ℚ := 0
  triggerPrice : ℚ := 0
  sl : ℚ := 0
  tp : ℚ := 0
  typeTime : ℤ := 0
  expireTime : ℤ := 0
  typeFilling : ℤ := 0
  magic : ℤ := 0
  comment : String := ""
  position : ℤ := 0
  state : ℤ := 0
  volumeFilled : ℚ := 0
  account : String := ""
  parentId : ℤ := 0
  transmit : Bool := true
  positionTicket : Option ℤ := none
  deriving DecidableEq, Repr

/-- The request dict of `place_order`. -/
structure PlaceRequest where
  action : ℤ
  symbol : String
  volume : ℚ
  type : ℤ
  price : ℚ
  sl : ℚ
  tp : ℚ
  deviation : ℤ
  magic : ℤ
  comment : String
  typeTime : ℤ
  typeFilling : ℤ
  position : ℤ
  stoplimit : Option ℚ
  deriving DecidableEq, Repr

/-- The request dict of `modify_order`. -/
structure ModifyRequest where
  action : ℤ
  order : ℤ
  symbol : String
  volume : ℚ
  price : ℚ
  type : ℤ
  typeTime : ℤ
  typeFilling : ℤ
  stoplimit : Option ℚ
  deriving DecidableEq, Repr

/-- What leaves through `order_send`; a send method of another name gets three arguments. -/
inductive Sent
  | place (req : PlaceRequest)
  | positional (orderId : ℤ) (symbol : String) (order : MT5Order)
  | modify (req : ModifyRequest)
  deriving DecidableEq, Repr

/-- A truthy `trigger_price` is written as `stoplimit`. -/
def stoplimitOf (triggerPrice : ℚ) : Option ℚ := if triggerPrice = 0 then none else some triggerPrice

/-- The `req` of `place_order`. -/
def placeRequest (order : MT5Order) : PlaceRequest where
  action := order.action
  symbol := order.symbol
  volume := order.volume
  type := order.type
  price := order.price
  sl := order.sl
  tp := order.tp
  deviation := 20
  magic := order.magic
  comment := order.comment
  typeTime := order.typeTime
  typeFilling := order.typeFilling
  position := order.positionTicket.getD 0
  stoplimit := if order.type ∈ ([6, 7] : List ℤ) then stoplimitOf order.triggerPrice else none

/-- The `req` of `modify_order`: `stoplimit` is written whatever the type is. -/
def modifyRequest (order : MT5Order) : ModifyRequest where
  action := 7
  order := order.orderId
  symbol := order.symbol
  volume := order.volume
  price := order.price
  type := order.type
  typeTime := order.typeTime
  typeFilling := order.typeFilling
  stoplimit := stoplimitOf order.triggerPrice

theorem stoplimitOf_inj {p q : ℚ} : stoplimitOf p = stoplimitOf q ↔ p = q := by
  unfold stoplimitOf
  by_cases hp : p = 0 <;> by_cases hq : q = 0
  · simp [hp, hq]
  · simp [hp, hq, Ne.symm hq]
  · simp [hp, hq]
  · simp [hp, hq]

@[simp] theorem stoplimitOf_zero : stoplimitOf 0 = none := rfl

/-! ## The client -/

/-- The account and the client order id behind an order id. -/
structure AccountOrderRef where
  accountId : String
  orderId : String
  deriving DecidableEq, Repr

/-- The part of the client's state that orders change. -/
structure OrderClient where
  nextValidOrderId : ℤ
  orderIdToOrderRef : Dict ℤ AccountOrderRef

/-- The answer dict of `order_send`. -/
structure SendReply where
  retcode : Option ℤ := none
  order : Option ℤ := none
  deal : Option ℤ := none
  price : Option ℚ := none
  volume : Option ℚ := none
  comment : Option String := none
  deriving DecidableEq, Repr

/-- What a send gives back: a dict, `None`, or another object such as the native result of a local terminal. -/
inductive SendResult
  | dict (reply : SendReply)
  | none
  | object
  deriving DecidableEq, Repr

/-- The `order_send` attribute of the bridge: its `__name__`, and what this call of it returns or raises. -/
structure SendMethod where
  name : String := "order_send"
  outcome : Except Error SendResult

/-- An open position as the submission of a SELL reads it: the `type` of a dict is compared as it is. -/
inductive LegRow
  | dict (type : Option ℤ) (ticket : DictField ℤ)
  | object (type : DictField ℤ) (ticket : DictField ℤ)

/-- The bridge, by what its calls return or raise. -/
structure Bridge where
  reqIds : Except Error Unit
  positionsGet : Except Error (List LegRow)
  orderSend : Option SendMethod

/-- `next_order_id`. -/
def nextOrderId (bridge : Bridge) : Method Sent Error OrderClient ℤ := do
  let client ← Method.getState
  Method.modifyState fun c => { c with nextValidOrderId := c.nextValidOrderId + 1 }
  Method.ofExcept bridge.reqIds
  return client.nextValidOrderId

/-- The reference that `place_order` stores for the order. -/
def accountOrderRef (order : MT5Order) : AccountOrderRef where
  accountId := order.account
  orderId := if order.orderRef = "" then toString order.orderId else rsplitHead ':' order.orderRef

/-- The order with its id behind the reference. -/
def tagOrderRef (order : MT5Order) : MT5Order :=
  { order with
    orderRef := if order.orderRef = "" then "" else order.orderRef ++ ":" ++ toString order.orderId }

/-- `place_order`. -/
def placeOrder (bridge : Bridge) (order : MT5Order) : Method Sent Error OrderClient SendResult := do
  Method.modifyState fun c =>
    { c with orderIdToOrderRef := c.orderIdToOrderRef.set order.orderId (accountOrderRef order) }
  let order := tagOrderRef order
  match bridge.orderSend with
  | .none => return .none
  | .some send =>
    if send.name = "order_send" then Method.emitAll [.place (placeRequest order)]
    else Method.emitAll [.positional order.orderId order.symbol order]
    Method.ofExcept send.outcome

/-- `modify_order`. -/
def modifyOrder (bridge : Bridge) (order : MT5Order) : Method Sent Error OrderClient SendResult :=
  match bridge.orderSend with
  | .none => return .none
  | .some send => do
    Method.emitAll [.modify (modifyRequest order)]
    Method.ofExcept send.outcome

/-- The state after the next order id was taken. -/
def OrderClient.advance (c : OrderClient) : OrderClient := { c with nextValidOrderId := c.nextValidOrderId + 1 }

/-- The state after a placed order was remembered. -/
def OrderClient.remember (c : OrderClient) (order : MT5Order) : OrderClient :=
  { c with orderIdToOrderRef := c.orderIdToOrderRef.set order.orderId (accountOrderRef order) }

/-- What `place_order` sends. -/
def placeSent (bridge : Bridge) (order : MT5Order) : List Sent :=
  match bridge.orderSend with
  | .none => []
  | .some send =>
    if send.name = "order_send" then [.place (placeRequest (tagOrderRef order))]
    else [.positional order.orderId order.symbol (tagOrderRef order)]

/-- What `place_order` and `modify_order` return or raise. -/
def Bridge.sendOutcome (bridge : Bridge) : Except Error SendResult :=
  match bridge.orderSend with
  | .none => .ok .none
  | .some send => send.outcome

theorem run_nextOrderId (bridge : Bridge) (c : OrderClient) :
    (nextOrderId bridge).run c = ⟨[], c.advance, bridge.reqIds.map fun _ => c.nextValidOrderId⟩ := by
  rw [nextOrderId, Method.run_bind_of_ok _ (Method.run_getState c),
    Method.run_bind_of_ok _ (Method.run_modifyState _ _)]
  cases h : bridge.reqIds with
  | error e =>
    rw [Method.run_bind_of_error _ (Method.run_ofExcept _ _)]
    rfl
  | ok u =>
    rw [Method.run_bind_of_ok _ (Method.run_ofExcept _ _)]
    rfl

theorem run_placeOrder (bridge : Bridge) (order : MT5Order) (c : OrderClient) :
    (placeOrder bridge order).run c = ⟨placeSent bridge order, c.remember order, bridge.sendOutcome⟩ := by
  rw [placeOrder, Method.run_bind_of_ok _ (Method.run_modifyState _ _)]
  unfold placeSent Bridge.sendOutcome
  cases bridge.orderSend with
  | none => rfl
  | some send =>
    by_cases hn : send.name = "order_send"
    · simp only [hn, if_true]
      rw [Method.run_bind_of_ok _ (Method.run_emitAll _ _)]
      rfl
    · simp only [hn, if_false]
      rw [Method.run_bind_of_ok _ (Method.run_emitAll _ _)]
      rfl

theorem run_modifyOrder (bridge : Bridge) (order : MT5Order) (c : OrderClient) :
    (modifyOrder bridge order).run c =
      ⟨if bridge.orderSend.isSome then [.modify (modifyRequest order)] else [], c, bridge.sendOutcome⟩ := by
  unfold modifyOrder Bridge.sendOutcome
  cases bridge.orderSend with
  | none => rfl
  | some send =>
    simp only [Option.isSome_some, if_true]
    rw [Method.run_bind_of_ok _ (Method.run_emitAll _ _)]
    rfl

/-! ## Open orders -/

/-- A row of `orders_get` as a dict. `volumeInitial` and `priceStoplimit` are there, but not read. -/
structure OrderDict where
  ticket : DictField ℤ := none
  symbol : Option String := none
  volumeInitial : DictField ℚ := none
  volumeCurrent : DictField ℚ := none
  volume : DictField ℚ := none
  priceOpen : DictField ℚ := none
  price : DictField ℚ := none
  priceStoplimit : DictField ℚ := none
  type : DictField ℤ := none
  typeTime : DictField ℤ := none
  typeFilling : DictField ℤ := none
  state : DictField ℤ := none

/-- An open order as `get_open_orders` returns it. A native row (`TradeOrder` of the terminal's own package) is passed
on as it is, without the attributes of an `MT5Order`. -/
inductive OpenOrder
  | order (o : MT5Order)
  | native (ticket : ℤ) (symbol : String)
  deriving DecidableEq, Repr

/-- A row of the answer to `orders_get`. -/
inductive OrderRow
  | dict (row : OrderDict)
  | object (o : OpenOrder)

/-- A dict row as an `MT5Order`; a row without a ticket is skipped. -/
def decodeDict (accountId : String) (row : OrderDict) : Except Error (List OpenOrder) := do
  let ticket ← (row.ticket.orElse none).getD 0
  if ticket = 0 then return []
  let volume ← (row.volumeCurrent.orElse (row.volume.orElse none)).getD 0
  let price ← (row.priceOpen.orElse (row.price.orElse none)).getD 0
  let type ← (row.type.orElse none).getD 0
  let typeTime ← (row.typeTime.orElse none).getD 0
  let typeFilling ← (row.typeFilling.orElse none).getD 0
  let state ← (row.state.orElse none).getD 1
  return [.order
    { orderId := ticket, symbol := row.symbol.getD "", volume, price, type, typeTime, typeFilling, state,
      account := accountId }]

/-- One round of the loop of `get_open_orders`: rows of another account are left out. -/
def decodeRow (accountId : String) : OrderRow → Except Error (List OpenOrder)
  | .dict row => decodeDict accountId row
  | .object (.native ticket symbol) => .ok [.native ticket symbol]
  | .object (.order o) => .ok (if o.account = accountId ∨ o.account = "" then [.order o] else [])

/-- What a request for rows ends with. -/
inductive Fetched (ρ : Type)
  | rows (answer : List ρ)
  | none
  | failed (e : Error)
  | timeout

/-- The rows of the answer; `None`, a failure and a timeout leave none. -/
def Fetched.allRaw {ρ : Type} : Fetched ρ → List ρ
  | .rows answer => answer
  | .none | .failed _ | .timeout => []

/-- The bridge answered with rows; MT5 answers `None` for an error. -/
def Fetched.Succeeded {ρ : Type} : Fetched ρ → Prop
  | .rows _ => True
  | .none | .failed _ | .timeout => False

/-- `get_open_orders`. -/
def getOpenOrders (accountId : String) (fetch : Fetched OrderRow) : Except Error (List OpenOrder) :=
  Collect.collect (decodeRow accountId) fetch.allRaw

/-- The orders that the rows which decode list. -/
def listedOrders (accountId : String) (fetch : Fetched OrderRow) : List OpenOrder :=
  Collect.salvage (decodeRow accountId) fetch.allRaw

theorem getOpenOrders_eq_ok_iff {accountId : String} {fetch : Fetched OrderRow} {orders : List OpenOrder} :
    getOpenOrders accountId fetch = .ok orders ↔
      (∀ row ∈ fetch.allRaw, Collect.Fine (decodeRow accountId) row) ∧ orders = listedOrders accountId fetch :=
  Collect.collect_eq_ok_iff

end NautilusMt5
