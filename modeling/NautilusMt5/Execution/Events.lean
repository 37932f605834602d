import NautilusMt5.Client.Order

/-!
# Order events (`execution.py`, `_handle_order_event` and `_on_order_status`)

An order of Nautilus, the cache that holds orders and instruments, and the events that the execution client publishes.
Times of events are left out. The status of an order is that of the cached object: the engine takes events off a
queue, so that it does not change while one method of the client runs.

`handleOrderEvent` publishes at most one event (`length_handleOrderEvent`), and none that the status of the order
already says (`kind_accepted`, `kind_rejected`, `onOrderStatus_cancelled`).
-/

namespace NautilusMt5

open Py

/-! ## Orders and instruments -/

structure InstrumentId where
  symbol : String
  venue : String
  deriving DecidableEq, Repr

/-- An instrument of Nautilus. `symbolInfo` is `info["symbol"]["symbol"]`, where it has one; `makePrice` and `makeQty`
round to its grids or raise. -/
structure Instrument where
  id : InstrumentId
  symbolInfo : Option String
  multiplier : ℚ
  quoteCurrency : String
  makePrice : ℚ → Except Error ℚ
  makeQty : ℚ → Except Error ℚ

/-- An instrument whose grids hold every value, to run the code on. -/
def eurusd : Instrument where
  id := ⟨"EURUSD", "METATRADER_5"⟩
  symbolInfo := some "EURUSD"
  multiplier := 1
  quoteCurrency := "USD"
  makePrice := .ok
  makeQty := .ok

/-- An order of Nautilus. `price` and `triggerPrice` are `none` where its type has no such attribute. -/
structure Order where
  strategyId : String
  instrumentId : InstrumentId
  clientOrderId : String
  venueOrderId : Option String
  side : OrderSide
  orderType : OrderType
  timeInForce : TimeInForce
  quantity : ℚ
  price : Option ℚ
  triggerPrice : Option ℚ
  status : OrderStatus
  deriving DecidableEq, Repr

/-- What the client reads from the cache. -/
structure Cache where
  instrument : InstrumentId → Option Instrument
  order : String → Option Order

/-! ## Events -/

/-- The ids that every event carries. -/
structure OrderIds where
  strategyId : String
  instrumentId : InstrumentId
  clientOrderId : String
  deriving DecidableEq, Repr

def Order.ids (order : Order) : OrderIds := ⟨order.strategyId, order.instrumentId, order.clientOrderId⟩

/-- The fill of an `OrderFilled`. -/
structure Fill where
  venueOrderId : String
  tradeId : String
  orderSide : OrderSide
  orderType : OrderType
  lastQty : ℚ
  lastPx : ℚ
  quoteCurrency : String
  commission : ℚ
  deriving DecidableEq, Repr

inductive OrderEvent
  | submitted (ids : OrderIds)
  | accepted (ids : OrderIds) (venueOrderId : String)
  | canceled (ids : OrderIds) (venueOrderId : Option String)
  | rejected (ids : OrderIds) (reason : String)
  | filled (ids : OrderIds) (fill : Fill)
  deriving DecidableEq, Repr

inductive EventKind
  | submitted
  | accepted
  | canceled
  | rejected
  | filled
  deriving DecidableEq, Repr

def OrderEvent.kind : OrderEvent → EventKind
  | .submitted _ => .submitted
  | .accepted _ _ => .accepted
  | .canceled _ _ => .canceled
  | .rejected _ _ => .rejected
  | .filled _ _ => .filled

/-- What a method of the client lets out: requests to the bridge and events to the engine. -/
inductive Effect
  | send (sent : Sent)
  | event (e : OrderEvent)
  deriving DecidableEq, Repr

def Effect.event? : Effect → Option OrderEvent
  | .send _ => none
  | .event e => some e

def Effect.sent? : Effect → Option Sent
  | .send s => some s
  | .event _ => none

/-- The events among the effects. -/
def eventsOf (l : List Effect) : List OrderEvent := l.filterMap Effect.event?

/-- The requests among the effects. -/
def sentOf (l : List Effect) : List Sent := l.filterMap Effect.sent?

@[simp] theorem eventsOf_append (l m : List Effect) : eventsOf (l ++ m) = eventsOf l ++ eventsOf m :=
  List.filterMap_append

@[simp] theorem eventsOf_send (l : List Sent) : eventsOf (l.map .send) = [] := by
  simp [eventsOf, Effect.event?, List.filterMap_map, Function.comp_def]

@[simp] theorem eventsOf_event (l : List OrderEvent) : eventsOf (l.map .event) = l := by
  simp [eventsOf, Effect.event?, List.filterMap_map, Function.comp_def]

@[simp] theorem sentOf_append (l m : List Effect) : sentOf (l ++ m) = sentOf l ++ sentOf m := List.filterMap_append

@[simp] theorem sentOf_send (l : List Sent) : sentOf (l.map .send) = l := by
  simp [sentOf, Effect.sent?, List.filterMap_map, Function.comp_def]

/-! ## `_handle_order_event` -/

/-- `str(order_id)`. -/
def strOrderId : Option ℤ → String
  | none => "None"
  | some n => toString n

/-- `_handle_order_event`: the events generated; FILLED and PENDING_CANCEL only log. -/
def handleOrderEvent (status : OrderStatus) (order : Order) (orderId : Option ℤ := none) (reason : String := "") :
    List OrderEvent :=
  match status with
  | .submitted => [.submitted order.ids]
  | .accepted => if order.status ≠ .accepted then [.accepted order.ids (strOrderId orderId)] else []
  | .canceled => if order.status ≠ .canceled then [.canceled order.ids order.venueOrderId] else []
  | .rejected => if order.status ≠ .rejected then [.rejected order.ids reason] else []
  | _ => []

section HandleOrderEvent

variable {status : OrderStatus} {order : Order} {orderId : Option ℤ} {reason : String}

/-- A call publishes at most one event. -/
theorem length_handleOrderEvent : (handleOrderEvent status order orderId reason).length ≤ 1 := by
  cases status <;> simp only [handleOrderEvent] <;> first | split <;> simp | simp

theorem kind_accepted : (handleOrderEvent .accepted order orderId reason).map OrderEvent.kind =
    if order.status = .accepted then [] else [.accepted] := by
  by_cases h : order.status = .accepted <;> simp [handleOrderEvent, h, OrderEvent.kind]

theorem kind_rejected : (handleOrderEvent .rejected order orderId reason).map OrderEvent.kind =
    if order.status = .rejected then [] else [.rejected] := by
  by_cases h : order.status = .rejected <;> simp [handleOrderEvent, h, OrderEvent.kind]

end HandleOrderEvent

/-! ## `_on_order_status` -/

/-- The status that a status text stands for; `none` for the texts that are only logged. -/
def parseOrderStatus (text : String) : Option OrderStatus :=
  if text = "ApiCancelled" ∨ text = "Cancelled" then some .canceled
  else if text = "PendingCancel" then some .pendingCancel
  else if text = "Rejected" then some .rejected
  else if text = "Filled" then some .filled
  else none

/-- `_on_order_status`: the events generated for the cached order of the reference. -/
def onOrderStatus (cache : Cache) (orderRef : String) (orderStatus : String) (reason : String := "") :
    List OrderEvent :=
  match parseOrderStatus orderStatus, cache.order orderRef with
  | some status, some order => handleOrderEvent status order none reason
  | _, _ => []

/-- A cancel text for a cached order: the cancel, unless the order is canceled already. -/
theorem onOrderStatus_cancelled {cache : Cache} {orderRef reason : String} :
    onOrderStatus cache orderRef "Cancelled" reason =
      match cache.order orderRef with
      | some order => if order.status ≠ .canceled then [.canceled order.ids order.venueOrderId] else []
      | none => [] := by
  have h : parseOrderStatus "Cancelled" = some .canceled := by decide
  rw [onOrderStatus, h]
  cases cache.order orderRef <;> rfl

end NautilusMt5
