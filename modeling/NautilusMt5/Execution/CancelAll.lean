import NautilusMt5.Execution.Modify
import NautilusMt5.Lib.FailFast

/-!
# Cancels (`execution.py`, `_cancel_order`, `_batch_cancel_orders` and `_cancel_all_orders`)

A cancel goes out for the venue order id of an order. `_cancel_all_orders` asks the cache for the open orders of the
instrument, does not look at the side that the command names, and ends at the first cancel that raises.

* `cancelOnStop_run`: the loop of `_disconnect`, which has a handler for each order, reaches them all;
* `cancelAll_exact_iff`: a command cancels the orders it asks for just when every open order with a venue order id is
  of the side exactly when a request can go out for it and nothing before it fails.
-/

namespace NautilusMt5

open Py

/-! ## One cancel -/

/-- The request dict of `cancel_order`. -/
structure RemoveRequest where
  action : ℤ
  order : ℤ
  deriving DecidableEq, Repr

/-- `cancel_order`: `outcome` is what the call of `order_send` returns or raises, where the bridge has one. -/
def cancelOrder (outcome : Option (Except Error SendResult)) (orderId : ℤ) : Method RemoveRequest Error Unit Unit :=
  match outcome with
  | none => pure ()
  | some outcome => do
    Method.emitAll [⟨8, orderId⟩]
    let _ ← Method.ofExcept outcome
    return ()

/-- `_cancel_order`: without a venue order id there is only a log. -/
def cancelVenueOrder (outcome : Option (Except Error SendResult)) (venueOrderId : Option String) :
    Method RemoveRequest Error Unit Unit :=
  match venueOrderId with
  | none => pure ()
  | some value => do
    let orderId ← Method.ofExcept (intOfStr value)
    cancelOrder outcome orderId

theorem run_cancelOrder (outcome : Option (Except Error SendResult)) (orderId : ℤ) (s : Unit) :
    (cancelOrder outcome orderId).run s =
      ⟨if outcome.isSome then [⟨8, orderId⟩] else [], s, (outcome.getD (.ok .none)).map fun _ => ()⟩ := by
  cases outcome with
  | none => rfl
  | some outcome =>
    rw [cancelOrder, Method.run_bind_of_ok _ (Method.run_emitAll _ _)]
    cases outcome with
    | error e => rfl
    | ok result => rfl

/-- An id that is no number raises before anything is sent. -/
theorem run_cancelVenueOrder_error {outcome : Option (Except Error SendResult)} {value : String} {e : Error}
    (h : intOfStr value = .error e) (s : Unit) :
    (cancelVenueOrder outcome (some value)).run s = ⟨[], s, .error e⟩ := by
  rw [cancelVenueOrder, h, Method.run_ofExcept_error_bind]

theorem run_cancelVenueOrder_ok {outcome : Option (Except Error SendResult)} {value : String} {ticket : ℤ}
    (h : intOfStr value = .ok ticket) (s : Unit) :
    (cancelVenueOrder outcome (some value)).run s = (cancelOrder outcome ticket).run s := by
  rw [cancelVenueOrder, h, Method.run_ofExcept_ok_bind]

section Cancels

variable {α : Type} (orderSend : Option (α → Except Error SendResult)) (venueOrderId : α → Option String)

/-- The cancel of one thing, and which it is. -/
def cancelOne (x : α) : Method (α × RemoveRequest) Error Unit Unit :=
  (cancelVenueOrder (orderSend.map (· x)) (venueOrderId x)).via (x, ·)

/-- The ticket of a venue order id that is a number. -/
def ticketOf (x : α) : Option ℤ := (venueOrderId x).bind fun value => (intOfStr value).toOption

/-- A request goes out for it. -/
def CancelSent (x : α) : Prop := orderSend.isSome ∧ (ticketOf venueOrderId x).isSome

/-- The cancel raises: the venue order id is no number, or `order_send` raises. -/
def CancelFails (x : α) : Prop :=
  venueOrderId x ≠ none ∧ (ticketOf venueOrderId x = none ∨ ∃ send, orderSend = some send ∧ (send x).isOk = false)

instance : DecidablePred (CancelSent orderSend venueOrderId) := fun _ => inferInstanceAs (Decidable (_ ∧ _))

instance : DecidablePred (CancelFails orderSend venueOrderId) := fun x =>
  match orderSend with
  | none => decidable_of_iff (venueOrderId x ≠ none ∧ ticketOf venueOrderId x = none) (by simp [CancelFails])
  | some send =>
    decidable_of_iff (venueOrderId x ≠ none ∧ (ticketOf venueOrderId x = none ∨ (send x).isOk = false))
      (by simp [CancelFails])

/-- The requests of one cancel. -/
def cancelRequests (x : α) : List (α × RemoveRequest) :=
  if orderSend.isSome then (ticketOf venueOrderId x).toList.map fun ticket => (x, ⟨8, ticket⟩) else []

variable {orderSend venueOrderId} {x : α}

/-- **One cancel**: what goes out, and when it raises. -/
theorem acts_cancelOne :
    FailFast.Acts (cancelOne orderSend venueOrderId) (cancelRequests orderSend venueOrderId)
      fun x => decide (CancelFails orderSend venueOrderId x) where
  emitted x s := by
    rw [cancelOne, Method.run_via]
    unfold cancelRequests ticketOf
    cases venueOrderId x with
    | none => simp [cancelVenueOrder]
    | some value =>
      cases hvalue : intOfStr value with
      | error e => simp [run_cancelVenueOrder_error hvalue, hvalue, Except.toOption]
      | ok ticket =>
        rw [run_cancelVenueOrder_ok hvalue, run_cancelOrder]
        cases orderSend <;> simp [hvalue, Except.toOption]
  raises x s := by
    rw [cancelOne, Method.run_via, decide_eq_true_iff]
    unfold CancelFails ticketOf
    cases venueOrderId x with
    | none => simp [cancelVenueOrder]
    | some value =>
      cases hvalue : intOfStr value with
      | error e => simp [run_cancelVenueOrder_error hvalue, hvalue, Except.toOption]
      | ok ticket =>
        rw [run_cancelVenueOrder_ok hvalue, run_cancelOrder]
        cases orderSend with
        | none => simp [hvalue, Except.toOption, Except.map]
        | some send =>
          cases hsend : send x <;>
            simp [hvalue, hsend, Except.toOption, Except.map, Except.isOk, Except.toBool]

theorem map_fst_cancelRequests (x : α) :
    (cancelRequests orderSend venueOrderId x).map Prod.fst =
      if decide (CancelSent orderSend venueOrderId x) then [x] else [] := by
  by_cases hsend : orderSend.isSome = true
  · cases hticket : ticketOf venueOrderId x <;> simp [cancelRequests, CancelSent, hsend, hticket]
  · simp [cancelRequests, CancelSent, hsend]

/-- What goes out for a thing is a removal of its ticket. -/
theorem of_mem_cancelRequests {p : α × RemoveRequest} (h : p ∈ cancelRequests orderSend venueOrderId x) :
    p.2.action = 8 ∧ ticketOf venueOrderId p.1 = some p.2.order := by
  unfold cancelRequests at h
  split_ifs at h with hsend
  · obtain ⟨ticket, hticket, rfl⟩ := List.mem_map.mp h
    exact ⟨rfl, Option.mem_toList.mp hticket⟩
  · cases h

/-- What goes out of a loop of cancels removes tickets. -/
theorem requests_of_cancels {xs : List α} :
    ∀ c ∈ ((FailFast.forEach (cancelOne orderSend venueOrderId) xs).run ()).emitted,
      c.2.action = 8 ∧ ticketOf venueOrderId c.1 = some c.2.order := by
  rw [FailFast.emitted_forEach acts_cancelOne]
  intro c hc
  obtain ⟨x, -, hc⟩ := List.mem_flatMap.mp hc
  exact of_mem_cancelRequests hc

variable (orderSend venueOrderId) in
/-- **A loop of cancels** sends what was wanted just when everything is wanted exactly when its request goes out, and
nothing before it fails. -/
theorem cancels_perm_iff (wanted : α → Prop) [DecidablePred wanted] (xs : List α) :
    (((FailFast.forEach (cancelOne orderSend venueOrderId) xs).run ()).emitted.map Prod.fst).Perm
        (xs.filter (wanted ·)) ↔
      ∀ before x after, xs = before ++ x :: after →
        (wanted x ↔ CancelSent orderSend venueOrderId x ∧ ∀ y ∈ before, ¬ CancelFails orderSend venueOrderId y) := by
  rw [FailFast.emitted_forEach acts_cancelOne, FailFast.map_fst_flatMap map_fst_cancelRequests,
    FailFast.perm_reached_iff]
  simp only [decide_eq_true_iff, decide_eq_false_iff_not]

end Cancels

/-! ## The cancels of a command -/

/-- The orders of the cache; `orders_open(instrument_id=...)` lists the open ones, each once, as its index has them. -/
structure OrderCache where
  orders : List Order
  ordersOpen : Option InstrumentId → List Order
  ordersOpen_perm : ∀ id, (ordersOpen id).Perm
    (orders.filter fun order => order.status.IsOpen ∧ id.all fun i => order.instrumentId = i)

/-- A cache that lists the orders as they came in. -/
def OrderCache.ofOrders (orders : List Order) : OrderCache where
  orders := orders
  ordersOpen id := orders.filter fun order => order.status.IsOpen ∧ id.all fun i => order.instrumentId = i
  ordersOpen_perm _ := .refl _

/-- `CancelOrder`. -/
structure CancelOrder where
  clientOrderId : String
  venueOrderId : Option String
  deriving DecidableEq, Repr

/-- `CancelAllOrders`; `noOrderSide` means both. -/
structure CancelAllOrders where
  instrumentId : InstrumentId
  orderSide : OrderSide := .noOrderSide
  deriving DecidableEq, Repr

/-- `_batch_cancel_orders`. -/
def batchCancelOrders (orderSend : Option (CancelOrder → Except Error SendResult)) (cancels : List CancelOrder) :
    Method (CancelOrder × RemoveRequest) Error Unit Unit :=
  FailFast.forEach (cancelOne orderSend CancelOrder.venueOrderId) cancels

/-- `_cancel_all_orders`: the side of the command is not looked at. -/
def cancelAllOrders (orderSend : Option (Order → Except Error SendResult)) (cache : OrderCache)
    (command : CancelAllOrders) : Method (Order × RemoveRequest) Error Unit Unit :=
  FailFast.forEach (cancelOne orderSend Order.venueOrderId) (cache.ordersOpen (some command.instrumentId))

/-- The loop of `_disconnect` with `cancel_on_stop`: an exception is logged, order by order. -/
def cancelOnStop (orderSend : Option (Order → Except Error SendResult)) (cache : OrderCache) :
    Method (Order × RemoveRequest) Error Unit Unit :=
  FailFast.forEach (fun order => tryCatch (cancelOne orderSend Order.venueOrderId order) fun _ => pure ())
    (cache.ordersOpen none)

/-- The command asks for orders of this side. -/
def CancelAllOrders.WantsSide (command : CancelAllOrders) (order : Order) : Prop :=
  command.orderSide = .noOrderSide ∨ order.side = command.orderSide

instance (command : CancelAllOrders) : DecidablePred command.WantsSide := fun _ => inferInstanceAs (Decidable (_ ∨ _))

/-- The command asks for the order: an open one of the instrument and the side, with a venue order id. -/
def CancelAllOrders.Wants (command : CancelAllOrders) (order : Order) : Prop :=
  (order.status.IsOpen ∧ order.instrumentId = command.instrumentId) ∧
    order.venueOrderId ≠ none ∧ command.WantsSide order

instance (command : CancelAllOrders) : DecidablePred command.Wants := fun _ => inferInstanceAs (Decidable (_ ∧ _))

/-- **The cancels that the command asks for**: each of its orders once, and no other, by a removal of its ticket. -/
structure CancelsExactly (cache : OrderCache) (command : CancelAllOrders) (cancels : List (Order × RemoveRequest)) :
    Prop where
  orders : (cancels.map Prod.fst).Perm (cache.orders.filter (command.Wants ·))
  requests : ∀ c ∈ cancels, c.2.action = 8 ∧ ticketOf Order.venueOrderId c.1 = some c.2.order

section Commands

variable {orderSend : Option (Order → Except Error SendResult)} {cache : OrderCache} {command : CancelAllOrders}

/-- What a command asks for, among the orders that the cache lists. -/
theorem wanted_perm : (cache.orders.filter (command.Wants ·)).Perm
    ((cache.ordersOpen (some command.instrumentId)).filter fun order =>
      order.venueOrderId ≠ none ∧ command.WantsSide order) := by
  have hlisted := (cache.ordersOpen_perm (some command.instrumentId)).filter fun order =>
    order.venueOrderId ≠ none ∧ command.WantsSide order
  rw [List.filter_filter] at hlisted
  refine List.Perm.trans (.of_eq (List.filter_congr fun order _ => ?_)) hlisted.symm
  rw [Bool.eq_iff_iff]
  simp [CancelAllOrders.Wants, and_comm]

/-- **A batch** removes tickets of its commands only, and those of all that have a venue order id just when nothing
before the last of them fails. -/
theorem batchCancel_all_iff (orderSend : Option (CancelOrder → Except Error SendResult)) (cancels : List CancelOrder) :
    (∀ c ∈ ((batchCancelOrders orderSend cancels).run ()).emitted,
      c.2.action = 8 ∧ ticketOf CancelOrder.venueOrderId c.1 = some c.2.order) ∧
    ((((batchCancelOrders orderSend cancels).run ()).emitted.map Prod.fst).Perm
        (cancels.filter (·.venueOrderId ≠ none)) ↔
      ∀ before cancel after, cancels = before ++ cancel :: after →
        (cancel.venueOrderId ≠ none ↔ CancelSent orderSend CancelOrder.venueOrderId cancel ∧
          ∀ c ∈ before, ¬ CancelFails orderSend CancelOrder.venueOrderId c)) :=
  ⟨requests_of_cancels, cancels_perm_iff orderSend CancelOrder.venueOrderId _ cancels⟩

/-- **Cancel on stop**: the loop does not raise, and every open order whose venue order id is a number has its cancel
when there is an `order_send`. -/
theorem cancelOnStop_run (orderSend : Option (Order → Except Error SendResult)) (cache : OrderCache) :
    (∀ e, ((cancelOnStop orderSend cache).run ()).value ≠ .error e) ∧
      (((cancelOnStop orderSend cache).run ()).emitted.map Prod.fst).Perm
        (cache.orders.filter fun order => order.status.IsOpen ∧ CancelSent orderSend Order.venueOrderId order) := by
  have hacts := (@acts_cancelOne _ orderSend Order.venueOrderId).guarded
  constructor
  · intro e he
    obtain ⟨order, -, h⟩ := (FailFast.raises_forEach hacts _ _).mp ⟨e, he⟩
    cases h
  · have hlisted := (cache.ordersOpen_perm none).filter fun order => CancelSent orderSend Order.venueOrderId order
    rw [List.filter_filter] at hlisted
    rw [cancelOnStop, FailFast.emitted_forEach hacts, FailFast.reached_of_fine fun _ _ => rfl,
      FailFast.map_fst_flatMap map_fst_cancelRequests]
    refine hlisted.trans (.of_eq (List.filter_congr fun order _ => ?_))
    rw [Bool.eq_iff_iff]
    simp [and_comm]

/-- **When a command cancels exactly what it asks for.** -/
theorem cancelAll_exact_iff (orderSend : Option (Order → Except Error SendResult)) (cache : OrderCache)
    (command : CancelAllOrders) :
    CancelsExactly cache command ((cancelAllOrders orderSend cache command).run ()).emitted ↔
      ∀ before order after, cache.ordersOpen (some command.instrumentId) = before ++ order :: after →
        order.venueOrderId ≠ none →
        (command.WantsSide order ↔ CancelSent orderSend Order.venueOrderId order ∧
          ∀ o ∈ before, ¬ CancelFails orderSend Order.venueOrderId o) := by
  have hloop := cancels_perm_iff orderSend Order.venueOrderId
    (fun order => order.venueOrderId ≠ none ∧ command.WantsSide order) (cache.ordersOpen (some command.instrumentId))
  have hexact : CancelsExactly cache command ((cancelAllOrders orderSend cache command).run ()).emitted ↔
      (((cancelAllOrders orderSend cache command).run ()).emitted.map Prod.fst).Perm
        (cache.orders.filter (command.Wants ·)) := by
    constructor
    · exact fun h => h.orders
    · exact fun h => ⟨h, requests_of_cancels⟩
  rw [hexact, wanted_perm.congr_right, cancelAllOrders, hloop]
  refine forall_congr' fun before => forall_congr' fun order => forall_congr' fun after => imp_congr_right fun _ => ?_
  by_cases hnone : order.venueOrderId = none
  · simp [hnone, CancelSent, ticketOf]
  · simp [hnone]

/-- **Only SELL orders were asked for**: the open BUY is cancelled. -/
theorem buy_cancelled_with_sells :
    ¬ CancelsExactly (.ofOrders [buyStopLimit]) ⟨eurusd.id, .sell⟩
      ((cancelAllOrders (some fun _ => .ok .none) (.ofOrders [buyStopLimit]) ⟨eurusd.id, .sell⟩).run ()).emitted := by
  intro h
  have hlength := h.orders.length_eq
  exact absurd hlength (by decide +kernel)

end Commands

end NautilusMt5
