import NautilusMt5.Execution.OrderCallbacks

/-!
# The reference of an order, sent and received (`client/order.py`)

`place_order` writes the order id behind the client order id, `process_open_order` takes it off again. Both take one
part more off than was written: `place_order` from the reference that it stores, `process_open_order` from the one that
it gives to the handler.

`recovers_iff`: the client order id comes back just when it is not empty and has no colon.
-/

namespace NautilusMt5

open Py

/-! ## `process_open_order` -/

/-- The warning of a discrepancy: the reference that is stored, and account and reference of the order. -/
structure Discrepancy where
  expected : AccountOrderRef
  account : String
  orderId : String
  deriving DecidableEq, Repr

/-- The call of a handler for open orders. -/
structure OpenOrderCall where
  orderRef : String
  order : MT5Order
  deriving DecidableEq, Repr

/-- What `process_open_order` does: the references afterwards, the order for a pending request, the warning, and the
call of a handler. -/
structure OpenOrderOutcome where
  orderIdToOrderRef : Dict ℤ AccountOrderRef
  result : Option MT5Order := none
  discrepancy : Option Discrepancy := none
  call : Option OpenOrderCall := none

/-- `process_open_order`; `requested` says that a request for the open orders is pending. -/
def receiveOpenOrder (subscribed : String → Bool) (orderIdToOrderRef : Dict ℤ AccountOrderRef) (requested : Bool)
    (symbol : String) (order : MT5Order) : OpenOrderOutcome :=
  let order := { order with symbol := symbol, orderRef := openOrderRef order }
  if requested then
    match orderIdToOrderRef.get? order.orderId with
    | some orderRef =>
      { orderIdToOrderRef := orderIdToOrderRef
        result := some order
        discrepancy :=
          if orderRef.accountId = order.account ∧ orderRef.orderId = order.orderRef then none
          else some ⟨orderRef, order.account, order.orderRef⟩ }
    | none =>
      { orderIdToOrderRef := orderIdToOrderRef.set order.orderId ⟨order.account, order.orderRef⟩
        result := some order }
  else if subscribed s!"openOrder-{order.account}" then
    { orderIdToOrderRef := orderIdToOrderRef
      call := some ⟨rsplitHead ':' order.orderRef, order⟩ }
  else { orderIdToOrderRef := orderIdToOrderRef }

/-- The references are those that the callbacks go by. -/
theorem receiveOpenOrder_refs (subscribed : String → Bool) (refs : Dict ℤ AccountOrderRef) (requested : Bool)
    (symbol : String) (order : MT5Order) :
    (receiveOpenOrder subscribed refs requested symbol order).orderIdToOrderRef =
      reverseMapping refs requested order := by
  cases requested with
  | false =>
    simp only [receiveOpenOrder, reverseMapping, Bool.false_eq_true, if_false, false_and]
    split_ifs <;> rfl
  | true =>
    cases h : refs.get? order.orderId <;> simp [receiveOpenOrder, reverseMapping, h]

/-- The reference that `process_order_status` gives to the handler of the account. -/
def statusRef (refs : Dict ℤ AccountOrderRef) (orderId : ℤ) : Option String :=
  (refs.get? orderId).map AccountOrderRef.orderId

/-! ## Messages after an order -/

/-- What may happen to the references: an order is placed, an open order or a status arrives. -/
inductive RefEvent
  | place (order : MT5Order)
  | openOrder (requested : Bool) (symbol : String) (order : MT5Order)
  | orderStatus (orderId : ℤ) (status : String)

/-- The references after an event. -/
def refStep (subscribed : String → Bool) (refs : Dict ℤ AccountOrderRef) : RefEvent → Dict ℤ AccountOrderRef
  | .place order => refs.set order.orderId (accountOrderRef order)
  | .openOrder requested symbol order => (receiveOpenOrder subscribed refs requested symbol order).orderIdToOrderRef
  | .orderStatus _ _ => refs

/-- The message is of the order that `place_order` has tagged. -/
structure EchoOf (message order : MT5Order) : Prop where
  orderId : message.orderId = order.orderId
  account : message.account = order.account
  orderRef : message.orderRef = (tagOrderRef order).orderRef

/-- **The client order id comes back** with a message: the handler gets it, it is stored under the order id, where the
status callbacks read it, and the answer to a request shows no discrepancy. -/
structure Recovers (subscribed : String → Bool) (refs : Dict ℤ AccountOrderRef) (symbol : String) (message : MT5Order)
    (clientOrderId : String) : Prop where
  handler : subscribed s!"openOrder-{message.account}" →
    (receiveOpenOrder subscribed refs false symbol message).call.map OpenOrderCall.orderRef = some clientOrderId
  stored : ∀ requested, statusRef (receiveOpenOrder subscribed refs requested symbol message).orderIdToOrderRef
    message.orderId = some clientOrderId
  noDiscrepancy : (receiveOpenOrder subscribed refs true symbol message).discrepancy = none

/-! ## The stored reference -/

section Refs

variable {subscribed : String → Bool} {refs : Dict ℤ AccountOrderRef} {order message : MT5Order} {symbol : String}

/-- The id of an order has no colon. -/
theorem colon_not_mem_orderId (n : ℤ) : ':' ∉ (toString n).toList := not_mem_toString (by decide) (by decide) n

theorem toString_ne_empty (n : ℤ) : toString n ≠ "" := by
  rw [Int.toString_eq_repr, Int.repr_eq_if]
  split_ifs
  · exact Nat.repr_ne_empty
  · simp

theorem openOrderRef_of_echo (h : EchoOf message order) (href : order.orderRef ≠ "") :
    openOrderRef message = order.orderRef := by
  have htag : message.orderRef = order.orderRef ++ String.singleton ':' ++ toString order.orderId := by
    rw [h.orderRef, tagOrderRef, if_neg href]
    rfl
  rw [openOrderRef, htag, if_pos (by simp)]
  exact rsplitHead_append (colon_not_mem_orderId _)

/-- An order id that is stored stays as it is, unless an order is placed under it. -/
theorem get?_refStep {id : ℤ} {ref : AccountOrderRef} (h : refs.get? id = some ref) {e : RefEvent}
    (he : ∀ order, e = .place order → order.orderId ≠ id) : (refStep subscribed refs e).get? id = some ref := by
  cases e with
  | place order => rwa [refStep, Dict.get?_set, if_neg fun hid => he order rfl hid.symm]
  | openOrder requested symbol order =>
    rw [refStep, receiveOpenOrder_refs, reverseMapping]
    split_ifs with hnew
    · rw [Dict.get?_set, if_neg, h]
      rintro rfl
      rw [h] at hnew
      cases hnew.2
    · exact h
  | orderStatus orderId status => exact h

theorem get?_later {id : ℤ} {ref : AccountOrderRef} (h : refs.get? id = some ref) {later : List RefEvent}
    (hlater : ∀ order, .place order ∈ later → order.orderId ≠ id) :
    (later.foldl (refStep subscribed) refs).get? id = some ref := by
  induction later generalizing refs with
  | nil => exact h
  | cons e later ih =>
    refine ih (get?_refStep h fun order he => hlater order (he ▸ List.mem_cons_self)) fun order he => ?_
    exact hlater order (List.mem_cons_of_mem e he)

/-- What is stored stays after the message. -/
theorem statusRef_receive (h : refs.get? message.orderId = some (accountOrderRef order)) (requested : Bool) :
    statusRef (receiveOpenOrder subscribed refs requested symbol message).orderIdToOrderRef message.orderId =
      some (accountOrderRef order).orderId := by
  have hkept : (receiveOpenOrder subscribed refs requested symbol message).orderIdToOrderRef.get? message.orderId =
      some (accountOrderRef order) :=
    get?_refStep (e := .openOrder requested symbol message) h fun order he => by cases he
  rw [statusRef, hkept]
  rfl

/-- With the reference of the order stored, its message brings the client order id back just when that is not empty and
has no colon. -/
theorem recovers_of_stored (hecho : EchoOf message order)
    (h : refs.get? message.orderId = some (accountOrderRef order)) :
    Recovers subscribed refs symbol message order.orderRef ↔
      order.orderRef ≠ "" ∧ ':' ∉ order.orderRef.toList := by
  constructor
  · intro hr
    have hstored : (accountOrderRef order).orderId = order.orderRef :=
      Option.some.inj ((statusRef_receive h true).symm.trans (hr.stored true))
    by_cases href : order.orderRef = ""
    · rw [accountOrderRef, if_pos href, href] at hstored
      exact absurd hstored (toString_ne_empty order.orderId)
    · rw [accountOrderRef, if_neg href] at hstored
      exact ⟨href, rsplitHead_eq_self.mp hstored⟩
  · rintro ⟨href, hcolon⟩
    have href' := openOrderRef_of_echo hecho href
    have hstored : (accountOrderRef order).orderId = order.orderRef := by
      rw [accountOrderRef, if_neg href]
      exact rsplitHead_of_not_mem hcolon
    refine ⟨fun hsub => ?_, fun requested => hstored ▸ statusRef_receive h requested, ?_⟩
    · simp only [receiveOpenOrder, Bool.false_eq_true, if_false, if_pos hsub, href', Option.map_some,
        rsplitHead_of_not_mem hcolon]
    · have haccount : (accountOrderRef order).accountId = message.account := hecho.account.symm
      simp only [receiveOpenOrder, if_true, h, haccount, hstored, href', and_self]

end Refs

/-- **The round trip**: an order is placed, other events follow, then its message comes. -/
theorem recovers_iff (subscribed : String → Bool) (bridge : Bridge) (client : OrderClient) (order message : MT5Order)
    (hecho : EchoOf message order) (later : List RefEvent)
    (hlater : ∀ order', .place order' ∈ later → order'.orderId ≠ order.orderId) (symbol : String) :
    let placed := ((placeOrder bridge order).run client).state.orderIdToOrderRef
    Recovers subscribed (later.foldl (refStep subscribed) placed) symbol message order.orderRef ↔
      order.orderRef ≠ "" ∧ ':' ∉ order.orderRef.toList := by
  intro placed
  refine recovers_of_stored hecho (hecho.orderId ▸ get?_later ?_ hlater)
  show ((placeOrder bridge order).run client).state.orderIdToOrderRef.get? order.orderId = _
  rw [run_placeOrder, OrderClient.remember, Dict.get?_set, if_pos rfl]

/-- The tagged order as the bridge reports it. -/
def echoed (order : MT5Order) : MT5Order := { tagOrderRef order with state := 1 }

/-- An order for account 100 under the id 7. -/
def refOrder (clientOrderId : String) : MT5Order := { orderId := 7, orderRef := clientOrderId, account := "100" }

/-- A client that has placed no order yet. -/
def unusedClient : OrderClient := ⟨7, .empty⟩

/-- A bridge without `order_send`. -/
def quietBridge : Bridge := ⟨.ok (), .ok [], none⟩

/-- A handler for the open orders of account 100. -/
def subscribed100 (name : String) : Bool := name = "openOrder-100"

theorem recovers_plain :
    Recovers subscribed100 ([RefEvent.orderStatus 7 "Submitted"].foldl (refStep subscribed100)
        ((placeOrder quietBridge (refOrder "O-1")).run unusedClient).state.orderIdToOrderRef)
        "EURUSD" (echoed (refOrder "O-1")) "O-1" ↔
      "O-1" ≠ "" ∧ ':' ∉ "O-1".toList :=
  recovers_iff subscribed100 quietBridge unusedClient (refOrder "O-1") (echoed (refOrder "O-1")) ⟨rfl, rfl, rfl⟩
    [.orderStatus 7 "Submitted"] (by simp) "EURUSD"

/-- A client order id with a colon: `S:1` is stored, and given to the handler, as `S`. -/
theorem not_recovers_colon :
    ¬ Recovers subscribed100 ((placeOrder quietBridge (refOrder "S:1")).run unusedClient).state.orderIdToOrderRef
      "EURUSD" (echoed (refOrder "S:1")) "S:1" := by
  have hstored : statusRef (receiveOpenOrder subscribed100
      ((placeOrder quietBridge (refOrder "S:1")).run unusedClient).state.orderIdToOrderRef true "EURUSD"
        (echoed (refOrder "S:1"))).orderIdToOrderRef 7 = some "S" := by decide +kernel
  intro h
  exact absurd (hstored.symm.trans (h.stored true)) (by decide)

end NautilusMt5
