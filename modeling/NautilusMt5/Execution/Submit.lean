import NautilusMt5.Execution.Events

/-!
# Submission (`execution.py`, `_submit_order`)

An order is validated, written as an `MT5Order` and sent; the answer decides which events follow. `answer` is what
the bridge returns or what is raised before, `replyEvents` what follows the answer.

* `events_submitOrder_error`, `events_submitOrder_dict`, `events_submitOrder_silent`: the events of a submission;
* `executed_reply_reported_iff`: when an executed volume is reported as a fill and not as a rejection;
* `submission_settled_iff`: when the events of a submission are one of the four complete sequences.
-/

namespace NautilusMt5

open Py

/-- A method of the execution client. -/
abbrev Exec (α : Type) := Method Effect Error OrderClient α

/-- What `_submit_order` works with: the cache, the account, and what the bridge does during the call. -/
structure ExecEnv where
  cache : Cache
  accountId : String
  bridge : Bridge

/-- An environment to run the code on: `eurusd` and `order` are cached, and a send ends with `outcome`. -/
def sampleEnv (order : Order) (outcome : Except Error SendResult) : ExecEnv where
  cache :=
    { instrument := fun id => if id = eurusd.id then some eurusd else none
      order := fun id => if id = order.clientOrderId then some order else none }
  accountId := "1001"
  bridge := { reqIds := .ok (), positionsGet := .ok [], orderSend := some { outcome := outcome } }

/-- A stop limit order: it waits for 100, then buys at 105 or better. -/
def buyStopLimit : Order where
  strategyId := "S-001"
  instrumentId := eurusd.id
  clientOrderId := "O-2"
  venueOrderId := some "77"
  side := .buy
  orderType := .stopLimit
  timeInForce := .gtc
  quantity := 1
  price := some 105
  triggerPrice := some 100
  status := .accepted

def freshClient : OrderClient := ⟨101, .empty⟩

/-- Publish events. -/
def publish (l : List OrderEvent) : Exec Unit := Method.emitAll (l.map .event)

/-! ## The code -/

/-- `instrument.info["symbol"]["symbol"]`. -/
def instrumentSymbol : Option Instrument → Except Error String
  | none => .error (.attributeError "'NoneType' object has no attribute 'info'")
  | some instrument =>
    match instrument.symbolInfo with
    | none => .error (.other "KeyError" "'symbol'")
    | some symbol => .ok symbol

/-- The `price` of the request: the trigger of a stop order, else the price. -/
def encodedPrice (order : Order) : ℚ :=
  match order.orderType with
  | .stopMarket | .stopLimit => order.triggerPrice.getD 0
  | _ => order.price.getD 0

/-- The `trigger_price` of the request: the limit price of a stop limit order. -/
def encodedTriggerPrice (order : Order) : ℚ :=
  match order.orderType with
  | .stopLimit => order.price.getD 0
  | _ => 0

/-- The fields that `_transform_order_to_mt5_order` sets. -/
def writeOrder (accountId symbol : String) (action mt5Type : ℤ) (order : Order) : MT5Order where
  orderRef := order.clientOrderId
  account := accountId
  symbol := symbol
  volume := order.quantity
  action := action
  type := mt5Type
  price := encodedPrice order
  triggerPrice := encodedTriggerPrice order
  typeFilling := mapFillingType order.timeInForce
  typeTime := mapTimeInForce order.timeInForce
  magic := 0
  comment := "NautilusOrder"

/-- `_transform_order_to_mt5_order`. -/
def transformOrderToMt5Order (accountId : String) (order : Order) (instrument : Option Instrument) :
    Except Error MT5Order := do
  let symbol ← instrumentSymbol instrument
  let (action, mt5Type) ← mapOrderTypeAndAction order.orderType order.side
  return writeOrder accountId symbol action mt5Type order

/-- An order with a cached symbol and a type that is mapped is written without an exception. -/
theorem transform_eq {accountId symbol : String} {action mt5Type : ℤ} {order : Order} {instrument : Instrument}
    (hs : instrument.symbolInfo = some symbol)
    (hm : mapOrderTypeAndAction order.orderType order.side = .ok (action, mt5Type)) :
    transformOrderToMt5Order accountId order (some instrument) =
      .ok (writeOrder accountId symbol action mt5Type order) := by
  have hsym : instrumentSymbol (some instrument) = .ok symbol := by rw [instrumentSymbol, hs]
  rw [transformOrderToMt5Order, hsym, hm]
  rfl

/-- The ticket of a row when it is an open BUY. -/
def buyTicket : LegRow → Except Error (List ℤ)
  | .dict type ticket => do
    let ticket ← ticket.getD 0
    return if ticket ≠ 0 ∧ type.getD (-1) = 0 then [ticket] else []
  | .object type ticket => do
    let type ← type.getD (-1)
    let ticket ← ticket.getD 0
    return if ticket ≠ 0 ∧ type = 0 then [ticket] else []

/-- The position a SELL closes: the only open BUY of the symbol. Whatever fails here is logged and means none. -/
def hedgeTicket (bridge : Bridge) (side : OrderSide) : Option ℤ :=
  if side = .sell then
    match bridge.positionsGet.bind (Collect.collect buyTicket) with
    | .ok [ticket] => some ticket
    | _ => none
  else none

/-- The answer was executed at once: DONE, and truthy `deal`, `price` and `volume`. -/
def IsImmediate (reply : SendReply) : Prop :=
  reply.retcode.getD 0 = tradeRetcodeDone ∧
    reply.deal.getD 0 ≠ 0 ∧ reply.price.getD 0 ≠ 0 ∧ reply.volume.getD 0 ≠ 0

instance (reply : SendReply) : Decidable (IsImmediate reply) := inferInstanceAs (Decidable (_ ∧ _))

/-- The arguments of `generate_order_filled`. -/
def fillOf (order : Order) (reply : SendReply) (instrument : Instrument) (lastQty lastPx : ℚ) : Fill where
  venueOrderId := toString (reply.order.getD 0)
  tradeId := toString (reply.deal.getD 0)
  orderSide := order.side
  orderType := order.orderType
  lastQty := lastQty
  lastPx := lastPx
  quoteCurrency := instrument.quoteCurrency
  commission := 0

/-- The fill of an answer that was executed at once; the quantity is converted before the price. -/
def immediateFill (cache : Cache) (order : Order) (reply : SendReply) : Except Error (List OrderEvent) :=
  if IsImmediate reply then
    match cache.instrument order.instrumentId with
    | none => .ok []
    | some instrument => do
      let lastQty ← instrument.makeQty (reply.volume.getD 0)
      let lastPx ← instrument.makePrice (reply.price.getD 0)
      return [.filled order.ids (fillOf order reply instrument lastQty lastPx)]
  else .ok []

/-- The retcodes that count as success: DONE and PLACED. -/
def IsSuccess (reply : SendReply) : Prop :=
  reply.retcode.getD 0 = tradeRetcodeDone ∨ reply.retcode.getD 0 = tradeRetcodePlaced

instance (reply : SendReply) : Decidable (IsSuccess reply) := inferInstanceAs (Decidable (_ ∨ _))

/-- The answer dict, read by its retcode. -/
def interpretReply (cache : Cache) (order : Order) (reply : SendReply) : Exec Unit :=
  if IsSuccess reply then do
    publish (handleOrderEvent .accepted order (some (reply.order.getD 0)))
    let fill ← Method.ofExcept (immediateFill cache order reply)
    publish fill
  else if reply.retcode.getD 0 ≠ 0 then
    publish (handleOrderEvent .rejected order none
      (reply.comment.getD ("MT5 retcode: " ++ toString (reply.retcode.getD 0))))
  else pure ()

/-- `_submit_order` up to the answer of `place_order`. -/
def sendOrder (env : ExecEnv) (order : Order) : Exec SendResult := do
  Method.ofExcept (validateOrderPreVenue order.orderType order.timeInForce)
  let mt5Order ← Method.ofExcept
    (transformOrderToMt5Order env.accountId order (env.cache.instrument order.instrumentId))
  let orderId ← (nextOrderId env.bridge).via Effect.send
  (placeOrder env.bridge
    { mt5Order with orderId := orderId, positionTicket := hedgeTicket env.bridge order.side }).via Effect.send

/-- Only an answer that is a dict is read. -/
def readAnswer (env : ExecEnv) (order : Order) : SendResult → Exec Unit
  | .dict reply => interpretReply env.cache order reply
  | .none | .object => pure ()

/-- The body of the `try` of `_submit_order`. -/
def submitBody (env : ExecEnv) (order : Order) : Exec Unit := do
  let result ← sendOrder env order
  publish (handleOrderEvent .submitted order)
  readAnswer env order result

/-- `except ValueError` of `_submit_order`; another exception leaves the method. -/
def rejectValueError (order : Order) : Error → Exec Unit
  | .valueError msg => publish (handleOrderEvent .rejected order none msg)
  | e => throw e

/-- `_submit_order`. -/
def submitOrder (env : ExecEnv) (order : Order) : Exec Unit :=
  tryCatch (submitBody env order) (rejectValueError order)

/-! ## What is sent and what comes back -/

/-- What the bridge answers to the order, or what is raised before. -/
def answer (env : ExecEnv) (order : Order) : Except Error SendResult := do
  validateOrderPreVenue order.orderType order.timeInForce
  let _ ← transformOrderToMt5Order env.accountId order (env.cache.instrument order.instrumentId)
  env.bridge.reqIds
  env.bridge.sendOutcome

/-- The events of the handler. -/
def rejectionOf (order : Order) : Error → List OrderEvent
  | .valueError msg => handleOrderEvent .rejected order none msg
  | _ => []

/-- The events that follow the answer dict. -/
def replyEvents (cache : Cache) (order : Order) (reply : SendReply) : List OrderEvent :=
  if IsSuccess reply then
    handleOrderEvent .accepted order (some (reply.order.getD 0)) ++
      match immediateFill cache order reply with
      | .ok fill => fill
      | .error e => rejectionOf order e
  else if reply.retcode.getD 0 ≠ 0 then
    handleOrderEvent .rejected order none
      (reply.comment.getD ("MT5 retcode: " ++ toString (reply.retcode.getD 0)))
  else []

section Runs

variable {env : ExecEnv} {order : Order} {c : OrderClient}

theorem run_publish (l : List OrderEvent) : (publish l).run c = ⟨l.map .event, c, .ok ()⟩ := rfl

theorem events_rejectValueError (e : Error) :
    eventsOf ((rejectValueError order e).run c).emitted = rejectionOf order e := by
  cases e with
  | valueError msg => exact eventsOf_event _
  | _ => rfl

/-- What the handler adds to the events of a body that raises. -/
theorem events_tryCatch_of_error {x : Exec Unit} {l : List Effect} {c' : OrderClient} {e : Error}
    (h : x.run c = ⟨l, c', .error e⟩) :
    eventsOf ((tryCatch x (rejectValueError order)).run c).emitted = eventsOf l ++ rejectionOf order e := by
  rw [Method.run_tryCatch_of_error _ h, Outcome.emitted_after, eventsOf_append, events_rejectValueError]

/-- The events of reading an answer dict, with what the handler adds when that raises. -/
theorem events_interpretReply (reply : SendReply) :
    eventsOf ((tryCatch (interpretReply env.cache order reply) (rejectValueError order)).run c).emitted =
      replyEvents env.cache order reply := by
  unfold interpretReply replyEvents
  split
  · have hacc := @run_publish c (handleOrderEvent .accepted order (some (reply.order.getD 0)))
    cases hf : immediateFill env.cache order reply with
    | error e =>
      have hrest : (Method.ofExcept (.error e) >>= publish : Exec Unit).run c = ⟨[], c, .error e⟩ :=
        Method.run_bind_of_error _ (Method.run_ofExcept _ _)
      rw [events_tryCatch_of_error ((Method.run_bind_of_ok _ hacc).trans (congrArg _ hrest)), List.append_nil,
        eventsOf_event]
    | ok fill =>
      have hrest : (Method.ofExcept (.ok fill) >>= publish : Exec Unit).run c = ⟨fill.map .event, c, .ok ()⟩ :=
        Method.run_bind_of_ok _ (Method.run_ofExcept _ _)
      rw [Method.run_tryCatch_of_ok _ ((Method.run_bind_of_ok _ hacc).trans (congrArg _ hrest)), eventsOf_append,
        eventsOf_event, eventsOf_event]
  · split
    · rw [Method.run_tryCatch_of_ok _ (run_publish _), eventsOf_event]
    · rfl

/-- Nothing is published before the answer. -/
theorem run_sendOrder (env : ExecEnv) (order : Order) (c : OrderClient) :
    ∃ l c', (sendOrder env order).run c = ⟨l, c', answer env order⟩ ∧ eventsOf l = [] := by
  unfold sendOrder answer
  cases hv : validateOrderPreVenue order.orderType order.timeInForce with
  | error e => exact ⟨[], c, Method.run_bind_of_error _ (Method.run_ofExcept _ _), rfl⟩
  | ok u =>
    rw [Method.run_bind_of_ok _ (Method.run_ofExcept _ _)]
    cases ht : transformOrderToMt5Order env.accountId order (env.cache.instrument order.instrumentId) with
    | error e =>
      rw [Method.run_bind_of_error _ (Method.run_ofExcept _ _)]
      exact ⟨[], c, rfl, rfl⟩
    | ok mt5Order =>
      rw [Method.run_bind_of_ok _ (Method.run_ofExcept _ _)]
      have hn := Method.run_via Effect.send (nextOrderId env.bridge) (s := c)
      rw [run_nextOrderId] at hn
      cases hr : env.bridge.reqIds with
      | error e =>
        rw [hr] at hn
        rw [Method.run_bind_of_error _ hn]
        exact ⟨[], c.advance, rfl, rfl⟩
      | ok v =>
        rw [hr] at hn
        rw [Method.run_bind_of_ok _ hn, Method.run_via, run_placeOrder]
        exact ⟨_, _, rfl, eventsOf_send _⟩

/-- An exception before the answer: only the handler publishes. -/
theorem events_submitOrder_error {e : Error} (h : answer env order = .error e) :
    eventsOf ((submitOrder env order).run c).emitted = rejectionOf order e := by
  obtain ⟨l, c', hr, hl⟩ := run_sendOrder env order c
  rw [h] at hr
  have hb : (submitBody env order).run c = ⟨l, c', .error e⟩ := Method.run_bind_of_error _ hr
  rw [submitOrder, events_tryCatch_of_error hb, hl, List.nil_append]

/-- The order is submitted as soon as there is an answer, whatever its shape. -/
theorem events_submitOrder_ok {result : SendResult} (h : answer env order = .ok result) : ∃ c',
    eventsOf ((submitOrder env order).run c).emitted = .submitted order.ids ::
      eventsOf ((tryCatch (readAnswer env order result) (rejectValueError order)).run c').emitted := by
  obtain ⟨l, c', hr, hl⟩ := run_sendOrder env order c
  rw [h] at hr
  have hb : (submitBody env order).run c =
      (((readAnswer env order result).run c').after [.event (.submitted order.ids)]).after l := by
    rw [submitBody, Method.run_bind_of_ok _ hr, Method.run_bind_of_ok _ (run_publish _)]
    rfl
  refine ⟨c', ?_⟩
  cases hx : (readAnswer env order result).run c' with
  | mk m s value =>
    rw [hx] at hb
    cases value with
    | error e =>
      rw [submitOrder, events_tryCatch_of_error hb, events_tryCatch_of_error hx, eventsOf_append, hl]
      rfl
    | ok u =>
      rw [submitOrder, Method.run_tryCatch_of_ok _ hb, Method.run_tryCatch_of_ok _ hx, eventsOf_append, hl]
      rfl

/-- **The events of an answered submission.** -/
theorem events_submitOrder_dict {reply : SendReply} (h : answer env order = .ok (.dict reply)) :
    eventsOf ((submitOrder env order).run c).emitted =
      .submitted order.ids :: replyEvents env.cache order reply := by
  obtain ⟨c', hc⟩ := events_submitOrder_ok (c := c) h
  rw [hc, readAnswer, events_interpretReply]

/-- An answer that is no dict is not read. -/
theorem events_submitOrder_silent {result : SendResult} (h : answer env order = .ok result)
    (hr : ∀ reply, result ≠ .dict reply) :
    eventsOf ((submitOrder env order).run c).emitted = [.submitted order.ids] := by
  obtain ⟨c', hc⟩ := events_submitOrder_ok (c := c) h
  cases result with
  | dict reply => exact absurd rfl (hr reply)
  | none => exact hc
  | object => exact hc

end Runs

/-! ## What follows the request -/

section Emits

variable {p : Effect → Prop} {env : ExecEnv} {order : Order} (hp : ∀ e, p (.event e))
include hp

theorem emits_publish (l : List OrderEvent) : Method.Emits p (publish l) := by
  apply Method.emits_emitAll
  intro w hw
  obtain ⟨e, -, rfl⟩ := List.mem_map.mp hw
  exact hp e

theorem emits_interpretReply (reply : SendReply) : Method.Emits p (interpretReply env.cache order reply) := by
  rw [interpretReply]
  split
  · apply Method.emits_bind (emits_publish hp _)
    intro u
    apply Method.emits_ofExcept_bind
    exact fun fill _ => emits_publish hp fill
  · split
    · exact emits_publish hp _
    · exact Method.emits_pure ()

/-- Whatever the answer is, only events follow it. -/
theorem emits_readAnswer (result : SendResult) : Method.Emits p (readAnswer env order result) := by
  cases result with
  | dict reply => exact emits_interpretReply hp reply
  | none => exact Method.emits_pure ()
  | object => exact Method.emits_pure ()

theorem emits_rejectValueError (e : Error) : Method.Emits p (rejectValueError order e) := by
  cases e with
  | valueError msg => exact emits_publish hp _
  | _ => exact Method.emits_throw _

/-- **The rule of a submission**: what holds of the request and of all events holds of all that is emitted. -/
theorem emits_submitOrder_of (hsend : Method.Emits p (sendOrder env order)) :
    Method.Emits p (submitOrder env order) := by
  refine Method.emits_tryCatch (Method.emits_bind hsend fun result => ?_) (emits_rejectValueError hp)
  exact Method.emits_bind (emits_publish hp _) fun _ => emits_readAnswer hp result

end Emits

end NautilusMt5
