import NautilusMt5.Execution.Submit

/-!
# What a submission reports

* `executed_reply_reported_iff`: an executed volume (DONE or DONE_PARTIAL with a deal and a volume) is reported as a
  fill of that volume, and not as a rejection, exactly for DONE with a price where both values convert.
* `submission_settled_iff`: the events of a submission are one of the four complete sequences exactly when a
  `ValueError` comes before the answer, or the answer is a dict with a retcode and no `ValueError` follows it.

DONE_PARTIAL is in no success branch, so a partial execution is a rejection (`partial_fill_rejected`). An answer
without a retcode, or that is no dict, leaves the order submitted (`object_answer_limbo`).
-/

namespace NautilusMt5

open Py

/-! ## Answers -/

/-- The order can be written as a request: it is supported, and its instrument is cached with its symbol. -/
def Prepared (env : ExecEnv) (order : Order) : Prop :=
  Supported order.orderType order.timeInForce ∧
    ∃ instrument symbol, env.cache.instrument order.instrumentId = some instrument ∧
      instrument.symbolInfo = some symbol

/-- The broker answers the submission with the dict `reply`. -/
structure AnsweredWith (env : ExecEnv) (order : Order) (reply : SendReply) : Prop where
  prepared : Prepared env order
  reqIds : env.bridge.reqIds = .ok ()
  sent : env.bridge.sendOutcome = .ok (.dict reply)

/-- A `ValueError` comes before the answer: from the validation, or from the bridge. -/
def RefusedBeforeAnswer (env : ExecEnv) (order : Order) : Prop :=
  ¬ Supported order.orderType order.timeInForce ∨
    Prepared env order ∧
      (RaisesValueError env.bridge.reqIds ∨ env.bridge.reqIds = .ok () ∧ RaisesValueError env.bridge.sendOutcome)

section Answer

variable {env : ExecEnv} {order : Order}

/-- A prepared order is written without an exception. -/
theorem transform_of_prepared (h : Prepared env order) : ∃ mt5Order,
    transformOrderToMt5Order env.accountId order (env.cache.instrument order.instrumentId) = .ok mt5Order := by
  obtain ⟨hs, instrument, symbol, hi, hy⟩ := h
  obtain ⟨⟨action, mt5Type⟩, hr⟩ := mapOrderTypeAndAction_ok order.side hs.1
  rw [hi]
  exact ⟨_, transform_eq hy hr⟩

/-- A prepared order gets to the bridge. -/
theorem answer_of_prepared (h : Prepared env order) :
    answer env order = env.bridge.reqIds.bind fun _ => env.bridge.sendOutcome := by
  obtain ⟨mt5Order, ht⟩ := transform_of_prepared h
  rw [answer, validateOrderPreVenue_ok h.1, ht]
  rfl

/-- A supported order whose instrument or symbol is missing raises an exception that is no `ValueError`. -/
theorem answer_of_not_prepared (hs : Supported order.orderType order.timeInForce) (h : ¬ Prepared env order) :
    ∃ e, answer env order = .error e ∧ ¬ e.IsValueError := by
  have ha : ∀ e, instrumentSymbol (env.cache.instrument order.instrumentId) = .error e →
      answer env order = .error e := by
    intro e he
    rw [answer, validateOrderPreVenue_ok hs, transformOrderToMt5Order, he]
    rfl
  cases hi : env.cache.instrument order.instrumentId with
  | none => exact ⟨_, ha _ (by rw [hi]; rfl), id⟩
  | some instrument =>
    cases hy : instrument.symbolInfo with
    | none => exact ⟨_, ha _ (by rw [hi, instrumentSymbol, hy]), id⟩
    | some symbol => exact absurd ⟨hs, instrument, symbol, hi, hy⟩ h

theorem answer_of_not_supported (h : ¬ Supported order.orderType order.timeInForce) :
    RaisesValueError (answer env order) := by
  obtain ⟨value, rest, -, hv⟩ := validateOrderPreVenue_error h
  exact ⟨_, by rw [answer, hv]; rfl⟩

/-- An answer comes to prepared orders only. -/
theorem prepared_of_answer {result : SendResult} (h : answer env order = .ok result) : Prepared env order := by
  by_cases hs : Supported order.orderType order.timeInForce
  · by_contra hp
    obtain ⟨e, he, -⟩ := answer_of_not_prepared hs hp
    rw [h] at he
    cases he
  · obtain ⟨msg, he⟩ := @answer_of_not_supported env order hs
    rw [h] at he
    cases he

theorem answeredWith_iff {reply : SendReply} :
    AnsweredWith env order reply ↔ answer env order = .ok (.dict reply) := by
  constructor
  · intro h
    rw [answer_of_prepared h.prepared, h.reqIds, ← h.sent]
    rfl
  · intro h
    have hp := prepared_of_answer h
    rw [answer_of_prepared hp] at h
    cases hr : env.bridge.reqIds with
    | error e =>
      rw [hr] at h
      cases h
    | ok u =>
      rw [hr] at h
      exact ⟨hp, hr, h⟩

/-- What is refused before the answer is what raises a `ValueError` before it. -/
theorem refusedBeforeAnswer_iff : RefusedBeforeAnswer env order ↔ RaisesValueError (answer env order) := by
  unfold RefusedBeforeAnswer
  by_cases hs : Supported order.orderType order.timeInForce
  · by_cases hp : Prepared env order
    · rw [answer_of_prepared hp]
      cases env.bridge.reqIds with
      | error e => simp [hs, hp, Except.bind, raisesValueError_error]
      | ok u => simp [hs, hp, Except.bind]
    · obtain ⟨e, he, hv⟩ := answer_of_not_prepared hs hp
      simp [hs, hp, he, hv, raisesValueError_error]
  · simp [hs, answer_of_not_supported hs]

end Answer

/-! ## Executed volumes -/

/-- The answer reports executed volume. -/
def Executed (reply : SendReply) : Prop :=
  (reply.retcode.getD 0 = tradeRetcodeDone ∨ reply.retcode.getD 0 = tradeRetcodeDonePartial) ∧
    reply.deal.getD 0 ≠ 0 ∧ reply.volume.getD 0 ≠ 0

/-- No rejection is among the events, and a fill of the volume is. -/
def ReportsFill (events : List OrderEvent) (volume : ℚ) : Prop :=
  (∀ e ∈ events, e.kind ≠ .rejected) ∧ ∃ ids fill, .filled ids fill ∈ events ∧ fill.lastQty = volume

/-- The fill branch is taken and gives the volume: DONE with a price, on the grids of the cached instrument. -/
def FillsExactly (cache : Cache) (order : Order) (reply : SendReply) : Prop :=
  reply.retcode.getD 0 = tradeRetcodeDone ∧ reply.price.getD 0 ≠ 0 ∧
    ∃ instrument lastPx, cache.instrument order.instrumentId = some instrument ∧
      instrument.makeQty (reply.volume.getD 0) = .ok (reply.volume.getD 0) ∧
      instrument.makePrice (reply.price.getD 0) = .ok lastPx

section Executed

variable {cache : Cache} {order : Order} {reply : SendReply} {instrument : Instrument}

/-- **What the fill is**: none for an answer that was not executed at once, else the event of the converted values. -/
theorem immediateFill_eq_ok_iff {fill : List OrderEvent} : immediateFill cache order reply = .ok fill ↔
    (¬ IsImmediate reply ∨ cache.instrument order.instrumentId = none) ∧ fill = [] ∨
    IsImmediate reply ∧ ∃ instrument lastQty lastPx, cache.instrument order.instrumentId = some instrument ∧
      instrument.makeQty (reply.volume.getD 0) = .ok lastQty ∧
      instrument.makePrice (reply.price.getD 0) = .ok lastPx ∧
      fill = [.filled order.ids (fillOf order reply instrument lastQty lastPx)] := by
  unfold immediateFill
  by_cases h : IsImmediate reply
  · cases hi : cache.instrument order.instrumentId with
    | none => simp [h, eq_comm]
    | some instrument =>
      have hfill : ∀ l : List OrderEvent, l = fill ↔ fill = l := fun l => eq_comm
      simp [h, bind_eq_ok, pure, Except.pure, hfill]
  · simp [h, eq_comm]

/-- What the fill raises is what one of the conversions raises. -/
theorem immediateFill_eq_error_iff {e : Error} : immediateFill cache order reply = .error e ↔
    IsImmediate reply ∧ ∃ instrument, cache.instrument order.instrumentId = some instrument ∧
      (instrument.makeQty (reply.volume.getD 0) = .error e ∨
        ∃ lastQty, instrument.makeQty (reply.volume.getD 0) = .ok lastQty ∧
          instrument.makePrice (reply.price.getD 0) = .error e) := by
  unfold immediateFill
  by_cases h : IsImmediate reply
  · cases hi : cache.instrument order.instrumentId with
    | none => simp [h]
    | some instrument => simp [h, bind_eq_error, pure, Except.pure]
  · simp [h]

theorem replyEvents_of_fill {fill : List OrderEvent} (h : IsSuccess reply)
    (hf : immediateFill cache order reply = .ok fill) :
    replyEvents cache order reply = handleOrderEvent .accepted order (some (reply.order.getD 0)) ++ fill := by
  rw [replyEvents, if_pos h, hf]

theorem replyEvents_of_error {e : Error} (h : IsSuccess reply) (hf : immediateFill cache order reply = .error e) :
    replyEvents cache order reply =
      handleOrderEvent .accepted order (some (reply.order.getD 0)) ++ rejectionOf order e := by
  rw [replyEvents, if_pos h, hf]

theorem replyEvents_of_failure (h : ¬ IsSuccess reply) (h0 : reply.retcode.getD 0 ≠ 0) :
    replyEvents cache order reply = handleOrderEvent .rejected order none
      (reply.comment.getD ("MT5 retcode: " ++ toString (reply.retcode.getD 0))) := by
  rw [replyEvents, if_neg h, if_pos h0]

theorem replyEvents_of_zero (h0 : reply.retcode.getD 0 = 0) : replyEvents cache order reply = [] := by
  have h : ¬ IsSuccess reply := by rw [IsSuccess, h0]; decide
  rw [replyEvents, if_neg h, if_neg (not_not_intro h0)]

/-- No fill is among the events of a status. -/
theorem not_filled_mem_handleOrderEvent {status : OrderStatus} {orderId : Option ℤ} {reason : String} {ids : OrderIds}
    {fill : Fill} : .filled ids fill ∉ handleOrderEvent status order orderId reason := by
  cases status <;> simp [handleOrderEvent]

theorem not_filled_mem_rejectionOf {e : Error} {ids : OrderIds} {fill : Fill} :
    .filled ids fill ∉ rejectionOf order e := by
  cases e with
  | valueError msg =>
    rw [rejectionOf]
    exact not_filled_mem_handleOrderEvent
  | _ => exact List.not_mem_nil

/-- A fill after the answer is the immediate fill of a cached instrument. -/
theorem filled_mem_replyEvents {ids : OrderIds} {fill : Fill} (h : .filled ids fill ∈ replyEvents cache order reply) :
    IsImmediate reply ∧ ∃ instrument lastPx, cache.instrument order.instrumentId = some instrument ∧
      instrument.makeQty (reply.volume.getD 0) = .ok fill.lastQty ∧
      instrument.makePrice (reply.price.getD 0) = .ok lastPx := by
  unfold replyEvents at h
  split at h
  · rcases List.mem_append.mp h with h | h
    · exact absurd h not_filled_mem_handleOrderEvent
    · cases hf : immediateFill cache order reply with
      | error e =>
        rw [hf] at h
        exact absurd h not_filled_mem_rejectionOf
      | ok l =>
        rw [hf] at h
        rcases immediateFill_eq_ok_iff.mp hf with ⟨-, rfl⟩ | ⟨him, instrument, lastQty, lastPx, hi, hq, hp, rfl⟩
        · exact absurd h List.not_mem_nil
        · obtain ⟨-, rfl⟩ := OrderEvent.filled.inj (List.mem_singleton.mp h)
          exact ⟨him, instrument, lastPx, hi, hq, hp⟩
  · split at h
    · exact absurd h not_filled_mem_handleOrderEvent
    · exact absurd h List.not_mem_nil

/-- **An executed volume is reported** as a fill of that volume, and not as a rejection, exactly when the retcode is
DONE, the answer has a price, and the grids of the instrument take the price and keep the volume. -/
theorem executed_reply_reported_iff {env : ExecEnv} {order : Order} {reply : SendReply} (c : OrderClient)
    (ha : AnsweredWith env order reply) (hx : Executed reply) :
    ReportsFill (eventsOf ((submitOrder env order).run c).emitted) (reply.volume.getD 0) ↔
      FillsExactly env.cache order reply := by
  rw [events_submitOrder_dict (answeredWith_iff.mp ha)]
  constructor
  · rintro ⟨-, ids, fill, hf, hv⟩
    rcases List.mem_cons.mp hf with hf | hf
    · cases hf
    · obtain ⟨him, instrument, lastPx, hi, hq, hp⟩ := filled_mem_replyEvents hf
      rw [hv] at hq
      exact ⟨him.1, him.2.2.1, instrument, lastPx, hi, hq, hp⟩
  · rintro ⟨hc, hpr, instrument, lastPx, hi, hq, hp⟩
    have him : IsImmediate reply := ⟨hc, hx.2.1, hpr, hx.2.2⟩
    have hf := immediateFill_eq_ok_iff.mpr (.inr ⟨him, instrument, _, lastPx, hi, hq, hp, rfl⟩)
    rw [replyEvents_of_fill (.inl hc) hf]
    refine ⟨?_, order.ids, _, List.mem_cons_of_mem _ (List.mem_append_right _ (List.mem_singleton_self _)), rfl⟩
    intro e he
    simp only [handleOrderEvent, List.mem_cons, List.mem_append, List.not_mem_nil, or_false] at he
    rcases he with rfl | he | rfl
    · simp [OrderEvent.kind]
    · split at he
      · rw [List.mem_singleton.mp he]
        simp [OrderEvent.kind]
      · exact absurd he List.not_mem_nil
    · simp [OrderEvent.kind]

end Executed

/-! ## An order to run on -/

def buyMarket : Order where
  strategyId := "S-001"
  instrumentId := eurusd.id
  clientOrderId := "O-1"
  venueOrderId := none
  side := .buy
  orderType := .market
  timeInForce := .ioc
  quantity := 1
  price := none
  triggerPrice := none
  status := .initialized

/-- `buyMarket` where a send ends with `outcome`. -/
def answering (outcome : Except Error SendResult) : ExecEnv := sampleEnv buyMarket outcome

theorem prepared_buyMarket (outcome : Except Error SendResult) : Prepared (answering outcome) buyMarket :=
  ⟨by decide, eurusd, "EURUSD", rfl, rfl⟩

theorem answeredWith_buyMarket (reply : SendReply) : AnsweredWith (answering (.ok (.dict reply))) buyMarket reply :=
  ⟨prepared_buyMarket _, rfl, rfl⟩

/-- DONE for the whole order. -/
def doneReply : SendReply where
  retcode := some 10009
  order := some 5
  deal := some 7
  price := some 2
  volume := some 1

theorem executed_reply_reported_done :
    ReportsFill (eventsOf ((submitOrder (answering (.ok (.dict doneReply))) buyMarket).run freshClient).emitted) 1 :=
  (executed_reply_reported_iff freshClient (answeredWith_buyMarket doneReply)
    ⟨.inl rfl, by decide, by decide +kernel⟩).mpr ⟨rfl, by decide +kernel, eurusd, 2, rfl, rfl, rfl⟩

/-- Half of the order was executed: DONE_PARTIAL with a deal, a price and a volume. -/
def partialReply : SendReply where
  retcode := some 10010
  order := some 5
  deal := some 7
  price := some 2
  volume := some (1 / 2)

/-- **A partial execution is a rejection**: the order is submitted, then rejected, and the executed half is in no
event. -/
theorem partial_fill_rejected :
    ∃ env order reply, AnsweredWith env order reply ∧ Executed reply ∧
      (eventsOf ((submitOrder env order).run freshClient).emitted).map OrderEvent.kind = [.submitted, .rejected] ∧
      ¬ ReportsFill (eventsOf ((submitOrder env order).run freshClient).emitted) (reply.volume.getD 0) := by
  have hev : eventsOf ((submitOrder (answering (.ok (.dict partialReply))) buyMarket).run freshClient).emitted =
      [.submitted buyMarket.ids, .rejected buyMarket.ids "MT5 retcode: 10010"] := by decide +kernel
  refine ⟨answering (.ok (.dict partialReply)), buyMarket, partialReply, answeredWith_buyMarket _,
    ⟨.inr rfl, by decide, by decide +kernel⟩, ?_, ?_⟩
  · rw [hev]
    rfl
  · rw [hev]
    rintro ⟨h, -⟩
    exact h (.rejected buyMarket.ids "MT5 retcode: 10010") (by simp) rfl

/-! ## Complete sequences of events -/

/-- The complete sequences. -/
def settledTraces : List (List EventKind) :=
  [[.rejected], [.submitted, .accepted], [.submitted, .accepted, .filled], [.submitted, .rejected]]

/-- The conversion of an immediate fill raises a `ValueError`. -/
def FillRaises (cache : Cache) (order : Order) (reply : SendReply) : Prop :=
  IsImmediate reply ∧ ∃ instrument, cache.instrument order.instrumentId = some instrument ∧
    (RaisesValueError (instrument.makeQty (reply.volume.getD 0)) ∨
      (∃ lastQty, instrument.makeQty (reply.volume.getD 0) = .ok lastQty) ∧
        RaisesValueError (instrument.makePrice (reply.price.getD 0)))

/-- The answer dict decides the order: a success retcode accepts it and no `ValueError` of the fill follows, another
retcode rejects it. The status of an order that is accepted or rejected already suppresses that event. -/
def ReplySettles (cache : Cache) (order : Order) (reply : SendReply) : Prop :=
  (IsSuccess reply ∧ ¬ FillRaises cache order reply ∧ order.status ≠ .accepted) ∨
  (IsSuccess reply ∧ FillRaises cache order reply ∧ (order.status = .accepted ∨ order.status = .rejected)) ∨
  (¬ IsSuccess reply ∧ reply.retcode.getD 0 ≠ 0 ∧ order.status ≠ .rejected)

/-- The submission is refused by a `ValueError`, or answered by a dict that decides. -/
def Settles (env : ExecEnv) (order : Order) : Prop :=
  RefusedBeforeAnswer env order ∧ order.status ≠ .rejected ∨
    ∃ reply, AnsweredWith env order reply ∧ ReplySettles env.cache order reply

section Settled

variable {env : ExecEnv} {cache : Cache} {order : Order} {reply : SendReply} {c : OrderClient}

theorem kinds_rejectionOf {e : Error} : (rejectionOf order e).map OrderEvent.kind =
    if e.IsValueError ∧ order.status ≠ .rejected then [.rejected] else [] := by
  cases e with
  | valueError msg =>
    rw [rejectionOf, kind_rejected]
    by_cases h : order.status = .rejected <;> simp [h, Error.IsValueError]
  | _ => simp [rejectionOf, Error.IsValueError]

/-- Before the answer only a `ValueError` settles the order. -/
theorem settled_of_error {e : Error} (h : answer env order = .error e) :
    (eventsOf ((submitOrder env order).run c).emitted).map OrderEvent.kind ∈ settledTraces ↔
      e.IsValueError ∧ order.status ≠ .rejected := by
  rw [events_submitOrder_error h, kinds_rejectionOf]
  by_cases hc : e.IsValueError ∧ order.status ≠ .rejected
  · simp [hc, settledTraces]
  · simp [hc, settledTraces]

/-- An answer that is no dict leaves the order submitted. -/
theorem not_settled_of_silent {result : SendResult} (h : answer env order = .ok result)
    (hr : ∀ reply, result ≠ .dict reply) :
    (eventsOf ((submitOrder env order).run c).emitted).map OrderEvent.kind ∉ settledTraces := by
  rw [events_submitOrder_silent h hr]
  simp [OrderEvent.kind, settledTraces]

/-- A fill is at most one event. -/
theorem kinds_immediateFill {fill : List OrderEvent} (h : immediateFill cache order reply = .ok fill) :
    fill.map OrderEvent.kind = [] ∨ fill.map OrderEvent.kind = [.filled] := by
  rcases immediateFill_eq_ok_iff.mp h with ⟨-, rfl⟩ | ⟨-, instrument, lastQty, lastPx, -, -, -, rfl⟩
  · exact .inl rfl
  · exact .inr rfl

/-- The conversions raise a `ValueError` when the fill does. -/
theorem fillRaises_iff : FillRaises cache order reply ↔ RaisesValueError (immediateFill cache order reply) := by
  simp only [FillRaises, RaisesValueError, immediateFill_eq_error_iff]
  constructor
  · rintro ⟨him, instrument, hi, ⟨msg, hq⟩ | ⟨⟨lastQty, hq⟩, msg, hp⟩⟩
    · exact ⟨msg, him, instrument, hi, .inl hq⟩
    · exact ⟨msg, him, instrument, hi, .inr ⟨lastQty, hq, hp⟩⟩
  · rintro ⟨msg, him, instrument, hi, hq | ⟨lastQty, hq, hp⟩⟩
    · exact ⟨him, instrument, hi, .inl ⟨msg, hq⟩⟩
    · exact ⟨him, instrument, hi, .inr ⟨⟨lastQty, hq⟩, msg, hp⟩⟩

/-- The events of an answer dict settle the order exactly when it decides. -/
theorem settled_of_reply :
    .submitted :: (replyEvents cache order reply).map OrderEvent.kind ∈ settledTraces ↔
      ReplySettles cache order reply := by
  rw [ReplySettles, fillRaises_iff]
  by_cases hs : IsSuccess reply
  · cases hf : immediateFill cache order reply with
    | ok fill =>
      have hr := raisesValueError_ok fill
      have hk := kinds_immediateFill hf
      rw [replyEvents_of_fill hs hf, List.map_append, kind_accepted]
      by_cases ha : order.status = .accepted
      · rcases hk with hk | hk <;> simp [hs, hr, ha, hk, settledTraces]
      · rcases hk with hk | hk <;> simp [hs, hr, ha, hk, settledTraces]
    | error e =>
      have hr := @raisesValueError_error (List OrderEvent) e
      rw [replyEvents_of_error hs hf, List.map_append, kind_accepted, kinds_rejectionOf]
      by_cases he : e.IsValueError
      · by_cases ha : order.status = .accepted
        · simp [hs, hr, he, ha, settledTraces]
        · by_cases hj : order.status = .rejected <;> simp [hs, hr, he, ha, hj, settledTraces]
      · by_cases ha : order.status = .accepted <;> simp [hs, hr, he, ha, settledTraces]
  · by_cases h0 : reply.retcode.getD 0 = 0
    · rw [replyEvents_of_zero h0]
      simp [hs, h0, settledTraces]
    · rw [replyEvents_of_failure hs h0, kind_rejected]
      by_cases hj : order.status = .rejected <;> simp [hs, h0, hj, settledTraces]

/-- **When a submission settles its order**: its events are one of the four complete sequences exactly when a
`ValueError` refuses it before the answer, or the answer is a dict that decides. -/
theorem submission_settled_iff (env : ExecEnv) (order : Order) (c : OrderClient) :
    (eventsOf ((submitOrder env order).run c).emitted).map OrderEvent.kind ∈ settledTraces ↔ Settles env order := by
  unfold Settles
  simp only [refusedBeforeAnswer_iff, answeredWith_iff]
  cases ha : answer env order with
  | error e =>
    rw [settled_of_error ha]
    simp [raisesValueError_error]
  | ok result =>
    cases result with
    | dict reply =>
      rw [events_submitOrder_dict ha, List.map_cons, OrderEvent.kind, settled_of_reply]
      simp
    | none => simp [not_settled_of_silent ha]
    | object => simp [not_settled_of_silent ha]

end Settled

/-- **The order stays submitted** when the answer is the object of a local terminal, even one that says DONE: no event
follows the submission. -/
theorem object_answer_limbo :
    ∃ env order c, env.bridge.sendOutcome = .ok .object ∧ order.status = .initialized ∧
      (eventsOf ((submitOrder env order).run c).emitted).map OrderEvent.kind = [.submitted] ∧
      (eventsOf ((submitOrder env order).run c).emitted).map OrderEvent.kind ∉ settledTraces := by
  have hev : (eventsOf ((submitOrder (answering (.ok .object)) buyMarket).run freshClient).emitted).map
      OrderEvent.kind = [.submitted] := by decide +kernel
  refine ⟨answering (.ok .object), buyMarket, freshClient, rfl, rfl, hev, ?_⟩
  rw [hev]
  decide

end NautilusMt5
