import NautilusMt5.Execution.Reports

/-!
# A status query and the cancels it publishes

`generate_order_status_report` cancels the order of the query when no open order matches. That is right only when the
open orders were fetched, none of them is the order, and the order is open.

* `run_query_error`, `run_query_ok`, `run_cancelNotFound`: the outcomes of a query, by the order it takes;
* `query_safe_iff`: the queries that do not raise and cancel nothing they should not.

A failed fetch leaves no open orders, dict rows carry no order reference, and any status but CANCELED lets the cancel
through: each cancels an order that is live or closed (`listed_order_canceled`).
-/

namespace NautilusMt5

open Py

/-! ## What a query may do -/

/-- The open order is the one with the client order id `ref` that is cached as `order`. -/
def IsListedAs (ref : String) (order : Order) (o : MT5Order) : Prop :=
  o.orderRef = ref ∨ order.venueOrderId = some (toString o.orderId)

/-- A cancel of the cached order is right: the fetch succeeded, the order is absent, and it is open. -/
structure CancelJustified (env : ReportEnv) (fetch : Fetched OrderRow) (ref : String) (order : Order) : Prop where
  succeeded : fetch.Succeeded
  absent : ∀ o, .order o ∈ listedOrders env.accountId fetch → ¬ IsListedAs ref order o
  stillOpen : order.status.IsOpen

/-- The query does not raise, and each cancel is a right cancel of the cached order of the query. -/
def QuerySafe (env : ReportEnv) (fetch : Fetched OrderRow) (q : StatusQuery)
    (outcome : Outcome OrderEvent Error Unit (Option OrderStatusReport)) : Prop :=
  (∃ report, outcome.value = .ok report) ∧
    ∀ ids venueOrderId, .canceled ids venueOrderId ∈ outcome.emitted →
      ∃ ref order, q.clientOrderId = some ref ∧ env.cache.order ref = some order ∧
        CancelJustified env fetch ref order

/-- The cached order of a query that no open order matches: canceled already, or open and gone from a fetched book. -/
def GoneOrCanceled (env : ReportEnv) (fetch : Fetched OrderRow) (order : Order) : Prop :=
  order.status = .canceled ∨
    fetch.Succeeded ∧ order.status.IsOpen ∧
      ∀ o, .order o ∈ listedOrders env.accountId fetch → order.venueOrderId ≠ some (toString o.orderId)

/-- Every row converts, and either the first open order that the query names is reportable, or none is named, the
query has a client order id, and a cached order under it is gone or canceled. -/
def QueryHandled (env : ReportEnv) (fetch : Fetched OrderRow) (q : StatusQuery) : Prop :=
  (q.clientOrderId = none ∧ q.venueOrderId = none) ∨
    (∀ row ∈ fetch.allRaw, Collect.Fine (decodeRow env.accountId) row) ∧
      ((∃ o instrument price triggerPrice, q.FirstMatch (listedOrders env.accountId fetch) o ∧
          Reportable env o instrument price triggerPrice) ∨
        (∀ x ∈ listedOrders env.accountId fetch, q.Passes x) ∧
          ∃ ref, q.clientOrderId = some ref ∧
            ∀ order, env.cache.order ref = some order → GoneOrCanceled env fetch order)

/-! ## The outcomes of a query -/

section Run

variable {env : ReportEnv} {fetch : Fetched OrderRow} {q : StatusQuery}

/-- A row that does not convert, or a native row before the match, leaves the query with an exception. -/
theorem run_query_error {e : Error} (hq : ¬ (q.clientOrderId = none ∧ q.venueOrderId = none))
    (h : queriedOrder env fetch q = .error e) :
    (generateOrderStatusReport env fetch q).run () = ⟨[], (), .error e⟩ := by
  rw [generateOrderStatusReport, if_neg hq, Method.run_bind_of_error (e := e)]
  rw [Method.run_ofExcept, h]

/-- Otherwise the order that was found decides. -/
theorem run_query_ok {found : Option MT5Order} (hq : ¬ (q.clientOrderId = none ∧ q.venueOrderId = none))
    (h : queriedOrder env fetch q = .ok found) :
    (generateOrderStatusReport env fetch q).run () = (answerQuery env q found).run () := by
  have hf : (Method.ofExcept (queriedOrder env fetch q) : Query (Option MT5Order)).run () = ⟨[], (), .ok found⟩ := by
    rw [Method.run_ofExcept, h]
  rw [generateOrderStatusReport, if_neg hq, Method.run_bind_of_ok _ hf, Outcome.after_nil]

/-- A query without a client order id that finds no order raises. -/
theorem run_cancelNotFound_none (h : q.clientOrderId = none) :
    ∃ e, (cancelNotFound env q).run () = ⟨[], (), .error e⟩ := by
  rw [cancelNotFound, h]
  exact ⟨_, Method.run_bind_of_error _ (Method.run_ofExcept _ _)⟩

/-- A query that finds no order cancels the cached order of its client order id. -/
theorem run_cancelNotFound_some {ref : String} (h : q.clientOrderId = some ref) :
    (cancelNotFound env q).run () =
      ⟨onOrderStatus env.cache ref "Cancelled" "Not found in query", (), .ok none⟩ := by
  have hv : clientOrderIdValue (some ref) = .ok ref := rfl
  rw [cancelNotFound, h, hv, Method.run_bind_of_ok _ (Method.run_ofExcept _ _),
    Method.run_bind_of_ok _ (Method.run_emitAll _ _)]
  simp [Outcome.after]

theorem queriedOrder_eq_ok_iff {found : Option MT5Order} : queriedOrder env fetch q = .ok found ↔
    (∀ row ∈ fetch.allRaw, Collect.Fine (decodeRow env.accountId) row) ∧
      findOrder q (listedOrders env.accountId fetch) = .ok found := by
  simp only [queriedOrder, bind_eq_ok, getOpenOrders_eq_ok_iff]
  constructor
  · rintro ⟨orders, ⟨hf, rfl⟩, h⟩
    exact ⟨hf, h⟩
  · rintro ⟨hf, h⟩
    exact ⟨_, ⟨hf, rfl⟩, h⟩

end Run

/-! ## Safe queries -/

section Safe

variable {env : ReportEnv} {fetch : Fetched OrderRow} {q : StatusQuery}

/-- A row that the query does not name is not the order of its client order id, but for the cached venue order id. -/
theorem isListedAs_of_passes {ref : String} {order : Order} {o : MT5Order} (href : q.clientOrderId = some ref)
    (hp : q.Passes (.order o)) : IsListedAs ref order o ↔ order.venueOrderId = some (toString o.orderId) := by
  obtain ⟨o', ho, hn⟩ := hp
  cases ho
  have hr : o.orderRef ≠ ref := by
    intro h
    exact hn (.inl (by rw [href, h]))
  simp [IsListedAs, hr]

/-- Where no open order is named, the cancels are right exactly when the cached order is gone or canceled already. -/
theorem cancels_justified_iff {ref : String} (href : q.clientOrderId = some ref)
    (hp : ∀ x ∈ listedOrders env.accountId fetch, q.Passes x) :
    (∀ ids venueOrderId, .canceled ids venueOrderId ∈
        onOrderStatus env.cache ref "Cancelled" "Not found in query" →
      ∃ ref order, q.clientOrderId = some ref ∧ env.cache.order ref = some order ∧
        CancelJustified env fetch ref order) ↔
      ∀ order, env.cache.order ref = some order → GoneOrCanceled env fetch order := by
  rw [onOrderStatus_cancelled]
  cases hc : env.cache.order ref with
  | none => simp
  | some order =>
    have hgone : CancelJustified env fetch ref order ↔ fetch.Succeeded ∧ order.status.IsOpen ∧
        ∀ o, .order o ∈ listedOrders env.accountId fetch → order.venueOrderId ≠ some (toString o.orderId) := by
      constructor
      · intro h
        exact ⟨h.succeeded, h.stillOpen,
          fun o ho hv => h.absent o ho ((isListedAs_of_passes href (hp _ ho)).mpr hv)⟩
      · rintro ⟨hs, ho, ha⟩
        exact ⟨hs, fun o hm hl => ha o hm ((isListedAs_of_passes href (hp _ hm)).mp hl), ho⟩
    by_cases hst : order.status = .canceled
    · simp [hst, GoneOrCanceled]
    · simp [hst, href, hc, hgone, GoneOrCanceled]

/-- The condition, by the order that the query takes. -/
theorem queryHandled_iff (hq : ¬ (q.clientOrderId = none ∧ q.venueOrderId = none)) : QueryHandled env fetch q ↔
    (∃ o, queriedOrder env fetch q = .ok (some o) ∧
      ∃ report, parseMt5OrderToOrderStatusReport env (.order o) = .ok report) ∨
    (queriedOrder env fetch q = .ok none ∧ ∃ ref, q.clientOrderId = some ref ∧
      ∀ order, env.cache.order ref = some order → GoneOrCanceled env fetch order) := by
  simp only [queriedOrder_eq_ok_iff, findOrder_eq_some_iff, findOrder_eq_none_iff, parse_eq_ok_iff]
  unfold QueryHandled
  constructor
  · rintro (h | ⟨hf, ⟨o, instrument, price, triggerPrice, hm, hr⟩ | ⟨hp, href⟩⟩)
    · exact absurd h hq
    · exact .inl ⟨o, ⟨hf, hm⟩, _, instrument, price, triggerPrice, hr, rfl⟩
    · exact .inr ⟨⟨hf, hp⟩, href⟩
  · rintro (⟨o, ⟨hf, hm⟩, report, instrument, price, triggerPrice, hr, -⟩ | ⟨⟨hf, hp⟩, href⟩)
    · exact .inr ⟨hf, .inl ⟨o, instrument, price, triggerPrice, hm, hr⟩⟩
    · exact .inr ⟨hf, .inr ⟨hp, href⟩⟩

/-- **A status query is safe** exactly when it is handled. -/
theorem query_safe_iff (env : ReportEnv) (fetch : Fetched OrderRow) (q : StatusQuery) :
    QuerySafe env fetch q ((generateOrderStatusReport env fetch q).run ()) ↔ QueryHandled env fetch q := by
  by_cases hq : q.clientOrderId = none ∧ q.venueOrderId = none
  · rw [generateOrderStatusReport, if_pos hq]
    exact ⟨fun _ => .inl hq, fun _ => ⟨⟨none, rfl⟩, fun _ _ h => absurd h List.not_mem_nil⟩⟩
  · rw [queryHandled_iff hq]
    cases hf : queriedOrder env fetch q with
    | error e =>
      rw [run_query_error hq hf]
      simp [QuerySafe]
    | ok found =>
      rw [run_query_ok hq hf]
      cases found with
      | some o =>
        cases hr : parseMt5OrderToOrderStatusReport env (.order o) with
        | error e => simp [answerQuery, QuerySafe, hr, Except.map]
        | ok report => simp [answerQuery, QuerySafe, hr, Except.map]
      | none =>
        have hp := findOrder_eq_none_iff.mp (queriedOrder_eq_ok_iff.mp hf).2
        cases href : q.clientOrderId with
        | none =>
          obtain ⟨e, he⟩ := @run_cancelNotFound_none env q href
          rw [answerQuery, he]
          simp [QuerySafe]
        | some ref =>
          rw [answerQuery, run_cancelNotFound_some href, QuerySafe, cancels_justified_iff href hp]
          simp

end Safe

/-! ## A live order that a query cancels -/

/-- An accepted limit order with the ticket 77. -/
def restingBuyLimit : Order where
  strategyId := "S-001"
  instrumentId := eurusd.id
  clientOrderId := "O-3"
  venueOrderId := some "77"
  side := .buy
  orderType := .limit
  timeInForce := .gtc
  quantity := 1
  price := some 95
  triggerPrice := none
  status := .accepted

/-- `eurusd` and `restingBuyLimit` are cached, and the provider finds nothing else. -/
def sampleReportEnv : ReportEnv where
  cache :=
    { instrument := fun id => if id = eurusd.id then some eurusd else none
      order := fun id => if id = "O-3" then some restingBuyLimit else none }
  accountId := "1001"
  find := fun _ => .ok none

/-- The row of `restingBuyLimit` at the broker. -/
def restingRow : OrderDict where
  ticket := some (.ok 77)
  symbol := some "EURUSD"
  volumeInitial := some (.ok 1)
  volumeCurrent := some (.ok 1)
  priceOpen := some (.ok 95)
  type := some (.ok 2)
  typeTime := some (.ok 0)
  typeFilling := some (.ok 2)
  state := some (.ok 1)

/-- **A query cancels an order that the broker lists**: the row of the ticket has no reference that the client order
id could match. -/
theorem listed_order_canceled :
    ∃ env fetch q, (∃ o, .order o ∈ listedOrders env.accountId fetch ∧ IsListedAs "O-3" restingBuyLimit o) ∧
      .canceled restingBuyLimit.ids (some "77") ∈ ((generateOrderStatusReport env fetch q).run ()).emitted ∧
      ¬ QuerySafe env fetch q ((generateOrderStatusReport env fetch q).run ()) := by
  let o : MT5Order :=
    { orderId := 77, symbol := "EURUSD", volume := 1, price := 95, type := 2, typeFilling := 2, state := 1,
      account := "1001" }
  have hlist : listedOrders sampleReportEnv.accountId (.rows [.dict restingRow]) = [.order o] := by decide +kernel
  have hrow : .order o ∈ listedOrders sampleReportEnv.accountId (.rows [.dict restingRow]) := by
    rw [hlist]
    exact List.mem_singleton_self _
  have hven : restingBuyLimit.venueOrderId = some (toString o.orderId) := by decide +kernel
  have hcancel : .canceled restingBuyLimit.ids (some "77") ∈
      ((generateOrderStatusReport sampleReportEnv (.rows [.dict restingRow]) ⟨some "O-3", none⟩).run ()).emitted := by
    decide +kernel
  refine ⟨sampleReportEnv, .rows [.dict restingRow], ⟨some "O-3", none⟩, ⟨o, hrow, .inr hven⟩, hcancel, ?_⟩
  rintro ⟨-, h⟩
  obtain ⟨ref, order, href, hc, hj⟩ := h _ _ hcancel
  cases href
  cases hc
  exact hj.absent o hrow (.inr hven)

end NautilusMt5
