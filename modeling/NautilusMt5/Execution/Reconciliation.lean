import NautilusMt5.Execution.StatusQuery

/-!
# Reconciliation and the rows it loses

`generate_order_status_reports` returns at once when there are no open positions, and its two loops have no handler
for a row that raises. What is owed is said of the broker's rows and of the instruments alone: a report for every row
of an open order whose instrument is resolved, and one for every open position with a cached instrument.

* `forall₂_of_orders`, `forall₂_of_positions`: loops that return have reported what is owed;
* `reports_complete_iff`: when the method reports all that is owed.
-/

namespace NautilusMt5

open Py

/-! ## What is owed -/

/-- The ticket and the symbol of a row of an open order; none for a row of another account, or without a ticket. -/
def OrderRow.key (accountId : String) : OrderRow → Option (ℤ × String)
  | .dict row =>
    match (row.ticket.orElse none).getD 0 with
    | .ok ticket => if ticket = 0 then none else some (ticket, row.symbol.getD "")
    | .error _ => none
  | .object (.native ticket symbol) => some (ticket, symbol)
  | .object (.order o) => if o.account = accountId ∨ o.account = "" then some (o.orderId, o.symbol) else none

/-- A row of an open order whose instrument is resolved: its ticket and the instrument. -/
def OrderRow.owed (env : ReportEnv) (row : OrderRow) : Option (ℤ × Instrument) :=
  match row.key env.accountId with
  | none => none
  | some (ticket, symbol) =>
    match resolveInstrument env symbol with
    | .ok instrument => some (ticket, instrument)
    | .error _ => none

/-- The open orders at the broker whose instruments are resolved. -/
def owedOrders (env : ReportEnv) (orders : Fetched OrderRow) : List (ℤ × Instrument) :=
  orders.allRaw.filterMap (OrderRow.owed env)

/-- An open position with a cached instrument. -/
def MT5Position.owed (env : ReportEnv) (p : MT5Position) : Option (MT5Position × Instrument) :=
  if p.quantity = 0 then none
  else
    match mt5SymbolToInstrumentId p.symbol with
    | .ok id => (env.cache.instrument id).map fun instrument => (p, instrument)
    | .error _ => none

/-- The report is of the order with this ticket and instrument. -/
structure IsReportOf (env : ReportEnv) (order : ℤ × Instrument) (report : OrderStatusReport) : Prop where
  accountId : report.accountId = env.accountId
  venueOrderId : report.venueOrderId = toString order.1
  instrumentId : report.instrumentId = order.2.id

/-- The report is the filled order that is inferred from the position. -/
structure IsInferredFrom (env : ReportEnv) (position : MT5Position × Instrument) (report : OrderStatusReport) :
    Prop where
  accountId : report.accountId = env.accountId
  instrumentId : report.instrumentId = position.2.id
  orderStatus : report.orderStatus = .filled
  quantity : report.quantity = |position.1.quantity|

/-- **Every open order is reported**: behind the reports that are inferred from the open positions there is exactly one
for each row of an open order whose instrument is resolved. -/
def ReportsComplete (env : ReportEnv) (positions : Fetched PositionRow) (orders : Fetched OrderRow)
    (result : Except Error (List OrderStatusReport)) : Prop :=
  ∃ inferred reports, result = .ok (inferred ++ reports) ∧
    List.Forall₂ (IsInferredFrom env) ((listedPositions env.accountId positions).filterMap (MT5Position.owed env))
      inferred ∧
    List.Forall₂ (IsReportOf env) (owedOrders env orders) reports

/-! ## The rows that let all be reported -/

/-- The position is closed, or its symbol has an id and a cached instrument under it makes the average price. -/
def MT5Position.Priced (env : ReportEnv) (p : MT5Position) : Prop :=
  p.quantity ≠ 0 → ∃ id, mt5SymbolToInstrumentId p.symbol = .ok id ∧
    ∀ instrument, env.cache.instrument id = some instrument →
      ∃ avgPx, instrument.makePrice (p.avgCost / instrument.multiplier) = .ok avgPx

/-- The open order is an `MT5Order` of which a report can be made. -/
def OpenOrder.Reportable (env : ReportEnv) (x : OpenOrder) : Prop :=
  ∃ o instrument price triggerPrice, x = .order o ∧ NautilusMt5.Reportable env o instrument price triggerPrice

/-- The first row that does not convert raises a `RuntimeError`. -/
def RowsUnavailable (env : ReportEnv) (orders : Fetched OrderRow) : Prop :=
  ∃ before row after msg, orders.allRaw = before ++ row :: after ∧
    (∀ r ∈ before, Collect.Fine (decodeRow env.accountId) r) ∧
    decodeRow env.accountId row = .error (.runtimeError msg)

/-- Position rows convert, and either there is no position and no open order is owed either, or every position is
priced and every order row converts to an order of which a report can be made. A `RuntimeError` of the open orders
leaves no orders, which is right when none is owed. -/
def NothingSuppressed (env : ReportEnv) (positions : Fetched PositionRow) (orders : Fetched OrderRow) : Prop :=
  (∀ row ∈ positions.allRaw, Collect.Fine (decodePosition env.accountId) row) ∧
    (listedPositions env.accountId positions = [] ∧ owedOrders env orders = [] ∨
      listedPositions env.accountId positions ≠ [] ∧
        (∀ p ∈ listedPositions env.accountId positions, p.Priced env) ∧
        ((∀ row ∈ orders.allRaw, Collect.Fine (decodeRow env.accountId) row) ∧
            (∀ o ∈ listedOrders env.accountId orders, o.Reportable env) ∨
          RowsUnavailable env orders ∧ owedOrders env orders = []))

/-! ## One row -/

section Rows

variable {env : ReportEnv}

/-- The two ways in which the report of a position is made, and what it says. -/
theorem positionReport_of_owed {p : MT5Position} {ys : List OrderStatusReport} (h : positionReport env p = .ok ys) :
    p.Priced env ∧ List.Forall₂ (IsInferredFrom env) (p.owed env).toList ys := by
  by_cases hzero : p.quantity = 0
  · rw [positionReport, if_pos hzero] at h
    cases h
    rw [MT5Position.owed, if_pos hzero]
    exact ⟨fun hne => absurd hzero hne, .nil⟩
  · rw [positionReport, if_neg hzero] at h
    obtain ⟨id, hid, h⟩ := bind_eq_ok.mp h
    cases hi : env.cache.instrument id with
    | none =>
      rw [hi] at h
      cases h
      refine ⟨fun _ => ⟨id, hid, fun instrument hsome => ?_⟩, ?_⟩
      · rw [hi] at hsome
        cases hsome
      · rw [MT5Position.owed, if_neg hzero, hid]
        simp only [hi]
        exact .nil
    | some instrument =>
      rw [hi] at h
      obtain ⟨avgPx, hpx, h⟩ := bind_eq_ok.mp h
      cases h
      refine ⟨fun _ => ⟨id, hid, fun instrument' hsome => ⟨avgPx, ?_⟩⟩, ?_⟩
      · cases Option.some.inj (hi.symm.trans hsome)
        exact hpx
      · rw [MT5Position.owed, if_neg hzero, hid]
        simp only [hi]
        exact .cons ⟨rfl, rfl, rfl, rfl⟩ .nil

theorem fine_positionReport_iff {p : MT5Position} : Collect.Fine (positionReport env) p ↔ p.Priced env := by
  constructor
  · rintro ⟨ys, h⟩
    exact (positionReport_of_owed h).1
  · intro h
    by_cases hzero : p.quantity = 0
    · exact ⟨[], by rw [positionReport, if_pos hzero]⟩
    · obtain ⟨id, hid, hpx⟩ := h hzero
      rw [Collect.Fine, positionReport, if_neg hzero, hid]
      cases hi : env.cache.instrument id with
      | none => exact ⟨[], by simp only [bind, Except.bind, hi]; rfl⟩
      | some instrument =>
        obtain ⟨avgPx, hpx⟩ := hpx instrument hi
        exact ⟨_, by simp only [bind, Except.bind, hi, hpx]; rfl⟩

theorem fine_openOrderReport_iff {x : OpenOrder} : Collect.Fine (openOrderReport env) x ↔ x.Reportable env := by
  constructor
  · rintro ⟨ys, h⟩
    cases hp : parseMt5OrderToOrderStatusReport env x with
    | error e =>
      rw [openOrderReport, hp] at h
      cases h
    | ok report =>
      cases x with
      | native ticket symbol => cases hp
      | order o =>
        obtain ⟨instrument, price, triggerPrice, hr, -⟩ := parse_eq_ok_iff.mp hp
        exact ⟨o, instrument, price, triggerPrice, rfl, hr⟩
  · rintro ⟨o, instrument, price, triggerPrice, rfl, hr⟩
    exact ⟨_, by rw [openOrderReport, parse_eq_ok_iff.mpr ⟨_, _, _, hr, rfl⟩]; rfl⟩

/-- The report of an open order is the one that is owed to its ticket and its symbol. -/
theorem openOrderReport_of_owed {x : OpenOrder} {ys : List OrderStatusReport} (h : openOrderReport env x = .ok ys) :
    ∃ o instrument, x = .order o ∧ resolveInstrument env o.symbol = .ok instrument ∧
      List.Forall₂ (IsReportOf env) [(o.orderId, instrument)] ys := by
  obtain ⟨o, instrument, price, triggerPrice, rfl, hr⟩ := fine_openOrderReport_iff.mp ⟨ys, h⟩
  rw [openOrderReport, parse_eq_ok_iff.mpr ⟨_, _, _, hr, rfl⟩] at h
  cases h
  exact ⟨o, instrument, rfl, hr.resolved, .cons ⟨rfl, rfl, rfl⟩ .nil⟩

/-- A row that converts has a key exactly when it gives an open order, of that ticket and symbol. -/
theorem key_of_decodeRow {row : OrderRow} {xs : List OpenOrder} (h : decodeRow env.accountId row = .ok xs) :
    row.key env.accountId = none ∧ xs = [] ∨
      (∃ o, row.key env.accountId = some (o.orderId, o.symbol) ∧ xs = [.order o]) ∨
      ∃ ticket symbol, xs = [.native ticket symbol] := by
  cases row with
  | dict row =>
    simp only [decodeRow, decodeDict] at h
    obtain ⟨ticket, ht, h⟩ := bind_eq_ok.mp h
    by_cases hzero : ticket = 0
    · simp only [hzero, if_true] at h
      cases h
      left
      simp [OrderRow.key, ht, hzero]
    · simp only [hzero, if_false, bind_eq_ok] at h
      obtain ⟨volume, -, price, -, type, -, typeTime, -, typeFilling, -, state, -, h⟩ := h
      cases h
      right
      left
      exact ⟨_, by simp [OrderRow.key, ht, hzero], rfl⟩
  | object x =>
    cases x with
    | native ticket symbol =>
      cases h
      exact .inr (.inr ⟨ticket, symbol, rfl⟩)
    | order o =>
      by_cases ha : o.account = env.accountId ∨ o.account = ""
      · rw [decodeRow, if_pos ha] at h
        cases h
        exact .inr (.inl ⟨o, by rw [OrderRow.key, if_pos ha], rfl⟩)
      · rw [decodeRow, if_neg ha] at h
        cases h
        exact .inl ⟨by rw [OrderRow.key, if_neg ha], rfl⟩

/-- The reports that the orders of one row get are the ones that it is owed. -/
theorem forall₂_of_row {row : OrderRow} {xs : List OpenOrder} {ys : List OrderStatusReport}
    (hd : decodeRow env.accountId row = .ok xs) (hc : Collect.collect (openOrderReport env) xs = .ok ys) :
    List.Forall₂ (IsReportOf env) (row.owed env).toList ys := by
  rcases key_of_decodeRow hd with ⟨hk, rfl⟩ | ⟨o, hk, rfl⟩ | ⟨ticket, symbol, rfl⟩
  · cases hc
    simp [OrderRow.owed, hk]
  · rw [Collect.collect_singleton] at hc
    obtain ⟨o', instrument, ho, hi, hr⟩ := openOrderReport_of_owed hc
    cases ho
    simpa [OrderRow.owed, hk, hi] using hr
  · rw [Collect.collect_singleton] at hc
    cases hc

end Rows

/-! ## Both lists -/

section Reports

variable {env : ReportEnv} {positions : Fetched PositionRow} {orders : Fetched OrderRow}

/-- The loop over the positions infers what is owed. -/
theorem forall₂_of_positions {ps : List MT5Position} {inferred : List OrderStatusReport}
    (hc : Collect.collect (positionReport env) ps = .ok inferred) :
    List.Forall₂ (IsInferredFrom env) (ps.filterMap (MT5Position.owed env)) inferred := by
  refine Collect.forall₂_of_collect (fun p _ ys hys => ?_) (by rwa [List.flatMap_singleton'])
  rw [Collect.collect_singleton] at hys
  exact (positionReport_of_owed hys).2

/-- The loop over the open orders of rows that convert reports what is owed. -/
theorem forall₂_of_orders (hrows : ∀ row ∈ orders.allRaw, Collect.Fine (decodeRow env.accountId) row)
    {reports : List OrderStatusReport}
    (hc : Collect.collect (openOrderReport env) (listedOrders env.accountId orders) = .ok reports) :
    List.Forall₂ (IsReportOf env) (owedOrders env orders) reports := by
  refine Collect.forall₂_of_collect (fun row hrow ys hys => ?_) hc
  obtain ⟨xs, hx⟩ := hrows row hrow
  rw [Collect.items_of_ok hx] at hys
  exact forall₂_of_row hx hys

/-- The open orders that the second loop goes over: those of rows that convert, or none after a `RuntimeError`. -/
theorem openOrdersOrNone_eq_ok_iff {listed : List OpenOrder} : openOrdersOrNone env orders = .ok listed ↔
    (∀ row ∈ orders.allRaw, Collect.Fine (decodeRow env.accountId) row) ∧
        listed = listedOrders env.accountId orders ∨
      RowsUnavailable env orders ∧ listed = [] := by
  unfold openOrdersOrNone
  cases h : getOpenOrders env.accountId orders with
  | ok l =>
    obtain ⟨hf, rfl⟩ := getOpenOrders_eq_ok_iff.mp h
    have hno : ¬ RowsUnavailable env orders := by
      rintro ⟨before, row, after, msg, hrows, hb, hrow⟩
      rw [getOpenOrders, Collect.collect_eq_error_iff.mpr ⟨before, row, after, hrows, hb, hrow⟩] at h
      cases h
    constructor
    · exact fun hl => .inl ⟨hf, (Except.ok.inj hl).symm⟩
    · rintro (⟨-, rfl⟩ | ⟨hun, -⟩)
      · rfl
      · exact absurd hun hno
  | error e =>
    have hraises := Collect.collect_eq_error_iff.mp h
    have hnot : ¬ ∀ row ∈ orders.allRaw, Collect.Fine (decodeRow env.accountId) row := by
      intro hf
      rw [getOpenOrders, Collect.collect_of_fine hf] at h
      cases h
    cases e with
    | runtimeError msg =>
      obtain ⟨before, row, after, hrows, hb, hrow⟩ := hraises
      have hun : RowsUnavailable env orders := ⟨before, row, after, msg, hrows, hb, hrow⟩
      simp [hnot, hun, eq_comm]
    | _ =>
      have hno : ¬ RowsUnavailable env orders := by
        rintro ⟨before, row, after, msg, hrows, hb, hrow⟩
        rw [getOpenOrders, Collect.collect_eq_error_iff.mpr ⟨before, row, after, hrows, hb, hrow⟩] at h
        cases h
      simp [hnot, hno]

/-- **Reconciliation is complete** exactly when nothing is suppressed. -/
theorem reports_complete_iff (env : ReportEnv) (positions : Fetched PositionRow) (orders : Fetched OrderRow) :
    ReportsComplete env positions orders (generateOrderStatusReports env positions orders) ↔
      NothingSuppressed env positions orders := by
  constructor
  · rintro ⟨inferred, reports, hresult, hpositions, horders⟩
    rcases generate_eq_ok_iff.mp hresult with ⟨hrows, hflat, hnil⟩ | ⟨listed, hlisted, happend⟩
    · -- a flat account: no report at all
      obtain ⟨-, rfl⟩ := List.append_eq_nil_iff.mp hnil
      exact ⟨hrows, .inl ⟨hflat, List.forall₂_nil_right_iff.mp horders⟩⟩
    · refine ⟨hlisted.rows, .inr ⟨hlisted.notFlat, fun p hp => fine_positionReport_iff.mp (hlisted.positionsFine p hp),
        ?_⟩⟩
      have hall := hlisted.ordersFine
      rcases openOrdersOrNone_eq_ok_iff.mp hlisted.fetched with ⟨hf, rfl⟩ | ⟨hun, rfl⟩
      · exact .inl ⟨hf, fun o ho => fine_openOrderReport_iff.mp (hall o ho)⟩
      · -- the rows were unavailable: the reports are the inferred ones, so none is owed to an order
        have hinferred := forall₂_of_positions (Collect.collect_of_fine hlisted.positionsFine)
        have hlen := congrArg List.length happend
        rw [List.length_append, List.length_append, ← hpositions.length_eq, hinferred.length_eq] at hlen
        have hreports : reports = [] := by
          refine List.eq_nil_of_length_eq_zero ?_
          have hnone : (Collect.salvage (openOrderReport env) ([] : List OpenOrder)).length = 0 := rfl
          omega
        rw [hreports] at horders
        exact .inr ⟨hun, List.forall₂_nil_right_iff.mp horders⟩
  · rintro ⟨hrows, ⟨hflat, howed⟩ | ⟨hflat, hpriced, horders⟩⟩
    · refine ⟨[], [], generate_eq_ok_iff.mpr (.inl ⟨hrows, hflat, rfl⟩), ?_, ?_⟩
      · rw [hflat]
        exact .nil
      · rw [howed]
        exact .nil
    · have hfine : ∀ p ∈ listedPositions env.accountId positions, Collect.Fine (positionReport env) p :=
        fun p hp => fine_positionReport_iff.mpr (hpriced p hp)
      have hinferred := forall₂_of_positions (Collect.collect_of_fine hfine)
      rcases horders with ⟨hconvert, hall⟩ | ⟨hun, howed⟩
      · have hof : ∀ o ∈ listedOrders env.accountId orders, Collect.Fine (openOrderReport env) o :=
          fun o ho => fine_openOrderReport_iff.mpr (hall o ho)
        refine ⟨_, _, generate_eq_ok_iff.mpr (.inr ⟨_, ⟨hrows, hflat, hfine, ?_, hof⟩, rfl⟩), hinferred,
          forall₂_of_orders hconvert (Collect.collect_of_fine hof)⟩
        exact openOrdersOrNone_eq_ok_iff.mpr (.inl ⟨hconvert, rfl⟩)
      · refine ⟨_, [], generate_eq_ok_iff.mpr (.inr ⟨[], ⟨hrows, hflat, hfine, ?_, ?_⟩, rfl⟩), hinferred, ?_⟩
        · exact openOrdersOrNone_eq_ok_iff.mpr (.inr ⟨hun, rfl⟩)
        · exact fun o ho => absurd ho List.not_mem_nil
        · rw [howed]
          exact .nil

end Reports

/-- **A flat account loses its open orders**: without a position the limit order at the broker is in no report. -/
theorem flat_account_order_lost :
    ∃ env positions orders, (owedOrders env orders).map Prod.fst = [77] ∧
      generateOrderStatusReports env positions orders = .ok [] ∧
      ¬ ReportsComplete env positions orders (generateOrderStatusReports env positions orders) := by
  have howed : (owedOrders sampleReportEnv (.rows [.dict restingRow])).map Prod.fst = [77] := by decide +kernel
  have hnone : generateOrderStatusReports sampleReportEnv (.rows []) (.rows [.dict restingRow]) = .ok [] := rfl
  refine ⟨sampleReportEnv, .rows [], .rows [.dict restingRow], howed, hnone, ?_⟩
  rintro ⟨inferred, reports, hresult, -, horders⟩
  obtain ⟨-, rfl⟩ := List.append_eq_nil_iff.mp (Except.ok.inj (hnone.symm.trans hresult)).symm
  rw [List.forall₂_nil_right_iff.mp horders] at howed
  cases howed

end NautilusMt5
