import NautilusMt5.Execution.StatusQuery

/-!
# Partial fills in order reports

A row of `orders_get` has the volume of the order and what of it is still open; the report made of the row should say
how much was filled. `get_open_orders` keeps the open volume only, and the report takes it for the quantity and never
fills anything: it is right exactly for a row without a fill whose state does not say that there was one
(`fill_accounting_iff`).
-/

namespace NautilusMt5

open Py

/-- A row of `orders_get`. -/
structure TradeOrder where
  ticket : ℤ
  symbol : String
  volumeInitial : ℚ
  volumeCurrent : ℚ
  priceOpen : ℚ
  priceStoplimit : ℚ
  type : ℤ
  typeTime : ℤ
  typeFilling : ℤ
  state : ℤ
  current_nonneg : 0 ≤ volumeCurrent
  current_le : volumeCurrent ≤ volumeInitial

namespace TradeOrder

/-- The row as a dict. -/
def row (t : TradeOrder) : OrderDict where
  ticket := some (.ok t.ticket)
  symbol := some t.symbol
  volumeInitial := some (.ok t.volumeInitial)
  volumeCurrent := some (.ok t.volumeCurrent)
  priceOpen := some (.ok t.priceOpen)
  priceStoplimit := some (.ok t.priceStoplimit)
  type := some (.ok t.type)
  typeTime := some (.ok t.typeTime)
  typeFilling := some (.ok t.typeFilling)
  state := some (.ok t.state)

/-- The volume that was executed. -/
def filled (t : TradeOrder) : ℚ := t.volumeInitial - t.volumeCurrent

/-- ORDER_STATE_PLACED, ORDER_STATE_PARTIAL or one of the ORDER_STATE_REQUEST states. -/
def IsLive (t : TradeOrder) : Prop := t.state ∈ ([1, 3, 7, 8, 9] : List ℤ)

/-- The report accounts for what was filled of the row. -/
structure Accounted (t : TradeOrder) (report : OrderStatusReport) : Prop where
  quantity : report.quantity = t.volumeInitial
  filled : report.filledQty = t.filled
  partially : report.orderStatus = .partiallyFilled ↔
    0 < report.filledQty ∧ report.filledQty < report.quantity ∧ t.IsLive
  filledSome : ¬ (report.orderStatus = .filled ∧ report.filledQty = 0)

/-- What `get_open_orders` keeps of the row: the open volume, and a state in which 0 is read as 1. -/
structure ReadAs (t : TradeOrder) (o : MT5Order) : Prop where
  volume : o.volume = t.volumeCurrent
  volumeFilled : o.volumeFilled = 0
  state : o.state = if t.state = 0 then 1 else t.state

theorem readAs_of_listed {t : TradeOrder} {accountId : String} {o : MT5Order}
    (h : .order o ∈ listedOrders accountId (.rows [.dict t.row])) : t.ReadAs o := by
  have hs : (DictField.orElse (some (.ok t.state)) none).getD 1 = .ok (if t.state = 0 then 1 else t.state) := by
    by_cases hz : t.state = 0
    · simp [hz]
    · rw [DictField.orElse_of_ne _ hz, DictField.getD_some, if_neg hz]
  have hd : decodeDict accountId t.row = .ok (if t.ticket = 0 then [] else [.order
      { orderId := t.ticket, symbol := t.symbol, volume := t.volumeCurrent, price := t.priceOpen, type := t.type,
        typeTime := t.typeTime, typeFilling := t.typeFilling, state := if t.state = 0 then 1 else t.state,
        account := accountId }]) := by
    simp only [decodeDict, row, DictField.orElse_none, DictField.getD_orElse_none, hs]
    by_cases ht : t.ticket = 0
    · simp [bind, Except.bind, pure, Except.pure, ht]
    · simp [bind, Except.bind, pure, Except.pure, ht]
  have hm : .order o ∈ Collect.items (decodeRow accountId) (.dict t.row) := by
    simpa [listedOrders, Fetched.allRaw, Collect.salvage] using h
  rw [Collect.items_of_ok (show decodeRow accountId (.dict t.row) = _ from hd)] at hm
  by_cases ht : t.ticket = 0
  · rw [if_pos ht] at hm
    cases hm
  · rw [if_neg ht] at hm
    obtain rfl := OpenOrder.order.inj (List.mem_singleton.mp hm)
    exact ⟨rfl, rfl, rfl⟩

/-- The status of a report is the one that the state maps to: no executed volume gets that far. -/
theorem ReadAs.reportStatus {t : TradeOrder} {o : MT5Order} (h : t.ReadAs o) :
    reportStatus o = mapOrderStatus o.state := by
  rw [NautilusMt5.reportStatus, if_neg]
  rintro ⟨-, hf⟩
  rw [h.volumeFilled] at hf
  exact lt_irrefl 0 hf

end TradeOrder

theorem mapOrderStatus_ne_partiallyFilled (state : ℤ) : mapOrderStatus state ≠ .partiallyFilled := by
  unfold mapOrderStatus
  split_ifs <;> decide

theorem mapOrderStatus_eq_filled {state : ℤ} : mapOrderStatus state = .filled ↔ state = 3 ∨ state = 4 := by
  unfold mapOrderStatus
  split_ifs with h1 h2 h3 h5 h6
  · simp only [List.mem_cons, List.not_mem_nil, or_false] at h1
    simp only [false_iff]
    omega
  · simp [h2]
  · simpa using h3
  · simp [h5]
  · simp [h6]
  · simpa using h3

/-- **Partial fills are accounted for** exactly when nothing was filled and the state is not one of a fill. -/
theorem fill_accounting_iff (env : ReportEnv) (t : TradeOrder) (o : MT5Order) (report : OrderStatusReport)
    (hl : .order o ∈ listedOrders env.accountId (.rows [.dict t.row]))
    (hr : parseMt5OrderToOrderStatusReport env (.order o) = .ok report) :
    t.Accounted report ↔ t.volumeCurrent = t.volumeInitial ∧ t.state ≠ 3 ∧ t.state ≠ 4 := by
  have hread := TradeOrder.readAs_of_listed hl
  obtain ⟨instrument, price, triggerPrice, -, rfl⟩ := parse_eq_ok_iff.mp hr
  have hstatus := hread.reportStatus
  have hstate : (o.state = 3 ∨ o.state = 4) ↔ (t.state = 3 ∨ t.state = 4) := by
    rw [hread.state]
    split_ifs with h
    · simp [h]
    · exact Iff.rfl
  constructor
  · intro h
    have hq : t.volumeCurrent = t.volumeInitial := hread.volume.symm.trans h.quantity
    have hn : ¬ (t.state = 3 ∨ t.state = 4) := by
      rw [← hstate, ← mapOrderStatus_eq_filled, ← hstatus]
      exact fun hf => h.filledSome ⟨hf, rfl⟩
    exact ⟨hq, not_or.mp hn⟩
  · rintro ⟨hq, h3, h4⟩
    refine ⟨hread.volume.trans hq, ?_, ?_, ?_⟩
    · show (0 : ℚ) = t.filled
      rw [TradeOrder.filled, hq, sub_self]
    · refine ⟨fun h => ?_, fun h => absurd h.1 (lt_irrefl 0)⟩
      exact absurd (hstatus.symm.trans h) (mapOrderStatus_ne_partiallyFilled _)
    · rintro ⟨hf, -⟩
      rcases hstate.mp (mapOrderStatus_eq_filled.mp (hstatus.symm.trans hf)) with h | h
      · exact h3 h
      · exact h4 h

/-- A limit order of 1.0 of which `volumeCurrent` is open. -/
def restingTradeOrder (volumeCurrent : ℚ) (state : ℤ) (h0 : 0 ≤ volumeCurrent) (h1 : volumeCurrent ≤ 1) :
    TradeOrder where
  ticket := 77
  symbol := "EURUSD"
  volumeInitial := 1
  volumeCurrent := volumeCurrent
  priceOpen := 95
  priceStoplimit := 0
  type := 2
  typeTime := 0
  typeFilling := 2
  state := state
  current_nonneg := h0
  current_le := h1

/-- The `MT5Order` that is read from it. -/
def readTradeOrder (volumeCurrent : ℚ) (state : ℤ) : MT5Order :=
  { orderId := 77, symbol := "EURUSD", volume := volumeCurrent, price := 95, type := 2, typeFilling := 2,
    state := state, account := "1001" }

/-- A placed order without a fill is reported as it is. -/
theorem fill_accounting_resting : ∃ report,
    parseMt5OrderToOrderStatusReport sampleReportEnv (.order (readTradeOrder 1 1)) = .ok report ∧
      (restingTradeOrder 1 1 (by decide +kernel) (by decide +kernel)).Accounted report := by
  have hl : .order (readTradeOrder 1 1) ∈ listedOrders sampleReportEnv.accountId
      (.rows [.dict (restingTradeOrder 1 1 (by decide +kernel) (by decide +kernel)).row]) := by decide +kernel
  obtain ⟨report, hr⟩ : ∃ report,
      parseMt5OrderToOrderStatusReport sampleReportEnv (.order (readTradeOrder 1 1)) = .ok report := ⟨_, rfl⟩
  exact ⟨report, hr, (fill_accounting_iff sampleReportEnv _ _ report hl hr).mpr ⟨rfl, by decide, by decide⟩⟩

/-- **Half a fill disappears**: of an order of 1.0 with 0.5 open, the report says FILLED, quantity 0.5, filled 0. -/
theorem half_fill_unaccounted : ∃ env t o report,
    .order o ∈ listedOrders env.accountId (.rows [.dict (TradeOrder.row t)]) ∧
      parseMt5OrderToOrderStatusReport env (.order o) = .ok report ∧
      (report.orderStatus = .filled ∧ report.quantity = 1 / 2 ∧ report.filledQty = 0) ∧ t.filled = 1 / 2 ∧
      ¬ t.Accounted report := by
  have hl : .order (readTradeOrder (1 / 2) 3) ∈ listedOrders sampleReportEnv.accountId
      (.rows [.dict (restingTradeOrder (1 / 2) 3 (by decide +kernel) (by decide +kernel)).row]) := by decide +kernel
  have hrep : Reportable sampleReportEnv (readTradeOrder (1 / 2) 3) eurusd (some 95) 0 :=
    ⟨rfl, by decide +kernel, by decide +kernel, rfl, by decide, rfl⟩
  have hr := parse_eq_ok_iff.mpr ⟨_, _, _, hrep, rfl⟩
  refine ⟨_, _, _, _, hl, hr, ⟨by decide +kernel, rfl, rfl⟩, by decide +kernel, ?_⟩
  intro h
  have hq : (1 / 2 : ℚ) = 1 := h.quantity
  exact absurd hq (by decide +kernel)

end NautilusMt5
