import NautilusMt5.Execution.OrderCallbacks
import NautilusMt5.Execution.StatusQuery

/-!
# The filters of report queries (`execution.py`)

`generate_order_status_reports` reads the filters of its command and applies none of them: an open position has a report
that says FILLED whatever was asked for, and so has every open order of every instrument.

`reports_respect_iff`: the reports respect the filters just when a row raises, there is no position, or every position
and every open order of which a report is made is one that was asked for.
-/

namespace NautilusMt5

open Py

/-- The filters of a `GenerateOrderStatusReports` command. -/
structure GenerateOrderStatusReports where
  instrumentId : Option InstrumentId := none
  start : Option ℤ := none
  endTime : Option ℤ := none
  openOnly : Bool := false
  deriving DecidableEq, Repr

/-- `generate_order_status_reports` of a command: none of what it asks for is looked at. -/
def GenerateOrderStatusReports.answer (_command : GenerateOrderStatusReports) (env : ReportEnv)
    (positions : Fetched PositionRow) (orders : Fetched OrderRow) : Except Error (List OrderStatusReport) :=
  generateOrderStatusReports env positions orders

namespace GenerateOrderStatusReports

variable (command : GenerateOrderStatusReports) (env : ReportEnv)

/-- An instrument and a status that were asked for. -/
def Admits (instrumentId : InstrumentId) (status : OrderStatus) : Prop :=
  (∀ id, command.instrumentId = some id → instrumentId = id) ∧ (command.openOnly = true → ¬ status.IsClosed)

/-- **Every report is one that was asked for.** -/
def Respects (result : Except Error (List OrderStatusReport)) : Prop :=
  ∀ reports, result = .ok reports → ∀ r ∈ reports, command.Admits r.instrumentId r.orderStatus

/-- The position has no report, or it is on the instrument and closed orders were asked for as well. -/
def PositionAdmitted (p : MT5Position) : Prop :=
  p.quantity ≠ 0 → ∀ id instrument, mt5SymbolToInstrumentId p.symbol = .ok id →
    env.cache.instrument id = some instrument → command.Admits instrument.id .filled

/-- The order is on the instrument, and open where only open orders were asked for. -/
def OrderAdmitted (o : OpenOrder) : Prop :=
  ∀ order instrument, o = .order order → resolveInstrument env order.symbol = .ok instrument →
    command.Admits instrument.id (reportStatus order)

/-! ## The reports of one row -/

variable {command env} {p : MT5Position} {o : OpenOrder}

/-- A position with a cached instrument is admitted with the report that it has. -/
theorem positionAdmitted_iff {id : InstrumentId} {instrument : Instrument} (hne : p.quantity ≠ 0)
    (hid : mt5SymbolToInstrumentId p.symbol = .ok id) (hi : env.cache.instrument id = some instrument) :
    command.PositionAdmitted env p ↔ command.Admits instrument.id .filled := by
  constructor
  · exact fun h => h hne id instrument hid hi
  · intro h _ id' instrument' hid' hi'
    cases Except.ok.inj (hid.symm.trans hid')
    cases Option.some.inj (hi.symm.trans hi')
    exact h

theorem respects_positionReport (hfine : Collect.Fine (positionReport env) p) :
    (∀ r ∈ Collect.items (positionReport env) p, command.Admits r.instrumentId r.orderStatus) ↔
      command.PositionAdmitted env p := by
  obtain ⟨reports, hreports⟩ := hfine
  rw [Collect.items_of_ok hreports]
  by_cases hzero : p.quantity = 0
  · rw [positionReport, if_pos hzero] at hreports
    cases hreports
    exact ⟨fun _ hne => absurd hzero hne, fun _ r hr => absurd hr List.not_mem_nil⟩
  rw [positionReport, if_neg hzero] at hreports
  obtain ⟨id, hid, hreports⟩ := bind_eq_ok.mp hreports
  cases hi : env.cache.instrument id with
  | none =>
    rw [hi] at hreports
    cases hreports
    refine ⟨fun _ _ id' instrument hid' hi' => ?_, fun _ r hr => absurd hr List.not_mem_nil⟩
    cases Except.ok.inj (hid.symm.trans hid')
    cases hi.symm.trans hi'
  | some instrument =>
    rw [hi] at hreports
    obtain ⟨avgPx, -, hreports⟩ := bind_eq_ok.mp hreports
    cases hreports
    rw [List.forall_mem_singleton, positionAdmitted_iff hzero hid hi]

theorem respects_openOrderReport (hfine : Collect.Fine (openOrderReport env) o) :
    (∀ r ∈ Collect.items (openOrderReport env) o, command.Admits r.instrumentId r.orderStatus) ↔
      command.OrderAdmitted env o := by
  obtain ⟨reports, hreports⟩ := hfine
  rw [Collect.items_of_ok hreports]
  cases o with
  | native ticket symbol => cases hreports
  | order order =>
    cases hparse : parseMt5OrderToOrderStatusReport env (.order order) with
    | error e =>
      rw [openOrderReport, hparse] at hreports
      cases hreports
    | ok report =>
      rw [openOrderReport, hparse] at hreports
      cases hreports
      obtain ⟨instrument, price, triggerPrice, hreportable, rfl⟩ := parse_eq_ok_iff.mp hparse
      simp only [List.mem_singleton, forall_eq, OrderAdmitted, OpenOrder.order.injEq]
      constructor
      · rintro h order' instrument' rfl hinstrument'
        rw [hreportable.resolved] at hinstrument'
        cases hinstrument'
        exact h
      · intro h
        exact h order instrument rfl hreportable.resolved

/-! ## The reports of a query -/

/-- **The filters of a query.** -/
theorem reports_respect_iff (command : GenerateOrderStatusReports) (env : ReportEnv) (positions : Fetched PositionRow)
    (orders : Fetched OrderRow) :
    command.Respects (command.answer env positions orders) ↔ ∀ listed, Reported env positions orders listed →
      (∀ p ∈ listedPositions env.accountId positions, command.PositionAdmitted env p) ∧
        ∀ o ∈ listed, command.OrderAdmitted env o := by
  constructor
  · intro h listed hlisted
    have hall := h _ (generate_eq_ok_iff.mpr (.inr ⟨listed, hlisted, rfl⟩))
    constructor
    · intro p hp
      refine (respects_positionReport (hlisted.positionsFine p hp)).mp fun r hr => ?_
      exact hall r (List.mem_append_left _ (List.mem_flatMap.mpr ⟨p, hp, hr⟩))
    · intro o ho
      refine (respects_openOrderReport (hlisted.ordersFine o ho)).mp fun r hr => ?_
      exact hall r (List.mem_append_right _ (List.mem_flatMap.mpr ⟨o, ho, hr⟩))
  · intro h reports hreports r hr
    rcases generate_eq_ok_iff.mp hreports with ⟨-, -, rfl⟩ | ⟨listed, hlisted, rfl⟩
    · cases hr
    · obtain ⟨hpositions, horders⟩ := h listed hlisted
      rcases List.mem_append.mp hr with hr | hr
      · obtain ⟨p, hp, hr⟩ := List.mem_flatMap.mp hr
        exact (respects_positionReport (hlisted.positionsFine p hp)).mpr (hpositions p hp) r hr
      · obtain ⟨o, ho, hr⟩ := List.mem_flatMap.mp hr
        exact (respects_openOrderReport (hlisted.ordersFine o ho)).mpr (horders o ho) r hr

/-- A position of 1 EURUSD, long. -/
def longRow : PositionDict where
  symbol := some "EURUSD"
  type := some 0
  volume := some (.ok 1)
  priceOpen := some (.ok 95)

/-- **Only open orders were asked for**: the position has a report that says FILLED. -/
theorem filled_in_openOnly :
    ¬ Respects { openOnly := true }
      (answer { openOnly := true } sampleReportEnv (.rows [.dict longRow]) (.rows [])) := by
  intro h
  have hstatus : (answer { openOnly := true } sampleReportEnv (.rows [.dict longRow]) (.rows [])).toOption.map
      (List.map OrderStatusReport.orderStatus) = some [.filled] := by decide +kernel
  cases hanswer : answer { openOnly := true } sampleReportEnv (.rows [.dict longRow]) (.rows []) with
  | error e =>
    rw [hanswer] at hstatus
    cases hstatus
  | ok reports =>
    rw [hanswer] at hstatus
    have hfilled : OrderStatus.filled ∈ reports.map OrderStatusReport.orderStatus := by
      rw [Option.some.inj hstatus]
      exact List.mem_singleton_self _
    obtain ⟨r, hr, hclosed⟩ := List.mem_map.mp hfilled
    exact (h reports hanswer r hr).2 rfl (hclosed ▸ .inl rfl)

end GenerateOrderStatusReports

end NautilusMt5
