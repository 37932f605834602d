import NautilusMt5.Execution.Events
import Mathlib.Data.List.Sort

/-!
# Historical ticks (`client/market_data.py`, `get_historical_ticks`)

A page is fetched with `copy_ticks_from`: forward from a day before `end`, so many rows. Every row that is valid for
the tick type becomes a tick, whose `ts_init` is a reading of the clock, or `ts_event` if that is later.

Times are nanoseconds, `timeMsc` milliseconds and `time` seconds. The rows are the broker's, as each of the shapes of
a row holds them.
-/

namespace NautilusMt5

open Py

/-- A row of `copy_ticks_from`; `timeMsc` is 0 where it is missing. -/
structure TickRow where
  time : ℕ
  timeMsc : ℕ
  bid : ℚ
  ask : ℚ
  last : ℚ
  deriving DecidableEq, Repr

/-- What a tick says beside its times. -/
inductive TickData
  | quote (instrumentId : InstrumentId) (bidPrice askPrice bidSize askSize : ℚ)
  | trade (instrumentId : InstrumentId) (price size : ℚ) (tradeId : String)
  deriving DecidableEq, Repr

/-- What a tick says of the market: its data and its `ts_event`. -/
structure MarketTick where
  data : TickData
  tsEvent : ℕ
  deriving DecidableEq, Repr

/-- A `QuoteTick` or `TradeTick`. -/
structure HistoricalTick extends MarketTick where
  tsInit : ℕ
  deriving DecidableEq, Repr

/-- What the request finds: the broker's ticks, the cached instrument of the symbol, and the clock, by its
readings in their order. `newTick` is what the constructor of a tick raises, `wholeSeconds` is
`int(t.timestamp())` of a time `t`. -/
structure TicksEnv where
  history : List TickRow
  instrument : Option Instrument
  newTick : TickData → Except Error Unit
  tickCapacity : ℕ
  utcnow : ℕ
  clock : ℕ → ℕ
  wholeSeconds : ℕ → ℕ

/-- `ts_event` of a row, in nanoseconds; 0 when the row has no time. -/
def TickRow.tsEvent (row : TickRow) : ℕ :=
  if row.timeMsc ≠ 0 then row.timeMsc * 1000000 else row.time * 1000000000

/-- The tick types of trades. -/
def tradeTypes : List String := ["TRADES", "AllLast"]

/-- One round of the loop over the rows, up to the reading of the clock. -/
def readRow (newTick : TickData → Except Error Unit) (instrument : Instrument) (tickType : String) (row : TickRow) :
    Except Error (List MarketTick) :=
  if row.tsEvent = 0 then .ok []
  else if tickType ∈ tradeTypes then
    if row.last ≤ 0 then .ok []
    else do
      let price ← instrument.makePrice row.last
      let size ← instrument.makeQty 0
      let data := .trade instrument.id price size (toString row.time)
      newTick data
      return [⟨data, row.tsEvent⟩]
  else if row.bid ≤ 0 ∨ row.ask ≤ 0 then .ok []
  else do
    let bidPrice ← instrument.makePrice row.bid
    let askPrice ← instrument.makePrice row.ask
    let size ← instrument.makeQty 0
    let data := .quote instrument.id bidPrice askPrice size size
    newTick data
    return [⟨data, row.tsEvent⟩]

/-- A day, in seconds. -/
def daySeconds : ℕ := 86400

/-- The rows from a day before `end` on. -/
def TicksEnv.rowsFrom (env : TicksEnv) (endTime : ℕ) : List TickRow :=
  env.history.filter fun row => (env.wholeSeconds endTime : ℤ) - daySeconds ≤ row.time

/-- `copy_ticks_from`: the first rows from a day before `end` on. -/
def TicksEnv.copyTicksFrom (env : TicksEnv) (endTime count : ℕ) : List TickRow := (env.rowsFrom endTime).take count

/-- The valid ticks of a page. -/
def TicksEnv.page (env : TicksEnv) (tickType : String) (endTime count : ℕ) : Except Error (List MarketTick) :=
  match env.copyTicksFrom endTime count with
  | [] => .ok []
  | rows =>
    match env.instrument with
    | none => .ok []
    | some instrument => Collect.collect (readRow env.newTick instrument tickType) rows

/-- The ticks with their readings of the clock, of which `reads` were made before. -/
def TicksEnv.stamp (env : TicksEnv) (reads : ℕ) (ticks : List MarketTick) : List HistoricalTick :=
  ticks.mapIdx fun i t => { t with tsInit := max (env.clock (reads + i)) t.tsEvent }

/-- `ticks.sort(key=lambda t: t.ts_init)`. -/
def sortByInit (ticks : List HistoricalTick) : List HistoricalTick :=
  ticks.insertionSort fun a b => a.tsInit ≤ b.tsInit

/-- `get_historical_ticks` with an end and no start. -/
def TicksEnv.getHistoricalTicks (env : TicksEnv) (tickType : String) (endTime numberOfTicks reads : ℕ) :
    Except Error (List HistoricalTick) :=
  (env.page tickType endTime numberOfTicks).map fun ticks => sortByInit (env.stamp reads ticks)

/-! ## Pages -/

namespace TicksEnv

variable {env : TicksEnv} {tickType : String} {endTime count reads : ℕ} {ticks : List MarketTick}

theorem page_of_none (h : env.instrument = none) : env.page tickType endTime count = .ok [] := by
  unfold page
  split
  · rfl
  · simp [h]

theorem page_of_some {instrument : Instrument} (h : env.instrument = some instrument) :
    env.page tickType endTime count =
      Collect.collect (readRow env.newTick instrument tickType) (env.copyTicksFrom endTime count) := by
  unfold page
  split
  · rename_i hrows
    rw [hrows]
    rfl
  · rw [h]

/-- A row gives at most one tick, at its own time. -/
theorem readRow_eq_ok {newTick : TickData → Except Error Unit} {instrument : Instrument} {row : TickRow}
    (h : readRow newTick instrument tickType row = .ok ticks) :
    ticks = [] ∨ ∃ data, ticks = [⟨data, row.tsEvent⟩] := by
  unfold readRow at h
  split_ifs at h
  · exact .inl (Except.ok.inj h).symm
  · exact .inl (Except.ok.inj h).symm
  · obtain ⟨price, -, h⟩ := bind_eq_ok.mp h
    obtain ⟨size, -, h⟩ := bind_eq_ok.mp h
    obtain ⟨u, -, h⟩ := bind_eq_ok.mp h
    exact .inr ⟨_, (Except.ok.inj h).symm⟩
  · exact .inl (Except.ok.inj h).symm
  · obtain ⟨bidPrice, -, h⟩ := bind_eq_ok.mp h
    obtain ⟨askPrice, -, h⟩ := bind_eq_ok.mp h
    obtain ⟨size, -, h⟩ := bind_eq_ok.mp h
    obtain ⟨u, -, h⟩ := bind_eq_ok.mp h
    exact .inr ⟨_, (Except.ok.inj h).symm⟩

/-- The ticks of a page have the times of rows of the history. -/
theorem tsEvent_of_page (h : env.page tickType endTime count = .ok ticks) :
    ∀ t ∈ ticks, ∃ row ∈ env.history, t.tsEvent = row.tsEvent := by
  cases hi : env.instrument with
  | none =>
    rw [page_of_none hi] at h
    cases h
    exact fun t ht => absurd ht List.not_mem_nil
  | some instrument =>
    rw [page_of_some hi] at h
    refine Collect.forall_of_collect ?_ h
    intro row hrow ys hy t ht
    have hmem : row ∈ env.history := List.mem_of_mem_filter (List.mem_of_mem_take hrow)
    rcases readRow_eq_ok hy with rfl | ⟨data, rfl⟩
    · cases ht
    · rw [List.mem_singleton.mp ht]
      exact ⟨row, hmem, rfl⟩

/-- A smaller page of the same rows does not raise either. -/
theorem page_of_le {smaller : ℕ} (h : env.page tickType endTime count = .ok ticks) (hle : smaller ≤ count) :
    ∃ fewer, env.page tickType endTime smaller = .ok fewer := by
  cases hi : env.instrument with
  | none => exact ⟨[], page_of_none hi⟩
  | some instrument =>
    rw [page_of_some hi] at h ⊢
    have hf := Collect.fine_of_collect h
    exact ⟨_, Collect.collect_of_fine fun row hrow =>
      hf row ((List.take_sublist_take_left hle).subset hrow)⟩

/-- A page whose first row is valid is not empty. -/
theorem page_ne_nil {t : MarketTick} (h1 : env.page tickType endTime 1 = .ok [t]) (hc : 1 ≤ count)
    (h : env.page tickType endTime count = .ok ticks) : ticks ≠ [] := by
  cases hi : env.instrument with
  | none =>
    rw [page_of_none hi] at h1
    cases h1
  | some instrument =>
    rw [page_of_some hi] at h h1
    unfold copyTicksFrom at h h1
    obtain ⟨n, rfl⟩ : ∃ n, count = n + 1 := ⟨count - 1, by omega⟩
    cases hrows : env.rowsFrom endTime with
    | nil =>
      rw [hrows] at h1
      cases h1
    | cons row rows =>
      rw [hrows] at h h1
      obtain ⟨-, h1⟩ := Collect.collect_eq_ok_iff.mp h1
      obtain ⟨-, rfl⟩ := Collect.collect_eq_ok_iff.mp h
      rw [List.take_succ_cons, Collect.salvage_cons] at h1 ⊢
      intro hnil
      rw [List.append_eq_nil_iff.mp hnil |>.1] at h1
      cases h1

/-- A page of one row has at most one tick. -/
theorem page_one (h : env.page tickType endTime 1 = .ok ticks) : ticks = [] ∨ ∃ t, ticks = [t] := by
  cases hi : env.instrument with
  | none =>
    rw [page_of_none hi] at h
    exact .inl (Except.ok.inj h).symm
  | some instrument =>
    rw [page_of_some hi, copyTicksFrom] at h
    cases hrows : env.rowsFrom endTime with
    | nil =>
      rw [hrows] at h
      exact .inl (Except.ok.inj h).symm
    | cons row rows =>
      rw [hrows] at h
      obtain ⟨hf, rfl⟩ := Collect.collect_eq_ok_iff.mp h
      obtain ⟨ys, hy⟩ := hf row (by simp)
      have hone : Collect.salvage (readRow env.newTick instrument tickType) (List.take 1 (row :: rows)) = ys := by
        simp [Collect.salvage, Collect.items_of_ok hy]
      rw [hone]
      rcases readRow_eq_ok hy with rfl | ⟨data, rfl⟩
      · exact .inl rfl
      · exact .inr ⟨_, rfl⟩

/-- The ticks of the call are those of the page, as many. -/
theorem getHistoricalTicks_eq_ok {part : List HistoricalTick}
    (h : env.getHistoricalTicks tickType endTime count reads = .ok part) :
    ∃ ticks, env.page tickType endTime count = .ok ticks ∧ part = sortByInit (env.stamp reads ticks) := by
  unfold getHistoricalTicks at h
  cases hp : env.page tickType endTime count with
  | error e =>
    rw [hp] at h
    cases h
  | ok ticks =>
    rw [hp] at h
    cases h
    exact ⟨ticks, rfl, rfl⟩

theorem getHistoricalTicks_of_page (h : env.page tickType endTime count = .ok ticks) (reads : ℕ) :
    env.getHistoricalTicks tickType endTime count reads = .ok (sortByInit (env.stamp reads ticks)) := by
  rw [getHistoricalTicks, h]
  rfl

theorem perm_sortByInit (l : List HistoricalTick) : (sortByInit l).Perm l := List.perm_insertionSort _ l

@[simp] theorem length_sortByInit (l : List HistoricalTick) : (sortByInit l).length = l.length :=
  (perm_sortByInit l).length_eq

@[simp] theorem length_stamp (env : TicksEnv) (reads : ℕ) (l : List MarketTick) :
    (env.stamp reads l).length = l.length := by
  simp [stamp]

/-- Every stamped tick has a reading of the clock that was made for it. -/
theorem mem_stamp {l : List MarketTick} {t : HistoricalTick} (h : t ∈ env.stamp reads l) :
    t.toMarketTick ∈ l ∧ ∃ i, t.tsInit = max (env.clock (reads + i)) t.tsEvent := by
  obtain ⟨i, hi, rfl⟩ := List.mem_mapIdx.mp h
  exact ⟨List.getElem_mem hi, i, rfl⟩

end TicksEnv

end NautilusMt5
