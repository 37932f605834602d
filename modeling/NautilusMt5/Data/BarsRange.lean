import NautilusMt5.Data.BarsRequest
import Mathlib.Data.List.DropRight

/-!
# The range of a request for bars

The bridge has a history of rates whose last one is still forming. A request with a start asks for the rates of a range,
one without for the last rates by position, from the forming one on, and where that gives nothing for a range before the
end (`Source`). `limit` reaches the position only, `end` the ranges only, and the forming bar is in every answer by
position and in every range that it opens in: `bars_within_iff` says for which requests the answer keeps to closed bars,
range and limit all the same, where the framework takes the call that hands the bars over.
-/

namespace NautilusMt5

open Py Collect BarsEnv

/-- The rates of a timeframe, the last of which is forming. Days start at midnight. -/
structure RateHistory (timeframe : ℕ) where
  closed : List MqlRates
  forming : MqlRates
  increasing : (closed ++ [forming]).Pairwise fun r r' => r.time < r'.time
  midnight : timeframe = 16408 → ∀ r ∈ closed ++ [forming], (86400 : ℤ) ∣ r.time

/-- Where rates are asked for: between two datetimes, or the last ones by position. -/
inductive Source
  | range (dateFrom dateTo : ℤ)
  | last (count : ℕ)
  deriving DecidableEq, Repr

/-- The rate opens between the datetimes. -/
def MqlRates.OpensWithin (dateFrom dateTo : ℤ) (rate : MqlRates) : Prop :=
  dateFrom ≤ rate.time * 1000000 ∧ rate.time * 1000000 ≤ dateTo

instance (dateFrom dateTo : ℤ) : DecidablePred (MqlRates.OpensWithin dateFrom dateTo) :=
  fun _ => inferInstanceAs (Decidable (_ ∧ _))

/-- The rates that the terminal has there; position 0 is the forming one. -/
def RateHistory.rates {timeframe : ℕ} (history : RateHistory timeframe) : Source → List MqlRates
  | .range dateFrom dateTo => (history.closed ++ [history.forming]).filter (MqlRates.OpensWithin dateFrom dateTo)
  | .last count => (history.closed ++ [history.forming]).rtake count

/-- The call of the bridge for a source. -/
def RatesBridge.ask (bridge : RatesBridge) (symbol : String) (timeframe : ℕ) :
    Source → Except Error (Option (List RateRow))
  | .range dateFrom dateTo => bridge.copyRatesRange symbol timeframe dateFrom dateTo
  | .last count => bridge.copyRatesFromPos symbol timeframe 0 count

namespace BarsEnv

/-- Every symbol and timeframe has a history, and the bridge answers from it where it answers. -/
def Answers (env : BarsEnv) (history : String → (timeframe : ℕ) → RateHistory timeframe) : Prop :=
  ∀ symbol timeframe source rows, env.bridge.ask symbol timeframe source = .ok (some rows) →
    rows = ((history symbol timeframe).rates source).map MqlRates.row

/-- The source of the rates of a request. -/
def Uses (env : BarsEnv) (req : BarsRequest) (symbol : String) (timeframe : ℕ) (duration : String) (source : Source) :
    Prop :=
  match req.start with
  | some start => source = .range (toUtcDatetime start) (toUtcDatetime (env.endOf req))
  | none =>
    let raw := env.bridge.ask symbol timeframe (.last (barLimit req))
    source = .last (barLimit req) ∧ (∃ rows, raw = .ok (some rows) ∧ rows ≠ []) ∨
    source = .range (toUtcDatetime (env.endOf req - ibDurationToTimedelta duration)) (toUtcDatetime (env.endOf req)) ∧
      (raw = .ok none ∨ raw = .ok (some []))

/-- The bars that the engine gets are of closed rates, in the range of the request and within its limit. -/
structure RangeKept (env : BarsEnv) (history : String → (timeframe : ℕ) → RateHistory timeframe) (req : BarsRequest) :
    Prop where
  closed : ∀ symbol timeframe duration, env.Asks req symbol timeframe duration → ∀ o, ∀ b ∈ env.delivered req o,
    ∃ rate ∈ (history symbol timeframe).closed, env.readRate req.barType symbol env.clock rate.row = .ok [b]
  fromStart : ∀ start, req.start = some start → ∀ o, ∀ b ∈ env.delivered req o, start ≤ b.tsEvent
  toEnd : ∀ endTime, req.endTime = some endTime → ∀ o, ∀ b ∈ env.delivered req o, b.tsEvent ≤ endTime
  limited : req.limit ≠ 0 → ∀ o, (env.delivered req o).length ≤ req.limit

end BarsEnv

/-- When the rates of a source are closed ones within range and limit of the request. By position the forming rate must
be invalid and the rates must not open after the end; in a range the forming rate must not open, no valid rate may open
before a start that is cut to a microsecond, and the valid rates must not be too many. -/
def Source.Keeps {timeframe : ℕ} (history : RateHistory timeframe) (req : BarsRequest) : Source → Prop
  | .range dateFrom dateTo =>
    (history.forming.Positive → ¬ history.forming.OpensWithin dateFrom dateTo) ∧
    (∀ start, req.start = some start → ∀ r ∈ history.rates (.range dateFrom dateTo), r.Positive →
      start ≤ r.time * 1000000000) ∧
    (req.limit ≠ 0 → ((history.rates (.range dateFrom dateTo)).filter MqlRates.Positive).length ≤ req.limit)
  | .last count =>
    ¬ history.forming.Positive ∧
    ∀ endTime, req.endTime = some endTime → ∀ r ∈ history.rates (.last count), r.Positive →
      r.time * 1000000000 ≤ endTime

/-! ## The rates of a request -/

variable {env : BarsEnv} {req : BarsRequest} {symbol duration : String} {timeframe : ℕ} {rows : List RateRow}
  {source : Source} {history : String → (timeframe : ℕ) → RateHistory timeframe} {bars : List Bar} {b : Bar}
  {rates : List MqlRates} {rate : MqlRates} {barType : BarType}

theorem rateCount_passedLimit (h : req.start = none) : rateCount (passedLimit req) = barLimit req := by
  have hpos : 0 < barLimit req := by
    unfold barLimit
    split_ifs with hl
    · norm_num
    · exact Nat.pos_of_ne_zero fun h0 => hl ⟨h, h0⟩
  rw [passedLimit, if_pos h]
  exact if_pos hpos

/-- Without a start the last rates are asked for, and a range where there are none. -/
theorem askByPosition_eq_ok {raw : Option (List RateRow)} (hs : req.start = none) :
    env.askByPosition symbol timeframe (env.endOf req) duration (passedLimit req) = .ok raw ↔
      ∃ source, env.Uses req symbol timeframe duration source ∧ env.bridge.ask symbol timeframe source = .ok raw := by
  unfold Uses
  rw [hs, askByPosition, rateCount_passedLimit hs]
  constructor
  · intro hraw
    obtain ⟨first, hfirst, hraw⟩ := bind_eq_ok.mp hraw
    by_cases hempty : first = none ∨ first = some []
    · rw [if_pos hempty] at hraw
      refine ⟨_, .inr ⟨rfl, ?_⟩, hraw⟩
      rcases hempty with rfl | rfl
      · exact .inl hfirst
      · exact .inr hfirst
    · rw [if_neg hempty] at hraw
      cases hraw
      cases raw with
      | none => exact absurd (.inl rfl) hempty
      | some rows' =>
        refine ⟨_, .inl ⟨rfl, rows', hfirst, ?_⟩, hfirst⟩
        rintro rfl
        exact hempty (.inr rfl)
  · rintro ⟨source, ⟨rfl, rows', hfirst, hne⟩ | ⟨rfl, hempty⟩, hraw⟩
    · rw [hfirst] at hraw
      cases hraw
      refine bind_eq_ok.mpr ⟨some rows', hfirst, if_neg ?_⟩
      rintro (h | h)
      · cases h
      · exact hne (Option.some.inj h)
    · apply bind_eq_ok.mpr
      rcases hempty with hfirst | hfirst
      · exact ⟨none, hfirst, (if_pos (.inl rfl)).trans hraw⟩
      · exact ⟨some [], hfirst, (if_pos (.inr rfl)).trans hraw⟩

/-- `_copy_rates` asks for the rates of the source of the request. -/
theorem copyRates_eq_ok :
    env.copyRates symbol timeframe (env.endOf req) duration req.start (passedLimit req) = .ok rows ↔
      ∃ source, env.Uses req symbol timeframe duration source ∧
        ∃ raw, env.bridge.ask symbol timeframe source = .ok raw ∧ rows = raw.getD [] := by
  unfold copyRates
  cases hs : req.start with
  | some start =>
    simp only [Uses, hs]
    rw [bind_eq_ok]
    constructor
    · rintro ⟨raw, hraw, h⟩
      exact ⟨_, rfl, raw, hraw, (Except.ok.inj h).symm⟩
    · rintro ⟨source, rfl, raw, hraw, rfl⟩
      exact ⟨raw, hraw, rfl⟩
  | none =>
    simp only
    rw [bind_eq_ok]
    constructor
    · rintro ⟨raw, hraw, h⟩
      obtain ⟨source, hu, hask⟩ := (askByPosition_eq_ok hs).mp hraw
      exact ⟨source, hu, raw, hask, (Except.ok.inj h).symm⟩
    · rintro ⟨source, hu, raw, hask, rfl⟩
      exact ⟨raw, (askByPosition_eq_ok hs).mpr ⟨source, hu, hask⟩, rfl⟩

theorem RateHistory.mem_rates {h : RateHistory timeframe} (hr : rate ∈ h.rates source) :
    rate ∈ h.closed ++ [h.forming] := by
  cases source with
  | range dateFrom dateTo => exact List.mem_of_mem_filter hr
  | last count => exact List.mem_of_mem_drop hr

theorem RateHistory.rates_increasing (h : RateHistory timeframe) (source : Source) :
    (h.rates source).Pairwise fun r r' => r.time < r'.time := by
  cases source with
  | range dateFrom dateTo => exact h.increasing.filter _
  | last count => exact h.increasing.drop

/-! ## The bars of rates -/

/-- A bar of a rate has the time of the rate: those by days raise. -/
theorem tsEvent_of_readRate (hlib : env.time.Documented) {h : RateHistory timeframe}
    (htf : barSpecToMt5Timeframe barType.spec = .ok timeframe) (hr : rate ∈ h.closed ++ [h.forming])
    (hb : env.readRate barType symbol env.clock rate.row = .ok [b]) :
    rate.Positive ∧ b.tsEvent = rate.time * 1000000000 := by
  rcases readRate_cases hb with ⟨hnil, -⟩ | ⟨instrument, data, ts, b', -, hbars, hg⟩
  · cases hnil
  · cases hbars
    have hread := hg.read
    rw [mqlRateRowToBarData_row] at hread
    cases hread
    refine ⟨MqlRates.valid_data.mp hg.valid, ?_⟩
    rw [tsEvent_makeBar hg.made]
    have htimed : env.time.convertMt5BarDateToUnixNanos rate.time barType.spec = .ok ts := hg.timed
    unfold TimeLib.convertMt5BarDateToUnixNanos at htimed
    by_cases hday : barType.spec.aggregation.number = 14
    · rw [if_pos hday] at htimed
      have hd1 : timeframe = 16408 := by
        unfold barSpecToMt5Timeframe at htf
        rw [BarAggregation.number_eq_day.mp hday] at htf
        simp only at htf
        split_ifs at htf
        exact (Except.ok.inj htf).symm
      have hdvd : (100 : ℤ) ∣ rate.time := Dvd.dvd.trans (by decide) (h.midnight hd1 rate hr)
      exact absurd (hlib.toDatetime _ _ htimed) (not_spellsDate hdvd)
    · rw [if_neg hday] at htimed
      exact hlib.fromtimestamp _ _ htimed

/-- A valid rate that is read gives one bar, an invalid one none. -/
theorem items_of_rate (hf : Fine (env.readRate barType symbol env.clock) rate.row) :
    (rate.Positive ∧ ∃ b, env.readRate barType symbol env.clock rate.row = .ok [b]) ∨
      (¬ rate.Positive ∧ env.readRate barType symbol env.clock rate.row = .ok []) := by
  obtain ⟨ys, hys⟩ := hf
  rcases readRate_cases hys with ⟨rfl, data, hread, hv⟩ | ⟨instrument, data, ts, b, -, rfl, hg⟩
  · rw [mqlRateRowToBarData_row] at hread
    cases hread
    exact .inr ⟨fun hp => hv (MqlRates.valid_data.mpr hp), hys⟩
  · have hread := hg.read
    rw [mqlRateRowToBarData_row] at hread
    cases hread
    exact .inl ⟨MqlRates.valid_data.mp hg.valid, b, hys⟩

/-- The bars of a list of rates are those of the valid ones, at their times. -/
theorem tsEvent_of_rates (hlib : env.time.Documented) {h : RateHistory timeframe}
    (htf : barSpecToMt5Timeframe barType.spec = .ok timeframe) (hmem : ∀ r ∈ rates, r ∈ h.closed ++ [h.forming])
    (hb : collect (env.readRate barType symbol env.clock) (rates.map MqlRates.row) = .ok bars) :
    bars.map Bar.tsEvent = (rates.filter MqlRates.Positive).map fun r => r.time * 1000000000 := by
  induction rates generalizing bars with
  | nil =>
    cases hb
    rfl
  | cons r rates ih =>
    obtain ⟨hf, rfl⟩ := collect_eq_ok_iff.mp hb
    rw [List.map_cons, List.forall_mem_cons] at hf
    have hrest := ih (fun r' hr' => hmem r' (List.mem_cons_of_mem r hr')) (collect_of_fine hf.2)
    rw [List.map_cons, salvage_cons, List.map_append, hrest]
    rcases items_of_rate hf.1 with ⟨hp, b, hrb⟩ | ⟨hp, hrb⟩
    · obtain ⟨-, hts⟩ := tsEvent_of_readRate hlib htf (hmem r List.mem_cons_self) hrb
      rw [items_of_ok hrb, List.filter_cons_of_pos (by simpa using hp), List.map_cons, List.map_cons, hts]
      rfl
    · rw [items_of_ok hrb, List.filter_cons_of_neg (by simpa using hp)]
      rfl

/-! ## The bars that the engine gets -/

namespace BarsEnv

namespace Uses

variable {count : ℕ} {dateFrom dateTo : ℤ}

theorem start_eq_none (hu : env.Uses req symbol timeframe duration (.last count)) : req.start = none := by
  unfold Uses at hu
  cases hs : req.start with
  | none => rfl
  | some start =>
    rw [hs] at hu
    cases hu

/-- By position as many rates are asked for as the limit says. -/
theorem count_eq (hu : env.Uses req symbol timeframe duration (.last count)) : count = barLimit req := by
  have hs := hu.start_eq_none
  unfold Uses at hu
  rw [hs] at hu
  rcases hu with ⟨hc, -⟩ | ⟨hc, -⟩
  · exact Source.last.inj hc
  · cases hc

theorem count_ne_zero (hu : env.Uses req symbol timeframe duration (.last count)) : count ≠ 0 := by
  rw [hu.count_eq, barLimit, hu.start_eq_none]
  split_ifs with hl
  · norm_num
  · exact fun h0 => hl ⟨rfl, h0⟩

/-- Every range ends at the end. -/
theorem dateTo_eq (hu : env.Uses req symbol timeframe duration (.range dateFrom dateTo)) :
    dateTo = toUtcDatetime (env.endOf req) := by
  unfold Uses at hu
  cases hs : req.start with
  | none =>
    rw [hs] at hu
    rcases hu with ⟨hc, -⟩ | ⟨hc, -⟩
    · cases hc
    · exact (Source.range.inj hc).2
  | some start =>
    rw [hs] at hu
    exact (Source.range.inj hu).2

end Uses

/-- A request asks for one symbol and timeframe. -/
theorem Asks.unique {symbol' duration' : String} {timeframe' : ℕ} (h : env.Asks req symbol timeframe duration)
    (h' : env.Asks req symbol' timeframe' duration') : symbol = symbol' ∧ timeframe = timeframe' := by
  obtain ⟨i, hi, hs⟩ := h.instrument
  obtain ⟨i', hi', hs'⟩ := h'.instrument
  rw [hi] at hi'
  cases hi'
  exact ⟨Except.ok.inj (hs.symm.trans hs'), Except.ok.inj (h.timeframe.symm.trans h'.timeframe)⟩

/-- The request reads these rates of its history. -/
structure Reads (env : BarsEnv) (history : String → (timeframe : ℕ) → RateHistory timeframe) (req : BarsRequest)
    (symbol : String) (timeframe : ℕ) (source : Source) (bars : List Bar) : Prop where
  known : barSpecToMt5Timeframe req.barType.spec = .ok timeframe
  read : collect (env.readRate req.barType symbol env.clock)
    (((history symbol timeframe).rates source).reverse.map MqlRates.row) = .ok bars
  delivered : ∀ o, env.delivered req o = o.order bars

/-- A source that answers with rates that do not raise is read. -/
theorem exists_reads (ht : env.handleBars = .ok ()) (hans : env.Answers history)
    (ha : env.Asks req symbol timeframe duration) (hu : env.Uses req symbol timeframe duration source)
    (hr : env.bridge.ask symbol timeframe source = .ok (some rows))
    (hf : ∀ r ∈ (history symbol timeframe).rates source, Fine (env.readRate req.barType symbol env.clock) r.row) :
    ∃ bars, env.Reads history req symbol timeframe source bars := by
  have hrows := hans symbol timeframe source rows hr
  have hf' : ∀ row ∈ ((history symbol timeframe).rates source).reverse.map MqlRates.row,
      Fine (env.readRate req.barType symbol env.clock) row := by
    intro row hrow
    obtain ⟨r, hmem, rfl⟩ := List.mem_map.mp hrow
    exact hf r (List.mem_reverse.mp hmem)
  have hb := collect_of_fine hf'
  refine ⟨_, ha.timeframe, hb, fun o => ?_⟩
  have hgets : env.GetsRates req symbol rows :=
    ⟨timeframe, duration, ha, copyRates_eq_ok.mpr ⟨source, hu, some rows, hr, rfl⟩⟩
  apply delivered_eq_order ht hgets
  rw [hrows, ← List.map_reverse]
  exact hb

/-- The engine gets bars of a source that is read, or none. -/
theorem delivered_cases (hans : env.Answers history) (req : BarsRequest) :
    (∀ o, env.delivered req o = []) ∨ ∃ symbol timeframe duration source rows bars,
      env.Asks req symbol timeframe duration ∧ env.Uses req symbol timeframe duration source ∧
      env.bridge.ask symbol timeframe source = .ok (some rows) ∧ env.handleBars = .ok () ∧
      env.Reads history req symbol timeframe source bars := by
  cases ht : env.handleBars with
  | error e => exact .inl (delivered_of_refused ht req)
  | ok u =>
  by_cases hsome : ∃ bars, env.historicalBarsFor req = .ok (some bars)
  · obtain ⟨bars, hbars⟩ := hsome
    obtain ⟨symbol, rows, ⟨timeframe, duration, ha, hcopy⟩, hb⟩ := historicalBarsFor_eq_ok.mp hbars
    obtain ⟨source, hu, raw, hraw, hrows⟩ := copyRates_eq_ok.mp hcopy
    have hdel := delivered_eq_order ht ⟨timeframe, duration, ha, hcopy⟩ hb
    cases raw with
    | none =>
      left
      intro o
      rw [hrows] at hb
      cases hb
      rw [hdel]
      exact (o.perm []).eq_nil
    | some rows' =>
      right
      have hrates := hans symbol timeframe source rows' hraw
      refine ⟨symbol, timeframe, duration, source, rows', bars, ha, hu, hraw, rfl, ha.timeframe, ?_, hdel⟩
      rw [List.map_reverse, ← hrates]
      rw [hrows] at hb
      exact hb
  · exact .inl (delivered_of_none fun bars hbars => hsome ⟨bars, hbars⟩)

namespace Reads

/-- The bars that the engine gets are those of the rates. -/
theorem mem_delivered (h : env.Reads history req symbol timeframe source bars) (o : SetOrder) :
    b ∈ env.delivered req o ↔
    ∃ r ∈ (history symbol timeframe).rates source, env.readRate req.barType symbol env.clock r.row = .ok [b] := by
  rw [h.delivered, (o.perm bars).mem_iff, List.mem_dedup]
  obtain ⟨hf, rfl⟩ := collect_eq_ok_iff.mp h.read
  rw [salvage, List.mem_flatMap]
  constructor
  · rintro ⟨row, hrow, hb⟩
    obtain ⟨r, hr, rfl⟩ := List.mem_map.mp hrow
    refine ⟨r, List.mem_reverse.mp hr, ?_⟩
    rcases items_of_rate (hf _ hrow) with ⟨-, b', hb'⟩ | ⟨-, hb'⟩
    · rw [items_of_ok hb', List.mem_singleton] at hb
      rw [hb', hb]
    · rw [items_of_ok hb'] at hb
      cases hb
  · rintro ⟨r, hr, hb⟩
    refine ⟨r.row, List.mem_map.mpr ⟨r, List.mem_reverse.mpr hr, rfl⟩, ?_⟩
    rw [items_of_ok hb]
    exact List.mem_singleton_self b

/-- A valid rate gives one of them. -/
theorem exists_delivered (h : env.Reads history req symbol timeframe source bars)
    (hr : rate ∈ (history symbol timeframe).rates source) (hp : rate.Positive) (o : SetOrder) :
    ∃ b ∈ env.delivered req o, env.readRate req.barType symbol env.clock rate.row = .ok [b] := by
  obtain ⟨hf, -⟩ := collect_eq_ok_iff.mp h.read
  rcases items_of_rate (hf _ (List.mem_map.mpr ⟨rate, List.mem_reverse.mpr hr, rfl⟩)) with ⟨-, b, hb⟩ | ⟨hn, -⟩
  · exact ⟨b, (h.mem_delivered o).mpr ⟨rate, hr, hb⟩, hb⟩
  · exact absurd hp hn

/-- There are as many as valid rates. -/
theorem length_delivered (h : env.Reads history req symbol timeframe source bars) (hlib : env.time.Documented)
    (o : SetOrder) :
    (env.delivered req o).length = (((history symbol timeframe).rates source).filter MqlRates.Positive).length := by
  have hmem : ∀ r ∈ ((history symbol timeframe).rates source).reverse,
      r ∈ (history symbol timeframe).closed ++ [(history symbol timeframe).forming] :=
    fun r hr => RateHistory.mem_rates (List.mem_reverse.mp hr)
  have hts := tsEvent_of_rates hlib h.known hmem h.read
  have hnodup : bars.Nodup := by
    apply List.Nodup.of_map Bar.tsEvent
    rw [hts, List.filter_reverse, List.map_reverse, List.nodup_reverse, List.Nodup, List.pairwise_map]
    refine ((history symbol timeframe).rates_increasing source).filter _ |>.imp ?_
    intro r r' hlt
    omega
  have hlen := congrArg List.length hts
  rw [List.length_map, List.length_map, List.filter_reverse, List.length_reverse] at hlen
  rw [h.delivered, (o.perm bars).length_eq, hnodup.dedup, hlen]

/-- The forming rate is no closed one. -/
theorem forming_not_mem {timeframe : ℕ} (h : RateHistory timeframe) (hr : rate ∈ h.closed) :
    rate.time < h.forming.time :=
  (List.pairwise_append.mp h.increasing).2.2 rate hr h.forming (List.mem_singleton_self _)

/-- The bar of the forming rate reaches the engine where it is asked for and valid, and it is no closed bar. -/
theorem forming_delivered (h : env.Reads history req symbol timeframe source bars)
    (hlib : env.time.Documented) (ha : env.Asks req symbol timeframe duration) (hkept : env.RangeKept history req)
    (hr : (history symbol timeframe).forming ∈ (history symbol timeframe).rates source) :
    ¬ (history symbol timeframe).forming.Positive := by
  intro hp
  obtain ⟨b, hb, hread⟩ := h.exists_delivered hr hp SetOrder.forward
  obtain ⟨r, hclosed, hread'⟩ := hkept.closed symbol timeframe duration ha SetOrder.forward b hb
  obtain ⟨-, hts⟩ := tsEvent_of_readRate hlib h.known (RateHistory.mem_rates hr) hread
  obtain ⟨-, hts'⟩ := tsEvent_of_readRate hlib h.known (List.mem_append_left _ hclosed) hread'
  have hlt := forming_not_mem (history symbol timeframe) hclosed
  omega

/-- A request whose range is kept has a source that keeps it. -/
theorem keeps_of_kept (h : env.Reads history req symbol timeframe source bars) (hlib : env.time.Documented)
    (ha : env.Asks req symbol timeframe duration)
    (hu : env.Uses req symbol timeframe duration source) (hkept : env.RangeKept history req) :
    source.Keeps (history symbol timeframe) req := by
  have hforming := fun hr => h.forming_delivered hlib ha hkept hr
  have hts : ∀ r ∈ (history symbol timeframe).rates source, r.Positive →
      ∃ b ∈ env.delivered req SetOrder.forward, b.tsEvent = r.time * 1000000000 := by
    intro r hr hp
    obtain ⟨b, hb, hread⟩ := h.exists_delivered hr hp SetOrder.forward
    exact ⟨b, hb, (tsEvent_of_readRate hlib h.known (RateHistory.mem_rates hr) hread).2⟩
  cases source with
  | range dateFrom dateTo =>
    refine ⟨fun hp hopens => ?_, fun start hstart r hr hp => ?_, fun hlimit => ?_⟩
    · refine hforming (List.mem_filter.mpr ⟨?_, by simpa using hopens⟩) hp
      exact List.mem_append_right _ (List.mem_singleton_self _)
    · obtain ⟨b, hb, htb⟩ := hts r hr hp
      rw [← htb]
      exact hkept.fromStart start hstart SetOrder.forward b hb
    · rw [← h.length_delivered hlib SetOrder.forward]
      exact hkept.limited hlimit SetOrder.forward
  | last count =>
    refine ⟨hforming ?_, fun endTime hend r hr hp => ?_⟩
    · obtain ⟨n, rfl⟩ := Nat.exists_eq_succ_of_ne_zero (hu.count_ne_zero)
      show _ ∈ ((history symbol timeframe).closed ++ [(history symbol timeframe).forming]).rtake (n + 1)
      rw [List.rtake_concat_succ]
      exact List.mem_append_right _ (List.mem_singleton_self _)
    · obtain ⟨b, hb, htb⟩ := hts r hr hp
      rw [← htb]
      exact hkept.toEnd endTime hend SetOrder.forward b hb

/-- Each bar is read from a rate of the source that is valid, and has its time. -/
theorem exists_rate (h : env.Reads history req symbol timeframe source bars) (hlib : env.time.Documented) {o : SetOrder}
    {b : Bar} (hb : b ∈ env.delivered req o) :
    ∃ r ∈ (history symbol timeframe).rates source,
      env.readRate req.barType symbol env.clock r.row = .ok [b] ∧ r.Positive ∧ b.tsEvent = r.time * 1000000000 := by
  obtain ⟨r, hr, hread⟩ := (h.mem_delivered o).mp hb
  exact ⟨r, hr, hread, tsEvent_of_readRate hlib h.known (RateHistory.mem_rates hr) hread⟩

/-- The valid rates that are kept are closed. -/
theorem mem_closed_of_keeps {hist : RateHistory timeframe} (hkeeps : source.Keeps hist req) {r : MqlRates}
    (hr : r ∈ hist.rates source) (hp : r.Positive) : r ∈ hist.closed := by
  rcases List.mem_append.mp (RateHistory.mem_rates hr) with hclosed | hforming
  · exact hclosed
  · -- the forming rate is not among them, or not valid
    rw [List.mem_singleton.mp hforming] at hr hp
    cases source with
    | range dateFrom dateTo => exact absurd (by simpa using (List.mem_filter.mp hr).2) (hkeeps.1 hp)
    | last count => exact absurd hp hkeeps.1

/-- And the other way round. -/
theorem kept_of_keeps (h : env.Reads history req symbol timeframe source bars) (hlib : env.time.Documented)
    (ha : env.Asks req symbol timeframe duration)
    (hu : env.Uses req symbol timeframe duration source) (hkeeps : source.Keeps (history symbol timeframe) req) :
    env.RangeKept history req := by
  constructor
  · intro symbol' timeframe' duration' ha' o b hb
    obtain ⟨rfl, rfl⟩ := ha.unique ha'
    obtain ⟨r, hr, hread, hp, -⟩ := h.exists_rate hlib hb
    exact ⟨r, mem_closed_of_keeps hkeeps hr hp, hread⟩
  · intro start hstart o b hb
    obtain ⟨r, hr, -, hp, htb⟩ := h.exists_rate hlib hb
    rw [htb]
    cases source with
    | range dateFrom dateTo => exact hkeeps.2.1 start hstart r hr hp
    | last count => exact absurd hstart (hu.start_eq_none ▸ Option.some_ne_none start ∘ Eq.symm)
  · intro endTime hend o b hb
    obtain ⟨r, hr, -, hp, htb⟩ := h.exists_rate hlib hb
    rw [htb]
    cases source with
    | range dateFrom dateTo =>
      have hopens : r.OpensWithin dateFrom dateTo := by simpa using (List.mem_filter.mp hr).2
      have hto := hu.dateTo_eq
      rw [endOf, hend, Option.getD_some, toUtcDatetime] at hto
      have := hopens.2
      omega
    | last count => exact hkeeps.2 endTime hend r hr hp
  · intro hlimit o
    rw [h.length_delivered hlib o]
    cases source with
    | range dateFrom dateTo => exact hkeeps.2.2 hlimit
    | last count =>
      apply (List.length_filter_le _ _).trans
      have hcount := hu.count_eq
      rw [barLimit, if_neg fun hl => hlimit hl.2] at hcount
      rw [← hcount]
      show (List.drop _ _).length ≤ count
      rw [List.length_drop]
      omega

end Reads

/-- **The range of a request** is kept exactly when the framework refuses the call, or the source of its rates keeps it,
or one of these raises. -/
theorem bars_within_iff (hlib : env.time.Documented) (hans : env.Answers history) :
    env.RangeKept history req ↔ ∀ symbol timeframe duration source rows,
      env.Asks req symbol timeframe duration → env.Uses req symbol timeframe duration source →
      env.bridge.ask symbol timeframe source = .ok (some rows) → env.handleBars = .ok () →
        (∃ rate ∈ (history symbol timeframe).rates source, ∃ e,
          env.readRate req.barType symbol env.clock rate.row = .error e) ∨
        source.Keeps (history symbol timeframe) req := by
  constructor
  · intro hkept symbol timeframe duration source rows ha hu hask ht
    by_cases hf : ∀ r ∈ (history symbol timeframe).rates source,
        Fine (env.readRate req.barType symbol env.clock) r.row
    · right
      obtain ⟨bars, hreads⟩ := exists_reads ht hans ha hu hask hf
      exact hreads.keeps_of_kept hlib ha hu hkept
    · left
      simp only [not_forall] at hf
      obtain ⟨r, hr, hnot⟩ := hf
      refine ⟨r, hr, ?_⟩
      cases he : env.readRate req.barType symbol env.clock r.row with
      | error e => exact ⟨e, rfl⟩
      | ok ys => exact absurd ⟨ys, he⟩ hnot
  · intro hcond
    rcases delivered_cases hans req with
      hnil | ⟨symbol, timeframe, duration, source, rows, bars, ha, hu, hask, ht, hreads⟩
    · refine ⟨fun _ _ _ _ o b hb => ?_, fun _ _ o b hb => ?_, fun _ _ o b hb => ?_, fun _ o => ?_⟩
      · rw [hnil] at hb
        cases hb
      · rw [hnil] at hb
        cases hb
      · rw [hnil] at hb
        cases hb
      · rw [hnil]
        exact Nat.zero_le _
    · rcases hcond symbol timeframe duration source rows ha hu hask ht with ⟨r, hr, e, he⟩ | hkeeps
      · obtain ⟨ys, hys⟩ := fine_of_collect hreads.read r.row (List.mem_map.mpr ⟨r, List.mem_reverse.mpr hr, rfl⟩)
        rw [he] at hys
        cases hys
      · exact hreads.kept_of_keeps hlib ha hu hkeeps

/-! ## Rates of EURUSD -/

/-- Three days and the day that is forming, as the history of every timeframe. -/
def fourRates (timeframe : ℕ) : RateHistory timeframe where
  closed := [⟨1703894400, 1, 1, 1, 1, 5, 0, 7⟩, ⟨1703980800, 1, 2, 1, 2, 5, 0, 7⟩, ⟨1704067200, 2, 2, 1, 1, 5, 0, 7⟩]
  forming := ⟨1704153600, 2, 2, 2, 2, 5, 0, 7⟩
  increasing := by decide
  midnight := fun _ => by decide

/-- A bridge that answers every call from this history. -/
def fourRatesBars : BarsEnv :=
  { eurusdBars [] with
    bridge := {
      copyRatesRange := fun _ tf dateFrom dateTo =>
        .ok (some (((fourRates tf).rates (.range dateFrom dateTo)).map MqlRates.row))
      copyRatesFromPos := fun _ tf _ count => .ok (some (((fourRates tf).rates (.last count)).map MqlRates.row)) } }

theorem fourRatesBars_answers : fourRatesBars.Answers fun _ tf => fourRates tf := by
  intro symbol timeframe source rows h
  cases source with
  | range dateFrom dateTo => exact (Option.some.inj (Except.ok.inj h)).symm
  | last count => exact (Option.some.inj (Except.ok.inj h)).symm

/-- A request for the rates from the second day to the third gets these two. -/
theorem closedDays_kept :
    fourRatesBars.RangeKept (fun _ tf => fourRates tf)
      ⟨eurusdBarType 1 .minute, 0, some 1703980800000000000, some 1704070000000000000⟩ := by
  apply (bars_within_iff secondsLib_documented fourRatesBars_answers).mpr
  rintro symbol timeframe duration source rows - rfl - -
  right
  refine ⟨fun _ hopens => ?_, fun start hstart r hr _ => ?_, fun hlimit => absurd rfl hlimit⟩
  · have hto : (1704153600 * 1000000 : ℤ) ≤ 1704070000000000000 / 1000 := hopens.2
    norm_num at hto
  · cases hstart
    have hr' : r ∈ [(⟨1703980800, 1, 2, 1, 2, 5, 0, 7⟩ : MqlRates), ⟨1704067200, 2, 2, 1, 1, 5, 0, 7⟩] := hr
    simp only [List.mem_cons, List.not_mem_nil, or_false] at hr'
    rcases hr' with rfl | rfl <;> norm_num

/-- A request for the last rate gets the one that is forming. -/
theorem formingDay_delivered :
    ¬ fourRatesBars.RangeKept (fun _ tf => fourRates tf) ⟨eurusdBarType 1 .minute, 1, none, none⟩ := by
  intro h
  have hasks : fourRatesBars.Asks ⟨eurusdBarType 1 .minute, 1, none, none⟩ "EURUSD" 1 "7 D" :=
    ⟨⟨eurusd, rfl, rfl⟩, rfl, rfl, rfl⟩
  let b : Bar := ⟨eurusdBarType 1 .minute, 2, 2, 2, 2, 5, 1704153600000000000, 1704153600000000000, false⟩
  obtain ⟨rate, hmem, hread⟩ := h.closed "EURUSD" 1 "7 D" hasks SetOrder.forward b (by decide +kernel)
  have hnot : ∀ r ∈ (fourRates 1).closed,
      fourRatesBars.readRate (eurusdBarType 1 .minute) "EURUSD" fourRatesBars.clock r.row ≠ .ok [b] := by
    decide +kernel
  exact hnot rate hmem hread

end BarsEnv

end NautilusMt5
