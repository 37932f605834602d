import NautilusMt5.Client.HistoricalBars
import Mathlib.Data.List.Dedup

/-!
# Requests for historical bars (`data.py`, `_request_bars`)

The bars of a request pass through a set and are sorted by `ts_init`. All of them have the same one, the reading of the
clock in `get_historical_bars`, so that the sort leaves them in the order in which the set gives them: where the
framework takes the call with which they are handed over, the engine gets one ordered answer exactly when the rates give
one bar (`answers_ordered_iff`).
-/

namespace NautilusMt5

open Py Collect

/-- `RequestBars`; a limit of 0 is none. -/
structure BarsRequest where
  barType : BarType
  limit : ℕ
  start : Option ℤ
  endTime : Option ℤ
  deriving DecidableEq, Repr

/-- What comes of a request: an error in the log, the status `Failed`, or bars for the engine. -/
inductive BarsAnswer
  | refused
  | failed
  | success (bars : List Bar)
  deriving DecidableEq, Repr

/-- An order in which a set may give its items: those of the list, each once. -/
structure SetOrder where
  order : List Bar → List Bar
  perm : ∀ bars, (order bars).Perm bars.dedup

/-- `bars.sort(key=lambda x: x.ts_init)`. -/
def sortBars (bars : List Bar) : List Bar := bars.insertionSort fun a b => a.tsInit ≤ b.tsInit

namespace BarsEnv

/-- What `_request_bars` makes of the bars of `get_historical_bars`: `_handle_bars(bar_type, bars, bars[0],
correlation_id)` hands them over. -/
def answer (env : BarsEnv) (o : SetOrder) (bars : List Bar) : Except Error BarsAnswer :=
  if bars = [] then .ok .failed else env.handleBars.map fun _ => .success (sortBars (o.order bars))

/-- The limit of a request. -/
def barLimit (req : BarsRequest) : ℕ := if req.start = none ∧ req.limit = 0 then 1000 else req.limit

/-- `end`. -/
def endOf (env : BarsEnv) (req : BarsRequest) : ℤ := req.endTime.getD env.now

/-- `duration_str`. -/
def durationOf (env : BarsEnv) (req : BarsRequest) : Except Error String :=
  match req.start with
  | some start => .ok (timedeltaToDurationStr (env.endOf req - start))
  | none => do
    let period ← env.timedelta req.barType.spec
    return if 60000000000 ≤ period then "7 D" else "1 D"

/-- `MT5Symbol(**instrument.info["symbol"])`. -/
def mt5SymbolOf (instrument : Instrument) : Except Error String :=
  match instrument.symbolInfo with
  | none => .error (.other "KeyError" "'symbol'")
  | some symbol => .ok symbol

/-- `_request_bars` up to the bars that `get_historical_bars` returns, `none` where it returns before. -/
def historicalBarsFor (env : BarsEnv) (req : BarsRequest) : Except Error (Option (List Bar)) :=
  match env.instrument req.barType.instrumentId with
  | none => .ok none
  | some instrument =>
    if env.isTimeAggregated req.barType.spec = false then .ok none
    else do
      let duration ← env.durationOf req
      let symbol ← mt5SymbolOf instrument
      let bars ← env.getHistoricalBars req.barType symbol (env.endOf req) duration req.start
        (if req.start = none then some (barLimit req) else none)
      return some bars

/-- `_request_bars`. -/
def requestBars (env : BarsEnv) (req : BarsRequest) (o : SetOrder) : Except Error BarsAnswer := do
  let bars ← env.historicalBarsFor req
  match bars with
  | none => return .refused
  | some bars => env.answer o bars

/-- The bars that the engine gets. -/
def delivered (env : BarsEnv) (req : BarsRequest) (o : SetOrder) : List Bar :=
  match env.requestBars req o with
  | .ok (.success bars) => bars
  | _ => []

/-! ## The rates of a request -/

/-- The request asks the bridge for rates of this symbol and timeframe. -/
structure Asks (env : BarsEnv) (req : BarsRequest) (symbol : String) (timeframe : ℕ) (duration : String) : Prop where
  instrument : ∃ instrument, env.instrument req.barType.instrumentId = some instrument ∧
    mt5SymbolOf instrument = .ok symbol
  time : env.isTimeAggregated req.barType.spec = true
  duration : env.durationOf req = .ok duration
  timeframe : barSpecToMt5Timeframe req.barType.spec = .ok timeframe

/-- The limit that `get_historical_bars` gets. -/
def passedLimit (req : BarsRequest) : Option ℕ := if req.start = none then some (barLimit req) else none

/-- The request gets these rates of the symbol from the bridge. -/
def GetsRates (env : BarsEnv) (req : BarsRequest) (symbol : String) (rows : List RateRow) : Prop :=
  ∃ timeframe duration, env.Asks req symbol timeframe duration ∧
    env.copyRates symbol timeframe (env.endOf req) duration req.start (passedLimit req) = .ok rows

variable {env : BarsEnv} {req : BarsRequest} {symbol : String} {rows : List RateRow} {bars : List Bar}

/-- The bars are those of the rates. -/
theorem historicalBarsFor_eq_ok :
    env.historicalBarsFor req = .ok (some bars) ↔ ∃ symbol rows, env.GetsRates req symbol rows ∧
      collect (env.readRate req.barType symbol env.clock) rows.reverse = .ok bars := by
  unfold historicalBarsFor
  constructor
  · intro h
    split at h
    · cases h
    · rename_i instrument hi
      by_cases hta : env.isTimeAggregated req.barType.spec = false
      · rw [if_pos hta] at h
        cases h
      · rw [if_neg hta] at h
        obtain ⟨duration, hd, h⟩ := bind_eq_ok.mp h
        obtain ⟨symbol, hs, h⟩ := bind_eq_ok.mp h
        obtain ⟨bars', hb, h⟩ := bind_eq_ok.mp h
        cases h
        obtain ⟨timeframe, htf, hb⟩ := bind_eq_ok.mp hb
        obtain ⟨rows, hrows, hb⟩ := bind_eq_ok.mp hb
        have hasks : env.Asks req symbol timeframe duration :=
          ⟨⟨instrument, hi, hs⟩, Bool.eq_true_of_not_eq_false hta, hd, htf⟩
        exact ⟨symbol, rows, ⟨timeframe, duration, hasks, hrows⟩, hb⟩
  · rintro ⟨symbol, rows, ⟨timeframe, duration, ⟨⟨instrument, hi, hs⟩, hta, hd, htf⟩, hrows⟩, hb⟩
    rw [hi]
    simp only
    rw [if_neg (by simp [hta]), hd]
    show (mt5SymbolOf instrument >>= _) = _
    rw [hs]
    show (env.getHistoricalBars _ _ _ _ _ _ >>= _) = _
    rw [getHistoricalBars, htf]
    show ((env.copyRates _ _ _ _ _ (passedLimit req) >>= _) >>= _) = _
    rw [hrows]
    show (collect _ _ >>= _) = _
    rw [hb]
    rfl

theorem requestBars_of_bars (hb : env.historicalBarsFor req = .ok (some bars)) (o : SetOrder) :
    env.requestBars req o = env.answer o bars := by
  unfold requestBars
  rw [hb]
  rfl

/-- The engine gets bars when the rates are read and the framework takes the call. -/
theorem delivered_of_bars (ht : env.handleBars = .ok ()) (hb : env.historicalBarsFor req = .ok (some bars))
    (o : SetOrder) : env.delivered req o = sortBars (o.order bars) := by
  unfold delivered
  rw [requestBars_of_bars hb, answer, ht]
  by_cases hn : bars = []
  · subst hn
    have hnil : o.order [] = [] := (o.perm []).eq_nil
    rw [if_pos rfl, hnil]
    rfl
  · rw [if_neg hn]
    rfl

/-- The engine gets nothing when the framework refuses the call. -/
theorem delivered_of_refused {e : Error} (ht : env.handleBars = .error e) (req : BarsRequest) (o : SetOrder) :
    env.delivered req o = [] := by
  unfold delivered requestBars
  cases h : env.historicalBarsFor req with
  | error e => rfl
  | ok r =>
    cases r with
    | none => rfl
    | some bars =>
      show (match env.answer o bars with
        | .ok (.success bars) => bars
        | _ => []) = []
      rw [answer, ht]
      split_ifs <;> rfl

theorem delivered_of_none (hb : ∀ bars, env.historicalBarsFor req ≠ .ok (some bars)) (o : SetOrder) :
    env.delivered req o = [] := by
  unfold delivered requestBars
  cases h : env.historicalBarsFor req with
  | error e => rfl
  | ok r =>
    cases r with
    | none => rfl
    | some bars => exact absurd h (hb bars)

/-! ## Their order -/

/-- The bars of a request have the `ts_init` of its clock. -/
theorem tsInit_of_collect {barType : BarType} (hb : collect (env.readRate barType symbol env.clock) rows = .ok bars) :
    ∀ b ∈ bars, b.tsInit = env.clock := by
  refine forall_of_collect (fun row _ ys hys b hmem => ?_) hb
  rcases readRate_cases hys with ⟨rfl, -⟩ | ⟨instrument, data, tsEvent, bar, -, rfl, hg⟩
  · cases hmem
  · rw [List.mem_singleton.mp hmem]
    exact tsInit_makeBar hg.made

/-- So the sort leaves the bars as they come from the set. -/
theorem sortBars_eq {barType : BarType} (hb : collect (env.readRate barType symbol env.clock) rows = .ok bars)
    (o : SetOrder) : sortBars (o.order bars) = o.order bars := by
  apply List.Pairwise.insertionSort_eq
  apply List.pairwise_of_forall_mem_list
  have hinit : ∀ b ∈ o.order bars, b.tsInit = env.clock := by
    intro b hmem
    exact tsInit_of_collect hb b (List.mem_dedup.mp ((o.perm bars).mem_iff.mp hmem))
  intro a ha b hmem
  rw [hinit a ha, hinit b hmem]

/-- The data give one bar: the same time and, as the instrument makes them, the same prices and volume. -/
structure SameBar (env : BarsEnv) (instrument : Instrument) (barType : BarType) (d d' : BarData) : Prop where
  time : env.time.convertMt5BarDateToUnixNanos d.time barType.spec =
    env.time.convertMt5BarDateToUnixNanos d'.time barType.spec
  openPrice : instrument.makePriceOf d.openPrice = instrument.makePriceOf d'.openPrice
  high : instrument.makePriceOf d.high = instrument.makePriceOf d'.high
  low : instrument.makePriceOf d.low = instrument.makePriceOf d'.low
  close : instrument.makePriceOf d.close = instrument.makePriceOf d'.close
  volume : instrument.makeQty d.candle.volume = instrument.makeQty d'.candle.volume

/-- All valid rates give one bar. -/
def OneBar (env : BarsEnv) (barType : BarType) (symbol : String) (rows : List RateRow) : Prop :=
  ∀ instrument, env.instrument barType.instrumentId = some instrument →
    ∀ row ∈ rows, ∀ row' ∈ rows, ∀ d d', mqlRateRowToBarData symbol row = .ok d →
      mqlRateRowToBarData symbol row' = .ok d' → Valid d → Valid d' → env.SameBar instrument barType d d'

variable {barType : BarType} {instrument : Instrument} {d d' : BarData} {b b' : Bar} {ts ts' : ℤ} {row row' : RateRow}

theorem SameBar.eq (hs : env.SameBar instrument barType d d')
    (h : env.RowGives barType symbol env.clock instrument row d ts b)
    (h' : env.RowGives barType symbol env.clock instrument row' d' ts' b') : b = b' := by
  have hts : ts = ts' := Except.ok.inj (h.timed.symm.trans (hs.time.trans h'.timed))
  obtain ⟨o, hi, lo, c, v, ho, hh, hl, hc, hv, -, rfl⟩ := makeBar_eq_ok.mp h.made
  obtain ⟨o', hi', lo', c', v', ho', hh', hl', hc', hv', -, rfl⟩ := makeBar_eq_ok.mp h'.made
  have e1 : o = o' := Except.ok.inj (ho.symm.trans (hs.openPrice.trans ho'))
  have e2 : hi = hi' := Except.ok.inj (hh.symm.trans (hs.high.trans hh'))
  have e3 : lo = lo' := Except.ok.inj (hl.symm.trans (hs.low.trans hl'))
  have e4 : c = c' := Except.ok.inj (hc.symm.trans (hs.close.trans hc'))
  have e5 : v = v' := Except.ok.inj (hv.symm.trans (hs.volume.trans hv'))
  rw [hts, e1, e2, e3, e4, e5]

theorem sameBar_of_gives (h : env.RowGives barType symbol env.clock instrument row d ts b)
    (h' : env.RowGives barType symbol env.clock instrument row' d' ts' b) : env.SameBar instrument barType d d' := by
  have hts : ts = ts' := (tsEvent_makeBar h.made).symm.trans (tsEvent_makeBar h'.made)
  obtain ⟨o, hi, lo, c, v, ho, hh, hl, hc, hv, -, rfl⟩ := makeBar_eq_ok.mp h.made
  obtain ⟨o', hi', lo', c', v', ho', hh', hl', hc', hv', -, heq⟩ := makeBar_eq_ok.mp h'.made
  cases heq
  exact {
    time := by rw [h.timed, h'.timed, hts]
    openPrice := ho.trans ho'.symm
    high := hh.trans hh'.symm
    low := hl.trans hl'.symm
    close := hc.trans hc'.symm
    volume := hv.trans hv'.symm }

/-- A valid row of a request that is read gives one of its bars. -/
theorem exists_gives (hb : collect (env.readRate barType symbol env.clock) rows = .ok bars)
    (hi : env.instrument barType.instrumentId = some instrument) (hrow : row ∈ rows)
    (hd : mqlRateRowToBarData symbol row = .ok d) (hv : Valid d) :
    ∃ ts, ∃ b ∈ bars, env.RowGives barType symbol env.clock instrument row d ts b := by
  obtain ⟨hf, rfl⟩ := collect_eq_ok_iff.mp hb
  obtain ⟨ys, hys⟩ := hf row hrow
  rcases readRate_cases hys with ⟨-, d', hd', hv'⟩ | ⟨instrument', d', ts, b, hi', rfl, hg⟩
  · rw [hd] at hd'
    cases hd'
    exact absurd hv hv'
  · rw [hi] at hi'
    cases hi'
    have hdd : d = d' := Except.ok.inj (hd.symm.trans hg.read)
    subst hdd
    refine ⟨ts, b, List.mem_flatMap.mpr ⟨row, hrow, ?_⟩, hg⟩
    rw [items_of_ok hys]
    exact List.mem_singleton_self b

/-- And every bar comes from such a row. -/
theorem exists_row (hb : collect (env.readRate barType symbol env.clock) rows = .ok bars) (hmem : b ∈ bars) :
    ∃ instrument, env.instrument barType.instrumentId = some instrument ∧
      ∃ row ∈ rows, ∃ d ts, env.RowGives barType symbol env.clock instrument row d ts b := by
  obtain ⟨hf, rfl⟩ := collect_eq_ok_iff.mp hb
  obtain ⟨row, hrow, hbr⟩ := List.mem_flatMap.mp hmem
  obtain ⟨ys, hys⟩ := hf row hrow
  rw [items_of_ok hys] at hbr
  rcases readRate_cases hys with ⟨rfl, -⟩ | ⟨instrument, d, ts, b', hi, rfl, hg⟩
  · cases hbr
  · rw [List.mem_singleton.mp hbr]
    exact ⟨instrument, hi, row, hrow, d, ts, hg⟩

/-- Rates that are read give one bar if and only if all their bars are equal. -/
theorem oneBar_iff (hb : collect (env.readRate barType symbol env.clock) rows = .ok bars) :
    env.OneBar barType symbol rows ↔ ∀ b ∈ bars, ∀ b' ∈ bars, b = b' := by
  constructor
  · intro hone b hmem b' hmem'
    obtain ⟨instrument, hi, row, hrow, d, ts, hg⟩ := exists_row hb hmem
    obtain ⟨instrument', hi', row', hrow', d', ts', hg'⟩ := exists_row hb hmem'
    rw [hi] at hi'
    cases hi'
    exact (hone instrument hi row hrow row' hrow' d d' hg.read hg'.read hg.valid hg'.valid).eq hg hg'
  · intro hall instrument hi row hrow row' hrow' d d' hd hd' hv hv'
    obtain ⟨ts, b, hmem, hg⟩ := exists_gives hb hi hrow hd hv
    obtain ⟨ts', b', hmem', hg'⟩ := exists_gives hb hi hrow' hd' hv'
    rw [hall b hmem b' hmem'] at hg
    exact sameBar_of_gives hg hg'

/-! ## One ordered answer -/

/-- The bars that the engine gets are distinct and increasing in `ts_event` and do not depend on the order of the
set. -/
structure AnswersOrdered (env : BarsEnv) (req : BarsRequest) : Prop where
  distinct : ∀ o, ((env.delivered req o).map Bar.tsEvent).Nodup
  increasing : ∀ o, (env.delivered req o).Pairwise fun b b' => b.tsEvent < b'.tsEvent
  independent : ∀ o o', env.delivered req o = env.delivered req o'

/-- A list without duplicates that is its own reverse has at most one item. -/
theorem eq_of_reverse {α : Type} {l : List α} (hn : l.Nodup) (hr : l = l.reverse) : ∀ a ∈ l, ∀ b ∈ l, a = b := by
  cases l with
  | nil => intro a ha; cases ha
  | cons x t =>
    rw [List.reverse_cons] at hr
    cases ht : t.reverse with
    | nil =>
      rw [List.reverse_eq_nil_iff] at ht
      subst ht
      intro a ha b hb
      rw [List.mem_singleton.mp ha, List.mem_singleton.mp hb]
    | cons z zs =>
      rw [ht, List.cons_append] at hr
      have hx : x ∈ t := by
        rw [← List.mem_reverse, ht, (List.cons.inj hr).1]
        exact List.mem_cons_self
      exact absurd hx (List.nodup_cons.mp hn).1

/-- The set gives its items in the order of their first occurrences, or the other way round. -/
def SetOrder.forward : SetOrder := ⟨List.dedup, fun _ => .refl _⟩

def SetOrder.backward : SetOrder := ⟨fun bars => bars.dedup.reverse, fun _ => List.reverse_perm _⟩

/-- A set of bars that are all equal has at most one item. -/
theorem dedup_of_all_eq (hall : ∀ b ∈ bars, ∀ b' ∈ bars, b = b') : bars.dedup = [] ∨ ∃ b, bars.dedup = [b] := by
  cases hd : bars.dedup with
  | nil => exact .inl rfl
  | cons b l =>
    cases l with
    | nil => exact .inr ⟨b, rfl⟩
    | cons b' l =>
      have hn := List.nodup_dedup bars
      rw [hd] at hn
      have hmem : ∀ c ∈ b :: b' :: l, c ∈ bars := fun c hc => List.mem_dedup.mp (hd ▸ hc)
      have heq := hall b (hmem b (by simp)) b' (hmem b' (by simp))
      exact absurd (heq ▸ List.mem_cons_self) (List.nodup_cons.mp hn).1

/-- So it has one order. -/
theorem order_of_all_eq (hall : ∀ b ∈ bars, ∀ b' ∈ bars, b = b') (o : SetOrder) : o.order bars = bars.dedup := by
  rcases dedup_of_all_eq hall with hd | ⟨b, hd⟩
  · rw [hd]
    exact (hd ▸ o.perm bars).eq_nil
  · rw [hd]
    exact (hd ▸ o.perm bars).eq_singleton

/-- Where every order of the set gives the engine the same short list, the answer is ordered. -/
theorem answersOrdered_of_short {l : List Bar} (hdel : ∀ o, env.delivered req o = l)
    (hshort : l = [] ∨ ∃ b, l = [b]) : env.AnswersOrdered req := by
  constructor
  · intro o
    rw [hdel]
    rcases hshort with rfl | ⟨b, rfl⟩ <;> simp
  · intro o
    rw [hdel]
    rcases hshort with rfl | ⟨b, rfl⟩ <;> simp
  · intro o o'
    rw [hdel, hdel]

/-- The engine gets the bars in the order of the set. -/
theorem delivered_eq_order (ht : env.handleBars = .ok ()) (hrates : env.GetsRates req symbol rows)
    (hb : collect (env.readRate req.barType symbol env.clock) rows.reverse = .ok bars) (o : SetOrder) :
    env.delivered req o = o.order bars :=
  (delivered_of_bars ht (historicalBarsFor_eq_ok.mpr ⟨symbol, rows, hrates, hb⟩) o).trans (sortBars_eq hb o)

theorem oneBar_reverse : env.OneBar barType symbol rows.reverse ↔ env.OneBar barType symbol rows := by
  simp only [OneBar, List.mem_reverse]

/-- **The answer is ordered** exactly when the framework refuses the call, or the rates give at most one bar, or one of
them raises. -/
theorem answers_ordered_iff :
    env.AnswersOrdered req ↔ ∀ symbol rows, env.GetsRates req symbol rows → env.handleBars = .ok () →
      (∃ row ∈ rows, ∃ e, env.readRate req.barType symbol env.clock row = .error e) ∨
        env.OneBar req.barType symbol rows := by
  constructor
  · intro hord symbol rows hrates ht
    by_cases hf : ∀ row ∈ rows.reverse, Fine (env.readRate req.barType symbol env.clock) row
    · right
      have hb := collect_of_fine hf
      have hrev := hord.independent SetOrder.forward SetOrder.backward
      rw [delivered_eq_order ht hrates hb, delivered_eq_order ht hrates hb] at hrev
      have hall := eq_of_reverse (List.nodup_dedup _) hrev
      rw [← oneBar_reverse, oneBar_iff hb]
      intro b hmem b' hmem'
      exact hall b (List.mem_dedup.mpr hmem) b' (List.mem_dedup.mpr hmem')
    · left
      simp only [not_forall] at hf
      obtain ⟨row, hrow, hnot⟩ := hf
      refine ⟨row, List.mem_reverse.mp hrow, ?_⟩
      cases hr : env.readRate req.barType symbol env.clock row with
      | error e => exact ⟨e, rfl⟩
      | ok ys => exact absurd ⟨ys, hr⟩ hnot
  · intro hcond
    by_cases hsome : ∃ bars, env.historicalBarsFor req = .ok (some bars)
    · obtain ⟨bars, hbars⟩ := hsome
      obtain ⟨symbol, rows, hrates, hb⟩ := historicalBarsFor_eq_ok.mp hbars
      cases ht : env.handleBars with
      | error e => exact answersOrdered_of_short (delivered_of_refused ht req) (.inl rfl)
      | ok u =>
        have hall : ∀ b ∈ bars, ∀ b' ∈ bars, b = b' := by
          rcases hcond symbol rows hrates ht with ⟨row, hrow, e, he⟩ | hone
          · obtain ⟨ys, hys⟩ := fine_of_collect hb row (List.mem_reverse.mpr hrow)
            rw [he] at hys
            cases hys
          · exact (oneBar_iff hb).mp (oneBar_reverse.mpr hone)
        exact answersOrdered_of_short
          (fun o => (delivered_eq_order ht hrates hb o).trans (order_of_all_eq hall o)) (dedup_of_all_eq hall)
    · exact answersOrdered_of_short (delivered_of_none fun bars hbars => hsome ⟨bars, hbars⟩) (.inl rfl)

/-- Two minutes, of which the set gives either one first. -/
theorem twoMinutes_unordered :
    ¬ (eurusdBars [⟨1704067200, 1, 1, 1, 1, 5, 0, 7⟩, ⟨1704067260, 1, 1, 1, 1, 5, 0, 7⟩]).AnswersOrdered
      ⟨eurusdBarType 1 .minute, 2, none, none⟩ := by
  intro h
  have hrev := h.independent SetOrder.forward SetOrder.backward
  revert hrev
  decide +kernel

end BarsEnv

end NautilusMt5
