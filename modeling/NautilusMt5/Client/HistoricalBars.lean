import NautilusMt5.Feed.BarConversion
import NautilusMt5.Feed.WireMessages
import NautilusMt5.Lib.Collect

/-!
# Historical bars (`parsing/rates.py`, `client/market_data.py`, `get_historical_bars`)

The rates come from `copy_rates_range` when there is a start, else from `copy_rates_from_pos`. Every rate whose time and
close are positive becomes a bar (`readRate_eq_ok`); a bar by days takes its time for a date `YYYYMMDD`, all others for
seconds.

Times of requests are nanoseconds, arguments of the bridge microseconds, times of rates seconds.
-/

namespace NautilusMt5

open Py

/-- A row of `copy_rates_*`, by the fields that are read and what their conversions give. -/
structure RateRow where
  time : DictField ℤ
  openPrice : DictField PyFloat
  high : DictField PyFloat
  low : DictField PyFloat
  close : DictField PyFloat
  tickVolume : DictField ℤ
  realVolume : DictField ℤ
  deriving DecidableEq

/-- `BarData`. -/
structure BarData where
  symbol : String
  time : ℤ
  openPrice : PyFloat
  high : PyFloat
  low : PyFloat
  close : PyFloat
  volume : ℤ
  complete : Bool
  deriving DecidableEq, Repr

/-- `mql_rate_row_to_bar_data`. -/
def mqlRateRowToBarData (symbol : String) (row : RateRow) : Except Error BarData := do
  let volume ← (row.tickVolume.orElse row.realVolume).getD 0
  let time ← row.time.getD 0
  let openPrice ← row.openPrice.getD 0
  let high ← row.high.getD 0
  let low ← row.low.getD 0
  let close ← row.close.getD 0
  return { symbol, time, openPrice, high, low, close, volume, complete := true }

/-- The conversions of times: `secs_to_nanos(n)`, `Timestamp.fromtimestamp(n, tz=utc).value` and
`to_datetime(n, format="%Y%m%d", utc=True).value`. -/
structure TimeLib where
  secsToNanos : ℤ → Except Error ℤ
  fromtimestamp : ℤ → Except Error ℤ
  toDatetime : ℤ → Except Error ℤ

/-- What `%Y%m%d` takes for a date: four digits, then one or two of a month and one or two of a day. -/
def SpellsDate (n : ℤ) : Prop :=
  ∃ year month day i j : ℕ, n = (year * 10 ^ i + month) * 10 ^ j + day ∧ year < 10000 ∧ (i = 1 ∨ i = 2) ∧
    (j = 1 ∨ j = 2) ∧ 1 ≤ month ∧ month ≤ 12 ∧ month < 10 ^ i ∧ 1 ≤ day ∧ day ≤ 31 ∧ day < 10 ^ j

/-- What is documented of the conversions: seconds are converted as far as nanoseconds reach, and a number is a date
only if its digits spell one. -/
structure TimeLib.Documented (lib : TimeLib) : Prop where
  secsToNanos : ∀ n, 0 < n → 60 ∣ n → n * 1000000000 < 2 ^ 63 → lib.secsToNanos n = .ok (n * 1000000000)
  fromtimestamp : ∀ n ns, lib.fromtimestamp n = .ok ns → ns = n * 1000000000
  fromtimestamp_past : ∀ n, 0 < n → n * 1000000000 < 2 ^ 63 → ∃ ns, lib.fromtimestamp n = .ok ns
  toDatetime : ∀ n ns, lib.toDatetime n = .ok ns → SpellsDate n

/-- A number that ends with two zeros spells no date. -/
theorem not_spellsDate {n : ℤ} (h : 100 ∣ n) : ¬ SpellsDate n := by
  rintro ⟨year, month, day, i, j, rfl, -, -, hj, -, -, -, hday, -, hlt⟩
  rcases hj with rfl | rfl
  · rw [pow_one] at h hlt
    omega
  · have h10 : (10 : ℤ) ^ 2 = 100 := by norm_num
    rw [h10] at h
    omega

/-- Times that are no dates, to run the code on. -/
def secondsLib : TimeLib where
  secsToNanos n := .ok (n * 1000000000)
  fromtimestamp n := .ok (n * 1000000000)
  toDatetime _ := .error (.valueError "time data doesn't match format")

theorem secondsLib_documented : secondsLib.Documented where
  secsToNanos _ _ _ _ := rfl
  fromtimestamp _ _ h := (Except.ok.inj h).symm
  fromtimestamp_past n _ _ := ⟨n * 1000000000, rfl⟩
  toDatetime _ _ h := by cases h

/-- The calls of the bridge, by symbol, timeframe and from when to when, or from which position how many. -/
structure RatesBridge where
  copyRatesRange : String → ℕ → ℤ → ℤ → Except Error (Option (List RateRow))
  copyRatesFromPos : String → ℕ → ℕ → ℕ → Except Error (Option (List RateRow))

/-- What a request for bars finds. `now` is `utcnow`, `clock` is `timestamp_ns`; `handleBars` is what the framework's
`_handle_bars` does with a call of four arguments: it takes the bars for the engine, or raises (a `TypeError` where it
has more parameters). -/
structure BarsEnv where
  bridge : RatesBridge
  instrument : InstrumentId → Option Instrument
  time : TimeLib
  newBar : BarCheck
  isTimeAggregated : BarSpecification → Bool
  timedelta : BarSpecification → Except Error ℤ
  now : ℤ
  clock : ℤ
  handleBars : Except Error Unit

/-- `_convert_mt5_bar_date_to_unix_nanos`. -/
def TimeLib.convertMt5BarDateToUnixNanos (lib : TimeLib) (time : ℤ) (spec : BarSpecification) : Except Error ℤ :=
  if spec.aggregation.number = 14 then lib.toDatetime time else lib.fromtimestamp time

/-- The candle of the data of a bar. -/
def BarData.candle (bar : BarData) : Candle where
  openPrice := bar.openPrice
  high := bar.high
  low := bar.low
  close := bar.close
  volume := if bar.volume = -1 then 0 else bar.volume

namespace BarsEnv

/-- `_mt5_bar_to_nautilus_bar`. -/
def mt5BarToNautilusBar (env : BarsEnv) (barType : BarType) (bar : BarData) (tsInit : ℤ) (isRevision : Bool) :
    Except Error Bar :=
  match env.instrument barType.instrumentId with
  | none => .error (.valueError ("No cached instrument for " ++ barType.instrumentId.symbol ++ "." ++
      barType.instrumentId.venue))
  | some instrument => do
    let tsEvent ← env.time.convertMt5BarDateToUnixNanos bar.time barType.spec
    makeBar env.newBar instrument barType bar.candle tsEvent tsInit isRevision

/-- One round of the loop over the rates in `get_historical_bars`. -/
def readRate (env : BarsEnv) (barType : BarType) (symbol : String) (tsInit : ℤ) (row : RateRow) :
    Except Error (List Bar) := do
  let barData ← mqlRateRowToBarData symbol row
  if barData.time ≤ 0 ∨ barData.close ≤ 0 then return []
  else
    let bar ← env.mt5BarToNautilusBar barType barData tsInit false
    return [bar]

/-- `timestamp_to_utc_datetime`: a datetime has microseconds. -/
def toUtcDatetime (ts : ℤ) : ℤ := ts / 1000

/-- The number of rates that are asked for by position. -/
def rateCount (limit : Option ℕ) : ℕ :=
  match limit with
  | none => 1000
  | some limit => if 0 < limit then limit else 1000

/-- `raw` of `_copy_rates` without a start. -/
def askByPosition (env : BarsEnv) (symbol : String) (timeframe : ℕ) (endTime : ℤ) (duration : String)
    (limit : Option ℕ) : Except Error (Option (List RateRow)) := do
  let raw ← env.bridge.copyRatesFromPos symbol timeframe 0 (rateCount limit)
  if raw = none ∨ raw = some [] then
    let dateFrom := endTime - ibDurationToTimedelta duration
    env.bridge.copyRatesRange symbol timeframe (toUtcDatetime dateFrom) (toUtcDatetime endTime)
  else return raw

/-- `_copy_rates`. -/
def copyRates (env : BarsEnv) (symbol : String) (timeframe : ℕ) (endTime : ℤ) (duration : String) (start : Option ℤ)
    (limit : Option ℕ) : Except Error (List RateRow) := do
  let raw ←
    match start with
    | some start => env.bridge.copyRatesRange symbol timeframe (toUtcDatetime start) (toUtcDatetime endTime)
    | none => env.askByPosition symbol timeframe endTime duration limit
  return raw.getD []

/-- `get_historical_bars`. -/
def getHistoricalBars (env : BarsEnv) (barType : BarType) (symbol : String) (endTime : ℤ) (duration : String)
    (start : Option ℤ) (limit : Option ℕ) : Except Error (List Bar) := do
  let timeframe ← barSpecToMt5Timeframe barType.spec
  let rates ← env.copyRates symbol timeframe endTime duration start limit
  Collect.collect (env.readRate barType symbol env.clock) rates.reverse

/-! ## One rate -/

variable {env : BarsEnv} {barType : BarType} {symbol : String} {tsInit : ℤ} {row : RateRow} {data : BarData}
  {bar : Bar} {instrument : Instrument}

/-- The data of a row that gives a bar. -/
def Valid (data : BarData) : Prop := ¬ (data.time ≤ 0 ∨ data.close ≤ 0)

instance : DecidablePred Valid := fun _ => inferInstanceAs (Decidable (¬ _))

theorem readRate_of_not_valid (hd : mqlRateRowToBarData symbol row = .ok data) (h : ¬ Valid data) :
    env.readRate barType symbol tsInit row = .ok [] := by
  unfold readRate
  rw [hd]
  show (if _ then _ else _) = _
  rw [if_pos (not_not.mp h)]
  rfl

theorem readRate_of_valid (hd : mqlRateRowToBarData symbol row = .ok data) (h : Valid data) :
    env.readRate barType symbol tsInit row =
      (env.mt5BarToNautilusBar barType data tsInit false).map fun bar => [bar] := by
  unfold readRate
  rw [hd]
  show (if _ then _ else _) = _
  rw [if_neg h]
  cases env.mt5BarToNautilusBar barType data tsInit false with
  | error e => rfl
  | ok bar => rfl

theorem readRate_of_error {e : Error} (hd : mqlRateRowToBarData symbol row = .error e) :
    env.readRate barType symbol tsInit row = .error e := by
  unfold readRate
  rw [hd]
  rfl

/-- The row gives this bar of the instrument. -/
structure RowGives (env : BarsEnv) (barType : BarType) (symbol : String) (tsInit : ℤ) (instrument : Instrument)
    (row : RateRow) (data : BarData) (tsEvent : ℤ) (bar : Bar) : Prop where
  read : mqlRateRowToBarData symbol row = .ok data
  valid : Valid data
  timed : env.time.convertMt5BarDateToUnixNanos data.time barType.spec = .ok tsEvent
  made : makeBar env.newBar instrument barType data.candle tsEvent tsInit false = .ok bar

/-- A row that gives a bar. -/
theorem readRate_of_gives (hi : env.instrument barType.instrumentId = some instrument) {tsEvent : ℤ}
    (h : env.RowGives barType symbol tsInit instrument row data tsEvent bar) :
    env.readRate barType symbol tsInit row = .ok [bar] := by
  rw [readRate_of_valid h.read h.valid, mt5BarToNautilusBar, hi]
  show Except.map _ (env.time.convertMt5BarDateToUnixNanos data.time barType.spec >>= _) = _
  rw [h.timed]
  show Except.map _ (makeBar env.newBar instrument barType data.candle tsEvent tsInit false) = _
  rw [h.made]
  rfl

/-- What a row gives: nothing when it is not valid, else one bar of the cached instrument. -/
theorem readRate_cases {bars : List Bar} (h : env.readRate barType symbol tsInit row = .ok bars) :
    (bars = [] ∧ ∃ data, mqlRateRowToBarData symbol row = .ok data ∧ ¬ Valid data) ∨
    ∃ instrument data tsEvent bar, env.instrument barType.instrumentId = some instrument ∧ bars = [bar] ∧
      env.RowGives barType symbol tsInit instrument row data tsEvent bar := by
  cases hd : mqlRateRowToBarData symbol row with
  | error e =>
    rw [readRate_of_error hd] at h
    cases h
  | ok data =>
    by_cases hv : Valid data
    · right
      rw [readRate_of_valid hd hv] at h
      cases hm : env.mt5BarToNautilusBar barType data tsInit false with
      | error e =>
        rw [hm] at h
        cases h
      | ok bar =>
        rw [hm] at h
        cases h
        unfold mt5BarToNautilusBar at hm
        split at hm
        · cases hm
        · rename_i instrument hi
          obtain ⟨tsEvent, ht, hb⟩ := bind_eq_ok.mp hm
          exact ⟨instrument, data, tsEvent, bar, hi, rfl, hd, hv, ht, hb⟩
    · left
      rw [readRate_of_not_valid hd hv] at h
      exact ⟨(Except.ok.inj h).symm, data, rfl, hv⟩

/-- The rows that become bars. -/
theorem readRate_eq_ok (hi : env.instrument barType.instrumentId = some instrument) :
    env.readRate barType symbol tsInit row = .ok [bar] ↔
      ∃ data tsEvent, env.RowGives barType symbol tsInit instrument row data tsEvent bar := by
  constructor
  · intro h
    rcases readRate_cases h with ⟨hnil, -⟩ | ⟨instrument', data, tsEvent, bar', hi', hbars, hg⟩
    · cases hnil
    · rw [hi] at hi'
      cases hi'
      cases hbars
      exact ⟨data, tsEvent, hg⟩
  · rintro ⟨data, tsEvent, hg⟩
    exact readRate_of_gives hi hg

end BarsEnv

/-! ## The rates of the terminal -/

/-- A rate as a row. -/
def MqlRates.row (rate : MqlRates) : RateRow where
  time := some (.ok rate.time)
  openPrice := some (.ok (.finite rate.openPrice))
  high := some (.ok (.finite rate.high))
  low := some (.ok (.finite rate.low))
  close := some (.ok (.finite rate.close))
  tickVolume := some (.ok rate.tickVolume)
  realVolume := some (.ok rate.realVolume)

/-- The volume that both paths take. -/
def MqlRates.volume (rate : MqlRates) : ℤ := if rate.tickVolume = 0 then rate.realVolume else rate.tickVolume

/-- The data of a rate. -/
def MqlRates.data (rate : MqlRates) (symbol : String) : BarData where
  symbol := symbol
  time := rate.time
  openPrice := .finite rate.openPrice
  high := .finite rate.high
  low := .finite rate.low
  close := .finite rate.close
  volume := rate.volume
  complete := true

/-- The time and the close of a rate are positive. -/
def MqlRates.Positive (rate : MqlRates) : Prop := 0 < rate.time ∧ 0 < rate.close

instance : DecidablePred MqlRates.Positive := fun _ => inferInstanceAs (Decidable (_ ∧ _))

theorem MqlRates.positive_iff {rate : MqlRates} :
    ¬ ((PyFloat.finite rate.close) ≤ 0 ∨ rate.time ≤ 0) ↔ rate.Positive := by
  rw [PyFloat.finite_le_zero, not_or, not_le, not_le, MqlRates.Positive]
  exact and_comm

theorem MqlRates.valid_data {symbol : String} {rate : MqlRates} : BarsEnv.Valid (rate.data symbol) ↔ rate.Positive := by
  unfold BarsEnv.Valid
  rw [or_comm]
  exact MqlRates.positive_iff

theorem mqlRateRowToBarData_row (symbol : String) (rate : MqlRates) :
    mqlRateRowToBarData symbol rate.row = .ok (rate.data symbol) := by
  have hvolume : DictField.getD (DictField.orElse rate.row.tickVolume rate.row.realVolume) 0 = .ok rate.volume := by
    unfold MqlRates.row MqlRates.volume
    by_cases h : rate.tickVolume = 0
    · rw [if_pos h, h, DictField.orElse_zero, DictField.getD_some]
    · rw [if_neg h, DictField.orElse_of_ne _ h, DictField.getD_some]
  unfold mqlRateRowToBarData
  rw [hvolume]
  rfl

/-! ## Bars of EURUSD -/

/-- Requests for bars of EURUSD at a bridge that answers every call with the same rates and a framework that takes the
call with the bars, to run the code on. -/
def eurusdBars (rates : List MqlRates) : BarsEnv where
  bridge := ⟨fun _ _ _ _ => .ok (some (rates.map MqlRates.row)), fun _ _ _ _ => .ok (some (rates.map MqlRates.row))⟩
  instrument id := if id = eurusd.id then some eurusd else none
  time := secondsLib
  newBar _ _ _ _ := .ok ()
  isTimeAggregated _ := true
  timedelta _ := .ok 60000000000
  now := 1704153600000000000
  clock := 1704153600000000000
  handleBars := .ok ()

/-- Bars of EURUSD. -/
def eurusdBarType (step : ℕ) (aggregation : BarAggregation) : BarType :=
  ⟨eurusd.id, ⟨step, aggregation, .last⟩, .external⟩

end NautilusMt5
