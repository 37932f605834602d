import NautilusMt5.Client.HistoricalBars
import NautilusMt5.Feed.BarDedup
import NautilusMt5.Feed.MessageCodec

/-!
# Live bars and historical bars

A closed rate reaches the engine as a bar of the feed or as a row of a request. Both paths take the same volume, refuse
the same rates and make the same prices; they differ in the time of a day. `_convert_mt5_bar_date_to_unix_nanos` reads
the time of a bar by days as the digits of a date, where the terminal has seconds, and a midnight never has such digits:
the request raises (`bars_agree_iff`).
-/

namespace NautilusMt5

open Py BarsEnv

/-- A closed rate of a timeframe: it opens where a period starts, before the end of timestamps, and its volumes are
counts. -/
structure MqlRates.Closed (tf : Timeframe) (rate : MqlRates) : Prop where
  opens : (tf.seconds : ℤ) ∣ rate.time
  past : rate.time * 1000000000 < 2 ^ 63
  tickVolume : 0 ≤ rate.tickVolume
  realVolume : 0 ≤ rate.realVolume

/-- The live path of a bar of the wire: the dedup of the handler, then the conversion. -/
def BarsEnv.livePath (env : BarsEnv) (upper : Upper) (h : InboundFeedHandler) (instrument : Instrument)
    (barType : BarType) (bar : WireBar) (now : ℤ) : Except Error (Option Bar) :=
  match (h.dedupBar upper bar).2 with
  | none => .ok none
  | some bar => wireBarToNautilusBar env.time.secsToNanos env.newBar instrument barType bar now

/-- The bars have the same prices, volume and `ts_event`. -/
structure Bar.Same (b b' : Bar) : Prop where
  openPrice : b.openPrice = b'.openPrice
  high : b.high = b'.high
  low : b.low = b'.low
  close : b.close = b'.close
  volume : b.volume = b'.volume
  tsEvent : b.tsEvent = b'.tsEvent

/-- The two paths both make a bar or neither does, and they make the same one. -/
structure PathsAgree (live : Except Error (Option Bar)) (historical : Except Error (List Bar)) : Prop where
  accept : (∃ b, live = .ok (some b)) ↔ ∃ b, historical = .ok [b]
  same : ∀ b b', live = .ok (some b) → historical = .ok [b'] → b.Same b'

/-- The candle of a rate. -/
def MqlRates.candle (rate : MqlRates) : Candle where
  openPrice := .finite rate.openPrice
  high := .finite rate.high
  low := .finite rate.low
  close := .finite rate.close
  volume := rate.volume

variable {env : BarsEnv} {upper : Upper} {h : InboundFeedHandler} {instrument : Instrument} {barType : BarType}
  {rate : MqlRates} {tf : Timeframe} {symbol : String} {now : ℤ} {bar : Bar}

/-- The wire has the candle of the rate. -/
theorem candle_sentBar (hr : rate.Closed tf) : (sentBar symbol tf.token rate).candle = rate.candle := by
  have hvolume : (if 0 < rate.tickVolume then rate.tickVolume else rate.realVolume) = rate.volume := by
    have := hr.tickVolume
    unfold MqlRates.volume
    split_ifs <;> omega
  unfold WireBar.candle MqlRates.candle sentBar
  rw [hvolume]

/-- And the request has it, too. -/
theorem candle_data (hr : rate.Closed tf) : (rate.data symbol).candle = rate.candle := by
  have hvolume : (if rate.volume = -1 then 0 else rate.volume) = rate.volume := by
    have ht := hr.tickVolume
    have hv := hr.realVolume
    unfold MqlRates.volume
    split_ifs <;> omega
  unfold BarData.candle MqlRates.candle MqlRates.data
  rw [hvolume]

/-- A key that the handler has not seen lets a bar with a positive time and close pass. -/
theorem dedupBar_fresh (hfresh : h.barState.get? (symbol, upper tf.token) = none) (hp : rate.Positive) :
    (h.dedupBar upper (sentBar symbol tf.token rate)).2 = some (sentBar symbol tf.token rate) := by
  have hlast : h.lastClosed (symbol, upper tf.token) = 0 := by
    rw [InboundFeedHandler.lastClosed, hfresh]
    rfl
  rw [InboundFeedHandler.dedupBar_snd]
  apply if_pos
  refine ⟨?_, ?_⟩
  · rw [or_comm]
    exact MqlRates.positive_iff.mpr hp
  · show h.lastClosed (symbol, upper tf.token) < rate.time
    rw [hlast]
    exact hp.1

/-- The bars of the live path. -/
theorem livePath_eq_ok (hlib : env.time.Documented) (hr : rate.Closed tf)
    (hfresh : h.barState.get? (symbol, upper tf.token) = none) :
    env.livePath upper h instrument barType (sentBar symbol tf.token rate) now = .ok (some bar) ↔
      rate.Positive ∧ makeBar env.newBar instrument barType rate.candle (rate.time * 1000000000)
        (max now (rate.time * 1000000000)) false = .ok bar := by
  have hminute : (60 : ℤ) ∣ rate.time := by
    apply Dvd.dvd.trans _ hr.opens
    cases tf <;> decide
  constructor
  · intro hlive
    unfold livePath at hlive
    split at hlive
    · cases hlive
    · rename_i wire hwire
      have hsent : wire = sentBar symbol tf.token rate := by
        rw [InboundFeedHandler.dedupBar_snd] at hwire
        split_ifs at hwire
        exact (Option.some.inj hwire).symm
      subst hsent
      obtain ⟨hp, tsEvent, hts, hbar⟩ := wireBarToNautilusBar_eq_ok.mp hlive
      have hpos : rate.Positive := MqlRates.positive_iff.mp hp
      have hsecs : env.time.secsToNanos rate.time = .ok tsEvent := hts
      rw [hlib.secsToNanos rate.time hpos.1 hminute hr.past] at hsecs
      cases hsecs
      rw [candle_sentBar hr] at hbar
      exact ⟨hpos, hbar⟩
  · rintro ⟨hp, hbar⟩
    unfold livePath
    rw [dedupBar_fresh hfresh hp]
    apply wireBarToNautilusBar_eq_ok.mpr
    refine ⟨MqlRates.positive_iff.mpr hp, rate.time * 1000000000, ?_, ?_⟩
    · exact hlib.secsToNanos rate.time hp.1 hminute hr.past
    · rw [candle_sentBar hr]
      exact hbar

/-- The bars of the historical path. -/
theorem readRate_row_eq_ok (hi : env.instrument barType.instrumentId = some instrument) (hr : rate.Closed tf) :
    env.readRate barType symbol env.clock rate.row = .ok [bar] ↔
      rate.Positive ∧ ∃ tsEvent, env.time.convertMt5BarDateToUnixNanos rate.time barType.spec = .ok tsEvent ∧
        makeBar env.newBar instrument barType rate.candle tsEvent env.clock false = .ok bar := by
  rw [readRate_eq_ok hi]
  constructor
  · rintro ⟨data, tsEvent, hdata, hv, hts, hbar⟩
    rw [mqlRateRowToBarData_row] at hdata
    cases hdata
    rw [candle_data hr] at hbar
    exact ⟨MqlRates.valid_data.mp hv, tsEvent, hts, hbar⟩
  · rintro ⟨hp, tsEvent, hts, hbar⟩
    refine ⟨rate.data symbol, tsEvent, mqlRateRowToBarData_row symbol rate, MqlRates.valid_data.mpr hp, hts, ?_⟩
    rw [candle_data hr]
    exact hbar

/-- The time of a rate that is not by days. -/
theorem convert_of_ne_day (hlib : env.time.Documented) (htf : barSpecToWireTimeframe barType.spec = .ok tf)
    (hr : rate.Closed tf) (hne : tf ≠ .D1) (hp : rate.Positive) :
    env.time.convertMt5BarDateToUnixNanos rate.time barType.spec = .ok (rate.time * 1000000000) := by
  have hday : ¬ barType.spec.aggregation.number = 14 := by
    rw [BarAggregation.number_eq_day, (barSpecToWireTimeframe_eq_ok.mp htf).2]
    cases tf <;> simp [Timeframe.aggregation] at hne ⊢
  obtain ⟨ns, hns⟩ := hlib.fromtimestamp_past rate.time hp.1 hr.past
  rw [TimeLib.convertMt5BarDateToUnixNanos, if_neg hday, hns, hlib.fromtimestamp rate.time ns hns]

/-- A midnight is no date. -/
theorem convert_of_day (hlib : env.time.Documented) (htf : barSpecToWireTimeframe barType.spec = .ok .D1)
    (hr : rate.Closed .D1) (ts : ℤ) : env.time.convertMt5BarDateToUnixNanos rate.time barType.spec ≠ .ok ts := by
  have hday : barType.spec.aggregation.number = 14 := by
    rw [BarAggregation.number_eq_day, (barSpecToWireTimeframe_eq_ok.mp htf).2]
    rfl
  rw [TimeLib.convertMt5BarDateToUnixNanos, if_pos hday]
  intro hts
  have hdvd : (100 : ℤ) ∣ rate.time := Dvd.dvd.trans (by decide) hr.opens
  exact not_spellsDate hdvd (hlib.toDatetime _ _ hts)

/-- The live path takes a bar that is positive and that the constructor takes. -/
theorem exists_livePath (hlib : env.time.Documented) (hr : rate.Closed tf)
    (hfresh : h.barState.get? (symbol, upper tf.token) = none) :
    (∃ b, env.livePath upper h instrument barType (sentBar symbol tf.token rate) now = .ok (some b)) ↔
      rate.Positive ∧ instrument.Takes env.newBar rate.candle := by
  simp only [livePath_eq_ok hlib hr hfresh, exists_and_left, exists_makeBar]

/-- Bars that are not by days agree. -/
theorem pathsAgree_of_ne_day (hlib : env.time.Documented) (hi : env.instrument barType.instrumentId = some instrument)
    (htf : barSpecToWireTimeframe barType.spec = .ok tf) (hr : rate.Closed tf)
    (hfresh : h.barState.get? (symbol, upper tf.token) = none) (hd : tf ≠ .D1) :
    PathsAgree (env.livePath upper h instrument barType (sentBar symbol tf.token rate) now)
        (env.readRate barType symbol env.clock rate.row) := by
  constructor
  · rw [exists_livePath hlib hr hfresh]
    constructor
    · rintro ⟨hp, htakes⟩
      obtain ⟨b, hb⟩ := exists_makeBar.mpr htakes
      exact ⟨b, (readRate_row_eq_ok hi hr).mpr ⟨hp, _, convert_of_ne_day hlib htf hr hd hp, hb⟩⟩
    · rintro ⟨b, hb⟩
      obtain ⟨hp, ts, -, hbar⟩ := (readRate_row_eq_ok hi hr).mp hb
      exact ⟨hp, exists_makeBar.mp ⟨b, hbar⟩⟩
  · intro b b' hb hb'
    obtain ⟨hp, hbar⟩ := (livePath_eq_ok hlib hr hfresh).mp hb
    obtain ⟨-, ts, hts, hbar'⟩ := (readRate_row_eq_ok hi hr).mp hb'
    rw [convert_of_ne_day hlib htf hr hd hp] at hts
    cases hts
    -- the two calls differ in `ts_init` only
    have hsame := makeBar_at hbar env.clock
    rw [hbar'] at hsame
    rw [Except.ok.inj hsame]
    exact ⟨rfl, rfl, rfl, rfl, rfl, rfl⟩

/-- A bar by days agrees when the live path refuses it, as the historical one always does. -/
theorem pathsAgree_day_iff (hlib : env.time.Documented) (hi : env.instrument barType.instrumentId = some instrument)
    (htf : barSpecToWireTimeframe barType.spec = .ok .D1) (hr : rate.Closed .D1)
    (hfresh : h.barState.get? (symbol, upper Timeframe.D1.token) = none) :
    PathsAgree (env.livePath upper h instrument barType (sentBar symbol Timeframe.D1.token rate) now)
        (env.readRate barType symbol env.clock rate.row) ↔
      ¬ (rate.Positive ∧ instrument.Takes env.newBar rate.candle) := by
  have hhist : ∀ b, env.readRate barType symbol env.clock rate.row ≠ .ok [b] := by
    intro b hb
    obtain ⟨-, ts, hts, -⟩ := (readRate_row_eq_ok hi hr).mp hb
    exact convert_of_day hlib htf hr ts hts
  have hlive :
      (∃ b, env.livePath upper h instrument barType (sentBar symbol Timeframe.D1.token rate) now = .ok (some b)) ↔
      rate.Positive ∧ instrument.Takes env.newBar rate.candle := exists_livePath hlib hr hfresh
  constructor
  · intro hagree htakes
    obtain ⟨b, hb⟩ := hagree.accept.mp (hlive.mpr htakes)
    exact hhist b hb
  · intro hrefuse
    refine ⟨⟨fun hacc => absurd (hlive.mp hacc) hrefuse, ?_⟩, ?_⟩
    · rintro ⟨b, hb⟩
      exact absurd hb (hhist b)
    · intro b b' _ hb'
      exact absurd hb' (hhist b')

/-- **Live and historical bars agree** but for the bars by days that the live path takes. -/
theorem bars_agree_iff (hlib : env.time.Documented) (hi : env.instrument barType.instrumentId = some instrument)
    (htf : barSpecToWireTimeframe barType.spec = .ok tf) (hr : rate.Closed tf)
    (hfresh : h.barState.get? (symbol, upper tf.token) = none) :
    PathsAgree (env.livePath upper h instrument barType (sentBar symbol tf.token rate) now)
        (env.readRate barType symbol env.clock rate.row) ↔
      tf ≠ .D1 ∨ rate.time ≤ 0 ∨ rate.close ≤ 0 ∨ ¬ instrument.Takes env.newBar rate.candle := by
  have hcond : (rate.time ≤ 0 ∨ rate.close ≤ 0 ∨ ¬ instrument.Takes env.newBar rate.candle) ↔
      ¬ (rate.Positive ∧ instrument.Takes env.newBar rate.candle) := by
    rw [MqlRates.Positive, not_and_or, not_and_or, not_lt, not_lt, or_assoc]
  rw [hcond]
  by_cases hd : tf = .D1
  · subst hd
    rw [pathsAgree_day_iff hlib hi htf hr hfresh]
    exact (or_iff_right fun hne => hne rfl).symm
  · exact iff_of_true (pathsAgree_of_ne_day hlib hi htf hr hfresh hd) (.inl hd)

/-! ## Rates of EURUSD -/

/-- A rate at the start of 2024. -/
def newYearRate : MqlRates := ⟨1704067200, 11 / 10, 12 / 10, 1, 11 / 10, 5, 0, 7⟩

theorem newYearRate_closed (tf : Timeframe) : newYearRate.Closed tf where
  opens := by cases tf <;> decide
  past := by decide
  tickVolume := by decide
  realVolume := by decide

theorem newYearRate_positive : newYearRate.Positive := by
  constructor <;> norm_num [newYearRate]

theorem newYearRate_taken : eurusd.Takes (eurusdBars []).newBar newYearRate.candle :=
  ⟨_, _, _, _, _, rfl, rfl, rfl, rfl, rfl, rfl⟩

/-- A minute of 2024 is the same bar on both paths. -/
theorem newYearMinute_agrees :
    PathsAgree
      ((eurusdBars []).livePath .ascii {} eurusd (eurusdBarType 1 .minute)
        (sentBar "EURUSD" (Timeframe.token .M1) newYearRate) 0)
      ((eurusdBars []).readRate (eurusdBarType 1 .minute) "EURUSD" (eurusdBars []).clock newYearRate.row) :=
  (bars_agree_iff secondsLib_documented rfl rfl (newYearRate_closed .M1) rfl).mpr (.inl (by decide))

/-- A day of 2024 is a bar of the feed, but the request for it raises. -/
theorem newYearDay_refused :
    secondsLib.Documented ∧ newYearRate.Closed .D1 ∧
    ¬ PathsAgree
      ((eurusdBars []).livePath .ascii {} eurusd (eurusdBarType 1 .day)
        (sentBar "EURUSD" (Timeframe.token .D1) newYearRate) 0)
      ((eurusdBars []).readRate (eurusdBarType 1 .day) "EURUSD" (eurusdBars []).clock newYearRate.row) := by
  refine ⟨secondsLib_documented, newYearRate_closed .D1, fun hagree => ?_⟩
  obtain ⟨b, hb⟩ := exists_makeBar.mpr newYearRate_taken
  obtain ⟨b', hb'⟩ := hagree.accept.mp ⟨b, (livePath_eq_ok secondsLib_documented (newYearRate_closed .D1) rfl).mpr
    ⟨newYearRate_positive, hb⟩⟩
  obtain ⟨-, ts, hts, -⟩ := (readRate_row_eq_ok rfl (newYearRate_closed .D1)).mp hb'
  cases hts

end NautilusMt5
